import KServeLLM.Controller.CacheReconciler

namespace KServeLLM.Controller.Cache

variable {Selector : Type} (lib : Library Selector) (around : Surroundings) (view : View)
  (cache : LocalModelCache Selector)

/-- The Ready statuses with their places. -/
def readyEntries (statuses : List NodeCacheStatus) : List CacheEntry :=
  statuses.zipIdx.filterMap cacheEntry

def evicted (status : NodeCacheStatus) : NodeCacheStatus := {status with phase := "Pending"}

/-- The oldest entries are evicted, as few as the limit allows. -/
structure Evicted (limit : Int) (statuses final : List NodeCacheStatus) (gone : List CacheEntry) :
    Prop where
  ready : (gone++readyEntries final).Perm (readyEntries statuses)
  changed : ∀e∈gone,final[e.index]?=statuses[e.index]?.map evicted
  same : ∀i,i∉gone.map (·.index) → final[i]?=statuses[i]?
  oldest : ∀e∈gone,∀kept∈readyEntries final,e.last ≤ kept.last
  needed : ∀last∈gone.getLast?,limit < cacheEntriesSize (last::readyEntries final)

/-- An eviction fails and leaves the statuses as they are. -/
def Refused (final : List NodeCacheStatus) (t : Store) : Prop :=
  ∃e∈readyEntries final,∃ s err,evictCacheEntry lib around view cache final e s=(t,.error err)

section

variable {statuses : List NodeCacheStatus} {e : CacheEntry}

theorem cacheEntriesSize_perm {es es' : List CacheEntry} (perm : es.Perm es') :
    cacheEntriesSize es=cacheEntriesSize es' := (perm.map _).sum_eq

theorem index_of_entry {x : NodeCacheStatus×Nat} (made : cacheEntry x=some e) : e.index=x.2 := by
  unfold cacheEntry at made
  split_ifs at made
  rw [← Option.some.inj made]

theorem mem_readyEntries : e∈readyEntries statuses ↔
    ∃status,statuses[e.index]?=some status ∧ cacheEntry (status,e.index)=some e := by
  unfold readyEntries
  rw [List.mem_filterMap]
  constructor
  · rintro ⟨⟨status,i⟩,mem,made⟩
    obtain rfl : e.index=i := index_of_entry made
    exact ⟨status,List.mem_zipIdx_iff_getElem?.mp mem,made⟩
  · rintro ⟨status,found,made⟩
    exact ⟨(status,e.index),List.mem_zipIdx_iff_getElem?.mpr found,made⟩

theorem readyEntries_nodup : ((readyEntries statuses).map (·.index)).Nodup := by
  have places : (statuses.zipIdx.map Prod.snd).Nodup := by
    rw [List.zipIdx_map_snd]
    exact List.nodup_range'
  refine List.pairwise_map.mpr (List.pairwise_filterMap.mpr ?_)
  refine (List.pairwise_map.mp places).imp fun ne a first b second => ?_
  rw [index_of_entry first,index_of_entry second]
  exact ne

/-- The entry of an evicted status goes, and the others stay. -/
theorem readyEntries_set {status : NodeCacheStatus} (found : statuses[e.index]?=some status)
    (made : cacheEntry (status,e.index)=some e) :
    (e::readyEntries (statuses.set e.index (evicted status))).Perm (readyEntries statuses) := by
  obtain ⟨inside,same⟩ := List.getElem?_eq_some_iff.mp found
  have split : statuses=statuses.take e.index++status::statuses.drop (e.index+1) := by
    rw [← same,List.getElem_cons_drop,List.take_append_drop]
  have front : (statuses.take e.index).length=e.index := by simp [inside.le]
  have idle : cacheEntry (evicted status,e.index)=none := rfl
  generalize statuses.take e.index=before,statuses.drop (e.index+1)=after at split front
  subst split
  rw [List.set_append_right _ _ front.le,front,Nat.sub_self,List.set_cons_zero]
  simp only [readyEntries,List.zipIdx_append,List.zipIdx_cons,List.filterMap_append,front,
    Nat.zero_add,List.filterMap_cons,made,idle]
  exact List.perm_middle.symm

end

variable {limit : Int} {statuses : List NodeCacheStatus} {entries : List CacheEntry} {s : Store}

/-- What is left of the sorted entries is what is Ready. -/
theorem evictLoop_evicts {total : Int} {final : List NodeCacheStatus} {gone : List CacheEntry}
    (so : Evicted limit statuses final gone) (left : entries.Perm (readyEntries final))
    (sorted : (gone++entries).Pairwise fun a b => a.last ≤ b.last)
    (sum : total=cacheEntriesSize entries) (positive : 0 ≤ limit) :
    let done := evictLoop lib around view cache limit entries total final s
    ∃gone',Evicted limit statuses done.2 gone' ∧ (cacheEntriesSize (readyEntries done.2) ≤ limit ∨
        Refused lib around view cache done.2 done.1) := by
  induction entries generalizing total final gone s with
  | nil =>
    refine ⟨gone,so,.inl ?_⟩
    simp only [evictLoop]
    rw [← cacheEntriesSize_perm left]
    exact positive
  | cons e entries ih =>
    simp only [evictLoop]
    split_ifs with fits
    · exact ⟨gone,so,.inl (by rw [← cacheEntriesSize_perm left,← sum]; exact fits)⟩
    obtain ⟨status,found,made⟩ := mem_readyEntries.mp (left.subset List.mem_cons_self)
    have kept := readyEntries_set found made
    have rest : entries.Perm (readyEntries (final.set e.index (evicted status))) :=
      (left.trans kept.symm).cons_inv
    split
    · next t err refused =>
      exact ⟨gone,so,.inr ⟨e,left.subset List.mem_cons_self,s,err,refused⟩⟩
    · next t final' deleted =>
      -- the entries are set at the places of the statuses they were made from
      have written : final'=final.set e.index (evicted status) := by
        simp only [evictCacheEntry,found] at deleted
        split at deleted
        · cases deleted
        · split at deleted
          · cases deleted
          · exact (Except.ok.inj (congrArg Prod.snd deleted)).symm
      subst written
      have apart : e.index∉gone.map (·.index) := by
        have nodup := (so.ready.map (·.index)).nodup_iff.mpr readyEntries_nodup
        rw [List.map_append,List.nodup_append'] at nodup
        exact fun mem => nodup.2.2 mem (List.mem_map_of_mem (left.subset List.mem_cons_self))
      obtain ⟨inside,_⟩ := List.getElem?_eq_some_iff.mp found
      have order : (gone++[e]++entries).Pairwise fun a b => a.last ≤ b.last := by
        simpa using sorted
      suffices further : Evicted limit statuses (final.set e.index (evicted status)) (gone++[e])
        from ih further rest order (by rw [sum]; simp [cacheEntriesSize])
      refine ⟨?_,?_,?_,?_,?_⟩
      · rw [List.append_assoc]
        exact (kept.append_left gone).trans so.ready
      · intro x mem
        rcases List.mem_append.mp mem with old | new
        · have ne : e.index≠x.index := fun eq => apart (eq ▸ List.mem_map_of_mem old)
          rw [List.getElem?_set_ne ne]
          exact so.changed x old
        · rw [List.mem_singleton.mp new,List.getElem?_set_self inside,← so.same _ apart,found]
          rfl
      · intro i other
        simp only [List.map_append,List.map_singleton,List.mem_append,List.mem_singleton,
          not_or] at other
        rw [List.getElem?_set_ne (Ne.symm other.2)]
        exact so.same i other.1
      · intro x mem y still
        exact (List.pairwise_append.mp order).2.2 x mem y (rest.symm.subset still)
      · intro last eq
        obtain rfl : e=last := by simpa using eq
        rw [← cacheEntriesSize_perm (rest.cons e),← sum]
        omega

def crowded : List NodeCacheStatus :=
  [⟨"a","Ready","pa",none,2,some 5,"h"⟩,⟨"b","Ready","pb",none,2,none,"h"⟩]

def nowhere : Surroundings := ⟨[],fun _ _ => none⟩

def boundedCache (maxCacheSize : String) : LocalModelCache Unit :=
  {name := "c",spec := {sourceModelURI := "m",maxCacheSize}}

def evictCrowded (maxCacheSize : String) : Store×List NodeCacheStatus :=
  evictLRU sampleLibrary nowhere (View.smooth 0 false) (boundedCache maxCacheSize) crowded
    ⟨fun _ => none,[]⟩

def strictLibrary : Library Unit := {sampleLibrary with parseQuantity := fun _ => .ok 0}

end KServeLLM.Controller.Cache
