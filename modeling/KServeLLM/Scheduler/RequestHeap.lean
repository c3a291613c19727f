import KServeLLM.Framework.GoTypes
import KServeLLM.Framework.BinaryHeap

namespace KServeLLM.Scheduler

abbrev Ref := Nat

structure QueuedRequest (F : Type) where
  (id tenantID : String)
  (priority promptTokens maxOutputTokens predictedTokens cacheHitTokens : Int64)
  cacheLocality : F
  (arrival deadline : Time)
  estimatedLatency : Duration
  calculatedScore : F
  heapIndex : Int

variable {F : Type}

namespace QueuedRequest

def effectiveCost (r : QueuedRequest F) : Int64 :=
  if 0 < r.predictedTokens then r.predictedTokens
  else
    let difference := r.promptTokens-r.cacheHitTokens
    let uncachedPrompt := if difference<0 then 0 else difference
    let total := uncachedPrompt+r.maxOutputTokens
    if total≤0 then 1 else total

theorem effectiveCost_pos (r : QueuedRequest F) : 1 ≤ r.effectiveCost.toInt := by
  have pos (x : Int64) (h : 0 < x) : 1 ≤ x.toInt := by
    rw [Int64.lt_iff_toInt_lt] at h
    exact h
  unfold effectiveCost
  simp only
  generalize (if r.promptTokens-r.cacheHitTokens<0 then 0
    else r.promptTokens-r.cacheHitTokens)+r.maxOutputTokens=total
  split_ifs with hp ht
  · exact pos _ hp
  · decide
  · exact pos _ (Int64.not_le.mp ht)

def localityScore [Float64 F] (r : QueuedRequest F) : F :=
  if Float64.lt 0.0 r.cacheLocality then Float64.min r.cacheLocality 1.0
  else if r.promptTokens≤0 then 0.0
  else Float64.min (Float64.ofInt r.cacheHitTokens.toInt/Float64.ofInt r.promptTokens.toInt) 1.0

def expired (r : QueuedRequest F) (now : Time) : Bool := !r.deadline.isZero && now.after r.deadline

def core (r : QueuedRequest F) : QueuedRequest F := {r with heapIndex := 0}

end QueuedRequest

structure RequestHeap (F : Type) where
  slots : List Ref
  objects : Ref → QueuedRequest F
  allocated : Ref

namespace RequestHeap

def requests (h : RequestHeap F) : List (QueuedRequest F) := h.slots.map h.objects

def setIndex (h : RequestHeap F) (r : Ref) (i : Int) : RequestHeap F :=
  {h with objects := Function.update h.objects r {h.objects r with heapIndex := i}}

def less [Float64 F] (h : RequestHeap F) (i j : Nat) : Bool :=
  match h.slots[i]?,h.slots[j]? with
  | some a,some b => Float64.lt (h.objects b).calculatedScore (h.objects a).calculatedScore
  | _,_ => false

def swap (h : RequestHeap F) (i j : Nat) : RequestHeap F :=
  match h.slots[i]?,h.slots[j]? with
  | some a,some b =>
      (({h with slots := (h.slots.set i b).set j a}).setIndex b i).setIndex a j
  | _,_ => h

def push (h : RequestHeap F) (r : Ref) : RequestHeap F :=
  ({h with slots := h.slots++[r]}).setIndex r h.slots.length

def pop (h : RequestHeap F) : Option (Ref×RequestHeap F) :=
  match h.slots.getLast? with
  | none => none
  | some r => some (r,({h with slots := h.slots.dropLast}).setIndex r (-1))

def heap [Float64 F] : HeapInterface (RequestHeap F) Ref where
  len := fun h => h.slots.length
  less := less
  swap := swap
  push := push
  pop := pop

structure Indexed (h : RequestHeap F) : Prop where
  nodup : h.slots.Nodup
  index : ∀(i : Nat) r,h.slots[i]?=some r → (h.objects r).heapIndex=i

structure SameObjects (h h' : RequestHeap F) : Prop where
  core : ∀r,(h'.objects r).core=(h.objects r).core
  allocated : h'.allocated=h.allocated

theorem SameObjects.refl {h : RequestHeap F} : SameObjects h h := ⟨fun _ => rfl,rfl⟩

theorem SameObjects.trans {a b c : RequestHeap F} (hab : SameObjects a b)
    (hbc : SameObjects b c) : SameObjects a c :=
  ⟨fun r => (hbc.core r).trans (hab.core r),hbc.allocated.trans hab.allocated⟩

theorem setIndex_same {h : RequestHeap F} (r : Ref) (i : Int) : SameObjects h (h.setIndex r i) := by
  refine ⟨fun q => ?_,rfl⟩
  by_cases hq : q=r
  · subst q
    simp [setIndex,QueuedRequest.core]
  · simp [setIndex,hq]

theorem setIndex_heapIndex (h : RequestHeap F) (r q : Ref) (i : Int) :
    ((h.setIndex r i).objects q).heapIndex=if q=r then i else (h.objects q).heapIndex := by
  by_cases hq : q=r
  · subst q
    simp [setIndex]
  · simp [setIndex,hq]

theorem swap_same {h : RequestHeap F} {i j : Nat} : SameObjects h (h.swap i j) := by
  unfold swap
  split
  · next a b _ _ =>
    let moved : RequestHeap F := {h with slots := (h.slots.set i b).set j a}
    have start : SameObjects h moved := ⟨fun _ => rfl,rfl⟩
    exact (start.trans (setIndex_same b i)).trans (setIndex_same a j)
  · exact SameObjects.refl

theorem swap_slots {h : RequestHeap F} {i j : Nat} (hi : i < h.slots.length)
    (hj : j < h.slots.length) :
    (h.swap i j).slots=(h.slots.set i h.slots[j]).set j h.slots[i] := by
  simp [swap,hi,hj,setIndex]

theorem swap_indexed {h : RequestHeap F} {i j : Nat} (hi : i < h.slots.length)
    (hj : j < h.slots.length) (hx : h.Indexed) : (h.swap i j).Indexed := by
  have perm := List.set_set_perm hi hj
  constructor
  · rw [swap_slots hi hj]
    exact perm.nodup_iff.mpr hx.nodup
  · intro k r hk
    rw [swap_slots hi hj] at hk
    have inj {a b : Nat} ha (hb : b < h.slots.length)
        (he : h.slots[a]=h.slots[b]) : a=b := (hx.nodup.getElem_inj_iff).mp he
    have old := hx.index k r
    simp only [swap,List.getElem?_eq_getElem hi,List.getElem?_eq_getElem hj,
      setIndex_heapIndex]
    grind

theorem swap_perm {h : RequestHeap F} {i j : Nat} (hi : i < h.slots.length)
    (hj : j < h.slots.length) : (h.swap i j).slots.Perm h.slots := by
  rw [swap_slots]
  exact List.set_set_perm hi hj

structure Sifted (h h' : RequestHeap F) : Prop where
  indexed : h'.Indexed
  perm : h'.slots.Perm h.slots
  same : SameObjects h h'

variable {h : RequestHeap F}

theorem Sifted.refl (hx : h.Indexed) : Sifted h h := ⟨hx,List.Perm.refl _,SameObjects.refl⟩

theorem Sifted.swap {h' : RequestHeap F} (s : Sifted h h') (i j : Nat)
    (hi : i < h.slots.length) (hj : j < h.slots.length) : Sifted h (h'.swap i j) := by
  have hl := s.perm.length_eq
  exact ⟨swap_indexed (by omega) (by omega) s.indexed,
    (swap_perm (by omega) (by omega)).trans s.perm,s.same.trans (swap_same)⟩

variable {r : Ref}

theorem push_indexed {h : RequestHeap F} (hx : h.Indexed) (hr : r∉h.slots) :
    (h.push r).Indexed := by
  constructor
  · simpa [push,setIndex,List.nodup_append] using ⟨hx.nodup,fun a ha he => hr (he ▸ ha)⟩
  · intro k q hk
    have old := hx.index k q
    simp only [push,setIndex_heapIndex]
    simp only [push,setIndex] at hk
    grind

theorem push_same {h : RequestHeap F} : SameObjects h (h.push r) := by
  let longer : RequestHeap F := {h with slots := h.slots++[r]}
  have start : SameObjects h longer := ⟨fun _ => rfl,rfl⟩
  exact start.trans (setIndex_same r _)

theorem heapPush_spec [Float64 F] {h : RequestHeap F} (hx : h.Indexed) (hr : r∉h.slots) :
    (heap.heapPush h r).Indexed ∧ (heap.heapPush h r).slots.Perm (r::h.slots) ∧
      SameObjects h (heap.heapPush h r) := by
  have sifted : Sifted (h.push r) (heap.heapPush h r) := by
    apply heap.up_preserves _ _
    · intro g i j hi hj s
      exact s.swap i j hi hj
    · simp [heap,push,setIndex]
    · exact Sifted.refl (push_indexed hx hr)
  refine ⟨sifted.indexed,sifted.perm.trans ?_,(push_same).trans sifted.same⟩
  exact List.perm_append_singleton r _

variable {n : Nat}

theorem pop_spec {h : RequestHeap F} (hx : h.Indexed)
    (hn : h.slots.length=n+1) (hr : h.slots[n]?=some r) :
    ∃h',h.pop=some (r,h') ∧ h'.Indexed ∧ h.slots.Perm (r::h'.slots) ∧ SameObjects h h' := by
  have last : h.slots.getLast?=some r := by
    rw [List.getLast?_eq_getElem?,hn]
    exact hr
  have split : h.slots.dropLast++[r]=h.slots := List.dropLast_append_getLast? r last
  let cut : RequestHeap F := {h with slots := h.slots.dropLast}
  have nodup : (h.slots.dropLast++[r]).Nodup := split.symm ▸ hx.nodup
  have fresh : r∉h.slots.dropLast := by
    intro hm
    exact (List.nodup_append.mp nodup).2.2 r hm r (by simp) rfl
  refine ⟨cut.setIndex r (-1),by simp [pop,last,cut],⟨?_,?_⟩,?_,?_⟩
  · exact (List.nodup_append.mp nodup).1
  · intro k q hk
    have hq : q≠r := by
      intro he
      exact fresh (he ▸ List.mem_of_getElem? hk)
    have hk' : h.slots[k]?=some q := by
      rw [← split]
      exact List.getElem?_append_left (List.getElem?_eq_some_iff.mp hk).1 ▸ hk
    rw [setIndex_heapIndex,if_neg hq]
    exact hx.index k q hk'
  · have perm : h.slots.Perm (r::h.slots.dropLast) := by
      conv_lhs => rw [← split]
      exact List.perm_append_singleton r _
    exact perm
  · have start : SameObjects h cut := ⟨fun _ => rfl,rfl⟩
    exact start.trans (setIndex_same r _)

theorem cut_spec {g : RequestHeap F} (hn : h.slots.length=n+1)
    (s : Sifted h g) (hr : g.slots[n]?=some r) :
    ∃h',g.pop=some (r,h') ∧ h'.Indexed ∧ h.slots.Perm (r::h'.slots) ∧ SameObjects h h' := by
  obtain ⟨h',hp,hi,hs,ho⟩ := pop_spec s.indexed (s.perm.length_eq.trans hn) hr
  exact ⟨h',hp,hi,s.perm.symm.trans hs,s.same.trans ho⟩

theorem swap_other {h : RequestHeap F} {i j k : Nat} (hi : i≠k) (hj : j≠k) :
    (h.swap i j).slots[k]?=h.slots[k]? := by
  unfold swap
  split
  · simp [setIndex,hi,hj]
  · rfl

theorem swap_last {h : RequestHeap F} {i j : Nat} (hr : h.slots[i]?=some r)
    (hj : j < h.slots.length) : (h.swap i j).slots[j]?=some r := by
  have hi := (List.getElem?_eq_some_iff.mp hr).1
  rw [swap_slots hi hj]
  simp [hj,(List.getElem?_eq_some_iff.mp hr).2]

theorem heapPop_spec [Float64 F] {h : RequestHeap F} (hx : h.Indexed) (hr : h.slots[0]?=some r) :
    ∃h',heap.heapPop h=some (r,h') ∧ h'.Indexed ∧ h.slots.Perm (r::h'.slots) ∧
      SameObjects h h' := by
  have pos : 0 < h.slots.length := (List.getElem?_eq_some_iff.mp hr).1
  obtain ⟨n,hn⟩ : ∃n,h.slots.length=n+1 := ⟨h.slots.length-1,by omega⟩
  have sifted : Sifted h (heap.down (h.swap 0 n) 0 n).1 ∧
      (heap.down (h.swap 0 n) 0 n).1.slots[n]?=some r := by
    apply heap.downFrom_preserves (fun g => Sifted h g ∧ g.slots[n]?=some r) n
    · intro g i j hi hj hg
      exact ⟨hg.1.swap i j (by omega) (by omega),(swap_other (by omega) (by omega)).trans hg.2⟩
    · exact ⟨(Sifted.refl hx).swap 0 n (by omega) (by omega),swap_last hr (by omega)⟩
  obtain ⟨h',hp,rest⟩ := cut_spec hn sifted.1 sifted.2
  refine ⟨h',?_,rest⟩
  simp only [HeapInterface.heapPop,heap,hn,Nat.add_one_ne_zero]
  exact hp

theorem heapRemove_spec [Float64 F] {h : RequestHeap F} {k : Nat} (hx : h.Indexed)
    (hr : h.slots[k]?=some r) :
    ∃h',heap.heapRemove h k=some (r,h') ∧ h'.Indexed ∧ h.slots.Perm (r::h'.slots) ∧
      SameObjects h h' := by
  have hk : k < h.slots.length := (List.getElem?_eq_some_iff.mp hr).1
  obtain ⟨n,hn⟩ : ∃n,h.slots.length=n+1 := ⟨h.slots.length-1,by omega⟩
  have range : ¬((k : Int)<0 ∨ (heap.len h : Int) ≤ k) := by
    simp only [heap]
    omega
  simp only [HeapInterface.heapRemove,if_neg range,Int.toNat_natCast]
  have hlen : heap.len h-1=n := by simp [heap,hn]
  rw [hlen]
  by_cases he : n=k
  · rw [if_pos he]
    exact cut_spec hn (Sifted.refl hx) (he ▸ hr)
  · rw [if_neg he]
    have sifted := heap.sift_preserves (fun g => Sifted h g ∧ g.slots[n]?=some r) n (by
        intro g i j hi hj hg
        exact ⟨hg.1.swap i j (by omega) (by omega),(swap_other (by omega) (by omega)).trans hg.2⟩)
      _ k (by omega)
      ⟨(Sifted.refl hx).swap k n (by omega) (by omega),swap_last hr (by omega)⟩
    exact cut_spec hn sifted.1 sifted.2

end RequestHeap

end KServeLLM.Scheduler
