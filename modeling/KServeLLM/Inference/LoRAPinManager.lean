import KServeLLM.Framework.MapContents

namespace KServeLLM.Inference

structure LoRAPin where
  sizeBytes : Int64
  pinCount : Int32
  lastUsed : Time
  deriving DecidableEq

structure LoRAPinManager where
  pinned : GoMap String LoRAPin
  (maxCapacity used : Int64)

def newLoRAPinManager (capacityMB : Int64) : LoRAPinManager := ⟨∅,capacityMB*1024*1024,0⟩

structure Eviction where
  before : LoRAPinManager
  adapterID : String

structure Room where
  manager : LoRAPinManager
  evicted : List Eviction
  fits : Bool

namespace LoRAPinManager

abbrev Entry : Type := Sigma fun _ : String => LoRAPin

def keepOldest (oldest : Option Entry) (entry : Entry) : Option Entry :=
  if 0 < entry.2.pinCount then oldest
  else
    match oldest with
    | none => some entry
    | some best => if entry.2.lastUsed.before best.2.lastUsed then some entry else some best

def oldestLoop (entries : List Entry) (oldest : Option Entry) : Option Entry :=
  entries.foldl keepOldest oldest

def evictOldest (l : LoRAPinManager) (order : RangeOrder Entry) : Option (String×LoRAPinManager) :=
  match oldestLoop (order.arrange l.pinned.entries) none with
  | none => none
  | some oldest =>
      some (oldest.1,{l with pinned := l.pinned.erase oldest.1,used := l.used-oldest.2.sizeBytes})

def makeRoom (sizeBytes : Int64) (orders : Nat → RangeOrder Entry) : Nat → LoRAPinManager → Room
  | 0,l => ⟨l,[],false⟩
  | fuel+1,l =>
      if l.maxCapacity < l.used+sizeBytes then
        match l.evictOldest (orders fuel) with
        | none => ⟨l,[],false⟩
        | some (adapterID,rest) =>
            let room := makeRoom sizeBytes orders fuel rest
            ⟨room.manager,⟨l,adapterID⟩::room.evicted,room.fits⟩
      else ⟨l,[],true⟩

structure Answer where
  error : Option Errorf
  evicted : List Eviction

def prefetch (l : LoRAPinManager) (adapterID : String) (sizeBytes : Int64)
    (orders : Nat → RangeOrder Entry) (now : Time) : LoRAPinManager×Answer :=
  match l.pinned.lookup adapterID with
  | some _ => (l,⟨none,[]⟩)
  | none =>
    let room := makeRoom sizeBytes orders (l.pinned.entries.length+1) l
    if room.fits then
      ({room.manager with
        pinned := room.manager.pinned.insert adapterID ⟨sizeBytes,0,now⟩
        used := room.manager.used+sizeBytes},⟨none,room.evicted⟩)
    else (room.manager,⟨some ⟨"insufficient pinned memory capacity",[]⟩,room.evicted⟩)

def lockAdapter (l : LoRAPinManager) (adapterID : String) (now : Time) : LoRAPinManager×Answer :=
  match l.pinned.lookup adapterID with
  | none => (l,⟨some ⟨"adapter %s not pre-pinned (cache miss)",[.str adapterID]⟩,[]⟩)
  | some pin =>
      let locked := {pin with pinCount := pin.pinCount+1,lastUsed := now}
      ({l with pinned := l.pinned.insert adapterID locked},⟨none,[]⟩)

def unlockAdapter (l : LoRAPinManager) (adapterID : String) : LoRAPinManager :=
  match l.pinned.lookup adapterID with
  | none => l
  | some pin =>
      if 0 < pin.pinCount then
        {l with pinned := l.pinned.insert adapterID {pin with pinCount := pin.pinCount-1}}
      else l

variable {seed : Option Entry} {entry oldest : Entry}

theorem keepOldest_origin (kept : keepOldest seed entry=some oldest) :
    seed=some oldest ∨ oldest=entry ∧ ¬0<entry.2.pinCount := by
  unfold keepOldest at kept
  split at kept
  · exact Or.inl kept
  · next free =>
    cases seed with
    | none => exact Or.inr ⟨(Option.some.inj kept).symm,free⟩
    | some best =>
      dsimp only at kept
      split at kept
      · exact Or.inr ⟨(Option.some.inj kept).symm,free⟩
      · exact Or.inl kept

theorem keepOldest_seed {best : Entry} : ∃oldest,keepOldest (some best) entry=some oldest ∧
      oldest.2.lastUsed ≤ best.2.lastUsed := by
  unfold keepOldest
  split
  · exact ⟨best,rfl,Int.le_refl _⟩
  · dsimp only
    split
    · next younger => exact ⟨entry,rfl,Int.le_of_lt (of_decide_eq_true younger)⟩
    · exact ⟨best,rfl,Int.le_refl _⟩

theorem keepOldest_entry {seed : Option Entry} (free : ¬0<entry.2.pinCount) :
    ∃oldest,keepOldest seed entry=some oldest ∧ oldest.2.lastUsed ≤ entry.2.lastUsed := by
  unfold keepOldest
  rw [if_neg free]
  cases seed with
  | none => exact ⟨entry,rfl,Int.le_refl _⟩
  | some best =>
    dsimp only
    split
    · exact ⟨entry,rfl,Int.le_refl _⟩
    · next older =>
      have notBefore : ¬entry.2.lastUsed<best.2.lastUsed := fun lt => older (decide_eq_true lt)
      exact ⟨best,rfl,Int.not_lt.mp notBefore⟩

variable {entries : List Entry}

theorem oldestLoop_some (found : oldestLoop entries seed=some oldest) :
    (seed=some oldest ∨ oldest∈entries ∧ ¬0<oldest.2.pinCount) ∧
      (∀best,seed=some best → oldest.2.lastUsed ≤ best.2.lastUsed) ∧
      ∀entry∈entries,¬0<entry.2.pinCount → oldest.2.lastUsed ≤ entry.2.lastUsed := by
  induction entries generalizing seed with
  | nil =>
    refine ⟨Or.inl found,fun best same => ?_,fun entry mem => absurd mem List.not_mem_nil⟩
    obtain rfl := Option.some.inj (same.symm.trans found)
    exact Int.le_refl _
  | cons entry rest ih =>
    obtain ⟨origin,below,least⟩ := ih found
    refine ⟨?_,?_,?_⟩
    · rcases origin with kept | ⟨mem,free⟩
      · rcases keepOldest_origin kept with same | ⟨rfl,free⟩
        · exact Or.inl same
        · exact Or.inr ⟨List.mem_cons_self,free⟩
      · exact Or.inr ⟨List.mem_cons_of_mem entry mem,free⟩
    · rintro best rfl
      obtain ⟨next,kept,le⟩ := keepOldest_seed
      exact Int.le_trans (below next kept) le
    · intro other mem free
      rcases List.mem_cons.mp mem with rfl | mem
      · obtain ⟨next,kept,le⟩ := keepOldest_entry free
        exact Int.le_trans (below next kept) le
      · exact least other mem free

theorem oldestLoop_none (found : oldestLoop entries seed=none) :
    seed=none ∧ ∀entry∈entries,0 < entry.2.pinCount := by
  induction entries generalizing seed with
  | nil => exact ⟨found,fun entry mem => absurd mem List.not_mem_nil⟩
  | cons entry rest ih =>
    obtain ⟨skipped,all⟩ := ih found
    have locked : 0 < entry.2.pinCount := by
      by_contra free
      obtain ⟨_,kept,-⟩ := keepOldest_entry free
      rw [kept] at skipped
      cases skipped
    refine ⟨?_,fun other mem => ?_⟩
    · unfold keepOldest at skipped
      rwa [if_pos locked] at skipped
    · rcases List.mem_cons.mp mem with rfl | mem
      · exact locked
      · exact all other mem

variable {order : RangeOrder Entry} {l : LoRAPinManager}

theorem mem_arrange :
    entry∈order.arrange l.pinned.entries ↔ l.pinned.lookup entry.1=some entry.2 := by
  rw [(order.perm _).mem_iff]
  exact AList.mem_lookup_iff.symm

def OldestUnlocked (l : LoRAPinManager) (adapterID : String) : Prop :=
  ∃pin,l.pinned.lookup adapterID=some pin ∧ ¬0<pin.pinCount ∧
    ∀other otherPin,l.pinned.lookup other=some otherPin → ¬0<otherPin.pinCount →
      pin.lastUsed ≤ otherPin.lastUsed

variable {adapterID : String} {rest : LoRAPinManager}

theorem evictOldest_found (evicted : l.evictOldest order=some (adapterID,rest)) :
    ∃pin,oldestLoop (order.arrange l.pinned.entries) none=some ⟨adapterID,pin⟩ ∧
      l.pinned.lookup adapterID=some pin ∧
      rest={l with pinned := l.pinned.erase adapterID,used := l.used-pin.sizeBytes} := by
  unfold evictOldest at evicted
  cases found : oldestLoop (order.arrange l.pinned.entries) none with
  | none =>
    rw [found] at evicted
    cases evicted
  | some oldest =>
    rw [found] at evicted
    cases evicted
    obtain ⟨mem,-⟩ := (oldestLoop_some found).1.resolve_left (fun none_some => (by cases none_some))
    exact ⟨oldest.2,rfl,mem_arrange.mp mem,rfl⟩

theorem evictOldest_some (evicted : l.evictOldest order=some (adapterID,rest)) :
    l.OldestUnlocked adapterID ∧ rest.pinned=l.pinned.erase adapterID := by
  obtain ⟨pin,found,pinned,rfl⟩ := evictOldest_found evicted
  obtain ⟨origin,-,least⟩ := oldestLoop_some found
  obtain ⟨-,free⟩ := origin.resolve_left (fun none_some => (by cases none_some))
  refine ⟨⟨pin,pinned,free,fun other otherPin otherPinned unlocked => ?_⟩,rfl⟩
  exact least ⟨other,otherPin⟩ (mem_arrange.mpr otherPinned) unlocked

theorem evictOldest_none (stuck : l.evictOldest order=none) {pin : LoRAPin}
    (pinned : l.pinned.lookup adapterID=some pin) : 0 < pin.pinCount := by
  unfold evictOldest at stuck
  cases found : oldestLoop (order.arrange l.pinned.entries) none with
  | none => exact (oldestLoop_none found).2 ⟨adapterID,pin⟩ (mem_arrange.mpr pinned)
  | some oldest =>
    rw [found] at stuck
    cases stuck

structure Evicts (l : LoRAPinManager) (room : Room) : Prop where
  within : ∀x pin,room.manager.pinned.lookup x=some pin → l.pinned.lookup x=some pin
  locked : ∀x pin,l.pinned.lookup x=some pin → 0 < pin.pinCount →
    room.manager.pinned.lookup x=some pin
  oldest : ∀e∈room.evicted,e.before.OldestUnlocked e.adapterID ∧
    ∀x pin,e.before.pinned.lookup x=some pin → l.pinned.lookup x=some pin

theorem evicts_nothing {l : LoRAPinManager} {fits : Bool} : Evicts l ⟨l,[],fits⟩ :=
  ⟨fun _ _ pinned => pinned,fun _ _ pinned _ => pinned,fun _ mem => absurd mem List.not_mem_nil⟩

theorem makeRoom_evicts (sizeBytes : Int64) (orders : Nat → RangeOrder Entry) (fuel : Nat)
    (l : LoRAPinManager) : Evicts l (makeRoom sizeBytes orders fuel l) := by
  induction fuel generalizing l with
  | zero => exact evicts_nothing
  | succ fuel ih =>
    rw [makeRoom]
    split
    · cases evicted : l.evictOldest (orders fuel) with
      | none => exact evicts_nothing
      | some result =>
        obtain ⟨adapterID,rest⟩ := result
        obtain ⟨oldest,left⟩ := evictOldest_some evicted
        obtain ⟨within,locked,later⟩ := ih rest
        have fewer x pin (pinned : rest.pinned.lookup x=some pin) : l.pinned.lookup x=some pin := by
          rw [left] at pinned
          by_cases same : x=adapterID
          · subst same
            rw [AList.lookup_erase] at pinned
            cases pinned
          · rwa [AList.lookup_erase_ne same] at pinned
        refine ⟨fun x pin pinned => fewer x pin (within x pin pinned),?_,?_⟩
        · intro x pin pinned held
          apply locked x pin _ held
          have other : x≠adapterID := by
            rintro rfl
            obtain ⟨_,same,free,-⟩ := oldest
            obtain rfl := Option.some.inj (same.symm.trans pinned)
            exact free held
          rw [left,AList.lookup_erase_ne other]
          exact pinned
        · intro e mem
          rcases List.mem_cons.mp mem with rfl | mem
          · exact ⟨oldest,fun _ _ pinned => pinned⟩
          · obtain ⟨least,from_rest⟩ := later e mem
            exact ⟨least,fun x pin pinned => fewer x pin (from_rest x pin pinned)⟩
    · exact evicts_nothing

theorem makeRoom_ends (sizeBytes : Int64) (orders : Nat → RangeOrder Entry) {fuel : Nat}
    (l : LoRAPinManager) (enough : l.pinned.entries.length<fuel) :
    let room := makeRoom sizeBytes orders fuel l
    if room.fits then ¬room.manager.maxCapacity<room.manager.used+sizeBytes
    else ∀x pin,room.manager.pinned.lookup x=some pin → 0 < pin.pinCount := by
  induction fuel generalizing l with
  | zero => cases enough
  | succ fuel ih =>
    rw [makeRoom]
    split
    · cases evicted : l.evictOldest (orders fuel) with
      | none => exact fun x pin pinned => evictOldest_none evicted pinned
      | some result =>
        obtain ⟨_,rest⟩ := result
        obtain ⟨⟨_,pinned,-⟩,left⟩ := evictOldest_some evicted
        have fewer := (entries_perm_of_lookup pinned).length_eq
        rw [List.length_cons,← left] at fewer
        exact ih rest (by omega)
    · next roomy => exact roomy

structure Prefetched (l : LoRAPinManager) (result : LoRAPinManager×Answer) : Prop where
  origin : ∀x pin,result.1.pinned.lookup x=some pin →
    l.pinned.lookup x=some pin ∨ l.pinned.lookup x=none ∧ pin.pinCount=0
  locked : ∀x pin,l.pinned.lookup x=some pin → 0 < pin.pinCount → result.1.pinned.lookup x=some pin
  oldest : ∀e∈result.2.evicted,e.before.OldestUnlocked e.adapterID ∧
    ∀x pin,e.before.pinned.lookup x=some pin → l.pinned.lookup x=some pin

theorem prefetch_spec (l : LoRAPinManager) (adapterID : String) (sizeBytes : Int64)
    (orders : Nat → RangeOrder Entry) (now : Time) :
    Prefetched l (l.prefetch adapterID sizeBytes orders now) := by
  unfold prefetch
  cases absent : l.pinned.lookup adapterID with
  | some pin =>
    exact ⟨fun _ _ pinned => Or.inl pinned,fun _ _ pinned _ => pinned,
      fun _ mem => absurd mem List.not_mem_nil⟩
  | none =>
    have evicts := makeRoom_evicts sizeBytes orders (l.pinned.entries.length+1) l
    dsimp only
    split
    · refine ⟨fun x pin pinned => ?_,fun x pin pinned held => ?_,evicts.oldest⟩
      · by_cases same : x=adapterID
        · subst same
          rw [AList.lookup_insert] at pinned
          obtain rfl := Option.some.inj pinned
          exact Or.inr ⟨absent,rfl⟩
        · rw [AList.lookup_insert_ne same] at pinned
          exact Or.inl (evicts.within x pin pinned)
      · have other : x≠adapterID := by
          rintro rfl
          rw [absent] at pinned
          cases pinned
        rw [AList.lookup_insert_ne other]
        exact evicts.locked x pin pinned held
    · exact ⟨fun x pin pinned => Or.inl (evicts.within x pin pinned),evicts.locked,evicts.oldest⟩

end LoRAPinManager

end KServeLLM.Inference
