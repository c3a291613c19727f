import KServeLLM.Inference.LoRALocks

namespace KServeLLM.Inference.LoRAPinManager

def pinnedBytes (l : LoRAPinManager) : Int :=
  (l.pinned.entries.map fun entry => entry.2.sizeBytes.toInt).sum

structure Accounted (_ : History) (l : LoRAPinManager) : Prop where
  nonneg : 0 ≤ l.used.toInt
  capped : l.used ≤ l.maxCapacity
  exact : l.used.toInt=l.pinnedBytes

def Pass (sizeBytes : Int64) (next l : LoRAPinManager) : Prop :=
  l.maxCapacity<l.used+sizeBytes ∧ ∃order adapterID,l.evictOldest order=some (adapterID,next)

structure Terminates : Prop where
  finite : ∀sizeBytes,WellFounded (Pass sizeBytes)
  ended : ∀sizeBytes orders (l : LoRAPinManager),
    let room := makeRoom sizeBytes orders (l.pinned.entries.length+1) l
    if room.fits then ¬room.manager.maxCapacity<room.manager.used+sizeBytes
    else ∀order,room.manager.evictOldest order=none

def SizeNonneg : Op → Prop
  | .prefetch _ sizeBytes _ _ => 0 ≤ sizeBytes.toInt
  | _ => True

def AddsUp (l : LoRAPinManager) : Op → Prop
  | .prefetch adapterID sizeBytes _ _ =>
      l.pinned.lookup adapterID=none → l.used.toInt+sizeBytes.toInt<2^63
  | _ => True

instance (l : LoRAPinManager) (op : Op) : Decidable (AddsUp l op) :=
  match op with
  | .prefetch adapterID sizeBytes _ _ => inferInstanceAs (Decidable
      (l.pinned.lookup adapterID=none → l.used.toInt+sizeBytes.toInt<2^63))
  | .lockAdapter _ _ => isTrue trivial
  | .unlockAdapter _ => isTrue trivial

variable {tr' : History} {pin' : LoRAPin}

section

variable {l : LoRAPinManager} {adapterID : String} {pin : LoRAPin}

theorem pinnedBytes_of_lookup (found : l.pinned.lookup adapterID=some pin) :
    l.pinnedBytes=pin.sizeBytes.toInt+
      ((l.pinned.erase adapterID).entries.map fun entry => entry.2.sizeBytes.toInt).sum := by
  have split := (entries_perm_of_lookup found).map fun entry => entry.2.sizeBytes.toInt
  exact split.sum_eq

theorem pinnedBytes_insert (pin : LoRAPin) (used : Int64) :
    pinnedBytes {l with pinned := l.pinned.insert adapterID pin,used := used}=pin.sizeBytes.toInt+
        ((l.pinned.erase adapterID).entries.map fun entry => entry.2.sizeBytes.toInt).sum := by
  rfl

theorem Accounted.rewritten {tr : History} (h : Accounted tr l)
    (found : l.pinned.lookup adapterID=some pin)
    (same : pin'.sizeBytes=pin.sizeBytes) :
    Accounted tr' {l with pinned := l.pinned.insert adapterID pin'} := by
  refine ⟨h.nonneg,h.capped,h.exact.trans ?_⟩
  rw [pinnedBytes_of_lookup found,pinnedBytes_insert,same]

end

variable {sizeBytes : Int64} {next : LoRAPinManager}

theorem pass_shrinks {l : LoRAPinManager} (pass : Pass sizeBytes next l) :
    next.pinned.entries.length<l.pinned.entries.length := by
  obtain ⟨-,_,_,evicted⟩ := pass
  obtain ⟨_,-,found,rfl⟩ := evictOldest_found evicted
  have one_less := (entries_perm_of_lookup found).length_eq
  exact one_less ▸ Nat.lt_succ_self _

theorem evictOldest_of_locked {l : LoRAPinManager}
    (locked : ∀x pin,l.pinned.lookup x=some pin → 0 < pin.pinCount) (order : RangeOrder Entry) :
    l.evictOldest order=none := by
  cases evicted : l.evictOldest order with
  | none => rfl
  | some result =>
    obtain ⟨pin,found,free,-⟩ := (evictOldest_some evicted).1
    exact absurd (locked _ pin found) free

theorem terminates : Terminates where
  finite sizeBytes :=
    Subrelation.wf pass_shrinks (measure fun l : LoRAPinManager => l.pinned.entries.length).wf
  ended sizeBytes orders l := by
    have ends := makeRoom_ends sizeBytes orders l (Nat.lt_succ_self _)
    intro room
    by_cases fits : room.fits
    · rw [if_pos fits] at ends ⊢
      exact ends
    · rw [if_neg fits] at ends ⊢
      exact evictOldest_of_locked ends

theorem makeRoom_keeps {P : LoRAPinManager → Prop}
    (keep : ∀l next,P l → Pass sizeBytes next l → P next) (orders : Nat → RangeOrder Entry)
    (fuel : Nat) {l : LoRAPinManager} (h : P l) : P (makeRoom sizeBytes orders fuel l).manager := by
  induction fuel generalizing l with
  | zero => exact h
  | succ fuel ih =>
    rw [makeRoom]
    split
    · next full =>
      cases evicted : l.evictOldest (orders fuel) with
      | none => exact h
      | some result => exact ih (keep l result.2 h ⟨full,orders fuel,result.1,evicted⟩)
    · exact h

def SizesNonneg (l : LoRAPinManager) : Prop :=
  ∀x pin,l.pinned.lookup x=some pin → 0 ≤ pin.sizeBytes.toInt

variable {orders : Nat → RangeOrder Entry} {now : Time}

section

variable {tr : History} {l : LoRAPinManager}

theorem SizesNonneg.insert (h : SizesNonneg l) {adapterID : String} {pin : LoRAPin}
    (nonneg : 0 ≤ pin.sizeBytes.toInt) (used : Int64) :
    SizesNonneg {l with pinned := l.pinned.insert adapterID pin,used := used} := by
  intro x found lookup
  by_cases same : x=adapterID
  · subst same
    obtain rfl : pin=found := by simpa using lookup
    exact nonneg
  · refine h x found ?_
    simpa [AList.lookup_insert_ne same] using lookup

theorem SizesNonneg.rewritten (h : SizesNonneg l) {adapterID : String} {pin : LoRAPin}
    (found : l.pinned.lookup adapterID=some pin) (same : pin'.sizeBytes=pin.sizeBytes) :
    SizesNonneg {l with pinned := l.pinned.insert adapterID pin'} :=
  h.insert (same ▸ h adapterID pin found) l.used

theorem SizesNonneg.erase (h : SizesNonneg l) (adapterID : String) (used : Int64) :
    SizesNonneg {l with pinned := l.pinned.erase adapterID,used := used} := by
  intro x found lookup
  by_cases same : x=adapterID
  · subst same
    simp at lookup
  · refine h x found ?_
    simpa [AList.lookup_erase_ne same] using lookup

theorem SizesNonneg.bytes (h : SizesNonneg l) : 0 ≤ l.pinnedBytes := by
  refine List.sum_nonneg fun bytes mem => ?_
  obtain ⟨entry,inside,rfl⟩ := List.mem_map.mp mem
  exact h entry.1 entry.2 (AList.mem_lookup_iff.mpr inside)

structure Falling (bound : Int) (capacity : Int64) (l : LoRAPinManager) : Prop where
  account : Accounted [] l
  sizes : SizesNonneg l
  below : l.used.toInt ≤ bound
  capacity : l.maxCapacity=capacity

theorem Falling.pass {bound : Int} {capacity sizeBytes : Int64}
    (h : Falling bound capacity l) (pass : Pass sizeBytes next l) :
    Falling bound capacity next := by
  obtain ⟨-,_,adapterID,evicted⟩ := pass
  obtain ⟨pin,-,found,rfl⟩ := evictOldest_found evicted
  have rest := h.sizes.erase adapterID (l.used-pin.sizeBytes)
  have nonneg := h.sizes adapterID pin found
  have exact := h.account.exact
  have low := rest.bytes
  have capped := Int64.le_iff_toInt_le.mp h.account.capped
  have below := h.below
  -- the pin's own bytes are part of the sum, so the subtraction does not wrap
  rw [pinnedBytes_of_lookup found] at exact
  unfold pinnedBytes at low
  dsimp only at low
  have less : pin.sizeBytes ≤ l.used := Int64.le_iff_toInt_le.mpr (by omega)
  have sub := int64_toInt_sub_of_le (Int64.le_iff_toInt_le.mpr nonneg) less
  refine ⟨⟨?_,Int64.le_iff_toInt_le.mpr ?_,?_⟩,rest,?_,h.capacity⟩
  · show 0 ≤ (l.used-pin.sizeBytes).toInt
    omega
  · show (l.used-pin.sizeBytes).toInt ≤ l.maxCapacity.toInt
    omega
  · rw [pinnedBytes]
    dsimp only
    omega
  · show (l.used-pin.sizeBytes).toInt ≤ bound
    omega

theorem prefetch_accounted (h : Accounted tr l) (sizes : SizesNonneg l) {adapterID : String}
    (nonneg : 0 ≤ sizeBytes.toInt) (adds : AddsUp l (.prefetch adapterID sizeBytes orders now)) :
    Accounted tr' (l.prefetch adapterID sizeBytes orders now).1 ∧
      SizesNonneg (l.prefetch adapterID sizeBytes orders now).1 := by
  unfold prefetch
  cases absent : l.pinned.lookup adapterID with
  | some pin => exact ⟨⟨h.nonneg,h.capped,h.exact⟩,sizes⟩
  | none =>
    have small := adds absent
    have start : Falling l.used.toInt l.maxCapacity l :=
      ⟨⟨h.nonneg,h.capped,h.exact⟩,sizes,Int.le_refl _,rfl⟩
    have loop := makeRoom_keeps (fun _ next h (pass : Pass sizeBytes next _) => h.pass pass) orders
      (l.pinned.entries.length+1) start
    have evicts := makeRoom_evicts sizeBytes orders (l.pinned.entries.length+1) l
    have ends := makeRoom_ends sizeBytes orders l (Nat.lt_succ_self _)
    generalize makeRoom sizeBytes orders (l.pinned.entries.length+1) l=room at loop evicts ends
    dsimp only at ends ⊢
    obtain ⟨account,left,_,-⟩ := loop
    split
    · next fits =>
      rw [if_pos fits] at ends
      have gone : room.manager.pinned.lookup adapterID=none := by
        cases found : room.manager.pinned.lookup adapterID with
        | none => rfl
        | some pin => exact absurd (evicts.within _ _ found) (by simp [absent])
      have sum := toInt_add_of_lt account.nonneg nonneg (by omega)
      have used := account.nonneg
      refine ⟨⟨?_,Int64.not_lt.mp ends,?_⟩,left.insert nonneg _⟩
      · show 0 ≤ (room.manager.used+sizeBytes).toInt
        omega
      · rw [pinnedBytes_insert,erase_of_lookup_none gone,sum,account.exact,Int.add_comm]
        rfl
    · exact ⟨⟨account.nonneg,account.capped,account.exact⟩,left⟩

theorem prefetch_overflows (h : Accounted tr l) {adapterID : String}
    (orders : Nat → RangeOrder Entry) (now : Time) (absent : l.pinned.lookup adapterID=none)
    (beyond : 2^63 ≤ l.used.toInt+sizeBytes.toInt) :
    (l.prefetch adapterID sizeBytes orders now).1.used.toInt<0 := by
  have wraps := toInt_add_wraps l.used sizeBytes beyond
  have fits : ¬l.maxCapacity<l.used+sizeBytes := by
    have nonneg := h.nonneg
    have capped := Int64.le_iff_toInt_le.mp h.capped
    rw [Int64.lt_iff_toInt_lt]
    omega
  have room : makeRoom sizeBytes orders (l.pinned.entries.length+1) l=⟨l,[],true⟩ := by
    rw [makeRoom,if_neg fits]
  unfold prefetch
  simp only [absent,room]
  exact wraps

variable {op : Op}

theorem step_accounted (h : Accounted tr l) (sizes : SizesNonneg l)
    (nonneg : SizeNonneg op) (adds : AddsUp l op) :
    Accounted tr' (step l op).1 ∧ SizesNonneg (step l op).1 := by
  cases op with
  | prefetch adapterID sizeBytes orders now =>
    exact prefetch_accounted h sizes nonneg adds
  | lockAdapter adapterID now =>
    show Accounted tr' (l.lockAdapter adapterID now).1 ∧ SizesNonneg (l.lockAdapter adapterID now).1
    unfold lockAdapter
    cases found : l.pinned.lookup adapterID with
    | none => exact ⟨⟨h.nonneg,h.capped,h.exact⟩,sizes⟩
    | some pin => exact ⟨h.rewritten found rfl,sizes.rewritten found rfl⟩
  | unlockAdapter adapterID =>
    show Accounted tr' (l.unlockAdapter adapterID) ∧ SizesNonneg (l.unlockAdapter adapterID)
    unfold unlockAdapter
    cases found : l.pinned.lookup adapterID with
    | none => exact ⟨⟨h.nonneg,h.capped,h.exact⟩,sizes⟩
    | some pin =>
      dsimp only
      split
      · exact ⟨h.rewritten found rfl,sizes.rewritten found rfl⟩
      · exact ⟨⟨h.nonneg,h.capped,h.exact⟩,sizes⟩

theorem addsUp_of_accounted (h : Accounted tr l)
    (after : Accounted tr' (step l op).1) : AddsUp l op := by
  cases op with
  | prefetch adapterID sizeBytes orders now =>
    intro absent
    by_contra beyond
    have negative := prefetch_overflows h orders now absent (Int.not_lt.mp beyond)
    have nonneg : 0 ≤ (l.prefetch adapterID sizeBytes orders now).1.used.toInt := after.nonneg
    omega
  | lockAdapter adapterID now => trivial
  | unlockAdapter adapterID => trivial

end

theorem newLoRAPinManager_accounted {capacityMB : Int64}
    (capacity : (capacityMB*1024*1024).toInt=capacityMB.toInt*1024*1024) :
    Accounted [] (newLoRAPinManager capacityMB) ↔ 0 ≤ capacityMB.toInt := by
  have cap : 0 ≤ capacityMB*1024*1024 ↔ 0 ≤ capacityMB.toInt := by
    rw [Int64.le_iff_toInt_le]
    show 0 ≤ _ ↔ _
    omega
  exact ⟨fun h => cap.mp h.capped,fun nonneg => ⟨Int.le_refl 0,cap.mpr nonneg,rfl⟩⟩

theorem accounted_iff (capacityMB : Int64) (ops : List Op)
    (capacity : (capacityMB*1024*1024).toInt=capacityMB.toInt*1024*1024)
    (sizes : ∀op∈ops,SizeNonneg op) :
    (Always step (newLoRAPinManager capacityMB) ops Accounted ↔ 0 ≤ capacityMB.toInt ∧
        EachCall step (newLoRAPinManager capacityMB) ops (fun _ l op => AddsUp l op)) ∧
    Terminates := by
  refine ⟨?_,terminates⟩
  have exact nonneg :=
    always_iff_eachCall_of step (fun _ => SizesNonneg) Accounted (fun _ _ op => SizeNonneg op)
      (fun _ _ found => by cases found)
      ((newLoRAPinManager_accounted capacity).mpr nonneg)
      (fun tr l op left good size adds => (step_accounted good left size adds).symm)
      (fun tr l op _ good _ after => addsUp_of_accounted good after)
      (fun pre op within => sizes op (within.subset (by simp)))
  constructor
  · intro always
    have nonneg := (newLoRAPinManager_accounted capacity).mp (always [] List.nil_prefix)
    exact ⟨nonneg,(exact nonneg).mp always⟩
  · rintro ⟨nonneg,adds⟩
    exact (exact nonneg).mpr adds

def listed : Nat → RangeOrder Entry := fun _ => .listed Entry

theorem megabyte_accounted : Always step (newLoRAPinManager 1)
      [.prefetch "a" 1048576 listed 1,.lockAdapter "a" 2,.unlockAdapter "a",
        .prefetch "b" 1 listed 3] Accounted := by
  have exact := accounted_iff 1 [.prefetch "a" 1048576 listed 1,.lockAdapter "a" 2,
    .unlockAdapter "a",.prefetch "b" 1 listed 3] (by decide) (by simp [SizeNonneg])
  exact exact.1.mpr ⟨by decide,by decide⟩

theorem largest_adapter_pinned :
    let l := run step (newLoRAPinManager 1)
      [.prefetch "a" 1 listed 1,.prefetch "b" 9223372036854775807 listed 2]
    l.used=-9223372036854775808 ∧ l.pinnedBytes=2^63 ∧ l.maxCapacity=1048576 ∧
    ¬Always step (newLoRAPinManager 1)
      [.prefetch "a" 1 listed 1,.prefetch "b" 9223372036854775807 listed 2] Accounted := by
  refine ⟨by decide,by decide,by decide,fun always => ?_⟩
  have nonneg := (always _ (List.prefix_refl _)).nonneg
  exact absurd nonneg (by decide)

structure Untouched (l l' : LoRAPinManager) : Prop where
  pins : ∀x,l'.pinned.lookup x=l.pinned.lookup x
  used : l'.used=l.used

theorem makeRoom_of_failed {l : LoRAPinManager} {adapterID : String}
    (failed : (l.prefetch adapterID sizeBytes orders now).2.error≠none) :
    let room := makeRoom sizeBytes orders (l.pinned.entries.length+1) l
    room.fits=false ∧ (l.prefetch adapterID sizeBytes orders now).1=room.manager := by
  intro room
  unfold prefetch at failed ⊢
  cases absent : l.pinned.lookup adapterID with
  | some pin => simp [absent] at failed
  | none =>
    simp only [absent] at failed ⊢
    cases fits : room.fits with
    | true => simp [room,fits] at failed
    | false => exact ⟨rfl,rfl⟩

theorem failed_prefetch_untouched_iff (l : LoRAPinManager) (adapterID : String)
    (sizeBytes : Int64) (orders : Nat → RangeOrder Entry) (now : Time)
    (failed : (l.prefetch adapterID sizeBytes orders now).2.error≠none) :
    Untouched l (l.prefetch adapterID sizeBytes orders now).1 ↔
      ∀x pin,l.pinned.lookup x=some pin → 0 < pin.pinCount := by
  obtain ⟨full,after⟩ := makeRoom_of_failed failed
  rw [after]
  constructor
  · intro same x pin found
    have ends := makeRoom_ends sizeBytes orders l (Nat.lt_succ_self _)
    rw [if_neg (by simp [full])] at ends
    exact ends x pin ((same.pins x).trans found)
  · intro locked
    have stays : (makeRoom sizeBytes orders (l.pinned.entries.length+1) l).manager=l := by
      rw [makeRoom,evictOldest_of_locked locked]
      split <;> rfl
    exact ⟨fun x => by rw [stays],by rw [stays]⟩

def inUse : LoRAPinManager :=
  run step (newLoRAPinManager 1) [.prefetch "a" 1048576 listed 1,.lockAdapter "a" 2]

theorem inUse_untouched : Untouched inUse (inUse.prefetch "b" 1 listed 3).1 := by
  refine (failed_prefetch_untouched_iff inUse "b" 1 listed 3 (by decide)).mpr ?_
  have locked : ∀entry∈inUse.pinned.entries,0 < entry.2.pinCount := by decide
  intro x pin found
  exact locked ⟨x,pin⟩ (AList.mem_lookup_iff.mp found)

theorem oversized_prefetch_evicts :
    let l := run step (newLoRAPinManager 1) [.prefetch "a" 1048576 listed 1]
    let result := l.prefetch "b" 2097152 listed 2
    result.2.error=some ⟨"insufficient pinned memory capacity",[]⟩ ∧
    (l.pinned.lookup "a").isSome ∧ l.used=1048576 ∧ result.1.pinned.lookup "a"=none ∧
    result.1.used=0 := by
  decide

end KServeLLM.Inference.LoRAPinManager
