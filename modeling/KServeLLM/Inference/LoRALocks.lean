import KServeLLM.Framework.Execution
import KServeLLM.Inference.LoRAPinManager

namespace KServeLLM.Inference.LoRAPinManager

inductive Op where
  | prefetch (adapterID : String) (sizeBytes : Int64) (orders : Nat → RangeOrder Entry)
      (now : Time)
  | lockAdapter (adapterID : String) (now : Time)
  | unlockAdapter (adapterID : String)

def step (l : LoRAPinManager) : Op → LoRAPinManager×Answer
  | .prefetch adapterID sizeBytes orders now => l.prefetch adapterID sizeBytes orders now
  | .lockAdapter adapterID now => l.lockAdapter adapterID now
  | .unlockAdapter adapterID => (l.unlockAdapter adapterID,⟨none,[]⟩)

abbrev History : Type := List (Step LoRAPinManager Op Answer)

def change (adapterID : String) (st : Step LoRAPinManager Op Answer) : Int :=
  match st.call with
  | .prefetch _ _ _ _ => 0
  | .lockAdapter locked _ => if locked=adapterID ∧ st.answer.error=none then 1 else 0
  | .unlockAdapter unlocked => if unlocked=adapterID then -1 else 0

def held (tr : History) (adapterID : String) : Int := (tr.map (change adapterID)).sum

def pins (adapterID : String) (st : Step LoRAPinManager Op Answer) : Bool :=
  (st.before.pinned.lookup adapterID).isNone && (st.after.pinned.lookup adapterID).isSome

def heldSince (tr : History) (adapterID : String) : Int :=
  tr.foldl (fun n st => if pins adapterID st then 0 else n+change adapterID st) 0

def EvictsOldest (tr : History) (e : Eviction) : Prop :=
  ∃pin,e.before.pinned.lookup e.adapterID=some pin ∧ ¬0<held tr e.adapterID ∧
    ∀other otherPin,e.before.pinned.lookup other=some otherPin → ¬0<held tr other →
      pin.lastUsed ≤ otherPin.lastUsed

structure LocksHold (tr : History) (l : LoRAPinManager) : Prop where
  kept : ∀x,0 < held tr x → (l.pinned.lookup x).isSome
  counted : ∀x pin,l.pinned.lookup x=some pin → pin.pinCount.toInt=heldSince tr x
  oldest : ∀pre st,tr=pre++[st] → ∀e∈st.answer.evicted,EvictsOldest pre e

def Matched (tr : History) (_ : LoRAPinManager) : Op → Prop
  | .unlockAdapter adapterID => 0 < held tr adapterID
  | _ => True

def Unsaturated (_ : History) (l : LoRAPinManager) : Op → Prop
  | .lockAdapter adapterID _ =>
      (l.pinned.lookup adapterID).map LoRAPin.pinCount≠some Int32.maxValue
  | _ => True

instance decidableMatched (tr : History) (l : LoRAPinManager) (op : Op) :
    Decidable (Matched tr l op) :=
  match op with
  | .unlockAdapter adapterID => inferInstanceAs (Decidable (0 < held tr adapterID))
  | .prefetch _ _ _ _ => isTrue trivial
  | .lockAdapter _ _ => isTrue trivial

instance decidableUnsaturated (tr : History) (l : LoRAPinManager) (op : Op) :
    Decidable (Unsaturated tr l op) :=
  match op with
  | .lockAdapter adapterID _ => inferInstanceAs
      (Decidable ((l.pinned.lookup adapterID).map LoRAPin.pinCount≠some Int32.maxValue))
  | .prefetch _ _ _ _ => isTrue trivial
  | .unlockAdapter _ => isTrue trivial

structure Tally (total since : Int) (found : Option LoRAPin) : Prop where
  nonneg : 0 ≤ total
  counted : ∀pin,found=some pin → pin.pinCount.toInt=total ∧ since=total
  gone : found=none → total=0

def Tallied (tr : History) (l : LoRAPinManager) : Prop :=
  ∀x,Tally (held tr x) (heldSince tr x) (l.pinned.lookup x)

section

variable {tr : History} {l : LoRAPinManager}

theorem held_snoc (op : Op) (x : String) :
    held (tr++[stepOf step l op]) x=held tr x+change x (stepOf step l op) := by
  rw [held,held,List.map_append,List.sum_append,List.map_singleton,List.sum_singleton]

theorem heldSince_snoc (op : Op) (x : String) : heldSince (tr++[stepOf step l op]) x=
      if pins x (stepOf step l op) then 0 else heldSince tr x+change x (stepOf step l op) := by
  rw [heldSince,List.foldl_append]
  rfl

variable {pin : LoRAPin}

theorem heldSince_of_pinned {op : Op} {x : String} (pinned : l.pinned.lookup x=some pin) :
    heldSince (tr++[stepOf step l op]) x=heldSince tr x+change x (stepOf step l op) := by
  have old : pins x (stepOf step l op)=false := by
    rw [pins,stepOf,pinned]
    rfl
  rw [heldSince_snoc,old]
  rfl

theorem Tally.positive {total since : Int}
    (h : Tally total since (some pin)) : 0 < pin.pinCount ↔ 0 < total := by
  have zero : (0 : Int32).toInt=0 := rfl
  rw [Int32.lt_iff_toInt_lt,zero,(h.counted pin rfl).1]

theorem Tally.still {op : Op} {x : String}
    (h : Tally (held tr x) (heldSince tr x) (l.pinned.lookup x))
    (same : (step l op).1.pinned.lookup x=l.pinned.lookup x)
    (none_held : change x (stepOf step l op)=0) :
    Tally (held (tr++[stepOf step l op]) x) (heldSince (tr++[stepOf step l op]) x)
      ((step l op).1.pinned.lookup x) := by
  rw [same,held_snoc,none_held,Int.add_zero]
  refine ⟨h.nonneg,fun pin pinned => ?_,h.gone⟩
  rw [heldSince_of_pinned pinned,none_held,Int.add_zero]
  exact h.counted pin pinned

variable {adapterID : String}

theorem Tallied.rewritten (h : Tallied tr l) {op : Op} {pin pin' : LoRAPin}
    (found : l.pinned.lookup adapterID=some pin)
    (wrote : (step l op).1.pinned=l.pinned.insert adapterID pin')
    (count : pin'.pinCount.toInt=pin.pinCount.toInt+change adapterID (stepOf step l op))
    (low : 0 ≤ pin'.pinCount.toInt) (others : ∀x,x≠adapterID → change x (stepOf step l op)=0) :
    Tallied (tr++[stepOf step l op]) (step l op).1 := by
  intro x
  by_cases same : x=adapterID
  · subst same
    obtain ⟨total,since⟩ := (h x).counted pin found
    rw [held_snoc,heldSince_of_pinned found,since,← total,← count,wrote,AList.lookup_insert]
    refine ⟨low,fun after pinned => ?_,fun missing => (by cases missing)⟩
    obtain rfl := Option.some.inj pinned
    exact ⟨rfl,rfl⟩
  · refine (h x).still ?_ (others x same)
    rw [wrote]
    exact AList.lookup_insert_ne same

theorem Tallied.prefetch (h : Tallied tr l) (adapterID : String) (sizeBytes : Int64)
    (orders : Nat → RangeOrder Entry) (now : Time) :
    let op := Op.prefetch adapterID sizeBytes orders now
    Tallied (tr++[stepOf step l op]) (step l op).1 := by
  intro op x
  have spec := l.prefetch_spec adapterID sizeBytes orders now
  have total : held (tr++[stepOf step l op]) x=held tr x := by
    rw [held_snoc]
    exact Int.add_zero _
  rw [total]
  refine ⟨(h x).nonneg,fun pin pinned => ?_,fun missing => ?_⟩
  · rcases spec.origin x pin pinned with old | ⟨absent,unlocked⟩
    · have tally := (h x).counted pin old
      rw [heldSince_of_pinned old]
      exact ⟨tally.1,(Int.add_zero _).trans tally.2⟩
    · have fresh : pins x (stepOf step l op)=true := by
        have found : (step l op).1.pinned.lookup x=some pin := pinned
        rw [pins,stepOf,absent,found]
        rfl
      rw [heldSince_snoc,fresh,(h x).gone absent,unlocked]
      exact ⟨rfl,rfl⟩
  · cases before : l.pinned.lookup x with
    | none => exact (h x).gone before
    | some pin =>
      have tally := h x
      rw [before] at tally
      by_contra _
      have holding : 0 < pin.pinCount := by
        have := tally.nonneg
        exact tally.positive.mpr (by omega)
      have stays : (step l op).1.pinned.lookup x=some pin := spec.locked x pin before holding
      rw [missing] at stays
      cases stays

theorem pinCount_lt_max {count : Int32} (below : count≠Int32.maxValue) :
    count < Int32.maxValue := by
  have high := count.toInt_lt
  have top : Int32.maxValue.toInt=2147483647 := rfl
  have other : count.toInt≠Int32.maxValue.toInt := fun same => below (Int32.toInt_inj.mp same)
  rw [Int32.lt_iff_toInt_lt]
  omega

theorem lock_found (found : l.pinned.lookup adapterID=some pin) (now : Time) :
    step l (.lockAdapter adapterID now)=
      (⟨l.pinned.insert adapterID ⟨pin.sizeBytes,pin.pinCount+1,now⟩,l.maxCapacity,l.used⟩,
        ⟨none,[]⟩) := by
  rw [step,lockAdapter,found]

theorem lock_missed (missing : l.pinned.lookup adapterID=none) {now : Time} :
    step l (.lockAdapter adapterID now)=
      (l,⟨some ⟨"adapter %s not pre-pinned (cache miss)",[.str adapterID]⟩,[]⟩) := by
  rw [step,lockAdapter,missing]

theorem change_lock (found : l.pinned.lookup adapterID=some pin) (now : Time) :
    change adapterID (stepOf step l (.lockAdapter adapterID now))=1 := by
  rw [stepOf,lock_found found]
  exact if_pos ⟨rfl,rfl⟩

theorem Tallied.lockAdapter (h : Tallied tr l) (adapterID : String) (now : Time)
    (good : Unsaturated tr l (.lockAdapter adapterID now)) :
    let op := Op.lockAdapter adapterID now
    Tallied (tr++[stepOf step l op]) (step l op).1 := by
  intro op x
  cases found : l.pinned.lookup adapterID with
  | none =>
    have failed : step l op=_ := lock_missed found
    refine (h x).still (by rw [failed]) ?_
    rw [stepOf,failed]
    exact if_neg (fun both => (by cases both.2))
  | some pin =>
    have below : pin.pinCount≠Int32.maxValue := by
      rintro full
      apply good
      rw [found,Option.map_some,full]
    have next := toInt_succ_of_lt (pinCount_lt_max below)
    have nonneg := (h adapterID).nonneg
    have total := ((h adapterID).counted pin found).1
    refine h.rewritten found (by rw [lock_found found]) ?_ ?_ ?_ x
    · rw [change_lock found]
      exact next
    · dsimp only
      omega
    · exact fun other ne => if_neg fun both => ne both.1.symm

theorem unlock_found (found : l.pinned.lookup adapterID=some pin) (positive : 0 < pin.pinCount) :
    step l (.unlockAdapter adapterID)=
      (⟨l.pinned.insert adapterID ⟨pin.sizeBytes,pin.pinCount-1,pin.lastUsed⟩,l.maxCapacity,
        l.used⟩,⟨none,[]⟩) := by
  rw [step,unlockAdapter,found]
  dsimp only
  rw [if_pos positive]

theorem Tallied.unlockAdapter (h : Tallied tr l) (adapterID : String)
    (matched : 0 < held tr adapterID) :
    let op := Op.unlockAdapter adapterID
    Tallied (tr++[stepOf step l op]) (step l op).1 := by
  intro op x
  cases found : l.pinned.lookup adapterID with
  | none =>
    rw [(h adapterID).gone found] at matched
    cases matched
  | some pin =>
    have tally := h adapterID
    rw [found] at tally
    have positive := tally.positive.mpr matched
    have next := toInt_pred_of_pos positive
    have total := (tally.counted pin rfl).1
    have one : change adapterID (stepOf step l op)=-1 := if_pos rfl
    refine h.rewritten found (by rw [unlock_found found positive]) ?_ ?_ ?_ x
    · rw [one]
      exact next
    · dsimp only
      omega
    · exact fun other ne => if_neg fun is => ne is.symm

theorem Tallied.step (h : Tallied tr l) (op : Op) (matched : Matched tr l op)
    (good : Unsaturated tr l op) :
    Tallied (tr++[stepOf LoRAPinManager.step l op]) (LoRAPinManager.step l op).1 := by
  cases op with
  | prefetch adapterID sizeBytes orders now => exact h.prefetch adapterID sizeBytes orders now
  | lockAdapter adapterID now => exact h.lockAdapter adapterID now good
  | unlockAdapter adapterID => exact h.unlockAdapter adapterID matched

theorem Tallied.evictsOldest (h : Tallied tr l) (op : Op) {e : Eviction}
    (mem : e∈(LoRAPinManager.step l op).2.evicted) : EvictsOldest tr e := by
  cases op with
  | prefetch adapterID sizeBytes orders now =>
    obtain ⟨⟨pin,pinned,free,least⟩,within⟩ :=
      (l.prefetch_spec adapterID sizeBytes orders now).oldest e mem
    have locked_iff x p (found : e.before.pinned.lookup x=some p) :
        0 < p.pinCount ↔ 0 < held tr x := by
      have tally := h x
      rw [within x p found] at tally
      exact tally.positive
    refine ⟨pin,pinned,fun holding => free ((locked_iff _ pin pinned).mpr holding),?_⟩
    intro other otherPin found notHeld
    exact least other otherPin found
      (fun locked => notHeld ((locked_iff other otherPin found).mp locked))
  | lockAdapter adapterID now =>
    cases found : l.pinned.lookup adapterID with
    | none =>
      rw [lock_missed found] at mem
      cases mem
    | some pin =>
      rw [lock_found found] at mem
      cases mem
  | unlockAdapter adapterID => cases mem

theorem Tallied.locksHold (h : Tallied tr l)
    (oldest : ∀pre st,tr=pre++[st] → ∀e∈st.answer.evicted,EvictsOldest pre e) :
    LocksHold tr l := by
  refine ⟨fun x holding => ?_,fun x pin pinned => ?_,oldest⟩
  · cases found : l.pinned.lookup x with
    | none =>
      rw [(h x).gone found] at holding
      cases holding
    | some pin => rfl
  · obtain ⟨total,since⟩ := (h x).counted pin pinned
    rw [total,since]

theorem LocksHold.unsaturated (h : Tallied tr l) {now : Time}
    (law : LocksHold (tr++[stepOf LoRAPinManager.step l (.lockAdapter adapterID now)])
      (LoRAPinManager.step l (.lockAdapter adapterID now)).1) :
    Unsaturated tr l (.lockAdapter adapterID now) := by
  intro full
  obtain ⟨pin,found,top⟩ := Option.map_eq_some_iff.mp full
  have tally := h adapterID
  rw [found] at tally
  have count := tally.counted pin rfl
  have counted := law.counted adapterID ⟨pin.sizeBytes,pin.pinCount+1,now⟩ (by
    rw [lock_found found]
    exact AList.lookup_insert _)
  rw [heldSince_of_pinned found,change_lock found,count.2,← count.1,top] at counted
  have high := (Int32.maxValue+1).toInt_lt
  have largest : Int32.maxValue.toInt=2147483647 := rfl
  dsimp only at counted
  omega

end

theorem newLoRAPinManager_tallied (capacityMB : Int64) :
    Tallied [] (newLoRAPinManager capacityMB) :=
  fun _ => ⟨Int.le_refl 0,fun _ pinned => (by cases pinned),fun _ => rfl⟩

theorem locks_hold_iff (capacityMB : Int64) (ops : List Op)
    (matched : EachCall step (newLoRAPinManager capacityMB) ops Matched) :
    Always step (newLoRAPinManager capacityMB) ops LocksHold ↔
      EachCall step (newLoRAPinManager capacityMB) ops Unsaturated := by
  have start := newLoRAPinManager_tallied capacityMB
  refine always_iff_eachCall_of step Tallied LocksHold Matched start ?_ ?_ ?_
    matched
  · exact start.locksHold fun pre st empty => absurd empty.symm (by simp)
  · intro tr l op tallied law pair good
    have next := tallied.step op pair good
    refine ⟨next,next.locksHold fun pre st last e mem => ?_⟩
    obtain ⟨rfl,same⟩ := List.append_inj' last rfl
    obtain rfl := (List.cons.inj same).1
    exact tallied.evictsOldest op mem
  · intro tr l op tallied law pair next
    cases op with
    | prefetch adapterID sizeBytes orders now => trivial
    | unlockAdapter adapterID => trivial
    | lockAdapter adapterID now => exact next.unsaturated tallied

def listedOrders : Nat → RangeOrder Entry := fun _ => RangeOrder.listed Entry

def swapRun : List Op :=
  [.prefetch "a" 1048576 listedOrders 1,.lockAdapter "a" 2,.prefetch "b" 1 listedOrders 3,
    .unlockAdapter "a",.prefetch "b" 1 listedOrders 4]

theorem locks_hold_swap : EachCall step (newLoRAPinManager 1) swapRun Matched ∧
      Always step (newLoRAPinManager 1) swapRun LocksHold := by
  have matched : EachCall step (newLoRAPinManager 1) swapRun Matched := by decide
  exact ⟨matched,(locks_hold_iff 1 swapRun matched).mpr (by decide)⟩

def lockedManager (n : Nat) : LoRAPinManager :=
  ⟨AList.singleton "a" ⟨1048576,Int32.ofNat n,1⟩,1048576,1048576⟩

theorem lockedManager_lock (n : Nat) :
    step (lockedManager n) (.lockAdapter "a" 1)=(lockedManager (n+1),⟨none,[]⟩) := by
  have found : (lockedManager n).pinned.lookup "a"=some ⟨1048576,Int32.ofNat n,1⟩ := rfl
  have count : Int32.ofNat n+1=Int32.ofNat (n+1) := (Int32.ofNat_add n 1).symm
  rw [lock_found found]
  dsimp only [lockedManager]
  rw [AList.insert_singleton_eq,count]

theorem lockedManager_run (n k : Nat) :
    let locks := List.replicate n (Op.lockAdapter "a" 1)
    run step (lockedManager k) locks=lockedManager (k+n) ∧
      held (trace step (lockedManager k) locks) "a"=n := by
  induction n generalizing k with
  | zero => exact ⟨rfl,rfl⟩
  | succ n ih =>
    obtain ⟨reached,locks⟩ := ih (k+1)
    dsimp only at reached locks ⊢
    rw [List.replicate_succ,run,trace,lockedManager_lock]
    refine ⟨?_,?_⟩
    · rw [reached,Nat.add_assoc,Nat.add_comm 1]
    · rw [held,List.map_cons,List.sum_cons,← held,locks]
      have one : change "a" (⟨lockedManager k,.lockAdapter "a" 1,⟨none,[]⟩,
          lockedManager (k+1)⟩)=1 := rfl
      rw [one,Nat.cast_succ,Int.add_comm]

def crowd (n : Nat) : List Op :=
  (.prefetch "a" 1048576 listedOrders 1::List.replicate n (.lockAdapter "a" 1))++
    [.prefetch "b" 1 listedOrders 2]

theorem crowd_matched {n : Nat} : EachCall step (newLoRAPinManager 1) (crowd n) Matched := by
  intro pre op prior
  have mem : op∈crowd n := prior.subset (List.mem_append_right pre List.mem_cons_self)
  rcases List.mem_append.mp mem with early | last
  · rcases List.mem_cons.mp early with rfl | lock
    · trivial
    · obtain rfl := List.eq_of_mem_replicate lock
      trivial
  · obtain rfl := List.mem_singleton.mp last
    trivial

theorem crowd_run {n : Nat} : run step (newLoRAPinManager 1) (crowd n)=
        (step (lockedManager n) (.prefetch "b" 1 listedOrders 2)).1 ∧
      held (trace step (newLoRAPinManager 1) (crowd n)) "a"=n := by
  obtain ⟨reached,locks⟩ := lockedManager_run n 0
  have first : (step (newLoRAPinManager 1) (.prefetch "a" 1048576 listedOrders 1)).1=
      lockedManager 0 := rfl
  rw [Nat.zero_add] at reached
  refine ⟨?_,?_⟩
  · rw [crowd,run_snoc,run,first,reached]
  · rw [crowd,trace_snoc,held_snoc,trace,first,held,List.map_cons,List.sum_cons,← held,locks]
    exact (Int.add_zero _).trans (Int.zero_add _)

theorem locks_overflow : EachCall step (newLoRAPinManager 1) (crowd (2^31)) Matched ∧
      held (trace step (newLoRAPinManager 1) (crowd (2^31))) "a"=2^31 ∧
      (run step (newLoRAPinManager 1) (crowd (2^31))).pinned.lookup "a"=none ∧
      ¬Always step (newLoRAPinManager 1) (crowd (2^31)) LocksHold := by
  obtain ⟨reached,locks⟩ := crowd_run
  have removed : (run step (newLoRAPinManager 1) (crowd (2^31))).pinned.lookup "a"=none := by
    rw [reached]
    decide
  refine ⟨crowd_matched,locks,removed,fun law => ?_⟩
  have kept := (law _ (List.prefix_refl _)).kept "a" (by rw [locks]; decide)
  rw [removed] at kept
  cases kept

end KServeLLM.Inference.LoRAPinManager
