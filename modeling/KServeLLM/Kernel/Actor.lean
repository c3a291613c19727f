import KServeLLM.Framework.Execution
import KServeLLM.Framework.GoTypes

namespace KServeLLM.Kernel

inductive ActorError where
  | invalidTransition | capacityExceeded | reentrancyProhibited | actorNotActive | actorNotResident
  | sessionTerminal | maxTurnsReached | staleFence | fenceExpired | digestMismatch | memberNotFound
  | invalidPattern
  deriving DecidableEq

def ActorError.text : ActorError → String
  | .invalidTransition => "invalid state transition"
  | .capacityExceeded => "actor capacity exceeded"
  | .reentrancyProhibited => "reentrancy is prohibited"
  | .actorNotActive => "actor is not in active state"
  | .actorNotResident => "actor is not in resident state"
  | .sessionTerminal => "inference session is in terminal state"
  | .maxTurnsReached => "inference session max turns reached"
  | .staleFence => "stale or invalid transfer fence epoch"
  | .fenceExpired => "transfer fence has expired"
  | .digestMismatch => "transfer state digest mismatch"
  | .memberNotFound => "required member role not found in coactor group"
  | .invalidPattern => "unsupported pattern for this operation"

abbrev Err := Option (GoError ActorError)

inductive ActorLifecycle where
  | inactive | activating | active | deactivating
  deriving DecidableEq

def ActorLifecycle.text : ActorLifecycle → String
  | .inactive => "Inactive"
  | .activating => "Activating"
  | .active => "Active"
  | .deactivating => "Deactivating"

inductive ActorResidency where
  | cold | loading | resident | evicting
  deriving DecidableEq

def ActorResidency.text : ActorResidency → String
  | .cold => "Cold"
  | .loading => "Loading"
  | .resident => "Resident"
  | .evicting => "Evicting"

inductive ConcurrencyState where
  | idle | processing | atCapacity
  deriving DecidableEq

inductive ReentrancyMode where
  | forbidden | allowed
  deriving DecidableEq

inductive ActorType where
  | model | agent | tool
  deriving DecidableEq

inductive IdleStatus where
  | active | timedOut
  deriving DecidableEq

structure ActorStateVector where
  lifecycle : ActorLifecycle
  residency : ActorResidency
  concurrency : ConcurrencyState
  deriving DecidableEq

structure Actor where
  id : String
  actorType : ActorType
  vector : ActorStateVector
  (maxConcurrency activeSlots : Int32)
  reentrancy : ReentrancyMode
  idleTimeout : Duration
  lastActivity : Time
  deriving DecidableEq

def newActor (id : String) (aType : ActorType) (maxConcurrency : Int32)
    (reentrancy : ReentrancyMode) (idleTimeout : Duration) (now : Time) : Actor where
  id := id
  actorType := aType
  vector := ⟨.inactive,.cold,.idle⟩
  maxConcurrency := if maxConcurrency≤0 then 1 else maxConcurrency
  activeSlots := 0
  reentrancy := reentrancy
  idleTimeout := idleTimeout
  lastActivity := now

namespace Actor

def activate (a : Actor) (now : Time) : Actor×Err :=
  if a.vector.lifecycle=.active then (a,none)
  else ({a with vector := {a.vector with lifecycle := .active},lastActivity := now},none)

def deactivate (a : Actor) (now : Time) : Actor×Err :=
  if 0 < a.activeSlots then
    (a,some (.errorf "%w: cannot deactivate actor with %d active slots"
      (.sentinel .invalidTransition) [.int a.activeSlots.toInt]))
  else
    ({a with
      vector := {a.vector with lifecycle := .inactive,concurrency := .idle}
      lastActivity := now},none)

def setResidency (a : Actor) (residency : ActorResidency) : Actor×Err :=
  ({a with vector := {a.vector with residency := residency}},none)

def acquired (a : Actor) (now : Time) : Actor := {a with
    activeSlots := a.activeSlots+1
    lastActivity := now
    vector := {a.vector with concurrency :=
      if a.maxConcurrency ≤ a.activeSlots+1 then .atCapacity else .processing}}

def acquireSlot (a : Actor) (now : Time) : Actor×Err :=
  if a.vector.lifecycle≠.active then
    (a,some (.errorf "%w: actor lifecycle is %s" (.sentinel .actorNotActive)
      [.str a.vector.lifecycle.text]))
  else if a.vector.residency≠.resident then
    (a,some (.errorf "%w: actor residency is %s" (.sentinel .actorNotResident)
      [.str a.vector.residency.text]))
  else if 0 < a.activeSlots ∧ a.reentrancy=.forbidden then
    (a,some (.errorf "%w: active slots %d" (.sentinel .reentrancyProhibited)
      [.int a.activeSlots.toInt]))
  else if a.maxConcurrency ≤ a.activeSlots then
    (a,some (.errorf "%w: active slots %d at max %d" (.sentinel .capacityExceeded)
      [.int a.activeSlots.toInt,.int a.maxConcurrency.toInt]))
  else (a.acquired now,none)

def released (a : Actor) (now : Time) : Actor := {a with
    activeSlots := a.activeSlots-1
    lastActivity := now
    vector := {a.vector with concurrency :=
      if a.activeSlots-1=0 then .idle else .processing}}

def releaseSlot (a : Actor) (now : Time) : Actor×Err :=
  if a.activeSlots≤0 then
    (a,some (.errorf "%w: cannot release from zero active slots" (.sentinel .invalidTransition) []))
  else (a.released now,none)

def checkIdle (a : Actor) (now : Time) : Actor×IdleStatus×Err :=
  if 0 < a.activeSlots then (a,.active,none)
  else if 0 < a.idleTimeout ∧ a.idleTimeout ≤ now.sub a.lastActivity then
    ({a with vector := {a.vector with lifecycle := .inactive,concurrency := .idle}},.timedOut,none)
  else (a,.active,none)

end Actor

inductive ActorOp where
  | activate (now : Time)
  | deactivate (now : Time)
  | setResidency (residency : ActorResidency)
  | acquireSlot (now : Time)
  | releaseSlot (now : Time)
  | checkIdle (now : Time)

inductive ActorAnswer where
  | done (err : Err)
  | idle (status : IdleStatus) (err : Err)
  deriving DecidableEq

namespace Actor

def step (a : Actor) : ActorOp → Actor×ActorAnswer
  | .activate now => ((a.activate now).1,.done (a.activate now).2)
  | .deactivate now => ((a.deactivate now).1,.done (a.deactivate now).2)
  | .setResidency r => ((a.setResidency r).1,.done (a.setResidency r).2)
  | .acquireSlot now => ((a.acquireSlot now).1,.done (a.acquireSlot now).2)
  | .releaseSlot now => ((a.releaseSlot now).1,.done (a.releaseSlot now).2)
  | .checkIdle now => ((a.checkIdle now).1,.idle (a.checkIdle now).2.1 (a.checkIdle now).2.2)

def Available (a : Actor) : Prop := a.vector.lifecycle=.active ∧ a.vector.residency=.resident ∧
    ¬(0 < a.activeSlots ∧ a.reentrancy=.forbidden) ∧ a.activeSlots < a.maxConcurrency

instance (a : Actor) : Decidable a.Available := inferInstanceAs (Decidable (_ ∧ _))

variable {a : Actor}

theorem acquireSlot_of_available (h : a.Available) (now : Time) :
    a.acquireSlot now=(a.acquired now,none) := by
  obtain ⟨active,resident,single,room⟩ := h
  simp [acquireSlot,active,resident,single,Int32.not_le.mpr room]

theorem acquireSlot_of_not_available (h : ¬a.Available) (now : Time) :
    ∃e,a.acquireSlot now=(a,some e) ∧
      e.root∈[.actorNotActive,.actorNotResident,.reentrancyProhibited,.capacityExceeded] := by
  simp only [acquireSlot]
  split_ifs with active resident single full
  · exact ⟨_,rfl,by simp [GoError.root]⟩
  · exact ⟨_,rfl,by simp [GoError.root]⟩
  · exact ⟨_,rfl,by simp [GoError.root]⟩
  · exact ⟨_,rfl,by simp [GoError.root]⟩
  · exact absurd ⟨not_not.mp active,not_not.mp resident,single,Int32.not_le.mp full⟩ h

theorem releaseSlot_of_pos (h : 0 < a.activeSlots) (now : Time) :
    a.releaseSlot now=(a.released now,none) := by
  simp [releaseSlot,Int32.not_le.mpr h]

theorem releaseSlot_of_not_pos (h : ¬0 < a.activeSlots) (now : Time) :
    ∃e,a.releaseSlot now=(a,some e) := by
  simp [releaseSlot,Int32.not_lt.mp h]

structure Laws (a : Actor) : Prop where
  nonneg : 0 ≤ a.activeSlots
  bounded : a.activeSlots ≤ a.maxConcurrency
  idle : a.vector.concurrency=.idle ↔ a.activeSlots=0
  atCapacity : a.vector.concurrency=.atCapacity ↔ a.activeSlots=a.maxConcurrency
  processing : a.vector.concurrency=.processing ↔ a.activeSlots≠0 ∧ a.activeSlots≠a.maxConcurrency
  busy : 0 < a.activeSlots → a.vector.lifecycle=.active
  single : a.reentrancy=.forbidden → a.activeSlots≤1

theorem newActor_laws {id : String} {aType : ActorType} {maxConcurrency : Int32}
    {reentrancy : ReentrancyMode} {idleTimeout : Duration} {now : Time} :
    Laws (newActor id aType maxConcurrency reentrancy idleTimeout now) := by
  have pos : 0 < if maxConcurrency≤0 then 1 else maxConcurrency := by
    split_ifs with h
    · decide
    · exact Int32.not_le.mp h
  have ne : 0≠if maxConcurrency≤0 then 1 else maxConcurrency := Int32.ne_of_lt pos
  exact {
    nonneg := Int32.le_refl 0
    bounded := Int32.le_of_lt pos
    idle := by simp [newActor]
    atCapacity := by simpa [newActor] using ne
    processing := by simp [newActor]
    busy := fun h => absurd h (by simp [newActor])
    single := fun _ => by
      show 0≤1
      decide }

theorem Laws.congr (h : Laws a) (b : Actor) (slots : b.activeSlots=a.activeSlots)
    (bound : b.maxConcurrency=a.maxConcurrency) (mode : b.reentrancy=a.reentrancy)
    (same : b.vector.concurrency=a.vector.concurrency)
    (busy : 0 < b.activeSlots → b.vector.lifecycle=.active) : Laws b where
  nonneg := slots ▸ h.nonneg
  bounded := by rw [slots,bound]; exact h.bounded
  idle := by rw [same,slots]; exact h.idle
  atCapacity := by rw [same,slots,bound]; exact h.atCapacity
  processing := by rw [same,slots,bound]; exact h.processing
  busy := busy
  single := by rw [mode,slots]; exact h.single

theorem Laws.idle_of_free (h : Laws a) (free : ¬0 < a.activeSlots) : a.vector.concurrency=.idle :=
  h.idle.mpr (Int32.le_antisymm (Int32.not_lt.mp free) h.nonneg)

theorem Laws.acquired (h : Laws a) (ok : a.Available) (now : Time) : Laws (a.acquired now) := by
  obtain ⟨active,_,single,room⟩ := ok
  have zero : (0 : Int32).toInt=0 := rfl
  have one : (1 : Int32).toInt=1 := rfl
  have low := Int32.le_iff_toInt_le.mp h.nonneg
  have top := Int32.lt_iff_toInt_lt.mp room
  have next := toInt_succ_of_lt room
  have ne : a.activeSlots+1≠0 := by
    intro he
    have hi := congrArg Int32.toInt he
    omega
  have le : a.activeSlots+1 ≤ a.maxConcurrency := by
    rw [Int32.le_iff_toInt_le]
    omega
  have full : a.maxConcurrency ≤ a.activeSlots+1 ↔ a.activeSlots+1=a.maxConcurrency :=
    ⟨Int32.le_antisymm le,fun he => he ▸ Int32.le_refl _⟩
  refine ⟨?_,le,?_,?_,?_,fun _ => active,?_⟩
  · rw [Int32.le_iff_toInt_le]
    show (0 : Int32).toInt≤(a.activeSlots+1).toInt
    omega
  · simp only [Actor.acquired,ne]
    split <;> simp
  · simp only [Actor.acquired]
    split <;> simp_all
  · simp only [Actor.acquired]
    split <;> simp_all
  · intro mode
    have none : ¬0 < a.activeSlots := fun pos => single ⟨pos,mode⟩
    rw [Int32.lt_iff_toInt_lt] at none
    rw [Int32.le_iff_toInt_le]
    show (a.activeSlots+1).toInt≤(1 : Int32).toInt
    omega

theorem Laws.released (h : Laws a) (pos : 0 < a.activeSlots) (now : Time) :
    Laws (a.released now) := by
  have low := Int32.lt_iff_toInt_lt.mp pos
  have top := Int32.le_iff_toInt_le.mp h.bounded
  have next := toInt_pred_of_pos pos
  have ne : a.activeSlots-1≠a.maxConcurrency := by
    intro he
    have hi := congrArg Int32.toInt he
    omega
  refine ⟨?_,?_,?_,?_,?_,fun _ => h.busy pos,?_⟩
  · rw [Int32.le_iff_toInt_le]
    show (0 : Int32).toInt≤(a.activeSlots-1).toInt
    omega
  · rw [Int32.le_iff_toInt_le]
    show (a.activeSlots-1).toInt ≤ a.maxConcurrency.toInt
    omega
  · simp only [Actor.released]
    split <;> simp_all
  · simp only [Actor.released,ne]
    split <;> simp
  · simp only [Actor.released]
    split <;> simp_all
  · intro mode
    have limit := Int32.le_iff_toInt_le.mp (h.single mode)
    rw [Int32.le_iff_toInt_le]
    show (a.activeSlots-1).toInt≤(1 : Int32).toInt
    omega

theorem step_laws {a : Actor} {op : ActorOp} (h : Laws a) : Laws (a.step op).1 := by
  cases op with
  | activate now =>
    simp only [step,activate]
    split
    · exact h
    · exact h.congr _ rfl rfl rfl rfl (fun _ => rfl)
  | deactivate now =>
    simp only [step,deactivate]
    split
    · exact h
    · next free =>
      exact h.congr _ rfl rfl rfl (h.idle_of_free free).symm (fun pos => absurd pos free)
  | setResidency r => exact h.congr _ rfl rfl rfl rfl h.busy
  | acquireSlot now =>
    by_cases ok : a.Available
    · simp only [step,acquireSlot_of_available ok]
      exact h.acquired ok now
    · obtain ⟨e,he,_⟩ := acquireSlot_of_not_available ok now
      simp only [step,he]
      exact h
  | releaseSlot now =>
    by_cases pos : 0 < a.activeSlots
    · simp only [step,releaseSlot_of_pos pos]
      exact h.released pos now
    · obtain ⟨e,he⟩ := releaseSlot_of_not_pos pos now
      simp only [step,he]
      exact h
  | checkIdle now =>
    simp only [step,checkIdle]
    split
    · exact h
    · next free =>
      split
      · exact h.congr _ rfl rfl rfl (h.idle_of_free free).symm (fun pos => absurd pos free)
      · exact h

def granted : Step Actor ActorOp ActorAnswer → Bool
  | ⟨_,.acquireSlot _,.done none,_⟩ => true
  | _ => false

def returned : Step Actor ActorOp ActorAnswer → Bool
  | ⟨_,.releaseSlot _,.done none,_⟩ => true
  | _ => false

theorem step_slots (a : Actor) (op : ActorOp) : (a.step op).1.activeSlots.toInt=a.activeSlots.toInt+
      (granted (stepOf step a op)).toNat-(returned (stepOf step a op)).toNat := by
  cases op with
  | activate now =>
    simp only [step,activate]
    split <;> simp [stepOf,granted,returned]
  | deactivate now =>
    simp only [step,deactivate]
    split <;> simp [stepOf,granted,returned]
  | setResidency r => simp [step,setResidency,stepOf,granted,returned]
  | acquireSlot now =>
    by_cases ok : a.Available
    · simp [step,stepOf,granted,returned,acquireSlot_of_available ok,acquired,
        toInt_succ_of_lt ok.2.2.2]
    · obtain ⟨e,he,_⟩ := acquireSlot_of_not_available ok now
      simp [step,stepOf,granted,returned,he]
  | releaseSlot now =>
    by_cases pos : 0 < a.activeSlots
    · simp [step,stepOf,granted,returned,releaseSlot_of_pos pos,released,toInt_pred_of_pos pos]
    · obtain ⟨e,he⟩ := releaseSlot_of_not_pos pos now
      simp [step,stepOf,granted,returned,he]
  | checkIdle now =>
    simp only [step,checkIdle]
    split
    · simp [stepOf,granted,returned]
    · split <;> simp [stepOf,granted,returned]

end Actor

open Actor

theorem actor_slots_accounted (id : String) (aType : ActorType) (maxConcurrency : Int32)
    (reentrancy : ReentrancyMode) (idleTimeout : Duration) (now : Time) (ops : List ActorOp) :
    let a := newActor id aType maxConcurrency reentrancy idleTimeout now
    Laws (run Actor.step a ops) ∧ (run Actor.step a ops).activeSlots.toInt=
        (trace Actor.step a ops).countP granted-(trace Actor.step a ops).countP returned := by
  intro a
  apply run_induction Actor.step (fun tr b => Laws b ∧
    b.activeSlots.toInt=tr.countP granted-tr.countP returned)
  · exact ⟨newActor_laws,rfl⟩
  · intro tr b op ih
    refine ⟨step_laws ih.1,?_⟩
    rw [step_slots,List.countP_append,List.countP_append,List.countP_singleton,
      List.countP_singleton]
    cases granted (stepOf Actor.step b op) <;> cases returned (stepOf Actor.step b op) <;>
      simp <;> omega

end KServeLLM.Kernel
