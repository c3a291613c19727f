import KServeLLM.Framework.Execution
import KServeLLM.Framework.GoTypes

namespace KServeLLM.Lifecycle

inductive State where
  | quarantined | observed | benchmarked | governed | promoted | warming | active | draining
  | retired
  | other (text : String)
  deriving DecidableEq

def State.text : State → String
  | .quarantined => "QUARANTINED"
  | .observed => "OBSERVED"
  | .benchmarked => "BENCHMARKED"
  | .governed => "GOVERNED"
  | .promoted => "PROMOTED"
  | .warming => "WARMING"
  | .active => "ACTIVE"
  | .draining => "DRAINING"
  | .retired => "RETIRED"
  | .other text => text

def State.unset : State := .other ""

inductive ConformanceAxis where
  | unverified | pending | conformant | degraded | breached
  | other (text : String)
  deriving DecidableEq

inductive ReadinessAxis where
  | cold | warming | ready | draining | halted
  | other (text : String)
  deriving DecidableEq

inductive Sentinel where
  | invalidState | illegalTransition | invalidIntent
  deriving DecidableEq

abbrev Error := GoError Sentinel

def validStates : List State :=
  [.quarantined,.observed,.benchmarked,.governed,.promoted,.warming,.active,.draining,.retired]

def legalTransitions : State → Option (List State)
  | .quarantined => some [.observed,.retired]
  | .observed => some [.benchmarked,.quarantined,.retired]
  | .benchmarked => some [.governed,.observed,.quarantined,.retired]
  | .governed => some [.promoted,.observed,.quarantined,.retired]
  | .promoted => some [.warming,.active,.draining,.quarantined,.retired]
  | .warming => some [.active,.draining,.quarantined,.retired]
  | .active => some [.draining,.warming,.quarantined]
  | .draining => some [.retired,.active,.quarantined]
  | .retired => some [.quarantined]
  | .other _ => none

structure StateVector where
  (currentState previousState : State)
  (epoch transitionCount : UInt64)
  conformance : ConformanceAxis
  readiness : ReadinessAxis
  lastTransition : Time
  (evidenceDigest reason : String)
  deriving DecidableEq

structure TransitionIntent where
  targetState : State
  (reason evidenceDigest : String)
  conformance : ConformanceAxis
  readiness : ReadinessAxis
  timestamp : Time
  deriving DecidableEq

def validateState (s : State) : Option Error :=
  if s∈validStates then none else some (.errorf "%w: %q" (.sentinel .invalidState) [.str s.text])

def canTransition (source target : State) : Bool :=
  match legalTransitions source with
  | none => false
  | some targets => decide (target∈targets)

def defaultConformanceForState : State → ConformanceAxis
  | .quarantined => .breached
  | .observed | .benchmarked => .pending
  | .governed | .promoted | .warming | .active => .conformant
  | .draining | .retired => .conformant
  | .other _ => .unverified

def defaultReadinessForState : State → ReadinessAxis
  | .quarantined => .halted
  | .observed | .benchmarked | .governed | .promoted => .cold
  | .warming => .warming
  | .active => .ready
  | .draining => .draining
  | .retired => .halted
  | .other _ => .cold

def conformanceOr (conformance : ConformanceAxis) (s : State) : ConformanceAxis :=
  if conformance=.other "" then defaultConformanceForState s else conformance

def readinessOr (readiness : ReadinessAxis) (s : State) : ReadinessAxis :=
  if readiness=.other "" then defaultReadinessForState s else readiness

def newStateVector (now : Time) (initial : State) (epoch : UInt64)
    (conformance : ConformanceAxis) (readiness : ReadinessAxis) : Except Error StateVector :=
  match validateState initial with
  | some err => .error (.errorf "failed to initialize StateVector: %w" err [])
  | none =>
      .ok
        { currentState := initial
          previousState := .unset
          epoch := epoch
          transitionCount := 0
          conformance := conformanceOr conformance initial
          readiness := readinessOr readiness initial
          lastTransition := now
          evidenceDigest := ""
          reason := "initialization" }

namespace StateVector

def resolveTransitionDimensions (v : StateVector) (now : Time) (intent : TransitionIntent) :
    ConformanceAxis×ReadinessAxis×String×Time :=
  let ts := if intent.timestamp.isZero then now else intent.timestamp
  let ev := if intent.evidenceDigest="" then v.evidenceDigest else intent.evidenceDigest
  (conformanceOr intent.conformance intent.targetState,
    readinessOr intent.readiness intent.targetState,ev,ts)

def transition (v : StateVector) (now : Time) (intent : TransitionIntent) :
    StateVector×Option Error :=
  match validateState intent.targetState with
  | some err => (v,some (.errorf "transition target validation failed: %w" err []))
  | none =>
    if intent.reason="" then
      (v,some (.errorf "%w: reason must not be empty" (.sentinel .invalidIntent) []))
    else if !canTransition v.currentState intent.targetState then
      (v,some (.errorf "%w: transition from %s to %s is prohibited"
        (.sentinel .illegalTransition)
        [.str v.currentState.text,.str intent.targetState.text]))
    else
      let (conf,readiness,ev,ts) := v.resolveTransitionDimensions now intent
      ({ currentState := intent.targetState
         previousState := v.currentState
         epoch := v.epoch+1
         transitionCount := v.transitionCount+1
         conformance := conf
         readiness := readiness
         lastTransition := ts
         evidenceDigest := ev
         reason := intent.reason },none)

end StateVector

structure Call where
  now : Time
  intent : TransitionIntent

def apply (v : StateVector) (call : Call) : StateVector×Option Error :=
  v.transition call.now call.intent

abbrev History := List (Step StateVector Call (Option Error))

def accepted (tr : History) : History := tr.filter (fun st => st.answer.isNone)

def digests (tr : History) : List String :=
  ((accepted tr).map (fun st => st.call.intent.evidenceDigest)).filter (fun d => d≠"")

theorem accepted_snoc (tr : History) (v : StateVector) (call : Call) :
    accepted (tr++[stepOf apply v call])=
      if (apply v call).2=none then accepted tr++[stepOf apply v call] else accepted tr := by
  unfold accepted
  cases h : (apply v _).2 <;> simp [stepOf,h]

variable {v : StateVector} {call : Call}

theorem apply_cases :
    ((apply v call).2≠none ∧ (apply v call).1=v) ∨
    ((apply v call).2=none ∧ validateState call.intent.targetState=none ∧
      canTransition v.currentState call.intent.targetState ∧
      (apply v call).1.currentState=call.intent.targetState ∧
      (apply v call).1.previousState=v.currentState ∧
      (apply v call).1.epoch=v.epoch+1 ∧
      (apply v call).1.transitionCount=v.transitionCount+1 ∧
      (apply v call).1.evidenceDigest=
        if call.intent.evidenceDigest="" then v.evidenceDigest
        else call.intent.evidenceDigest) := by
  unfold apply StateVector.transition
  cases valid : validateState _ with
  | some err => simp
  | none =>
    by_cases blank : call.intent.reason=""
    · simp [blank]
    · cases legal : canTransition _ _ with
      | false => simp [blank]
      | true => simp [blank,StateVector.resolveTransitionDimensions]

structure Tracks (epoch : UInt64) (tr : History) (v : StateVector) : Prop where
  valid : validateState v.currentState=none
  unchanged : ∀st∈tr,st.answer≠none → st.after=st.before
  count : v.transitionCount.toNat=(accepted tr).length%2^64
  epoch : v.epoch.toNat=(epoch.toNat+(accepted tr).length)%2^64
  edge : (accepted tr=[] ∧ v.previousState=.unset) ∨
    (accepted tr≠[] ∧ canTransition v.previousState v.currentState)
  digest : v.evidenceDigest=(digests tr).getLast?.getD ""

variable {tr : History}

theorem unchanged_snoc (h : ∀st∈tr,st.answer≠none → st.after=st.before)
    (v : StateVector) (call : Call) :
    ∀st∈tr++[stepOf apply v call],st.answer≠none → st.after=st.before := by
  refine forall_mem_snoc h fun refused => ?_
  rcases apply_cases with ⟨-,same⟩ | ⟨taken,-⟩
  · exact same
  · exact absurd taken refused

theorem digests_snoc (taken : (apply v call).2=none) :
    (digests (tr++[stepOf apply v call])).getLast?.getD ""=
      if call.intent.evidenceDigest="" then (digests tr).getLast?.getD ""
      else call.intent.evidenceDigest := by
  unfold digests
  rw [accepted_snoc,if_pos taken,List.map_append]
  split_ifs with blank <;> simp [stepOf,blank]

theorem Tracks.apply {epoch : UInt64} (h : Tracks epoch tr v) (call : Call) :
    Tracks epoch (tr++[stepOf Lifecycle.apply v call]) (Lifecycle.apply v call).1 := by
  have unchanged := unchanged_snoc h.unchanged v call
  rcases apply_cases with ⟨refused,same⟩ | ⟨taken,valid,legal,cur,prev,ep,count,digest⟩
  · -- a refused intent leaves the accepted history alone, and the vector with it
    have kept : accepted (tr++[stepOf Lifecycle.apply v call])=accepted tr := by
      rw [accepted_snoc,if_neg refused]
    have digests' : digests (tr++[stepOf Lifecycle.apply v call])=digests tr := by
      unfold digests
      rw [kept]
    rw [same]
    refine ⟨h.valid,unchanged,?_,?_,?_,?_⟩
    · rw [kept]
      exact h.count
    · rw [kept]
      exact h.epoch
    · rw [kept]
      exact h.edge
    · rw [digests']
      exact h.digest
  · have grown : accepted (tr++[stepOf Lifecycle.apply v call])=
        accepted tr++[stepOf Lifecycle.apply v call] := by
      rw [accepted_snoc,if_pos taken]
    refine ⟨cur▸valid,unchanged,?_,?_,.inr ⟨?_,?_⟩,?_⟩
    · rw [count,grown,List.length_append]
      exact uint64_toNat_succ h.count
    · rw [ep,grown,List.length_append]
      exact uint64_toNat_succ h.epoch
    · rw [grown]
      simp
    · rw [cur,prev]
      exact legal
    · rw [digest,digests_snoc taken,h.digest]

theorem transition_tracks (now : Time) (initial : State) (epoch : UInt64)
    (conformance : ConformanceAxis) (readiness : ReadinessAxis) (v : StateVector)
    (made : newStateVector now initial epoch conformance readiness=.ok v) (calls : List Call) :
    Always apply v calls (Tracks epoch) := by
  have start : Tracks epoch [] v := by
    unfold newStateVector at made
    cases valid : validateState initial with
    | some err => simp [valid] at made
    | none =>
      simp only [valid,Except.ok.injEq] at made
      subst made
      refine ⟨valid,by simp,rfl,?_,.inl ⟨rfl,rfl⟩,rfl⟩
      exact (Nat.mod_eq_of_lt epoch.toNat_lt).symm
  intro pre _
  exact run_induction apply (Tracks epoch) v start (fun tr t i h => h.apply i) pre

def plainIntent (target : State) (digest : String) : TransitionIntent :=
  ⟨target,"review",digest,.other "",.other "",0⟩

def quarantinedVector : StateVector :=
  ⟨.quarantined,.unset,7,0,.breached,.halted,1,"","initialization"⟩

theorem observed_tracks :
    newStateVector 1 .quarantined 7 (.other "") (.other "")=.ok quarantinedVector ∧
    Always apply quarantinedVector
      [⟨2,plainIntent .observed "d"⟩,⟨3,plainIntent .active ""⟩] (Tracks 7) :=
  ⟨rfl,transition_tracks 1 .quarantined 7 (.other "") (.other "") quarantinedVector rfl _⟩

def shuttles : Nat → List Call
  | 0 => []
  | n+1 => ⟨1,plainIntent .observed ""⟩::⟨1,plainIntent .quarantined ""⟩::shuttles n

theorem accepted_shuttles {n : Nat} (v : StateVector) (hv : v.currentState=.quarantined) :
    (accepted (trace apply v (shuttles n))).length=2*n := by
  induction n generalizing v with
  | zero => rfl
  | succ n ih =>
    obtain ⟨cur,prev,ep,count,conf,rdy,last,ev,reason⟩ := v
    obtain rfl : cur=.quarantined := hv
    have rest := ih (run apply ⟨.quarantined,prev,ep,count,conf,rdy,last,ev,reason⟩
      [⟨1,plainIntent .observed ""⟩,⟨1,plainIntent .quarantined ""⟩]) rfl
    refine (congrArg (fun k => k+1+1) rest).trans ?_
    omega

theorem transitionCount_wraps :
    newStateVector 1 .quarantined 7 (.other "") (.other "")=.ok quarantinedVector ∧
    ¬(run apply quarantinedVector (shuttles (2^63))).transitionCount.toNat=
      (accepted (trace apply quarantinedVector (shuttles (2^63)))).length := by
  refine ⟨rfl,fun same => ?_⟩
  rw [accepted_shuttles _ rfl] at same
  have low := (run apply quarantinedVector (shuttles (2^63))).transitionCount.toNat_lt
  omega

end KServeLLM.Lifecycle
