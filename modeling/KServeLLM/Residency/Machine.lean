import KServeLLM.Framework.GoTypes

namespace KServeLLM.Residency

inductive State where
  | cold | cached | loading | warming | ready | draining | evicting
  | other (text : String)
  deriving DecidableEq

def State.text : State → String
  | .cold => "cold"
  | .cached => "cached"
  | .loading => "loading"
  | .warming => "warming"
  | .ready => "ready"
  | .draining => "draining"
  | .evicting => "evicting"
  | .other text => text

inductive Action where
  | cacheArtifact | loadRuntime | warmRuntime | attachRoute | detachRoute | waitForDrain
  | stopRuntime | evictArtifact
  deriving DecidableEq

inductive Sentinel where
  | invalidPlan | invariantViolated | transitionFailed | transitionTimeout
  deriving DecidableEq

abbrev Error := GoError Sentinel

structure Plan where
  target : State
  requirePrefill : Bool
  timeout : Duration
  deriving DecidableEq

structure Snapshot where
  (state rollbackTarget : State)
  (startedAt deadline : Time)
  deriving DecidableEq

structure Observation where
  (artifactCached runtimeLoaded runtimeReady prefillReady routeAttached acceptingRequests : Bool)
  activeRequests : Int64
  failure : String
  deriving DecidableEq

structure Policy where
  (allowRoute acceptNewRequests retainRuntime retainArtifact : Bool)
  deriving DecidableEq

structure Status where
  state : State
  (ready progressing : Bool)
  reason : String
  deriving DecidableEq

structure Decision where
  snapshot : Snapshot
  actions : List Action
  policy : Policy
  status : Status
  deriving DecidableEq

def Observation.serves (observed : Observation) (requirePrefill : Bool) : Bool :=
  observed.runtimeReady && (!requirePrefill || observed.prefillReady)

def isTransitional : State → Bool
  | .loading | .warming | .draining | .evicting => true
  | _ => false

def isKnownState : State → Bool
  | .cold | .cached | .loading | .warming | .ready | .draining | .evicting => true
  | .other _ => false

def stateReason : State → String
  | .cold => "ArtifactAbsent"
  | .cached => "ArtifactCached"
  | .loading => "RuntimeLoading"
  | .warming => "RuntimeWarming"
  | .draining => "RequestsDraining"
  | .evicting => "ResidencyEvicting"
  | _ => "StateUnknown"

def statusFor (state : State) (observed : Observation) (requirePrefill : Bool) : Status :=
  let status : Status := ⟨state,false,isTransitional state,stateReason state⟩
  if state≠.ready then status
  else if !observed.runtimeReady then {status with reason := "RuntimeUnavailable"}
  else if requirePrefill && !observed.prefillReady then
    {status with reason := "PrefillUnavailable"}
  else {status with ready := true, reason := "ResidentReady"}

def policyFor (state : State) (observed : Observation) (requirePrefill : Bool) : Policy :=
  let ready := decide (state=.ready) && observed.serves requirePrefill
  { allowRoute := ready
    acceptNewRequests := ready
    retainRuntime := decide (state=.loading ∨ state=.warming ∨ state=.ready ∨ state=.draining)
    retainArtifact := decide (state≠.cold ∧ state≠.evicting) }

def validateObservation (state : State) (observed : Observation) (requirePrefill : Bool) :
    Option Error :=
  let violated (format : String) (args : List ErrArg) : Option Error :=
    some (.errorf format (.sentinel .invariantViolated) args)
  if observed.activeRequests<0 then violated "%w: active request count is negative" []
  else if observed.acceptingRequests && !observed.routeAttached then
    violated "%w: requests accepted without an attached route" []
  else if observed.routeAttached && !observed.runtimeReady then
    violated "%w: route attached without a ready runtime" []
  else if observed.routeAttached && requirePrefill && !observed.prefillReady then
    violated "%w: route attached without ready prefill workers" []
  else if observed.acceptingRequests && decide (state≠.ready) then
    violated "%w: state %q accepts new requests" [.str state.text]
  else if 0 < observed.activeRequests ∧ state≠.ready ∧ state≠.draining then
    violated "%w: state %q owns active requests" [.str state.text]
  else none

def project (state : State) (observed : Observation) (requirePrefill : Bool) :
    Status×Policy×Option Error :=
  let policy := policyFor state observed requirePrefill
  match validateObservation state observed requirePrefill with
  | some err =>
      (⟨state,false,false,"InvariantViolation"⟩,
        {policy with allowRoute := false, acceptNewRequests := false},some err)
  | none => (statusFor state observed requirePrefill,policy,none)

def decision (snapshot : Snapshot) (actions : List Action) (observed : Observation)
    (requirePrefill : Bool) : Decision :=
  { snapshot := snapshot
    actions := actions
    policy := policyFor snapshot.state observed requirePrefill
    status := statusFor snapshot.state observed requirePrefill }

def invariantDecision (snapshot : Snapshot) (actions : List Action) (observed : Observation)
    (requirePrefill : Bool) : Decision :=
  let d := decision snapshot actions observed requirePrefill
  { d with
    status := {d.status with ready := false, reason := "InvariantViolation"}
    policy := {d.policy with allowRoute := false, acceptNewRequests := false} }

def defaultTransitionTimeout : Duration := 5*60*Duration.second

def begin (now : Time) (current : Snapshot) (state : State) (timeout : Duration) : Snapshot :=
  let timeout := if timeout ≤ 0 then defaultTransitionTimeout else timeout
  let rollbackTarget :=
    if isTransitional current.state then current.rollbackTarget else current.state
  ⟨state,rollbackTarget,now,now.add timeout⟩

def move (current : Snapshot) (state : State) : Snapshot := {current with state := state}

def settle (_current : Snapshot) (state : State) : Snapshot := ⟨state,state,0,0⟩

def failClosedActions (observed : Observation) : List Action :=
  if observed.routeAttached || observed.acceptingRequests then [.detachRoute] else []

def validatePlan (current : Snapshot) (plan : Plan) : Option Error :=
  if !isKnownState current.state then
    some (.errorf "%w: unknown current state %q" (.sentinel .invalidPlan) [.str current.state.text])
  else if plan.target≠.ready ∧ plan.target≠.cached ∧ plan.target≠.cold then
    some (.errorf "%w: target %q is not stable" (.sentinel .invalidPlan) [.str plan.target.text])
  else none

def recoverReady (current : Snapshot) (plan : Plan) (observed : Observation) : Decision :=
  if observed.serves plan.requirePrefill then
    let actions := if !observed.routeAttached then [Action.attachRoute] else []
    decision (settle current .ready) actions observed plan.requirePrefill
  else decision (move current .warming) [.warmRuntime] observed plan.requirePrefill

def resumeReady (now : Time) (current : Snapshot) (plan : Plan) (observed : Observation) :
    Decision :=
  if observed.serves plan.requirePrefill then
    decision (settle current .ready) [.attachRoute] observed plan.requirePrefill
  else
    decision (begin now current .warming plan.timeout) [.warmRuntime] observed plan.requirePrefill

def advanceToReady (now : Time) (current : Snapshot) (plan : Plan) (observed : Observation) :
    Decision×Option Error :=
  let next (snapshot : Snapshot) (actions : List Action) : Decision×Option Error :=
    (decision snapshot actions observed plan.requirePrefill,none)
  match current.state with
  | .cold =>
      if observed.artifactCached then next (settle current .cached) []
      else next current [.cacheArtifact]
  | .cached =>
      if !observed.artifactCached then next (settle current .cold) [.cacheArtifact]
      else next (begin now current .loading plan.timeout) [.loadRuntime]
  | .loading =>
      if observed.runtimeLoaded then next (move current .warming) [.warmRuntime]
      else next current [.loadRuntime]
  | .warming =>
      if observed.serves plan.requirePrefill then next (settle current .ready) [.attachRoute]
      else next current [.warmRuntime]
  | .ready => (recoverReady current plan observed,none)
  | .draining | .evicting => (resumeReady now current plan observed,none)
  | .other _ =>
      (decision current [] observed plan.requirePrefill,some (.sentinel .invalidPlan))

def advanceDrain (current : Snapshot) (plan : Plan) (observed : Observation) : Decision :=
  if observed.routeAttached then decision current [.detachRoute] observed plan.requirePrefill
  else if 0 < observed.activeRequests then
    decision current [.waitForDrain] observed plan.requirePrefill
  else decision (move current .evicting) [.stopRuntime] observed plan.requirePrefill

def advanceEviction (current : Snapshot) (plan : Plan) (observed : Observation) : Decision :=
  if observed.runtimeLoaded then decision current [.stopRuntime] observed plan.requirePrefill
  else if plan.target=.cached ∧ observed.artifactCached then
    decision (settle current .cached) [] observed plan.requirePrefill
  else if observed.artifactCached then
    decision current [.evictArtifact] observed plan.requirePrefill
  else decision (settle current .cold) [] observed plan.requirePrefill

def advanceToLowerState (now : Time) (current : Snapshot) (plan : Plan)
    (observed : Observation) : Decision×Option Error :=
  let next (snapshot : Snapshot) (actions : List Action) : Decision×Option Error :=
    (decision snapshot actions observed plan.requirePrefill,none)
  if current.state=plan.target then next (settle current current.state) []
  else
    match current.state with
    | .ready => next (begin now current .draining plan.timeout) [.detachRoute]
    | .loading | .warming =>
        next (begin now current .evicting plan.timeout) (failClosedActions observed++[.stopRuntime])
    | .draining => (advanceDrain current plan observed,none)
    | .evicting => (advanceEviction current plan observed,none)
    | .cached => next (begin now current .evicting plan.timeout) [.evictArtifact]
    | .cold => next current [.cacheArtifact]
    | .other _ =>
        (decision current [] observed plan.requirePrefill,some (.sentinel .invalidPlan))

def rollback (current : Snapshot) (observed : Observation) (plan : Plan) (cause : Error) :
    Decision×Option Error :=
  let actions := failClosedActions observed
  let next (snapshot : Snapshot) (actions : List Action) : Decision×Option Error :=
    (decision snapshot actions observed plan.requirePrefill,some cause)
  if 0 < observed.activeRequests then
    next (move current .draining) (actions++[.waitForDrain])
  else if observed.runtimeLoaded then
    next (move current .evicting) (actions++[.stopRuntime])
  else if current.rollbackTarget=.cached ∧ observed.artifactCached then
    next (settle current .cached) actions
  else if observed.artifactCached then
    next (move current .evicting) (actions++[.evictArtifact])
  else next (settle current .cold) actions

def overdue (now : Time) (current : Snapshot) : Bool :=
  isTransitional current.state && !current.deadline.isZero && !now.before current.deadline

def advance (now : Time) (current : Snapshot) (plan : Plan) (observed : Observation) :
    Decision×Option Error :=
  match validatePlan current plan with
  | some err => (decision current [] observed plan.requirePrefill,some err)
  | none =>
    if observed.failure≠"" then
      rollback current observed plan
        (.errorf "%w: %s" (.sentinel .transitionFailed) [.str observed.failure])
    else if overdue now current then
      rollback current observed plan (.sentinel .transitionTimeout)
    else
      match (project current.state observed plan.requirePrefill).2.2 with
      | some err =>
          (invariantDecision current (failClosedActions observed) observed plan.requirePrefill,
            some err)
      | none =>
        match plan.target with
        | .ready => advanceToReady now current plan observed
        | .cached | .cold => advanceToLowerState now current plan observed
        | _ =>
            (decision current [] observed plan.requirePrefill,some (.sentinel .invalidPlan))

end KServeLLM.Residency
