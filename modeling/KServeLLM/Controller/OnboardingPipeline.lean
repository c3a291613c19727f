import KServeLLM.Controller.Objects
import KServeLLM.Controller.SessionReconciler
import KServeLLM.Residency.Machine

namespace KServeLLM.Controller.Onboarding

open Api

abbrev Spec := ModelOnboardingSpec .v1alpha2

abbrev Stage := OnboardingStage .v1alpha2

def phasePending : String := "Pending"
def phaseInProgress : String := "InProgress"
def phaseCompleted : String := "Completed"
def phaseFailed : String := "Failed"
def phaseRolledBack : String := "RolledBack"

def setStatusCondition (c : Condition) : List Condition → List Condition
  | [] => [c]
  | old::rest => if old.type=c.type then c::rest else old::setStatusCondition c rest

structure InferenceService where
  generation : Int64
  conditions : List Condition
  replicas : Int32
  modelReady : Bool
  /-- Whether the spec has prefill workers. -/
  prefill : Bool

structure Rate where
  int32 : Int32
  text : String

structure Metrics where
  successRate : Except String Rate
  p99LatencyMS : Except String Int64

def conditionTrue (svc : InferenceService) (conditionType : String) : Bool :=
  match svc.conditions.find? fun c => c.type=conditionType with
  | none => false
  | some c => c.status="True" && c.observedGeneration=svc.generation

def onboardingResidencyReadiness (svc : InferenceService) :
    Residency.Status×Residency.Policy×Option Residency.Error :=
  let requirePrefill := svc.prefill
  let routeAttached := conditionTrue svc "GatewayReady"
  Residency.project .ready {
    artifactCached := conditionTrue svc "ModelLoaded" || svc.modelReady
    runtimeLoaded := conditionTrue svc "ModelLoaded" || svc.modelReady
    runtimeReady := svc.modelReady
    prefillReady := !requirePrefill || conditionTrue svc "PrefillReady"
    routeAttached
    acceptingRequests := routeAttached && svc.modelReady
    activeRequests := 0
    failure := ""} requirePrefill

def sentinelText : Residency.Sentinel → String
  | .invalidPlan => "invalid residency plan"
  | .invariantViolated => "residency invariant violated"
  | .transitionFailed => "residency transition failed"
  | .transitionTimeout => "residency transition timed out"

def format (cause : String) : List Char → List ErrArg → String
  | '%' :: 'w' :: rest,args => cause++format cause rest args
  | '%' :: 'q' :: rest,.str s :: args => s.quote++format cause rest args
  | c::rest,args => c.toString++format cause rest args
  | [],_ => ""

def errorText : Residency.Error → String
  | .sentinel k => sentinelText k
  | .errorf f cause args => format (errorText cause) f.toList args

def ensureOnboardingResidencyReady (svc : InferenceService) : Except String Unit :=
  match onboardingResidencyReadiness svc with
  | (_,_,some err) => .error ("project model residency: "++errorText err)
  | (status,policy,none) =>
    if !status.ready || !policy.allowRoute then
      .error ("model residency is not ready: "++status.reason)
    else .ok ()

def wrap {α : Type} (front : String) : Except String α → Except String α
  | .ok a => .ok a
  | .error e => .error (front++": "++e)

def executeValidationStage (spec : Spec) (svc : InferenceService) : Except String Unit :=
  wrap ("LLMInferenceService "++spec.modelRef.quote++" is not ready (validation gate)")
    (ensureOnboardingResidencyReady svc)

def executeCanaryStage (svc : InferenceService) : Except String Unit :=
  if svc.replicas < 1 then
    .error ("no ready replicas for canary stage (got "++toString svc.replicas++")")
  else wrap "model is not resident for canary stage" (ensureOnboardingResidencyReady svc)

def executePromotionStage (spec : Spec) (svc : InferenceService) : Except String Unit :=
  wrap ("LLMInferenceService "++spec.modelRef.quote++" not ready for promotion")
    (ensureOnboardingResidencyReady svc)

def validateGateReadiness (svc : InferenceService) (gate : GateCriteria .v1alpha2) :
    Except String Unit :=
  let wanted := " (minSuccessRate="++toString gate.minSuccessRate++"%)"
  if svc.replicas < 1 then .error ("gate: no ready replicas"++wanted)
  else if !svc.modelReady then .error ("gate: model not ready"++wanted)
  else .ok ()

def checkGateSuccessRate (q : Metrics) (gate : GateCriteria .v1alpha2) : Except String Unit :=
  match q.successRate with
  | .error e => .error ("gate: metrics unavailable: "++e)
  | .ok rate =>
    if rate.int32 < gate.minSuccessRate then
      .error ("gate: success rate "++rate.text++"% < required "++toString gate.minSuccessRate++"%")
    else .ok ()

def checkGateLatency (q : Metrics) (gate : GateCriteria .v1alpha2) : Except String Unit :=
  match gate.maxLatencyP99 with
  | none => .ok ()
  | some limit =>
    if limit ≤ 0 then .ok ()
    else
      match q.p99LatencyMS with
      | .error e => .error ("gate: P99 latency metrics unavailable: "++e)
      | .ok p99 =>
        if limit < p99 then
          .error ("gate: P99 latency "++toString p99++"ms > max allowed "++toString limit++"ms")
        else .ok ()

def checkGateCriteria (metrics : Option Metrics) (svc : InferenceService)
    (gate : GateCriteria .v1alpha2) : Except String Unit := do
  validateGateReadiness svc gate
  match metrics with
  | none => .error "gate: promotion metrics backend is not configured"
  | some q => do
    checkGateSuccessRate q gate
    checkGateLatency q gate

def executeGateStage (metrics : Option Metrics) (svc : InferenceService) (stage : Stage) :
    Except String Unit :=
  match stage.gate with
  | none => .ok ()
  | some gate => wrap "gate criteria not met" (checkGateCriteria metrics svc gate)

def executeStage (metrics : Option Metrics) (spec : Spec) (svc : InferenceService)
    (stage : Stage) : Except String Unit :=
  if stage.type="validation" then executeValidationStage spec svc
  else if stage.type="canary" then executeCanaryStage svc
  else if stage.type="gate" then executeGateStage metrics svc stage
  else if stage.type="promotion" then executePromotionStage spec svc
  else .error ("unsupported onboarding stage type "++stage.type.quote)

structure Status where
  (phase currentStage : String := "")
  conditions : List Condition := []
  deriving DecidableEq

structure Stored where
  status : Status := {}
  finalizer : Bool := false
  deriving DecidableEq

structure Copies where
  (stored copy : Status)

structure Round where
  load : Option ApiError := none
  deleting : Bool := false
  update : Option ApiError := none
  service : Except ApiError InferenceService
  metrics : Option Metrics := none
  (patch failurePatch : Option ApiError := none)

structure Answer where
  executed : Option (Nat×Bool)
  result : Except String Duration

def isTerminalOnboardingPhase (phase : String) : Bool :=
  phase=phaseCompleted || phase=phaseRolledBack

def isTerminalStatusPhase (phase : String) : Bool :=
  phase=phaseCompleted || phase=phaseRolledBack || phase=phaseFailed

def progressingConditionStatus (phase : String) : String :=
  if phase=phaseInProgress ∨ phase=phasePending then "True" else "False"

def mergePatch (stored base modified : Status) : Status where
  phase := if modified.phase=base.phase then stored.phase else modified.phase
  currentStage :=
    if modified.currentStage=base.currentStage then stored.currentStage else modified.currentStage
  conditions :=
    if modified.conditions=base.conditions then stored.conditions else modified.conditions

variable (generation : Int64) (spec : Spec)

def transitioned (s : Status) (phase stage reason message : String) : Status :=
  let progressing := setStatusCondition
    ⟨"Progressing",progressingConditionStatus phase,reason,message,generation⟩ s.conditions
  { phase
    currentStage := if stage≠"" then stage else s.currentStage
    conditions :=
      if isTerminalStatusPhase phase then
        setStatusCondition ⟨"Ready",if phase=phaseCompleted then "True" else "False",reason,message,
          generation⟩ progressing
      else progressing }

def transition (patch : Option ApiError) (c : Copies) (phase stage reason message : String) :
    Copies×Except String Duration :=
  let next := transitioned generation c.copy phase stage reason message
  match patch with
  | some err => (⟨c.stored,next⟩,.error ("patch ModelOnboarding status: "++err.text))
  | none =>
    let merged := mergePatch c.stored c.copy next
    (⟨merged,merged⟩,.ok 0)

def nextStageIndex (status : Status) : Nat :=
  if status.currentStage="" ∨ status.phase=phasePending then 0
  else
    match spec.stages.findIdx? fun s => s.name=status.currentStage with
    | some i => i+1
    | none => 0

def requeueAfterStageTransition : Duration := 2*Duration.second

def advancePipeline (round : Round) (svc : InferenceService) (c : Copies) :
    Copies×Option (Nat×Bool)×Except String Duration :=
  if spec.stages.isEmpty then
    let (c,result) := transition generation round.patch c phaseCompleted "" "NoStages"
      "Pipeline completed — no stages configured"
    (c,none,result)
  else
    let i := nextStageIndex spec c.copy
    match spec.stages[i]? with
    | none =>
      let (c,result) := transition generation round.patch c phaseCompleted
        ((spec.stages.getLast?.map (·.name)).getD "") "AllStagesPassed"
        ("all "++toString spec.stages.length++" stages completed successfully")
      (c,none,result)
    | some stage =>
      match executeStage round.metrics spec svc stage with
      | .error e => (c,some (i,false),.error ("execute stage "++stage.name.quote++": "++e))
      | .ok () =>
        let (c,result) := transition generation round.patch c phaseInProgress stage.name
          "StageComplete" ("stage "++stage.name.quote++" completed, advancing pipeline")
        (c,some (i,true),result.map fun _ => requeueAfterStageTransition)

def handlePipelineFailure (round : Round) (c : Copies) (err : String) : Copies :=
  let current := c.copy.currentStage
  if spec.rollbackOnFailure then
    (transition generation round.failurePatch c phaseRolledBack current "RollbackTriggered"
      ("rolling back after failure in stage "++current.quote++": "++err)).1
  else
    (transition generation round.failurePatch c phaseFailed current "StageFailed"
      ("stage "++current.quote++" failed: "++err)).1

def reconcileOnboardingPipeline (round : Round) (status : Status) : Status×Answer :=
  let c : Copies := ⟨status,status⟩
  match round.service with
  | .error .notFound =>
    let (c,result) := transition generation round.patch c phaseFailed "" "ModelNotFound"
      ("LLMInferenceService "++spec.modelRef.quote++" not found")
    (c.stored,⟨none,result⟩)
  | .error err => (status,⟨none,.error ("get LLMInferenceService: "++err.text)⟩)
  | .ok svc =>
    match advancePipeline generation spec round svc c with
    | (c,executed,.error err) =>
      ((handlePipelineFailure generation spec round c err).stored,⟨executed,.ok 0⟩)
    | (c,executed,.ok delay) => (c.stored,⟨executed,.ok delay⟩)

def reconcile (s : Stored) (round : Round) : Stored×Answer :=
  match round.load with
  | some .notFound => (s,⟨none,.ok 0⟩)
  | some err => (s,⟨none,.error ("get ModelOnboarding: "++err.text)⟩)
  | none =>
    if round.deleting then
      if !s.finalizer then (s,⟨none,.ok 0⟩)
      else
        match round.update with
        | some err => (s,⟨none,.error ("remove finalizer: "++err.text)⟩)
        | none => ({s with finalizer := false},⟨none,.ok 0⟩)
    else if !s.finalizer && round.update.isSome then
      (s,⟨none,.error ("add finalizer: "++(round.update.map (·.text)).getD "")⟩)
    else
      let s := {s with finalizer := true}
      if isTerminalOnboardingPhase s.status.phase then (s,⟨none,.ok 0⟩)
      else if s.status.phase="" then
        let (c,result) := transition generation round.patch ⟨s.status,s.status⟩ phasePending ""
          "Initialised" "Pipeline initialised, awaiting first stage"
        ({s with status := c.stored},⟨none,result⟩)
      else
        let (status,answer) := reconcileOnboardingPipeline generation spec round s.status
        ({s with status},answer)

end KServeLLM.Controller.Onboarding
