import KServeLLM.Framework.GoTypes

namespace KServeLLM.Governance

abbrev WorkloadClass := String

def workloadClassGenerative : WorkloadClass := "generative"
def workloadClassEmbedding : WorkloadClass := "embedding"
def workloadClassReranking : WorkloadClass := "reranking"
def workloadClassEvaluation : WorkloadClass := "evaluation"
def workloadClassDecision : WorkloadClass := "decision"

abbrev DecisionCapability := String

def decisionCapabilityPredicate : DecisionCapability := "predicate"
def decisionCapabilityChoice : DecisionCapability := "choice"
def decisionCapabilityScore : DecisionCapability := "score"

inductive SubstrateVectorState where
  | unknown | pending | satisfied | degraded | failed
  deriving DecidableEq

inductive SubstrateDimension where
  | ready | admitted | calibrated | compatible | resident | available
  deriving DecidableEq

namespace SubstrateDimension

def text : SubstrateDimension → String
  | ready => "READY"
  | admitted => "ADMITTED"
  | calibrated => "CALIBRATED"
  | compatible => "COMPATIBLE"
  | resident => "RESIDENT"
  | available => "AVAILABLE"

def all : List SubstrateDimension := [ready,admitted,calibrated,compatible,resident,available]

theorem mem_all (dim : SubstrateDimension) : dim∈all := by cases dim <;> decide

end SubstrateDimension

structure ProfileSLA where
  maxLatencyMillis : Option Int32 := none

structure ProfileApplicability where
  supportedRuntimes : List String := []

structure ProfileEvidence where
  requiredAttestations : List String := []
  minTrustLevel : String := ""
  (requireSBOM requireSignature : Bool := false)

structure RuntimeLinkSpec where
  engine : String

structure ModelServingProfileSpec where
  workloadClass : WorkloadClass
  decisionCapabilities : List DecisionCapability := []
  runtime : Option RuntimeLinkSpec := none
  sla : Option ProfileSLA := none
  applicability : Option ProfileApplicability := none
  evidence : Option ProfileEvidence := none

structure ModelServingProfile where
  name : String
  spec : ModelServingProfileSpec

structure EvaluatorTarget (F : Type) where
  name : String
  workloadClass : WorkloadClass
  capabilities : List DecisionCapability := []
  (runtimeEngine endpoint : String := "")
  (endpointHealthy endpointInitializing : Bool := false)
  trustLevel : String := ""
  attestations : List String := []
  (hasSignature hasSBOM artifactsResident artifactsLoading : Bool := false)
  calibrationScore : Option F := none
  hasCalibration : Bool := false
  (observedLatencyMs readyReplicas desiredReplicas : Int32 := 0)

structure DimensionObservation where
  dimension : SubstrateDimension
  state : SubstrateVectorState
  reason : String

abbrev Observations := SubstrateDimension → DimensionObservation

structure SubstrateEvaluationReport where
  (workloadName profileName : String)
  vector : SubstrateDimension → SubstrateVectorState
  observations : Observations
  isOperable : Bool
  failureReasons : List String
  evaluatedAt : Time

inductive ProfileError where
  | nilProfile | nilInput
  | invalidWorkloadClass (cls : WorkloadClass)
  | noDecisionCapability
  | invalidDecisionCapability (capability : DecisionCapability)
  | invalidSpec (cause : ProfileError)
  deriving DecidableEq

def ProfileError.text : ProfileError → String
  | nilProfile => "profile cannot be nil"
  | nilInput => "profile and target must not be nil"
  | invalidWorkloadClass cls => "invalid workloadClass "++cls.quote
  | noDecisionCapability => "decision workload class requires at least one decision capability"
  | invalidDecisionCapability capability => "invalid decisionCapability "++capability.quote
  | invalidSpec cause => "invalid profile spec: "++cause.text

def validateModelServingProfile (profile : Option ModelServingProfile) : Except ProfileError Unit :=
  match profile with
  | none => .error .nilProfile
  | some profile =>
    let spec := profile.spec
    if ¬spec.workloadClass∈[workloadClassGenerative,workloadClassEmbedding,workloadClassReranking,
        workloadClassEvaluation,workloadClassDecision] then
      .error (.invalidWorkloadClass spec.workloadClass)
    else if spec.workloadClass=workloadClassDecision ∧ spec.decisionCapabilities=[] then
      .error .noDecisionCapability
    else
      match spec.decisionCapabilities.find? fun c =>
          c∉[decisionCapabilityPredicate,decisionCapabilityChoice,decisionCapabilityScore] with
      | some c => .error (.invalidDecisionCapability c)
      | none => .ok ()

def trustScores (level : String) : Int :=
  if level="denied" then -1
  else if level="unknown" then 0
  else if level="asserted" then 1
  else if level="verified" then 2
  else if level="trusted" then 3
  else 0

def isTrustSufficient (actual required : String) : Bool := trustScores required ≤ trustScores actual

section

variable {F : Type} [Float64 F]

def checkReady (target : EvaluatorTarget F) : DimensionObservation :=
  if target.endpointInitializing then ⟨.ready,.pending,"Initializing"⟩
  else if target.endpoint="" ∨ !target.endpointHealthy then ⟨.ready,.failed,"EndpointUnhealthy"⟩
  else ⟨.ready,.satisfied,"EndpointReady"⟩

def checkAdmitted (target : EvaluatorTarget F) (profile : ModelServingProfile) :
    DimensionObservation :=
  match profile.spec.evidence with
  | none => ⟨.admitted,.satisfied,"NoEvidenceConstraints"⟩
  | some ev =>
    if target.trustLevel="denied" then ⟨.admitted,.failed,"TrustDenied"⟩
    else if ev.minTrustLevel≠"" ∧ !isTrustSufficient target.trustLevel ev.minTrustLevel then
      ⟨.admitted,.failed,"InsufficientTrust"⟩
    else if ev.requiredAttestations.any fun a => a∉target.attestations then
      ⟨.admitted,.failed,"MissingAttestation"⟩
    else if ev.requireSBOM && !target.hasSBOM then ⟨.admitted,.failed,"MissingSBOM"⟩
    else if ev.requireSignature && !target.hasSignature then
      ⟨.admitted,.failed,"MissingSignature"⟩
    else ⟨.admitted,.satisfied,"Admitted"⟩

def checkCalibrated (target : EvaluatorTarget F) (profile : ModelServingProfile) :
    DimensionObservation :=
  if ¬(profile.spec.workloadClass=workloadClassDecision ∨
      profile.spec.workloadClass=workloadClassEvaluation) then
    ⟨.calibrated,.satisfied,"CalibrationNotRequired"⟩
  else if !target.hasCalibration then ⟨.calibrated,.failed,"UncalibratedEvaluator"⟩
  else if target.calibrationScore.any fun score => Float64.lt score (Float64.ofInt 0) then
    ⟨.calibrated,.degraded,"CalibrationDegraded"⟩
  else ⟨.calibrated,.satisfied,"Calibrated"⟩

def checkCompatible (target : EvaluatorTarget F) (profile : ModelServingProfile) :
    DimensionObservation :=
  if target.workloadClass≠profile.spec.workloadClass then
    ⟨.compatible,.failed,"WorkloadClassMismatch"⟩
  else if profile.spec.decisionCapabilities.any fun c => c∉target.capabilities then
    ⟨.compatible,.failed,"MissingDecisionCapability"⟩
  else if profile.spec.runtime.any fun runtime => runtime.engine≠"" ∧ target.runtimeEngine≠"" ∧
      target.runtimeEngine≠runtime.engine then
    ⟨.compatible,.failed,"IncompatibleRuntimeEngine"⟩
  else if profile.spec.applicability.any fun applicability =>
      applicability.supportedRuntimes≠[] ∧ target.runtimeEngine∉applicability.supportedRuntimes then
    ⟨.compatible,.failed,"UnsupportedRuntime"⟩
  else ⟨.compatible,.satisfied,"Compatible"⟩

def checkResident (target : EvaluatorTarget F) : DimensionObservation :=
  if target.artifactsLoading then ⟨.resident,.pending,"WarmingCache"⟩
  else if !target.artifactsResident then ⟨.resident,.failed,"ArtifactsNotResident"⟩
  else ⟨.resident,.satisfied,"Resident"⟩

def checkAvailable (target : EvaluatorTarget F) (profile : ModelServingProfile) :
    DimensionObservation :=
  if target.readyReplicas ≤ 0 then ⟨.available,.failed,"ZeroReadyReplicas"⟩
  else if 0 < target.desiredReplicas ∧ target.readyReplicas < target.desiredReplicas then
    ⟨.available,.degraded,"ReplicasDegraded"⟩
  else if (profile.spec.sla.bind (·.maxLatencyMillis)).any fun limit =>
      limit < target.observedLatencyMs then
    ⟨.available,.degraded,"LatencySLAViolated"⟩
  else ⟨.available,.satisfied,"Available"⟩

def observe (target : EvaluatorTarget F) (profile : ModelServingProfile) : Observations
  | .ready => checkReady target
  | .admitted => checkAdmitted target profile
  | .calibrated => checkCalibrated target profile
  | .compatible => checkCompatible target profile
  | .resident => checkResident target
  | .available => checkAvailable target profile

def collectFailures (order : RangeOrder SubstrateDimension) (obsMap : Observations) : List String :=
  ((order.arrange SubstrateDimension.all).filter fun dim =>
    (obsMap dim).state=.failed || (obsMap dim).state=.pending).map fun dim =>
      dim.text++":"++(obsMap dim).reason

def evaluateSubstrateState (order : RangeOrder SubstrateDimension) (now : Time)
    (profile : Option ModelServingProfile) (target : Option (EvaluatorTarget F)) :
    Except ProfileError SubstrateEvaluationReport :=
  match profile,target with
  | some profile,some target =>
    match validateModelServingProfile (some profile) with
    | .error err => .error (.invalidSpec err)
    | .ok () =>
      let obsMap := observe target profile
      let failures := collectFailures order obsMap
      .ok {
        workloadName := target.name
        profileName := profile.name
        vector := fun dim => (obsMap dim).state
        observations := obsMap
        isOperable := failures=[] ∧ (obsMap .ready).state=.satisfied
        failureReasons := failures
        evaluatedAt := now}
  | _,_ => .error .nilInput

end

variable {F : Type} [Float64 F]

inductive TrustLevel where
  | unknown | asserted | verified | trusted
  deriving DecidableEq

namespace TrustLevel

def rank : TrustLevel → Nat
  | unknown => 0
  | asserted => 1
  | verified => 2
  | trusted => 3

def ofText (text : String) : Option TrustLevel :=
  if text="unknown" then some unknown
  else if text="asserted" then some asserted
  else if text="verified" then some verified
  else if text="trusted" then some trusted
  else none

theorem trustScores_eq {text : String} (allowed : text≠"denied") :
    trustScores text=((ofText text).map rank).getD 0 := by
  unfold trustScores ofText
  rw [if_neg allowed]
  split
  · rfl
  split
  · rfl
  split
  · rfl
  split <;> rfl

theorem ofText_denied : ofText "denied"=none := by decide

end TrustLevel

structure Trusted (profile : ModelServingProfile) (target : EvaluatorTarget F) : Prop where
  allowed : target.trustLevel≠"denied"
  enough : ∀ ev,profile.spec.evidence=some ev → ev.minTrustLevel≠"" → ∃ required actual,
    TrustLevel.ofText ev.minTrustLevel=some required ∧
      TrustLevel.ofText target.trustLevel=some actual ∧ required.rank ≤ actual.rank

structure Cleared (profile : ModelServingProfile) (target : EvaluatorTarget F) : Prop where
  reachable : target.endpointInitializing=false ∧ target.endpoint≠"" ∧ target.endpointHealthy=true
  evidenced : ∀ ev,profile.spec.evidence=some ev → target.trustLevel≠"denied" ∧
    (ev.minTrustLevel≠"" → trustScores ev.minTrustLevel ≤ trustScores target.trustLevel) ∧
    (∀ a∈ev.requiredAttestations,a∈target.attestations) ∧
    (ev.requireSBOM → target.hasSBOM) ∧ (ev.requireSignature → target.hasSignature)
  calibrated : profile.spec.workloadClass=workloadClassDecision ∨
    profile.spec.workloadClass=workloadClassEvaluation → target.hasCalibration
  sameClass : target.workloadClass=profile.spec.workloadClass
  capable : ∀ c∈profile.spec.decisionCapabilities,c∈target.capabilities
  sameEngine : ∀ runtime,profile.spec.runtime=some runtime → runtime.engine≠"" →
    target.runtimeEngine≠"" → target.runtimeEngine=runtime.engine
  supported : ∀ applicability,profile.spec.applicability=some applicability →
    applicability.supportedRuntimes≠[] → target.runtimeEngine∈applicability.supportedRuntimes
  resident : target.artifactsLoading=false ∧ target.artifactsResident=true
  running : 0 < target.readyReplicas

def DimensionObservation.Clear (obs : DimensionObservation) : Prop :=
  obs.state≠.failed ∧ obs.state≠.pending

-- A chain of guards is clear when every guard that leads to a failure is passed.
section

variable (c : Prop) [Decidable c] (dim : SubstrateDimension) (reason : String)
  (rest : DimensionObservation)

theorem failed_clear :
    (if c then ⟨dim,.failed,reason⟩ else rest : DimensionObservation).Clear ↔ ¬c ∧ rest.Clear := by
  split <;> simp [DimensionObservation.Clear, *]

theorem pending_clear : (if c then ⟨dim,.pending,reason⟩ else rest : DimensionObservation).Clear ↔
      ¬c ∧ rest.Clear := by
  split <;> simp [DimensionObservation.Clear, *]

theorem degraded_clear : (if c then ⟨dim,.degraded,reason⟩ else rest : DimensionObservation).Clear ↔
      c ∨ rest.Clear := by
  split <;> simp [DimensionObservation.Clear, *]

theorem satisfied_clear : (⟨dim,.satisfied,reason⟩ : DimensionObservation).Clear := by
  simp [DimensionObservation.Clear]

end

variable (target : EvaluatorTarget F)

omit [Float64 F] in
theorem checkReady_clear :
    (checkReady target).Clear ↔ target.endpointInitializing=false ∧ target.endpoint≠"" ∧
      target.endpointHealthy=true := by
  simp [checkReady,pending_clear,failed_clear,satisfied_clear]

variable {profile : ModelServingProfile}

omit [Float64 F] in
theorem checkAdmitted_clear :
    (checkAdmitted target profile).Clear ↔ ∀ ev,profile.spec.evidence=some ev →
      target.trustLevel≠"denied" ∧
      (ev.minTrustLevel≠"" → trustScores ev.minTrustLevel ≤ trustScores target.trustLevel) ∧
      (∀ a∈ev.requiredAttestations,a∈target.attestations) ∧
      (ev.requireSBOM → target.hasSBOM) ∧ (ev.requireSignature → target.hasSignature) := by
  unfold checkAdmitted
  cases profile.spec.evidence with
  | none => simp [satisfied_clear]
  | some ev => simp [failed_clear,satisfied_clear,isTrustSufficient]

theorem checkCalibrated_clear : (checkCalibrated target profile).Clear ↔
      (profile.spec.workloadClass=workloadClassDecision ∨
        profile.spec.workloadClass=workloadClassEvaluation → target.hasCalibration) := by
  unfold checkCalibrated
  split
  · rename_i other
    simp [satisfied_clear,other]
  · rename_i judged
    rw [not_not] at judged
    simp [failed_clear,degraded_clear,satisfied_clear,judged]

omit [Float64 F] in
theorem checkCompatible_clear : (checkCompatible target profile).Clear ↔
      target.workloadClass=profile.spec.workloadClass ∧
      (∀ c∈profile.spec.decisionCapabilities,c∈target.capabilities) ∧
      (∀ runtime,profile.spec.runtime=some runtime → runtime.engine≠"" →
        target.runtimeEngine≠"" → target.runtimeEngine=runtime.engine) ∧
      ∀ applicability,profile.spec.applicability=some applicability →
        applicability.supportedRuntimes≠[] →
        target.runtimeEngine∈applicability.supportedRuntimes := by
  unfold checkCompatible
  simp only [failed_clear,satisfied_clear,and_true]
  cases profile.spec.runtime <;> cases profile.spec.applicability <;> simp

omit [Float64 F] in
theorem checkResident_clear : (checkResident target).Clear ↔
      target.artifactsLoading=false ∧ target.artifactsResident=true := by
  simp [checkResident,pending_clear,failed_clear,satisfied_clear]

omit [Float64 F] in
theorem checkAvailable_clear :
    (checkAvailable target profile).Clear ↔ 0 < target.readyReplicas := by
  unfold checkAvailable
  simp only [failed_clear,degraded_clear,satisfied_clear,or_true,and_true,Int32.not_le]

theorem collectFailures_nil (order : RangeOrder SubstrateDimension) (obsMap : Observations) :
    collectFailures order obsMap=[] ↔ ∀ dim,(obsMap dim).Clear := by
  have every dim : dim∈order.arrange SubstrateDimension.all :=
    (order.perm _).mem_iff.mpr dim.mem_all
  simp [collectFailures,DimensionObservation.Clear,every]

theorem observe_clear (profile : ModelServingProfile) :
    (∀ dim,(observe target profile dim).Clear) ↔ Cleared profile target := by
  constructor
  · intro clear
    obtain ⟨sameClass,capable,sameEngine,supported⟩ :=
      (checkCompatible_clear target).mp (clear .compatible)
    exact ⟨(checkReady_clear target).mp (clear .ready),
      (checkAdmitted_clear target).mp (clear .admitted),
      (checkCalibrated_clear target).mp (clear .calibrated),
      sameClass,capable,sameEngine,supported,
      (checkResident_clear target).mp (clear .resident),
      (checkAvailable_clear target).mp (clear .available)⟩
  · intro h dim
    cases dim with
    | ready => exact (checkReady_clear target).mpr h.reachable
    | admitted => exact (checkAdmitted_clear target).mpr h.evidenced
    | calibrated => exact (checkCalibrated_clear target).mpr h.calibrated
    | compatible =>
      exact (checkCompatible_clear target).mpr ⟨h.sameClass,h.capable,h.sameEngine,h.supported⟩
    | resident => exact (checkResident_clear target).mpr h.resident
    | available => exact (checkAvailable_clear target).mpr h.running

theorem operable_iff {order : RangeOrder SubstrateDimension} {now : Time}
    {target : EvaluatorTarget F}
    {report : SubstrateEvaluationReport}
    (done : evaluateSubstrateState order now (some profile) (some target)=.ok report) :
    report.isOperable=true ↔ Cleared profile target := by
  unfold evaluateSubstrateState at done
  dsimp only at done
  split at done
  · cases done
  · cases done
    rw [decide_eq_true_iff,collectFailures_nil,observe_clear]
    refine ⟨And.left,fun cleared => ⟨cleared,?_⟩⟩
    simp [observe,checkReady,cleared.reachable]

theorem enough_iff {required actual : String} (allowed : actual≠"denied")
    (sufficient : trustScores required ≤ trustScores actual) :
    (∃ r a,TrustLevel.ofText required=some r ∧ TrustLevel.ofText actual=some a ∧ r.rank ≤ a.rank) ↔
    ∃ r,TrustLevel.ofText required=some r ∧ (r=.unknown → (TrustLevel.ofText actual).isSome) := by
  constructor
  · rintro ⟨r,a,named,held,_⟩
    exact ⟨r,named,fun _ => by rw [held]; rfl⟩
  · rintro ⟨r,named,lowest⟩
    have plain : required≠"denied" := by
      rintro rfl
      cases named
    rw [TrustLevel.trustScores_eq plain,TrustLevel.trustScores_eq allowed,named] at sufficient
    cases held : TrustLevel.ofText actual with
    | none =>
      -- an unrecognised level scores zero, which is enough for the lowest level alone
      rw [held] at sufficient lowest
      cases r with
      | unknown => cases lowest rfl
      | _ => exact absurd sufficient (by decide)
    | some a =>
      rw [held] at sufficient
      exact ⟨r,a,named,rfl,Int.ofNat_le.mp sufficient⟩

theorem operable_trusted_iff (order : RangeOrder SubstrateDimension) (now : Time)
    (profile : ModelServingProfile) (target : EvaluatorTarget F)
    (report : SubstrateEvaluationReport)
    (done : evaluateSubstrateState order now (some profile) (some target)=.ok report) :
    (report.isOperable=true → Trusted profile target) ↔ (Cleared profile target →
        (profile.spec.evidence.isNone → target.trustLevel≠"denied") ∧
        ∀ ev,profile.spec.evidence=some ev → ev.minTrustLevel≠"" →
          ∃ required,TrustLevel.ofText ev.minTrustLevel=some required ∧
            (required=.unknown → (TrustLevel.ofText target.trustLevel).isSome)) := by
  rw [operable_iff done]
  refine forall_congr' fun cleared => ⟨fun trusted => ?_,?_⟩
  · refine ⟨fun _ => trusted.allowed,fun ev given named => ?_⟩
    exact (enough_iff trusted.allowed ((cleared.evidenced ev given).2.1 named)).mp
      (trusted.enough ev given named)
  · rintro ⟨unchecked,recognised⟩
    have allowed : target.trustLevel≠"denied" := by
      cases given : profile.spec.evidence with
      | none => exact unchecked (by rw [given]; rfl)
      | some ev => exact (cleared.evidenced ev given).1
    refine ⟨allowed,fun ev given named => ?_⟩
    exact (enough_iff allowed ((cleared.evidenced ev given).2.1 named)).mpr
      (recognised ev given named)

def readyTarget (trustLevel : String) : EvaluatorTarget Float where
  name := "judge"
  workloadClass := workloadClassGenerative
  endpoint := "http://judge:8000"
  endpointHealthy := true
  trustLevel
  artifactsResident := true
  readyReplicas := 1

def profileOf (evidence : Option ProfileEvidence) : ModelServingProfile where
  name := "p"
  spec := {workloadClass := workloadClassGenerative, evidence}

def operable (evidence : Option ProfileEvidence) (trustLevel : String) : Except ProfileError Bool :=
  (evaluateSubstrateState (RangeOrder.listed _) 0 (some (profileOf evidence))
    (some (readyTarget trustLevel))).map (·.isOperable)

theorem verified_target_trusted :
    operable (some {minTrustLevel := "asserted"}) "verified"=.ok true ∧
      Trusted (profileOf (some {minTrustLevel := "asserted"})) (readyTarget "verified") := by
  refine ⟨by decide,(operable_trusted_iff (RangeOrder.listed _) 0 _ (readyTarget "verified") _
    rfl).mpr ?_ (by decide)⟩
  intro _
  decide

theorem denied_target_operates : operable none "denied"=.ok true ∧
      ¬Trusted (profileOf none) (readyTarget "denied") ∧
    operable (some {minTrustLevel := "Trusted"}) "unknown"=.ok true ∧
      ¬Trusted (profileOf (some {minTrustLevel := "Trusted"})) (readyTarget "unknown") ∧
    operable (some {minTrustLevel := "unknown"}) "revoked"=.ok true ∧
      ¬Trusted (profileOf (some {minTrustLevel := "unknown"})) (readyTarget "revoked") := by
  refine ⟨by decide,fun trusted => trusted.allowed rfl,by decide,fun trusted => ?_,by decide,
    fun trusted => ?_⟩
  · obtain ⟨_,_,named,_⟩ := trusted.enough _ rfl (by decide)
    exact absurd named (by simp [TrustLevel.ofText])
  · obtain ⟨_,_,_,held,_⟩ := trusted.enough _ rfl (by decide)
    exact absurd held (by simp [TrustLevel.ofText,readyTarget])

end KServeLLM.Governance
