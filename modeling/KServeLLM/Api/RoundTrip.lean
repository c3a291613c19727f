import KServeLLM.Api.Conversion

namespace KServeLLM.Api

/-! A copy of every field is the value itself. -/

@[simp] theorem LocalObjectReference.copy_eq : LocalObjectReference.copy=id := rfl
@[simp] theorem ExternalSecretData.copy_eq : ExternalSecretData.copy=id := rfl
@[simp] theorem WVASpec.copy_eq : WVASpec.copy=id := rfl
@[simp] theorem KEDAFallbackSpec.copy_eq : KEDAFallbackSpec.copy=id := rfl
@[simp] theorem HPASpec.copy_eq : HPASpec.copy=id := rfl
@[simp] theorem ParallelismSpec.copy_eq : ParallelismSpec.copy=id := rfl
@[simp] theorem ManagedGatewaySpec.copy_eq : ManagedGatewaySpec.copy=id := rfl
@[simp] theorem GatewayRef.copy_eq : GatewayRef.copy=id := rfl
@[simp] theorem ResilienceSpec.copy_eq : ResilienceSpec.copy=id := rfl
@[simp] theorem SchedulerConfigRef.copy_eq : SchedulerConfigRef.copy=id := rfl
@[simp] theorem ConfigReference.copy_eq : ConfigReference.copy=id := rfl
@[simp] theorem SLOSpec.copy_eq : SLOSpec.copy=id := rfl
@[simp] theorem CanarySpec.copy_eq : CanarySpec.copy=id := rfl
@[simp] theorem SpeculativeDecodingSpec.copy_eq : SpeculativeDecodingSpec.copy=id := rfl
@[simp] theorem QuantizationSpec.copy_eq : QuantizationSpec.copy=id := rfl
@[simp] theorem ToolSurface.copy_eq : ToolSurface.copy=id := rfl
@[simp] theorem TelemetrySink.copy_eq : TelemetrySink.copy=id := rfl
@[simp] theorem StatePlanes.copy_eq : StatePlanes.copy=id := rfl
@[simp] theorem AdaptiveMetrics.copy_eq : AdaptiveMetrics.copy=id := rfl

@[simp] theorem ExternalSecretSpec.copy_eq : ExternalSecretSpec.copy=id := by
  funext src
  simp [ExternalSecretSpec.copy]

@[simp] theorem StorageSpec.copy_eq : StorageSpec.copy=id := by
  funext src
  simp [StorageSpec.copy]

@[simp] theorem ModelSpec.copy_eq : ModelSpec.copy=id := by
  funext src
  simp [ModelSpec.copy]

@[simp] theorem KEDASpec.copy_eq : KEDASpec.copy=id := by
  funext src
  simp [KEDASpec.copy]

@[simp] theorem ScalingSpec.copy_eq : ScalingSpec.copy=id := by
  funext src
  simp [ScalingSpec.copy]

@[simp] theorem GatewaySpec.copy_eq : GatewaySpec.copy=id := by
  funext src
  simp [GatewaySpec.copy]

@[simp] theorem HTTPRouteSpec.copy_eq : HTTPRouteSpec.copy=id := by
  funext src
  simp [HTTPRouteSpec.copy,deepCopyStrings]

@[simp] theorem RouteSpec.copy_eq : RouteSpec.copy=id := by
  funext src
  simp [RouteSpec.copy]

@[simp] theorem LMCacheSpec.copy_eq : LMCacheSpec.copy=id := by
  funext src
  simp [LMCacheSpec.copy]

@[simp] theorem ObservabilitySpec.copy_eq : ObservabilitySpec.copy=id := by
  funext src
  simp [ObservabilitySpec.copy]

section

variable {K : Kubernetes}

@[simp] theorem PrefillSpec.copy_eq : (PrefillSpec.copy : PrefillSpec K → PrefillSpec K)=id := rfl
@[simp] theorem WorkerSpec.copy_eq : (WorkerSpec.copy : WorkerSpec K → WorkerSpec K)=id := rfl

@[simp] theorem KVTransferSpec.copy_eq :
    (KVTransferSpec.copy : KVTransferSpec K → KVTransferSpec K)=id := by
  funext src
  have sameMap : deepCopyStringMap src.extraConfig=src.extraConfig := rfl
  simp [KVTransferSpec.copy,deepCopyEnv,sameMap]

@[simp] theorem KVCacheSpec.copy_eq : (KVCacheSpec.copy : KVCacheSpec K → KVCacheSpec K)=id := by
  funext src
  simp [KVCacheSpec.copy]

end

namespace V1alpha2

def SchedulerSpec.keepRef (s : SchedulerSpec) : SchedulerSpec :=
  {s with config := s.config.bind fun config => config.ref.map fun ref => ⟨none,some ref⟩}

theorem convertScheduler_back (s : SchedulerSpec) :
    convertSchedulerFromV1 (convertSchedulerToV1 s)=s.keepRef := by
  obtain ⟨_,config,_⟩ := s
  cases config with
  | none => rfl
  | some config =>
    obtain ⟨_,ref⟩ := config
    cases ref with
    | none => rfl
    | some ref => rfl

def SchedulerSpec.RefOnly (s : SchedulerSpec) : Prop :=
  ∀config,s.config=some config → config.inline.isNone ∧ config.ref.isSome

theorem SchedulerSpec.keepRef_eq_iff (s : SchedulerSpec) : s.keepRef=s ↔ s.RefOnly := by
  obtain ⟨_,config,_⟩ := s
  cases config with
  | none => simp [SchedulerSpec.keepRef,SchedulerSpec.RefOnly]
  | some config =>
    obtain ⟨inline,ref⟩ := config
    cases ref with
    | none => simp [SchedulerSpec.keepRef,SchedulerSpec.RefOnly]
    | some ref => cases inline <;> simp [SchedulerSpec.keepRef,SchedulerSpec.RefOnly]

section

variable {K : Kubernetes}

/-! Each pair of converters is inverse to each other on its own section. -/

@[simp] theorem convertModelSpec_back (src : ModelSpec) :
    convertModelSpecFromV1 (convertModelSpecToV1 src)=src := by
  simp [convertModelSpecFromV1,convertModelSpecToV1]

@[simp] theorem convertStatePlanes_back (src : StatePlanes) :
    convertStatePlanesFromV1 (convertStatePlanesToV1 src)=src := by
  simp [convertStatePlanesFromV1,convertStatePlanesToV1]

@[simp] theorem convertBaseRefs_back (src : List ConfigReference) :
    convertBaseRefsFromV1 (convertBaseRefsToV1 src)=src := by
  simp [convertBaseRefsFromV1,convertBaseRefsToV1]

@[simp] theorem convertParallelism_back (src : Option ParallelismSpec) :
    convertParallelismFromV1 (convertParallelismToV1 src)=src := by
  simp [convertParallelismFromV1,convertParallelismToV1]

@[simp] theorem convertScaling_back (src : Option ScalingSpec) :
    convertScalingFromV1 (convertScalingToV1 src)=src := by
  simp [convertScalingFromV1,convertScalingToV1]

@[simp] theorem convertSLO_back (src : Option SLOSpec) :
    convertSLOFromV1 (convertSLOToV1 src)=src := by
  simp [convertSLOFromV1,convertSLOToV1]

@[simp] theorem convertCanary_back (src : Option CanarySpec) :
    convertCanaryFromV1 (convertCanaryToV1 src)=src := by
  simp [convertCanaryFromV1,convertCanaryToV1]

@[simp] theorem convertKVCache_back (src : Option (KVCacheSpec K)) :
    convertKVCacheFromV1 (convertKVCacheToV1 src)=src := by
  simp [convertKVCacheFromV1,convertKVCacheToV1]

@[simp] theorem convertSpeculativeDecoding_back (src : Option SpeculativeDecodingSpec) :
    convertSpeculativeDecodingFromV1 (convertSpeculativeDecodingToV1 src)=src := by
  simp [convertSpeculativeDecodingFromV1,convertSpeculativeDecodingToV1]

@[simp] theorem convertQuantization_back (src : Option QuantizationSpec) :
    convertQuantizationFromV1 (convertQuantizationToV1 src)=src := by
  simp [convertQuantizationFromV1,convertQuantizationToV1]

@[simp] theorem convertToolSurface_back (src : Option ToolSurface) :
    convertToolSurfaceFromV1 (convertToolSurfaceToV1 src)=src := by
  simp [convertToolSurfaceFromV1,convertToolSurfaceToV1]

@[simp] theorem convertObservability_back (src : Option ObservabilitySpec) :
    convertObservabilityFromV1 (convertObservabilityToV1 src)=src := by
  simp [convertObservabilityFromV1,convertObservabilityToV1]

@[simp] theorem convertAdaptiveMetrics_back (src : Option AdaptiveMetrics) :
    convertAdaptiveMetricsFromV1 (convertAdaptiveMetricsToV1 src)=src := by
  simp [convertAdaptiveMetricsFromV1,convertAdaptiveMetricsToV1]

def RefOnly (x : LLMInferenceService K) : Prop := ∀s,x.spec.router.scheduler=some s → s.RefOnly

def withScheduler (x : LLMInferenceService K) (scheduler : Option SchedulerSpec) :
    LLMInferenceService K :=
  {x with spec := {x.spec with router := {x.spec.router with scheduler := scheduler}}}

theorem convertRouter_back (r : RouterSpec) :
    convertRouterFromV1 (convertRouterToV1 r)=
      {r with scheduler := r.scheduler.map SchedulerSpec.keepRef} := by
  have back : convertSchedulerFromV1∘convertSchedulerToV1=SchedulerSpec.keepRef :=
    funext convertScheduler_back
  simp [convertRouterFromV1,convertRouterToV1,back]

theorem roundTrip_eq (x : LLMInferenceService K) :
    roundTrip x=withScheduler x (x.spec.router.scheduler.map SchedulerSpec.keepRef) := by
  have router := convertRouter_back x.spec.router
  by_cases plain : Plain x.spec
  · -- without a specialised section the hub has none either, and none comes back
    obtain ⟨_,_,_,_,_,_,_,_⟩ := id plain
    simp_all [roundTrip,convertTo,convertFrom,convertExperimentalToV1,convertExperimentalFromV1,
      withScheduler]
  · simp [roundTrip,convertTo,convertFrom,convertExperimentalToV1,convertExperimentalFromV1,plain,
      withScheduler,router]

theorem withScheduler_eq_iff (x : LLMInferenceService K) (scheduler : Option SchedulerSpec) :
    withScheduler x scheduler=x ↔ scheduler=x.spec.router.scheduler := by
  constructor
  · intro same
    exact congrArg (fun y => y.spec.router.scheduler) same
  · rintro rfl
    rfl

theorem roundTrip_eq_iff (x : LLMInferenceService K) : roundTrip x=x ↔ RefOnly x := by
  rw [roundTrip_eq,withScheduler_eq_iff,RefOnly]
  cases x.spec.router.scheduler with
  | none => simp
  | some s =>
    rw [Option.map_some,Option.some.injEq,s.keepRef_eq_iff]
    constructor
    · rintro kept t same
      obtain rfl := Option.some.inj same
      exact kept
    · intro all
      exact all s rfl

end

def bareKubernetes : Kubernetes := ⟨Unit,Unit,Unit,Unit,(),()⟩

def inlineScheduler : SchedulerSpec where
  pool := {selector := fun _ => none}
  config := some ⟨some ⟨[⟨"queue-scorer",none⟩],[⟨"default",[⟨"queue-scorer","1"⟩]⟩]⟩,none⟩
  replicas := none

theorem roundTrip_inline_lost :
    let x : LLMInferenceService bareKubernetes :=
      {spec := {router := {scheduler := some inlineScheduler}}}
    (roundTrip x).spec.router.scheduler=some {inlineScheduler with config := none} ∧
      roundTrip x≠x := by
  intro x
  have dropped : (roundTrip x).spec.router.scheduler=some {inlineScheduler with config := none} :=
    rfl
  refine ⟨dropped,fun same => ?_⟩
  rw [same] at dropped
  exact absurd (congrArg SchedulerSpec.config (Option.some.inj dropped)) (by simp [inlineScheduler])

end V1alpha2

end KServeLLM.Api
