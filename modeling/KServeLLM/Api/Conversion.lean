import KServeLLM.Api.ServiceTypes

namespace KServeLLM.Api

def deepCopyStringMap (src : StringMap) : StringMap := fun key => src key

def deepCopyStrings (src : List String) : List String := []++src

def deepCopyEnv {K : Kubernetes} (src : List K.EnvVar) : List K.EnvVar := src.map fun v => v

section

variable {K : Kubernetes}

/-! The two directions of a converter copy the same fields; each pair shares its copy. -/

def LocalObjectReference.copy (src : LocalObjectReference) : LocalObjectReference :=
  {name := src.name}

def ExternalSecretData.copy (src : ExternalSecretData) : ExternalSecretData where
  secretKey := src.secretKey
  remoteRef := {key := src.remoteRef.key,property := src.remoteRef.property}

def ExternalSecretSpec.copy (src : ExternalSecretSpec) : ExternalSecretSpec where
  secretStoreRef := {name := src.secretStoreRef.name,kind := src.secretStoreRef.kind}
  refreshInterval := src.refreshInterval
  data := src.data.map ExternalSecretData.copy

def StorageSpec.copy (src : StorageSpec) : StorageSpec where
  serviceAccountName := src.serviceAccountName
  storageContainerRef := src.storageContainerRef
  vaultRef := src.vaultRef
  vaultAddr := src.vaultAddr
  secretRef := src.secretRef.map LocalObjectReference.copy
  externalSecret := src.externalSecret.map ExternalSecretSpec.copy

def ModelSpec.copy (src : ModelSpec) : ModelSpec where
  uri := src.uri
  name := src.name
  revision := src.revision
  hardwareAware := src.hardwareAware
  storage := src.storage.map StorageSpec.copy

def ParallelismSpec.copy (src : ParallelismSpec) : ParallelismSpec where
  tensor := src.tensor
  data := src.data
  dataLocal := src.dataLocal
  gpuDevices := []++src.gpuDevices
  expert := src.expert
  pipeline := src.pipeline
  eplbEnabled := src.eplbEnabled

def WVASpec.copy (src : WVASpec) : WVASpec := {variantCost := src.variantCost}

def KEDAFallbackSpec.copy (src : KEDAFallbackSpec) : KEDAFallbackSpec where
  failureThreshold := src.failureThreshold
  replicas := src.replicas

def KEDASpec.copy (src : KEDASpec) : KEDASpec where
  pollingInterval := src.pollingInterval
  cooldownPeriod := src.cooldownPeriod
  initialCooldownPeriod := src.initialCooldownPeriod
  idleReplicaCount := src.idleReplicaCount
  fallback := src.fallback.map KEDAFallbackSpec.copy

def HPASpec.copy (src : HPASpec) : HPASpec where
  targetCPUUtilizationPercentage := src.targetCPUUtilizationPercentage

def ScalingSpec.copy (src : ScalingSpec) : ScalingSpec where
  minReplicas := src.minReplicas
  maxReplicas := src.maxReplicas
  wva := src.wva.map WVASpec.copy
  keda := src.keda.map KEDASpec.copy
  hpa := src.hpa.map HPASpec.copy

def ManagedGatewaySpec.copy (src : ManagedGatewaySpec) : ManagedGatewaySpec :=
  {gatewayClassName := src.gatewayClassName}

def GatewayRef.copy (src : GatewayRef) : GatewayRef where
  name := src.name
  gatewayNamespace := src.gatewayNamespace

def GatewaySpec.copy (src : GatewaySpec) : GatewaySpec where
  managed := src.managed.map ManagedGatewaySpec.copy
  existingRef := src.existingRef.map GatewayRef.copy

def ResilienceSpec.copy (src : ResilienceSpec) : ResilienceSpec where
  timeout := src.timeout
  maxRetries := src.maxRetries
  retryOn := src.retryOn

def HTTPRouteSpec.copy (src : HTTPRouteSpec) : HTTPRouteSpec where
  hostnames := deepCopyStrings src.hostnames
  resilience := src.resilience.map ResilienceSpec.copy

def RouteSpec.copy (src : RouteSpec) : RouteSpec where
  httpRoute := src.httpRoute.map HTTPRouteSpec.copy

def SchedulerConfigRef.copy (src : SchedulerConfigRef) : SchedulerConfigRef where
  name := src.name
  key := src.key

def ConfigReference.copy (src : ConfigReference) : ConfigReference := {name := src.name}

def SLOSpec.copy (src : SLOSpec) : SLOSpec where
  targetP99LatencyMs := src.targetP99LatencyMs
  targetAvailability := src.targetAvailability
  errorBudgetDays := src.errorBudgetDays

def CanarySpec.copy (src : CanarySpec) : CanarySpec where
  weight := src.weight
  baseModel := src.baseModel

def PrefillSpec.copy (src : PrefillSpec K) : PrefillSpec K where
  replicas := src.replicas
  template := src.template

def WorkerSpec.copy (src : WorkerSpec K) : WorkerSpec K := {template := src.template}

def LMCacheSpec.copy (src : LMCacheSpec) : LMCacheSpec where
  mode := src.mode
  chunkSize := src.chunkSize
  localCPU := src.localCPU
  localCPUSizeGiB := src.localCPUSizeGiB
  engineRef := src.engineRef.map LocalObjectReference.copy

def KVTransferSpec.copy (src : KVTransferSpec K) : KVTransferSpec K where
  connector := src.connector
  role := src.role
  extraConfig := deepCopyStringMap src.extraConfig
  env := deepCopyEnv src.env
  lmCache := src.lmCache.map LMCacheSpec.copy

def KVCacheSpec.copy (src : KVCacheSpec K) : KVCacheSpec K where
  dtype := src.dtype
  swapSpaceGB := src.swapSpaceGB
  transfer := src.transfer.map KVTransferSpec.copy

def SpeculativeDecodingSpec.copy (src : SpeculativeDecodingSpec) : SpeculativeDecodingSpec where
  method := src.method
  numTokens := src.numTokens
  draftModel := src.draftModel

def QuantizationSpec.copy (src : QuantizationSpec) : QuantizationSpec where
  method := src.method
  checkpointPath := src.checkpointPath

def ToolSurface.copy (src : ToolSurface) : ToolSurface where
  allowedAPIs := []++src.allowedAPIs
  allowedCIDRs := []++src.allowedCIDRs

def TelemetrySink.copy (src : TelemetrySink) : TelemetrySink where
  type := src.type
  endpoint := src.endpoint

def ObservabilitySpec.copy (src : ObservabilitySpec) : ObservabilitySpec where
  sink := src.sink.map TelemetrySink.copy

def StatePlanes.copy (src : StatePlanes) : StatePlanes where
  lifecycle := src.lifecycle
  trust := src.trust
  binding := src.binding
  composition := src.composition
  risk := src.risk

def AdaptiveMetrics.copy (src : AdaptiveMetrics) : AdaptiveMetrics where
  p50Latency := src.p50Latency
  p95Latency := src.p95Latency
  p99Latency := src.p99Latency
  queueDepth := src.queueDepth
  loadLevel := src.loadLevel

end

namespace V1alpha2

section

variable {K : Kubernetes}

def convertModelSpecToV1 (src : ModelSpec) : ModelSpec := src.copy
def convertModelSpecFromV1 (src : ModelSpec) : ModelSpec := src.copy

def convertStatePlanesToV1 (src : StatePlanes) : StatePlanes := src.copy
def convertStatePlanesFromV1 (src : StatePlanes) : StatePlanes := src.copy

def convertBaseRefsToV1 (src : List ConfigReference) : List ConfigReference :=
  src.map ConfigReference.copy

def convertBaseRefsFromV1 (src : List ConfigReference) : List ConfigReference :=
  src.map ConfigReference.copy

def convertParallelismToV1 (src : Option ParallelismSpec) :
    Option ParallelismSpec := src.map ParallelismSpec.copy

def convertParallelismFromV1 (src : Option ParallelismSpec) :
    Option ParallelismSpec := src.map ParallelismSpec.copy

def convertScalingToV1 (src : Option ScalingSpec) : Option ScalingSpec := src.map ScalingSpec.copy

def convertScalingFromV1 (src : Option ScalingSpec) : Option ScalingSpec := src.map ScalingSpec.copy

def convertSLOToV1 (src : Option SLOSpec) : Option SLOSpec := src.map SLOSpec.copy

def convertSLOFromV1 (src : Option SLOSpec) : Option SLOSpec := src.map SLOSpec.copy

def convertCanaryToV1 (src : Option CanarySpec) : Option CanarySpec := src.map CanarySpec.copy

def convertCanaryFromV1 (src : Option CanarySpec) : Option CanarySpec := src.map CanarySpec.copy

def convertKVCacheToV1 (src : Option (KVCacheSpec K)) :
    Option (KVCacheSpec K) := src.map KVCacheSpec.copy

def convertKVCacheFromV1 (src : Option (KVCacheSpec K)) :
    Option (KVCacheSpec K) := src.map KVCacheSpec.copy

def convertSpeculativeDecodingToV1 (src : Option SpeculativeDecodingSpec) :
    Option SpeculativeDecodingSpec := src.map SpeculativeDecodingSpec.copy

def convertSpeculativeDecodingFromV1 (src : Option SpeculativeDecodingSpec) :
    Option SpeculativeDecodingSpec := src.map SpeculativeDecodingSpec.copy

def convertQuantizationToV1 (src : Option QuantizationSpec) :
    Option QuantizationSpec := src.map QuantizationSpec.copy

def convertQuantizationFromV1 (src : Option QuantizationSpec) :
    Option QuantizationSpec := src.map QuantizationSpec.copy

def convertToolSurfaceToV1 (src : Option ToolSurface) :
    Option ToolSurface := src.map ToolSurface.copy

def convertToolSurfaceFromV1 (src : Option ToolSurface) :
    Option ToolSurface := src.map ToolSurface.copy

def convertObservabilityToV1 (src : Option ObservabilitySpec) :
    Option ObservabilitySpec := src.map ObservabilitySpec.copy

def convertObservabilityFromV1 (src : Option ObservabilitySpec) :
    Option ObservabilitySpec := src.map ObservabilitySpec.copy

def convertAdaptiveMetricsToV1 (src : Option AdaptiveMetrics) :
    Option AdaptiveMetrics := src.map AdaptiveMetrics.copy

def convertAdaptiveMetricsFromV1 (src : Option AdaptiveMetrics) :
    Option AdaptiveMetrics := src.map AdaptiveMetrics.copy

end

def convertSchedulerToV1 (src : SchedulerSpec) : V1.SchedulerSpec where
  replicas := src.replicas
  pool := {selector := src.pool.selector}
  config := src.config.bind fun config => config.ref.map fun ref =>
    {inline := none,ref := some ref.copy}

def convertSchedulerFromV1 (src : V1.SchedulerSpec) : SchedulerSpec where
  replicas := src.replicas
  pool := {selector := src.pool.selector}
  config := src.config.bind fun config => config.ref.map fun ref =>
    {inline := none,ref := some ref.copy}

def convertRouterToV1 (src : RouterSpec) : V1.RouterSpec where
  scheduler := src.scheduler.map convertSchedulerToV1
  gateway := src.gateway.copy
  route := src.route.copy

def convertRouterFromV1 (src : V1.RouterSpec) : RouterSpec where
  scheduler := src.scheduler.map convertSchedulerFromV1
  gateway := src.gateway.copy
  route := src.route.copy

variable {K : Kubernetes}

def Plain (spec : LLMInferenceServiceSpec K) : Prop :=
  spec.prefill.isNone ∧ spec.worker.isNone ∧ spec.kvCache.isNone ∧
    spec.speculativeDecoding.isNone ∧ spec.quantization.isNone ∧ spec.engine="" ∧
    spec.toolSurface.isNone ∧ spec.observability.isNone

instance instDecidablePlain (spec : LLMInferenceServiceSpec K) : Decidable (Plain spec) :=
  inferInstanceAs (Decidable (_ ∧ _))

def convertExperimentalToV1 (src : LLMInferenceService K) (dst : V1.LLMInferenceService K) :
    V1.LLMInferenceService K :=
  if Plain src.spec then dst
  else {dst with spec := {dst.spec with experimental := some {
    prefill := src.spec.prefill.map PrefillSpec.copy
    worker := src.spec.worker.map WorkerSpec.copy
    kvCache := convertKVCacheToV1 src.spec.kvCache
    speculativeDecoding := convertSpeculativeDecodingToV1 src.spec.speculativeDecoding
    quantization := convertQuantizationToV1 src.spec.quantization
    engine := src.spec.engine
    toolSurface := convertToolSurfaceToV1 src.spec.toolSurface
    observability := convertObservabilityToV1 src.spec.observability}}}

def convertExperimentalFromV1 (src : V1.LLMInferenceService K) (dst : LLMInferenceService K) :
    LLMInferenceService K :=
  match src.spec.experimental with
  | none => dst
  | some experimental => {dst with spec := {dst.spec with
      prefill := (experimental.prefill.map PrefillSpec.copy).or dst.spec.prefill
      worker := (experimental.worker.map WorkerSpec.copy).or dst.spec.worker
      kvCache := (convertKVCacheFromV1 experimental.kvCache).or dst.spec.kvCache
      speculativeDecoding := convertSpeculativeDecodingFromV1 experimental.speculativeDecoding
      quantization := convertQuantizationFromV1 experimental.quantization
      engine := experimental.engine
      toolSurface := convertToolSurfaceFromV1 experimental.toolSurface
      observability := convertObservabilityFromV1 experimental.observability}}

def convertTo (src : LLMInferenceService K) (dst : V1.LLMInferenceService K) :
    V1.LLMInferenceService K :=
  convertExperimentalToV1 src {
    objectMeta := src.objectMeta
    spec := {dst.spec with
      model := convertModelSpecToV1 src.spec.model
      replicas := src.spec.replicas
      parallelism := convertParallelismToV1 src.spec.parallelism
      scaling := convertScalingToV1 src.spec.scaling
      template := src.spec.template
      router := convertRouterToV1 src.spec.router
      baseRefs := convertBaseRefsToV1 src.spec.baseRefs
      autoOptimize := src.spec.autoOptimize
      allowedTenants := src.spec.allowedTenants
      costAllocationTags := src.spec.costAllocationTags
      slo := convertSLOToV1 src.spec.slo
      canary := convertCanaryToV1 src.spec.canary}
    status := {
      conditions := src.status.conditions
      url := src.status.url
      replicas := src.status.replicas
      modelReady := src.status.modelReady
      modelRevision := src.status.modelRevision
      observedGeneration := src.status.observedGeneration
      statePlanes := convertStatePlanesToV1 src.status.statePlanes
      optimized := src.status.optimized
      detectedHardware := src.status.detectedHardware
      adaptiveMetrics := convertAdaptiveMetricsToV1 src.status.adaptiveMetrics}}

def convertFrom (src : V1.LLMInferenceService K) (dst : LLMInferenceService K) :
    LLMInferenceService K :=
  convertExperimentalFromV1 src {
    objectMeta := src.objectMeta
    spec := {dst.spec with
      model := convertModelSpecFromV1 src.spec.model
      replicas := src.spec.replicas
      parallelism := convertParallelismFromV1 src.spec.parallelism
      scaling := convertScalingFromV1 src.spec.scaling
      template := src.spec.template
      router := convertRouterFromV1 src.spec.router
      baseRefs := convertBaseRefsFromV1 src.spec.baseRefs
      autoOptimize := src.spec.autoOptimize
      allowedTenants := src.spec.allowedTenants
      costAllocationTags := src.spec.costAllocationTags
      slo := convertSLOFromV1 src.spec.slo
      canary := convertCanaryFromV1 src.spec.canary}
    status := {
      conditions := src.status.conditions
      url := src.status.url
      replicas := src.status.replicas
      modelReady := src.status.modelReady
      modelRevision := src.status.modelRevision
      observedGeneration := src.status.observedGeneration
      statePlanes := convertStatePlanesFromV1 src.status.statePlanes
      optimized := src.status.optimized
      detectedHardware := src.status.detectedHardware
      adaptiveMetrics := convertAdaptiveMetricsFromV1 src.status.adaptiveMetrics}}

def roundTrip (x : LLMInferenceService K) : LLMInferenceService K := convertFrom (convertTo x {}) {}

end V1alpha2

end KServeLLM.Api
