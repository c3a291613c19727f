namespace KServeLLM.Api

structure Kubernetes where
  (ObjectMeta PodTemplateSpec Condition EnvVar : Type)
  zeroMeta : ObjectMeta
  zeroTemplate : PodTemplateSpec

abbrev StringMap := String → Option String

-- Both API versions declare the types up to the next namespace with the same fields.

structure LocalObjectReference where
  name : String

structure SecretStoreRef where
  (name kind : String)

structure ExternalSecretRemoteRef where
  (key property : String)

structure ExternalSecretData where
  secretKey : String
  remoteRef : ExternalSecretRemoteRef

structure ExternalSecretSpec where
  secretStoreRef : SecretStoreRef
  refreshInterval : String
  data : List ExternalSecretData

structure StorageSpec where
  secretRef : Option LocalObjectReference
  (serviceAccountName storageContainerRef vaultRef vaultAddr : String)
  externalSecret : Option ExternalSecretSpec

structure ModelSpec where
  (uri revision name : String := "")
  storage : Option StorageSpec := none
  hardwareAware : Bool := false

structure ParallelismSpec where
  (tensor data dataLocal : Option Int32)
  gpuDevices : List String
  expert : Bool
  pipeline : Option Int32
  eplbEnabled : Bool

structure WVASpec where
  variantCost : String

structure KEDAFallbackSpec where
  (failureThreshold replicas : Int32)

structure KEDASpec where
  (pollingInterval cooldownPeriod initialCooldownPeriod idleReplicaCount : Option Int32)
  fallback : Option KEDAFallbackSpec

structure HPASpec where
  targetCPUUtilizationPercentage : Option Int32

structure ScalingSpec where
  (minReplicas maxReplicas : Option Int32)
  wva : Option WVASpec
  keda : Option KEDASpec
  hpa : Option HPASpec

structure ManagedGatewaySpec where
  gatewayClassName : String

structure GatewayRef where
  (name gatewayNamespace : String)

structure GatewaySpec where
  managed : Option ManagedGatewaySpec := none
  existingRef : Option GatewayRef := none

structure ResilienceSpec where
  timeout : String
  maxRetries : Int32
  retryOn : String

structure HTTPRouteSpec where
  hostnames : List String
  resilience : Option ResilienceSpec

structure RouteSpec where
  httpRoute : Option HTTPRouteSpec := none

structure InferencePoolSpec where
  selector : StringMap

structure SchedulerConfigRef where
  (name key : String)

structure ConfigReference where
  name : String

structure SLOSpec where
  targetP99LatencyMs : Int64
  targetAvailability : Float
  errorBudgetDays : Int64

structure CanarySpec where
  weight : Int32
  baseModel : String

structure PrefillSpec (K : Kubernetes) where
  replicas : Option Int32
  template : K.PodTemplateSpec

structure WorkerSpec (K : Kubernetes) where
  template : K.PodTemplateSpec

structure LMCacheSpec where
  mode : String
  chunkSize : Option Int32
  localCPU : Option Bool
  localCPUSizeGiB : Option Int32
  engineRef : Option LocalObjectReference

structure KVTransferSpec (K : Kubernetes) where
  (connector role : String)
  extraConfig : StringMap
  env : List K.EnvVar
  lmCache : Option LMCacheSpec

structure KVCacheSpec (K : Kubernetes) where
  dtype : String
  swapSpaceGB : Option Int32
  transfer : Option (KVTransferSpec K)

structure SpeculativeDecodingSpec where
  method : String
  numTokens : Option Int32
  draftModel : String

structure QuantizationSpec where
  (method checkpointPath : String)

structure ToolSurface where
  (allowedAPIs allowedCIDRs : List String)

structure TelemetrySink where
  (type endpoint : String)

structure ObservabilitySpec where
  sink : Option TelemetrySink

structure StatePlanes where
  (lifecycle trust binding composition risk : String := "")

structure AdaptiveMetrics where
  (p50Latency p95Latency p99Latency : String)
  queueDepth : Int64
  loadLevel : String

structure LLMInferenceServiceStatus (K : Kubernetes) where
  statePlanes : StatePlanes := {}
  conditions : List K.Condition := []
  url : String := ""
  replicas : Int32 := 0
  modelReady : Bool := false
  modelRevision : String := ""
  observedGeneration : Int64 := 0
  optimized : Bool := false
  detectedHardware : String := ""
  adaptiveMetrics : Option AdaptiveMetrics := none

namespace V1alpha2

structure PluginParameters where
  raw : List UInt8

structure SchedulerPlugin where
  type : String
  parameters : Option PluginParameters

structure WeightedPluginRef where
  (pluginRef weight : String)

structure SchedulingProfile where
  name : String
  plugins : List WeightedPluginRef

structure EndpointPickerConfigSpec where
  plugins : List SchedulerPlugin
  schedulingProfiles : List SchedulingProfile

structure SchedulerConfigSpec where
  inline : Option EndpointPickerConfigSpec
  ref : Option SchedulerConfigRef

structure SchedulerSpec where
  pool : InferencePoolSpec
  config : Option SchedulerConfigSpec
  replicas : Option Int32

structure RouterSpec where
  gateway : GatewaySpec := {}
  route : RouteSpec := {}
  scheduler : Option SchedulerSpec := none

structure LLMInferenceServiceSpec (K : Kubernetes) where
  model : ModelSpec := {}
  replicas : Option Int32 := none
  parallelism : Option ParallelismSpec := none
  scaling : Option ScalingSpec := none
  template : K.PodTemplateSpec := K.zeroTemplate
  prefill : Option (PrefillSpec K) := none
  worker : Option (WorkerSpec K) := none
  router : RouterSpec := {}
  baseRefs : List ConfigReference := []
  autoOptimize : Option Bool := none
  allowedTenants : List String := []
  costAllocationTags : StringMap := fun _ => none
  slo : Option SLOSpec := none
  canary : Option CanarySpec := none
  speculativeDecoding : Option SpeculativeDecodingSpec := none
  kvCache : Option (KVCacheSpec K) := none
  quantization : Option QuantizationSpec := none
  engine : String := ""
  toolSurface : Option ToolSurface := none
  observability : Option ObservabilitySpec := none

structure LLMInferenceService (K : Kubernetes) where
  objectMeta : K.ObjectMeta := K.zeroMeta
  spec : LLMInferenceServiceSpec K := {}
  status : LLMInferenceServiceStatus K := {}

end V1alpha2

namespace V1

structure EndpointPickerConfigSpec where
  plugins : List String

structure SchedulerConfigSpec where
  inline : Option EndpointPickerConfigSpec
  ref : Option SchedulerConfigRef

structure SchedulerSpec where
  pool : InferencePoolSpec
  config : Option SchedulerConfigSpec
  replicas : Option Int32

structure RouterSpec where
  gateway : GatewaySpec := {}
  route : RouteSpec := {}
  scheduler : Option SchedulerSpec := none

structure ExperimentalSpec (K : Kubernetes) where
  prefill : Option (PrefillSpec K) := none
  worker : Option (WorkerSpec K) := none
  kvCache : Option (KVCacheSpec K) := none
  speculativeDecoding : Option SpeculativeDecodingSpec := none
  quantization : Option QuantizationSpec := none
  engine : String := ""
  toolSurface : Option ToolSurface := none
  observability : Option ObservabilitySpec := none

structure LLMInferenceServiceSpec (K : Kubernetes) where
  model : ModelSpec := {}
  replicas : Option Int32 := none
  parallelism : Option ParallelismSpec := none
  scaling : Option ScalingSpec := none
  template : K.PodTemplateSpec := K.zeroTemplate
  router : RouterSpec := {}
  baseRefs : List ConfigReference := []
  autoOptimize : Option Bool := none
  allowedTenants : List String := []
  costAllocationTags : StringMap := fun _ => none
  slo : Option SLOSpec := none
  canary : Option CanarySpec := none
  experimental : Option (ExperimentalSpec K) := none

structure LLMInferenceService (K : Kubernetes) where
  objectMeta : K.ObjectMeta := K.zeroMeta
  spec : LLMInferenceServiceSpec K := {}
  status : LLMInferenceServiceStatus K := {}

end V1

end KServeLLM.Api
