import KServeLLM.Api.ServiceTypes
import KServeLLM.Framework.GoStrings
import KServeLLM.Framework.GoTypes

namespace KServeLLM.Autoscaler

open Api

inductive Kind where
  | deployment | service | podDisruptionBudget | leaderWorkerSet | persistentVolumeClaim
  | inferenceService | horizontalPodAutoscaler | scaledObject | workloadVariantAutoscaler
  deriving DecidableEq

structure Trigger where
  (serverAddress metricName query threshold : String)
  deriving DecidableEq

structure Variant where
  (name gpus : String)
  (minReplicas maxReplicas : Int64)
  deriving DecidableEq

inductive Body where
  | scaledObject (target : String) (pollingInterval cooldownPeriod minReplicaCount
      maxReplicaCount : Int64) (triggers : List Trigger)
  | workloadVariantAutoscaler (target : String) (variants : List Variant)
  | horizontalPodAutoscaler (target : String) (minReplicas maxReplicas cpuUtilization : Int32)
  | inferenceService (runtime storageUri : String) (pipelineParallelSize tensorParallelSize : Int64)
  | persistentVolumeClaim (accessModes : List String)
  | other
  deriving DecidableEq

def Body.target : Body → Option String
  | .scaledObject target .. => some target
  | .workloadVariantAutoscaler target _ => some target
  | .horizontalPodAutoscaler target .. => some target
  | _ => none

structure Labels where
  (managedBy inst : String)
  deriving DecidableEq

structure Object where
  labels : Option Labels := none
  /-- The UID of the owner that controls the object. -/
  controller : Option String := none
  body : Body := .other
  deriving DecidableEq

abbrev Cluster := Kind → String → Option Object

def Cluster.put (c : Cluster) (kind : Kind) (name : String) (obj : Object) : Cluster :=
  fun k n => if k=kind ∧ n=name then some obj else c k n

def Cluster.remove (c : Cluster) (kind : Kind) (name : String) : Cluster :=
  fun k n => if k=kind ∧ n=name then none else c k n

structure Service where
  (name ns uid : String)

abbrev Spec (K : Kubernetes) := V1alpha2.LLMInferenceServiceSpec K

def autoscalerLabels (svc : Service) : Labels := ⟨"ckodex-kserve-llm-operator",svc.name⟩

def scaledObjectName (svc : Service) : String := svc.name++"-scaledobject"
def wvaName (svc : Service) : String := svc.name++"-wva"
def hpaName (svc : Service) : String := svc.name++"-hpa"

def prometheus (metricName query threshold : String) : Trigger :=
  ⟨"http://prometheus.monitoring:9090",metricName,query,threshold⟩

variable {K : Kubernetes}

def reconcileKEDA (svc : Service) (spec : Spec K) (scaling : ScalingSpec) (c : Cluster) : Cluster :=
  let minReplicas : Int64 := (scaling.minReplicas.map Int32.toInt64).getD 0
  let maxReplicas : Int64 := (scaling.maxReplicas.map Int32.toInt64).getD 10
  c.put .scaledObject (scaledObjectName svc) {
    labels := some (autoscalerLabels svc)
    controller := some svc.uid
    body := .scaledObject svc.name 10 120 minReplicas maxReplicas
      [prometheus "vllm_requests_waiting"
        ("sum(vllm_requests_waiting\x7bmodel_name=\""++spec.model.name++"\"\x7d)") "5",
        prometheus "vllm_avg_ttft_ms"
        ("avg_over_time(vllm_ttft_ms\x7bmodel_name=\""++spec.model.name++"\"\x7d[1m])") "500"]}

def reconcileWVA (svc : Service) (c : Cluster) : Cluster :=
  c.put .workloadVariantAutoscaler (wvaName svc) {
    labels := some (autoscalerLabels svc)
    controller := some svc.uid
    body := .workloadVariantAutoscaler svc.name
      [⟨"high-throughput","1",1,4⟩,⟨"cost-optimized","1",0,2⟩]}

def reconcileHPA (svc : Service) (scaling : ScalingSpec) (c : Cluster) : Cluster :=
  if scaling.minReplicas.isNone && scaling.maxReplicas.isNone then c
  else
    let body := .horizontalPodAutoscaler svc.name (scaling.minReplicas.getD 1)
      (scaling.maxReplicas.getD 10) 70
    match c .horizontalPodAutoscaler (hpaName svc) with
    | none =>
      c.put .horizontalPodAutoscaler (hpaName svc)
        {labels := some (autoscalerLabels svc), controller := some svc.uid, body}
    | some existing => c.put .horizontalPodAutoscaler (hpaName svc) {existing with body}

def reconcile (svc : Service) (spec : Spec K) (c : Cluster) : Cluster :=
  match spec.scaling with
  | none => c
  | some scaling =>
    if scaling.wva.isSome then reconcileWVA svc c
    else if scaling.keda.isSome then reconcileKEDA svc spec scaling c
    else reconcileHPA svc scaling c

end KServeLLM.Autoscaler
