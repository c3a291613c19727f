import KServeLLM.Autoscaler.Reconciler

namespace KServeLLM.Autoscaler

open Api

variable {K : Kubernetes}

def defaultMultiNodeRuntime : String := "kserve-huggingfaceserver-multinode"

structure Container where
  image : String
  (command args : List String)

abbrev Containers (K : Kubernetes) := K.PodTemplateSpec → List Container

def requiresMultiNode (spec : Spec K) : Bool := spec.worker.isSome ||
    match spec.parallelism with
    | none => false
    | some p => match p.pipeline with
      | none => false
      | some n => 1 < n

def modelPVCClaimName (uri : String) : Except Errorf String :=
  if !GoString.hasPrefix uri.toList "pvc://".toList then
    .error ⟨"KServe v0.19 multi-node storage URI must use pvc://, got %q",[.str uri]⟩
  else
    let remainder := GoString.trimPrefix uri.toList "pvc://".toList
    let claimName := ((GoString.cut '/' remainder).map Prod.fst).getD remainder
    if claimName=[] then
      .error ⟨"KServe v0.19 multi-node storage URI has an empty PVC claim name",[]⟩
    else .ok (String.ofList claimName)

def readWriteMany : String := "ReadWriteMany"

def validateSharedModelPVC (svc : Service) (spec : Spec K) (c : Cluster) : Except Errorf Unit :=
  match modelPVCClaimName spec.model.uri with
  | .error err => .error err
  | .ok claimName =>
    let key := svc.ns++"/"++claimName
    match c .persistentVolumeClaim claimName with
    | none => .error ⟨"get multi-node model PVC %s: %w",[.str key,.str "not found"]⟩
    | some pvc =>
      let accessModes := match pvc.body with
        | .persistentVolumeClaim accessModes => accessModes
        | _ => []
      if readWriteMany∈accessModes then .ok ()
      else .error ⟨"multi-node model PVC %s must declare ReadWriteMany access, got %v",
        .str key::accessModes.map .str⟩

def several (degree : Option Int32) : Bool := degree.any (1 < ·)

def validateMultiNode (spec : Spec K) : Except Errorf Unit :=
  let credentials := spec.model.storage.any fun storage =>
    storage.secretRef.isSome || storage.storageContainerRef≠""
  if !requiresMultiNode spec then
    .error ⟨"KServe multi-node requires spec.worker or pipeline parallelism greater than one",[]⟩
  else if !GoString.hasPrefix spec.model.uri.toList "pvc://".toList then
    .error ⟨"KServe v0.19 multi-node storage URI must use pvc://, got %q",[.str spec.model.uri]⟩
  else if spec.replicas.any (·≠1) then
    .error ⟨"KServe v0.19 multi-node requires exactly one head replica",[]⟩
  else if spec.scaling.isSome then
    .error ⟨"KServe v0.19 multi-node requires autoscaling to be disabled",[]⟩
  else if spec.canary.isSome then
    .error ⟨"KServe v0.19 multi-node does not support CKodex canary routing",[]⟩
  else if spec.prefill.isSome then
    .error ⟨"KServe v0.19 workerSpec cannot represent CKodex disaggregated prefill",[]⟩
  else if credentials then
    .error ⟨"KServe v0.19 multi-node storage credentials must use model.storage.serviceAccountName",
      []⟩
  else
    match spec.parallelism with
    | none => .ok ()
    | some p =>
      if several p.data then
        .error ⟨"KServe v0.19 workerSpec cannot represent data parallelism",[]⟩
      else if several p.dataLocal then
        .error ⟨"KServe v0.19 workerSpec cannot represent data-local parallelism",[]⟩
      else if p.expert || p.eplbEnabled then
        .error ⟨"KServe v0.19 workerSpec cannot represent expert parallelism or EPLB",[]⟩
      else .ok ()

def parallelismSizes (p : Option ParallelismSpec) : Int32×Int32 :=
  match p with
  | none => (1,1)
  | some p => (p.tensor.getD 1,p.pipeline.getD 1)

def podOverrides (place : String) (containers : List Container) : Except Errorf Unit :=
  if 1 < containers.length then
    .error ⟨place++": %w",[.str "at most one container override is allowed"]⟩
  else if containers.any fun c => c.image≠"" || c.command≠[] || c.args≠[] then
    .error ⟨place++": %w",
      [.str "container image, command, and args are owned by the KServe multi-node runtime"]⟩
  else .ok ()

def build (containers : Containers K) (runtimeName : String) (spec : Spec K) : Except Errorf Body :=
  match validateMultiNode spec with
  | .error err => .error err
  | .ok _ =>
    let runtime := if runtimeName="" then defaultMultiNodeRuntime else runtimeName
    let (tensor,pipeline) := parallelismSizes spec.parallelism
    match podOverrides "head template" (containers spec.template) with
    | .error err => .error err
    | .ok _ =>
      match podOverrides "worker template"
          ((spec.worker.map fun worker => containers worker.template).getD []) with
      | .error err => .error err
      | .ok _ =>
        .ok (.inferenceService runtime spec.model.uri pipeline.toInt64 tensor.toInt64)

def deleteControlled (svc : Service) (kind : Kind) (name : String) (c : Cluster) : Cluster :=
  match c kind name with
  | none => c
  | some obj => if obj.controller=some svc.uid then c.remove kind name else c

def cleanupLegacyResources (svc : Service) (c : Cluster) : Cluster :=
  let c := [.deployment,.service,.podDisruptionBudget,.horizontalPodAutoscaler].foldl
    (fun c kind => deleteControlled svc kind svc.name c) c
  deleteControlled svc .leaderWorkerSet (svc.name++"-lws") c

def reconcileMultiNode (containers : Containers K) (runtimeName : String) (svc : Service)
    (spec : Spec K) (c : Cluster) : Except Errorf Cluster :=
  match validateSharedModelPVC svc spec c with
  | .error err => .error err
  | .ok _ =>
    match build containers runtimeName spec with
    | .error err => .error err
    | .ok body =>
      let existing := (c .inferenceService svc.name).getD {}
      if existing.controller.any (·≠svc.uid) then
        .error ⟨"create or update KServe InferenceService: %w",
          [.str "set KServe InferenceService owner reference: already owned"]⟩
      else
        let c := c.put .inferenceService svc.name {existing with controller := some svc.uid, body}
        .ok (cleanupLegacyResources svc c)

def reconcileService (containers : Containers K) (runtimeName : String) (svc : Service)
    (c : Cluster) (spec : Spec K) : Except Errorf Cluster :=
  if requiresMultiNode spec then reconcileMultiNode containers runtimeName svc spec c
  else .ok (reconcile svc spec c)

end KServeLLM.Autoscaler
