import KServeLLM.Controller.Objects
import KServeLLM.Framework.OwnedStore
import Mathlib.Data.List.Sort

namespace KServeLLM.Controller.Cache

structure Node where
  name : String
  unschedulable : Bool := false
  labels : GoMap String String := ∅

inductive Kind where
  | pvc | job
  deriving DecidableEq

structure Ref where
  kind : Kind
  (ns name : String)
  deriving DecidableEq

structure JobCondition where
  (type status : String)
  lastTransitionTime : Time
  deriving DecidableEq

structure JobStatus where
  conditions : List JobCondition := []
  active : Int32 := 0
  deriving DecidableEq

structure Object where
  owner : String
  deleting : Bool := false
  status : JobStatus := {}
  deriving DecidableEq

abbrev Store := OwnedStore Ref String Object

structure CacheEntry where
  index : Nat
  last : Time
  size : Int64
  deriving DecidableEq

structure Library (Selector : Type) where
  sha : Sha256
  parseQuantity : String → Except String Int
  quantityValue : Int → Int64
  quantityText : Int → String
  asSelector : Selector → Except String (Node → Bool)
  sortEntries : List CacheEntry → List CacheEntry
  perm : ∀entries,(sortEntries entries).Perm entries
  sorted : ∀entries,(sortEntries entries).Pairwise (fun a b => a.last ≤ b.last)

inductive Stage where
  | start
  | node (name : String)
  | cleanup (name : String)
  | evict (index : Nat)
  | report
  deriving DecidableEq

inductive Request where
  | getCache | getOwner | listNodes
  | getNode (name : String)
  | get (ref : Ref)
  | create (ref : Ref)
  | delete (ref : Ref)
  | updateStatus
  deriving DecidableEq

structure View where
  now : Time
  refuses : Stage → Request → Option String
  lingers : Ref → Bool
  secretFirst : Bool

def View.smooth (now : Time) (secretFirst : Bool) : View :=
  ⟨now,fun _ _ => none,fun _ => false,secretFirst⟩

theorem View.smooth_refuses (now : Time) (secretFirst : Bool) (stage : Stage) (request : Request) :
    (View.smooth now secretFirst).refuses stage request=none := rfl

structure Surroundings where
  nodes : List Node
  adapters : String → String → Option LLMLoraAdapter

structure Cluster (Selector : Type) where
  caches : String → Option (LocalModelCache Selector)
  around : Surroundings
  objects : Ref → Option Object

variable {Selector : Type} (lib : Library Selector)

section

variable (around : Surroundings) (view : View)

def modelSizeQuantity (spec : LocalModelCacheSpec Selector) : Except String Int :=
  if spec.modelSize="" then .ok (20*2^30*10^9)
  else
    match lib.parseQuantity spec.modelSize with
    | .error err => .error ("invalid modelSize "++spec.modelSize.quote++": "++err)
    | .ok quantity =>
      if quantity ≤ 0 then .error "modelSize must be greater than zero" else .ok quantity

def maxCacheSizeQuantity (spec : LocalModelCacheSpec Selector) : Except String (Option Int) :=
  if spec.maxCacheSize="" then .ok none
  else
    match lib.parseQuantity spec.maxCacheSize with
    | .error err => .error ("invalid maxCacheSize "++spec.maxCacheSize.quote++": "++err)
    | .ok quantity =>
      if quantity ≤ 0 then .error "maxCacheSize must be greater than zero"
      else .ok (some quantity)

def validateLocalModelCacheQuantities (cache : LocalModelCache Selector) : Except String Unit :=
  match modelSizeQuantity lib cache.spec with
  | .error err => .error ("validating LocalModelCache "++cache.name++": "++err)
  | .ok _ =>
    match maxCacheSizeQuantity lib cache.spec with
    | .error err => .error ("validating LocalModelCache "++cache.name++": "++err)
    | .ok _ => .ok ()

def storageReferences (storage : LocalModelStorageSpec) : List (String×String) :=
  let references := [("ServiceAccount",storage.serviceAccountName),("Secret",storage.secretName)]
  if view.secretFirst then references.reverse else references

def validateWarmupStorageReferences (cache : LocalModelCache Selector) : Except String Unit :=
  match cache.spec.storage with
  | none => .ok ()
  | some storage =>
    match (storageReferences view storage).find? fun reference => '/'∈reference.2.toList with
    | none => .ok ()
    | some reference =>
      .error ("LocalModelCache "++cache.name++" "++reference.1++
        " reference must be namespaced to the resolved workload namespace")

def resolveCacheWorkloadNamespace (stage : Stage) (cache : LocalModelCache Selector) :
    Except String String :=
  let requested := valueAt cache.annotations cacheWorkloadNamespaceAnnotation
  if requested="" then do
    validateWarmupStorageReferences view cache
    return cacheWorkloadNamespace cache
  else if valueAt cache.labels loraCacheManagedByLabel≠loraCacheManagedByAdapter then
    .error ("LocalModelCache "++cache.name++" has an untrusted cache namespace annotation")
  else
    let ownerNamespace := valueAt cache.annotations loraCacheOwnerNamespace
    let ownerName := valueAt cache.annotations loraCacheOwnerName
    if ownerNamespace="" ∨ ownerName="" ∨ requested≠ownerNamespace then
      .error ("LocalModelCache "++cache.name++
        " has incomplete or mismatched LoRA ownership metadata")
    else
      let failure (err : String) := "getting LocalModelCache "++cache.name++" LoRA owner "++
        ownerNamespace++"/"++ownerName++": "++err
      match view.refuses stage .getOwner with
      | some err => .error (failure err)
      | none =>
        match around.adapters ownerNamespace ownerName with
        | none => .error (failure "not found")
        | some owner => do
          validateLoraCacheOwner cache owner
          validateWarmupStorageReferences view cache
          return owner.ns

def appendUniqueNode (nodes : List String) (name : String) : List String :=
  if name∈nodes then nodes else nodes++[name]

def appendSelectorNodes (cache : LocalModelCache Selector) (nodes : List String) :
    Except String (List String) :=
  match cache.spec.nodeGroup with
  | none | some none => .ok nodes
  | some (some labelSelector) =>
    match lib.asSelector labelSelector with
    | .error err => .error ("parse node group selector: "++err)
    | .ok selector =>
      match view.refuses .start .listNodes with
      | some err => .error ("listing nodes by selector: "++err)
      | none => .ok (((around.nodes.filter selector).map (·.name)).foldl appendUniqueNode nodes)

def appendWarmNodes : List String → List String → Except String (List String)
  | [],nodes => .ok nodes
  | name::names,nodes =>
    if name∈nodes then appendWarmNodes names nodes
    else
      match view.refuses .start (.getNode name) with
      | some err => .error ("checking warm node "++name++": "++err)
      | none =>
        if around.nodes.any (·.name=name) then appendWarmNodes names (appendUniqueNode nodes name)
        else appendWarmNodes names nodes

def appendSchedulableNodes (nodes : List String) : Except String (List String) :=
  match view.refuses .start .listNodes with
  | some err => .error ("listing all nodes: "++err)
  | none =>
    .ok (((around.nodes.filter (!·.unschedulable)).map (·.name)).foldl appendUniqueNode nodes)

def resolveTargetNodes (cache : LocalModelCache Selector) : Except String (List String) := do
  let nodes ← appendSelectorNodes lib around view cache []
  let nodes ← appendWarmNodes around view cache.spec.warmNodes nodes
  if cache.spec.nodeGroup.isNone && cache.spec.warmNodes.isEmpty then
    appendSchedulableNodes around view nodes
  else .ok nodes

def prepare (cache : LocalModelCache Selector) : Except String (List String) := do
  let _ ← resolveCacheWorkloadNamespace around view .start cache
  validateLocalModelCacheQuantities lib cache
  resolveTargetNodes lib around view cache

end

section

variable (around : Surroundings) (view : View) (cache : LocalModelCache Selector)

def create (stage : Stage) (ref : Ref) (s : Store) : Store×Option String :=
  match view.refuses stage (.create ref) with
  | some err => (s,some err)
  | none => (s.create ref {owner := cache.name},none)

def delete (stage : Stage) (ref : Ref) (s : Store) : Store×Option String :=
  match view.refuses stage (.delete ref) with
  | some err => (s,some err)
  | none =>
    match s.objects ref with
    | none => (s,none)
    | some obj =>
      let left := if view.lingers ref then some {obj with deleting := true} else none
      (s.delete Object.owner cache.name ref obj left,none)

def pvcRef (ns modelHash nodeName : String) : Ref :=
  ⟨.pvc,ns,pvcNameForNode lib.sha modelHash nodeName⟩

def jobRef (ns modelHash nodeName : String) : Ref :=
  ⟨.job,ns,warmupJobName lib.sha modelHash nodeName⟩

def pendingNodeCacheStatus (nodeName modelHash : String) : NodeCacheStatus :=
  {nodeName,pvcName := pvcNameForNode lib.sha modelHash nodeName,phase := "Pending",
    modelURIHash := modelHash}

def ensureCachePVC (ns modelHash nodeName : String) (s : Store) : Store×Except String Bool :=
  let pvc := pvcRef lib ns modelHash nodeName
  match view.refuses (.node nodeName) (.get pvc) with
  | some err => (s,.error ("getting PVC "++pvc.name++": "++err))
  | none =>
    if (s.objects pvc).isSome then (s,.ok false)
    else
      let s := (delete view cache (.node nodeName) (jobRef lib ns modelHash nodeName) s).1
      match modelSizeQuantity lib cache.spec with
      | .error err => (s,.error ("building PVC "++pvc.name++": "++err))
      | .ok _ =>
        match create view cache (.node nodeName) pvc s with
        | (s,some err) => (s,.error ("creating PVC "++pvc.name++": "++err))
        | (s,none) => (s,.ok true)

def ensureWarmupJob (ns modelHash nodeName : String) (status : NodeCacheStatus) (s : Store) :
    Store×Except String (NodeCacheStatus×Option Object) :=
  let ref := jobRef lib ns modelHash nodeName
  match view.refuses (.node nodeName) (.get ref) with
  | some err => (s,.error ("getting Job "++ref.name++": "++err))
  | none =>
    match s.objects ref with
    | some job => (s,.ok (status,if job.deleting then none else some job))
    | none =>
      match create view cache (.node nodeName) ref s with
      | (s,some err) => (s,.error ("creating warm-up Job "++ref.name++": "++err))
      | (s,none) =>
        (s,.ok ({status with phase := "Downloading",lastTransitionTime := some view.now},none))

def JobCondition.holds (condition : JobCondition) (type : String) : Bool :=
  condition.type=type && condition.status="True"

def jobPhase (job : Object) : String :=
  match job.status.conditions.find? fun c => c.holds "Complete" || c.holds "Failed" with
  | some condition => if condition.holds "Complete" then "Ready" else "Failed"
  | none => if 0 < job.status.active then "Downloading" else "Pending"

def failedJobTime (job : Object) : Option Time :=
  (job.status.conditions.find? (·.holds "Failed")).map (·.lastTransitionTime)

def previousReadyUse (nodeName : String) : Time :=
  let previous := cache.status.nodeStatuses.find? fun status =>
    status.nodeName=nodeName && status.phase="Ready" && status.lastUsed.isSome
  (previous.bind (·.lastUsed)).getD view.now

def markNodeCacheReady (nodeName : String) (status : NodeCacheStatus) : NodeCacheStatus :=
  let status := {status with lastUsed := some (previousReadyUse view cache nodeName)}
  match modelSizeQuantity lib cache.spec with
  | .error _ => {status with phase := "Failed"}
  | .ok modelSize => {status with sizeBytes := lib.quantityValue modelSize}

def healable (job : Object) : Bool :=
  match failedJobTime job with
  | none => false
  | some failed => decide (300*Duration.second < view.now.sub failed)

def selfHealFailedJob (ns modelHash nodeName : String) (job : Object) (status : NodeCacheStatus)
    (s : Store) : Store×NodeCacheStatus :=
  if healable view job then
    ((delete view cache (.node nodeName) (jobRef lib ns modelHash nodeName) s).1,
      {status with phase := "Pending"})
  else (s,status)

def phaseFromJob (nodeName : String) (job : Object) (status : NodeCacheStatus) : NodeCacheStatus :=
  let status := {status with phase := jobPhase job}
  if status.phase="Ready" then markNodeCacheReady lib view cache nodeName status else status

def updateNodeCacheFromJob (ns modelHash nodeName : String) (job : Object)
    (status : NodeCacheStatus) (s : Store) : Store×NodeCacheStatus :=
  let status := phaseFromJob lib view cache nodeName job status
  let healed :=
    if status.phase="Failed" then
      selfHealFailedJob lib view cache ns modelHash nodeName job status s
    else (s,status)
  (healed.1,{healed.2 with lastTransitionTime := some view.now})

def reconcileNodeCache (modelHash nodeName : String) (s : Store) :
    Store×Except String NodeCacheStatus :=
  let status := pendingNodeCacheStatus lib nodeName modelHash
  match resolveCacheWorkloadNamespace around view (.node nodeName) cache with
  | .error err => (s,.error err)
  | .ok ns =>
    match ensureCachePVC lib view cache ns modelHash nodeName s with
    | (s,.error err) => (s,.error err)
    | (s,.ok true) => (s,.ok {status with lastTransitionTime := some view.now})
    | (s,.ok false) =>
      match ensureWarmupJob lib view cache ns modelHash nodeName status s with
      | (s,.error err) => (s,.error err)
      | (s,.ok (status,none)) => (s,.ok status)
      | (s,.ok (status,some job)) =>
        let updated := updateNodeCacheFromJob lib view cache ns modelHash nodeName job status s
        (updated.1,.ok updated.2)

def reconcileTargetCaches (modelHash : String) : List String → Store → Store×List NodeCacheStatus
  | [],s => (s,[])
  | nodeName::nodes,s =>
    match reconcileNodeCache lib around view cache modelHash nodeName s with
    | (s,.error _) => reconcileTargetCaches modelHash nodes s
    | (s,.ok status) =>
      let rest := reconcileTargetCaches modelHash nodes s
      (rest.1,status::rest.2)

def deleteCacheObject (kind : String) (stage : Stage) (ref : Ref) (s : Store) :
    Store×Except String Unit :=
  match view.refuses stage (.get ref) with
  | some err => (s,.error ("getting "++kind++" "++ref.name++" for deletion: "++err))
  | none =>
    if (s.objects ref).isNone then (s,.ok ())
    else
      match delete view cache stage ref s with
      | (s,some err) => (s,.error ("deleting evicted "++kind++" "++ref.name++": "++err))
      | (s,none) => (s,.ok ())

def deleteCachePVC (stage : Stage) (ns name : String) (s : Store) : Store×Except String Unit :=
  deleteCacheObject view cache "PVC" stage ⟨.pvc,ns,name⟩ s

def deleteCacheJob (stage : Stage) (ns name : String) (s : Store) : Store×Except String Unit :=
  deleteCacheObject view cache "Job" stage ⟨.job,ns,name⟩ s

def deleteRecorded (stage : Stage) (ns : String) (status : NodeCacheStatus) (s : Store) :
    Store×Except String Unit :=
  match deleteCachePVC view cache stage ns status.pvcName s with
  | (s,.error err) => (s,.error err)
  | (s,.ok ()) =>
    deleteCacheJob view cache stage ns (warmupJobName lib.sha status.modelURIHash status.nodeName) s

def cleanupLoop (targets : List String) (ns : String) :
    List NodeCacheStatus → Store → Store×Except String (List NodeCacheStatus)
  | [],s => (s,.ok [])
  | status::statuses,s =>
    if status.nodeName∈targets then
      let rest := cleanupLoop targets ns statuses s
      (rest.1,rest.2.map (status::·))
    else
      match deleteRecorded lib view cache (.cleanup status.nodeName) ns status s with
      | (s,.error err) => (s,.error ("cleaning stale node "++status.nodeName++": "++err))
      | (s,.ok ()) => cleanupLoop targets ns statuses s

def cleanupStaleNodeCaches (targets : List String) (s : Store) :
    Store×Except String (List NodeCacheStatus) :=
  match resolveCacheWorkloadNamespace around view (.cleanup "") cache with
  | .error err => (s,.error err)
  | .ok ns => cleanupLoop lib view cache targets ns cache.status.nodeStatuses s

def findNodeCacheStatus (statuses : List NodeCacheStatus) (nodeName : String) :
    Option NodeCacheStatus :=
  statuses.find? (·.nodeName=nodeName)

def addMissing (merged : List NodeCacheStatus) (status : NodeCacheStatus) : List NodeCacheStatus :=
  if (findNodeCacheStatus merged status.nodeName).isSome then merged else merged++[status]

def mergeNodeCacheStatuses (previous current : List NodeCacheStatus) (targets : List String) :
    List NodeCacheStatus :=
  let merged := (previous.filter (·.nodeName∈targets)).map fun prev =>
    (findNodeCacheStatus current prev.nodeName).getD prev
  current.foldl addMissing merged

def cacheEntry (indexed : NodeCacheStatus×Nat) : Option CacheEntry :=
  if indexed.1.phase="Ready" then
    some ⟨indexed.2,indexed.1.lastUsed.getD 0,indexed.1.sizeBytes⟩
  else none

def cacheEntries (statuses : List NodeCacheStatus) : List CacheEntry :=
  lib.sortEntries (statuses.zipIdx.filterMap cacheEntry)

def newQuantity (size : Int64) : Int := size.toInt*10^9

def cacheEntriesSize (entries : List CacheEntry) : Int :=
  (entries.map fun entry => newQuantity entry.size).sum

def evictCacheEntry (statuses : List NodeCacheStatus) (entry : CacheEntry) (s : Store) :
    Store×Except String (List NodeCacheStatus) :=
  match statuses[entry.index]? with
  | none => (s,.error "index out of range")
  | some status =>
    match resolveCacheWorkloadNamespace around view (.evict entry.index) cache with
    | .error err => (s,.error err)
    | .ok ns =>
      match deleteRecorded lib view cache (.evict entry.index) ns status s with
      | (s,.error err) => (s,.error err)
      | (s,.ok ()) => (s,.ok (statuses.set entry.index {status with phase := "Pending"}))

def evictLoop (limit : Int) :
    List CacheEntry → Int → List NodeCacheStatus → Store → Store×List NodeCacheStatus
  | [],_,statuses,s => (s,statuses)
  | entry::entries,total,statuses,s =>
    if total ≤ limit then (s,statuses)
    else
      match evictCacheEntry lib around view cache statuses entry s with
      | (s,.error _) => (s,statuses)
      | (s,.ok statuses) => evictLoop limit entries (total-newQuantity entry.size) statuses s

def evictLRU (statuses : List NodeCacheStatus) (s : Store) : Store×List NodeCacheStatus :=
  match maxCacheSizeQuantity lib cache.spec with
  | .error _ | .ok none => (s,statuses)
  | .ok (some limit) =>
    let entries := cacheEntries lib statuses
    evictLoop lib around view cache limit entries (cacheEntriesSize entries) statuses s

def ready (statuses : List NodeCacheStatus) : List NodeCacheStatus :=
  statuses.filter (·.phase="Ready")

def latestUsed (statuses : List NodeCacheStatus) : Option Time :=
  (statuses.filterMap (·.lastUsed)).max?

def cachedModelStatus (nodeNames : List String) (totalBytes : Int64) (latest : Option Time) :
    List CachedModelStatus :=
  match nodeNames with
  | [] => []
  | first::_ =>
    let modelHash := modelURIHash lib.sha cache.spec.sourceModelURI
    [⟨cache.spec.sourceModelURI,nodeNames,totalBytes,latest,pvcNameForNode lib.sha modelHash first⟩]

def buildCachedModelsStatus (statuses : List NodeCacheStatus) : List CachedModelStatus×Int :=
  let statuses := ready statuses
  (cachedModelStatus lib cache (statuses.map (·.nodeName)) (statuses.map (·.sizeBytes)).sum
      (latestUsed statuses),
    (statuses.map fun status => newQuantity status.sizeBytes).sum)

def availableCacheSpace (total : Int) : String :=
  match maxCacheSizeQuantity lib cache.spec with
  | .error _ | .ok none => ""
  | .ok (some limit) => lib.quantityText (max 0 (limit-total))

def reported (statuses : List NodeCacheStatus) (readyCount : Nat) : LocalModelCacheStatus :=
  let built := buildCachedModelsStatus lib cache statuses
  {cache.status with
    nodeStatuses := statuses
    cachedNodes := readyCount
    cachedModels := built.1
    totalCacheSize := lib.quantityText built.2
    availableSpace := availableCacheSpace lib cache built.2}

def reconcileTargets (targets : List String) (s : Store) :
    Store×Except String LocalModelCacheStatus :=
  let modelHash := modelURIHash lib.sha cache.spec.sourceModelURI
  let current := reconcileTargetCaches lib around view cache modelHash targets s
  match cleanupStaleNodeCaches lib around view cache targets current.1 with
  | (s,.error err) => (s,.error err)
  | (s,.ok previous) =>
    let merged := mergeNodeCacheStatuses previous current.2 targets
    let evicted := evictLRU lib around view cache merged s
    (evicted.1,.ok (reported lib cache evicted.2 (ready current.2).length))

end

def localModelCacheRequeueInterval : Duration := 30*Duration.second

structure Answer where
  deleted : List (Deletion Ref String)
  result : Except String Duration

def Cluster.setStatus (cl : Cluster Selector) (cache : LocalModelCache Selector)
    (status : LocalModelCacheStatus) : Cluster Selector :=
  {cl with caches := Function.update cl.caches cache.name (some {cache with status})}

def reconcile (view : View) (name : String) (cl : Cluster Selector) : Cluster Selector×Answer :=
  match view.refuses .start .getCache with
  | some err => (cl,⟨[],.error err⟩)
  | none =>
    match cl.caches name with
    | none => (cl,⟨[],.ok 0⟩)
    | some cache =>
      match prepare lib cl.around view cache with
      | .error err => (cl,⟨[],.error err⟩)
      | .ok targets =>
        match reconcileTargets lib cl.around view cache targets ⟨cl.objects,[]⟩ with
        | (s,.error err) => ({cl with objects := s.objects},⟨s.log,.error err⟩)
        | (s,.ok status) =>
          match view.refuses .report .updateStatus with
          | some err =>
            ({cl with objects := s.objects},
              ⟨s.log,.error ("updating LocalModelCache status: "++err)⟩)
          | none =>
            ({cl with objects := s.objects}.setStatus cache status,
              ⟨s.log,.ok localModelCacheRequeueInterval⟩)

def sampleLibrary : Library Unit where
  sha := sampleSha256
  parseQuantity text := .ok (text.length*10^9)
  quantityValue quantity := Int64.ofInt (quantity/10^9)
  quantityText quantity := toString quantity
  asSelector _ := .ok fun _ => true
  sortEntries := List.insertionSort fun a b => a.last ≤ b.last
  perm := List.perm_insertionSort _
  sorted entries := by
    have total : Std.Total fun a b : CacheEntry => a.last ≤ b.last := ⟨fun a b => le_total _ _⟩
    have trans : IsTrans CacheEntry fun a b => a.last ≤ b.last := ⟨fun _ _ _ => le_trans⟩
    exact List.pairwise_insertionSort _ entries

end KServeLLM.Controller.Cache
