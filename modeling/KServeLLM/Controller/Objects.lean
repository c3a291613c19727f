import KServeLLM.Api.ServiceTypes
import KServeLLM.Framework.GoStrings
import KServeLLM.Framework.GoTypes

namespace KServeLLM.Controller

structure Condition where
  (type status : String)
  (reason message : String := "")
  observedGeneration : Int64 := 0
  deriving DecidableEq

structure Sha256 where
  hexSum : String → GoString
  length_hexSum : ∀ s,(hexSum s).length=64

def sampleSha256 : Sha256 where
  hexSum s := (s.toList++List.replicate 64 '0').take 64
  length_hexSum s := by simp

structure BehaviorMetadata where
  safety : Int
  (refusal toolPropensity : String)

structure PolicyEnvelope where
  allowedDomains : List String
  minTrustLevel : String

structure EvidenceBundle where
  (attestationURI signatureDigest sbomDigest : String := "")
  lastVerifiedAt : Option Time := none
  deriving DecidableEq

structure LoraStatus where
  conditions : List Condition := []
  activeRevision : Int64 := 0
  statePlanes : Api.StatePlanes := {}
  evidenceBundle : EvidenceBundle := {}

structure LLMLoraAdapter where
  (ns name uid : String)
  finalizers : List String := []
  (targetService adapterName modelURI : String := "")
  behavior : Option BehaviorMetadata := none
  policyEnvelope : Option PolicyEnvelope := none
  status : LoraStatus := {}

def LLMLoraAdapter.planes (lora : LLMLoraAdapter) : Api.StatePlanes := lora.status.statePlanes

structure NodeCacheStatus where
  (nodeName phase pvcName : String)
  lastTransitionTime : Option Time := none
  sizeBytes : Int64 := 0
  lastUsed : Option Time := none
  modelURIHash : String
  deriving DecidableEq

structure CachedModelStatus where
  modelURI : String
  nodeNames : List String
  sizeBytes : Int64
  lastUsed : Option Time
  pvcName : String
  deriving DecidableEq

structure LocalModelCacheStatus where
  conditions : List Condition := []
  nodeStatuses : List NodeCacheStatus := []
  cachedNodes : Nat := 0
  cachedModels : List CachedModelStatus := []
  (totalCacheSize availableSpace : String := "")
  deriving DecidableEq

structure LocalModelStorageSpec where
  (secretName serviceAccountName storageContainerRef : String := "")
  deriving DecidableEq

structure LocalModelCacheSpec (Selector : Type) where
  sourceModelURI : String
  (modelSize maxCacheSize : String := "")
  /-- A node group, with its selector if it has one. -/
  nodeGroup : Option (Option Selector) := none
  warmNodes : List String := []
  storage : Option LocalModelStorageSpec := none

structure LocalModelCache (Selector : Type) where
  name : String
  (labels annotations : GoMap String String := ∅)
  spec : LocalModelCacheSpec Selector
  status : LocalModelCacheStatus := {}

def valueAt (m : GoMap String String) (k : String) : String := (m.lookup k).getD ""

def loraFinalizer : String := "serving.ckodex.com/lora-finalizer"
def loraCacheManagedByLabel : String := "serving.ckodex.com/managed-by"
def loraCacheOwnerNamespace : String := "serving.ckodex.com/owner-namespace"
def loraCacheOwnerName : String := "serving.ckodex.com/owner-name"
def loraCacheOwnerUID : String := "serving.ckodex.com/owner-uid"
def loraCacheManagedByAdapter : String := "llmloraadapter"

variable {Selector : Type}

def loraCacheName (sha : Sha256) (ns name : String) : String :=
  "lora-"++String.ofList ((sha.hexSum (ns++"/"++name)).take 20)

def defaultCacheNamespace : String := "default"
def cacheWorkloadNamespaceAnnotation : String := "serving.ckodex.com/cache-namespace"
def warmupJobPrefix : String := "lmc-warmup"

def modelURIHash (sha : Sha256) (uri : String) : String := String.ofList ((sha.hexSum uri).take 16)

def nodeHash (sha : Sha256) (nodeName : String) : String :=
  String.ofList ((sha.hexSum nodeName).take 8)

def pvcNameForNode (sha : Sha256) (modelHash nodeName : String) : String :=
  "lmc-"++modelHash++"-"++nodeHash sha nodeName

def warmupJobName (sha : Sha256) (modelHash nodeName : String) : String :=
  warmupJobPrefix++"-"++modelHash++"-"++nodeHash sha nodeName

def cacheWorkloadNamespace (_cache : LocalModelCache Selector) : String := defaultCacheNamespace

def validateLoraCacheOwner (cache : LocalModelCache Selector) (lora : LLMLoraAdapter) :
    Except String Unit :=
  if valueAt cache.labels loraCacheManagedByLabel≠loraCacheManagedByAdapter ∨
      valueAt cache.annotations loraCacheOwnerNamespace≠lora.ns ∨
      valueAt cache.annotations loraCacheOwnerName≠lora.name ∨
      valueAt cache.annotations loraCacheOwnerUID≠lora.uid then
    .error ("LocalModelCache "++cache.name++" is not owned by LLMLoraAdapter "++lora.ns++"/"++
      lora.name)
  else if cache.spec.sourceModelURI≠lora.modelURI then
    .error ("LocalModelCache "++cache.name++" source URI does not match LLMLoraAdapter")
  else .ok ()

end KServeLLM.Controller
