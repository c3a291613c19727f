import KServeLLM.Framework.GoTypes
import KServeLLM.Api.ServiceTypes

namespace KServeLLM.Api

inductive Version where
  | v1alpha2 | v1

structure AgentIdentity (v : Version) where
  (name description version : String := "")

structure SkillRef (v : Version) where
  (registryRef skillName version : String)

structure ToolDefinition (v : Version) where
  (name description inputSchema endpoint : String)

structure AgentConfiguration (v : Version) (K : Kubernetes) where
  identity : AgentIdentity v := {}
  modelRef : String := ""
  skills : List (SkillRef v) := []
  tools : List (ToolDefinition v) := []
  maxTokens : Int32 := 0
  template : Option K.PodTemplateSpec := none

structure AgentStatus (v : Version) (K : Kubernetes) where
  conditions : List K.Condition := []
  ready : Bool := false

structure Agent (v : Version) (K : Kubernetes) where
  objectMeta : K.ObjectMeta := K.zeroMeta
  spec : AgentConfiguration v K := {}
  status : AgentStatus v K := {}

structure SkillEntry (v : Version) where
  (name version description endpoint inputSchema : String)
  capabilities : List String

structure SkillRegistrySpec (v : Version) where
  entries : List (SkillEntry v) := []

structure SkillRegistryStatus (v : Version) (K : Kubernetes) where
  conditions : List K.Condition := []
  entryCount : Int32 := 0

structure SkillRegistry (v : Version) (K : Kubernetes) where
  objectMeta : K.ObjectMeta := K.zeroMeta
  spec : SkillRegistrySpec v := {}
  status : SkillRegistryStatus v K := {}

structure GateCriteria (v : Version) where
  minSuccessRate : Int32
  maxLatencyP99 : Option Int64

structure OnboardingStage (v : Version) where
  (name type : String)
  gate : Option (GateCriteria v)

structure ModelOnboardingSpec (v : Version) where
  modelRef : String := ""
  stages : List (OnboardingStage v) := []
  rollbackOnFailure : Bool := false

structure ModelOnboardingStatus (v : Version) (K : Kubernetes) where
  conditions : List K.Condition := []
  (currentStage phase : String := "")

structure ModelOnboarding (v : Version) (K : Kubernetes) where
  objectMeta : K.ObjectMeta := K.zeroMeta
  spec : ModelOnboardingSpec v := {}
  status : ModelOnboardingStatus v K := {}

structure SessionPhase (v : Version) where
  text : String

structure ActorType (v : Version) where
  text : String

structure ActorState (v : Version) where
  text : String

structure CoactorPattern (v : Version) where
  text : String

structure CoordinationMethod (v : Version) where
  text : String

structure CoactorGroupPhase (v : Version) where
  text : String

structure InferenceSessionSpec (v : Version) where
  modelRef : String := ""
  ttl : Option Duration := none
  maxTurns : Int32 := 0
  (actorRef coactorGroupRef : String := "")
  metadata : Option StringMap := none

structure InferenceSessionStatus (v : Version) (K : Kubernetes) where
  phase : SessionPhase v := ⟨""⟩
  boundEndpoint : String := ""
  turnCount : Int32 := 0
  lastActivityTime : Option Time := none
  (kvCacheSize tokenCount : Int64 := 0)
  conditions : List K.Condition := []

structure InferenceSession (v : Version) (K : Kubernetes) where
  objectMeta : K.ObjectMeta := K.zeroMeta
  spec : InferenceSessionSpec v := {}
  status : InferenceSessionStatus v K := {}

structure ActorReminder (v : Version) where
  name : String
  dueTime : Duration
  period : Option Duration
  data : String

structure InferenceActorSpec (v : Version) where
  actorType : ActorType v := ⟨""⟩
  (modelRef agentRef : String := "")
  idleTimeout : Option Duration := none
  maxConcurrency : Int32 := 0
  reentrancy : Bool := false
  reminders : List (ActorReminder v) := []
  stateStore : String := ""

structure InferenceActorStatus (v : Version) (K : Kubernetes) where
  state : ActorState v := ⟨""⟩
  activeSessions : Int32 := 0
  lastActivationTime : Option Time := none
  conditions : List K.Condition := []

structure InferenceActor (v : Version) (K : Kubernetes) where
  objectMeta : K.ObjectMeta := K.zeroMeta
  spec : InferenceActorSpec v := {}
  status : InferenceActorStatus v K := {}

structure CoactorMember (v : Version) where
  (name role actorRef weight : String)
  dependsOn : List String

structure KVTransferConfig (v : Version) where
  method : String

structure AggregationConfig (v : Version) where
  strategy : String

structure CoordinationConfig (v : Version) where
  method : CoordinationMethod v := ⟨""⟩
  kvTransfer : Option (KVTransferConfig v) := none
  aggregation : Option (AggregationConfig v) := none

structure CoactorGroupSpec (v : Version) where
  pattern : CoactorPattern v := ⟨""⟩
  members : List (CoactorMember v) := []
  coordination : CoordinationConfig v := {}
  sessionAffinity : Bool := false

structure MemberStatus (v : Version) where
  (name role : String)
  state : ActorState v
  ready : Bool

structure CoactorGroupStatus (v : Version) (K : Kubernetes) where
  phase : CoactorGroupPhase v := ⟨""⟩
  activeMemberCount : Int32 := 0
  memberStatuses : List (MemberStatus v) := []
  conditions : List K.Condition := []

structure CoactorGroup (v : Version) (K : Kubernetes) where
  objectMeta : K.ObjectMeta := K.zeroMeta
  spec : CoactorGroupSpec v := {}
  status : CoactorGroupStatus v K := {}

end KServeLLM.Api
