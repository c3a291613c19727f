import KServeLLM.Api.Conversion
import KServeLLM.Api.ExtraTypes

namespace KServeLLM.Api

def appendEach {α β : Type} (dst : List β) (f : α → β) (src : List α) : List β :=
  src.foldl (fun out x => out++[f x]) dst

theorem appendEach_eq {α β : Type} (dst : List β) (f : α → β) (src : List α) :
    appendEach dst f src=dst++src.map f := by
  induction src generalizing dst with
  | nil => simp [appendEach]
  | cons x src ih =>
    change appendEach (dst++[f x]) f src=_
    rw [ih]
    simp

theorem appendEach_back {α β : Type} {f : α → β} {g : β → α} (back : ∀x,g (f x)=x)
    (src : List α) : appendEach [] g (appendEach [] f src)=src := by
  have inverse : g∘f=id := funext back
  simp [appendEach_eq,inverse]

section

/-! ConvertTo and ConvertFrom of a kind have the same body with the versions exchanged, so
each pair shares one. -/

variable {v w : Version} {K : Kubernetes}

def SkillRef.convert (s : SkillRef v) : SkillRef w where
  registryRef := s.registryRef
  skillName := s.skillName
  version := s.version

def ToolDefinition.convert (t : ToolDefinition v) : ToolDefinition w where
  name := t.name
  description := t.description
  inputSchema := t.inputSchema
  endpoint := t.endpoint

def Agent.convert (src : Agent v K) (dst : Agent w K) : Agent w K :=
  let spec : AgentConfiguration w K := {
    identity := {
      name := src.spec.identity.name
      description := src.spec.identity.description
      version := src.spec.identity.version}
    modelRef := src.spec.modelRef
    maxTokens := src.spec.maxTokens
    template := src.spec.template}
  {dst with
    objectMeta := src.objectMeta
    spec := {spec with
      skills := appendEach spec.skills SkillRef.convert src.spec.skills
      tools := appendEach spec.tools ToolDefinition.convert src.spec.tools}
    status := {dst.status with
      conditions := src.status.conditions
      ready := src.status.ready}}

def SkillEntry.convert (e : SkillEntry v) : SkillEntry w where
  name := e.name
  version := e.version
  description := e.description
  endpoint := e.endpoint
  inputSchema := e.inputSchema
  capabilities := []++e.capabilities

def SkillRegistry.convert (src : SkillRegistry v K) (dst : SkillRegistry w K) : SkillRegistry w K :=
  {dst with
    objectMeta := src.objectMeta
    spec := {dst.spec with
      entries := appendEach dst.spec.entries SkillEntry.convert src.spec.entries}
    status := {dst.status with
      conditions := src.status.conditions
      entryCount := src.status.entryCount}}

def GateCriteria.convert (g : GateCriteria v) : GateCriteria w :=
  let gate : GateCriteria w := {minSuccessRate := g.minSuccessRate,maxLatencyP99 := none}
  match g.maxLatencyP99 with
  | some value => {gate with maxLatencyP99 := some value}
  | none => gate

def OnboardingStage.convert (s : OnboardingStage v) : OnboardingStage w :=
  let stage : OnboardingStage w := {name := s.name,type := s.type,gate := none}
  match s.gate with
  | some gate => {stage with gate := some gate.convert}
  | none => stage

def ModelOnboarding.convert (src : ModelOnboarding v K) (dst : ModelOnboarding w K) :
    ModelOnboarding w K :=
  {dst with
    objectMeta := src.objectMeta
    spec := {dst.spec with
      modelRef := src.spec.modelRef
      rollbackOnFailure := src.spec.rollbackOnFailure
      stages := appendEach dst.spec.stages OnboardingStage.convert src.spec.stages}
    status := {dst.status with
      conditions := src.status.conditions
      currentStage := src.status.currentStage
      phase := src.status.phase}}

def InferenceSession.convert (src : InferenceSession v K) (dst : InferenceSession w K) :
    InferenceSession w K :=
  {dst with
    objectMeta := src.objectMeta
    spec := {dst.spec with
      modelRef := src.spec.modelRef
      ttl := src.spec.ttl
      maxTurns := src.spec.maxTurns
      actorRef := src.spec.actorRef
      coactorGroupRef := src.spec.coactorGroupRef
      metadata :=
        match src.spec.metadata with
        | some metadata => some (deepCopyStringMap metadata)
        | none => dst.spec.metadata}
    status := {dst.status with
      phase := ⟨src.status.phase.text⟩
      boundEndpoint := src.status.boundEndpoint
      turnCount := src.status.turnCount
      lastActivityTime := src.status.lastActivityTime
      kvCacheSize := src.status.kvCacheSize
      tokenCount := src.status.tokenCount
      conditions := src.status.conditions}}

def ActorReminder.convert (r : ActorReminder v) : ActorReminder w :=
  let rem : ActorReminder w := {name := r.name,dueTime := r.dueTime,data := r.data,period := none}
  match r.period with
  | some period => {rem with period := some period}
  | none => rem

def InferenceActor.convert (src : InferenceActor v K) (dst : InferenceActor w K) :
    InferenceActor w K :=
  let spec : InferenceActorSpec w := {
    actorType := ⟨src.spec.actorType.text⟩
    modelRef := src.spec.modelRef
    agentRef := src.spec.agentRef
    idleTimeout := src.spec.idleTimeout
    maxConcurrency := src.spec.maxConcurrency
    reentrancy := src.spec.reentrancy
    stateStore := src.spec.stateStore}
  {dst with
    objectMeta := src.objectMeta
    spec := {spec with
      reminders := appendEach spec.reminders ActorReminder.convert src.spec.reminders}
    status := {dst.status with
      state := ⟨src.status.state.text⟩
      activeSessions := src.status.activeSessions
      lastActivationTime := src.status.lastActivationTime
      conditions := src.status.conditions}}

def CoactorMember.convert (m : CoactorMember v) : CoactorMember w where
  name := m.name
  role := m.role
  actorRef := m.actorRef
  weight := m.weight
  dependsOn := []++m.dependsOn

def MemberStatus.convert (ms : MemberStatus v) : MemberStatus w where
  name := ms.name
  role := ms.role
  state := ⟨ms.state.text⟩
  ready := ms.ready

def CoordinationConfig.convert (src : CoordinationConfig v) : CoordinationConfig w :=
  let dst : CoordinationConfig w := {method := ⟨src.method.text⟩}
  let dst :=
    match src.kvTransfer with
    | some transfer => {dst with kvTransfer := some ⟨transfer.method⟩}
    | none => dst
  match src.aggregation with
  | some aggregation => {dst with aggregation := some ⟨aggregation.strategy⟩}
  | none => dst

def CoactorGroup.convert (src : CoactorGroup v K) (dst : CoactorGroup w K) : CoactorGroup w K :=
  {dst with
    objectMeta := src.objectMeta
    spec := {dst.spec with
      pattern := ⟨src.spec.pattern.text⟩
      sessionAffinity := src.spec.sessionAffinity
      members := appendEach dst.spec.members CoactorMember.convert src.spec.members
      coordination := src.spec.coordination.convert}
    status := {dst.status with
      phase := ⟨src.status.phase.text⟩
      activeMemberCount := src.status.activeMemberCount
      memberStatuses :=
        appendEach dst.status.memberStatuses MemberStatus.convert src.status.memberStatuses
      conditions := src.status.conditions}}

end

section
variable {K : Kubernetes}

def Agent.convertTo (src : Agent .v1alpha2 K) (dst : Agent .v1 K) : Agent .v1 K := src.convert dst
def Agent.convertFrom (dst : Agent .v1alpha2 K) (src : Agent .v1 K) : Agent .v1alpha2 K :=
  src.convert dst

def SkillRegistry.convertTo (src : SkillRegistry .v1alpha2 K) (dst : SkillRegistry .v1 K) :
    SkillRegistry .v1 K :=
  src.convert dst

def SkillRegistry.convertFrom (dst : SkillRegistry .v1alpha2 K) (src : SkillRegistry .v1 K) :
    SkillRegistry .v1alpha2 K :=
  src.convert dst

def ModelOnboarding.convertTo (src : ModelOnboarding .v1alpha2 K) (dst : ModelOnboarding .v1 K) :
    ModelOnboarding .v1 K :=
  src.convert dst

def ModelOnboarding.convertFrom (dst : ModelOnboarding .v1alpha2 K)
    (src : ModelOnboarding .v1 K) : ModelOnboarding .v1alpha2 K :=
  src.convert dst

def InferenceSession.convertTo (src : InferenceSession .v1alpha2 K)
    (dst : InferenceSession .v1 K) : InferenceSession .v1 K :=
  src.convert dst

def InferenceSession.convertFrom (dst : InferenceSession .v1alpha2 K)
    (src : InferenceSession .v1 K) : InferenceSession .v1alpha2 K :=
  src.convert dst

def InferenceActor.convertTo (src : InferenceActor .v1alpha2 K) (dst : InferenceActor .v1 K) :
    InferenceActor .v1 K :=
  src.convert dst

def InferenceActor.convertFrom (dst : InferenceActor .v1alpha2 K) (src : InferenceActor .v1 K) :
    InferenceActor .v1alpha2 K :=
  src.convert dst

def CoactorGroup.convertTo (src : CoactorGroup .v1alpha2 K) (dst : CoactorGroup .v1 K) :
    CoactorGroup .v1 K :=
  src.convert dst

def CoactorGroup.convertFrom (dst : CoactorGroup .v1alpha2 K) (src : CoactorGroup .v1 K) :
    CoactorGroup .v1alpha2 K :=
  src.convert dst

end

section

/-! The second conversion undoes the first, between any two versions and into new objects. -/

variable {v w : Version} {K : Kubernetes}

theorem SkillRef.convert_back (s : SkillRef v) : (s.convert : SkillRef w).convert=s := rfl

theorem ToolDefinition.convert_back (t : ToolDefinition v) :
    (t.convert : ToolDefinition w).convert=t := rfl

theorem SkillEntry.convert_back (e : SkillEntry v) : (e.convert : SkillEntry w).convert=e := rfl

theorem CoactorMember.convert_back (m : CoactorMember v) :
    (m.convert : CoactorMember w).convert=m := rfl

theorem MemberStatus.convert_back (m : MemberStatus v) :
    (m.convert : MemberStatus w).convert=m := rfl

theorem GateCriteria.convert_back (g : GateCriteria v) :
    (g.convert : GateCriteria w).convert=g := by
  obtain ⟨_,latency⟩ := g
  cases latency <;> rfl

theorem OnboardingStage.convert_back (s : OnboardingStage v) :
    (s.convert : OnboardingStage w).convert=s := by
  obtain ⟨_,_,gate⟩ := s
  cases gate with
  | none => rfl
  | some gate => simp [OnboardingStage.convert,GateCriteria.convert_back]

theorem ActorReminder.convert_back (r : ActorReminder v) :
    (r.convert : ActorReminder w).convert=r := by
  obtain ⟨_,_,period,_⟩ := r
  cases period <;> rfl

theorem CoordinationConfig.convert_back (c : CoordinationConfig v) :
    (c.convert : CoordinationConfig w).convert=c := by
  obtain ⟨_,transfer,aggregation⟩ := c
  cases transfer <;> cases aggregation <;> rfl

theorem Agent.convert_back (x : Agent v K) : (x.convert ({} : Agent w K)).convert {}=x := by
  simp [Agent.convert,appendEach_back SkillRef.convert_back,
    appendEach_back ToolDefinition.convert_back]

theorem SkillRegistry.convert_back (x : SkillRegistry v K) :
    (x.convert ({} : SkillRegistry w K)).convert {}=x := by
  simp [SkillRegistry.convert,appendEach_back SkillEntry.convert_back]

theorem ModelOnboarding.convert_back (x : ModelOnboarding v K) :
    (x.convert ({} : ModelOnboarding w K)).convert {}=x := by
  simp [ModelOnboarding.convert,appendEach_back OnboardingStage.convert_back]

theorem InferenceSession.convert_back (x : InferenceSession v K) :
    (x.convert ({} : InferenceSession w K)).convert {}=x := by
  obtain ⟨_,⟨_,_,_,_,_,metadata⟩,_⟩ := x
  -- the destination is new, so missing metadata stay missing
  cases metadata <;> rfl

theorem InferenceActor.convert_back (x : InferenceActor v K) :
    (x.convert ({} : InferenceActor w K)).convert {}=x := by
  simp [InferenceActor.convert,appendEach_back ActorReminder.convert_back]

theorem CoactorGroup.convert_back (x : CoactorGroup v K) :
    (x.convert ({} : CoactorGroup w K)).convert {}=x := by
  simp [CoactorGroup.convert,appendEach_back CoactorMember.convert_back,
    appendEach_back MemberStatus.convert_back,CoordinationConfig.convert_back]

end

theorem extra_kinds_roundTrip (K : Kubernetes) :
    (∀x : Agent .v1alpha2 K,Agent.convertFrom {} (x.convertTo {})=x) ∧
    (∀x : SkillRegistry .v1alpha2 K,SkillRegistry.convertFrom {} (x.convertTo {})=x) ∧
    (∀x : ModelOnboarding .v1alpha2 K,ModelOnboarding.convertFrom {} (x.convertTo {})=x) ∧
    (∀x : InferenceSession .v1alpha2 K,InferenceSession.convertFrom {} (x.convertTo {})=x) ∧
    (∀x : InferenceActor .v1alpha2 K,InferenceActor.convertFrom {} (x.convertTo {})=x) ∧
    (∀x : CoactorGroup .v1alpha2 K,CoactorGroup.convertFrom {} (x.convertTo {})=x) :=
  ⟨Agent.convert_back,SkillRegistry.convert_back,ModelOnboarding.convert_back,
    InferenceSession.convert_back,InferenceActor.convert_back,CoactorGroup.convert_back⟩

end KServeLLM.Api
