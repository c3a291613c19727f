import KServeLLM.AIPack.Kinds

namespace KServeLLM.AIPack

open Bytes (ascii)

structure AIPackRef where
  ref : Bytes
  kind : ArtifactKind := []

structure AIPackComposition where
  baseModel : Option AIPackRef := none
  (adapters skills tools mcpServers : List AIPackRef := [])
  systemPrompt : Option AIPackRef := none
  (guardrailsInput guardrailsOutput : List AIPackRef := [])
  (retrieval workflow policy : Option AIPackRef := none)

def isLowerHex (b : UInt8) : Bool := (48 ≤ b && b ≤ 57) || (97 ≤ b && b ≤ 102)

def digestRefPattern (ref : Bytes) : Bool :=
  let name := ref.take (ref.length-72)
  let pin := ref.drop (ref.length-72)
  name≠[] && name.all (·≠10) && pin.take 8=ascii "@sha256:" && (pin.drop 8).all isLowerHex

def agentSlotConstraints : List (Bytes×List ArtifactKind) :=
  [(ascii "baseModel",[kindBaseModel,kindLoRA,kindFineTune]),(ascii "adapters",[kindLoRA]),
   (ascii "skills",[kindSkill]),
   (ascii "tools",[kindTool,kindMCPServer]),
   (ascii "mcpServers",[kindMCPServer]),
   (ascii "systemPrompt",[kindPromptTemplate]),
   (ascii "guardrailsInput",[kindGuardrail]),
   (ascii "guardrailsOutput",[kindGuardrail]),
   (ascii "retrieval",[kindRetrievalIndex]),
   (ascii "workflow",[kindWorkflow]),
   (ascii "policy",[kindPolicyBundle])]

def validateRef (ref : Bytes) : Except AIPackError Unit :=
  if !digestRefPattern ref then
    .error ⟨.tagOnlyRef,
      ascii "OCI reference must include sha256 digest (tag-only refs rejected per AIPACK-COMP-001)",
      ref⟩
  else .ok ()

def validateSlotKind (slot : Bytes) (kind : ArtifactKind) : Except AIPackError Unit :=
  if kind=[] then .ok ()
  else
    match agentSlotConstraints.lookup slot with
    | none => .ok ()
    | some allowed =>
      if kind∈allowed then .ok ()
      else .error ⟨.slotTypeMismatch,ascii "artifact kind not permitted in slot",
        ascii "slot="++slot++ascii " kind="++kind++ascii " allowed=["++
          (ascii " ").intercalate allowed++ascii "]"⟩

structure CompositionError where
  place : Option Bytes
  cause : AIPackError
  deriving DecidableEq

def CompositionError.text (e : CompositionError) : Bytes :=
  match e.place with
  | none => e.cause.text
  | some place => place++ascii ": "++e.cause.text

def validateSlot (place : Option Bytes) (slot : Bytes) (r : AIPackRef) :
    Except CompositionError Unit :=
  match validateRef r.ref with
  | .error err => .error ⟨place,err⟩
  | .ok () => (validateSlotKind slot r.kind).mapError fun err => ⟨place,err⟩

def validateSlotsFrom (slot : Bytes) : Nat → List AIPackRef → Except CompositionError Unit
  | _,[] => .ok ()
  | i,r::rs => do
    validateSlot (some (slot++ascii "["++ascii (toString i)++ascii "]")) slot r
    validateSlotsFrom slot (i+1) rs

def validateOptional (place : Option Bytes) (slot : Bytes) : Option AIPackRef →
    Except CompositionError Unit
  | none => .ok ()
  | some r => validateSlot place slot r

def singleSlots (comp : AIPackComposition) : List (Bytes×Option AIPackRef) :=
  [(ascii "systemPrompt",comp.systemPrompt),(ascii "retrieval",comp.retrieval),
   (ascii "workflow",comp.workflow),(ascii "policy",comp.policy)]

def validateSingleSlots : List (Bytes×Option AIPackRef) → Except CompositionError Unit
  | [] => .ok ()
  | (name,ref)::rest => do
    validateOptional (some name) name ref
    validateSingleSlots rest

def validateComposition (comp : Option AIPackComposition) : Except CompositionError Unit :=
  match comp with
  | none => .ok ()
  | some comp => do
    validateOptional none (ascii "baseModel") comp.baseModel
    validateSlotsFrom (ascii "adapters") 0 comp.adapters
    validateSlotsFrom (ascii "skills") 0 comp.skills
    validateSlotsFrom (ascii "tools") 0 comp.tools
    validateSlotsFrom (ascii "mcpServers") 0 comp.mcpServers
    validateSingleSlots (singleSlots comp)

inductive Slot where
  | baseModel | adapters | skills | tools | mcpServers | systemPrompt
  | guardrailsInput | guardrailsOutput | retrieval | workflow | policy
  deriving DecidableEq

namespace Slot

def name : Slot → Bytes
  | baseModel => ascii "baseModel"
  | adapters => ascii "adapters"
  | skills => ascii "skills"
  | tools => ascii "tools"
  | mcpServers => ascii "mcpServers"
  | systemPrompt => ascii "systemPrompt"
  | guardrailsInput => ascii "guardrailsInput"
  | guardrailsOutput => ascii "guardrailsOutput"
  | retrieval => ascii "retrieval"
  | workflow => ascii "workflow"
  | policy => ascii "policy"

def refs (comp : AIPackComposition) : Slot → List AIPackRef
  | baseModel => comp.baseModel.toList
  | adapters => comp.adapters
  | skills => comp.skills
  | tools => comp.tools
  | mcpServers => comp.mcpServers
  | systemPrompt => comp.systemPrompt.toList
  | guardrailsInput => comp.guardrailsInput
  | guardrailsOutput => comp.guardrailsOutput
  | retrieval => comp.retrieval.toList
  | workflow => comp.workflow.toList
  | policy => comp.policy.toList

def permitted (slot : Slot) : List ArtifactKind := (agentSlotConstraints.lookup slot.name).getD []

def Guardrail (slot : Slot) : Prop := slot=guardrailsInput ∨ slot=guardrailsOutput

end Slot

def Pinned (ref : Bytes) : Prop :=
  ∃ name digest,ref=name++ascii "@sha256:"++digest ∧ digest.length=64 ∧ digest.all isLowerHex

structure Fits (slot : Slot) (r : AIPackRef) : Prop where
  pinned : Pinned r.ref
  permitted : r.kind≠[] → r.kind∈slot.permitted

def Accepted (slot : Slot) (r : AIPackRef) : Prop :=
  digestRefPattern r.ref ∧ (r.kind≠[] → r.kind∈slot.permitted)

theorem digestRefPattern_pinned {ref : Bytes} (matched : digestRefPattern ref) : Pinned ref := by
  simp only [digestRefPattern,Bool.and_eq_true,decide_eq_true_eq] at matched
  obtain ⟨⟨⟨named,_⟩,mark⟩,hex⟩ := matched
  refine ⟨ref.take (ref.length-72),(ref.drop (ref.length-72)).drop 8,?_,?_,hex⟩
  · rw [← mark,List.append_assoc,List.take_append_drop,List.take_append_drop]
  · have long : ref.take (ref.length-72)≠[] := named
    have size := List.length_pos_iff.mpr long
    rw [List.length_take] at size
    simp only [List.length_drop]
    omega

theorem lookup_name (slot : Slot) : agentSlotConstraints.lookup slot.name=some slot.permitted := by
  cases slot <;> decide +kernel

variable {slot : Slot}

theorem validateSlotKind_ok {kind : ArtifactKind} :
    validateSlotKind slot.name kind=.ok () ↔ (kind≠[] → kind∈slot.permitted) := by
  rw [validateSlotKind,lookup_name]
  generalize slot.permitted=allowed
  by_cases undeclared : kind=[]
  · simp
  · by_cases fits : kind∈allowed <;> simp

theorem validateSlot_ok {place : Option Bytes} {r : AIPackRef} :
    validateSlot place slot.name r=.ok () ↔ Accepted slot r := by
  unfold validateSlot validateRef Accepted
  rw [← validateSlotKind_ok]
  generalize validateSlotKind slot.name r.kind=kindCheck
  cases digestRefPattern r.ref <;> cases kindCheck <;> simp [Except.mapError]

theorem seq_ok {ε : Type} {x : Except ε Unit} {y : Unit → Except ε Unit} :
    (x >>= y)=.ok () ↔ x=.ok () ∧ y ()=.ok () := by
  cases x with
  | error e => exact iff_of_false (fun h => by cases h) (fun h => by cases h.1)
  | ok u => exact ⟨fun h => ⟨rfl,h⟩,And.right⟩

theorem validateSlotsFrom_ok {i : Nat} {rs : List AIPackRef} :
    validateSlotsFrom slot.name i rs=.ok () ↔ ∀ r∈rs,Accepted slot r := by
  induction rs generalizing i with
  | nil => simp [validateSlotsFrom]
  | cons r rs ih =>
    rw [validateSlotsFrom,seq_ok,validateSlot_ok,ih,List.forall_mem_cons]

theorem validateOptional_ok {place : Option Bytes} {ref : Option AIPackRef} :
    validateOptional place slot.name ref=.ok () ↔ ∀ r∈ref.toList,Accepted slot r := by
  cases ref with
  | none => simp [validateOptional]
  | some r => simp [validateOptional,validateSlot_ok]

theorem validateSingleSlots_cons_ok {ref : Option AIPackRef}
    {rest : List (Bytes×Option AIPackRef)} :
    validateSingleSlots ((slot.name,ref)::rest)=.ok () ↔
      (∀ r∈ref.toList,Accepted slot r) ∧ validateSingleSlots rest=.ok () := by
  rw [validateSingleSlots,seq_ok,validateOptional_ok]

theorem validateComposition_ok (comp : AIPackComposition) : validateComposition (some comp)=.ok () ↔
      ∀ slot : Slot,¬slot.Guardrail → ∀ r∈slot.refs comp,Accepted slot r := by
  have steps : validateComposition (some comp)=.ok () ↔
      validateOptional none Slot.baseModel.name comp.baseModel=.ok () ∧
      validateSlotsFrom Slot.adapters.name 0 comp.adapters=.ok () ∧
      validateSlotsFrom Slot.skills.name 0 comp.skills=.ok () ∧
      validateSlotsFrom Slot.tools.name 0 comp.tools=.ok () ∧
      validateSlotsFrom Slot.mcpServers.name 0 comp.mcpServers=.ok () ∧
      validateSingleSlots [(Slot.systemPrompt.name,comp.systemPrompt),
        (Slot.retrieval.name,comp.retrieval),(Slot.workflow.name,comp.workflow),
        (Slot.policy.name,comp.policy)]=.ok () := by
    unfold validateComposition
    simp only [seq_ok]
    exact Iff.rfl
  rw [steps]
  simp only [validateOptional_ok,validateSlotsFrom_ok,validateSingleSlots_cons_ok]
  constructor
  · rintro ⟨base,adapters,skills,tools,servers,prompt,retrieval,workflow,policy,_⟩ slot plain
    cases slot with
    | baseModel => exact base
    | adapters => exact adapters
    | skills => exact skills
    | tools => exact tools
    | mcpServers => exact servers
    | systemPrompt => exact prompt
    | guardrailsInput => exact absurd (.inl rfl) plain
    | guardrailsOutput => exact absurd (.inr rfl) plain
    | retrieval => exact retrieval
    | workflow => exact workflow
    | policy => exact policy
  · intro all
    have each slot plain := all slot plain
    refine ⟨each .baseModel ?_,each .adapters ?_,each .skills ?_,each .tools ?_,
      each .mcpServers ?_,each .systemPrompt ?_,each .retrieval ?_,each .workflow ?_,
      each .policy ?_,rfl⟩ <;> simp [Slot.Guardrail]

theorem accepted_fits_iff (comp : AIPackComposition) :
    (validateComposition (some comp)=.ok () → ∀ slot : Slot,∀ r∈slot.refs comp,Fits slot r) ↔
      ((∀ slot : Slot,¬slot.Guardrail → ∀ r∈slot.refs comp,Accepted slot r) →
        ∀ slot : Slot,slot.Guardrail → ∀ r∈slot.refs comp,Fits slot r) := by
  rw [validateComposition_ok]
  refine forall_congr' fun accepted => ⟨fun fits slot _ => fits slot,fun guarded slot r mem => ?_⟩
  by_cases guardrail : slot.Guardrail
  · exact guarded slot guardrail r mem
  · obtain ⟨matched,permitted⟩ := accepted slot guardrail r mem
    exact ⟨digestRefPattern_pinned matched,permitted⟩

def looseAgent : AIPackComposition where
  guardrailsInput := [{ref := ascii "ghcr.io/acme/guard:latest"}]
  guardrailsOutput := [{ref := ascii "ghcr.io/acme/tool@sha256:"++List.replicate 64 97
                        kind := kindTool}]

theorem loose_agent_accepted : validateComposition (some looseAgent)=.ok () ∧
      ¬(∀ r∈looseAgent.guardrailsInput,Pinned r.ref) ∧
      (∃ r∈looseAgent.guardrailsOutput,r.kind∉Slot.guardrailsOutput.permitted) := by
  refine ⟨rfl,fun pinned => ?_,⟨_,List.mem_singleton_self _,by decide +kernel⟩⟩
  obtain ⟨_,_,text,_,_⟩ := pinned _ (List.mem_singleton_self _)
  have short : (ascii "ghcr.io/acme/guard:latest").length=25 := by decide
  have sizes := congrArg List.length text
  rw [short,List.length_append] at sizes
  omega

end KServeLLM.AIPack
