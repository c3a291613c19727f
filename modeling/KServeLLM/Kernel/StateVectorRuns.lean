import KServeLLM.Framework.ExactFloat
import KServeLLM.Framework.Execution
import KServeLLM.Kernel.StateVector

namespace KServeLLM.Statevector.Floating

/-! Transitions whose scores are the doubles they are in the source, NaN and rounding included.
An outcome is known here by its decision, next state and score. -/

variable {F : Type}

structure ConformanceSignal (F : Type) where
  name : String
  (score weight : F)

structure ConformanceVector (F : Type) where
  signals : List (ConformanceSignal F)
  antiRelations : List AntiRelation

structure PolicyEnvelope (F : Type) where
  entityID : String
  scoreThreshold : F
  hardInvariants : List AntiRelationType

structure Outcome (F : Type) where
  decision : Decision
  nextState : StateVector
  score : F

def PolicyEnvelope.isHard (pe : PolicyEnvelope F) (rel : AntiRelation) : Bool :=
  rel.hard || pe.hardInvariants.contains rel.type

def classifyAntiRelations (pe : PolicyEnvelope F) (allRelations : List AntiRelation) :
    List AntiRelation×List AntiRelation :=
  allRelations.partition pe.isHard

section

variable [Float64 F]

def addSignal (acc : F×F) (sig : ConformanceSignal F) : F×F :=
  let w := if Float64.le sig.weight 0.0 then 1.0 else sig.weight
  let s := if Float64.lt sig.score 0.0 then 0.0
    else if Float64.lt 1.0 sig.score then 1.0 else sig.score
  (acc.1+w,acc.2+s*w)

def isZero (x : F) : Bool := Float64.le x 0.0 && Float64.le 0.0 x

def computeBaseScore (signals : List (ConformanceSignal F)) : F :=
  if signals.length=0 then 1.0
  else
    let (totalWeight,weightedSum) := signals.foldl addSignal (0.0,0.0)
    if isZero totalWeight then 0.0 else weightedSum/totalWeight

def finalScore (signals : List (ConformanceSignal F)) (soft : List AntiRelation) : F :=
  let penalty := Float64.ofInt soft.length*0.20
  let score := computeBaseScore signals-penalty
  if Float64.lt score 0.0 then 0.0 else score

def PolicyEnvelope.threshold (pe : PolicyEnvelope F) : F :=
  if Float64.le pe.scoreThreshold 0.0 then 0.50 else pe.scoreThreshold

end

def conformingState (s0 : StateVector) (x : TransitionInput) (nextLineage : Lineage) :
    StateVector :=
  let presence := match x.targetState with
    | some target => if target.presence≠.other "" then target.presence else .present
    | none => .present
  let valence := match x.targetState with
    | some target => if target.valence≠.other "" then target.valence else .positive
    | none => .positive
  ⟨s0.entity,s0.tau+1,presence,valence,.coherent,.verified,nextLineage⟩

def nonConformingState (s0 : StateVector) (nextLineage : Lineage) : StateVector :=
  ⟨s0.entity,s0.tau+1,s0.presence,.neutral,.partly,.unverified,nextLineage⟩

def stepDigest (x : TransitionInput) : String := if x.digest="" then x.action else x.digest

def transition [Float64 F] (hexSum : String → String) (pe : PolicyEnvelope F) (s0 : StateVector)
    (x : TransitionInput) (c : ConformanceVector F) : Except Error (Outcome F) :=
  if pe.entityID="" then .error (.sentinel .emptyPolicyEnvelope)
  else
    match s0.validate with
    | some err => .error (.errorf "initial state invalid: %w" err [])
    | none =>
      if pe.entityID≠s0.entity then
        .error (.errorf "%w: policy for %q, state for %q" (.sentinel .entityMismatch)
          [.str pe.entityID,.str s0.entity])
      else
        let nextLineage := s0.lineage.advance hexSum (stepDigest x)
        match classifyAntiRelations pe (x.antiRelations++c.antiRelations) with
        | (primary::others,_) =>
          .ok ⟨.reject,applyAntiInvariantDominance s0 nextLineage (primary::others),0.0⟩
        | ([],soft) =>
          let score := finalScore c.signals soft
          if Float64.lt score pe.threshold then
            .ok ⟨.reject,nonConformingState s0 nextLineage,score⟩
          else .ok ⟨.accept,conformingState s0 x nextLineage,score⟩

section

variable [Float64 F] (hexSum : String → String)

structure Call (F : Type) where
  policy : PolicyEnvelope F
  input : TransitionInput
  conformance : ConformanceVector F

def Call.relations (call : Call F) : List AntiRelation :=
  call.input.antiRelations++call.conformance.antiRelations

def Call.on (call : Call F) (s : StateVector) : Except Error (Outcome F) :=
  transition hexSum call.policy s call.input call.conformance

def step (s : StateVector) (call : Call F) : StateVector×Except Error (Outcome F) :=
  match call.on hexSum s with
  | .ok o => (o.nextState,.ok o)
  | .error err => (s,.error err)

def Call.Applies (call : Call F) (s : StateVector) : Prop :=
  call.policy.entityID≠"" ∧ s.validate=none ∧ call.policy.entityID=s.entity

def Call.conforms (call : Call F) : Bool := !call.relations.any call.policy.isHard &&
    !Float64.lt (finalScore call.conformance.signals call.relations) call.policy.threshold

def Call.successor (call : Call F) (s : StateVector) : StateVector :=
  let nextLineage := s.lineage.advance hexSum (stepDigest call.input)
  if call.relations.any call.policy.isHard then
    applyAntiInvariantDominance s nextLineage (call.relations.filter call.policy.isHard)
  else if call.conforms then conformingState s call.input nextLineage
  else nonConformingState s nextLineage

variable {hexSum} {s : StateVector} {call : Call F}

theorem on_of_applies (applies : call.Applies s) :
    ∃o,call.on hexSum s=.ok o ∧ o.nextState=call.successor hexSum s ∧
      o.decision=if call.conforms then .accept else .reject := by
  obtain ⟨named,valid,same⟩ := applies
  have all : call.input.antiRelations++call.conformance.antiRelations=call.relations := rfl
  unfold Call.on transition Call.successor
  rw [if_neg named]
  simp only [valid,if_neg (not_not.mpr same),classifyAntiRelations,List.partition_eq_filter_filter,
    all]
  cases hard : call.relations.filter _ with
  | cons primary others =>
    have some' : call.relations.any call.policy.isHard := by
      have mem : primary∈call.relations.filter call.policy.isHard := by simp [hard]
      exact List.any_eq_true.mpr ⟨primary,List.mem_filter.mp mem⟩
    rw [if_pos some']
    exact ⟨_,rfl,rfl,by simp [Call.conforms,some']⟩
  | nil =>
    have none' : ∀rel∈call.relations,¬call.policy.isHard rel := List.filter_eq_nil_iff.mp hard
    have soft : call.relations.filter (not∘call.policy.isHard)=call.relations :=
      List.filter_eq_self.mpr (by simpa using none')
    have quiet : call.relations.any call.policy.isHard=false := by simpa using none'
    simp only [soft,Call.conforms,quiet,Bool.not_false]
    cases Float64.lt (finalScore call.conformance.signals _) _
    · exact ⟨_,rfl,rfl,rfl⟩
    · exact ⟨_,rfl,rfl,rfl⟩

theorem on_of_not_applies (not : ¬call.Applies s) {o : Outcome F} : call.on hexSum s≠.ok o := by
  unfold Call.on transition
  by_cases named : call.policy.entityID=""
  · rw [if_pos named]
    nofun
  · rw [if_neg named]
    cases valid : s.validate with
    | some err => nofun
    | none =>
      have other : call.policy.entityID≠s.entity := fun same => not ⟨named,valid,same⟩
      simp only [if_pos other]
      nofun

theorem on_ok {o : Outcome F} (h : call.on hexSum s=.ok o) :
    call.Applies s ∧ o.nextState=call.successor hexSum s := by
  by_cases applies : call.Applies s
  · obtain ⟨o',done,next,-⟩ := on_of_applies applies
    obtain rfl : o'=o := Except.ok.inj (done.symm.trans h)
    exact ⟨applies,next⟩
  · exact absurd h (on_of_not_applies applies)

end

section

variable {hexSum : String → String} [Float64 F]

theorem dominance_fields {s : StateVector} {l : Lineage} {violations : List AntiRelation} :
    ∃presence,(presence=s.presence ∨ presence=.redacted) ∧
      applyAntiInvariantDominance s l violations=
        ⟨s.entity,s.tau+1,presence,.negative,.decoherent,.contradicted,l⟩ := by
  unfold applyAntiInvariantDominance
  induction violations using List.reverseRecOn with
  | nil => exact ⟨s.presence,.inl rfl,rfl⟩
  | append_singleton violations v ih =>
    obtain ⟨presence,kept,before⟩ := ih
    rw [List.foldl_append,before]
    by_cases invalidates : v.type=.invalidates
    · exact ⟨.redacted,.inr rfl,by simp [invalidates]⟩
    · exact ⟨presence,kept,by simp [invalidates]⟩

theorem successor_frame {call : Call F} {s : StateVector} :
    (call.successor hexSum s).entity=s.entity ∧ (call.successor hexSum s).tau=s.tau+1 ∧
    (call.successor hexSum s).lineage=s.lineage.advance hexSum (stepDigest call.input) := by
  unfold Call.successor
  split_ifs
  · obtain ⟨_,-,next⟩ := dominance_fields
    rw [next]
    exact ⟨rfl,rfl,rfl⟩
  · exact ⟨rfl,rfl,rfl⟩
  · exact ⟨rfl,rfl,rfl⟩

theorem validate_eq_none_iff {s : StateVector} : s.validate=none ↔
    s.entity≠"" ∧ s.presence.isValid ∧ s.valence.isValid ∧ s.coherence.isValid ∧
    s.evidence.isValid := by
  unfold StateVector.validate
  split_ifs <;> simp_all

def Proper (x : TransitionInput) : Prop :=
  ∀target∈x.targetState,(target.presence=.other "" ∨ target.presence.isValid) ∧
    (target.valence=.other "" ∨ target.valence.isValid)

instance (x : TransitionInput) : Decidable (Proper x) := by
  unfold Proper
  infer_instance

theorem conformingState_valid_iff {s : StateVector} (valid : s.validate=none)
    (x : TransitionInput) (l : Lineage) : (conformingState s x l).validate=none ↔ Proper x := by
  have named := ((validate_eq_none_iff).mp valid).1
  rw [validate_eq_none_iff]
  unfold conformingState Proper
  cases x.targetState with
  | none => simp [named,Presence.isValid,Valence.isValid,Coherence.isValid,Evidence.isValid]
  | some target =>
    have presence : (if target.presence≠.other "" then target.presence else .present).isValid ↔
        target.presence=.other "" ∨ target.presence.isValid := by
      by_cases blank : target.presence=.other "" <;> simp [blank,Presence.isValid]
    have valence : (if target.valence≠.other "" then target.valence else .positive).isValid ↔
        target.valence=.other "" ∨ target.valence.isValid := by
      by_cases blank : target.valence=.other "" <;> simp [blank,Valence.isValid]
    simp only [presence,valence]
    simp [named,Coherence.isValid,Evidence.isValid]

theorem successor_valid_iff {call : Call F} {s : StateVector} (valid : s.validate=none) :
    (call.successor hexSum s).validate=none ↔ (call.conforms → Proper call.input) := by
  obtain ⟨named,present,-⟩ := (validate_eq_none_iff).mp valid
  unfold Call.successor
  split_ifs with hard conforms
  · obtain ⟨presence,kept,next⟩ := dominance_fields
    have dominated : call.conforms=false := by simp [Call.conforms,hard]
    have known : presence.isValid := by
      rcases kept with rfl | rfl
      · exact present
      · rfl
    rw [next,validate_eq_none_iff]
    simp [dominated,named,known,Valence.isValid,Coherence.isValid,Evidence.isValid]
  · rw [conformingState_valid_iff valid]
    simp [conforms]
  · rw [validate_eq_none_iff]
    simp [conforms,nonConformingState,named,present,Valence.isValid,Coherence.isValid,
      Evidence.isValid]

end

section

variable [Float64 F] (hexSum : String → String)

def Sound (st : Step StateVector (Call F) (Except Error (Outcome F))) : Prop := ∀o,st.answer=.ok o →
    o.nextState.validate=none ∧
    (∀call : Call F,call.policy.entityID=o.nextState.entity →
      ∃o',call.on hexSum o.nextState=.ok o') ∧
    o.nextState.tau.toNat=st.before.tau.toNat+1 ∧
    o.nextState.lineage.depth.toNat=st.before.lineage.depth.toNat+1 ∧
    o.nextState.entity=st.before.entity

def Closed (s : StateVector) (call : Call F) : Prop :=
  call.Applies s → s.tau.toNat+1<2^64 ∧ s.lineage.depth.toNat+1<2^64 ∧
    (call.conforms → Proper call.input)

theorem step_answer {s : StateVector} {call : Call F} :
    (step hexSum s call).2=call.on hexSum s := by
  unfold step
  cases call.on _ s <;> rfl

theorem step_sound_iff (s : StateVector) (call : Call F) :
    Sound hexSum (stepOf (step hexSum) s call) ↔ Closed s call := by
  by_cases applies : call.Applies s
  · obtain ⟨o,done,next,-⟩ := @on_of_applies F _ _ s _ applies
    have answer : (step hexSum s call).2=.ok o := (step_answer _).trans done
    obtain ⟨entity,tau,lineage⟩ : o.nextState.entity=s.entity ∧ o.nextState.tau=s.tau+1 ∧
        o.nextState.lineage=s.lineage.advance _ _ := by
      rw [next]
      exact successor_frame
    have depth : o.nextState.lineage.depth=s.lineage.depth+1 := by
      rw [lineage]
      rfl
    have formed : o.nextState.validate=none ↔ (call.conforms → Proper call.input) := by
      rw [next]
      exact successor_valid_iff applies.2.1
    constructor
    · intro sound _
      obtain ⟨ok,-,tau',depth',-⟩ := sound o answer
      rw [tau] at tau'
      rw [depth] at depth'
      exact ⟨(uint64_succ_exact_iff).mp tau',(uint64_succ_exact_iff).mp depth',formed.mp ok⟩
    · intro closed o' got
      obtain rfl : o=o' := Except.ok.inj (answer.symm.trans got)
      obtain ⟨room,room',proper⟩ := closed applies
      have ok := formed.mpr proper
      refine ⟨ok,fun next policy => ?_,?_,?_,entity⟩
      · have named := ((validate_eq_none_iff).mp ok).1
        obtain ⟨o',more,-⟩ := on_of_applies ⟨by rwa [policy],ok,policy⟩
        exact ⟨o',more⟩
      · rw [tau]
        exact (uint64_succ_exact_iff).mpr room
      · rw [depth]
        exact (uint64_succ_exact_iff).mpr room'
  · refine iff_of_true (fun o got => ?_) fun applies' => absurd applies' applies
    exact absurd ((step_answer _).symm.trans got) (on_of_not_applies applies)

theorem runs_closed_iff (s : StateVector) (calls : List (Call F)) :
    Always (step hexSum) s calls (fun tr _ => ∀st∈tr,Sound hexSum st) ↔
      EachCall (step hexSum) s calls (fun _ t call => Closed t call) :=
  always_steps_iff (step hexSum) (step_sound_iff hexSum)

end

def proposal : Call ExactFloat :=
  ⟨⟨"svc",.of (1/2),[]⟩,⟨"act","",some {sampleState with presence := .other "GONE"},[]⟩,⟨[],[]⟩⟩

theorem proposal_sticks :
    sampleState.validate=none ∧ (∃o,proposal.on id sampleState=.ok o ∧ o.decision=.accept) ∧
    (step id sampleState proposal).1.presence=.other "GONE" ∧
    (∀(call : Call ExactFloat) (o : Outcome ExactFloat),
      call.on id (step id sampleState proposal).1≠.ok o) ∧
    ¬Always (step id) sampleState [proposal] (fun tr _ => ∀st∈tr,Sound id st) := by
  have applies : proposal.Applies sampleState := ⟨by decide,by decide,rfl⟩
  have conforms : proposal.conforms=true := by decide +kernel
  obtain ⟨o,done,next,accept⟩ := @on_of_applies _ _ id _ _ applies
  rw [if_pos conforms] at accept
  have reached : (step id sampleState proposal).1=proposal.successor id sampleState := by
    unfold step
    rw [done]
    exact next
  have gone : (proposal.successor id sampleState).presence=.other "GONE" := by
    unfold Call.successor
    rw [if_neg (by decide),if_pos conforms]
    rfl
  refine ⟨by decide,⟨o,done,accept⟩,by rw [reached,gone],fun call o' more => ?_,fun all => ?_⟩
  · rw [reached] at more
    have valid := ((on_ok more).1.2.1)
    have known := ((validate_eq_none_iff).mp valid).2.1
    rw [gone] at known
    exact absurd known (by decide)
  · have called := mem_trace (step id) sampleState [] proposal []
    have sound := all [proposal] (List.prefix_refl _) _ called
    have closed := (step_sound_iff id sampleState proposal).mp sound applies
    exact absurd (closed.2.2 conforms) (by decide)

end KServeLLM.Statevector.Floating
