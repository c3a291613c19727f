import Mathlib.Tactic.Linarith
import Mathlib.Tactic.Ring
import KServeLLM.Framework.GoTypes

namespace KServeLLM.Statevector

inductive Presence where
  | empty | present | unknown | redacted
  | other (text : String)
  deriving DecidableEq

def Presence.isValid (p : Presence) : Bool := p=.empty || p=.present || p=.unknown || p=.redacted

def Presence.text : Presence → String
  | .empty => "EMPTY"
  | .present => "PRESENT"
  | .unknown => "UNKNOWN"
  | .redacted => "REDACTED"
  | .other text => text

inductive Valence where
  | positive | negative | neutral | mixed
  | other (text : String)
  deriving DecidableEq

def Valence.isValid (v : Valence) : Bool := v=.positive || v=.negative || v=.neutral || v=.mixed

def Valence.text : Valence → String
  | .positive => "POSITIVE"
  | .negative => "NEGATIVE"
  | .neutral => "NEUTRAL"
  | .mixed => "MIXED"
  | .other text => text

inductive Coherence where
  | coherent | partly | decoherent
  | other (text : String)
  deriving DecidableEq

def Coherence.isValid (c : Coherence) : Bool := c=.coherent || c=.partly || c=.decoherent

def Coherence.text : Coherence → String
  | .coherent => "COHERENT"
  | .partly => "PARTIAL"
  | .decoherent => "DECOHERENT"
  | .other text => text

inductive Evidence where
  | unverified | verified | inferred | contradicted
  | other (text : String)
  deriving DecidableEq

def Evidence.isValid (e : Evidence) : Bool :=
  e=.unverified || e=.verified || e=.inferred || e=.contradicted

def Evidence.text : Evidence → String
  | .unverified => "UNVERIFIED"
  | .verified => "VERIFIED"
  | .inferred => "INFERRED"
  | .contradicted => "CONTRADICTED"
  | .other text => text

inductive AntiRelationType where
  | attacks | invalidates | contradicts
  | other (text : String)
  deriving DecidableEq

def AntiRelationType.text : AntiRelationType → String
  | .attacks => "ATTACKS"
  | .invalidates => "INVALIDATES"
  | .contradicts => "CONTRADICTS"
  | .other text => text

structure AntiRelation where
  type : AntiRelationType
  (source target reason : String)
  hard : Bool
  deriving DecidableEq

inductive Decision where
  | accept | reject | quarantine
  deriving DecidableEq

structure Lineage where
  (parentID chainDigest : String)
  depth : UInt64
  deriving DecidableEq

def Lineage.advance (hexSum : String → String) (l : Lineage) (stepDigest : String) : Lineage :=
  ⟨l.chainDigest,hexSum (l.chainDigest++":"++stepDigest),l.depth+1⟩

structure StateVector where
  entity : String
  tau : UInt64
  presence : Presence
  valence : Valence
  coherence : Coherence
  evidence : Evidence
  lineage : Lineage
  deriving DecidableEq

inductive Sentinel where
  | invalidEntity | invalidPresence | invalidValence | invalidCoherence | invalidEvidence
  | entityMismatch | emptyPolicyEnvelope
  deriving DecidableEq

abbrev Error := GoError Sentinel

def StateVector.validate (s : StateVector) : Option Error :=
  if s.entity="" then some (.sentinel .invalidEntity)
  else if !s.presence.isValid then
    some (.errorf "%w: %q" (.sentinel .invalidPresence) [.str s.presence.text])
  else if !s.valence.isValid then
    some (.errorf "%w: %q" (.sentinel .invalidValence) [.str s.valence.text])
  else if !s.coherence.isValid then
    some (.errorf "%w: %q" (.sentinel .invalidCoherence) [.str s.coherence.text])
  else if !s.evidence.isValid then
    some (.errorf "%w: %q" (.sentinel .invalidEvidence) [.str s.evidence.text])
  else none

structure ConformanceSignal where
  name : String
  (score weight : ℚ)

structure ConformanceVector where
  signals : List ConformanceSignal
  antiRelations : List AntiRelation

structure PolicyEnvelope where
  entityID : String
  scoreThreshold : ℚ
  hardInvariants : List AntiRelationType

structure TransitionInput where
  (action digest : String)
  targetState : Option StateVector
  antiRelations : List AntiRelation

structure Message where
  format : String
  texts : List String
  numbers : List ℚ
  deriving DecidableEq

structure Observation where
  timestamp : Time
  code : String
  message : Message
  details : GoMap String String

structure EvidenceRecord where
  status : Evidence
  proofDigest : String
  verifiedAt : Int64

structure Residual where
  score : ℚ
  dominated : Bool
  hardViolations : List AntiRelation
  warnings : List Message
  reason : Message

structure TransitionResult where
  decision : Decision
  observation : Observation
  nextState : StateVector
  evidence : EvidenceRecord
  residual : Residual

structure Clock where
  timestamp : Time
  verifiedAt : Int64

def PolicyEnvelope.isHard (pe : PolicyEnvelope) (rel : AntiRelation) : Bool :=
  rel.hard || pe.hardInvariants.contains rel.type

def classifyAntiRelations (pe : PolicyEnvelope) (allRelations : List AntiRelation) :
    List AntiRelation×List AntiRelation :=
  allRelations.partition pe.isHard

def addSignal (acc : ℚ×ℚ) (sig : ConformanceSignal) : ℚ×ℚ :=
  let w := if sig.weight ≤ 0 then 1 else sig.weight
  let s := if sig.score < 0 then 0 else if sig.score > 1 then 1 else sig.score
  (acc.1+w,acc.2+s*w)

def computeBaseScore (signals : List ConformanceSignal) : ℚ :=
  if signals.length=0 then 1
  else
    let (totalWeight,weightedSum) := signals.foldl addSignal (0,0)
    if totalWeight=0 then 0 else weightedSum/totalWeight

def applyAntiInvariantDominance (s0 : StateVector) (nextLineage : Lineage)
    (violations : List AntiRelation) : StateVector :=
  let s1 : StateVector :=
    ⟨s0.entity,s0.tau+1,s0.presence,.negative,.decoherent,.contradicted,nextLineage⟩
  violations.foldl (fun s v => if v.type=.invalidates then {s with presence := .redacted} else s) s1

def buildDominatedOutcome (clock : Clock) (s0 : StateVector) (nextLineage : Lineage)
    (primary : AntiRelation) (others : List AntiRelation) : TransitionResult :=
  let reason : Message :=
    ⟨"Hard anti-invariant %s dominated composite score: %s",[primary.type.text,primary.reason],[]⟩
  { decision := .reject
    observation := ⟨clock.timestamp,"ANTI_INVARIANT_DOMINATED",reason,
      AList.singleton "primary_violation" primary.type.text⟩
    nextState := applyAntiInvariantDominance s0 nextLineage (primary::others)
    evidence := ⟨.contradicted,nextLineage.chainDigest,clock.verifiedAt⟩
    residual := ⟨0,true,primary::others,[],reason⟩ }

def buildConformingOutcome (clock : Clock) (s0 : StateVector) (x : TransitionInput)
    (nextLineage : Lineage) (score : ℚ) (soft : List AntiRelation) : TransitionResult :=
  let presence := match x.targetState with
    | some target => if target.presence≠.other "" then target.presence else .present
    | none => .present
  let valence := match x.targetState with
    | some target => if target.valence≠.other "" then target.valence else .positive
    | none => .positive
  { decision := .accept
    observation := ⟨clock.timestamp,"TRANSITION_ACCEPTED",
      ⟨"Conformance evaluation succeeded",[],[]⟩,∅⟩
    nextState := ⟨s0.entity,s0.tau+1,presence,valence,.coherent,.verified,nextLineage⟩
    evidence := ⟨.verified,nextLineage.chainDigest,clock.verifiedAt⟩
    residual := ⟨score,false,[],
      soft.map fun sv => ⟨"Soft anti-relation %s: %s",[sv.type.text,sv.reason],[]⟩,
      ⟨"Conformance threshold satisfied",[],[]⟩⟩ }

def buildNonConformingOutcome (clock : Clock) (s0 : StateVector) (nextLineage : Lineage)
    (score : ℚ) (reason : Message) : TransitionResult :=
  { decision := .reject
    observation := ⟨clock.timestamp,"THRESHOLD_UNMET",reason,∅⟩
    nextState := ⟨s0.entity,s0.tau+1,s0.presence,.neutral,.partly,.unverified,nextLineage⟩
    evidence := ⟨.unverified,nextLineage.chainDigest,clock.verifiedAt⟩
    residual := ⟨score,false,[],[],reason⟩ }

def finalScore (signals : List ConformanceSignal) (soft : List AntiRelation) : ℚ :=
  let score := computeBaseScore signals-soft.length*(1/5)
  if score < 0 then 0 else score

def PolicyEnvelope.threshold (pe : PolicyEnvelope) : ℚ :=
  if pe.scoreThreshold ≤ 0 then 1/2 else pe.scoreThreshold

def transition (hexSum : String → String) (clock : Clock) (pe : PolicyEnvelope)
    (s0 : StateVector) (x : TransitionInput) (c : ConformanceVector) :
    Except Error TransitionResult :=
  if pe.entityID="" then .error (.sentinel .emptyPolicyEnvelope)
  else
    match s0.validate with
    | some err => .error (.errorf "initial state invalid: %w" err [])
    | none =>
      if pe.entityID≠s0.entity then
        .error (.errorf "%w: policy for %q, state for %q" (.sentinel .entityMismatch)
          [.str pe.entityID,.str s0.entity])
      else
        let stepDigest := if x.digest="" then x.action else x.digest
        let nextLineage := s0.lineage.advance hexSum stepDigest
        match classifyAntiRelations pe (x.antiRelations++c.antiRelations) with
        | (primary::others,_) => .ok (buildDominatedOutcome clock s0 nextLineage primary others)
        | ([],soft) =>
          let score := finalScore c.signals soft
          if score < pe.threshold then
            .ok (buildNonConformingOutcome clock s0 nextLineage score
              ⟨"Conformance score %.2f is below threshold %.2f",[],[score,pe.threshold]⟩)
          else .ok (buildConformingOutcome clock s0 x nextLineage score soft)

def verdict : Except Error TransitionResult → Option (Decision×ℚ)
  | .error _ => none
  | .ok r => some (r.decision,r.residual.score)

def PolicyEnvelope.rule (pe : PolicyEnvelope) (relations : List AntiRelation)
    (signals : List ConformanceSignal) : Decision×ℚ :=
  if relations.any pe.isHard then (.reject,0)
  else if finalScore signals relations < pe.threshold then (.reject,finalScore signals relations)
  else (.accept,finalScore signals relations)

theorem classify_eq (pe : PolicyEnvelope) (relations : List AntiRelation) :
    classifyAntiRelations pe relations=
      (relations.filter pe.isHard,relations.filter (! pe.isHard ·)) :=
  List.partition_eq_filter_filter

def PolicyEnvelope.Applies (pe : PolicyEnvelope) (s0 : StateVector) : Prop :=
  pe.entityID≠"" ∧ s0.validate=none ∧ pe.entityID=s0.entity

variable (hexSum : String → String) {pe : PolicyEnvelope} {s0 : StateVector}

theorem verdict_transition_of_applies (clock : Clock)
    (applies : pe.Applies s0) (x : TransitionInput) (c : ConformanceVector) :
    verdict (transition hexSum clock pe s0 x c)=
      some (pe.rule (x.antiRelations++c.antiRelations) c.signals) := by
  obtain ⟨named,valid,same⟩ := applies
  generalize all : x.antiRelations++c.antiRelations=relations
  unfold transition
  rw [if_neg named]
  simp only [valid,if_neg (not_not.mpr same),all,classify_eq]
  cases hard : relations.filter _ with
  | cons primary others =>
    have some' : relations.any pe.isHard := by
      have mem : primary∈relations.filter pe.isHard := by simp [hard]
      exact List.any_eq_true.mpr ⟨primary,List.mem_filter.mp mem⟩
    simp [PolicyEnvelope.rule,some',verdict,buildDominatedOutcome]
  | nil =>
    have none' : ∀rel∈relations,¬pe.isHard rel := List.filter_eq_nil_iff.mp hard
    have all' : relations.filter (! pe.isHard ·)=relations :=
      List.filter_eq_self.mpr (by simpa using none')
    have quiet : ¬relations.any pe.isHard := by simpa using none'
    rw [all',PolicyEnvelope.rule]
    dsimp only
    split_ifs <;> rfl

variable {clock : Clock}

theorem verdict_transition_of_not_applies
    (not : ¬pe.Applies s0) (x : TransitionInput) (c : ConformanceVector) :
    verdict (transition hexSum clock pe s0 x c)=none := by
  unfold transition
  by_cases named : pe.entityID=""
  · rw [if_pos named]
    rfl
  · rw [if_neg named]
    cases valid : s0.validate with
    | some err => rfl
    | none =>
      have other : pe.entityID≠s0.entity := fun same => not ⟨named,valid,same⟩
      simp only [if_pos other]
      rfl

theorem addSignal_comm {acc : ℚ×ℚ} {a b : ConformanceSignal} :
    addSignal (addSignal acc a) b=addSignal (addSignal acc b) a := by
  simp only [addSignal,Prod.mk.injEq]
  constructor <;> ring

variable {signals signals' : List ConformanceSignal}

theorem computeBaseScore_perm
    (perm : signals.Perm signals') : computeBaseScore signals=computeBaseScore signals' := by
  have sums := perm.foldl_eq' (fun a _ b _ acc => addSignal_comm) (0,0)
  unfold computeBaseScore
  rw [perm.length_eq,sums]

variable {relations : List AntiRelation} {relations' : List AntiRelation}

theorem finalScore_perm
    (sameSignals : signals.Perm signals') (sameRelations : relations.Perm relations') :
    finalScore signals relations=finalScore signals' relations' := by
  unfold finalScore
  rw [computeBaseScore_perm sameSignals,sameRelations.length_eq]

theorem rule_perm {pe : PolicyEnvelope}
    (sameSignals : signals.Perm signals') (sameRelations : relations.Perm relations') :
    pe.rule relations signals=pe.rule relations' signals' := by
  unfold PolicyEnvelope.rule
  rw [finalScore_perm sameSignals sameRelations,sameRelations.any_eq]

variable {rel : AntiRelation}

theorem finalScore_cons_le {signals : List ConformanceSignal} {relations : List AntiRelation} :
    finalScore signals (rel::relations) ≤ finalScore signals relations := by
  simp only [finalScore,List.length_cons,Nat.cast_add]
  split_ifs <;> linarith

theorem rule_reject_iff {pe : PolicyEnvelope} (signals : List ConformanceSignal)
    {relations : List AntiRelation} :
    (pe.rule relations signals).1=.reject ↔
      (∃rel∈relations,pe.isHard rel) ∨ finalScore signals relations < pe.threshold := by
  unfold PolicyEnvelope.rule
  split_ifs with hard low
  · simpa using .inl (List.any_eq_true.mp hard)
  · simp [low]
  · simpa [low] using hard

theorem rule_reject_cons {pe : PolicyEnvelope} {signals : List ConformanceSignal}
    (reject : (pe.rule relations signals).1=.reject) :
    (pe.rule (rel::relations) signals).1=.reject := by
  rw [rule_reject_iff] at reject ⊢
  rcases reject with ⟨old,mem,hard⟩ | low
  · exact .inl ⟨old,List.mem_cons_of_mem rel mem,hard⟩
  · exact .inr (lt_of_le_of_lt (finalScore_cons_le) low)

def decision (outcome : Except Error TransitionResult) : Option Decision :=
  (verdict outcome).map Prod.fst

theorem ok_of_verdict {outcome : Except Error TransitionResult} {d : Decision} {score : ℚ}
    (h : verdict outcome=some (d,score)) : ∃r,outcome=.ok r ∧ r.decision=d := by
  cases outcome with
  | error err => cases h
  | ok r => exact ⟨r,rfl,congrArg Prod.fst (Option.some.inj h)⟩

theorem hard_reject (applies : pe.Applies s0) {x : TransitionInput} {c : ConformanceVector}
    (hard : ∃rel∈x.antiRelations++c.antiRelations,rel.hard ∨ rel.type∈pe.hardInvariants) :
    ∃r,transition hexSum clock pe s0 x c=.ok r ∧ r.decision=.reject := by
  have shown := verdict_transition_of_applies hexSum clock applies x c
  obtain ⟨rel,mem,why⟩ := hard
  have isHard : pe.isHard rel := by simpa [PolicyEnvelope.isHard] using why
  have reject := (rule_reject_iff c.signals).mpr (.inl ⟨rel,mem,isHard⟩)
  obtain ⟨r,ok,same⟩ := ok_of_verdict shown
  exact ⟨r,ok,same.trans reject⟩

theorem added_relation_reject {clock' : Clock} {pe : PolicyEnvelope} {s0 : StateVector}
    {x x' : TransitionInput} {c c' : ConformanceVector}
    (signals : c'.signals=c.signals)
    (added : (x'.antiRelations++c'.antiRelations).Perm (rel::(x.antiRelations++c.antiRelations)))
    (reject : decision (transition hexSum clock pe s0 x c)=some .reject) :
    decision (transition hexSum clock' pe s0 x' c')=some .reject := by
  by_cases applies : pe.Applies s0
  · rw [decision,verdict_transition_of_applies _ _ applies,Option.map_some] at reject ⊢
    rw [rule_perm (.refl _) added,signals]
    rw [rule_reject_cons (Option.some.inj reject)]
  · rw [decision,verdict_transition_of_not_applies _ applies] at reject
    cases reject

theorem verdict_perm {clock' : Clock} {pe : PolicyEnvelope} {s0 : StateVector}
    {x x' : TransitionInput} {c c' : ConformanceVector} (signals : c'.signals.Perm c.signals)
    (relations : (x'.antiRelations++c'.antiRelations).Perm (x.antiRelations++c.antiRelations)) :
    verdict (transition hexSum clock' pe s0 x' c')=verdict (transition hexSum clock pe s0 x c) := by
  by_cases applies : pe.Applies s0
  · rw [verdict_transition_of_applies _ _ applies,
      verdict_transition_of_applies _ _ applies,rule_perm signals relations]
  · rw [verdict_transition_of_not_applies _ applies,verdict_transition_of_not_applies _ applies]

def sampleState : StateVector := ⟨"svc",0,.present,.neutral,.coherent,.verified,⟨"","",0⟩⟩

def sampleRelation : AntiRelation := ⟨.attacks,"a","b","r",true⟩

end KServeLLM.Statevector
