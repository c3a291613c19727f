import Mathlib.Data.List.Sort
import KServeLLM.Framework.Execution
import KServeLLM.Framework.GoStrings
import KServeLLM.Framework.GoTypes

namespace KServeLLM.Composition

inductive Sentinel where
  | missingIdentity | missingDigest | missingRequiredComponent | forbiddenVectorTuple
  | executionHalted
  deriving DecidableEq

inductive Error where
  | plain (sentinel : Sentinel) (format : String) (args : List ErrArg)
  | component (id : String) (cause : Error)
  | compatibility (violations : List Errorf)
  | preflight (cause : Error)

inductive ComponentKind where
  | model | tokenizer | quantization | adapter | projection | filter | guard | plugin | runtime
  | other (text : String)
  deriving DecidableEq

def ComponentKind.text : ComponentKind → String
  | .model => "Model"
  | .tokenizer => "Tokenizer"
  | .quantization => "Quantization"
  | .adapter => "Adapter"
  | .projection => "Projection"
  | .filter => "Filter"
  | .guard => "Guard"
  | .plugin => "Plugin"
  | .runtime => "Runtime"
  | .other text => text

inductive ExecutionStage where
  | unspecified | preExecution | tokenize | inference | postExecution
  | other (text : String)
  deriving DecidableEq

def ExecutionStage.text : ExecutionStage → String
  | .unspecified => "Unspecified"
  | .preExecution => "PreExecution"
  | .tokenize => "Tokenize"
  | .inference => "Inference"
  | .postExecution => "PostExecution"
  | .other text => text

inductive LifecycleState where
  | unspecified | proposed | active | quarantined | deprecated | retired
  | other (text : String)
  deriving DecidableEq

def LifecycleState.text : LifecycleState → String
  | .unspecified => "Unspecified"
  | .proposed => "Proposed"
  | .active => "Active"
  | .quarantined => "Quarantined"
  | .deprecated => "Deprecated"
  | .retired => "Retired"
  | .other text => text

inductive TrustState where
  | unspecified | denied | unknown | asserted | verified | trusted
  | other (text : String)
  deriving DecidableEq

def TrustState.text : TrustState → String
  | .unspecified => "Unspecified"
  | .denied => "Denied"
  | .unknown => "Unknown"
  | .asserted => "Asserted"
  | .verified => "Verified"
  | .trusted => "Trusted"
  | .other text => text

inductive RiskBand where
  | unspecified | low | normal | high | critical
  | other (text : String)
  deriving DecidableEq

def RiskBand.text : RiskBand → String
  | .unspecified => "Unspecified"
  | .low => "Low"
  | .normal => "Normal"
  | .high => "High"
  | .critical => "Critical"
  | .other text => text

inductive AdmissionDecision where
  | unspecified | admitted | audit | pending | denied
  | other (text : String)
  deriving DecidableEq

def AdmissionDecision.text : AdmissionDecision → String
  | .unspecified => "Unspecified"
  | .admitted => "Admitted"
  | .audit => "Audit"
  | .pending => "Pending"
  | .denied => "Denied"
  | .other text => text

inductive CompatibilityState where
  | unspecified | compatible | degraded | incompatible
  | other (text : String)
  deriving DecidableEq

def CompatibilityState.text : CompatibilityState → String
  | .unspecified => "Unspecified"
  | .compatible => "Compatible"
  | .degraded => "Degraded"
  | .incompatible => "Incompatible"
  | .other text => text

inductive IntegrityState where
  | unspecified | verified | unsigned | tampered | missing
  | other (text : String)
  deriving DecidableEq

def IntegrityState.text : IntegrityState → String
  | .unspecified => "Unspecified"
  | .verified => "Verified"
  | .unsigned => "Unsigned"
  | .tampered => "Tampered"
  | .missing => "Missing"
  | .other text => text

structure StateVector where
  lifecycle : LifecycleState
  trust : TrustState
  risk : RiskBand
  admission : AdmissionDecision
  compatibility : CompatibilityState
  integrity : IntegrityState
  deriving DecidableEq

structure Identity where
  (id name : String)
  kind : ComponentKind
  deriving DecidableEq

structure CompatibilitySpec where
  architecture : String
  baseModelDigest : GoString
  (inputDimension outputDimension : Int64)
  stage : ExecutionStage
  deriving DecidableEq

structure Provenance where
  (sourceURI publisher : String)
  deriving DecidableEq

structure Component where
  identity : Identity
  version : String
  digest : GoString
  compatibility : CompatibilitySpec
  provenance : Provenance
  stateVector : StateVector
  deriving DecidableEq

structure Pipeline where
  (id name version : String)
  (model tokenizer quantization runtime : Option Component)
  (adapters projections filters guards plugins : List Component)
  compositeDigest : String
  stateVector : StateVector
  deriving DecidableEq

structure ValidationReport where
  compatibilityStatus : CompatibilityState
  stateVector : StateVector
  violations : List Errorf
  compositeDigest : String

structure Payload where
  data : GoString
  metadata : GoMap String String
  tokens : List Int64
  attributes : GoMap String String

inductive ExecutionStatus where
  | success | halted
  deriving DecidableEq

structure CompositionReceipt where
  (pipelineID compositeDigest : String)
  status : ExecutionStatus
  stateVector : StateVector
  stageTraces : List String
  executedAtUnix : Int64

def isHexDigit (c : Char) : Bool :=
  ('0' ≤ c && c ≤ '9') || ('a' ≤ c && c ≤ 'f') || ('A' ≤ c && c ≤ 'F')

def hexDecodes (s : GoString) : Bool := s.all isHexDigit && s.length%2=0

def afterFirst (pattern : GoString) : GoString → Option GoString
  | [] => if pattern=[] then some [] else none
  | c::s =>
      if pattern.isPrefixOf (c::s) then some ((c::s).drop pattern.length)
      else afterFirst pattern s

def isValidDigest (digest : GoString) : Bool :=
  if GoString.hasPrefix digest "sha256:".toList && digest.length=71 then
    hexDecodes (digest.drop 7)
  else
    match afterFirst "@sha256:".toList digest with
    | some rest => if rest.length=64 then hexDecodes rest else false
    | none => false

def validateComponentIdentityAndDigest (c : Component) : Option Error :=
  if c.identity.id="" ∨ c.identity.name="" ∨ c.version="" then
    some (.plain .missingIdentity "%w: ID=%q name=%q version=%q"
      [.str c.identity.id,.str c.identity.name,.str c.version])
  else if !isValidDigest c.digest then
    some (.plain .missingDigest "%w: component %s digest %q"
      [.str c.identity.id,.str (String.ofList c.digest)])
  else if c.provenance.sourceURI="" ∨ c.provenance.publisher="" then
    some (.plain .missingIdentity "%w: component %s missing provenance" [.str c.identity.id])
  else none

def checkForbiddenTuples (v : StateVector) : Option Error :=
  if v.trust=.denied ∨ v.admission=.denied then
    some (.plain .forbiddenVectorTuple "%w: anti_execute violation (trust=%s, admission=%s)"
      [.str v.trust.text,.str v.admission.text])
  else if v.lifecycle=.active ∧ (v.trust=.denied ∨ v.trust=.unknown) then
    some (.plain .forbiddenVectorTuple "%w: active_untrusted violation (lifecycle=%s, trust=%s)"
      [.str v.lifecycle.text,.str v.trust.text])
  else if (v.lifecycle=.quarantined ∨ v.lifecycle=.retired) ∧
      (v.admission=.admitted ∨ v.trust=.trusted ∨ v.trust=.verified) then
    some (.plain .forbiddenVectorTuple
      "%w: negative_escalation_skipped violation (lifecycle=%s, admission=%s, trust=%s)"
      [.str v.lifecycle.text,.str v.admission.text,.str v.trust.text])
  else if (v.risk=.high ∨ v.risk=.critical) ∧ v.integrity≠.verified then
    some (.plain .forbiddenVectorTuple "%w: empty_high_dal violation (risk=%s, integrity=%s)"
      [.str v.risk.text,.str v.integrity.text])
  else if v.compatibility=.incompatible ∧ v.admission=.admitted then
    some (.plain .forbiddenVectorTuple
      "%w: incompatible_admitted violation (compat=%s, admission=%s)"
      [.str v.compatibility.text,.str v.admission.text])
  else none

def trustScore : TrustState → Int
  | .denied => -1
  | .unknown => 0
  | .asserted => 1
  | .verified => 2
  | .trusted => 3
  | _ => 0

def trustOf (score : Int) : TrustState :=
  if score = -1 then .denied
  else if score=1 then .asserted
  else if score=2 then .verified
  else if score=3 then .trusted
  else .unknown

def aggregateTrust (comps : List Component) : TrustState := trustOf (comps.foldl (fun minScore c =>
    let s := trustScore c.stateVector.trust
    if s < minScore then s else minScore) 3)

def riskOrder : RiskBand → Nat
  | .low => 1
  | .normal => 2
  | .high => 3
  | .critical => 4
  | _ => 0

def riskOf (order : Nat) : RiskBand :=
  if order=1 then .low
  else if order=3 then .high
  else if order=4 then .critical
  else .normal

def aggregateRisk (comps : List Component) : RiskBand := riskOf (comps.foldl (fun maxRisk c =>
    if maxRisk < riskOrder c.stateVector.risk then riskOrder c.stateVector.risk else maxRisk) 1)

def addComponent (eff : StateVector) (c : Component) : StateVector :=
  let v := c.stateVector
  { eff with
    lifecycle :=
      if v.lifecycle=.quarantined then .quarantined
      else if v.lifecycle=.proposed ∧ eff.lifecycle≠.quarantined then .proposed
      else eff.lifecycle
    admission :=
      if v.admission=.denied then .denied
      else if v.admission=.pending ∧ eff.admission≠.denied then .pending
      else eff.admission
    integrity :=
      if v.integrity=.tampered then .tampered
      else if v.integrity≠.verified ∧ eff.integrity≠.tampered then v.integrity
      else eff.integrity }

namespace Pipeline

def allComponents (p : Pipeline) : List Component :=
  p.runtime.toList++p.model.toList++p.tokenizer.toList++p.quantization.toList++
    p.adapters++p.projections++p.filters++p.guards++p.plugins

def missing (text : String) : Error := .plain .missingRequiredComponent text []

def validateRequired (p : Pipeline) : Except Error (Component×Component×Component) :=
  match p.model,p.tokenizer,p.runtime with
  | none,_,_ => .error (missing "%w: Model slot is mandatory")
  | some _,none,_ => .error (missing "%w: Tokenizer slot is mandatory")
  | some _,some _,none => .error (missing "%w: Runtime slot is mandatory")
  | some model,some tokenizer,some runtime => .ok (model,tokenizer,runtime)

def clashes (a b : Component) : Bool :=
  decide (a.compatibility.architecture≠"" ∧ b.compatibility.architecture≠"" ∧
    a.compatibility.architecture≠b.compatibility.architecture)

def wrongBase (c model : Component) : Bool :=
  decide (c.compatibility.baseModelDigest≠[] ∧ c.compatibility.baseModelDigest≠model.digest)

def checkQuantAndAdapterCompat (p : Pipeline) (model : Component) : List Errorf :=
  (p.quantization.toList.flatMap fun q =>
    if wrongBase q model then
      [⟨"quantization baseModelDigest %q does not match model %q",
        [.str (String.ofList q.compatibility.baseModelDigest),.str (String.ofList model.digest)]⟩]
    else []) ++
  p.adapters.zipIdx.flatMap fun (a,i) =>
    (if wrongBase a model then
      [⟨"adapter[%d] baseModelDigest %q mismatch with model %q",
        [.int i,.str (String.ofList a.compatibility.baseModelDigest),
          .str (String.ofList model.digest)]⟩]
    else []) ++
    (if clashes a model then
      [⟨"adapter[%d] architecture %q mismatch with model arch %q",
        [.int i,.str a.compatibility.architecture,.str model.compatibility.architecture]⟩]
    else [])

def checkStage (format : String) (comps : List Component) : List Errorf :=
  comps.zipIdx.flatMap fun (c,i) =>
    if c.compatibility.stage≠.preExecution ∧ c.compatibility.stage≠.postExecution then
      [⟨format,[.int i,.str c.compatibility.stage.text]⟩]
    else []

def checkProjectionsAndStages (p : Pipeline) (model : Component) : List Errorf :=
  (p.projections.zipIdx.flatMap fun (proj,i) =>
    (if wrongBase proj model then
      [⟨"projection[%d] baseModelDigest mismatch",[.int i]⟩]
    else []) ++
    (if 0 < proj.compatibility.inputDimension ∧ 0 < model.compatibility.outputDimension ∧
        proj.compatibility.inputDimension≠model.compatibility.outputDimension then
      [⟨"projection[%d] inputDim %d != model outputDim %d",
        [.int i,.int proj.compatibility.inputDimension.toInt,
          .int model.compatibility.outputDimension.toInt]⟩]
    else [])) ++
  checkStage "filter[%d] invalid stage %s" p.filters ++
  checkStage "guard[%d] invalid stage %s" p.guards

def checkTokenizer (model tokenizer : Component) : List Errorf :=
  if clashes tokenizer model then
    [⟨"tokenizer architecture %q incompatible with model architecture %q",
      [.str tokenizer.compatibility.architecture,.str model.compatibility.architecture]⟩]
  else []

def validateInterComponentCompatibility (p : Pipeline) (model tokenizer : Component) :
    List Errorf×Option Error :=
  let violations := checkTokenizer model tokenizer++p.checkQuantAndAdapterCompat model++
    p.checkProjectionsAndStages model
  if 0 < violations.length then (violations,some (.compatibility violations)) else ([],none)

def aggregateStateVector (p : Pipeline) (compatible : Bool) : StateVector :=
  let comps := p.allComponents
  comps.foldl addComponent ⟨.active,aggregateTrust comps,aggregateRisk comps,.admitted,
      if compatible then .compatible else .incompatible,.verified⟩

def computeCompositeDigest (hexSum : String → String) (p : Pipeline) : String :=
  let entries := p.allComponents.map fun c =>
    c.identity.kind.text++":"++c.identity.id++":"++c.version++":"++String.ofList c.digest
  let sorted := entries.mergeSort fun a b => !decide (b < a)
  "sha256:"++hexSum (p.id++"|"++p.name++"|"++p.version++"|"++";".intercalate sorted)

def checkComponents : List Component → Option Error
  | [] => none
  | c::comps =>
      match validateComponentIdentityAndDigest c with
      | some err => some err
      | none =>
        match checkForbiddenTuples c.stateVector with
        | some err => some (.component c.identity.id err)
        | none => checkComponents comps

variable (hexSum : String → String)

def validate (p : Pipeline) : Pipeline×Except (Option ValidationReport×Error) ValidationReport :=
  match p.validateRequired with
  | .error err => (p,.error (none,err))
  | .ok (model,tokenizer,_) =>
    match checkComponents p.allComponents with
    | some err => (p,.error (none,err))
    | none =>
      let (violations,compatErr) := p.validateInterComponentCompatibility model tokenizer
      let vec := p.aggregateStateVector compatErr.isNone
      let p := {p with stateVector := vec}
      match checkForbiddenTuples vec with
      | some err => (p,.error (some ⟨vec.compatibility,vec,violations,""⟩,err))
      | none =>
        let digest := p.computeCompositeDigest hexSum
        let p := {p with compositeDigest := digest}
        let report : ValidationReport := ⟨vec.compatibility,vec,violations,digest⟩
        match compatErr with
        | some err => (p,.error (some report,err))
        | none => (p,.ok report)

def halted (format : String) (args : List ErrArg) : Error := .plain .executionHalted format args

structure Execution where
  pipeline : Pipeline
  payload : Option Payload
  receipt : Option CompositionReceipt
  error : Option Error

def execute (p : Pipeline) (input : Option Payload) (now : Int64) : Execution :=
  match input with
  | none => ⟨p,none,none,some (halted "%w: payload cannot be nil" [])⟩
  | some input =>
    match p.validate hexSum with
    | (p,.error (_,err)) => ⟨p,none,none,some (.preflight err)⟩
    | (p,.ok report) =>
      if report.stateVector.admission≠.admitted ∧ report.stateVector.admission≠.audit then
        ⟨p,none,none,some (halted "%w: pipeline admission is %s"
          [.str report.stateVector.admission.text])⟩
      else
        let traces := ["preflight:validation_passed"]
        let blocks (g : Component) : Bool := g.compatibility.stage=.preExecution &&
          (afterFirst "MALICIOUS".toList input.data).isSome
        match p.guards.find? blocks with
        | some g =>
          ⟨p,none,some ⟨p.id,p.compositeDigest,.halted,p.stateVector,
            traces++["guard:"++g.identity.id++":blocked"],now⟩,
            some (halted "%w: guard %s blocked payload" [.str g.identity.id])⟩
        | none =>
          -- the slot is filled once the validation has passed
          let engine := (p.runtime.map (·.identity.name)).getD ""
          let out : Payload := ⟨"processed:".toList++input.data,
              (AList.singleton "compositeDigest" p.compositeDigest).insert "engine" engine,[],
              (AList.singleton "trust" p.stateVector.trust.text).insert "risk"
                p.stateVector.risk.text⟩
          ⟨p,some out,some ⟨p.id,p.compositeDigest,.success,p.stateVector,
            traces++["stage:pre_execution","stage:tokenize","stage:inference:"++engine,
              "stage:post_execution"],now⟩,none⟩

end Pipeline

def WellFormed (digest : GoString) : Prop := ∃hex : GoString,hex.length=64 ∧ (∀c∈hex,isHexDigit c) ∧
    (digest="sha256:".toList++hex ∨ ∃ref,digest=ref++"@sha256:".toList++hex)

theorem afterFirst_spec {pattern s rest : GoString} (h : afterFirst pattern s=some rest) :
    ∃before,s=before++pattern++rest := by
  induction s with
  | nil =>
    rw [afterFirst] at h
    split_ifs at h with empty
    exact ⟨[],by simpa [empty] using h⟩
  | cons c s ih =>
    rw [afterFirst] at h
    split_ifs at h with here
    · obtain ⟨_,split⟩ := List.isPrefixOf_iff_prefix.mp here
      rw [← split,List.drop_left] at h
      exact ⟨[],by rw [← split,Option.some.inj h]; rfl⟩
    · obtain ⟨before,split⟩ := ih h
      exact ⟨c::before,by rw [split]; rfl⟩

theorem hex_of_decodes {s : GoString} (h : hexDecodes s) : ∀c∈s,isHexDigit c := by
  rw [hexDecodes,Bool.and_eq_true] at h
  exact List.all_eq_true.mp h.1

theorem wellFormed_of_valid {digest : GoString} (h : isValidDigest digest) : WellFormed digest := by
  unfold isValidDigest at h
  split_ifs at h with bare
  · rw [Bool.and_eq_true,GoString.hasPrefix_iff] at bare
    obtain ⟨⟨hex,rfl⟩,length⟩ := bare
    exact ⟨hex,by simpa using length,hex_of_decodes h,.inl rfl⟩
  · cases found : afterFirst _ _ with
    | none =>
      rw [found] at h
      cases h
    | some rest =>
      simp only [found] at h
      split_ifs at h with length
      obtain ⟨ref,split⟩ := afterFirst_spec found
      exact ⟨rest,length,hex_of_decodes h,.inr ⟨ref,split⟩⟩

theorem digest_of_identity {c : Component} (h : validateComponentIdentityAndDigest c=none) :
    WellFormed c.digest := by
  unfold validateComponentIdentityAndDigest at h
  split_ifs at h with named digest
  exact wellFormed_of_valid (by simpa using digest)

structure Permitted (v : StateVector) : Prop where
  trust : v.trust≠.denied
  admission : v.admission≠.denied
  quarantine : v.lifecycle=.quarantined → v.admission≠.admitted
  risk : v.risk=.high ∨ v.risk=.critical → v.integrity=.verified

theorem permitted_of_check {v : StateVector} (h : checkForbiddenTuples v=none) : Permitted v := by
  unfold checkForbiddenTuples at h
  split_ifs at h with execute untrusted escalation dal incompatible
  rw [not_or] at execute
  refine ⟨execute.1,execute.2,fun held admitted => ?_,fun risky => ?_⟩
  · exact escalation ⟨.inl held,.inl admitted⟩
  · by_contra other
    exact dal ⟨risky,other⟩

theorem checkComponents_none_iff {comps : List Component} : Pipeline.checkComponents comps=none ↔
      ∀c∈comps,validateComponentIdentityAndDigest c=none ∧
        checkForbiddenTuples c.stateVector=none := by
  induction comps with
  | nil => simp [Pipeline.checkComponents]
  | cons c comps ih =>
    rw [Pipeline.checkComponents,List.forall_mem_cons,← ih]
    cases validateComponentIdentityAndDigest c with
    | some err => simp
    | none => cases checkForbiddenTuples _ <;> simp

section

variable {c : Component} {comps : List Component} (mem : c∈comps) (eff : StateVector)
include mem

theorem foldl_quarantined (h : c.stateVector.lifecycle=.quarantined) :
    (comps.foldl addComponent eff).lifecycle=.quarantined := by
  refine foldl_of_mem (·.lifecycle=.quarantined) (fun a => ?_) (fun a d old => ?_) mem eff
  · simp [addComponent,h]
  · simp [addComponent,old]

theorem foldl_admission (h : c.stateVector.admission=.denied ∨ c.stateVector.admission=.pending) :
    (comps.foldl addComponent eff).admission=.denied ∨
      (comps.foldl addComponent eff).admission=.pending := by
  refine foldl_of_mem (fun v => v.admission=.denied ∨ v.admission=.pending)
    (fun a => ?_) (fun a d old => ?_) mem eff
  · rcases h with h | h
    · simp [addComponent,h]
    · by_cases held : a.admission=.denied <;> simp [addComponent,h,held]
  · simp only [addComponent]
    split_ifs
    · exact .inl rfl
    · exact .inr rfl
    · exact old

theorem foldl_integrity (h : c.stateVector.integrity≠.verified) :
    (comps.foldl addComponent eff).integrity≠.verified := by
  refine foldl_of_mem (·.integrity≠.verified) (fun a => ?_) (fun a d old => ?_) mem eff
  · simp only [addComponent]
    split_ifs with tampered other
    · nofun
    · exact h
    · have held : a.integrity=.tampered := by simpa [h] using other
      simp [held]
  · simp only [addComponent]
    split_ifs with tampered other
    · nofun
    · exact other.1
    · exact old

end

theorem foldl_risk (comps : List Component) (eff : StateVector) :
    (comps.foldl addComponent eff).risk=eff.risk := by
  induction comps generalizing eff with
  | nil => rfl
  | cons c comps ih => exact ih _

theorem foldl_not_audit (comps : List Component) (eff : StateVector) (h : eff.admission≠.audit) :
    (comps.foldl addComponent eff).admission≠.audit := by
  induction comps generalizing eff with
  | nil => exact h
  | cons c comps ih =>
    refine ih _ ?_
    simp only [addComponent]
    split_ifs
    · nofun
    · nofun
    · exact h

theorem aggregateRisk_of_mem {c : Component} {comps : List Component} (mem : c∈comps)
    (h : c.stateVector.risk=.high ∨ c.stateVector.risk=.critical) :
    aggregateRisk comps=.high ∨ aggregateRisk comps=.critical := by
  let raise m (d : Component) : Nat :=
    if m < riskOrder d.stateVector.risk then riskOrder d.stateVector.risk else m
  have order : 3 ≤ riskOrder c.stateVector.risk := by rcases h with h | h <;> simp [h,riskOrder]
  have top (d : Component) : riskOrder d.stateVector.risk ≤ 4 := by
    cases d.stateVector.risk <;> simp [riskOrder]
  have low : 3 ≤ comps.foldl raise 1 := by
    refine foldl_of_mem (3 ≤ ·) (fun m => ?_) (fun m d old => ?_) mem 1
    all_goals
      simp only [raise]
      split_ifs <;> omega
  have high : comps.foldl raise 1 ≤ 4 := by
    refine List.foldlRecOn (motive := (· ≤ 4)) _ _ (by decide) (fun m hm d _ => ?_)
    have bound := top d
    simp only [raise]
    split_ifs <;> omega
  have two : comps.foldl raise 1=3 ∨ comps.foldl raise 1=4 := by omega
  rcases two with three | four
  · exact .inl (congrArg _ three)
  · exact .inr (congrArg _ four)

namespace Pipeline

structure Validated (p : Pipeline) (model tokenizer : Component) : Prop where
  slot : p.model=some model
  components : ∀c∈p.allComponents,validateComponentIdentityAndDigest c=none ∧
    checkForbiddenTuples c.stateVector=none
  compatible : p.validateInterComponentCompatibility model tokenizer=([],none)
  aggregate : checkForbiddenTuples (p.aggregateStateVector true)=none

variable {p : Pipeline} {model : Component}

theorem validateRequired_ok_iff {tokenizer runtime : Component} :
    p.validateRequired=.ok (model,tokenizer,runtime) ↔
      p.model=some model ∧ p.tokenizer=some tokenizer ∧ p.runtime=some runtime := by
  unfold validateRequired
  split <;> simp_all

theorem compatibility_cases (p : Pipeline) (model tokenizer : Component) :
    p.validateInterComponentCompatibility model tokenizer=([],none) ∨
    ∃violations err,
      p.validateInterComponentCompatibility model tokenizer=(violations,some err) := by
  unfold validateInterComponentCompatibility
  dsimp only
  split_ifs
  · exact .inr ⟨_,_,rfl⟩
  · exact .inl rfl

def validated (hexSum : String → String) (p : Pipeline) : Pipeline :=
  let p := {p with stateVector := p.aggregateStateVector true}
  {p with compositeDigest := p.computeCompositeDigest hexSum}

theorem validate_ok_iff {hexSum : String → String} {p q : Pipeline} {report : ValidationReport} :
    p.validate hexSum=(q,.ok report) ↔ (∃model tokenizer runtime,
        p.model=some model ∧ p.tokenizer=some tokenizer ∧ p.runtime=some runtime ∧
        p.validateInterComponentCompatibility model tokenizer=([],none)) ∧
      checkComponents p.allComponents=none ∧
      checkForbiddenTuples (p.aggregateStateVector true)=none ∧
      q=p.validated hexSum ∧
      report=⟨(p.aggregateStateVector true).compatibility,p.aggregateStateVector true,[],
        (p.validated hexSum).compositeDigest⟩ := by
  unfold validate
  cases required : p.validateRequired with
  | error err =>
    refine iff_of_false nofun ?_
    rintro ⟨⟨_,_,_,first,second,third,-⟩,-⟩
    rw [validateRequired_ok_iff.mpr ⟨first,second,third⟩] at required
    cases required
  | ok slots =>
    obtain ⟨model,tokenizer,runtime⟩ := slots
    obtain ⟨first,second,third⟩ := validateRequired_ok_iff.mp required
    cases components : checkComponents _ with
    | some err => exact iff_of_false nofun (fun h => nomatch h.2.1)
    | none =>
      rcases compatibility_cases p model tokenizer with clean | ⟨_,_,found⟩
      · simp only [clean,Option.isNone_none]
        cases tuple : checkForbiddenTuples _ with
        | some err => exact iff_of_false nofun (fun h => nomatch h.2.2.1)
        | none =>
          simp only [Prod.mk.injEq,Except.ok.injEq]
          constructor
          · rintro ⟨rfl,rfl⟩
            exact ⟨⟨model,tokenizer,runtime,first,second,third,clean⟩,trivial,trivial,rfl,rfl⟩
          · rintro ⟨-,-,-,rfl,rfl⟩
            exact ⟨rfl,rfl⟩
      · refine iff_of_false ?_ ?_
        · simp only [found]
          split <;> nofun
        · rintro ⟨⟨_,_,_,own,other,-,clean⟩,-⟩
          obtain rfl := Option.some.inj (first.symm.trans own)
          obtain rfl := Option.some.inj (second.symm.trans other)
          rw [clean] at found
          cases found

theorem validate_ok {hexSum : String → String} {p q : Pipeline} {report : ValidationReport}
    (h : p.validate hexSum=(q,.ok report)) :
    ∃model tokenizer,Validated p model tokenizer ∧
      report.stateVector=p.aggregateStateVector true := by
  obtain ⟨⟨model,tokenizer,_,slot,-,-,clean⟩,components,tuple,-,rfl⟩ := validate_ok_iff.mp h
  exact ⟨model,tokenizer,⟨slot,checkComponents_none_iff.mp components,clean,tuple⟩,rfl⟩

theorem execute_ok {hexSum : String → String} {input : Option Payload}
    {now : Int64} (h : (p.execute hexSum input now).error=none) :
    ∃model tokenizer,Validated p model tokenizer ∧
      (p.aggregateStateVector true).admission=.admitted := by
  unfold execute at h
  cases input with
  | none => cases h
  | some input =>
    dsimp only at h
    split at h
    · cases h
    · next q report validated =>
      obtain ⟨model,tokenizer,all,vector⟩ := validate_ok validated
      refine ⟨model,tokenizer,all,?_⟩
      by_contra other
      -- the aggregate is never in audit, so that exception does not apply
      have audit := foldl_not_audit p.allComponents
        ⟨.active,aggregateTrust p.allComponents,aggregateRisk p.allComponents,.admitted,
          .compatible,.verified⟩ (by nofun)
      rw [← vector] at other
      rw [if_pos ⟨other,vector ▸ audit⟩] at h
      cases h

theorem not_wrongBase {c : Component} (h : ¬wrongBase c model)
    (declared : c.compatibility.baseModelDigest≠[]) :
    c.compatibility.baseModelDigest=model.digest := by
  simpa [wrongBase,declared] using h

theorem quiet_of_flatMap {comps : List Component} {f : Component×Nat → List Errorf}
    (h : comps.zipIdx.flatMap f=[]) {c : Component} (mem : c∈comps) : ∃i,f (c,i)=[] := by
  obtain ⟨i,here⟩ := List.mem_iff_getElem?.mp mem
  exact ⟨i,List.flatMap_eq_nil_iff.mp h _ (List.mem_zipIdx_iff_getElem?.mpr here)⟩

theorem baseDigest_of_compatible {tokenizer c : Component}
    (h : p.validateInterComponentCompatibility model tokenizer=([],none))
    (mem : c∈p.quantization.toList++p.adapters++p.projections)
    (declared : c.compatibility.baseModelDigest≠[]) :
    c.compatibility.baseModelDigest=model.digest := by
  have quiet : p.checkQuantAndAdapterCompat model=[] ∧ p.checkProjectionsAndStages model=[] := by
    unfold validateInterComponentCompatibility at h
    dsimp only at h
    split_ifs at h with found
    · cases (Prod.mk.inj h).2
    · have empty := List.length_eq_zero_iff.mp (Nat.eq_zero_of_not_pos found)
      rw [List.append_eq_nil_iff,List.append_eq_nil_iff] at empty
      exact ⟨empty.1.2,empty.2⟩
  obtain ⟨first,second⟩ := quiet
  rw [checkQuantAndAdapterCompat,List.append_eq_nil_iff] at first
  rw [checkProjectionsAndStages,List.append_eq_nil_iff,List.append_eq_nil_iff] at second
  refine not_wrongBase (fun wrong => ?_) declared
  rcases List.mem_append.mp mem with mem | projection
  · rcases List.mem_append.mp mem with quantization | adapter
    · have silent := List.flatMap_eq_nil_iff.mp first.1 c quantization
      simp [wrong] at silent
    · obtain ⟨i,silent⟩ := quiet_of_flatMap first.2 adapter
      simp [wrong] at silent
  · obtain ⟨i,silent⟩ := quiet_of_flatMap second.1.1 projection
    simp [wrong] at silent

theorem aggregate_risk (p : Pipeline) (compatible : Bool) :
    (p.aggregateStateVector compatible).risk=aggregateRisk p.allComponents := by
  rw [aggregateStateVector,foldl_risk]

theorem execute_governed (hexSum : String → String) (p : Pipeline) (input : Option Payload)
    (now : Int64) (success : (p.execute hexSum input now).error=none) :
    (∀c∈p.allComponents,c.stateVector.lifecycle≠.quarantined ∧ c.stateVector.trust≠.denied ∧
      c.stateVector.admission≠.denied ∧ c.stateVector.admission≠.pending ∧
      WellFormed c.digest ∧
      ((∃d∈p.allComponents,d.stateVector.risk=.high ∨ d.stateVector.risk=.critical) →
        c.stateVector.integrity=.verified)) ∧
    ∃model,p.model=some model ∧ ∀c∈p.quantization.toList++p.adapters++p.projections,
      c.compatibility.baseModelDigest≠[] → c.compatibility.baseModelDigest=model.digest := by
  obtain ⟨model,_,all,admission⟩ := execute_ok success
  refine ⟨fun c mem => ?_,model,all.slot,
    fun c mem declared => baseDigest_of_compatible all.compatible mem declared⟩
  obtain ⟨identity,tuple⟩ := all.components c mem
  have own := permitted_of_check tuple
  have whole := permitted_of_check all.aggregate
  -- the aggregate is admitted, so no component has lowered it
  have free : ¬(c.stateVector.admission=.denied ∨ c.stateVector.admission=.pending) := by
    intro held
    rcases foldl_admission mem _ held with lowered | lowered
    · exact absurd (lowered.symm.trans admission) (by nofun)
    · exact absurd (lowered.symm.trans admission) (by nofun)
  rw [not_or] at free
  refine ⟨fun held => ?_,own.trust,free.1,free.2,digest_of_identity identity,fun risky => ?_⟩
  · exact whole.quarantine (foldl_quarantined mem _ held) admission
  · obtain ⟨d,among,high⟩ := risky
    have band : (p.aggregateStateVector true).risk=.high ∨
        (p.aggregateStateVector true).risk=.critical := by
      rw [aggregate_risk]
      exact aggregateRisk_of_mem among high
    by_contra other
    exact foldl_integrity mem _ other (whole.risk band)

def sampleVector : StateVector := ⟨.active,.trusted,.high,.admitted,.compatible,.verified⟩

def sampleComponent (kind : ComponentKind) : Component :=
  ⟨⟨"id","name",kind⟩,"1","sha256:".toList++List.replicate 64 'a',
    ⟨"llama",[],0,0,.other ""⟩,⟨"uri","publisher"⟩,sampleVector⟩

def samplePipeline : Pipeline :=
  ⟨"p","n","1",some (sampleComponent .model),some (sampleComponent .tokenizer),none,
    some (sampleComponent .runtime),
    [{sampleComponent .adapter with
      compatibility := ⟨"llama",(sampleComponent .model).digest,0,0,.other ""⟩ }],
    [],[],[],[],"",sampleVector⟩

theorem samplePipeline_governed : ∃model,samplePipeline.model=some model ∧
      ∀c∈samplePipeline.quantization.toList++samplePipeline.adapters++samplePipeline.projections,
        c.compatibility.baseModelDigest≠[] → c.compatibility.baseModelDigest=model.digest :=
  (execute_governed (fun _ => "") samplePipeline (some ⟨[],∅,[],∅⟩) 0 (by decide)).2

end Pipeline

end KServeLLM.Composition
