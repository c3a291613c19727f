import KServeLLM.Framework.Execution
import KServeLLM.Framework.GoTypes

namespace KServeLLM.Admission

inductive Disposition where
  | admitPlain | admitWithObligations | deny | escalate | safeHold | quarantine
  | other (text : String)
  deriving DecidableEq

inductive StageName where
  | data | model | deployment | request
  | other (text : String)
  deriving DecidableEq

def StageName.text : StageName → String
  | .data => "Data"
  | .model => "Model"
  | .deployment => "Deployment"
  | .request => "Request"
  | .other text => text

inductive VectorState where
  | verified | compliant | conditional | unknown | pending | exhausted | degraded | incompatible
  | flagged | violated | quarantined
  | other (text : String)
  deriving DecidableEq

inductive Sentinel where
  | invalidInput | contextCanceled | receiptVerification | receiptSignature
  deriving DecidableEq

structure Error where
  sentinel : Sentinel
  format : String
  cause : Option String
  deriving DecidableEq

structure Obligation where
  (id type description : String)
  deriving DecidableEq

structure ProducerBinding where
  (spiffeID keyDigest : String)
  deriving DecidableEq

inductive Signature (K : Type) where
  | made (pair : K) (covers : String)
  | bytes (b : List UInt8)
  deriving DecidableEq

inductive SignatureText (K : Type) where
  | empty
  | malformed (text : String)
  | encoded (signature : Signature K)
  deriving DecidableEq

structure AuditReceipt (K : Type) where
  receiptID : String
  stage : StageName
  disposition : Disposition
  subjectDigest : String
  producer : ProducerBinding
  (producedAt digest : String)
  signature : SignatureText K
  deriving DecidableEq

abbrev Dimension := String×VectorState

structure Decision (K : Type) where
  stage : StageName
  disposition : Disposition
  reason : String
  vectorStates : List Dimension
  obligations : List Obligation
  receipt : AuditReceipt K
  deriving DecidableEq

structure PipelineDecision (K : Type) where
  overallDisposition : Disposition
  stageDecisions : List (Decision K)
  obligations : List Obligation
  auditReceipts : List (AuditReceipt K)
  deriving DecidableEq

structure DataAdmissionInput where
  (subjectID subjectDigest : String)
  (provenanceState licensingState privacyState integrityState : VectorState)

structure ModelAdmissionInput where
  (subjectID subjectDigest : String)
  (artifactIntegrityState sbomState signatureState attestationState licenseState : VectorState)

structure DeploymentAdmissionInput where
  (subjectID subjectDigest : String)
  (runtimeCompatibilityState acceleratorTopologyState capacityState policyState : VectorState)
  airGapProfileState : VectorState

structure RequestAdmissionInput where
  (subjectID subjectDigest : String)
  (identityTenantState capabilityLeaseState quotaBudgetState riskState : VectorState)

structure ReceiptClaims where
  receiptID : String
  stage : StageName
  disposition : Disposition
  subjectDigest : String
  producer : ProducerBinding
  producedAt : String
  vectorStates : List Dimension
  deriving DecidableEq

structure Encoding where
  marshal : ReceiptClaims → List UInt8
  hexSum : List UInt8 → String

structure Clock where
  producedAt : String
  unixNano : Int64

structure Engine (K : Type) where
  producer : ProducerBinding
  privateKey : Option K

def firstIn (states : List VectorState) (dims : List Dimension) : Option String :=
  (dims.find? fun d => states.contains d.2).map Prod.fst

def resolveVectorStates (dims : List Dimension) : Disposition×String :=
  match firstIn [.quarantined] dims with
  | some k => (.quarantine,k++" dimension is quarantined")
  | none =>
    match firstIn [.violated,.incompatible] dims with
    | some k => (.deny,k++" dimension violated admission policy")
    | none =>
      match firstIn [.unknown,.flagged] dims with
      | some k => (.escalate,k++" dimension requires escalation")
      | none =>
        match firstIn [.pending,.exhausted] dims with
        | some k => (.safeHold,k++" dimension placed on safe-hold")
        | none =>
          match firstIn [.conditional,.degraded] dims with
          | some k => (.admitWithObligations,k++" dimension admitted with obligations")
          | none => (.admitPlain,"all stage dimensions verified and compliant")

def emptySubject : String :=
  "sha256:0000000000000000000000000000000000000000000000000000000000000000"

def receiptClaims (producer : ProducerBinding) (clock : Clock) (stage : StageName)
    (disp : Disposition) (subjectDigest : String) (states : List Dimension) : ReceiptClaims :=
  ⟨"rcpt-"++stage.text.toLower++"-"++toString clock.unixNano.toInt,stage,disp,
    if subjectDigest="" then emptySubject else subjectDigest,producer,clock.producedAt,states⟩

variable {K : Type} (enc : Encoding)

def Engine.createReceipt (e : Engine K) (clock : Clock) (stage : StageName) (disp : Disposition)
    (subjectDigest : String) (states : List Dimension) : AuditReceipt K :=
  let claims := receiptClaims e.producer clock stage disp subjectDigest states
  let digest := "sha256:"++enc.hexSum (enc.marshal claims)
  { receiptID := claims.receiptID
    stage := stage
    disposition := disp
    subjectDigest := claims.subjectDigest
    producer := e.producer
    producedAt := claims.producedAt
    digest := digest
    signature :=
      match e.privateKey with
      | some pair => .encoded (.made pair digest)
      | none => .empty }

def Engine.buildDecision (e : Engine K) (clock : Clock) (stage : StageName) (disp : Disposition)
    (reason subjectDigest : String) (states : List Dimension) (obls : List Obligation) :
    Decision K :=
  ⟨stage,disp,reason,states,obls,e.createReceipt enc clock stage disp subjectDigest states⟩

def canceled (cause : String) : Error := ⟨.contextCanceled,"%w: %w",some cause⟩

def invalid (text : String) : Error := ⟨.invalidInput,text,none⟩

def validateInput (subjectID : String) (states : List VectorState) : Option Error :=
  if subjectID="" then some (invalid "%w: subject ID required")
  else if states.contains (.other "") then
    some (invalid "%w: all vector states must be populated")
  else none

def validateDataInput (i : DataAdmissionInput) : Option Error := validateInput i.subjectID
    [i.integrityState,i.provenanceState,i.licensingState,i.privacyState]

def validateModelInput (i : ModelAdmissionInput) : Option Error := validateInput i.subjectID
    [i.artifactIntegrityState,i.sbomState,i.signatureState,i.attestationState,i.licenseState]

def validateDeploymentInput (i : DeploymentAdmissionInput) : Option Error :=
  validateInput i.subjectID
    [i.runtimeCompatibilityState,i.acceleratorTopologyState,i.capacityState,i.policyState,
      i.airGapProfileState]

def validateRequestInput (i : RequestAdmissionInput) : Option Error := validateInput i.subjectID
    [i.identityTenantState,i.capabilityLeaseState,i.quotaBudgetState,i.riskState]

def obligationsOf (checks : List (VectorState×Obligation)) : List Obligation :=
  (checks.filter fun c => c.1=.conditional).map Prod.snd

def dataObligations (i : DataAdmissionInput) : List Obligation := obligationsOf
    [(i.licensingState,⟨"obl-data-attribution","data.licensing.attribution",
        "Dataset attribution notice must be preserved and surfaced"⟩),
      (i.privacyState,⟨"obl-data-privacy-masking","data.privacy.masking",
        "Differential privacy and runtime redaction filters must remain active"⟩)]

def modelObligations (i : ModelAdmissionInput) : List Obligation := obligationsOf
    [(i.licenseState,⟨"obl-model-openrail-restrictions","model.license.openrail",
      "Downstream use restrictions and risk disclosures must be distributed with model artifacts"⟩),
      (i.sbomState,⟨"obl-model-sbom-remediation","model.sbom.remediation",
        "Non-critical SBOM component advisories must be remediated on schedule"⟩)]

def deploymentObligations (i : DeploymentAdmissionInput) : List Obligation := obligationsOf
    [(i.airGapProfileState,⟨"obl-deploy-airgap-monitoring","deployment.airgap.egress_audit",
        "Log and audit all gateway-mediated egress through air-gap boundary proxy"⟩),
      (i.capacityState,⟨"obl-deploy-capacity-lease","deployment.capacity.off_peak",
        "Workload admitted under off-peak preemption lease agreement"⟩),
      (i.policyState,⟨"obl-deploy-security-telemetry","deployment.policy.telemetry",
        "Security telemetry export must be enabled and bound to tenant stream"⟩)]

def requestObligations (i : RequestAdmissionInput) : List Obligation := obligationsOf
    [(i.riskState,⟨"obl-req-watermarking","request.governance.watermarking",
        "Apply cryptographic watermarking and prompt logging to inference stream"⟩),
      (i.capabilityLeaseState,⟨"obl-req-lease-limit","request.lease.concurrency_bound",
        "Bound request concurrency to conditional capability lease terms"⟩),
      (i.quotaBudgetState,⟨"obl-req-budget-audit","request.quota.burst_audit",
        "Audit and reconcile token burst against monthly allocation"⟩)]

def DataAdmissionInput.dimensions (i : DataAdmissionInput) : List Dimension :=
  [("integrity",i.integrityState),("provenance",i.provenanceState),
    ("licensing",i.licensingState),("privacy",i.privacyState)]

def ModelAdmissionInput.dimensions (i : ModelAdmissionInput) : List Dimension :=
  [("artifactIntegrity",i.artifactIntegrityState),("signature",i.signatureState),
    ("attestation",i.attestationState),("sbom",i.sbomState),("license",i.licenseState)]

def DeploymentAdmissionInput.dimensions (i : DeploymentAdmissionInput) : List Dimension :=
  [("policy",i.policyState),("runtimeCompatibility",i.runtimeCompatibilityState),
    ("acceleratorTopology",i.acceleratorTopologyState),("airGapProfile",i.airGapProfileState),
    ("capacity",i.capacityState)]

def RequestAdmissionInput.dimensions (i : RequestAdmissionInput) : List Dimension :=
  [("risk",i.riskState),("identityTenant",i.identityTenantState),
    ("capabilityLease",i.capabilityLeaseState),("quotaBudget",i.quotaBudgetState)]

def Engine.admitStage (e : Engine K) (ctx : Option String) (clock : Clock) (stage : StageName)
    (refusal : Option Error) (subjectDigest : String) (dims : List Dimension)
    (obls : List Obligation) : Except Error (Decision K) :=
  match ctx with
  | some cause => .error (canceled cause)
  | none =>
    match refusal with
    | some err => .error err
    | none =>
      let (disp,reason) := resolveVectorStates dims
      .ok (e.buildDecision enc clock stage disp reason subjectDigest dims
        (if disp=.admitWithObligations then obls else []))

def Engine.admitData (e : Engine K) (ctx : Option String) (clock : Clock)
    (i : DataAdmissionInput) : Except Error (Decision K) :=
  e.admitStage enc ctx clock .data (validateDataInput i) i.subjectDigest i.dimensions
    (dataObligations i)

def Engine.admitModel (e : Engine K) (ctx : Option String) (clock : Clock)
    (i : ModelAdmissionInput) : Except Error (Decision K) :=
  e.admitStage enc ctx clock .model (validateModelInput i) i.subjectDigest i.dimensions
    (modelObligations i)

def Engine.admitDeployment (e : Engine K) (ctx : Option String) (clock : Clock)
    (i : DeploymentAdmissionInput) : Except Error (Decision K) :=
  e.admitStage enc ctx clock .deployment (validateDeploymentInput i) i.subjectDigest i.dimensions
    (deploymentObligations i)

def Engine.admitRequest (e : Engine K) (ctx : Option String) (clock : Clock)
    (i : RequestAdmissionInput) : Except Error (Decision K) :=
  e.admitStage enc ctx clock .request (validateRequestInput i) i.subjectDigest i.dimensions
    (requestObligations i)

def precedence : Disposition → Nat
  | .quarantine => 6
  | .deny => 5
  | .escalate => 4
  | .safeHold => 3
  | .admitWithObligations => 2
  | .admitPlain => 1
  | .other _ => 0

def calculateOverallDisposition (decisions : List (Decision K)) : Disposition :=
  if decisions.length=0 then .deny
  else decisions.foldl (fun highest d =>
    if precedence highest < precedence d.disposition then d.disposition else highest) .admitPlain

def runStages : List (Except Error (Decision K)) → Except Error (List (Decision K))
  | [] => .ok []
  | .error err::_ => .error err
  | .ok dec::rest =>
      if dec.disposition=.quarantine ∨ dec.disposition=.deny then .ok [dec]
      else (runStages rest).map (dec::·)

def Engine.evaluatePipeline (e : Engine K) (ctx : Nat → Option String) (clock : Nat → Clock)
    (data : DataAdmissionInput) (model : ModelAdmissionInput) (deploy : DeploymentAdmissionInput)
    (req : RequestAdmissionInput) : Except Error (PipelineDecision K) :=
  match ctx 0 with
  | some cause => .error (canceled cause)
  | none =>
    match runStages [e.admitData enc (ctx 1) (clock 1) data,
      e.admitModel enc (ctx 2) (clock 2) model,e.admitDeployment enc (ctx 3) (clock 3) deploy,
      e.admitRequest enc (ctx 4) (clock 4) req] with
    | .error err => .error err
    | .ok decisions =>
      .ok ⟨calculateOverallDisposition decisions,decisions,decisions.flatMap (·.obligations),
        decisions.map (·.receipt)⟩

def VectorState.Recognised : VectorState → Prop
  | .other _ => False
  | _ => True

instance : DecidablePred VectorState.Recognised := fun state =>
  match state with
  | .other _ => .isFalse not_false
  | .verified | .compliant | .conditional | .unknown | .pending | .exhausted | .degraded
  | .incompatible | .flagged | .violated | .quarantined => .isTrue trivial

def Disposition.Admitting (d : Disposition) : Prop := d=.admitPlain ∨ d=.admitWithObligations

def stopping : List VectorState := [.quarantined]++[.violated,.incompatible]

def holding : List VectorState := stopping++([.unknown,.flagged]++[.pending,.exhausted])

variable {dims : List Dimension} {states : List VectorState}

theorem firstIn_eq_none_iff :
    firstIn states dims=none ↔ ∀d∈dims,d.2∉states := by
  simp [firstIn]

theorem firstIn_eq_some {k : String} (h : firstIn states dims=some k) : ∃d∈dims,d.2∈states := by
  by_contra none'
  have absent : firstIn states dims=none :=
    firstIn_eq_none_iff.mpr (fun d mem inside => none' ⟨d,mem,inside⟩)
  rw [absent] at h
  cases h

inductive Resolved (dims : List Dimension) : Disposition → Prop
  | quarantine (found : ∃d∈dims,d.2∈stopping) : Resolved dims .quarantine
  | deny (found : ∃d∈dims,d.2∈stopping) : Resolved dims .deny
  | escalate (found : ∃d∈dims,d.2∈holding) (free : ∀d∈dims,d.2∉stopping) :
      Resolved dims .escalate
  | safeHold (found : ∃d∈dims,d.2∈holding) (free : ∀d∈dims,d.2∉stopping) :
      Resolved dims .safeHold
  | admitWithObligations (free : ∀d∈dims,d.2∉holding) : Resolved dims .admitWithObligations
  | admitPlain (free : ∀d∈dims,d.2∉holding) (plain : ∀d∈dims,d.2∉[.conditional,.degraded]) :
      Resolved dims .admitPlain

variable {state : VectorState}

section

def VectorState.rank : VectorState → Nat
  | .quarantined => 6
  | .violated | .incompatible => 5
  | .unknown | .flagged => 4
  | .pending | .exhausted => 3
  | .conditional | .degraded => 2
  | .verified | .compliant => 1
  | .other _ => 0

theorem mem_holding_iff : state∈holding ↔ 3 ≤ state.rank := by
  cases state <;> simp [holding,stopping,VectorState.rank]

theorem mem_stopping_iff : state∈stopping ↔ 5 ≤ state.rank := by
  cases state <;> simp [stopping,VectorState.rank]

structure Tops (dims : List Dimension) (n : Nat) : Prop where
  positive : 1 ≤ n
  bound : ∀d∈dims,d.2.rank ≤ n
  met : n=1 ∨ ∃d∈dims,d.2.rank=n

variable {n : Nat}

theorem Tops.round {disp : Disposition}
    {text : String → String} {rest : Disposition×String} (top : ∀d∈dims,d.2.rank ≤ n+1)
    (level : ∀s,s∈states ↔ s.rank=n+1) (own : precedence disp=n+1)
    (below : (∀d∈dims,d.2.rank ≤ n) → Tops dims (precedence rest.1)) :
    Tops dims (precedence (match firstIn states dims with
      | some k => (disp,text k)
      | none => rest).1) := by
  cases found : firstIn _ _ with
  | some k =>
    obtain ⟨d,mem,inside⟩ := firstIn_eq_some found
    rw [own]
    exact ⟨by omega,top,.inr ⟨d,mem,(level _).mp inside⟩⟩
  | none =>
    refine below fun d mem => ?_
    have other := firstIn_eq_none_iff.mp found d mem
    rw [level] at other
    have := top d mem
    omega

theorem resolve_tops (dims : List Dimension) :
    Tops dims (precedence (resolveVectorStates dims).1) := by
  have six : ∀d∈dims,d.2.rank ≤ 6 := fun d _ => by cases d.2 <;> simp [VectorState.rank]
  refine Tops.round six (fun s => by cases s <;> simp [VectorState.rank]) rfl fun five => ?_
  refine Tops.round five (fun s => by cases s <;> simp [VectorState.rank]) rfl fun four => ?_
  refine Tops.round four (fun s => by cases s <;> simp [VectorState.rank]) rfl fun three => ?_
  refine Tops.round three (fun s => by cases s <;> simp [VectorState.rank]) rfl fun two => ?_
  refine Tops.round two (fun s => by cases s <;> simp [VectorState.rank]) rfl fun one => ?_
  exact ⟨by decide,one,.inl rfl⟩

theorem Tops.le_iff {m : Nat} (h : Tops dims m) (one : 1 ≤ n) : m ≤ n ↔ ∀d∈dims,d.2.rank ≤ n := by
  constructor
  · exact fun le d mem => (h.bound d mem).trans le
  · intro all
    rcases h.met with rfl | ⟨d,mem,rfl⟩
    · exact one
    · exact all d mem

theorem Tops.exists_mem (h : Tops dims n) (two : 2 ≤ n) : ∃d∈dims,d.2.rank=n :=
  h.met.resolve_left (by omega)

end

theorem resolved (dims : List Dimension) : Resolved dims (resolveVectorStates dims).1 := by
  have h := resolve_tops dims
  have free {n : Nat} (h : Tops dims n) (low : n < 5) : ∀d∈dims,d.2∉stopping := by
    intro d mem stop
    have := h.bound d mem
    rw [mem_stopping_iff] at stop
    omega
  have held {n : Nat} (h : Tops dims n) (three : 3 ≤ n) : ∃d∈dims,d.2∈holding := by
    obtain ⟨d,mem,rfl⟩ := h.exists_mem (by omega)
    exact ⟨d,mem,(mem_holding_iff).mpr three⟩
  have stops {n : Nat} (h : Tops dims n) (five : 5 ≤ n) : ∃d∈dims,d.2∈stopping := by
    obtain ⟨d,mem,rfl⟩ := h.exists_mem (by omega)
    exact ⟨d,mem,(mem_stopping_iff).mpr five⟩
  have open' {n : Nat} (h : Tops dims n) (low : n < 3) : ∀d∈dims,d.2∉holding := by
    intro d mem holds
    have := h.bound d mem
    rw [mem_holding_iff] at holds
    omega
  generalize (resolveVectorStates _).1=disp at h
  cases disp with
  | quarantine => exact .quarantine (stops h (by decide))
  | deny => exact .deny (stops h (by decide))
  | escalate => exact .escalate (held h (by decide)) (free h (by decide))
  | safeHold => exact .safeHold (held h (by decide)) (free h (by decide))
  | admitWithObligations => exact .admitWithObligations (open' h (by decide))
  | admitPlain =>
    refine .admitPlain (open' h (by decide)) fun d mem qualified => ?_
    have low : d.2.rank ≤ 1 := h.bound d mem
    revert low
    rcases List.mem_cons.mp qualified with same | last
    · simp [same,VectorState.rank]
    · simp [List.mem_singleton.mp last,VectorState.rank]
  | other text => exact absurd h.positive (by simp [precedence])

theorem resolve_positive {dims : List Dimension} : precedence (resolveVectorStates dims).1≠0 := by
  have := (resolve_tops dims).positive
  omega

theorem Disposition.admitting_iff {d : Disposition} (positive : precedence d≠0) :
    d.Admitting ↔ precedence d ≤ 2 := by
  cases d <;> simp_all [Disposition.Admitting,precedence]

def Disposition.Stops (d : Disposition) : Prop := d=.quarantine ∨ d=.deny

theorem stops_iff (d : Disposition) : d.Stops ↔ 5 ≤ precedence d := by
  cases d <;> simp [Disposition.Stops,precedence]

theorem resolve_admitting_iff {dims : List Dimension} :
    (resolveVectorStates dims).1.Admitting ↔ ∀d∈dims,d.2∉holding := by
  rw [Disposition.admitting_iff (resolve_positive),(resolve_tops _).le_iff (by decide)]
  simp [mem_holding_iff,Nat.lt_succ_iff]

theorem resolve_stops_iff {dims : List Dimension} :
    ((resolveVectorStates dims).1=.quarantine ∨ (resolveVectorStates dims).1=.deny) ↔
      ∃d∈dims,d.2∈stopping := by
  have low := (resolve_tops dims).le_iff (n := 4) (by decide)
  change (resolveVectorStates dims).1.Stops ↔ _
  rw [stops_iff,← not_iff_not,Nat.not_le,Nat.lt_succ_iff,low]
  simp only [mem_stopping_iff,not_exists,not_and,Nat.not_le,Nat.lt_succ_iff]

theorem good_of_free (known : state.Recognised) (free : state∉holding)
    (plain : state∉[VectorState.conditional,.degraded]) :
    state=.verified ∨ state=.compliant := by
  cases state <;> simp_all [holding,stopping,VectorState.Recognised]

def reached : List (List Dimension) → List (List Dimension)
  | [] => []
  | dims::rest => if ∃d∈dims,d.2∈stopping then [dims] else dims::reached rest

def Faithful (dims : List Dimension) (dec : Decision K) : Prop :=
  dec.vectorStates=dims ∧ dec.disposition=(resolveVectorStates dims).1

variable {stages : List (List Dimension)} {results : List (Except Error (Decision K))}
  {decs : List (Decision K)}

theorem runStages_reached
    (faithful : List.Forall₂ (fun dims r => ∀dec,r=.ok dec → Faithful dims dec) stages results)
    (ok : runStages results=.ok decs) :
    decs.map (·.vectorStates)=reached stages ∧ ∀dec∈decs,Faithful dec.vectorStates dec := by
  induction faithful generalizing decs with
  | nil =>
    obtain rfl : [] = decs := Except.ok.inj ok
    exact ⟨rfl,by simp⟩
  | @cons dims r stages results first rest ih =>
    cases r with
    | error err => cases ok
    | ok dec =>
      obtain ⟨rfl,same⟩ := first dec rfl
      rw [runStages,same] at ok
      by_cases stops : ∃d∈dec.vectorStates,d.2∈stopping
      · rw [if_pos ((resolve_stops_iff).mpr stops)] at ok
        obtain rfl : [dec]=decs := Except.ok.inj ok
        rw [reached,if_pos stops]
        exact ⟨rfl,List.forall_mem_singleton.mpr ⟨rfl,same⟩⟩
      · rw [if_neg (mt (resolve_stops_iff).mp stops)] at ok
        cases later : runStages _ with
        | error err =>
          rw [later] at ok
          cases ok
        | ok tail =>
          rw [later] at ok
          obtain rfl : dec::tail=decs := Except.ok.inj ok
          obtain ⟨states,all⟩ := ih later
          rw [reached,if_neg stops,← states]
          exact ⟨rfl,List.forall_mem_cons.mpr ⟨⟨rfl,same⟩,all⟩⟩

theorem runStages_ok (h : ∀r∈results,∃dec,r=.ok dec) : ∃decs,runStages results=.ok decs := by
  induction results with
  | nil => exact ⟨[],rfl⟩
  | cons r results ih =>
    obtain ⟨_,rfl⟩ := h r List.mem_cons_self
    obtain ⟨_,later⟩ := ih (fun r mem => h r (List.mem_cons_of_mem _ mem))
    rw [runStages,later]
    split_ifs
    · exact ⟨_,rfl⟩
    · exact ⟨_,rfl⟩

variable {e : Engine K} {clock : Clock} {stage : StageName} {refusal : Option Error}
  {subjectDigest : String} {obls : List Obligation}

theorem admitStage_faithful {ctx : Option String} :
    ∀dec,e.admitStage enc ctx clock stage refusal subjectDigest dims obls=.ok dec →
      Faithful dims dec := by
  intro dec ok
  cases ctx with
  | some cause => cases ok
  | none =>
    cases refusal with
    | some err => cases ok
    | none =>
      obtain rfl := Except.ok.inj ok
      exact ⟨rfl,rfl⟩

theorem le_overall {dec : Decision K} (mem : dec∈decs) :
    precedence dec.disposition ≤ precedence (calculateOverallDisposition decs) := by
  have some' : decs.length≠0 := Nat.ne_of_gt (List.length_pos_of_mem mem)
  rw [calculateOverallDisposition,if_neg some']
  refine foldl_of_mem (fun d => precedence _ ≤ precedence d) (fun a => ?_) (fun a c old => ?_) mem _
  all_goals split_ifs <;> omega

theorem precedence_of_not_admitting (h : ¬(resolveVectorStates dims).1.Admitting) :
    3 ≤ precedence (resolveVectorStates dims).1 := by
  have shape := resolved dims
  generalize (resolveVectorStates _).1=disp at h shape
  cases shape <;> simp_all [precedence,Disposition.Admitting]

theorem admit_of_precedence (h : precedence (resolveVectorStates dims).1 ≤ 1) :
    (resolveVectorStates dims).1=.admitPlain := by
  have shape := resolved dims
  generalize (resolveVectorStates _).1=disp at h shape
  cases shape <;> simp_all [precedence]

theorem reached_of_no_stop
    (h : ∀dims∈reached stages,∀d∈dims,d.2∉stopping) : reached stages=stages := by
  induction stages with
  | nil => rfl
  | cons dims stages ih =>
    by_cases stops : ∃d∈dims,d.2∈stopping
    · rw [reached,if_pos stops] at h
      obtain ⟨d,mem,inside⟩ := stops
      exact absurd inside (h _ List.mem_cons_self d mem)
    · rw [reached,if_neg stops] at h ⊢
      rw [ih (fun dims mem => h _ (List.mem_cons_of_mem _ mem))]

structure Sound (stages : List (List Dimension)) (dec : PipelineDecision K) : Prop where
  admitOnly : dec.overallDisposition=.admitPlain →
    ∀dims∈stages,∀d∈dims,d.2=.verified ∨ d.2=.compliant
  unrecognised : ∀stage∈dec.stageDecisions,(∃d∈stage.vectorStates,¬d.2.Recognised) →
    ¬stage.disposition.Admitting ∧ ¬dec.overallDisposition.Admitting

def HeldBack (stages : List (List Dimension)) : Prop :=
  ∀dims∈reached stages,(∃d∈dims,¬d.2.Recognised) → ∃d∈dims,d.2∈holding

instance (stages : List (List Dimension)) : Decidable (HeldBack stages) :=
  inferInstanceAs (Decidable (∀dims∈reached stages,_ → _))

variable {dec : PipelineDecision K}

theorem sound_of_heldBack (held : HeldBack stages)
    (states : decs.map (·.vectorStates)=reached stages)
    (faithful : ∀dec∈decs,Faithful dec.vectorStates dec)
    (overall : dec.overallDisposition=calculateOverallDisposition decs)
    (decisions : dec.stageDecisions=decs) : Sound stages dec := by
  constructor
  · intro admitted
    have plain : ∀dims∈reached stages,(resolveVectorStates dims).1=.admitPlain := by
      intro dims mem
      rw [← states] at mem
      obtain ⟨d,among,rfl⟩ := List.mem_map.mp mem
      have low := le_overall among
      rw [← overall,admitted,(faithful d among).2] at low
      exact admit_of_precedence low
    have free : ∀dims∈reached stages,∀d∈dims,d.2∉holding := fun dims mem =>
      (resolve_admitting_iff).mp (.inl (plain _ mem))
    have whole : reached stages=stages := reached_of_no_stop fun dims mem d inside stop =>
      free _ mem d inside (List.mem_append_left _ stop)
    intro dims mem d inside
    rw [← whole] at mem
    have known : d.2.Recognised := by
      by_contra unknown
      obtain ⟨x,among,holds⟩ := held _ mem ⟨d,inside,unknown⟩
      exact free _ mem x among holds
    have unqualified : d.2∉[VectorState.conditional,.degraded] := by
      have shape := resolved dims
      rw [plain _ mem] at shape
      cases shape with
      | admitPlain _ none' => exact none' d inside
    exact good_of_free known (free _ mem d inside) unqualified
  · intro stage mem unknown
    rw [decisions] at mem
    have same := (faithful _ mem).2
    have among : stage.vectorStates∈reached stages := states ▸ List.mem_map_of_mem mem
    obtain ⟨d,inside,holds⟩ := held _ among unknown
    have refused : ¬(resolveVectorStates stage.vectorStates).1.Admitting := fun admitting =>
      (resolve_admitting_iff).mp admitting d inside holds
    refine ⟨same ▸ refused,fun admitting => ?_⟩
    have high := le_overall mem
    rw [← overall,same] at high
    have three := (precedence_of_not_admitting refused).trans high
    rcases admitting with h | h
    all_goals
      rw [h] at three
      exact absurd three (by decide)

section

variable (data : DataAdmissionInput) (model : ModelAdmissionInput)
  (deploy : DeploymentAdmissionInput) (req : RequestAdmissionInput)

def stagesOf : List (List Dimension) :=
  [data.dimensions,model.dimensions,deploy.dimensions,req.dimensions]

theorem evaluatePipeline_ok {ctx : Nat → Option String} {clock : Nat → Clock}
    (ok : e.evaluatePipeline enc ctx clock data model deploy req=.ok dec) :
    dec.stageDecisions.map (·.vectorStates)=reached (stagesOf data model deploy req) ∧
    (∀d∈dec.stageDecisions,Faithful d.vectorStates d) ∧
    dec.overallDisposition=calculateOverallDisposition dec.stageDecisions := by
  unfold Engine.evaluatePipeline at ok
  cases live : ctx 0 with
  | some cause =>
    rw [live] at ok
    cases ok
  | none =>
    simp only [live] at ok
    split at ok
    · cases ok
    · next decs done =>
      obtain ⟨states,faithful⟩ := @runStages_reached K _ _ _
        (.cons (admitStage_faithful enc) (.cons (admitStage_faithful enc)
          (.cons (admitStage_faithful enc) (.cons (admitStage_faithful enc) .nil)))) done
      obtain rfl := Except.ok.inj ok
      exact ⟨states,faithful,rfl⟩

theorem admitStage_ok {dims : List Dimension} (valid : refusal=none) :
    ∃dec,e.admitStage enc none clock stage refusal subjectDigest dims obls=.ok dec := by
  subst valid
  exact ⟨_,rfl⟩

variable {data model deploy req}

theorem evaluatePipeline_live (e : Engine K) (clock : Nat → Clock)
    (hdata : validateDataInput data=none) (hmodel : validateModelInput model=none)
    (hdeploy : validateDeploymentInput deploy=none) (hreq : validateRequestInput req=none) :
    ∃dec,e.evaluatePipeline enc (fun _ => none) clock data model deploy req=.ok dec := by
  have each : ∀r∈[e.admitData enc none (clock 1) data,e.admitModel enc none (clock 2) model,
      e.admitDeployment enc none (clock 3) deploy,e.admitRequest enc none (clock 4) req],
      ∃dec,r=.ok dec := by
    simp only [List.forall_mem_cons]
    exact ⟨admitStage_ok enc hdata,admitStage_ok enc hmodel,
      admitStage_ok enc hdeploy,admitStage_ok enc hreq,by simp⟩
  obtain ⟨_,done⟩ := runStages_ok each
  unfold Engine.evaluatePipeline
  rw [done]
  exact ⟨_,rfl⟩

theorem evaluatePipeline_sound_iff (data : DataAdmissionInput) (model : ModelAdmissionInput)
    (deploy : DeploymentAdmissionInput) (req : RequestAdmissionInput)
    (hdata : validateDataInput data=none) (hmodel : validateModelInput model=none)
    (hdeploy : validateDeploymentInput deploy=none) (hreq : validateRequestInput req=none) :
    (∀(e : Engine K) (ctx : Nat → Option String) (clock : Nat → Clock) (dec : PipelineDecision K),
      e.evaluatePipeline enc ctx clock data model deploy req=.ok dec →
        Sound (stagesOf data model deploy req) dec) ↔
    HeldBack (stagesOf data model deploy req) := by
  constructor
  · intro sound dims mem unknown
    obtain ⟨dec,ok⟩ := evaluatePipeline_live enc (⟨⟨"",""⟩,none⟩ : Engine K) (fun _ => ⟨"",0⟩)
      hdata hmodel hdeploy hreq
    obtain ⟨states,faithful,_⟩ := evaluatePipeline_ok enc data model deploy req ok
    rw [← states] at mem
    obtain ⟨stage,among,rfl⟩ := List.mem_map.mp mem
    have refused := ((sound _ _ _ dec ok).unrecognised stage among unknown).1
    rw [(faithful stage among).2,resolve_admitting_iff] at refused
    by_contra none'
    exact refused fun d inside holds => none' ⟨d,inside,holds⟩
  · intro held e ctx clock dec ok
    obtain ⟨states,faithful,overall⟩ := evaluatePipeline_ok enc data model deploy req ok
    exact sound_of_heldBack held states faithful overall rfl

end

def sampleData : DataAdmissionInput := ⟨"ds","",.verified,.compliant,.compliant,.verified⟩

def sampleModel : ModelAdmissionInput := ⟨"m","",.verified,.verified,.verified,.verified,.compliant⟩

def sampleDeployment : DeploymentAdmissionInput :=
  ⟨"d","",.compliant,.compliant,.compliant,.compliant,.compliant⟩

def sampleRequest : RequestAdmissionInput := ⟨"r","",.verified,.compliant,.compliant,.compliant⟩

def plainEncoding : Encoding := ⟨fun _ => [],fun _ => ""⟩

def pendingData : DataAdmissionInput :=
  {sampleData with integrityState := .other "TAMPERED", privacyState := .pending}

theorem pendingData_sound :
    HeldBack (stagesOf pendingData sampleModel sampleDeployment sampleRequest) ∧
    ∀(e : Engine Unit) (ctx : Nat → Option String) (clock : Nat → Clock)
      (dec : PipelineDecision Unit),
      e.evaluatePipeline plainEncoding ctx clock pendingData sampleModel sampleDeployment
        sampleRequest=.ok dec →
      Sound (stagesOf pendingData sampleModel sampleDeployment sampleRequest) dec :=
  have held : HeldBack (stagesOf pendingData sampleModel sampleDeployment sampleRequest) := by
    decide
  ⟨held,(evaluatePipeline_sound_iff plainEncoding pendingData sampleModel sampleDeployment
    sampleRequest (by decide) (by decide) (by decide) (by decide)).mpr held⟩

def tamperedData : DataAdmissionInput := {sampleData with integrityState := .other "TAMPERED"}

theorem tampered_admitted :
    validateDataInput tamperedData=none ∧ validateModelInput sampleModel=none ∧
    validateDeploymentInput sampleDeployment=none ∧ validateRequestInput sampleRequest=none ∧
    ∃dec,(⟨⟨"",""⟩,none⟩ : Engine Unit).evaluatePipeline plainEncoding (fun _ => none)
        (fun _ => ⟨"",0⟩) tamperedData sampleModel sampleDeployment sampleRequest=.ok dec ∧
      dec.overallDisposition=.admitPlain ∧
      dec.stageDecisions.map (·.reason)=List.replicate 4
        "all stage dimensions verified and compliant" := by
  refine ⟨by decide,by decide,by decide,by decide,_,rfl,by decide,by decide⟩

end KServeLLM.Admission
