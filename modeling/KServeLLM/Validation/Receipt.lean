import Mathlib.Algebra.Order.Group.Nat
import KServeLLM.Validation.Admission

namespace KServeLLM.Admission

inductive PublicKey (K : Type) where
  | pair (k : K)
  | wrongLength

variable {K : Type} [DecidableEq K] (enc : Encoding)

def ed25519Verify (k : K) (message : String) (sig : Signature K) : Bool :=
  decide (sig=.made k message)

def verifyReceipt (receipt : AuditReceipt K) (publicKey : PublicKey K) : Option Error :=
  if receipt.receiptID="" ∨ receipt.stage=.other "" ∨ receipt.digest="" then
    some ⟨.receiptVerification,"%w: missing required receipt fields",none⟩
  else
    match publicKey with
    | .wrongLength => some ⟨.receiptVerification,"%w: invalid public key length",none⟩
    | .pair k =>
      match receipt.signature with
      | .empty => some ⟨.receiptVerification,"%w: receipt has no signature",none⟩
      | .malformed text => some ⟨.receiptSignature,"%w: decode signature: %w",some text⟩
      | .encoded sig =>
        if !ed25519Verify k receipt.digest sig then
          some ⟨.receiptSignature,"%w: signature verification mismatch",none⟩
        else none

def AuditReceipt.attested (r : AuditReceipt K) :
    String×StageName×Disposition×String×ProducerBinding×String :=
  (r.receiptID,r.stage,r.disposition,r.subjectDigest,r.producer,r.producedAt)

inductive Issued (k : K) : AuditReceipt K → Prop
  | data (e : Engine K) (ctx : Option String) (clock : Clock) (i : DataAdmissionInput)
      (dec : Decision K) (holds : e.privateKey=some k) (ok : e.admitData enc ctx clock i=.ok dec) :
      Issued k dec.receipt
  | model (e : Engine K) (ctx : Option String) (clock : Clock) (i : ModelAdmissionInput)
      (dec : Decision K) (holds : e.privateKey=some k)
      (ok : e.admitModel enc ctx clock i=.ok dec) : Issued k dec.receipt
  | deployment (e : Engine K) (ctx : Option String) (clock : Clock) (i : DeploymentAdmissionInput)
      (dec : Decision K) (holds : e.privateKey=some k)
      (ok : e.admitDeployment enc ctx clock i=.ok dec) : Issued k dec.receipt
  | request (e : Engine K) (ctx : Option String) (clock : Clock) (i : RequestAdmissionInput)
      (dec : Decision K) (holds : e.privateKey=some k)
      (ok : e.admitRequest enc ctx clock i=.ok dec) : Issued k dec.receipt

def Presentable (k : K) (issued : List (AuditReceipt K)) (r : AuditReceipt K) : Prop :=
  ∀message,r.signature=.encoded (.made k message) → ∃i∈issued,i.signature=r.signature

def TamperEvident (k : K) (issued : List (AuditReceipt K)) : Prop :=
  ∀r,Presentable k issued r → verifyReceipt r (.pair k)=none → ∃i∈issued,r.attested=i.attested

variable {r : AuditReceipt K} {k : K}

theorem verifyReceipt_none_iff : verifyReceipt r (.pair k)=none ↔
      r.receiptID≠"" ∧ r.stage≠.other "" ∧ r.digest≠"" ∧
        r.signature=.encoded (.made k r.digest) := by
  unfold verifyReceipt
  by_cases missing : r.receiptID="" ∨ r.stage=.other "" ∨ r.digest=""
  · rw [if_pos missing]
    refine iff_of_false nofun ?_
    rintro ⟨id,stage,digest,-⟩
    rcases missing with h | h | h
    · exact id h
    · exact stage h
    · exact digest h
  · rw [if_neg missing]
    rw [not_or,not_or] at missing
    cases r.signature with
    | empty => simp
    | malformed text => simp
    | encoded sig => simp [ed25519Verify,missing]

variable {e : Engine K} {clock : Clock} {stage : StageName} {subjectDigest : String}

theorem createReceipt_verifies (holds : e.privateKey=some k) (named : stage≠.other "")
    {disp : Disposition}
    {states : List Dimension} :
    verifyReceipt (e.createReceipt enc clock stage disp subjectDigest states) (.pair k)=none := by
  rw [verifyReceipt_none_iff]
  refine ⟨?_,named,?_,?_⟩
  · simp [Engine.createReceipt,receiptClaims]
  · simp [Engine.createReceipt]
  · simp [Engine.createReceipt,holds]

theorem admitStage_verifies (holds : e.privateKey=some k)
    {ctx : Option String} (named : stage≠.other "")
    {refusal : Option Error} {dims : List Dimension}
    {obls : List Obligation} {dec : Decision K}
    (ok : e.admitStage enc ctx clock stage refusal subjectDigest dims obls=.ok dec) :
    verifyReceipt dec.receipt (.pair k)=none := by
  cases ctx with
  | some cause => cases ok
  | none =>
    cases refusal with
    | some err => cases ok
    | none =>
      obtain rfl := Except.ok.inj ok
      exact createReceipt_verifies enc holds named

theorem Issued.verifies (h : Issued enc k r) : verifyReceipt r (.pair k)=none := by
  cases h with
  | data e ctx clock i dec holds ok => exact admitStage_verifies enc holds (by simp) ok
  | model e ctx clock i dec holds ok => exact admitStage_verifies enc holds (by simp) ok
  | deployment e ctx clock i dec holds ok => exact admitStage_verifies enc holds (by simp) ok
  | request e ctx clock i dec holds ok => exact admitStage_verifies enc holds (by simp) ok

theorem exists_fresh {texts : List String} : ∃s,s∉texts := by
  refine ⟨String.ofList (List.replicate ((texts.map String.length).sum+1) 'x'),fun mem => ?_⟩
  have small := List.le_sum_of_mem (List.mem_map_of_mem (f := String.length) mem)
  simp at small

theorem tamperEvident_iff (k : K) (issued : List (AuditReceipt K))
    (genuine : ∀i∈issued,Issued enc k i) : TamperEvident k issued ↔ issued=[] := by
  constructor
  · intro evident
    rcases issued with _ | ⟨i,rest⟩
    · rfl
    · obtain ⟨subject,fresh⟩ := exists_fresh
      -- nothing that is verified mentions the subject
      have accepted : verifyReceipt {i with subjectDigest := subject} (.pair k)=none :=
        (genuine i List.mem_cons_self).verifies enc
      obtain ⟨j,mem,same⟩ := evident {i with subjectDigest := subject}
        (fun _ _ => ⟨i,List.mem_cons_self,rfl⟩) accepted
      have subjects : subject=j.subjectDigest := congrArg (·.2.2.2.1) same
      exact absurd (List.mem_map_of_mem mem) (subjects ▸ fresh)
  · rintro rfl r presentable accepted
    have signed := ((verifyReceipt_none_iff).mp accepted).2.2.2
    obtain ⟨i,mem,-⟩ := presentable _ signed
    cases mem

def signingEngine : Engine Unit := ⟨⟨"spiffe://cluster/admission","sha256:key"⟩,some ()⟩

def deniedDecision : Decision Unit :=
  signingEngine.buildDecision plainEncoding ⟨"2026-01-01T00:00:00Z",1⟩ .data .deny
    "integrity dimension violated admission policy" "sha256:subject"
    {sampleData with integrityState := .violated}.dimensions []

theorem deniedDecision_issued : Issued plainEncoding () deniedDecision.receipt :=
  .data _ none ⟨"2026-01-01T00:00:00Z",1⟩
    {sampleData with subjectDigest := "sha256:subject", integrityState := .violated}
    _ rfl rfl

theorem deniedReceipt_not_evident : ¬TamperEvident () [deniedDecision.receipt] :=
  fun evident => absurd ((tamperEvident_iff plainEncoding () [deniedDecision.receipt]
    (List.forall_mem_singleton.mpr deniedDecision_issued)).mp evident) (by simp)

theorem denied_receipt_reads_admitted : deniedDecision.receipt.disposition=.deny ∧
    verifyReceipt deniedDecision.receipt (.pair ())=none ∧
    verifyReceipt {deniedDecision.receipt with disposition := .admitPlain} (.pair ())=none ∧
    Presentable () [deniedDecision.receipt]
      {deniedDecision.receipt with disposition := .admitPlain} ∧
    {deniedDecision.receipt with disposition := .admitPlain}.attested≠
      deniedDecision.receipt.attested := by
  have accepted := deniedDecision_issued.verifies plainEncoding
  refine ⟨rfl,accepted,accepted,?_,fun same => ?_⟩
  · exact fun _ _ => ⟨deniedDecision.receipt,List.mem_singleton_self _,rfl⟩
  · exact absurd (congrArg (·.2.2.1) same) (by decide)

end KServeLLM.Admission
