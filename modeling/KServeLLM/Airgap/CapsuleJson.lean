import KServeLLM.Airgap.Capsule
import KServeLLM.Framework.JsonCodec
import KServeLLM.Framework.Rfc3339

namespace KServeLLM.Airgap

open Bytes (ascii toValid)
open KServeLLM.Json (Codec Field field omitEmpty string boolean int64 list pointer stringMap
  struct struct_full)
open Rfc3339 (Fault)

def Stamp.carried (t : Stamp) : Stamp :=
  ⟨t.instant+1000000000*(t.offset-60*t.offset.tdiv 60),60*t.offset.tdiv 60⟩

def stampCodec : Codec Fault Stamp where
  zero := ⟨0,0⟩
  carried := Stamp.carried
  encode t := (Rfc3339.format t.instant t.offset).map .str
  decode
    | .null,t => some t
    | .str s,_ => (Rfc3339.parse s).map fun p => ⟨p.1,p.2⟩
    | _,_ => none
  integral := by
    intro t j h
    obtain ⟨s,_,rfl⟩ := Json.map_ok h
    trivial
  roundtrip := by
    intro t j h
    obtain ⟨s,text,rfl⟩ := Json.map_ok h
    have same : toValid s=s := (Bytes.toValid_eq_iff (Rfc3339.format_low text) s).mpr rfl
    rw [Json.coerced,same]
    dsimp only
    rw [Rfc3339.parse_format text]
    rfl

def metadataFields : List (Field Fault CapsuleMetadata) :=
  [field (ascii "ID") string (·.id) fun r v => {r with id := v},
   field (ascii "SourceEnvironment") string (·.sourceEnvironment) fun r v =>
     {r with sourceEnvironment := v},
   field (ascii "Classification") string (·.classification) fun r v => {r with classification := v},
   field (ascii "CreatedAt") stampCodec (·.createdAt) fun r v => {r with createdAt := v},
   field (ascii "ExpiresAt") stampCodec (·.expiresAt) fun r v => {r with expiresAt := v},
   field (ascii "TargetProfile") string (·.targetProfile) fun r v => {r with targetProfile := v},
   omitEmpty (ascii "annotations") stringMap (·.entries.isEmpty) (·.annotations) fun r v =>
     {r with annotations := v}]

def metadataCodec : Codec Fault CapsuleMetadata :=
  struct ⟨[],[],[],⟨0,0⟩,⟨0,0⟩,[],∅⟩ metadataFields ⟨by decide +kernel,by decide +kernel⟩
    fun _ => ⟨rfl,rfl,rfl,rfl,rfl,rfl,rfl,trivial⟩

def artifactFields : List (Field Fault CapsuleArtifact) :=
  [field (ascii "Name") string (·.name) fun r v => {r with name := v},
   field (ascii "MediaType") string (·.mediaType) fun r v => {r with mediaType := v},
   field (ascii "Digest") string (·.digest) fun r v => {r with digest := v},
   field (ascii "Payload") string (·.payload) fun r v => {r with payload := v},
   field (ascii "Size") int64 (·.size) fun r v => {r with size := v}]

def artifactCodec : Codec Fault CapsuleArtifact :=
  struct ⟨[],[],[],[],0⟩ artifactFields ⟨by decide +kernel,by decide +kernel⟩
    fun _ => ⟨rfl,rfl,rfl,rfl,rfl,trivial⟩

def signatureFields : List (Field Fault SignatureRecord) :=
  [field (ascii "ArtifactDigest") string (·.artifactDigest) fun r v => {r with artifactDigest := v},
   field (ascii "SignerIdentity") string (·.signerIdentity) fun r v => {r with signerIdentity := v},
   field (ascii "KeyFingerprint") string (·.keyFingerprint) fun r v => {r with keyFingerprint := v},
   field (ascii "SignatureValue") string (·.signatureValue) fun r v => {r with signatureValue := v},
   field (ascii "Timestamp") stampCodec (·.timestamp) fun r v => {r with timestamp := v}]

def signatureCodec : Codec Fault SignatureRecord :=
  struct ⟨[],[],[],[],⟨0,0⟩⟩ signatureFields ⟨by decide +kernel,by decide +kernel⟩
    fun _ => ⟨rfl,rfl,rfl,rfl,rfl,trivial⟩

def attestationFields : List (Field Fault AttestationRecord) :=
  [field (ascii "PredicateType") string (·.predicateType) fun r v => {r with predicateType := v},
   field (ascii "SubjectDigest") string (·.subjectDigest) fun r v => {r with subjectDigest := v},
   field (ascii "PayloadDigest") string (·.payloadDigest) fun r v => {r with payloadDigest := v},
   field (ascii "StatementJSON") string (·.statementJSON) fun r v => {r with statementJSON := v}]

def attestationCodec : Codec Fault AttestationRecord :=
  struct ⟨[],[],[],[]⟩ attestationFields ⟨by decide +kernel,by decide +kernel⟩
    fun _ => ⟨rfl,rfl,rfl,rfl,trivial⟩

def aibomFields : List (Field Fault AIBOMRecord) :=
  [field (ascii "ModelName") string (·.modelName) fun r v => {r with modelName := v},
   field (ascii "ModelVersion") string (·.modelVersion) fun r v => {r with modelVersion := v},
   field (ascii "Architecture") string (·.architecture) fun r v => {r with architecture := v},
   field (ascii "Parameters") string (·.parameters) fun r v => {r with parameters := v},
   field (ascii "WeightsDigest") string (·.weightsDigest) fun r v => {r with weightsDigest := v},
   field (ascii "Format") string (·.format) fun r v => {r with format := v},
   omitEmpty (ascii "metadata") stringMap (·.entries.isEmpty) (·.metadata) fun r v =>
     {r with metadata := v}]

def aibomCodec : Codec Fault AIBOMRecord :=
  struct ⟨[],[],[],[],[],[],∅⟩ aibomFields ⟨by decide +kernel,by decide +kernel⟩
    fun _ => ⟨rfl,rfl,rfl,rfl,rfl,rfl,rfl,trivial⟩

theorem aibomCodec_full (r : AIBOMRecord) : aibomCodec.encode r≠.ok .null := struct_full _ _

def sbomFields : List (Field Fault SBOMRecord) :=
  [field (ascii "Format") string (·.format) fun r v => {r with format := v},
   field (ascii "Digest") string (·.digest) fun r v => {r with digest := v},
   field (ascii "Components") (list string) (·.components) fun r v => {r with components := v}]

def sbomCodec : Codec Fault SBOMRecord :=
  struct ⟨[],[],[]⟩ sbomFields ⟨by decide +kernel,by decide +kernel⟩ fun _ => ⟨rfl,rfl,rfl,trivial⟩

theorem sbomCodec_full (r : SBOMRecord) : sbomCodec.encode r≠.ok .null := struct_full _ _

def evidenceFields : List (Field Fault CapsuleEvidence) :=
  [field (ascii "signatures") (list signatureCodec) (·.signatures) fun r v =>
     {r with signatures := v},
   field (ascii "attestations") (list attestationCodec) (·.attestations) fun r v =>
     {r with attestations := v},
   omitEmpty (ascii "aiBom") (pointer aibomCodec aibomCodec_full) (·.isNone) (·.aibom) fun r v =>
     {r with aibom := v},
   omitEmpty (ascii "sBom") (pointer sbomCodec sbomCodec_full) (·.isNone) (·.sbom) fun r v =>
     {r with sbom := v}]

theorem evidenceFields_untouched (ev : CapsuleEvidence) :
    Json.Untouched ev evidenceFields ⟨[],[],none,none⟩ := by
  refine ⟨rfl,rfl,rfl,?_,trivial⟩
  show (if ev.aibom.isNone then _ else _ : CapsuleEvidence).sbom=none
  split <;> rfl

def evidenceCodec : Codec Fault CapsuleEvidence :=
  struct ⟨[],[],none,none⟩ evidenceFields ⟨by decide +kernel,by decide +kernel⟩
    evidenceFields_untouched

def ruleFields : List (Field Fault ValidationRule) :=
  [field (ascii "Name") string (·.name) fun r v => {r with name := v},
   field (ascii "RuleType") string (·.ruleType) fun r v => {r with ruleType := v},
   field (ascii "Requirement") string (·.requirement) fun r v => {r with requirement := v}]

def ruleCodec : Codec Fault ValidationRule :=
  struct ⟨[],[],[]⟩ ruleFields ⟨by decide +kernel,by decide +kernel⟩ fun _ => ⟨rfl,rfl,rfl,trivial⟩

def policiesFields : List (Field Fault CapsulePolicies) :=
  [field (ascii "validationRules") (list ruleCodec) (·.validationRules) fun r v =>
     {r with validationRules := v},
   field (ascii "trustedKeyFingerprints") (list string) (·.trustedKeyFingerprints) fun r v =>
     {r with trustedKeyFingerprints := v},
   field (ascii "allowedRegistries") (list string) (·.allowedRegistries) fun r v =>
     {r with allowedRegistries := v},
   field (ascii "zeroPhoneHomeRequired") boolean (·.zeroPhoneHomeRequired) fun r v =>
     {r with zeroPhoneHomeRequired := v},
   field (ascii "maxPermittedRisk") string (·.maxPermittedRisk) fun r v =>
     {r with maxPermittedRisk := v}]

def policiesCodec : Codec Fault CapsulePolicies :=
  struct ⟨[],[],[],false,[]⟩ policiesFields ⟨by decide +kernel,by decide +kernel⟩
    fun _ => ⟨rfl,rfl,rfl,rfl,rfl,trivial⟩

def capsuleFields : List (Field Fault TransferCapsule) :=
  [field (ascii "apiVersion") string (·.apiVersion) fun r v => {r with apiVersion := v},
   field (ascii "kind") string (·.kind) fun r v => {r with kind := v},
   field (ascii "metadata") metadataCodec (·.metadata) fun r v => {r with metadata := v},
   field (ascii "artifacts") (list artifactCodec) (·.artifacts) fun r v => {r with artifacts := v},
   field (ascii "evidence") evidenceCodec (·.evidence) fun r v => {r with evidence := v},
   field (ascii "policies") policiesCodec (·.policies) fun r v => {r with policies := v}]

def capsuleCodec : Codec Fault TransferCapsule :=
  struct ⟨[],[],metadataCodec.zero,[],evidenceCodec.zero,policiesCodec.zero⟩ capsuleFields
    ⟨by decide +kernel,by decide +kernel⟩ fun _ => ⟨rfl,rfl,rfl,rfl,rfl,rfl,trivial⟩

inductive TransferError where
  | nilCapsule
  | unwritten (fault : Fault)
  | emptyData | unread
  deriving DecidableEq

def TransferError.text : TransferError → Bytes
  | .nilCapsule => Sentinel.nilCapsule.text
  | .unwritten fault =>
    ascii "export capsule: json: error calling MarshalJSON for type time.Time: Time.MarshalJSON: "++
      match fault with
      | .year => ascii "year outside of range [0,9999]"
      | .zoneHour => ascii "timezone hour outside of range [0,23]"
  | .emptyData => ascii "import capsule: empty data"
  | .unread => ascii "import capsule: "

def exportCapsule (capsule : Option TransferCapsule) : Except TransferError Bytes :=
  match capsule with
  | none => .error .nilCapsule
  | some capsule =>
    match capsuleCodec.encode capsule with
    | .error fault => .error (.unwritten fault)
    | .ok j => .ok j.marshalIndent

def importCapsule (data : Bytes) : Except TransferError TransferCapsule :=
  if data=[] then .error .emptyData
  else
    match (Json.unmarshal data).bind fun j => capsuleCodec.decode j capsuleCodec.zero with
    | none => .error .unread
    | some capsule => .ok capsule

def TransferCapsule.carried (c : TransferCapsule) : TransferCapsule := capsuleCodec.carried c

theorem importCapsule_exportCapsule {c : TransferCapsule} {data : Bytes}
    (exported : exportCapsule (some c)=.ok data) : importCapsule data=.ok c.carried := by
  unfold exportCapsule at exported
  dsimp only at exported
  split at exported
  · cases exported
  · rename_i j written
    cases exported
    have integral := capsuleCodec.integral written
    have read := capsuleCodec.roundtrip written
    rw [importCapsule,if_neg (Json.marshalIndent_ne_nil integral),
      Json.unmarshal_marshalIndent integral,Option.bind_some,read]
    rfl

theorem metadataCodec_carried (m : CapsuleMetadata) : ∃ annotations,metadataCodec.carried m=
      ⟨toValid m.id,toValid m.sourceEnvironment,toValid m.classification,m.createdAt.carried,
        m.expiresAt.carried,toValid m.targetProfile,annotations⟩ := by
  show ∃ annotations,(if m.annotations.entries.isEmpty then _ else _)=_
  split
  · exact ⟨_,rfl⟩
  · exact ⟨_,rfl⟩

theorem artifactCodec_carried (art : CapsuleArtifact) : artifactCodec.carried art=
      ⟨toValid art.name,toValid art.mediaType,toValid art.digest,toValid art.payload,art.size⟩ :=
  rfl

theorem aibomCodec_carried (r : AIBOMRecord) :
    (aibomCodec.carried r).weightsDigest=toValid r.weightsDigest := by
  show (if r.metadata.entries.isEmpty then _ else _ : AIBOMRecord).weightsDigest=_
  split <;> rfl

theorem evidenceCodec_carried (ev : CapsuleEvidence) : evidenceCodec.carried ev=
      ⟨ev.signatures.map signatureCodec.carried,ev.attestations.map attestationCodec.carried,
        ev.aibom.map aibomCodec.carried,ev.sbom.map sbomCodec.carried⟩ := by
  obtain ⟨_,_,aibom,sbom⟩ := ev
  cases aibom <;> cases sbom <;> rfl

end KServeLLM.Airgap
