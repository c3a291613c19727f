import KServeLLM.Airgap.Profile
import KServeLLM.Framework.GoTypes

namespace KServeLLM.Airgap

open Bytes (ascii)

structure Stamp where
  instant : Time
  offset : Int
  deriving DecidableEq

structure CapsuleMetadata where
  (id sourceEnvironment classification : Bytes)
  (createdAt expiresAt : Stamp)
  targetProfile : SovereigntyProfileLevel
  annotations : GoMap Bytes Bytes

structure CapsuleArtifact where
  (name mediaType digest payload : Bytes)
  size : Int64
  deriving DecidableEq

structure SignatureRecord where
  (artifactDigest signerIdentity keyFingerprint signatureValue : Bytes)
  timestamp : Stamp
  deriving DecidableEq

structure AttestationRecord where
  (predicateType subjectDigest payloadDigest statementJSON : Bytes)
  deriving DecidableEq

structure AIBOMRecord where
  (modelName modelVersion architecture parameters weightsDigest format : Bytes)
  metadata : GoMap Bytes Bytes

structure SBOMRecord where
  (format digest : Bytes)
  components : List Bytes
  deriving DecidableEq

structure CapsuleEvidence where
  signatures : List SignatureRecord
  attestations : List AttestationRecord
  aibom : Option AIBOMRecord
  sbom : Option SBOMRecord

structure ValidationRule where
  (name ruleType requirement : Bytes)
  deriving DecidableEq

structure CapsulePolicies where
  validationRules : List ValidationRule
  (trustedKeyFingerprints allowedRegistries : List Bytes)
  zeroPhoneHomeRequired : Bool
  maxPermittedRisk : Bytes
  deriving DecidableEq

structure TransferCapsule where
  (apiVersion kind : Bytes)
  metadata : CapsuleMetadata
  artifacts : List CapsuleArtifact
  evidence : CapsuleEvidence
  policies : CapsulePolicies

def validateCapsuleMetadata (m : CapsuleMetadata) (expectedProfile : SovereigntyProfileLevel)
    (now : Time) : Option Error :=
  if m.id=[] || m.createdAt.instant.isZero || m.expiresAt.instant.isZero then
    some Sentinel.invalidMetadata.error
  else if !now.isZero && now.after m.expiresAt.instant then some Sentinel.capsuleExpired.error
  else if expectedProfile=profileAirGap ∧ m.targetProfile≠profileAirGap then
    some (Sentinel.incompatibleProfile.errorf (ascii "capsule target "++m.targetProfile++
      ascii " vs expected "++expectedProfile))
  else none

variable (hexSum : Bytes → Bytes)

def checkArtifact (art : CapsuleArtifact) : Option (DigestPinningStatus×Error) :=
  if !Bytes.hasPrefix art.digest (ascii "sha256:") || art.digest.length≠71 then
    some (.unpinned,Sentinel.unpinnedDigest.errorf (ascii "artifact "++art.name))
  else if art.payload≠[] ∧ hexSum art.payload≠art.digest.drop 7 then
    some (.malformed,
      Sentinel.digestMismatch.errorf (ascii "payload digest mismatch for "++art.name))
  else none

def validateCapsuleArtifacts (artifacts : List CapsuleArtifact) :
    List Bytes×DigestPinningStatus×Option Error :=
  if artifacts=[] then
    ([],.malformed,some (Sentinel.invalidMetadata.errorf (ascii "artifacts list is empty")))
  else
    match artifacts.findSome? (checkArtifact hexSum) with
    | some (status,err) => ([],status,some err)
    | none => ([],.pinned,none)

def checkSignature (digests trustedKeys : List Bytes) (sig : SignatureRecord) : Option Bytes :=
  if sig.artifactDigest∉digests then
    some (ascii "signature references unknown artifact digest: "++sig.artifactDigest)
  else if sig.keyFingerprint∉trustedKeys then
    some (ascii "signature key fingerprint "++sig.keyFingerprint++ascii " untrusted")
  else none

def checkSignatures (sigs : List SignatureRecord) (digests trustedKeys : List Bytes)
    (required : Bool) : List Bytes×SignatureIntegrityStatus :=
  if sigs=[] then
    (if required then [ascii "missing required cryptographic signatures"] else [],.missing)
  else
    match sigs.findSome? (checkSignature digests trustedKeys) with
    | some violation => ([violation],.untrusted)
    | none => ([],.verified)

def checkAttestation (digests : List Bytes) (att : AttestationRecord) : Option Bytes :=
  if att.subjectDigest∉digests then
    some (ascii "attestation subject "++att.subjectDigest++ascii " not found in artifacts")
  else none

def checkAttestations (attests : List AttestationRecord) (digests : List Bytes) (required : Bool) :
    List Bytes×AttestationIntegrityStatus :=
  if attests=[] then
    (if required then [ascii "missing required in-toto provenance attestation"] else [],.missing)
  else
    match attests.findSome? (checkAttestation digests) with
    | some violation => ([violation],.invalid)
    | none => ([],.verified)

def checkBOMs (aibom : Option AIBOMRecord) (sbom : Option SBOMRecord) (digests : List Bytes)
    (required : Bool) : List Bytes×BOMIntegrityStatus :=
  match aibom,sbom with
  | some aibom,some _ =>
    if aibom.weightsDigest∉digests then
      ([ascii "AI-BOM weights digest "++aibom.weightsDigest++ascii " not found in artifacts"],
        .partialBOM)
    else ([],.complete)
  | _,_ =>
    (if required then [ascii "both AI-BOM and SBOM are required for offline sovereignty"] else [],
      if aibom.isSome || sbom.isSome then .partialBOM else .missing)

def validateCapsuleEvidence (ev : CapsuleEvidence) (arts : List CapsuleArtifact)
    (trustedKeys : List Bytes) (req : ProfileRequirements) :
    List Bytes×SignatureIntegrityStatus×AttestationIntegrityStatus×BOMIntegrityStatus :=
  let digests := arts.map (·.digest)
  let sigs := checkSignatures ev.signatures digests trustedKeys req.requireSignatures
  let atts := checkAttestations ev.attestations digests req.requireAttestation
  let boms := checkBOMs ev.aibom ev.sbom digests req.requireBOM
  (sigs.1++atts.1++boms.1,sigs.2,atts.2,boms.2)

def validateCapsulePolicies (pol : CapsulePolicies) (req : ProfileRequirements) :
    List Bytes×NetworkPosture×Option Error :=
  if req.zeroPhoneHome then
    if !pol.zeroPhoneHomeRequired then
      ([],.airGapZeroEgress,some (Sentinel.phoneHomeNotForbidden.errorf
        (ascii "air gap capsule must explicitly assert zero-phone-home requirement")))
    else ([],.airGapZeroEgress,none)
  else ([],.connected,none)

def validateCapsule (capsule : Option TransferCapsule) (expectedProfile : SovereigntyProfileLevel)
    (now : Time) : SovereigntyVector×Option Error :=
  match capsule with
  | none => ({state := .nonCompliant},some Sentinel.nilCapsule.error)
  | some capsule =>
    match getProfileRequirements expectedProfile with
    | .error err => ({state := .nonCompliant},some err)
    | .ok req =>
      match validateCapsuleMetadata capsule.metadata expectedProfile now with
      | some err =>
        ({state := .nonCompliant},some {err with text := ascii "validate metadata: "++err.text})
      | none =>
        match validateCapsuleArtifacts hexSum capsule.artifacts with
        | (_,digStatus,some err) =>
          ({digestPinning := digStatus, state := .nonCompliant},some err)
        | (artViolations,digStatus,none) =>
          let (evViolations,sigStatus,attStatus,bomStatus) := validateCapsuleEvidence
            capsule.evidence capsule.artifacts capsule.policies.trustedKeyFingerprints req
          match validateCapsulePolicies capsule.policies req with
          | (_,netPosture,some err) => ({network := netPosture, state := .nonCompliant},some err)
          | (polViolations,netPosture,none) =>
            let violations := artViolations++evViolations++polViolations
            ({profile := expectedProfile
              network := netPosture
              digestPinning := digStatus
              signatureIntegrity := sigStatus
              attestationIntegrity := attStatus
              bomIntegrity := bomStatus
              identityIntegrity := .enforced
              secretStoreIntegrity := .localSeeded
              state := if violations=[] then .compliant else .nonCompliant
              violations},none)

theorem validateCapsuleArtifacts_ok_iff {artifacts : List CapsuleArtifact} :
    (validateCapsuleArtifacts hexSum artifacts).2.2=none ↔
      artifacts≠[] ∧ ∀ art∈artifacts,checkArtifact hexSum art=none := by
  unfold validateCapsuleArtifacts
  by_cases empty : artifacts=[]
  · simp [empty]
  · rw [if_neg empty]
    cases found : artifacts.findSome? (checkArtifact hexSum) with
    | none => simpa [empty] using List.findSome?_eq_none_iff.mp found
    | some fault =>
      refine iff_of_false (by simp) (fun good => ?_)
      rw [List.findSome?_eq_none_iff.mpr good.2] at found
      cases found

theorem validateCapsuleArtifacts_ok {artifacts : List CapsuleArtifact}
    (good : (validateCapsuleArtifacts hexSum artifacts).2.2=none) :
    validateCapsuleArtifacts hexSum artifacts=([],.pinned,none) := by
  obtain ⟨some',fine⟩ := (validateCapsuleArtifacts_ok_iff hexSum).mp good
  unfold validateCapsuleArtifacts
  rw [if_neg some',List.findSome?_eq_none_iff.mpr fine]

theorem validateCapsulePolicies_ok_iff (pol : CapsulePolicies) (req : ProfileRequirements) :
    (validateCapsulePolicies pol req).2.2=none ↔
      (req.zeroPhoneHome → pol.zeroPhoneHomeRequired) := by
  unfold validateCapsulePolicies
  cases req.zeroPhoneHome <;> cases pol.zeroPhoneHomeRequired <;> simp

theorem validateCapsulePolicies_quiet (pol : CapsulePolicies) (req : ProfileRequirements) :
    (validateCapsulePolicies pol req).1=[] := by
  unfold validateCapsulePolicies
  split
  · split <;> rfl
  · rfl

def judged (capsule : TransferCapsule) (level : SovereigntyProfileLevel)
    (req : ProfileRequirements) : SovereigntyVector :=
  let found := validateCapsuleEvidence capsule.evidence capsule.artifacts
    capsule.policies.trustedKeyFingerprints req
  {profile := level
   network := (validateCapsulePolicies capsule.policies req).2.1
   digestPinning := .pinned
   signatureIntegrity := found.2.1
   attestationIntegrity := found.2.2.1
   bomIntegrity := found.2.2.2
   identityIntegrity := .enforced
   secretStoreIntegrity := .localSeeded
   state := if found.1=[] then .compliant else .nonCompliant
   violations := found.1}

def verdict (described : Option Error) (pinned : DigestPinningStatus×Option Error)
    (confined : NetworkPosture×Option Error) (vector : SovereigntyVector) :
    SovereigntyVector×Option Error :=
  match described,pinned.2,confined.2 with
  | some err,_,_ =>
    ({state := .nonCompliant},some {err with text := ascii "validate metadata: "++err.text})
  | none,some err,_ => ({digestPinning := pinned.1, state := .nonCompliant},some err)
  | none,none,some err => ({network := confined.1, state := .nonCompliant},some err)
  | none,none,none => (vector,none)

variable {hexSum} {capsule : TransferCapsule} {level : SovereigntyProfileLevel} {now : Time}
  {req : ProfileRequirements} {err : Error}

theorem validateCapsule_unknown (unknown : getProfileRequirements level=.error err) :
    validateCapsule hexSum (some capsule) level now=({state := .nonCompliant},some err) := by
  simp [validateCapsule,unknown]

theorem validateCapsule_eq (known : getProfileRequirements level=.ok req) :
    validateCapsule hexSum (some capsule) level now=
      verdict (validateCapsuleMetadata capsule.metadata level now)
        (validateCapsuleArtifacts hexSum capsule.artifacts).2
        (validateCapsulePolicies capsule.policies req).2 (judged capsule level req) := by
  have quiet := validateCapsulePolicies_quiet capsule.policies req
  simp only [validateCapsule,known,judged]
  cases validateCapsuleMetadata capsule.metadata level now with
  | some err => rfl
  | none =>
    rcases parts : validateCapsuleArtifacts hexSum capsule.artifacts with
      ⟨_,_,_ | _⟩
    · have pinned := validateCapsuleArtifacts_ok hexSum (by rw [parts])
      rcases rules : validateCapsulePolicies capsule.policies req with ⟨_,_,_ | _⟩
      · rw [rules] at quiet
        cases quiet
        cases parts.symm.trans pinned
        simp [verdict]
      · rfl
    · rfl

end KServeLLM.Airgap
