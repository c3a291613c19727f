import KServeLLM.Airgap.Capsule

namespace KServeLLM.Airgap

open Bytes (ascii)

variable (hexSum : Bytes → Bytes)

def Accepted (capsule : TransferCapsule) (level : SovereigntyProfileLevel) (now : Time) : Prop :=
  (validateCapsule hexSum (some capsule) level now).2=none ∧
    (validateCapsule hexSum (some capsule) level now).1.state=.compliant

structure Admissible (capsule : TransferCapsule) (level : SovereigntyProfileLevel) (now : Time) :
    Prop where
  known : (getProfileRequirements level).isOk
  described : validateCapsuleMetadata capsule.metadata level now=none
  filled : capsule.artifacts≠[]
  pinned : ∀ art∈capsule.artifacts,checkArtifact hexSum art=none
  signatures : (checkSignatures capsule.evidence.signatures (capsule.artifacts.map (·.digest))
    capsule.policies.trustedKeyFingerprints (requirementsOf level).requireSignatures).1=[]
  attestations : (checkAttestations capsule.evidence.attestations
    (capsule.artifacts.map (·.digest)) (requirementsOf level).requireAttestation).1=[]
  boms : (checkBOMs capsule.evidence.aibom capsule.evidence.sbom
    (capsule.artifacts.map (·.digest)) (requirementsOf level).requireBOM).1=[]
  confined : (requirementsOf level).zeroPhoneHome → capsule.policies.zeroPhoneHomeRequired

structure Covered (capsule : TransferCapsule) (req : ProfileRequirements) : Prop where
  signed : req.requireSignatures → ∀ art∈capsule.artifacts,∃ sig∈capsule.evidence.signatures,
    sig.artifactDigest=art.digest ∧ sig.keyFingerprint∈capsule.policies.trustedKeyFingerprints
  attested : req.requireAttestation → ∀ art∈capsule.artifacts,
    ∃ att∈capsule.evidence.attestations,att.subjectDigest=art.digest
  hashed : ∀ art∈capsule.artifacts,art.payload≠[] → art.digest=ascii "sha256:"++hexSum art.payload

theorem requirementsOf_known {level : SovereigntyProfileLevel} {req : ProfileRequirements}
    (known : getProfileRequirements level=.ok req) : requirementsOf level=req := by
  rw [requirementsOf,known]

theorem judged_compliant_iff (capsule : TransferCapsule) (level : SovereigntyProfileLevel)
    (req : ProfileRequirements) :
    (judged capsule level req).state=.compliant ↔
      (checkSignatures capsule.evidence.signatures (capsule.artifacts.map (·.digest))
        capsule.policies.trustedKeyFingerprints req.requireSignatures).1=[] ∧
      (checkAttestations capsule.evidence.attestations (capsule.artifacts.map (·.digest))
        req.requireAttestation).1=[] ∧
      (checkBOMs capsule.evidence.aibom capsule.evidence.sbom (capsule.artifacts.map (·.digest))
        req.requireBOM).1=[] := by
  unfold judged
  dsimp only
  split
  · rename_i none
    refine iff_of_true rfl ?_
    simpa only [validateCapsuleEvidence,List.append_eq_nil_iff,and_assoc] using none
  · rename_i some
    refine iff_of_false (by simp) ?_
    simpa only [validateCapsuleEvidence,List.append_eq_nil_iff,and_assoc] using some

theorem verdict_accepts_iff {described : Option Error} {pinned : DigestPinningStatus×Option Error}
    {confined : NetworkPosture×Option Error} {vector : SovereigntyVector} :
    (verdict described pinned confined vector).2=none ∧
        (verdict described pinned confined vector).1.state=.compliant ↔
      described=none ∧ pinned.2=none ∧ confined.2=none ∧ vector.state=.compliant := by
  unfold verdict
  split <;> simp_all

theorem accepted_iff (capsule : TransferCapsule) (level : SovereigntyProfileLevel) (now : Time) :
    Accepted hexSum capsule level now ↔ Admissible hexSum capsule level now := by
  cases known : getProfileRequirements level with
  | error err =>
    refine iff_of_false (fun accepted => ?_) (fun admissible => ?_)
    · rw [Accepted,validateCapsule_unknown known] at accepted
      cases accepted.1
    · have impossible := admissible.known
      rw [known] at impossible
      cases impossible
  | ok req =>
    obtain rfl := requirementsOf_known known
    rw [Accepted,validateCapsule_eq known,verdict_accepts_iff,validateCapsuleArtifacts_ok_iff,
      validateCapsulePolicies_ok_iff,judged_compliant_iff]
    constructor
    · rintro ⟨described,⟨filled,pinned⟩,confined,signatures,attestations,boms⟩
      exact ⟨by rw [known]; rfl,described,filled,pinned,signatures,attestations,boms,confined⟩
    · rintro ⟨_,described,filled,pinned,signatures,attestations,boms,confined⟩
      exact ⟨described,⟨filled,pinned⟩,confined,signatures,attestations,boms⟩

theorem trusted_of_quiet {sigs : List SignatureRecord} {digests trustedKeys : List Bytes}
    {required : Bool} (quiet : (checkSignatures sigs digests trustedKeys required).1=[]) :
    ∀ sig∈sigs,sig.keyFingerprint∈trustedKeys := by
  intro sig mem
  unfold checkSignatures at quiet
  rw [if_neg (List.ne_nil_of_mem mem)] at quiet
  cases found : sigs.findSome? (checkSignature digests trustedKeys) with
  | some violation => simp [found] at quiet
  | none =>
    have clear := List.findSome?_eq_none_iff.mp found sig mem
    unfold checkSignature at clear
    by_contra _
    split at clear <;> cases clear

theorem hashed_of_clear {art : CapsuleArtifact} (clear : checkArtifact hexSum art=none)
    (some' : art.payload≠[]) : art.digest=ascii "sha256:"++hexSum art.payload := by
  unfold checkArtifact at clear
  split at clear
  · cases clear
  · rename_i pinned
    split at clear
    · cases clear
    · rename_i hashed
      have same : hexSum art.payload=art.digest.drop 7 := by
        by_contra other
        exact hashed ⟨some',other⟩
      simp only [Bool.or_eq_true,not_or,Bool.not_eq_true,Bool.not_eq_false'] at pinned
      obtain ⟨_,eq⟩ := List.isPrefixOf_iff_prefix.mp pinned.1
      rw [same,← eq]
      rfl

theorem accepted_covered_iff (capsule : TransferCapsule) (level : SovereigntyProfileLevel)
    (now : Time) :
    (Accepted hexSum capsule level now → Covered hexSum capsule (requirementsOf level)) ↔
      (Admissible hexSum capsule level now →
        ((requirementsOf level).requireSignatures → ∀ art∈capsule.artifacts,
          art.digest∈capsule.evidence.signatures.map (·.artifactDigest)) ∧
        ((requirementsOf level).requireAttestation → ∀ art∈capsule.artifacts,
          art.digest∈capsule.evidence.attestations.map (·.subjectDigest))) := by
  rw [accepted_iff]
  refine forall_congr' fun admissible => ⟨fun covered => ⟨fun required art mem => ?_,?_⟩,?_⟩
  · obtain ⟨sig,sigMem,same,_⟩ := covered.signed required art mem
    exact List.mem_map.mpr ⟨sig,sigMem,same⟩
  · intro required art mem
    obtain ⟨att,attMem,same⟩ := covered.attested required art mem
    exact List.mem_map.mpr ⟨att,attMem,same⟩
  · rintro ⟨signed,attested⟩
    refine ⟨fun required art mem => ?_,fun required art mem => ?_,fun art mem some' => ?_⟩
    · obtain ⟨sig,sigMem,same⟩ := List.mem_map.mp (signed required art mem)
      exact ⟨sig,sigMem,same,trusted_of_quiet admissible.signatures sig sigMem⟩
    · exact List.mem_map.mp (attested required art mem)
    · exact hashed_of_clear hexSum (admissible.pinned art mem) some'

def digestOf (b : UInt8) : Bytes := ascii "sha256:"++List.replicate 64 b

def stowawayCapsule : TransferCapsule where
  apiVersion := ascii "airgap.ckodex.com/v1"
  kind := ascii "TransferCapsule"
  metadata := {
    id := ascii "cap-1"
    sourceEnvironment := []
    classification := []
    createdAt := ⟨1,0⟩
    expiresAt := ⟨10,0⟩
    targetProfile := profileAirGap
    annotations := ∅}
  artifacts := [⟨ascii "weights",[],digestOf 48,[],0⟩,⟨ascii "stowaway",[],digestOf 49,[],0⟩]
  evidence := {
    signatures := [⟨digestOf 48,[],ascii "key",[],⟨1,0⟩⟩]
    attestations := [⟨[],digestOf 48,[],[]⟩]
    aibom := some ⟨[],[],[],[],digestOf 48,[],∅⟩
    sbom := some ⟨[],[],[]⟩}
  policies := ⟨[],[ascii "key"],[],true,[]⟩

theorem stowaway_accepted : Accepted (fun _ => []) stowawayCapsule profileAirGap 5 ∧
      ¬Covered (fun _ => []) stowawayCapsule (requirementsOf profileAirGap) := by
  refine ⟨⟨by decide +kernel,by decide +kernel⟩,fun covered => ?_⟩
  obtain ⟨_,mem,same,_⟩ := covered.signed (by decide +kernel)
    ⟨ascii "stowaway",[],digestOf 49,[],0⟩ (by decide +kernel)
  obtain rfl := List.mem_singleton.mp mem
  exact absurd same (by decide +kernel)

end KServeLLM.Airgap
