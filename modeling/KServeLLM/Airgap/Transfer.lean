import KServeLLM.Airgap.CapsuleJson

namespace KServeLLM.Airgap

open Bytes (ascii toValid valid badBytes)

variable {s : Bytes}

section

def CapsuleMetadata.shifted (m : CapsuleMetadata) : CapsuleMetadata :=
  {m with createdAt := m.createdAt.carried, expiresAt := m.expiresAt.carried}

def incomplete (m : CapsuleMetadata) : Bool :=
  m.id=[] || m.createdAt.instant.isZero || m.expiresAt.instant.isZero

def expired (m : CapsuleMetadata) (now : Time) : Bool :=
  !now.isZero && now.after m.expiresAt.instant

structure Described (m : CapsuleMetadata) (level : SovereigntyProfileLevel) (now : Time) :
    Prop where
  complete : incomplete m=false
  fresh : expired m now=false
  aimed : level=profileAirGap → m.targetProfile=profileAirGap

structure MetadataKept (m : CapsuleMetadata) (level : SovereigntyProfileLevel) (now : Time) :
    Prop where
  complete : incomplete m.shifted=incomplete m
  fresh : incomplete m=false → expired m.shifted now=expired m now
  quoted : incomplete m=false → expired m now=false → level=profileAirGap →
    m.targetProfile≠profileAirGap → valid m.targetProfile

theorem toValid_eq_nil : toValid s=[] ↔ s=[] := Bytes.toValid_eq_iff (by simp) s

theorem toValid_airGap : toValid s=profileAirGap ↔ s=profileAirGap :=
  Bytes.toValid_eq_iff (by decide +kernel) s

variable (m : CapsuleMetadata)

theorem incomplete_carried : incomplete (metadataCodec.carried m)=incomplete m.shifted := by
  obtain ⟨_,same⟩ := metadataCodec_carried m
  have empty : decide (toValid m.id=[])=decide (m.id=[]) :=
    decide_eq_decide.mpr (toValid_eq_nil)
  rw [same,incomplete,empty]
  rfl

theorem expired_carried (now : Time) :
    expired (metadataCodec.carried m) now=expired m.shifted now := by
  obtain ⟨_,same⟩ := metadataCodec_carried m
  simp [same,expired,CapsuleMetadata.shifted]

theorem targetProfile_carried :
    (metadataCodec.carried m).targetProfile=toValid m.targetProfile := by
  obtain ⟨_,same⟩ := metadataCodec_carried m
  rw [same]

def quoting (profile level : SovereigntyProfileLevel) : Error :=
  Sentinel.incompatibleProfile.errorf (ascii "capsule target "++profile++
    ascii " vs expected "++level)

theorem quoting_eq_iff (a b level : SovereigntyProfileLevel) :
    quoting a level=quoting b level ↔ a=b := by
  simp [quoting,Sentinel.errorf]

def refusedFor (incomplete expired : Bool) (quoted : Option Error) : Option Error :=
  if incomplete then some Sentinel.invalidMetadata.error
  else if expired then some Sentinel.capsuleExpired.error
  else quoted

theorem refusedFor_eq_iff {incomplete incomplete' expired expired' : Bool}
    {quoted quoted' : Option Error} (other : ∀ err∈quoted,err.sentinel=.incompatibleProfile)
    (other' : ∀ err∈quoted',err.sentinel=.incompatibleProfile) :
    refusedFor incomplete' expired' quoted'=refusedFor incomplete expired quoted ↔
      incomplete'=incomplete ∧ (incomplete=false → expired'=expired ∧
        (expired=false → quoted'=quoted)) := by
  have invalid : quoted≠some Sentinel.invalidMetadata.error := fun h => nomatch other _ h
  have invalid' : quoted'≠some Sentinel.invalidMetadata.error := fun h => nomatch other' _ h
  have past : quoted≠some Sentinel.capsuleExpired.error := fun h => nomatch other _ h
  have past' : quoted'≠some Sentinel.capsuleExpired.error := fun h => nomatch other' _ h
  have apart : Sentinel.invalidMetadata.error≠Sentinel.capsuleExpired.error := by decide +kernel
  cases incomplete <;> cases incomplete' <;> cases expired <;> cases expired' <;>
    simp [refusedFor,invalid.symm,invalid',past.symm,past',apart,apart.symm]

def mismatch (profile level : SovereigntyProfileLevel) : Option Error :=
  if level=profileAirGap ∧ profile≠profileAirGap then some (quoting profile level) else none

theorem mismatch_sentinel {profile level : SovereigntyProfileLevel} :
    ∀ err∈mismatch profile level,err.sentinel=.incompatibleProfile := by
  intro err mem
  unfold mismatch at mem
  split at mem
  · cases mem
    rfl
  · cases mem

theorem mismatch_toValid (profile level : SovereigntyProfileLevel) :
    mismatch (toValid profile) level=mismatch profile level ↔
      (level=profileAirGap → profile≠profileAirGap → valid profile) := by
  unfold mismatch
  by_cases looked : level=profileAirGap ∧ profile≠profileAirGap
  · have looked' : level=profileAirGap ∧ toValid profile≠profileAirGap :=
      ⟨looked.1,fun same => looked.2 ((toValid_airGap).mp same)⟩
    rw [if_pos looked,if_pos looked',Option.some.injEq,quoting_eq_iff,← Bytes.valid_iff]
    exact ⟨fun h _ _ => h,fun h => h looked.1 looked.2⟩
  · have looked' : ¬(level=profileAirGap ∧ toValid profile≠profileAirGap) := fun h =>
      looked ⟨h.1,fun same => h.2 ((toValid_airGap).mpr same)⟩
    rw [if_neg looked,if_neg looked']
    exact iff_of_true rfl fun air other => absurd ⟨air,other⟩ looked

theorem validateCapsuleMetadata_eq (level : SovereigntyProfileLevel)
    (now : Time) : validateCapsuleMetadata m level now=
      refusedFor (incomplete m) (expired m now) (mismatch m.targetProfile level) := rfl

theorem described_iff (level : SovereigntyProfileLevel) (now : Time) :
    validateCapsuleMetadata m level now=none ↔ Described m level now := by
  have aimed : mismatch m.targetProfile level=none ↔
      (level=profileAirGap → m.targetProfile=profileAirGap) := by
    simp [mismatch]
  have same : Described m level now ↔ incomplete m=false ∧ expired m now=false ∧
      mismatch m.targetProfile level=none :=
    ⟨fun h => ⟨h.complete,h.fresh,aimed.mpr h.aimed⟩,fun h => ⟨h.1,h.2.1,aimed.mp h.2.2⟩⟩
  rw [validateCapsuleMetadata_eq,refusedFor,same]
  cases incomplete m <;> cases expired m now <;> simp

theorem metadata_kept_iff {level : SovereigntyProfileLevel} {now : Time} :
    validateCapsuleMetadata (metadataCodec.carried m) level now=
      validateCapsuleMetadata m level now ↔ MetadataKept m level now := by
  rw [validateCapsuleMetadata_eq,validateCapsuleMetadata_eq,incomplete_carried,expired_carried,
    targetProfile_carried,refusedFor_eq_iff mismatch_sentinel mismatch_sentinel,mismatch_toValid]
  constructor
  · rintro ⟨complete,rest⟩
    exact ⟨complete,fun full => (rest full).1,fun full => (rest full).2⟩
  · rintro ⟨complete,fresh,quoted⟩
    exact ⟨complete,fun full => ⟨fresh full,quoted full⟩⟩

end

variable {arts : List CapsuleArtifact}

section

variable (hexSum : Bytes → Bytes)

def refusal (art : CapsuleArtifact) : Option DigestPinningStatus :=
  if !Bytes.hasPrefix art.digest (ascii "sha256:") || art.digest.length≠71 then some .unpinned
  else if art.payload≠[] ∧ hexSum art.payload≠art.digest.drop 7 then some .malformed
  else none

def refusalOnArrival (art : CapsuleArtifact) : Option DigestPinningStatus :=
  if !Bytes.hasPrefix art.digest (ascii "sha256:") ||
      art.digest.length+2*badBytes art.digest≠71 then
    some .unpinned
  else if art.payload≠[] ∧ hexSum (toValid art.payload)≠(toValid art.digest).drop 7 then
    some .malformed
  else none

def ArtifactsKept (arts : List CapsuleArtifact) : Prop :=
  arts.findSome? (fun art => (refusalOnArrival hexSum art).map fun r => (r,toValid art.name))=
    arts.findSome? fun art => (refusal hexSum art).map fun r => (r,art.name)

def faultError (status : DigestPinningStatus) (name : Bytes) : Error :=
  if status=.unpinned then Sentinel.unpinnedDigest.errorf (ascii "artifact "++name)
  else Sentinel.digestMismatch.errorf (ascii "payload digest mismatch for "++name)

theorem checkArtifact_eq (art : CapsuleArtifact) : checkArtifact hexSum art=
      (refusal hexSum art).map fun r => (r,faultError r art.name) := by
  unfold checkArtifact refusal
  split_ifs <;> rfl

theorem refusal_carried (art : CapsuleArtifact) :
    refusal hexSum (artifactCodec.carried art)=refusalOnArrival hexSum art := by
  have pinned := Bytes.hasPrefix_toValid (p := ascii "sha256:") (by decide +kernel) art.digest
  have length : (toValid art.digest).length=art.digest.length+2*badBytes art.digest :=
    Bytes.length_toValid art.digest
  rw [artifactCodec_carried,refusal,refusalOnArrival]
  simp [pinned,length,ne_eq,toValid_eq_nil]

theorem faultError_inj {a b : DigestPinningStatus×Bytes}
    (h : (a.1,faultError a.1 a.2)=(b.1,faultError b.1 b.2)) : a=b := by
  obtain ⟨_,_⟩ := a
  obtain ⟨_,_⟩ := b
  obtain ⟨rfl,same⟩ := Prod.mk.inj h
  unfold faultError at same
  split at same
  · simpa [Sentinel.errorf] using same
  · simpa [Sentinel.errorf] using same

theorem findSome_checkArtifact (arts : List CapsuleArtifact) :
    arts.findSome? (checkArtifact hexSum)=
      (arts.findSome? fun art => (refusal hexSum art).map fun r => (r,art.name)).map
        fun fault => (fault.1,faultError fault.1 fault.2) := by
  rw [List.map_findSome?]
  congr 1
  funext art
  rw [checkArtifact_eq,Function.comp,Option.map_map]
  rfl

theorem artifacts_kept_iff (arts : List CapsuleArtifact) :
    (arts.map artifactCodec.carried).findSome? (checkArtifact hexSum)=
      arts.findSome? (checkArtifact hexSum) ↔ ArtifactsKept hexSum arts := by
  have arrived : (fun art => (refusal hexSum art).map fun r => (r,art.name)) ∘
      artifactCodec.carried=
      fun art => (refusalOnArrival hexSum art).map fun r => (r,toValid art.name) := by
    funext art
    rw [Function.comp,refusal_carried]
    rfl
  rw [findSome_checkArtifact,findSome_checkArtifact,List.findSome?_map,arrived]
  exact (Option.map_injective fun a b => faultError_inj).eq_iff

theorem pinned_iff (arts : List CapsuleArtifact) : (validateCapsuleArtifacts hexSum arts).2.2=none ↔
      arts≠[] ∧ ∀ art∈arts,refusal hexSum art=none := by
  rw [validateCapsuleArtifacts_ok_iff]
  simp [checkArtifact_eq]

theorem digests_valid (kept : ArtifactsKept hexSum arts)
    (pass : ∀ art∈arts,refusal hexSum art=none) : ∀ art∈arts,valid art.digest=true := by
  intro art mem
  have arrives : refusalOnArrival hexSum art=none := by
    unfold ArtifactsKept at kept
    have none : (arts.findSome? fun a => (refusal hexSum a).map fun r => (r,a.name))=none :=
      List.findSome?_eq_none_iff.mpr fun a h => by rw [pass a h]; rfl
    rw [none] at kept
    simpa using List.findSome?_eq_none_iff.mp kept art mem
  have now := pass art mem
  have length : art.digest.length=71 := by
    by_contra other
    simp [refusal,other] at now
  have later : art.digest.length+2*badBytes art.digest=71 := by
    by_contra other
    simp [refusalOnArrival,other] at arrives
  exact (Bytes.valid_iff_badBytes).mpr (by omega)

end

section

theorem findSome_kept_iff {α β : Type} {f f' : α → Option β} {kept : α → Prop}
    (accepted : ∀ a,f a=none → f' a=none) (refused : ∀ a v,f a=some v → (f' a=some v ↔ kept a))
    (instead : ∀ a b v,f a=some v → f' b=some v → f' a=some v) {l : List α} :
    l.findSome? f'=l.findSome? f ↔ ∀ a,l.find? (fun a => (f a).isSome)=some a → kept a := by
  induction l with
  | nil => simp
  | cons a l ih =>
    cases found : f a with
    | none => simpa [found,accepted] using ih
    | some v =>
      have first : (a::l).findSome? f=some v := by simp [found]
      have refusing : (a::l).find? (fun a => (f a).isSome)=some a := by simp [found]
      have alike : (a::l).findSome? f'=some v ↔ f' a=some v := by
        constructor
        · intro h
          obtain ⟨b,_,later⟩ := List.exists_of_findSome?_eq_some h
          exact instead a b v found later
        · intro h
          simp [h]
      rw [first,refusing,alike,refused a v found]
      constructor
      · rintro h _ ⟨⟩
        exact h
      · exact fun h => h a rfl

variable {digests trusted : List Bytes}

def SignaturesKept (digests trusted : List Bytes) (sigs : List SignatureRecord) : Prop :=
  ∀ sig,sigs.find? (fun sig => (checkSignature digests trusted sig).isSome)=some sig →
    (sig.artifactDigest∉digests → valid sig.artifactDigest) ∧
    (sig.artifactDigest∈digests → valid sig.keyFingerprint ∧ sig.keyFingerprint∉trusted.map toValid)

def AttestationsKept (digests : List Bytes) (atts : List AttestationRecord) : Prop :=
  ∀ att,atts.find? (fun att => (checkAttestation digests att).isSome)=some att →
    valid att.subjectDigest

def WeightsKept (digests : List Bytes) (aibom : Option AIBOMRecord) (sbom : Option SBOMRecord) :
    Prop :=
  ∀ r∈aibom,sbom.isSome → r.weightsDigest∉digests → valid r.weightsDigest

def unknownDigest (s : Bytes) : Bytes := ascii "signature references unknown artifact digest: "++s

def untrustedKey (s : Bytes) : Bytes := ascii "signature key fingerprint "++s++ascii " untrusted"

@[simp] theorem unknownDigest_inj {t : Bytes} : unknownDigest s=unknownDigest t ↔ s=t := by
  simp [unknownDigest]

@[simp] theorem untrustedKey_inj {t : Bytes} : untrustedKey s=untrustedKey t ↔ s=t := by
  simp [untrustedKey]

theorem unknownDigest_ne (s t : Bytes) : unknownDigest s≠untrustedKey t := by
  intro same
  have tenth := congrArg (·[10]?) same
  rw [unknownDigest,untrustedKey] at tenth
  simp only [List.append_assoc] at tenth
  rw [List.getElem?_append_left (by decide +kernel),
    List.getElem?_append_left (by decide +kernel)] at tenth
  revert tenth
  decide +kernel

theorem checkSignature_none_iff {sig : SignatureRecord} : checkSignature digests trusted sig=none ↔
      sig.artifactDigest∈digests ∧ sig.keyFingerprint∈trusted := by
  unfold checkSignature
  split
  · simp_all
  · split <;> simp_all

variable {v : Bytes}

theorem checkSignature_some_iff {sig : SignatureRecord} :
    checkSignature digests trusted sig=some v ↔
      (sig.artifactDigest∉digests ∧ v=unknownDigest sig.artifactDigest) ∨
      (sig.artifactDigest∈digests ∧ sig.keyFingerprint∉trusted ∧
        v=untrustedKey sig.keyFingerprint) := by
  unfold checkSignature
  split
  · rename_i unknown
    simp [unknown,unknownDigest,eq_comm]
  · split
    · simp_all [untrustedKey,eq_comm]
    · simp_all

theorem checkSignature_carried_iff (sig : SignatureRecord) (v : Bytes) :
    checkSignature digests (trusted.map toValid) (signatureCodec.carried sig)=some v ↔
      (toValid sig.artifactDigest∉digests ∧ v=unknownDigest (toValid sig.artifactDigest)) ∨
      (toValid sig.artifactDigest∈digests ∧ toValid sig.keyFingerprint∉trusted.map toValid ∧
        v=untrustedKey (toValid sig.keyFingerprint)) :=
  checkSignature_some_iff

section

variable (known : ∀ d∈digests,valid d=true)
include known

variable {sig : SignatureRecord}

theorem checkSignature_passes (passed : checkSignature digests trusted sig=none) :
    checkSignature digests (trusted.map toValid) (signatureCodec.carried sig)=none := by
  obtain ⟨signed,trusting⟩ := (checkSignature_none_iff).mp passed
  refine (checkSignature_none_iff).mpr ⟨?_,List.mem_map_of_mem trusting⟩
  show toValid sig.artifactDigest∈digests
  rwa [(Bytes.valid_iff).mp (known _ signed)]

theorem checkSignature_refused_iff (refused : checkSignature digests trusted sig=some v) :
    checkSignature digests (trusted.map toValid) (signatureCodec.carried sig)=some v ↔
      (sig.artifactDigest∉digests → valid sig.artifactDigest) ∧
      (sig.artifactDigest∈digests →
        valid sig.keyFingerprint ∧ sig.keyFingerprint∉trusted.map toValid) := by
  rw [checkSignature_carried_iff,Bytes.valid_iff,Bytes.valid_iff]
  rcases (checkSignature_some_iff).mp refused with ⟨unknown,rfl⟩ | ⟨signed,_,rfl⟩
  · have other := unknownDigest_ne sig.artifactDigest (toValid sig.keyFingerprint)
    simp only [unknown,other,unknownDigest_inj,and_false,or_false,not_false_eq_true,forall_const,
      false_implies,and_true]
    constructor
    · exact fun h => h.2.symm
    · intro same
      rw [same]
      exact ⟨unknown,rfl⟩
  · have same : toValid sig.artifactDigest=sig.artifactDigest :=
      (Bytes.valid_iff).mp (known _ signed)
    simp only [same,signed,not_true_eq_false,false_and,false_or,untrustedKey_inj,true_and,
      false_implies,forall_const]
    constructor
    · rintro ⟨out,eq⟩
      rw [← eq] at out
      exact ⟨eq.symm,out⟩
    · rintro ⟨eq,out⟩
      rw [eq]
      exact ⟨out,rfl⟩

theorem checkSignature_instead {other : SignatureRecord}
    (refused : checkSignature digests trusted sig=some v)
    (later : checkSignature digests (trusted.map toValid) (signatureCodec.carried other)=some v) :
    checkSignature digests (trusted.map toValid) (signatureCodec.carried sig)=some v := by
  rw [checkSignature_refused_iff known refused]
  rw [checkSignature_carried_iff] at later
  rcases (checkSignature_some_iff).mp refused with ⟨unknown,rfl⟩ | ⟨signed,_,rfl⟩
  · rcases later with ⟨_,eq⟩ | ⟨_,_,eq⟩
    · rw [unknownDigest_inj] at eq
      refine ⟨fun _ => ?_,fun signed => absurd signed unknown⟩
      rw [Bytes.valid_iff,eq,Bytes.toValid_toValid]
    · exact absurd eq (unknownDigest_ne _ _)
  · rcases later with ⟨_,eq⟩ | ⟨_,out,eq⟩
    · exact absurd eq.symm (unknownDigest_ne _ _)
    · rw [untrustedKey_inj] at eq
      refine ⟨fun unknown => absurd signed unknown,fun _ => ⟨?_,eq ▸ out⟩⟩
      rw [Bytes.valid_iff,eq,Bytes.toValid_toValid]

theorem signatures_kept_iff (sigs : List SignatureRecord) :
    (sigs.map signatureCodec.carried).findSome? (checkSignature digests (trusted.map toValid))=
      sigs.findSome? (checkSignature digests trusted) ↔ SignaturesKept digests trusted sigs := by
  rw [List.findSome?_map]
  exact findSome_kept_iff (fun _ => checkSignature_passes known)
    (fun _ _ => checkSignature_refused_iff known)
    (fun _ _ _ => checkSignature_instead known)

end

def missingSubject (s : Bytes) : Bytes :=
  ascii "attestation subject "++s++ascii " not found in artifacts"

@[simp] theorem missingSubject_inj {t : Bytes} : missingSubject s=missingSubject t ↔ s=t := by
  simp [missingSubject]

variable {att : AttestationRecord}

theorem checkAttestation_some_iff : checkAttestation digests att=some v ↔
      att.subjectDigest∉digests ∧ v=missingSubject att.subjectDigest := by
  unfold checkAttestation
  split
  · rename_i unknown
    simp [unknown,missingSubject,eq_comm]
  · simp_all

theorem checkAttestation_none_iff :
    checkAttestation digests att=none ↔ att.subjectDigest∈digests := by
  simp [checkAttestation]

section

variable (known : ∀ d∈digests,valid d=true)
include known

theorem attestations_kept_iff (atts : List AttestationRecord) :
    (atts.map attestationCodec.carried).findSome? (checkAttestation digests)=
      atts.findSome? (checkAttestation digests) ↔ AttestationsKept digests atts := by
  have refused att v (h : checkAttestation digests att=some v) :
      checkAttestation digests (attestationCodec.carried att)=some v ↔ valid att.subjectDigest := by
    obtain ⟨unknown,rfl⟩ := (checkAttestation_some_iff).mp h
    rw [checkAttestation_some_iff,missingSubject_inj,Bytes.valid_iff]
    show toValid att.subjectDigest∉digests ∧ att.subjectDigest=toValid att.subjectDigest ↔ _
    constructor
    · exact fun h => h.2.symm
    · intro same
      rw [same]
      exact ⟨unknown,rfl⟩
  rw [List.findSome?_map]
  refine findSome_kept_iff ?_ refused ?_
  · intro att passed
    rw [checkAttestation_none_iff] at passed
    refine (checkAttestation_none_iff).mpr ?_
    show toValid att.subjectDigest∈digests
    rwa [(Bytes.valid_iff).mp (known _ passed)]
  · intro att other v h later
    refine (refused att v h).mpr ((Bytes.valid_iff).mpr ?_)
    obtain ⟨_,rfl⟩ := (checkAttestation_some_iff).mp h
    have eq := missingSubject_inj.mp ((checkAttestation_some_iff).mp later).2
    rw [eq]
    exact Bytes.toValid_toValid

theorem weights_kept_iff (aibom : Option AIBOMRecord) (sbom : Option SBOMRecord) (required : Bool) :
    checkBOMs (aibom.map aibomCodec.carried) (sbom.map sbomCodec.carried) digests required=
      checkBOMs aibom sbom digests required ↔ WeightsKept digests aibom sbom := by
  cases aibom with
  | none => cases sbom <;> exact iff_of_true rfl fun _ mem => nomatch mem
  | some r =>
    cases sbom with
    | none => exact iff_of_true rfl fun _ _ present => nomatch present
    | some _ =>
      simp only [checkBOMs,Option.map_some,aibomCodec_carried,WeightsKept,Bytes.valid_iff]
      by_cases listed : r.weightsDigest∈digests
      · have same : toValid r.weightsDigest=r.weightsDigest := (Bytes.valid_iff).mp (known _ listed)
        simp [same]
      · by_cases arrived : toValid r.weightsDigest∈digests
        · have changed : toValid r.weightsDigest≠r.weightsDigest := fun same =>
            listed (same ▸ arrived)
          simp [arrived,changed]
        · simp [listed,arrived]

end

theorem checkSignatures_length (sigs : List SignatureRecord) (digests trusted : List Bytes)
    (required : Bool) : (checkSignatures sigs digests trusted required).1.length=
      match (checkSignatures sigs digests trusted required).2 with
      | .missing => if required then 1 else 0
      | .untrusted => 1
      | _ => 0 := by
  unfold checkSignatures
  split
  · cases required <;> rfl
  · cases sigs.findSome? (checkSignature digests trusted) <;> rfl

theorem checkAttestations_length (atts : List AttestationRecord) (digests : List Bytes)
    (required : Bool) : (checkAttestations atts digests required).1.length=
      match (checkAttestations atts digests required).2 with
      | .missing => if required then 1 else 0
      | .invalid => 1
      | _ => 0 := by
  unfold checkAttestations
  split
  · cases required <;> rfl
  · cases atts.findSome? (checkAttestation digests) <;> rfl

theorem checkSignatures_eq_iff (carried : SignatureRecord → SignatureRecord)
    (sigs : List SignatureRecord) (digests trusted trusted' : List Bytes) (required : Bool) :
    checkSignatures (sigs.map carried) digests trusted' required=
      checkSignatures sigs digests trusted required ↔
    (sigs.map carried).findSome? (checkSignature digests trusted')=
      sigs.findSome? (checkSignature digests trusted) := by
  cases sigs with
  | nil => exact iff_of_true rfl rfl
  | cons sig sigs =>
    simp only [checkSignatures,List.map_cons,reduceCtorEq]
    rw [← List.map_cons]
    cases ((sig::sigs).map carried).findSome? (checkSignature digests trusted') <;>
      cases (sig::sigs).findSome? (checkSignature digests trusted) <;> simp

theorem checkAttestations_eq_iff (carried : AttestationRecord → AttestationRecord)
    (atts : List AttestationRecord) (digests : List Bytes) (required : Bool) :
    checkAttestations (atts.map carried) digests required=checkAttestations atts digests required ↔
    (atts.map carried).findSome? (checkAttestation digests)=
      atts.findSome? (checkAttestation digests) := by
  cases atts with
  | nil => exact iff_of_true rfl rfl
  | cons att atts =>
    simp only [checkAttestations,List.map_cons,reduceCtorEq]
    rw [← List.map_cons]
    cases ((att::atts).map carried).findSome? (checkAttestation digests) <;>
      cases (att::atts).findSome? (checkAttestation digests) <;> simp

end

structure EvidenceKept (c : TransferCapsule) : Prop where
  signatures : SignaturesKept (c.artifacts.map (·.digest)) c.policies.trustedKeyFingerprints
    c.evidence.signatures
  attestations : AttestationsKept (c.artifacts.map (·.digest)) c.evidence.attestations
  weights : WeightsKept (c.artifacts.map (·.digest)) c.evidence.aibom c.evidence.sbom

section

variable {hexSum : Bytes → Bytes} {c c' : TransferCapsule} {level : SovereigntyProfileLevel}
  {now : Time} {req : ProfileRequirements}

theorem judged_eq_iff (policies : validateCapsulePolicies c'.policies req=
      validateCapsulePolicies c.policies req) :
    judged c' level req=judged c level req ↔
      checkSignatures c'.evidence.signatures (c'.artifacts.map (·.digest))
          c'.policies.trustedKeyFingerprints req.requireSignatures=
        checkSignatures c.evidence.signatures (c.artifacts.map (·.digest))
          c.policies.trustedKeyFingerprints req.requireSignatures ∧
      checkAttestations c'.evidence.attestations (c'.artifacts.map (·.digest))
          req.requireAttestation=
        checkAttestations c.evidence.attestations (c.artifacts.map (·.digest))
          req.requireAttestation ∧
      checkBOMs c'.evidence.aibom c'.evidence.sbom (c'.artifacts.map (·.digest)) req.requireBOM=
        checkBOMs c.evidence.aibom c.evidence.sbom (c.artifacts.map (·.digest))
          req.requireBOM := by
  constructor
  · intro same
    have signed := congrArg SovereigntyVector.signatureIntegrity same
    have attested := congrArg SovereigntyVector.attestationIntegrity same
    have listed := congrArg SovereigntyVector.bomIntegrity same
    have violations := congrArg SovereigntyVector.violations same
    simp only [judged,validateCapsuleEvidence] at signed attested listed
    simp only [judged,validateCapsuleEvidence,List.append_assoc] at violations
    have lengthS := checkSignatures_length c'.evidence.signatures (c'.artifacts.map (·.digest))
      c'.policies.trustedKeyFingerprints req.requireSignatures
    have lengthA := checkAttestations_length c'.evidence.attestations (c'.artifacts.map (·.digest))
      req.requireAttestation
    rw [signed,← checkSignatures_length] at lengthS
    rw [attested,← checkAttestations_length] at lengthA
    obtain ⟨sigs,rest⟩ := List.append_inj violations lengthS
    obtain ⟨atts,boms⟩ := List.append_inj rest lengthA
    exact ⟨Prod.ext sigs signed,Prod.ext atts attested,Prod.ext boms listed⟩
  · rintro ⟨sigs,atts,boms⟩
    have found : validateCapsuleEvidence c'.evidence c'.artifacts
          c'.policies.trustedKeyFingerprints req=
        validateCapsuleEvidence c.evidence c.artifacts c.policies.trustedKeyFingerprints req := by
      simp [validateCapsuleEvidence,sigs,atts,boms]
    rw [judged,judged,found,policies]

theorem policies_carried {c : TransferCapsule} {req : ProfileRequirements} :
    validateCapsulePolicies c.carried.policies req=validateCapsulePolicies c.policies req := rfl

theorem evidence_kept_iff (named : ∀ art∈c.artifacts,valid art.digest=true) :
    judged c.carried level req=judged c level req ↔ EvidenceKept c := by
  have known : ∀ d∈c.artifacts.map (·.digest),valid d=true := by
    intro d mem
    obtain ⟨art,here,rfl⟩ := List.mem_map.mp mem
    exact named art here
  have digests : c.carried.artifacts.map (·.digest)=c.artifacts.map (·.digest) := by
    show (c.artifacts.map artifactCodec.carried).map (·.digest)=_
    rw [List.map_map]
    exact List.map_congr_left fun art mem => (Bytes.valid_iff).mp (named art mem)
  have evidence : c.carried.evidence=evidenceCodec.carried c.evidence := rfl
  have trusted : c.carried.policies.trustedKeyFingerprints=
      c.policies.trustedKeyFingerprints.map toValid := rfl
  rw [judged_eq_iff (policies_carried),digests,evidence,evidenceCodec_carried,trusted]
  rw [checkSignatures_eq_iff,checkAttestations_eq_iff,signatures_kept_iff known,
    attestations_kept_iff known,weights_kept_iff known]
  exact ⟨fun h => ⟨h.1,h.2.1,h.2.2⟩,fun h => ⟨h.signatures,h.attestations,h.weights⟩⟩

theorem validateCapsuleArtifacts_set {hexSum : Bytes → Bytes} :
    (validateCapsuleArtifacts hexSum arts).2.1≠.unset := by
  unfold validateCapsuleArtifacts
  split
  · simp
  · split
    · rename_i status err found
      obtain ⟨_,_,fault⟩ := List.exists_of_findSome?_eq_some found
      unfold checkArtifact at fault
      split_ifs at fault
      · cases fault
        simp
      · cases fault
        simp
    · simp

theorem validateCapsulePolicies_set {pol : CapsulePolicies} {req : ProfileRequirements} :
    (validateCapsulePolicies pol req).2.1≠.unset := by
  unfold validateCapsulePolicies
  split_ifs <;> simp

theorem verdict_eq_iff {described described' : Option Error}
    {pinned pinned' : DigestPinningStatus×Option Error} {confined : NetworkPosture×Option Error}
    {vector vector' : SovereigntyVector} (set : pinned.1≠.unset) (set' : pinned'.1≠.unset)
    (network : confined.1≠.unset) (fine : pinned.2=none → pinned.1=.pinned)
    (fine' : pinned'.2=none → pinned'.1=.pinned) :
    verdict described' pinned' confined vector'=verdict described pinned confined vector ↔
      described'=described ∧ (described=none → pinned'=pinned ∧
        (pinned.2=none → confined.2=none → vector'=vector)) := by
  have same (err err' : Error) : err'.sentinel=err.sentinel ∧ err'.text=err.text ↔ err'=err := by
    cases err
    cases err'
    simp
  obtain ⟨_,fault⟩ := pinned
  obtain ⟨_,fault'⟩ := pinned'
  obtain ⟨_,rule⟩ := confined
  cases described <;> cases described' <;> cases fault <;> cases fault' <;> cases rule <;>
    simp_all [verdict,ne_comm]

theorem validateCapsule_eq_iff (known : getProfileRequirements level=.ok req)
    (policies : validateCapsulePolicies c'.policies req=validateCapsulePolicies c.policies req) :
    validateCapsule hexSum (some c') level now=validateCapsule hexSum (some c) level now ↔
      validateCapsuleMetadata c'.metadata level now=validateCapsuleMetadata c.metadata level now ∧
      (validateCapsuleMetadata c.metadata level now=none →
        (validateCapsuleArtifacts hexSum c'.artifacts).2=
          (validateCapsuleArtifacts hexSum c.artifacts).2 ∧
        ((validateCapsuleArtifacts hexSum c.artifacts).2.2=none →
          (validateCapsulePolicies c.policies req).2.2=none →
            judged c' level req=judged c level req)) := by
  have fine arts (none : (validateCapsuleArtifacts hexSum arts).2.2=none) :
      (validateCapsuleArtifacts hexSum arts).2.1=.pinned := by
    rw [validateCapsuleArtifacts_ok hexSum none]
  rw [validateCapsule_eq known,validateCapsule_eq known,policies]
  exact verdict_eq_iff (validateCapsuleArtifacts_set) (validateCapsuleArtifacts_set)
    (validateCapsulePolicies_set) (fine _) (fine _)

end

theorem validateCapsuleArtifacts_carried {hexSum : Bytes → Bytes} :
    (validateCapsuleArtifacts hexSum (arts.map artifactCodec.carried)).2=
      (validateCapsuleArtifacts hexSum arts).2 ↔ ArtifactsKept hexSum arts := by
  rw [← artifacts_kept_iff]
  cases arts with
  | nil => exact iff_of_true rfl rfl
  | cons art arts =>
    simp only [validateCapsuleArtifacts,List.map_cons,reduceCtorEq]
    rw [← List.map_cons]
    cases ((art::arts).map artifactCodec.carried).findSome? (checkArtifact hexSum) <;>
      cases (art::arts).findSome? (checkArtifact hexSum) <;> simp [Prod.ext_iff]

structure Unaltered (hexSum : Bytes → Bytes) (c : TransferCapsule)
    (level : SovereigntyProfileLevel) (now : Time) (req : ProfileRequirements) : Prop where
  metadata : MetadataKept c.metadata level now
  artifacts : Described c.metadata level now → ArtifactsKept hexSum c.artifacts
  evidence : Described c.metadata level now → c.artifacts≠[] →
    (∀ art∈c.artifacts,refusal hexSum art=none) →
    (req.zeroPhoneHome → c.policies.zeroPhoneHomeRequired) → EvidenceKept c

theorem unaltered_iff {hexSum : Bytes → Bytes} {c : TransferCapsule}
    {level : SovereigntyProfileLevel} {now : Time} {req : ProfileRequirements}
    (known : getProfileRequirements level=.ok req) :
    validateCapsule hexSum (some c.carried) level now=validateCapsule hexSum (some c) level now ↔
      Unaltered hexSum c level now req := by
  have metadata : validateCapsuleMetadata c.carried.metadata level now=
      validateCapsuleMetadata c.metadata level now ↔ MetadataKept c.metadata level now :=
    metadata_kept_iff c.metadata
  have artifacts : (validateCapsuleArtifacts hexSum c.carried.artifacts).2=
      (validateCapsuleArtifacts hexSum c.artifacts).2 ↔ ArtifactsKept hexSum c.artifacts :=
    validateCapsuleArtifacts_carried
  have evidence kept pass : judged c.carried level req=judged c level req ↔ EvidenceKept c :=
    evidence_kept_iff (digests_valid hexSum kept pass)
  rw [validateCapsule_eq_iff known (policies_carried),metadata,artifacts,described_iff,
    pinned_iff,validateCapsulePolicies_ok_iff]
  constructor
  · rintro ⟨kept,later⟩
    refine ⟨kept,fun described => (later described).1,fun described filled pass confined => ?_⟩
    exact (evidence (later described).1 pass).mp ((later described).2 ⟨filled,pass⟩ confined)
  · rintro ⟨kept,named,quoted⟩
    refine ⟨kept,fun described => ⟨named described,fun pinned confined => ?_⟩⟩
    exact (evidence (named described) pinned.2).mpr (quoted described pinned.1 pinned.2 confined)

theorem transfer_keeps_verdict_iff (hexSum : Bytes → Bytes) (c : TransferCapsule)
    (level : SovereigntyProfileLevel) (now : Time) {data : Bytes}
    (exported : exportCapsule (some c)=.ok data) :
    (∃ c',importCapsule data=.ok c' ∧
      validateCapsule hexSum (some c') level now=validateCapsule hexSum (some c) level now) ↔
    ∀ req,getProfileRequirements level=.ok req → Unaltered hexSum c level now req := by
  have imported := importCapsule_exportCapsule exported
  constructor
  · rintro ⟨_,arrived,same⟩ _ known
    rw [imported] at arrived
    cases arrived
    exact (unaltered_iff known).mp same
  · intro unaltered
    refine ⟨c.carried,imported,?_⟩
    cases known : getProfileRequirements level with
    | error err => rw [validateCapsule_unknown known,validateCapsule_unknown known]
    | ok req => exact (unaltered_iff known).mpr (unaltered req known)

def sampleSum (payload : Bytes) : Bytes :=
  if payload=[255] then ascii "a8100ae6aa1940d0b663bb31cd466142ebbdbd5187131b92d93818987832eb89"
  else ascii "83d544ccc223c057d2bf80d3f2a32982c32c3c0db8e2674820da5064783fb097"

def sampleCapsule (payload : Bytes) : TransferCapsule where
  apiVersion := ascii "airgap.ckodex.com/v1"
  kind := ascii "TransferCapsule"
  metadata := {
    id := ascii "cap-1"
    sourceEnvironment := []
    classification := []
    createdAt := ⟨1,0⟩
    expiresAt := ⟨10,0⟩
    targetProfile := profileAirGap
    annotations := ∅}
  artifacts := [⟨ascii "weights",[],ascii "sha256:"++sampleSum payload,payload,1⟩]
  evidence := {
    signatures := [⟨ascii "sha256:"++sampleSum payload,[],ascii "key",[],⟨1,0⟩⟩]
    attestations := [⟨[],ascii "sha256:"++sampleSum payload,[],[]⟩]
    aibom := some ⟨[],[],[],[],ascii "sha256:"++sampleSum payload,[],∅⟩
    sbom := some ⟨[],[],[]⟩}
  policies := ⟨[],[ascii "key"],[],true,[]⟩

theorem exists_of_isOk {c : TransferCapsule} (fine : (exportCapsule (some c)).isOk=true) :
    ∃ data,exportCapsule (some c)=.ok data := by
  cases written : exportCapsule (some c) with
  | error err =>
    rw [written] at fine
    cases fine
  | ok data => exact ⟨data,rfl⟩

theorem text_payload_kept : ∃ data,exportCapsule (some (sampleCapsule [239,191,189]))=.ok data ∧
      ∃ c',importCapsule data=.ok c' ∧ validateCapsule sampleSum (some c') profileAirGap 5=
          validateCapsule sampleSum (some (sampleCapsule [239,191,189])) profileAirGap 5 := by
  obtain ⟨data,exported⟩ := exists_of_isOk (c := sampleCapsule [239,191,189]) (by decide +kernel)
  refine ⟨data,exported,(transfer_keeps_verdict_iff sampleSum _ profileAirGap 5 exported).mpr ?_⟩
  intro req known
  exact (unaltered_iff known).mp (by decide +kernel)

theorem raw_payload_spoiled :
    validateCapsule sampleSum (some (sampleCapsule [255])) profileAirGap 5=
      (judged (sampleCapsule [255]) profileAirGap (requirementsOf profileAirGap),none) ∧
    (judged (sampleCapsule [255]) profileAirGap (requirementsOf profileAirGap)).state=.compliant ∧
    ∃ data c',exportCapsule (some (sampleCapsule [255]))=.ok data ∧ importCapsule data=.ok c' ∧
      validateCapsule sampleSum (some c') profileAirGap 5=
        ({digestPinning := .malformed, state := .nonCompliant},some (Sentinel.digestMismatch.errorf
            (ascii "payload digest mismatch for weights"))) := by
  refine ⟨by decide +kernel,by decide +kernel,?_⟩
  obtain ⟨data,exported⟩ := exists_of_isOk (c := sampleCapsule [255]) (by decide +kernel)
  exact ⟨data,_,exported,importCapsule_exportCapsule exported,by decide +kernel⟩

end KServeLLM.Airgap
