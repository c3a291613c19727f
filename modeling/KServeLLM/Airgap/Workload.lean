import KServeLLM.Airgap.Profile

namespace KServeLLM.Airgap

open Bytes (ascii)

def HexPinned (uri : Bytes) : Prop :=
  ∃ name digest,uri=name++pinMark++digest ∧ digest.length=64 ∧ digest.all Bytes.isHex

def LooksPinned (uri : Bytes) : Prop :=
  ∃ name digest,Bytes.split pinMark uri=[name,digest] ∧ digest.length=64

def endsInHex (uri : Bytes) : Bool := (uri.drop (uri.length-64)).all Bytes.isHex

theorem cut_of_looksPinned {uri : Bytes} (looks : LooksPinned uri) :
    (Bytes.cut pinMark uri).isNone=false := by
  obtain ⟨_,_,parts,_⟩ := looks
  unfold Bytes.split at parts
  cases size : uri.length with
  | zero => simp [size,Bytes.splitFrom] at parts
  | succ n =>
    rw [size,Bytes.splitFrom] at parts
    cases found : Bytes.cut pinMark uri with
    | none => simp [found] at parts
    | some _ => rfl

theorem evalDigestPinning_pinned (uris : List Bytes) :
    evalDigestPinning uris=.pinned ↔ ∀ u∈uris,u≠[] → LooksPinned u := by
  induction uris with
  | nil => simp [evalDigestPinning]
  | cons u uris ih =>
    rw [evalDigestPinning,List.forall_mem_cons]
    by_cases empty : u=[]
    · rw [if_pos empty,ih]
      simp [empty]
    · rw [if_neg empty]
      split
      · rename_i absent
        refine iff_of_false (by simp) (fun looks => ?_)
        rw [cut_of_looksPinned (looks.1 empty)] at absent
        cases absent
      · split
        · rename_i name digest parts
          have looks : LooksPinned u ↔ digest.length=64 := by
            constructor
            · rintro ⟨_,_,same,size⟩
              rw [parts] at same
              cases same
              exact size
            · exact fun size => ⟨name,digest,parts,size⟩
          by_cases size : digest.length=64
          · simp [size,looks,ih]
          · simp [size,looks,empty]
        · rename_i parts
          refine iff_of_false (by simp) (fun looks => ?_)
          obtain ⟨front,back,same,_⟩ := looks.1 empty
          exact parts front back same

theorem hexPinned_iff {uri : Bytes} (looks : LooksPinned uri) : HexPinned uri ↔ endsInHex uri := by
  obtain ⟨name,digest,parts,long⟩ := looks
  have whole := Bytes.split_pair parts
  have last : uri.drop (uri.length-64)=digest := by
    rw [whole,List.length_append,← long,Nat.add_sub_cancel,List.drop_left]
  rw [endsInHex,last]
  constructor
  · rintro ⟨_,back,same,size,hex⟩
    have tail : back=digest := List.append_inj_right' (same.symm.trans whole) (size.trans long.symm)
    exact tail ▸ hex
  · exact fun hex => ⟨name,digest,whole,long,hex⟩

structure Cleared (req : ProfileRequirements) (target : WorkloadTarget) : Prop where
  pinned : req.requireDigestPinning → ∀ uri∈[target.imageURI,target.modelURI],
    uri≠[] → LooksPinned uri
  signed : req.requireSignatures → target.hasSignature
  attested : req.requireAttestation → target.hasAttestation
  itemised : req.requireBOM → target.hasSBOM ∧ target.hasAIBOM
  identified : req.requireSPIFFE → Bytes.hasPrefix target.spiffeIdentity (ascii "spiffe://")
  confined : req.zeroPhoneHome → target.egressTarget=[]

structure Meets (level : SovereigntyProfileLevel) (target : WorkloadTarget) : Prop where
  known : (getProfileRequirements level).isOk
  pinned : (requirementsOf level).requireDigestPinning →
    ∀ uri∈[target.imageURI,target.modelURI],uri≠[] → HexPinned uri
  signed : (requirementsOf level).requireSignatures → target.hasSignature
  attested : (requirementsOf level).requireAttestation → target.hasAttestation
  itemised : (requirementsOf level).requireBOM → target.hasSBOM ∧ target.hasAIBOM
  identified : (requirementsOf level).requireSPIFFE →
    Bytes.hasPrefix target.spiffeIdentity (ascii "spiffe://")
  seeded : (requirementsOf level).requireLocalSecrets →
    evalSecretStoreStatus target.secretStoreType=.localSeeded
  confined : (requirementsOf level).zeroPhoneHome → target.egressTarget=[]

theorem violation_nil (b : Bool) (text : Bytes) : (if b then [text] else [])=[] ↔ b=false := by
  cases b <;> simp

theorem evalBOMStatus_complete (hasSBOM hasAIBOM : Bool) :
    evalBOMStatus hasSBOM hasAIBOM=.complete ↔ hasSBOM=true ∧ hasAIBOM=true := by
  cases hasSBOM <;> cases hasAIBOM <;> decide

theorem compliant_iff (level : SovereigntyProfileLevel) (target : WorkloadTarget) :
    (validateWorkload level target).state=.compliant ↔ Cleared (requirementsOf level) target := by
  have checks : (validateWorkload level target).state=.compliant ↔
      workloadViolations (validateWorkload level target) (requirementsOf level) target=[] := by
    unfold validateWorkload enforceWorkloadRequirements
    dsimp only
    split
    · rename_i none
      exact iff_of_true rfl none
    · rename_i some
      exact iff_of_false (by simp) some
  rw [checks]
  simp only [workloadViolations,List.append_eq_nil_iff,violation_nil,Bool.and_eq_false_imp,
    decide_eq_false_iff_not,not_not,and_assoc]
  have signature : evalSigStatus target.hasSignature=.verified ↔ target.hasSignature=true := by
    cases target.hasSignature <;> decide
  have attestation : evalAttestStatus target.hasAttestation=.verified ↔
      target.hasAttestation=true := by
    cases target.hasAttestation <;> decide
  have identity : evalIdentityStatus target.spiffeIdentity=.enforced ↔
      Bytes.hasPrefix target.spiffeIdentity (ascii "spiffe://")=true := by
    unfold evalIdentityStatus
    split <;> simp [*]
  have itemised := evalBOMStatus_complete target.hasSBOM target.hasAIBOM
  have pinned := evalDigestPinning_pinned [target.imageURI,target.modelURI]
  constructor
  · rintro ⟨pin,sig,att,bom,id,egress⟩
    exact ⟨fun r => pinned.mp (pin r),fun r => signature.mp (sig r),fun r => attestation.mp (att r),
      fun r => itemised.mp (bom r),fun r => identity.mp (id r),egress⟩
  · rintro ⟨pin,sig,att,bom,id,egress⟩
    exact ⟨fun r => pinned.mpr (pin r),fun r => signature.mpr (sig r),
      fun r => attestation.mpr (att r),fun r => itemised.mpr (bom r),fun r => identity.mpr (id r),
      egress⟩

theorem compliant_meets_iff (level : SovereigntyProfileLevel) (target : WorkloadTarget) :
    ((validateWorkload level target).state=.compliant → Meets level target) ↔
      (Cleared (requirementsOf level) target → (getProfileRequirements level).isOk ∧
        ((requirementsOf level).requireLocalSecrets →
          evalSecretStoreStatus target.secretStoreType=.localSeeded) ∧
        ((requirementsOf level).requireDigestPinning →
          ∀ uri∈[target.imageURI,target.modelURI],uri≠[] → endsInHex uri)) := by
  rw [compliant_iff]
  refine forall_congr' fun cleared => ⟨fun meets => ?_,?_⟩
  · refine ⟨meets.known,meets.seeded,fun required uri mem given => ?_⟩
    exact (hexPinned_iff (cleared.pinned required uri mem given)).mp
      (meets.pinned required uri mem given)
  · rintro ⟨known,seeded,hex⟩
    refine ⟨known,fun required uri mem given => ?_,cleared.signed,cleared.attested,
      cleared.itemised,cleared.identified,seeded,cleared.confined⟩
    exact (hexPinned_iff (cleared.pinned required uri mem given)).mpr (hex required uri mem given)

def slackTarget : WorkloadTarget where
  name := ascii "svc"
  imageURI := ascii "local.registry/vllm@sha256:"++List.replicate 64 122
  spiffeIdentity := ascii "spiffe://cluster.local/ns/default/sa/runner"
  secretStoreType := ascii "kms"
  hasSBOM := true
  hasAIBOM := true
  hasAttestation := true
  hasSignature := true

theorem slack_target_compliant : ((validateWorkload profileAirGap slackTarget).state=.compliant ∧
      evalSecretStoreStatus slackTarget.secretStoreType=.remoteKMS ∧
      endsInHex slackTarget.imageURI=false ∧ ¬Meets profileAirGap slackTarget) ∧
    (validateWorkload (ascii "Air-Gap") {}).state=.compliant ∧ ¬Meets (ascii "Air-Gap") {} := by
  refine ⟨⟨by decide +kernel,by decide +kernel,by decide +kernel,fun meets => ?_⟩,
    by decide +kernel,fun meets => ?_⟩
  · exact absurd (meets.seeded (by decide +kernel)) (by decide +kernel)
  · exact absurd meets.known (by decide +kernel)

end KServeLLM.Airgap
