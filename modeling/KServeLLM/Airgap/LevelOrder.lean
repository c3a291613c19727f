import KServeLLM.Airgap.Coverage
import KServeLLM.Airgap.Workload

namespace KServeLLM.Airgap

def levels : List SovereigntyProfileLevel :=
  [profileConnected,profileEnterprise,profileRestricted,profileDisconnected,profileAirGap]

def NoStricter (milder stricter : SovereigntyProfileLevel) : Prop :=
  ∃i j : Nat,i ≤ j ∧ levels[i]?=some milder ∧ levels[j]?=some stricter

def Weaker (req req' : ProfileRequirements) : Prop :=
  (req.requireDigestPinning → req'.requireDigestPinning) ∧
  (req.requireSignatures → req'.requireSignatures) ∧
  (req.requireAttestation → req'.requireAttestation) ∧
  (req.requireBOM → req'.requireBOM) ∧
  (req.requireSPIFFE → req'.requireSPIFFE) ∧
  (req.zeroPhoneHome → req'.zeroPhoneHome)

instance (req req' : ProfileRequirements) : Decidable (Weaker req req') :=
  inferInstanceAs (Decidable (_ ∧ _))

section

variable {milder stricter : SovereigntyProfileLevel}

theorem levels_known : ∀level∈levels,(getProfileRequirements level).isOk := by decide +kernel

theorem levels_ordered : levels.Pairwise fun milder stricter =>
    Weaker (requirementsOf milder) (requirementsOf stricter) ∧ milder≠profileAirGap := by
  decide +kernel

theorem NoStricter.weaker (order : NoStricter milder stricter) :
    Weaker (requirementsOf milder) (requirementsOf stricter) ∧
      (milder=profileAirGap → stricter=profileAirGap) := by
  obtain ⟨i,j,le,first,second⟩ := order
  rcases le.eq_or_lt with rfl | less
  · obtain rfl := Option.some.inj (first.symm.trans second)
    exact ⟨⟨id,id,id,id,id,id⟩,id⟩
  · obtain ⟨hi,rfl⟩ := List.getElem?_eq_some_iff.mp first
    obtain ⟨hj,rfl⟩ := List.getElem?_eq_some_iff.mp second
    obtain ⟨weaker,other⟩ := List.pairwise_iff_getElem.mp levels_ordered i j hi hj less
    exact ⟨weaker,fun same => absurd same other⟩

theorem NoStricter.known (order : NoStricter milder stricter) :
    (getProfileRequirements milder).isOk := by
  obtain ⟨i,_,_,first,_⟩ := order
  exact levels_known milder (List.mem_of_getElem? first)

variable {req req' : ProfileRequirements} {target : WorkloadTarget}

theorem Cleared.mono (weaker : Weaker req req') (h : Cleared req' target) : Cleared req target := by
  obtain ⟨pinned,signed,attested,itemised,identified,confined⟩ := weaker
  exact ⟨h.pinned∘pinned,h.signed∘signed,h.attested∘attested,h.itemised∘itemised,
    h.identified∘identified,h.confined∘confined⟩

theorem violation_sublist {b b' : Bool} {bad : Bool} {text : Bytes} (weaker : b → b') :
    (if b && bad then [text] else []).Sublist (if b' && bad then [text] else []) := by
  cases b
  · exact List.nil_sublist _
  · rw [weaker rfl]

theorem workloadViolations_sublist {vec : SovereigntyVector} (weaker : Weaker req req') :
    (workloadViolations vec req target).Sublist (workloadViolations vec req' target) := by
  obtain ⟨pinned,signed,attested,itemised,identified,confined⟩ := weaker
  refine List.Sublist.append (.append (.append (.append (.append ?_ ?_) ?_) ?_) ?_) ?_
  · exact violation_sublist pinned
  · exact violation_sublist signed
  · exact violation_sublist attested
  · exact violation_sublist itemised
  · exact violation_sublist identified
  · exact violation_sublist confined

theorem quiet_mono {required required' : Bool} (weaker : required → required')
    {f : Bool → List Bytes} (eased : f true=[] → f false=[]) (h : f required'=[]) :
    f required=[] := by
  cases required
  · cases required'
    · exact h
    · exact eased h
  · rwa [weaker rfl] at h

variable {digests : List Bytes}

theorem checkSignatures_eased {sigs : List SignatureRecord} {keys : List Bytes}
    (h : (checkSignatures sigs digests keys true).1=[]) :
    (checkSignatures sigs digests keys false).1=[] := by
  by_cases empty : sigs=[] <;> simp_all [checkSignatures]

theorem checkAttestations_eased {attests : List AttestationRecord}
    (h : (checkAttestations attests digests true).1=[]) :
    (checkAttestations attests digests false).1=[] := by
  by_cases empty : attests=[] <;> simp_all [checkAttestations]

theorem checkBOMs_eased {aibom : Option AIBOMRecord} {sbom : Option SBOMRecord}
    (h : (checkBOMs aibom sbom digests true).1=[]) :
    (checkBOMs aibom sbom digests false).1=[] := by
  cases aibom <;> cases sbom <;> simp_all [checkBOMs]

variable {now : Time}

theorem described_mono {m : CapsuleMetadata} (same : milder=profileAirGap → stricter=profileAirGap)
    (h : validateCapsuleMetadata m stricter now=none) :
    validateCapsuleMetadata m milder now=none := by
  unfold validateCapsuleMetadata at h ⊢
  split_ifs at h with invalid expired foreign
  rw [if_neg invalid,if_neg expired,if_neg fun both => foreign ⟨same both.1,both.2⟩]

theorem Admissible.mono (hexSum : Bytes → Bytes) {capsule : TransferCapsule}
    (order : NoStricter milder stricter) (h : Admissible hexSum capsule stricter now) :
    Admissible hexSum capsule milder now := by
  obtain ⟨⟨_,signed,attested,itemised,_,confined⟩,same⟩ := order.weaker
  refine ⟨order.known,described_mono same h.described,h.filled,h.pinned,?_,?_,?_,
    h.confined∘confined⟩
  · exact quiet_mono (f := fun r => (checkSignatures _ _ _ r).1) signed checkSignatures_eased
      h.signatures
  · exact quiet_mono (f := fun r => (checkAttestations _ _ r).1) attested checkAttestations_eased
      h.attestations
  · exact quiet_mono (f := fun r => (checkBOMs _ _ _ r).1) itemised checkBOMs_eased h.boms

end

theorem levels_monotone (hexSum : Bytes → Bytes) (milder stricter : SovereigntyProfileLevel)
    (order : NoStricter milder stricter) (target : WorkloadTarget) (capsule : TransferCapsule)
    (now : Time) :
    ((validateWorkload stricter target).state=.compliant →
      (validateWorkload milder target).state=.compliant) ∧
    (validateWorkload milder target).violations⊆(validateWorkload stricter target).violations ∧
    (Accepted hexSum capsule stricter now → Accepted hexSum capsule milder now) := by
  refine ⟨fun compliant => ?_,?_,fun accepted => ?_⟩
  · rw [compliant_iff] at compliant ⊢
    exact compliant.mono order.weaker.1
  · exact (workloadViolations_sublist order.weaker.1).subset
  · rw [accepted_iff] at accepted ⊢
    exact accepted.mono hexSum order

theorem airGap_connected : (validateWorkload profileConnected slackTarget).state=.compliant ∧
    Accepted (fun _ => []) stowawayCapsule profileConnected 5 := by
  have order : NoStricter profileConnected profileAirGap := ⟨0,4,by decide,rfl,rfl⟩
  obtain ⟨workload,_,accepted⟩ := levels_monotone (fun _ => []) profileConnected profileAirGap
    order slackTarget stowawayCapsule 5
  exact ⟨workload (by decide +kernel),accepted ⟨by decide +kernel,by decide +kernel⟩⟩

end KServeLLM.Airgap
