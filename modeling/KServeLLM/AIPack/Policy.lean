import KServeLLM.AIPack.Kinds
import KServeLLM.Framework.JsonCodec

namespace KServeLLM.AIPack

open Bytes (ascii toValid)
open KServeLLM.Json (Codec Field list omitEmpty pointer string struct)

abbrev RVBand := Bytes

@[ext] structure PolicyBundleSpec where
  (engine profileID : Bytes := [])
  (forbiddenFamilies allowedFamilies : List ArtifactFamily := [])
  forbiddenArtifactTypes : List ArtifactKind := []
  allowedArtifactTypes : Option (List ArtifactKind) := none
  requiredPredicates : List Bytes := []
  maxRiskBand : RVBand := []
  deriving DecidableEq

structure EvaluationResult where
  allowed : Bool
  denyCode : Option ErrorCode := none
  reason : Bytes := []
  deriving DecidableEq

def evaluateFamilyPolicy (policy : PolicyBundleSpec) (family : ArtifactFamily) :
    Option EvaluationResult :=
  if family∈policy.forbiddenFamilies then
    some ⟨false,some .profileFamilyDenied,
      ascii "family "++family++ascii " is forbidden by policy"⟩
  else if policy.allowedFamilies≠[] ∧ family∉policy.allowedFamilies then
    some ⟨false,some .profileFamilyDenied,
      ascii "family "++family++ascii " is not in policy allowedFamilies"⟩
  else none

def evaluateArtifactKindPolicy (policy : PolicyBundleSpec) (kind : ArtifactKind) :
    Option EvaluationResult :=
  if kind∈policy.forbiddenArtifactTypes then
    some ⟨false,some .profileFamilyDenied,ascii "kind "++kind++ascii " is forbidden by policy"⟩
  else if ∃listed∈policy.allowedArtifactTypes,kind∉listed then
    some ⟨false,some .profileFamilyDenied,
      ascii "kind "++kind++ascii " is not in policy allowedArtifactTypes"⟩
  else none

def evaluatePredicatePolicy (policy : PolicyBundleSpec) (present : List Bytes) :
    Option EvaluationResult :=
  (policy.requiredPredicates.find? fun req => req∉present).map fun req =>
    ⟨false,some .profilePredicateDenied,ascii "required predicate absent: "++req⟩

def rvBandOrder : List (RVBand×Nat) :=
  [(ascii "GREEN",0),(ascii "YELLOW",1),(ascii "ORANGE",2),(ascii "RED",3)]

def riskBandExceeds (actual limit : RVBand) : Bool :=
  match rvBandOrder.lookup actual,rvBandOrder.lookup limit with
  | some ao,some lo => lo < ao
  | _,_ => true

def validRVBand (band : RVBand) : Bool := (rvBandOrder.lookup band).isSome

def evaluateRiskPolicy (policy : PolicyBundleSpec) (riskBand : RVBand) :
    Option EvaluationResult :=
  if policy.maxRiskBand≠[] ∧ (!validRVBand riskBand || !validRVBand policy.maxRiskBand ||
      riskBandExceeds riskBand policy.maxRiskBand) then
    some ⟨false,some .rvRedBandBlocked,ascii "artifact risk band "++riskBand++
      ascii " exceeds policy maxRiskBand "++policy.maxRiskBand⟩
  else none

def evaluatePolicy (policy : Option PolicyBundleSpec) (kind : ArtifactKind)
    (family : ArtifactFamily) (present : List Bytes) (riskBand : RVBand) : EvaluationResult :=
  match policy with
  | none => ⟨true,none,[]⟩
  | some policy =>
    ((evaluateFamilyPolicy policy family).or ((evaluateArtifactKindPolicy policy kind).or
      ((evaluatePredicatePolicy policy present).or (evaluateRiskPolicy policy riskBand)))).getD
      ⟨true,none,[]⟩

theorem kinds_full (l : List ArtifactKind) : (list (ε := Unit) string).encode l≠.ok .null := by
  intro h
  obtain ⟨_,_,⟨⟩⟩ := Json.map_ok h

def policyFields : List (Field Unit PolicyBundleSpec) :=
  [omitEmpty (ascii "engine") string (·.isEmpty) (·.engine) fun r v => {r with engine := v},
   omitEmpty (ascii "profileID") string (·.isEmpty) (·.profileID) fun r v =>
     {r with profileID := v},
   omitEmpty (ascii "forbiddenFamilies") (list string) (·.isEmpty) (·.forbiddenFamilies)
     fun r v => {r with forbiddenFamilies := v},
   omitEmpty (ascii "allowedFamilies") (list string) (·.isEmpty) (·.allowedFamilies)
     fun r v => {r with allowedFamilies := v},
   omitEmpty (ascii "forbiddenArtifactTypes") (list string) (·.isEmpty)
     (·.forbiddenArtifactTypes) fun r v => {r with forbiddenArtifactTypes := v},
   omitEmpty (ascii "allowedArtifactTypes") (pointer (list string) kinds_full)
     (fun l => (l.getD []).isEmpty) (·.allowedArtifactTypes) fun r v =>
     {r with allowedArtifactTypes := v},
   omitEmpty (ascii "requiredPredicates") (list string) (·.isEmpty) (·.requiredPredicates)
     fun r v => {r with requiredPredicates := v},
   omitEmpty (ascii "maxRiskBand") string (·.isEmpty) (·.maxRiskBand) fun r v =>
     {r with maxRiskBand := v}]

theorem ite_frame {γ : Type} {other : PolicyBundleSpec → γ} {zero : γ} {empty : Bool}
    {r written : PolicyBundleSpec} (unset : other r=zero) (frame : other written=other r) :
    other (if empty then r else written)=zero := by
  split
  · exact unset
  · exact frame.trans unset

theorem policyFields_untouched (p : PolicyBundleSpec) : Json.Untouched p policyFields {} := by
  apply Json.untouched_of_pairwise
  · simp only [policyFields,List.pairwise_cons,List.mem_cons,forall_eq_or_imp,List.not_mem_nil,
      false_implies,implies_true,and_true,List.Pairwise.nil]
    refine ⟨⟨?_,?_,?_,?_,?_,?_,?_⟩,⟨?_,?_,?_,?_,?_,?_⟩,⟨?_,?_,?_,?_,?_⟩,⟨?_,?_,?_,?_⟩,⟨?_,?_,?_⟩,
      ⟨?_,?_⟩,?_⟩ <;> exact fun r unset => ite_frame unset rfl
  · simp [policyFields,omitEmpty,string,list,pointer]

def policyCodec : Codec Unit PolicyBundleSpec :=
  struct {} policyFields ⟨by decide +kernel,by decide +kernel⟩ policyFields_untouched

def PolicyBundleSpec.stored (p : PolicyBundleSpec) : Option PolicyBundleSpec :=
  match policyCodec.encode p with
  | .error _ => none
  | .ok j => (Json.unmarshal j.marshalIndent).bind fun j => policyCodec.decode j policyCodec.zero

theorem carried_string (s : Bytes) : (if s.isEmpty then [] else toValid s)=toValid s := by
  cases s <;> rfl

theorem carried_list (l : List Bytes) :
    (if l.isEmpty then [] else l.map toValid)=l.map toValid := by
  cases l <;> rfl

def storedKinds : Option (List ArtifactKind) → Option (List ArtifactKind)
  | some (kind::kinds) => some ((kind::kinds).map toValid)
  | _ => none

theorem carried_kinds (l : Option (List ArtifactKind)) :
    (if (l.getD []).isEmpty then none else l.map (List.map toValid))=storedKinds l := by
  rcases l with _ | _ | ⟨_,_⟩ <;> rfl

def PolicyBundleSpec.carried (p : PolicyBundleSpec) : PolicyBundleSpec where
  engine := toValid p.engine
  profileID := toValid p.profileID
  forbiddenFamilies := p.forbiddenFamilies.map toValid
  allowedFamilies := p.allowedFamilies.map toValid
  forbiddenArtifactTypes := p.forbiddenArtifactTypes.map toValid
  allowedArtifactTypes := storedKinds p.allowedArtifactTypes
  requiredPredicates := p.requiredPredicates.map toValid
  maxRiskBand := toValid p.maxRiskBand

theorem policyCodec_carried (p : PolicyBundleSpec) : policyCodec.carried p=p.carried := by
  simp only [policyCodec,struct,policyFields,Json.carryAll,List.foldl_cons,List.foldl_nil,omitEmpty,
    string,list,pointer]
  apply PolicyBundleSpec.ext
  · simp only [apply_ite PolicyBundleSpec.engine,ite_self,carried_string]
    rfl
  · simp only [apply_ite PolicyBundleSpec.profileID,ite_self,carried_string]
    rfl
  · simp only [apply_ite PolicyBundleSpec.forbiddenFamilies,ite_self,carried_list]
    rfl
  · simp only [apply_ite PolicyBundleSpec.allowedFamilies,ite_self,carried_list]
    rfl
  · simp only [apply_ite PolicyBundleSpec.forbiddenArtifactTypes,ite_self,carried_list]
    rfl
  · simp only [apply_ite PolicyBundleSpec.allowedArtifactTypes,ite_self,carried_kinds]
    rfl
  · simp only [apply_ite PolicyBundleSpec.requiredPredicates,ite_self,carried_list]
    rfl
  · simp only [apply_ite PolicyBundleSpec.maxRiskBand,ite_self,carried_string]
    rfl

theorem encode_total {p : PolicyBundleSpec} : ∃ j,policyCodec.encode p=.ok j := by
  have text s : ∃ j,(string (ε := Unit)).encode s=.ok j := ⟨.str s,rfl⟩
  have kinds : ∃ j,(pointer (list string) kinds_full).encode p.allowedArtifactTypes=.ok j := by
    cases p.allowedArtifactTypes with
    | none => exact ⟨.null,rfl⟩
    | some l => exact Json.strings_total
  have fields : ∀ f∈policyFields,∃ o,f.encode p=.ok o := by
    simp only [policyFields,List.forall_mem_cons,List.not_mem_nil,false_implies,implies_true,
      and_true]
    exact ⟨Json.omitEmpty_total (text _),Json.omitEmpty_total (text _),
      Json.omitEmpty_total (Json.strings_total),Json.omitEmpty_total (Json.strings_total),
      Json.omitEmpty_total (Json.strings_total),Json.omitEmpty_total kinds,
      Json.omitEmpty_total (Json.strings_total),Json.omitEmpty_total (text _)⟩
  obtain ⟨pairs,written⟩ := Json.encodeFields_total fields
  exact ⟨.obj pairs,congrArg (Except.map Json.obj) written⟩

theorem stored_eq {p : PolicyBundleSpec} : p.stored=some p.carried := by
  obtain ⟨j,written⟩ := encode_total
  have read := policyCodec.roundtrip written
  rw [policyCodec_carried] at read
  rw [PolicyBundleSpec.stored,written]
  dsimp only
  rw [Json.unmarshal_marshalIndent (policyCodec.integral written),Option.bind_some,read]

def EvaluationResult.origin (d : EvaluationResult) : Option ErrorCode×Option UInt8 :=
  (d.denyCode,d.reason.head?)

variable {p : PolicyBundleSpec} {d : EvaluationResult} {family : ArtifactFamily}

theorem family_origin (h : evaluateFamilyPolicy p family=some d) :
    d.origin=(some .profileFamilyDenied,some 102) := by
  unfold evaluateFamilyPolicy at h
  split at h
  · cases h
    rfl
  · split at h
    · cases h
      rfl
    · cases h

variable {kind : ArtifactKind}

theorem kind_origin (h : evaluateArtifactKindPolicy p kind=some d) :
    d.origin=(some .profileFamilyDenied,some 107) := by
  unfold evaluateArtifactKindPolicy at h
  split at h
  · cases h
    rfl
  · split at h
    · cases h
      rfl
    · cases h

variable {present : List Bytes}

theorem predicate_origin (h : evaluatePredicatePolicy p present=some d) :
    d.origin=(some .profilePredicateDenied,some 114) := by
  obtain ⟨_,_,rfl⟩ := Option.map_eq_some_iff.mp h
  rfl

variable {band : RVBand}

theorem risk_origin
    (h : evaluateRiskPolicy p band=some d) : d.origin=(some .rvRedBandBlocked,some 97) := by
  unfold evaluateRiskPolicy at h
  split at h
  · cases h
    rfl
  · cases h

theorem or_same_iff {α τ : Type} {tag : α → τ} {first : τ} {a a' b b' : Option α}
    (ha : ∀x∈a,tag x=first) (ha' : ∀x∈a',tag x=first) (hb : ∀x∈b,tag x≠first)
    (hb' : ∀x∈b',tag x≠first) : a'.or b'=a.or b ↔ a'=a ∧ (a=none → b'=b) := by
  cases a with
  | none =>
    cases a' with
    | none => simp
    | some x =>
      have other : ¬some x=b := fun h => hb x h.symm (ha' x rfl)
      simp [other]
  | some y =>
    cases a' with
    | none =>
      have other : ¬b'=some y := fun h => hb' y h (ha y rfl)
      simp [other]
    | some x => simp

theorem kind_rest_origin : ∀d∈(evaluateArtifactKindPolicy p kind).or
      ((evaluatePredicatePolicy p present).or (evaluateRiskPolicy p band)),
      d.origin≠(some .profileFamilyDenied,some 102) := by
  intro d h
  rcases Option.or_eq_some_iff.mp h with h | ⟨_,h⟩
  · rw [kind_origin h]
    decide
  · rcases Option.or_eq_some_iff.mp h with h | ⟨_,h⟩
    · rw [predicate_origin h]
      decide
    · rw [risk_origin h]
      decide

theorem predicate_rest_origin :
    ∀d∈(evaluatePredicatePolicy p present).or (evaluateRiskPolicy p band),
      d.origin≠(some .profileFamilyDenied,some 107) := by
  intro d h
  rcases Option.or_eq_some_iff.mp h with h | ⟨_,h⟩
  · rw [predicate_origin h]
    decide
  · rw [risk_origin h]
    decide

theorem risk_rest_origin :
    ∀d∈evaluateRiskPolicy p band,d.origin≠(some .profilePredicateDenied,some 114) := by
  intro d h
  rw [risk_origin h]
  decide

structure FamiliesKept (p : PolicyBundleSpec) (family : ArtifactFamily) : Prop where
  forbidden : family∈p.forbiddenFamilies.map toValid ↔ family∈p.forbiddenFamilies
  allowed : family∉p.forbiddenFamilies → p.allowedFamilies≠[] →
    (family∈p.allowedFamilies.map toValid ↔ family∈p.allowedFamilies)

structure KindsKept (p : PolicyBundleSpec) (kind : ArtifactKind) : Prop where
  forbidden : kind∈p.forbiddenArtifactTypes.map toValid ↔ kind∈p.forbiddenArtifactTypes
  allowed : kind∉p.forbiddenArtifactTypes → ∀kinds∈p.allowedArtifactTypes,
    kinds≠[] ∧ (kind∈kinds.map toValid ↔ kind∈kinds)

theorem guards_same_iff {α : Type} {first second : α} (apart : first≠second)
    {f f' r r' : Prop} [Decidable f] [Decidable f'] [Decidable r] [Decidable r'] :
    (if f' then some first else if r' then some second else none)=
        (if f then some first else if r then some second else none) ↔
      (f' ↔ f) ∧ (¬f → (r' ↔ r)) := by
  by_cases hf : f <;> by_cases hf' : f' <;> by_cases hr : r <;> by_cases hr' : r' <;>
    simp [hf,hf',hr,apart,apart.symm]

theorem reason_apart {front word : Bytes} {back back' : Bytes} (apart : back≠back') :
    (⟨false,some .profileFamilyDenied,front++word++back⟩ : EvaluationResult)≠
      ⟨false,some .profileFamilyDenied,front++word++back'⟩ := by
  intro same
  exact apart (List.append_cancel_left (EvaluationResult.mk.inj same).2.2)

theorem families_kept_iff (p : PolicyBundleSpec) (family : ArtifactFamily) :
    evaluateFamilyPolicy p.carried family=evaluateFamilyPolicy p family ↔
      FamiliesKept p family := by
  have apart : ascii " is forbidden by policy"≠ascii " is not in policy allowedFamilies" := by
    decide +kernel
  rw [evaluateFamilyPolicy,evaluateFamilyPolicy,guards_same_iff (reason_apart apart)]
  have lists : (p.carried.allowedFamilies≠[] ∧ family∉p.carried.allowedFamilies ↔
      p.allowedFamilies≠[] ∧ family∉p.allowedFamilies) ↔ (p.allowedFamilies≠[] →
        (family∈p.allowedFamilies.map toValid ↔ family∈p.allowedFamilies)) := by
    rw [PolicyBundleSpec.carried,ne_eq,List.map_eq_nil_iff,and_congr_right_iff,not_iff_not]
  rw [lists]
  exact ⟨fun h => ⟨h.1,h.2⟩,fun h => ⟨h.forbidden,h.allowed⟩⟩

theorem kinds_kept_iff (p : PolicyBundleSpec) (kind : ArtifactKind) :
    evaluateArtifactKindPolicy p.carried kind=evaluateArtifactKindPolicy p kind ↔
      KindsKept p kind := by
  have apart : ascii " is forbidden by policy"≠ascii " is not in policy allowedArtifactTypes" := by
    decide +kernel
  rw [evaluateArtifactKindPolicy,evaluateArtifactKindPolicy,
    guards_same_iff (reason_apart apart)]
  have lists : ((∃listed∈p.carried.allowedArtifactTypes,kind∉listed) ↔
      ∃listed∈p.allowedArtifactTypes,kind∉listed) ↔ ∀kinds∈p.allowedArtifactTypes,
        kinds≠[] ∧ (kind∈kinds.map toValid ↔ kind∈kinds) := by
    show ((∃listed∈storedKinds p.allowedArtifactTypes,kind∉listed) ↔ _) ↔ _
    rcases p.allowedArtifactTypes with _ | _ | ⟨k,_⟩
    · simp [storedKinds]
    · simp [storedKinds]
    · simp only [storedKinds,Option.mem_some_iff,exists_eq_left',forall_eq',ne_eq,reduceCtorEq,
        not_false_iff,true_and,not_iff_not]
  rw [lists]
  exact ⟨fun h => ⟨h.1,h.2⟩,fun h => ⟨h.forbidden,h.allowed⟩⟩

def PredicatesKept (p : PolicyBundleSpec) (present : List Bytes) : Prop :=
  (p.requiredPredicates.map toValid).find? (fun req => req∉present)=
    p.requiredPredicates.find? fun req => req∉present

theorem predicates_kept_iff (p : PolicyBundleSpec) (present : List Bytes) :
    evaluatePredicatePolicy p.carried present=evaluatePredicatePolicy p present ↔
      PredicatesKept p present := by
  refine (Option.map_injective fun a b same => ?_).eq_iff
  exact List.append_cancel_left (EvaluationResult.mk.inj same).2.2

theorem risk_kept_iff (p : PolicyBundleSpec) (band : RVBand) :
    evaluateRiskPolicy p.carried band=evaluateRiskPolicy p band ↔
      toValid p.maxRiskBand=p.maxRiskBand := by
  constructor
  · intro same
    by_contra changed
    have full : p.maxRiskBand≠[] := by
      intro empty
      rw [empty] at changed
      exact changed rfl
    have unknown limit (other : toValid p.maxRiskBand≠p.maxRiskBand)
        (is : limit=p.maxRiskBand ∨ limit=toValid p.maxRiskBand) : validRVBand limit=false := by
      have plain known (low : ∀ b∈known,b < 128) : limit≠known := by
        rintro rfl
        rcases is with h | h
        · exact other ((Bytes.toValid_eq_iff (h ▸ low) p.maxRiskBand).mpr rfl)
        · exact other (h.symm.trans ((Bytes.toValid_eq_iff low p.maxRiskBand).mp h.symm).symm)
      have green := plain (ascii "GREEN") (by decide +kernel)
      have yellow := plain (ascii "YELLOW") (by decide +kernel)
      have orange := plain (ascii "ORANGE") (by decide +kernel)
      have red := plain (ascii "RED") (by decide +kernel)
      simp [validRVBand,rvBandOrder,List.lookup_cons,beq_false_of_ne green,
        beq_false_of_ne yellow,beq_false_of_ne orange,beq_false_of_ne red]
    have before := unknown p.maxRiskBand changed (.inl rfl)
    have after := unknown (toValid p.maxRiskBand) changed (.inr rfl)
    have full' : toValid p.maxRiskBand≠[] := fun h =>
      full ((Bytes.toValid_eq_iff (by simp) p.maxRiskBand).mp h)
    simp only [evaluateRiskPolicy,PolicyBundleSpec.carried,before,after,full,full',ne_eq,
      not_false_iff,Bool.not_false,Bool.or_true,Bool.true_or,if_true,Option.some.injEq,
      EvaluationResult.mk.injEq,true_and,List.append_cancel_left_eq] at same
    exact changed same
  · intro same
    rw [evaluateRiskPolicy,evaluateRiskPolicy,PolicyBundleSpec.carried,same]

structure Kept (p : PolicyBundleSpec) (kind : ArtifactKind) (family : ArtifactFamily)
    (present : List Bytes) : Prop where
  families : FamiliesKept p family
  kinds : evaluateFamilyPolicy p family=none → KindsKept p kind
  predicates : evaluateFamilyPolicy p family=none → evaluateArtifactKindPolicy p kind=none →
    PredicatesKept p present
  risk : evaluateFamilyPolicy p family=none → evaluateArtifactKindPolicy p kind=none →
    evaluatePredicatePolicy p present=none → toValid p.maxRiskBand=p.maxRiskBand

theorem getD_same_iff {a b : Option EvaluationResult} (ha : ∀d∈a,d.allowed=false)
    (hb : ∀d∈b,d.allowed=false) :
    a.getD ⟨true,none,[]⟩=b.getD ⟨true,none,[]⟩ ↔ a=b := by
  cases a with
  | none =>
    cases b with
    | none => simp
    | some d =>
      have denied := hb d rfl
      simp only [reduceCtorEq,iff_false]
      rintro rfl
      cases denied
  | some d =>
    have denied := ha d rfl
    cases b with
    | none =>
      simp only [reduceCtorEq,iff_false]
      rintro rfl
      cases denied
    | some d' => simp

theorem denials_denied {p : PolicyBundleSpec}
    {present : List Bytes} {band : RVBand} :
    ∀d∈(evaluateFamilyPolicy p family).or ((evaluateArtifactKindPolicy p kind).or
      ((evaluatePredicatePolicy p present).or (evaluateRiskPolicy p band))),
      d.allowed=false := by
  intro d h
  rcases Option.or_eq_some_iff.mp h with h | ⟨_,h⟩
  · unfold evaluateFamilyPolicy at h
    split_ifs at h <;> cases h <;> rfl
  · rcases Option.or_eq_some_iff.mp h with h | ⟨_,h⟩
    · unfold evaluateArtifactKindPolicy at h
      split_ifs at h <;> cases h <;> rfl
    · rcases Option.or_eq_some_iff.mp h with h | ⟨_,h⟩
      · obtain ⟨_,_,rfl⟩ := Option.map_eq_some_iff.mp h
        rfl
      · unfold evaluateRiskPolicy at h
        split_ifs at h
        cases h
        rfl

theorem stored_policy_decides_iff (p : PolicyBundleSpec) (kind : ArtifactKind)
    (family : ArtifactFamily) (present : List Bytes) (band : RVBand) :
    (∃q,p.stored=some q ∧ evaluatePolicy (some q) kind family present band=
        evaluatePolicy (some p) kind family present band) ↔ Kept p kind family present := by
  have stored : (∃q,p.stored=some q ∧ evaluatePolicy (some q) kind family present band=
      evaluatePolicy (some p) kind family present band) ↔
      evaluatePolicy (some p.carried) kind family present band=
        evaluatePolicy (some p) kind family present band := by
    rw [stored_eq]
    simp
  rw [stored,evaluatePolicy,evaluatePolicy,
    getD_same_iff (denials_denied)
      (denials_denied),
    or_same_iff
      (fun _ => family_origin) (fun _ => family_origin) kind_rest_origin kind_rest_origin,
    or_same_iff
      (fun _ => kind_origin) (fun _ => kind_origin) predicate_rest_origin predicate_rest_origin,
    or_same_iff
      (fun _ => predicate_origin) (fun _ => predicate_origin) risk_rest_origin risk_rest_origin,
    families_kept_iff,kinds_kept_iff,predicates_kept_iff,risk_kept_iff]
  constructor
  · rintro ⟨families,rest⟩
    exact ⟨families,fun f => (rest f).1,fun f k => ((rest f).2 k).1,fun f k => ((rest f).2 k).2⟩
  · rintro ⟨families,kinds,predicates,risk⟩
    exact ⟨families,fun f => ⟨kinds f,fun k => ⟨predicates f k,risk f k⟩⟩⟩

def denyAll : PolicyBundleSpec := {allowedArtifactTypes := some []}

theorem stored_deny_all_allows :
    (evaluatePolicy (some denyAll) kindTool (ascii "agents") [] []).allowed=false ∧
      ∃q,denyAll.stored=some q ∧
        evaluatePolicy (some q) kindTool (ascii "agents") [] []=⟨true,none,[]⟩ :=
  ⟨by decide +kernel,denyAll.carried,stored_eq,by decide +kernel⟩

end KServeLLM.AIPack
