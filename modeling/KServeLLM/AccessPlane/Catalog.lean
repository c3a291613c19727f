import KServeLLM.AccessPlane.Evaluator
import KServeLLM.Framework.MapContents

namespace KServeLLM.AccessPlane

structure Declaration where
  tenantID : String
  policy : TenantPolicy
  (checked copied : RangeOrder ((_ : String) × RoutePolicy))

variable {policy : TenantPolicy} {policies : List Declaration}

section

def validateTargets (tenantID name : String) : List String → List TargetPolicy → Option Errorf
  | _,[] => none
  | seen,target::targets =>
      if target.model="" ∨ target.maxInFlight ≤ 0 then
        some ⟨"tenant %q route %q has invalid target",[.str tenantID,.str name]⟩
      else if target.model∈seen then
        some ⟨"tenant %q route %q repeats target %q",[.str tenantID,.str name,.str target.model]⟩
      else validateTargets tenantID name (target.model::seen) targets

def validateRoutePolicy (tenantID name : String) (route : RoutePolicy) : Option Errorf :=
  if name="" then some ⟨"tenant %q route name is required",[.str tenantID]⟩
  else if route.targets.length=0 then
    some ⟨"tenant %q route %q requires targets",[.str tenantID,.str name]⟩
  else validateTargets tenantID name [] route.targets

def validateTenantPolicy (d : Declaration) : Option Errorf :=
  if d.tenantID="" then some ⟨"tenant ID is required",[]⟩
  else if d.policy.maxInFlight ≤ 0 then
    some ⟨"tenant %q max in-flight must be positive",[.str d.tenantID]⟩
  else if d.policy.maxQueueDepth < 0 then
    some ⟨"tenant %q max queue depth cannot be negative",[.str d.tenantID]⟩
  else if d.policy.routes.entries.length=0 then
    some ⟨"tenant %q must declare at least one route",[.str d.tenantID]⟩
  else
    (d.checked.arrange d.policy.routes.entries).findSome? fun e =>
      validateRoutePolicy d.tenantID e.1 e.2

def cloneTenantPolicy (d : Declaration) : TenantPolicy :=
  {d.policy with routes := assignAll ∅ (d.copied.arrange d.policy.routes.entries)}

def addPolicies : GoMap String TenantPolicy → List Declaration →
    Except Errorf (GoMap String TenantPolicy)
  | tenants,[] => .ok tenants
  | tenants,d::policies =>
      match validateTenantPolicy d with
      | some err => .error err
      | none =>
        if (tenants.lookup d.tenantID).isSome then
          .error ⟨"duplicate tenant policy %q",[.str d.tenantID]⟩
        else addPolicies (tenants.insert d.tenantID (cloneTenantPolicy d)) policies

def newEvaluator (policies : List Declaration) : Except Errorf Evaluator :=
  (addPolicies ∅ policies).map Evaluator.mk

variable {d : Declaration}

theorem cloneTenantPolicy_lookup {route : String} :
    (cloneTenantPolicy d).routes.lookup route=d.policy.routes.lookup route :=
  (lookup_copied d.copied d.policy.routes).trans (Option.or_none)

theorem queueDepth_of_valid (valid : validateTenantPolicy d=none) : 0 ≤ d.policy.maxQueueDepth := by
  unfold validateTenantPolicy at valid
  split_ifs at valid with _ _ negative
  exact Int64.not_lt.mp negative

variable {id : String}

theorem addPolicies_ok {tenants made : GoMap String TenantPolicy}
    (ok : addPolicies tenants policies=.ok made)
    (found : made.lookup id=some policy) : tenants.lookup id=some policy ∨
      ∃d∈policies,validateTenantPolicy d=none ∧ d.tenantID=id ∧ policy=cloneTenantPolicy d := by
  induction policies generalizing tenants with
  | nil =>
    obtain rfl := Except.ok.inj ok
    exact .inl found
  | cons d policies ih =>
    rw [addPolicies] at ok
    cases valid : validateTenantPolicy d with
    | some err => simp [valid] at ok
    | none =>
      simp only [valid] at ok
      split_ifs at ok with known
      rcases ih ok with old | ⟨d',mem,facts⟩
      · by_cases here : id=d.tenantID
        · rw [here,AList.lookup_insert] at old
          exact .inr ⟨d,List.mem_cons_self,valid,here.symm,(Option.some.inj old).symm⟩
        · rw [AList.lookup_insert_ne here] at old
          exact .inl old
      · exact .inr ⟨d',List.mem_cons_of_mem d mem,facts⟩

theorem newEvaluator_ok {e : Evaluator} (made : newEvaluator policies=.ok e)
    (found : e.tenants.lookup id=some policy) :
    ∃d∈policies,validateTenantPolicy d=none ∧ d.tenantID=id ∧ policy=cloneTenantPolicy d := by
  unfold newEvaluator at made
  cases added : addPolicies ∅ policies with
  | error err =>
    rw [added] at made
    cases made
  | ok tenants =>
    rw [added] at made
    obtain rfl := Except.ok.inj made
    exact (addPolicies_ok added found).resolve_left nofun

end

variable {observed : RuntimeObservation}

section

def Disposition.openness : Disposition → Nat
  | .dispositionReject => 0
  | .dispositionBackpressure => 1
  | .dispositionAdmit => 2

structure ModelObservation.Heavier (before after : ModelObservation) : Prop where
  inFlight : before.inFlight ≤ after.inFlight
  ready : after.ready=true → before.ready=true

structure Heavier (before after : RuntimeObservation) : Prop where
  inFlight : before.tenant.inFlight ≤ after.tenant.inFlight
  queueDepth : before.tenant.queueDepth ≤ after.tenant.queueDepth
  models : ∀model,Option.Rel ModelObservation.Heavier (before.models.lookup model)
    (after.models.lookup model)

def TargetPolicy.Ready (target : TargetPolicy) (observed : RuntimeObservation) : Prop :=
  ∃load,observed.models.lookup target.model=some load ∧ load.ready=true ∧
    load.inFlight < target.maxInFlight

variable {target : TargetPolicy}

theorem TargetPolicy.eligible_iff : target.eligible observed=true ↔ target.Ready observed := by
  unfold TargetPolicy.eligible TargetPolicy.Ready
  cases observed.models.lookup target.model <;> simp

variable {before after : RuntimeObservation}

theorem TargetPolicy.Ready.lighter (heavier : Heavier before after)
    (h : target.Ready after) : target.Ready before := by
  obtain ⟨_,found,ready,below⟩ := h
  have related := heavier.models target.model
  rw [found] at related
  cases lighter : before.models.lookup target.model with
  | none =>
    rw [lighter] at related
    cases related
  | some load' =>
    rw [lighter] at related
    cases related with
    | some rel => exact ⟨load',lighter,rel.ready ready,Int64.lt_of_le_of_lt rel.inFlight below⟩

theorem queueDepth_nonneg (valid : validObservation observed=true) :
    0 ≤ observed.tenant.queueDepth := by
  unfold validObservation at valid
  simp only [Bool.and_eq_true,Bool.not_eq_true',Bool.or_eq_false_iff,
    decide_eq_false_iff_not] at valid
  exact Int64.not_lt.mp valid.1.2

theorem remaining_pos_iff {most depth : Int64} (hm : 0 ≤ most) (hd : 0 ≤ depth) :
    0 < most-depth ↔ depth < most := by
  have high := most.toInt_lt
  have high' := depth.toInt_lt
  have zero : (0 : Int64).toInt=0 := rfl
  rw [Int64.le_iff_toInt_le] at hm hd
  have exact' : (most-depth).toInt=most.toInt-depth.toInt := by
    rw [Int64.toInt_sub]
    exact Int.bmod_eq_of_le (by omega) (by omega)
  rw [Int64.lt_iff_toInt_lt,Int64.lt_iff_toInt_lt,exact']
  omega

theorem capacityDecision_openness
    (depth : 0 ≤ policy.maxQueueDepth) (valid : validObservation observed=true)
    (reason : String) : (capacityDecision policy observed reason).disposition.openness=
      if observed.tenant.queueDepth < policy.maxQueueDepth then 1 else 0 := by
  have room := remaining_pos_iff depth (queueDepth_nonneg valid)
  unfold capacityDecision
  by_cases h : observed.tenant.queueDepth < policy.maxQueueDepth
  · simp only [if_pos (room.mpr h),if_pos h]
    rfl
  · simp only [if_neg (mt room.mp h),if_neg h]
    rfl

theorem capacityDecision_antitone (depth : 0 ≤ policy.maxQueueDepth)
    (valid : validObservation before=true) (valid' : validObservation after=true)
    (heavier : Heavier before after) (reason reason' : String) :
    (capacityDecision policy after reason').disposition.openness ≤
      (capacityDecision policy before reason).disposition.openness := by
  rw [capacityDecision_openness depth valid,capacityDecision_openness depth valid']
  split_ifs with full room
  · exact le_refl 1
  · exact absurd (Int64.lt_of_le_of_lt heavier.queueDepth full) room
  · exact Nat.zero_le 1
  · exact le_refl 0

end

variable {e : Evaluator} {intent : Intent} {before after : RuntimeObservation}

def Evaluator.Covers (e : Evaluator) (intent : Intent) (policy : TenantPolicy)
    (route : RoutePolicy) : Prop :=
  e.tenants.lookup intent.tenantID=some policy ∧ policy.routes.lookup intent.route=some route

variable {route : RoutePolicy}

theorem evaluate_of_covers (covers : e.Covers intent policy route)
    (valid : validObservation observed=true) : e.evaluate intent observed=
      if policy.maxInFlight ≤ observed.tenant.inFlight then
        capacityDecision policy observed "tenant-concurrency-limit"
      else match route.targets.find? fun target => target.eligible observed with
        | some target => ⟨.dispositionAdmit,target.model,"target-eligible",0⟩
        | none => capacityDecision policy observed "no-eligible-target" := by
  unfold Evaluator.evaluate
  rw [covers.1]
  refine (if_pos valid).trans ?_
  exact covers.2 ▸ rfl

theorem evaluate_of_not_covers (missing : ∀policy route,¬e.Covers intent policy route)
    (observed : RuntimeObservation) :
    (e.evaluate intent observed).disposition=.dispositionReject := by
  unfold Evaluator.evaluate
  cases tenant : e.tenants.lookup intent.tenantID with
  | none => rfl
  | some policy =>
    cases found : policy.routes.lookup intent.route with
    | some route => exact absurd ⟨tenant,found⟩ (missing policy route)
    | none =>
      simp only [found]
      split_ifs <;> rfl

theorem capacityDecision_closed {policy : TenantPolicy} {observed : RuntimeObservation}
    {reason : String} :
    (capacityDecision policy observed reason).disposition≠.dispositionAdmit := by
  unfold capacityDecision
  dsimp only
  split_ifs <;> nofun

theorem find_before {targets : List TargetPolicy} (heavier : Heavier before after)
    (none' : targets.find? (fun target => target.eligible before)=none) :
    targets.find? (fun target => target.eligible after)=none := by
  rw [List.find?_eq_none] at none' ⊢
  intro target mem eligible
  have ready := (TargetPolicy.eligible_iff.mp eligible).lighter heavier
  exact none' target mem (TargetPolicy.eligible_iff.mpr ready)

theorem openness_le {d : Disposition} : d.openness ≤ 2 := by cases d <;> decide

theorem evaluate_antitone (covers : e.Covers intent policy route)
    (depth : 0 ≤ policy.maxQueueDepth) (valid : validObservation before=true)
    (valid' : validObservation after=true) (heavier : Heavier before after) :
    (e.evaluate intent after).disposition.openness ≤
      (e.evaluate intent before).disposition.openness := by
  have room := fun reason reason' =>
    capacityDecision_antitone depth valid valid' heavier reason reason'
  rw [evaluate_of_covers covers valid,evaluate_of_covers covers valid']
  by_cases limit : policy.maxInFlight ≤ before.tenant.inFlight
  · rw [if_pos limit,if_pos (Int64.le_trans limit heavier.inFlight)]
    exact room _ _
  · rw [if_neg limit]
    cases found : route.targets.find? fun target => target.eligible before with
    | some target => exact openness_le
    | none =>
      rw [find_before heavier found]
      split_ifs
      · exact room _ _
      · exact room _ _

def Evaluator.NamesFirst (e : Evaluator) (policies : List Declaration) (intent : Intent)
    (observed : RuntimeObservation) : Prop :=
  ∃d∈policies,d.tenantID=intent.tenantID ∧ ∃route earlier target later,
    d.policy.routes.lookup intent.route=some route ∧ route.targets=earlier++target::later ∧
    target.Ready observed ∧ (∀t∈earlier,¬t.Ready observed) ∧
    (e.evaluate intent observed).model=target.model

theorem evaluate_admit (made : newEvaluator policies=.ok e) (valid : validObservation observed=true)
    (admits : (e.evaluate intent observed).disposition=.dispositionAdmit) :
    e.NamesFirst policies intent observed := by
  by_cases covered : ∃policy route,e.Covers intent policy route
  · obtain ⟨_,route,covers⟩ := covered
    have shown := evaluate_of_covers covers valid
    rw [shown] at admits
    split_ifs at admits with limit
    · exact absurd admits (capacityDecision_closed)
    cases found : route.targets.find? fun target => target.eligible observed with
    | none =>
      rw [found] at admits
      exact absurd admits (capacityDecision_closed)
    | some target =>
      rw [if_neg limit,found] at shown
      obtain ⟨eligible,earlier,later,split,skipped⟩ := List.find?_eq_some_iff_append.mp found
      obtain ⟨d,mem,-,own,rfl⟩ := newEvaluator_ok made covers.1
      have declared := (cloneTenantPolicy_lookup).symm.trans covers.2
      refine ⟨d,mem,own,route,earlier,target,later,declared,split,
        TargetPolicy.eligible_iff.mp eligible,fun t mem ready => ?_,by rw [shown]⟩
      simpa [TargetPolicy.eligible_iff.mpr ready] using skipped t mem
  · have missing : ∀policy route,¬e.Covers intent policy route :=
      fun policy route covers => covered ⟨policy,route,covers⟩
    rw [evaluate_of_not_covers missing] at admits
    cases admits

theorem evaluate_monotone (policies : List Declaration) (made : newEvaluator policies=.ok e)
    (valid : validObservation before=true) (valid' : validObservation after=true)
    (heavier : Heavier before after) :
    (e.evaluate intent after).disposition.openness ≤
      (e.evaluate intent before).disposition.openness ∧
    ∀observed,validObservation observed=true →
      (e.evaluate intent observed).disposition=.dispositionAdmit →
      e.NamesFirst policies intent observed := by
  refine ⟨?_,fun observed ok admits => evaluate_admit made ok admits⟩
  by_cases covered : ∃policy route,e.Covers intent policy route
  · obtain ⟨_,_,covers⟩ := covered
    obtain ⟨d,-,checked,-,rfl⟩ := newEvaluator_ok made covers.1
    exact evaluate_antitone covers (queueDepth_of_valid checked) valid valid' heavier
  · have missing : ∀policy route,¬e.Covers intent policy route :=
      fun policy route covers => covered ⟨policy,route,covers⟩
    rw [evaluate_of_not_covers missing,evaluate_of_not_covers missing]

def chatPolicy : TenantPolicy :=
  ⟨4,2,(∅ : GoMap String RoutePolicy).insert "chat" ⟨[⟨"large",2⟩,⟨"small",2⟩]⟩⟩

def chatEvaluator : Evaluator := ⟨(∅ : GoMap String TenantPolicy).insert "acme" chatPolicy⟩

def chatLoad (ready : Bool) (inFlight : Int64) : RuntimeObservation :=
  ⟨⟨inFlight,1⟩,((∅ : GoMap String ModelObservation).insert "large" ⟨ready,1⟩).insert "small"
    ⟨true,0⟩⟩

theorem chatLoad_heavier : Heavier (chatLoad true 1) (chatLoad false 3) := by
  refine ⟨by decide,by decide,fun model => ?_⟩
  by_cases small : model="small"
  · subst small
    exact .some ⟨by decide,id⟩
  by_cases large : model="large"
  · subst large
    exact .some ⟨by decide,nofun⟩
  have absent ready inFlight : (chatLoad ready inFlight).models.lookup model=none := by
    unfold chatLoad
    rw [AList.lookup_insert_ne small,AList.lookup_insert_ne large]
    rfl
  rw [absent,absent]
  exact .none

def chatDeclaration : Declaration := ⟨"acme",chatPolicy,.listed _,.listed _⟩

theorem chat_falls_back : newEvaluator [chatDeclaration]=.ok chatEvaluator ∧
    chatEvaluator.NamesFirst [chatDeclaration] ⟨"acme","chat"⟩ (chatLoad true 1) ∧
    chatEvaluator.NamesFirst [chatDeclaration] ⟨"acme","chat"⟩ (chatLoad false 3) ∧
    (chatEvaluator.evaluate ⟨"acme","chat"⟩ (chatLoad false 3)).model="small" := by
  have all := @evaluate_monotone chatEvaluator ⟨"acme","chat"⟩ (chatLoad true 1)
    (chatLoad false 3) [chatDeclaration] rfl (by decide) (by decide) chatLoad_heavier
  exact ⟨rfl,all.2 _ (by decide) rfl,all.2 _ (by decide) rfl,rfl⟩

end KServeLLM.AccessPlane
