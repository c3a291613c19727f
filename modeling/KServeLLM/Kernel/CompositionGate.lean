import KServeLLM.Kernel.Composition

namespace KServeLLM.Composition

variable {v : StateVector}

theorem checkForbiddenTuples_none_iff :
    checkForbiddenTuples v=none ↔
      (v.trust≠.denied ∧ v.admission≠.denied) ∧
      (v.lifecycle=.active → v.trust≠.denied ∧ v.trust≠.unknown) ∧
      (v.lifecycle=.quarantined ∨ v.lifecycle=.retired →
        v.admission≠.admitted ∧ v.trust≠.trusted ∧ v.trust≠.verified) ∧
      (v.risk=.high ∨ v.risk=.critical → v.integrity=.verified) ∧
      (v.compatibility=.incompatible → v.admission≠.admitted) := by
  unfold checkForbiddenTuples
  split_ifs with execute untrusted escalation dal incompatible
  · refine iff_of_false nofun (fun clean => ?_)
    exact execute.elim clean.1.1 clean.1.2
  · refine iff_of_false nofun (fun clean => ?_)
    exact untrusted.2.elim (clean.2.1 untrusted.1).1 (clean.2.1 untrusted.1).2
  · refine iff_of_false nofun (fun clean => ?_)
    obtain ⟨admitted,trusted,verified⟩ := clean.2.2.1 escalation.1
    exact escalation.2.elim admitted (Or.elim · trusted verified)
  · exact iff_of_false nofun (fun clean => dal.2 (clean.2.2.2.1 dal.1))
  · exact iff_of_false nofun (fun clean => clean.2.2.2.2 incompatible.1 incompatible.2)
  · simp only [not_or,not_and] at execute untrusted escalation dal incompatible
    refine iff_of_true rfl ⟨execute,untrusted,fun held => ?_,fun risky => ?_,incompatible⟩
    · exact escalation held
    · exact not_not.mp (dal risky)

section

variable (comps : List Component) (eff : StateVector)

theorem foldl_lifecycle :
    (comps.foldl addComponent eff).lifecycle=
      if (∃c∈comps,c.stateVector.lifecycle=.quarantined) then .quarantined
      else if (∃c∈comps,c.stateVector.lifecycle=.proposed) ∧ eff.lifecycle≠.quarantined
      then .proposed else eff.lifecycle := by
  induction comps generalizing eff with
  | nil => simp
  | cons c comps ih =>
    rw [List.foldl_cons,ih]
    simp only [addComponent]
    by_cases held : c.stateVector.lifecycle=.quarantined
    · simp [held]
    · by_cases proposed : c.stateVector.lifecycle=.proposed
      · by_cases old : eff.lifecycle=.quarantined <;> simp [proposed,old]
      · simp [held,proposed]

theorem foldl_admission_admitted (start : eff.admission=.admitted) :
    (comps.foldl addComponent eff).admission=.admitted ↔
      ∀c∈comps,c.stateVector.admission≠.denied ∧ c.stateVector.admission≠.pending := by
  constructor
  · intro admitted c mem
    constructor
    · intro denied
      rcases foldl_admission mem eff (.inl denied) with h | h <;> rw [h] at admitted <;>
        cases admitted
    · intro pending
      rcases foldl_admission mem eff (.inr pending) with h | h <;> rw [h] at admitted <;>
        cases admitted
  · intro free
    induction comps generalizing eff with
    | nil => exact start
    | cons c comps ih =>
      obtain ⟨⟨denied,pending⟩,rest⟩ := List.forall_mem_cons.mp free
      exact ih _ (by simp [addComponent,denied,pending,start]) rest

theorem foldl_integrity_verified (start : eff.integrity=.verified) :
    (comps.foldl addComponent eff).integrity=.verified ↔
      ∀c∈comps,c.stateVector.integrity=.verified := by
  constructor
  · intro verified c mem
    by_contra other
    exact foldl_integrity mem eff other verified
  · intro all
    induction comps generalizing eff with
    | nil => exact start
    | cons c comps ih =>
      obtain ⟨first,rest⟩ := List.forall_mem_cons.mp all
      exact ih _ (by simp [addComponent,first,start]) rest

theorem foldl_trust :
    (comps.foldl addComponent eff).trust=eff.trust := by
  induction comps generalizing eff with
  | nil => rfl
  | cons c comps ih => exact ih _

theorem foldl_compatibility :
    (comps.foldl addComponent eff).compatibility=eff.compatibility := by
  induction comps generalizing eff with
  | nil => rfl
  | cons c comps ih => exact ih _

def lowestScore : Int :=
  comps.foldl (fun minScore c =>
    let s := trustScore c.stateVector.trust
    if s < minScore then s else minScore) 3

theorem lowestScore_range : -1 ≤ lowestScore comps ∧ lowestScore comps ≤ 3 := by
  refine List.foldlRecOn (motive := fun s => -1 ≤ s ∧ s ≤ 3) _ _ (by decide)
    (fun s bounds c _ => ?_)
  have floor : -1 ≤ trustScore c.stateVector.trust := by
    cases c.stateVector.trust <;> simp [trustScore]
  dsimp only
  split_ifs <;> omega

theorem lowestScore_le (bound : Int) (small : bound < 3) :
    lowestScore comps ≤ bound ↔ ∃c∈comps,trustScore c.stateVector.trust ≤ bound := by
  have from' start : comps.foldl (fun minScore c =>
      if trustScore c.stateVector.trust < minScore then trustScore c.stateVector.trust
      else minScore) start ≤ bound ↔
        start ≤ bound ∨ ∃c∈comps,trustScore c.stateVector.trust ≤ bound := by
    induction comps generalizing start with
    | nil => simp
    | cons c comps ih =>
      rw [List.foldl_cons,ih,List.exists_mem_cons_iff,← or_assoc]
      apply or_congr_left
      split_ifs <;> omega
  have top : ¬3 ≤ bound := by omega
  exact (from' 3).trans (by simp [top])

theorem aggregateTrust_denied :
    aggregateTrust comps=.denied ↔ ∃c∈comps,c.stateVector.trust=.denied := by
  have score t : trustScore t ≤ -1 ↔ t=.denied := by
    cases t <;> simp [trustScore]
  have low := lowestScore_le comps (-1) (by decide)
  have range := lowestScore_range comps
  simp only [score] at low
  rw [← low]
  change trustOf (lowestScore comps)=.denied ↔ _
  unfold trustOf
  split_ifs <;> simp <;> omega

theorem aggregateTrust_low :
    aggregateTrust comps=.denied ∨ aggregateTrust comps=.unknown ↔
      ∃c∈comps,trustScore c.stateVector.trust ≤ 0 := by
  have range := lowestScore_range comps
  rw [← lowestScore_le _ 0 (by decide)]
  change trustOf (lowestScore comps)=.denied ∨ trustOf (lowestScore comps)=.unknown ↔ _
  unfold trustOf
  split_ifs <;> simp <;> omega

theorem aggregateRisk_high :
    aggregateRisk comps=.high ∨ aggregateRisk comps=.critical ↔
      ∃c∈comps,c.stateVector.risk=.high ∨ c.stateVector.risk=.critical := by
  constructor
  · intro high
    by_contra calm
    have bound : comps.foldl (fun maxRisk c =>
        if maxRisk < riskOrder c.stateVector.risk then riskOrder c.stateVector.risk
        else maxRisk) 1 ≤ 2 := by
      refine List.foldlRecOn (motive := (· ≤ 2)) _ _ (by decide) (fun m low c mem => ?_)
      have own : riskOrder c.stateVector.risk ≤ 2 := by
        cases band : c.stateVector.risk with
        | high => exact absurd ⟨c,mem,.inl band⟩ calm
        | critical => exact absurd ⟨c,mem,.inr band⟩ calm
        | _ => simp [riskOrder]
      split_ifs <;> omega
    unfold aggregateRisk riskOf at high
    split_ifs at high with one three four
    · simp at high
    · omega
    · omega
    · simp at high
  · rintro ⟨c,mem,band⟩
    exact aggregateRisk_of_mem mem band

end

namespace Pipeline

structure Clears (p : Pipeline) (input : Option Payload) : Prop where
  payload : ∃payload,input=some payload ∧ ∀g∈p.guards,
    g.compatibility.stage=.preExecution → afterFirst "MALICIOUS".toList payload.data=none
  slots : ∃model tokenizer runtime,
    p.model=some model ∧ p.tokenizer=some tokenizer ∧ p.runtime=some runtime ∧
      p.validateInterComponentCompatibility model tokenizer=([],none)
  components : ∀c∈p.allComponents,
    validateComponentIdentityAndDigest c=none ∧ checkForbiddenTuples c.stateVector=none
  admission : ∀c∈p.allComponents,c.stateVector.admission≠.pending
  lifecycle : ∀c∈p.allComponents,c.stateVector.lifecycle≠.quarantined
  trust : (∃c∈p.allComponents,c.stateVector.lifecycle=.proposed) ∨
    ∀c∈p.allComponents,0 < trustScore c.stateVector.trust
  risk : (∃c∈p.allComponents,c.stateVector.risk=.high ∨ c.stateVector.risk=.critical) →
    ∀c∈p.allComponents,c.stateVector.integrity=.verified

section

variable (p : Pipeline) (compatible : Bool)

theorem aggregate_trust :
    (p.aggregateStateVector compatible).trust=aggregateTrust p.allComponents := foldl_trust _ _

theorem aggregate_compatibility : (p.aggregateStateVector compatible).compatibility=
    if compatible then .compatible else .incompatible := foldl_compatibility _ _

theorem aggregate_lifecycle : (p.aggregateStateVector compatible).lifecycle=
    if (∃c∈p.allComponents,c.stateVector.lifecycle=.quarantined) then .quarantined
    else if (∃c∈p.allComponents,c.stateVector.lifecycle=.proposed) then .proposed
    else .active := by
  rw [aggregateStateVector,foldl_lifecycle]
  simp

theorem aggregate_admitted : (p.aggregateStateVector compatible).admission=.admitted ↔
    ∀c∈p.allComponents,c.stateVector.admission≠.denied ∧ c.stateVector.admission≠.pending :=
  foldl_admission_admitted _ _ rfl

theorem aggregate_verified : (p.aggregateStateVector compatible).integrity=.verified ↔
    ∀c∈p.allComponents,c.stateVector.integrity=.verified :=
  foldl_integrity_verified _ _ rfl

end

theorem aggregate_passes_iff {p : Pipeline}
    (own : ∀c∈p.allComponents,checkForbiddenTuples c.stateVector=none) :
    (checkForbiddenTuples (p.aggregateStateVector true)=none ∧
      (p.aggregateStateVector true).admission=.admitted) ↔
    (∀c∈p.allComponents,c.stateVector.admission≠.pending) ∧
    (∀c∈p.allComponents,c.stateVector.lifecycle≠.quarantined) ∧
    ((∃c∈p.allComponents,c.stateVector.lifecycle=.proposed) ∨
      ∀c∈p.allComponents,0 < trustScore c.stateVector.trust) ∧
    ((∃c∈p.allComponents,c.stateVector.risk=.high ∨ c.stateVector.risk=.critical) →
      ∀c∈p.allComponents,c.stateVector.integrity=.verified) := by
  rw [checkForbiddenTuples_none_iff,aggregate_trust,aggregate_risk,aggregate_compatibility,
    aggregate_verified,aggregateRisk_high]
  constructor
  · rintro ⟨⟨-,active,held,risky,-⟩,admitted⟩
    have calm : ∀c∈p.allComponents,c.stateVector.lifecycle≠.quarantined := by
      intro c mem quarantined
      refine (held (.inl ?_)).1 admitted
      rw [aggregate_lifecycle,if_pos ⟨c,mem,quarantined⟩]
    refine ⟨fun c mem => ((aggregate_admitted p _).mp admitted c mem).2,calm,?_,risky⟩
    by_cases proposed : ∃c∈p.allComponents,c.stateVector.lifecycle=.proposed
    · exact .inl proposed
    · refine .inr (fun c mem => ?_)
      have none' : ¬∃c∈p.allComponents,c.stateVector.lifecycle=.quarantined := by
        rintro ⟨d,among,quarantined⟩
        exact calm d among quarantined
      obtain ⟨notDenied,known⟩ := active (by
        rw [aggregate_lifecycle,if_neg none',if_neg proposed])
      by_contra _
      rcases (aggregateTrust_low _).mpr ⟨c,mem,by omega⟩ with h | h
      · exact notDenied h
      · exact known h
  · rintro ⟨pending,calm,trust,risky⟩
    have clean c mem :=
      ((checkForbiddenTuples_none_iff).mp (own c mem)).1
    have admitted : (p.aggregateStateVector true).admission=.admitted :=
      (aggregate_admitted p _).mpr (fun c mem => ⟨(clean c mem).2,pending c mem⟩)
    have trusted : aggregateTrust p.allComponents≠.denied := by
      intro denied
      obtain ⟨c,mem,own⟩ := (aggregateTrust_denied _).mp denied
      exact (clean c mem).1 own
    have none' : ¬∃c∈p.allComponents,c.stateVector.lifecycle=.quarantined := by
      rintro ⟨d,among,quarantined⟩
      exact calm d among quarantined
    refine ⟨⟨⟨trusted,by simp [admitted]⟩,fun active => ⟨trusted,fun unknown => ?_⟩,
      fun held => ?_,risky,by simp⟩,admitted⟩
    · obtain ⟨c,mem,_⟩ := (aggregateTrust_low _).mp (.inr unknown)
      rcases trust with proposed | high
      · rw [aggregate_lifecycle,if_neg none',if_pos proposed] at active
        cases active
      · have := high c mem
        omega
    · rw [aggregate_lifecycle] at held
      split_ifs at held <;> simp at held

variable {hexSum : String → String} {now : Int64}

theorem execute_of_validated {p q : Pipeline}
    {report : ValidationReport} (h : p.validate hexSum=(q,.ok report)) {payload : Payload} :
    (p.execute hexSum (some payload) now).error=none ↔
      (report.stateVector.admission=.admitted ∨ report.stateVector.admission=.audit) ∧
      ∀g∈q.guards,g.compatibility.stage=.preExecution →
        afterFirst "MALICIOUS".toList payload.data=none := by
  unfold execute
  simp only [h]
  by_cases refused : report.stateVector.admission≠.admitted ∧ report.stateVector.admission≠.audit
  · rw [if_pos refused]
    refine iff_of_false nofun (fun passes => ?_)
    exact passes.1.elim refused.1 refused.2
  · rw [if_neg refused]
    have admitted :
        report.stateVector.admission=.admitted ∨ report.stateVector.admission=.audit := by
      by_contra other
      exact refused (not_or.mp other)
    split
    · next g found =>
      refine iff_of_false nofun (fun passes => ?_)
      have blocks := List.find?_some found
      rw [Bool.and_eq_true,decide_eq_true_eq] at blocks
      rw [passes.2 g (List.mem_of_find?_eq_some found) blocks.1] at blocks
      cases blocks.2
    · next open' =>
      refine iff_of_true rfl ⟨admitted,fun g mem stage => ?_⟩
      have free := List.find?_eq_none.mp open' g mem
      rw [Bool.and_eq_true,decide_eq_true_eq] at free
      exact Option.not_isSome_iff_eq_none.mp (fun found => free ⟨stage,found⟩)

theorem execute_succeeds_iff {p : Pipeline} {input : Option Payload} :
    (p.execute hexSum input now).error=none ↔ Clears p input := by
  constructor
  · intro success
    cases input with
    | none => cases success
    | some payload =>
      cases outcome : p.validate hexSum with
      | mk q result =>
        cases result with
        | error err =>
          simp only [execute,outcome] at success
          cases success
        | ok report =>
          obtain ⟨-,guards⟩ := (execute_of_validated outcome).mp success
          obtain ⟨_,_,-,admitted⟩ := execute_ok success
          obtain ⟨slots,components,tuple,rfl,rfl⟩ := validate_ok_iff.mp outcome
          have all := checkComponents_none_iff.mp components
          obtain ⟨pending,calm,trust,risk⟩ :=
            (aggregate_passes_iff (fun c mem => (all c mem).2)).mp ⟨tuple,admitted⟩
          exact ⟨⟨payload,rfl,guards⟩,slots,all,pending,calm,trust,risk⟩
  · rintro ⟨⟨_,rfl,guards⟩,slots,components,pending,calm,trust,risk⟩
    obtain ⟨tuple,admitted⟩ := (aggregate_passes_iff (fun c mem => (components c mem).2)).mpr
      ⟨pending,calm,trust,risk⟩
    have outcome : p.validate hexSum=_ :=
      validate_ok_iff.mpr ⟨slots,checkComponents_none_iff.mpr components,tuple,rfl,rfl⟩
    exact (execute_of_validated outcome).mpr ⟨.inl admitted,guards⟩

structure Sound (v : StateVector) : Prop where
  admission : v.admission=.admitted ∨ v.admission=.audit
  lifecycle : v.lifecycle≠.retired
  integrity : v.integrity≠.tampered

def Slips (v : StateVector) : Prop :=
  (v.admission=.unspecified ∨ ∃text,v.admission=.other text) ∨
  (v.lifecycle=.retired ∧ v.admission=.audit ∧ v.trust≠.trusted ∧ v.trust≠.verified) ∨
  (v.integrity=.tampered ∧ v.risk≠.high ∧ v.risk≠.critical)

theorem sound_iff_not_slips (check : checkForbiddenTuples v=none)
    (settled : v.admission≠.pending) : Sound v ↔ ¬Slips v := by
  obtain ⟨⟨-,notDenied⟩,-,held,risky,-⟩ := (checkForbiddenTuples_none_iff).mp check
  constructor
  · rintro ⟨admission,lifecycle,integrity⟩ slips
    rcases slips with (undecided | ⟨_,undecided⟩) | ⟨retired,-⟩ | ⟨tampered,-⟩
    · simp [undecided] at admission
    · simp [undecided] at admission
    · exact lifecycle retired
    · exact integrity tampered
  · intro stays
    have decided : v.admission=.admitted ∨ v.admission=.audit := by
      cases h : v.admission with
      | admitted => exact .inl rfl
      | audit => exact .inr rfl
      | unspecified => exact absurd (.inl (.inl h)) stays
      | other text => exact absurd (.inl (.inr ⟨text,h⟩)) stays
      | pending => exact absurd h settled
      | denied => exact absurd h notDenied
    refine ⟨decided,fun retired => ?_,fun tampered => ?_⟩
    · obtain ⟨notAdmitted,notTrusted,notVerified⟩ := held (.inr retired)
      exact stays (.inr (.inl ⟨retired,decided.resolve_left notAdmitted,notTrusted,notVerified⟩))
    · have little (high : v.risk=.high ∨ v.risk=.critical) : False := by
        have verified := risky high
        rw [tampered] at verified
        cases verified
      exact stays (.inr (.inr ⟨tampered,fun h => little (.inl h),fun h => little (.inr h)⟩))

theorem execute_sound_iff (hexSum : String → String) (p : Pipeline) (input : Option Payload)
    (now : Int64) :
    ((p.execute hexSum input now).error=none → ∀c∈p.allComponents,Sound c.stateVector) ↔
      (Clears p input → ∀c∈p.allComponents,¬Slips c.stateVector) := by
  rw [execute_succeeds_iff]
  refine imp_congr_right (fun clears => forall₂_congr (fun c mem => ?_))
  exact sound_iff_not_slips (clears.components c mem).2 (clears.admission c mem)

def slippingPipeline : Pipeline :=
  let calm : StateVector := {sampleVector with risk := .normal}
  let slot (kind : ComponentKind) : Component := {sampleComponent kind with stateVector := calm}
  ⟨"p","n","1",some (slot .model),some (slot .tokenizer),none,some (slot .runtime),
    [{slot .adapter with stateVector := {calm with admission := .unspecified}},
      {slot .adapter with stateVector :=
        {calm with lifecycle := .retired,admission := .audit,trust := .asserted}},
      {slot .adapter with stateVector := {calm with integrity := .tampered}}],
    [],[],[],[],"",calm⟩

theorem slippingPipeline_runs :
    (slippingPipeline.execute (fun _ => "") (some ⟨[],∅,[],∅⟩) 0).error=none ∧
    (slippingPipeline.aggregateStateVector true).admission=.admitted ∧
    slippingPipeline.adapters.map (·.stateVector.admission)=[.unspecified,.audit,.admitted] ∧
    slippingPipeline.adapters.map (·.stateVector.lifecycle)=[.active,.retired,.active] ∧
    slippingPipeline.adapters.map (·.stateVector.integrity)=[.verified,.verified,.tampered] := by
  decide

end Pipeline

end KServeLLM.Composition
