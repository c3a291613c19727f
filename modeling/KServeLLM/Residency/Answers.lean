import KServeLLM.Residency.Course

namespace KServeLLM.Residency

structure Ordinary (now : Time) (current : Snapshot) (plan : Plan) (observed : Observation) :
    Prop where
  known : isKnownState current.state
  target : stable plan.target
  clean : observed.failure=""
  early : overdue now current=false
  fits : consistent current.state observed plan.requirePrefill

def Begins (plan : Plan) (state : State) (observed : Observation) : Prop :=
  if plan.target=.ready then
    state=.cached ∧ observed.artifactCached ∨
    (state=.draining ∨ state=.evicting) ∧ observed.serves plan.requirePrefill=false
  else
    state≠plan.target ∧ (state=.ready ∨ state=.loading ∨ state=.warming ∨ state=.cached)

def RollbackRuns (rollbackTarget : State) (observed : Observation) : Prop :=
  0 < observed.activeRequests ∨ observed.runtimeLoaded ∨
  observed.artifactCached ∧ rollbackTarget≠.cached

inductive Answered (now : Time) (current : Snapshot) (plan : Plan) (observed : Observation) :
    Decision×Option Error → Prop
  | refused {err : Error} (root : err.root=.invalidPlan) :
      Answered now current plan observed (decision current [] observed plan.requirePrefill,some err)
  | violated {err : Error} :
      Answered now current plan observed
        (invariantDecision current (failClosedActions observed) observed plan.requirePrefill,
          some err)
  | backAtRest {state : State} {actions : List Action} {err : Error}
      (low : state=.cached ∨ state=.cold) (closing : failClosedActions observed <+: actions) :
      Answered now current plan observed
        (decision (settle current state) actions observed plan.requirePrefill,some err)
  | backUnderway {state : State} {actions : List Action} {err : Error}
      (low : state=.draining ∨ state=.evicting) (closing : failClosedActions observed <+: actions)
      (cause : observed.failure≠"" ∨ overdue now current) (known : isKnownState current.state)
      (target : stable plan.target) (runs : RollbackRuns current.rollbackTarget observed) :
      Answered now current plan observed
        (decision (move current state) actions observed plan.requirePrefill,some err)
  | kept (actions : List Action) :
      Answered now current plan observed
        (decision current actions observed plan.requirePrefill,none)
  | settled {state : State} (atRest : stable state) (actions : List Action) :
      Answered now current plan observed
        (decision (settle current state) actions observed plan.requirePrefill,none)
  | begun {state : State} (calm : Ordinary now current plan observed)
      (begins : Begins plan current.state observed) (actions : List Action) :
      Answered now current plan observed
        (decision (begin now current state plan.timeout) actions observed plan.requirePrefill,none)
  | continued {state : State} (running : isTransitional current.state)
      (down : state=.warming ∨ state=.evicting) (actions : List Action) :
      Answered now current plan observed
        (decision (move current state) actions observed plan.requirePrefill,none)
  | fellBack (calm : Ordinary now current plan observed) (target : plan.target=.ready)
      (state : current.state=.ready) (down : observed.serves plan.requirePrefill=false) :
      Answered now current plan observed
        (decision (move current .warming) [.warmRuntime] observed plan.requirePrefill,none)

section

variable {now : Time} {current : Snapshot} {plan : Plan} {observed : Observation}

theorem rollback_answered (known : isKnownState current.state) (target : stable plan.target)
    (why : observed.failure≠"" ∨ overdue now current) {cause : Error} :
    Answered now current plan observed (rollback current observed plan cause) := by
  have closing := List.prefix_append (failClosedActions observed)
  unfold rollback
  split_ifs with busy loaded back cached
  · exact .backUnderway (.inl rfl) (closing _) why known target (.inl busy)
  · exact .backUnderway (.inr rfl) (closing _) why known target (.inr (.inl loaded))
  · exact .backAtRest (.inl rfl) (List.prefix_refl _)
  · have other : current.rollbackTarget≠.cached := fun same => back ⟨same,cached⟩
    exact .backUnderway (.inr rfl) (closing _) why known target (.inr (.inr ⟨cached,other⟩))
  · exact .backAtRest (.inr rfl) (List.prefix_refl _)

theorem advanceToReady_answered (calm : Ordinary now current plan observed)
    (target : plan.target=.ready) :
    Answered now current plan observed (advanceToReady now current plan observed) := by
  have begins (h : current.state=.cached ∧ observed.artifactCached ∨
      (current.state=.draining ∨ current.state=.evicting) ∧
        observed.serves plan.requirePrefill=false) :
      Begins plan current.state observed := by simpa [Begins,target] using h
  unfold advanceToReady recoverReady resumeReady
  cases state : current.state with
  | cold =>
    dsimp only
    split_ifs
    · exact .settled rfl _
    · exact .kept _
  | cached =>
    dsimp only
    split_ifs with cached
    · exact .settled rfl _
    · exact .begun calm (begins (.inl ⟨state,by simpa using cached⟩)) _
  | loading =>
    dsimp only
    split_ifs
    · exact .continued (by simp [state,isTransitional]) (.inl rfl) _
    · exact .kept _
  | warming =>
    dsimp only
    split_ifs
    · exact .settled rfl _
    · exact .kept _
  | ready =>
    dsimp only
    split_ifs with serves
    · exact .settled rfl _
    · exact .settled rfl _
    · exact .fellBack calm target state (by simpa using serves)
  | draining =>
    dsimp only
    split_ifs with serves
    · exact .settled rfl _
    · exact .begun calm (begins (.inr ⟨.inl state,by simpa using serves⟩)) _
  | evicting =>
    dsimp only
    split_ifs with serves
    · exact .settled rfl _
    · exact .begun calm (begins (.inr ⟨.inr state,by simpa using serves⟩)) _
  | other text => exact .refused rfl

theorem advanceDrain_answered (state : current.state=.draining) :
    Answered now current plan observed (advanceDrain current plan observed,none) := by
  unfold advanceDrain
  split_ifs
  · exact .kept _
  · exact .kept _
  · exact .continued (by simp [state,isTransitional]) (.inr rfl) _

theorem advanceEviction_answered :
    Answered now current plan observed (advanceEviction current plan observed,none) := by
  unfold advanceEviction
  split_ifs
  · exact .kept _
  · exact .settled rfl _
  · exact .kept _
  · exact .settled rfl _

theorem advanceToLowerState_answered (calm : Ordinary now current plan observed)
    (target : plan.target≠.ready) :
    Answered now current plan observed (advanceToLowerState now current plan observed) := by
  unfold advanceToLowerState
  by_cases same : current.state=plan.target
  · rw [if_pos same,same]
    exact .settled calm.target _
  have begins (h : current.state=.ready ∨ current.state=.loading ∨ current.state=.warming ∨
      current.state=.cached) : Begins plan current.state observed := by
    simpa [Begins,target] using ⟨same,h⟩
  rw [if_neg same]
  cases state : current.state with
  | ready => exact .begun calm (begins (.inl state)) _
  | loading => exact .begun calm (begins (.inr (.inl state))) _
  | warming => exact .begun calm (begins (.inr (.inr (.inl state)))) _
  | cached => exact .begun calm (begins (.inr (.inr (.inr state)))) _
  | draining => exact advanceDrain_answered state
  | evicting => exact advanceEviction_answered
  | cold => exact .kept _
  | other text => exact .refused rfl

theorem validatePlan_root {err : Error} (refused : validatePlan current plan=some err) :
    err.root=.invalidPlan := by
  unfold validatePlan at refused
  split_ifs at refused
  · cases refused
    rfl
  · cases refused
    rfl

theorem advance_ordinary (calm : Ordinary now current plan observed) :
    advance now current plan observed=
      if plan.target=.ready then advanceToReady now current plan observed
      else advanceToLowerState now current plan observed := by
  have accepted := (validatePlan_eq_none _).mpr ⟨calm.known,calm.target⟩
  have valid : validateObservation current.state observed plan.requirePrefill=none := by
    simpa [consistent] using calm.fits
  have target := calm.target
  simp only [advance,calm.clean,calm.early,project]
  cases state : plan.target <;> simp_all [stable]

theorem advance_answered : Answered now current plan observed
    (advance now current plan observed) := by
  cases checked : validatePlan current plan with
  | some err =>
    simp only [advance,checked]
    exact .refused (validatePlan_root checked)
  | none =>
    obtain ⟨known,target⟩ := (validatePlan_eq_none _).mp checked
    by_cases clean : observed.failure=""
    · cases late : overdue now current with
      | true =>
        simp only [advance,checked,clean,late]
        exact rollback_answered known target (.inr late)
      | false =>
        cases valid : validateObservation current.state observed plan.requirePrefill with
        | some err =>
          simp only [advance,checked,clean,late,project,valid]
          exact .violated
        | none =>
          have calm : Ordinary now current plan observed :=
            ⟨known,target,clean,late,by simp [consistent,valid]⟩
          rw [advance_ordinary calm]
          split_ifs with ready
          · exact advanceToReady_answered calm ready
          · exact advanceToLowerState_answered calm ready
    · simp only [advance,checked,clean,ne_eq]
      exact rollback_answered known target (.inl clean)

end

def Decision.Opens (d : Decision) : Prop := d.policy.allowRoute ∨ d.policy.acceptNewRequests

section

variable {snapshot : Snapshot} {actions : List Action} {observed : Observation}
  {requirePrefill : Bool}

theorem decision_opens (opens : (decision snapshot actions observed requirePrefill).Opens) :
    snapshot.state=.ready ∧ observed.runtimeReady ∧ (requirePrefill → observed.prefillReady) := by
  have serving : snapshot.state=.ready ∧ observed.serves requirePrefill := by
    simpa [Decision.Opens,decision,policyFor] using opens
  refine ⟨serving.1,?_⟩
  have parts := serving.2
  unfold Observation.serves at parts
  cases requirePrefill <;> simpa using parts

theorem decision_shut (other : snapshot.state≠.ready) :
    ¬(decision snapshot actions observed requirePrefill).Opens :=
  fun opens => other (decision_opens opens).1

theorem invariantDecision_shut :
    ¬(invariantDecision snapshot actions observed requirePrefill).Opens := by
  simp [Decision.Opens,invariantDecision]

theorem detach_mem_failClosed (reached : observed.routeAttached ∨ observed.acceptingRequests) :
    .detachRoute∈failClosedActions observed := by
  simp [failClosedActions,reached]

end

def Sentinel.fault : Sentinel → Bool
  | .transitionFailed | .transitionTimeout | .invariantViolated => true
  | .invalidPlan => false

def FailsClosed (observed : Observation) (answer : Decision×Option Error) : Prop :=
  ∀err,answer.2=some err → err.root.fault → ¬answer.1.Opens ∧
    (observed.routeAttached ∨ observed.acceptingRequests → .detachRoute∈answer.1.actions)

theorem Answered.failsClosed {now : Time} {current : Snapshot} {plan : Plan}
    {observed : Observation} {answer : Decision×Option Error}
    (form : Answered now current plan observed answer) : FailsClosed observed answer := by
  cases form with
  | refused root =>
    intro err same fault
    obtain rfl := Option.some.inj same
    rw [root] at fault
    cases fault
  | violated => exact fun err _ _ => ⟨invariantDecision_shut,detach_mem_failClosed⟩
  | backAtRest low closing | backUnderway low closing =>
    refine fun err _ _ => ⟨decision_shut ?_,fun reached => ?_⟩
    · rcases low with rfl | rfl <;> simp
    · exact closing.subset (detach_mem_failClosed reached)
  | kept | settled | begun | continued | fellBack =>
    intro err same
    cases same

theorem advance_fails_closed (now : Time) (current : Snapshot) (plan : Plan)
    (observed : Observation) :
    ((advance now current plan observed).1.Opens →
      (advance now current plan observed).1.snapshot.state=.ready ∧ observed.runtimeReady ∧
        (plan.requirePrefill → observed.prefillReady)) ∧
    FailsClosed observed (advance now current plan observed) := by
  have form : Answered now current plan observed (advance now current plan observed) :=
    advance_answered
  refine ⟨?_,form.failsClosed⟩
  generalize advance now current plan observed=answer at form
  cases form with
  | violated => exact fun opens => absurd opens invariantDecision_shut
  | refused | backAtRest | backUnderway | kept | settled | begun | continued | fellBack =>
    exact decision_opens

end KServeLLM.Residency
