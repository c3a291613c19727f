import KServeLLM.Residency.Machine

namespace KServeLLM.Residency

@[ext] structure Course where
  state : State
  actions : List Action
  deriving DecidableEq

def Decision.course (d : Decision) : Course := ⟨d.snapshot.state,d.actions⟩

@[simp] theorem decision_course (snapshot : Snapshot) (actions : List Action)
    (observed : Observation) (requirePrefill : Bool) :
    (decision snapshot actions observed requirePrefill).course=⟨snapshot.state,actions⟩ := rfl
@[simp] theorem invariantDecision_course (snapshot : Snapshot) (actions : List Action)
    (observed : Observation) (requirePrefill : Bool) :
    (invariantDecision snapshot actions observed requirePrefill).course=
      ⟨snapshot.state,actions⟩ := rfl
@[simp] theorem begin_state (now : Time) (current : Snapshot) (state : State)
    (timeout : Duration) : (begin now current state timeout).state=state := rfl
variable (current : Snapshot)

@[simp] theorem move_state (state : State) : (move current state).state=state := rfl
@[simp] theorem settle_state (state : State) : (settle current state).state=state := rfl

def readyCourse (requirePrefill : Bool) (state : State) (observed : Observation) : Course :=
  let revive : Course :=
    if observed.serves requirePrefill then ⟨.ready,[.attachRoute]⟩
    else ⟨.warming,[.warmRuntime]⟩
  match state with
  | .cold => if observed.artifactCached then ⟨.cached,[]⟩ else ⟨.cold,[.cacheArtifact]⟩
  | .cached =>
      if observed.artifactCached then ⟨.loading,[.loadRuntime]⟩
      else ⟨.cold,[.cacheArtifact]⟩
  | .loading =>
      if observed.runtimeLoaded then ⟨.warming,[.warmRuntime]⟩
      else ⟨.loading,[.loadRuntime]⟩
  | .ready =>
      if observed.serves requirePrefill ∧ observed.routeAttached then ⟨.ready,[]⟩ else revive
  | .warming | .draining | .evicting => revive
  | .other text => ⟨.other text,[]⟩

def lowerCourse (target state : State) (observed : Observation) : Course :=
  if state=target then ⟨state,[]⟩
  else
    match state with
    | .ready => ⟨.draining,[.detachRoute]⟩
    | .loading | .warming => ⟨.evicting,failClosedActions observed++[.stopRuntime]⟩
    | .draining =>
        if observed.routeAttached then ⟨.draining,[.detachRoute]⟩
        else if 0 < observed.activeRequests then ⟨.draining,[.waitForDrain]⟩
        else ⟨.evicting,[.stopRuntime]⟩
    | .evicting =>
        if observed.runtimeLoaded then ⟨.evicting,[.stopRuntime]⟩
        else if target=.cached ∧ observed.artifactCached then ⟨.cached,[]⟩
        else if observed.artifactCached then ⟨.evicting,[.evictArtifact]⟩
        else ⟨.cold,[]⟩
    | .cached => ⟨.evicting,[.evictArtifact]⟩
    | .cold => ⟨.cold,[.cacheArtifact]⟩
    | .other text => ⟨.other text,[]⟩

def rollbackCourse (rollbackTarget : State) (observed : Observation) : Course :=
  let actions := failClosedActions observed
  if 0 < observed.activeRequests then ⟨.draining,actions++[.waitForDrain]⟩
  else if observed.runtimeLoaded then ⟨.evicting,actions++[.stopRuntime]⟩
  else if rollbackTarget=.cached ∧ observed.artifactCached then ⟨.cached,actions⟩
  else if observed.artifactCached then ⟨.evicting,actions++[.evictArtifact]⟩
  else ⟨.cold,actions⟩

theorem advanceToReady_course (now : Time) (current : Snapshot) (plan : Plan)
    (observed : Observation) :
    (advanceToReady now current plan observed).1.course=
      readyCourse plan.requirePrefill current.state observed := by
  unfold advanceToReady readyCourse
  cases h : current.state with
  | ready =>
    cases hs : observed.serves _ <;> cases hr : observed.routeAttached <;>
      simp [recoverReady,hs,hr]
  | draining | evicting =>
    cases hs : observed.serves _ <;> simp [resumeReady,hs]
  | cold | cached =>
    cases ha : observed.artifactCached <;> simp [h]
  | loading =>
    cases hl : observed.runtimeLoaded <;> simp [h]
  | warming =>
    cases hs : observed.serves _ <;> simp [h]
  | other text => simp [h]

variable {plan : Plan} {observed : Observation}

theorem advanceDrain_course (hs : current.state=.draining) (ht : plan.target≠.draining) :
    (advanceDrain current plan observed).course=lowerCourse plan.target .draining observed := by
  unfold advanceDrain lowerCourse
  rw [if_neg ht.symm]
  split_ifs <;> simp [hs]

theorem advanceEviction_course (hs : current.state=.evicting) (ht : plan.target≠.evicting) :
    (advanceEviction current plan observed).course=lowerCourse plan.target .evicting observed := by
  unfold advanceEviction lowerCourse
  rw [if_neg ht.symm]
  split_ifs <;> simp [hs]

theorem advanceToLowerState_course (now : Time) (current : Snapshot) (plan : Plan)
    (observed : Observation) :
    (advanceToLowerState now current plan observed).1.course=
      lowerCourse plan.target current.state observed := by
  by_cases same : current.state=plan.target
  · simp [advanceToLowerState,lowerCourse,same]
  unfold advanceToLowerState
  rw [if_neg same]
  cases h : current.state with
  | draining => exact advanceDrain_course _ h (h▸Ne.symm same)
  | evicting => exact advanceEviction_course _ h (h▸Ne.symm same)
  | cold | cached | loading | warming | ready | other =>
    rw [h] at same
    simp [lowerCourse,same,h]

theorem rollback_course (observed : Observation) (plan : Plan) (cause : Error) :
    (rollback current observed plan cause).1.course=
      rollbackCourse current.rollbackTarget observed := by
  unfold rollback rollbackCourse
  split_ifs <;> rfl

def stable : State → Bool
  | .ready | .cached | .cold => true
  | _ => false

theorem stable_iff {target : State} :
    stable target ↔ target=.ready ∨ target=.cached ∨ target=.cold := by
  cases target <;> simp [stable]

def targetCourse (plan : Plan) (state : State) (observed : Observation) : Course :=
  if plan.target=.ready then readyCourse plan.requirePrefill state observed
  else lowerCourse plan.target state observed

def consistent (state : State) (observed : Observation) (requirePrefill : Bool) : Bool :=
  (validateObservation state observed requirePrefill).isNone

theorem isNone_ite_some {α : Type} {c : Prop} [Decidable c] (a : α) (o : Option α) :
    (if c then some a else o).isNone ↔ ¬c ∧ o.isNone := by split_ifs with h <;> simp [h]

theorem consistent_iff {state : State} {requirePrefill : Bool} :
    consistent state observed requirePrefill ↔ 0 ≤ observed.activeRequests ∧
      (observed.acceptingRequests → observed.routeAttached ∧ state=.ready) ∧
      (observed.routeAttached → observed.serves requirePrefill) ∧
      (0 < observed.activeRequests → state=.ready ∨ state=.draining) := by
  simp only [consistent,validateObservation,Observation.serves,isNone_ite_some,Int64.not_lt]
  cases observed.acceptingRequests <;> cases observed.routeAttached <;>
    cases observed.runtimeReady <;> cases requirePrefill <;> simp <;> tauto

def courseOf (late : Bool) (current : Snapshot) (plan : Plan) (observed : Observation) : Course :=
  if isKnownState current.state ∧ stable plan.target then
    if observed.failure≠"" ∨ late then rollbackCourse current.rollbackTarget observed
    else if consistent current.state observed plan.requirePrefill then
      targetCourse plan current.state observed
    else ⟨current.state,failClosedActions observed⟩
  else ⟨current.state,[]⟩

theorem validatePlan_eq_none :
    validatePlan current plan=none ↔ isKnownState current.state ∧ stable plan.target := by
  unfold validatePlan
  cases isKnownState _ <;> cases plan.target <;> simp [stable]

theorem advance_course (now : Time) (current : Snapshot) (plan : Plan) (observed : Observation) :
    (advance now current plan observed).1.course=
      courseOf (overdue now current) current plan observed := by
  unfold advance courseOf
  cases hp : validatePlan _ _ with
  | some err =>
    have refused : ¬(isKnownState current.state ∧ stable plan.target) := by
      rw [← validatePlan_eq_none,hp]
      simp
    simp [refused]
  | none =>
    have accepted := (validatePlan_eq_none _).mp hp
    rw [if_pos accepted]
    by_cases hf : observed.failure=""
    · cases hl : overdue now _ with
      | true => simp [hf,rollback_course]
      | false =>
        cases hv : validateObservation current.state observed plan.requirePrefill with
        | some err => simp [hf,project,consistent,hv]
        | none =>
          cases target : plan.target <;>
            simp_all [project,consistent,stable,targetCourse,advanceToReady_course,
              advanceToLowerState_course]
    · simp [hf,rollback_course]

def retains (state : State) : Bool := decide (state≠.cold ∧ state≠.evicting)

theorem advance_retainArtifact (now : Time) (current : Snapshot) (plan : Plan)
    (observed : Observation) :
    (advance now current plan observed).1.policy.retainArtifact=
      retains (advance now current plan observed).1.course.state := by
  have ready : (advanceToReady now current plan observed).1.policy.retainArtifact=
      retains (advanceToReady now current plan observed).1.course.state := by
    unfold advanceToReady recoverReady resumeReady
    cases current.state <;> dsimp only <;> (try split_ifs) <;> rfl
  have lower : (advanceToLowerState now current plan observed).1.policy.retainArtifact=
      retains (advanceToLowerState now current plan observed).1.course.state := by
    unfold advanceToLowerState advanceDrain advanceEviction
    cases current.state <;> dsimp only <;> split_ifs <;> rfl
  have back cause : (rollback current observed plan cause).1.policy.retainArtifact=
      retains (rollback current observed plan cause).1.course.state := by
    unfold rollback
    split_ifs <;> rfl
  unfold advance
  repeat' split
  all_goals first
    | exact ready
    | exact lower
    | exact back _
    | rfl

end KServeLLM.Residency
