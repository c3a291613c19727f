import KServeLLM.Controller.OnboardingPipeline
import KServeLLM.Framework.Execution

namespace KServeLLM.Controller.Onboarding

abbrev History := List (Step Stored Round Answer)

def successes (tr : History) : List Nat := tr.filterMap fun st =>
    match st.answer.executed with
    | some (i,true) => some i
    | _ => none

def InOrder (tr : History) : Prop :=
  ∀pre st,pre++[st] <+: tr → ∀i ok,st.answer.executed=some (i,ok) → ∀j < i,j∈successes pre

variable (generation : Int64) (spec : Spec)

inductive Effect (s t : Status) : Option (Nat×Bool) → Prop
  | idle (stage : t.currentStage=s.currentStage)
      (phase : t.phase=phaseCompleted →
        s.phase=phaseCompleted ∨ spec.stages.length ≤ nextStageIndex spec s) : Effect s t none
  | executed (stage : Stage) (ok : Bool) (found : spec.stages[nextStageIndex spec s]?=some stage)
      (phase : t.phase=phaseCompleted → s.phase=phaseCompleted)
      (recorded : t.currentStage=s.currentStage ∨ ok=true ∧ t.currentStage=stage.name) :
      Effect s t (some (nextStageIndex spec s,ok))

section

variable (patch : Option ApiError) (c : Copies) (phase stage reason message : String)

theorem transition_phase :
    (transition generation patch c phase stage reason message).1.stored.phase=c.stored.phase ∨
      (transition generation patch c phase stage reason message).1.stored.phase=phase := by
  cases patch with
  | some err => exact .inl rfl
  | none =>
    by_cases same : phase=c.copy.phase
    · exact .inl (if_pos same)
    · exact .inr (if_neg same)

theorem transition_stage :
    (transition generation patch c phase stage reason message).1.stored.currentStage=
        c.stored.currentStage ∨
      (transition generation patch c phase stage reason message).1.stored.currentStage=stage := by
  cases patch with
  | some err => exact .inl rfl
  | none =>
    by_cases named : stage=""
    · simp [transition,mergePatch,transitioned,named]
    · simp only [transition,mergePatch,transitioned,if_pos named]
      split
      · exact .inl rfl
      · exact .inr rfl

theorem transition_completed (other : phase≠phaseCompleted)
    (completed : (transition generation patch c phase stage reason message).1.stored.phase=
      phaseCompleted) : c.stored.phase=phaseCompleted := by
  rcases transition_phase generation patch c phase stage reason message with kept | written
  · exact kept.symm.trans completed
  · exact absurd (written.symm.trans completed) other

theorem transition_stage_kept (same : stage="" ∨ stage=c.copy.currentStage) :
    (transition generation patch c phase stage reason message).1.stored.currentStage=
      c.stored.currentStage := by
  cases patch with
  | some err => rfl
  | none =>
    rcases same with rfl | rfl
    · simp [transition,mergePatch,transitioned]
    · simp [transition,mergePatch,transitioned]

end

variable (round : Round) {err : String}

theorem failure_stage {c : Copies} :
    (handlePipelineFailure generation spec round c err).stored.currentStage=
      c.stored.currentStage := by
  unfold handlePipelineFailure
  split <;> exact transition_stage_kept _ _ _ _ _ _ _ (.inr rfl)

theorem failure_phase {c : Copies}
    (completed : (handlePipelineFailure generation spec round c err).stored.phase=phaseCompleted) :
    c.stored.phase=phaseCompleted := by
  unfold handlePipelineFailure at completed
  split at completed
  · exact transition_completed _ _ _ phaseRolledBack _ _ _ (by decide) completed
  · exact transition_completed _ _ _ phaseFailed _ _ _ (by decide) completed

variable {s : Status}

theorem last_recorded (some_stage : spec.stages≠[])
    (past : spec.stages[nextStageIndex spec s]?=none) :
    (spec.stages.getLast?.map (·.name)).getD ""=s.currentStage := by
  have long := List.getElem?_eq_none_iff.mp past
  have pos := List.length_pos_iff.mpr some_stage
  unfold nextStageIndex at long
  split at long
  · omega
  · split at long
    · rename_i i found
      obtain ⟨_,name,_⟩ := List.findIdx?_eq_some_iff_getElem.mp found
      have last : spec.stages.length-1=i := by omega
      rw [List.getLast?_eq_getElem?,last,List.getElem?_eq_getElem]
      simpa using name
    · omega

theorem advancePipeline_effect (svc : InferenceService) (s : Status) :
    Effect spec s (advancePipeline generation spec round svc ⟨s,s⟩).1.stored
      (advancePipeline generation spec round svc ⟨s,s⟩).2.1 := by
  unfold advancePipeline
  by_cases empty : spec.stages.isEmpty
  · have none_left : spec.stages.length ≤ nextStageIndex spec s := by
      simp [List.isEmpty_iff.mp empty]
    rw [if_pos empty]
    exact .idle (transition_stage_kept _ _ _ _ _ _ _ (.inl rfl)) fun _ => .inr none_left
  · rw [if_neg empty]
    have some_stage : spec.stages≠[] := fun h => empty (List.isEmpty_iff.mpr h)
    cases found : spec.stages[nextStageIndex spec s]? with
    | none =>
      have none_left := List.getElem?_eq_none_iff.mp found
      simp only [found]
      exact .idle (transition_stage_kept _ _ _ _ _ _ _ (.inr (last_recorded spec some_stage found)))
        fun _ => .inr none_left
    | some stage =>
      simp only [found]
      cases executeStage round.metrics spec svc stage with
      | error e => exact .executed stage false found id (.inl rfl)
      | ok _ =>
        refine .executed stage true found (fun completed => ?_) ?_
        · exact transition_completed _ _ ⟨s,s⟩ phaseInProgress _ _ _ (by decide) completed
        · exact (transition_stage ..).imp id fun named => ⟨rfl,named⟩

theorem Effect.then {spec : Spec} {t u : Status} {executed : Option (Nat×Bool)}
    (effect : Effect spec s t executed) (stage : u.currentStage=t.currentStage)
    (phase : u.phase=phaseCompleted → t.phase=phaseCompleted) : Effect spec s u executed := by
  cases effect with
  | idle same completed => exact .idle (stage.trans same) fun h => completed (phase h)
  | executed st ok found completed recorded =>
    refine .executed st ok found (fun h => completed (phase h)) ?_
    rw [stage]
    exact recorded

theorem reconcileOnboardingPipeline_effect :
    Effect spec s (reconcileOnboardingPipeline generation spec round s).1
      (reconcileOnboardingPipeline generation spec round s).2.executed := by
  unfold reconcileOnboardingPipeline
  cases round.service with
  | error err =>
    cases err with
    | notFound =>
      refine .idle (transition_stage_kept _ _ _ _ _ _ _ (.inl rfl)) fun completed => ?_
      exact .inl (transition_completed _ _ ⟨s,s⟩ phaseFailed _ _ _ (by decide) completed)
    | other text => exact .idle rfl .inl
  | ok svc =>
    have effect := advancePipeline_effect generation spec round svc s
    dsimp only
    generalize advancePipeline generation spec round svc ⟨s,s⟩=result at effect
    rcases result with ⟨c,_,err | _⟩
    · exact effect.then (failure_stage generation spec round) (failure_phase generation spec round)
    · exact effect

theorem reconcile_effect (s : Stored) (round : Round) :
    Effect spec s.status (reconcile generation spec s round).1.status
      (reconcile generation spec s round).2.executed := by
  have still : Effect spec s.status s.status none := .idle rfl .inl
  unfold reconcile
  cases round.load with
  | some err => cases err <;> exact still
  | none =>
    dsimp only
    split
    · split
      · exact still
      · cases round.update <;> exact still
    · split
      · exact still
      · split
        · exact still
        · split
          · refine .idle (transition_stage_kept _ _ _ _ _ _ _ (.inl rfl)) fun completed => ?_
            exact .inl (transition_completed _ _ ⟨s.status,s.status⟩ phasePending _ _ _ (by decide)
              completed)
          · exact reconcileOnboardingPipeline_effect generation spec round

structure Reached (tr : History) (s : Status) (m : Nat) : Prop where
  inOrder : InOrder tr
  succeeded : (List.range m).Sublist (successes tr)
  recorded : s.currentStage="" ∨ ∃j < m,∃stage,spec.stages[j]?=some stage ∧
    stage.name=s.currentStage
  completed : s.phase=phaseCompleted → spec.stages.length ≤ m

variable {m : Nat}

theorem nextStageIndex_le {spec : Spec}
    (recorded : s.currentStage="" ∨ ∃j < m,∃stage,spec.stages[j]?=some stage ∧
      stage.name=s.currentStage) : nextStageIndex spec s ≤ m := by
  unfold nextStageIndex
  split
  · exact Nat.zero_le m
  · rename_i unnamed
    obtain none_recorded | ⟨j,_,_,at_j,name⟩ := recorded
    · exact absurd (.inl none_recorded) unnamed
    · split
      · rename_i i found
        obtain ⟨_,_,first⟩ := List.findIdx?_eq_some_iff_getElem.mp found
        have le : i ≤ j := by
          by_contra _
          obtain ⟨_,value⟩ := List.getElem?_eq_some_iff.mp at_j
          have differs := first j (by omega)
          simp [value,name] at differs
        omega
      · exact Nat.zero_le m

variable {tr : History}

theorem Reached.next_le {spec : Spec} (h : Reached spec tr s m) : nextStageIndex spec s ≤ m :=
  nextStageIndex_le h.recorded

theorem successes_snoc (tr : History) (st : Step Stored Round Answer) :
    successes (tr++[st])=successes tr++successes [st] :=
  List.filterMap_append

theorem inOrder_snoc {st : Step Stored Round Answer} (old : InOrder tr)
    (last : ∀i ok,st.answer.executed=some (i,ok) → ∀j < i,j∈successes tr) :
    InOrder (tr++[st]) := by
  intro pre st' hp
  rcases List.prefix_concat_iff.mp hp with he | hp
  · obtain ⟨rfl,rfl⟩ : pre=tr ∧ st'=st := by simpa using he
    exact last
  · exact old pre st' hp

theorem Reached.step {spec : Spec} (s : Stored) (round : Round) (h : Reached spec tr s.status m) :
    ∃m',Reached spec (tr++[stepOf (reconcile generation spec) s round])
      (reconcile generation spec s round).1.status m' := by
  have effect := reconcile_effect generation spec s round
  have le := h.next_le
  have before j low : j∈successes tr := h.succeeded.subset (List.mem_range.mpr low)
  generalize answer : (reconcile generation spec s round).2.executed=executed at effect
  cases effect with
  | idle stage phase =>
    refine ⟨m,inOrder_snoc h.inOrder fun i ok he => ?_,?_,?_,fun completed => ?_⟩
    · exact absurd (answer.symm.trans he) (by simp)
    · rw [successes_snoc]
      exact h.succeeded.trans (List.sublist_append_left _ _)
    · rw [stage]
      exact h.recorded
    · rcases phase completed with already | _
      · exact h.completed already
      · omega
  | executed stage ok found phase recorded =>
    have order : InOrder (tr++[stepOf (reconcile generation spec) s round]) := by
      refine inOrder_snoc h.inOrder fun i ok' he j low => ?_
      obtain ⟨rfl,_⟩ : nextStageIndex spec s.status=i ∧ ok=ok' := by
        simpa using answer.symm.trans he
      exact before j (by omega)
    cases ok with
    | false =>
      refine ⟨m,order,?_,?_,fun completed => h.completed (phase completed)⟩
      · rw [successes_snoc]
        exact h.succeeded.trans (List.sublist_append_left _ _)
      · rw [recorded.resolve_right (by simp)]
        exact h.recorded
    | true =>
      have now : successes [stepOf (reconcile generation spec) s round]=
          [nextStageIndex spec s.status] := by
        simp [successes,stepOf,answer]
      -- a stage that is executed again leaves m; the next new one raises it
      refine ⟨max m (nextStageIndex spec s.status+1),order,?_,?_,fun completed => ?_⟩
      · rw [successes_snoc,now]
        rcases Nat.lt_or_ge (nextStageIndex spec s.status) m with again | new
        · rw [Nat.max_eq_left again]
          exact h.succeeded.trans (List.sublist_append_left _ _)
        · rw [Nat.max_eq_right (by omega),Nat.le_antisymm le new,List.range_succ]
          exact h.succeeded.append (List.Sublist.refl _)
      · rcases recorded with kept | ⟨_,named⟩
        · rw [kept]
          exact h.recorded.imp id fun ⟨j,low,rest⟩ => ⟨j,by omega,rest⟩
        · exact .inr ⟨_,by omega,stage,found,named.symm⟩
      · have := h.completed (phase completed)
        omega

theorem reached {finalizer : Bool} {rounds : List Round} :
    ∃m,Reached spec (trace (reconcile generation spec) ⟨{},finalizer⟩ rounds)
      (run (reconcile generation spec) ⟨{},finalizer⟩ rounds).status m := by
  refine run_induction (reconcile generation spec) (fun tr s => ∃m,Reached spec tr s.status m)
    ⟨{},finalizer⟩ ?_ ?_ rounds
  · refine ⟨0,fun pre st hp => ?_,by simp,.inl rfl,fun completed => ?_⟩
    · simp at hp
    · exact absurd (show ""=phaseCompleted from completed) (by decide)
  · rintro _ s round ⟨m,h⟩
    exact h.step generation s round

theorem completed_in_order (finalizer : Bool) (rounds : List Round) :
    InOrder (trace (reconcile generation spec) ⟨{},finalizer⟩ rounds) ∧
      ((run (reconcile generation spec) ⟨{},finalizer⟩ rounds).status.phase=phaseCompleted →
        (List.range spec.stages.length).Sublist
          (successes (trace (reconcile generation spec) ⟨{},finalizer⟩ rounds))) := by
  obtain ⟨m,h⟩ := reached generation spec
  refine ⟨h.inOrder,fun completed => ?_⟩
  exact (List.range_sublist.mpr (h.completed completed)).trans h.succeeded

def twoStages : Spec where
  modelRef := "model"
  stages := [⟨"check","validation",none⟩,⟨"promote","promotion",none⟩]
  rollbackOnFailure := true

def readyService : InferenceService where
  generation := 1
  conditions := [⟨"GatewayReady","True","","",1⟩]
  replicas := 1
  modelReady := true
  prefill := false

def readyRounds : List Round := List.replicate 4 {service := .ok readyService}

theorem two_stages_completed :
    (run (reconcile 1 twoStages) ⟨{},false⟩ readyRounds).status.phase=phaseCompleted ∧
      (List.range 2).Sublist (successes (trace (reconcile 1 twoStages) ⟨{},false⟩ readyRounds)) :=
  have completed : (run (reconcile 1 twoStages) ⟨{},false⟩ readyRounds).status.phase=
      phaseCompleted := by decide +kernel
  ⟨completed,(completed_in_order 1 twoStages false readyRounds).2 completed⟩

end KServeLLM.Controller.Onboarding
