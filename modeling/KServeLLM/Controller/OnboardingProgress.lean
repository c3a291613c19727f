import KServeLLM.Controller.OnboardingOrder

namespace KServeLLM.Controller.Onboarding

def executions (tr : History) : List Nat :=
  tr.filterMap fun st => st.answer.executed.map Prod.fst

variable (generation : Int64) (spec : Spec)

structure Findable : Prop where
  distinct : (spec.stages.map (·.name)).Nodup
  named : ""∉spec.stages.map (·.name)

structure Passes (round : Round) : Prop where
  load : round.load=none
  present : round.deleting=false
  update : round.update=none
  patch : round.patch=none
  service : ∃svc,round.service=.ok svc ∧
    ∀stage∈spec.stages,executeStage round.metrics spec svc stage=.ok ()

section

variable {spec}

def Lost (spec : Spec) (b : Nat) : Prop :=
  ∃stage,spec.stages[b]?=some stage ∧
    (stage.name="" ∨ ∃i < b,∃first,spec.stages[i]?=some first ∧ first.name=stage.name)

theorem exists_lost (unfindable : ¬Findable spec) : ∃b,Lost spec b := by
  by_cases named : ""∈spec.stages.map (·.name)
  · obtain ⟨stage,mem,empty⟩ := List.mem_map.mp named
    obtain ⟨b,at_b⟩ := List.mem_iff_getElem?.mp mem
    exact ⟨b,stage,at_b,.inl empty⟩
  · have repeated : ¬(spec.stages.map (·.name)).Nodup := fun distinct =>
      unfindable ⟨distinct,named⟩
    rw [List.Nodup,List.pairwise_iff_getElem] at repeated
    push Not at repeated
    obtain ⟨i,b,low,high,lt,same⟩ := repeated
    rw [List.length_map] at low high
    refine ⟨b,spec.stages[b],List.getElem?_eq_getElem high,.inr ⟨i,lt,spec.stages[i],
      List.getElem?_eq_getElem low,?_⟩⟩
    simpa using same

structure Stuck (spec : Spec) (b : Nat) (s : Status) : Prop where
  recorded : s.currentStage="" ∨ ∃j < b,∃stage,spec.stages[j]?=some stage ∧
    stage.name=s.currentStage
  open_ : s.phase≠phaseCompleted

theorem Stuck.step {b : Nat} (lost : Lost spec b) {s : Stored} (stuck : Stuck spec b s.status)
    (round : Round) : Stuck spec b (reconcile generation spec s round).1.status := by
  obtain ⟨_,at_b,why⟩ := lost
  have inside : b < spec.stages.length := (List.getElem?_eq_some_iff.mp at_b).1
  have le := nextStageIndex_le stuck.recorded
  have effect := reconcile_effect generation spec s round
  generalize (reconcile generation spec s round).2.executed=executed at effect
  cases effect with
  | idle stage phase =>
    refine ⟨?_,fun completed => ?_⟩
    · rw [stage]
      exact stuck.recorded
    · rcases phase completed with already | _
      · exact stuck.open_ already
      · omega
  | executed stage ok found phase recorded =>
    refine ⟨?_,fun completed => stuck.open_ (phase completed)⟩
    rcases recorded with kept | ⟨_,named⟩
    · rw [kept]
      exact stuck.recorded
    · rcases Nat.lt_or_ge (nextStageIndex spec s.status) b with before | there
      · exact .inr ⟨_,before,stage,found,named.symm⟩
      · -- the lost stage itself: what is recorded leads back to a stage before it
        rw [Nat.le_antisymm le there,at_b] at found
        obtain rfl := Option.some.inj found
        rcases why with empty | ⟨i,lt,first,at_i,same⟩
        · exact .inl (named.trans empty)
        · exact .inr ⟨i,lt,first,at_i,same.trans named.symm⟩

theorem lost_never_completes {b : Nat} (lost : Lost spec b) {finalizer : Bool}
    {rounds : List Round} :
    (run (reconcile generation spec) ⟨{},finalizer⟩ rounds).status.phase≠phaseCompleted := by
  have start : Stuck spec b {} := ⟨.inl rfl,by decide⟩
  have stuck := run_induction (reconcile generation spec) (fun _ s => Stuck spec b s.status)
    ⟨{},finalizer⟩ start (fun _ s round h => h.step generation lost round) rounds
  exact stuck.open_

end

section

variable {spec} {round : Round} {s : Status}

theorem mergePatch_self (s t : Status) : mergePatch s s t=t := by
  have keep {α : Type} [DecidableEq α] (a b : α) : (if a=b then b else a)=a := by
    split_ifs with same
    · exact same.symm
    · rfl
  cases t
  simp [mergePatch,keep]

theorem transition_patched (s : Status) (phase stage reason message : String) :
    transition generation none ⟨s,s⟩ phase stage reason message=
      (⟨transitioned generation s phase stage reason message,
        transitioned generation s phase stage reason message⟩,.ok 0) := by
  simp [transition,mergePatch_self]

theorem nextStageIndex_pending (pending : s.phase=phasePending) : nextStageIndex spec s=0 :=
  if_pos (.inr pending)

theorem nextStageIndex_recorded (findable : Findable spec) {m : Nat} {stage : Stage}
    (at_m : spec.stages[m]?=some stage) (name : s.currentStage=stage.name)
    (running : s.phase=phaseInProgress) : nextStageIndex spec s=m+1 := by
  obtain ⟨inside,rfl⟩ := List.getElem?_eq_some_iff.mp at_m
  have found : spec.stages.findIdx? (fun x => x.name=spec.stages[m].name)=some m := by
    refine List.findIdx?_eq_some_iff_getElem.mpr ⟨inside,by simp,fun j before same => ?_⟩
    have high : m < (spec.stages.map (·.name)).length := by rw [List.length_map]; omega
    have names : (spec.stages.map (·.name))[j]=(spec.stages.map (·.name))[m] := by
      simpa using same
    have eq := findable.distinct.getElem_inj_iff.mp names
    omega
  have named : spec.stages[m].name≠"" := fun empty =>
    findable.named (empty ▸ List.mem_map_of_mem (List.getElem_mem inside))
  unfold nextStageIndex
  rw [name,running,if_neg (by simp [named,phaseInProgress,phasePending]),found]

section

variable (pass : Passes spec round)

include pass

variable {stored : Stored}

theorem reconcile_fresh (fresh : stored.status.phase="") :
    reconcile generation spec stored round=
      (⟨transitioned generation stored.status phasePending "" "Initialised"
        "Pipeline initialised, awaiting first stage",true⟩,⟨none,.ok 0⟩) := by
  simp [reconcile,pass.load,pass.present,pass.update,pass.patch,fresh,transition_patched,
    isTerminalOnboardingPhase,phaseCompleted,phaseRolledBack]

theorem reconcile_completed (completed : stored.status.phase=phaseCompleted) :
    reconcile generation spec stored round=({stored with finalizer := true},⟨none,.ok 0⟩) := by
  simp [reconcile,pass.load,pass.present,pass.update,completed,isTerminalOnboardingPhase]

theorem reconcile_running
    (running : stored.status.phase=phasePending ∨ stored.status.phase=phaseInProgress) :
    reconcile generation spec stored round=
      (⟨(reconcileOnboardingPipeline generation spec round stored.status).1,true⟩,
        (reconcileOnboardingPipeline generation spec round stored.status).2) := by
  rcases running with phase | phase <;>
    simp [reconcile,pass.load,pass.present,pass.update,phase,isTerminalOnboardingPhase,
      phaseCompleted,phaseRolledBack,phasePending,phaseInProgress]

theorem pipeline_stage {stage : Stage} (next : spec.stages[nextStageIndex spec s]?=some stage) :
    ∃t,reconcileOnboardingPipeline generation spec round s=
        (t,⟨some (nextStageIndex spec s,true),.ok requeueAfterStageTransition⟩) ∧
      t.phase=phaseInProgress ∧ (stage.name≠"" → t.currentStage=stage.name) := by
  obtain ⟨_,service,passing⟩ := pass.service
  have some_stage : ¬spec.stages.isEmpty := by
    intro empty
    simp [List.isEmpty_iff.mp empty] at next
  have passed := passing stage (List.mem_of_getElem? next)
  refine ⟨transitioned generation s phaseInProgress stage.name "StageComplete"
    ("stage "++stage.name.quote++" completed, advancing pipeline"),?_,rfl,fun named => if_pos named⟩
  simp only [reconcileOnboardingPipeline,service,advancePipeline,if_neg some_stage,next,passed,
    pass.patch,transition_patched,Except.map]

theorem pipeline_end (past : spec.stages.length ≤ nextStageIndex spec s) :
    ∃t,reconcileOnboardingPipeline generation spec round s=(t,⟨none,.ok 0⟩) ∧
      t.phase=phaseCompleted := by
  obtain ⟨_,service,-⟩ := pass.service
  have none_next : spec.stages[nextStageIndex spec s]?=none := List.getElem?_eq_none_iff.mpr past
  by_cases empty : spec.stages.isEmpty
  · simp only [reconcileOnboardingPipeline,service,advancePipeline,if_pos empty,pass.patch,
      transition_patched]
    exact ⟨_,rfl,rfl⟩
  · simp only [reconcileOnboardingPipeline,service,advancePipeline,if_neg empty,none_next,
      pass.patch,transition_patched]
    exact ⟨_,rfl,rfl⟩

end

end

structure Running (s : Status) (k : Nat) : Prop where
  phase : s.phase=phasePending ∨ s.phase=phaseInProgress
  next : nextStageIndex spec s=k

def After : Nat → Status → List Nat → Prop
  | 0,s,done => s.phase="" ∧ done=[]
  | k+1,s,done =>
      if k ≤ spec.stages.length then Running spec s k ∧ done=List.range k
      else s.phase=phaseCompleted ∧ done=List.range spec.stages.length

theorem executions_snoc (tr : History) (st : Step Stored Round Answer) :
    executions (tr++[st])=executions tr++(st.answer.executed.map Prod.fst).toList := by
  unfold executions
  cases h : st.answer.executed <;> simp [h]

variable {spec}

theorem Running.execute (findable : Findable spec) {s : Status} {k : Nat} (h : Running spec s k)
    (inside : k < spec.stages.length) {round : Round} (pass : Passes spec round) :
    ∃t result,reconcileOnboardingPipeline generation spec round s=(t,⟨some (k,true),result⟩) ∧
      Running spec t (k+1) := by
  have at_k : spec.stages[nextStageIndex spec s]?=some spec.stages[k] := by
    rw [h.next]
    exact List.getElem?_eq_getElem inside
  obtain ⟨t,result,phase,name⟩ := pipeline_stage generation pass at_k
  have named : spec.stages[k].name≠"" := fun empty =>
    findable.named (empty ▸ List.mem_map_of_mem (List.getElem_mem inside))
  rw [h.next] at result at_k
  exact ⟨t,_,result,.inr phase,nextStageIndex_recorded findable at_k (name named) phase⟩

theorem After.step (findable : Findable spec) {k : Nat} {tr : History} {s : Stored}
    (h : After spec k s.status (executions tr)) {round : Round} (pass : Passes spec round) :
    After spec (k+1) (reconcile generation spec s round).1.status
      (executions (tr++[stepOf (reconcile generation spec) s round])) := by
  rw [executions_snoc]
  cases k with
  | zero =>
    obtain ⟨fresh,none_yet⟩ := h
    have init := reconcile_fresh generation pass fresh
    simp only [stepOf,init,none_yet]
    exact ⟨⟨.inl rfl,nextStageIndex_pending rfl⟩,rfl⟩
  | succ k =>
    simp only [After] at h
    split_ifs at h with within
    · obtain ⟨running,done⟩ := h
      have step := reconcile_running generation pass running.phase
      rcases Nat.lt_or_ge k spec.stages.length with inside | past
      · obtain ⟨t,_,executed,next⟩ := running.execute generation findable inside pass
        simp only [stepOf,step,executed,After,done,if_pos (Nat.succ_le_of_lt inside)]
        exact ⟨next,List.range_succ.symm⟩
      · obtain ⟨t,ended,completed⟩ := pipeline_end generation pass (running.next ▸ past)
        simp only [stepOf,step,ended,After,done,if_neg (show ¬k+1 ≤ spec.stages.length by omega)]
        refine ⟨completed,?_⟩
        rw [Nat.le_antisymm within past]
        simp
    · obtain ⟨completed,done⟩ := h
      have rest := reconcile_completed generation pass completed
      simp only [stepOf,rest,After,done,if_neg (show ¬k+1 ≤ spec.stages.length by omega)]
      exact ⟨completed,by simp⟩

theorem after_rounds (findable : Findable spec) (finalizer : Bool) (rounds : List Round)
    (pass : ∀round∈rounds,Passes spec round) :
    After spec rounds.length
      (run (reconcile generation spec) ⟨{},finalizer⟩ rounds).status
      (executions (trace (reconcile generation spec) ⟨{},finalizer⟩ rounds)) := by
  induction rounds using List.reverseRecOn with
  | nil => exact ⟨rfl,rfl⟩
  | append_singleton rounds round ih =>
    rw [List.length_append,run_snoc,trace_snoc]
    have before := ih fun r mem => pass r (List.mem_append_left _ mem)
    exact before.step generation findable (pass round (by simp))

theorem completes_iff (spec : Spec) (finalizer : Bool) (rounds : List Round)
    (pass : ∀round∈rounds,Passes spec round) (enough : spec.stages.length+2 ≤ rounds.length) :
    ((run (reconcile generation spec) ⟨{},finalizer⟩
          (rounds.take (spec.stages.length+2))).status.phase=phaseCompleted ∧
        ∀i < spec.stages.length,
          (executions (trace (reconcile generation spec) ⟨{},finalizer⟩ rounds)).count i=1) ↔
      Findable spec := by
  constructor
  · rintro ⟨completed,-⟩
    by_contra unfindable
    obtain ⟨b,lost⟩ := exists_lost unfindable
    exact lost_never_completes generation lost completed
  · intro findable
    have some_left k : ¬spec.stages.length+1+k ≤ spec.stages.length := by omega
    constructor
    · have after := after_rounds generation findable finalizer
        (rounds.take (spec.stages.length+2)) fun r mem => pass r (List.mem_of_mem_take mem)
      rw [List.length_take,Nat.min_eq_left enough] at after
      simp only [After,if_neg (some_left 0)] at after
      exact after.1
    · intro i inside
      obtain ⟨k,long⟩ := Nat.exists_eq_add_of_le enough
      have after := after_rounds generation findable finalizer rounds pass
      rw [long,show spec.stages.length+2+k=spec.stages.length+1+k+1 by omega] at after
      simp only [After,if_neg (some_left k)] at after
      rw [after.2]
      exact List.count_eq_one_of_mem List.nodup_range (List.mem_range.mpr inside)

theorem readyRounds_pass : ∀round∈readyRounds,Passes twoStages round := by
  intro round mem
  obtain rfl := List.eq_of_mem_replicate mem
  exact ⟨rfl,rfl,rfl,rfl,readyService,rfl,by decide +kernel⟩

theorem two_stages_completed_once :
    (run (reconcile 1 twoStages) ⟨{},false⟩ (readyRounds.take 4)).status.phase=phaseCompleted ∧
      ∀i < 2,(executions (trace (reconcile 1 twoStages) ⟨{},false⟩ readyRounds)).count i=1 :=
  (completes_iff 1 twoStages false readyRounds readyRounds_pass (by decide)).mpr
    ⟨by decide,by decide⟩

def twoChecks : Spec where
  modelRef := "model"
  stages := [⟨"check","validation",none⟩,⟨"promote","promotion",none⟩,⟨"check","validation",none⟩]
  rollbackOnFailure := true

theorem twoChecks_lost : Lost twoChecks 2 :=
  ⟨⟨"check","validation",none⟩,rfl,.inr ⟨0,by decide,⟨"check","validation",none⟩,rfl,rfl⟩⟩

theorem repeated_name_never_completes :
    Passes twoChecks {service := .ok readyService} ∧
    ∀k,(run (reconcile 1 twoChecks) ⟨{},false⟩
      (List.replicate k {service := .ok readyService})).status.phase≠phaseCompleted :=
  ⟨⟨rfl,rfl,rfl,rfl,readyService,rfl,by decide +kernel⟩,
    fun _ => lost_never_completes 1 twoChecks_lost⟩

end KServeLLM.Controller.Onboarding
