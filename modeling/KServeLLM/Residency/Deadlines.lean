import KServeLLM.Residency.Answers
import KServeLLM.Residency.Safety

namespace KServeLLM.Residency

structure Timed (s : Snapshot) : Prop where
  set : s.deadline≠0
  later : s.startedAt<s.deadline

def TimesOut (s : Snapshot) : Prop :=
  ∃limit : Time,∀now,limit ≤ now → ∀plan observed,stable plan.target → observed.failure="" →
    (advance now s plan observed).2=some (.sentinel .transitionTimeout)

structure Bounded (s : Snapshot) : Prop where
  target : stable s.rollbackTarget
  underway : isTransitional s.state → Timed s ∧ TimesOut s

theorem known_of_transitional {state : State} (running : isTransitional state) :
    isKnownState state := by
  cases state <;> simp_all [isTransitional,isKnownState]

theorem known_of_stable {state : State} (atRest : stable state) : isKnownState state := by
  cases state <;> simp_all [stable,isKnownState]

theorem stable_of_known {state : State} (known : isKnownState state)
    (still : ¬isTransitional state) : stable state := by
  cases state <;> simp_all [stable,isKnownState,isTransitional]

theorem not_transitional_of_stable {state : State} (atRest : stable state) :
    ¬isTransitional state := by
  cases state <;> simp_all [stable,isTransitional]

variable {s : Snapshot}

theorem overdue_of_stable (atRest : stable s.state) (now : Time) : overdue now s=false := by
  have still := not_transitional_of_stable atRest
  simp [overdue,still]

theorem rollback_cause (current : Snapshot) (observed : Observation) (plan : Plan)
    (cause : Error) : (rollback current observed plan cause).2=some cause := by
  unfold rollback
  split_ifs <;> rfl

theorem timesOut (running : isTransitional s.state) (set : s.deadline≠0) : TimesOut s := by
  refine ⟨s.deadline,fun now late plan observed target clean => ?_⟩
  have accepted : validatePlan s plan=none :=
    (validatePlan_eq_none s).mpr ⟨known_of_transitional running,target⟩
  have past : overdue now s=true := by
    simp [overdue,running,Time.isZero,Time.before,set,late]
  simp only [advance,accepted,clean,past]
  exact rollback_cause ..

theorem Timed.bounded (timed : Timed s) (target : stable s.rollbackTarget) : Bounded s :=
  ⟨target,fun running => ⟨timed,timesOut running timed.set⟩⟩

theorem bounded_of_stable (atRest : stable s.state)
    (target : stable s.rollbackTarget) : Bounded s :=
  ⟨target,fun running => absurd running (not_transitional_of_stable atRest)⟩

theorem bounded_settle (current : Snapshot) {state : State} (atRest : stable state) :
    Bounded (settle current state) :=
  bounded_of_stable atRest atRest

theorem bounded_move {current : Snapshot} {state : State} (b : Bounded current)
    (timed : Timed current) : Bounded (move current state) :=
  Timed.bounded ⟨timed.set,timed.later⟩ b.target

def LeavesUntimed (current : Snapshot) (call : Call) : Prop :=
  stable current.state ∧ stable call.plan.target ∧ ¬Timed current ∧
  (call.observed.failure≠"" ∧ RollbackRuns current.rollbackTarget call.observed ∨
    Ordinary call.now current call.plan call.observed ∧ call.plan.target=.ready ∧
      current.state=.ready ∧ call.observed.serves call.plan.requirePrefill=false)

def BeginsAtZero (current : Snapshot) (call : Call) : Prop :=
  Ordinary call.now current call.plan call.observed ∧
  Begins call.plan current.state call.observed ∧
  (begin call.now current current.state call.plan.timeout).deadline=0

section

variable (now : Time) (current : Snapshot) (state : State) (timeout : Duration)

theorem begin_later :
    (begin now current state timeout).startedAt<(begin now current state timeout).deadline := by
  have positive : 0 < (if timeout ≤ 0 then defaultTransitionTimeout else timeout).toInt := by
    split_ifs with none
    · decide
    · rw [Int64.not_le,Int64.lt_iff_toInt_lt] at none
      exact none
  exact Int.lt_add_of_pos_right now positive

theorem begin_target (known : isKnownState current.state) (target : stable current.rollbackTarget) :
    stable (begin now current state timeout).rollbackTarget := by
  simp only [begin]
  split_ifs with running
  · exact target
  · exact stable_of_known known running

end

section

variable {now : Time} {current : Snapshot} {plan : Plan} {observed : Observation}

theorem rollback_underway (runs : RollbackRuns current.rollbackTarget observed) {cause : Error} :
    ∃state,isTransitional state ∧
      (rollback current observed plan cause).1.snapshot=move current state := by
  unfold rollback
  split_ifs with busy loaded back cached
  · exact ⟨.draining,rfl,rfl⟩
  · exact ⟨.evicting,rfl,rfl⟩
  · exfalso
    rcases runs with h | h | ⟨_,h⟩
    · exact busy h
    · exact loaded h
    · exact h back.1
  · exact ⟨.evicting,rfl,rfl⟩
  · exfalso
    rcases runs with h | h | ⟨h,_⟩
    · exact busy h
    · exact loaded h
    · exact cached h

theorem begins_snapshot (calm : Ordinary now current plan observed)
    (begins : Begins plan current.state observed) :
    ∃state,isTransitional state ∧
      (advance now current plan observed).1.snapshot=begin now current state plan.timeout := by
  rw [advance_ordinary calm]
  unfold Begins at begins
  split_ifs at begins ⊢ with ready
  · rcases begins with ⟨state,cached⟩ | ⟨state | state,down⟩
    · exact ⟨.loading,rfl,by simp [advanceToReady,state,cached,decision]⟩
    · exact ⟨.warming,rfl,by simp [advanceToReady,state,resumeReady,down,decision]⟩
    · exact ⟨.warming,rfl,by simp [advanceToReady,state,resumeReady,down,decision]⟩
  · obtain ⟨below,state | state | state | state⟩ := begins
    all_goals rw [state] at below
    · exact ⟨.draining,rfl,by simp [advanceToLowerState,state,below,decision]⟩
    · exact ⟨.evicting,rfl,by simp [advanceToLowerState,state,below,decision]⟩
    · exact ⟨.evicting,rfl,by simp [advanceToLowerState,state,below,decision]⟩
    · exact ⟨.evicting,rfl,by simp [advanceToLowerState,state,below,decision]⟩

end

theorem not_bounded_of_untimed {current : Snapshot} {call : Call}
    (untimed : LeavesUntimed current call) : ¬Bounded (reconcile current call).1 := by
  obtain ⟨atRest,target,unset,why⟩ := untimed
  have moved : ∃state,isTransitional state ∧ (reconcile current call).1=move current state := by
    rcases why with ⟨failed,runs⟩ | ⟨calm,ready,state,down⟩
    · have accepted : validatePlan current call.plan=none :=
        (validatePlan_eq_none _).mpr ⟨known_of_stable atRest,target⟩
      simp only [reconcile,advance,accepted,failed,ne_eq]
      exact rollback_underway runs
    · refine ⟨.warming,rfl,?_⟩
      simp only [reconcile]
      rw [advance_ordinary calm,if_pos ready]
      simp [advanceToReady,state,recoverReady,down,decision]
  obtain ⟨_,running,moved⟩ := moved
  rw [moved]
  intro b
  have timed := (b.underway running).1
  exact unset ⟨timed.set,timed.later⟩

theorem not_bounded_of_zero {current : Snapshot} {call : Call}
    (zero : BeginsAtZero current call) : ¬Bounded (reconcile current call).1 := by
  obtain ⟨calm,begins,unset⟩ := zero
  obtain ⟨_,running,begun⟩ := begins_snapshot calm begins
  change ¬Bounded (advance call.now current call.plan call.observed).1.snapshot
  rw [begun]
  intro b
  exact (b.underway running).1.set unset

theorem reconcile_bounded {current : Snapshot} {call : Call} (b : Bounded current)
    (timed : ¬LeavesUntimed current call) (nonzero : ¬BeginsAtZero current call) :
    Bounded (reconcile current call).1 := by
  have form : Answered call.now current call.plan call.observed
      (advance call.now current call.plan call.observed) := advance_answered
  change Bounded (advance call.now current call.plan call.observed).1.snapshot
  generalize advance _ _ _ _=answer at form
  have clocked atRest target why : Timed current :=
    not_not.mp fun unset => timed ⟨atRest,target,unset,why⟩
  cases form with
  | refused | violated | kept => exact b
  | backAtRest low => exact bounded_settle current (by rcases low with rfl | rfl <;> rfl)
  | settled atRest => exact bounded_settle current atRest
  | begun calm begins =>
    have set : (begin call.now current current.state call.plan.timeout).deadline≠0 :=
      fun zero => nonzero ⟨calm,begins,zero⟩
    exact Timed.bounded ⟨set,begin_later ..⟩ (begin_target _ _ _ _ calm.known b.target)
  | continued running => exact bounded_move b (b.underway running).1
  | backUnderway low closing cause known target runs =>
    by_cases running : isTransitional current.state
    · exact bounded_move b (b.underway running).1
    · have atRest := stable_of_known known running
      have failed : call.observed.failure≠"" := by
        rcases cause with failed | late
        · exact failed
        · rw [overdue_of_stable atRest] at late
          cases late
      exact bounded_move b (clocked atRest target (.inl ⟨failed,runs⟩))
  | fellBack calm target state down =>
    have atRest : stable current.state := by rw [state]; rfl
    exact bounded_move b (clocked atRest calm.target (.inr ⟨calm,target,state,down⟩))

theorem transitions_bounded_iff (start : Snapshot) (calls : List Call)
    (atRest : stable start.state) :
    Always reconcile start calls (fun _ s => Bounded s) ↔ stable start.rollbackTarget ∧
      EachCall reconcile start calls (fun _ current call =>
        ¬LeavesUntimed current call ∧ ¬BeginsAtZero current call) := by
  have exact_from (target : stable start.rollbackTarget) :
      Always reconcile start calls (fun _ s => Bounded s) ↔
        EachCall reconcile start calls (fun _ current call =>
          ¬LeavesUntimed current call ∧ ¬BeginsAtZero current call) := by
    refine always_iff_eachCall reconcile (fun _ _ => True) _ _ start trivial
      (bounded_of_stable atRest target) ?_ ?_ calls
    · intro tr current call _ b meets
      exact ⟨trivial,reconcile_bounded b meets.1 meets.2⟩
    · intro tr current call _ _ next
      exact ⟨fun untimed => not_bounded_of_untimed untimed next,
        fun zero => not_bounded_of_zero zero next⟩
  constructor
  · intro always
    have target : stable start.rollbackTarget := (always [] List.nil_prefix).target
    exact ⟨target,(exact_from target).mp always⟩
  · rintro ⟨target,meets⟩
    exact (exact_from target).mpr meets

def loadCall : Call := ⟨1,⟨.ready,false,0⟩,⟨true,false,false,false,false,false,0,""⟩⟩

theorem loading_bounded : stable State.cached ∧
      Always reconcile ⟨.cached,.cached,0,0⟩ [loadCall] (fun _ s => Bounded s) := by
  refine ⟨rfl,(transitions_bounded_iff ⟨.cached,.cached,0,0⟩ [loadCall] rfl).mpr ⟨rfl,?_⟩⟩
  refine (eachCall_cons ..).mpr ⟨⟨?_,?_⟩,fun pre call hp => by simp at hp⟩
  · rintro ⟨-,-,-,⟨failed,-⟩ | ⟨-,-,state,-⟩⟩
    · exact failed rfl
    · cases state
  · rintro ⟨-,-,zero⟩
    exact absurd zero (by decide)

def lostCall (now : Time) : Call := ⟨now,⟨.ready,false,0⟩,⟨true,true,false,false,false,false,0,""⟩⟩

theorem lost_runtime_never_times_out :
    ¬Always reconcile ⟨.ready,.ready,0,0⟩ [lostCall 1] (fun _ s => Bounded s) ∧
    ∀now,(reconcile (run reconcile ⟨.ready,.ready,0,0⟩ [lostCall 1]) (lostCall now)).1=
        ⟨.warming,.ready,0,0⟩ ∧
      (reconcile (run reconcile ⟨.ready,.ready,0,0⟩ [lostCall 1]) (lostCall now)).2.2=none := by
  refine ⟨fun always => ?_,fun now => ⟨rfl,rfl⟩⟩
  have b : Bounded ⟨.warming,.ready,0,0⟩ := always [lostCall 1] (List.prefix_refl _)
  exact (b.underway rfl).1.set rfl

end KServeLLM.Residency
