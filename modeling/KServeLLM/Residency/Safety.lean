import KServeLLM.Framework.Execution
import KServeLLM.Residency.Course

namespace KServeLLM.Residency

def Action.destructive : Action → Bool
  | .stopRuntime | .evictArtifact => true
  | _ => false

def DetachesFirst (actions : List Action) : Prop :=
  ∀ pre a post,actions=pre++a::post → a.destructive → .detachRoute∈pre

variable {a : Action}

theorem detachesFirst_cons {as : List Action} : DetachesFirst (a::as) ↔
      a.destructive=false ∧ (a=.detachRoute ∨ DetachesFirst as) := by
  constructor
  · intro h
    refine ⟨?_,or_iff_not_imp_left.mpr fun other pre b post split hb => ?_⟩
    · by_contra hd
      simpa using h [] a as rfl (by simpa using hd)
    · have found := h (a::pre) b _ (congrArg _ split) hb
      exact (List.mem_cons.mp found).resolve_left (Ne.symm other)
  · rintro ⟨mild,rest⟩ pre b _ split hb
    cases pre with
    | nil =>
      obtain ⟨rfl,-⟩ := List.cons.inj split
      rw [mild] at hb
      cases hb
    | cons c pre =>
      obtain ⟨rfl,tail⟩ := List.cons.inj split
      rcases rest with rfl | rest
      · exact List.mem_cons_self
      · exact List.mem_cons_of_mem _ (rest pre b _ tail hb)

variable {actions : List Action}

theorem detachesFirst_of_mild (h : ∀a∈actions,a.destructive=false) : DetachesFirst actions := by
  intro pre a post split ha
  rw [h a (by simp [split])] at ha
  cases ha

def SafeActions (observed : Observation) (actions : List Action) : Prop :=
  (0 < observed.activeRequests → ∀a∈actions,a.destructive=false) ∧
  (observed.routeAttached → DetachesFirst actions)

variable {observed : Observation}

theorem safeActions_of_mild (h : ∀a∈actions,a.destructive=false) : SafeActions observed actions :=
  ⟨fun _ => h,fun _ => detachesFirst_of_mild h⟩

theorem failClosedActions_mild (observed : Observation) :
    ∀a∈failClosedActions observed,a.destructive=false := by
  unfold failClosedActions
  split_ifs <;> simp [Action.destructive]

theorem failClosedActions_attached (h : observed.routeAttached) :
    failClosedActions observed=[.detachRoute] := by simp [failClosedActions,h]

theorem safeActions_failClosed (idle : ¬0 < observed.activeRequests)
    (actions : List Action) : SafeActions observed (failClosedActions observed++actions) := by
  refine ⟨fun busy => absurd busy idle,fun attached => ?_⟩
  rw [failClosedActions_attached attached]
  exact (detachesFirst_cons).mpr ⟨rfl,.inl rfl⟩

variable {rollbackTarget : State}

theorem rollbackCourse_safe {observed : Observation} :
    SafeActions observed (rollbackCourse rollbackTarget observed).actions := by
  have close := failClosedActions_mild observed
  unfold rollbackCourse
  split_ifs with busy
  · refine safeActions_of_mild fun a ha => ?_
    rcases List.mem_append.mp ha with closing | waiting
    · exact close a closing
    · rw [List.mem_singleton.mp waiting]
      rfl
  all_goals first
    | exact safeActions_failClosed busy _
    | exact safeActions_of_mild close

variable {requirePrefill : Bool} {state : State}

theorem readyCourse_mild {observed : Observation} :
    ∀a∈(readyCourse requirePrefill state observed).actions,a.destructive=false := by
  unfold readyCourse
  cases state <;> dsimp only <;> (try split_ifs) <;> simp [Action.destructive]

def DueUnfenced (target state : State) (observed : Observation) : Prop :=
  (state=.cached ∧ target=.cold) ∨
  (state=.evicting ∧ (observed.runtimeLoaded ∨ (target=.cold ∧ observed.artifactCached)))

theorem safeActions_nil (observed : Observation) : SafeActions observed [] :=
  safeActions_of_mild (by simp)

theorem safeActions_mild_singleton (observed : Observation)
    (h : a.destructive=false) : SafeActions observed [a] :=
  safeActions_of_mild (by simpa using h)

theorem safeActions_singleton (idle : ¬0 < observed.activeRequests) (h : a.destructive) :
    SafeActions observed [a] ↔ ¬observed.routeAttached := by
  constructor
  · intro safe attached
    have first := (detachesFirst_cons).mp (safe.2 attached)
    rw [first.1] at h
    cases h
  · exact fun off => ⟨fun busy => absurd busy idle,fun attached => absurd attached off⟩

variable {target : State}

theorem lowerCourse_evicting_safe_iff
    (ht : target=.cached ∨ target=.cold) (idle : ¬0 < observed.activeRequests) :
    SafeActions observed (lowerCourse target .evicting observed).actions ↔
      ¬(observed.routeAttached ∧ DueUnfenced target .evicting observed) := by
  have stop := safeActions_singleton idle (a := .stopRuntime) rfl
  have evict := safeActions_singleton idle (a := .evictArtifact) rfl
  have rest := safeActions_nil observed
  rcases ht with rfl | rfl <;> cases hl : observed.runtimeLoaded <;>
    cases ha : observed.artifactCached <;> simp [lowerCourse,DueUnfenced,hl,ha,stop,evict,rest]

theorem lowerCourse_draining_safe (ht : target=.cached ∨ target=.cold) {observed : Observation} :
    SafeActions observed (lowerCourse target .draining observed).actions := by
  have below : State.draining≠target := by rcases ht with rfl | rfl <;> decide
  unfold lowerCourse
  rw [if_neg below]
  dsimp only
  split_ifs with attached busy
  · exact safeActions_mild_singleton _ rfl
  · exact safeActions_mild_singleton _ rfl
  · exact (safeActions_singleton busy rfl).mpr attached

theorem lowerCourse_safe_iff
    (ht : target=.cached ∨ target=.cold) (fits : consistent state observed requirePrefill) :
    SafeActions observed (lowerCourse target state observed).actions ↔
      ¬(observed.routeAttached ∧ DueUnfenced target state observed) := by
  obtain ⟨-,-,-,owned⟩ := (consistent_iff).mp fits
  have rest := safeActions_nil observed
  cases state with
  | evicting =>
    exact lowerCourse_evicting_safe_iff ht (fun busy => by simpa using owned busy)
  | draining =>
    simpa [DueUnfenced] using lowerCourse_draining_safe ht
  | loading | warming =>
    have closed := safeActions_failClosed (fun busy => by simpa using owned busy) [.stopRuntime]
    rcases ht with rfl | rfl <;> simpa [lowerCourse,DueUnfenced] using closed
  | ready =>
    have detach := safeActions_mild_singleton observed (a := .detachRoute) rfl
    rcases ht with rfl | rfl <;> simpa [lowerCourse,DueUnfenced] using detach
  | cached =>
    have evict := safeActions_singleton (fun busy => by simpa using owned busy)
      (a := .evictArtifact) rfl
    rcases ht with rfl | rfl <;> simp [lowerCourse,DueUnfenced,rest,evict]
  | cold =>
    have cache := safeActions_mild_singleton observed (a := .cacheArtifact) rfl
    rcases ht with rfl | rfl <;> simp [lowerCourse,DueUnfenced,rest,cache]
  | other text =>
    rcases ht with rfl | rfl <;> simp [lowerCourse,DueUnfenced,rest]

def SkipsDetach (now : Time) (current : Snapshot) (plan : Plan) (observed : Observation) : Prop :=
  (plan.target=.cached ∨ plan.target=.cold) ∧ observed.failure="" ∧
  overdue now current=false ∧ consistent current.state observed plan.requirePrefill ∧
  observed.routeAttached ∧ DueUnfenced plan.target current.state observed

theorem advance_safe_iff {now : Time} {current : Snapshot} {plan : Plan} {observed : Observation} :
    SafeActions observed (advance now current plan observed).1.actions ↔
      ¬SkipsDetach now current plan observed := by
  change SafeActions observed (advance now current plan observed).1.course.actions ↔ _
  rw [advance_course]
  unfold courseOf SkipsDetach
  split_ifs with accepted failed fits
  · refine iff_of_true (rollbackCourse_safe) ?_
    rintro ⟨-,clean,early,-⟩
    simp [clean,early] at failed
  · unfold targetCourse
    split_ifs with ready
    · refine iff_of_true (safeActions_of_mild (readyCourse_mild)) ?_
      rintro ⟨ht,-⟩
      simp [ready] at ht
    · have lower := (stable_iff.mp accepted.2).resolve_left ready
      rw [lowerCourse_safe_iff lower fits]
      simp_all
  · refine iff_of_true (safeActions_of_mild (failClosedActions_mild _)) ?_
    rintro ⟨-,-,-,consistent,-⟩
    exact fits consistent
  · -- a refused plan requests nothing, and the condition speaks of accepted ones
    refine iff_of_true (safeActions_nil _) ?_
    rintro ⟨ht,-,-,-,-,due⟩
    refine accepted ⟨?_,stable_iff.mpr (.inr ht)⟩
    rcases due with ⟨hs,-⟩ | ⟨hs,-⟩ <;> simp [hs,isKnownState]

structure Call where
  now : Time
  plan : Plan
  observed : Observation

def reconcile (current : Snapshot) (call : Call) : Snapshot×(Decision×Option Error) :=
  let answer := advance call.now current call.plan call.observed
  (answer.1.snapshot,answer)

theorem reconcile_safe_iff (start : Snapshot) (calls : List Call) : Always reconcile start calls
        (fun tr _ => ∀st∈tr,SafeActions st.call.observed st.answer.1.actions) ↔
      EachCall reconcile start calls (fun _ current call =>
        ¬SkipsDetach call.now current call.plan call.observed) :=
  always_steps_iff reconcile (fun current call => advance_safe_iff)

def attachedCached : Observation := ⟨true,false,true,false,true,false,0,""⟩

theorem cached_evicts_attached :
    ¬Always reconcile ⟨.cached,.cached,0,0⟩ [⟨1,⟨.cold,false,0⟩,attachedCached⟩]
      (fun tr _ => ∀st∈tr,SafeActions st.call.observed st.answer.1.actions) := by
  intro safe
  have attached := safe _ (List.prefix_refl _) _ List.mem_cons_self
  have evicts : DetachesFirst [.evictArtifact] := attached.2 rfl
  simpa [Action.destructive] using (detachesFirst_cons).mp evicts

def KeepsArtifact (d : Decision) : Prop := .evictArtifact∉d.actions ∧ d.policy.retainArtifact

def Course.keepsArtifact (c : Course) : Bool :=
  decide (.evictArtifact∉c.actions) && retains c.state

theorem keepsArtifact_advance (now : Time) (current : Snapshot) (plan : Plan)
    (observed : Observation) :
    KeepsArtifact (advance now current plan observed).1 ↔
      (courseOf (overdue now current) current plan observed).keepsArtifact := by
  rw [← advance_course]
  simp only [KeepsArtifact,Course.keepsArtifact,advance_retainArtifact,Bool.and_eq_true,
    decide_eq_true_eq]
  rfl

theorem failClosedActions_keeps (observed : Observation) :
    .evictArtifact∉failClosedActions observed := by
  intro evicts
  cases failClosedActions_mild _ _ evicts

def RollbackKeeps (rollbackTarget : State) (observed : Observation) : Prop :=
  0 < observed.activeRequests ∨ (observed.runtimeLoaded=false ∧ rollbackTarget=.cached)

theorem rollbackCourse_keeps_iff (ha : observed.artifactCached) :
    (rollbackCourse rollbackTarget observed).keepsArtifact ↔
      RollbackKeeps rollbackTarget observed := by
  have close := failClosedActions_keeps observed
  unfold rollbackCourse RollbackKeeps
  split_ifs with busy loaded target <;>
    simp_all [Course.keepsArtifact,retains]

theorem readyCourse_keeps (hs : isKnownState state) (ha : observed.artifactCached) :
    (readyCourse requirePrefill state observed).keepsArtifact := by
  unfold readyCourse
  cases state <;> dsimp only <;> (try split_ifs) <;>
    simp_all [Course.keepsArtifact,retains]

def DescentKeeps (state : State) (observed : Observation) : Prop := state=.cached ∨ state=.ready ∨
  (state=.draining ∧ (observed.routeAttached ∨ 0 < observed.activeRequests)) ∨
  (state=.evicting ∧ observed.runtimeLoaded=false)

theorem lowerCourse_keeps_iff (hs : isKnownState state) (ha : observed.artifactCached) :
    (lowerCourse .cached state observed).keepsArtifact ↔ DescentKeeps state observed := by
  unfold lowerCourse DescentKeeps
  cases state <;> dsimp only <;> (try split_ifs) <;>
    simp_all [Course.keepsArtifact,retains,isKnownState]

def ArtifactSafe (now : Time) (current : Snapshot) (plan : Plan) (observed : Observation) : Prop :=
  isKnownState current.state →
    if observed.failure≠"" ∨ overdue now current then
      RollbackKeeps current.rollbackTarget observed
    else if consistent current.state observed plan.requirePrefill then
      plan.target=.ready ∨ DescentKeeps current.state observed
    else current.state≠.cold ∧ current.state≠.evicting

theorem advance_keepsArtifact_iff (now : Time) (current : Snapshot) (plan : Plan)
    (observed : Observation) (ht : plan.target=.ready ∨ plan.target=.cached)
    (ha : observed.artifactCached) :
    KeepsArtifact (advance now current plan observed).1 ↔
      ArtifactSafe now current plan observed := by
  have accepted : stable plan.target := by rcases ht with ht | ht <;> simp [ht,stable]
  rw [keepsArtifact_advance]
  unfold courseOf ArtifactSafe
  by_cases known : isKnownState current.state
  · rw [if_pos ⟨known,accepted⟩]
    simp only [known,forall_const]
    split_ifs with failed fits
    · exact rollbackCourse_keeps_iff ha
    · unfold targetCourse
      rcases ht with ht | ht
      · simpa [ht] using readyCourse_keeps known ha
      · simpa [ht] using lowerCourse_keeps_iff known ha
    · simp [Course.keepsArtifact,retains,failClosedActions_keeps]
  · have refused : current.state≠.cold ∧ current.state≠.evicting := by
      constructor <;> intro hs <;> simp [hs,isKnownState] at known
    simp [known,Course.keepsArtifact,retains,refused]

theorem evicted_runtime_keepsArtifact :
    KeepsArtifact (advance 2 ⟨.evicting,.ready,1,300⟩ ⟨.cached,false,0⟩
      ⟨true,false,false,false,false,false,0,""⟩).1 :=
  (advance_keepsArtifact_iff _ _ _ _ (.inr rfl) rfl).mpr (fun _ => by
    exact .inr (.inr (.inr (.inr ⟨rfl,rfl⟩))))

theorem failed_demotion_evicts :
    ¬KeepsArtifact (advance 2 ⟨.evicting,.ready,1,300⟩ ⟨.cached,false,0⟩
      ⟨true,false,false,false,false,false,0,"stop hook failed"⟩).1 := by
  unfold KeepsArtifact
  decide

end KServeLLM.Residency
