import KServeLLM.Api.RoundTrip
import KServeLLM.Controller.SessionReconciler
import KServeLLM.Framework.Execution

namespace KServeLLM.Controller

open Api

variable {K : Kubernetes}

structure View (K : Kubernetes) where
  model : Except ApiError String
  slices : Except ApiError (List EndpointSlice)
  sessions : List (Session K)

def View.answers (view : View K) (session : Session K) : Answers K :=
  ⟨.ok session,view.model,view.slices,view.sessions,none⟩

inductive Call (K : Kubernetes) where
  | reconcile (view : View K) (now : Time)
  | recordActivity (tokenCount : Int64) (now : Time)

def sessionStep (ns : String) (s : Session K) :
    Call K → Session K×Except ApiError (Option Duration)
  | .reconcile view now =>
    let done := SessionReconciler.reconcile (view.answers s) ns now
    (done.written.getD s,done.result.map some)
  | .recordActivity tokenCount now =>
    let done := SessionRouter.recordActivity (.ok s) none tokenCount now
    (done.written.getD s,done.result.map fun _ => none)

namespace Session

abbrev Over (s : Session K) : Prop := isTerminalSessionPhase s.status.phase=true

abbrev Spent (s : Session K) : Prop :=
  0 < s.spec.maxTurns ∧ s.spec.maxTurns ≤ s.status.turnCount

def boundTo (s : Session K) (endpoint : String) : Session K :=
  {s with status := {s.status with boundEndpoint := endpoint, phase := sessionPhaseActive}}

def active (s : Session K) (tokenCount : Int64) (now : Time) : Session K :=
  {s with status := {s.status with
    turnCount := s.status.turnCount+1
    tokenCount := s.status.tokenCount+tokenCount
    lastActivityTime := some now
    phase := sessionPhaseActive}}

def Rebinds (s t : Session K) : Prop := t=s ∨ ¬s.Over ∧ ∃ endpoint,t=s.boundTo endpoint

end Session

theorem dropStaleBinding_rebinds (answers : Answers K) (ns : String) (s : Session K) :
    s.Rebinds (dropStaleBinding answers ns s) := by
  unfold dropStaleBinding
  split
  · rename_i bound
    cases validateEndpoint answers ns s with
    | none => exact .inl rfl
    | some err => exact .inr ⟨by simpa using bound.2,"",rfl⟩
  · exact .inl rfl

theorem bindSession_written (view : View K) (ns : String) (s : Session K) :
    ∃ t,(bindSession (view.answers s) ns s).written=some t ∧ s.Rebinds t := by
  have kept := dropStaleBinding_rebinds (view.answers s) ns s
  unfold bindSession
  dsimp only
  split
  · rename_i unbound
    cases selectEndpoint (view.answers s) (dropStaleBinding (view.answers s) ns s) with
    | error err => exact ⟨_,rfl,kept⟩
    | ok endpoint =>
      refine ⟨_,rfl,.inr ?_⟩
      rcases kept with same | ⟨running,_,dropped⟩
      · rw [same] at unbound ⊢
        exact ⟨by simpa using unbound.2,endpoint,rfl⟩
      · rw [dropped]
        exact ⟨running,endpoint,rfl⟩
  · exact ⟨_,rfl,kept⟩

variable (ns : String)

theorem reconcile_bind {s : Session K} {view : View K} {now : Time}
    (idle : ¬(s.status.phase=sessionPhaseIdle ∧ isExpired s now)) (unspent : ¬s.Spent) :
    SessionReconciler.reconcile (view.answers s) ns now=bindSession (view.answers s) ns s := by
  unfold SessionReconciler.reconcile
  simp [View.answers,if_neg idle,if_neg unspent]

theorem reconcile_cases {s : Session K} (view : View K) (now : Time) :
    (s.status.phase=sessionPhaseIdle ∧ isExpired s now ∧
      (sessionStep ns s (.reconcile view now)).1=terminateSession s sessionPhaseEvicted) ∨
    (s.Spent ∧
      (sessionStep ns s (.reconcile view now)).1=terminateSession s sessionPhaseCompleted) ∨
    (¬(s.status.phase=sessionPhaseIdle ∧ isExpired s now) ∧ ¬s.Spent ∧
      s.Rebinds (sessionStep ns s (.reconcile view now)).1) := by
  by_cases idle : s.status.phase=sessionPhaseIdle ∧ isExpired s now=true
  · refine .inl ⟨idle.1,idle.2,?_⟩
    simp [sessionStep,SessionReconciler.reconcile,View.answers,idle,updateStatus]
  · by_cases spent : s.Spent
    · refine .inr (.inl ⟨spent,?_⟩)
      simp [sessionStep,SessionReconciler.reconcile,View.answers,if_neg idle,if_pos spent,
        updateStatus,Option.getD_some]
    · refine .inr (.inr ⟨idle,spent,?_⟩)
      obtain ⟨t,written,rebinds⟩ := bindSession_written view ns s
      simpa only [sessionStep,reconcile_bind ns idle spent,written,Option.getD_some] using rebinds

theorem recordActivity_step (s : Session K) (tokenCount : Int64) (now : Time) :
    (sessionStep ns s (.recordActivity tokenCount now)).1=s.active tokenCount now := rfl

@[simp]
theorem active_not_terminal : isTerminalSessionPhase sessionPhaseActive=false := by decide

@[simp]
theorem completed_terminal : isTerminalSessionPhase sessionPhaseCompleted=true := by decide

theorem over_iff {s : Session K} :
    s.Over ↔ s.status.phase=sessionPhaseEvicted ∨ s.status.phase=sessionPhaseCompleted := by
  simp [Session.Over,isTerminalSessionPhase]

theorem not_over_boundTo {s : Session K} {endpoint : String} : ¬(s.boundTo endpoint).Over := by
  simp [Session.boundTo]

theorem not_over_active (s : Session K) (tokenCount : Int64) (now : Time) :
    ¬(s.active tokenCount now).Over := by
  simp [Session.active]

theorem rebinds_spec {s t : Session K} (h : s.Rebinds t) : t.spec=s.spec := by
  rcases h with rfl | ⟨_,_,rfl⟩ <;> rfl

theorem rebinds_over {s t : Session K} (h : s.Rebinds t) : t.Over ↔ s.Over := by
  rcases h with rfl | ⟨running,_,rfl⟩
  · rfl
  · simp [running,not_over_boundTo]

theorem step_spec {s : Session K} {call : Call K} :
    (sessionStep ns s call).1.spec=s.spec := by
  cases call with
  | recordActivity tokenCount now => rfl
  | reconcile view now =>
    rcases reconcile_cases ns view now with ⟨_,_,eq⟩ | ⟨_,eq⟩ | ⟨_,_,rebinds⟩
    · rw [eq]; rfl
    · rw [eq]; rfl
    · exact rebinds_spec rebinds

theorem run_spec (s : Session K) (calls : List (Call K)) :
    (run (sessionStep ns) s calls).spec=s.spec := by
  induction calls generalizing s with
  | nil => rfl
  | cons call rest ih => exact (ih _).trans (step_spec ns)

structure Sound (s : Session K) : Prop where
  unbound : s.Over → s.status.boundEndpoint=""
  bounded : s.status.turnCount ≤ s.spec.maxTurns

def Call.Respects (s : Session K) : Call K → Prop
  | .reconcile _ _ =>
    ¬(s.status.phase=sessionPhaseEvicted ∧ s.spec.maxTurns ≤ s.status.turnCount)
  | .recordActivity _ _ =>
    ¬s.Over ∧ (s.status.turnCount < s.spec.maxTurns ∨ s.status.turnCount=Int32.maxValue)

instance instDecidableRespects (s : Session K) : (call : Call K) → Decidable (call.Respects s)
  | .reconcile _ _ => inferInstanceAs (Decidable (¬(_ ∧ _)))
  | .recordActivity _ _ => inferInstanceAs (Decidable (¬_ ∧ (_ ∨ _)))

theorem succ_le_iff {turns limit : Int32} (h : turns ≤ limit) :
    turns+1 ≤ limit ↔ turns < limit ∨ turns=Int32.maxValue := by
  constructor
  · intro next
    by_contra! full
    have same : turns=limit := Int32.le_antisymm h (Int32.not_lt.mp full.1)
    have room : turns < Int32.maxValue := Int32.lt_of_le_of_ne turns.le_maxValue full.2
    rw [Int32.le_iff_toInt_le,toInt_succ_of_lt room,same] at next
    omega
  · rintro (below | rfl)
    · rw [Int32.le_iff_toInt_le,toInt_succ_of_lt below]
      rw [Int32.lt_iff_toInt_lt] at below
      omega
    · exact limit.minValue_le

variable {s : Session K}

theorem respects_iff (limited : 0 < s.spec.maxTurns) (sound : Sound s) {call : Call K} :
    (Sound (sessionStep ns s call).1 ∧
      (s.Over → (sessionStep ns s call).1.status.phase=s.status.phase)) ↔ call.Respects s := by
  cases call with
  | recordActivity tokenCount now =>
    rw [recordActivity_step]
    constructor
    · rintro ⟨after,same⟩
      refine ⟨fun finished => ?_,(succ_le_iff sound.bounded).mp after.bounded⟩
      have running := not_over_active s tokenCount now
      rw [Session.Over,same finished] at running
      exact running finished
    · rintro ⟨running,room⟩
      have after : Sound (s.active tokenCount now) :=
        ⟨fun finished => absurd finished (not_over_active s tokenCount now),
          (succ_le_iff sound.bounded).mpr room⟩
      exact ⟨after,fun finished => absurd finished running⟩
  | reconcile view now =>
    rcases reconcile_cases ns view now with ⟨idle,_,eq⟩ | ⟨spent,eq⟩ | ⟨_,unspent,rebinds⟩
    · have running : ¬s.Over := by
        rw [over_iff,idle]
        decide
      have respected : Call.Respects s (.reconcile view now) := by
        rintro ⟨evicted,_⟩
        exact running ((over_iff).mpr (.inl evicted))
      simp only [eq,respected,iff_true]
      exact ⟨⟨fun _ => rfl,sound.bounded⟩,fun finished => absurd finished running⟩
    · have after : Sound (terminateSession s sessionPhaseCompleted) :=
        ⟨fun _ => rfl,sound.bounded⟩
      rw [eq]
      constructor
      · rintro ⟨_,same⟩ ⟨evicted,_⟩
        have changed : sessionPhaseCompleted=s.status.phase :=
          same ((over_iff).mpr (.inl evicted))
        rw [evicted] at changed
        exact absurd changed (by decide)
      · intro respected
        refine ⟨after,fun finished => ?_⟩
        rcases (over_iff).mp finished with evicted | completed
        · exact absurd ⟨evicted,spent.2⟩ respected
        · exact completed.symm
    · have respected : Call.Respects s (.reconcile view now) :=
        fun evicted => unspent ⟨limited,evicted.2⟩
      simp only [respected,iff_true]
      rcases rebinds with same | ⟨running,endpoint,eq⟩
      · rw [same]
        exact ⟨sound,fun _ => rfl⟩
      · rw [eq]
        refine ⟨⟨fun finished => absurd finished (not_over_boundTo),sound.bounded⟩,?_⟩
        exact fun finished => absurd finished running

structure Lawful (ns : String) (s : Session K) (calls : List (Call K)) : Prop where
  absorbed : ∀ before after,before++after <+: calls → (run (sessionStep ns) s before).Over →
    (run (sessionStep ns) s (before++after)).status.phase=
        (run (sessionStep ns) s before).status.phase ∧
      (run (sessionStep ns) s (before++after)).status.boundEndpoint=""
  bounded : ∀ before,before <+: calls →
    (run (sessionStep ns) s before).status.turnCount ≤ s.spec.maxTurns

theorem lawful_iff (ns : String) (s : Session K) (calls : List (Call K))
    (limited : 0 < s.spec.maxTurns) :
    Lawful ns s calls ↔
      Sound s ∧ EachCall (sessionStep ns) s calls (fun _ t call => call.Respects t) := by
  have limit before : 0 < (run (sessionStep ns) s before).spec.maxTurns := by
    rw [run_spec]
    exact limited
  constructor
  · intro lawful
    have sound before (reached : before <+: calls) :
        Sound (run (sessionStep ns) s before) := by
      refine ⟨fun finished => ?_,?_⟩
      · have stays := lawful.absorbed before [] (by simpa using reached) finished
        simpa using stays.2
      · rw [run_spec]
        exact lawful.bounded before reached
    refine ⟨sound [] (List.nil_prefix),fun before call reached => ?_⟩
    have earlier := sound before ((List.prefix_append _ _).trans reached)
    apply (respects_iff ns (limit before) earlier).mp
    rw [← run_snoc]
    refine ⟨sound _ reached,fun finished => ?_⟩
    exact (lawful.absorbed before [call] reached finished).1
  · rintro ⟨start,respected⟩
    have sound before reached :
        Sound (run (sessionStep ns) s before) :=
      (run_of_eachCall (sessionStep ns) (fun _ t => Sound t ∧ 0 < t.spec.maxTurns)
        (fun _ t call => call.Respects t) s ⟨start,limited⟩
        (fun _ t call kept respects =>
          ⟨((respects_iff ns kept.2 kept.1).mpr respects).1,
            (step_spec ns).symm ▸ kept.2⟩)
        before (respected.of_prefix _ reached)).1
    refine ⟨fun before after reached finished => ?_,fun before reached => ?_⟩
    · have kept : (run (sessionStep ns) s (before++after)).status.phase=
          (run (sessionStep ns) s before).status.phase := by
        induction after using List.reverseRecOn with
        | nil => rw [List.append_nil]
        | append_singleton after call ih =>
          rw [← List.append_assoc] at reached ⊢
          have earlier := (List.prefix_append _ _).trans reached
          have same := ih earlier
          have still : (run (sessionStep ns) s (before++after)).Over := by
            rw [Session.Over,same]
            exact finished
          have step := (respects_iff ns (limit _) (sound _ earlier)).mpr
            (respected _ call reached)
          rw [run_snoc,step.2 still,same]
      refine ⟨kept,(sound _ reached).unbound ?_⟩
      rw [Session.Over,kept]
      exact finished
    · have bounded := (sound before reached).bounded
      rwa [run_spec] at bounded

def freshSession (maxTurns : Int32) (ttl : Option Duration) : Session V1alpha2.bareKubernetes where
  spec := {modelRef := "llama", maxTurns, ttl}

def oneEndpoint : View V1alpha2.bareKubernetes :=
  ⟨.ok "llama",.ok [⟨[⟨["10.0.0.7"],none⟩]⟩],[]⟩

theorem short_session_lawful :
    Lawful "default" (freshSession 2 none)
      [.reconcile oneEndpoint 0,.recordActivity 10 1,.reconcile oneEndpoint 2] :=
  (lawful_iff "default" (freshSession 2 none)
    [.reconcile oneEndpoint 0,.recordActivity 10 1,.reconcile oneEndpoint 2] (by decide)).mpr
    ⟨⟨by decide,by decide⟩,by decide⟩

theorem completed_session_reopens :
    (run (sessionStep "default") (freshSession 1 none)
      [.recordActivity 10 1,.reconcile oneEndpoint 2]).status.phase=sessionPhaseCompleted ∧
    (run (sessionStep "default") (freshSession 1 none)
      [.recordActivity 10 1,.reconcile oneEndpoint 2,.recordActivity 10 3]).status.phase=
        sessionPhaseActive ∧
    (run (sessionStep "default") (freshSession 1 none)
      [.recordActivity 10 1,.reconcile oneEndpoint 2,.recordActivity 10 3]).status.turnCount=2 := by
  decide

structure Ended (s : Session K) : Prop where
  finished : s.Over
  unbound : s.status.boundEndpoint=""
  uncached : s.status.kvCacheSize=0
  unrouted : ∀ sessionID,SessionRouter.routeBySession (.ok s) sessionID=.ok none

structure Reached (s : Session K) : Prop where
  phase : s.status.phase=⟨""⟩ ∨ s.status.phase=sessionPhaseActive ∨
    s.status.phase=sessionPhaseCompleted ∧ s.Spent
  uncached : s.status.kvCacheSize=0

theorem Reached.not_idle (reached : Reached s) :
    s.status.phase≠sessionPhaseIdle := by
  intro idle
  have phases := reached.phase
  rw [idle] at phases
  revert phases
  simp [sessionPhaseIdle,sessionPhaseActive,sessionPhaseCompleted]

theorem reached_step (reached : Reached s) {call : Call K} :
    Reached (sessionStep ns s call).1 := by
  cases call with
  | recordActivity tokenCount now => exact ⟨.inr (.inl rfl),reached.uncached⟩
  | reconcile view now =>
    rcases reconcile_cases ns view now with ⟨idle,_,_⟩ | ⟨spent,eq⟩ | ⟨_,_,rebinds⟩
    · exact absurd idle reached.not_idle
    · rw [eq]
      exact ⟨.inr (.inr ⟨rfl,spent⟩),rfl⟩
    · rcases rebinds with same | ⟨_,_,eq⟩
      · rwa [same]
      · rw [eq]
        exact ⟨.inr (.inl rfl),reached.uncached⟩

theorem reached_run (fresh : s.status={}) (calls : List (Call K)) :
    Reached (run (sessionStep ns) s calls) := by
  have start : Reached s := by
    rw [show s={s with status := {}} from fresh ▸ rfl]
    exact ⟨.inl rfl,rfl⟩
  exact run_induction (sessionStep ns) (fun _ t => Reached t) s start
    (fun _ _ call reached => reached_step ns reached) calls

theorem reconcile_ended_iff (reached : Reached s) (view : View K)
    (now : Time) : Ended (sessionStep ns s (.reconcile view now)).1 ↔ s.Spent := by
  rcases reconcile_cases ns view now with ⟨idle,_,_⟩ | ⟨spent,eq⟩ | ⟨_,unspent,rebinds⟩
  · exact absurd idle reached.not_idle
  · refine iff_of_true ?_ spent
    rw [eq]
    refine ⟨completed_terminal,rfl,rfl,fun sessionID => ?_⟩
    simp [SessionRouter.routeBySession,terminateSession]
  · refine iff_of_false (fun ended => ?_) unspent
    have finished := (rebinds_over rebinds).mp ended.finished
    rcases reached.phase with new | active | completed
    · simp [Session.Over,new,isTerminalSessionPhase,sessionPhaseEvicted,
        sessionPhaseCompleted] at finished
    · simp [Session.Over,active] at finished
    · exact unspent completed.2

def Expired (s : Session K) (now : Time) : Prop :=
  ∃ ttl last,s.spec.ttl=some ttl ∧ s.status.lastActivityTime=some last ∧ ttl.toInt < now-last

theorem expired_ended_iff (ns : String) (s : Session K) (fresh : s.status={})
    (calls : List (Call K)) (view : View K) (now : Time) :
    (Expired (run (sessionStep ns) s calls) now →
      Ended (run (sessionStep ns) s (calls++[.reconcile view now]))) ↔
    (Expired (run (sessionStep ns) s calls) now → 0 < s.spec.maxTurns ∧
      s.spec.maxTurns ≤ (run (sessionStep ns) s calls).status.turnCount) := by
  have ended := reconcile_ended_iff ns (reached_run ns fresh calls) view now
  rw [run_snoc,ended,Session.Spent,run_spec]

def minute : Duration := 60*Duration.second

theorem spent_session_ended :
    Expired (run (sessionStep "default") (freshSession 1 (some minute))
      [.recordActivity 10 0]) 1000000000000 ∧
    Ended (run (sessionStep "default") (freshSession 1 (some minute))
      ([.recordActivity 10 0]++[.reconcile oneEndpoint 1000000000000])) := by
  have expired : Expired (run (sessionStep "default") (freshSession 1 (some minute))
      [.recordActivity 10 0]) 1000000000000 := ⟨minute,0,rfl,rfl,by decide⟩
  exact ⟨expired,(expired_ended_iff "default" (freshSession 1 (some minute)) rfl
    [.recordActivity 10 0] oneEndpoint 1000000000000).mpr (fun _ => by decide) expired⟩

theorem expired_session_bound :
    Expired (run (sessionStep "default") (freshSession 0 (some minute))
      [.reconcile oneEndpoint 0,.recordActivity 10 0]) 1000000000000 ∧
    (run (sessionStep "default") (freshSession 0 (some minute))
      ([.reconcile oneEndpoint 0,.recordActivity 10 0]++
        [.reconcile oneEndpoint 1000000000000])).status.phase=sessionPhaseActive ∧
    SessionRouter.route (.ok (run (sessionStep "default") (freshSession 0 (some minute))
      ([.reconcile oneEndpoint 0,.recordActivity 10 0]++
        [.reconcile oneEndpoint 1000000000000]))) "chat"=
      ⟨"10.0.0.7:8000","chat","session-affinity-kv-cache-hit",true⟩ :=
  ⟨⟨minute,0,rfl,rfl,by decide⟩,by decide,by decide⟩

end KServeLLM.Controller
