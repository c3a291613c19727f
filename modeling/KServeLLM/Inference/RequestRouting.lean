import KServeLLM.AccessPlane.Evaluator
import KServeLLM.Framework.Execution
import KServeLLM.Inference.ConnectionPool

namespace KServeLLM.Inference

structure InferenceRequest where
  (tenantID route : String)
  accessObservation : AccessPlane.RuntimeObservation
  (model sessionID sessionEndpoint : String)
  candidates : List String
  prompt : String

structure Intent (F : Type) where
  sessionID : String
  confidence : F

structure PipeSession where
  endpoint : String
  chunks : Int64
  sequenceID : String
  lastActive : Time

structure Routing where
  pool : ConnectionPool
  warmPaths : GoMap String String
  sessions : GoMap String PipeSession

def newRouting : Routing := ⟨newConnectionPool,∅,∅⟩

namespace Routing

def handleIntent {F : Type} [Float64 F] (s : Routing) (intent : Intent F)
    (candidates : List String) (elapsed : Duration) : Routing :=
  if Float64.lt intent.confidence 0.7 then s
  else
    let result := Inference.route s.pool intent.sessionID candidates elapsed
    if result.2.endpoint="" then {s with pool := result.1}
    else {s with
      pool := result.1.get result.2.endpoint
      warmPaths := s.warmPaths.insert intent.sessionID result.2.endpoint}

def newSession (pool : ConnectionPool) (sessionID : String) : PipeSession :=
  ⟨pool.fastestEndpoint [],0,"pipe-"++sessionID,0⟩

def pushChunk (s : Routing) (sessionID : String) (now : Time) : Routing :=
  let sess := (s.sessions.lookup sessionID).getD (newSession s.pool sessionID)
  {s with
    sessions := s.sessions.insert sessionID {sess with chunks := sess.chunks+1,lastActive := now}
    pool := (s.pool.addActive sess.endpoint 1).addActive sess.endpoint (-1)}

def evictStaleSessions (s : Routing) (now : Time) : Routing :=
  let cutoff := now.add (-300000000000)
  {s with sessions := s.sessions.entries.foldl (fun kept entry =>
    if entry.2.lastActive.before cutoff then kept.erase entry.1 else kept) s.sessions}

def warmedRouteResult (pool : ConnectionPool) (endpoint : String) (elapsed : Duration) :
    RouteResult :=
  ⟨endpoint,true,(pool.conn endpoint).avgLatencyMs,elapsed⟩

def resolveRoute (s : Routing) (req : InferenceRequest) (now : Time) (elapsed : Duration) :
    Routing×RouteResult :=
  match s.sessions.lookup req.sessionID with
  | some sess =>
      ({s with
        sessions := s.sessions.insert req.sessionID {sess with lastActive := now}
        pool := s.pool.get sess.endpoint},warmedRouteResult s.pool sess.endpoint elapsed)
  | none =>
    match s.warmPaths.lookup req.sessionID with
    | some endpoint =>
        ({s with
          warmPaths := s.warmPaths.erase req.sessionID
          pool := s.pool.get endpoint},warmedRouteResult s.pool endpoint elapsed)
    | none =>
        let result := Inference.route s.pool req.sessionEndpoint req.candidates elapsed
        ({s with pool := result.1},result.2)

theorem resolveRoute_conn (s : Routing) (req : InferenceRequest) (now : Time)
    (elapsed : Duration) (other : String) :
    (s.resolveRoute req now elapsed).1.pool.conn other=s.pool.conn other := by
  unfold resolveRoute
  cases s.sessions.lookup req.sessionID with
  | some sess => exact s.pool.conn_get sess.endpoint other
  | none =>
    cases s.warmPaths.lookup req.sessionID with
    | some endpoint => exact s.pool.conn_get endpoint other
    | none => exact route_conn s.pool

inductive Op (F : Type) where
  | handleIntent (intent : Intent F) (candidates : List String) (elapsed : Duration)
  | pushChunk (sessionID : String) (now : Time)
  | evictStaleSessions (now : Time)
  | recordLatency (address : String) (latency : Duration) (nowMs : Int64)
  | recordError (address : String)
  | evictIdle (cutoff : Int64)
  | resolveRoute (req : InferenceRequest) (now : Time) (elapsed : Duration)

def step {F : Type} [Float64 F] (s : Routing) : Op F → Routing×Option RouteResult
  | .handleIntent intent candidates elapsed => (s.handleIntent intent candidates elapsed,none)
  | .pushChunk sessionID now => (s.pushChunk sessionID now,none)
  | .evictStaleSessions now => (s.evictStaleSessions now,none)
  | .recordLatency address latency nowMs =>
      ({s with pool := s.pool.recordLatency address latency nowMs},none)
  | .recordError address => ({s with pool := s.pool.recordError address},none)
  | .evictIdle cutoff => ({s with pool := s.pool.evictIdle cutoff},none)
  | .resolveRoute req now elapsed =>
      ((s.resolveRoute req now elapsed).1,some (s.resolveRoute req now elapsed).2)

def Routable (req : InferenceRequest) : Prop := req.candidates≠[] ∧ ∀c∈req.candidates,c≠""

section

variable {F : Type}

def announced (sessionID : String) : Op F → List String
  | .handleIntent intent candidates _ => if intent.sessionID=sessionID then candidates else []
  | _ => []

def intended (tr : List (Step Routing (Op F) (Option RouteResult))) (sessionID : String) :
    List String :=
  tr.flatMap fun st => announced sessionID st.call

def Legitimate (tr : List (Step Routing (Op F) (Option RouteResult))) (req : InferenceRequest)
    (endpoint : String) : Prop :=
  endpoint≠"" ∧ (endpoint=req.sessionEndpoint ∨ endpoint∈req.candidates ∨
      endpoint∈intended tr req.sessionID)

def RoutesLegitimately (tr : List (Step Routing (Op F) (Option RouteResult))) (s : Routing) :
    Prop :=
  ∀req now elapsed,Routable req → Legitimate tr req (s.resolveRoute req now elapsed).2.endpoint

def Unconfused [Float64 F] (tr : List (Step Routing (Op F) (Option RouteResult))) (s : Routing) :
    Op F → Prop
  | .pushChunk _ _ => False
  | .handleIntent intent candidates _ =>
      Float64.lt intent.confidence 0.7=false → intent.sessionID≠"" →
        (s.pool.conn intent.sessionID).errorCount<3 →
          intent.sessionID∈candidates ∨ intent.sessionID∈intended tr intent.sessionID
  | _ => True

structure Warm (tr : List (Step Routing (Op F) (Option RouteResult))) (s : Routing) : Prop where
  unpiped : ∀sessionID,s.sessions.lookup sessionID=none
  warmed : ∀sessionID endpoint,s.warmPaths.lookup sessionID=some endpoint →
    endpoint≠"" ∧ endpoint∈intended tr sessionID

theorem intended_snoc (tr : List (Step Routing (Op F) (Option RouteResult)))
    (st : Step Routing (Op F) (Option RouteResult)) (sessionID : String) :
    intended (tr++[st]) sessionID=intended tr sessionID++announced sessionID st.call := by
  simp [intended]

theorem Warm.later {tr : List (Step Routing (Op F) (Option RouteResult))} {s s' : Routing}
    (h : Warm tr s) (st : Step Routing (Op F) (Option RouteResult))
    (sessions : s'.sessions=s.sessions)
    (warmPaths : ∀sessionID endpoint,s'.warmPaths.lookup sessionID=some endpoint →
      s.warmPaths.lookup sessionID=some endpoint) : Warm (tr++[st]) s' := by
  refine ⟨fun sessionID => by rw [sessions]; exact h.unpiped sessionID,fun sessionID e found => ?_⟩
  obtain ⟨named,known⟩ := h.warmed sessionID e (warmPaths sessionID e found)
  refine ⟨named,?_⟩
  rw [intended_snoc]
  exact List.mem_append_left _ known

theorem route_legitimate {p : ConnectionPool} {req : InferenceRequest} (routable : Routable req)
    {tr : List (Step Routing (Op F) (Option RouteResult))} {elapsed : Duration} :
    Legitimate tr req
      (Inference.route p req.sessionEndpoint req.candidates elapsed).2.endpoint := by
  by_cases fast : req.sessionEndpoint≠"" ∧ (p.conn req.sessionEndpoint).errorCount<3
  · rw [(route_fast fast.1 fast.2 req.candidates elapsed).1]
    exact ⟨fast.1,Or.inl rfl⟩
  · have opened : req.sessionEndpoint≠"" → ¬(p.conn req.sessionEndpoint).errorCount<3 :=
      fun named closed => fast ⟨named,closed⟩
    obtain ⟨q,chosen,_⟩ := route_scored opened
    have mem := q.fastestEndpoint_mem routable.1
    rw [chosen]
    exact ⟨routable.2 _ mem,Or.inr (Or.inl mem)⟩

theorem Warm.legitimate {tr : List (Step Routing (Op F) (Option RouteResult))} {s : Routing}
    (h : Warm tr s) : RoutesLegitimately tr s := by
  intro req now elapsed routable
  unfold resolveRoute
  rw [h.unpiped]
  cases found : s.warmPaths.lookup req.sessionID with
  | some endpoint =>
    obtain ⟨named,known⟩ := h.warmed _ _ found
    exact ⟨named,Or.inr (Or.inr known)⟩
  | none => exact route_legitimate routable

end

section

variable {F : Type} [Float64 F] {tr : List (Step Routing (Op F) (Option RouteResult))} {s : Routing}

theorem handleIntent_warm {intent : Intent F} {candidates : List String} {elapsed : Duration}
    (h : Warm tr s) (good : Unconfused tr s (.handleIntent intent candidates elapsed)) :
    Warm (tr++[stepOf step s (.handleIntent intent candidates elapsed)])
      (s.handleIntent intent candidates elapsed) := by
  let result := Inference.route s.pool intent.sessionID candidates elapsed
  unfold handleIntent
  split
  · exact h.later _ rfl (fun _ _ found => found)
  · next confident =>
    dsimp only
    split
    · exact h.later _ rfl (fun _ _ found => found)
    · next named =>
      have known : result.2.endpoint∈intended tr intent.sessionID++candidates := by
        by_cases fast : intent.sessionID≠"" ∧ (s.pool.conn intent.sessionID).errorCount<3
        · have own := (route_fast fast.1 fast.2 candidates elapsed).1
          rw [show result.2.endpoint=intent.sessionID from own,List.mem_append]
          exact (good (by simpa using confident) fast.1 fast.2).symm
        · have opened : intent.sessionID≠"" → ¬(s.pool.conn intent.sessionID).errorCount<3 :=
            fun some_id closed => fast ⟨some_id,closed⟩
          obtain ⟨q,chosen,_⟩ := route_scored opened
          rw [show result.2.endpoint=q.fastestEndpoint candidates from chosen]
          refine List.mem_append_right _ (q.fastestEndpoint_mem ?_)
          rintro rfl
          exact named chosen
      refine ⟨h.unpiped,fun sessionID e found => ?_⟩
      rw [intended_snoc]
      by_cases same : sessionID=intent.sessionID
      · subst same
        rw [AList.lookup_insert] at found
        obtain rfl := Option.some.inj found
        refine ⟨named,?_⟩
        have here : announced intent.sessionID
            (stepOf step s (.handleIntent intent candidates elapsed)).call=candidates :=
          if_pos rfl
        rw [here]
        exact known
      · rw [AList.lookup_insert_ne same] at found
        obtain ⟨some_endpoint,earlier⟩ := h.warmed sessionID e found
        exact ⟨some_endpoint,List.mem_append_left _ earlier⟩

theorem resolveRoute_warm {req : InferenceRequest} {now : Time} {elapsed : Duration}
    (h : Warm tr s) :
    Warm (tr++[stepOf step s (.resolveRoute req now elapsed : Op F)])
      (s.resolveRoute req now elapsed).1 := by
  unfold resolveRoute
  rw [h.unpiped]
  cases found : s.warmPaths.lookup req.sessionID with
  | some endpoint =>
    refine h.later _ rfl (fun sessionID e left => ?_)
    by_cases same : sessionID=req.sessionID
    · subst same
      rw [AList.lookup_erase] at left
      cases left
    · rwa [AList.lookup_erase_ne same] at left
  | none => exact h.later _ rfl (fun _ _ left => left)

theorem evictStaleSessions_warm {now : Time} (h : Warm tr s) :
    Warm (tr++[stepOf step s (.evictStaleSessions now : Op F)]) (s.evictStaleSessions now) := by
  have empty : s.sessions.entries=[] := by
    rw [List.eq_nil_iff_forall_not_mem]
    rintro ⟨_,_⟩ mem
    have found := AList.mem_lookup_iff.mpr mem
    rw [h.unpiped] at found
    cases found
  refine h.later _ ?_ (fun _ _ left => left)
  unfold evictStaleSessions
  rw [empty]
  rfl

theorem Warm.step (op : Op F) (h : Warm tr s) (good : Unconfused tr s op) :
    Warm (tr++[stepOf step s op]) (step s op).1 := by
  cases op with
  | handleIntent intent candidates elapsed =>
    exact handleIntent_warm h good
  | pushChunk sessionID now => exact absurd good id
  | evictStaleSessions now => exact evictStaleSessions_warm h
  | recordLatency address latency nowMs => exact h.later _ rfl (fun _ _ left => left)
  | recordError address => exact h.later _ rfl (fun _ _ left => left)
  | evictIdle cutoff => exact h.later _ rfl (fun _ _ left => left)
  | resolveRoute req now elapsed => exact resolveRoute_warm h

end

def probe (sessionID candidate : String) : InferenceRequest where
  tenantID := ""
  route := ""
  accessObservation := ⟨⟨0,0⟩,∅⟩
  model := ""
  sessionID := sessionID
  sessionEndpoint := ""
  candidates := [candidate]
  prompt := ""

theorem probe_routable {sessionID : String} {candidate : String} (named : candidate≠"") :
    Routable (probe sessionID candidate) := by
  refine ⟨by simp [probe],fun c hc => ?_⟩
  obtain rfl := List.mem_singleton.mp hc
  exact named

section

variable {F : Type} [Float64 F] {tr : List (Step Routing (Op F) (Option RouteResult))} {s : Routing}

theorem pushChunk_breaks {sessionID : String} {now : Time} (h : Warm tr s)
    (after : RoutesLegitimately (tr++[stepOf step s (.pushChunk sessionID now : Op F)])
      (s.pushChunk sessionID now)) : False := by
  have legal := (after (probe sessionID "a") now 0 (probe_routable (by decide))).1
  apply legal
  have piped : (s.pushChunk sessionID now).sessions.lookup sessionID=
      some {newSession s.pool sessionID with chunks := 0+1,lastActive := now} := by
    unfold pushChunk
    rw [AList.lookup_insert,h.unpiped]
    rfl
  unfold resolveRoute
  rw [show (probe sessionID "a").sessionID=sessionID from rfl,piped]
  rfl

theorem handleIntent_needs {intent : Intent F} {candidates : List String} {elapsed : Duration}
    (h : Warm tr s)
    (after : RoutesLegitimately (tr++[stepOf step s (.handleIntent intent candidates elapsed)])
      (s.handleIntent intent candidates elapsed)) :
    Unconfused tr s (.handleIntent intent candidates elapsed) := by
  intro confident named closed
  obtain ⟨own,_⟩ := route_fast named closed candidates elapsed
  have stored : (s.handleIntent intent candidates elapsed).warmPaths.lookup intent.sessionID=
      some intent.sessionID := by
    unfold handleIntent
    dsimp only
    rw [if_neg (by simpa using confident),own,if_neg named,AList.lookup_insert]
  have unpiped : (s.handleIntent intent candidates elapsed).sessions.lookup intent.sessionID=
      none := by
    unfold handleIntent
    dsimp only
    rw [if_neg (by simpa using confident),own,if_neg named]
    exact h.unpiped intent.sessionID
  let other := intent.sessionID++"x"
  have longer : other.length=intent.sessionID.length+1 := String.length_append _ _
  have other_named : other≠"" := fun empty => by
    rw [empty] at longer
    exact absurd longer (by simp)
  have routed := after (probe intent.sessionID other) 0 0 (probe_routable other_named)
  unfold resolveRoute at routed
  rw [show (probe intent.sessionID other).sessionID=intent.sessionID from rfl,unpiped] at routed
  rw [stored] at routed
  rcases routed.2 with session | candidate | known
  · exact absurd session named
  · have same : intent.sessionID=other := List.mem_singleton.mp candidate
    rw [← same] at longer
    omega
  · rw [intended_snoc,List.mem_append] at known
    rcases known with earlier | now
    · exact Or.inr earlier
    · have here : announced intent.sessionID
          (stepOf step s (.handleIntent intent candidates elapsed)).call=candidates := if_pos rfl
      exact Or.inl (here ▸ now)

end

theorem routing_legitimate_iff {F : Type} [Float64 F] (ops : List (Op F)) :
    Always step newRouting ops RoutesLegitimately ↔ EachCall step newRouting ops Unconfused := by
  refine always_iff_eachCall step Warm RoutesLegitimately Unconfused newRouting ?_ ?_ ?_ ?_ ops
  · exact ⟨fun _ => rfl,fun _ _ found => (by cases found)⟩
  · exact Warm.legitimate ⟨fun _ => rfl,fun _ _ found => (by cases found)⟩
  · intro tr s op warm _ good
    exact ⟨warm.step op good,(warm.step op good).legitimate⟩
  · intro tr s op warm _ after
    cases op with
    | handleIntent intent candidates elapsed =>
      exact handleIntent_needs warm after
    | pushChunk sessionID now => exact pushChunk_breaks warm after
    | _ => trivial

theorem routing_confused :
    ((newRouting.pushChunk "session-1" 0).resolveRoute (probe "session-1" "10.0.0.1:80") 0 0
      ).2.endpoint="" ∧
    (∀confidence : Float,Float64.lt confidence 0.7=false →
      ((newRouting.handleIntent ⟨"session-1",confidence⟩ ["10.0.0.1:80"] 0).resolveRoute
        (probe "session-1" "10.0.0.1:80") 0 0).2.endpoint="session-1") ∧
    ¬Always step newRouting [(.pushChunk "session-1" 0 : Op Float)] RoutesLegitimately := by
  have unrouted : ((newRouting.pushChunk "session-1" 0).resolveRoute
      (probe "session-1" "10.0.0.1:80") 0 0).2.endpoint="" := rfl
  refine ⟨unrouted,fun confidence confident => ?_,fun always => ?_⟩
  · rw [handleIntent,confident]
    rfl
  · have last := always _ (List.prefix_refl _)
    exact (last (probe "session-1" "10.0.0.1:80") 0 0 (probe_routable (by decide))).1 unrouted

end Routing

end KServeLLM.Inference
