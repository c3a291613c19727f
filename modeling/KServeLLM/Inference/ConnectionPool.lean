import KServeLLM.Framework.GoTypes

namespace KServeLLM.Inference

structure EndpointConn where
  (activeRequests avgLatencyMs totalRequests errorCount lastUsed : Int64 := 0)
  deriving DecidableEq

structure ConnectionPool where
  endpoints : GoMap String EndpointConn

def newConnectionPool : ConnectionPool := ⟨∅⟩

variable (p : ConnectionPool) {other : String} {candidates : List String}

namespace ConnectionPool

def conn (p : ConnectionPool) (address : String) : EndpointConn :=
  (p.endpoints.lookup address).getD {}

def get (p : ConnectionPool) (address : String) : ConnectionPool :=
  match p.endpoints.lookup address with
  | some _ => p
  | none => ⟨p.endpoints.insert address {}⟩

def modify (p : ConnectionPool) (address : String) (f : EndpointConn → EndpointConn) :
    ConnectionPool :=
  ⟨(p.get address).endpoints.insert address (f (p.conn address))⟩

def score (c : EndpointConn) : Int64 := c.avgLatencyMs+c.activeRequests*10+c.errorCount*100

def fastestLoop (p : ConnectionPool) : List String → String → Int64 → String ⊕ String
  | [],bestAddr,_ => .inr bestAddr
  | addr::rest,bestAddr,bestScore =>
      match p.endpoints.lookup addr with
      | none => .inl addr
      | some c =>
          if score c < bestScore then fastestLoop p rest addr (score c)
          else fastestLoop p rest bestAddr bestScore

def fastestEndpoint (p : ConnectionPool) (candidates : List String) : String :=
  match fastestLoop p candidates "" 4611686018427387903 with
  | .inl addr => addr
  | .inr bestAddr =>
      match candidates with
      | first::_ => if bestAddr="" then first else bestAddr
      | [] => bestAddr

def milliseconds (d : Duration) : Int64 := d/1000000

def recordLatency (p : ConnectionPool) (address : String) (latency : Duration) (nowMs : Int64) :
    ConnectionPool :=
  p.modify address fun c =>
    let ms := milliseconds latency
    {c with
      avgLatencyMs := if c.avgLatencyMs=0 then ms else (c.avgLatencyMs*7+ms*3)/10
      totalRequests := c.totalRequests+1
      errorCount := 0
      lastUsed := nowMs}

def recordError (p : ConnectionPool) (address : String) : ConnectionPool :=
  p.modify address fun c => {c with errorCount := c.errorCount+1}

def addActive (p : ConnectionPool) (address : String) (n : Int64) : ConnectionPool :=
  p.modify address fun c => {c with activeRequests := c.activeRequests+n}

def evictIdle (p : ConnectionPool) (cutoff : Int64) : ConnectionPool :=
  ⟨p.endpoints.entries.foldl (fun kept entry =>
    if entry.2.lastUsed < cutoff ∧ entry.2.activeRequests=0 then kept.erase entry.1 else kept)
    p.endpoints⟩

theorem conn_get (address other : String) : (p.get address).conn other=p.conn other := by
  unfold get conn
  cases h : p.endpoints.lookup address with
  | some c => rfl
  | none =>
    by_cases same : other=address
    · subst same
      rw [AList.lookup_insert,h]
      rfl
    · rw [AList.lookup_insert_ne same]

theorem conn_modify (address : String) (f : EndpointConn → EndpointConn) :
    (p.modify address f).conn address=f (p.conn address) := by
  unfold modify conn
  rw [AList.lookup_insert]
  rfl

theorem conn_modify_ne {f : EndpointConn → EndpointConn} {address : String} (ne : other≠address) :
    (p.modify address f).conn other=p.conn other := by
  have unchanged := p.conn_get address other
  unfold modify conn at *
  rw [AList.lookup_insert_ne ne]
  exact unchanged

theorem fastestLoop_mem (bestAddr : String) (bestScore : Int64) :
    (∀addr,fastestLoop p candidates bestAddr bestScore=.inl addr → addr∈candidates) ∧
    (∀addr,fastestLoop p candidates bestAddr bestScore=.inr addr →
      addr=bestAddr ∨ addr∈candidates) := by
  induction candidates generalizing bestAddr bestScore with
  | nil =>
    refine ⟨fun addr h => (by cases h),fun addr h => ?_⟩
    exact Or.inl (Sum.inr.inj h).symm
  | cons head rest ih =>
    rw [fastestLoop]
    cases p.endpoints.lookup head with
    | none =>
      refine ⟨fun addr h => ?_,fun addr h => (by cases h)⟩
      obtain rfl := Sum.inl.inj h
      exact List.mem_cons_self
    | some c =>
      dsimp only
      split
      · obtain ⟨early,late⟩ := ih head (score c)
        refine ⟨fun addr h => List.mem_cons_of_mem head (early addr h),fun addr h => ?_⟩
        rcases late addr h with rfl | later
        · exact Or.inr List.mem_cons_self
        · exact Or.inr (List.mem_cons_of_mem head later)
      · obtain ⟨early,late⟩ := ih bestAddr bestScore
        refine ⟨fun addr h => List.mem_cons_of_mem head (early addr h),fun addr h => ?_⟩
        exact (late addr h).imp_right (List.mem_cons_of_mem head)

theorem fastestEndpoint_mem
    (some_candidate : candidates≠[]) : p.fastestEndpoint candidates∈candidates := by
  obtain ⟨early,late⟩ := fastestLoop_mem p "" 4611686018427387903
  unfold fastestEndpoint
  cases h : fastestLoop p candidates "" 4611686018427387903 with
  | inl addr => exact early addr h
  | inr bestAddr =>
    cases candidates with
    | nil => exact absurd rfl some_candidate
    | cons first rest =>
      dsimp only
      split
      · exact List.mem_cons_self
      · next named => exact (late bestAddr h).resolve_left named

end ConnectionPool

structure RouteResult where
  endpoint : String
  cacheHit : Bool
  estimatedLatencyMs : Int64
  routingLatency : Duration

def routeScored (p : ConnectionPool) (candidates : List String) (elapsed : Duration) :
    ConnectionPool×RouteResult :=
  let endpoint := p.fastestEndpoint candidates
  if endpoint≠"" then
    (p.get endpoint,⟨endpoint,false,(p.conn endpoint).avgLatencyMs,elapsed⟩)
  else (p,⟨endpoint,false,0,elapsed⟩)

def route (p : ConnectionPool) (sessionEndpoint : String) (candidates : List String)
    (elapsed : Duration) : ConnectionPool×RouteResult :=
  if sessionEndpoint≠"" then
    if (p.conn sessionEndpoint).errorCount<3 then
      (p.get sessionEndpoint,⟨sessionEndpoint,true,(p.conn sessionEndpoint).avgLatencyMs,elapsed⟩)
    else routeScored (p.get sessionEndpoint) candidates elapsed
  else routeScored p candidates elapsed

variable {elapsed : Duration}

theorem routeScored_endpoint :
    (routeScored p candidates elapsed).2.endpoint=p.fastestEndpoint candidates ∧
      (routeScored p candidates elapsed).2.cacheHit=false := by
  unfold routeScored
  dsimp only
  split <;> exact ⟨rfl,rfl⟩

variable {sessionEndpoint : String}

theorem route_fast {p : ConnectionPool} (named : sessionEndpoint≠"")
    (closed : (p.conn sessionEndpoint).errorCount<3) (candidates : List String)
    (elapsed : Duration) :
    (route p sessionEndpoint candidates elapsed).2.endpoint=sessionEndpoint ∧
      (route p sessionEndpoint candidates elapsed).2.cacheHit=true := by
  unfold route
  rw [if_pos named,if_pos closed]
  exact ⟨rfl,rfl⟩

theorem route_scored {p : ConnectionPool}
    (opened : sessionEndpoint≠"" → ¬(p.conn sessionEndpoint).errorCount<3) :
    ∃q : ConnectionPool,
      (route p sessionEndpoint candidates elapsed).2.endpoint=q.fastestEndpoint candidates ∧
        (route p sessionEndpoint candidates elapsed).2.cacheHit=false := by
  unfold route
  by_cases named : sessionEndpoint≠""
  · rw [if_pos named,if_neg (opened named)]
    exact ⟨_,routeScored_endpoint _⟩
  · rw [if_neg named]
    exact ⟨_,routeScored_endpoint _⟩

theorem route_conn : (route p sessionEndpoint candidates elapsed).1.conn other=p.conn other := by
  have scored q : (routeScored q candidates elapsed).1.conn other=q.conn other := by
    unfold routeScored
    dsimp only
    split
    · exact q.conn_get _ other
    · rfl
  unfold route
  split
  · split
    · exact p.conn_get sessionEndpoint other
    · rw [scored,p.conn_get]
  · exact scored p

end KServeLLM.Inference
