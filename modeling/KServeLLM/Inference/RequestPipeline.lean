import KServeLLM.Inference.RequestRouting

namespace KServeLLM.Inference

structure PromptHash (κ : Type) where
  digest : String → κ
  collisionFree : ∀p q,digest p=digest q → p=q

def PromptHash.plain : PromptHash String := ⟨id,fun _ _ same => same⟩

structure MemCacheEntry where
  response : String
  hitCount : Int64
  (lastAccess expiresAt : Time)

def MemCacheEntry.expired (entry : MemCacheEntry) (now : Time) : Bool :=
  !entry.expiresAt.isZero && now.after entry.expiresAt

structure SemanticCache (κ : Type) where
  entries : GoMap κ MemCacheEntry

namespace SemanticCache

variable {κ : Type} [DecidableEq κ]

def empty : SemanticCache κ := ⟨∅⟩

def ttl : Duration := 3600000000000

def get (c : SemanticCache κ) (key : κ) (now : Time) : SemanticCache κ×Option String :=
  match c.entries.lookup key with
  | none => (c,none)
  | some entry =>
      if entry.expired now then (⟨c.entries.erase key⟩,none)
      else (⟨c.entries.insert key
        {entry with hitCount := entry.hitCount+1,lastAccess := now}⟩,some entry.response)

def set (c : SemanticCache κ) (key : κ) (response : String) (ttl : Duration) (now : Time) :
    SemanticCache κ :=
  ⟨c.entries.insert key ⟨response,1,now,if 0 < ttl then now.add ttl else 0⟩⟩

def getExact (hash : PromptHash κ) (c : SemanticCache κ) (prompt : String) (now : Time) :
    SemanticCache κ×Option String :=
  c.get (hash.digest prompt) now

def storeExact (hash : PromptHash κ) (c : SemanticCache κ) (prompt response : String)
    (now : Time) : SemanticCache κ :=
  c.set (hash.digest prompt) response ttl now

end SemanticCache

structure RequestPipeline (κ : Type) where
  routing : Routing
  cache : SemanticCache κ
  policy : Option AccessPlane.Evaluator

def newRequestPipeline {κ : Type} (policy : Option AccessPlane.Evaluator) : RequestPipeline κ :=
  ⟨newRouting,SemanticCache.empty,policy⟩

inductive PipelineError where
  | evaluate (cause : GoError String)
  | accessPolicy (decision : AccessPlane.Decision)
  | noEndpoint (model : String)
  | budget (elapsed : Duration)
  | inference (cause : String)

def PipelineError.format : PipelineError → String
  | .evaluate _ => "evaluate request policy: %w"
  | .accessPolicy _ => "request policy %s: %s"
  | .noEndpoint _ => "no healthy endpoint for model %s"
  | .budget _ => "latency budget exceeded before inference: %v elapsed"
  | .inference _ => "V2 inference failed: %w"

structure InferenceResponse where
  policyDecision : Option AccessPlane.Decision
  (model endpoint : String)
  cacheHit : Bool
  (routingLatency totalLatency : Duration)

structure Call where
  req : InferenceRequest
  (start budgeted : Time)
  (canceledBefore canceledAfter : Option String)
  (lookedUp routed : Time)
  routingLatency : Duration
  checked : Time
  inference : Option String
  (answered finished : Time)
  finishedMs : Int64

def totalBudget : Duration := 30000000000

def Call.exceeded (call : Call) : Bool := call.checked.after (call.budgeted.add totalBudget)

namespace RequestPipeline

def admitted (policy : Option AccessPlane.Evaluator) (call : Call) :
    Except PipelineError (String×Option AccessPlane.Decision) :=
  match policy with
  | none => .ok (call.req.model,none)
  | some evaluator =>
    match evaluator.evaluateContext call.canceledBefore call.canceledAfter
        ⟨call.req.tenantID,call.req.route⟩ call.req.accessObservation with
    | .error cause => .error (.evaluate cause)
    | .ok decision =>
        if decision.disposition≠.dispositionAdmit then .error (.accessPolicy decision)
        else .ok (decision.model,some decision)

def releaseRequest (pool : ConnectionPool) (endpoint : String) (call : Call) : ConnectionPool :=
  (pool.addActive endpoint (-1)).recordLatency endpoint (call.finished.sub call.start)
    call.finishedMs

def serve (call : Call) (model : String) (decision : Option AccessPlane.Decision)
    (result : RouteResult) : Except PipelineError InferenceResponse :=
  if call.exceeded then .error (.budget (call.answered.sub call.start))
  else
    match call.inference with
    | some cause => .error (.inference cause)
    | none => .ok ⟨decision,model,result.endpoint,result.cacheHit,result.routingLatency,
        call.answered.sub call.start⟩

variable {κ : Type} [DecidableEq κ] (hash : PromptHash κ)

def routed (p : RequestPipeline κ) (call : Call) (model : String) : Routing×RouteResult :=
  p.routing.resolveRoute {call.req with model := model} call.routed call.routingLatency

def executeMiss (p : RequestPipeline κ) (call : Call) (model : String)
    (decision : Option AccessPlane.Decision) :
    RequestPipeline κ×Except PipelineError InferenceResponse :=
  let route := p.routed call model
  let endpoint := route.2.endpoint
  if endpoint="" then ({p with routing := route.1},.error (.noEndpoint model))
  else
    let acquired := route.1.pool.addActive endpoint 1
    ({p with routing := {route.1 with pool := releaseRequest acquired endpoint call}},
      serve call model decision route.2)

def execute (p : RequestPipeline κ) (call : Call) :
    RequestPipeline κ×Except PipelineError InferenceResponse :=
  match admitted p.policy call with
  | .error err => (p,.error err)
  | .ok (model,decision) =>
    let found := p.cache.getExact hash call.req.prompt call.lookedUp
    match found.2 with
    | some _ => ({p with cache := found.1},
        .ok ⟨decision,model,"semantic-cache",true,0,call.answered.sub call.start⟩)
    | none => executeMiss {p with cache := found.1} call model decision

def servedBy (p : RequestPipeline κ) (call : Call) : Option String :=
  match admitted p.policy call with
  | .error _ => none
  | .ok (model,_) =>
    match (p.cache.getExact hash call.req.prompt call.lookedUp).2 with
    | some _ => none
    | none =>
        let endpoint := (p.routed call model).2.endpoint
        if endpoint="" ∨ call.exceeded then none else some endpoint

theorem releaseRequest_errorCount (pool : ConnectionPool) (endpoint : String) (call : Call)
    (other : String) :
    ((releaseRequest pool endpoint call).conn other).errorCount=
      if other=endpoint then 0 else (pool.conn other).errorCount := by
  unfold releaseRequest ConnectionPool.recordLatency ConnectionPool.addActive
  by_cases same : other=endpoint
  · subst same
    rw [if_pos rfl,ConnectionPool.conn_modify]
  · rw [if_neg same,ConnectionPool.conn_modify_ne _ same,ConnectionPool.conn_modify_ne _ same]

variable {p : RequestPipeline κ} {call : Call} {other : String}

omit [DecidableEq κ] in
theorem executeMiss_errorCount {model : String} {decision : Option AccessPlane.Decision} :
    ((p.executeMiss call model decision).1.routing.pool.conn other).errorCount=
        (p.routing.pool.conn other).errorCount ∨
      ((p.executeMiss call model decision).1.routing.pool.conn other).errorCount=0 := by
  have same : (p.routed call model).1.pool.conn other=p.routing.pool.conn other :=
    p.routing.resolveRoute_conn _ _ _ other
  unfold executeMiss
  dsimp only
  split
  · exact Or.inl (congrArg EndpointConn.errorCount same)
  · dsimp only
    rw [releaseRequest_errorCount]
    split
    · exact Or.inr rfl
    · next ne =>
      refine Or.inl (congrArg EndpointConn.errorCount ?_)
      exact (ConnectionPool.conn_modify_ne _ ne).trans same

theorem execute_errorCount : ((p.execute hash call).1.routing.pool.conn other).errorCount=
        (p.routing.pool.conn other).errorCount ∨
      ((p.execute hash call).1.routing.pool.conn other).errorCount=0 := by
  unfold execute
  cases admitted p.policy call with
  | error err => exact Or.inl rfl
  | ok effective =>
    dsimp only
    split
    · exact Or.inl rfl
    · exact executeMiss_errorCount

end RequestPipeline

end KServeLLM.Inference
