import KServeLLM.Framework.Execution
import KServeLLM.Scheduler.RequestHeap

namespace KServeLLM.Scheduler

inductive QueueDisposition where
  | dispositionAdmit | dispositionBackpressure | dispositionReject
  deriving DecidableEq

structure TenantConfig (F : Type) where
  tenantID : String
  (tokenBudget maxQueuedRequests maxQueuedTokens : Int64)
  weight : F

structure TenantState where
  tenantID : String
  (queuedRequests queuedTokens activeTokens servedTokens : Int64 := 0)
  deriving DecidableEq

structure TokenQueueConfig (F : Type) where
  (maxQueueDepth maxQueueTokens : Int64)
  saturationThreshold : F
  highPriorityFloor : Int64
  defaultEstimatedLatency : Duration
  (priorityWeight urgencyWeight localityWeight fairnessWeight costWeight : F)
  tenants : GoMap String (TenantConfig F)
  defaultTenant : TenantConfig F

structure EnqueueResult (F : Type) where
  disposition : QueueDisposition
  reason : String
  admitted : Bool
  priorityScore : F
  queueDepth : Int
  queueTokens : Int64
  retryAfter : Duration

structure TokenQueue (F : Type) where
  cfg : TokenQueueConfig F
  heap : RequestHeap F
  lookup : GoMap String Ref
  tenants : GoMap String TenantState
  (totalTokens admittedCount backpressuredCount rejectedCount expiredEvictedCount : Int64)

variable {F : Type} [Float64 F]

def defaultTokenQueueConfig : TokenQueueConfig F where
  maxQueueDepth := 1000
  maxQueueTokens := 1000000
  saturationThreshold := 0.80
  highPriorityFloor := 80
  defaultEstimatedLatency := 500*Duration.millisecond
  priorityWeight := 1.0
  urgencyWeight := 10.0
  localityWeight := 20.0
  fairnessWeight := 15.0
  costWeight := 5.0
  tenants := ∅
  defaultTenant := {
    tenantID := ""
    tokenBudget := 100000
    maxQueuedRequests := 200
    maxQueuedTokens := 200000
    weight := 1.0 }

def blankRequest : QueuedRequest F where
  id := ""
  tenantID := ""
  priority := 0
  promptTokens := 0
  maxOutputTokens := 0
  predictedTokens := 0
  cacheHitTokens := 0
  cacheLocality := 0.0
  arrival := 0
  deadline := 0
  estimatedLatency := 0
  calculatedScore := 0.0
  heapIndex := 0

def newTokenQueue (cfg : TokenQueueConfig F) : TokenQueue F where
  cfg := {cfg with
    maxQueueDepth := if cfg.maxQueueDepth≤0 then 1000 else cfg.maxQueueDepth
    maxQueueTokens := if cfg.maxQueueTokens≤0 then 1000000 else cfg.maxQueueTokens
    saturationThreshold :=
      if Float64.le cfg.saturationThreshold 0.0 || Float64.lt 1.0 cfg.saturationThreshold
      then 0.80 else cfg.saturationThreshold
    defaultEstimatedLatency :=
      if cfg.defaultEstimatedLatency≤0 then 500*Duration.millisecond
      else cfg.defaultEstimatedLatency}
  heap := ⟨[],fun _ => blankRequest,0⟩
  lookup := ∅
  tenants := ∅
  totalTokens := 0
  admittedCount := 0
  backpressuredCount := 0
  rejectedCount := 0
  expiredEvictedCount := 0

namespace TokenQueue

def getTenantConfig (q : TokenQueue F) (tenantID : String) : TenantConfig F :=
  match q.cfg.tenants.lookup tenantID with
  | some cfg => cfg
  | none => {q.cfg.defaultTenant with tenantID := tenantID}

def tenant (q : TokenQueue F) (tenantID : String) : TenantState :=
  (q.tenants.lookup tenantID).getD {tenantID := tenantID}

def getOrCreateTenantState (q : TokenQueue F) (tenantID : String) : TokenQueue F×TenantState :=
  match q.tenants.lookup tenantID with
  | some state => (q,state)
  | none =>
      ({q with tenants := q.tenants.insert tenantID {tenantID := tenantID}},{tenantID := tenantID})

def updateTenant (q : TokenQueue F) (tenantID : String) (f : TenantState → TenantState) :
    TokenQueue F :=
  let found := q.getOrCreateTenantState tenantID
  {found.1 with tenants := found.1.tenants.insert tenantID (f found.2)}

def calculateUrgency (q : TokenQueue F) (req : QueuedRequest F) (now : Time) : F :=
  if req.deadline.isZero then 0.0
  else
    let latency := if req.estimatedLatency≤0 then q.cfg.defaultEstimatedLatency
      else req.estimatedLatency
    let slack : Duration := req.deadline.sub now-latency
    if slack≤0 then q.cfg.urgencyWeight*10.0
    else q.cfg.urgencyWeight/(1.0+Duration.seconds slack)

def calculateFairnessPenalty (q : TokenQueue F) (tenantID : String) : F :=
  match q.tenants.lookup tenantID with
  | none => 0.0
  | some state =>
      let cfg := q.getTenantConfig tenantID
      if cfg.tokenBudget≤0 then 0.0
      else
        let active : F := Float64.ofInt (state.queuedTokens+state.activeTokens).toInt
        let budget := Float64.ofInt cfg.tokenBudget.toInt*Float64.max cfg.weight 0.1
        if Float64.le active budget then 0.0
        else (active-budget)/budget*q.cfg.fairnessWeight*10.0

def calculatePriority (q : TokenQueue F) (req : QueuedRequest F) (now : Time) : F :=
  let baseScore := Float64.ofInt req.priority.toInt*q.cfg.priorityWeight
  let urgencyScore := q.calculateUrgency req now
  let localityScore := req.localityScore*q.cfg.localityWeight
  let cost : F := Float64.ofInt req.effectiveCost.toInt
  let costScore := q.cfg.costWeight/(1.0+cost/1000.0)
  let fairnessPenalty := q.calculateFairnessPenalty req.tenantID
  baseScore+urgencyScore+localityScore+costScore-fairnessPenalty

def saturationRatio (q : TokenQueue F) : F :=
  Float64.ofInt q.totalTokens.toInt/Float64.ofInt q.cfg.maxQueueTokens.toInt

def isSaturated (q : TokenQueue F) : Bool :=
  let depthRatio : F := Float64.ofInt q.heap.slots.length/Float64.ofInt q.cfg.maxQueueDepth.toInt
  Float64.le q.cfg.saturationThreshold q.saturationRatio ||
    Float64.le q.cfg.saturationThreshold depthRatio

def evaluateAdmission (q : TokenQueue F) (req : QueuedRequest F) (tCfg : TenantConfig F)
    (tState : TenantState) (cost : Int64) (now : Time) : QueueDisposition×String×Duration :=
  if req.expired now then (.dispositionReject,"request-deadline-expired",0)
  else if q.cfg.maxQueueDepth.toInt < q.heap.slots.length+1 then
    (.dispositionReject,"queue-depth-capacity-exhausted",0)
  else if q.cfg.maxQueueTokens < q.totalTokens+cost then
    (.dispositionReject,"queue-token-capacity-exhausted",0)
  else if 0 < tCfg.maxQueuedRequests ∧ tCfg.maxQueuedRequests < tState.queuedRequests+1 then
    (.dispositionReject,"tenant-queue-depth-exhausted",0)
  else if 0 < tCfg.maxQueuedTokens ∧ tCfg.maxQueuedTokens < tState.queuedTokens+cost then
    (.dispositionReject,"tenant-token-capacity-exhausted",0)
  else if q.isSaturated then
    if q.cfg.highPriorityFloor ≤ req.priority then (.dispositionAdmit,"admitted-high-priority",0)
    else if 0 < tCfg.tokenBudget ∧ tCfg.tokenBudget ≤ tState.queuedTokens+tState.activeTokens then
      (.dispositionBackpressure,"queue-saturated-tenant-over-budget",
        (100+(cost%500+100))*Duration.millisecond)
    else if Float64.le 0.95 q.saturationRatio then
      (.dispositionBackpressure,"queue-saturated-backpressure",250*Duration.millisecond)
    else (.dispositionAdmit,"admitted",0)
  else (.dispositionAdmit,"admitted",0)

def insertRequest (q : TokenQueue F) (r : Ref) : TokenQueue F :=
  let req := q.heap.objects r
  let cost := req.effectiveCost
  let placed : TokenQueue F := {q with
    heap := RequestHeap.heap.heapPush q.heap r
    lookup := q.lookup.insert req.id r
    totalTokens := q.totalTokens+cost}
  placed.updateTenant req.tenantID (fun st =>
    {st with queuedRequests := st.queuedRequests+1,queuedTokens := st.queuedTokens+cost})

def releaseRequest (q : TokenQueue F) (r : Ref) (key : String) (h : RequestHeap F) : TokenQueue F :=
  let req := h.objects r
  let cost := req.effectiveCost
  let cut : TokenQueue F := {q with
    heap := h
    lookup := q.lookup.erase key
    totalTokens := q.totalTokens-cost}
  cut.updateTenant req.tenantID (fun st =>
    {st with queuedRequests := st.queuedRequests-1,queuedTokens := st.queuedTokens-cost})

def setObject (q : TokenQueue F) (r : Ref) (req : QueuedRequest F) : TokenQueue F :=
  {q with heap := {q.heap with objects := Function.update q.heap.objects r req}}

def stamp (q : TokenQueue F) (req : QueuedRequest F) (now : Time) : QueuedRequest F := {req with
    calculatedScore := q.calculatePriority req now
    arrival := if req.arrival.isZero then now else req.arrival}

def admitRequest (q : TokenQueue F) (r : Ref) (req : QueuedRequest F) (now : Time) : TokenQueue F :=
  let placed := (q.setObject r (q.stamp req now)).insertRequest r
  {placed with admittedCount := placed.admittedCount+1}

def enqueue (q : TokenQueue F) (r : Ref) (now : Time) : TokenQueue F×EnqueueResult F :=
  let req := q.heap.objects r
  let cost := req.effectiveCost
  let tenantCfg := q.getTenantConfig req.tenantID
  let found := q.getOrCreateTenantState req.tenantID
  let verdict := found.1.evaluateAdmission req tenantCfg found.2 cost now
  match verdict.1 with
  | .dispositionAdmit =>
      let admitted := found.1.admitRequest r req now
      (admitted,⟨.dispositionAdmit,"admitted",true,found.1.calculatePriority req now,
        admitted.heap.slots.length,admitted.totalTokens,0⟩)
  | .dispositionBackpressure =>
      ({found.1 with backpressuredCount := found.1.backpressuredCount+1},
        ⟨.dispositionBackpressure,verdict.2.1,false,0.0,found.1.heap.slots.length,
          found.1.totalTokens,verdict.2.2⟩)
  | .dispositionReject =>
      ({found.1 with rejectedCount := found.1.rejectedCount+1},
        ⟨.dispositionReject,verdict.2.1,false,0.0,found.1.heap.slots.length,found.1.totalTokens,
          verdict.2.2⟩)

def popRequest (q : TokenQueue F) : Option (Ref×TokenQueue F) :=
  match RequestHeap.heap.heapPop q.heap with
  | none => none
  | some (r,h) => some (r,q.releaseRequest r (h.objects r).id h)

def dequeueLoop (now : Time) : Nat → TokenQueue F → Option (TokenQueue F×Option Ref)
  | 0,q => some (q,none)
  | n+1,q =>
      if q.heap.slots.length=0 then some (q,none)
      else match q.popRequest with
        | none => none
        | some (r,rest) =>
            let req := rest.heap.objects r
            if req.expired now then
              dequeueLoop now n {rest with expiredEvictedCount := rest.expiredEvictedCount+1}
            else
              some (rest.updateTenant req.tenantID (fun st =>
                {st with activeTokens := st.activeTokens+req.effectiveCost}),some r)

def dequeue (q : TokenQueue F) (now : Time) : Option (TokenQueue F×Option Ref) :=
  dequeueLoop now q.heap.slots.length q

def remove (q : TokenQueue F) (id : String) : Option (TokenQueue F×Bool) :=
  match q.lookup.lookup id with
  | none => some (q,false)
  | some r =>
      match RequestHeap.heap.heapRemove q.heap (q.heap.objects r).heapIndex with
      | none => none
      | some (_,h) => some (q.releaseRequest r id h,true)

def finish (q : TokenQueue F) (tenantID : String) (allocatedCost actualTokens : Int64) :
    TokenQueue F :=
  q.updateTenant tenantID (fun st =>
    let active := st.activeTokens-allocatedCost
    {st with
      activeTokens := if active<0 then 0 else active
      servedTokens := st.servedTokens+actualTokens})

def drainLoop (now : Time) : Nat → TokenQueue F → List Ref → Int64 →
    Option (TokenQueue F×List Ref×Int64)
  | 0,q,valid,evicted => some (q,valid,evicted)
  | n+1,q,valid,evicted =>
      if q.heap.slots.length=0 then some (q,valid,evicted)
      else match q.popRequest with
        | none => none
        | some (r,rest) =>
            if (rest.heap.objects r).expired now then
              drainLoop now n {rest with expiredEvictedCount := rest.expiredEvictedCount+1}
                valid (evicted+1)
            else drainLoop now n rest (valid++[r]) evicted

def rescore (q : TokenQueue F) (now : Time) (r : Ref) : TokenQueue F :=
  let req := q.heap.objects r
  (q.setObject r {req with calculatedScore := q.calculatePriority req now}).insertRequest r

def evictExpired (q : TokenQueue F) (now : Time) : Option (TokenQueue F×Int64) :=
  match drainLoop now q.heap.slots.length q [] 0 with
  | none => none
  | some (drained,valid,evicted) => some (valid.foldl (fun q r => q.rescore now r) drained,evicted)

def allocate (q : TokenQueue F) (req : QueuedRequest F) : TokenQueue F :=
  {q with heap := {q.heap with
    objects := Function.update q.heap.objects q.heap.allocated req
    allocated := q.heap.allocated+1}}

end TokenQueue

inductive QueueOp (F : Type) where
  | enqueue (req : QueuedRequest F) (now : Time)
  | dequeue (now : Time)
  | remove (id : String)
  | finish (tenantID : String) (allocatedCost actualTokens : Int64)
  | evictExpired (now : Time)

inductive QueueAnswer (F : Type) where
  | enqueued (result : EnqueueResult F)
  | dequeued (req : Option Ref)
  | removed (ok : Bool)
  | finished
  | evicted (count : Int64)
  | panicked

namespace TokenQueue

def step (q : TokenQueue F) : QueueOp F → TokenQueue F×QueueAnswer F
  | .enqueue req now =>
      let result := (q.allocate req).enqueue q.heap.allocated now
      (result.1,.enqueued result.2)
  | .dequeue now =>
      match q.dequeue now with
      | none => (q,.panicked)
      | some (q',r) => (q',.dequeued r)
  | .remove id =>
      match q.remove id with
      | none => (q,.panicked)
      | some (q',ok) => (q',.removed ok)
  | .finish tenantID allocatedCost actualTokens =>
      (q.finish tenantID allocatedCost actualTokens,.finished)
  | .evictExpired now =>
      match q.evictExpired now with
      | none => (q,.panicked)
      | some (q',n) => (q',.evicted n)

end TokenQueue

end KServeLLM.Scheduler
