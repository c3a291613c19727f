import KServeLLM.Framework.GoTypes

namespace KServeLLM.AccessPlane

inductive Disposition where
  | dispositionAdmit | dispositionBackpressure | dispositionReject
  deriving DecidableEq

def Disposition.text : Disposition → String
  | .dispositionAdmit => "admit"
  | .dispositionBackpressure => "backpressure"
  | .dispositionReject => "reject"

structure Intent where
  (tenantID route : String)

structure TargetPolicy where
  model : String
  maxInFlight : Int64

structure RoutePolicy where
  targets : List TargetPolicy

structure TenantPolicy where
  (maxInFlight maxQueueDepth : Int64)
  routes : GoMap String RoutePolicy

structure TenantObservation where
  (inFlight queueDepth : Int64)

structure ModelObservation where
  ready : Bool
  inFlight : Int64

structure RuntimeObservation where
  tenant : TenantObservation
  models : GoMap String ModelObservation

structure Decision where
  disposition : Disposition
  (model reason : String)
  queueCapacityRemaining : Int64
  deriving DecidableEq

structure Evaluator where
  tenants : GoMap String TenantPolicy

def reject (reason : String) : Decision := ⟨.dispositionReject,"",reason,0⟩

def validObservation (observed : RuntimeObservation) : Bool :=
  !(decide (observed.tenant.inFlight<0) || decide (observed.tenant.queueDepth<0)) &&
    observed.models.entries.all fun entry => !decide (entry.2.inFlight<0)

def capacityDecision (policy : TenantPolicy) (observed : RuntimeObservation) (reason : String) :
    Decision :=
  let remaining := policy.maxQueueDepth-observed.tenant.queueDepth
  if 0 < remaining then ⟨.dispositionBackpressure,"",reason,remaining⟩
  else reject "queue-capacity-exhausted"

def TargetPolicy.eligible (target : TargetPolicy) (observed : RuntimeObservation) : Bool :=
  match observed.models.lookup target.model with
  | some load => load.ready && decide (load.inFlight < target.maxInFlight)
  | none => false

namespace Evaluator

def evaluate (e : Evaluator) (intent : Intent) (observed : RuntimeObservation) : Decision :=
  match e.tenants.lookup intent.tenantID with
  | none => reject "tenant-not-admitted"
  | some policy =>
    if validObservation observed then
      match policy.routes.lookup intent.route with
      | none => reject "route-not-admitted"
      | some route =>
        if policy.maxInFlight ≤ observed.tenant.inFlight then
          capacityDecision policy observed "tenant-concurrency-limit"
        else
          match route.targets.find? fun target => target.eligible observed with
          | some target => ⟨.dispositionAdmit,target.model,"target-eligible",0⟩
          | none => capacityDecision policy observed "no-eligible-target"
    else reject "invalid-runtime-observation"

def evaluateContext (e : Evaluator) (canceledBefore canceledAfter : Option String)
    (intent : Intent) (observed : RuntimeObservation) : Except (GoError String) Decision :=
  match canceledBefore with
  | some err => .error (.errorf "access policy evaluation canceled: %w" (.sentinel err) [])
  | none =>
    match canceledAfter with
    | some err => .error (.errorf "access policy evaluation canceled: %w" (.sentinel err) [])
    | none => .ok (e.evaluate intent observed)

end Evaluator

end KServeLLM.AccessPlane
