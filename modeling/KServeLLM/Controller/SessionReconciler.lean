import KServeLLM.Api.ExtraTypes
import KServeLLM.Framework.GoStrings
import KServeLLM.Framework.MapContents

namespace KServeLLM.Controller

open Api

variable {K : Kubernetes}

abbrev Session (K : Kubernetes) := InferenceSession .v1alpha2 K

abbrev Phase := SessionPhase .v1alpha2

instance instDecidableEqPhase : DecidableEq Phase := fun p q =>
  decidable_of_iff (p.text=q.text) ⟨fun h => by cases p; cases q; cases h; rfl,fun h => h ▸ rfl⟩

def sessionPhaseActive : Phase := ⟨"Active"⟩
def sessionPhaseIdle : Phase := ⟨"Idle"⟩
def sessionPhaseEvicted : Phase := ⟨"Evicted"⟩
def sessionPhaseCompleted : Phase := ⟨"Completed"⟩

inductive ApiError where
  | notFound
  | other (text : String)
  deriving DecidableEq

def ApiError.text : ApiError → String
  | .notFound => "not found"
  | .other text => text

structure Endpoint where
  addresses : List String
  ready : Option Bool

structure EndpointSlice where
  endpoints : List Endpoint

structure Answers (K : Kubernetes) where
  session : Except ApiError (Session K)
  model : Except ApiError String
  slices : Except ApiError (List EndpointSlice)
  sessions : List (Session K)
  update : Option ApiError

structure Done (K : Kubernetes) (ρ : Type) where
  written : Option (Session K)
  result : Except ApiError ρ

def updateStatus {ρ : Type} (update : Option ApiError) (session : Session K) (result : ρ) :
    Done K ρ :=
  match update with
  | some err => ⟨none,.error err⟩
  | none => ⟨some session,.ok result⟩

def terminateSession (session : Session K) (phase : Phase) : Session K :=
  {session with status := {session.status with phase, boundEndpoint := "", kvCacheSize := 0}}

def isTerminalSessionPhase (phase : Phase) : Bool :=
  phase=sessionPhaseEvicted || phase=sessionPhaseCompleted

def isExpired (session : Session K) (now : Time) : Bool :=
  match session.spec.ttl,session.status.lastActivityTime with
  | some ttl,some last => ttl < now.sub last
  | _,_ => false

def hostOf (endpoint : String) : String :=
  match GoString.cutLast ':' endpoint.toList with
  | some (host,_) => if host=[] then endpoint else String.ofList host
  | none => endpoint

def readyAddresses (slices : List EndpointSlice) : List String := slices.flatMap fun slice =>
    (slice.endpoints.filter fun ep => ep.ready.getD true).flatMap (·.addresses)

def validateEndpoint (answers : Answers K) (ns : String) (session : Session K) : Option Errorf :=
  let bound := session.status.boundEndpoint
  let modelRef := session.spec.modelRef
  if bound="" then some ⟨"no bound endpoint",[]⟩
  else
    let host := hostOf bound
    match answers.slices with
    | .error err => some ⟨"endpointslices for %s not found: %w",[.str modelRef,.str err.text]⟩
    | .ok slices =>
      if slices=[] then some ⟨"no endpointslices found for service %s",[.str modelRef]⟩
      else if (readyAddresses slices).any fun addr =>
          addr=host || modelRef++"."++ns++".svc.cluster.local"=host then none
      else some ⟨"endpoint %s no longer in service %s endpoints",[.str bound,.str modelRef]⟩

def loadMap (sessions : List (Session K)) : GoMap String Nat := sessions.foldl (fun loads s =>
    if s.status.phase=sessionPhaseActive ∧ s.status.boundEndpoint≠"" then
      bump loads s.status.boundEndpoint
    else loads) ∅

def pickLeastLoaded (loads : GoMap String Nat) (best : String×Nat) (addr : String) : String×Nat :=
  let epStr := addr++":8000"
  if times loads epStr < best.2 then (epStr,times loads epStr) else best

def selectEndpoint (answers : Answers K) (session : Session K) : Except Errorf String :=
  let modelRef := session.spec.modelRef
  match answers.model with
  | .error err => .error ⟨"model %s not found: %w",[.str modelRef,.str err.text]⟩
  | .ok name =>
    match answers.slices with
    | .error err =>
      .error ⟨"listing ready endpoints for model %s: %w",[.str modelRef,.str err.text]⟩
    | .ok slices =>
      if slices=[] then .error ⟨"no endpointslices found for model %s",[.str modelRef]⟩
      else
        let (bestEndpoint,_) := (readyAddresses slices).foldl
          (pickLeastLoaded (loadMap answers.sessions)) ("",2^63-1)
        if bestEndpoint="" then .error ⟨"no ready endpoints found for model %s",[.str name]⟩
        else .ok bestEndpoint

def dropStaleBinding (answers : Answers K) (ns : String) (session : Session K) : Session K :=
  if session.status.boundEndpoint≠"" ∧ !isTerminalSessionPhase session.status.phase then
    match validateEndpoint answers ns session with
    | none => session
    | some _ =>
      {session with status :=
        {session.status with boundEndpoint := "", phase := sessionPhaseActive}}
  else session

def requeueDelay (session : Session K) : Duration :=
  match session.spec.ttl with
  | none => 30*Duration.second
  | some ttl => ttl/2

def bindSession (answers : Answers K) (ns : String) (session : Session K) : Done K Duration :=
  let session := dropStaleBinding answers ns session
  if session.status.boundEndpoint="" ∧ !isTerminalSessionPhase session.status.phase then
    match selectEndpoint answers session with
    | .error _ => updateStatus answers.update session (5*Duration.second)
    | .ok endpoint =>
      let session := {session with status :=
        {session.status with boundEndpoint := endpoint, phase := sessionPhaseActive}}
      updateStatus answers.update session (requeueDelay session)
  else updateStatus answers.update session (requeueDelay session)

def SessionReconciler.reconcile (answers : Answers K) (ns : String) (now : Time) :
    Done K Duration :=
  match answers.session with
  | .error .notFound => ⟨none,.ok 0⟩
  | .error err => ⟨none,.error err⟩
  | .ok session =>
    if session.status.phase=sessionPhaseIdle ∧ isExpired session now then
      updateStatus answers.update (terminateSession session sessionPhaseEvicted) 0
    else if 0 < session.spec.maxTurns ∧ session.spec.maxTurns ≤ session.status.turnCount then
      updateStatus answers.update (terminateSession session sessionPhaseCompleted) 0
    else bindSession answers ns session

structure RouteDecision where
  (endpoint sessionID : String := "")
  reason : String
  cacheHit : Bool := false
  deriving DecidableEq

def SessionRouter.routeBySession (session : Except ApiError (Session K)) (sessionID : String) :
    Except ApiError (Option RouteDecision) :=
  match session with
  | .error err => .error err
  | .ok session =>
    if session.status.phase≠sessionPhaseActive ∨ session.status.boundEndpoint="" then .ok none
    else .ok (some ⟨session.status.boundEndpoint,sessionID,"session-affinity-kv-cache-hit",true⟩)

def SessionRouter.route (session : Except ApiError (Session K)) (sessionID : String) :
    RouteDecision :=
  let elsewhere : RouteDecision := {reason := "no-session-affinity-epp-routing"}
  if sessionID="" then elsewhere
  else
    match SessionRouter.routeBySession session sessionID with
    | .ok (some decision) => decision
    | _ => elsewhere

def SessionRouter.recordActivity (session : Except ApiError (Session K))
    (update : Option ApiError) (tokenCount : Int64) (now : Time) : Done K Unit :=
  match session with
  | .error err => ⟨none,.error err⟩
  | .ok session =>
    updateStatus update {session with status := {session.status with
      turnCount := session.status.turnCount+1
      tokenCount := session.status.tokenCount+tokenCount
      lastActivityTime := some now
      phase := sessionPhaseActive}} ()

end KServeLLM.Controller
