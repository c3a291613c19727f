import KServeLLM.Kernel.Session

namespace KServeLLM.Kernel

inductive CoactorPattern where
  | prefillDecode | agentEnsemble | pipeline | mixtureOfAgents
  deriving DecidableEq

def CoactorPattern.text : CoactorPattern → String
  | .prefillDecode => "prefill-decode"
  | .agentEnsemble => "agent-ensemble"
  | .pipeline => "pipeline"
  | .mixtureOfAgents => "mixture-of-agents"

inductive CoactorGroupPhase where
  | forming | ready | degraded | dissolved
  deriving DecidableEq

def CoactorGroupPhase.text : CoactorGroupPhase → String
  | .forming => "Forming"
  | .ready => "Ready"
  | .degraded => "Degraded"
  | .dissolved => "Dissolved"

inductive TransferPhase where
  | uninitialized | prefilling | fenced | transmitting | verifying | completed | failed | aborted
  deriving DecidableEq

def TransferPhase.text : TransferPhase → String
  | .uninitialized => "Uninitialized"
  | .prefilling => "Prefilling"
  | .fenced => "Fenced"
  | .transmitting => "Transmitting"
  | .verifying => "Verifying"
  | .completed => "Completed"
  | .failed => "Failed"
  | .aborted => "Aborted"

inductive TransferMechanism where
  | nccl | rdma | tcp
  deriving DecidableEq

inductive MemberRole where
  | prefill | decode | router | worker
  deriving DecidableEq

def MemberRole.text : MemberRole → String
  | .prefill => "prefill"
  | .decode => "decode"
  | .router => "router"
  | .worker => "worker"

abbrev ActorRef := Nat
abbrev SessionRef := Nat
abbrev FenceRef := Nat

structure GroupStateVector where
  phase : CoactorGroupPhase
  pattern : CoactorPattern
  transfer : TransferPhase
  deriving DecidableEq

structure TransferFence where
  epoch : UInt64
  (sessionID prefillActorID decodeActorID : String)
  prefixTokens : Int64
  digest : String
  mechanism : Option TransferMechanism
  (createdAt expiresAt : Time)
  deriving DecidableEq

structure CoactorMember where
  name : String
  role : MemberRole
  actor : ActorRef
  dependsOn : List String
  deriving DecidableEq

structure CoActorGroup where
  id : String
  pattern : CoactorPattern
  members : GoMap String CoactorMember
  vector : GroupStateVector
  currentEpoch : UInt64
  activeFence : Option FenceRef

def newCoActorGroup (id : String) (pattern : CoactorPattern) : CoActorGroup where
  id := id
  pattern := pattern
  members := ∅
  vector := ⟨.forming,pattern,.uninitialized⟩
  currentEpoch := 0
  activeFence := none

namespace CoActorGroup

def addMember (g : CoActorGroup) (name : String) (role : MemberRole) (actor : ActorRef)
    (dependsOn : List String) : CoActorGroup :=
  {g with members := g.members.insert name ⟨name,role,actor,dependsOn⟩}

def memberList (g : CoActorGroup) : List CoactorMember := g.members.entries.map Sigma.snd

def findMemberByRole (g : CoActorGroup) (order : RangeOrder CoactorMember) (role : MemberRole) :
    Except (GoError ActorError) CoactorMember :=
  match (order.arrange g.memberList).find? (fun m => m.role=role) with
  | some m => .ok m
  | none => .error (.errorf "%w: %s" (.sentinel .memberNotFound) [.str role.text])

end CoActorGroup

inductive SlotEvent where
  | acquired (actor : ActorRef)
  | released (actor : ActorRef)
  deriving DecidableEq

structure World where
  group : CoActorGroup
  actors : ActorRef → Actor
  sessions : SessionRef → InferenceSession
  fences : List TransferFence
  slotLog : List SlotEvent

namespace World

def setTransfer (w : World) (phase : TransferPhase) : World :=
  {w with group := {w.group with vector := {w.group.vector with transfer := phase}}}

def setCacheState (w : World) (s : SessionRef) (state : SessionCacheState) : World :=
  {w with sessions := Function.update w.sessions s ((w.sessions s).setCacheState state)}

def bindEndpoint (w : World) (s : SessionRef) (endpoint : String) : World×Err :=
  let bound := (w.sessions s).bindEndpoint endpoint
  ({w with sessions := Function.update w.sessions s bound.1},bound.2)

def slotCall (w : World) (r : ActorRef) (outcome : Actor×Err) (event : SlotEvent) : World×Err :=
  ({w with
    actors := Function.update w.actors r outcome.1
    slotLog := if outcome.2=none then w.slotLog++[event] else w.slotLog},outcome.2)

def acquireSlot (w : World) (r : ActorRef) (now : Time) : World×Err :=
  w.slotCall r ((w.actors r).acquireSlot now) (.acquired r)

def releaseSlot (w : World) (r : ActorRef) (now : Time) : World×Err :=
  w.slotCall r ((w.actors r).releaseSlot now) (.released r)

def refreshPhase (w : World) : World×CoactorGroupPhase :=
  let members := w.group.memberList
  let readyCount := members.countP (fun m =>
    decide ((w.actors m.actor).vector.lifecycle=.active ∧
      (w.actors m.actor).vector.residency=.resident))
  let phase : CoactorGroupPhase :=
    if members.length=0 then .dissolved
    else if readyCount=members.length then .ready
    else if 0 < readyCount then .degraded
    else .forming
  ({w with group := {w.group with vector := {w.group.vector with phase := phase}}},phase)

def initiatePrefill (w : World) (s : SessionRef) (order : RangeOrder CoactorMember)
    (now : Time) : World×Err :=
  if w.group.pattern≠.prefillDecode then
    (w,some (.errorf "%w: initiate prefill requires %s" (.sentinel .invalidPattern)
      [.str CoactorPattern.prefillDecode.text]))
  else if w.group.vector.phase≠.ready then
    (w,some (.errorf "%w: group phase %s is not ready" (.sentinel .invalidTransition)
      [.str w.group.vector.phase.text]))
  else match w.group.findMemberByRole order .prefill with
    | .error e => (w,some e)
    | .ok m =>
        let taken := w.acquireSlot m.actor now
        match taken.2 with
        | some e => (taken.1,some (.errorf "prefill slot acquire failed: %w" e []))
        | none => ((taken.1.setTransfer .prefilling).setCacheState s .warming,none)

def raiseFence (w : World) (s : SessionRef) (tokens : Int64) (digest : String) (ttl : Duration)
    (now : Time) (prefill decode : CoactorMember) : World :=
  let fence : TransferFence := {
    epoch := w.group.currentEpoch+1
    sessionID := (w.sessions s).id
    prefillActorID := (w.actors prefill.actor).id
    decodeActorID := (w.actors decode.actor).id
    prefixTokens := tokens
    digest := digest
    mechanism := none
    createdAt := now
    expiresAt := now.add ttl}
  let fenced : World := {w with
    group := {w.group with
      currentEpoch := w.group.currentEpoch+1
      activeFence := some w.fences.length}
    fences := w.fences++[fence]}
  (fenced.setTransfer .fenced).setCacheState s .fenced

def createTransferFence (w : World) (s : SessionRef) (tokens : Int64) (digest : String)
    (ttl : Duration) (now : Time) (prefillOrder decodeOrder : RangeOrder CoactorMember) :
    World×Option FenceRef×Err :=
  if w.group.pattern≠.prefillDecode then
    (w,none,some (.errorf "%w: transfer fence requires %s" (.sentinel .invalidPattern)
      [.str CoactorPattern.prefillDecode.text]))
  else match w.group.findMemberByRole prefillOrder .prefill with
    | .error e => (w,none,some e)
    | .ok prefill =>
        match w.group.findMemberByRole decodeOrder .decode with
        | .error e => (w,none,some e)
        | .ok decode =>
            (w.raiseFence s tokens digest ttl now prefill decode,some w.fences.length,none)

def currentFence (w : World) (f : FenceRef) : Option TransferFence :=
  (w.fences[f]?).filter (fun fence => fence.epoch=w.group.currentEpoch)

def beginTransfer (w : World) (f : FenceRef) (method : TransferMechanism) : World×Err :=
  match w.currentFence f with
  | none => (w,some (.errorf "%w: epoch mismatch" (.sentinel .staleFence) []))
  | some fence =>
      if w.group.vector.transfer≠.fenced then
        (w,some (.errorf "%w: current transfer phase %s" (.sentinel .invalidTransition)
          [.str w.group.vector.transfer.text]))
      else
        let started : World :=
          {w with fences := w.fences.set f {fence with mechanism := some method}}
        (started.setTransfer .transmitting,none)

def releasePrefill (w : World) (now : Time) (order : RangeOrder CoactorMember) : World :=
  match w.group.findMemberByRole order .prefill with
  | .ok m => (w.releaseSlot m.actor now).1
  | .error _ => w

def completeHandoff (w : World) (decodeEndpoint : String) (now : Time) (s : SessionRef)
    (prefillOrder : RangeOrder CoactorMember) : World×Err :=
  let freed := w.releasePrefill now prefillOrder
  let bound := ((freed.setTransfer .completed).setCacheState s .transferred).bindEndpoint s
    decodeEndpoint
  match bound.2 with
  | some e => (bound.1,some (.errorf "failed binding decode endpoint: %w" e []))
  | none => (bound.1,none)

def verifyAndCompleteHandoff (w : World) (f : FenceRef) (receivedDigest decodeEndpoint : String)
    (now : Time) (s : SessionRef) (decodeOrder prefillOrder : RangeOrder CoactorMember) :
    World×Err :=
  match w.currentFence f with
  | none => (w,some (.errorf "%w: invalid fence" (.sentinel .staleFence) []))
  | some fence =>
      if now.after fence.expiresAt then
        (w.setTransfer .failed,some (.errorf "%w: fence expired at %s" (.sentinel .fenceExpired)
          [.time fence.expiresAt]))
      else if fence.digest≠receivedDigest then
        ((w.setTransfer .failed).setCacheState s .empty,
          some (.errorf "%w: expected %s, got %s" (.sentinel .digestMismatch)
            [.str fence.digest,.str receivedDigest]))
      else match w.group.findMemberByRole decodeOrder .decode with
        | .error e => (w,some e)
        | .ok m =>
            let taken := w.acquireSlot m.actor now
            match taken.2 with
            | some e =>
                (taken.1.setTransfer .failed,some (.errorf "decode slot acquire failed: %w" e []))
            | none => taken.1.completeHandoff decodeEndpoint now s prefillOrder

def abortTransfer (w : World) (f : FenceRef) (_reason : String) : World×Err :=
  match w.currentFence f with
  | none => (w,some (.errorf "%w: invalid epoch during abort" (.sentinel .staleFence) []))
  | some _ =>
      ({w with group := {w.group with
        vector := {w.group.vector with transfer := .aborted,phase := .degraded}}},none)

end World

inductive GroupOp where
  | refreshPhase
  | initiatePrefill (s : SessionRef) (order : RangeOrder CoactorMember) (now : Time)
  | createTransferFence (s : SessionRef) (tokens : Int64) (digest : String) (ttl : Duration)
      (now : Time) (prefillOrder decodeOrder : RangeOrder CoactorMember)
  | beginTransfer (f : FenceRef) (method : TransferMechanism)
  | verifyAndCompleteHandoff (f : FenceRef) (receivedDigest decodeEndpoint : String) (now : Time)
      (s : SessionRef) (decodeOrder prefillOrder : RangeOrder CoactorMember)
  | abortTransfer (f : FenceRef) (reason : String)

inductive GroupAnswer where
  | phase (phase : CoactorGroupPhase)
  | done (err : Err)
  | fence (ref : Option FenceRef) (err : Err)
  deriving DecidableEq

inductive WorldOp where
  | group (op : GroupOp)
  | addMember (name : String) (role : MemberRole) (actor : ActorRef) (dependsOn : List String)
  | session (s : SessionRef) (op : SessionOp)
  | actor (r : ActorRef) (op : ActorOp)

inductive WorldAnswer where
  | group (answer : GroupAnswer)
  | added
  | session (answer : SessionAnswer)
  | actor (answer : ActorAnswer)

namespace World

def groupStep (w : World) : GroupOp → World×GroupAnswer
  | .refreshPhase => (w.refreshPhase.1,.phase w.refreshPhase.2)
  | .initiatePrefill s order now =>
      let r := w.initiatePrefill s order now
      (r.1,.done r.2)
  | .createTransferFence s tokens digest ttl now prefillOrder decodeOrder =>
      let r := w.createTransferFence s tokens digest ttl now prefillOrder decodeOrder
      (r.1,.fence r.2.1 r.2.2)
  | .beginTransfer f method =>
      let r := w.beginTransfer f method
      (r.1,.done r.2)
  | .verifyAndCompleteHandoff f digest endpoint now s decodeOrder prefillOrder =>
      let r := w.verifyAndCompleteHandoff f digest endpoint now s decodeOrder prefillOrder
      (r.1,.done r.2)
  | .abortTransfer f reason =>
      let r := w.abortTransfer f reason
      (r.1,.done r.2)

def step (w : World) : WorldOp → World×WorldAnswer
  | .group op => ((w.groupStep op).1,.group (w.groupStep op).2)
  | .addMember name role actor dependsOn =>
      ({w with group := w.group.addMember name role actor dependsOn},.added)
  | .session s op =>
      let r := (w.sessions s).step op
      ({w with sessions := Function.update w.sessions s r.1},.session r.2)
  | .actor a op =>
      let r := (w.actors a).step op
      ({w with actors := Function.update w.actors a r.1},.actor r.2)

def initial (id : String) (pattern : CoactorPattern) (actors : ActorRef → Actor)
    (sessions : SessionRef → InferenceSession) : World :=
  ⟨newCoActorGroup id pattern,actors,sessions,[],[]⟩

end World

end KServeLLM.Kernel
