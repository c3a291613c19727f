import KServeLLM.Kernel.CoActorGroup

namespace KServeLLM.Kernel

inductive HandoffVerdict where
  | stale | expired | mismatched | undecodable | refused
  | granted (decode : ActorRef)
  deriving DecidableEq

def HandoffVerdict.isGranted : HandoffVerdict → Bool
  | .granted _ => true
  | _ => false

variable {now : Time} {order : RangeOrder CoactorMember}

namespace World

def prefillTarget (w : World) (order : RangeOrder CoactorMember) : Option ActorRef :=
  if w.group.pattern=.prefillDecode ∧ w.group.vector.phase=.ready then
    match w.group.findMemberByRole order .prefill with
    | .ok m => if (w.actors m.actor).Available then some m.actor else none
    | .error _ => none
  else none

def fenceMembers (w : World) (prefillOrder decodeOrder : RangeOrder CoactorMember) :
    Option (CoactorMember×CoactorMember) :=
  if w.group.pattern=.prefillDecode then
    match w.group.findMemberByRole prefillOrder .prefill,
      w.group.findMemberByRole decodeOrder .decode with
    | .ok prefill,.ok decode => some (prefill,decode)
    | _,_ => none
  else none

def handoffVerdict (w : World) (f : FenceRef) (receivedDigest : String) (now : Time)
    (decodeOrder : RangeOrder CoactorMember) : HandoffVerdict :=
  match w.currentFence f with
  | none => .stale
  | some fence =>
      if now.after fence.expiresAt then .expired
      else if fence.digest≠receivedDigest then .mismatched
      else match w.group.findMemberByRole decodeOrder .decode with
        | .error _ => .undecodable
        | .ok m => if (w.actors m.actor).Available then .granted m.actor else .refused

def taken (w : World) (r : ActorRef) (now : Time) : World := {w with
    actors := Function.update w.actors r ((w.actors r).acquired now)
    slotLog := w.slotLog++[.acquired r]}

def givenBack (w : World) (r : ActorRef) (now : Time) : World := {w with
    actors := Function.update w.actors r ((w.actors r).released now)
    slotLog := w.slotLog++[.released r]}

section

variable (w : World) (phase : TransferPhase) (s : SessionRef) (state : SessionCacheState)

@[simp] theorem setTransfer_actors : (w.setTransfer phase).actors=w.actors := rfl
@[simp] theorem setTransfer_fences : (w.setTransfer phase).fences=w.fences := rfl
@[simp] theorem setTransfer_transfer : (w.setTransfer phase).group.vector.transfer=phase := rfl
@[simp] theorem setCacheState_group : (w.setCacheState s state).group=w.group := rfl
@[simp] theorem setCacheState_actors : (w.setCacheState s state).actors=w.actors := rfl
@[simp] theorem setCacheState_fences : (w.setCacheState s state).fences=w.fences := rfl

end

section

variable {w : World} {r : ActorRef}

theorem acquireSlot_granted (h : (w.actors r).Available) (now : Time) :
    w.acquireSlot r now=(w.taken r now,none) := by
  simp [acquireSlot,slotCall,Actor.acquireSlot_of_available h,taken]

theorem acquireSlot_refused (h : ¬(w.actors r).Available) (now : Time) :
    ∃e,w.acquireSlot r now=(w,some e) ∧
      e.root∈[.actorNotActive,.actorNotResident,.reentrancyProhibited,.capacityExceeded] := by
  obtain ⟨e,he,root⟩ := Actor.acquireSlot_of_not_available h now
  exact ⟨e,by simp [acquireSlot,slotCall,he],root⟩

theorem releaseSlot_granted (h : 0<(w.actors r).activeSlots) :
    (w.releaseSlot r now).1=w.givenBack r now := by
  simp [releaseSlot,slotCall,Actor.releaseSlot_of_pos h,givenBack]

theorem releaseSlot_refused (h : ¬0<(w.actors r).activeSlots) : (w.releaseSlot r now).1=w := by
  obtain ⟨e,he⟩ := Actor.releaseSlot_of_not_pos h now
  simp [releaseSlot,slotCall,he]

end

theorem releasePrefill_cases {w : World} : w.releasePrefill now order=w ∨
      ∃r,0<(w.actors r).activeSlots ∧ w.releasePrefill now order=w.givenBack r now := by
  unfold releasePrefill
  cases w.group.findMemberByRole _ _ with
  | error e => exact Or.inl rfl
  | ok m =>
    by_cases h : 0<(w.actors m.actor).activeSlots
    · exact Or.inr ⟨m.actor,h,releaseSlot_granted h⟩
    · exact Or.inl (releaseSlot_refused h)

theorem releasePrefill_frame (w : World) (now : Time) (order : RangeOrder CoactorMember) :
    (w.releasePrefill now order).group=w.group ∧ (w.releasePrefill now order).sessions=w.sessions ∧
      (w.releasePrefill now order).fences=w.fences := by
  rcases releasePrefill_cases with h|⟨r,_,h⟩ <;> rw [h] <;> exact ⟨rfl,rfl,rfl⟩

end World

def InferenceSession.handedOff (s : InferenceSession) (endpoint : String) : InferenceSession :=
  ((s.setCacheState .transferred).bindEndpoint endpoint).1

namespace World

def handedOff (w : World) (endpoint : String) (now : Time) (s : SessionRef)
    (order : RangeOrder CoactorMember) : World :=
  let done := (w.releasePrefill now order).setTransfer .completed
  {done with sessions := Function.update w.sessions s ((w.sessions s).handedOff endpoint)}

theorem completeHandoff_eq (w : World) (endpoint : String) (now : Time) (s : SessionRef)
    (order : RangeOrder CoactorMember) :
    (w.completeHandoff endpoint now s order).1=w.handedOff endpoint now s order ∧
    ((w.sessions s).terminal → ∃e,(w.completeHandoff endpoint now s order).2=some e ∧
      e.root=.sessionTerminal) ∧
    (¬(w.sessions s).terminal → (w.completeHandoff endpoint now s order).2=none) := by
  obtain ⟨_,sessions,_⟩ := releasePrefill_frame w now order
  by_cases t : (w.sessions s).terminal
  · have t' : ((w.sessions s).setCacheState .transferred).terminal := t
    simp [completeHandoff,handedOff,InferenceSession.handedOff,bindEndpoint,setCacheState,
      setTransfer,InferenceSession.bindEndpoint,sessions,t,t',GoError.root]
  · have t' : ¬((w.sessions s).setCacheState .transferred).terminal := t
    simp [completeHandoff,handedOff,InferenceSession.handedOff,bindEndpoint,setCacheState,
      setTransfer,InferenceSession.bindEndpoint,sessions,t,t']

end World

inductive GroupOutcome (w : World) : GroupOp → World → GroupAnswer → Prop where
  | refreshed (phase : CoactorGroupPhase) :
      GroupOutcome w .refreshPhase
        {w with group := {w.group with vector := {w.group.vector with phase := phase}}}
        (.phase phase)
  | started {s order now r} (target : w.prefillTarget order=some r) :
      GroupOutcome w (.initiatePrefill s order now)
        (((w.taken r now).setTransfer .prefilling).setCacheState s .warming) (.done none)
  | notStarted {s order now} (e) (target : w.prefillTarget order=none) :
      GroupOutcome w (.initiatePrefill s order now) w (.done (some e))
  | fenced {s tokens digest ttl now prefillOrder decodeOrder p d}
      (members : w.fenceMembers prefillOrder decodeOrder=some (p,d)) :
      GroupOutcome w (.createTransferFence s tokens digest ttl now prefillOrder decodeOrder)
        (w.raiseFence s tokens digest ttl now p d) (.fence (some w.fences.length) none)
  | notFenced {s tokens digest ttl now prefillOrder decodeOrder} (e)
      (members : w.fenceMembers prefillOrder decodeOrder=none) :
      GroupOutcome w (.createTransferFence s tokens digest ttl now prefillOrder decodeOrder) w
        (.fence none (some e))
  | begun {f method fence} (current : w.currentFence f=some fence)
      (phase : w.group.vector.transfer=.fenced) :
      GroupOutcome w (.beginTransfer f method)
        ({w with fences := w.fences.set f {fence with mechanism := some method}}.setTransfer
          .transmitting) (.done none)
  | notBegun {f method} (e) (off : w.currentFence f=none ∨ w.group.vector.transfer≠.fenced) :
      GroupOutcome w (.beginTransfer f method) w (.done (some e))
  | unverified {f digest endpoint now s decodeOrder prefillOrder} (e)
      (verdict : w.handoffVerdict f digest now decodeOrder=.stale ∨
        w.handoffVerdict f digest now decodeOrder=.undecodable)
      (root : e.root=.staleFence ∨ e.root=.memberNotFound) :
      GroupOutcome w (.verifyAndCompleteHandoff f digest endpoint now s decodeOrder prefillOrder)
        w (.done (some e))
  | failed {f digest endpoint now s decodeOrder prefillOrder} (e)
      (verdict : w.handoffVerdict f digest now decodeOrder=.expired ∨
        w.handoffVerdict f digest now decodeOrder=.refused)
      (root : e.root∉[.staleFence,.memberNotFound,.sessionTerminal]) :
      GroupOutcome w (.verifyAndCompleteHandoff f digest endpoint now s decodeOrder prefillOrder)
        (w.setTransfer .failed) (.done (some e))
  | mismatched {f digest endpoint now s decodeOrder prefillOrder} (e)
      (verdict : w.handoffVerdict f digest now decodeOrder=.mismatched)
      (root : e.root=.digestMismatch) :
      GroupOutcome w (.verifyAndCompleteHandoff f digest endpoint now s decodeOrder prefillOrder)
        ((w.setTransfer .failed).setCacheState s .empty) (.done (some e))
  | completed {f digest endpoint now s decodeOrder prefillOrder r} (err)
      (verdict : w.handoffVerdict f digest now decodeOrder=.granted r)
      (bound : err=none ∧ ¬(w.sessions s).terminal ∨
        ∃e,err=some e ∧ e.root=.sessionTerminal ∧ (w.sessions s).terminal) :
      GroupOutcome w (.verifyAndCompleteHandoff f digest endpoint now s decodeOrder prefillOrder)
        ((w.taken r now).handedOff endpoint now s prefillOrder) (.done err)
  | aborted {f reason fence} (current : w.currentFence f=some fence) :
      GroupOutcome w (.abortTransfer f reason) {w with group := {w.group with
          vector := {w.group.vector with transfer := .aborted,phase := .degraded}}} (.done none)
  | notAborted {f reason} (e) (stale : w.currentFence f=none) :
      GroupOutcome w (.abortTransfer f reason) w (.done (some e))

namespace World

theorem initiatePrefill_outcome {w : World} {s : SessionRef} :
    GroupOutcome w (.initiatePrefill s order now) (w.initiatePrefill s order now).1
      (.done (w.initiatePrefill s order now).2) := by
  by_cases pattern : w.group.pattern=.prefillDecode
  · by_cases ready : w.group.vector.phase=.ready
    · cases found : w.group.findMemberByRole order .prefill with
      | error e =>
        simp only [initiatePrefill,pattern,ready,found]
        exact .notStarted e (by simp [prefillTarget,found])
      | ok m =>
        by_cases free : (w.actors m.actor).Available
        · simp only [initiatePrefill,pattern,ready,found,acquireSlot_granted free]
          exact .started (by simp [prefillTarget,pattern,ready,found,free])
        · obtain ⟨e,he,_⟩ := acquireSlot_refused free now
          simp only [initiatePrefill,pattern,ready,found,he]
          exact .notStarted _ (by simp [prefillTarget,found,free])
    · simp only [initiatePrefill,pattern,ready,ne_eq]
      exact .notStarted _ (by simp [prefillTarget,ready])
  · simp only [initiatePrefill,pattern,ne_eq,not_false_iff]
    exact .notStarted _ (by simp [prefillTarget,pattern])

variable {digest : String}

theorem createTransferFence_outcome {w : World} {s : SessionRef} {tokens : Int64} {ttl : Duration}
    {prefillOrder decodeOrder : RangeOrder CoactorMember} :
    let r := w.createTransferFence s tokens digest ttl now prefillOrder decodeOrder
    GroupOutcome w (.createTransferFence s tokens digest ttl now prefillOrder decodeOrder) r.1
      (.fence r.2.1 r.2.2) := by
  by_cases pattern : w.group.pattern=.prefillDecode
  · cases prefill : w.group.findMemberByRole prefillOrder .prefill with
    | error e =>
      simp only [createTransferFence,pattern,prefill]
      exact .notFenced e (by simp [fenceMembers,prefill])
    | ok p =>
      cases decode : w.group.findMemberByRole decodeOrder .decode with
      | error e =>
        simp only [createTransferFence,pattern,prefill,decode]
        exact .notFenced e (by simp [fenceMembers,decode])
      | ok d =>
        simp only [createTransferFence,pattern,prefill,decode]
        exact .fenced (by simp [fenceMembers,pattern,prefill,decode])
  · simp only [createTransferFence,pattern,ne_eq,not_false_iff]
    exact .notFenced _ (by simp [fenceMembers,pattern])

theorem findMemberByRole_root {g : CoActorGroup}
    {role : MemberRole} {e : GoError ActorError} (h : g.findMemberByRole order role=.error e) :
    e.root=.memberNotFound := by
  unfold CoActorGroup.findMemberByRole at h
  split at h
  · cases h
  · cases h
    rfl

theorem verifyAndCompleteHandoff_outcome {w : World} {f : FenceRef}
    {endpoint : String} {s : SessionRef}
    {decodeOrder prefillOrder : RangeOrder CoactorMember} :
    let r := w.verifyAndCompleteHandoff f digest endpoint now s decodeOrder prefillOrder
    GroupOutcome w (.verifyAndCompleteHandoff f digest endpoint now s decodeOrder prefillOrder) r.1
      (.done r.2) := by
  cases current : w.currentFence f with
  | none =>
    simp only [verifyAndCompleteHandoff,current]
    exact .unverified _ (Or.inl (by simp [handoffVerdict,current])) (Or.inl rfl)
  | some fence =>
    by_cases late : now.after fence.expiresAt=true
    · simp only [verifyAndCompleteHandoff,current,late]
      exact .failed _ (Or.inl (by simp [handoffVerdict,current,late])) (by simp [GoError.root])
    by_cases same : fence.digest=digest
    · cases found : w.group.findMemberByRole decodeOrder .decode with
      | error e =>
        simp only [verifyAndCompleteHandoff,current,late,same,ne_eq,found]
        exact .unverified e (Or.inr (by simp [handoffVerdict,current,late,same,found]))
          (Or.inr (findMemberByRole_root found))
      | ok m =>
        by_cases free : (w.actors m.actor).Available
        · have verdict : w.handoffVerdict f digest now decodeOrder=.granted m.actor := by
            simp [handoffVerdict,current,late,same,found,free]
          obtain ⟨after,ended,live⟩ :=
            completeHandoff_eq (w.taken m.actor now) endpoint now s prefillOrder
          simp only [verifyAndCompleteHandoff,current,late,same,ne_eq,not_true,
            Bool.false_eq_true,if_false,found,acquireSlot_granted free,after]
          apply GroupOutcome.completed _ verdict
          by_cases t : (w.sessions s).terminal
          · obtain ⟨e,he,root⟩ := ended t
            exact Or.inr ⟨e,he,root,t⟩
          · exact Or.inl ⟨live t,t⟩
        · obtain ⟨e,he,root⟩ := acquireSlot_refused free now
          simp only [verifyAndCompleteHandoff,current,late,same,ne_eq,found,he]
          refine .failed _ (Or.inr (by simp [handoffVerdict,current,late,same,found,free])) ?_
          change e.root∉_
          simp only [List.mem_cons,List.not_mem_nil,or_false] at root ⊢
          rcases root with h|h|h|h <;> simp [h]
    · simp only [verifyAndCompleteHandoff,current,late,same,ne_eq]
      exact .mismatched _ (by simp [handoffVerdict,current,late,same]) rfl

theorem groupStep_outcome {w : World} {op : GroupOp} :
    GroupOutcome w op (w.groupStep op).1 (w.groupStep op).2 := by
  cases op with
  | refreshPhase => exact .refreshed _
  | initiatePrefill s order now => exact initiatePrefill_outcome
  | createTransferFence s tokens digest ttl now prefillOrder decodeOrder =>
    exact createTransferFence_outcome
  | beginTransfer f method =>
    cases current : w.currentFence f with
    | none =>
      simp only [groupStep,beginTransfer,current]
      exact .notBegun _ (Or.inl current)
    | some fence =>
      by_cases phase : w.group.vector.transfer=.fenced
      · simp only [groupStep,beginTransfer,current,phase]
        exact .begun current phase
      · simp only [groupStep,beginTransfer,current,phase,ne_eq,not_false_iff]
        exact .notBegun _ (Or.inr phase)
  | verifyAndCompleteHandoff f digest endpoint now s decodeOrder prefillOrder =>
    exact verifyAndCompleteHandoff_outcome
  | abortTransfer f reason =>
    cases current : w.currentFence f with
    | none =>
      simp only [groupStep,abortTransfer,current]
      exact .notAborted _ current
    | some fence =>
      simp only [groupStep,abortTransfer,current]
      exact .aborted current

end World

end KServeLLM.Kernel
