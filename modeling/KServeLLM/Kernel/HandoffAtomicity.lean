import KServeLLM.Kernel.SessionCache

namespace KServeLLM.Kernel

structure Untouched (w w' : World) (s : SessionRef) : Prop where
  slots : ∀m∈w.group.memberList,m.role=.decode ∨ m.role=.prefill →
    (w'.actors m.actor).activeSlots=(w.actors m.actor).activeSlots
  endpoint : (w'.sessions s).boundEndpoint=(w.sessions s).boundEndpoint
  transfer : w'.group.vector.transfer≠.completed

def FailsWhole (w : World) (s : SessionRef) : HandoffVerdict → Prop
  | .granted _ => ¬(w.sessions s).terminal
  | .stale | .undecodable => w.group.vector.transfer≠.completed
  | .expired | .mismatched | .refused => True

section

variable (w : World) (s : SessionRef)

theorem untouched_refl_iff : Untouched w w s ↔ w.group.vector.transfer≠.completed :=
  ⟨fun h => h.transfer,fun open_ => ⟨fun _ _ _ => rfl,rfl,open_⟩⟩

theorem untouched_failed : Untouched w (w.setTransfer .failed) s := ⟨fun _ _ _ => rfl,rfl,by simp⟩

theorem untouched_mismatched : Untouched w ((w.setTransfer .failed).setCacheState s .empty) s := by
  refine ⟨fun _ _ _ => rfl,?_,by simp⟩
  simp [World.setCacheState,World.setTransfer,InferenceSession.setCacheState]

end

theorem GroupOutcome.untouched_iff {w w' : World} {f : FenceRef} {digest endpoint : String}
    {now : Time} {s : SessionRef} {decodeOrder prefillOrder : RangeOrder CoactorMember} {err : Err}
    (outcome : GroupOutcome w
      (.verifyAndCompleteHandoff f digest endpoint now s decodeOrder prefillOrder) w'
      (.done err)) :
    (err≠none → Untouched w w' s) ↔ FailsWhole w s (w.handoffVerdict f digest now decodeOrder) := by
  cases outcome with
  | unverified e verdict =>
    have law := untouched_refl_iff w s
    rcases verdict with verdict | verdict <;> simp [verdict,FailsWhole,law]
  | failed e verdict =>
    have law := untouched_failed w s
    rcases verdict with verdict | verdict <;> simp [verdict,FailsWhole,law]
  | mismatched e verdict =>
    simp [verdict,FailsWhole,untouched_mismatched]
  | completed _ verdict bound =>
    rw [verdict]
    rcases bound with ⟨rfl,live⟩ | ⟨e,rfl,-,ended⟩
    · exact iff_of_true (fun failed => absurd rfl failed) live
    · -- the endpoint is bound last, after the slots and the phase have been written
      refine iff_of_false (fun whole => ?_) (not_not.mpr ended)
      exact (whole (by simp)).transfer rfl

theorem failed_handoff_untouched_iff (w : World) (f : FenceRef) (digest endpoint : String)
    (now : Time) (s : SessionRef) (decodeOrder prefillOrder : RangeOrder CoactorMember) :
    ((w.verifyAndCompleteHandoff f digest endpoint now s decodeOrder prefillOrder).2≠none →
      Untouched w
        (w.verifyAndCompleteHandoff f digest endpoint now s decodeOrder prefillOrder).1 s) ↔
      FailsWhole w s (w.handoffVerdict f digest now decodeOrder) :=
  (World.verifyAndCompleteHandoff_outcome).untouched_iff

def endedSession : World :=
  run World.step oneTurnWorld (addPair++[.group (.initiatePrefill 0 (RangeOrder.listed _) 0),
    raiseCall,.session 0 (.recordTurn 5 7 1)])

theorem ended_session_handed_off :
    let r := endedSession.verifyAndCompleteHandoff 0 "sha" "ep" 0 0 (RangeOrder.listed _)
      (RangeOrder.listed _)
    r.2≠none ∧
    (endedSession.actors 1).activeSlots=0 ∧ (r.1.actors 1).activeSlots=1 ∧
    (endedSession.actors 0).activeSlots=1 ∧ (r.1.actors 0).activeSlots=0 ∧
    r.1.group.vector.transfer=.completed ∧ ¬Untouched endedSession r.1 0 := by
  intro r
  have completed : r.1.group.vector.transfer=.completed := by decide
  exact ⟨by decide,by decide,by decide,by decide,by decide,completed,fun h => h.transfer completed⟩

end KServeLLM.Kernel
