import KServeLLM.Kernel.Handoff

namespace KServeLLM.Kernel

open InferenceSession

def InferenceSession.CacheLaw (s : InferenceSession) : Prop := s.terminal → s.vector.cache=.evicted

def World.cacheWrite (w : World) : WorldOp → Option (SessionRef×SessionCacheState)
  | .session s (.setCacheState state) => some (s,state)
  | .group (.initiatePrefill s order _) =>
      if (w.prefillTarget order).isSome then some (s,.warming) else none
  | .group (.createTransferFence s _ _ _ _ prefillOrder decodeOrder) =>
      if (w.fenceMembers prefillOrder decodeOrder).isSome then some (s,.fenced) else none
  | .group (.verifyAndCompleteHandoff f digest _ now s decodeOrder _) =>
      match w.handoffVerdict f digest now decodeOrder with
      | .mismatched => some (s,.empty)
      | .granted _ => some (s,.transferred)
      | _ => none
  | _ => none

def SafeWrite (w : World) (op : WorldOp) : Prop :=
  ∀s state,w.cacheWrite op=some (s,state) → (w.sessions s).terminal → state=.evicted

inductive SessionEffect (w : World) (op : WorldOp) (w' : World) : Prop where
  | untouched (write : w.cacheWrite op=none) (same : w'.sessions=w.sessions)
  | wrote (s : SessionRef) (state : SessionCacheState) (write : w.cacheWrite op=some (s,state))
      (others : ∀x,x≠s → w'.sessions x=w.sessions x)
      (phase : (w'.sessions s).vector.phase=(w.sessions s).vector.phase)
      (cache : (w'.sessions s).vector.cache=state)
  | stepped (s : SessionRef) (write : w.cacheWrite op=none)
      (others : ∀x,x≠s → w'.sessions x=w.sessions x)
      (law : (w.sessions s).CacheLaw → (w'.sessions s).CacheLaw)

namespace InferenceSession

variable (s : InferenceSession)

theorem bindEndpoint_cacheLaw (endpoint : String) (h : s.CacheLaw) :
    (s.bindEndpoint endpoint).1.CacheLaw := by
  by_cases t : s.terminal
  · simp only [bindEndpoint,if_pos t]
    exact h
  · simp only [bindEndpoint,if_neg t]
    exact fun t' => absurd t' t

theorem recordTurn_cacheLaw (tokens cacheBytes : Int64) (now : Time)
    (h : s.CacheLaw) : (s.recordTurn tokens cacheBytes now).1.CacheLaw := by
  by_cases t : s.terminal
  · simp only [recordTurn,if_pos t]
    exact h
  · simp only [recordTurn,if_neg t]
    split
    · exact fun _ => rfl
    · exact fun t' => absurd t' t

theorem checkExpiry_cacheLaw (now : Time) (h : s.CacheLaw) : (s.checkExpiry now).1.CacheLaw := by
  by_cases t : s.terminal
  · simp only [checkExpiry,if_pos t]
    exact h
  · simp only [checkExpiry,if_neg t]
    split
    · exact fun _ => rfl
    · exact fun t' => absurd t' t

theorem handedOff_vector (endpoint : String) : (s.handedOff endpoint).vector.phase=s.vector.phase ∧
      (s.handedOff endpoint).vector.cache=.transferred := by
  unfold handedOff bindEndpoint
  split <;> exact ⟨rfl,rfl⟩

end InferenceSession

theorem SessionEffect.written {w w' : World} {op : WorldOp} {s : SessionRef}
    {state : SessionCacheState} (write : w.cacheWrite op=some (s,state))
    (sessions : w'.sessions=Function.update w.sessions s ((w.sessions s).setCacheState state)) :
    SessionEffect w op w' := by
  refine .wrote s _ write (fun x hx => ?_) ?_ ?_
  · rw [sessions,Function.update_of_ne hx]
  · rw [sessions,Function.update_self]
    rfl
  · rw [sessions,Function.update_self]
    rfl

theorem GroupOutcome.sessionEffect {w w' : World} {op : GroupOp} {ans : GroupAnswer}
    (h : GroupOutcome w op w' ans) : SessionEffect w (.group op) w' := by
  cases h with
  | refreshed phase => exact .untouched rfl rfl
  | started target => exact .written (by simp [World.cacheWrite,target]) rfl
  | notStarted e target => exact .untouched (by simp [World.cacheWrite,target]) rfl
  | fenced members => exact .written (by simp [World.cacheWrite,members]) rfl
  | notFenced e members => exact .untouched (by simp [World.cacheWrite,members]) rfl
  | begun current phase => exact .untouched rfl rfl
  | notBegun e off => exact .untouched rfl rfl
  | unverified e verdict root =>
    refine .untouched ?_ rfl
    rcases verdict with v|v <;> simp [World.cacheWrite,v]
  | failed e verdict root =>
    refine .untouched ?_ rfl
    rcases verdict with v|v <;> simp [World.cacheWrite,v]
  | mismatched e verdict root => exact .written (by simp [World.cacheWrite,verdict]) rfl
  | @completed f digest endpoint now s decodeOrder prefillOrder r err verdict bound =>
    obtain ⟨phase,cache⟩ := (w.sessions s).handedOff_vector _
    have sessions : ((w.taken r now).handedOff endpoint now s prefillOrder).sessions=
        Function.update w.sessions s ((w.sessions s).handedOff endpoint) := rfl
    refine .wrote s .transferred (by simp [World.cacheWrite,verdict]) (fun x hx => ?_) ?_ ?_
    · rw [sessions,Function.update_of_ne hx]
    · rw [sessions,Function.update_self,phase]
    · rw [sessions,Function.update_self,cache]
  | aborted current => exact .untouched rfl rfl
  | notAborted e stale => exact .untouched rfl rfl

theorem World.step_sessionEffect (w : World) (op : WorldOp) : SessionEffect w op (w.step op).1 := by
  cases op with
  | group op => exact (World.groupStep_outcome).sessionEffect
  | addMember name role actor dependsOn => exact .untouched rfl rfl
  | actor r op => exact .untouched rfl rfl
  | session s op =>
    have others x hx :
        (w.step (.session s op)).1.sessions x=w.sessions x := Function.update_of_ne hx _ _
    have own : (w.step (.session s op)).1.sessions s=((w.sessions s).step op).1 :=
      Function.update_self _ _ _
    cases op with
    | bindEndpoint e =>
      refine .stepped s rfl others (fun h => ?_)
      rw [own]
      exact (w.sessions s).bindEndpoint_cacheLaw e h
    | recordTurn tokens bytes now =>
      refine .stepped s rfl others (fun h => ?_)
      rw [own]
      exact (w.sessions s).recordTurn_cacheLaw _ _ now h
    | checkExpiry now =>
      refine .stepped s rfl others (fun h => ?_)
      rw [own]
      exact (w.sessions s).checkExpiry_cacheLaw now h
    | setCacheState state => exact .written rfl rfl

section

variable {w w' : World} {op : WorldOp} (e : SessionEffect w op w')

include e

theorem SessionEffect.keep (law : ∀s,(w.sessions s).CacheLaw) (safe : SafeWrite w op) :
    ∀s,(w'.sessions s).CacheLaw := by
  intro x
  cases e with
  | untouched write same =>
    rw [same]
    exact law x
  | wrote s state write others phase cache =>
    by_cases hx : x=s
    · subst x
      intro t
      rw [cache]
      apply safe s _ write
      rw [InferenceSession.terminal,← phase]
      exact t
    · rw [others x hx]
      exact law x
  | stepped s write others own =>
    by_cases hx : x=s
    · subst x
      exact own (law s)
    · rw [others x hx]
      exact law x

theorem SessionEffect.safeWrite (law : ∀s,(w'.sessions s).CacheLaw) : SafeWrite w op := by
  intro x v hw t
  cases e with
  | untouched write same =>
    rw [write] at hw
    cases hw
  | wrote s state write others phase cache =>
    rw [write] at hw
    obtain ⟨rfl,rfl⟩ := Prod.mk.inj (Option.some.inj hw)
    rw [← cache]
    apply law
    rw [InferenceSession.terminal,phase]
    exact t
  | stepped s write others own =>
    rw [write] at hw
    cases hw

end

structure SessionTable where
  (id modelRef actorRef groupRef : SessionRef → String)
  ttl : SessionRef → Duration
  maxTurns : SessionRef → Int32
  created : SessionRef → Time

def SessionTable.sessions (t : SessionTable) (s : SessionRef) : InferenceSession :=
  newInferenceSession (t.id s) (t.modelRef s) (t.actorRef s) (t.groupRef s) (t.ttl s)
    (t.maxTurns s) (t.created s)

theorem terminated_cache_iff (id : String) (pattern : CoactorPattern)
    (actors : ActorRef → Actor) (table : SessionTable) (ops : List WorldOp) :
    let w := World.initial id pattern actors table.sessions
    Always World.step w ops (fun _ w => ∀s,(w.sessions s).CacheLaw) ↔
      EachCall World.step w ops (fun _ w op => SafeWrite w op) := by
  intro w
  apply always_iff_eachCall World.step (fun _ _ => True)
  · trivial
  · exact fun s t => absurd t (newInferenceSession_live)
  · exact fun _ v op _ law safe => ⟨trivial,(v.step_sessionEffect op).keep law safe⟩
  · exact fun _ v op _ _ law => (v.step_sessionEffect op).safeWrite law

def revivedSession : List WorldOp :=
  addPair++[.session 0 (.recordTurn 5 7 1),.group (.initiatePrefill 0 (RangeOrder.listed _) 2)]

def oneTurnTable : SessionTable :=
  ⟨fun _ => "s",fun _ => "m",fun _ => "p",fun _ => "g",fun _ => 0,fun _ => 1,fun _ => 0⟩

def oneTurnWorld : World :=
  World.initial "g" .prefillDecode (fun r => twoSlotActor (if r=0 then "p" else "d"))
    oneTurnTable.sessions

theorem terminated_cache_revived :
    ((run World.step oneTurnWorld revivedSession).sessions 0).vector.phase=.completed ∧
    ((run World.step oneTurnWorld revivedSession).sessions 0).vector.cache=.warming ∧
    ¬Always World.step oneTurnWorld revivedSession (fun _ w => ∀s,(w.sessions s).CacheLaw) := by
  have phase : ((run World.step oneTurnWorld revivedSession).sessions 0).vector.phase=
      .completed := by decide
  have cache : ((run World.step oneTurnWorld revivedSession).sessions 0).vector.cache=
      .warming := by decide
  refine ⟨phase,cache,fun always => ?_⟩
  have law := always revivedSession (List.prefix_refl _) 0 (Or.inr phase)
  cases law

end KServeLLM.Kernel
