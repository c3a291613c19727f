import KServeLLM.Kernel.Actor

namespace KServeLLM.Kernel

inductive SessionPhase where
  | active | idle | draining | evicted | completed
  deriving DecidableEq

def SessionPhase.text : SessionPhase → String
  | .active => "Active"
  | .idle => "Idle"
  | .draining => "Draining"
  | .evicted => "Evicted"
  | .completed => "Completed"

inductive SessionCacheState where
  | empty | warming | resident | fenced | transferred | evicted
  deriving DecidableEq

inductive SessionAffinityState where
  | unbound | bound | rebinding
  deriving DecidableEq

inductive SessionExpiryStatus where
  | live | expired
  deriving DecidableEq

structure SessionStateVector where
  phase : SessionPhase
  cache : SessionCacheState
  affinity : SessionAffinityState
  deriving DecidableEq

structure InferenceSession where
  (id modelRef actorRef groupRef boundEndpoint : String)
  vector : SessionStateVector
  ttl : Duration
  (maxTurns turnCount : Int32)
  (tokenCount kvCacheSize : Int64)
  lastActivity : Time
  deriving DecidableEq

def newInferenceSession (id modelRef actorRef groupRef : String) (ttl : Duration)
    (maxTurns : Int32) (now : Time) : InferenceSession where
  id := id
  modelRef := modelRef
  actorRef := actorRef
  groupRef := groupRef
  boundEndpoint := ""
  vector := ⟨.active,.empty,.unbound⟩
  ttl := ttl
  maxTurns := maxTurns
  turnCount := 0
  tokenCount := 0
  kvCacheSize := 0
  lastActivity := now

namespace InferenceSession

def terminal (s : InferenceSession) : Prop := s.vector.phase=.evicted ∨ s.vector.phase=.completed

instance (s : InferenceSession) : Decidable s.terminal := inferInstanceAs (Decidable (_ ∨ _))

def bindEndpoint (s : InferenceSession) (endpoint : String) : InferenceSession×Err :=
  if s.terminal then
    (s,some (.errorf "%w: cannot bind terminal session" (.sentinel .sessionTerminal) []))
  else
    ({s with boundEndpoint := endpoint,vector := {s.vector with affinity := .bound}},none)

def countTurn (s : InferenceSession) (tokens cacheBytes : Int64) (now : Time) : InferenceSession :=
  {s with
    turnCount := s.turnCount+1
    tokenCount := s.tokenCount+tokens
    kvCacheSize := cacheBytes
    lastActivity := now
    vector := {s.vector with cache := .resident}}

def recordTurn (s : InferenceSession) (tokens cacheBytes : Int64) (now : Time) :
    InferenceSession×Err :=
  if s.terminal then
    (s,some (.errorf "%w: session phase %s" (.sentinel .sessionTerminal)
      [.str s.vector.phase.text]))
  else
    let counted := s.countTurn tokens cacheBytes now
    if 0 < counted.maxTurns ∧ counted.maxTurns ≤ counted.turnCount then
      ({counted with vector := ⟨.completed,.evicted,.unbound⟩,boundEndpoint := ""},
        some (.sentinel .maxTurnsReached))
    else (counted,none)

def checkExpiry (s : InferenceSession) (now : Time) : InferenceSession×SessionExpiryStatus :=
  if s.terminal then (s,.expired)
  else if 0 < s.ttl ∧ s.ttl ≤ now.sub s.lastActivity then
    ({s with vector := ⟨.evicted,.evicted,.unbound⟩,boundEndpoint := ""},.expired)
  else (s,.live)

def setCacheState (s : InferenceSession) (state : SessionCacheState) : InferenceSession :=
  {s with vector := {s.vector with cache := state}}

end InferenceSession

inductive SessionOp where
  | bindEndpoint (endpoint : String)
  | recordTurn (tokens cacheBytes : Int64) (now : Time)
  | checkExpiry (now : Time)
  | setCacheState (state : SessionCacheState)

inductive SessionAnswer where
  | done (err : Err)
  | expiry (status : SessionExpiryStatus)
  | set
  deriving DecidableEq

namespace InferenceSession

def step (s : InferenceSession) : SessionOp → InferenceSession×SessionAnswer
  | .bindEndpoint e => ((s.bindEndpoint e).1,.done (s.bindEndpoint e).2)
  | .recordTurn tokens bytes now =>
      ((s.recordTurn tokens bytes now).1,.done (s.recordTurn tokens bytes now).2)
  | .checkExpiry now => ((s.checkExpiry now).1,.expiry (s.checkExpiry now).2)
  | .setCacheState state => (s.setCacheState state,.set)

structure Frozen (s s' : InferenceSession) : Prop where
  phase : s'.vector.phase=s.vector.phase
  affinity : s'.vector.affinity=s.vector.affinity
  boundEndpoint : s'.boundEndpoint=s.boundEndpoint
  turnCount : s'.turnCount=s.turnCount
  tokenCount : s'.tokenCount=s.tokenCount
  lastActivity : s'.lastActivity=s.lastActivity

theorem Frozen.refl {s : InferenceSession} : Frozen s s := ⟨rfl,rfl,rfl,rfl,rfl,rfl⟩

theorem Frozen.trans {a b c : InferenceSession} (hab : Frozen a b) (hbc : Frozen b c) :
    Frozen a c :=
  ⟨hbc.phase.trans hab.phase,hbc.affinity.trans hab.affinity,
    hbc.boundEndpoint.trans hab.boundEndpoint,hbc.turnCount.trans hab.turnCount,
    hbc.tokenCount.trans hab.tokenCount,hbc.lastActivity.trans hab.lastActivity⟩

theorem Frozen.terminal {s s' : InferenceSession} (h : Frozen s s') (t : s.terminal) :
    s'.terminal := by
  rw [InferenceSession.terminal,h.phase]
  exact t

theorem step_frozen {s : InferenceSession} (op : SessionOp) (t : s.terminal) :
    Frozen s (s.step op).1 := by
  cases op with
  | bindEndpoint e =>
    simp only [step,bindEndpoint,if_pos t]
    exact Frozen.refl
  | recordTurn tokens bytes now =>
    simp only [step,recordTurn,if_pos t]
    exact Frozen.refl
  | checkExpiry now =>
    simp only [step,checkExpiry,if_pos t]
    exact Frozen.refl
  | setCacheState state => exact ⟨rfl,rfl,rfl,rfl,rfl,rfl⟩

theorem run_frozen (s : InferenceSession) {ops : List SessionOp} (t : s.terminal) :
    Frozen s (run step s ops) := by
  induction ops generalizing s with
  | nil => exact Frozen.refl
  | cons op ops ih =>
    have first := step_frozen op t
    exact first.trans (ih _ (first.terminal t))

variable {op : SessionOp}

theorem step_maxTurns {s : InferenceSession} : (s.step op).1.maxTurns=s.maxTurns := by
  cases op with
  | bindEndpoint e =>
    simp only [step,bindEndpoint]
    split <;> rfl
  | recordTurn tokens bytes now =>
    simp only [step,recordTurn]
    split
    · rfl
    · split <;> rfl
  | checkExpiry now =>
    simp only [step,checkExpiry]
    split
    · rfl
    · split <;> rfl
  | setCacheState state => rfl

structure Laws (s : InferenceSession) : Prop where
  limited : 0 < s.maxTurns
  released : s.terminal → s.vector.affinity=.unbound ∧ s.boundEndpoint=""
  unfinished : ¬s.terminal → s.turnCount < s.maxTurns
  bounded : s.turnCount ≤ s.maxTurns

theorem Laws.of_live {s : InferenceSession} (pos : 0 < s.maxTurns) (live : ¬s.terminal)
    (h : s.turnCount < s.maxTurns) : Laws s :=
  ⟨pos,fun t => absurd t live,fun _ => h,Int32.le_of_lt h⟩

theorem Laws.of_terminal {s : InferenceSession} (pos : 0 < s.maxTurns) (t : s.terminal)
    (free : s.vector.affinity=.unbound ∧ s.boundEndpoint="") (h : s.turnCount ≤ s.maxTurns) :
    Laws s :=
  ⟨pos,fun _ => free,fun live => absurd t live,h⟩

theorem Laws.frozen {s s' : InferenceSession} (h : Laws s) (f : Frozen s s') (t : s.terminal)
    (limit : s'.maxTurns=s.maxTurns) : Laws s' := by
  apply Laws.of_terminal (limit ▸ h.limited) (f.terminal t)
  · rw [f.affinity,f.boundEndpoint]
    exact h.released t
  · rw [f.turnCount,limit]
    exact h.bounded

section

variable {s : InferenceSession} (h : Laws s) (live : ¬s.terminal)

include h live

theorem turn_le : s.turnCount+1 ≤ s.maxTurns := by
  have room := h.unfinished live
  have next := toInt_succ_of_lt room
  rw [Int32.lt_iff_toInt_lt] at room
  rw [Int32.le_iff_toInt_le]
  omega

theorem limit_iff : (0 < s.maxTurns ∧ s.maxTurns ≤ s.turnCount+1) ↔ s.turnCount+1=s.maxTurns :=
  ⟨fun hl => Int32.le_antisymm (turn_le h live) hl.2,fun he => ⟨h.limited,he ▸ Int32.le_refl _⟩⟩

end

theorem step_laws {s : InferenceSession} (h : Laws s) : Laws (s.step op).1 := by
  by_cases t : s.terminal
  · exact h.frozen (step_frozen op t) t (step_maxTurns)
  · have room := h.unfinished t
    cases op with
    | bindEndpoint e =>
      simp only [step,bindEndpoint,if_neg t]
      exact Laws.of_live h.limited t room
    | recordTurn tokens bytes now =>
      simp only [step,recordTurn,if_neg t]
      split
      · exact Laws.of_terminal h.limited (Or.inr rfl) ⟨rfl,rfl⟩ (turn_le h t)
      · next more =>
        have below : s.turnCount+1 < s.maxTurns :=
          Int32.not_le.mp (fun full => more ⟨h.limited,full⟩)
        exact Laws.of_live (s := s.countTurn _ _ now) h.limited t below
    | checkExpiry now =>
      simp only [step,checkExpiry,if_neg t]
      split
      · exact Laws.of_terminal h.limited (Or.inl rfl) ⟨rfl,rfl⟩ h.bounded
      · exact h
    | setCacheState state => exact Laws.of_live h.limited t room

theorem step_maxTurnsReached {s : InferenceSession} (h : Laws s) :
    (s.step op).2=.done (some (.sentinel .maxTurnsReached)) ↔
      s.turnCount≠s.maxTurns ∧ (s.step op).1.turnCount=s.maxTurns := by
  by_cases t : s.terminal
  · rw [(step_frozen op t).turnCount]
    constructor
    · intro he
      cases op <;> simp [step,bindEndpoint,recordTurn,t] at he
    · intro he
      exact absurd he.2 he.1
  · have ne : s.turnCount≠s.maxTurns := Int32.ne_of_lt (h.unfinished t)
    cases op with
    | bindEndpoint e => simp [step,bindEndpoint,t]
    | recordTurn tokens bytes now =>
      simp only [step,recordTurn,if_neg t]
      split
      · next full =>
        have last := (limit_iff h t).mp full
        simp [ne,countTurn,last]
      · next more =>
        have left : s.turnCount+1≠s.maxTurns := fun he => more ((limit_iff h t).mpr he)
        simp [countTurn,left]
    | checkExpiry now =>
      simp only [step,checkExpiry,if_neg t]
      split <;> simp
    | setCacheState state => simp [step,setCacheState]

variable {ttl : Duration} {maxTurns : Int32} {now : Time}

theorem newInferenceSession_live {id modelRef actorRef groupRef : String} :
    ¬(newInferenceSession id modelRef actorRef groupRef ttl maxTurns now).terminal := by
  simp [terminal,newInferenceSession]

theorem newInferenceSession_laws {id modelRef actorRef groupRef : String} (h : 0 < maxTurns) :
    Laws (newInferenceSession id modelRef actorRef groupRef ttl maxTurns now) :=
  Laws.of_live h (newInferenceSession_live) h

end InferenceSession

open InferenceSession

theorem session_terminates (id modelRef actorRef groupRef : String) (ttl : Duration)
    (maxTurns : Int32) (now : Time) (limited : 0 < maxTurns) (ops : List SessionOp) :
    let s := run InferenceSession.step
      (newInferenceSession id modelRef actorRef groupRef ttl maxTurns now) ops
    (s.terminal → s.vector.affinity=.unbound ∧ s.boundEndpoint="" ∧
      ∀later,Frozen s (run InferenceSession.step s later)) ∧
    s.turnCount ≤ maxTurns ∧
    ∀op,(s.step op).2=.done (some (.sentinel .maxTurnsReached)) ↔
      s.turnCount≠maxTurns ∧ (s.step op).1.turnCount=maxTurns := by
  intro s
  have both : Laws s ∧ s.maxTurns=maxTurns := by
    apply run_induction InferenceSession.step (fun _ s => Laws s ∧ s.maxTurns=maxTurns)
    · exact ⟨newInferenceSession_laws limited,rfl⟩
    · intro _ s op ih
      exact ⟨step_laws ih.1,(step_maxTurns).trans ih.2⟩
  obtain ⟨laws,turns⟩ := both
  refine ⟨fun t => ?_,turns ▸ laws.bounded,fun op => ?_⟩
  · obtain ⟨affinity,endpoint⟩ := laws.released t
    exact ⟨affinity,endpoint,fun later => run_frozen s t⟩
  · rw [← turns]
    exact step_maxTurnsReached laws

theorem session_terminates_one_turn : (0 : Int32)<1 ∧
    (run InferenceSession.step (newInferenceSession "s" "m" "a" "g" 0 1 0)
      [.recordTurn 5 7 1]).terminal ∧
    (run InferenceSession.step (newInferenceSession "s" "m" "a" "g" 0 1 0)
      [.recordTurn 5 7 1]).vector.affinity=.unbound :=
  ⟨by decide,by decide,((session_terminates "s" "m" "a" "g" 0 1 0 (by decide) [.recordTurn 5 7 1]).1
      (by decide)).1⟩

end KServeLLM.Kernel
