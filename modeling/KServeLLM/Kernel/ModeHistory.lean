import KServeLLM.Kernel.Mode

namespace KServeLLM.Modes

open MapHeap (Kept)

abbrev History := List (Step World Call (Option Error))

def accepted (tr : History) : History := tr.filter fun st => st.answer.isNone

def given (st : Step World Call (Option Error)) : GoMap String String :=
  st.before.heap.read st.call.intent.dimensions

def merge (maps : List (GoMap String String)) (k : String) : Option String :=
  maps.foldl (fun found m => (m.lookup k).or found) none

def visits (initial : Mode) (tr : History) : List Mode :=
  initial::(accepted tr).map fun st => st.after.vector.currentMode

def Recovers (path : List Mode) : Prop :=
  ∀before m between n rest,path=before++m::between++n::rest →
    m∈[Mode.quarantined,.failed] → n∈[Mode.normal,.degraded,.safeHold] → .recovering∈between

variable {heap : Dimensions} {m : Mode}

section

variable (w : World) (call : Call)

theorem resolve_spec {dims : MapRef} (h : (w.resolveTransitionDimensions call).2.1=(heap,dims)) :
    dims=some w.heap.length ∧ heap.length=w.heap.length+1 ∧ Kept w.heap heap ∧
    ∀k,(heap.read dims).lookup k=((w.heap.read call.intent.dimensions).lookup k).or
      (w.dimensions.lookup k) := by
  obtain ⟨rfl,rfl⟩ := Prod.mk.inj h
  have inside : w.heap.length < w.heap.make.length := by simp [MapHeap.make_length]
  obtain ⟨size,others,own⟩ := MapHeap.copyInto_spec inside
  generalize w.heap.make.copyInto w.heap.length call.own w.vector.dimensions=first
    at size others own
  have inside' : w.heap.length < first.length := by omega
  obtain ⟨size',others',both⟩ := MapHeap.copyInto_spec inside'
  refine ⟨rfl,by rw [size',size,MapHeap.make_length],⟨?_,fun a held => ?_⟩,fun k => ?_⟩
  · omega
  · rw [others' a (by omega),others a (by omega),MapHeap.make_read]
  · have new : (first.read (some w.heap.length)).lookup k=w.dimensions.lookup k := by
      rw [own,MapHeap.make_read,MapHeap.make_read,MapHeap.read_outside (le_refl _)]
      exact Option.or_none
    rw [both,new]
    -- an intent cannot name the new map; if it did, the map would be copied into itself
    by_cases self : call.intent.dimensions=some w.heap.length
    · rw [self,new,MapHeap.read_outside (le_refl _)]
      exact Option.or_self
    · cases named : call.intent.dimensions with
      | none => rfl
      | some a =>
        have other : a≠w.heap.length := fun same => self (by rw [named,same])
        rw [others a other,MapHeap.make_read]

structure Moves (after : World) : Prop where
  legal : canTransition w.vector.currentMode call.intent.targetMode
  mode : after.vector.currentMode=call.intent.targetMode
  contract : modeContracts call.intent.targetMode=some after.vector.contract
  epoch : after.vector.epoch=w.vector.epoch+1
  count : after.vector.transitionCount=w.vector.transitionCount+1
  fresh : after.vector.dimensions=some w.heap.length
  size : after.heap.length=w.heap.length+1
  kept : Kept w.heap after.heap
  dimensions : ∀k,after.dimensions.lookup k=
    ((w.heap.read call.intent.dimensions).lookup k).or (w.dimensions.lookup k)

theorem contractOf_valid (valid : validateMode m=none) : modeContracts m=some (contractOf m) := by
  cases m <;> first | rfl | simp [validateMode,validModes] at valid

theorem transition_cases : ((w.transition call).2≠none ∧ (w.transition call).1=w) ∨
    ((w.transition call).2=none ∧ Moves w call (w.transition call).1) := by
  unfold World.transition
  cases valid : validateMode call.intent.targetMode with
  | some err => exact .inl ⟨nofun,rfl⟩
  | none =>
    split_ifs with blank illegal
    · exact .inl ⟨nofun,rfl⟩
    · exact .inl ⟨nofun,rfl⟩
    · obtain ⟨fresh,size,kept,dims⟩ := resolve_spec w call
        rfl
      have legal : canTransition w.vector.currentMode call.intent.targetMode=true := by
        simpa using illegal
      exact .inr ⟨rfl,legal,rfl,contractOf_valid valid,rfl,rfl,fresh,size,kept,dims⟩

end

section

theorem Recovers.single : Recovers [m] := by
  intro before m' between n rest split
  have sizes := congrArg List.length split
  simp at sizes
  omega

def Held (path : List Mode) (last : Mode) : Prop :=
  ∀before m between,path=before++m::between → m∈[Mode.quarantined,.failed] →
    .recovering∈between ∨ last∈[Mode.quarantined,.failed]

variable {source target : Mode}

theorem leaves_held (legal : canTransition source target)
    (held : source∈[Mode.quarantined,.failed]) :
    target=.recovering ∨ target∈[Mode.quarantined,.failed] := by
  cases source <;> cases target <;> simp_all [canTransition,legalTransitions]

variable {path : List Mode}

theorem split_snoc {before between : List Mode} {last : Mode}
    (split : path++[last]=before++m::between) :
    (∃front,between=front++[last] ∧ path=before++m::front) ∨ between=[] ∧ m=last := by
  rcases List.eq_nil_or_concat between with rfl | ⟨front,x,rfl⟩
  · have ends := (List.append_inj' split rfl).2
    exact .inr ⟨rfl,(List.cons.inj ends).1.symm⟩
  · rw [List.concat_eq_append] at split ⊢
    have regroup : before++m::(front++[x])=(before++m::front)++[x] := by simp
    rw [regroup] at split
    obtain ⟨same,ends⟩ := List.append_inj' split rfl
    obtain rfl : last=x := (List.cons.inj ends).1
    exact .inl ⟨front,rfl,same⟩

theorem Held.snoc (h : Held path source)
    (legal : canTransition source target) : Held (path++[target]) target := by
  intro before m between split special
  rcases split_snoc split with ⟨front,rfl,inner⟩ | ⟨rfl,rfl⟩
  · rcases h before m front inner special with passed | held
    · exact .inl (List.mem_append_left _ passed)
    · rcases leaves_held legal held with rfl | stays
      · exact .inl (by simp)
      · exact .inr stays
  · exact .inr special

theorem Recovers.snoc (h : Recovers path)
    (held : Held path source) (legal : canTransition source target) :
    Recovers (path++[target]) := by
  intro before m between n rest split special working
  rcases List.eq_nil_or_concat rest with rfl | ⟨front,x,rfl⟩
  · have regroup : before++m::between++[n]=(before++m::between)++[n] := rfl
    obtain ⟨same,ends⟩ := List.append_inj' (split.trans regroup) rfl
    obtain rfl : target=n := (List.cons.inj ends).1
    rcases held before m between same special with passed | stuck
    · exact passed
    · rcases leaves_held legal stuck with rfl | stays
      · simp at working
      · simp only [List.mem_cons,List.not_mem_nil,or_false] at stays working
        rcases stays with rfl | rfl <;> simp at working
  · rw [List.concat_eq_append] at split
    have regroup : before++m::between++n::(front++[x])=(before++m::between++n::front)++[x] := by
      simp
    rw [regroup] at split
    exact h before m between n front (List.append_inj' split rfl).1 special working

end

theorem accepted_snoc (tr : History) (w : World) (call : Call) :
    accepted (tr++[stepOf World.transition w call])=
      if (w.transition call).2=none then accepted tr++[stepOf World.transition w call]
      else accepted tr := by
  unfold accepted
  cases h : (w.transition call).2 <;> simp [stepOf,h]

theorem merge_snoc (maps : List (GoMap String String)) (m : GoMap String String) (k : String) :
    merge (maps++[m]) k=(m.lookup k).or (merge maps k) := by
  unfold merge
  rw [List.foldl_append]
  rfl

structure Tracks (initial : Mode) (epoch : UInt64) (tr : History) (w : World) : Prop where
  contract : getContract w.vector.currentMode=.ok w.vector.contract
  dimensions : ∀k,w.dimensions.lookup k=merge ((accepted tr).map given) k
  advance : ∀st∈accepted tr,st.after.vector.epoch=st.before.vector.epoch+1 ∧
    st.after.vector.transitionCount=st.before.vector.transitionCount+1
  count : w.vector.transitionCount.toNat=(accepted tr).length%2^64
  epoch : w.vector.epoch.toNat=(epoch.toNat+(accepted tr).length)%2^64
  rejected : ∀st∈tr,st.answer≠none → st.after=st.before
  earlier : ∀st∈tr,w.heap.read st.before.vector.dimensions=st.before.dimensions
  path : Recovers (visits initial tr)

structure Owned (initial : Mode) (tr : History) (w : World) : Prop where
  own : ∀a∈w.vector.dimensions,a < w.heap.length
  past : ∀st∈tr,Kept st.before.heap w.heap ∧
    ∀a∈st.before.vector.dimensions,a < st.before.heap.length
  held : Held (visits initial tr) w.vector.currentMode

variable {initial : Mode} {epoch : UInt64} {tr : History} {w : World} {call : Call}

theorem visits_snoc (initial : Mode) (tr : History) (w : World) (call : Call) :
    visits initial (tr++[stepOf World.transition w call])=
      if (w.transition call).2=none then
        visits initial tr++[(w.transition call).1.vector.currentMode]
      else visits initial tr := by
  unfold visits
  rw [accepted_snoc]
  split_ifs <;> simp [stepOf]

theorem getContract_of_table {c : Contract} (h : modeContracts m=some c) : getContract m=.ok c := by
  cases m <;> first | exact congrArg Except.ok (Option.some.inj h) | cases h

theorem kept_transition (w : World) (call : Call) : Kept w.heap (w.transition call).1.heap := by
  rcases transition_cases w call with ⟨-,same⟩ | ⟨-,moves⟩
  · rw [same]
    exact .refl
  · exact moves.kept

theorem Owned.transition (h : Owned initial tr w) (call : Call) :
    Owned initial (tr++[stepOf World.transition w call]) (w.transition call).1 := by
  have kept := kept_transition w call
  have past := forall_mem_snoc (fun st mem => (⟨(h.past st mem).1.trans kept,(h.past st mem).2⟩ :
    Kept st.before.heap (w.transition call).1.heap ∧
      ∀a∈st.before.vector.dimensions,a < st.before.heap.length))
    (show Kept (stepOf World.transition w call).before.heap _ ∧ _ from ⟨kept,h.own⟩)
  rcases transition_cases w call with ⟨refused,same⟩ | ⟨taken,moves⟩
  · refine ⟨?_,past,?_⟩
    · rw [same]
      exact h.own
    · rw [visits_snoc,if_neg refused,same]
      exact h.held
  · refine ⟨fun a named => ?_,past,?_⟩
    · rw [moves.fresh,Option.mem_some_iff] at named
      rw [moves.size,← named]
      exact Nat.lt_succ_self _
    · rw [visits_snoc,if_pos taken,moves.mode]
      exact h.held.snoc moves.legal

theorem Tracks.transition (h : Tracks initial epoch tr w) (own : Owned initial tr w) (call : Call) :
    Tracks initial epoch (tr++[stepOf World.transition w call]) (w.transition call).1 := by
  have kept := kept_transition w call
  have earlier : ∀st∈tr++[stepOf World.transition w call],
      (w.transition call).1.heap.read st.before.vector.dimensions=st.before.dimensions := by
    refine forall_mem_snoc (fun st mem => ?_) (kept.read own.own)
    obtain ⟨since,held⟩ := own.past st mem
    exact (since.trans kept).read held
  have rejected : ∀st∈tr++[stepOf World.transition w call],st.answer≠none → st.after=st.before := by
    refine forall_mem_snoc h.rejected fun refused => ?_
    rcases transition_cases w call with ⟨-,same⟩ | ⟨taken,-⟩
    · exact same
    · exact absurd taken refused
  rcases transition_cases w call with ⟨refused,same⟩ | ⟨taken,moves⟩
  · -- a refused intent leaves the accepted history alone, and the world with it
    have quiet : accepted (tr++[stepOf World.transition w call])=accepted tr := by
      rw [accepted_snoc,if_neg refused]
    refine ⟨?_,fun k => ?_,?_,?_,?_,rejected,earlier,?_⟩
    · rw [same]
      exact h.contract
    · rw [same,quiet]
      exact h.dimensions k
    · rw [quiet]
      exact h.advance
    · rw [same,quiet]
      exact h.count
    · rw [same,quiet]
      exact h.epoch
    · rw [visits_snoc,if_neg refused]
      exact h.path
  · have grown : accepted (tr++[stepOf World.transition w call])=
        accepted tr++[stepOf World.transition w call] := by
      rw [accepted_snoc,if_pos taken]
    refine ⟨?_,fun k => ?_,?_,?_,?_,rejected,earlier,?_⟩
    · rw [moves.mode]
      exact getContract_of_table moves.contract
    · rw [moves.dimensions,grown,List.map_append,List.map_singleton,merge_snoc,h.dimensions]
      rfl
    · rw [grown]
      exact forall_mem_snoc h.advance ⟨moves.epoch,moves.count⟩
    · rw [moves.count,grown,List.length_append]
      exact uint64_toNat_succ h.count
    · rw [moves.epoch,grown,List.length_append]
      exact uint64_toNat_succ h.epoch
    · rw [visits_snoc,if_pos taken,moves.mode]
      exact h.path.snoc own.held moves.legal

theorem newModeVector_tracks {now : Time} {severity : SeverityLevel}
    (made : newModeVector heap now initial severity epoch=.ok w) :
    Owned initial [] w ∧ Tracks initial epoch [] w := by
  unfold newModeVector at made
  cases valid : validateMode initial with
  | some err => simp [valid] at made
  | none =>
    have table : getContract initial=.ok (contractOf initial) := by simp [getContract,valid]
    simp only [valid,table,Except.ok.injEq] at made
    subst made
    refine ⟨⟨fun a named => ?_,by simp,?_⟩,⟨table,fun k => ?_,by simp [accepted],rfl,?_,by simp,
      by simp,.single⟩⟩
    · obtain rfl : heap.length=a := by simpa using named
      simp [MapHeap.make_length]
    · intro before m between split special
      cases before with
      | nil =>
        obtain ⟨rfl,-⟩ := List.cons.inj split
        exact .inr special
      | cons x before =>
        have tails := (List.cons.inj split).2
        simp [accepted] at tails
    · rw [World.dimensions,MapHeap.make_read,MapHeap.read_outside (le_refl _)]
      rfl
    · exact (Nat.mod_eq_of_lt epoch.toNat_lt).symm

theorem transition_history (heap : Dimensions) (now : Time) (initial : Mode)
    (severity : SeverityLevel) (epoch : UInt64) (w : World)
    (made : newModeVector heap now initial severity epoch=.ok w) (calls : List Call) :
    Always World.transition w calls (Tracks initial epoch) := by
  intro pre _
  obtain ⟨own,tracks⟩ := newModeVector_tracks made
  exact (run_induction World.transition (fun tr u => Owned initial tr u ∧ Tracks initial epoch tr u)
    w ⟨own,tracks⟩ (fun tr u call h => ⟨h.1.transition call,h.2.transition h.1 call⟩) pre).2

def plainCall (target : Mode) (dimensions : MapRef) : Call :=
  ⟨1,⟨target,.other "","review","",dimensions,0⟩,.listed _,.listed _⟩

def sampleHeap : Dimensions := [(∅ : GoMap String String).insert "region" "emea",
    ((∅ : GoMap String String).insert "region" "apac").insert "tier" "gold"]

def sampleWorld (epoch : UInt64) : World :=
  ⟨sampleHeap.make,⟨.normal,.other "",.none,epoch,0,1,contractOf .normal,some 2,"initialization",
    ""⟩⟩

theorem sample_tracks : newModeVector sampleHeap 1 .normal (.other "") 7=.ok (sampleWorld 7) ∧
    Always World.transition (sampleWorld 7)
      [plainCall .degraded (some 0),plainCall (.other "OFF") (some 1),plainCall .failed (some 1)]
      (Tracks .normal 7) :=
  ⟨rfl,transition_history sampleHeap 1 .normal (.other "") 7 (sampleWorld 7) rfl _⟩

theorem epoch_wraps : newModeVector sampleHeap 1 .normal (.other "") 18446744073709551615=
      .ok (sampleWorld 18446744073709551615) ∧
    ((sampleWorld 18446744073709551615).transition (plainCall .degraded none)).2=none ∧
    ((sampleWorld 18446744073709551615).transition (plainCall .degraded none)).1.vector.epoch=0 ∧
    ¬((sampleWorld 18446744073709551615).transition
      (plainCall .degraded none)).1.vector.epoch.toNat=
      (sampleWorld 18446744073709551615).vector.epoch.toNat+1 := by
  refine ⟨rfl,by decide,by decide,by decide⟩

end KServeLLM.Modes
