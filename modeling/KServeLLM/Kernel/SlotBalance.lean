import KServeLLM.Kernel.GroupOutcome

namespace KServeLLM.Kernel

def TransferPhase.ended (t : TransferPhase) : Prop := t=.completed ∨ t=.failed ∨ t=.aborted

instance TransferPhase.decidableEnded (t : TransferPhase) : Decidable t.ended :=
  inferInstanceAs (Decidable (_ ∨ _))

def World.held (w : World) (r : ActorRef) : Int :=
  w.slotLog.count (.acquired r)-w.slotLog.count (.released r)

abbrev GroupStep := Step World GroupOp GroupAnswer

def opens : GroupStep → Bool
  | ⟨_,.initiatePrefill _ _ _,.done none,_⟩ => true
  | _ => false

def closes : GroupStep → Bool
  | ⟨_,.verifyAndCompleteHandoff _ _ _ _ _ _ _,.done none,_⟩ => true
  | ⟨_,.verifyAndCompleteHandoff _ _ _ _ _ _ _,.done (some e),_⟩ =>
      decide (e.root≠.staleFence ∧ e.root≠.memberNotFound)
  | ⟨_,.abortTransfer _ _,.done none,_⟩ => true
  | _ => false

def initiated (tr : List GroupStep) : Nat := tr.countP opens

def pending (tr : List GroupStep) : Nat :=
  tr.foldl (fun n st => if opens st then n+1 else if closes st then n-1 else n) 0

theorem initiated_snoc (tr : List GroupStep) (st : GroupStep) :
    initiated (tr++[st])=initiated tr+(opens st).toNat := by
  rw [initiated,List.countP_append,List.countP_singleton]
  cases opens st <;> rfl

theorem pending_snoc (tr : List GroupStep) (st : GroupStep) : pending (tr++[st])=
      if opens st then pending tr+1 else if closes st then pending tr-1 else pending tr := by
  rw [pending,List.foldl_append]
  rfl

structure HandoffGroup where
  world : World
  (prefill decode : CoactorMember)
  one_prefill : world.group.memberList.filter (fun m => m.role=.prefill)=[prefill]
  one_decode : world.group.memberList.filter (fun m => m.role=.decode)=[decode]
  distinct : prefill.actor≠decode.actor
  laws : (world.actors prefill.actor).Laws
  unused : world.slotLog=[]

theorem CoActorGroup.findMemberByRole_one {g : CoActorGroup} {role : MemberRole}
    {m : CoactorMember} (one : g.memberList.filter (fun m => m.role=role)=[m])
    (order : RangeOrder CoactorMember) : g.findMemberByRole order role=.ok m := by
  have perm := (order.perm g.memberList).filter (fun m => decide (m.role=role))
  rw [one] at perm
  have first : (order.arrange g.memberList).find? (fun m => decide (m.role=role))=some m := by
    rw [← List.head?_filter,perm.eq_singleton]
    rfl
  rw [findMemberByRole,first]

variable {order : RangeOrder CoactorMember} {now : Time}

namespace World

def Fails (w : World) : GroupOp → Prop
  | .verifyAndCompleteHandoff f digest _ now _ decodeOrder _ =>
      w.handoffVerdict f digest now decodeOrder∈[.expired,.mismatched,.refused]
  | .abortTransfer f _ => w.currentFence f≠none
  | _ => False

def Completes (w : World) : GroupOp → Prop
  | .verifyAndCompleteHandoff f digest _ now _ decodeOrder _ =>
      (w.handoffVerdict f digest now decodeOrder).isGranted=true
  | _ => False

variable {r : ActorRef}

theorem prefillTarget_some {w : World} (h : w.prefillTarget order=some r) :
    ∃m,w.group.findMemberByRole order .prefill=.ok m ∧ m.actor=r ∧ (w.actors r).Available := by
  unfold prefillTarget at h
  split at h
  · cases found : w.group.findMemberByRole _ _ with
    | error e => simp [found] at h
    | ok m =>
      simp only [found] at h
      split at h
      · next free =>
        obtain rfl := Option.some.inj h
        exact ⟨m,rfl,rfl,free⟩
      · cases h
  · cases h

theorem handoffVerdict_granted {w : World} {f : FenceRef} {digest : String}
    (h : w.handoffVerdict f digest now order=.granted r) :
    ∃m,w.group.findMemberByRole order .decode=.ok m ∧ m.actor=r ∧ (w.actors r).Available := by
  unfold handoffVerdict at h
  split at h
  · cases h
  · split_ifs at h
    cases found : w.group.findMemberByRole _ _ with
    | error e => simp [found] at h
    | ok m =>
      simp only [found] at h
      split at h
      · next free =>
        cases h
        exact ⟨m,rfl,rfl,free⟩
      · cases h

theorem held_taken (w : World) (r p : ActorRef) (now : Time) :
    (w.taken r now).held p=w.held p+if r=p then 1 else 0 := by
  by_cases h : r=p
  · subst h
    simp [held,taken]
    omega
  · simp [held,taken,h]

theorem held_givenBack (w : World) (r p : ActorRef) (now : Time) :
    (w.givenBack r now).held p=w.held p-if r=p then 1 else 0 := by
  by_cases h : r=p
  · subst h
    simp [held,givenBack]
    omega
  · simp [held,givenBack,h]

end World

structure Moved (p : ActorRef) (w w' : World) (k : Int) : Prop where
  members : w'.group.members=w.group.members
  held : w'.held p=w.held p+k
  slots : (w'.actors p).activeSlots.toInt=(w.actors p).activeSlots.toInt+k

inductive SlotEffect (p : ActorRef) (st : GroupStep) : Prop where
  | opened (isOpen : opens st=true) (calm : ¬st.before.Fails st.call ∧ ¬st.before.Completes st.call)
      (moved : Moved p st.before st.after 1)
      (phase : st.after.group.vector.transfer=.prefilling)
  | returned (notOpen : opens st=false) (close : closes st=true)
      (done : st.before.Completes st.call) (live : ¬st.before.Fails st.call)
      (busy : 0<(st.before.actors p).activeSlots) (moved : Moved p st.before st.after (-1))
  | kept (notOpen : opens st=false) (close : closes st=true)
      (cause : st.before.Fails st.call ∧ ¬st.before.Completes st.call ∨
        ¬st.before.Fails st.call ∧ ¬0<(st.before.actors p).activeSlots)
      (moved : Moved p st.before st.after 0)
  | quiet (notOpen : opens st=false) (notClose : closes st=false)
      (calm : ¬st.before.Fails st.call ∧ ¬st.before.Completes st.call)
      (moved : Moved p st.before st.after 0)
      (phase : st.after.group.vector.transfer=st.before.group.vector.transfer ∨
        ¬st.after.group.vector.transfer.ended)

variable {k : Int}

section

variable (g : HandoffGroup) {w : World} (same : w.group.members=g.world.group.members)

include same

theorem HandoffGroup.findPrefill (order : RangeOrder CoactorMember) :
    w.group.findMemberByRole order .prefill=.ok g.prefill := by
  apply CoActorGroup.findMemberByRole_one
  rw [CoActorGroup.memberList,same]
  exact g.one_prefill

theorem HandoffGroup.findDecode (order : RangeOrder CoactorMember) :
    w.group.findMemberByRole order .decode=.ok g.decode := by
  apply CoActorGroup.findMemberByRole_one
  rw [CoActorGroup.memberList,same]
  exact g.one_decode

omit same in
theorem moved_started {s : SessionRef} (free : (w.actors g.prefill.actor).Available) :
    Moved g.prefill.actor w
      (((w.taken g.prefill.actor now).setTransfer .prefilling).setCacheState s .warming) 1 where
  members := rfl
  held := by
    have h := World.held_taken w g.prefill.actor g.prefill.actor now
    rw [if_pos rfl] at h
    exact h
  slots := by
    have next := toInt_succ_of_lt free.2.2.2
    simpa [World.taken,Actor.acquired] using next

variable {p : ActorRef}

omit same in
theorem Moved.handedOff {t : World} (h : Moved p w (t.releasePrefill now order) k)
    (endpoint : String) (s : SessionRef) : Moved p w (t.handedOff endpoint now s order) k :=
  ⟨h.members,h.held,h.slots⟩

theorem moved_handedOff (endpoint : String) (s : SessionRef) (now : Time)
    (order : RangeOrder CoactorMember) :
    Moved g.prefill.actor w ((w.taken g.decode.actor now).handedOff endpoint now s order)
      (if 0<(w.actors g.prefill.actor).activeSlots then -1 else 0) := by
  let t := w.taken g.decode.actor now
  have found : t.group.findMemberByRole order .prefill=.ok g.prefill := g.findPrefill same _
  have actor : t.actors g.prefill.actor=w.actors g.prefill.actor :=
    Function.update_of_ne g.distinct _ _
  have held : t.held g.prefill.actor=w.held g.prefill.actor := by
    rw [World.held_taken,if_neg (Ne.symm g.distinct),Int.add_zero]
  have released : t.releasePrefill now order=(t.releaseSlot g.prefill.actor now).1 := by
    rw [World.releasePrefill,found]
  apply Moved.handedOff
  by_cases busy : 0<(w.actors g.prefill.actor).activeSlots
  · have freed : t.releasePrefill now order=t.givenBack g.prefill.actor now := by
      rw [released]
      exact World.releaseSlot_granted (actor ▸ busy)
    have after : (t.givenBack g.prefill.actor now).actors g.prefill.actor=
        (w.actors g.prefill.actor).released now := by
      rw [← actor]
      exact Function.update_self _ _ _
    rw [if_pos busy,freed]
    refine ⟨rfl,?_,?_⟩
    · rw [World.held_givenBack,held,if_pos rfl]
      rfl
    · rw [after]
      exact toInt_pred_of_pos busy
  · have freed : t.releasePrefill now order=t := by
      rw [released]
      exact World.releaseSlot_refused (actor ▸ busy)
    rw [if_neg busy,freed]
    refine ⟨rfl,?_,?_⟩
    · rw [held,Int.add_zero]
    · rw [actor,Int.add_zero]

variable {w' : World}

omit same in
theorem Moved.still (members : w'.group.members=w.group.members)
    (log : w'.slotLog=w.slotLog) (actors : w'.actors=w.actors) : Moved p w w' 0 := by
  refine ⟨members,?_,?_⟩
  · rw [World.held,log,Int.add_zero]
    rfl
  · rw [actors,Int.add_zero]

theorem GroupOutcome.slotEffect {op : GroupOp} {ans : GroupAnswer}
    (h : GroupOutcome w op w' ans) : SlotEffect g.prefill.actor ⟨w,op,ans,w'⟩ := by
  cases h with
  | refreshed phase =>
    exact .quiet rfl rfl ⟨id,id⟩ (.still rfl rfl rfl) (Or.inl rfl)
  | @started s order now r target =>
    obtain ⟨m,found,rfl,free⟩ := World.prefillTarget_some target
    rw [g.findPrefill same] at found
    cases found
    exact .opened rfl ⟨id,id⟩ (moved_started g free) rfl
  | notStarted e target =>
    exact .quiet rfl rfl ⟨id,id⟩ (.still rfl rfl rfl) (Or.inl rfl)
  | fenced members =>
    exact .quiet rfl rfl ⟨id,id⟩ (.still rfl rfl rfl) (Or.inr (by
      simp [World.raiseFence,TransferPhase.ended]))
  | notFenced e members =>
    exact .quiet rfl rfl ⟨id,id⟩ (.still rfl rfl rfl) (Or.inl rfl)
  | begun current phase =>
    exact .quiet rfl rfl ⟨id,id⟩ (.still rfl rfl rfl) (Or.inr (by simp [TransferPhase.ended]))
  | notBegun e off =>
    exact .quiet rfl rfl ⟨id,id⟩ (.still rfl rfl rfl) (Or.inl rfl)
  | unverified e verdict root =>
    refine .quiet rfl ?_ ⟨?_,?_⟩ (.still rfl rfl rfl) (Or.inl rfl)
    · rcases root with root|root <;> simp [closes,root]
    · rcases verdict with v|v <;> simp [World.Fails,v]
    · rcases verdict with v|v <;> simp [World.Completes,v,HandoffVerdict.isGranted]
  | failed e verdict root =>
    refine .kept rfl ?_ (Or.inl ⟨?_,?_⟩) (.still rfl rfl rfl)
    · simp only [List.mem_cons,not_or] at root
      simp [closes,root]
    · rcases verdict with v|v <;> simp [World.Fails,v]
    · rcases verdict with v|v <;> simp [World.Completes,v,HandoffVerdict.isGranted]
  | mismatched e verdict root =>
    refine .kept rfl ?_ (Or.inl ⟨?_,?_⟩) (.still rfl rfl rfl)
    · simp [closes,root]
    · simp [World.Fails,verdict]
    · simp [World.Completes,verdict,HandoffVerdict.isGranted]
  | @completed f digest endpoint now s decodeOrder prefillOrder r err verdict bound =>
    have close : closes ⟨w,.verifyAndCompleteHandoff f digest endpoint now s decodeOrder
        prefillOrder,.done err,(w.taken r now).handedOff endpoint now s prefillOrder⟩=true := by
      rcases bound with ⟨rfl,_⟩|⟨e,rfl,root,_⟩
      · rfl
      · simp [closes,root]
    have fine : ¬w.Fails (.verifyAndCompleteHandoff f digest endpoint now s decodeOrder
        prefillOrder) := by simp [World.Fails,verdict]
    obtain ⟨m,found,rfl,_⟩ := World.handoffVerdict_granted verdict
    rw [g.findDecode same] at found
    cases found
    have moved := moved_handedOff g same endpoint s now prefillOrder
    by_cases busy : 0<(w.actors g.prefill.actor).activeSlots
    · rw [if_pos busy] at moved
      exact .returned rfl close (by simp [World.Completes,verdict,HandoffVerdict.isGranted]) fine
        busy moved
    · rw [if_neg busy] at moved
      exact .kept rfl close (Or.inr ⟨fine,busy⟩) moved
  | aborted current =>
    exact .kept rfl rfl (Or.inl ⟨by simp [World.Fails,current],id⟩) (.still rfl rfl rfl)
  | notAborted e stale =>
    exact .quiet rfl rfl ⟨by simp [World.Fails,stale],id⟩ (.still rfl rfl rfl) (Or.inl rfl)

end

def Balanced (p : ActorRef) (tr : List GroupStep) (w : World) : Prop :=
  w.held p=pending tr ∧ (initiated tr=1 → w.group.vector.transfer.ended → w.held p=0)

def SafeEnd (p : ActorRef) (tr : List GroupStep) (w : World) (op : GroupOp) : Prop :=
  (w.Fails op → pending tr=0) ∧ (w.Completes op → pending tr=0 → ¬0<(w.actors p).activeSlots)

structure Carried (g : HandoffGroup) (tr : List GroupStep) (w : World) : Prop where
  members : w.group.members=g.world.group.members
  slots : (w.actors g.prefill.actor).activeSlots.toInt=
    (g.world.actors g.prefill.actor).activeSlots.toInt+w.held g.prefill.actor
  few : pending tr ≤ initiated tr
  closed : w.group.vector.transfer.ended → initiated tr=0 ∨ pending tr < initiated tr

section

variable {g : HandoffGroup} {tr : List GroupStep} {st : GroupStep}

theorem Carried.moved {w : World} (c : Carried g tr st.before)
    (m : Moved g.prefill.actor st.before w k) :
    w.group.members=g.world.group.members ∧ (w.actors g.prefill.actor).activeSlots.toInt=
        (g.world.actors g.prefill.actor).activeSlots.toInt+w.held g.prefill.actor := by
  have slots := c.slots
  refine ⟨m.members.trans c.members,?_⟩
  rw [m.slots,m.held]
  omega

theorem Carried.closing (c : Carried g tr st.before) (notOpen : opens st=false)
    (close : closes st=true) (m : Moved g.prefill.actor st.before st.after k) :
    Carried g (tr++[st]) st.after := by
  have few := c.few
  have count : pending (tr++[st])=pending tr-1 := by
    rw [pending_snoc,notOpen,close]
    rfl
  have same : initiated (tr++[st])=initiated tr := by
    rw [initiated_snoc,notOpen]
    rfl
  refine ⟨(c.moved m).1,(c.moved m).2,?_,fun _ => ?_⟩
  · omega
  · omega

theorem Carried.step (c : Carried g tr st.before) (e : SlotEffect g.prefill.actor st) :
    Carried g (tr++[st]) st.after := by
  have few := c.few
  cases e with
  | opened isOpen calm moved phase =>
    refine ⟨(c.moved moved).1,(c.moved moved).2,?_,?_⟩
    · rw [pending_snoc,initiated_snoc,isOpen]
      simpa using few
    · rw [phase]
      simp [TransferPhase.ended]
  | returned notOpen close done live busy moved => exact c.closing notOpen close moved
  | kept notOpen close cause moved => exact c.closing notOpen close moved
  | quiet notOpen notClose calm moved phase =>
    refine ⟨(c.moved moved).1,(c.moved moved).2,?_,?_⟩
    · rw [pending_snoc,initiated_snoc,notOpen,notClose]
      simpa using few
    · intro ended
      rw [pending_snoc,initiated_snoc,notOpen,notClose]
      rcases phase with phase|phase
      · simpa using c.closed (phase ▸ ended)
      · exact absurd ended phase

theorem Carried.balanced {w : World} (c : Carried g tr w)
    (h : w.held g.prefill.actor=pending tr) : Balanced g.prefill.actor tr w := by
  refine ⟨h,fun one ended => ?_⟩
  rcases c.closed ended with _|_
  · omega
  · omega

theorem balanced_step (c : Carried g tr st.before) (e : SlotEffect g.prefill.actor st)
    (b : Balanced g.prefill.actor tr st.before)
    (safe : SafeEnd g.prefill.actor tr st.before st.call) :
    Balanced g.prefill.actor (tr++[st]) st.after := by
  apply (c.step e).balanced
  have held := b.1
  cases e with
  | opened isOpen calm moved phase =>
    rw [moved.held,pending_snoc,isOpen,held]
    simp
  | returned notOpen close done live busy moved =>
    have some : pending tr≠0 := fun zero => safe.2 done zero busy
    rw [moved.held,pending_snoc,notOpen,close]
    simp
    omega
  | kept notOpen close cause moved =>
    have zero : pending tr=0 := by
      rcases cause with ⟨fails,_⟩|⟨_,free⟩
      · exact safe.1 fails
      · have base := Int32.le_iff_toInt_le.mp g.laws.nonneg
        have slots := c.slots
        rw [Int32.lt_iff_toInt_lt] at free
        omega
    rw [moved.held,pending_snoc,notOpen,close,held,zero]
    rfl
  | quiet notOpen notClose calm moved phase =>
    rw [moved.held,pending_snoc,notOpen,notClose,held]
    simp

theorem safeEnd_of_balanced (e : SlotEffect g.prefill.actor st)
    (b : Balanced g.prefill.actor tr st.before)
    (b' : Balanced g.prefill.actor (tr++[st]) st.after) :
    SafeEnd g.prefill.actor tr st.before st.call := by
  have held := b.1
  have held' := b'.1
  cases e with
  | opened isOpen calm moved phase =>
    exact ⟨fun f => absurd f calm.1,fun d => absurd d calm.2⟩
  | returned notOpen close done live busy moved =>
    refine ⟨fun f => absurd f live,fun _ zero => ?_⟩
    rw [moved.held,pending_snoc,notOpen,held,zero] at held'
    simp at held'
  | kept notOpen close cause moved =>
    rw [moved.held,pending_snoc,notOpen,close] at held'
    simp only [Bool.false_eq_true,if_false,if_true] at held'
    refine ⟨fun _ => by omega,fun done zero => ?_⟩
    rcases cause with ⟨_,live⟩|⟨_,free⟩
    · exact absurd done live
    · exact free
  | quiet notOpen notClose calm moved phase =>
    exact ⟨fun f => absurd f calm.1,fun d => absurd d calm.2⟩

end

theorem handoff_slots_iff (g : HandoffGroup) (ops : List GroupOp) :
    Always World.groupStep g.world ops (Balanced g.prefill.actor) ↔
      EachCall World.groupStep g.world ops (SafeEnd g.prefill.actor) := by
  have effect tr w op (c : Carried g tr w) :
      SlotEffect g.prefill.actor (stepOf World.groupStep w op) :=
    (World.groupStep_outcome).slotEffect g c.members
  have start : g.world.held g.prefill.actor=0 := by simp [World.held,g.unused]
  have carried : Carried g [] g.world := ⟨rfl,by omega,le_refl _,fun _ => Or.inl rfl⟩
  apply always_iff_eachCall World.groupStep (Carried g)
  · exact carried
  · exact carried.balanced start
  · intro tr w op c b safe
    exact ⟨c.step (effect tr w op c),balanced_step c (effect tr w op c) b safe⟩
  · intro tr w op c b b'
    exact safeEnd_of_balanced (effect tr w op c) b b'

def residentActor (id : String) : Actor :=
  run Actor.step (newActor id .model 1 .forbidden 0 0) [.activate 0,.setResidency .resident]

theorem residentActor_laws {id : String} : (residentActor id).Laws :=
  Actor.step_laws (Actor.step_laws (Actor.newActor_laws))

def pairWorld : World :=
  {World.initial "g" .prefillDecode (fun r => residentActor (if r=0 then "p" else "d"))
      (fun _ => newInferenceSession "s" "m" "p" "g" 0 8 0) with
    group := ((newCoActorGroup "g" .prefillDecode).addMember "prefill" .prefill 0 []).addMember
      "decode" .decode 1 []}

def pairGroup : HandoffGroup where
  world := pairWorld
  prefill := ⟨"prefill",.prefill,0,[]⟩
  decode := ⟨"decode",.decode,1,[]⟩
  one_prefill := by decide
  one_decode := by decide
  distinct := by decide
  laws := residentActor_laws
  unused := rfl

def abortedPrefill : List GroupOp := [.refreshPhase,.initiatePrefill 0 (RangeOrder.listed _) 0,
    .createTransferFence 0 10 "sha" Duration.second 0 (RangeOrder.listed _) (RangeOrder.listed _),
    .abortTransfer 0 "cancelled"]

theorem handoff_slots_leak :
    (run World.groupStep pairWorld abortedPrefill).group.vector.transfer=.aborted ∧
    (run World.groupStep pairWorld abortedPrefill).held 0=1 ∧
    initiated (trace World.groupStep pairWorld abortedPrefill)=1 ∧
    ¬Always World.groupStep pairGroup.world abortedPrefill (Balanced 0) := by
  have phase : (run World.groupStep pairWorld abortedPrefill).group.vector.transfer=.aborted := by
    decide
  have held : (run World.groupStep pairWorld abortedPrefill).held 0=1 := by decide
  have one : initiated (trace World.groupStep pairWorld abortedPrefill)=1 := by decide
  refine ⟨phase,held,one,fun always => ?_⟩
  have zero := (always abortedPrefill (List.prefix_refl _)).2 one (Or.inr (Or.inr phase))
  exact absurd (held.symm.trans zero) (by decide)

end KServeLLM.Kernel
