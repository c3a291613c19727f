import KServeLLM.Kernel.SlotBalance

namespace KServeLLM.Kernel

abbrev WorldStep := Step World WorldOp WorldAnswer

def begunFence : WorldStep → Option FenceRef
  | ⟨_,.group (.beginTransfer f _),.group (.done none),_⟩ => some f
  | _ => none

def verifiedFence : WorldStep → Option (FenceRef×SessionRef)
  | ⟨_,.group (.verifyAndCompleteHandoff f _ _ _ s _ _),.group (.done none),_⟩ => some (f,s)
  | _ => none

def completedFence : WorldStep → Option FenceRef
  | ⟨_,.group (.verifyAndCompleteHandoff f _ _ _ _ _ _),.group (.done none),_⟩ => some f
  | ⟨_,.group (.verifyAndCompleteHandoff f _ _ _ _ _ _),.group (.done (some e)),_⟩ =>
      if e.root=.sessionTerminal then some f else none
  | _ => none

structure Legitimate (history : List WorldStep) (st : WorldStep) : Prop where
  once : ∀f s,verifiedFence st=some (f,s) → ∀x∈history,∀s',verifiedFence x≠some (f,s')
  begun : ∀f s,verifiedFence st=some (f,s) → ∃a b c,history=a++b::c ∧ begunFence b=some f ∧
    ∀x∈c,x.after.group.vector.transfer≠.aborted ∧ x.after.group.vector.transfer≠.failed
  session : ∀f s,verifiedFence st=some (f,s) →
    (st.before.fences[f]?).map TransferFence.sessionID=some (st.before.sessions s).id
  epoch : ∀f,completedFence st=some f → ∀x∈history,x.after.group.vector.transfer.ended →
    x.after.group.currentEpoch < st.before.group.currentEpoch

def GuardedHandoff (w : World) : WorldOp → Prop
  | .group (.verifyAndCompleteHandoff f digest _ now s decodeOrder _) =>
      (w.handoffVerdict f digest now decodeOrder).isGranted=true →
        w.group.vector.transfer=.transmitting ∧
        (w.fences[f]?).map TransferFence.sessionID=some (w.sessions s).id
  | .group (.createTransferFence _ _ _ _ _ _ _) => w.group.currentEpoch.toNat+1<2^64
  | _ => True

instance (w : World) : (op : WorldOp) → Decidable (GuardedHandoff w op)
  | .group (.verifyAndCompleteHandoff _ _ _ _ _ _ _) => inferInstanceAs (Decidable (_ → _ ∧ _))
  | .group (.createTransferFence _ _ _ _ _ _ _) => inferInstanceAs (Decidable (_<_))
  | .group .refreshPhase => isTrue trivial
  | .group (.initiatePrefill _ _ _) => isTrue trivial
  | .group (.beginTransfer _ _) => isTrue trivial
  | .group (.abortTransfer _ _) => isTrue trivial
  | .addMember _ _ _ _ => isTrue trivial
  | .session _ _ => isTrue trivial
  | .actor _ _ => isTrue trivial

def World.epochs (w : World) : List UInt64 := w.fences.map TransferFence.epoch

structure SameEpoch (w w' : World) : Prop where
  epoch : w'.group.currentEpoch=w.group.currentEpoch
  epochs : w'.epochs=w.epochs

inductive HandoffEffect (st : WorldStep) : Prop where
  | quiet (same : SameEpoch st.before st.after) (noBegin : begunFence st=none)
      (noEnd : completedFence st=none)
      (phase : st.after.group.vector.transfer=st.before.group.vector.transfer)
  | prefilling (same : SameEpoch st.before st.after) (noBegin : begunFence st=none)
      (noEnd : completedFence st=none)
      (phase : st.after.group.vector.transfer=.prefilling)
  | fenced (noBegin : begunFence st=none) (noEnd : completedFence st=none)
      (epoch : st.after.group.currentEpoch=st.before.group.currentEpoch+1)
      (epochs : st.after.epochs=st.before.epochs++[st.before.group.currentEpoch+1])
      (phase : st.after.group.vector.transfer=.fenced)
      (room : GuardedHandoff st.before st.call → st.before.group.currentEpoch.toNat+1<2^64)
  | begun (f : FenceRef) (same : SameEpoch st.before st.after) (start : begunFence st=some f)
      (noEnd : completedFence st=none)
      (current : st.before.epochs[f]?=some st.before.group.currentEpoch)
      (old : st.before.group.vector.transfer=.fenced)
      (phase : st.after.group.vector.transfer=.transmitting)
  | failed (same : SameEpoch st.before st.after) (noBegin : begunFence st=none)
      (noEnd : completedFence st=none)
      (phase : st.after.group.vector.transfer.ended)
  | completed (f : FenceRef) (same : SameEpoch st.before st.after)
      (noBegin : begunFence st=none) (finish : completedFence st=some f)
      (current : st.before.epochs[f]?=some st.before.group.currentEpoch)
      (phase : st.after.group.vector.transfer=.completed)
      (guard : GuardedHandoff st.before st.call → st.before.group.vector.transfer=.transmitting ∧
        ∀f s,verifiedFence st=some (f,s) →
          (st.before.fences[f]?).map TransferFence.sessionID=some (st.before.sessions s).id)

variable {f : FenceRef}

theorem completedFence_of_verified {st : WorldStep} {s : SessionRef}
    (h : verifiedFence st=some (f,s)) : completedFence st=some f := by
  unfold verifiedFence at h
  split at h
  · cases h
    rfl
  · cases h

variable {w : World}

namespace World

variable {fence : TransferFence}

theorem currentFence_some (h : w.currentFence f=some fence) :
    w.fences[f]?=some fence ∧ fence.epoch=w.group.currentEpoch := by
  obtain ⟨found,current⟩ := Option.filter_eq_some_iff.mp h
  exact ⟨found,by simpa using current⟩

theorem epochs_of_currentFence
    (h : w.currentFence f=some fence) : w.epochs[f]?=some w.group.currentEpoch := by
  obtain ⟨found,current⟩ := currentFence_some h
  rw [epochs,List.getElem?_map,found,← current]
  rfl

theorem handoffVerdict_fence {digest : String} {now : Time}
    {order : RangeOrder CoactorMember} {r : ActorRef}
    (h : w.handoffVerdict f digest now order=.granted r) :
    ∃fence,w.currentFence f=some fence ∧ now.after fence.expiresAt=false ∧ fence.digest=digest := by
  unfold handoffVerdict at h
  cases current : w.currentFence f with
  | none => simp [current] at h
  | some fence =>
    simp only [current] at h
    split_ifs at h with late same
    exact ⟨fence,rfl,by simpa using late,not_not.mp same⟩

theorem handedOff_epochs (w : World) (endpoint : String) (now : Time) (s : SessionRef)
    (order : RangeOrder CoactorMember) :
    SameEpoch w (w.handedOff endpoint now s order) := by
  obtain ⟨group,_,fences⟩ := releasePrefill_frame w now _
  refine ⟨?_,?_⟩
  · change (w.releasePrefill now order).group.currentEpoch=_
    rw [group]
  · change (w.releasePrefill now order).fences.map TransferFence.epoch=_
    rw [fences]
    rfl

end World

theorem SameEpoch.refl : SameEpoch w w := ⟨rfl,rfl⟩

theorem GroupOutcome.handoffEffect {w' : World} {op : GroupOp} {ans : GroupAnswer}
    (h : GroupOutcome w op w' ans) : HandoffEffect ⟨w,.group op,.group ans,w'⟩ := by
  cases h with
  | refreshed phase => exact .quiet ⟨rfl,rfl⟩ rfl rfl rfl
  | started target => exact .prefilling ⟨rfl,rfl⟩ rfl rfl rfl
  | notStarted e target => exact .quiet (.refl) rfl rfl rfl
  | fenced members =>
    refine .fenced rfl rfl rfl ?_ rfl id
    simp [World.epochs,World.raiseFence]
  | notFenced e members => exact .quiet (.refl) rfl rfl rfl
  | @begun f method fence current phase =>
    have found := World.epochs_of_currentFence current
    refine .begun f ⟨rfl,?_⟩ rfl rfl found phase rfl
    obtain ⟨_,same⟩ := List.getElem?_eq_some_iff.mp found
    have epoch := (World.currentFence_some current).2
    change (w.fences.set f {fence with mechanism := some method}).map TransferFence.epoch=w.epochs
    rw [List.map_set]
    rw [epoch,← same]
    exact List.set_getElem_self _
  | notBegun e off => exact .quiet (.refl) rfl rfl rfl
  | unverified e verdict root =>
    refine .quiet (.refl) rfl ?_ rfl
    rcases root with root|root <;> simp [completedFence,root]
  | failed e verdict root =>
    refine .failed ⟨rfl,rfl⟩ rfl ?_ (Or.inr (Or.inl rfl))
    simp only [List.mem_cons,not_or] at root
    simp [completedFence,root]
  | mismatched e verdict root =>
    refine .failed ⟨rfl,rfl⟩ rfl ?_ (Or.inr (Or.inl rfl))
    simp [completedFence,root]
  | @completed f digest endpoint now s decodeOrder prefillOrder r err verdict bound =>
    obtain ⟨_,current,_⟩ := World.handoffVerdict_fence verdict
    have same := World.handedOff_epochs (w.taken r now) endpoint now s prefillOrder
    refine .completed f ⟨same.epoch,same.epochs⟩ rfl ?_
      (World.epochs_of_currentFence current) rfl ?_
    · rcases bound with ⟨rfl,_⟩|⟨e,rfl,root,_⟩
      · rfl
      · simp [completedFence,root]
    · intro guarded
      obtain ⟨phase,session⟩ := guarded (by simp [verdict,HandoffVerdict.isGranted])
      refine ⟨phase,fun f' s' h => ?_⟩
      rcases bound with ⟨rfl,_⟩|⟨e,rfl,_,_⟩
      · cases h
        exact session
      · cases h
  | aborted current => exact .failed ⟨rfl,rfl⟩ rfl rfl (Or.inr (Or.inr rfl))
  | notAborted e stale => exact .quiet (.refl) rfl rfl rfl

theorem World.step_effect {op : WorldOp} : HandoffEffect (stepOf World.step w op) := by
  cases op with
  | group op => exact (World.groupStep_outcome).handoffEffect
  | addMember name role actor dependsOn => exact .quiet ⟨rfl,rfl⟩ rfl rfl rfl
  | session s op => exact .quiet ⟨rfl,rfl⟩ rfl rfl rfl
  | actor r op => exact .quiet ⟨rfl,rfl⟩ rfl rfl rfl

structure Protocol (tr : List WorldStep) (w : World) : Prop where
  count : w.group.currentEpoch.toNat=w.epochs.length
  numbered : ∀f e,w.epochs[f]?=some e → e.toNat=f+1
  past : ∀x∈tr,x.after.group.currentEpoch.toNat ≤ w.group.currentEpoch.toNat
  spent : ∀x∈tr,x.after.group.vector.transfer.ended →
    x.after.group.currentEpoch=w.group.currentEpoch →
    w.group.vector.transfer≠.fenced ∧ w.group.vector.transfer≠.transmitting
  sent : w.group.vector.transfer=.transmitting → ∃a b c f,tr=a++b::c ∧ begunFence b=some f ∧
    w.epochs[f]?=some w.group.currentEpoch ∧ ∀x∈c,¬x.after.group.vector.transfer.ended
  finished : ∀x∈tr,∀f,completedFence x=some f →
    x.after.group.vector.transfer=.completed ∧ x.after.group.currentEpoch.toNat=f+1

theorem ended_ne {t : TransferPhase} (h : t.ended) : t≠.fenced ∧ t≠.transmitting := by
  rcases h with rfl|rfl|rfl <;> decide

section

variable {tr : List WorldStep} {st : WorldStep}

theorem Protocol.within (p : Protocol tr st.before) (same : SameEpoch st.before st.after)
    (spent : ∀x∈tr,x.after.group.vector.transfer.ended →
      x.after.group.currentEpoch=st.before.group.currentEpoch →
      st.after.group.vector.transfer≠.fenced ∧ st.after.group.vector.transfer≠.transmitting)
    (sent : st.after.group.vector.transfer=.transmitting → ∃a b c f,tr++[st]=a++b::c ∧
      begunFence b=some f ∧ st.before.epochs[f]?=some st.before.group.currentEpoch ∧
      ∀x∈c,¬x.after.group.vector.transfer.ended)
    (finish : ∀f,completedFence st=some f → st.after.group.vector.transfer=.completed ∧
      st.before.epochs[f]?=some st.before.group.currentEpoch) :
    Protocol (tr++[st]) st.after where
  count := by rw [same.epoch,same.epochs,p.count]
  numbered := by rw [same.epochs]; exact p.numbered
  past := by
    rw [same.epoch]
    exact forall_mem_snoc p.past (by rw [same.epoch])
  spent := by
    refine forall_mem_snoc (fun x hx ended he => ?_) fun ended _ => ended_ne ended
    exact spent x hx ended (he.trans same.epoch)
  sent := by rw [same.epoch,same.epochs]; exact sent
  finished := by
    refine forall_mem_snoc p.finished fun f hf => ?_
    obtain ⟨phase,current⟩ := finish f hf
    rw [same.epoch]
    exact ⟨phase,p.numbered f _ current⟩

theorem Protocol.step (p : Protocol tr st.before) (e : HandoffEffect st)
    (guarded : GuardedHandoff st.before st.call) : Protocol (tr++[st]) st.after := by
  cases e with
  | quiet same noBegin noEnd phase =>
    apply p.within same
    · rw [phase]
      exact p.spent
    · rw [phase]
      intro moving
      obtain ⟨a,b,c,f,rfl,start,current,calm⟩ := p.sent moving
      refine ⟨a,b,c++[st],f,by simp,start,current,forall_mem_snoc calm ?_⟩
      rw [phase,moving]
      decide
    · simp [noEnd]
  | prefilling same noBegin noEnd phase =>
    apply p.within same
    · simp [phase]
    · simp [phase]
    · simp [noEnd]
  | fenced noBegin noEnd epoch epochs phase room =>
    have next : st.after.group.currentEpoch.toNat=st.before.group.currentEpoch.toNat+1 := by
      rw [epoch]
      exact Nat.mod_eq_of_lt (room guarded)
    refine ⟨?_,?_,?_,?_,?_,?_⟩
    · rw [next,epochs,List.length_append,p.count]
      rfl
    · intro f e hf
      rw [epochs,List.getElem?_append] at hf
      split at hf
      · exact p.numbered f e hf
      · next outside =>
        obtain ⟨last,rfl⟩ := List.getElem?_eq_some_iff.mp hf
        rw [List.getElem_singleton,← epoch,next,p.count]
        rw [List.length_singleton] at last
        omega
    · refine forall_mem_snoc (fun x hx => ?_) (Nat.le_refl _)
      have old := p.past x hx
      omega
    · refine forall_mem_snoc (fun x hx ended he => ?_) fun ended _ => ?_
      · have old := p.past x hx
        rw [he] at old
        omega
      · rw [phase] at ended
        exact absurd ended (by decide)
    · simp [phase]
    · refine forall_mem_snoc p.finished fun f hf => ?_
      rw [noEnd] at hf
      cases hf
  | begun f same start noEnd current old phase =>
    apply p.within same
    · intro x hx ended he
      exact absurd old (p.spent x hx ended he).1
    · intro _
      exact ⟨tr,st,[],f,rfl,start,current,by simp⟩
    · simp [noEnd]
  | failed same noBegin noEnd phase =>
    apply p.within same
    · exact fun _ _ _ _ => ended_ne phase
    · exact fun moving => absurd moving (ended_ne phase).2
    · simp [noEnd]
  | completed f same noBegin finish current phase _ =>
    apply p.within same
    · simp [phase]
    · simp [phase]
    · intro f' hf
      rw [finish] at hf
      cases hf
      exact ⟨phase,current⟩

theorem Protocol.legitimate (p : Protocol tr st.before) (e : HandoffEffect st)
    (guarded : GuardedHandoff st.before st.call) : Legitimate tr st := by
  have none (h : completedFence st=none) : Legitimate tr st := by
    have unverified f s : verifiedFence st≠some (f,s) := by
      intro hv
      rw [completedFence_of_verified hv] at h
      cases h
    exact ⟨fun f s hv => absurd hv (unverified f s),fun f s hv => absurd hv (unverified f s),
      fun f s hv => absurd hv (unverified f s),by simp [h]⟩
  cases e with
  | quiet same noBegin noEnd phase => exact none noEnd
  | prefilling same noBegin noEnd phase => exact none noEnd
  | fenced noBegin noEnd epoch epochs phase room => exact none noEnd
  | begun f same start noEnd current old phase => exact none noEnd
  | failed same noBegin noEnd phase => exact none noEnd
  | completed f same noBegin finish current phase guard =>
    obtain ⟨moving,session⟩ := guard guarded
    have number := p.numbered f _ current
    have same f' s (hv : verifiedFence st=some (f',s)) : f'=f := by
      have h := completedFence_of_verified hv
      rw [finish] at h
      exact (Option.some.inj h).symm
    have older (x : WorldStep) hx ended : x.after.group.currentEpoch≠st.before.group.currentEpoch :=
      fun he => absurd moving (p.spent x hx ended he).2
    refine ⟨?_,?_,session,?_⟩
    · intro f' s hv x hx s' hx'
      rw [same f' s hv] at hx'
      obtain ⟨done,epoch⟩ := p.finished x hx f (completedFence_of_verified hx')
      apply older x hx (Or.inl done)
      exact UInt64.toNat_inj.mp (epoch.trans number.symm)
    · intro f' s hv
      obtain ⟨a,b,c,f'',split,start,current',calm⟩ := p.sent moving
      have number' := p.numbered f'' _ current'
      have eq : f''=f := Nat.succ.inj (number'.symm.trans number)
      subst eq
      rw [same f' s hv]
      refine ⟨a,b,c,split,start,fun x hx => ?_⟩
      exact ⟨fun h => calm x hx (Or.inr (Or.inr h)),fun h => calm x hx (Or.inr (Or.inl h))⟩
    · intro f' _ x hx ended
      have le := p.past x hx
      have ne := older x hx ended
      rw [UInt64.lt_iff_toNat_lt]
      have ne' : x.after.group.currentEpoch.toNat≠st.before.group.currentEpoch.toNat :=
        fun h => ne (UInt64.toNat_inj.mp h)
      omega

end

theorem initial_protocol {id : String} {pattern : CoactorPattern} {actors : ActorRef → Actor}
    {sessions : SessionRef → InferenceSession} :
    Protocol [] (World.initial id pattern actors sessions) where
  count := rfl
  numbered := by simp [World.epochs,World.initial]
  past := by simp
  spent := by simp
  sent := by simp [World.initial,newCoActorGroup]
  finished := by simp

theorem handoffs_legitimate (id : String) (pattern : CoactorPattern)
    (actors : ActorRef → Actor) (sessions : SessionRef → InferenceSession) (ops : List WorldOp) :
    let w := World.initial id pattern actors sessions
    EachCall World.step w ops (fun _ w op => GuardedHandoff w op) →
      EachCall World.step w ops (fun tr w op => Legitimate tr (stepOf World.step w op)) := by
  intro w guarded pre op hp
  have reached : Protocol (trace World.step w pre) (run World.step w pre) := by
    apply run_of_eachCall World.step Protocol (fun _ w op => GuardedHandoff w op)
    · exact initial_protocol
    · exact fun tr v op p g => p.step (World.step_effect) g
    · exact guarded.of_prefix World.step ((List.prefix_append pre [op]).trans hp)
  exact reached.legitimate (World.step_effect) (guarded pre op hp)

def twoSlotActor (id : String) : Actor :=
  run Actor.step (newActor id .model 2 .allowed 0 0) [.activate 0,.setResidency .resident]

def replayWorld : World :=
  World.initial "g" .prefillDecode (fun r => twoSlotActor (if r=0 then "p" else "d"))
    (fun s => newInferenceSession (if s=0 then "s0" else "s1") "m" "p" "g" 0 8 0)

def addPair : List WorldOp :=
  [.addMember "prefill" .prefill 0 [],.addMember "decode" .decode 1 [],.group .refreshPhase]

def raiseCall : WorldOp :=
  .group (.createTransferFence 0 10 "sha" Duration.second 0 (RangeOrder.listed _)
    (RangeOrder.listed _))

def verifyCall (s : SessionRef) : WorldOp :=
  .group (.verifyAndCompleteHandoff 0 "sha" "ep" 0 s (RangeOrder.listed _) (RangeOrder.listed _))

def regularHandoff : List WorldOp :=
  addPair++[.group (.initiatePrefill 0 (RangeOrder.listed _) 0),raiseCall,
    .group (.beginTransfer 0 .tcp),verifyCall 0]

theorem handoffs_legitimate_regular :
    EachCall World.step replayWorld regularHandoff (fun _ w op => GuardedHandoff w op) ∧
    (trace World.step replayWorld regularHandoff).map completedFence=
      [none,none,none,none,none,none,some 0] ∧
    EachCall World.step replayWorld regularHandoff
      (fun tr w op => Legitimate tr (stepOf World.step w op)) := by
  have guarded : EachCall World.step replayWorld regularHandoff
      (fun _ w op => GuardedHandoff w op) := by decide
  exact ⟨guarded,by decide,handoffs_legitimate _ _ _ _ _ guarded⟩

def replayedFence : List WorldOp := addPair++[raiseCall,verifyCall 0,verifyCall 1]

theorem handoffs_replayed : (trace World.step replayWorld replayedFence).map verifiedFence=
      [none,none,none,none,some (0,0),some (0,1)] ∧
    ¬EachCall World.step replayWorld replayedFence
      (fun tr w op => Legitimate tr (stepOf World.step w op)) := by
  refine ⟨by decide,fun legitimate => ?_⟩
  have last := legitimate (addPair++[raiseCall,verifyCall 0]) (verifyCall 1) (List.prefix_refl _)
  have again := last.session 0 1 (by decide)
  exact absurd again (by decide)

end KServeLLM.Kernel
