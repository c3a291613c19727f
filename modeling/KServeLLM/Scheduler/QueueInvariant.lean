import KServeLLM.Scheduler.QueueLedger

namespace KServeLLM.Scheduler

variable {F : Type} [Float64 F]

def QueuedRequest.payload (r : QueuedRequest F) : QueuedRequest F :=
  {r with calculatedScore := 0.0,heapIndex := 0}

section

variable {a b : QueuedRequest F}

theorem payload_of_core (h : a.core=b.core) : a.payload=b.payload := by
  change a.core.payload=b.core.payload
  rw [h]

theorem id_of_payload (h : a.payload=b.payload) : a.id=b.id :=
  show a.payload.id=b.payload.id by rw [h]

theorem entry_of_payload (h : a.payload=b.payload) : a.entry=b.entry :=
  show a.payload.entry=b.payload.entry by rw [h]

theorem expired_of_payload (h : a.payload=b.payload) {now : Time} : a.expired now=b.expired now :=
  show a.payload.expired now=b.payload.expired now by rw [h]

end

theorem RequestHeap.entries_congr {h h' : RequestHeap F} (slots : h'.slots=h.slots)
    (same : ∀r∈h.slots,(h'.objects r).payload=(h.objects r).payload) : h'.entries=h.entries := by
  unfold RequestHeap.entries RequestHeap.requests
  rw [slots,List.map_map,List.map_map]
  exact List.map_congr_left fun r hr => entry_of_payload (same r hr)

theorem RequestHeap.entries_perm {h h' : RequestHeap F} (gone : List Ref)
    (perm : h.slots.Perm (gone++h'.slots))
    (same : ∀r∈h'.slots,(h'.objects r).payload=(h.objects r).payload) :
    h.entries.Perm (gone.map (fun r => (h.objects r).entry)++h'.entries) := by
  have split := perm.map (fun r => (h.objects r).entry)
  have rest : h'.entries=({h with slots := h'.slots}).entries := entries_congr rfl same
  rw [rest]
  simpa [RequestHeap.entries,RequestHeap.requests,Function.comp_def] using split

variable {cfg : TokenQueueConfig F}

namespace TokenQueue

structure Sound (q : TokenQueue F) : Prop where
  indexed : q.heap.Indexed
  allocated : ∀r∈q.heap.slots,r < q.heap.allocated
  found : ∀id r,q.lookup.lookup id=some r → r∈q.heap.slots ∧ (q.heap.objects r).id=id
  books : Books q q.heap.entries

def Complete (q : TokenQueue F) : Prop :=
  ∀r∈q.heap.slots,q.lookup.lookup (q.heap.objects r).id=some r

theorem newTokenQueue_sound : Sound (newTokenQueue cfg) := by
  refine ⟨⟨?_,?_⟩,?_,?_,⟨rfl,fun _ => rfl,fun _ => rfl⟩⟩
  all_goals simp [newTokenQueue]

theorem newTokenQueue_complete : Complete (newTokenQueue cfg) := by
  simp [Complete,newTokenQueue]

variable (q : TokenQueue F) (r : Ref)

theorem insertRequest_frame : q.insertRequest r={q with
      heap := RequestHeap.heap.heapPush q.heap r
      lookup := q.lookup.insert (q.heap.objects r).id r
      totalTokens := q.totalTokens+(q.heap.objects r).effectiveCost
      tenants := (q.insertRequest r).tenants} := by
  unfold insertRequest
  exact updateTenant_frame _ _ _

theorem insertRequest_heap : (q.insertRequest r).heap=RequestHeap.heap.heapPush q.heap r :=
  congrArg _ (insertRequest_frame q r)

theorem insertRequest_lookup : (q.insertRequest r).lookup=q.lookup.insert (q.heap.objects r).id r :=
  congrArg _ (insertRequest_frame q r)

variable {es : List (String×Int64)}

theorem insertRequest_books (b : Books q es) :
    Books (q.insertRequest r) ((q.heap.objects r).entry::es) := by
  refine b.charge _ (congrArg _ (insertRequest_frame q r)) fun t => ?_
  rw [insertRequest,updateTenant_tenant]
  by_cases own : t=(q.heap.objects r).tenantID
  · subst t
    simp [QueuedRequest.entry,tenant]
  · simp [QueuedRequest.entry,own,tenant]

section

variable (key : String) (h : RequestHeap F)

theorem releaseRequest_frame : q.releaseRequest r key h={q with
      heap := h
      lookup := q.lookup.erase key
      totalTokens := q.totalTokens-(h.objects r).effectiveCost
      tenants := (q.releaseRequest r key h).tenants} := by
  unfold releaseRequest
  exact updateTenant_frame _ _ _

theorem releaseRequest_heap : (q.releaseRequest r key h).heap=h :=
  congrArg _ (releaseRequest_frame q r key h)

theorem releaseRequest_lookup : (q.releaseRequest r key h).lookup=q.lookup.erase key :=
  congrArg _ (releaseRequest_frame q r key h)

theorem releaseRequest_books (b : Books q ((h.objects r).entry::es)) :
    Books (q.releaseRequest r key h) es := by
  refine b.discharge _ (congrArg _ (releaseRequest_frame q r key h)) fun t => ?_
  rw [releaseRequest,updateTenant_tenant]
  by_cases own : t=(h.objects r).tenantID
  · subst t
    simp [QueuedRequest.entry,tenant]
  · simp [QueuedRequest.entry,own,tenant]

end

section

variable {q} {q' : TokenQueue F} (slots : q'.heap.slots=q.heap.slots) (lookup : q'.lookup=q.lookup)
  (keep : ∀x∈q.heap.slots,q'.heap.objects x=q.heap.objects x)

include slots lookup keep

theorem Sound.of_contents (s : Sound q) (allocated : q.heap.allocated ≤ q'.heap.allocated)
    (tokens : q'.totalTokens=q.totalTokens) (tenants : ∀t,q'.tenant t=q.tenant t) : Sound q' := by
  refine ⟨⟨slots ▸ s.indexed.nodup,?_⟩,?_,?_,?_⟩
  · intro i x hx
    rw [slots] at hx
    rw [keep x (List.mem_of_getElem? hx)]
    exact s.indexed.index i x hx
  · intro x hx
    exact lt_of_lt_of_le (s.allocated x (slots ▸ hx)) allocated
  · intro id x hx
    rw [lookup] at hx
    obtain ⟨hm,hid⟩ := s.found id x hx
    rw [slots,keep x hm]
    exact ⟨hm,hid⟩
  · rw [RequestHeap.entries_congr slots fun x hx => congrArg _ (keep x hx)]
    exact s.books.congr tokens tenants

theorem Complete.of_contents (c : Complete q) : Complete q' := by
  intro x hx
  rw [slots] at hx
  rw [lookup,keep x hx]
  exact c x hx

end

section

variable {q r}

theorem setObject_objects (hr : r∉q.heap.slots) {req : QueuedRequest F} :
    ∀x∈q.heap.slots,(q.setObject r req).heap.objects x=q.heap.objects x := by
  intro x hx
  have ne : x≠r := fun he => hr (he ▸ hx)
  simp [setObject,ne]

theorem setObject_complete (hr : r∉q.heap.slots) {req : QueuedRequest F} (c : Complete q) :
    Complete (q.setObject r req) :=
  Complete.of_contents (q := q) rfl rfl (setObject_objects hr) c

variable (s : Sound q) (hr : r∉q.heap.slots)

include s hr

theorem setObject_sound {req : QueuedRequest F} : Sound (q.setObject r req) :=
  Sound.of_contents (q := q) rfl rfl (setObject_objects hr) s (le_refl _) rfl (fun _ => rfl)

theorem insertRequest_slots : (q.insertRequest r).heap.slots.Perm (r::q.heap.slots) ∧
      RequestHeap.SameObjects q.heap (q.insertRequest r).heap := by
  rw [insertRequest_heap]
  exact (RequestHeap.heapPush_spec s.indexed hr).2

theorem insertRequest_sound (ha : r < q.heap.allocated) : Sound (q.insertRequest r) := by
  obtain ⟨perm,same⟩ := insertRequest_slots s hr
  have payload x := payload_of_core (same.core x)
  refine ⟨?_,?_,?_,?_⟩
  · rw [insertRequest_heap]
    exact (RequestHeap.heapPush_spec s.indexed hr).1
  · intro x hx
    rw [same.allocated]
    rcases List.mem_cons.mp (perm.mem_iff.mp hx) with rfl|hm
    · exact ha
    · exact s.allocated x hm
  · intro id x hx
    rw [insertRequest_lookup] at hx
    rw [perm.mem_iff,id_of_payload (payload x)]
    by_cases hid : id=(q.heap.objects r).id
    · subst id
      rw [AList.lookup_insert] at hx
      obtain rfl : r=x := Option.some.inj hx
      exact ⟨by simp,rfl⟩
    · rw [AList.lookup_insert_ne hid] at hx
      obtain ⟨hm,he⟩ := s.found id x hx
      exact ⟨List.mem_cons_of_mem _ hm,he⟩
  · apply (insertRequest_books q r s.books).perm
    have h := RequestHeap.entries_perm [r] perm (fun x _ => (payload x).symm)
    rw [List.map_singleton,entry_of_payload (payload r)] at h
    exact h.symm

theorem insertRequest_complete (c : Complete q)
    (hid : ∀x∈q.heap.slots,(q.heap.objects x).id≠(q.heap.objects r).id) :
    Complete (q.insertRequest r) := by
  obtain ⟨perm,same⟩ := insertRequest_slots s hr
  intro x hx
  rw [insertRequest_lookup,id_of_payload (payload_of_core (same.core x))]
  rcases List.mem_cons.mp (perm.mem_iff.mp hx) with rfl|hm
  · exact AList.lookup_insert _
  · rw [AList.lookup_insert_ne (hid x hm)]
    exact c x hm

end

section

variable {q r} {h : RequestHeap F} (s : Sound q) (perm : q.heap.slots.Perm (r::h.slots))
  (same : RequestHeap.SameObjects q.heap h)

include s perm same

theorem releaseRequest_sound (hx : h.Indexed) :
    Sound (q.releaseRequest r (q.heap.objects r).id h) := by
  have payload x := payload_of_core (same.core x)
  refine ⟨?_,?_,?_,?_⟩
  · rw [releaseRequest_heap]
    exact hx
  · rw [releaseRequest_heap,same.allocated]
    intro x hm
    exact s.allocated x (perm.mem_iff.mpr (List.mem_cons_of_mem _ hm))
  · intro id x hl
    rw [releaseRequest_lookup] at hl
    rw [releaseRequest_heap,id_of_payload (payload x)]
    by_cases hid : id=(q.heap.objects r).id
    · subst id
      simp at hl
    · rw [AList.lookup_erase_ne hid] at hl
      obtain ⟨hm,he⟩ := s.found id x hl
      rcases List.mem_cons.mp (perm.mem_iff.mp hm) with rfl|hm
      · exact absurd he.symm hid
      · exact ⟨hm,he⟩
  · rw [releaseRequest_heap]
    apply releaseRequest_books
    have h := RequestHeap.entries_perm [r] perm (fun x _ => payload x)
    rw [List.map_singleton,← entry_of_payload (payload r)] at h
    exact s.books.perm h

theorem releaseRequest_complete (c : Complete q) :
    Complete (q.releaseRequest r (q.heap.objects r).id h) := by
  intro x hx
  rw [releaseRequest_heap] at hx
  rw [releaseRequest_lookup,releaseRequest_heap,id_of_payload (payload_of_core (same.core x))]
  have hm : x∈q.heap.slots := perm.mem_iff.mpr (List.mem_cons_of_mem _ hx)
  have ne : (q.heap.objects x).id≠(q.heap.objects r).id := by
    intro he
    have both := c x hm
    rw [he,c r (perm.mem_iff.mpr (by simp))] at both
    obtain rfl := Option.some.inj both
    exact (List.nodup_cons.mp (perm.nodup_iff.mp s.indexed.nodup)).1 hx
  rw [AList.lookup_erase_ne ne]
  exact c x hm

end

structure Shrunk (q q' : TokenQueue F) (gone : List Ref) (expired : Nat) : Prop where
  sound : Sound q'
  complete : Complete q → Complete q'
  slots : q.heap.slots.Perm (gone++q'.heap.slots)
  payload : ∀r,r < q.heap.allocated → (q'.heap.objects r).payload=(q.heap.objects r).payload
  allocated : q.heap.allocated ≤ q'.heap.allocated
  cfg : q'.cfg=q.cfg
  admitted : q'.admittedCount=q.admittedCount
  evicted : q'.expiredEvictedCount=q.expiredEvictedCount+Int64.ofNat expired

variable {late : List Ref}

section

variable {q} {a : TokenQueue F} {gone : List Ref} {k : Nat}

theorem Shrunk.refl (s : Sound q) : Shrunk q q [] 0 :=
  ⟨s,id,List.Perm.refl _,fun _ _ => rfl,le_refl _,rfl,rfl,(Int64.add_zero _).symm⟩

theorem Shrunk.trans {c : TokenQueue F} {n : Nat} (hab : Shrunk q a gone k)
    (hbc : Shrunk a c late n) : Shrunk q c (gone++late) (k+n) where
  sound := hbc.sound
  complete := fun h => hbc.complete (hab.complete h)
  slots := by
    rw [List.append_assoc]
    exact hab.slots.trans (hbc.slots.append_left _)
  payload := fun r hr => (hbc.payload r (lt_of_lt_of_le hr hab.allocated)).trans (hab.payload r hr)
  allocated := hab.allocated.trans hbc.allocated
  cfg := hbc.cfg.trans hab.cfg
  admitted := hbc.admitted.trans hab.admitted
  evicted := by rw [hbc.evicted,hab.evicted,Int64.ofNat_add,Int64.add_assoc]

theorem Shrunk.congr (h : Shrunk q a gone k) (b : TokenQueue F) (heap : b.heap=a.heap)
    (lookup : b.lookup=a.lookup) (books : Books b a.heap.entries) (cfg : b.cfg=a.cfg)
    (admitted : b.admittedCount=a.admittedCount) (extra : Nat)
    (evicted : b.expiredEvictedCount=a.expiredEvictedCount+Int64.ofNat extra) :
    Shrunk q b gone (k+extra) where
  sound := ⟨heap ▸ h.sound.indexed,heap ▸ h.sound.allocated,
    by rw [heap,lookup]; exact h.sound.found,heap ▸ books⟩
  complete c := Complete.of_contents (by rw [heap]) lookup (fun x _ => by rw [heap]) (h.complete c)
  slots := heap ▸ h.slots
  payload := heap ▸ h.payload
  allocated := heap ▸ h.allocated
  cfg := cfg.trans h.cfg
  admitted := admitted.trans h.admitted
  evicted := by rw [evicted,h.evicted,Int64.ofNat_add,Int64.add_assoc]

theorem releaseRequest_shrunk {r : Ref} {h : RequestHeap F} (s : Sound q) (hx : h.Indexed)
    (perm : q.heap.slots.Perm (r::h.slots)) (same : RequestHeap.SameObjects q.heap h) :
    Shrunk q (q.releaseRequest r (q.heap.objects r).id h) [r] 0 where
  sound := releaseRequest_sound s perm same hx
  complete := releaseRequest_complete s perm same
  slots := by rw [releaseRequest_heap]; exact perm
  payload := by
    intro x _
    rw [releaseRequest_heap]
    exact payload_of_core (same.core x)
  allocated := by rw [releaseRequest_heap,same.allocated]
  cfg := by rw [releaseRequest_frame]
  admitted := by rw [releaseRequest_frame]
  evicted := by
    rw [releaseRequest_frame]
    exact (Int64.add_zero _).symm

theorem popRequest_spec (s : Sound q) (hne : q.heap.slots≠[]) :
    ∃r rest,q.popRequest=some (r,rest) ∧ r∈q.heap.slots ∧ Shrunk q rest [r] 0 := by
  have pos : 0 < q.heap.slots.length := List.length_pos_iff.mpr hne
  obtain ⟨h,hp,hx,perm,same⟩ := RequestHeap.heapPop_spec s.indexed (List.getElem?_eq_getElem pos)
  have hid := id_of_payload (payload_of_core (same.core q.heap.slots[0]))
  refine ⟨_,_,?_,List.getElem_mem pos,releaseRequest_shrunk s hx perm same⟩
  rw [popRequest,hp]
  simp [hid]

theorem countExpired_shrunk (h : Shrunk q a gone k) :
    Shrunk q {a with expiredEvictedCount := a.expiredEvictedCount+1} gone (k+1) :=
  h.congr {a with expiredEvictedCount := a.expiredEvictedCount+1} rfl rfl
    (h.sound.books.congr rfl (fun _ => rfl)) rfl rfl 1 rfl

theorem updateTenant_shrunk (h : Shrunk q a gone k) (t : String) (f : TenantState → TenantState)
    (hf : ∀st,(f st).queuedTokens=st.queuedTokens ∧ (f st).queuedRequests=st.queuedRequests) :
    Shrunk q (a.updateTenant t f) gone k := by
  have frame := updateTenant_frame a t f
  have view u : ((a.updateTenant t f).tenant u).queuedTokens=(a.tenant u).queuedTokens ∧
      ((a.updateTenant t f).tenant u).queuedRequests=(a.tenant u).queuedRequests := by
    rw [updateTenant_tenant]
    split
    · next hu => rw [hu]; exact hf _
    · exact ⟨rfl,rfl⟩
  have books : Books (a.updateTenant t f) a.heap.entries :=
    ⟨by rw [frame]; exact h.sound.books.tokens,
      fun u => (view u).1.trans (h.sound.books.tenantTokens u),
      fun u => (view u).2.trans (h.sound.books.tenantRequests u)⟩
  apply h.congr _ (by rw [frame]) (by rw [frame]) books (by rw [frame]) (by rw [frame]) 0
  rw [frame]
  exact (Int64.add_zero _).symm

end

section

variable {q q' : TokenQueue F} {gone : List Ref} {k : Nat}

theorem Shrunk.of_gone (h : Shrunk q q' gone k) {r : Ref} (hr : r∈gone) : r∈q.heap.slots :=
  h.slots.mem_iff.mpr (List.mem_append_left _ hr)

theorem Shrunk.of_rest (h : Shrunk q q' gone k) {r : Ref} (hr : r∈q'.heap.slots) : r∈q.heap.slots :=
  h.slots.mem_iff.mpr (List.mem_append_right _ hr)

theorem Shrunk.perm (h : Shrunk q q' gone k) {gone' : List Ref} (hp : gone.Perm gone') :
    Shrunk q q' gone' k :=
  {h with slots := h.slots.trans (hp.append_right _)}

theorem Shrunk.length (h : Shrunk q q' gone k) :
    gone.length+q'.heap.slots.length=q.heap.slots.length := by
  rw [h.slots.length_eq,List.length_append]

theorem Shrunk.expired (h : Shrunk q q' gone k) (s : Sound q) {r : Ref} (hr : r∈q.heap.slots)
    (now : Time) : (q'.heap.objects r).expired now=(q.heap.objects r).expired now :=
  expired_of_payload (h.payload r (s.allocated r hr))

theorem Shrunk.expired_gone {q'' : TokenQueue F} {m : Nat}
    (h : Shrunk q q' gone k) (s : Sound q) (h' : Shrunk q' q'' late m) (now : Time) (r : Ref)
    (hr : r∈late) : (q.heap.objects r).expired now=(q'.heap.objects r).expired now :=
  (h.expired s (h.of_rest (h'.of_gone hr)) now).symm

theorem Shrunk.outside {dropped kept : List Ref} (h : Shrunk q q' (dropped++kept) k) (s : Sound q) :
    (kept++q'.heap.slots).Nodup ∧ ∀r∈kept,r < q'.heap.allocated := by
  constructor
  · have all := h.slots.nodup_iff.mp s.indexed.nodup
    rw [List.append_assoc] at all
    exact (List.nodup_append.mp all).2.1
  · intro r mem
    have queued := h.of_gone (List.mem_append_right _ mem)
    exact lt_of_lt_of_le (s.allocated r queued) h.allocated

end

section

variable {q} {rest : TokenQueue F} {r} (now : Time) (n : Nat)

theorem dequeueLoop_empty (h0 : q.heap.slots=[]) : dequeueLoop now n q=some (q,none) := by
  cases n with
  | zero => rfl
  | succ n => simp [dequeueLoop,h0]

theorem dequeueLoop_pass (h0 : q.heap.slots≠[]) (hp : q.popRequest=some (r,rest)) :
    dequeueLoop now (n+1) q=
      if (rest.heap.objects r).expired now then
        dequeueLoop now n {rest with expiredEvictedCount := rest.expiredEvictedCount+1}
      else some (rest.updateTenant (rest.heap.objects r).tenantID (fun st =>
        {st with activeTokens := st.activeTokens+(rest.heap.objects r).effectiveCost}),some r) := by
  simp [dequeueLoop,h0,hp]

variable (valid : List Ref) (evicted : Int64)

theorem drainLoop_empty (h0 : q.heap.slots=[]) :
    drainLoop now n q valid evicted=some (q,valid,evicted) := by
  cases n with
  | zero => rfl
  | succ n => simp [drainLoop,h0]

theorem drainLoop_pass (h0 : q.heap.slots≠[]) (hp : q.popRequest=some (r,rest)) :
    drainLoop now (n+1) q valid evicted=
      if (rest.heap.objects r).expired now then
        drainLoop now n {rest with expiredEvictedCount := rest.expiredEvictedCount+1}
          valid (evicted+1)
      else drainLoop now n rest (valid++[r]) evicted := by
  simp [drainLoop,h0,hp]

end

structure Sorts (now : Time) (q q' : TokenQueue F) (dropped kept : List Ref) : Prop where
  shrunk : Shrunk q q' (dropped++kept) dropped.length
  expired : ∀r∈dropped,(q.heap.objects r).expired now=true
  live : ∀r∈kept,(q.heap.objects r).expired now=false

section

variable {q} {rest q' : TokenQueue F} {r} {now : Time} {dropped kept : List Ref}

theorem Sorts.refl (s : Sound q) : Sorts now q q [] [] := ⟨Shrunk.refl s,by simp,by simp⟩

variable (s : Sound q) (first : Shrunk q rest [r] 0)

include s first

theorem Sorts.drop (old : (rest.heap.objects r).expired now=true)
    (tail : Sorts now {rest with expiredEvictedCount := rest.expiredEvictedCount+1} q'
      dropped kept) : Sorts now q q' (r::dropped) kept := by
  have counted := countExpired_shrunk first
  refine ⟨?_,List.forall_mem_cons.mpr ⟨?_,?_⟩,?_⟩
  · simpa [Nat.add_comm] using counted.trans tail.shrunk
  · rwa [← first.expired s (first.of_gone (List.mem_singleton_self r))]
  · intro x mem
    rw [counted.expired_gone s tail.shrunk now x (List.mem_append_left _ mem)]
    exact tail.expired x mem
  · intro x mem
    rw [counted.expired_gone s tail.shrunk now x (List.mem_append_right _ mem)]
    exact tail.live x mem

theorem Sorts.keep (fresh : ¬(rest.heap.objects r).expired now=true)
    (tail : Sorts now rest q' dropped kept) : Sorts now q q' dropped (r::kept) := by
  have order : (r::(dropped++kept)).Perm (dropped++r::kept) := List.perm_middle.symm
  refine ⟨?_,?_,List.forall_mem_cons.mpr ⟨?_,?_⟩⟩
  · simpa using (first.trans tail.shrunk).perm order
  · intro x mem
    rw [first.expired_gone s tail.shrunk now x (List.mem_append_left _ mem)]
    exact tail.expired x mem
  · rw [← first.expired s (first.of_gone (List.mem_singleton_self r))]
    simpa using fresh
  · intro x mem
    rw [first.expired_gone s tail.shrunk now x (List.mem_append_right _ mem)]
    exact tail.live x mem

end

theorem dequeueLoop_spec {now : Time} {n : Nat} (s : Sound q) (hn : q.heap.slots.length ≤ n) :
    ∃q' res dropped,dequeueLoop now n q=some (q',res) ∧ Sorts now q q' dropped res.toList ∧
      (res=none → q'.heap.slots=[]) := by
  induction n generalizing q with
  | zero =>
    have empty : q.heap.slots=[] := List.eq_nil_of_length_eq_zero (by omega)
    exact ⟨q,none,[],rfl,Sorts.refl s,fun _ => empty⟩
  | succ n ih =>
    by_cases h0 : q.heap.slots=[]
    · exact ⟨q,none,[],dequeueLoop_empty now _ h0,Sorts.refl s,fun _ => h0⟩
    · obtain ⟨r,rest,hp,-,shr⟩ := popRequest_spec s h0
      have shorter : 1+rest.heap.slots.length=q.heap.slots.length := shr.length
      have pass := dequeueLoop_pass now n h0 hp
      by_cases hx : (rest.heap.objects r).expired now=true
      · rw [if_pos hx] at pass
        obtain ⟨q',res,dropped,hd,tail,done⟩ :=
          ih _ (countExpired_shrunk shr).sound (by simp only; omega)
        exact ⟨q',res,r::dropped,pass.trans hd,tail.drop s shr hx,done⟩
      · rw [if_neg hx] at pass
        have active := updateTenant_shrunk (Shrunk.refl shr.sound) (rest.heap.objects r).tenantID
          (fun st => {st with activeTokens := st.activeTokens+(rest.heap.objects r).effectiveCost})
          (fun _ => ⟨rfl,rfl⟩)
        have tail : Sorts now rest _ [] [] := ⟨active,by simp,by simp⟩
        exact ⟨_,some r,[],pass,tail.keep s shr hx,by simp⟩

theorem dequeue_spec (now : Time) (s : Sound q) :
    ∃q' res dropped,q.dequeue now=some (q',res) ∧ Sorts now q q' dropped res.toList ∧
      (res=none → q'.heap.slots=[]) :=
  dequeueLoop_spec q s (le_refl _)

theorem drainLoop_spec (now : Time) {n : Nat} (valid : List Ref) (evicted : Int64) (s : Sound q)
    (hn : q.heap.slots.length ≤ n) :
    ∃q' dropped kept,drainLoop now n q valid evicted=
        some (q',valid++kept,evicted+Int64.ofNat dropped.length) ∧
      Sorts now q q' dropped kept ∧ q'.heap.slots=[] := by
  induction n generalizing q valid evicted with
  | zero =>
    have empty : q.heap.slots=[] := List.eq_nil_of_length_eq_zero (by omega)
    exact ⟨q,[],[],by simp [drainLoop],Sorts.refl s,empty⟩
  | succ n ih =>
    by_cases h0 : q.heap.slots=[]
    · exact ⟨q,[],[],by simp [drainLoop_empty now _ _ _ h0],Sorts.refl s,h0⟩
    · obtain ⟨r,rest,hp,-,shr⟩ := popRequest_spec s h0
      have shorter : 1+rest.heap.slots.length=q.heap.slots.length := shr.length
      have pass := drainLoop_pass now n valid evicted h0 hp
      by_cases hx : (rest.heap.objects r).expired now=true
      · rw [if_pos hx] at pass
        obtain ⟨q',dropped,kept,hd,tail,empty⟩ :=
          ih _ _ _ (countExpired_shrunk shr).sound (by simp only; omega)
        refine ⟨q',r::dropped,kept,?_,tail.drop s shr hx,empty⟩
        rw [pass,hd,List.length_cons,ofNat_succ,Int64.add_assoc,Int64.add_comm 1]
      · rw [if_neg hx] at pass
        obtain ⟨q',dropped,kept,hd,tail,empty⟩ := ih _ _ _ shr.sound (by omega)
        refine ⟨q',dropped,r::kept,?_,tail.keep s shr hx,empty⟩
        rw [pass,hd,List.append_assoc,List.singleton_append]

def IdsDistinct (h : RequestHeap F) (refs : List Ref) : Prop :=
  ∀x∈refs,∀y∈refs,(h.objects x).id=(h.objects y).id → x=y

theorem Complete.idsDistinct {q : TokenQueue F} (c : Complete q) :
    IdsDistinct q.heap q.heap.slots := by
  intro x hx y hy he
  have h := c x hx
  rw [he,c y hy] at h
  exact (Option.some.inj h).symm

structure Regrown (q q' : TokenQueue F) (refs : List Ref) : Prop where
  sound : Sound q'
  complete : Complete q → IdsDistinct q.heap (refs++q.heap.slots) → Complete q'
  slots : q'.heap.slots.Perm (refs++q.heap.slots)
  payload : ∀r,(q'.heap.objects r).payload=(q.heap.objects r).payload
  allocated : q'.heap.allocated=q.heap.allocated
  cfg : q'.cfg=q.cfg
  admitted : q'.admittedCount=q.admittedCount
  evicted : q'.expiredEvictedCount=q.expiredEvictedCount

theorem Regrown.refl {q : TokenQueue F} (s : Sound q) : Regrown q q [] :=
  ⟨s,fun c _ => c,List.Perm.refl _,fun _ => rfl,rfl,rfl,rfl,rfl⟩

variable {refs : List Ref}

theorem IdsDistinct.mono {h h' : RequestHeap F} {refs' : List Ref} (distinct : IdsDistinct h refs)
    (payload : ∀r∈refs',(h'.objects r).payload=(h.objects r).payload)
    (sub : ∀r∈refs',r∈refs) : IdsDistinct h' refs' := by
  intro x hx y hy he
  rw [id_of_payload (payload x hx),id_of_payload (payload y hy)] at he
  exact distinct x (sub x hx) y (sub y hy) he

section

variable {q} {r} (now : Time) (s : Sound q)

include s

theorem rescore_regrown (hr : r∉q.heap.slots) (ha : r < q.heap.allocated) :
    Regrown q (q.rescore now r) [r] := by
  let req := {q.heap.objects r with
    calculatedScore := q.calculatePriority (q.heap.objects r) now}
  have scored : Sound (q.setObject r req) := setObject_sound s hr
  obtain ⟨perm,same⟩ := insertRequest_slots scored hr
  have payload x : ((q.setObject r req).heap.objects x).payload=(q.heap.objects x).payload := by
    by_cases hx : x=r
    · subst x
      simp [setObject,QueuedRequest.payload,req]
    · simp [setObject,hx]
  refine ⟨insertRequest_sound scored hr ha,?_,perm,?_,same.allocated,?_,?_,?_⟩
  · intro c distinct
    refine insertRequest_complete scored hr (setObject_complete hr c) fun x hx he => ?_
    rw [id_of_payload (payload x),id_of_payload (payload r)] at he
    have eq := distinct x (List.mem_append_right _ hx) r (by simp) he
    exact hr (eq ▸ hx)
  · intro x
    exact (payload_of_core (same.core x)).trans (payload x)
  all_goals
    unfold rescore
    rw [insertRequest_frame]
    rfl

theorem rebuild_regrown (nodup : (refs++q.heap.slots).Nodup) (ha : ∀r∈refs,r < q.heap.allocated) :
    Regrown q (refs.foldl (fun q r => q.rescore now r) q) refs := by
  induction refs generalizing q with
  | nil => exact Regrown.refl s
  | cons r refs ih =>
    have hr : r∉refs++q.heap.slots := (List.nodup_cons.mp nodup).1
    have first := rescore_regrown now s (fun h => hr (List.mem_append_right _ h)) (ha r (by simp))
    have order : (refs++(q.rescore now r).heap.slots).Perm (r::(refs++q.heap.slots)) :=
      (first.slots.append_left _).trans List.perm_middle
    have rest := ih first.sound (order.nodup_iff.mpr nodup) fun x hx => by
      rw [first.allocated]
      exact ha x (by simp [hx])
    refine ⟨rest.sound,fun c distinct => ?_,rest.slots.trans order,
      fun x => (rest.payload x).trans (first.payload x),rest.allocated.trans first.allocated,
      rest.cfg.trans first.cfg,rest.admitted.trans first.admitted,
      rest.evicted.trans first.evicted⟩
    refine rest.complete (first.complete c (distinct.mono (fun _ _ => rfl) ?_))
      (distinct.mono (fun x _ => first.payload x) fun x => order.mem_iff.mp)
    intro x hx
    simp only [List.cons_append,List.nil_append,List.mem_cons,List.mem_append] at hx ⊢
    exact hx.imp_right .inr

theorem evictExpired_spec : ∃q' dropped,q.evictExpired now=some (q',Int64.ofNat dropped.length) ∧
      Shrunk q q' dropped dropped.length := by
  obtain ⟨d,dropped,kept,hd,sorted,empty⟩ := drainLoop_spec q now [] 0 s (le_refl _)
  have drained := sorted.shrunk
  obtain ⟨nodup,inside⟩ := drained.outside s
  have regrown := rebuild_regrown now drained.sound nodup inside
  have slots := regrown.slots
  rw [empty,List.append_nil] at slots
  have all := drained.slots
  rw [empty,List.append_nil] at all
  refine ⟨_,dropped,by simp [evictExpired,hd],regrown.sound,fun c => ?_,
    all.trans (slots.symm.append_left _),
    fun r hr => (regrown.payload r).trans (drained.payload r hr),
    regrown.allocated ▸ drained.allocated,regrown.cfg.trans drained.cfg,
    regrown.admitted.trans drained.admitted,regrown.evicted.trans drained.evicted⟩
  -- what was kept had distinct IDs in the queue before the drain
  have mem r (hr : r∈kept++d.heap.slots) : r∈q.heap.slots := by
    rw [empty,List.append_nil] at hr
    exact drained.of_gone (List.mem_append_right _ hr)
  exact regrown.complete (by simp [Complete,empty])
    (c.idsDistinct.mono (fun r hr => drained.payload r (s.allocated r (mem r hr))) mem)

end

section

variable {q} (s : Sound q)

include s

theorem remove_spec {id : String} : (q.lookup.lookup id=none → q.remove id=some (q,false)) ∧
    (∀r,q.lookup.lookup id=some r → ∃q',q.remove id=some (q',true) ∧ Shrunk q q' [r] 0) := by
  refine ⟨fun h => by simp [remove,h],fun r h => ?_⟩
  obtain ⟨hm,hid⟩ := s.found id r h
  obtain ⟨k,hk,hkr⟩ := List.getElem_of_mem hm
  have slot : q.heap.slots[k]?=some r := by rw [List.getElem?_eq_getElem hk,hkr]
  have index := s.indexed.index k r slot
  obtain ⟨_,hp,hx,perm,same⟩ := RequestHeap.heapRemove_spec s.indexed slot
  refine ⟨_,?_,releaseRequest_shrunk s hx perm same⟩
  simp [remove,h,index,hp,hid]

theorem finish_spec {t : String} {allocatedCost actualTokens : Int64} :
    Shrunk q (q.finish t allocatedCost actualTokens) [] 0 :=
  updateTenant_shrunk (Shrunk.refl s) t _ (fun _ => ⟨rfl,rfl⟩)

end

def admission (q : TokenQueue F) (req : QueuedRequest F) (now : Time) :
    QueueDisposition×String×Duration :=
  q.evaluateAdmission req (q.getTenantConfig req.tenantID) (q.tenant req.tenantID)
    req.effectiveCost now

structure Admitted (q q' : TokenQueue F) (req : QueuedRequest F) : Prop where
  sound : Sound q'
  complete : Complete q → (∀r∈q.heap.slots,(q.heap.objects r).id≠req.id) → Complete q'
  slots : q'.heap.slots.Perm (q.heap.allocated::q.heap.slots)
  payload : ∀r,r < q.heap.allocated → (q'.heap.objects r).payload=(q.heap.objects r).payload
  entry : (q'.heap.objects q.heap.allocated).entry=req.entry
  id : (q'.heap.objects q.heap.allocated).id=req.id
  index : q'.lookup.lookup req.id=some q.heap.allocated
  cfg : q'.cfg=q.cfg
  admitted : q'.admittedCount=q.admittedCount+1
  evicted : q'.expiredEvictedCount=q.expiredEvictedCount

theorem fresh_slot {q : TokenQueue F} (s : Sound q) : q.heap.allocated∉q.heap.slots :=
  fun h => lt_irrefl _ (s.allocated _ h)

def received (q : TokenQueue F) (req : QueuedRequest F) : TokenQueue F :=
  ((q.allocate req).getOrCreateTenantState req.tenantID).1

section

variable (req : QueuedRequest F)

theorem received_frame : q.received req={q.allocate req with tenants := (q.received req).tenants} :=
  getOrCreateTenantState_frame _ _

theorem received_tenant (t : String) : (q.received req).tenant t=q.tenant t :=
  getOrCreateTenantState_tenant _ _ t

theorem received_slots : (q.received req).heap.slots=q.heap.slots := by
  rw [received_frame]
  rfl

theorem received_allocated : (q.received req).heap.allocated=q.heap.allocated+1 := by
  rw [received_frame]
  rfl

variable {q}

theorem received_objects {r : Ref} (hr : r < q.heap.allocated) :
    (q.received req).heap.objects r=q.heap.objects r := by
  have ne : r≠q.heap.allocated := Nat.ne_of_lt hr
  rw [received_frame]
  simp [allocate,ne]

theorem received_shrunk (s : Sound q) : Shrunk q (q.received req) [] 0 := by
  have slots := received_slots q req
  have keep r hr := received_objects req (s.allocated r hr)
  have lookup : (q.received req).lookup=q.lookup := by rw [received_frame]; rfl
  have allocated : q.heap.allocated ≤ (q.received req).heap.allocated := by
    rw [received_allocated]
    exact Nat.le_succ _
  refine ⟨Sound.of_contents slots lookup keep s allocated ?_ (received_tenant q req),
    Complete.of_contents slots lookup keep,?_,fun r hr => ?_,allocated,?_,?_,?_⟩
  · rw [received_frame]; rfl
  · rw [slots]
    exact List.Perm.refl _
  · rw [received_objects req hr]
  · rw [received_frame]; rfl
  · rw [received_frame]; rfl
  · rw [received_frame]
    exact (Int64.add_zero _).symm

end

variable {q} (req : QueuedRequest F) (now : Time)

theorem received_admission :
    (q.received req).evaluateAdmission req ((q.allocate req).getTenantConfig req.tenantID)
      ((q.allocate req).getOrCreateTenantState req.tenantID).2 req.effectiveCost now=
      q.admission req now := by
  rw [getOrCreateTenantState_snd,received_frame]
  rfl

theorem admitRequest_spec (s : Sound q) :
    Admitted q ((q.received req).admitRequest q.heap.allocated req now) req := by
  have base := received_shrunk req s
  have hslots := received_slots q req
  have fresh : q.heap.allocated∉(q.received req).heap.slots := hslots.symm ▸ fresh_slot s
  let p := (q.received req).setObject q.heap.allocated ((q.received req).stamp req now)
  have sound : Sound p := setObject_sound base.sound fresh
  have inside : q.heap.allocated < p.heap.allocated := by
    change q.heap.allocated<(q.received req).heap.allocated
    rw [received_allocated]
    exact Nat.lt_succ_self _
  obtain ⟨perm,same⟩ := insertRequest_slots sound fresh
  have placed := insertRequest_sound sound fresh inside
  have frame := insertRequest_frame p q.heap.allocated
  have old r (hr : r < q.heap.allocated) : p.heap.objects r=q.heap.objects r := by
    change Function.update (q.received req).heap.objects q.heap.allocated _ r=_
    rw [Function.update_of_ne (Nat.ne_of_lt hr)]
    exact received_objects req hr
  have new : p.heap.objects q.heap.allocated=(q.received req).stamp req now := by
    simp [p,setObject]
  have core := payload_of_core (same.core q.heap.allocated)
  rw [new] at core
  have entry := entry_of_payload core
  have id := id_of_payload core
  refine ⟨⟨placed.indexed,placed.allocated,placed.found,placed.books.congr rfl (fun _ => rfl)⟩,
    fun c ids => ?_,hslots ▸ perm,fun r hr => ?_,entry,id,?_,?_,?_,?_⟩
  · have written : Complete p := setObject_complete fresh (base.complete c)
    refine insertRequest_complete sound fresh written fun r hr => ?_
    have hm : r∈q.heap.slots := hslots ▸ hr
    rw [old r (s.allocated r hm),new]
    exact ids r hm
  · rw [← old r hr]
    exact payload_of_core (same.core r)
  · change (p.insertRequest q.heap.allocated).lookup.lookup req.id=_
    rw [frame,new]
    exact AList.lookup_insert _
  · change (p.insertRequest q.heap.allocated).cfg=q.cfg
    rw [frame]
    exact base.cfg
  · change (p.insertRequest q.heap.allocated).admittedCount+1=q.admittedCount+1
    rw [frame]
    exact congrArg (fun n => n+1) base.admitted
  · change (p.insertRequest q.heap.allocated).expiredEvictedCount=q.expiredEvictedCount
    rw [frame]
    exact base.evicted.trans (Int64.add_zero _)

theorem enqueue_cases : (q.admission req now).1=.dispositionAdmit ∧
      ((q.allocate req).enqueue q.heap.allocated now).1=
        (q.received req).admitRequest q.heap.allocated req now ∨
    (q.admission req now).1≠.dispositionAdmit ∧ ∃backpressured rejected,
      ((q.allocate req).enqueue q.heap.allocated now).1={q.received req with
          backpressuredCount := backpressured,rejectedCount := rejected} := by
  have object : (q.allocate req).heap.objects q.heap.allocated=req := by simp [allocate]
  have found : ((q.allocate req).getOrCreateTenantState req.tenantID).1=q.received req := rfl
  simp only [enqueue,object,found,received_admission]
  cases (q.admission req now).1 with
  | dispositionAdmit => exact .inl ⟨rfl,rfl⟩
  | dispositionBackpressure => exact .inr ⟨by simp,_,_,rfl⟩
  | dispositionReject => exact .inr ⟨by simp,_,_,rfl⟩

theorem enqueue_spec (s : Sound q) : ((q.admission req now).1=.dispositionAdmit ∧
      Admitted q ((q.allocate req).enqueue q.heap.allocated now).1 req) ∨
    ((q.admission req now).1≠.dispositionAdmit ∧
      Shrunk q ((q.allocate req).enqueue q.heap.allocated now).1 [] 0) := by
  rcases enqueue_cases req now with ⟨admits,after⟩ | ⟨refuses,backpressured,rejected,after⟩
  · rw [after]
    exact .inl ⟨admits,admitRequest_spec req now s⟩
  · rw [after]
    have base := received_shrunk req s
    refine .inr ⟨refuses,?_⟩
    exact base.congr
      {q.received req with backpressuredCount := backpressured,rejectedCount := rejected}
      rfl rfl (base.sound.books.congr rfl (fun _ => rfl)) rfl rfl 0 (Int64.add_zero _).symm

theorem check_admits_iff {failed : Prop} [Decidable failed]
    {refusal rest : QueueDisposition×String×Duration} (refuses : refusal.1≠.dispositionAdmit) :
    (if failed then refusal else rest).1=.dispositionAdmit ↔
      ¬failed ∧ rest.1=.dispositionAdmit := by
  by_cases h : failed
  · rw [if_pos h]
    exact iff_of_false refuses (fun both => both.1 h)
  · rw [if_neg h]
    exact ⟨fun admits => ⟨h,admits⟩,And.right⟩

theorem saturation_admits_iff {saturated priority : Prop} [Decidable saturated]
    [Decidable priority] {spared rest calm : QueueDisposition×String×Duration}
    (hs : spared.1=.dispositionAdmit) (hc : calm.1=.dispositionAdmit) :
    (if saturated then if priority then spared else rest else calm).1=.dispositionAdmit ↔
      (saturated → priority ∨ rest.1=.dispositionAdmit) := by
  by_cases h : saturated
  · rw [if_pos h]
    by_cases hp : priority
    · rw [if_pos hp]
      exact iff_of_true hs (fun _ => Or.inl hp)
    · rw [if_neg hp]
      exact ⟨fun admits _ => Or.inr admits,fun either => (either h).resolve_left hp⟩
  · rw [if_neg h]
    exact iff_of_true hc (fun saturation => absurd saturation h)

theorem admission_admit_iff {q : TokenQueue F} {req : QueuedRequest F} {now : Time} :
    (q.admission req now).1=.dispositionAdmit ↔
      req.expired now=false ∧ q.heap.slots.length+1 ≤ q.cfg.maxQueueDepth.toInt ∧
      q.totalTokens+req.effectiveCost ≤ q.cfg.maxQueueTokens ∧
      (0<(q.getTenantConfig req.tenantID).maxQueuedRequests →
        (q.tenant req.tenantID).queuedRequests+1≤
          (q.getTenantConfig req.tenantID).maxQueuedRequests) ∧
      (0<(q.getTenantConfig req.tenantID).maxQueuedTokens →
        (q.tenant req.tenantID).queuedTokens+req.effectiveCost≤
          (q.getTenantConfig req.tenantID).maxQueuedTokens) ∧
      (q.isSaturated=true → q.cfg.highPriorityFloor ≤ req.priority ∨
        (¬(0<(q.getTenantConfig req.tenantID).tokenBudget ∧
          (q.getTenantConfig req.tenantID).tokenBudget≤
            (q.tenant req.tenantID).queuedTokens+(q.tenant req.tenantID).activeTokens) ∧
          Float64.le 0.95 q.saturationRatio=false)) := by
  unfold admission evaluateAdmission
  rw [check_admits_iff (by decide),check_admits_iff (by decide),check_admits_iff (by decide),
    check_admits_iff (by decide),check_admits_iff (by decide),saturation_admits_iff rfl rfl,
    check_admits_iff (by simp),check_admits_iff (by decide)]
  simp

end TokenQueue

namespace QueueAnswer

def returned : QueueAnswer F → Bool
  | .dequeued (some _) => true
  | _ => false

def cancelled : QueueAnswer F → Bool
  | .removed true => true
  | _ => false

def departures (a : QueueAnswer F) : Nat := a.returned.toNat+a.cancelled.toNat

end QueueAnswer

namespace TokenQueue

def Admits (q : TokenQueue F) (op : QueueOp F) : Prop :=
  ∃req now,op=.enqueue req now ∧ (q.admission req now).1=.dispositionAdmit

theorem step_admits {q : TokenQueue F} {req : QueuedRequest F} {now : Time} (s : Sound q)
    (h : (q.admission req now).1=.dispositionAdmit) :
    Admitted q (q.step (.enqueue req now)).1 req := by
  rcases enqueue_spec req now s with ha|hs
  · exact ha.2
  · exact absurd h hs.1

section

variable {q : TokenQueue F} (op : QueueOp F) (s : Sound q)

include s

attribute [local simp] QueueAnswer.departures QueueAnswer.returned QueueAnswer.cancelled

theorem step_shrinks (h : ¬q.Admits op) :
    ∃gone k,Shrunk q (q.step op).1 gone k ∧ gone.length=k+(q.step op).2.departures := by
  cases op with
  | enqueue req now =>
    rcases enqueue_spec req now s with ha|hs
    · exact absurd ⟨req,now,rfl,ha.1⟩ h
    · exact ⟨[],0,hs.2,rfl⟩
  | dequeue now =>
    obtain ⟨_,res,dropped,hd,sorted,_⟩ := dequeue_spec q now s
    refine ⟨dropped++res.toList,dropped.length,by simpa [step,hd] using sorted.shrunk,?_⟩
    cases res <;> simp [step,hd]
  | remove id =>
    cases hl : q.lookup.lookup id with
    | none =>
      have hr := (remove_spec s).1 hl
      exact ⟨[],0,by simpa [step,hr] using Shrunk.refl s,by simp [step,hr]⟩
    | some r =>
      obtain ⟨_,hr,shr⟩ := (remove_spec s).2 r hl
      exact ⟨[r],0,by simpa [step,hr] using shr,by simp [step,hr]⟩
  | finish t allocatedCost actualTokens =>
    exact ⟨[],0,finish_spec s,rfl⟩
  | evictExpired now =>
    obtain ⟨_,dropped,hd,shr⟩ := evictExpired_spec now s
    exact ⟨dropped,dropped.length,by simpa [step,hd] using shr,by simp [step,hd]⟩

theorem step_cases : (∃req now,op=.enqueue req now ∧ (q.admission req now).1=.dispositionAdmit ∧
      Admitted q (q.step op).1 req) ∨
    ∃gone k,Shrunk q (q.step op).1 gone k ∧ gone.length=k+(q.step op).2.departures := by
  by_cases h : q.Admits op
  · obtain ⟨req,now,rfl,ha⟩ := h
    exact .inl ⟨req,now,rfl,ha,step_admits s ha⟩
  · exact .inr (step_shrinks op s h)

theorem step_no_panic : (q.step op).2≠.panicked := by
  cases op with
  | enqueue req now => simp [step]
  | dequeue now =>
    obtain ⟨_,_,_,hd,_⟩ := dequeue_spec q now s
    simp [step,hd]
  | remove id =>
    cases hl : q.lookup.lookup id with
    | none => simp [step,(remove_spec s).1 hl]
    | some r =>
      obtain ⟨_,hr,_⟩ := (remove_spec s).2 r hl
      simp [step,hr]
  | finish t allocatedCost actualTokens => simp [step]
  | evictExpired now =>
    obtain ⟨_,_,hd,_⟩ := evictExpired_spec now s
    simp [step,hd]

theorem step_sound : Sound (q.step op).1 := by
  rcases step_cases op s with ⟨_,_,_,_,grown⟩ | ⟨_,_,shr,_⟩
  · exact grown.sound
  · exact shr.sound

theorem step_cfg : (q.step op).1.cfg=q.cfg := by
  rcases step_cases op s with ⟨_,_,_,_,grown⟩ | ⟨_,_,shr,_⟩
  · exact grown.cfg
  · exact shr.cfg

end

def DepthBounded (q : TokenQueue F) : Prop := q.heap.slots.length ≤ q.cfg.maxQueueDepth.toInt

theorem newTokenQueue_depth : DepthBounded (newTokenQueue cfg) := by
  unfold DepthBounded newTokenQueue
  simp only [List.length_nil]
  split_ifs with h
  · decide
  · rw [Int64.not_le,Int64.lt_iff_toInt_lt] at h
    exact le_of_lt h

theorem step_depth {q : TokenQueue F} (op : QueueOp F) (s : Sound q) (d : DepthBounded q) :
    DepthBounded (q.step op).1 := by
  unfold DepthBounded at d ⊢
  rw [step_cfg op s]
  rcases step_cases op s with ⟨req,now,_,ha,grown⟩ | ⟨_,k,shr,_⟩
  · have room := ((admission_admit_iff).mp ha).2.1
    rw [grown.slots.length_eq]
    exact_mod_cast room
  · have hl := shr.length
    omega

end TokenQueue

end KServeLLM.Scheduler
