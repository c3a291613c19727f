import KServeLLM.Scheduler.QueueInvariant

namespace KServeLLM.Scheduler

variable {F : Type} [Float64 F]

abbrev QueueHistory (F : Type) := List (Step (TokenQueue F) (QueueOp F) (QueueAnswer F))

def returnedCount (tr : QueueHistory F) : Nat := tr.countP (fun st => st.answer.returned)

def cancelledCount (tr : QueueHistory F) : Nat := tr.countP (fun st => st.answer.cancelled)

def QueueAnswer.delivered : QueueAnswer F → List Ref
  | .dequeued req => req.toList
  | _ => []

def delivered (tr : QueueHistory F) : List Ref := tr.flatMap fun st => st.answer.delivered

namespace TokenQueue

def Balanced (tr : QueueHistory F) (q : TokenQueue F) : Prop :=
  q.admittedCount=Int64.ofNat q.heap.slots.length+Int64.ofNat (returnedCount tr)+
    Int64.ofNat (cancelledCount tr)+q.expiredEvictedCount

theorem count_snoc (p : QueueAnswer F → Bool) (tr : QueueHistory F) (q : TokenQueue F)
    (op : QueueOp F) :
    (tr++[stepOf step q op]).countP (fun st => p st.answer)=
      tr.countP (fun st => p st.answer)+(p (q.step op).2).toNat := by
  cases h : p _ <;> simp [stepOf,h]

theorem step_balanced {tr : QueueHistory F} {q : TokenQueue F} {op : QueueOp F} (s : Sound q)
    (b : Balanced tr q) : Balanced (tr++[stepOf step q op]) (q.step op).1 := by
  unfold Balanced returnedCount cancelledCount at b ⊢
  rw [count_snoc,count_snoc]
  rcases step_cases op s with ⟨req,now,rfl,_,grown⟩ | ⟨_,k,shr,hg⟩
  · have quiet : (q.step (.enqueue req now)).2.returned=false ∧
        (q.step (.enqueue req now)).2.cancelled=false := ⟨rfl,rfl⟩
    rw [grown.admitted,grown.evicted,grown.slots.length_eq,List.length_cons,ofNat_succ]
    grind
  · have hl := shr.slots.length_eq
    rw [List.length_append,hg] at hl
    unfold QueueAnswer.departures at hl
    rw [shr.admitted,shr.evicted,b,hl]
    simp only [Int64.ofNat_add]
    grind

structure Reached (tr : QueueHistory F) (q : TokenQueue F) : Prop where
  sound : Sound q
  depth : DepthBounded q
  balanced : Balanced tr q
  calm : ∀st∈tr,st.answer≠.panicked

theorem reached (cfg : TokenQueueConfig F) (ops : List (QueueOp F)) :
    Reached (trace step (newTokenQueue cfg) ops) (run step (newTokenQueue cfg) ops) := by
  apply run_induction
  · exact ⟨newTokenQueue_sound,newTokenQueue_depth,rfl,by simp⟩
  · intro tr q op h
    exact ⟨step_sound op h.sound,step_depth op h.sound h.depth,
      step_balanced h.sound h.balanced,forall_mem_snoc h.calm (step_no_panic op h.sound)⟩

theorem charges_entries (h : RequestHeap F) (t : String) :
    charges h.entries t=(h.requests.filter (fun r => r.tenantID=t)).map
      QueuedRequest.effectiveCost := by
  unfold charges RequestHeap.entries
  rw [List.filter_map,List.map_map]
  rfl

theorem tenantRequests_toInt {q : TokenQueue F} (s : Sound q) (d : DepthBounded q) {t : String} :
    (q.tenant t).queuedRequests.toInt=(q.heap.requests.filter (fun r => r.tenantID=t)).length := by
  have count := s.books.tenantRequests t
  rw [charges_entries,List.length_map] at count
  have few : (q.heap.requests.filter (fun r => r.tenantID=t)).length ≤ q.heap.slots.length := by
    have h := List.length_filter_le (fun r => decide (r.tenantID=t)) q.heap.requests
    simpa [RequestHeap.requests] using h
  have top := q.cfg.maxQueueDepth.toInt_lt
  unfold DepthBounded at d
  rw [count]
  exact Int64.toInt_ofNat_of_lt (by omega)

theorem step_delivers {q : TokenQueue F} (op : QueueOp F) (s : Sound q) :
    (q.step op).2.delivered=[] ∧ (∃req,Admitted q (q.step op).1 req) ∨
      ∃ gone k,Shrunk q (q.step op).1 (gone++(q.step op).2.delivered) k := by
  by_cases takes : ∃now,op=.dequeue now
  · obtain ⟨now,rfl⟩ := takes
    obtain ⟨_,_,_,hd,sorted,-⟩ := dequeue_spec q now s
    simp only [step,hd]
    exact .inr ⟨_,_,sorted.shrunk⟩
  · have quiet : (q.step op).2.delivered=[] := by
      cases op with
      | dequeue now => exact absurd ⟨now,rfl⟩ takes
      | remove | evictExpired =>
        simp only [step]
        split <;> rfl
      | _ => rfl
    rw [quiet]
    rcases step_cases op s with ⟨req,_,_,_,grown⟩ | ⟨gone,k,shrunk,_⟩
    · exact .inl ⟨rfl,req,grown⟩
    · exact .inr ⟨gone,k,by rwa [List.append_nil]⟩

end TokenQueue

open TokenQueue

theorem tokenQueue_accounts (cfg : TokenQueueConfig F) (ops : List (QueueOp F)) :
    let tr := trace step (newTokenQueue cfg) ops
    let q := run step (newTokenQueue cfg) ops
    (∀st∈tr,st.answer≠.panicked) ∧
    q.totalTokens=(q.heap.requests.map QueuedRequest.effectiveCost).sum ∧
    (∀t,(q.tenant t).queuedRequests.toInt=(q.heap.requests.filter (fun r => r.tenantID=t)).length ∧
      (q.tenant t).queuedTokens=((q.heap.requests.filter (fun r => r.tenantID=t)).map
        QueuedRequest.effectiveCost).sum) ∧
    q.admittedCount=Int64.ofNat q.heap.slots.length+Int64.ofNat (returnedCount tr)+
      Int64.ofNat (cancelledCount tr)+q.expiredEvictedCount := by
  have h := reached cfg ops
  refine ⟨h.calm,?_,fun t => ⟨tenantRequests_toInt h.sound h.depth,?_⟩,h.balanced⟩
  · rw [h.sound.books.tokens,RequestHeap.entries,List.map_map]
    rfl
  · rw [h.sound.books.tenantTokens,charges_entries]

theorem tokenQueue_delivers_once (cfg : TokenQueueConfig F) (ops : List (QueueOp F)) :
    (delivered (trace step (newTokenQueue cfg) ops)++
      (run step (newTokenQueue cfg) ops).heap.slots).Nodup := by
  refine (run_induction step (fun tr q => Sound q ∧ (∀r∈delivered tr,r<q.heap.allocated) ∧
    (delivered tr++q.heap.slots).Nodup) _ ⟨newTokenQueue_sound,by simp [delivered],
      by simp [delivered,newTokenQueue]⟩ ?_ ops).2.2
  rintro tr q op ⟨s,below,once⟩
  have told : delivered (tr++[stepOf step q op])=delivered tr++(q.step op).2.delivered := by
    simp [delivered,stepOf]
  rw [told]
  refine ⟨step_sound op s,?_⟩
  rcases step_delivers op s with ⟨quiet,_,grown⟩ | ⟨gone,_,shrunk⟩
  · have queued := grown.slots.mem_iff.mpr List.mem_cons_self
    rw [quiet,List.append_nil,(grown.slots.append_left _).nodup_iff,List.perm_middle.nodup_iff]
    refine ⟨fun r mem => (below r mem).trans (grown.sound.allocated _ queued),
      List.nodup_cons.mpr ⟨fun mem => ?_,once⟩⟩
    exact (List.mem_append.mp mem).elim (fun old => (below _ old).false) (fresh_slot s)
  · refine ⟨List.forall_mem_append.mpr ⟨?_,(shrunk.outside s).2⟩,?_⟩
    · exact fun r mem => (below r mem).trans_le shrunk.allocated
    · rw [(shrunk.slots.append_left _).nodup_iff] at once
      refine once.sublist ?_
      simp

end KServeLLM.Scheduler
