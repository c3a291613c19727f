import KServeLLM.Framework.ExactFloat
import KServeLLM.Framework.HeapOrder
import KServeLLM.Scheduler.QueueCancellation

namespace KServeLLM.Scheduler

variable {F : Type} [Float64 F]

structure ScoreOrder (F : Type) [Float64 F] : Prop where
  asymm : ∀a b : F,Float64.lt a b=true → Float64.lt b a=false
  cotrans : ∀a b c : F,Float64.lt a c=true → Float64.lt a b=true ∨ Float64.lt b c=true

variable {r : Ref} {n : Nat}

namespace RequestHeap

theorem score_of_core {a b : QueuedRequest F} (h : a.core=b.core) :
    a.calculatedScore=b.calculatedScore :=
  show a.core.calculatedScore=b.core.calculatedScore by rw [h]

def scoreAt (h : RequestHeap F) (i : Nat) : Option F :=
  h.slots[i]?.map fun r => (h.objects r).calculatedScore

def before : Option F → Option F → Bool
  | some a,some b => Float64.lt b a
  | _,_ => false

theorem less_eq (h : RequestHeap F) (i j : Nat) :
    h.less i j=before (h.scoreAt i) (h.scoreAt j) := by
  unfold less scoreAt before
  cases h.slots[i]? <;> cases h.slots[j]? <;> rfl

variable {h h' : RequestHeap F}

theorem scoreAt_congr {i j : Nat} (slots : h'.slots[i]?=h.slots[j]?)
    (scores : ∀r∈h.slots,(h'.objects r).calculatedScore=(h.objects r).calculatedScore) :
    h'.scoreAt i=h.scoreAt j := by
  unfold scoreAt
  rw [slots]
  cases found : h.slots[j]? with
  | none => rfl
  | some r => exact congrArg _ (scores r (List.mem_of_getElem? found))

theorem scoreAt_swap {h : RequestHeap F} {i j : Nat} (hi : i < h.slots.length)
    (hj : j < h.slots.length) (a : Nat) :
    (h.swap i j).scoreAt a=h.scoreAt (Equiv.swap i j a) := by
  refine scoreAt_congr ?_ fun r _ => score_of_core ((swap_same).core r)
  by_cases left : a=i
  · rw [left,swap_slots hi hj]
    by_cases same : j=i
    · subst same
      simp
    · simp [hi,same]
  · by_cases right : a=j
    · rw [right,swap_slots hi hj]
      simp [hj]
    · rw [Equiv.swap_apply_of_ne_of_ne left right]
      exact swap_other (Ne.symm left) (Ne.symm right)

theorem scoreAt_push {h : RequestHeap F} {r : Ref} {a : Nat} (ha : a < h.slots.length) :
    (h.push r).scoreAt a=h.scoreAt a := by
  refine scoreAt_congr ?_ fun x _ => score_of_core ((push_same).core x)
  exact List.getElem?_append_left ha

theorem scoreAt_pop (popped : h.pop=some (r,h')) :
    h.slots.length=h'.slots.length+1 ∧ ∀a,a < h'.slots.length → h'.scoreAt a=h.scoreAt a := by
  unfold pop at popped
  cases last : h.slots.getLast? with
  | none => simp [last] at popped
  | some x =>
    simp only [last,Option.some.injEq,Prod.mk.injEq] at popped
    obtain ⟨rfl,rfl⟩ := popped
    have split : h.slots.dropLast++[x]=h.slots := List.dropLast_append_getLast? x last
    let cut : RequestHeap F := {h with slots := h.slots.dropLast}
    have start : SameObjects h cut := ⟨fun _ => rfl,rfl⟩
    have same := start.trans (setIndex_same x (-1))
    refine ⟨?_,fun a ha => scoreAt_congr ?_ fun r _ => score_of_core (same.core r)⟩
    · conv_lhs => rw [← split]
      simp [setIndex]
    · conv_rhs => rw [← split]
      exact (List.getElem?_append_left ha).symm

theorem heap_lawful (order : ScoreOrder F) : (heap (F := F)).Lawful where
  swap_len hi hj := (swap_perm hi hj).length_eq
  swap_less hi hj a b := by
    simp only [heap] at hi hj ⊢
    rw [less_eq,less_eq,scoreAt_swap hi hj,scoreAt_swap hi hj]
  push_len h r := by simp [heap,push,setIndex]
  push_less h r a b ha hb := by
    simp only [heap] at ha hb ⊢
    rw [less_eq,less_eq,scoreAt_push ha,scoreAt_push hb]
  pop_len popped := (scoreAt_pop popped).1
  pop_less popped a b ha hb := by
    have same := (scoreAt_pop popped).2
    simp only [heap] at ha hb ⊢
    rw [less_eq,less_eq,same a ha,same b hb]
  asymm {h a b} less := by
    simp only [heap,less_eq] at less ⊢
    cases left : h.scoreAt a with
    | none => simp [left,before] at less
    | some x =>
      cases right : h.scoreAt b with
      | none => rfl
      | some y =>
        rw [left,right] at less
        exact order.asymm y x less
  cotrans {h a b c} ha hb hc less := by
    have some_at {i : Nat} (hi : i < h.slots.length) : ∃x,h.scoreAt i=some x := by
      simp [scoreAt,hi]
    obtain ⟨x,hx⟩ := some_at ha
    obtain ⟨y,hy⟩ := some_at hb
    obtain ⟨z,hz⟩ := some_at hc
    simp only [heap,less_eq,hx,hy,hz] at less ⊢
    exact (order.cotrans z y x less).symm

theorem ordered_congr (ordered : heap.Ordered h n) (slots : h'.slots=h.slots)
    (scores : ∀r∈h.slots,(h'.objects r).calculatedScore=(h.objects r).calculatedScore) :
    heap.Ordered h' n := by
  have same i : h'.scoreAt i=h.scoreAt i := scoreAt_congr (by rw [slots]) scores
  intro c low high
  have edge := ordered c low high
  simp only [heap,less_eq,same] at edge ⊢
  exact edge

end RequestHeap

namespace TokenQueue

def score (q : TokenQueue F) (r : Ref) : F := (q.heap.objects r).calculatedScore

def Ranked (q : TokenQueue F) : Prop := RequestHeap.heap.Ordered q.heap q.heap.slots.length

structure TakesBest (q q' : TokenQueue F) (now : Time) (res : Option Ref) (dropped : List Ref) :
    Prop where
  slots : q.heap.slots.Perm (dropped++res.toList++q'.heap.slots)
  expired : ∀r∈dropped,(q.heap.objects r).expired now=true
  counted : q'.expiredEvictedCount=q.expiredEvictedCount+Int64.ofNat dropped.length
  live : ∀r∈res,(q.heap.objects r).expired now=false
  best : ∀r∈res,∀x∈q.heap.slots,(q.heap.objects x).expired now=false →
    Float64.lt (q.score r) (q.score x)=false
  none_live : res=none → ∀x∈q.heap.slots,(q.heap.objects x).expired now=true
  scores : ∀x,q'.score x=q.score x

def DequeuesBest (q : TokenQueue F) (now : Time) : Prop :=
  ∃q' res dropped,q.dequeue now=some (q',res) ∧ TakesBest q q' now res dropped

def RescoresSurvivors (q : TokenQueue F) (now : Time) : Prop :=
  ∃drained kept evicted q',drainLoop now q.heap.slots.length q [] 0=some (drained,kept,evicted) ∧
    q.evictExpired now=some (q',evicted) ∧ q'.heap.slots.Perm kept ∧
    ∀done r rest,kept=done++r::rest →
      let rebuilt := done.foldl (fun q r => q.rescore now r) drained
      q'.score r=rebuilt.calculatePriority (rebuilt.heap.objects r) now

variable {q' : TokenQueue F}

section

variable {q : TokenQueue F}

theorem Ranked.congr (ranked : Ranked q) (slots : q'.heap.slots=q.heap.slots)
    (scores : ∀r∈q.heap.slots,q'.score r=q.score r) : Ranked q' := by
  unfold Ranked
  rw [slots]
  exact RequestHeap.ordered_congr ranked slots scores

theorem ranked_of_empty (empty : q.heap.slots=[]) : Ranked q := by
  intro c low high
  simp [empty] at high

theorem Ranked.first (order : ScoreOrder F) (ranked : Ranked q)
    (root : q.heap.slots[0]?=some r) {x : Ref} (mem : x∈q.heap.slots) :
    Float64.lt (q.score r) (q.score x)=false := by
  obtain ⟨c,inside,found⟩ := List.getElem_of_mem mem
  have first := (RequestHeap.heap_lawful order).root_first ranked (Nat.le_refl _) c inside
  have here : q.heap.slots[c]?=some x := by rw [List.getElem?_eq_getElem inside,found]
  simpa [RequestHeap.heap,RequestHeap.less,here,root,score] using first

theorem Ranked.insert (order : ScoreOrder F) (ranked : Ranked q) (fresh : r∉q.heap.slots)
    (req : QueuedRequest F) : Ranked ((q.setObject r req).insertRequest r) := by
  have written : Ranked (q.setObject r req) := by
    refine ranked.congr rfl fun x mem => ?_
    have other : x≠r := fun same => fresh (same ▸ mem)
    simp [score,setObject,other]
  unfold Ranked
  rw [insertRequest_heap]
  exact (RequestHeap.heap_lawful order).heapPush_ordered written r

theorem popRequest_ranked (order : ScoreOrder F) (s : Sound q) (ranked : Ranked q)
    (some_queued : q.heap.slots≠[]) :
    ∃r rest,q.popRequest=some (r,rest) ∧ Shrunk q rest [r] 0 ∧ r∈q.heap.slots ∧ Ranked rest ∧
      (∀x,rest.score x=q.score x) ∧
      ∀x∈q.heap.slots,Float64.lt (q.score r) (q.score x)=false := by
  obtain ⟨r,_,popped,mem,shrunk⟩ := popRequest_spec s some_queued
  have pos : 0 < q.heap.slots.length := List.length_pos_iff.mpr some_queued
  have root : q.heap.slots[0]?=some q.heap.slots[0] := List.getElem?_eq_getElem pos
  obtain ⟨h,taken,-,-,same⟩ := RequestHeap.heapPop_spec s.indexed root
  unfold popRequest at popped
  rw [taken] at popped
  obtain ⟨rfl,rfl⟩ := Prod.mk.inj (Option.some.inj popped)
  refine ⟨_,_,by unfold popRequest; rw [taken],shrunk,mem,?_,fun x => ?_,
    fun x inside => ranked.first order root inside⟩
  · unfold Ranked
    rw [releaseRequest_heap]
    exact (RequestHeap.heap_lawful order).heapPop_ordered taken ranked
  · unfold score
    rw [releaseRequest_heap]
    exact RequestHeap.score_of_core (same.core x)

end

variable {now : Time}

theorem dequeueLoop_ranked (order : ScoreOrder F) (q : TokenQueue F)
    (s : Sound q) (ranked : Ranked q) {res : Option Ref}
    (done : dequeueLoop now n q=some (q',res)) :
    Ranked q' ∧ (∀x,q'.score x=q.score x) ∧
      ∀r∈res,∀x∈q.heap.slots,(q.heap.objects x).expired now=false →
        Float64.lt (q.score r) (q.score x)=false := by
  induction n generalizing q with
  | zero =>
    obtain ⟨rfl,rfl⟩ := Prod.mk.inj (Option.some.inj done)
    exact ⟨ranked,fun _ => rfl,by simp⟩
  | succ n ih =>
    by_cases empty : q.heap.slots=[]
    · rw [dequeueLoop_empty now _ empty] at done
      obtain ⟨rfl,rfl⟩ := Prod.mk.inj (Option.some.inj done)
      exact ⟨ranked,fun _ => rfl,by simp⟩
    · obtain ⟨r,rest,popped,shrunk,mem,left,scores,first⟩ := popRequest_ranked order s ranked empty
      rw [dequeueLoop_pass now n empty popped] at done
      have same := shrunk.expired s mem now
      by_cases old : (rest.heap.objects r).expired now=true
      · rw [if_pos old] at done
        have counted := countExpired_shrunk shrunk
        obtain ⟨after,kept,best⟩ := ih _ counted.sound left done
        refine ⟨after,fun x => (kept x).trans (scores x),fun y hy x inside live => ?_⟩
        have stays : x∈rest.heap.slots := by
          rcases List.mem_cons.mp (shrunk.slots.mem_iff.mp inside) with rfl | later
          · rw [← same,old] at live
            cases live
          · exact later
        have still := best y hy x stays (by rw [← live]; exact shrunk.expired s inside now)
        rw [← scores,← scores]
        exact still
      · rw [if_neg old] at done
        obtain ⟨rfl,rfl⟩ := Prod.mk.inj (Option.some.inj done)
        have heap : (rest.updateTenant (rest.heap.objects r).tenantID fun st =>
            {st with activeTokens :=
              st.activeTokens+(rest.heap.objects r).effectiveCost}).heap=rest.heap := by
          rw [updateTenant_frame]
        refine ⟨?_,fun x => ?_,fun y hy x inside _ => ?_⟩
        · unfold Ranked
          rw [heap]
          exact left
        · unfold score
          rw [heap]
          exact scores x
        · obtain rfl : r=y := by simpa using hy
          exact first x inside

theorem dequeue_takesBest (order : ScoreOrder F) {q : TokenQueue F} (s : Sound q)
    (ranked : Ranked q) : q.DequeuesBest now := by
  obtain ⟨q',res,dropped,done,⟨shrunk,expired,live⟩,empty⟩ := dequeue_spec q now s
  obtain ⟨-,scores,best⟩ := dequeueLoop_ranked order q s ranked done
  refine ⟨q',res,dropped,done,shrunk.slots,expired,shrunk.evicted,
    fun r hr => live r (by simpa using hr),best,fun none_left x mem => ?_,scores⟩
  -- nothing is left, so whatever was queued was dropped
  have all := shrunk.slots.mem_iff.mp mem
  rw [none_left,empty none_left] at all
  exact expired x (by simpa using all)

theorem rescore_score {q : TokenQueue F} {r : Ref} (s : Sound q)
    (fresh : r∉q.heap.slots) (x : Ref) :
    (q.rescore now r).score x=
      if x=r then q.calculatePriority (q.heap.objects r) now else q.score x := by
  let req := {q.heap.objects r with
    calculatedScore := q.calculatePriority (q.heap.objects r) now}
  have written : Sound (q.setObject r req) := setObject_sound s fresh
  have kept := (insertRequest_slots written fresh).2
  have same : (q.rescore now r).score x=(q.setObject r req).score x :=
    RequestHeap.score_of_core (kept.core x)
  rw [same]
  by_cases here : x=r
  · subst here
    simp [score,setObject,req]
  · simp [score,setObject,here]

theorem rebuild_ranked (order : ScoreOrder F) {refs : List Ref} (q : TokenQueue F)
    (s : Sound q) (ranked : Ranked q) (nodup : (refs++q.heap.slots).Nodup)
    (inside : ∀r∈refs,r < q.heap.allocated) :
    let rebuilt := refs.foldl (fun q r => q.rescore now r) q
    Ranked rebuilt ∧ (∀x,x∉refs → rebuilt.score x=q.score x) ∧ ∀done r rest,refs=done++r::rest →
        let before := done.foldl (fun q r => q.rescore now r) q
        rebuilt.score r=before.calculatePriority (before.heap.objects r) now := by
  induction refs generalizing q with
  | nil => exact ⟨ranked,fun _ _ => rfl,by simp⟩
  | cons r refs ih =>
    obtain ⟨outside,_⟩ := List.nodup_cons.mp nodup
    have fresh : r∉q.heap.slots := fun mem => outside (List.mem_append_right _ mem)
    have unlisted : r∉refs := fun mem => outside (List.mem_append_left _ mem)
    have first := rescore_regrown now s fresh (inside r (by simp))
    have disjoint : (refs++(q.rescore now r).heap.slots).Nodup := by
      refine ((first.slots.append_left _).trans List.perm_middle).nodup_iff.mpr ?_
      exact nodup
    obtain ⟨good,others,scored⟩ := ih _ first.sound (ranked.insert order fresh _) disjoint (by
        intro x mem
        rw [first.allocated]
        exact inside x (by simp [mem]))
    refine ⟨good,fun x apart => ?_,fun done x rest split => ?_⟩
    · obtain ⟨other,unlisted⟩ : x≠r ∧ x∉refs := by simpa using apart
      rw [List.foldl_cons,others x unlisted,rescore_score s fresh,if_neg other]
    · cases done with
      | nil =>
        obtain ⟨rfl,rfl⟩ : r=x ∧ refs=rest := by simpa using split
        rw [List.foldl_cons,others r unlisted,rescore_score s fresh,if_pos rfl]
        rfl
      | cons y done =>
        obtain ⟨rfl,tail⟩ : r=y ∧ refs=done++x::rest := by simpa using split
        exact scored _ x _ tail

theorem evictExpired_ranked (order : ScoreOrder F) {q : TokenQueue F} (now : Time) (s : Sound q) :
    (∃q' evicted,q.evictExpired now=some (q',evicted) ∧ Ranked q') ∧ q.RescoresSurvivors now := by
  obtain ⟨drained,dropped,kept,loop,⟨shrunk,-,-⟩,empty⟩ :=
    drainLoop_spec q now [] 0 s (Nat.le_refl _)
  rw [List.nil_append] at loop
  obtain ⟨nodup,inside⟩ := shrunk.outside s
  obtain ⟨ranked,-,scored⟩ := rebuild_ranked order _ shrunk.sound
    (ranked_of_empty empty) nodup inside
  have slots := (rebuild_regrown now shrunk.sound nodup inside).slots
  rw [empty,List.append_nil] at slots
  have evicts : q.evictExpired now=
      some (kept.foldl (fun q r => q.rescore now r) drained,0+Int64.ofNat dropped.length) := by
    rw [evictExpired,loop]
  exact ⟨⟨_,_,evicts,ranked⟩,drained,kept,_,_,loop,evicts,slots,scored⟩

theorem enqueue_ranked (order : ScoreOrder F) {q : TokenQueue F} {req : QueuedRequest F}
    (s : Sound q) (ranked : Ranked q) :
    Ranked ((q.allocate req).enqueue q.heap.allocated now).1 := by
  have slots := received_slots q req
  have base : Ranked (q.received req) := by
    refine ranked.congr slots fun r mem => ?_
    unfold score
    rw [received_objects req (s.allocated r mem)]
  have fresh : q.heap.allocated∉(q.received req).heap.slots := slots.symm ▸ fresh_slot s
  rcases enqueue_cases req now with ⟨-,after⟩ | ⟨-,_,_,after⟩
  · rw [after]
    exact base.insert order fresh _
  · rw [after]
    exact base

theorem remove_ranked (order : ScoreOrder F) {q : TokenQueue F} {id : String} {ok : Bool}
    (ranked : Ranked q) (removed : q.remove id=some (q',ok)) : Ranked q' := by
  unfold remove at removed
  cases found : q.lookup.lookup id with
  | none =>
    simp only [found,Option.some.injEq,Prod.mk.injEq] at removed
    exact removed.1 ▸ ranked
  | some r =>
    simp only [found] at removed
    cases taken : RequestHeap.heap.heapRemove q.heap (q.heap.objects r).heapIndex with
    | none => simp [taken] at removed
    | some result =>
      simp only [taken,Option.some.injEq] at removed
      obtain ⟨rfl,-⟩ := removed
      unfold Ranked
      rw [releaseRequest_heap]
      exact (RequestHeap.heap_lawful order).heapRemove_ordered taken ranked

theorem step_ranked (order : ScoreOrder F) {q : TokenQueue F} {op : QueueOp F} (s : Sound q)
    (ranked : Ranked q) : Ranked (q.step op).1 := by
  cases op with
  | enqueue req now => exact enqueue_ranked order s ranked
  | dequeue now =>
    obtain ⟨_,_,-,done,-⟩ := dequeue_spec q now s
    have after := (dequeueLoop_ranked order q s ranked done).1
    simpa only [step,done] using after
  | remove id =>
    cases removed : q.remove id with
    | none => simpa only [step,removed] using ranked
    | some result =>
      have after := remove_ranked order ranked removed
      simpa only [step,removed] using after
  | finish tenantID allocatedCost actualTokens =>
    have heap : (q.finish tenantID allocatedCost actualTokens).heap=q.heap := by
      rw [finish,updateTenant_frame]
    exact ranked.congr (by rw [step,heap]) fun r _ => by rw [score,step,heap]; rfl
  | evictExpired now =>
    obtain ⟨⟨_,_,done,after⟩,-⟩ := evictExpired_ranked order now s
    simpa only [step,done] using after

theorem run_ranked (order : ScoreOrder F) {cfg : TokenQueueConfig F} {ops : List (QueueOp F)} :
    Sound (run step (newTokenQueue cfg) ops) ∧ Ranked (run step (newTokenQueue cfg) ops) :=
  run_induction _ (fun _ q => Sound q ∧ Ranked q) _ ⟨newTokenQueue_sound,ranked_of_empty rfl⟩
    (fun _ q op h => ⟨step_sound op h.1,step_ranked order h.1 h.2⟩) ops

end TokenQueue

open TokenQueue

theorem tokenQueue_dequeue_best (order : ScoreOrder F) (cfg : TokenQueueConfig F)
    (ops : List (QueueOp F)) (now : Time) :
    let q := run step (newTokenQueue cfg) ops
    q.DequeuesBest now ∧ q.RescoresSurvivors now := by
  obtain ⟨sound,ranked⟩ := run_ranked order
  exact ⟨dequeue_takesBest order sound ranked,(evictExpired_ranked order now sound).2⟩

def ExactScore : Type := ℚ

instance : Float64 ExactScore := inferInstanceAs (Float64 ExactFloat)

theorem exactScore_order : ScoreOrder ExactScore where
  asymm := by
    intro (a : ℚ) (b : ℚ) less
    have below : a < b := of_decide_eq_true less
    exact decide_eq_false (lt_asymm below)
  cotrans := by
    intro (a : ℚ) (b : ℚ) (c : ℚ) less
    have below : a < c := of_decide_eq_true less
    rcases lt_or_ge a b with left | right
    · exact .inl (decide_eq_true left)
    · exact .inr (decide_eq_true (lt_of_le_of_lt right below))

def tenantRequest (id tenantID : String) (priority tokens : Int64) : QueuedRequest ExactScore :=
  {blankRequest with
    id := id,tenantID := tenantID,priority := priority,predictedTokens := tokens}

def threeRequests : List (QueueOp ExactScore) :=
  [.enqueue (tenantRequest "first" "a" 50 60000) 1,.enqueue (tenantRequest "second" "b" 40 1) 1,
    .enqueue (tenantRequest "third" "a" 0 50000) 1]

theorem threeRequests_best :
    let q := run step (newTokenQueue defaultTokenQueueConfig) (threeRequests++[.evictExpired 2])
    q.DequeuesBest 3 ∧ q.RescoresSurvivors 3 :=
  tokenQueue_dequeue_best exactScore_order defaultTokenQueueConfig
    (threeRequests++[.evictExpired 2]) 3

theorem requeued_request_overtakes :
    let q := (run step (newTokenQueue defaultTokenQueueConfig) threeRequests).enqueue 0 1
    q.2.admitted=true ∧ (q.1.dequeue 1).map Prod.snd=some (some 0) ∧
    Float64.lt (q.1.score 0) (q.1.score 1)=true ∧ 1∈q.1.heap.slots ∧
    (q.1.heap.objects 1).expired 1=false ∧ ¬q.1.DequeuesBest 1 := by
  intro q
  have taken : (q.1.dequeue 1).map Prod.snd=some (some 0) := by decide +kernel
  have better : Float64.lt (q.1.score 0) (q.1.score 1)=true := by decide +kernel
  have queued : 1∈q.1.heap.slots := by decide +kernel
  have live : (q.1.heap.objects 1).expired 1=false := by decide +kernel
  refine ⟨by decide +kernel,taken,better,queued,live,?_⟩
  rintro ⟨_,res,_,done,best⟩
  obtain rfl : res=some 0 := by simpa [done] using taken
  have not_better := best.best 0 rfl 1 queued live
  rw [better] at not_better
  cases not_better

end KServeLLM.Scheduler
