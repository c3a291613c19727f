import KServeLLM.Inference.PriorityQueue

namespace KServeLLM.Inference

inductive Halt where
  | panicked | blocked
  deriving DecidableEq

structure ServedQueue where
  queue : PriorityQueue
  closed : ResultChan → Bool
  told : List (PriorityRequest×ShedError)
  /-- A call waits for a receiver that does not come. -/
  stuck : Bool

inductive Reply where
  | answered (answer : PriorityAnswer)
  | halted (halt : Halt)
  | silent
  deriving DecidableEq

def Reply.admitted (req : PriorityRequest) : Reply → List PriorityRequest
  | .answered (.enqueued true) => [req]
  | _ => []

def Reply.handed : Reply → List PriorityRequest
  | .answered (.dequeued (some req)) => [req]
  | _ => []

def Reply.halts : Reply → Bool
  | .halted _ => true
  | _ => false

namespace ServedQueue

def start (maxDepth : Int64) (closed : ResultChan → Bool) : ServedQueue :=
  ⟨newPriorityQueue maxDepth,closed,[],false⟩

def delivered (w : ServedQueue) (req : PriorityRequest) (err : ShedError) : ServedQueue := {w with
    queue := w.queue.reject req err
    closed := Function.update w.closed req.result true
    told := w.told++[(req,err)]}

def send (w : ServedQueue) (takes : ResultChan → Bool) (req : PriorityRequest) (err : ShedError) :
    ServedQueue×Option Halt :=
  if w.closed req.result then (w,some .panicked)
  else if takes req.result then (w.delivered req err,none)
  else ({w with stuck := true},some .blocked)

def popHead (w : ServedQueue) (p : Priority) (rest : List PriorityRequest) : ServedQueue :=
  {w with queue := w.queue.popHead p rest}

def append (w : ServedQueue) (req : PriorityRequest) : ServedQueue :=
  {w with queue := w.queue.append req}

def enqueue (w : ServedQueue) (takes : ResultChan → Bool) (req : PriorityRequest) :
    ServedQueue×Reply :=
  if w.queue.maxDepth ≤ w.queue.depth then
    match w.queue.queues .background with
    | dropped::rest =>
      match (w.popHead .background rest).send takes dropped .loadShed with
      | (w',none) => (w'.append req,.answered (.enqueued true))
      | (w',some halt) => (w',.halted halt)
    | [] => (w,.answered (.enqueued false))
  else (w.append req,.answered (.enqueued true))

def dequeueFrom (takes : ResultChan → Bool) (clock : Priority → Time) :
    List Priority → ServedQueue → ServedQueue×Reply
  | [],w => (w,.answered (.dequeued none))
  | p::ps,w =>
    match w.queue.queues p with
    | [] => dequeueFrom takes clock ps w
    | req::rest =>
      if req.live (clock p) then (w.popHead p rest,.answered (.dequeued (some req)))
      else
        match (w.popHead p rest).send takes req .deadlineExceeded with
        | (w',none) => dequeueFrom takes clock ps w'
        | (w',some halt) => (w',.halted halt)

inductive Op where
  | enqueue (takes : ResultChan → Bool) (req : PriorityRequest)
  | dequeue (takes : ResultChan → Bool) (clock : Priority → Time)
  | close (ch : ResultChan)

def step (w : ServedQueue) (op : Op) : ServedQueue×Reply :=
  if w.stuck then (w,.silent)
  else
    match op with
    | .enqueue takes req => w.enqueue takes req
    | .dequeue takes clock => dequeueFrom takes clock Priority.levels w
    | .close ch => ({w with closed := Function.update w.closed ch true},.silent)

abbrev History : Type := List (Step ServedQueue Op Reply)

def accepted (st : Step ServedQueue Op Reply) : List PriorityRequest :=
  match st.call with
  | .enqueue _ req => st.answer.admitted req
  | _ => []

def sentTo (w : ServedQueue) (err : ShedError) : List PriorityRequest :=
  (w.told.filter (fun message => message.2=err)).map Prod.fst

def pending (w : ServedQueue) : List PriorityRequest :=
  w.queue.queues .critical++w.queue.queues .interactive++w.queue.queues .batch++
    w.queue.queues .background

structure Conserved (maxDepth : Int64) (tr : History) (w : ServedQueue) : Prop where
  depth : w.queue.depth.toInt=w.pending.length
  bounded : w.queue.depth.toInt ≤ max maxDepth.toInt 0
  once : ∀r,(tr.flatMap accepted).count r=
    w.pending.count r+(tr.flatMap fun st => st.answer.handed).count r+
      (w.sentTo .loadShed).count r+(w.sentTo .deadlineExceeded).count r
  shed : ∀r∈w.sentTo .loadShed,r.priority=.background

def expiredHeads (clock : Priority → Time) (queues : Priority → List PriorityRequest) :
    List Priority → List PriorityRequest
  | [] => []
  | p::ps =>
    match queues p with
    | [] => expiredHeads clock queues ps
    | req::_ => if req.live (clock p) then [] else req::expiredHeads clock queues ps

def rejects (w : ServedQueue) : Op → List PriorityRequest
  | .enqueue _ _ =>
      if w.queue.maxDepth ≤ w.queue.depth then (w.queue.queues .background).take 1 else []
  | .dequeue _ clock => expiredHeads clock w.queue.queues Priority.levels
  | .close _ => []

def Op.takes : Op → ResultChan → Bool
  | .enqueue takes _ => takes
  | .dequeue takes _ => takes
  | .close _ => fun _ => true

structure Deliverable (closed takes : ResultChan → Bool) (rs : List PriorityRequest) : Prop where
  own : (rs.map PriorityRequest.result).Nodup
  isOpen : ∀r∈rs,closed r.result=false
  taken : ∀r∈rs,takes r.result=true

def Delivers (w : ServedQueue) (op : Op) : Prop := Deliverable w.closed op.takes (w.rejects op)

structure Books (maxDepth : Int64) (acc ret lost : List PriorityRequest) (w : ServedQueue) :
    Prop where
  limit : w.queue.maxDepth=maxDepth
  keyed : ∀p,∀r∈w.queue.queues p,r.priority=p
  depth : w.queue.depth.toInt=w.pending.length
  bounded : w.queue.depth.toInt ≤ max maxDepth.toInt 0
  once : ∀r,acc.count r=w.pending.count r+ret.count r+(w.sentTo .loadShed).count r+
    (w.sentTo .deadlineExceeded).count r+lost.count r
  shed : ∀r∈w.sentTo .loadShed,r.priority=.background

variable {lost : List PriorityRequest}

section

variable {maxDepth : Int64} {acc ret : List PriorityRequest} {w : ServedQueue} {p : Priority}
  {req : PriorityRequest} {rest : List PriorityRequest}

theorem pending_popHead (level : w.queue.queues p=req::rest) :
    w.pending.Perm (req::(w.popHead p rest).pending) := by
  refine List.perm_iff_count.mpr fun r => ?_
  cases p <;> simp [pending,popHead,level,List.count_cons] <;> omega

theorem pending_append (w : ServedQueue) (req : PriorityRequest) :
    (w.append req).pending.Perm (req::w.pending) := by
  refine List.perm_iff_count.mpr fun r => ?_
  cases level : req.priority <;> simp [pending,append,level,List.count_cons] <;> omega

theorem Books.popHead (h : Books maxDepth acc ret [] w) (level : w.queue.queues p=req::rest) :
    Books maxDepth acc ret [req] (w.popHead p rest) ∧ req.priority=p ∧
      (w.popHead p rest).queue.depth.toInt+1=w.queue.depth.toInt := by
  have perm := pending_popHead level
  have fewer := perm.length_eq
  rw [List.length_cons] at fewer
  have depth := h.depth
  have bounded := h.bounded
  have less : (w.popHead p rest).queue.depth.toInt=w.queue.depth.toInt-1 := by
    refine int64_toInt_sub_of_le (by decide) (Int64.le_iff_toInt_le.mpr ?_)
    show 1 ≤ w.queue.depth.toInt
    omega
  have member : req∈w.queue.queues p := by simp [level]
  refine ⟨⟨h.limit,fun x r mem => ?_,by omega,by omega,fun r => ?_,h.shed⟩,h.keyed p req member,
    by omega⟩
  · refine h.keyed x r ?_
    exact (PriorityQueue.popHead_suffix level x).subset mem
  · have before := h.once r
    have moved := perm.count_eq r
    have sent err : (w.popHead p rest).sentTo err=w.sentTo err := rfl
    simp only [List.count_cons,sent] at before moved ⊢
    omega

theorem Books.append (h : Books maxDepth acc ret [] w) (req : PriorityRequest)
    (fits : w.queue.depth.toInt+1 ≤ max maxDepth.toInt 0) :
    Books maxDepth (acc++[req]) ret [] (w.append req) := by
  have perm := pending_append w req
  have more := perm.length_eq
  rw [List.length_cons] at more
  have depth := h.depth
  have high := maxDepth.toInt_lt
  have grown : (w.append req).queue.depth.toInt=w.queue.depth.toInt+1 :=
    toInt_add_of_lt (by omega) (by decide) (by
      show w.queue.depth.toInt+1<2^63
      omega)
  refine ⟨h.limit,fun x r mem => ?_,by omega,by omega,fun r => ?_,h.shed⟩
  · have level : (w.append req).queue.queues=
        Function.update w.queue.queues req.priority (w.queue.queues req.priority++[req]) := rfl
    rw [level] at mem
    by_cases same : x=req.priority
    · subst same
      rw [Function.update_self] at mem
      rcases List.mem_append.mp mem with old | new
      · exact h.keyed _ r old
      · rw [List.mem_singleton.mp new]
    · rw [Function.update_of_ne same] at mem
      exact h.keyed x r mem
  · have before := h.once r
    have moved := perm.count_eq r
    have sent err : (w.append req).sentTo err=w.sentTo err := rfl
    simp only [List.count_append,List.count_cons,List.count_nil,sent] at before moved ⊢
    omega

theorem send_cases (w : ServedQueue) (takes : ResultChan → Bool) (req : PriorityRequest)
    (err : ShedError) :
    (w.closed req.result=false ∧ takes req.result=true) ∧
        w.send takes req err=(w.delivered req err,none) ∨
    ¬(w.closed req.result=false ∧ takes req.result=true) ∧
        ∃stuck halt,w.send takes req err=({w with stuck := stuck},some halt) := by
  unfold send
  cases closed : w.closed req.result with
  | true => exact .inr ⟨by simp,w.stuck,.panicked,rfl⟩
  | false =>
    cases taken : takes req.result with
    | true => exact .inl ⟨by simp,rfl⟩
    | false => exact .inr ⟨by simp,true,.blocked,rfl⟩

theorem Books.delivered (h : Books maxDepth acc ret [req] w) {err : ShedError}
    (fair : err=.loadShed → req.priority=.background) :
    Books maxDepth acc ret [] (w.delivered req err) := by
  refine ⟨h.limit,h.keyed,h.depth,h.bounded,fun r => ?_,fun r mem => ?_⟩
  · have before := h.once r
    have same : (w.delivered req err).pending=w.pending := rfl
    rw [same]
    cases err <;>
      simp [sentTo,ServedQueue.delivered,List.filter_append] at before ⊢ <;> omega
  · simp only [sentTo,ServedQueue.delivered,List.filter_append,List.map_append,
      List.mem_append] at mem
    rcases mem with old | new
    · exact h.shed r old
    · obtain ⟨_,inside,rfl⟩ := List.mem_map.mp new
      obtain ⟨only,same⟩ := List.mem_filter.mp inside
      obtain rfl := List.mem_singleton.mp only
      exact fair (of_decide_eq_true same)

theorem Books.halted (h : Books maxDepth acc ret lost w)
    (stuck : Bool) : Books maxDepth acc ret lost {w with stuck := stuck} :=
  ⟨h.limit,h.keyed,h.depth,h.bounded,h.once,h.shed⟩

theorem Books.handed (h : Books maxDepth acc ret [req] w) :
    Books maxDepth acc (ret++[req]) [] w := by
  refine ⟨h.limit,h.keyed,h.depth,h.bounded,fun r => ?_,h.shed⟩
  have before := h.once r
  simp only [List.count_append,List.count_nil] at before ⊢
  omega

end

variable (takes : ResultChan → Bool) {clock : Priority → Time} {ps : List Priority}

section

variable {maxDepth : Int64} {acc ret : List PriorityRequest}

theorem dequeueFrom_books {w : ServedQueue} (h : Books maxDepth acc ret [] w) :
    let result := dequeueFrom takes clock ps w
    ∃lost,Books maxDepth acc (ret++result.2.handed) lost result.1 ∧
      (lost=[] ↔ result.2.halts=false) := by
  induction ps generalizing w with
  | nil => exact ⟨[],by simpa [dequeueFrom,Reply.handed] using h,by simp [dequeueFrom,Reply.halts]⟩
  | cons p ps ih =>
    cases level : w.queue.queues p with
    | nil =>
      simp only [dequeueFrom,level]
      exact ih h
    | cons req rest =>
      have popped := (h.popHead level).1
      simp only [dequeueFrom,level]
      split
      · exact ⟨[],popped.handed,by simp [Reply.halts]⟩
      · rcases send_cases (w.popHead p rest) takes req .deadlineExceeded with
          ⟨-,sent⟩ | ⟨-,stuck,_,sent⟩
        · simp only [sent]
          exact ih (popped.delivered (by simp))
        · simp only [sent,Reply.handed,List.append_nil]
          exact ⟨[req],popped.halted stuck,by simp [Reply.halts]⟩

theorem enqueue_books {req : PriorityRequest} {w : ServedQueue} (h : Books maxDepth acc ret [] w) :
    let result := w.enqueue takes req
    ∃lost,Books maxDepth (acc++result.2.admitted req) ret lost result.1 ∧
      (lost=[] ↔ result.2.halts=false) := by
  unfold enqueue
  split
  · cases level : w.queue.queues .background with
    | nil => exact ⟨[],by simpa [Reply.admitted] using h,by simp [Reply.halts]⟩
    | cons dropped rest =>
      obtain ⟨popped,priority,less⟩ := h.popHead level
      rcases send_cases (w.popHead .background rest) takes dropped .loadShed with
        ⟨-,sent⟩ | ⟨-,stuck,_,sent⟩
      · simp only [sent]
        have bounded := h.bounded
        have settled : Books maxDepth acc ret []
            ((w.popHead .background rest).delivered dropped .loadShed) :=
          popped.delivered fun _ => priority
        exact ⟨[],settled.append req (less ▸ bounded),by simp [Reply.halts]⟩
      · simp only [sent,Reply.admitted,List.append_nil]
        exact ⟨[dropped],popped.halted stuck,by simp [Reply.halts]⟩
  · next roomy =>
    have below := Int64.lt_iff_toInt_lt.mp (Int64.not_le.mp roomy)
    rw [h.limit] at below
    exact ⟨[],h.append req (by omega),by simp [Reply.halts]⟩

end

theorem deliverable_cons {closed takes : ResultChan → Bool} {r : PriorityRequest}
    {rs : List PriorityRequest} :
    Deliverable closed takes (r::rs) ↔ (closed r.result=false ∧ takes r.result=true) ∧
        Deliverable (Function.update closed r.result true) takes rs := by
  constructor
  · intro h
    obtain ⟨fresh,own⟩ := List.nodup_cons.mp h.own
    refine ⟨⟨h.isOpen r (by simp),h.taken r (by simp)⟩,own,fun x mem => ?_,
      fun x mem => h.taken x (by simp [mem])⟩
    have other : x.result≠r.result := fun same => fresh (same ▸ List.mem_map_of_mem mem)
    rw [Function.update_of_ne other]
    exact h.isOpen x (by simp [mem])
  · rintro ⟨⟨isOpen,taken⟩,rest⟩
    have other x (mem : x∈rs) : x.result≠r.result := by
      intro same
      have still := rest.isOpen x mem
      rw [same,Function.update_self] at still
      cases still
    refine ⟨List.nodup_cons.mpr ⟨fun mem => ?_,rest.own⟩,fun x mem => ?_,fun x mem => ?_⟩
    · obtain ⟨x,inside,same⟩ := List.mem_map.mp mem
      exact other x inside same
    · rcases List.mem_cons.mp mem with rfl | later
      · exact isOpen
      · have still := rest.isOpen x later
        rwa [Function.update_of_ne (other x later)] at still
    · rcases List.mem_cons.mp mem with rfl | later
      · exact taken
      · exact rest.taken x later

theorem deliverable_nil {closed takes : ResultChan → Bool} : Deliverable closed takes [] :=
  ⟨List.nodup_nil,by simp,by simp⟩

theorem expiredHeads_congr {q q' : Priority → List PriorityRequest} (same : ∀p∈ps,q p=q' p) :
    expiredHeads clock q ps=expiredHeads clock q' ps := by
  induction ps with
  | nil => rfl
  | cons p ps ih =>
    have rest := ih fun x mem => same x (by simp [mem])
    simp [expiredHeads,same p (by simp),rest]

theorem dequeueFrom_returns (ps : List Priority) (nodup : ps.Nodup) (w : ServedQueue) :
    let result := dequeueFrom takes clock ps w
    let alone := PriorityQueue.dequeueFrom clock ps w.queue
    (result.2.halts=false ↔ Deliverable w.closed takes (expiredHeads clock w.queue.queues ps)) ∧
    (result.2.halts=false → result.1.queue=alone.1 ∧ result.1.stuck=w.stuck ∧
      result.2=.answered (.dequeued alone.2)) := by
  induction ps generalizing w with
  | nil =>
    exact ⟨iff_of_true rfl (deliverable_nil),fun _ => ⟨rfl,rfl,rfl⟩⟩
  | cons p ps ih =>
    obtain ⟨fresh,nodup⟩ := List.nodup_cons.mp nodup
    cases level : w.queue.queues p with
    | nil =>
      simp only [dequeueFrom,PriorityQueue.dequeueFrom,expiredHeads,level]
      exact ih nodup w
    | cons req rest =>
      simp only [dequeueFrom,PriorityQueue.dequeueFrom,expiredHeads,level]
      by_cases live : req.live (clock p)
      · rw [if_pos live,if_pos live,if_pos live]
        exact ⟨iff_of_true rfl (deliverable_nil),fun _ => ⟨rfl,rfl,rfl⟩⟩
      · rw [if_neg live,if_neg live,if_neg live,deliverable_cons]
        rcases send_cases (w.popHead p rest) takes req .deadlineExceeded with
          ⟨delivers,sent⟩ | ⟨fails,_,_,sent⟩
        · have heads : expiredHeads clock w.queue.queues ps=
              expiredHeads clock (w.queue.popHead p rest).queues ps := by
            refine expiredHeads_congr fun x mem => ?_
            have other : x≠p := fun same => fresh (same ▸ mem)
            rw [PriorityQueue.popHead_queues,Function.update_of_ne other]
          replace delivers : w.closed req.result=false ∧ takes req.result=true := delivers
          rw [sent,heads,and_iff_right delivers]
          exact ih nodup _
        · rw [sent]
          exact ⟨iff_of_false (by simp [Reply.halts]) (fun h => fails h.1),
            fun h => (by simp [Reply.halts] at h)⟩

theorem enqueue_returns {req : PriorityRequest} {w : ServedQueue} :
    let result := w.enqueue takes req
    let alone := w.queue.enqueue req
    (result.2.halts=false ↔ Deliverable w.closed takes (w.rejects (.enqueue takes req))) ∧
    (result.2.halts=false → result.1.queue=alone.1 ∧ result.1.stuck=w.stuck ∧
      result.2=.answered (.enqueued alone.2)) := by
  unfold enqueue PriorityQueue.enqueue rejects
  split
  · cases level : w.queue.queues .background with
    | nil =>
      exact ⟨iff_of_true rfl (deliverable_nil),fun _ => ⟨rfl,rfl,rfl⟩⟩
    | cons dropped rest =>
      dsimp only [List.take]
      rw [deliverable_cons,and_iff_left (deliverable_nil)]
      rcases send_cases (w.popHead .background rest) takes dropped .loadShed with
        ⟨delivers,sent⟩ | ⟨fails,_,_,sent⟩
      · rw [sent]
        exact ⟨iff_of_true rfl delivers,fun _ => ⟨rfl,rfl,rfl⟩⟩
      · rw [sent]
        exact ⟨iff_of_false (by simp [Reply.halts]) fails,fun h => (by simp [Reply.halts] at h)⟩
  · exact ⟨iff_of_true rfl (deliverable_nil),fun _ => ⟨rfl,rfl,rfl⟩⟩

section

variable {w : ServedQueue} {op : Op}

theorem step_returns (running : w.stuck=false) : ((step w op).2.halts=false ↔ w.Delivers op) ∧
      ((step w op).2.halts=false → (step w op).1.stuck=false) := by
  unfold step
  rw [if_neg (by simp [running])]
  cases op with
  | enqueue takes req =>
    obtain ⟨exact,alone⟩ := enqueue_returns takes
    exact ⟨exact,fun returns => (alone returns).2.1.trans running⟩
  | dequeue takes clock =>
    obtain ⟨exact,alone⟩ := dequeueFrom_returns takes Priority.levels (by decide) w
    exact ⟨exact,fun returns => (alone returns).2.1.trans running⟩
  | close ch => exact ⟨iff_of_true rfl (deliverable_nil),fun _ => running⟩

theorem enqueue_handed (w : ServedQueue) (takes : ResultChan → Bool) (req : PriorityRequest) :
    (w.enqueue takes req).2.handed=[] := by
  unfold enqueue
  split
  · cases w.queue.queues .background with
    | nil => rfl
    | cons dropped rest =>
      dsimp only
      rcases send_cases (w.popHead .background rest) takes dropped .loadShed with
        ⟨-,sent⟩ | ⟨-,_,_,sent⟩
      · rw [sent]
        rfl
      · rw [sent]
        rfl
  · rfl

theorem step_books {maxDepth : Int64} {acc ret : List PriorityRequest}
    (h : Books maxDepth acc ret [] w) (running : w.stuck=false) :
    ∃lost,Books maxDepth (acc++accepted (stepOf step w op)) (ret++(step w op).2.handed) lost
        (step w op).1 ∧
      (lost=[] ↔ (step w op).2.halts=false) := by
  unfold accepted stepOf step
  simp only [running,Bool.false_eq_true,if_false]
  cases op with
  | enqueue takes req =>
    obtain ⟨lost,books,exact⟩ := enqueue_books takes h
    refine ⟨lost,?_,exact⟩
    simpa only [enqueue_handed,List.append_nil] using books
  | dequeue takes clock =>
    obtain ⟨lost,books,exact⟩ := dequeueFrom_books takes h
    exact ⟨lost,by simpa only [List.append_nil] using books,exact⟩
  | close ch =>
    refine ⟨[],?_,by simp [Reply.halts]⟩
    simp only [Reply.handed,List.append_nil]
    exact ⟨h.limit,h.keyed,h.depth,h.bounded,h.once,h.shed⟩

end

structure Kept (maxDepth : Int64) (tr : History) (w : ServedQueue) : Prop where
  books : Books maxDepth (tr.flatMap accepted) (tr.flatMap fun st => st.answer.handed) [] w
  running : w.stuck=false

variable {tr : History}

theorem Books.conserved {maxDepth : Int64} {w : ServedQueue}
    (h : Books maxDepth (tr.flatMap accepted) (tr.flatMap fun st => st.answer.handed) [] w) :
    Conserved maxDepth tr w :=
  ⟨h.depth,h.bounded,h.once,h.shed⟩

theorem Books.lost_nil {maxDepth : Int64} {w : ServedQueue}
    (h : Books maxDepth (tr.flatMap accepted) (tr.flatMap fun st => st.answer.handed) lost w)
    (conserved : Conserved maxDepth tr w) : lost=[] := by
  refine List.eq_nil_iff_forall_not_mem.mpr fun r mem => ?_
  have all := h.once r
  have most := conserved.once r
  have some_lost := List.count_pos_iff.mpr mem
  omega

theorem Kept.step_books {maxDepth : Int64} {w : ServedQueue} (h : Kept maxDepth tr w) (op : Op) :
    ∃lost,Books maxDepth ((tr++[stepOf step w op]).flatMap accepted)
        ((tr++[stepOf step w op]).flatMap fun st => st.answer.handed) lost (step w op).1 ∧
      (lost=[] ↔ w.Delivers op) := by
  obtain ⟨lost,books,exact⟩ := ServedQueue.step_books h.books h.running
  refine ⟨lost,?_,exact.trans (step_returns h.running).1⟩
  rw [List.flatMap_append,List.flatMap_append,List.flatMap_singleton,List.flatMap_singleton]
  exact books

theorem conserved_iff (maxDepth : Int64) (closed : ResultChan → Bool) (ops : List Op) :
    Always step (start maxDepth closed) ops (Conserved maxDepth) ↔
      EachCall step (start maxDepth closed) ops (fun _ w op => w.Delivers op) := by
  have empty : Books maxDepth [] [] [] (start maxDepth closed) :=
    ⟨rfl,by simp [start,newPriorityQueue],rfl,by simp [start,newPriorityQueue],fun r => rfl,
      by simp [start,sentTo]⟩
  refine always_iff_eachCall step (Kept maxDepth) (Conserved maxDepth) _ (start maxDepth closed)
    ⟨empty,rfl⟩ (Books.conserved empty) ?_ ?_ ops
  · intro tr w op kept _ delivers
    obtain ⟨_,books,exact⟩ := kept.step_books op
    obtain rfl := exact.mpr delivers
    obtain ⟨returns,running⟩ := step_returns kept.running
    exact ⟨⟨books,running (returns.mpr delivers)⟩,books.conserved⟩
  · intro tr w op kept _ after
    obtain ⟨_,books,exact⟩ := kept.step_books op
    exact exact.mp (books.lost_nil after)

def shared : PriorityRequest := ⟨.background,0,"m","s",16,0,0⟩

def sharedChannel : List Op :=
  let all : ResultChan → Bool := fun _ => true
  [.enqueue all shared,.enqueue all shared,.enqueue all shared,
    .enqueue all ⟨.interactive,0,"m","t",16,0,1⟩,.enqueue all ⟨.interactive,0,"m","u",16,0,2⟩]

theorem second_shed_panics : (trace step (start 3 fun _ => false) sharedChannel).map Step.answer=
      [.answered (.enqueued true),.answered (.enqueued true),.answered (.enqueued true),
        .answered (.enqueued true),.halted .panicked] ∧
    ¬Always step (start 3 fun _ => false) sharedChannel (Conserved 3) := by
  refine ⟨by decide,fun always => ?_⟩
  have once := (always _ (List.prefix_refl _)).once shared
  exact absurd once (by decide)

end ServedQueue

end KServeLLM.Inference
