import KServeLLM.Framework.Execution
import KServeLLM.Framework.GoTypes
import KServeLLM.Framework.LevelQueue

namespace KServeLLM.Inference

inductive Priority where
  | critical | interactive | batch | background
  deriving DecidableEq

def Priority.levels : List Priority := [.critical,.interactive,.batch,.background]

abbrev ResultChan := Nat

inductive ShedError where
  | loadShed | deadlineExceeded
  deriving DecidableEq

def ShedError.text : ShedError → String
  | .loadShed => "request shed: queue at capacity"
  | .deadlineExceeded => "request deadline exceeded while queued"

structure PriorityRequest where
  priority : Priority
  enqueueTime : Time
  (modelName sessionID : String)
  maxTokens : Int32
  deadline : Time
  result : ResultChan
  deriving DecidableEq

def PriorityRequest.live (r : PriorityRequest) (now : Time) : Bool :=
  !(!r.deadline.isZero && now.after r.deadline)

inductive ChanEvent where
  | sent (ch : ResultChan) (err : ShedError)
  | closed (ch : ResultChan)
  deriving DecidableEq

structure PriorityQueue where
  queues : Priority → List PriorityRequest
  (depth maxDepth : Int64)
  events : List ChanEvent

def newPriorityQueue (maxDepth : Int64) : PriorityQueue := ⟨fun _ => [],0,maxDepth,[]⟩

namespace PriorityQueue

def popHead (q : PriorityQueue) (p : Priority) (rest : List PriorityRequest) : PriorityQueue :=
  {q with queues := Function.update q.queues p rest,depth := q.depth-1}

def reject (q : PriorityQueue) (req : PriorityRequest) (err : ShedError) : PriorityQueue :=
  {q with events := q.events++[.sent req.result err,.closed req.result]}

def append (q : PriorityQueue) (req : PriorityRequest) : PriorityQueue := {q with
    queues := Function.update q.queues req.priority (q.queues req.priority++[req])
    depth := q.depth+1}

def enqueue (q : PriorityQueue) (req : PriorityRequest) : PriorityQueue×Bool :=
  if q.maxDepth ≤ q.depth then
    match q.queues .background with
    | dropped::rest => (((q.popHead .background rest).reject dropped .loadShed).append req,true)
    | [] => (q,false)
  else (q.append req,true)

def dequeueFrom (clock : Priority → Time) :
    List Priority → PriorityQueue → PriorityQueue×Option PriorityRequest
  | [],q => (q,none)
  | p::ps,q =>
      match q.queues p with
      | [] => dequeueFrom clock ps q
      | req::rest =>
          if req.live (clock p) then (q.popHead p rest,some req)
          else dequeueFrom clock ps ((q.popHead p rest).reject req .deadlineExceeded)

def dequeue (q : PriorityQueue) (clock : Priority → Time) : PriorityQueue×Option PriorityRequest :=
  dequeueFrom clock Priority.levels q

end PriorityQueue

inductive PriorityOp where
  | enqueue (req : PriorityRequest)
  | dequeue (clock : Priority → Time)

inductive PriorityAnswer where
  | enqueued (ok : Bool)
  | dequeued (req : Option PriorityRequest)
  deriving DecidableEq

namespace PriorityQueue

def step (q : PriorityQueue) : PriorityOp → PriorityQueue×PriorityAnswer
  | .enqueue req => ((q.enqueue req).1,.enqueued (q.enqueue req).2)
  | .dequeue clock => ((q.dequeue clock).1,.dequeued (q.dequeue clock).2)

section

variable (q : PriorityQueue) (p : Priority) (req : PriorityRequest) (rest : List PriorityRequest)
  (err : ShedError)

@[simp] theorem popHead_queues : (q.popHead p rest).queues=Function.update q.queues p rest := rfl
@[simp] theorem reject_queues : (q.reject req err).queues=q.queues := rfl
@[simp] theorem append_queues : (q.append req).queues=
      Function.update q.queues req.priority (q.queues req.priority++[req]) := rfl

end

def accepted : Step PriorityQueue PriorityOp PriorityAnswer → Option PriorityRequest
  | ⟨_,.enqueue req,.enqueued true,_⟩ => some req
  | _ => none

def Ordered (q : PriorityQueue) (history : List PriorityRequest) : Prop :=
  ∀p,q.queues p <:+ history.filter (fun r => r.priority=p)

variable {history : List PriorityRequest}

theorem Ordered.shrink {q q' : PriorityQueue}
    (h : Ordered q history) (less : ∀p,q'.queues p <:+ q.queues p) : Ordered q' history :=
  fun p => (less p).trans (h p)

theorem popHead_suffix {q : PriorityQueue} {p : Priority} {req : PriorityRequest}
    {rest : List PriorityRequest} (level : q.queues p=req::rest) (x : Priority) :
    (q.popHead p rest).queues x <:+ q.queues x := by
  by_cases hx : x=p
  · subst x
    rw [popHead_queues,Function.update_self,level]
    exact List.suffix_cons req rest
  · rw [popHead_queues,Function.update_of_ne hx]

theorem Ordered.append {q : PriorityQueue} (h : Ordered q history) (req : PriorityRequest) :
    Ordered (q.append req) (history++[req]) := by
  intro p
  rw [List.filter_append]
  by_cases hp : p=req.priority
  · subst p
    obtain ⟨before,split⟩ := h req.priority
    refine ⟨before,?_⟩
    rw [← split]
    simp
  · rw [append_queues,Function.update_of_ne hp]
    simpa [Ne.symm hp] using h p

theorem dequeueFrom_suffix {clock : Priority → Time} {ps : List Priority} (q : PriorityQueue)
    (x : Priority) : (dequeueFrom clock ps q).1.queues x <:+ q.queues x := by
  induction ps generalizing q with
  | nil => exact List.suffix_refl _
  | cons p ps ih =>
    cases level : q.queues p with
    | nil =>
      simp only [dequeueFrom,level]
      exact ih q
    | cons req rest =>
      have popped := popHead_suffix level x
      simp only [dequeueFrom,level]
      split
      · exact popped
      · exact (ih _).trans popped

theorem dequeueFrom_result {now : Time} {ps : List Priority} (q : PriorityQueue)
    (nodup : ps.Nodup) :
    (dequeueFrom (fun _ => now) ps q).2=firstHead (fun r => r.live now) q.queues ps := by
  induction ps generalizing q with
  | nil => rfl
  | cons p ps ih =>
    obtain ⟨fresh,nodup⟩ := List.nodup_cons.mp nodup
    cases level : q.queues p with
    | nil =>
      rw [firstHead_of_empty level]
      simp only [dequeueFrom,level]
      exact ih q nodup
    | cons req rest =>
      simp only [dequeueFrom,level]
      split
      · next hlive => rw [firstHead_of_live level hlive]
      · next hdead =>
        rw [firstHead_of_dead level hdead,ih _ nodup]
        apply firstHead_congr
        intro x hx
        have ne : x≠p := fun he => fresh (he ▸ hx)
        rw [reject_queues,popHead_queues,Function.update_of_ne ne]

theorem step_ordered {q : PriorityQueue} (op : PriorityOp) {history : List PriorityRequest}
    (h : Ordered q history) :
    Ordered (q.step op).1 (history++(accepted (stepOf step q op)).toList) := by
  cases op with
  | dequeue clock =>
    rw [show accepted (stepOf step q (.dequeue clock))=none from rfl,Option.toList_none,
      List.append_nil]
    exact h.shrink (dequeueFrom_suffix q)
  | enqueue req =>
    by_cases full : q.maxDepth ≤ q.depth
    · cases level : q.queues .background with
      | nil => simpa [step,stepOf,enqueue,full,level,accepted] using h
      | cons dropped rest =>
        have shed : Ordered ((q.popHead .background rest).reject dropped .loadShed) history :=
          h.shrink (popHead_suffix level)
        simpa [step,stepOf,enqueue,full,level,accepted] using shed.append req
    · simpa [step,stepOf,enqueue,full,accepted] using h.append req

theorem Ordered.keyed {q : PriorityQueue} (h : Ordered q history)
    (p : Priority) (r : PriorityRequest) (hr : r∈q.queues p) : r.priority=p := by
  have mem := (h p).subset hr
  simpa using (List.mem_filter.mp mem).2

end PriorityQueue

open PriorityQueue

theorem priorityQueue_dequeue_iff (maxDepth : Int64) (ops : List PriorityOp) (now : Time) :
    let q := run PriorityQueue.step (newPriorityQueue maxDepth) ops
    Ordered q ((trace PriorityQueue.step (newPriorityQueue maxDepth) ops).filterMap accepted) ∧
    ((q.dequeue (fun _ => now)).2=
        firstLive (fun r => r.live now) q.queues Priority.levels ↔
      HeadLive (fun r => r.live now) q.queues Priority.levels) := by
  intro q
  have ordered : Ordered q
      ((trace PriorityQueue.step (newPriorityQueue maxDepth) ops).filterMap accepted) := by
    apply run_induction PriorityQueue.step (fun tr q => Ordered q (tr.filterMap accepted))
    · exact fun p => List.suffix_refl _
    · intro tr q op ih
      have next := step_ordered op ih
      cases h : accepted (stepOf PriorityQueue.step q op) with
      | none => simpa [h] using next
      | some r => simpa [h] using next
  refine ⟨ordered,?_⟩
  have nodup : Priority.levels.Nodup := by decide
  rw [dequeue,dequeueFrom_result q nodup]
  exact firstHead_eq_firstLive_iff nodup ordered.keyed

def expiredInFront : List PriorityOp :=
  [.enqueue ⟨.interactive,0,"m","s",16,5,0⟩,.enqueue ⟨.interactive,1,"m","t",16,0,1⟩]

theorem priorityQueue_dequeue_hidden :
    let q := run PriorityQueue.step (newPriorityQueue 10) expiredInFront
    (q.dequeue (fun _ => 10)).2=none ∧
      firstLive (fun r => r.live 10) q.queues Priority.levels=
        some ⟨.interactive,1,"m","t",16,0,1⟩ := by
  decide

end KServeLLM.Inference
