import KServeLLM.Controller.LoraUnload

namespace KServeLLM.Controller.Lora

variable {β : Type}

/-- A pod with the answers to its load requests. -/
structure LoadPod where
  (phase podIP : String)
  attempt : Nat → PodAnswer
  done : Nat → Option String := fun _ => none

structure LoadAnswers where
  pods : Except ApiError (List LoadPod)
  update : Option ApiError := none

def accepted (status : Int) : Bool := status=200 || status=202

def closeFailure (err : String) : String := "close vLLM response body: "++err

/-- A response that ends the loop, or the error to be kept. -/
def judge : PodAnswer → Except String Unit⊕String
  | .transport err => .inr err
  | .response status close =>
    if accepted status then .inl (close.elim (.ok ()) fun err => .error (closeFailure err))
    else
      let lastErr := "vLLM returned non-OK status "++toString status
      .inr (close.elim lastErr fun err => lastErr++"\n"++closeFailure err)

def postLoop (pod : LoadPod) : Nat → Nat → Except String Unit
  | 0,attempt =>
    match judge (pod.attempt attempt) with
    | .inl answer => answer
    | .inr lastErr => .error lastErr
  | left+1,attempt =>
    match judge (pod.attempt attempt) with
    | .inl answer => answer
    | .inr _ =>
      match pod.done attempt with
      | some err => .error err
      | none => postLoop pod left (attempt+1)

def postWithRetry (pod : LoadPod) : Except String Unit := postLoop pod 2 0

def LoadPod.asked (pod : LoadPod) : Bool := pod.phase="Running" && pod.podIP≠""

def registerOnPod (breaker : CircuitBreaker β) (b : β) (pod : LoadPod) : β×Except String Bool :=
  if !pod.asked then (b,.ok false)
  else
    match breaker.execute b (postWithRetry pod) with
    | (b,.error err) => (b,.error err)
    | (b,.ok ()) => (b,.ok true)

def registerPods (breaker : CircuitBreaker β) : β → List LoadPod → β×Except String Unit
  | b,[] => (b,.ok ())
  | b,pod::pods =>
    match registerOnPod breaker b pod with
    | (b,.error err) => (b,.error err)
    | (b,.ok _) => registerPods breaker b pods

def registerWithTargetService (breaker : CircuitBreaker β) (b : β) (svc : String)
    (answers : LoadAnswers) : β×Except String Unit :=
  match answers.pods with
  | .error err => (b,.error err.text)
  | .ok [] => (b,.error ("no pods found for target service "++svc))
  | .ok pods => registerPods breaker b pods

def adapterLoaded : Condition where
  type := "Ready"
  status := "True"
  reason := "AdapterLoaded"
  message := "Adapter successfully hot-swapped into vLLM runtime"

/-- The adapter as it is stored, and the answer of the call. -/
def markLoraReady (lora : LLMLoraAdapter) (update : Option ApiError) :
    LLMLoraAdapter×Except String Duration :=
  if lora.status.activeRevision≠0 then (lora,.ok 0)
  else
    match update with
    | some err => (lora,.error err.text)
    | none =>
      ({lora with status := {lora.status with
        activeRevision := 1,conditions := lora.status.conditions++[adapterLoaded]}},.ok 0)

def registerAndMarkReady (breaker : CircuitBreaker β) (b : β) (lora : LLMLoraAdapter)
    (svc : String) (answers : LoadAnswers) : LLMLoraAdapter×β×Except String Duration :=
  match registerWithTargetService breaker b svc answers with
  | (b,.error _) => (lora,b,.ok (5*Duration.second))
  | (b,.ok ()) =>
    let marked := markLoraReady lora answers.update
    (marked.1,b,marked.2)

def LoadPod.Accepted (pod : LoadPod) : Prop :=
  ∃k<3,∃ status close,pod.attempt k=.response status close ∧ accepted status=true

/-- Some pod runs, and all that can be asked have accepted the adapter. -/
def Served (pods : List LoadPod) : Prop :=
  (∃pod∈pods,pod.phase="Running") ∧ ∀pod∈pods,pod.asked=true → pod.Accepted

variable {breaker : CircuitBreaker β}

theorem judge_ok {answer : PodAnswer} (ok : judge answer=.inl (.ok ())) :
    ∃ status close,answer=.response status close ∧ accepted status=true := by
  rcases answer with err | ⟨status,close⟩
  · simp [judge] at ok
  · refine ⟨status,close,rfl,?_⟩
    by_contra refused
    simp [judge,refused] at ok

theorem postLoop_ok {pod : LoadPod} {left attempt : Nat} (ok : postLoop pod left attempt=.ok ()) :
    ∃k ≤ attempt+left,judge (pod.attempt k)=.inl (.ok ()) := by
  induction left generalizing attempt with
  | zero =>
    rw [postLoop] at ok
    split at ok
    · next judged => exact ⟨attempt,le_refl _,ok ▸ judged⟩
    · cases ok
  | succ left ih =>
    rw [postLoop] at ok
    split at ok
    · next judged => exact ⟨attempt,by omega,ok ▸ judged⟩
    · split at ok
      · cases ok
      · obtain ⟨k,bound,judged⟩ := ih ok
        exact ⟨k,by omega,judged⟩

theorem registerOnPod_ok {b : β} {pod : LoadPod} {registered : Bool}
    (ok : (registerOnPod breaker b pod).2=.ok registered) (asked : pod.asked=true) :
    pod.Accepted := by
  have sent := (execute_ok breaker b (postWithRetry pod)).mp
  unfold registerOnPod at ok
  simp only [asked,Bool.not_true,Bool.false_eq_true,if_false] at ok
  split at ok
  · cases ok
  · next answered =>
    obtain ⟨k,bound,judged⟩ := postLoop_ok (sent (congrArg Prod.snd answered)).2
    exact ⟨k,by omega,judge_ok judged⟩

theorem registerPods_ok {b : β} {pods : List LoadPod}
    (ok : (registerPods breaker b pods).2=.ok ()) :
    ∀pod∈pods,pod.asked=true → pod.Accepted := by
  induction pods generalizing b with
  | nil => simp
  | cons pod pods ih =>
    rw [registerPods] at ok
    split at ok
    · cases ok
    · next answered =>
      exact List.forall_mem_cons.mpr ⟨registerOnPod_ok (congrArg Prod.snd answered),ih ok⟩

theorem registerPods_idle {b : β} {pods : List LoadPod} (idle : ∀pod∈pods,pod.phase≠"Running") :
    registerPods breaker b pods=(b,.ok ()) := by
  induction pods with
  | nil => rfl
  | cons pod pods ih =>
    obtain ⟨here,rest⟩ := List.forall_mem_cons.mp idle
    simp [registerPods,registerOnPod,LoadPod.asked,here,ih rest]

/-- A service without a running pod takes the adapter for loaded. -/
theorem marked_served_iff (breaker : CircuitBreaker β) (b : β) (lora : LLMLoraAdapter)
    (svc : String) (answers : LoadAnswers) :
    ((registerAndMarkReady breaker b lora svc answers).1.status.conditions≠lora.status.conditions →
      ∃pods,answers.pods=.ok pods ∧ Served pods) ↔
    lora.status.activeRevision≠0 ∨ answers.update≠none ∨
      ∀pods,answers.pods=.ok pods → pods=[] ∨ ∃pod∈pods,pod.phase="Running" := by
  unfold registerAndMarkReady registerWithTargetService markLoraReady
  by_cases revised : lora.status.activeRevision=0
  swap
  · simp only [revised,ne_eq,not_false_eq_true,if_true,true_or,iff_true]
    repeat' split
    all_goals exact fun changed => absurd rfl changed
  cases update : answers.update with
  | some err =>
    simp only [revised,ne_eq,not_true,if_false,reduceCtorEq,not_false_eq_true,true_or,or_true,
      iff_true]
    repeat' split
    all_goals exact fun changed => absurd rfl changed
  | none =>
    simp only [revised,ne_eq,not_true,if_false,false_or]
    rcases listed : answers.pods with err | _ | ⟨pod,pods⟩
    · simp
    · simp
    · simp only [Except.ok.injEq,forall_eq',exists_eq_left',reduceCtorEq,false_or]
      constructor
      · intro law
        by_contra idle
        simp only [not_exists,not_and] at idle
        rw [registerPods_idle idle] at law
        obtain ⟨runs,mem,phase⟩ := (law (by simp)).1
        exact idle runs mem phase
      · intro runs changed
        refine ⟨runs,?_⟩
        split at changed
        · exact absurd rfl changed
        · next answered => exact registerPods_ok (congrArg Prod.snd answered)

def newAdapter : LLMLoraAdapter := {ns := "default",name := "sql",uid := "1"}

def pendingPods : List LoadPod := [⟨"Pending","",fun _ => .transport "refused",fun _ => none⟩]

theorem pending_pod_ready :
    (registerAndMarkReady closedBreaker () newAdapter "llm" ⟨.ok pendingPods,none⟩
      ).1.status.conditions=[adapterLoaded] ∧ ¬Served pendingPods := by
  refine ⟨by decide,?_⟩
  rintro ⟨⟨pod,mem,phase⟩,_⟩
  rw [List.mem_singleton.mp mem] at phase
  exact absurd phase (by decide)

end KServeLLM.Controller.Lora
