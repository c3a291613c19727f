import KServeLLM.Controller.Objects
import KServeLLM.Controller.SessionReconciler

namespace KServeLLM.Controller.Lora

variable {Selector β : Type}

structure CircuitBreaker (β : Type) where
  refuses : β → Option String
  after : β → Bool → β

def CircuitBreaker.execute (breaker : CircuitBreaker β) (b : β) (request : Except String Unit) :
    β×Except String Unit :=
  match breaker.refuses b with
  | some err => (b,.error err)
  | none => (breaker.after b request.isOk,request)

inductive PodAnswer where
  | transport (err : String)
  | response (status : Int) (close : Option String)

structure Pod where
  (name phase podIP : String)
  answer : PodAnswer

structure FinalizeAnswers (Selector : Type) where
  service : Option ApiError
  pods : Except ApiError (List Pod)
  cache : Except ApiError (LocalModelCache Selector)
  (delete patch : Option ApiError)

def unloadRequest (pod : Pod) : Except String Unit :=
  match pod.answer with
  | .transport err => .error err
  | .response _ (some err) => .error ("close unload response body: "++err)
  | .response _ none => .ok ()

def Pod.asked (pod : Pod) : Bool := pod.phase="Running" && pod.podIP≠""

def unloadPods (breaker : CircuitBreaker β) (lora : LLMLoraAdapter) :
    β → List Pod → β×Except String Unit
  | b,[] => (b,.ok ())
  | b,pod::pods =>
    if !pod.asked then unloadPods breaker lora b pods
    else
      match breaker.execute b (unloadRequest pod) with
      | (b,.error err) =>
        (b,.error ("unload adapter "++lora.adapterName.quote++" from pod "++pod.name.quote++": "++
          err))
      | (b,.ok ()) => unloadPods breaker lora b pods

def unloadFromTargetService (breaker : CircuitBreaker β) (lora : LLMLoraAdapter)
    (answers : FinalizeAnswers Selector) (b : β) : β×Except String Unit :=
  match answers.service with
  | some .notFound => (b,.ok ())
  | some err => (b,.error err.text)
  | none =>
    match answers.pods with
    | .error err => (b,.error err.text)
    | .ok pods => unloadPods breaker lora b pods

def deleteLoraCache (lora : LLMLoraAdapter) (answers : FinalizeAnswers Selector) :
    Except String Unit :=
  match answers.cache with
  | .error .notFound => .ok ()
  | .error err => .error err.text
  | .ok cache => do
    validateLoraCacheOwner cache lora
    match answers.delete with
    | none | some .notFound => .ok ()
    | some err => .error err.text

structure Finalized (β : Type) where
  finalizers : List String
  breaker : β
  result : Except String Unit

def finalizeLora (breaker : CircuitBreaker β) (lora : LLMLoraAdapter)
    (answers : FinalizeAnswers Selector) (b : β) : Finalized β :=
  if loraFinalizer∉lora.finalizers then ⟨lora.finalizers,b,.ok ()⟩
  else
    match unloadFromTargetService breaker lora answers b with
    | (b,.error err) => ⟨lora.finalizers,b,.error ("unload LoRA adapter: "++err)⟩
    | (b,.ok ()) =>
      match deleteLoraCache lora answers with
      | .error err => ⟨lora.finalizers,b,.error ("delete LoRA cache: "++err)⟩
      | .ok () =>
        match answers.patch with
        | some err => ⟨lora.finalizers,b,.error err.text⟩
        | none => ⟨lora.finalizers.filter (·≠loraFinalizer),b,.ok ()⟩

def Pod.Succeeded (pod : Pod) : Prop :=
  ∃ status close,pod.answer=.response status close ∧ 200 ≤ status ∧ status<300

def Unloaded (answers : FinalizeAnswers Selector) : Prop := answers.service=some .notFound ∨
    ∃pods,answers.pods=.ok pods ∧ ∀pod∈pods,pod.asked=true → pod.Succeeded

def Responds (breaker : CircuitBreaker β) : β → List Pod → Prop
  | _,[] => True
  | b,pod::pods =>
    if pod.asked then
      breaker.refuses b=none ∧ (∃status,pod.answer=.response status none) ∧
        Responds breaker (breaker.after b true) pods
    else Responds breaker b pods

structure Released (breaker : CircuitBreaker β) (lora : LLMLoraAdapter)
    (answers : FinalizeAnswers Selector) (b : β) (pods : List Pod) : Prop where
  service : answers.service=none
  listed : answers.pods=.ok pods
  responds : Responds breaker b pods
  cache : deleteLoraCache lora answers=.ok ()
  patch : answers.patch=none

theorem unloadRequest_ok {pod : Pod} :
    unloadRequest pod=.ok () ↔ ∃status,pod.answer=.response status none := by
  unfold unloadRequest
  rcases pod.answer with _ | ⟨_,_ | _⟩ <;> simp

variable (breaker : CircuitBreaker β)

theorem execute_ok (b : β) (request : Except String Unit) :
    (breaker.execute b request).2=.ok () ↔ breaker.refuses b=none ∧ request=.ok () := by
  unfold CircuitBreaker.execute
  cases breaker.refuses b with
  | some err => simp
  | none => simp

theorem unloadPods_ok (lora : LLMLoraAdapter) (b : β)
    (pods : List Pod) : (unloadPods breaker lora b pods).2=.ok () ↔ Responds breaker b pods := by
  induction pods generalizing b with
  | nil => simp [unloadPods,Responds]
  | cons pod pods ih =>
    by_cases asked : pod.asked=true
    · have sent := execute_ok breaker b (unloadRequest pod)
      rw [unloadRequest_ok] at sent
      simp only [unloadPods,Responds,asked,Bool.not_true,Bool.false_eq_true,if_false]
      cases h : breaker.execute b (unloadRequest pod) with
      | mk next result =>
        rw [h] at sent
        cases result with
        | error err =>
          have stopped : ¬(breaker.refuses b=none ∧ ∃status,pod.answer=.response status none) :=
            fun both => by simpa using sent.mpr both
          simp only [reduceCtorEq,false_iff]
          exact fun all => stopped ⟨all.1,all.2.1⟩
        | ok _ =>
          obtain ⟨admitted,responded⟩ := sent.mp rfl
          have state : next=breaker.after b true := by
            have request := (unloadRequest_ok).mpr responded
            simpa [CircuitBreaker.execute,admitted,request,Except.toBool]
              using (congrArg Prod.fst h).symm
          simp [ih,state,admitted,responded,true_and]
    · simp only [unloadPods,Responds,asked] at *
      simp [ih]

theorem removed_iff {lora : LLMLoraAdapter}
    {answers : FinalizeAnswers Selector} {b : β} (present : loraFinalizer∈lora.finalizers) :
    loraFinalizer∉(finalizeLora breaker lora answers b).finalizers ↔
      (answers.service=some .notFound ∧ deleteLoraCache lora answers=.ok () ∧
        answers.patch=none) ∨ ∃pods,Released breaker lora answers b pods := by
  have unload : (unloadFromTargetService breaker lora answers b).2=.ok () ↔
      answers.service=some .notFound ∨ (answers.service=none ∧
        ∃pods,answers.pods=.ok pods ∧ Responds breaker b pods) := by
    unfold unloadFromTargetService
    rcases answers.service with _ | _ | _
    · cases answers.pods with
      | error err => simp
      | ok pods => simp [unloadPods_ok]
    · simp
    · simp
  have parts : (∃pods,Released breaker lora answers b pods) ↔
      ((answers.service=none ∧ ∃pods,answers.pods=.ok pods ∧ Responds breaker b pods) ∧
        deleteLoraCache lora answers=.ok () ∧ answers.patch=none) :=
    ⟨fun ⟨pods,h⟩ => ⟨⟨h.service,pods,h.listed,h.responds⟩,h.cache,h.patch⟩,
      fun ⟨⟨service,pods,listed,responds⟩,cache,patch⟩ =>
        ⟨pods,service,listed,responds,cache,patch⟩⟩
  rw [parts,← or_and_right,← unload]
  simp only [finalizeLora,present,not_true]
  cases unloadFromTargetService breaker lora answers b with
  | mk next result =>
    cases result with
    | error err => simp [present]
    | ok _ =>
      cases deleteLoraCache lora answers with
      | error err => simp [present]
      | ok _ =>
        cases answers.patch with
        | some err => simp [present]
        | none => simp

theorem finalizer_removed_unloaded_iff (breaker : CircuitBreaker β) (lora : LLMLoraAdapter)
    (answers : FinalizeAnswers Selector) (b : β) :
    (loraFinalizer∈lora.finalizers →
        loraFinalizer∉(finalizeLora breaker lora answers b).finalizers → Unloaded answers) ↔
      (loraFinalizer∈lora.finalizers → ∀pods,Released breaker lora answers b pods →
        ∀pod∈pods,pod.asked=true → pod.Succeeded) := by
  constructor
  · intro law present pods released
    have removed := (removed_iff breaker present).mpr (.inr ⟨pods,released⟩)
    rcases law present removed with gone | ⟨listed,same,all⟩
    · simp [released.service] at gone
    · obtain rfl : pods=listed := by simpa [released.listed] using same
      exact all
  · intro success present removed
    rcases (removed_iff breaker present).mp removed with ⟨gone,_⟩ | ⟨pods,released⟩
    · exact .inl gone
    · exact .inr ⟨pods,released.listed,success present pods released⟩

def closedBreaker : CircuitBreaker Unit := ⟨fun _ => none,fun _ _ => ()⟩

def leavingAdapter : LLMLoraAdapter where
  ns := "default"
  name := "sql"
  uid := "1"
  finalizers := [loraFinalizer]
  targetService := "llm"
  adapterName := "sql-helper"

def refusingPod : FinalizeAnswers Unit where
  service := none
  pods := .ok [⟨"llm-0","Running","10.0.0.1",.response 500 none⟩]
  cache := .error .notFound
  delete := none
  patch := none

theorem refused_unload_released :
    (finalizeLora closedBreaker leavingAdapter refusingPod ()).finalizers=[] ∧
      ¬Unloaded refusingPod := by
  refine ⟨by decide,?_⟩
  rintro (gone | ⟨_,listed,all⟩)
  · simp [refusingPod] at gone
  · obtain rfl := Except.ok.inj listed
    obtain ⟨_,_,answer,_,_⟩ := all _ (List.mem_singleton.mpr rfl) (by decide)
    simp only [PodAnswer.response.injEq] at answer
    omega

end KServeLLM.Controller.Lora
