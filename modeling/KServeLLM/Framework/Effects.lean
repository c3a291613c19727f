import Mathlib.Data.List.Basic

namespace KServeLLM

structure Effects (Op ε α : Type) where
  ops : List Op
  result : Except ε α

namespace Effects

variable {Op ε α β : Type}

def bind (x : Effects Op ε α) (f : α → Effects Op ε β) : Effects Op ε β :=
  match x.result with
  | .ok a => ⟨x.ops++(f a).ops,(f a).result⟩
  | .error e => ⟨x.ops,.error e⟩

instance : Monad (Effects Op ε) where
  pure a := ⟨[],.ok a⟩
  bind := bind

def fail (e : ε) : Effects Op ε α := ⟨[],.error e⟩

def lift (x : Except ε α) : Effects Op ε α := ⟨[],x⟩

def require (refusal : Option ε) : Effects Op ε Unit :=
  match refusal with
  | none => pure ()
  | some e => fail e

def perform (op : Op) (refusal : Option ε) : Effects Op ε Unit :=
  match refusal with
  | none => ⟨[op],.ok ()⟩
  | some e => fail e

def record (op : Op) : Effects Op ε Unit := ⟨[op],.ok ()⟩

def onFailure (x : Effects Op ε α) (op : Op) : Effects Op ε α :=
  match x.result with
  | .ok _ => x
  | .error _ => ⟨x.ops++[op],x.result⟩

def gather (xs : List (Effects Op ε Unit)) : Effects Op ε (List ε) :=
  ⟨xs.flatMap ops,.ok (xs.filterMap fun x => match x.result with
    | .ok _ => none
    | .error e => some e)⟩

def mapError {ε' : Type} (f : ε → ε') (x : Effects Op ε α) : Effects Op ε' α :=
  ⟨x.ops,match x.result with
    | .ok a => .ok a
    | .error e => .error (f e)⟩

def Within (Q : Op → Prop) (x : Effects Op ε α) : Prop := ∀op∈x.ops,Q op

variable {op : Op} {x : Effects Op ε α} {f : β → Effects Op ε PUnit} {xs : List β} {a : α}
  {refusal : Option ε}

section

variable {Q : Op → Prop}

theorem within_pure : (pure a : Effects Op ε α).Within Q := by
  intro op mem
  cases mem

theorem within_fail {e : ε} : (fail e : Effects Op ε α).Within Q := by
  intro op mem
  cases mem

theorem within_lift {x : Except ε α} : (lift x : Effects Op ε α).Within Q := by
  intro op mem
  cases mem

theorem within_require : (require refusal : Effects Op ε Unit).Within Q := by
  cases refusal with
  | none => exact within_pure
  | some e => exact within_fail

theorem within_record (h : Q op) : (record op : Effects Op ε Unit).Within Q := by
  intro x mem
  exact List.mem_singleton.mp mem ▸ h

theorem within_perform (h : Q op) : (perform op refusal).Within Q := by
  cases refusal with
  | none => exact within_record (ε := ε) h
  | some e => exact within_fail

theorem Within.bind {f : α → Effects Op ε β} (first : x.Within Q)
    (rest : ∀a,x.result=.ok a → (f a).Within Q) : (x >>= f).Within Q := by
  intro op mem
  change op∈(Effects.bind x f).ops at mem
  unfold Effects.bind at mem
  cases ended : x.result with
  | error e =>
    rw [ended] at mem
    exact first op mem
  | ok a =>
    rw [ended] at mem
    rcases List.mem_append.mp mem with early | late
    · exact first op early
    · exact rest a ended op late

theorem Within.onFailure (h : x.Within Q) (after : Q op) : (x.onFailure op).Within Q := by
  intro y mem
  unfold Effects.onFailure at mem
  cases ended : x.result with
  | ok a =>
    rw [ended] at mem
    exact h y mem
  | error e =>
    rw [ended] at mem
    rcases List.mem_append.mp mem with early | late
    · exact h y early
    · exact List.mem_singleton.mp late ▸ after

theorem Within.mapError {ε' : Type} (h : x.Within Q) (f : ε → ε') : (x.mapError f).Within Q := h

theorem within_gather {xs : List (Effects Op ε Unit)} (h : ∀x∈xs,x.Within Q) :
    (gather xs).Within Q := by
  intro op mem
  obtain ⟨x,among,inside⟩ := List.mem_flatMap.mp mem
  exact h x among op inside

theorem within_forM (h : ∀x∈xs,(f x).Within Q) : (forM xs f).Within Q := by
  induction xs with
  | nil => exact within_pure
  | cons x xs ih =>
    exact (h x List.mem_cons_self).bind fun _ _ =>
      ih fun y mem => h y (List.mem_cons_of_mem x mem)

end

theorem bind_of_ok (h : x.result=.ok a) (f : α → Effects Op ε β) : (x >>= f).ops=x.ops++(f a).ops ∧
      (x >>= f).result=(f a).result := by
  change (Effects.bind x f).ops=_ ∧ (Effects.bind x f).result=_
  unfold Effects.bind
  rw [h]
  exact ⟨rfl,rfl⟩

theorem forM_of_ok (h : ∀x∈xs,(f x).result=.ok PUnit.unit) :
    (forM xs f).ops=xs.flatMap (fun x => (f x).ops) ∧ (forM xs f).result=.ok PUnit.unit := by
  induction xs with
  | nil => exact ⟨rfl,rfl⟩
  | cons x xs ih =>
    have rest := ih fun y mem => h y (List.mem_cons_of_mem x mem)
    have whole := bind_of_ok (h x List.mem_cons_self) (fun _ => forM xs f)
    rw [List.forM_cons,whole.1,whole.2,rest.1,rest.2]
    exact ⟨rfl,rfl⟩

variable {u : Unit}

theorem perform_ok (h : (perform op refusal).result=.ok u) : (perform op refusal).ops=[op] := by
  cases refusal with
  | none => rfl
  | some e => cases h

theorem require_ok (h : (require refusal : Effects Op ε Unit).result=.ok u) :
    (require refusal : Effects Op ε Unit).ops=[] := by
  cases refusal with
  | none => rfl
  | some e => cases h

theorem result_bind_ok {f : α → Effects Op ε β} {b : β}
    (h : (x >>= f).result=.ok b) : ∃a,x.result=.ok a ∧ (f a).result=.ok b := by
  change (Effects.bind x f).result=_ at h
  unfold Effects.bind at h
  cases outcome : x.result with
  | error e => simp [outcome] at h
  | ok a => exact ⟨a,rfl,by simpa [outcome] using h⟩

theorem result_forM_ok
    (h : (forM xs f).result=.ok PUnit.unit) : ∀x∈xs,(f x).result=.ok PUnit.unit := by
  induction xs with
  | nil => exact fun x mem => absurd mem List.not_mem_nil
  | cons x xs ih =>
    obtain ⟨_,first,rest⟩ := result_bind_ok h
    exact List.forall_mem_cons.mpr ⟨first,ih rest⟩

end Effects

end KServeLLM
