import Mathlib.Logic.Function.Basic

namespace KServeLLM

variable {κ ω α : Type*}

structure Deletion (κ ω : Type*) where
  who : ω
  key : κ
  owner : ω
  deriving DecidableEq

structure OwnedStore (κ ω α : Type*) where
  objects : κ → Option α
  log : List (Deletion κ ω)

variable [DecidableEq κ] (owner : α → ω)

namespace OwnedStore

def create (s : OwnedStore κ ω α) (key : κ) (obj : α) : OwnedStore κ ω α :=
  {s with objects := Function.update s.objects key (some obj)}

def delete (s : OwnedStore κ ω α) (who : ω) (key : κ) (obj : α) (left : Option α) :
    OwnedStore κ ω α :=
  ⟨Function.update s.objects key left,s.log++[⟨who,key,owner obj⟩]⟩

end OwnedStore

inductive Acts (who : ω) (keys : κ → Prop) (s : OwnedStore κ ω α) : OwnedStore κ ω α → Prop
  | refl : Acts who keys s s
  | create {t : OwnedStore κ ω α} {key : κ} {obj : α} (acts : Acts who keys s t)
      (mem : keys key) (mine : owner obj=who) : Acts who keys s (t.create key obj)
  | delete {t : OwnedStore κ ω α} {key : κ} {obj : α} {left : Option α}
      (acts : Acts who keys s t) (mem : keys key) (found : t.objects key=some obj)
      (same : ∀o∈left,owner o=owner obj) : Acts who keys s (t.delete owner who key obj left)

namespace Acts

variable {owner} {who : ω} {keys : κ → Prop} {s t u : OwnedStore κ ω α}

theorem trans (first : Acts owner who keys s t) (second : Acts owner who keys t u) :
    Acts owner who keys s u := by
  induction second with
  | refl => exact first
  | create _ mem mine ih => exact .create ih mem mine
  | delete _ mem found same ih => exact .delete ih mem found same

theorem frame (acts : Acts owner who keys s t) {key : κ} (out : ¬keys key) :
    t.objects key=s.objects key := by
  induction acts with
  | refl => rfl
  | @create t key' obj _ mem mine ih =>
    have other : key≠key' := fun same => out (same ▸ mem)
    exact (Function.update_of_ne other _ _).trans ih
  | @delete t key' obj left _ mem found same ih =>
    have other : key≠key' := fun same => out (same ▸ mem)
    exact (Function.update_of_ne other _ _).trans ih

theorem log_grows (acts : Acts owner who keys s t) : s.log <+: t.log := by
  induction acts with
  | refl => exact List.prefix_refl _
  | create _ _ _ ih => exact ih
  | delete _ _ _ _ ih => exact ih.trans (List.prefix_append _ _)

theorem origin (acts : Acts owner who keys s t) {key : κ} {o : α} (found : t.objects key=some o) :
    keys key ∧ owner o=who ∨ ∃o',s.objects key=some o' ∧ owner o'=owner o := by
  induction acts generalizing o with
  | refl => exact .inr ⟨o,found,rfl⟩
  | @create t key' obj _ mem own ih =>
    by_cases at_key : key=key'
    · subst at_key
      simp only [OwnedStore.create,Function.update_self,Option.some.injEq] at found
      exact .inl ⟨mem,found ▸ own⟩
    · simp only [OwnedStore.create,Function.update_of_ne at_key] at found
      exact ih found
  | @delete t key' obj left _ mem present same ih =>
    by_cases at_key : key=key'
    · subst at_key
      simp only [OwnedStore.delete,Function.update_self] at found
      have kept : owner o=owner obj := same o found
      rw [kept]
      exact ih present
    · simp only [OwnedStore.delete,Function.update_of_ne at_key] at found
      exact ih found

theorem deletes_mine (acts : Acts owner who keys s t)
    (mine : ∀ key o,keys key → s.objects key=some o → owner o=who)
    (before : ∀d∈s.log,d.owner=d.who) : ∀d∈t.log,d.owner=d.who := by
  induction acts with
  | refl => exact before
  | create _ _ _ ih => exact ih
  | @delete t key obj left acts mem found same ih =>
    intro d hd
    rcases List.mem_append.mp hd with old | new
    · exact ih d old
    · obtain rfl := List.mem_singleton.mp new
      rcases acts.origin found with ⟨-,own⟩ | ⟨o',old,sameOwner⟩
      · exact own
      · exact sameOwner.symm.trans (mine key o' mem old)

end Acts

end KServeLLM
