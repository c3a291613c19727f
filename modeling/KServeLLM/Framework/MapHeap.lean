import KServeLLM.Framework.MapContents

namespace KServeLLM

abbrev MapHeap (κ ν : Type) := List (GoMap κ ν)

abbrev MapRef := Option Nat

namespace MapHeap

variable {κ ν : Type}

section

def read (h : MapHeap κ ν) : MapRef → GoMap κ ν
  | none => ∅
  | some a => h[a]?.getD ∅

def make (h : MapHeap κ ν) : MapHeap κ ν := h++[∅]

structure Kept (h h' : MapHeap κ ν) : Prop where
  size : h.length ≤ h'.length
  maps : ∀a < h.length,h'.read (some a)=h.read (some a)

variable {h h' h'' : MapHeap κ ν}

theorem Kept.refl {h : MapHeap κ ν} : Kept h h := ⟨le_refl _,fun _ _ => rfl⟩

theorem Kept.trans (first : Kept h h') (second : Kept h' h'') : Kept h h'' := by
  refine ⟨le_trans first.size second.size,fun a inside => ?_⟩
  rw [second.maps a (lt_of_lt_of_le inside first.size),first.maps a inside]

theorem Kept.read (kept : Kept h h') {ref : MapRef} (held : ∀a∈ref,a < h.length) :
    h'.read ref=h.read ref := by
  cases ref with
  | none => rfl
  | some a => exact kept.maps a (held a rfl)

theorem make_length (h : MapHeap κ ν) : h.make.length=h.length+1 := by simp [make]

theorem read_outside {h : MapHeap κ ν} {a : Nat} (outside : h.length ≤ a) : h.read (some a)=∅ := by
  rw [MapHeap.read,List.getElem?_eq_none outside]
  rfl

theorem make_read (h : MapHeap κ ν) (ref : MapRef) : h.make.read ref=h.read ref := by
  cases ref with
  | none => rfl
  | some a =>
    rcases lt_trichotomy a h.length with inside | here | outside
    · rw [make,MapHeap.read,List.getElem?_append_left inside]
      rfl
    · rw [here]
      simp [make,MapHeap.read]
    · rw [read_outside outside.le,read_outside (by rw [make_length]; omega)]

end

variable [DecidableEq κ]

def assign (h : MapHeap κ ν) (a : Nat) (k : κ) (v : ν) : MapHeap κ ν := h.modify a (·.insert k v)

def copyInto (h : MapHeap κ ν) (target : Nat) (order : RangeOrder ((_ : κ) × ν))
    (source : MapRef) : MapHeap κ ν :=
  (order.arrange (h.read source).entries).foldl (fun h e => h.assign target e.1 e.2) h

theorem assign_read {h : MapHeap κ ν} {a : Nat} (inside : a < h.length) (k : κ) (v : ν) (b : Nat) :
    (h.assign a k v).read (some b)=
      if b=a then (h.read (some a)).insert k v else h.read (some b) := by
  simp only [MapHeap.read,assign]
  by_cases here : b=a
  · subst here
    simp [inside]
  · simp [here,Ne.symm]

theorem assign_length (h : MapHeap κ ν) (a : Nat) (k : κ) (v : ν) :
    (h.assign a k v).length=h.length := List.length_modify ..

theorem foldl_assign (h : MapHeap κ ν) {target : Nat} (inside : target < h.length)
    {es : List ((_ : κ) × ν)} :
    (es.foldl (fun h e => h.assign target e.1 e.2) h).length=h.length ∧
    ∀b,(es.foldl (fun h e => h.assign target e.1 e.2) h).read (some b)=
      if b=target then assignAll (h.read (some target)) es else h.read (some b) := by
  induction es generalizing h with
  | nil =>
    refine ⟨rfl,fun b => ?_⟩
    split_ifs with here
    · rw [here]
      rfl
    · rfl
  | cons e es ih =>
    have size := assign_length h target e.1 e.2
    obtain ⟨length,reads⟩ := ih (h.assign target e.1 e.2) (by rw [size]; exact inside)
    refine ⟨length.trans size,fun b => ?_⟩
    rw [List.foldl_cons,reads,assign_read inside,assign_read inside,if_pos rfl]
    split_ifs <;> rfl

theorem copyInto_spec {h : MapHeap κ ν} {target : Nat} (inside : target < h.length)
    {order : RangeOrder ((_ : κ) × ν)} {source : MapRef} :
    (h.copyInto target order source).length=h.length ∧
    (∀b,b≠target → (h.copyInto target order source).read (some b)=h.read (some b)) ∧
    ∀k,((h.copyInto target order source).read (some target)).lookup k=
      ((h.read source).lookup k).or ((h.read (some target)).lookup k) := by
  obtain ⟨length,reads⟩ := foldl_assign h inside
  refine ⟨length,fun b other => (reads b).trans (if_neg other),fun k => ?_⟩
  rw [copyInto,reads,if_pos rfl]
  exact lookup_copied order (h.read source)

end MapHeap

end KServeLLM
