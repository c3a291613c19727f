import Mathlib.Data.List.Nodup

namespace KServeLLM

variable {α : Type*} [DecidableEq α]

def pushWindow (n : Nat) (w : List α) (x : α) : List α :=
  if x∈w then w else (if n ≤ w.length then w.tail else w)++[x]

def window (n : Nat) (xs : List α) : List α := xs.foldl (pushWindow n) []

theorem window_snoc (n : Nat) (xs : List α) (x : α) :
    window n (xs++[x])=pushWindow n (window n xs) x := by
  simp [window]

variable {n : Nat} {w : List α} {x : α}

theorem mem_pushWindow : x∈pushWindow n w x := by
  unfold pushWindow
  split_ifs <;> simp_all

theorem pushWindow_length (positive : 0 < n)
    (bounded : w.length ≤ n) : (pushWindow n w x).length ≤ n := by
  unfold pushWindow
  split_ifs with here full
  · exact bounded
  · simp only [List.length_append,List.length_tail,List.length_singleton]
    omega
  · simp only [List.length_append,List.length_singleton]
    omega

theorem mem_of_mem_push {y : α} (h : y∈pushWindow n w x) : y∈w ∨ y=x := by
  unfold pushWindow at h
  split_ifs at h with here full
  · exact .inl h
  · rcases List.mem_append.mp h with old | new
    · exact .inl (List.mem_of_mem_tail old)
    · exact .inr (List.mem_singleton.mp new)
  · rcases List.mem_append.mp h with old | new
    · exact .inl old
    · exact .inr (List.mem_singleton.mp new)

end KServeLLM
