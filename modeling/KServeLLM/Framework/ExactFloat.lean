import Mathlib.Algebra.Order.Field.Rat
import Mathlib.Tactic.NormNum.OfScientific
import KServeLLM.Framework.GoTypes

namespace KServeLLM

def ExactFloat : Type := ℚ

instance : Float64 ExactFloat where
  add := fun (x y : ℚ) => x+y
  sub := fun (x y : ℚ) => x-y
  mul := fun (x y : ℚ) => x*y
  div := fun (x y : ℚ) => x/y
  ofScientific := fun m sign e => (OfScientific.ofScientific m sign e : ℚ)
  ofInt := fun n => (n : ℚ)
  lt := fun (x y : ℚ) => decide (x < y)
  le := fun (x y : ℚ) => decide (x ≤ y)
  max := (max : ℚ → ℚ → ℚ)
  min := (min : ℚ → ℚ → ℚ)

namespace ExactFloat

def of (q : ℚ) : ExactFloat := q

end ExactFloat

end KServeLLM
