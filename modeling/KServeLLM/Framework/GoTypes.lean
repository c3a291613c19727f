import Mathlib.Algebra.Order.BigOperators.Group.List
import Mathlib.Algebra.Ring.Int.Defs
import Mathlib.Data.List.AList

namespace KServeLLM

instance instAddCommMonoidInt64 : AddCommMonoid Int64 where
  add_assoc := Int64.add_assoc
  zero_add := Int64.zero_add
  add_zero := Int64.add_zero
  add_comm := Int64.add_comm
  nsmul := nsmulRec

theorem toInt_add_of_lt {a b : Int64} (ha : 0 ≤ a.toInt) (hb : 0 ≤ b.toInt)
    (h : a.toInt+b.toInt<2^63) : (a+b).toInt=a.toInt+b.toInt := by
  rw [Int64.toInt_add]
  exact Int.bmod_eq_of_le (by omega) (by omega)

theorem toInt_add_wraps (a b : Int64) (h : 2^63 ≤ a.toInt+b.toInt) : (a+b).toInt<0 := by
  have ha := a.toInt_lt
  have hb := b.toInt_lt
  rw [Int64.toInt_add]
  have hw : (a.toInt+b.toInt).bmod (2^64)=a.toInt+b.toInt-2^64 := by
    rw [← Int.sub_bmod_right]
    exact Int.bmod_eq_of_le (by omega) (by omega)
  omega

theorem toInt_sum_of_lt {l : List Int64} (hpos : ∀x∈l,0 ≤ x.toInt)
    (h : (l.map Int64.toInt).sum<2^63) : l.sum.toInt=(l.map Int64.toInt).sum := by
  induction l with
  | nil => rfl
  | cons x l ih =>
    have rest : 0≤(l.map Int64.toInt).sum := List.sum_nonneg (by
      intro z hz
      obtain ⟨y,hy,rfl⟩ := List.mem_map.mp hz
      exact hpos y (by simp [hy]))
    have hx := hpos x (by simp)
    simp only [List.map_cons,List.sum_cons] at h ⊢
    have tail := ih (fun y hy => hpos y (by simp [hy])) (by omega)
    rw [toInt_add_of_lt hx (by omega) (by omega),tail]

theorem toInt_succ_of_lt {a b : Int32} (h : a < b) : (a+1).toInt=a.toInt+1 := by
  have low := a.le_toInt
  have high := b.toInt_lt
  rw [Int32.lt_iff_toInt_lt] at h
  rw [Int32.toInt_add]
  exact Int.bmod_eq_of_le (by simp; omega) (by simp; omega)

theorem toInt_pred_of_pos {a : Int32} (h : 0 < a) : (a-1).toInt=a.toInt-1 := by
  have high := a.toInt_lt
  rw [Int32.lt_iff_toInt_lt] at h
  have zero : (0 : Int32).toInt=0 := rfl
  rw [Int32.toInt_sub]
  exact Int.bmod_eq_of_le (by simp; omega) (by simp; omega)

theorem int64_toInt_sub_of_le {a b : Int64} (hb : 0 ≤ b) (h : b ≤ a) :
    (a-b).toInt=a.toInt-b.toInt := by
  have high := a.toInt_lt
  rw [Int64.le_iff_toInt_le] at hb h
  have zero : (0 : Int64).toInt=0 := rfl
  rw [Int64.toInt_sub]
  exact Int.bmod_eq_of_le (by omega) (by omega)

theorem uint64_toNat_succ {n : UInt64} {k : Nat} (h : n.toNat=k%2^64) : (n+1).toNat=(k+1)%2^64 := by
  rw [UInt64.toNat_add,h]
  simp

theorem uint64_succ_exact_iff {n : UInt64} : (n+1).toNat=n.toNat+1 ↔ n.toNat+1<2^64 := by
  change (n.toNat+1)%2^64=n.toNat+1 ↔ _
  omega

abbrev Time := Int

abbrev Duration := Int64

namespace Time

def isZero (t : Time) : Bool := decide (t=0)
def after (t u : Time) : Bool := decide (u < t)
def before (t u : Time) : Bool := decide (t < u)
def add (t : Time) (d : Duration) : Time := t+d.toInt

def sub (t u : Time) : Duration :=
  if t-u < Int64.minValue.toInt then Int64.minValue
  else if Int64.maxValue.toInt < t-u then Int64.maxValue
  else Int64.ofInt (t-u)

end Time

namespace Duration

def millisecond : Duration := 1000000
def second : Duration := 1000000000

end Duration

class Float64 (F : Type) extends Add F,Sub F,Mul F,Div F,OfScientific F where
  ofInt : Int → F
  lt : F → F → Bool
  le : F → F → Bool
  max : F → F → F
  min : F → F → F

namespace Float64

def doubleMax (x y : Float) : Float :=
  if (x.isInf && 0.0 < x) || (y.isInf && 0.0 < y) then 1.0/0.0
  else if x.isNaN || y.isNaN then 0.0/0.0
  else if x==0.0 && y==0.0 then (if 1.0/x<0.0 then y else x)
  else if y < x then x else y

def doubleMin (x y : Float) : Float :=
  if (x.isInf && x<0.0) || (y.isInf && y<0.0) then -1.0/0.0
  else if x.isNaN || y.isNaN then 0.0/0.0
  else if x==0.0 && y==0.0 then (if 1.0/x<0.0 then x else y)
  else if x < y then x else y

instance instFloat64Float : Float64 Float where
  ofInt := Float.ofInt
  lt := fun x y => decide (x < y)
  le := fun x y => decide (x ≤ y)
  max := doubleMax
  min := doubleMin

end Float64

def Duration.seconds {F : Type} [Float64 F] (d : Duration) : F :=
  Float64.ofInt (d/Duration.second).toInt+Float64.ofInt (d%Duration.second).toInt/1e9

theorem ok_of_bind {ε α β : Type} {x : Except ε α} {f : α → Except ε β} {b : β}
    (h : (x >>= f)=.ok b) : ∃a,x=.ok a ∧ f a=.ok b := by
  cases x with
  | error e => cases h
  | ok a => exact ⟨a,rfl,h⟩

inductive ErrArg where
  | str (s : String)
  | int (n : Int)
  | time (t : Time)
  deriving DecidableEq

inductive GoError (κ : Type) where
  | sentinel (k : κ)
  | errorf (format : String) (cause : GoError κ) (args : List ErrArg)
  deriving DecidableEq

def GoError.root {κ : Type} : GoError κ → κ
  | .sentinel k => k
  | .errorf _ cause _ => cause.root

structure Errorf where
  format : String
  args : List ErrArg
  deriving DecidableEq

inductive Outcome (α : Type) where
  | ok (value : α)
  | err (error : Errorf)
  | panicked
  deriving DecidableEq

def Outcome.map {α β : Type} (f : α → β) : Outcome α → Outcome β
  | .ok value => .ok (f value)
  | .err error => .err error
  | .panicked => .panicked

theorem Outcome.map_eq_panicked {α β : Type} {f : α → β} {o : Outcome α} :
    o.map f=.panicked ↔ o=.panicked := by cases o <;> simp [Outcome.map]

abbrev GoMap (κ ν : Type) := AList (fun _ : κ => ν)

structure RangeOrder (α : Type) where
  arrange : List α → List α
  perm : ∀ l,(arrange l).Perm l

def RangeOrder.listed (α : Type) : RangeOrder α := ⟨id,fun _ => List.Perm.refl _⟩

end KServeLLM
