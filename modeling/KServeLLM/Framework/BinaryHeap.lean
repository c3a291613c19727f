import Mathlib.Logic.Basic

namespace KServeLLM

structure HeapInterface (σ ε : Type) where
  len : σ → Nat
  less : σ → Nat → Nat → Bool
  swap : σ → Nat → Nat → σ
  push : σ → ε → σ
  pop : σ → Option (ε×σ)

namespace HeapInterface

variable {σ ε : Type} (H : HeapInterface σ ε)

def up (h : σ) (j : Nat) : σ :=
  let i := (j-1)/2
  if _ : i=j then h
  else if H.less h j i then up (H.swap h i j) i
  else h
termination_by j

def child (h : σ) (i n : Nat) : Nat :=
  if 2*i+2 < n && H.less h (2*i+2) (2*i+1) then 2*i+2 else 2*i+1

theorem child_bounds (h : σ) (i n : Nat) (hn : ¬n≤2*i+1) :
    i < H.child h i n ∧ H.child h i n < n := by
  unfold child
  split
  · next hc =>
    simp only [Bool.and_eq_true,decide_eq_true_eq] at hc
    omega
  · omega

def downFrom (h : σ) (i n : Nat) : σ×Nat :=
  if _ : n≤2*i+1 then (h,i)
  else if H.less h (H.child h i n) i then
    downFrom (H.swap h i (H.child h i n)) (H.child h i n) n
  else (h,i)
termination_by n-i
decreasing_by
  have hc := H.child_bounds h i n ‹_›
  omega

def down (h : σ) (i n : Nat) : σ×Bool := ((H.downFrom h i n).1,decide (i<(H.downFrom h i n).2))

def heapPush (h : σ) (x : ε) : σ := H.up (H.push h x) (H.len (H.push h x)-1)

def heapPop (h : σ) : Option (ε×σ) :=
  if H.len h=0 then none
  else H.pop (H.down (H.swap h 0 (H.len h-1)) 0 (H.len h-1)).1

def heapRemove (h : σ) (i : Int) : Option (ε×σ) :=
  if i<0 ∨ H.len h ≤ i then none
  else
    let k := i.toNat
    let n := H.len h-1
    if n=k then H.pop h
    else
      let moved := H.down (H.swap h k n) k n
      H.pop (if moved.2 then moved.1 else H.up moved.1 k)

theorem up_preserves (P : σ → Prop) (n : Nat)
    (keep : ∀ h i j,i < n → j < n → P h → P (H.swap h i j))
    (h : σ) (j : Nat) (hj : j < n) (hp : P h) : P (H.up h j) := by
  induction h,j using up.induct H with
  | case1 h j i he => rw [up,dif_pos he]; exact hp
  | case2 h j i he hl ih =>
    rw [up,dif_neg he,if_pos hl]
    exact ih (by omega) (keep h i j (by omega) hj hp)
  | case3 h j i he hl => rw [up,dif_neg he,if_neg hl]; exact hp

theorem downFrom_preserves (P : σ → Prop) (n : Nat)
    (keep : ∀ h i j,i < n → j < n → P h → P (H.swap h i j))
    (h : σ) (i : Nat) (hp : P h) : P (H.downFrom h i n).1 := by
  induction h,i using downFrom.induct H n with
  | case1 h i hn => rw [downFrom,dif_pos hn]; exact hp
  | case2 h i hn hl ih =>
    have hc := H.child_bounds h i n hn
    rw [downFrom,dif_neg hn,if_pos hl]
    exact ih (keep h i _ (by omega) hc.2 hp)
  | case3 h i hn hl => rw [downFrom,dif_neg hn,if_neg hl]; exact hp

theorem sift_preserves (P : σ → Prop) (n : Nat)
    (keep : ∀ h i j,i < n → j < n → P h → P (H.swap h i j))
    (h : σ) (k : Nat) (hk : k < n) (hp : P h) :
    P (if (H.down h k n).2 then (H.down h k n).1 else H.up (H.down h k n).1 k) := by
  have hd : P (H.down h k n).1 := H.downFrom_preserves P n keep h k hp
  split
  · exact hd
  · exact H.up_preserves P n keep _ k hk hd

end HeapInterface

end KServeLLM
