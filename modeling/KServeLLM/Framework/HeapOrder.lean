import KServeLLM.Framework.BinaryHeap
import Mathlib.Logic.Equiv.Basic

namespace KServeLLM.HeapInterface

variable {σ ε : Type} (H : HeapInterface σ ε)

structure Lawful : Prop where
  swap_len : ∀{h i j},i < H.len h → j < H.len h → H.len (H.swap h i j)=H.len h
  swap_less : ∀{h i j},i < H.len h → j < H.len h → ∀a b,
    H.less (H.swap h i j) a b=H.less h (Equiv.swap i j a) (Equiv.swap i j b)
  push_len : ∀h x,H.len (H.push h x)=H.len h+1
  push_less : ∀h x {a b},a < H.len h → b < H.len h → H.less (H.push h x) a b=H.less h a b
  pop_len : ∀{h x h'},H.pop h=some (x,h') → H.len h=H.len h'+1
  pop_less : ∀{h x h'},H.pop h=some (x,h') → ∀{a b},a < H.len h' → b < H.len h' →
    H.less h' a b=H.less h a b
  asymm : ∀{h a b},H.less h a b=true → H.less h b a=false
  cotrans : ∀{h a b c},a < H.len h → b < H.len h → c < H.len h →
    H.less h a c=true → H.less h a b=true ∨ H.less h b c=true

def Ordered (h : σ) (n : Nat) : Prop := ∀c,0 < c → c < n → H.less h c ((c-1)/2)=false

structure LooseAbove (h : σ) (n j : Nat) : Prop where
  edges : ∀c,0 < c → c < n → c≠j → H.less h c ((c-1)/2)=false
  bridge : ∀c,0 < c → c < n → (c-1)/2=j → 0 < j → H.less h c ((j-1)/2)=false

structure LooseAround (h : σ) (n i : Nat) : Prop where
  edges : ∀c,0 < c → c < n → c≠i → (c-1)/2≠i → H.less h c ((c-1)/2)=false
  bridge : ∀c,0 < c → c < n → (c-1)/2=i → 0 < i → H.less h c ((i-1)/2)=false

variable {H}

section

variable (L : H.Lawful) {h : σ} {a b c : Nat}

include L

theorem Lawful.irrefl (h : σ) (a : Nat) : H.less h a a=false := by
  cases less : H.less h a a with
  | false => rfl
  | true => exact less.symm.trans (L.asymm less)

theorem Lawful.below_trans (ha : a < H.len h) (hb : b < H.len h) (hc : c < H.len h)
    (ab : H.less h a b=false) (bc : H.less h b c=false) : H.less h a c=false := by
  by_contra less
  rcases L.cotrans ha hb hc (Bool.not_eq_false _ ▸ less) with first | second
  · simp [ab] at first
  · simp [bc] at second

theorem Lawful.below_of_less (ha : a < H.len h) (hb : b < H.len h) (hc : c < H.len h)
    (less : H.less h a b=true) (cb : H.less h c b=false) : H.less h c a=false :=
  L.below_trans hc hb ha cb (L.asymm less)

end

theorem LooseAbove.ordered_of_edge {h : σ} {n j : Nat} (loose : H.LooseAbove h n j)
    (edge : 0 < j → H.less h j ((j-1)/2)=false) : H.Ordered h n := by
  intro c pos below
  by_cases same : c=j
  · subst same
    exact edge pos
  · exact loose.edges c pos below same

variable {n : Nat}

section

variable (L : H.Lawful)

include L

theorem Lawful.looseAbove_swap {h : σ} {n j : Nat} (loose : H.LooseAbove h n j) (hj : j < n)
    (hn : n ≤ H.len h) (pos : 0 < j) (less : H.less h j ((j-1)/2)=true) :
    H.LooseAbove (H.swap h ((j-1)/2) j) n ((j-1)/2) := by
  have small : (j-1)/2<j := by omega
  obtain ⟨i,hi⟩ : ∃i,(j-1)/2=i := ⟨_,rfl⟩
  rw [hi] at less small ⊢
  have moved := L.swap_less (h := h) (i := i) (j := j) (by omega) (by omega)
  refine ⟨fun c low high other => ?_,fun c low high child above => ?_⟩
  · rw [moved]
    by_cases here : c=j
    · -- the old parent now hangs below the element
      rw [here,hi,Equiv.swap_apply_right,Equiv.swap_apply_left]
      exact L.asymm less
    · rw [Equiv.swap_apply_of_ne_of_ne other here]
      by_cases under : (c-1)/2=j
      · rw [under,Equiv.swap_apply_right,← hi]
        exact loose.bridge c low high under pos
      · by_cases beside : (c-1)/2=i
        · have edge := loose.edges c low high here
          rw [beside] at edge
          rw [beside,Equiv.swap_apply_left]
          exact L.below_of_less (by omega) (by omega) (by omega) less edge
        · rw [Equiv.swap_apply_of_ne_of_ne beside under]
          exact loose.edges c low high here
  · have edge := loose.edges i above (by omega) (by omega)
    rw [moved,Equiv.swap_apply_of_ne_of_ne (show (i-1)/2≠i by omega) (show (i-1)/2≠j by omega)]
    by_cases here : c=j
    · rw [here,Equiv.swap_apply_right]
      exact edge
    · rw [Equiv.swap_apply_of_ne_of_ne (show c≠i by omega) here]
      have side := loose.edges c low high here
      rw [child] at side
      exact L.below_trans (by omega) (by omega) (by omega) side edge

theorem Lawful.up_ordered (h : σ) (j : Nat) (hj : j < n) (hn : n ≤ H.len h)
    (loose : H.LooseAbove h n j) : H.Ordered (H.up h j) n := by
  induction h,j using up.induct H with
  | case1 h j i he =>
    rw [up,dif_pos he]
    exact loose.ordered_of_edge (by omega)
  | case2 h j i he less ih =>
    rw [up,dif_neg he,if_pos less]
    refine ih (by omega) ?_ (L.looseAbove_swap loose hj hn (by omega) less)
    rw [L.swap_len (by omega) (by omega)]
    exact hn
  | case3 h j i he less =>
    rw [up,dif_neg he,if_neg less]
    exact loose.ordered_of_edge fun _ => by simpa using less

theorem Lawful.child_first (h : σ) {i n c : Nat} (pos : 0 < c) (hc : c < n)
    (child : (c-1)/2=i) : H.less h c (H.child h i n)=false := by
  unfold HeapInterface.child
  split
  · next right =>
    simp only [Bool.and_eq_true] at right
    rcases (show c=2*i+1 ∨ c=2*i+2 by omega) with rfl | rfl
    · exact L.asymm right.2
    · exact L.irrefl h _
  · next left =>
    rcases (show c=2*i+1 ∨ c=2*i+2 by omega) with rfl | rfl
    · exact L.irrefl h _
    · simpa [hc] using left

theorem Lawful.looseAround_swap {h : σ} {n i : Nat} (loose : H.LooseAround h n i)
    (hn : n ≤ H.len h) (inner : ¬n≤2*i+1) (less : H.less h (H.child h i n) i=true) :
    H.LooseAround (H.swap h i (H.child h i n)) n (H.child h i n) ∧
      H.less (H.swap h i (H.child h i n)) (H.child h i n) i=false ∧
      (H.child h i n-1)/2=i := by
  have bounds := H.child_bounds h i n inner
  have first (c : Nat) := L.child_first h (i := i) (n := n) (c := c)
  have parent : (H.child h i n-1)/2=i := by
    unfold HeapInterface.child
    split <;> omega
  generalize H.child h i n=k at *
  have moved := L.swap_less (h := h) (i := i) (j := k) (by omega) (by omega)
  refine ⟨⟨fun c low high other apart => ?_,fun c low high child above => ?_⟩,?_,parent⟩
  · rw [moved]
    by_cases here : c=i
    · rw [here,Equiv.swap_apply_left,
        Equiv.swap_apply_of_ne_of_ne (show (i-1)/2≠i by omega) (show (i-1)/2≠k by omega)]
      exact loose.bridge k (by omega) bounds.2 parent (by omega)
    · rw [Equiv.swap_apply_of_ne_of_ne here other]
      by_cases beside : (c-1)/2=i
      · rw [beside,Equiv.swap_apply_left]
        exact first c low high beside
      · rw [Equiv.swap_apply_of_ne_of_ne beside apart]
        exact loose.edges c low high here beside
  · rw [moved,parent,Equiv.swap_apply_left,
      Equiv.swap_apply_of_ne_of_ne (show c≠i by omega) (show c≠k by omega)]
    have edge := loose.edges c low high (by omega) (by omega)
    rwa [child] at edge
  · rw [moved,Equiv.swap_apply_right,Equiv.swap_apply_left]
    exact L.asymm less

theorem Lawful.looseAbove_of_stop {h : σ} {n i : Nat} (loose : H.LooseAround h n i)
    (hn : n ≤ H.len h) (stop : n≤2*i+1 ∨ H.less h (H.child h i n) i=false) :
    H.LooseAbove h n i := by
  refine ⟨fun c low high other => ?_,loose.bridge⟩
  by_cases child : (c-1)/2=i
  · rcases stop with _ | settled
    · omega
    · have bounds := H.child_bounds h i n (by omega)
      rw [child]
      exact L.below_trans (by omega) (by omega) (by omega) (L.child_first h low high child) settled
  · exact loose.edges c low high other child

theorem Lawful.downFrom_ordered (h : σ) (i : Nat) (hn : n ≤ H.len h) (loose : H.LooseAround h n i) :
    H.downFrom h i n=(h,i) ∧ H.LooseAbove h n i ∨
      i<(H.downFrom h i n).2 ∧ H.Ordered (H.downFrom h i n).1 n := by
  induction h,i using downFrom.induct H n with
  | case1 h i leaf =>
    refine .inl ⟨?_,L.looseAbove_of_stop loose hn (.inl leaf)⟩
    rw [downFrom,dif_pos leaf]
  | case2 h i inner less ih =>
    have bounds := H.child_bounds h i n inner
    obtain ⟨next,edge,parent⟩ := L.looseAround_swap loose hn inner less
    have len : n ≤ H.len (H.swap h i (H.child h i n)) := by
      rw [L.swap_len (by omega) (by omega)]
      exact hn
    rw [downFrom,dif_neg inner,if_pos less]
    rcases ih len next with ⟨stays,above⟩ | ⟨_,ordered⟩
    · rw [stays]
      exact .inr ⟨bounds.1,above.ordered_of_edge fun _ => by rw [parent]; exact edge⟩
    · exact .inr ⟨by omega,ordered⟩
  | case3 h i inner less =>
    refine .inl ⟨?_,L.looseAbove_of_stop loose hn (.inr (by simpa using less))⟩
    rw [downFrom,dif_neg inner,if_neg less]

theorem Lawful.sift_ordered {h : σ} {n k : Nat} (hk : k < n) (hn : n ≤ H.len h)
    (loose : H.LooseAround h n k) :
    H.Ordered (if (H.down h k n).2 then (H.down h k n).1 else H.up (H.down h k n).1 k) n := by
  unfold down
  rcases L.downFrom_ordered h k hn loose with ⟨stays,above⟩ | ⟨moves,ordered⟩
  · simp only [stays,Nat.lt_irrefl]
    exact L.up_ordered h k hk hn above
  · simp only [moves,decide_true]
    exact ordered

theorem Lawful.root_first {h : σ} (ordered : H.Ordered h n) (hn : n ≤ H.len h)
    (c : Nat) (hc : c < n) : H.less h c 0=false := by
  induction c using Nat.strongRecOn with
  | ind c ih =>
    by_cases root : c=0
    · subst root
      exact L.irrefl h 0
    · have edge := ordered c (by omega) hc
      have above := ih ((c-1)/2) (by omega) (by omega)
      exact L.below_trans (by omega) (by omega) (by omega) edge above

end

variable (L : H.Lawful)

include L

theorem Lawful.up_len (h : σ) (j : Nat) (hj : j < H.len h) : H.len (H.up h j)=H.len h := by
  refine H.up_preserves (fun g => H.len g=H.len h) (H.len h) (fun g i j hi hj len => ?_) h j hj rfl
  rw [L.swap_len (len ▸ hi) (len ▸ hj),len]

theorem Lawful.heapPush_ordered {h : σ} (ordered : H.Ordered h (H.len h)) (x : ε) :
    H.Ordered (H.heapPush h x) (H.len (H.heapPush h x)) := by
  have len := L.push_len h x
  unfold heapPush
  rw [L.up_len _ _ (by omega)]
  refine L.up_ordered _ _ (by omega) (Nat.le_refl _) ⟨fun c low high other => ?_,?_⟩
  · rw [L.push_less h x (by omega) (by omega)]
    exact ordered c low (by omega)
  · intro c low high child
    omega

theorem Lawful.looseAround_last {h : σ} {n k : Nat} (ordered : H.Ordered h (n+1))
    (len : H.len h=n+1) (hk : k < n) : H.LooseAround (H.swap h k n) n k := by
  have moved := L.swap_less (h := h) (i := k) (j := n) (by omega) (by omega)
  refine ⟨fun c low high other apart => ?_,fun c low high child above => ?_⟩
  · rw [moved,Equiv.swap_apply_of_ne_of_ne other (by omega),
      Equiv.swap_apply_of_ne_of_ne apart (by omega)]
    exact ordered c low (by omega)
  · rw [moved,Equiv.swap_apply_of_ne_of_ne (show c≠k by omega) (by omega),
      Equiv.swap_apply_of_ne_of_ne (show (k-1)/2≠k by omega) (by omega)]
    have edge := ordered c low (by omega)
    rw [child] at edge
    exact L.below_trans (by omega) (by omega) (by omega) edge (ordered k above (by omega))

theorem Lawful.pop_ordered {h h' : σ} {x : ε} (popped : H.pop h=some (x,h'))
    (len : H.len h=n+1) (ordered : H.Ordered h n) : H.Ordered h' (H.len h') := by
  have shorter := L.pop_len popped
  intro c low high
  rw [L.pop_less popped high (by omega)]
  exact ordered c low (by omega)

theorem Lawful.sift_len {h : σ} {n k : Nat} (hk : k < n) (hn : n ≤ H.len h) :
    H.len (if (H.down h k n).2 then (H.down h k n).1 else H.up (H.down h k n).1 k)=H.len h := by
  refine H.sift_preserves (fun g => H.len g=H.len h) n (fun g i j hi hj len => ?_) h k hk rfl
  rw [L.swap_len (by omega) (by omega),len]

theorem Lawful.heapPop_ordered {h h' : σ} {x : ε} (popped : H.heapPop h=some (x,h'))
    (ordered : H.Ordered h (H.len h)) : H.Ordered h' (H.len h') := by
  unfold heapPop at popped
  by_cases empty : H.len h=0
  · simp [empty] at popped
  · obtain ⟨n,len⟩ : ∃n,H.len h=n+1 := ⟨H.len h-1,by omega⟩
    rw [len,Nat.add_sub_cancel] at popped
    rw [len] at ordered
    have swapped : H.len (H.swap h 0 n)=n+1 := by rw [L.swap_len (by omega) (by omega),len]
    have same : H.len (H.down (H.swap h 0 n) 0 n).1=n+1 := by
      refine H.downFrom_preserves (fun g => H.len g=n+1) n (fun g i j hi hj glen => ?_) _ 0 swapped
      rw [L.swap_len (by omega) (by omega),glen]
    refine L.pop_ordered popped same ?_
    by_cases single : n=0
    · intro c low high
      omega
    · have loose := L.looseAround_last ordered len (show 0 < n by omega)
      unfold down
      rcases L.downFrom_ordered _ 0 (by omega) loose with ⟨stays,above⟩ | ⟨-,done⟩
      · rw [stays]
        exact above.ordered_of_edge fun pos => absurd pos (Nat.lt_irrefl 0)
      · exact done

theorem Lawful.heapRemove_ordered {h h' : σ} {x : ε} {i : Int}
    (removed : H.heapRemove h i=some (x,h')) (ordered : H.Ordered h (H.len h)) :
    H.Ordered h' (H.len h') := by
  unfold heapRemove at removed
  by_cases outside : i<0 ∨ H.len h ≤ i
  · simp [outside] at removed
  · rw [if_neg outside] at removed
    obtain ⟨n,len⟩ : ∃n,H.len h=n+1 := ⟨H.len h-1,by omega⟩
    obtain ⟨k,rfl⟩ : ∃k : Nat,k=i := ⟨i.toNat,by omega⟩
    simp only [len,Nat.add_sub_cancel,Int.toNat_natCast] at removed
    by_cases last : n=k
    · rw [if_pos last] at removed
      refine L.pop_ordered removed len fun c low high => ordered c low (by omega)
    · rw [if_neg last] at removed
      have below : k < n := by omega
      have swapped : H.len (H.swap h k n)=n+1 := by rw [L.swap_len (by omega) (by omega),len]
      rw [len] at ordered
      refine L.pop_ordered removed ((L.sift_len below (by omega)).trans swapped) ?_
      exact L.sift_ordered below (by omega) (L.looseAround_last ordered len below)

end KServeLLM.HeapInterface
