import Mathlib.Data.List.Infix

namespace KServeLLM

variable {σ ι ο : Type*}

structure Step (σ ι ο : Type*) where
  before : σ
  call : ι
  answer : ο
  after : σ

def run (step : σ → ι → σ × ο) : σ → List ι → σ
  | s,[] => s
  | s,i::is => run step (step s i).1 is

def trace (step : σ → ι → σ × ο) : σ → List ι → List (Step σ ι ο)
  | _,[] => []
  | s,i::is => ⟨s,i,(step s i).2,(step s i).1⟩::trace step (step s i).1 is

variable (step : σ → ι → σ × ο)

def stepOf (s : σ) (i : ι) : Step σ ι ο := ⟨s,i,(step s i).2,(step s i).1⟩

theorem run_snoc (s : σ) (is : List ι) (i : ι) :
    run step s (is++[i])=(step (run step s is) i).1 := by
  induction is generalizing s with
  | nil => rfl
  | cons j is ih => exact ih (step s j).1

theorem run_append (s : σ) (is js : List ι) : run step s (is++js)=run step (run step s is) js := by
  induction is generalizing s with
  | nil => rfl
  | cons i is ih => exact ih (step s i).1

theorem mem_trace (s : σ) (is : List ι) (i : ι) (js : List ι) :
    stepOf step (run step s is) i∈trace step s (is++i::js) := by
  induction is generalizing s with
  | nil => exact .head _
  | cons j is ih => exact .tail _ (ih (step s j).1)

theorem trace_snoc (s : σ) (is : List ι) (i : ι) :
    trace step s (is++[i])=trace step s is++[stepOf step (run step s is) i] := by
  induction is generalizing s with
  | nil => rfl
  | cons j is ih => exact congrArg (List.cons _) (ih (step s j).1)

theorem forall_mem_snoc {α : Type*} {P : α → Prop} {l : List α} {next : α}
    (old : ∀x∈l,P x) (last : P next) : ∀x∈l++[next],P x :=
  List.forall_mem_append.mpr ⟨old,List.forall_mem_singleton.mpr last⟩

theorem foldl_of_mem {α β : Type*} {f : α → β → α} (P : α → Prop) {b : β}
    (reach : ∀a,P (f a b)) (keep : ∀a c,P a → P (f a c)) {bs : List β} (mem : b∈bs) (a : α) :
    P (bs.foldl f a) := by
  have stay (cs : List β) a (h : P a) : P (cs.foldl f a) := by
    induction cs generalizing a with
    | nil => exact h
    | cons c cs ih => exact ih _ (keep a c h)
  obtain ⟨_,after,rfl⟩ := List.append_of_mem mem
  rw [List.foldl_append]
  exact stay after _ (reach _)

theorem run_induction (P : List (Step σ ι ο) → σ → Prop) (s : σ) (start : P [] s)
    (keep : ∀ tr t i,P tr t → P (tr++[stepOf step t i]) (step t i).1) (is : List ι) :
    P (trace step s is) (run step s is) := by
  induction is using List.reverseRecOn with
  | nil => exact start
  | append_singleton is i ih =>
    rw [trace_snoc,run_snoc]
    exact keep _ _ i ih

def Always (s : σ) (is : List ι) (P : List (Step σ ι ο) → σ → Prop) : Prop :=
  ∀ pre,pre <+: is → P (trace step s pre) (run step s pre)

def EachCall (s : σ) (is : List ι) (C : List (Step σ ι ο) → σ → ι → Prop) : Prop :=
  ∀ pre i,pre++[i] <+: is → C (trace step s pre) (run step s pre) i

variable {s : σ} {is : List ι} {C : List (Step σ ι ο) → σ → ι → Prop}

theorem EachCall.of_prefix {pre : List ι} (h : EachCall step s is C) (hp : pre <+: is) :
    EachCall step s pre C :=
  fun p i hpi => h p i (hpi.trans hp)

theorem eachCall_cons (s : σ) (i : ι) (is : List ι) (C : List (Step σ ι ο) → σ → ι → Prop) :
    EachCall step s (i::is) C ↔
      C [] s i ∧ EachCall step (step s i).1 is (fun tr t j => C (stepOf step s i::tr) t j) := by
  constructor
  · intro h
    refine ⟨h [] i (by simp),fun pre j hp => ?_⟩
    exact h (i::pre) j (List.cons_prefix_cons.mpr ⟨rfl,hp⟩)
  · rintro ⟨first,rest⟩ pre j hp
    cases pre with
    | nil =>
      obtain rfl : j=i := (List.cons_prefix_cons.mp hp).1
      exact first
    | cons k pre =>
      obtain ⟨rfl,tail⟩ := List.cons_prefix_cons.mp hp
      exact rest pre j tail

def decideEachCall : (s : σ) → (is : List ι) → (C : List (Step σ ι ο) → σ → ι → Prop) →
    (∀ tr t i,Decidable (C tr t i)) → Decidable (EachCall step s is C)
  | _,[],_,_ => isTrue (fun pre i hp => absurd hp (by simp))
  | s,i::is,C,dec =>
      have := dec [] s i
      have := decideEachCall (step s i).1 is (fun tr t j => C (stepOf step s i::tr) t j)
        (fun tr t j => dec (stepOf step s i::tr) t j)
      decidable_of_iff _ (eachCall_cons step s i is C).symm

instance (s : σ) (is : List ι) (C : List (Step σ ι ο) → σ → ι → Prop)
    [dec : ∀ tr t i,Decidable (C tr t i)] : Decidable (EachCall step s is C) :=
  decideEachCall step s is C dec

theorem run_of_eachCall (P : List (Step σ ι ο) → σ → Prop)
    (C : List (Step σ ι ο) → σ → ι → Prop) (s : σ) (start : P [] s)
    (keep : ∀ tr t i,P tr t → C tr t i → P (tr++[stepOf step t i]) (step t i).1)
    (is : List ι) (hC : EachCall step s is C) : P (trace step s is) (run step s is) := by
  induction is using List.reverseRecOn with
  | nil => exact start
  | append_singleton is i ih =>
    rw [trace_snoc,run_snoc]
    have before := hC.of_prefix step (List.prefix_append is [i])
    exact keep _ _ i (ih before) (hC is i (List.prefix_refl _))

theorem always_iff_eachCall_of (Aux P : List (Step σ ι ο) → σ → Prop)
    (D : List (Step σ ι ο) → σ → ι → Prop) (aux : Aux [] s) (start : P [] s)
    (keep : ∀ tr t i,Aux tr t → P tr t → D tr t i → C tr t i →
      Aux (tr++[stepOf step t i]) (step t i).1 ∧ P (tr++[stepOf step t i]) (step t i).1)
    (need : ∀ tr t i,Aux tr t → P tr t → D tr t i →
      P (tr++[stepOf step t i]) (step t i).1 → C tr t i) (hD : EachCall step s is
        D) : Always step s is P ↔ EachCall step s is C := by
  have both js (d : EachCall step s js D) (c : EachCall step s js C) :=
    run_of_eachCall step (fun tr t => Aux tr t ∧ P tr t) (fun tr t i => D tr t i ∧ C tr t i) s
      ⟨aux,start⟩ (fun tr t i hi hc => keep tr t i hi.1 hi.2 hc.1 hc.2) js
      (fun pre i hp => ⟨d pre i hp,c pre i hp⟩)
  constructor
  · intro h
    induction is using List.reverseRecOn with
    | nil =>
      intro pre i hp
      simp at hp
    | append_singleton is i ih =>
      have before : EachCall step s is D := hD.of_prefix step (List.prefix_append is [i])
      have hC : EachCall step s is C :=
        ih before (fun pre hp => h pre (hp.trans (List.prefix_append _ _)))
      intro pre j hp
      rcases List.prefix_concat_iff.mp hp with he|hp
      · obtain ⟨rfl,rfl⟩ : pre=is ∧ j=i := by simpa using he
        have good := h (pre++[j]) (List.prefix_refl _)
        rw [trace_snoc,run_snoc] at good
        have reached := both pre before hC
        exact need _ _ _ reached.1 reached.2 (hD pre j (List.prefix_refl _)) good
      · exact hC pre j hp
  · intro hC pre hp
    exact (both pre (hD.of_prefix step hp) (hC.of_prefix step hp)).2

theorem always_iff_eachCall (Aux P : List (Step σ ι ο) → σ → Prop)
    (C : List (Step σ ι ο) → σ → ι → Prop) (s : σ) (aux : Aux [] s) (start : P [] s)
    (keep : ∀ tr t i,Aux tr t → P tr t → C tr t i →
      Aux (tr++[stepOf step t i]) (step t i).1 ∧ P (tr++[stepOf step t i]) (step t i).1)
    (need : ∀ tr t i,Aux tr t → P tr t → P (tr++[stepOf step t i]) (step t i).1 → C tr t i)
    (is : List ι) : Always step s is P ↔ EachCall step s is C :=
  always_iff_eachCall_of step Aux P (fun _ _ _ => True) aux start
    (fun tr t i a p _ => keep tr t i a p) (fun tr t i a p _ => need tr t i a p)
    (fun _ _ _ => trivial)

theorem always_steps_iff {Q : Step σ ι ο → Prop} {C : σ → ι → Prop}
    (law : ∀ t i,Q (stepOf step t i) ↔ C t i) :
    Always step s is (fun tr _ => ∀st∈tr,Q st) ↔ EachCall step s is (fun _ t i => C t i) := by
  refine always_iff_eachCall step (fun _ _ => True) _ _ s trivial (by simp) ?_ ?_ is
  · intro tr t i _ good meets
    exact ⟨trivial,forall_mem_snoc good ((law t i).mpr meets)⟩
  · intro tr t i _ _ good
    exact (law t i).mp (good _ (by simp))

theorem settles_iff {f : σ → σ} {Settled Good : σ → Prop} {rank : σ → Nat}
    (stay : ∀ s,Settled s → Settled (f s)) (fair : ∀ s,Settled s → Good s)
    (same : ∀ s,Good (f s) ↔ Good s) (falls : ∀ s,Good s → Settled s ∨ rank (f s)<rank s)
    {bound : Nat} (low : Good s → rank s ≤ bound) :
    (∀k,bound ≤ k → Settled (f^[k] s)) ↔ Good s := by
  have sameAt k : Good (f^[k] s) ↔ Good s := by
    induction k with
    | zero => rfl
    | succ k ih => rw [Function.iterate_succ_apply',same,ih]
  constructor
  · intro settled
    exact (sameAt bound).mp (fair _ (settled bound (Nat.le_refl _)))
  · intro good
    have reach k : Settled (f^[k] s) ∨ rank (f^[k] s)+k ≤ rank s := by
      induction k with
      | zero => exact .inr (Nat.le_refl _)
      | succ k ih =>
        rw [Function.iterate_succ_apply']
        rcases ih with done | _
        · exact .inl (stay _ done)
        · rcases falls _ ((sameAt k).mpr good) with done | _
          · exact .inl (stay _ done)
          · exact .inr (by omega)
    intro k hk
    have enough := low good
    rcases reach k with done | _
    · exact done
    · -- at rank zero the iteration has nowhere left to fall
      rcases falls _ ((sameAt k).mpr good) with done | _
      · exact done
      · omega

end KServeLLM
