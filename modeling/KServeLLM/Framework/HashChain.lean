import Mathlib.Data.List.Induction
import Mathlib.Tactic.IntervalCases

namespace KServeLLM

namespace HashChain

variable {δ σ π : Type*} (link : δ → σ → π) (hash : π → δ)

def digest (d : δ) (steps : List σ) : δ := steps.foldl (fun d s => hash (link d s)) d

def inputs : δ → List σ → List π
  | _,[] => []
  | d,s::steps => link d s::inputs (hash (link d s)) steps

def CollisionFree {γ : Type*} (f : π → γ) (ps : List π) : Prop := ∀p∈ps,∀q∈ps,f p=f q → p=q

instance {γ : Type*} [DecidableEq π] [DecidableEq γ] (f : π → γ) (ps : List π) :
    Decidable (CollisionFree f ps) :=
  inferInstanceAs (Decidable (∀p∈ps,∀q∈ps,f p=f q → p=q))

theorem CollisionFree.subset {γ : Type*} {f : π → γ} {ps qs : List π} (h : CollisionFree f qs)
    (sub : ps⊆qs) : CollisionFree f ps :=
  fun p hp q hq => h p (sub hp) q (sub hq)

structure Framed (genesis : δ) (Valid : δ → Prop) : Prop where
  first : Valid genesis
  hashed : ∀p,Valid (hash p)
  fresh : ∀p,hash p≠genesis
  split : ∀d d' s s',Valid d → Valid d' → link d s=link d' s' → d=d' ∧ s=s'

variable {link hash} {genesis : δ} {Valid : δ → Prop}

theorem digest_snoc (d : δ) (steps : List σ) (s : σ) :
    digest link hash d (steps++[s])=hash (link (digest link hash d steps) s) := by
  simp [digest]

theorem inputs_snoc (d : δ) (steps : List σ) (s : σ) : inputs link hash d (steps++[s])=
      inputs link hash d steps++[link (digest link hash d steps) s] := by
  induction steps generalizing d with
  | nil => rfl
  | cons t steps ih => exact congrArg (link d t::·) (ih _)

theorem Framed.digest_valid (framed : Framed link hash genesis Valid) (steps : List σ) :
    Valid (digest link hash genesis steps) := by
  rcases List.eq_nil_or_concat steps with rfl | ⟨_,s,rfl⟩
  · exact framed.first
  · rw [List.concat_eq_append,digest_snoc]
    exact framed.hashed _

theorem Framed.digest_injective (framed : Framed link hash genesis Valid) {steps steps' : List σ}
    (free : CollisionFree hash (inputs link hash genesis steps++inputs link hash genesis steps'))
    (same : digest link hash genesis steps=digest link hash genesis steps') : steps=steps' := by
  induction steps using List.reverseRecOn generalizing steps' with
  | nil =>
    rcases List.eq_nil_or_concat steps' with rfl | ⟨_,_,rfl⟩
    · rfl
    · rw [List.concat_eq_append,digest_snoc] at same
      exact absurd same.symm (framed.fresh _)
  | append_singleton before s ih =>
    rcases List.eq_nil_or_concat steps' with rfl | ⟨before',_,rfl⟩
    · rw [digest_snoc] at same
      exact absurd same (framed.fresh _)
    · rw [List.concat_eq_append] at same free ⊢
      rw [digest_snoc,digest_snoc] at same
      rw [inputs_snoc,inputs_snoc] at free
      have linked := free _ (by simp) _ (by simp) same
      obtain ⟨earlier,rfl⟩ := framed.split _ _ _ _ (framed.digest_valid before)
        (framed.digest_valid before') linked
      have less : CollisionFree hash
          (inputs link hash genesis before++inputs link hash genesis before') := by
        refine free.subset fun x mem => ?_
        rcases List.mem_append.mp mem with left | right
        · simp [left]
        · simp [right]
      rw [ih less earlier]

end HashChain

theorem append_cons_split {α : Type*} {z : α} {a b s t : List α} (ha : z∉a) (hb : z∉b)
    (h : a++z::s=b++z::t) : a=b ∧ s=t := by
  induction a generalizing b with
  | nil =>
    cases b with
    | nil => exact ⟨rfl,(List.cons.inj h).2⟩
    | cons y b => exact absurd (List.cons.inj h).1 (fun same => hb (by simp [same]))
  | cons x a ih =>
    cases b with
    | nil => exact absurd (List.cons.inj h).1 (fun same => ha (by simp [same]))
    | cons y b =>
      obtain ⟨rfl,rest⟩ := List.cons.inj h
      obtain ⟨rfl,same⟩ := ih (fun mem => ha (.tail _ mem)) (fun mem => hb (.tail _ mem)) rest
      exact ⟨rfl,same⟩

def hexText (bytes : List UInt8) : String :=
  .ofList (bytes.flatMap fun b => [(b.toNat/16).digitChar,(b.toNat%16).digitChar])

theorem digitChar_ne_colon {n : Nat} (h : n<16) : n.digitChar≠ ':' := by
  interval_cases n <;> decide

theorem colon_notMem_hexText {bytes : List UInt8} : ':'∉(hexText bytes).toList := by
  rw [hexText,String.toList_ofList,List.mem_flatMap]
  rintro ⟨b,-,mem⟩
  have high : b.toNat/16<16 := by have := b.toNat_lt; omega
  have low : b.toNat%16<16 := Nat.mod_lt _ (by decide)
  simp only [List.mem_cons,List.not_mem_nil,or_false] at mem
  rcases mem with eq | eq
  · exact digitChar_ne_colon high eq.symm
  · exact digitChar_ne_colon low eq.symm

theorem digitChar_injective {m n : Nat} (hm : m<16) (hn : n<16)
    (h : m.digitChar=n.digitChar) : m=n := by
  interval_cases m <;> interval_cases n <;> first | rfl | exact absurd h (by decide)

theorem hexText_injective : Function.Injective hexText := by
  intro a b h
  have chars := String.ofList_injective h
  induction a generalizing b with
  | nil =>
    cases b with
    | nil => rfl
    | cons y b => simp at chars
  | cons x a ih =>
    cases b with
    | nil => simp at chars
    | cons y b =>
      simp only [List.flatMap_cons,List.cons_append,List.cons.injEq] at chars
      obtain ⟨high,low,rest⟩ := chars
      have xs := x.toNat_lt
      have ys := y.toNat_lt
      have quotient := digitChar_injective (by omega) (by omega) high
      have remainder :=
        digitChar_injective (Nat.mod_lt _ (by decide)) (Nat.mod_lt _ (by decide)) low
      obtain rfl : x=y := UInt8.toNat_inj.mp (by omega)
      rw [ih (congrArg String.ofList rest) rest]

theorem colon_split {d d' s s' : String} (hd : ':'∉d.toList) (hd' : ':'∉d'.toList)
    (h : d++":"++s=d'++":"++s') : d=d' ∧ s=s' := by
  have chars : d.toList++ ':'::s.toList=d'.toList++ ':'::s'.toList := by
    simpa [String.toList_append] using congrArg String.toList h
  obtain ⟨front,back⟩ := append_cons_split hd hd' chars
  exact ⟨String.toList_inj.mp front,String.toList_inj.mp back⟩

end KServeLLM
