import Mathlib.Data.List.Infix
import Mathlib.Data.List.Nodup

namespace KServeLLM

variable {κ α : Type*} (live : α → Bool) (q : κ → List α)

def firstHead (ps : List κ) : Option α := ps.findSome? (fun p => (q p).head?.filter live)

def firstLive (ps : List κ) : Option α := ps.findSome? (fun p => (q p).find? live)

def liveLevel (ps : List κ) : Option κ := ps.find? (fun p => (q p).any live)

def HeadLive (ps : List κ) : Prop := ∀p∈liveLevel live q ps,∀x∈(q p).head?,live x=true

variable {live q}

theorem firstHead_mem {ps : List κ} {x : α} (h : firstHead live q ps=some x) : ∃p∈ps,x∈q p := by
  obtain ⟨p,hp,hx⟩ := List.exists_of_findSome?_eq_some h
  exact ⟨p,hp,List.mem_of_head? (Option.filter_eq_some_iff.mp hx).1⟩

section

variable {p : κ} {ps : List κ}

theorem firstHead_cons :
    firstHead live q (p::ps)=((q p).head?.filter live).or (firstHead live q ps) := by
  rw [firstHead,List.findSome?_cons]
  cases (q p).head?.filter live <;> rfl

theorem firstLive_cons :
    firstLive live q (p::ps)=((q p).find? live).or (firstLive live q ps) := by
  rw [firstLive,List.findSome?_cons]
  cases (q p).find? live <;> rfl

theorem firstHead_of_live {x : α} {rest : List α} (level : q p=x::rest) (hx : live x=true) :
    firstHead live q (p::ps)=some x := by
  rw [firstHead_cons,level,List.head?_cons,Option.filter_some,if_pos hx]
  rfl

theorem firstHead_of_dead {x : α} {rest : List α} (level : q p=x::rest) (hx : ¬live x=true) :
    firstHead live q (p::ps)=firstHead live q ps := by
  rw [firstHead_cons,level,List.head?_cons,Option.filter_some,if_neg hx]
  rfl

theorem firstHead_of_empty (level : q p=[]) : firstHead live q (p::ps)=firstHead live q ps := by
  rw [firstHead_cons,level]
  rfl

theorem headLive_cons_of_any (h : (q p).any live=true) :
    HeadLive live q (p::ps) ↔ ∀x∈(q p).head?,live x=true := by
  have level : liveLevel live q (p::ps)=some p := by rw [liveLevel,List.find?_cons,h]
  simp [HeadLive,level,Option.mem_def,Option.some.injEq,forall_eq']

theorem headLive_cons_of_not_any (h : (q p).any live=false) :
    HeadLive live q (p::ps) ↔ HeadLive live q ps := by
  have level : liveLevel live q (p::ps)=liveLevel live q ps := by
    rw [liveLevel,List.find?_cons,h]
    rfl
  rw [HeadLive,level,HeadLive]

end

theorem firstHead_congr {q' : κ → List α} {ps : List κ} (h : ∀p∈ps,q' p=q p) :
    firstHead live q' ps=firstHead live q ps := by
  induction ps with
  | nil => rfl
  | cons p ps ih =>
    rw [firstHead_cons,firstHead_cons,h p (by simp),ih (fun x hx => h x (by simp [hx]))]

theorem firstHead_eq_firstLive_iff {key : α → κ} {ps : List κ} (nodup : ps.Nodup)
    (keyed : ∀p,∀x∈q p,key x=p) :
    firstHead live q ps=firstLive live q ps ↔ HeadLive live q ps := by
  induction ps with
  | nil => simp [firstHead,firstLive,HeadLive,liveLevel]
  | cons p ps ih =>
    obtain ⟨fresh,nodup⟩ := List.nodup_cons.mp nodup
    rw [firstHead_cons,firstLive_cons]
    by_cases any : (q p).any live=true
    · rw [headLive_cons_of_any any]
      cases level : q p with
      | nil => simp [level] at any
      | cons x rest =>
        by_cases hx : live x=true
        · simp [hx]
        · have found : ∃y∈rest,live y=true := by simpa [level,hx] using any
          obtain ⟨y,hy⟩ := Option.isSome_iff_exists.mp (List.find?_isSome.mpr found)
          have own : key y=p := keyed p y (by rw [level]; simp [List.mem_of_find?_eq_some hy])
          constructor
          · intro eq
            simp only [List.head?_cons,Option.filter_some,hx,List.find?_cons,hy] at eq
            obtain ⟨p',hp',hm⟩ := firstHead_mem eq
            have same : p'=p := (keyed p' y hm).symm.trans own
            exact absurd (same ▸ hp') fresh
          · intro head
            exact absurd (head x rfl) hx
    · have none : (q p).any live=false := by simpa using any
      rw [headLive_cons_of_not_any none,← ih nodup]
      have dead : ∀y∈q p,live y=false := by simpa using none
      have noFind : (q p).find? live=Option.none := by
        rw [List.find?_eq_none]
        intro y hy
        simp [dead y hy]
      have noHead : (q p).head?.filter live=Option.none := by
        rw [Option.filter_eq_none_iff]
        intro y hy
        simp [dead y (List.mem_of_head? hy)]
      rw [noFind,noHead,Option.none_or,Option.none_or]

end KServeLLM
