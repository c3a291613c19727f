import Mathlib.Algebra.Order.Ring.Int
import Mathlib.Data.List.Basic

namespace KServeLLM

structure Interval where
  (lo hi : Int)
  deriving DecidableEq

namespace Interval

def Mem (x : Int) (s : Interval) : Prop := s.lo ≤ x ∧ x ≤ s.hi

def slice {α : Type*} (data : List α) (s : Interval) : List α :=
  (data.drop s.lo.toNat).take (s.hi+1-s.lo).toNat

theorem slice_length {α : Type*} {data : List α} {s : Interval} (low : 0 ≤ s.lo)
    (nonempty : s.lo ≤ s.hi) (inside : s.hi < data.length) :
    ((s.slice data).length : Int)=s.hi+1-s.lo := by
  rw [slice,List.length_take,List.length_drop]
  omega

end Interval

structure Partitions (a b : Int) (segments : List Interval) : Prop where
  nonempty : ∀s∈segments,s.lo ≤ s.hi
  within : ∀s∈segments,a ≤ s.lo ∧ s.hi < b
  covers : ∀x,a ≤ x → x < b → ∃s∈segments,s.Mem x
  ordered : segments.Pairwise fun s t => s.hi < t.lo

def Chain : Int → List Interval → Int → Prop
  | a,[],b => a=b
  | a,s::rest,b => s.lo=a ∧ a ≤ s.hi ∧ Chain (s.hi+1) rest b

namespace Chain

variable {a b : Int} {segments : List Interval}

theorem le (h : Chain a segments b) : a ≤ b := by
  induction segments generalizing a with
  | nil => exact le_of_eq h
  | cons s rest ih =>
    obtain ⟨_,_,tail⟩ := h
    have rest := ih tail
    omega

theorem bounds (h : Chain a segments b) : ∀s∈segments,a ≤ s.lo ∧ s.lo ≤ s.hi ∧ s.hi < b := by
  induction segments generalizing a with
  | nil => simp
  | cons s rest ih =>
    obtain ⟨_,_,tail⟩ := h
    intro t ht
    rcases List.mem_cons.mp ht with rfl | later
    · have := tail.le
      omega
    · have := ih tail t later
      omega

theorem covers (h : Chain a segments b) (x : Int) (low : a ≤ x) (high : x < b) :
    ∃s∈segments,s.Mem x := by
  induction segments generalizing a with
  | nil =>
    have : a=b := h
    omega
  | cons s rest ih =>
    obtain ⟨start,_,tail⟩ := h
    by_cases here : x ≤ s.hi
    · exact ⟨s,List.mem_cons_self,by rw [start]; exact low,here⟩
    · obtain ⟨t,ht,mem⟩ := ih tail (by omega)
      exact ⟨t,List.mem_cons_of_mem s ht,mem⟩

theorem ordered (h : Chain a segments b) : segments.Pairwise fun s t => s.hi < t.lo := by
  induction segments generalizing a with
  | nil => exact List.Pairwise.nil
  | cons s rest ih =>
    obtain ⟨_,_,tail⟩ := h
    refine List.Pairwise.cons (fun t ht => ?_) (ih tail)
    have := (tail.bounds t ht).1
    omega

theorem partitions (h : Chain a segments b) : Partitions a b segments where
  nonempty := fun s hs => (h.bounds s hs).2.1
  within := fun s hs => ⟨(h.bounds s hs).1,(h.bounds s hs).2.2⟩
  covers := h.covers
  ordered := h.ordered

theorem flatMap_slice {α : Type*} (data : List α) (h : Chain a segments b) (low : 0 ≤ a) :
    segments.flatMap (Interval.slice data)=(data.drop a.toNat).take (b-a).toNat := by
  induction segments generalizing a with
  | nil =>
    have same : a=b := h
    rw [same,Int.sub_self]
    rfl
  | cons s rest ih =>
    obtain ⟨start,nonempty,tail⟩ := h
    have last := tail.le
    rw [List.flatMap_cons,ih tail (by omega),Interval.slice,start]
    have total : (b-a).toNat=(s.hi+1-a).toNat+(b-(s.hi+1)).toNat := by omega
    have position : (s.hi+1).toNat=a.toNat+(s.hi+1-a).toNat := by omega
    rw [total,List.take_add,List.drop_drop,position]

end Chain

end KServeLLM
