import KServeLLM.Framework.GoTypes
import Mathlib.Data.Rat.Floor
import Mathlib.Data.List.Rotate

namespace KServeLLM.Inference

structure AdaptiveTimeout where
  samples : List Int64
  writeIdx : Nat := 0
  sampleSize : Nat
  p50 : Int64 := 0
  p95 : Int64 := 0
  p99 : Int64 := 0

/-- An index that is out of range panics. -/
def storeAt (l : List Int64) (i : Nat) (x : Int64) : Option (List Int64) :=
  if i < l.length then some (l.set i x) else none

def milliseconds (d : Duration) : Int64 := d/Duration.millisecond

-- the place of the gap is one above the index of the inner loop
def shift (key : Int64) : Nat → List Int64 → Option (List Int64)
  | 0,sorted => storeAt sorted 0 key
  | j+1,sorted => do
    let x ← sorted[j]?
    if key < x then shift key j (← storeAt sorted (j+1) x) else storeAt sorted (j+1) key

def insertionSort (i : Nat) : Nat → List Int64 → Option (List Int64)
  | 0,sorted => some sorted
  | left+1,sorted => do
    let key ← sorted[i]?
    insertionSort (i+1) left (← shift key i sorted)

namespace AdaptiveTimeout

def new (sampleSize : Nat) : AdaptiveTimeout := {samples := List.replicate sampleSize 0,sampleSize}

def recomputePercentiles (a : AdaptiveTimeout) : Option AdaptiveTimeout := do
  let sorted := a.samples.filter (0 < ·)
  if sorted.length=0 then return a
  let sorted ← insertionSort 1 (sorted.length-1) sorted
  let n := sorted.length
  let p50 ← sorted[n/2]?
  let p95 ← sorted[⌊(n*0.95 : ℚ)⌋₊]?
  let p99 ← sorted[⌊min (n*0.99 : ℚ) (n-1 : Nat)⌋₊]?
  return {a with p50,p95,p99}

def write (a : AdaptiveTimeout) (ms : Int64) : Option AdaptiveTimeout := do
  let samples ← storeAt a.samples a.writeIdx ms
  return {a with samples,writeIdx := (a.writeIdx+1)%a.sampleSize}

def record (a : AdaptiveTimeout) (latency : Duration) : Option AdaptiveTimeout := do
  let a ← a.write (milliseconds latency)
  if a.writeIdx%100=0 then a.recomputePercentiles else return a

end AdaptiveTimeout

theorem shift_spec {key : Int64} {p : List Int64} (sorted : p.Pairwise (· ≤ ·)) (h : Int64)
    (q : List Int64) :
    ∃ u v,p=u++v ∧ (∀x∈u,x ≤ key) ∧ (∀x∈v,key ≤ x) ∧
      shift key p.length (p++h::q)=some (u++key::v++q) := by
  induction p using List.reverseRecOn generalizing h q with
  | nil => exact ⟨[],[],by simp [shift,storeAt]⟩
  | append_singleton p a ih =>
    obtain ⟨front,-,below⟩ := List.pairwise_append.mp sorted
    have gap : (p++a::h::q)[p.length]?=some a := by simp
    have place x : (p++a::h::q).set (p.length+1) x=p++a::x::q := by simp
    simp only [List.length_append,List.length_singleton,List.append_assoc,List.singleton_append,
      shift,storeAt,gap,place,Option.bind_eq_bind,Option.bind_some]
    by_cases less : key<a
    · obtain ⟨u,v,rfl,low,high,eq⟩ := ih front a (a::q)
      exact ⟨u,v++[a],by simp,low,
        List.forall_mem_append.mpr ⟨high,by simpa using Int64.le_of_lt less⟩,by simpa [less] using eq⟩
    · have least : a ≤ key := Int64.not_lt.mp less
      exact ⟨p++[a],[],by simp,List.forall_mem_append.mpr
        ⟨fun x mem => Int64.le_trans (below x mem a (.head _)) least,by simpa using least⟩,by simp,
        by simp [less]⟩

theorem insertionSort_spec {p : List Int64} (sorted : p.Pairwise (· ≤ ·)) (rest : List Int64) :
    ∃l,insertionSort p.length rest.length (p++rest)=some l ∧ l.Perm (p++rest) ∧
      l.Pairwise (· ≤ ·) := by
  induction rest generalizing p with
  | nil => exact ⟨p,by simp [insertionSort],by simp,sorted⟩
  | cons key rest ih =>
    obtain ⟨u,v,rfl,low,high,eq⟩ := shift_spec sorted key rest
    obtain ⟨left,right,across⟩ := List.pairwise_append.mp sorted
    have next : (u++key::v).Pairwise (· ≤ ·) := by
      refine List.pairwise_append.mpr ⟨left,List.pairwise_cons.mpr ⟨high,right⟩,?_⟩
      intro x mem y
      exact List.forall_mem_cons.mpr ⟨low x mem,across x mem⟩ y
    obtain ⟨l,done,perm,ordered⟩ := ih next
    have count : (u++key::v).length=(u++v).length+1 := by simp [Nat.add_assoc]
    rw [count] at done
    refine ⟨l,?_,perm.trans ?_,ordered⟩
    · have found : (u++v++key::rest)[(u++v).length]?=some key := by simp
      simp only [List.length_cons,insertionSort,found,Option.bind_eq_bind,Option.bind_some,eq,done]
    · rw [List.append_assoc,List.append_assoc]
      exact List.perm_middle.symm.append_left u

theorem rotate_write {l : List Int64} {w : Nat} (inside : w<l.length) (x : Int64) :
    (l.set w x).rotate ((w+1)%l.length)=(l.rotate w).tail++[x] := by
  obtain ⟨p,y,q,rfl,rfl⟩ : ∃ p y q,l=p++y::q ∧ p.length=w :=
    ⟨l.take w,l[w],l.drop (w+1),by simp,by simp [inside.le]⟩
  have size : (p++y::q).length=(p++[x]++q).length := by simp
  have written : (p++y::q).set p.length x=p++[x]++q := by simp
  rw [written,size,List.rotate_mod,show p.length+1=(p++[x]).length by simp,
    List.rotate_append_length_eq,List.rotate_append_length_eq]
  simp

/-- Read from the place that is written next, the ring is what was recorded last. -/
structure Ring (sampleSize : Nat) (recorded : List Int64) (a : AdaptiveTimeout) : Prop where
  size : a.sampleSize=sampleSize ∧ a.samples.length=sampleSize
  inside : a.writeIdx<sampleSize
  holds : a.samples.rotate a.writeIdx=
    (List.replicate sampleSize 0++recorded).drop recorded.length

theorem ranked {l : List Int64} (sorted : l.Pairwise (· ≤ ·)) {i j : Nat} {x y : Int64}
    (order : i ≤ j) (first : l[i]?=some x) (second : l[j]?=some y) : x ≤ y := by
  obtain ⟨_,rfl⟩ := List.getElem?_eq_some_iff.mp first
  obtain ⟨_,rfl⟩ := List.getElem?_eq_some_iff.mp second
  rcases order.eq_or_lt with rfl | less
  · exact Int64.le_refl _
  · exact List.pairwise_iff_getElem.mp sorted _ _ _ _ less

section Ranks

variable {n : Nat}

theorem rank99_eq : ⌊min (n*0.99 : ℚ) (n-1 : Nat)⌋₊=min ⌊(n*0.99 : ℚ)⌋₊ (n-1) := by
  rw [Nat.floor_mono.map_min,Nat.floor_natCast]

variable (some : 0<n)
include some

theorem rank95_lt : ⌊(n*0.95 : ℚ)⌋₊<n := by
  have cast : (0 : ℚ)<n := by exact_mod_cast some
  exact (Nat.floor_lt (by positivity)).mpr (by linarith)

theorem rank50_le : n/2 ≤ ⌊(n*0.95 : ℚ)⌋₊ := by
  have half : ((n/2 : Nat) : ℚ)*2 ≤ n := by exact_mod_cast Nat.div_mul_le_self n 2
  have cast : (0 : ℚ)<n := by exact_mod_cast some
  exact Nat.le_floor (by linarith)

theorem rank95_le : ⌊(n*0.95 : ℚ)⌋₊ ≤ min ⌊(n*0.99 : ℚ)⌋₊ (n-1) := by
  have cast : (0 : ℚ)<n := by exact_mod_cast some
  exact le_min (Nat.floor_mono (by linarith)) (Nat.le_pred_of_lt (rank95_lt some))

theorem rank99_lt : min ⌊(n*0.99 : ℚ)⌋₊ (n-1)<n :=
  (min_le_right _ _).trans_lt (Nat.sub_one_lt some.ne')

end Ranks

/-- The percentiles of the positive samples. -/
structure Percentiles (positive : List Int64) (a : AdaptiveTimeout) (sorted : List Int64) :
    Prop where
  perm : sorted.Perm positive
  ascending : sorted.Pairwise (· ≤ ·)
  p50 : sorted[positive.length/2]?=some a.p50
  p95 : sorted[⌊(positive.length*0.95 : ℚ)⌋₊]?=some a.p95
  p99 : sorted[min ⌊(positive.length*0.99 : ℚ)⌋₊ (positive.length-1)]?=some a.p99

theorem recomputePercentiles_spec (a : AdaptiveTimeout) :
    ∃ p50 p95 p99,a.recomputePercentiles=some {a with p50,p95,p99} ∧
      (a.samples.filter (0 < ·)≠[] →
        ∃sorted,Percentiles (a.samples.filter (0 < ·)) {a with p50,p95,p99} sorted) := by
  unfold AdaptiveTimeout.recomputePercentiles
  cases found : a.samples.filter (0 < ·) with
  | nil => exact ⟨_,_,_,rfl,fun some => absurd rfl some⟩
  | cons x rest =>
    obtain ⟨l,done,perm,sorted⟩ := insertionSort_spec (List.pairwise_singleton (· ≤ ·) x) rest
    have some : 0<(x::rest).length := by simp
    have length : l.length=(x::rest).length := perm.length_eq
    have held {i : Nat} (inside : i<(x::rest).length) : ∃y,l[i]?=.some y :=
      ⟨_,List.getElem?_eq_getElem (length ▸ inside)⟩
    obtain ⟨_,at50⟩ := held ((rank50_le some).trans_lt (rank95_lt some))
    obtain ⟨_,at95⟩ := held (rank95_lt some)
    obtain ⟨_,at99⟩ := held (rank99_lt some)
    refine ⟨_,_,_,?_,fun _ => ⟨l,perm,sorted,at50,at95,at99⟩⟩
    have sorts : insertionSort 1 ((x::rest).length-1) (x::rest)=.some l := done
    simp only [some.ne',if_false,sorts,length,rank99_eq,at50,at95,at99,Option.bind_eq_bind,
      Option.bind_some]
    rfl

theorem Ring.record {sampleSize : Nat} {recorded : List Int64} {a : AdaptiveTimeout}
    (ring : Ring sampleSize recorded a) (latency : Duration) :
    ∃b,a.record latency=some b ∧ Ring sampleSize (recorded++[milliseconds latency]) b := by
  obtain ⟨⟨rfl,length⟩,inside,holds⟩ := ring
  rw [← length] at inside
  let b : AdaptiveTimeout := {a with
    samples := a.samples.set a.writeIdx (milliseconds latency)
    writeIdx := (a.writeIdx+1)%a.sampleSize}
  have next : Ring a.sampleSize (recorded++[milliseconds latency]) b := by
    refine ⟨⟨rfl,by simp [b,length]⟩,Nat.mod_lt _ (by omega),?_⟩
    have turned := rotate_write inside (milliseconds latency)
    rw [length,holds,List.tail_drop] at turned
    have long : recorded.length+1 ≤ (List.replicate a.sampleSize 0++recorded).length := by
      simp
      omega
    rw [turned,← List.append_assoc,List.length_append,List.length_singleton,
      List.drop_append_of_le_length long]
  have written : a.write (milliseconds latency)=some b := by
    simp [AdaptiveTimeout.write,storeAt,inside,b]
  simp only [AdaptiveTimeout.record,written,Option.bind_eq_bind,Option.bind_some]
  split_ifs
  · obtain ⟨_,_,_,done,-⟩ := recomputePercentiles_spec b
    exact ⟨_,done,next.size,next.inside,next.holds⟩
  · exact ⟨b,rfl,next⟩

theorem run_ring {sampleSize : Nat} (positive : 1 ≤ sampleSize) (latencies : List Duration) :
    ∃a,latencies.foldlM AdaptiveTimeout.record (.new sampleSize)=some a ∧
      Ring sampleSize (latencies.map milliseconds) a := by
  induction latencies using List.reverseRecOn with
  | nil => exact ⟨_,rfl,⟨rfl,by simp [AdaptiveTimeout.new]⟩,positive,by simp [AdaptiveTimeout.new]⟩
  | append_singleton latencies latency ih =>
    obtain ⟨a,done,ring⟩ := ih
    obtain ⟨b,step,ring⟩ := ring.record latency
    refine ⟨b,?_,by simpa using ring⟩
    rw [List.foldlM_append,done]
    simpa using step

theorem record_percentiles (sampleSize : Nat) (positive : 1 ≤ sampleSize) :
    (∀latencies : List Duration,∃a,
      latencies.foldlM AdaptiveTimeout.record (.new sampleSize)=some a ∧
      a.samples.rotate a.writeIdx=List.replicate (sampleSize-latencies.length) 0++
        (latencies.map milliseconds).drop (latencies.length-sampleSize)) ∧
    ∀a : AdaptiveTimeout,∃b,a.recomputePercentiles=some b ∧
      (a.samples.filter (0 < ·)≠[] → b.p50 ≤ b.p95 ∧ b.p95 ≤ b.p99 ∧
        ∃sorted,Percentiles (a.samples.filter (0 < ·)) b sorted) := by
  refine ⟨?_,?_⟩
  · intro latencies
    obtain ⟨a,done,ring⟩ := run_ring positive latencies
    refine ⟨a,done,?_⟩
    rw [ring.holds,List.drop_append]
    simp
  · intro a
    obtain ⟨p50,p95,p99,done,found⟩ := recomputePercentiles_spec a
    refine ⟨_,done,fun some => ?_⟩
    obtain ⟨sorted,h⟩ := found some
    have count := List.length_pos_iff.mpr some
    exact ⟨ranked h.ascending (rank50_le count) h.p50 h.p95,
      ranked h.ascending (rank95_le count) h.p95 h.p99,sorted,h⟩

theorem last_two_recorded : ∃a,
    [1000000,2000000,3000000].foldlM AdaptiveTimeout.record (.new 2)=some a ∧
      a.samples.rotate a.writeIdx=[2,3] :=
  (record_percentiles 2 (by decide)).1 [1000000,2000000,3000000]

end KServeLLM.Inference
