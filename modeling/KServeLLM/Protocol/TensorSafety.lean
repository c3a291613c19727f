import KServeLLM.Protocol.TensorDecoding

namespace KServeLLM.Protocol

open BinaryEncoder

structure ByteSlice where
  bytes : List UInt8
  allocated : bytes.length ≤ maxAlloc

structure Countable (size : Nat) (shape : List Int64) : Prop where
  dims : ∀dim∈shape,0 ≤ dim.toInt
  elements : product shape<2^63
  bytes : product shape*size<2^63

structure SafeOutcome (o : Outcome GoData) (size : Nat) (shape : List Int64) : Prop where
  noPanic : o≠.panicked
  count : ∀data,o=.ok data → (data.length : Int)=product shape
  rejects : ¬Countable size shape → ∃e,o=.err e

def elementSize (datatype : String) : Nat :=
  match Datatype.ofText datatype with
  | some d => d.datatypeSize
  | none => 0

def SafeDecode (datatype : String) (raw : ByteSlice) (shape : List Int64) : Prop :=
  SafeOutcome (decodeTensor datatype raw.bytes shape) (elementSize datatype) shape

def Truncated (raw : List UInt8) (n : Int64) : Prop :=
  ∀vals : List (List UInt8),(vals.length : Int)=n.toInt → ¬HoldsFrom raw 0 vals

def Guarded (datatype : String) (raw : ByteSlice) (shape : List Int64) : Prop :=
  let n := numElements shape
  match Datatype.ofText datatype with
  | none => True
  | some .bytes => makeable 24 n=true ∧ (Truncated raw.bytes n ∨ Countable 0 shape)
  | some d =>
      (raw.bytes.length : Int) < expected d.datatypeSize n ∨ Countable d.datatypeSize shape

variable {shape : List Int64} {size : Nat}

theorem Countable.product_nonneg (h : Countable size shape) : 0 ≤ product shape := by
  have dims := h.dims
  clear h
  induction shape with
  | nil => decide
  | cons dim shape ih =>
    have rest := ih fun d hd => dims d (List.mem_cons_of_mem dim hd)
    exact Int.mul_nonneg (dims dim List.mem_cons_self) rest

theorem Countable.numElements_eq (h : Countable size shape) :
    (numElements shape).toInt=product shape := numElements_exact h.product_nonneg h.elements

structure Ends {α : Type} (o : Outcome (List α)) (short good : Prop) (n : Int64) : Prop where
  failing : short → ∃e,o=.err e
  full : ¬short → good → ∃vals,o=.ok vals ∧ (vals.length : Int)=n.toInt
  broken : ¬short → ¬good → o=.panicked

variable {α : Type} {o : Outcome (List α)} {short : Prop}

theorem Ends.safe_iff {good : Prop} (h : Ends o short good (numElements shape)) (size : Nat)
    (wrap : List α → GoData) (length : ∀vals,(wrap vals).length=vals.length) :
    SafeOutcome (o.map wrap) size shape ↔ short ∨ good ∧ Countable size shape := by
  constructor
  · intro safe
    by_cases s : short
    · exact Or.inl s
    by_cases g : good
    · obtain ⟨_,ok,_⟩ := h.full s g
      refine Or.inr ⟨g,?_⟩
      by_contra uncountable
      obtain ⟨e,rejected⟩ := safe.rejects uncountable
      rw [ok] at rejected
      cases rejected
    · refine absurd ?_ safe.noPanic
      rw [h.broken s g]
      rfl
  · intro cases
    by_cases s : short
    · obtain ⟨e,failed⟩ := h.failing s
      rw [failed]
      exact ⟨by simp [Outcome.map],fun data ok => (by cases ok),fun _ => ⟨e,rfl⟩⟩
    · obtain ⟨g,countable⟩ := cases.resolve_left s
      obtain ⟨_,ok,count⟩ := h.full s g
      rw [ok]
      refine ⟨by simp [Outcome.map],fun data done => ?_,fun bad => absurd countable bad⟩
      obtain rfl : wrap _=data := Outcome.ok.inj done
      rw [length,count,countable.numElements_eq]

theorem Ends.countable_iff
    (h : Ends o short (0 ≤ (numElements shape).toInt ∧ (numElements shape).toInt*size<2^63)
      (numElements shape))
    (wrap : List α → GoData) (length : ∀vals,(wrap vals).length=vals.length) :
    SafeOutcome (o.map wrap) size shape ↔ short ∨ Countable size shape := by
  rw [h.safe_iff _ _ length]
  apply or_congr_right
  apply and_iff_right_of_imp
  intro countable
  rw [countable.numElements_eq]
  exact ⟨countable.product_nonneg,countable.bytes⟩

variable {c : WordCodec α} {name : String}

section

variable (raw : ByteSlice) (n : Int64)

theorem decodeWords_ends :
    Ends (decodeWords c name raw.bytes n) ((raw.bytes.length : Int) < expected c.width n)
      (0 ≤ n.toInt ∧ n.toInt*c.width<2^63) n where
  failing := decodeWords_short c _ _ n
  full := fun enough good => by
    obtain ⟨vals,ok,count,_⟩ := decodeWords_full c _ _ n enough raw.allocated good.1 good.2
    exact ⟨vals,ok,count⟩
  broken := decodeWords_broken c _ _ n

theorem decodeUint8_ends : Ends (decodeUint8 raw.bytes n) ((raw.bytes.length : Int) < expected 1 n)
      (0 ≤ n.toInt ∧ n.toInt*(1 : Nat)<2^63) n := by
  have one : expected 1 n=n.toInt := congrArg Int64.toInt (Int64.mul_one n)
  rw [one]
  refine ⟨fun short => ⟨_,if_pos short⟩,fun enough good => ?_,fun enough bad => ?_⟩
  · refine ⟨raw.bytes.take n.toInt.toNat,?_,?_⟩
    · rw [decodeUint8,if_neg enough,if_pos good.1]
    · rw [List.length_take]
      omega
  · have negative : ¬0 ≤ n.toInt := by
      have top := n.toInt_lt
      omega
    rw [decodeUint8,if_neg enough,if_neg negative]

theorem decodeBytes_ends {raw : List UInt8} : Ends (decodeBytes raw n)
    (makeable 24 n=true ∧ Truncated raw n) (makeable 24 n=true) n := by
  refine ⟨fun ⟨made,truncated⟩ => ?_,fun whole made => ?_,fun _ refused => ?_⟩
  · rw [decodeBytes,if_pos made]
    cases h : decodeBytesLoop raw _ 0 0 with
    | ok vals =>
      obtain ⟨_,held⟩ := (decodeBytesLoop_ok_iff _ _ _ _).mp h
      have low : 0 ≤ n.toInt := (of_decide_eq_true made).1
      exact absurd held (truncated _ (by omega))
    | err e => exact ⟨e,rfl⟩
    | panicked => exact absurd h (decodeBytesLoop_no_panic _ _ _)
  · have complete : ¬Truncated raw n := fun truncated => whole ⟨made,truncated⟩
    unfold Truncated at complete
    push Not at complete
    obtain ⟨vals,count,held⟩ := complete
    refine ⟨vals,?_,count⟩
    rw [decodeBytes,if_pos made]
    exact (decodeBytesLoop_ok_iff _ _ _ _).mpr ⟨by omega,held⟩
  · rw [decodeBytes,if_neg refused]

end

theorem words_safe_iff {wrap : List α → GoData}
    (length : ∀vals,(wrap vals).length=vals.length) {raw : ByteSlice} {shape : List Int64} :
    SafeOutcome ((decodeWords c name raw.bytes (numElements shape)).map wrap) c.width shape ↔
      (raw.bytes.length : Int) < expected c.width (numElements shape) ∨ Countable c.width shape :=
  (decodeWords_ends raw _).countable_iff _ length

theorem uint8_safe_iff {raw : ByteSlice} {shape : List Int64} :
    SafeOutcome ((decodeUint8 raw.bytes (numElements shape)).map .uint8s) 1 shape ↔
      (raw.bytes.length : Int) < expected 1 (numElements shape) ∨ Countable 1 shape :=
  (decodeUint8_ends raw _).countable_iff _ (fun _ => rfl)

theorem bytes_safe_iff {raw : ByteSlice} {shape : List Int64} :
    SafeOutcome ((decodeBytes raw.bytes (numElements shape)).map .byteSlices) 0 shape ↔
      makeable 24 (numElements shape)=true ∧
        (Truncated raw.bytes (numElements shape) ∨ Countable 0 shape) := by
  rw [(decodeBytes_ends _).safe_iff 0 _ (fun _ => rfl),and_or_left]

theorem decodeTensor_safe_iff (datatype : String) (raw : ByteSlice) (shape : List Int64) :
    SafeDecode datatype raw shape ↔ Guarded datatype raw shape := by
  unfold SafeDecode Guarded decodeTensor elementSize
  cases Datatype.ofText datatype with
  | none =>
    exact iff_of_true ⟨by simp [unsupported],fun _ ok => (by cases ok),fun _ => ⟨_,rfl⟩⟩ trivial
  | some d =>
    cases d with
    | bool => exact words_safe_iff (fun _ => rfl)
    | uint8 => exact uint8_safe_iff
    | uint16 => exact words_safe_iff (fun _ => rfl)
    | uint32 => exact words_safe_iff (fun _ => rfl)
    | uint64 => exact words_safe_iff (fun _ => rfl)
    | int8 => exact words_safe_iff (fun _ => rfl)
    | int16 => exact words_safe_iff (fun _ => rfl)
    | int32 => exact words_safe_iff (fun _ => rfl)
    | int64 => exact words_safe_iff (fun _ => rfl)
    | fp16 => exact words_safe_iff (fun _ => rfl)
    | fp32 => exact words_safe_iff (fun _ => rfl)
    | fp64 => exact words_safe_iff (fun _ => rfl)
    | bytes => exact bytes_safe_iff

theorem decodeTensor_unsafe : decodeTensor "INT32" [] [-1]=.panicked ∧
    decodeTensor "UINT8" [] [4294967296,4294967296]=.ok (.uint8s []) ∧
    decodeTensor "FP64" [] [2305843009213693952]=.panicked ∧
    ¬SafeDecode "INT32" ⟨[],by decide⟩ [-1] := by
  have panics : decodeTensor "INT32" [] [-1]=.panicked := by decide
  exact ⟨panics,by decide,by decide,fun safe => safe.noPanic panics⟩

end KServeLLM.Protocol
