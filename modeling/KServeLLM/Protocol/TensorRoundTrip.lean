import KServeLLM.Protocol.TensorDecoding

namespace KServeLLM.Protocol

inductive Datatype.Holds : Datatype → GoData → Prop
  | bool (vals) : Holds .bool (.bools vals)
  | uint8 (vals) : Holds .uint8 (.uint8s vals)
  | uint16 (vals) : Holds .uint16 (.uint16s vals)
  | uint32 (vals) : Holds .uint32 (.uint32s vals)
  | uint64 (vals) : Holds .uint64 (.uint64s vals)
  | int8 (vals) : Holds .int8 (.int8s vals)
  | int16 (vals) : Holds .int16 (.int16s vals)
  | int32 (vals) : Holds .int32 (.int32s vals)
  | int64 (vals) : Holds .int64 (.int64s vals)
  | fp16 (vals) : Holds .fp16 (.uint16s vals)
  | fp32 (vals) : Holds .fp32 (.float32s vals)
  | fp64 (vals) : Holds .fp64 (.float64s vals)
  | bytes (vals) (small : ∀v∈vals,v.length<2^32) : Holds .bytes (.byteSlices vals)

def Datatype.cellSize : Datatype → Nat
  | .bytes => 24
  | d => d.datatypeSize

structure Tensor where
  datatype : Datatype
  data : GoData
  typed : datatype.Holds data
  allocated : data.length*datatype.cellSize ≤ BinaryEncoder.maxAlloc

def GoData.byteTotal : GoData → Nat
  | .byteSlices vals => (vals.map (fun v => 4+v.length)).sum
  | _ => 0

def Tensor.wireLength (t : Tensor) : Nat :=
  if t.datatype=.bytes then t.data.byteTotal else t.datatype.datatypeSize*t.data.length

namespace BinaryEncoder

variable {n : Int64} {α : Type} {c : WordCodec α} {name : String}

theorem decodeWords_pack {vals : List α}
    (count : n.toInt=vals.length) (fits : vals.length*c.width ≤ maxAlloc) :
    decodeWords c name (c.pack vals) n=.ok vals := by
  have limit : maxAlloc<2^63 := by decide
  have low : 0 ≤ n.toInt := by omega
  have size : n.toInt*c.width=((vals.length*c.width : Nat)) := by
    rw [count,Int.natCast_mul]
  have high : n.toInt*c.width<2^63 := by omega
  have enough : ¬((c.pack vals).length) < expected c.width n := by
    rw [expected_exact low high,c.pack_length]
    omega
  obtain ⟨_,decoded,_,same⟩ := decodeWords_full c _ _ n enough
    (by rw [c.pack_length]; exact fits) low high
  have whole := c.readFrom_pack vals [] 0 (by simp)
  have position : n.toInt.toNat=vals.length := by omega
  rw [List.nil_append,← position,same] at whole
  rw [decoded,Option.some.inj whole]

theorem decodeUint8_self {vals : List UInt8} (count : n.toInt=vals.length) :
    decodeUint8 vals n=.ok vals := by
  have enough : ¬vals.length < n.toInt := by omega
  have low : 0 ≤ n.toInt := by omega
  have all : vals.take n.toInt.toNat=vals := List.take_of_length_le (by omega)
  rw [decodeUint8,if_neg enough,if_pos low,all]

variable {vals : List (List UInt8)}

theorem decodeBytes_frames (count : n.toInt=vals.length)
    (small : ∀v∈vals,v.length<2^32) (fits : vals.length*24 ≤ maxAlloc) :
    decodeBytes (vals.flatMap frame) n=.ok vals := by
  have made : makeable 24 n=true := by
    apply decide_eq_true
    omega
  have position : n.toInt.toNat=vals.length := by omega
  rw [decodeBytes,made,position]
  exact (decodeBytesLoop_ok_iff _ _ _ _).mpr ⟨rfl,small,List.prefix_refl _⟩

theorem frames_length : (vals.flatMap frame).length=(vals.map (fun v => 4+v.length)).sum := by
  simp [frame_length]

theorem words_roundtrip {wrap : List α → GoData}
    {vals : List α} (count : n.toInt=vals.length) (fits : vals.length*c.width ≤ maxAlloc) :
    ∃raw,Outcome.ok (c.pack vals)=.ok raw ∧ raw.length=c.width*vals.length ∧
      (decodeWords c name raw n).map wrap=.ok (wrap vals) := by
  refine ⟨c.pack _,rfl,?_,?_⟩
  · rw [c.pack_length,Nat.mul_comm]
  · rw [decodeWords_pack count fits]
    rfl

end BinaryEncoder

open BinaryEncoder

theorem tensor_roundtrip (t : Tensor) (shape : List Int64) (count : product shape=t.data.length) :
    ∃raw,encodeTensor t.datatype.text t.data=.ok raw ∧ raw.length=t.wireLength ∧
      decodeTensor t.datatype.text raw shape=.ok t.data := by
  obtain ⟨datatype,data,typed,allocated⟩ := t
  replace count : product shape=data.length := count
  have limit : maxAlloc<2^63 := by decide
  have few : data.length ≤ maxAlloc := by
    have cell : 1 ≤ datatype.cellSize := by cases datatype <;> decide
    exact (Nat.le_mul_of_pos_right _ cell).trans allocated
  have n : (numElements shape).toInt=data.length := by
    rw [← count]
    exact numElements_exact (by omega) (by omega)
  simp only [encodeTensor,decodeTensor,Datatype.ofText_text]
  cases typed with
  | bool vals => exact words_roundtrip n allocated
  | uint8 vals =>
    refine ⟨vals,rfl,(Nat.one_mul _).symm,?_⟩
    rw [decodeUint8_self n]
    rfl
  | uint16 vals => exact words_roundtrip n allocated
  | uint32 vals => exact words_roundtrip n allocated
  | uint64 vals => exact words_roundtrip n allocated
  | int8 vals => exact words_roundtrip n allocated
  | int16 vals => exact words_roundtrip n allocated
  | int32 vals => exact words_roundtrip n allocated
  | int64 vals => exact words_roundtrip n allocated
  | fp16 vals => exact words_roundtrip n allocated
  | fp32 vals => exact words_roundtrip n allocated
  | fp64 vals => exact words_roundtrip n allocated
  | bytes vals small =>
    refine ⟨vals.flatMap frame,rfl,frames_length,?_⟩
    rw [decodeBytes_frames n small allocated]
    rfl

def framedTensor : Tensor where
  datatype := .bytes
  data := .byteSlices [[1,2],[],[255]]
  typed := .bytes _ (by decide)
  allocated := by decide

theorem tensor_roundtrip_frames : ∃raw,
    encodeTensor "BYTES" (.byteSlices [[1,2],[],[255]])=.ok raw ∧ raw.length=15 ∧
      decodeTensor "BYTES" raw [3,1]=.ok (.byteSlices [[1,2],[],[255]]) :=
  tensor_roundtrip framedTensor [3,1] (by decide)

end KServeLLM.Protocol
