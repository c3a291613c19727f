import KServeLLM.Framework.ByteCodec
import KServeLLM.Framework.GoTypes

namespace KServeLLM.Protocol

inductive Datatype where
  | bool | uint8 | uint16 | uint32 | uint64 | int8 | int16 | int32 | int64 | fp16 | fp32 | fp64
  | bytes
  deriving DecidableEq

namespace Datatype

def text : Datatype → String
  | .bool => "BOOL"
  | .uint8 => "UINT8"
  | .uint16 => "UINT16"
  | .uint32 => "UINT32"
  | .uint64 => "UINT64"
  | .int8 => "INT8"
  | .int16 => "INT16"
  | .int32 => "INT32"
  | .int64 => "INT64"
  | .fp16 => "FP16"
  | .fp32 => "FP32"
  | .fp64 => "FP64"
  | .bytes => "BYTES"

def all : List Datatype :=
  [.bool,.uint8,.uint16,.uint32,.uint64,.int8,.int16,.int32,.int64,.fp16,.fp32,.fp64,.bytes]

def ofText (s : String) : Option Datatype := all.find? (fun d => d.text==s)

def datatypeSize : Datatype → Nat
  | .bool | .uint8 | .int8 => 1
  | .uint16 | .int16 | .fp16 => 2
  | .uint32 | .int32 | .fp32 => 4
  | .uint64 | .int64 | .fp64 => 8
  | .bytes => 0

theorem ofText_text (d : Datatype) : ofText d.text=some d := by cases d <;> rfl

end Datatype

structure FP32 where
  bits : UInt32
  deriving DecidableEq

structure FP64 where
  bits : UInt64
  deriving DecidableEq

inductive GoData where
  | bools (vals : List Bool)
  | uint8s (vals : List UInt8)
  | uint16s (vals : List UInt16)
  | uint32s (vals : List UInt32)
  | uint64s (vals : List UInt64)
  | int8s (vals : List Int8)
  | int16s (vals : List Int16)
  | int32s (vals : List Int32)
  | int64s (vals : List Int64)
  | float32s (vals : List FP32)
  | float64s (vals : List FP64)
  | byteSlices (vals : List (List UInt8))
  | other (goType : String)
  deriving DecidableEq

namespace GoData

def typeName : GoData → String
  | .bools _ => "[]bool"
  | .uint8s _ => "[]uint8"
  | .uint16s _ => "[]uint16"
  | .uint32s _ => "[]uint32"
  | .uint64s _ => "[]uint64"
  | .int8s _ => "[]int8"
  | .int16s _ => "[]int16"
  | .int32s _ => "[]int32"
  | .int64s _ => "[]int64"
  | .float32s _ => "[]float32"
  | .float64s _ => "[]float64"
  | .byteSlices _ => "[][]uint8"
  | .other t => t

def length : GoData → Nat
  | .bools v => v.length
  | .uint8s v => v.length
  | .uint16s v => v.length
  | .uint32s v => v.length
  | .uint64s v => v.length
  | .int8s v => v.length
  | .int16s v => v.length
  | .int32s v => v.length
  | .int64s v => v.length
  | .float32s v => v.length
  | .float64s v => v.length
  | .byteSlices v => v.length
  | .other _ => 0

end GoData

namespace BinaryEncoder

def boolCodec : WordCodec Bool where
  width := 1
  put := fun v => [if v then 1 else 0]
  get := fun bs => bs.headD 0≠0
  put_length := fun _ => rfl
  get_put := fun v rest => by cases v <;> rfl

def uint16Codec : WordCodec UInt16 :=
  .ofBits 2 UInt16.toNat UInt16.ofNat (fun v => v.toNat_lt) (fun _ => UInt16.ofNat_toNat)

def uint32Codec : WordCodec UInt32 :=
  .ofBits 4 UInt32.toNat UInt32.ofNat (fun v => v.toNat_lt) (fun _ => UInt32.ofNat_toNat)

def uint64Codec : WordCodec UInt64 :=
  .ofBits 8 UInt64.toNat UInt64.ofNat (fun v => v.toNat_lt) (fun _ => UInt64.ofNat_toNat)

def int8Codec : WordCodec Int8 :=
  .ofBits 1 (fun v => v.toUInt8.toNat) (fun n => (UInt8.ofNat n).toInt8)
    (fun v => v.toUInt8.toNat_lt) (fun v => by simp)

def int16Codec : WordCodec Int16 :=
  .ofBits 2 (fun v => v.toUInt16.toNat) (fun n => (UInt16.ofNat n).toInt16)
    (fun v => v.toUInt16.toNat_lt) (fun v => by simp)

def int32Codec : WordCodec Int32 :=
  .ofBits 4 (fun v => v.toUInt32.toNat) (fun n => (UInt32.ofNat n).toInt32)
    (fun v => v.toUInt32.toNat_lt) (fun v => by simp)

def int64Codec : WordCodec Int64 :=
  .ofBits 8 (fun v => v.toUInt64.toNat) (fun n => (UInt64.ofNat n).toInt64)
    (fun v => v.toUInt64.toNat_lt) (fun v => by simp)

def fp32Codec : WordCodec FP32 := .ofBits 4 (fun v => v.bits.toNat) (fun n => ⟨UInt32.ofNat n⟩)
    (fun v => v.bits.toNat_lt) (fun v => by simp)

def fp64Codec : WordCodec FP64 := .ofBits 8 (fun v => v.bits.toNat) (fun n => ⟨UInt64.ofNat n⟩)
    (fun v => v.bits.toNat_lt) (fun v => by simp)

def mismatch (expected : String) (data : GoData) : Outcome (List UInt8) :=
  .err ⟨"expected "++expected++", got %T",[.str data.typeName]⟩

def encodeBool : GoData → Outcome (List UInt8)
  | .bools vals => .ok (boolCodec.pack vals)
  | data => mismatch "[]bool" data

def encodeUint8 : GoData → Outcome (List UInt8)
  | .uint8s vals => .ok vals
  | data => mismatch "[]uint8" data

def encodeUint16 : GoData → Outcome (List UInt8)
  | .uint16s vals => .ok (uint16Codec.pack vals)
  | data => mismatch "[]uint16" data

def encodeUint32 : GoData → Outcome (List UInt8)
  | .uint32s vals => .ok (uint32Codec.pack vals)
  | data => mismatch "[]uint32" data

def encodeUint64 : GoData → Outcome (List UInt8)
  | .uint64s vals => .ok (uint64Codec.pack vals)
  | data => mismatch "[]uint64" data

def encodeInt8 : GoData → Outcome (List UInt8)
  | .int8s vals => .ok (int8Codec.pack vals)
  | data => mismatch "[]int8" data

def encodeInt16 : GoData → Outcome (List UInt8)
  | .int16s vals => .ok (int16Codec.pack vals)
  | data => mismatch "[]int16" data

def encodeInt32 : GoData → Outcome (List UInt8)
  | .int32s vals => .ok (int32Codec.pack vals)
  | data => mismatch "[]int32" data

def encodeInt64 : GoData → Outcome (List UInt8)
  | .int64s vals => .ok (int64Codec.pack vals)
  | data => mismatch "[]int64" data

def encodeFP16 : GoData → Outcome (List UInt8)
  | .uint16s vals => .ok (uint16Codec.pack vals)
  | data => mismatch "[]uint16 (FP16 bits)" data

def encodeFP32 : GoData → Outcome (List UInt8)
  | .float32s vals => .ok (fp32Codec.pack vals)
  | data => mismatch "[]float32" data

def encodeFP64 : GoData → Outcome (List UInt8)
  | .float64s vals => .ok (fp64Codec.pack vals)
  | data => mismatch "[]float64" data

def frame (v : List UInt8) : List UInt8 := uint32Codec.put (UInt32.ofNat v.length)++v

def encodeBytes : GoData → Outcome (List UInt8)
  | .byteSlices vals => .ok (vals.flatMap frame)
  | data => mismatch "[][]byte" data

def unsupported (datatype : String) {α : Type} : Outcome α :=
  .err ⟨"unsupported datatype: %s",[.str datatype]⟩

def encodeTensor (datatype : String) (data : GoData) : Outcome (List UInt8) :=
  match Datatype.ofText datatype with
  | some .bool => encodeBool data
  | some .uint8 => encodeUint8 data
  | some .uint16 => encodeUint16 data
  | some .uint32 => encodeUint32 data
  | some .uint64 => encodeUint64 data
  | some .int8 => encodeInt8 data
  | some .int16 => encodeInt16 data
  | some .int32 => encodeInt32 data
  | some .int64 => encodeInt64 data
  | some .fp16 => encodeFP16 data
  | some .fp32 => encodeFP32 data
  | some .fp64 => encodeFP64 data
  | some .bytes => encodeBytes data
  | none => unsupported datatype

def maxAlloc : Nat := 2^48

def makeable (size : Nat) (n : Int64) : Bool :=
  decide (0 ≤ n.toInt ∧ n.toInt*size ≤ maxAlloc)

def decodeWords {α : Type} (c : WordCodec α) (name : String) (raw : List UInt8) (n : Int64) :
    Outcome (List α) :=
  let expected := n*Int64.ofNat c.width
  if (raw.length : Int) < expected.toInt then
    .err ⟨"expected %d bytes for "++name++", got %d",[.int expected.toInt,.int raw.length]⟩
  else if makeable c.width n then
    match c.readFrom raw n.toInt.toNat 0 with
    | some vals => .ok vals
    | none => .panicked
  else .panicked

def decodeBool := decodeWords boolCodec "BOOL"
def decodeUint16 := decodeWords uint16Codec "UINT16"
def decodeUint32 := decodeWords uint32Codec "UINT32"
def decodeUint64 := decodeWords uint64Codec "UINT64"
def decodeInt8 := decodeWords int8Codec "INT8"
def decodeInt16 := decodeWords int16Codec "INT16"
def decodeInt32 := decodeWords int32Codec "INT32"
def decodeInt64 := decodeWords int64Codec "INT64"
def decodeFP16 := decodeWords uint16Codec "FP16"
def decodeFP32 := decodeWords fp32Codec "FP32"
def decodeFP64 := decodeWords fp64Codec "FP64"

def decodeUint8 (raw : List UInt8) (n : Int64) : Outcome (List UInt8) :=
  if (raw.length : Int) < n.toInt then
    .err ⟨"expected %d bytes for UINT8, got %d",[.int n.toInt,.int raw.length]⟩
  else if 0 ≤ n.toInt then .ok (raw.take n.toInt.toNat)
  else .panicked

def decodeBytesLoop (raw : List UInt8) : Nat → Nat → Nat → Outcome (List (List UInt8))
  | 0,_,_ => .ok []
  | left+1,i,offset =>
      if raw.length < offset+4 then
        .err ⟨"unexpected end of BYTES data at element %d",[.int i]⟩
      else
        let length := (uint32Codec.get (raw.drop offset)).toNat
        if raw.length < offset+4+length then
          .err ⟨"unexpected end of BYTES data at element %d, need %d bytes",[.int i,.int length]⟩
        else
          (decodeBytesLoop raw left (i+1) (offset+4+length)).map
            (((raw.drop (offset+4)).take length)::·)

def decodeBytes (raw : List UInt8) (n : Int64) : Outcome (List (List UInt8)) :=
  if makeable 24 n then decodeBytesLoop raw n.toInt.toNat 0 0 else .panicked

def numElements (shape : List Int64) : Int64 := shape.foldl (·*·) 1

def decodeTensor (datatype : String) (raw : List UInt8) (shape : List Int64) : Outcome GoData :=
  let n := numElements shape
  match Datatype.ofText datatype with
  | some .bool => (decodeBool raw n).map .bools
  | some .uint8 => (decodeUint8 raw n).map .uint8s
  | some .uint16 => (decodeUint16 raw n).map .uint16s
  | some .uint32 => (decodeUint32 raw n).map .uint32s
  | some .uint64 => (decodeUint64 raw n).map .uint64s
  | some .int8 => (decodeInt8 raw n).map .int8s
  | some .int16 => (decodeInt16 raw n).map .int16s
  | some .int32 => (decodeInt32 raw n).map .int32s
  | some .int64 => (decodeInt64 raw n).map .int64s
  | some .fp16 => (decodeFP16 raw n).map .uint16s
  | some .fp32 => (decodeFP32 raw n).map .float32s
  | some .fp64 => (decodeFP64 raw n).map .float64s
  | some .bytes => (decodeBytes raw n).map .byteSlices
  | none => unsupported datatype

end BinaryEncoder

end KServeLLM.Protocol
