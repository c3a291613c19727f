import KServeLLM.Protocol.BinaryTensor

namespace KServeLLM.Protocol

def product (shape : List Int64) : Int := (shape.map Int64.toInt).prod

namespace BinaryEncoder

theorem numElements_toInt (shape : List Int64) :
    (numElements shape).toInt=(product shape).bmod (2^64) := by
  have fold start : (shape.foldl (·*·) start).toInt=(start.toInt*product shape).bmod (2^64) := by
    induction shape generalizing start with
    | nil => simp [product]
    | cons dim shape ih =>
      rw [List.foldl_cons,ih,Int64.toInt_mul]
      simp [product,Int.mul_assoc]
  have one : (1 : Int64).toInt=1 := rfl
  rw [numElements,fold,one,Int.one_mul]

theorem numElements_exact {shape : List Int64} (low : 0 ≤ product shape)
    (high : product shape<2^63) : (numElements shape).toInt=product shape := by
  rw [numElements_toInt]
  exact Int.bmod_eq_of_le (by omega) (by omega)

section

variable {α : Type} (c : WordCodec α) (name : String) (raw : List UInt8) (n : Int64)

def expected (width : Nat) (n : Int64) : Int := (n*Int64.ofNat width).toInt

theorem expected_exact {width : Nat} {n : Int64} (low : 0 ≤ n.toInt)
    (high : n.toInt*width<2^63) : expected width n=n.toInt*width := by
  have wrapped : expected width n=(n.toInt*width).bmod (2^64) := by
    rw [expected,Int64.toInt_mul,Int64.toInt_ofNat']
    exact Int.mul_bmod_bmod
  have pos : 0 ≤ n.toInt*width := Int.mul_nonneg low (Int.natCast_nonneg _)
  rw [wrapped]
  exact Int.bmod_eq_of_le (by omega) (by omega)

theorem decodeWords_short (short : (raw.length : Int) < expected c.width n) :
    ∃e,decodeWords c name raw n=.err e := ⟨_,if_pos short⟩

theorem decodeWords_full (enough : ¬(raw.length : Int) < expected c.width n)
    (fits : raw.length ≤ maxAlloc) (low : 0 ≤ n.toInt) (high : n.toInt*c.width<2^63) :
    ∃vals,decodeWords c name raw n=.ok vals ∧ (vals.length : Int)=n.toInt ∧
      c.readFrom raw n.toInt.toNat 0=some vals := by
  have exact := expected_exact low high
  have count : (n.toInt.toNat)=n.toInt := Int.toNat_of_nonneg low
  have inside : (0+n.toInt.toNat)*c.width ≤ raw.length := by
    have cast : (((0+n.toInt.toNat)*c.width : Nat))=n.toInt*c.width := by
      rw [Nat.zero_add,Int.natCast_mul,count]
    omega
  have made : makeable c.width n=true := by
    apply decide_eq_true
    exact ⟨low,by omega⟩
  obtain ⟨vals,read,_⟩ := c.readFrom_length inside
  refine ⟨vals,?_,by omega,read⟩
  have enough' : ¬raw.length<(n*Int64.ofNat c.width).toInt := enough
  simp only [decodeWords,if_neg enough',made,read,if_true]

theorem decodeWords_broken (enough : ¬(raw.length : Int) < expected c.width n)
    (bad : ¬(0 ≤ n.toInt ∧ n.toInt*c.width<2^63)) : decodeWords c name raw n=.panicked := by
  have limit : maxAlloc<2^63 := by decide
  have refused : makeable c.width n=false := by
    apply decide_eq_false
    rintro ⟨low,_⟩
    exact bad ⟨low,by omega⟩
  have enough' : ¬raw.length<(n*Int64.ofNat c.width).toInt := enough
  simp only [decodeWords,if_neg enough',refused,Bool.false_eq_true,if_false]

end

theorem frame_length (v : List UInt8) : (frame v).length=4+v.length := by
  rw [frame,List.length_append]
  rfl

theorem put_get {bs : List UInt8} (h : 4 ≤ bs.length) :
    uint32Codec.put (UInt32.ofNat (uint32Codec.get bs).toNat)=bs.take 4 := by
  have four : (bs.take 4).length=4 := List.length_take_of_le h
  have small := ofLE_lt (bs.take 4)
  rw [four] at small
  have word : (UInt32.ofNat (ofLE (bs.take 4))).toNat=ofLE (bs.take 4) := by
    exact Nat.mod_eq_of_lt small
  change toLE 4 (UInt32.ofNat (UInt32.ofNat (ofLE (bs.take 4))).toNat).toNat=bs.take 4
  rw [word,word]
  have back := toLE_ofLE (bs.take 4)
  rw [four] at back
  exact back

def HoldsFrom (raw : List UInt8) (offset : Nat) (vals : List (List UInt8)) : Prop :=
  (∀v∈vals,v.length<2^32) ∧ vals.flatMap frame <+: raw.drop offset

variable {offset : Nat}

theorem holdsFrom_cons {raw v : List UInt8} {vals : List (List UInt8)} :
    HoldsFrom raw offset (v::vals) ↔ v.length<2^32 ∧ frame v <+: raw.drop offset ∧
      HoldsFrom raw (offset+4+v.length) vals := by
  have skip rest (h : raw.drop offset=frame v++rest) : raw.drop (offset+4+v.length)=rest := by
    rw [Nat.add_assoc,← List.drop_drop,h,← frame_length,List.drop_left]
  unfold HoldsFrom
  rw [List.flatMap_cons,List.forall_mem_cons]
  constructor
  · rintro ⟨⟨small,others⟩,rest,h⟩
    rw [List.append_assoc] at h
    refine ⟨small,⟨_,h⟩,others,rest,?_⟩
    rw [skip _ h.symm]
  · rintro ⟨small,⟨_,h⟩,others,tail,h'⟩
    rw [skip _ h.symm] at h'
    refine ⟨⟨small,others⟩,tail,?_⟩
    rw [List.append_assoc,h',h]

theorem decodeBytesLoop_frame {raw v : List UInt8} {left i : Nat}
    (small : v.length<2^32) (h : frame v <+: raw.drop offset) :
    decodeBytesLoop raw (left+1) i offset=
      (decodeBytesLoop raw left (i+1) (offset+4+v.length)).map (v::·) := by
  obtain ⟨_,h⟩ := h
  have length := congrArg List.length h
  rw [List.length_append,frame_length,List.length_drop] at length
  have value : (uint32Codec.get (raw.drop offset)).toNat=v.length := by
    rw [← h,frame,List.append_assoc,uint32Codec.get_put]
    exact Nat.mod_eq_of_lt small
  have element : (raw.drop (offset+4)).take v.length=v := by
    have four : (uint32Codec.put (UInt32.ofNat v.length)).length=4 := uint32Codec.put_length _
    rw [← List.drop_drop,← h,frame,List.append_assoc,← four,List.drop_left,List.take_left]
  have header : ¬raw.length < offset+4 := by omega
  have body : ¬raw.length < offset+4+v.length := by omega
  simp [decodeBytesLoop,if_neg header,value,if_neg body,element]

theorem exists_frame {raw : List UInt8}
    (body : offset+4+(uint32Codec.get (raw.drop offset)).toNat ≤ raw.length) :
    ∃v,v.length<2^32 ∧ frame v <+: raw.drop offset := by
  have long : 4 ≤ (raw.drop offset).length := by
    rw [List.length_drop]
    omega
  have size : ((raw.drop (offset+4)).take (uint32Codec.get (raw.drop offset)).toNat).length=
      (uint32Codec.get (raw.drop offset)).toNat := by
    rw [List.length_take,List.length_drop]
    omega
  refine ⟨(raw.drop (offset+4)).take (uint32Codec.get (raw.drop offset)).toNat,?_,?_⟩
  · rw [size]
    exact UInt32.toNat_lt _
  · rw [frame,size,put_get long,← List.drop_drop]
    refine ⟨((raw.drop offset).drop 4).drop (uint32Codec.get (raw.drop offset)).toNat,?_⟩
    rw [List.append_assoc,List.take_append_drop,List.take_append_drop]

theorem decodeBytesLoop_ok_iff {raw : List UInt8} (left i offset : Nat) (vals : List (List UInt8)) :
    decodeBytesLoop raw left i offset=.ok vals ↔ vals.length=left ∧ HoldsFrom raw offset vals := by
  induction left generalizing i offset vals with
  | zero =>
    constructor
    · intro h
      obtain rfl : []=vals := Outcome.ok.inj h
      exact ⟨rfl,by simp [HoldsFrom]⟩
    · rintro ⟨length,_⟩
      rw [List.length_eq_zero_iff.mp length]
      rfl
  | succ left ih =>
    constructor
    · intro h
      have body : offset+4+(uint32Codec.get (raw.drop offset)).toNat ≤ raw.length := by
        rw [decodeBytesLoop] at h
        split at h
        · cases h
        · dsimp only at h
          split at h
          · cases h
          · omega
      obtain ⟨v,small,first⟩ := exists_frame body
      rw [decodeBytesLoop_frame small first] at h
      cases rest : decodeBytesLoop raw _ _ _ with
      | ok tail =>
        rw [rest] at h
        obtain rfl := Outcome.ok.inj h
        obtain ⟨length,held⟩ := (ih _ _ _).mp rest
        exact ⟨by rw [List.length_cons,length],holdsFrom_cons.mpr ⟨small,first,held⟩⟩
      | err e =>
        rw [rest] at h
        cases h
      | panicked =>
        rw [rest] at h
        cases h
    · rintro ⟨length,held⟩
      cases vals with
      | nil => cases length
      | cons v vals =>
        obtain ⟨small,first,others⟩ := holdsFrom_cons.mp held
        have tail := (ih (i+1) _ _).mpr ⟨Nat.succ.inj length,others⟩
        rw [decodeBytesLoop_frame small first,tail]
        rfl

theorem decodeBytesLoop_no_panic {raw : List UInt8} (left i offset : Nat) :
    decodeBytesLoop raw left i offset≠.panicked := by
  induction left generalizing i offset with
  | zero => simp [decodeBytesLoop]
  | succ left ih =>
    rw [decodeBytesLoop]
    split
    · simp
    · dsimp only
      split
      · simp
      · rw [ne_eq,Outcome.map_eq_panicked]
        exact ih _ _

end BinaryEncoder

end KServeLLM.Protocol
