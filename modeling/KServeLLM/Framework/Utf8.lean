import KServeLLM.Framework.GoBytes

namespace KServeLLM

namespace Bytes

def decodeRune (s : Bytes) : Option Char := s.toByteArray.utf8DecodeChar? 0

def unitsFrom : Nat → Bytes → List (Option Char)
  | _,[] => []
  | n+1,_::s => unitsFrom n s
  | 0,b::s =>
    match decodeRune (b::s) with
    | some c => some c::unitsFrom (c.utf8Size-1) s
    | none => none::unitsFrom 0 s

def units (s : Bytes) : List (Option Char) := unitsFrom 0 s

def replacement : Char := Char.ofNat 0xFFFD

def runes (s : Bytes) : List Char := (units s).map (·.getD replacement)

def utf8 (cs : List Char) : Bytes := cs.flatMap String.utf8EncodeChar

def valid (s : Bytes) : Bool := (units s).all Option.isSome

def badBytes (s : Bytes) : Nat := (units s).countP Option.isNone

def toValid (s : Bytes) : Bytes := utf8 (runes s)

theorem decodeRune_encode (c : Char) (s : Bytes) :
    decodeRune (String.utf8EncodeChar c++s)=some c := by
  rw [decodeRune,List.toByteArray_append]
  exact ByteArray.utf8DecodeChar?_utf8EncodeChar_append

theorem unitsFrom_drop (n : Nat) (s : Bytes) : unitsFrom n s=units (s.drop n) := by
  induction s generalizing n with
  | nil => cases n <;> rfl
  | cons b s ih =>
    cases n with
    | zero => rfl
    | succ n => exact ih n

theorem encode_ne_nil (c : Char) : String.utf8EncodeChar c≠[] := by
  intro empty
  have size := String.length_utf8EncodeChar c
  have pos := c.utf8Size_pos
  rw [empty] at size
  simp at size
  omega

@[simp]
theorem units_encode (c : Char) (s : Bytes) :
    units (String.utf8EncodeChar c++s)=some c::units s := by
  have first := decodeRune_encode c s
  have size := String.length_utf8EncodeChar c
  cases bytes : String.utf8EncodeChar c with
  | nil => exact absurd bytes (encode_ne_nil c)
  | cons b rest =>
    rw [bytes] at first size
    have skip : c.utf8Size-1=rest.length := by
      simp at size
      omega
    rw [List.cons_append] at first ⊢
    rw [units,unitsFrom,first]
    dsimp only
    rw [unitsFrom_drop,skip,List.drop_left]

variable {b : UInt8} {s : Bytes}

theorem units_bad (bad : decodeRune (b::s)=none) : units (b::s)=none::units s := by
  rw [units,unitsFrom,bad]
  rfl

variable {c : Char}

theorem encode_of_decodeRune (h : decodeRune s=some c) :
    ∃ rest,s=String.utf8EncodeChar c++rest := by
  obtain ⟨tail,parts⟩ := ByteArray.exists_of_utf8DecodeChar?_eq_some h
  have list : tail=tail.data.toList.toByteArray := by
    rw [ByteArray.ext_iff,List.data_toByteArray]
  rw [list,← List.toByteArray_append] at parts
  exact ⟨_,List.toByteArray_inj.mp parts⟩

theorem runeInduction {P : Bytes → Prop} (nil : P [])
    (good : ∀ c s,P s → P (String.utf8EncodeChar c++s))
    (bad : ∀ b s,decodeRune (b::s)=none → P s → P (b::s)) (s : Bytes) : P s := by
  induction size : s.length using Nat.strong_induction_on generalizing s with
  | _ n ih =>
    cases s with
    | nil => exact nil
    | cons b rest =>
      cases first : decodeRune (b::rest) with
      | none => exact bad b rest first (ih rest.length (by simp at size; omega) rest rfl)
      | some c =>
        obtain ⟨tail,eq⟩ := encode_of_decodeRune first
        have shorter : tail.length < n := by
          have pos := List.length_pos_of_ne_nil (encode_ne_nil c)
          rw [← size,eq,List.length_append]
          omega
        rw [eq]
        exact good c tail (ih tail.length shorter tail rfl)

@[simp]
theorem units_utf8 (cs : List Char) : units (utf8 cs)=cs.map some := by
  induction cs with
  | nil => rfl
  | cons c cs ih =>
    rw [utf8,List.flatMap_cons,units_encode]
    exact congrArg (some c::·) ih

@[simp]
theorem runes_utf8 (cs : List Char) : runes (utf8 cs)=cs := by
  simp [runes,Function.comp_def]

theorem toValid_encode (c : Char) (s : Bytes) :
    toValid (String.utf8EncodeChar c++s)=String.utf8EncodeChar c++toValid s := by
  simp [toValid,runes,utf8]

theorem toValid_bad (bad : decodeRune (b::s)=none) : toValid (b::s)=239::191::189::toValid s := by
  rw [toValid,runes,units_bad bad,utf8]
  rfl

@[simp]
theorem toValid_toValid : toValid (toValid s)=toValid s := by
  rw [toValid,toValid,runes_utf8]

theorem length_toValid (s : Bytes) : (toValid s).length=s.length+2*badBytes s := by
  unfold badBytes
  induction s using runeInduction with
  | nil => rfl
  | good c s ih => simp [toValid_encode]; omega
  | bad b s h ih => simp [toValid_bad h,units_bad h]; omega

theorem valid_iff_badBytes : valid s=true ↔ badBytes s=0 := by
  rw [valid,badBytes,List.all_eq_true,List.countP_eq_zero]
  exact forall₂_congr fun unit _ => by cases unit <;> simp

theorem valid_iff : valid s=true ↔ toValid s=s := by
  constructor
  · intro h
    induction s using runeInduction with
    | nil => rfl
    | good c s ih =>
      rw [toValid_encode,ih (by simpa [valid] using h)]
    | bad b s bad ih => simp [valid,units_bad bad] at h
  · intro same
    have size := length_toValid s
    rw [same] at size
    exact (valid_iff_badBytes).mpr (by omega)

theorem encode_low (low : b < 128) : String.utf8EncodeChar (Char.ofNat b.toNat)=[b] := by
  have small : b.toNat < 128 := UInt8.lt_iff_toNat_lt.mp low
  have same : (Char.ofNat b.toNat).val.toNat=b.toNat := by
    have scalar : b.toNat.isValidChar := .inl (by omega)
    rw [Char.ofNat,dif_pos scalar]
    rfl
  simp only [String.utf8EncodeChar,same]
  rw [if_pos (by omega),UInt8.ofNat_toNat]

theorem encode_head_low {rest : Bytes}
    (h : String.utf8EncodeChar c=b::rest) (low : b < 128) : rest=[] := by
  have small : b.toNat < 128 := UInt8.lt_iff_toNat_lt.mp low
  simp only [String.utf8EncodeChar] at h
  split_ifs at h
  · simp only [List.cons.injEq] at h
    exact h.2.symm
  all_goals
    simp only [List.cons.injEq] at h
    rw [← h.1,UInt8.toNat_ofNat'] at small
    omega

theorem toValid_low (low : b < 128) (s : Bytes) : toValid (b::s)=b::toValid s := by
  have step := toValid_encode (Char.ofNat b.toNat) s
  rwa [encode_low low] at step

theorem low_of_toValid {t : Bytes} (low : b < 128) (h : toValid s=b::t) :
    ∃ r,s=b::r ∧ t=toValid r := by
  induction s using runeInduction with
  | nil => cases h
  | good c s _ =>
    rw [toValid_encode] at h
    cases bytes : String.utf8EncodeChar c with
    | nil => exact absurd bytes (encode_ne_nil c)
    | cons d rest =>
      rw [bytes,List.cons_append,List.cons.injEq] at h
      obtain ⟨rfl,tail⟩ := h
      obtain rfl := encode_head_low bytes low
      exact ⟨s,rfl,tail.symm⟩
  | bad d s bad _ =>
    rw [toValid_bad bad,List.cons.injEq] at h
    rw [← h.1] at low
    exact absurd low (by decide)

variable {p : Bytes}

theorem prefix_toValid (low : ∀ b∈p,b < 128) (s : Bytes) : p <+: toValid s ↔ p <+: s := by
  induction p generalizing s with
  | nil => simp
  | cons b p ih =>
    obtain ⟨first,rest⟩ := List.forall_mem_cons.mp low
    constructor
    · rintro ⟨t,eq⟩
      obtain ⟨r,rfl,tail⟩ := low_of_toValid first eq.symm
      have inner := (ih rest r).mp ⟨t,tail⟩
      exact List.cons_prefix_cons.mpr ⟨rfl,inner⟩
    · rintro ⟨t,rfl⟩
      rw [List.cons_append,toValid_low first]
      exact List.cons_prefix_cons.mpr ⟨rfl,(ih rest _).mpr (List.prefix_append p t)⟩

theorem hasPrefix_toValid (low : ∀ b∈p,b < 128) (s : Bytes) :
    hasPrefix (toValid s) p=hasPrefix s p := by
  rw [Bool.eq_iff_iff,hasPrefix,hasPrefix,List.isPrefixOf_iff_prefix,List.isPrefixOf_iff_prefix]
  exact prefix_toValid low s

theorem toValid_eq_iff (low : ∀ b∈p,b < 128) (s : Bytes) : toValid s=p ↔ s=p := by
  induction p generalizing s with
  | nil =>
    constructor
    · intro empty
      have size := length_toValid s
      rw [empty] at size
      exact List.eq_nil_of_length_eq_zero (by simp at size; omega)
    · rintro rfl
      rfl
  | cons b p ih =>
    obtain ⟨first,rest⟩ := List.forall_mem_cons.mp low
    constructor
    · intro eq
      obtain ⟨r,rfl,tail⟩ := low_of_toValid first eq
      rw [(ih rest r).mp tail.symm]
    · rintro rfl
      rw [toValid_low first,(ih rest p).mpr rfl]

end Bytes

end KServeLLM
