import Mathlib.Data.List.Infix

namespace KServeLLM

abbrev Bytes := List UInt8

namespace Bytes

instance instLawfulBEqBytes : LawfulBEq Bytes := inferInstance

def ascii (s : String) : Bytes := s.toList.map fun c => UInt8.ofNat c.toNat

def hasPrefix (s p : Bytes) : Bool := p.isPrefixOf s

def cut (sep : Bytes) : Bytes → Option (Bytes×Bytes)
  | [] => if sep=[] then some ([],[]) else none
  | b::s =>
    if hasPrefix (b::s) sep then some ([],(b::s).drop sep.length)
    else (cut sep s).map fun parts => (b::parts.1,parts.2)

def splitFrom (sep : Bytes) : Nat → Bytes → List Bytes
  | 0,s => [s]
  | n+1,s =>
    match cut sep s with
    | none => [s]
    | some (before,after) => before::splitFrom sep n after

def split (sep s : Bytes) : List Bytes := splitFrom sep s.length s

def isHex (b : UInt8) : Bool := (48 ≤ b && b ≤ 57) || (97 ≤ b && b ≤ 102) || (65 ≤ b && b ≤ 70)

def lowerFrom : Nat → Bytes → Bytes
  | _,[] => []
  | n+1,_::s => lowerFrom n s
  | 0,b::s =>
    if hasPrefix (b::s) [226,132,170] then 107::lowerFrom 2 s
    else if hasPrefix (b::s) [196,176] then 105::lowerFrom 1 s
    else if 65 ≤ b && b ≤ 90 then (b+32)::lowerFrom 0 s
    else b::lowerFrom 0 s

def toLower (s : Bytes) : Bytes := lowerFrom 0 s

theorem cut_eq {sep s before after : Bytes} (h : cut sep s=some (before,after)) :
    s=before++sep++after := by
  induction s generalizing before after with
  | nil =>
    unfold cut at h
    split at h
    · rename_i empty
      cases h
      simp [empty]
    · cases h
  | cons b s ih =>
    unfold cut at h
    split at h
    · rename_i starts
      cases h
      obtain ⟨_,eq⟩ := List.isPrefixOf_iff_prefix.mp starts
      rw [← eq]
      simp
    · rw [Option.map_eq_some_iff] at h
      obtain ⟨⟨_,_⟩,found,same⟩ := h
      cases same
      simp [ih found]

theorem splitFrom_ne_nil {sep : Bytes} {n : Nat} {s : Bytes} : splitFrom sep n s≠[] := by
  cases n with
  | zero => simp [splitFrom]
  | succ n =>
    rw [splitFrom]
    split <;> simp

theorem splitFrom_join (sep : Bytes) (n : Nat) (s : Bytes) :
    sep.intercalate (splitFrom sep n s)=s := by
  induction n generalizing s with
  | zero => exact List.intercalate_singleton
  | succ n ih =>
    rw [splitFrom]
    cases found : cut sep s with
    | none => exact List.intercalate_singleton
    | some parts =>
      obtain ⟨_,after⟩ := parts
      rw [List.intercalate_cons_of_ne_nil (splitFrom_ne_nil),ih]
      exact (cut_eq found).symm

theorem split_pair {sep s front back : Bytes} (h : split sep s=[front,back]) :
    s=front++sep++back := by
  have joined := splitFrom_join sep s.length s
  rw [split] at h
  rw [← joined,h,List.intercalate_cons_cons,List.intercalate_singleton]

end Bytes

end KServeLLM
