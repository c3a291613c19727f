import Mathlib.Data.List.Basic

namespace KServeLLM

variable {α : Type*} [DecidableEq α]

def terminate (z : α) (parts : List (List α)) : List α := parts.flatMap (·++[z])

def pieces (z : α) (parts : List (List α)) : List (List α) := parts.flatMap (·.splitOn z)

theorem splitOn_terminate (z : α) (parts : List (List α)) :
    (terminate z parts).splitOn z=pieces z parts++[[]] := by
  induction parts with
  | nil => rfl
  | cons p parts ih =>
    have first : terminate z (p::parts)=p++z::terminate z parts := by simp [terminate]
    rw [first,List.splitOn_append_cons_self,ih,← List.append_assoc]
    rfl

theorem terminate_eq_iff (z : α) (ps qs : List (List α)) :
    terminate z ps=terminate z qs ↔ pieces z ps=pieces z qs := by
  constructor
  · intro h
    have cut := congrArg (List.splitOn z) h
    rw [splitOn_terminate,splitOn_terminate] at cut
    exact List.append_cancel_right cut
  · intro h
    rw [← @List.intercalate_splitOn _ (terminate z ps),splitOn_terminate,h,
      ← splitOn_terminate,List.intercalate_splitOn]

theorem byteArray_loop {bs : ByteArray} {i : Nat} {acc : List UInt8} :
    ByteArray.toList.loop bs i acc=acc.reverse++bs.data.toList.drop i := by
  induction i,acc using ByteArray.toList.loop.induct bs with
  | case1 i acc inside ih =>
    have more : i < bs.data.toList.length := by simpa using inside
    have here : bs.get! i=bs.data.toList[i] := by
      simpa [ByteArray.get!] using getElem!_pos bs.data i inside
    rw [ByteArray.toList.loop,if_pos inside,ih,List.drop_eq_getElem_cons more,here]
    simp
  | case2 i acc outside =>
    have done : bs.data.toList.length ≤ i := by simpa using outside
    rw [ByteArray.toList.loop,if_neg outside,List.drop_eq_nil_of_le done,List.append_nil]

theorem byteArray_toList (bs : ByteArray) : bs.toList=bs.data.toList := byteArray_loop

def latin1 (bytes : List UInt8) : String := String.ofList (bytes.map (Char.ofNat ·.toNat))

theorem toNat_byteChar (b : UInt8) : (Char.ofNat b.toNat).toNat=b.toNat := by
  have small := b.toNat_lt
  have valid : b.toNat.isValidChar := .inl (by omega)
  rw [Char.ofNat,dif_pos valid]
  rfl

theorem latin1_injective : Function.Injective latin1 := by
  intro a b h
  refine List.map_injective_iff.mpr ?_ (String.ofList_injective h)
  intro x y (same : Char.ofNat x.toNat=Char.ofNat y.toNat)
  exact UInt8.toNat_inj.mp (by rw [← toNat_byteChar,same,toNat_byteChar])

end KServeLLM
