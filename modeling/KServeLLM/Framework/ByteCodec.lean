import Mathlib.Data.Nat.Digits.Defs
import Mathlib.Data.List.Basic

namespace KServeLLM

def toLE : Nat → Nat → List UInt8
  | 0,_ => []
  | w+1,n => UInt8.ofNat n::toLE w (n/256)

def ofLE (bs : List UInt8) : Nat := Nat.ofDigits 256 (bs.map UInt8.toNat)

theorem ofLE_cons (b : UInt8) (bs : List UInt8) : ofLE (b::bs)=b.toNat+256*ofLE bs := by
  rfl

theorem toLE_length {w : Nat} (n : Nat) : (toLE w n).length=w := by
  induction w generalizing n with
  | zero => rfl
  | succ w ih => rw [toLE,List.length_cons,ih]

theorem ofLE_toLE {w n : Nat} (h : n < 256^w) : ofLE (toLE w n)=n := by
  induction w generalizing n with
  | zero =>
    have zero : n=0 := by simpa using h
    simp [toLE,ofLE,zero]
  | succ w ih =>
    have high : n/256 < 256^w := by
      exact Nat.div_lt_of_lt_mul (by omega)
    rw [toLE,ofLE_cons,ih high,UInt8.toNat_ofNat']
    omega

theorem ofLE_lt (bs : List UInt8) : ofLE bs < 256^bs.length := by
  induction bs with
  | nil => exact Nat.one_pos
  | cons b bs ih =>
    have low := b.toNat_lt
    rw [ofLE_cons,List.length_cons]
    omega

theorem toLE_ofLE (bs : List UInt8) : toLE bs.length (ofLE bs)=bs := by
  induction bs with
  | nil => rfl
  | cons b bs ih =>
    have low := b.toNat_lt
    have digit : UInt8.ofNat (b.toNat+256*ofLE bs)=b := by
      apply UInt8.toNat_inj.mp
      rw [UInt8.toNat_ofNat']
      omega
    have high : (b.toNat+256*ofLE bs)/256=ofLE bs := by omega
    rw [List.length_cons,toLE,ofLE_cons,digit,high,ih]

structure WordCodec (α : Type) where
  width : Nat
  put : α → List UInt8
  get : List UInt8 → α
  put_length : ∀x,(put x).length=width
  get_put : ∀x rest,get (put x++rest)=x

namespace WordCodec

variable {α : Type}

def ofBits (width : Nat) (toBits : α → Nat) (fromBits : Nat → α)
    (bound : ∀x,toBits x < 256^width) (inverse : ∀x,fromBits (toBits x)=x) : WordCodec α where
  width := width
  put := fun x => toLE width (toBits x)
  get := fun bs => fromBits (ofLE (bs.take width))
  put_length := fun x => toLE_length (toBits x)
  get_put := fun x rest => by
    have own : (toLE width (toBits x)++rest).take width=toLE width (toBits x) :=
      List.take_left' (toLE_length (toBits x))
    rw [own,ofLE_toLE (bound x),inverse]

variable (c : WordCodec α)

def pack (xs : List α) : List UInt8 := xs.flatMap c.put

def read (raw : List UInt8) (i : Nat) : Option α :=
  if (i+1)*c.width ≤ raw.length then some (c.get (raw.drop (i*c.width))) else none

def readFrom (raw : List UInt8) : Nat → Nat → Option (List α)
  | 0,_ => some []
  | count+1,i =>
      match c.read raw i,readFrom raw count (i+1) with
      | some x,some xs => some (x::xs)
      | _,_ => none

theorem pack_length (xs : List α) : (c.pack xs).length=xs.length*c.width := by
  induction xs with
  | nil => simp [pack]
  | cons x xs ih =>
    have split : c.pack (x::xs)=c.put x++c.pack xs := List.flatMap_cons
    rw [split,List.length_append,ih,c.put_length,List.length_cons]
    ring

theorem readFrom_length {raw : List UInt8} {count i : Nat} (h : (i+count)*c.width ≤ raw.length) :
    ∃xs,c.readFrom raw count i=some xs ∧ xs.length=count := by
  induction count generalizing i with
  | zero => exact ⟨[],rfl,rfl⟩
  | succ count ih =>
    have order : i+1+count=i+(count+1) := by omega
    obtain ⟨xs,rest,length⟩ := ih (i := i+1) (by rw [order]; exact h)
    have inside : (i+1)*c.width ≤ raw.length := (Nat.mul_le_mul_right _ (by omega)).trans h
    refine ⟨c.get (raw.drop (i*c.width))::xs,?_,by rw [List.length_cons,length]⟩
    rw [readFrom,read,if_pos inside,rest]

theorem readFrom_pack (xs : List α) (before : List UInt8) (i : Nat) (h : before.length=i*c.width) :
    c.readFrom (before++c.pack xs) xs.length i=some xs := by
  induction xs generalizing before i with
  | nil => rfl
  | cons x xs ih =>
    have split : c.pack (x::xs)=c.put x++c.pack xs := List.flatMap_cons
    have inside : (i+1)*c.width ≤ (before++c.pack (x::xs)).length := by
      rw [List.length_append,split,List.length_append,c.put_length]
      ring_nf
      omega
    have here : (before++c.pack (x::xs)).drop (i*c.width)=c.put x++c.pack xs := by
      rw [← h,List.drop_left,split]
    have next : c.readFrom (before++c.pack (x::xs)) xs.length (i+1)=some xs := by
      rw [split,← List.append_assoc]
      apply ih
      rw [List.length_append,c.put_length,h]
      ring
    rw [List.length_cons,readFrom,read,if_pos inside,here,c.get_put,next]

end WordCodec

end KServeLLM
