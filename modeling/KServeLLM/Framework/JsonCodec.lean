import KServeLLM.Framework.GoTypes
import KServeLLM.Framework.Json

namespace KServeLLM.Json

open Bytes (toValid)

structure Codec (ε α : Type) where
  zero : α
  carried : α → α
  encode : α → Except ε Json
  decode : Json → α → Option α
  integral : ∀ {a j},encode a=.ok j → Integral j
  roundtrip : ∀ {a j},encode a=.ok j → decode j.coerced zero=some (carried a)

section

variable {ε α : Type}

def readString : Json → Bytes → Option Bytes
  | null,s => some s
  | str s,_ => some s
  | _,_ => none

def string : Codec ε Bytes where
  zero := []
  carried := toValid
  encode s := .ok (str s)
  decode := readString
  integral := by
    rintro s j ⟨⟩
    trivial
  roundtrip := by
    rintro s j ⟨⟩
    rfl

def boolean : Codec ε Bool where
  zero := false
  carried := id
  encode b := .ok (bool b)
  decode
    | null,b => some b
    | bool b,_ => some b
    | _,_ => none
  integral := by
    rintro b j ⟨⟩
    trivial
  roundtrip := by
    rintro b j ⟨⟩
    rfl

def int64 : Codec ε Int64 where
  zero := 0
  carried := id
  encode n := .ok (num (showInt n.toInt))
  decode
    | null,n => some n
    | num literal,_ => parseInt64 literal
    | _,_ => none
  integral := by
    rintro n j ⟨⟩
    exact ⟨n.toInt,rfl⟩
  roundtrip := by
    rintro n j ⟨⟩
    exact parseInt64_showInt

theorem mapM_cons_ok {β : Type} {f : α → Except ε β} {a : α} {l : List α} {r : List β}
    (h : (a::l).mapM f=.ok r) : ∃ b bs,f a=.ok b ∧ l.mapM f=.ok bs ∧ r=b::bs := by
  rw [List.mapM_cons] at h
  cases first : f a with
  | error e =>
    rw [first] at h
    cases h
  | ok b =>
    cases others : l.mapM f with
    | error e =>
      rw [first,others] at h
      cases h
    | ok bs =>
      rw [first,others] at h
      cases h
      exact ⟨b,bs,rfl,rfl,rfl⟩

theorem mapM_encode {c : Codec ε α} {l : List α} {items : List Json}
    (h : l.mapM c.encode=.ok items) :
    IntegralItems items ∧
      (items.map coerced).mapM (fun item => c.decode item c.zero)=some (l.map c.carried) := by
  induction l generalizing items with
  | nil =>
    cases h
    exact ⟨trivial,rfl⟩
  | cons a l ih =>
    obtain ⟨j,_,first,others,rfl⟩ := mapM_cons_ok h
    obtain ⟨integral,read⟩ := ih others
    refine ⟨⟨c.integral first,integral⟩,?_⟩
    rw [List.map_cons,List.mapM_cons,c.roundtrip first,read]
    rfl

theorem map_ok {β γ : Type} {f : β → γ} {x : Except ε β} {y : γ} (h : x.map f=.ok y) :
    ∃ b,x=.ok b ∧ f b=y := by
  cases x with
  | error e => cases h
  | ok b =>
    cases h
    exact ⟨b,rfl,rfl⟩

def list (c : Codec ε α) : Codec ε (List α) where
  zero := []
  carried := List.map c.carried
  encode l := (l.mapM c.encode).map arr
  decode
    | null,_ => some []
    | arr items,_ => items.mapM fun item => c.decode item c.zero
    | _,_ => none
  integral := by
    intro l j h
    obtain ⟨items,written,rfl⟩ := map_ok h
    exact (mapM_encode written).1
  roundtrip := by
    intro l j h
    obtain ⟨items,written,rfl⟩ := map_ok h
    rw [coerced,coercedItems_eq]
    exact (mapM_encode written).2

def pointer (c : Codec ε α) (full : ∀ a,c.encode a≠.ok null) : Codec ε (Option α) where
  zero := none
  carried := Option.map c.carried
  encode
    | none => .ok null
    | some a => c.encode a
  decode
    | null,_ => some none
    | j,p => (c.decode j (p.getD c.zero)).map some
  integral := by
    intro p j h
    cases p with
    | none =>
      cases h
      trivial
    | some a => exact c.integral h
  roundtrip := by
    intro p j h
    cases p with
    | none =>
      cases h
      rfl
    | some a =>
      have read := c.roundtrip h
      cases j with
      | null => exact absurd h (full a)
      | _ => exact congrArg (Option.map some) read

def sorted (m : GoMap Bytes Bytes) : List (Bytes×Bytes) :=
  (m.entries.map fun e => (e.1,e.2)).mergeSort fun a b => a.1 ≤ b.1

def readEntries (fields : List (Bytes×Json)) (m : GoMap Bytes Bytes) : Option (GoMap Bytes Bytes) :=
  fields.foldlM (fun m f => (readString f.2 []).map fun v => m.insert f.1 v) m

theorem integralFields_strings {entries : List (Bytes×Bytes)} :
    IntegralFields (entries.map fun e => (e.1,str e.2)) := by
  induction entries with
  | nil => trivial
  | cons e entries ih => exact ⟨trivial,ih⟩

theorem readEntries_strings {entries : List (Bytes×Bytes)} (m : GoMap Bytes Bytes) :
    readEntries (coercedFields (entries.map fun e => (e.1,str e.2))) m=
      some (entries.foldl (fun m e => m.insert (toValid e.1) (toValid e.2)) m) := by
  induction entries generalizing m with
  | nil => rfl
  | cons e entries ih => exact ih (m.insert (toValid e.1) (toValid e.2))

def stringMap : Codec ε (GoMap Bytes Bytes) where
  zero := ∅
  carried m := (sorted m).foldl (fun m e => m.insert (toValid e.1) (toValid e.2)) ∅
  encode m := .ok (obj ((sorted m).map fun e => (e.1,str e.2)))
  decode
    | null,_ => some ∅
    | obj fields,m => readEntries fields m
    | _,_ => none
  integral := by
    rintro m j ⟨⟩
    exact integralFields_strings
  roundtrip := by
    rintro m j ⟨⟩
    exact readEntries_strings ∅

end

def foldFrom : Nat → Bytes → Bytes
  | _,[] => []
  | n+1,_::s => foldFrom n s
  | 0,b::s =>
    if Bytes.hasPrefix (b::s) [226,132,170] then 107::foldFrom 2 s
    else if Bytes.hasPrefix (b::s) [197,191] then 115::foldFrom 1 s
    else if 65 ≤ b && b ≤ 90 then (b+32)::foldFrom 0 s
    else b::foldFrom 0 s

def foldKey (key : Bytes) : Bytes := foldFrom 0 key

variable {ε α β : Type}

structure Field (ε α : Type) where
  name : Bytes
  encode : α → Except ε (Option Json)
  decode : Json → α → Option α
  unset : α → Prop
  carry : α → α → α
  omitted : ∀ {a},encode a=.ok none → ∀ r,carry a r=r
  integral : ∀ {a j},encode a=.ok (some j) → Integral j
  roundtrip : ∀ {a j},encode a=.ok (some j) → ∀ {r},unset r → decode j.coerced r=some (carry a r)

def field (name : Bytes) (c : Codec ε β) (get : α → β) (put : α → β → α) : Field ε α where
  name
  encode a := (c.encode (get a)).map some
  decode j r := (c.decode j (get r)).map (put r)
  unset r := get r=c.zero
  carry a r := put r (c.carried (get a))
  omitted := by
    intro a h
    obtain ⟨j,_,⟨⟩⟩ := map_ok h
  integral := by
    intro a j h
    obtain ⟨j,written,⟨⟩⟩ := map_ok h
    exact c.integral written
  roundtrip := by
    intro a j h r unset
    obtain ⟨j,written,⟨⟩⟩ := map_ok h
    rw [unset,c.roundtrip written]
    rfl

def omitEmpty (name : Bytes) (c : Codec ε β) (empty : β → Bool) (get : α → β)
    (put : α → β → α) : Field ε α where
  name
  encode a := if empty (get a) then .ok none else (c.encode (get a)).map some
  decode j r := (c.decode j (get r)).map (put r)
  unset r := get r=c.zero
  carry a r := if empty (get a) then r else put r (c.carried (get a))
  omitted := by
    intro a h r
    split at h
    · rename_i empty
      rw [if_pos empty]
    · obtain ⟨j,_,⟨⟩⟩ := map_ok h
  integral := by
    intro a j h
    split at h
    · cases h
    · obtain ⟨j,written,⟨⟩⟩ := map_ok h
      exact c.integral written
  roundtrip := by
    intro a j h r unset
    split at h
    · cases h
    · rename_i full
      obtain ⟨j,written,⟨⟩⟩ := map_ok h
      rw [unset,c.roundtrip written,if_neg full]
      rfl

def encodeFields : List (Field ε α) → α → Except ε (List (Bytes×Json))
  | [],_ => .ok []
  | f::fs,a =>
    match f.encode a with
    | .error e => .error e
    | .ok none => encodeFields fs a
    | .ok (some j) => (encodeFields fs a).map fun rest => (f.name,j)::rest

theorem encodeFields_total {fields : List (Field ε α)} {a : α}
    (total : ∀ f∈fields,∃ o,f.encode a=.ok o) : ∃ pairs,encodeFields fields a=.ok pairs := by
  induction fields with
  | nil => exact ⟨[],rfl⟩
  | cons f fs ih =>
    obtain ⟨⟨o,written⟩,others⟩ := List.forall_mem_cons.mp total
    obtain ⟨pairs,rest⟩ := ih others
    cases o with
    | none =>
      refine ⟨pairs,?_⟩
      rw [encodeFields,written]
      exact rest
    | some j =>
      refine ⟨(f.name,j)::pairs,?_⟩
      rw [encodeFields,written,rest]
      rfl

theorem omitEmpty_total {name : Bytes} {c : Codec ε β} {empty : β → Bool} {get : α → β}
    {put : α → β → α} {a : α} (total : ∃ j,c.encode (get a)=.ok j) :
    ∃ o,(omitEmpty name c empty get put).encode a=.ok o := by
  obtain ⟨j,written⟩ := total
  show ∃ o,(if empty (get a) then .ok none else (c.encode (get a)).map some)=Except.ok o
  split
  · exact ⟨none,rfl⟩
  · exact ⟨some j,congrArg (Except.map some) written⟩

theorem strings_total {l : List Bytes} : ∃ j,(list (ε := ε) string).encode l=.ok j := by
  have items : ∃ js,l.mapM (string (ε := ε)).encode=.ok js := by
    induction l with
    | nil => exact ⟨[],rfl⟩
    | cons s l ih =>
      obtain ⟨js,rest⟩ := ih
      refine ⟨str s::js,?_⟩
      rw [List.mapM_cons,rest]
      rfl
  obtain ⟨js,written⟩ := items
  exact ⟨arr js,congrArg (Except.map arr) written⟩

def decodeFields (table : List (Field ε α)) : List (Bytes×Json) → α → Option α
  | [],r => some r
  | (key,j)::rest,r =>
    match table.find? fun f => foldKey f.name=foldKey key with
    | none => decodeFields table rest r
    | some f =>
      match f.decode j r with
      | none => none
      | some r => decodeFields table rest r

def Untouched (a : α) : List (Field ε α) → α → Prop
  | [],_ => True
  | f::fs,r => f.unset r ∧ Untouched a fs (f.carry a r)

theorem untouched_of_pairwise {fields : List (Field ε α)} {a r : α}
    (apart : fields.Pairwise fun f g => ∀ r,g.unset r → g.unset (f.carry a r))
    (start : ∀ f∈fields,f.unset r) : Untouched a fields r := by
  induction fields generalizing r with
  | nil => trivial
  | cons f fs ih =>
    obtain ⟨here,later⟩ := List.pairwise_cons.mp apart
    obtain ⟨first,others⟩ := List.forall_mem_cons.mp start
    exact ⟨first,ih later fun g mem => here g mem r (others g mem)⟩

structure Named (fields : List (Field ε α)) : Prop where
  low : ∀ f∈fields,∀ b∈f.name,b < 128
  distinct : (fields.map fun f => foldKey f.name).Nodup

def carryAll (fields : List (Field ε α)) (a r : α) : α := fields.foldl (fun r f => f.carry a r) r

theorem find_field {table : List (Field ε α)}
    (distinct : (table.map fun f => foldKey f.name).Nodup) {f : Field ε α} (mem : f∈table) :
    table.find? (fun g => foldKey g.name=foldKey f.name)=some f := by
  induction table with
  | nil => cases mem
  | cons g table ih =>
    simp only [List.map_cons,List.nodup_cons] at distinct
    rcases List.mem_cons.mp mem with rfl | mem
    · simp
    · have other : foldKey g.name≠foldKey f.name := fun same =>
        distinct.1 (same ▸ List.mem_map.mpr ⟨f,mem,rfl⟩)
      rw [List.find?_cons_of_neg (by simpa using other)]
      exact ih distinct.2 mem

theorem decodeFields_encode {table : List (Field ε α)} (named : Named table)
    {fs : List (Field ε α)} (known : ∀ f∈fs,f∈table) {a r : α} (unset : Untouched a fs r)
    {fields : List (Bytes×Json)} (h : encodeFields fs a=.ok fields) :
    IntegralFields fields ∧ decodeFields table (coercedFields fields) r=some (carryAll fs a r) := by
  induction fs generalizing r fields with
  | nil =>
    cases h
    exact ⟨trivial,rfl⟩
  | cons f fs ih =>
    obtain ⟨here,later⟩ := unset
    obtain ⟨first,others⟩ := List.forall_mem_cons.mp known
    unfold encodeFields at h
    split at h
    · cases h
    · rename_i written
      rw [f.omitted written] at later
      have rest := ih others later h
      rwa [carryAll,List.foldl_cons,f.omitted written]
    · rename_i j written
      obtain ⟨_,tail,rfl⟩ := map_ok h
      obtain ⟨integral,read⟩ := ih others later tail
      refine ⟨⟨f.integral written,integral⟩,?_⟩
      have same : toValid f.name=f.name := (Bytes.toValid_eq_iff (named.low f first) f.name).mpr rfl
      rw [coercedFields,decodeFields,same,find_field named.distinct first]
      dsimp only
      rw [f.roundtrip written here]
      exact read

def struct (zero : α) (fields : List (Field ε α)) (named : Named fields)
    (unset : ∀ a,Untouched a fields zero) : Codec ε α where
  zero
  carried a := carryAll fields a zero
  encode a := (encodeFields fields a).map obj
  decode
    | null,r => some r
    | obj pairs,r => decodeFields fields pairs r
    | _,_ => none
  integral := by
    intro a j h
    obtain ⟨pairs,written,rfl⟩ := map_ok h
    exact (decodeFields_encode named (fun _ mem => mem) (unset a) written).1
  roundtrip := by
    intro a j h
    obtain ⟨pairs,written,rfl⟩ := map_ok h
    exact (decodeFields_encode named (fun _ mem => mem) (unset a) written).2

theorem struct_full {zero : α} {fields : List (Field ε α)} (named : Named fields)
    (unset : ∀ a,Untouched a fields zero) {a : α} :
    (struct zero fields named unset).encode a≠.ok null := by
  intro h
  obtain ⟨_,_,⟨⟩⟩ := map_ok h

end KServeLLM.Json
