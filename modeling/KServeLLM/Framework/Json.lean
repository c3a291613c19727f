import KServeLLM.Framework.Utf8

namespace KServeLLM

inductive Json where
  | null
  | bool (b : Bool)
  | num (literal : List Char)
  | str (s : Bytes)
  | arr (items : List Json)
  | obj (fields : List (Bytes×Json))

namespace Json

open Bytes (units runes utf8 toValid replacement)

def openBrace : Char := Char.ofNat 123
def closeBrace : Char := Char.ofNat 125

variable {n : Nat} {s : List Char} {c : Char}

def escapeNumber (n : Nat) : List Char :=
  ['\\','u',(n/4096%16).digitChar,(n/256%16).digitChar,(n/16%16).digitChar,(n%16).digitChar]

def escape (c : Char) : List Char :=
  if c = '"' then ['\\','"']
  else if c = '\\' then ['\\','\\']
  else if c = Char.ofNat 8 then ['\\','b']
  else if c = Char.ofNat 12 then ['\\','f']
  else if c = '\n' then ['\\','n']
  else if c = '\r' then ['\\','r']
  else if c = '\t' then ['\\','t']
  else if c.toNat < 32 ∨ c = '<' ∨ c = '>' ∨ c = '&' ∨ c.toNat=0x2028 ∨ c.toNat=0x2029 then
    escapeNumber c.toNat
  else [c]

def escapeUnit : Option Char → List Char
  | none => escapeNumber 0xFFFD
  | some c => escape c

def quote (s : Bytes) : List Char := '"' :: ((units s).flatMap escapeUnit++['"'])

def hexValue (c : Char) : Option Nat :=
  if c.isDigit then some (c.toNat-48)
  else if 97 ≤ c.toNat ∧ c.toNat ≤ 102 then some (c.toNat-87)
  else if 65 ≤ c.toNat ∧ c.toNat ≤ 70 then some (c.toNat-55)
  else none

def hex4 : List Char → Option Nat
  | a::b::c::d::_ =>
    match hexValue a,hexValue b,hexValue c,hexValue d with
    | some a,some b,some c,some d => some (4096*a+256*b+16*c+d)
    | _,_,_,_ => none
  | _ => none

def isSurrogate (n : Nat) : Bool := 0xD800 ≤ n && n < 0xE000

def surrogatePair (n : Nat) (rest : List Char) : Option Char :=
  if rest.take 2=['\\','u'] then
    match hex4 (rest.drop 2) with
    | some m =>
      if n < 0xDC00 ∧ 0xDC00 ≤ m ∧ m < 0xE000 then
        some (Char.ofNat (0x10000+(n-0xD800)*1024+(m-0xDC00)))
      else none
    | none => none
  else none

def escapeAt : List Char → Option (Char×Nat)
  | [] => none
  | c::s =>
    if c = '"' ∨ c = '\\' ∨ c = '/' then some (c,1)
    else if c = 'b' then some (Char.ofNat 8,1)
    else if c = 'f' then some (Char.ofNat 12,1)
    else if c = 'n' then some ('\n',1)
    else if c = 'r' then some ('\r',1)
    else if c = 't' then some ('\t',1)
    else if c = 'u' then
      match hex4 s with
      | none => none
      | some n =>
        if isSurrogate n then
          match surrogatePair n (s.drop 4) with
          | some r => some (r,11)
          | none => some (replacement,5)
        else some (Char.ofNat n,5)
    else none

def unquoteFrom : Nat → List Char → Option (List Char×List Char)
  | _,[] => none
  | n+1,_::s => unquoteFrom n s
  | 0,c::s =>
    if c = '"' then some ([],s)
    else if c = '\\' then
      match escapeAt s with
      | none => none
      | some (r,n) => (unquoteFrom n s).map fun p => (r::p.1,p.2)
    else if c.toNat < 32 then none
    else (unquoteFrom 0 s).map fun p => (c::p.1,p.2)

def unquote (s : List Char) : Option (List Char×List Char) := unquoteFrom 0 s

theorem unquoteFrom_drop (n : Nat) (s : List Char) : unquoteFrom n s=unquote (s.drop n) := by
  induction s generalizing n with
  | nil => cases n <;> rfl
  | cons c s ih =>
    cases n with
    | zero => rfl
    | succ n => exact ih n

theorem hexValue_digitChar : ∀ d < 16,hexValue d.digitChar=some d := by decide

theorem hex4_digits (small : n < 65536) (rest : List Char) :
    hex4 ((n/4096%16).digitChar::(n/256%16).digitChar::(n/16%16).digitChar::
      (n%16).digitChar::rest)=some n := by
  have digit m : hexValue (m%16).digitChar=some (m%16) :=
    hexValue_digitChar _ (Nat.mod_lt m (by omega))
  simp only [hex4,digit,Option.some.injEq]
  omega

theorem unquote_backslash {r : Char} (h : escapeAt s=some (r,n)) :
    unquote ('\\' :: s)=(unquote (s.drop n)).map fun p => (r::p.1,p.2) := by
  rw [unquote,unquoteFrom,if_neg (by decide),if_pos rfl,h]
  dsimp only
  rw [unquoteFrom_drop]

theorem unquote_short {e : Char} (h : ∀ s,escapeAt (e::s)=some (c,1)) {rest : List Char} :
    unquote (['\\',e]++rest)=(unquote rest).map fun p => (c::p.1,p.2) :=
  unquote_backslash (h rest)

theorem unquote_plain (free : c ≠ '"' ∧ c ≠ '\\' ∧ ¬c.toNat < 32) {s : List Char} :
    unquote (c::s)=(unquote s).map fun p => (c::p.1,p.2) := by
  rw [unquote,unquoteFrom,if_neg free.1,if_neg free.2.1,if_neg free.2.2]
  rfl

theorem unquote_escapeNumber (small : n < 65536) (scalar : isSurrogate n=false) (rest : List Char) :
    unquote (escapeNumber n++rest)=(unquote rest).map fun p => (Char.ofNat n::p.1,p.2) := by
  have here : escapeAt ((escapeNumber n++rest).tail)=some (Char.ofNat n,5) := by
    simp [escapeNumber,escapeAt,hex4_digits small,scalar]
  exact unquote_backslash here

theorem unquote_escape {rest : List Char} :
    unquote (escape c++rest)=(unquote rest).map fun p => (c::p.1,p.2) := by
  unfold escape
  by_cases quote : c = '"'
  · rw [quote]
    exact unquote_short (fun _ => rfl)
  rw [if_neg quote]
  by_cases backslash : c = '\\'
  · rw [backslash]
    exact unquote_short (fun _ => rfl)
  rw [if_neg backslash]
  by_cases backspace : c = Char.ofNat 8
  · rw [backspace]
    exact unquote_short (fun _ => rfl)
  rw [if_neg backspace]
  by_cases formfeed : c = Char.ofNat 12
  · rw [formfeed]
    exact unquote_short (fun _ => rfl)
  rw [if_neg formfeed]
  by_cases newline : c = '\n'
  · rw [newline]
    exact unquote_short (fun _ => rfl)
  rw [if_neg newline]
  by_cases carriage : c = '\r'
  · rw [carriage]
    exact unquote_short (fun _ => rfl)
  rw [if_neg carriage]
  by_cases tab : c = '\t'
  · rw [tab]
    exact unquote_short (fun _ => rfl)
  rw [if_neg tab]
  split
  · rename_i special
    have low : c.toNat < 0xD800 := by
      rcases special with h | rfl | rfl | rfl | h | h
      · omega
      · decide
      · decide
      · decide
      · omega
      · omega
    have scalar : isSurrogate c.toNat=false := by simp [isSurrogate]; omega
    have step := unquote_escapeNumber (by omega) scalar rest
    rwa [Char.ofNat_toNat] at step
  · rename_i plain
    exact unquote_plain ⟨quote,backslash,fun h => plain (.inl h)⟩

theorem unquote_escapeUnit (u : Option Char) (rest : List Char) :
    unquote (escapeUnit u++rest)=(unquote rest).map fun p => (u.getD replacement::p.1,p.2) := by
  cases u with
  | none => exact unquote_escapeNumber (by decide) (by decide) rest
  | some c => exact unquote_escape

theorem unquote_quoted (s : Bytes) (rest : List Char) :
    unquote ((units s).flatMap escapeUnit++ '"' :: rest)=some (runes s,rest) := by
  unfold runes
  induction units s with
  | nil => rfl
  | cons u us ih =>
    rw [List.flatMap_cons,List.append_assoc,unquote_escapeUnit,ih]
    rfl

variable {rest : List Char}

section

def showInt (n : Int) : List Char :=
  if n < 0 then '-' :: Nat.toDigits 10 n.natAbs else Nat.toDigits 10 n.natAbs

def parseInt64 (literal : List Char) : Option Int64 :=
  let negative : Bool := literal.head?=some '-'
  let digits := if negative then literal.drop 1 else literal
  if digits=[] ∨ !digits.all Char.isDigit then none
  else
    let n : Int := Nat.ofDigitChars 10 digits 0
    let n := if negative then -n else n
    if Int64.minValue.toInt ≤ n ∧ n ≤ Int64.maxValue.toInt then some (Int64.ofInt n) else none

def markedDigits (mark : Char → Bool) (sign : List Char → List Char) (s : List Char) :
    Option (List Char) :=
  match s with
  | [] => some []
  | c::s =>
    if mark c then
      let signed := sign s
      let digits := (s.drop signed.length).takeWhile Char.isDigit
      if digits=[] then none else some (c::signed++digits)
    else some []

def fraction (s : List Char) : Option (List Char) := markedDigits (· = '.') (fun _ => []) s

def exponent (s : List Char) : Option (List Char) :=
  markedDigits (fun c => c = 'e' || c = 'E') (fun s => (s.take 1).filter fun c =>
    c = '+' || c = '-') s

def number (s : List Char) : Option (List Char×List Char) :=
  let sign := (s.take 1).filter (· = '-')
  let unsigned := s.drop sign.length
  let int := if unsigned.head?=some '0' then ['0'] else unsigned.takeWhile Char.isDigit
  if int=[] then none
  else
    match fraction (unsigned.drop int.length) with
    | none => none
    | some frac =>
      let s := unsigned.drop (int++frac).length
      match exponent s with
      | none => none
      | some exp => some (sign++int++frac++exp,s.drop exp.length)

def Ends (rest : List Char) : Prop := ∀ c s,rest=c::s → c = ',' ∨ c = '\n'

theorem toDigits_head (pos : 0 < n) : (Nat.toDigits 10 n).head?≠some '0' := by
  induction n using Nat.strong_induction_on with
  | _ n ih =>
    rw [Nat.toDigits_eq_if (by omega)]
    split
    · rename_i small
      have digits : ∀ d < 10,0 < d → Nat.digitChar d ≠ '0' := by decide
      simpa using digits n small pos
    · have head := ih (n/10) (by omega) (by omega)
      cases digits : Nat.toDigits 10 (n/10) with
      | nil => exact absurd digits Nat.toDigits_ne_nil
      | cons d ds =>
        rw [digits] at head
        exact head

variable {m : Nat}

theorem isDigit_toDigits (mem : c∈Nat.toDigits 10 m) : c.isDigit=true :=
  Nat.isDigit_of_mem_toDigits (by omega) (by omega) mem

theorem toDigits_cons : ∃ d ds,Nat.toDigits 10 m=d::ds ∧ d.isDigit=true := by
  cases digits : Nat.toDigits 10 m with
  | nil => exact absurd digits Nat.toDigits_ne_nil
  | cons d ds => exact ⟨d,ds,rfl,isDigit_toDigits (digits ▸ List.mem_cons_self)⟩

theorem takeWhile_ends (ends : Ends rest) : rest.takeWhile Char.isDigit=[] := by
  cases rest with
  | nil => rfl
  | cons c s => rcases ends c s rfl with rfl | rfl <;> rfl

theorem fraction_ends (ends : Ends rest) : fraction rest=some [] := by
  cases rest with
  | nil => rfl
  | cons c s => rcases ends c s rfl with rfl | rfl <;> rfl

theorem exponent_ends (ends : Ends rest) : exponent rest=some [] := by
  cases rest with
  | nil => rfl
  | cons c s => rcases ends c s rfl with rfl | rfl <;> rfl

theorem int_toDigits (m : Nat) (ends : Ends rest) :
    (if (Nat.toDigits 10 m++rest).head?=some '0' then ['0']
      else (Nat.toDigits 10 m++rest).takeWhile Char.isDigit)=Nat.toDigits 10 m := by
  rcases Nat.eq_zero_or_pos m with rfl | pos
  · rfl
  · have head := toDigits_head pos
    obtain ⟨d,_,digits,_⟩ := toDigits_cons
    rw [if_neg (by rw [digits] at head ⊢; exact head),
      List.takeWhile_append_of_pos (fun c mem => isDigit_toDigits mem),takeWhile_ends ends,
      List.append_nil]

theorem number_showInt (n : Int) (ends : Ends rest) :
    number (showInt n++rest)=some (showInt n,rest) := by
  have int := int_toDigits n.natAbs ends
  obtain ⟨d,_,digits,digit⟩ := toDigits_cons
  have full : Nat.toDigits 10 n.natAbs≠[] := Nat.toDigits_ne_nil
  unfold showInt
  split
  · simp only [number,List.cons_append,List.take_succ_cons,List.take_zero,List.filter_cons,
      decide_true,if_true,List.filter_nil,List.length_singleton,List.drop_succ_cons,List.drop_zero]
    rw [int,if_neg full,List.drop_left,fraction_ends ends]
    simp only [List.append_nil,List.drop_left,exponent_ends ends,List.length_nil]
    rfl
  · have unsigned : ((Nat.toDigits 10 n.natAbs++rest).take 1).filter (· = '-')=[] := by
      rw [digits]
      have other : d ≠ '-' := by
        rintro rfl
        cases digit
      simp [other]
    simp only [number,unsigned,List.length_nil,List.drop_zero]
    rw [int,List.drop_left,fraction_ends ends]
    simp [List.append_nil,exponent_ends ends,List.length_nil,List.drop_zero,
      List.nil_append]

theorem parseInt64_showInt {n : Int64} : parseInt64 (showInt n.toInt)=some n := by
  have inside : Int64.minValue.toInt ≤ n.toInt ∧ n.toInt ≤ Int64.maxValue.toInt :=
    ⟨n.minValue_le_toInt,n.toInt_le⟩
  obtain ⟨d,_,digits,digit⟩ := toDigits_cons
  have all : (Nat.toDigits 10 n.toInt.natAbs).all Char.isDigit=true :=
    List.all_eq_true.mpr fun c mem => isDigit_toDigits mem
  have value : Nat.ofDigitChars 10 (Nat.toDigits 10 n.toInt.natAbs) 0=n.toInt.natAbs :=
    Nat.ofDigitChars_toDigits (by omega) (by omega)
  have full : Nat.toDigits 10 n.toInt.natAbs≠[] := Nat.toDigits_ne_nil
  unfold showInt
  split
  · have same : -n.toInt.natAbs=n.toInt := by omega
    simp only [parseInt64,List.head?_cons,decide_true,if_true,List.drop_succ_cons,List.drop_zero,
      full,all,Bool.not_true,Bool.false_eq_true,or_false,if_false,value,same]
    rw [if_pos inside,Int64.ofInt_toInt]
  · have same : n.toInt.natAbs=n.toInt := by omega
    have unsigned : (Nat.toDigits 10 n.toInt.natAbs).head?≠some '-' := by
      rw [digits]
      rintro ⟨⟩
      cases digit
    simp only [parseInt64,unsigned,decide_false,Bool.false_eq_true,if_false,full,all,Bool.not_true,
      or_false,value,same]
    rw [if_pos inside,Int64.ofInt_toInt]

end

def isSpace (c : Char) : Bool := c = ' ' || c = '\t' || c = '\r' || c = '\n'

def skipSpace (s : List Char) : List Char := s.dropWhile isSpace

def newline (depth : Nat) : List Char := '\n' :: List.replicate (2*depth) ' '

mutual

def render : Nat → Json → List Char
  | _,null => ['n','u','l','l']
  | _,bool true => ['t','r','u','e']
  | _,bool false => ['f','a','l','s','e']
  | _,num literal => literal
  | _,str s => quote s
  | _,arr [] => ['[',']']
  | d,arr (item::items) => '[' :: newline (d+1)++render (d+1) item++renderItems d items
  | _,obj [] => [openBrace,closeBrace]
  | d,obj ((key,value)::fields) =>
    openBrace::newline (d+1)++quote key++[':',' ']++render (d+1) value++renderFields d fields
termination_by structural _ v => v

def renderItems : Nat → List Json → List Char
  | d,[] => newline d++[']']
  | d,item::items => ',' :: newline (d+1)++render (d+1) item++renderItems d items
termination_by structural _ items => items

def renderFields : Nat → List (Bytes×Json) → List Char
  | d,[] => newline d++[closeBrace]
  | d,(key,value)::fields =>
    ',' :: newline (d+1)++quote key++[':',' ']++render (d+1) value++renderFields d fields
termination_by structural _ fields => fields

end

def parseKey (s : List Char) : Option (List Char×List Char) :=
  match skipSpace s with
  | [] => none
  | c::s =>
    if c = '"' then
      match unquote s with
      | none => none
      | some (key,s) =>
        let s := skipSpace s
        if s.head?=some ':' then some (key,s.drop 1) else none
    else none

def parseWord (word : List Char) (value : Json) (s : List Char) : Option (Json×List Char) :=
  if word.isPrefixOf s then some (value,s.drop word.length) else none

mutual

def parseValue : Nat → List Char → Option (Json×List Char)
  | 0,_ => none
  | n+1,s =>
    match skipSpace s with
    | [] => none
    | c::s =>
      if c = '"' then (unquote s).map fun p => (str (utf8 p.1),p.2)
      else if c = '[' then
        if (skipSpace s).head?=some ']' then some (arr [],(skipSpace s).drop 1)
        else
          match parseValue n s with
          | none => none
          | some (item,s) => (parseItems n s).map fun p => (arr (item::p.1),p.2)
      else if c=openBrace then
        if (skipSpace s).head?=some closeBrace then some (obj [],(skipSpace s).drop 1)
        else
          match parseKey s with
          | none => none
          | some (key,s) =>
            match parseValue n s with
            | none => none
            | some (value,s) =>
              (parseFields n s).map fun p => (obj ((utf8 key,value)::p.1),p.2)
      else if c = 'n' then parseWord ['u','l','l'] null s
      else if c = 't' then parseWord ['r','u','e'] (bool true) s
      else if c = 'f' then parseWord ['a','l','s','e'] (bool false) s
      else (number (c::s)).map fun p => (num p.1,p.2)
termination_by structural n => n

def parseItems : Nat → List Char → Option (List Json×List Char)
  | 0,_ => none
  | n+1,s =>
    match skipSpace s with
    | [] => none
    | c::s =>
      if c = ']' then some ([],s)
      else if c = ',' then
        match parseValue n s with
        | none => none
        | some (item,s) => (parseItems n s).map fun p => (item::p.1,p.2)
      else none
termination_by structural n => n

def parseFields : Nat → List Char → Option (List (Bytes×Json)×List Char)
  | 0,_ => none
  | n+1,s =>
    match skipSpace s with
    | [] => none
    | c::s =>
      if c=closeBrace then some ([],s)
      else if c = ',' then
        match parseKey s with
        | none => none
        | some (key,s) =>
          match parseValue n s with
          | none => none
          | some (value,s) => (parseFields n s).map fun p => ((utf8 key,value)::p.1,p.2)
      else none
termination_by structural n => n

end

def marshalIndent (v : Json) : Bytes := utf8 (render 0 v)

def unmarshal (data : Bytes) : Option Json :=
  let text := runes data
  match parseValue (text.length+1) text with
  | some (v,rest) => if skipSpace rest=[] then some v else none
  | none => none

mutual

def coerced : Json → Json
  | str s => str (toValid s)
  | arr items => arr (coercedItems items)
  | obj fields => obj (coercedFields fields)
  | v => v
termination_by structural v => v

def coercedItems : List Json → List Json
  | [] => []
  | item::items => coerced item::coercedItems items
termination_by structural items => items

def coercedFields : List (Bytes×Json) → List (Bytes×Json)
  | [] => []
  | (key,value)::fields => (toValid key,coerced value)::coercedFields fields
termination_by structural fields => fields

end

@[simp] theorem coercedItems_eq (items : List Json) : coercedItems items=items.map coerced := by
  induction items with
  | nil => rfl
  | cons item items ih => rw [coercedItems,ih,List.map_cons]

mutual

def Integral : Json → Prop
  | num literal => ∃ n,literal=showInt n
  | arr items => IntegralItems items
  | obj fields => IntegralFields fields
  | _ => True
termination_by structural v => v

def IntegralItems : List Json → Prop
  | [] => True
  | item::items => Integral item ∧ IntegralItems items
termination_by structural items => items

def IntegralFields : List (Bytes×Json) → Prop
  | [] => True
  | (_,value)::fields => Integral value ∧ IntegralFields fields
termination_by structural fields => fields

end

mutual

def size : Json → Nat
  | arr (item::items) => 1+size item+sizeItems items
  | obj ((_,value)::fields) => 1+size value+sizeFields fields
  | _ => 1
termination_by structural v => v

def sizeItems : List Json → Nat
  | [] => 1
  | item::items => 1+size item+sizeItems items
termination_by structural items => items

def sizeFields : List (Bytes×Json) → Nat
  | [] => 1
  | (_,value)::fields => 1+size value+sizeFields fields
termination_by structural fields => fields

end

variable {space : List Char}

theorem skipSpace_blank (blank : space.all isSpace=true) (s : List Char) :
    skipSpace (space++s)=skipSpace s := by
  induction space with
  | nil => rfl
  | cons b space ih =>
    simp only [List.all_cons,Bool.and_eq_true] at blank
    rw [List.cons_append,skipSpace,List.dropWhile_cons,if_pos blank.1]
    exact ih blank.2

theorem skipSpace_visible (visible : isSpace c=false) (s : List Char) : skipSpace (c::s)=c::s := by
  rw [skipSpace,List.dropWhile_cons,if_neg (by rw [visible]; exact Bool.false_ne_true)]

variable (d : Nat)

@[simp] theorem newline_blank : (newline d).all isSpace=true := by
  simp [newline,isSpace]

theorem blank_single : [' '].all isSpace=true := rfl

theorem ends_newline {s : List Char} : Ends (newline d++s) := by
  rintro c _ ⟨⟩
  exact .inr rfl

theorem ends_comma {s : List Char} : Ends (',' :: s) := by
  rintro c _ ⟨⟩
  exact .inl rfl

theorem ends_renderItems (items : List Json) (s : List Char) : Ends (renderItems d items++s) := by
  cases items with
  | nil =>
    rw [renderItems,List.append_assoc]
    exact ends_newline d
  | cons item items =>
    exact ends_comma

theorem ends_renderFields (fields : List (Bytes×Json)) (s : List Char) :
    Ends (renderFields d fields++s) := by
  cases fields with
  | nil =>
    rw [renderFields,List.append_assoc]
    exact ends_newline d
  | cons field fields =>
    exact ends_comma

theorem showInt_cons (n : Int) : ∃ c s,showInt n=c::s ∧ ∀ e,e ≠ '-' ∧ e.isDigit=false → c≠e := by
  obtain ⟨d,ds,digits,digit⟩ := toDigits_cons
  unfold showInt
  split
  · refine ⟨'-',_,rfl,?_⟩
    rintro e other rfl
    exact other.1 rfl
  · refine ⟨d,ds,digits,?_⟩
    rintro e other rfl
    rw [other.2] at digit
    cases digit

variable {v : Json}

theorem render_cons (integral : Integral v) :
    ∃ c s,render d v=c::s ∧ isSpace c=false ∧ c ≠ ']' := by
  cases v with
  | null => exact ⟨_,_,rfl,rfl,by decide⟩
  | bool b => cases b <;> exact ⟨_,_,rfl,rfl,by decide⟩
  | num literal =>
    obtain ⟨n,rfl⟩ := integral
    obtain ⟨c,s,text,other⟩ := showInt_cons n
    exact ⟨c,s,text,by simp [isSpace,other],other ']' (by decide)⟩
  | str s => exact ⟨_,_,rfl,rfl,by decide⟩
  | arr items => cases items <;> exact ⟨_,_,rfl,rfl,by decide⟩
  | obj fields => cases fields <;> exact ⟨_,_,rfl,rfl,by decide⟩

theorem parseValue_blank (blank : space.all isSpace=true) (n : Nat)
    (s : List Char) : parseValue n (space++s)=parseValue n s := by
  cases n with
  | zero => rfl
  | succ n => rw [parseValue,parseValue,skipSpace_blank blank]

theorem parseKey_quote (blank : space.all isSpace=true) (key : Bytes)
    (s : List Char) : parseKey (space++(quote key++ ':' :: s))=some (runes key,s) := by
  have skipped : skipSpace (space++(quote key++ ':' :: s))=
      '"' :: ((units key).flatMap escapeUnit++ '"' :: ':' :: s) := by
    rw [skipSpace_blank blank]
    simp only [quote,List.cons_append,List.append_assoc]
    rfl
  have colon : skipSpace (':' :: s)= ':' :: s := rfl
  simp [parseKey,skipped,unquote_quoted,colon]

theorem parseValue_num (n : Nat) (i : Int) (ends : Ends rest) :
    parseValue (n+1) (showInt i++rest)=some (num (showInt i),rest) := by
  have read := number_showInt i ends
  obtain ⟨c,s,text,other⟩ := showInt_cons i
  have visible : isSpace c=false := by simp [isSpace,other]
  rw [text] at read ⊢
  simp only [List.cons_append] at read ⊢
  rw [parseValue,skipSpace_visible visible]
  simp only [read,other '"' (by decide),other '[' (by decide),other openBrace (by decide),
    other 'n' (by decide),other 't' (by decide),other 'f' (by decide)]
  rfl

theorem parseValue_str (n : Nat) (s : Bytes) (rest : List Char) :
    parseValue (n+1) (quote s++rest)=some (str (toValid s),rest) := by
  rw [quote,List.cons_append,List.append_assoc,parseValue,skipSpace_visible (by decide)]
  simp only [List.cons_append,unquote_quoted]
  rfl

variable {s' : List Char} {item : Json} {items : List Json}

theorem parseValue_arr {rest : List Char}
    (more : (skipSpace s).head?≠some ']') (first : parseValue n s=some (item,s'))
    (others : parseItems n s'=some (items,rest)) :
    parseValue (n+1) ('[' :: s)=some (arr (item::items),rest) := by
  rw [parseValue,skipSpace_visible (by decide)]
  simp [more,first,others]

variable {value : Json} {fields : List (Bytes×Json)}

theorem parseValue_obj {s'' rest key : List Char}
    (more : (skipSpace s).head?≠some closeBrace) (named : parseKey s=some (key,s'))
    (first : parseValue n s'=some (value,s'')) (others : parseFields n s''=some (fields,rest)) :
    parseValue (n+1) (openBrace::s)=some (obj ((utf8 key,value)::fields),rest) := by
  rw [parseValue,skipSpace_visible (by decide)]
  simp [more,named,first,others,show openBrace ≠ '"' by decide,show openBrace ≠ '[' by decide]

theorem parseItems_cons {rest : List Char}
    (first : parseValue n s=some (item,s')) (others : parseItems n s'=some (items,rest)) :
    parseItems (n+1) (',' :: s)=some (item::items,rest) := by
  rw [parseItems,skipSpace_visible (by decide)]
  simp [first,others]

theorem parseFields_cons {s'' rest key : List Char} (named : parseKey s=some (key,s'))
    (first : parseValue n s'=some (value,s'')) (others : parseFields n s''=some (fields,rest)) :
    parseFields (n+1) (',' :: s)=some ((utf8 key,value)::fields,rest) := by
  rw [parseFields,skipSpace_visible (by decide)]
  simp [named,first,others,show ',' ≠ closeBrace by decide]

theorem size_pos (v : Json) : 0 < size v := by
  cases v with
  | arr items => cases items <;> simp only [size] <;> omega
  | obj fields => cases fields <;> simp only [size] <;> omega
  | _ => exact Nat.one_pos

mutual

theorem parseValue_render : ∀ (v : Json) (d n : Nat) (rest : List Char),Integral v →
    size v ≤ n → Ends rest → parseValue n (render d v++rest)=some (coerced v,rest)
  | v,_,0,_,_,fuel,_ => absurd fuel (by have := size_pos v; omega)
  | null,_,_+1,_,_,_,_ => rfl
  | bool true,_,_+1,_,_,_,_ => rfl
  | bool false,_,_+1,_,_,_,_ => rfl
  | num _,_,n+1,rest,⟨i,rfl⟩,_,ends => parseValue_num n i ends
  | str s,_,n+1,rest,_,_,_ => parseValue_str n s rest
  | arr [],_,_+1,_,_,_,_ => rfl
  | arr (item::items),d,n+1,rest,integral,fuel,_ => by
    simp only [size] at fuel
    have first := parseValue_render item (d+1) n (renderItems d items++rest) integral.1 (by omega)
      (ends_renderItems d items rest)
    have others := parseItems_render items d n rest integral.2 (by omega)
    rw [← parseValue_blank (newline_blank (d+1))] at first
    obtain ⟨c,s,text,visible,inside⟩ := render_cons (d+1) integral.1
    have more : (skipSpace (newline (d+1)++(render (d+1) item++(renderItems d items++rest)))).head?≠
        some ']' := by
      rw [skipSpace_blank (newline_blank _),text,List.cons_append,skipSpace_visible visible]
      simpa using inside
    have read := parseValue_arr more first others
    simpa only [render,coerced,coercedItems,List.cons_append,List.append_assoc] using read
  | obj [],_,_+1,_,_,_,_ => rfl
  | obj ((key,value)::fields),d,n+1,rest,integral,fuel,_ => by
    simp only [size] at fuel
    have first := parseValue_render value (d+1) n (renderFields d fields++rest) integral.1
      (by omega) (ends_renderFields d fields rest)
    have others := parseFields_render fields d n rest integral.2 (by omega)
    have named := parseKey_quote (newline_blank (d+1)) key
      (' ' :: (render (d+1) value++(renderFields d fields++rest)))
    rw [← parseValue_blank blank_single] at first
    have more : (skipSpace (newline (d+1)++(quote key++ ':' :: ' ' ::
        (render (d+1) value++(renderFields d fields++rest))))).head?≠some closeBrace := by
      rw [skipSpace_blank (newline_blank _),quote,List.cons_append,skipSpace_visible (by decide)]
      simp [closeBrace]
    have read := parseValue_obj more named first others
    simpa only [render,coerced,coercedFields,List.cons_append,List.append_assoc,List.nil_append,
      toValid] using read

theorem parseItems_render : ∀ (items : List Json) (d n : Nat) (rest : List Char),
    IntegralItems items → sizeItems items ≤ n →
    parseItems n (renderItems d items++rest)=some (coercedItems items,rest)
  | [],_,0,_,_,fuel => absurd fuel (by simp [sizeItems])
  | _::_,_,0,_,_,fuel => absurd fuel (by simp [sizeItems])
  | [],d,n+1,rest,_,_ => by
    rw [renderItems,List.append_assoc,parseItems,skipSpace_blank (newline_blank d)]
    rfl
  | item::items,d,n+1,rest,integral,fuel => by
    simp only [sizeItems] at fuel
    have first := parseValue_render item (d+1) n (renderItems d items++rest) integral.1 (by omega)
      (ends_renderItems d items rest)
    have others := parseItems_render items d n rest integral.2 (by omega)
    rw [← parseValue_blank (newline_blank (d+1))] at first
    have read := parseItems_cons first others
    simpa only [renderItems,coercedItems,List.cons_append,List.append_assoc] using read

theorem parseFields_render : ∀ (fields : List (Bytes×Json)) (d n : Nat) (rest : List Char),
    IntegralFields fields → sizeFields fields ≤ n →
    parseFields n (renderFields d fields++rest)=some (coercedFields fields,rest)
  | [],_,0,_,_,fuel => absurd fuel (by simp [sizeFields])
  | _::_,_,0,_,_,fuel => absurd fuel (by simp [sizeFields])
  | [],d,n+1,rest,_,_ => by
    rw [renderFields,List.append_assoc,parseFields,skipSpace_blank (newline_blank d)]
    rfl
  | (key,value)::fields,d,n+1,rest,integral,fuel => by
    simp only [sizeFields] at fuel
    have first := parseValue_render value (d+1) n (renderFields d fields++rest) integral.1
      (by omega) (ends_renderFields d fields rest)
    have others := parseFields_render fields d n rest integral.2 (by omega)
    have named := parseKey_quote (newline_blank (d+1)) key
      (' ' :: (render (d+1) value++(renderFields d fields++rest)))
    rw [← parseValue_blank blank_single] at first
    have read := parseFields_cons named first others
    simpa only [renderFields,coercedFields,List.cons_append,List.append_assoc,List.nil_append,
      toValid] using read

end

mutual

theorem size_le_render : ∀ (v : Json) (d : Nat),Integral v → size v ≤ (render d v).length
  | null,_,_ => by simp [size,render]
  | bool true,_,_ => by simp [size,render]
  | bool false,_,_ => by simp [size,render]
  | num _,_,⟨i,rfl⟩ => by
    obtain ⟨c,s,text,_⟩ := showInt_cons i
    simp [size,render,text]
  | str s,_,_ => by simp [size,render,quote]
  | arr [],_,_ => by simp [size,render]
  | arr (item::items),d,integral => by
    have first := size_le_render item (d+1) integral.1
    have others := sizeItems_le_render items d integral.2
    simp only [size,render,List.length_append,List.length_cons]
    omega
  | obj [],_,_ => by simp [size,render]
  | obj ((key,value)::fields),d,integral => by
    have first := size_le_render value (d+1) integral.1
    have others := sizeFields_le_render fields d integral.2
    simp only [size,render,List.length_append,List.length_cons]
    omega

theorem sizeItems_le_render : ∀ (items : List Json) (d : Nat),IntegralItems items →
    sizeItems items ≤ (renderItems d items).length
  | [],_,_ => by simp [sizeItems,renderItems]
  | item::items,d,integral => by
    have first := size_le_render item (d+1) integral.1
    have others := sizeItems_le_render items d integral.2
    simp only [sizeItems,renderItems,List.length_append,List.length_cons]
    omega

theorem sizeFields_le_render : ∀ (fields : List (Bytes×Json)) (d : Nat),IntegralFields fields →
    sizeFields fields ≤ (renderFields d fields).length
  | [],_,_ => by simp [sizeFields,renderFields]
  | (key,value)::fields,d,integral => by
    have first := size_le_render value (d+1) integral.1
    have others := sizeFields_le_render fields d integral.2
    simp only [sizeFields,renderFields,List.length_append,List.length_cons]
    omega

end

theorem unmarshal_marshalIndent (integral : Integral v) :
    unmarshal (marshalIndent v)=some (coerced v) := by
  have fuel : size v ≤ (render 0 v).length+1 := Nat.le_succ_of_le (size_le_render v 0 integral)
  have read := parseValue_render v 0 ((render 0 v).length+1) [] integral fuel (by rintro c s ⟨⟩)
  rw [List.append_nil] at read
  simp [unmarshal,marshalIndent,read,skipSpace]

theorem marshalIndent_ne_nil (integral : Integral v) : marshalIndent v≠[] := by
  intro empty
  have read := unmarshal_marshalIndent integral
  rw [empty] at read
  cases read

end Json

end KServeLLM
