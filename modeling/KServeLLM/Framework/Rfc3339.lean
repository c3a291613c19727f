import KServeLLM.Framework.GoBytes
import Mathlib.Algebra.Group.Nat.Defs
import Mathlib.Data.List.DropRight

namespace KServeLLM.Rfc3339

structure Date where
  (year month day : Int)
  deriving DecidableEq

def isLeap (year : Int) : Bool := year%4=0 && (year%100≠0 || year%400=0)

def daysIn (month year : Int) : Int :=
  if month=2 then if isLeap year then 29 else 28
  else if month=4 ∨ month=6 ∨ month=9 ∨ month=11 then 30
  else 31

structure Place where
  (era century cycle year day : Int)
  century_le : 0 ≤ century ∧ century ≤ 3
  cycle_le : 0 ≤ cycle ∧ cycle ≤ 24
  year_le : 0 ≤ year ∧ year ≤ 3
  day_le : 0 ≤ day ∧ day ≤ 365
  leap : day=365 → year=3 ∧ (cycle=24 → century=3)

def place (n : Int) : Place where
  era := n/146097
  century := min (n%146097/36524) 3
  cycle := (n%146097-36524*min (n%146097/36524) 3)/1461
  year := min ((n%146097-36524*min (n%146097/36524) 3)%1461/365) 3
  day := (n%146097-36524*min (n%146097/36524) 3)%1461-
    365*min ((n%146097-36524*min (n%146097/36524) 3)%1461/365) 3
  century_le := by omega
  cycle_le := by omega
  year_le := by omega
  day_le := by omega
  leap := by omega

def Place.number (p : Place) : Int := 146097*p.era+36524*p.century+1461*p.cycle+365*p.year+p.day

theorem number_place (n : Int) : (place n).number=n := by
  simp only [Place.number,place]
  omega

def Place.date (p : Place) : Date :=
  let month := (5*p.day+2)/153
  {year := 400*p.era+100*p.century+4*p.cycle+p.year+if month < 10 then 0 else 1
   month := if month < 10 then month+3 else month-9
   day := p.day-(153*month+2)/5+1}

def date (n : Int) : Date := (place (n+306)).date

def Date.number (d : Date) : Int :=
  let year := if d.month ≤ 2 then d.year-1 else d.year
  let month := if d.month ≤ 2 then d.month+9 else d.month-3
  146097*(year/400)+365*(year%400)+year%400/4-year%400/100+(153*month+2)/5+d.day-307

theorem Place.number_date (p : Place) : p.date.number=p.number-306 := by
  obtain ⟨_,_,_,_,_,_,_,_,_,_⟩ := p
  simp only [Place.date,Date.number,Place.number]
  split_ifs <;> omega

theorem number_date (n : Int) : (date n).number=n := by
  rw [date,Place.number_date,number_place]
  omega

structure Date.Valid (d : Date) : Prop where
  month_ge : 1 ≤ d.month
  month_le : d.month ≤ 12
  day_ge : 1 ≤ d.day
  day_le : d.day ≤ daysIn d.month d.year

theorem Place.date_valid (p : Place) : p.date.Valid := by
  obtain ⟨_,century,_,_,day,_,_,_,_,_⟩ := p
  have month : 0 ≤ (5*day+2)/153 ∧ (5*day+2)/153 ≤ 11 := by omega
  refine ⟨?_,?_,?_,?_⟩
  · simp only [Place.date]
    split_ifs <;> omega
  · simp only [Place.date]
    split_ifs <;> omega
  · simp only [Place.date]
    omega
  · simp only [Place.date,daysIn,isLeap,Bool.and_eq_true,Bool.or_eq_true,decide_eq_true_eq]
    split_ifs <;> omega

theorem date_valid (n : Int) : (date n).Valid := (place (n+306)).date_valid

variable {width : Nat} {s : Bytes}

def byte (c : Char) : UInt8 := UInt8.ofNat c.toNat

def isDigit (b : UInt8) : Bool := byte '0' ≤ b && b ≤ byte '9'

def digits : Nat → Nat → Bytes
  | 0,_ => []
  | width+1,n => digits width (n/10)++[UInt8.ofNat (48+n%10)]

def value (s : Bytes) : Nat := s.foldl (fun n b => 10*n+(b.toNat-48)) 0

@[simp] theorem length_digits (width n : Nat) : (digits width n).length=width := by
  induction width generalizing n with
  | zero => rfl
  | succ width ih => simp [digits,ih]

theorem isDigit_ofNat : ∀ d < 10,isDigit (UInt8.ofNat (48+d))=true := by decide

theorem isDigit_digits {n : Nat} {b : UInt8} (mem : b∈digits width n) : isDigit b=true := by
  induction width generalizing n with
  | zero => cases mem
  | succ width ih =>
    rcases List.mem_append.mp mem with front | last
    · exact ih front
    · rw [List.mem_singleton.mp last]
      exact isDigit_ofNat _ (Nat.mod_lt n (by omega))

theorem value_snoc (s : Bytes) (b : UInt8) : value (s++[b])=10*value s+(b.toNat-48) := by
  simp [value]

theorem value_digits {n : Nat} (fits : n < 10^width) : value (digits width n)=n := by
  induction width generalizing n with
  | zero =>
    have zero : n=0 := by omega
    rw [zero]
    rfl
  | succ width ih =>
    have last : (UInt8.ofNat (48+n%10)).toNat=48+n%10 := by
      rw [UInt8.toNat_ofNat']
      omega
    rw [digits,value_snoc,ih (by omega)]
    omega

def field (width least most : Nat) (s : Bytes) : Option (Nat×Bytes) :=
  let front := s.take width
  if front.length=width ∧ front.all isDigit ∧ least ≤ value front ∧ value front ≤ most then
    some (value front,s.drop width)
  else none

def mark (c : Char) (s : Bytes) : Option Bytes :=
  if s.head?=some (byte c) then some (s.drop 1) else none

theorem field_digits {least most n : Nat} (fits : n < 10^width) (low : least ≤ n)
    (high : n ≤ most) : field width least most (digits width n++s)=some (n,s) := by
  have front : (digits width n++s).take width=digits width n := by
    rw [List.take_append_of_le_length (by simp),List.take_of_length_le (by simp)]
  have all : (digits width n).all isDigit=true :=
    List.all_eq_true.mpr fun b mem => isDigit_digits mem
  simp only [field,front,all,value_digits fits]
  simp [low,high]

@[simp] theorem mark_cons (c : Char) (s : Bytes) : mark c (byte c::s)=some s := by
  simp [mark]

inductive Fault where
  | year | zoneHour
  deriving DecidableEq,Repr

def fraction (nanos : Nat) : Bytes :=
  if nanos=0 then [] else byte '.' :: (digits 9 nanos).rdropWhile (· == byte '0')

def zone (offset : Int) : Bytes :=
  let minutes := offset.tdiv 60
  if offset=0 then [byte 'Z']
  else
    (if minutes < 0 then byte '-' else byte '+')::digits 2 (minutes.natAbs/60)++
      byte ':' :: digits 2 (minutes.natAbs%60)

def Date.text (d : Date) : Bytes :=
  digits 4 d.year.toNat++byte '-' :: digits 2 d.month.toNat++byte '-' :: digits 2 d.day.toNat

def clock (seconds : Nat) : Bytes :=
  digits 2 (seconds/3600)++byte ':' :: digits 2 (seconds/60%60)++byte ':' :: digits 2 (seconds%60)

def format (instant offset : Int) : Except Fault Bytes :=
  let wall := instant+1000000000*offset
  let date := date (wall/1000000000/86400)
  if date.year < 0 ∨ 9999 < date.year then .error .year
  else if 24 ≤ (offset.tdiv 60).natAbs/60 then .error .zoneHour
  else
    .ok (date.text++byte 'T' :: (clock (wall/1000000000%86400).toNat++
      (fraction (wall%1000000000).toNat++zone offset)))

def parseDate (s : Bytes) : Option (Date×Bytes) := do
  let (year,s) ← field 4 0 9999 s
  let s ← mark '-' s
  let (month,s) ← field 2 1 12 s
  let s ← mark '-' s
  let (day,s) ← field 2 1 (daysIn month year).toNat s
  return (⟨year,month,day⟩,s)

def parseClock (s : Bytes) : Option (Nat×Bytes) := do
  let (hour,s) ← field 2 0 23 s
  let s ← mark ':' s
  let (min,s) ← field 2 0 59 s
  let s ← mark ':' s
  let (sec,s) ← field 2 0 59 s
  return (3600*hour+60*min+sec,s)

def parseFraction (s : Bytes) : Nat×Bytes :=
  let front := (s.drop 1).takeWhile isDigit
  if s.head?=some (byte '.') ∧ front≠[] then
    (value ((front++List.replicate 9 (byte '0')).take 9),s.drop (front.length+1))
  else (0,s)

def parseZone (s : Bytes) : Option Int :=
  if s=[byte 'Z'] then some 0
  else
    match s with
    | [] => none
    | sign::s =>
      if sign=byte '+' ∨ sign=byte '-' then do
        let (hour,s) ← field 2 0 23 s
        let s ← mark ':' s
        let (min,s) ← field 2 0 59 s
        let offset : Int := 3600*hour+60*min
        if s=[] then some (if sign=byte '-' then -offset else offset) else none
      else none

def parse (s : Bytes) : Option (Int×Int) := do
  let (date,s) ← parseDate s
  let s ← mark 'T' s
  let (seconds,s) ← parseClock s
  let (nanos,s) := parseFraction s
  let offset ← parseZone s
  return (1000000000*(86400*date.number+seconds-offset)+nanos,offset)

theorem parseDate_text {d : Date} (valid : d.Valid) (year : 0 ≤ d.year ∧ d.year ≤ 9999)
    (s : Bytes) : parseDate (d.text++s)=some (d,s) := by
  obtain ⟨y,m,day⟩ := d
  obtain ⟨_,_,day_ge,_⟩ := valid
  dsimp only at *
  have cap : daysIn m y ≤ 31 := by
    unfold daysIn
    split_ifs <;> omega
  have ym : (m.toNat : Int)=m ∧ y.toNat=y ∧ day.toNat=day := by omega
  simp only [parseDate,Date.text,List.append_assoc,List.cons_append]
  rw [field_digits (by omega) (by omega) (by omega)]
  simp only [Option.bind_eq_bind,Option.bind_some,mark_cons]
  rw [field_digits (by omega) (by omega) (by omega)]
  simp only [Option.bind_some,mark_cons,ym]
  rw [field_digits (by omega) (by omega) (by omega)]
  simp only [Option.bind_some,ym]
  rfl

theorem parseClock_clock {seconds : Nat} (day : seconds < 86400) (s : Bytes) :
    parseClock (clock seconds++s)=some (seconds,s) := by
  simp only [parseClock,clock,List.append_assoc,List.cons_append]
  rw [field_digits (by omega) (by omega) (by omega)]
  simp only [Option.bind_eq_bind,Option.bind_some,mark_cons]
  rw [field_digits (by omega) (by omega) (by omega)]
  simp only [Option.bind_some,mark_cons]
  rw [field_digits (by omega) (by omega) (by omega)]
  have whole : 3600*(seconds/3600)+60*(seconds/60%60)+seconds%60=seconds := by omega
  simp [whole]

theorem zone_cons (offset : Int) : ∃ b s,zone offset=b::s ∧ isDigit b=false ∧ b≠byte '.' := by
  unfold zone
  dsimp only
  split_ifs
  · exact ⟨_,_,rfl,by decide,by decide⟩
  · exact ⟨_,_,rfl,by decide,by decide⟩
  · exact ⟨_,_,rfl,by decide,by decide⟩

theorem takeWhile_zone {front : Bytes} (all : ∀ b∈front,isDigit b=true) (offset : Int) :
    (front++zone offset).takeWhile isDigit=front := by
  obtain ⟨b,s,text,other,_⟩ := zone_cons offset
  rw [List.takeWhile_append_of_pos all,text,List.takeWhile_cons,other]
  simp

theorem padded_rdropWhile (s : Bytes) : s.rdropWhile (· == byte '0')++
      List.replicate (s.length-(s.rdropWhile (· == byte '0')).length) (byte '0')=s := by
  induction s using List.reverseRecOn with
  | nil => rfl
  | append_singleton s b ih =>
    by_cases zero : b=byte '0'
    · have cut := List.rdropWhile_concat_pos (fun b => b == byte '0') s b (by simp [zero])
      have short := (List.rdropWhile_prefix (fun b => b == byte '0') s).length_le
      rw [cut,List.length_append,List.length_singleton,Nat.sub_add_comm short,
        List.replicate_succ',← List.append_assoc,ih,zero]
    · have kept := List.rdropWhile_concat_neg (fun b => b == byte '0') s b (by simp [zero])
      rw [kept]
      simp

variable {nanos : Nat}

theorem parseFraction_fraction (small : nanos < 1000000000) (offset : Int) :
    parseFraction (fraction nanos++zone offset)=(nanos,zone offset) := by
  unfold fraction
  split
  · rename_i zero
    obtain ⟨b,s,text,_,other⟩ := zone_cons offset
    simp [parseFraction,text,other,zero]
  · rename_i positive
    have whole : value (digits 9 nanos)=nanos := value_digits small
    have padded := padded_rdropWhile (digits 9 nanos)
    have short := (List.rdropWhile_prefix (fun b => b == byte '0') (digits 9 nanos)).length_le
    have all : ∀ b∈(digits 9 nanos).rdropWhile (· == byte '0'),isDigit b=true := fun b mem =>
      isDigit_digits ((List.rdropWhile_prefix _ _).subset mem)
    rw [length_digits] at padded short
    generalize (digits 9 nanos).rdropWhile (· == byte '0')=front at *
    have some' : front≠[] := by
      rintro rfl
      rw [← padded] at whole
      exact positive whole.symm
    have refill : (front++List.replicate 9 (byte '0')).take 9=digits 9 nanos := by
      rw [← padded,List.take_append,List.take_of_length_le short,List.take_replicate,
        Nat.min_eq_left (by omega)]
    simp only [parseFraction,List.cons_append,List.drop_succ_cons,List.drop_zero,
      takeWhile_zone all,List.head?_cons,true_and,if_pos some',refill,whole,List.drop_left]

theorem parseZone_signed {sign : UInt8} (signed : sign=byte '+' ∨ sign=byte '-') {minutes : Nat}
    (hour : minutes/60 < 24) :
    parseZone (sign::digits 2 (minutes/60)++byte ':' :: digits 2 (minutes%60))=
      some (if sign=byte '-' then -(60*minutes : Int) else 60*minutes) := by
  have last : field 2 0 59 (digits 2 (minutes%60)++[])=some (minutes%60,[]) :=
    field_digits (by omega) (by omega) (by omega)
  rw [List.append_nil] at last
  have total : (3600*(minutes/60 : Nat)+60*(minutes%60 : Nat) : Int)=60*minutes := by omega
  unfold parseZone
  rw [if_neg (by simp),List.cons_append]
  dsimp only
  rw [if_pos signed,field_digits (by omega) (by omega) (by omega)]
  simp only [Option.bind_eq_bind,Option.bind_some,mark_cons,last,total,if_true]

variable {offset : Int}

theorem parseZone_zone (hour : (offset.tdiv 60).natAbs/60 < 24) :
    parseZone (zone offset)=some (60*offset.tdiv 60) := by
  unfold zone
  by_cases zero : offset=0
  · rw [zero]
    rfl
  · simp only
    split_ifs
    · rw [parseZone_signed (.inr rfl) hour,if_pos rfl]
      congr 1
      omega
    · rw [parseZone_signed (.inl rfl) hour,if_neg (by decide)]
      congr 1
      omega

theorem parse_format {instant : Int} (h : format instant offset=.ok s) :
    parse s=some (instant+1000000000*(offset-60*offset.tdiv 60),60*offset.tdiv 60) := by
  unfold format at h
  dsimp only at h
  split at h
  · cases h
  · split at h
    · cases h
    · cases h
      have number := number_date ((instant+1000000000*offset)/1000000000/86400)
      have dated := parseDate_text (date_valid ((instant+1000000000*offset)/1000000000/86400))
        (by omega)
      simp only [parse,dated,Option.bind_eq_bind,Option.bind_some,mark_cons]
      rw [parseClock_clock (by omega)]
      simp only [Option.bind_some]
      rw [parseFraction_fraction (by omega)]
      rw [parseZone_zone (by omega)]
      simp only [Option.bind_some]
      congr 2
      omega

example : parse (Bytes.ascii "2024-02-29T12:00:00.5+05:30")=
    some (63844785000500000000,19800) := by decide +kernel

theorem digits_low {n : Nat} : ∀ b∈digits width n,b < 128 := by
  intro b mem
  have digit := isDigit_digits mem
  simp only [isDigit,Bool.and_eq_true,decide_eq_true_eq] at digit
  exact UInt8.lt_of_le_of_lt digit.2 (by decide)

theorem fraction_low : ∀ b∈fraction nanos,b < 128 := by
  unfold fraction
  split
  · simp
  · refine List.forall_mem_cons.mpr ⟨by decide,fun b mem => ?_⟩
    exact digits_low b ((List.rdropWhile_prefix _ _).subset mem)

theorem zone_low : ∀ b∈zone offset,b < 128 := by
  unfold zone
  dsimp only
  split_ifs
  · exact List.forall_mem_singleton.mpr (by decide)
  · simp only [List.cons_append,List.forall_mem_cons,List.forall_mem_append]
    exact ⟨by decide,digits_low,by decide,digits_low⟩
  · simp only [List.cons_append,List.forall_mem_cons,List.forall_mem_append]
    exact ⟨by decide,digits_low,by decide,digits_low⟩

theorem format_low {instant : Int} (h : format instant offset=.ok s) : ∀ b∈s,b < 128 := by
  unfold format at h
  dsimp only at h
  split at h
  · cases h
  · split at h
    · cases h
    · cases h
      simp only [Date.text,clock,List.append_assoc,List.cons_append,List.forall_mem_cons,
        List.forall_mem_append]
      exact ⟨digits_low,by decide,digits_low,by decide,digits_low,by decide,
        digits_low,by decide,digits_low,by decide,digits_low,fraction_low,zone_low⟩

end KServeLLM.Rfc3339
