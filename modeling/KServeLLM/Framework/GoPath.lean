import Mathlib.Data.List.DropRight
import KServeLLM.Framework.GoStrings

namespace KServeLLM.GoPath

open GoString

def dot : GoString := ['.']

def dotDot : GoString := ['.','.']

def isRooted (p : GoString) : Bool := p.head?=some '/'

def cleanStep (rooted : Bool) (kept : List GoString) (elem : GoString) : List GoString :=
  if elem=[] ∨ elem=dot then kept
  else if elem=dotDot then
    match kept.getLast? with
    | none => if rooted then [] else [dotDot]
    | some last => if last=dotDot then kept++[dotDot] else kept.dropLast
  else kept++[elem]

def cleanElems (p : GoString) : List GoString := (split '/' p).foldl (cleanStep (isRooted p)) []

def clean (p : GoString) : GoString :=
  if isRooted p then '/'::join '/' (cleanElems p)
  else if cleanElems p=[] then dot
  else join '/' (cleanElems p)

def joinPath : List GoString → GoString
  | [] => []
  | elem::rest => if elem=[] then joinPath rest else clean (join '/' (elem::rest))

def dir (p : GoString) : GoString :=
  match cutLast '/' p with
  | some parts => clean (parts.1++['/'])
  | none => clean []

def base (p : GoString) : GoString :=
  if p=[] then dot
  else
    let stripped := p.rdropWhile (·= '/')
    let last := match cutLast '/' stripped with
      | some parts => parts.2
      | none => stripped
    if last=[] then ['/'] else last

def enter (dir : List GoString) (elem : GoString) : List GoString :=
  if elem=[] ∨ elem=dot then dir
  else if elem=dotDot then dir.dropLast
  else dir++[elem]

def walk (dir : List GoString) (elems : List GoString) : List GoString := elems.foldl enter dir

def resolve (cwd : List GoString) (p : GoString) : List GoString :=
  walk (if isRooted p then [] else cwd) (split '/' p)

def Below (dir place : List GoString) : Prop := dir <+: place ∧ dir≠place

instance (dir place : List GoString) : Decidable (Below dir place) :=
  inferInstanceAs (Decidable (_ ∧ _))

variable {elem : GoString}

section

variable {dir : List GoString}

theorem enter_name (full : elem≠[]) (one : elem≠dot)
    (two : elem≠dotDot) : enter dir elem=dir++[elem] := by
  rw [enter,if_neg (not_or.mpr ⟨full,one⟩),if_neg two]

@[simp] theorem enter_dotDot (dir : List GoString) : enter dir dotDot=dir.dropLast := by
  rw [enter,if_neg (by decide),if_pos rfl]

theorem elem_cases (elem : GoString) :
    elem=[] ∨ elem=dot ∨ elem=dotDot ∨ (elem≠[] ∧ elem≠dot ∧ elem≠dotDot) := by
  by_cases empty : elem=[]
  · exact .inl empty
  by_cases one : elem=dot
  · exact .inr (.inl one)
  by_cases two : elem=dotDot
  · exact .inr (.inr (.inl two))
  exact .inr (.inr (.inr ⟨empty,one,two⟩))

theorem walk_append {xs ys : List GoString} :
    walk dir (xs++ys)=walk (walk dir xs) ys := List.foldl_append

theorem walk_snoc {xs : List GoString} {elem : GoString} :
    walk dir (xs++[elem])=enter (walk dir xs) elem := walk_append

end

variable {p : GoString} (cwd : List GoString)

section

def Kept (elem : GoString) : Prop := elem≠[] ∧ elem≠dot ∧ '/'∉elem

instance (elem : GoString) : Decidable (Kept elem) := inferInstanceAs (Decidable (_ ∧ _))

variable {rooted : Bool} {kept : List GoString}

theorem cleanStep_name (full : elem≠[])
    (one : elem≠dot) (two : elem≠dotDot) : cleanStep rooted kept elem=kept++[elem] := by
  rw [cleanStep,if_neg (not_or.mpr ⟨full,one⟩),if_neg two]

theorem cleanStep_dotDot {rooted : Bool} {before : List GoString} {last : GoString} :
    cleanStep rooted [] dotDot=(if rooted then [] else [dotDot]) ∧
    cleanStep rooted (before++[last]) dotDot=
      if last=dotDot then before++[last]++[dotDot] else before := by
  have step kept : cleanStep rooted kept dotDot=match kept.getLast? with
      | none => if rooted then [] else [dotDot]
      | some last => if last=dotDot then kept++[dotDot] else kept.dropLast := by
    rw [cleanStep,if_neg (by decide),if_pos rfl]
  refine ⟨step [],?_⟩
  rw [step,List.getLast?_concat,List.dropLast_concat]

theorem kept_cleanStep
    (old : ∀x∈kept,Kept x) (free : '/'∉elem) : ∀x∈cleanStep rooted kept elem,Kept x := by
  have add y (fresh : Kept y) : ∀x∈kept++[y],Kept x := by
    intro x mem
    rcases List.mem_append.mp mem with early | late
    · exact old x early
    · exact List.mem_singleton.mp late ▸ fresh
  have up : Kept dotDot := by decide
  rcases elem_cases elem with rfl | rfl | rfl | ⟨full,one,two⟩
  · exact old
  · exact old
  · rcases List.eq_nil_or_concat kept with rfl | ⟨before,last,rfl⟩
    · cases rooted with
      | true => exact old
      | false => exact add dotDot up
    · rw [List.concat_eq_append] at old add ⊢
      rw [(cleanStep_dotDot).2]
      split
      · exact add dotDot up
      · exact fun x mem => old x (List.mem_append_left _ mem)
  · rw [cleanStep_name full one two]
    exact add elem ⟨full,one,free⟩

theorem kept_cleanElems (p : GoString) : ∀x∈cleanElems p,Kept x := by
  have general (elems : List GoString) (free : ∀x∈elems,'/'∉x) kept
      (old : ∀x∈kept,Kept x) : ∀x∈elems.foldl (cleanStep (isRooted p)) kept,Kept x := by
    induction elems generalizing kept with
    | nil => exact old
    | cons e elems ih =>
      exact ih (fun x mem => free x (List.mem_cons_of_mem e mem)) _
        (kept_cleanStep old (free e List.mem_cons_self))
  exact general _ (fun x mem => free_of_mem_split mem) [] (by simp)

variable {start : List GoString}

theorem walk_cleanStep (root : rooted=true → start=[]) (old : ∀x∈kept,Kept x) :
    walk start (cleanStep rooted kept elem)=enter (walk start kept) elem := by
  rcases elem_cases elem with rfl | rfl | rfl | ⟨full,one,two⟩
  · rfl
  · rfl
  · rcases List.eq_nil_or_concat kept with rfl | ⟨before,last,rfl⟩
    · cases rooted with
      | true => rw [root rfl]; rfl
      | false => rfl
    · rw [List.concat_eq_append] at old ⊢
      rw [(cleanStep_dotDot).2]
      split
      · exact walk_snoc
      · rename_i name
        have real := old last (by simp)
        rw [walk_snoc,enter_name real.1 real.2.1 name,enter_dotDot,List.dropLast_concat]
  · rw [cleanStep_name full one two,walk_snoc]

theorem walk_cleanElems (p : GoString)
    (root : isRooted p=true → start=[]) : walk start (cleanElems p)=walk start (split '/' p) := by
  have general elems (free : ∀x∈elems,'/'∉x) kept
      (old : ∀x∈kept,Kept x) : walk start (elems.foldl (cleanStep (isRooted p)) kept)=
        walk (walk start kept) elems := by
    induction elems generalizing kept with
    | nil => rfl
    | cons e elems ih =>
      rw [List.foldl_cons,ih (fun x mem => free x (List.mem_cons_of_mem e mem)) _
        (kept_cleanStep old (free e List.mem_cons_self)),walk_cleanStep root old]
      rfl
  exact general _ (fun x mem => free_of_mem_split mem) [] (by simp)

variable {parts : List GoString}

theorem split_join_of_free (some' : parts≠[]) (free : ∀x∈parts,'/'∉x) :
    split '/' (join '/' parts)=parts := by
  rw [split_join '/' some',List.flatMap_congr fun x mem => split_of_free (free x mem)]
  exact List.flatMap_singleton' parts

theorem walk_split_join
    (free : ∀x∈parts,'/'∉x) : walk start (split '/' (join '/' parts))=walk start parts := by
  by_cases none' : parts=[]
  · rw [none']
    rfl
  · rw [split_join_of_free none' free]

theorem isRooted_join (kept : ∀x∈parts,Kept x) : isRooted (join '/' parts)=false := by
  cases parts with
  | nil => rfl
  | cons x rest =>
    obtain ⟨full,-,free⟩ := kept x List.mem_cons_self
    cases x with
    | nil => exact absurd rfl full
    | cons c x =>
      have other : c≠ '/' := fun same => free (by simp [same])
      cases rest <;> simp [isRooted,join,other]

theorem resolve_clean (p : GoString) : resolve cwd (clean p)=resolve cwd p := by
  have kept := kept_cleanElems p
  have free : ∀x∈cleanElems p,'/'∉x := fun x mem => (kept x mem).2.2
  by_cases rooted : isRooted p=true
  · rw [clean,if_pos rooted,resolve,resolve,if_pos rooted]
    change walk [] (split '/' (join '/' (cleanElems p)))=_
    rw [walk_split_join free,walk_cleanElems p (fun _ => rfl)]
  · have same := @walk_cleanElems cwd p (fun h => absurd h rooted)
    have there : resolve cwd p=walk cwd (cleanElems p) := by rw [same,resolve,if_neg rooted]
    rw [there,clean,if_neg rooted]
    by_cases none' : cleanElems p=[]
    · rw [none']
      rfl
    · rw [if_neg none',resolve,isRooted_join kept,if_neg (by simp),walk_split_join free]

theorem resolve_append (full : p≠[]) (q : GoString) :
    resolve cwd (p++ '/'::q)=walk (resolve cwd p) (split '/' q) := by
  have parts : split '/' (p++ '/'::q)=split '/' p++split '/' q := by
    have joined := @split_join '/' [p,q] (by simp)
    simpa [join] using joined
  have same : isRooted (p++ '/'::q)=isRooted p := by
    cases p with
    | nil => exact absurd rfl full
    | cons c p => rfl
  rw [resolve,parts,walk_append,same,resolve]

theorem resolve_joinPath (full : p≠[]) (q : GoString) :
    resolve cwd (joinPath [p,q])=walk (resolve cwd p) (split '/' q) := by
  have joined : join '/' [p,q]=p++ '/'::q := by simp [join]
  rw [joinPath,if_neg full,resolve_clean,joined,resolve_append cwd full]

theorem resolve_joinPath_nil (q : GoString) : resolve cwd (joinPath [[],q])=resolve cwd q := by
  rw [joinPath,if_pos rfl,joinPath]
  by_cases empty : q=[]
  · rw [empty]
    rfl
  · have alone : join '/' [q]=q := by simp [join]
    rw [if_neg empty,resolve_clean,alone]

def joinSteps (cwd : List GoString) (p q : GoString) : List GoString :=
  if p=[] ∧ isRooted q then List.replicate cwd.length dotDot++split '/' q else split '/' q

theorem walk_up (d : List GoString) : walk d (List.replicate d.length dotDot)=[] := by
  induction d using List.reverseRecOn with
  | nil => rfl
  | append_singleton d x ih =>
    rw [List.length_append,List.length_singleton]
    change walk (enter (d++[x]) dotDot) _=[]
    rw [enter_dotDot,List.dropLast_concat,ih]

theorem resolve_joinSteps (p q : GoString) :
    resolve cwd (joinPath [p,q])=walk (resolve cwd p) (joinSteps cwd p q) := by
  by_cases full : p=[]
  · have home : resolve cwd p=cwd := by
      rw [full]
      rfl
    rw [full,resolve_joinPath_nil,← full,home,joinSteps]
    by_cases rooted : isRooted q=true
    · rw [if_pos ⟨full,rooted⟩,walk_append,walk_up,resolve,if_pos rooted]
    · rw [if_neg fun h => rooted h.2,resolve,if_neg rooted]
  · rw [joinSteps,if_neg fun h => full h.1,resolve_joinPath cwd full]

end

theorem join_snoc_append (sep : Char) (init : List GoString) (last sfx : GoString) :
    join sep (init++[last])++sfx=join sep (init++[last++sfx]) := by
  induction init with
  | nil => simp [join]
  | cons a init ih =>
    cases init with
    | nil => simp [join]
    | cons b init =>
      have step x : join sep (a::b::init++[x])=a++sep::join sep (b::init++[x]) := rfl
      rw [step,step,← ih,List.append_assoc,List.cons_append]

theorem exists_last {p : GoString} : ∃place last,
    resolve cwd p=enter place last ∧ ∀sfx,'/'∉sfx → 3 ≤ sfx.length →
      resolve cwd (p++sfx)=place++[last++sfx] := by
  rcases List.eq_nil_or_concat (split '/' p) with none' | ⟨init,last,parts⟩
  · exact absurd none' (List.splitOn_ne_nil _ _)
  rw [List.concat_eq_append] at parts
  refine ⟨walk (if isRooted p then [] else cwd) init,last,by rw [resolve,parts,walk_snoc],?_⟩
  intro sfx free long
  have whole : p=join '/' (init++[last]) := by
    rw [← parts]
    exact (List.intercalate_splitOn '/').symm
  have elems : split '/' (p++sfx)=init++[last++sfx] := by
    rw [whole,join_snoc_append]
    refine split_join_of_free (by simp) fun x mem => ?_
    rcases List.mem_append.mp mem with early | late
    · exact free_of_mem_split (s := p) (parts ▸ List.mem_append_left _ early)
    · have own := @free_of_mem_split '/' p last (by simp [parts])
      rw [List.mem_singleton.mp late,List.mem_append]
      exact fun either => either.elim own free
  have same : isRooted (p++sfx)=isRooted p := by
    cases p with
    | cons c p => rfl
    | nil =>
      cases sfx with
      | nil => rfl
      | cons c sfx =>
        have other : c≠ '/' := fun same => free (by simp [same])
        simp [isRooted,other]
  have size : 3 ≤ (last++sfx).length := by
    rw [List.length_append]
    omega
  rw [resolve,elems,same,walk_snoc]
  refine enter_name ?_ ?_ ?_ <;> intro h <;> simp [h,dot,dotDot] at size

section

variable {d : List GoString} {place : List GoString}

theorem Below.append (h : d <+: place) {rest : List GoString}
    (more : rest≠[]) : Below d (place++rest) := by
  refine ⟨h.trans (List.prefix_append _ _),fun same => ?_⟩
  have size := h.length_le
  rw [same,List.length_append] at size
  have := List.length_pos_iff.mpr more
  omega

theorem Below.of_concat {x : GoString} (h : Below d (place++[x])) : d <+: place := by
  rcases List.prefix_concat_iff.mp h.1 with whole | inside
  · exact absurd whole h.2
  · exact inside

theorem Below.suffix {cwd : List GoString} {sfx : GoString} (h : Below d (resolve cwd p))
    (free : '/'∉sfx) (long : 3 ≤ sfx.length) : Below d (resolve cwd (p++sfx)) := by
  obtain ⟨_,last,here,beside⟩ := exists_last cwd
  rw [beside sfx free long]
  rw [here] at h
  refine .append ?_ (by simp)
  rcases elem_cases last with rfl | rfl | rfl | ⟨full,one,two⟩
  · exact h.1
  · exact h.1
  · exact h.1.trans ( List.dropLast_prefix _)
  · rw [enter_name full one two] at h
    exact h.of_concat

theorem Below.joinPath {cwd : List GoString} {name : GoString} (h : Below d (resolve cwd p))
    (path : p≠[]) (free : '/'∉name) (full : name≠[]) (one : name≠dot) (two : name≠dotDot) :
    Below d (resolve cwd (joinPath [p,name])) := by
  rw [resolve_joinPath cwd path,split_of_free free]
  change Below d (enter _ name)
  rw [enter_name full one two]
  exact .append h.1 (by simp)

end

def climbStep (s : Nat×List GoString) (elem : GoString) : Nat×List GoString :=
  if elem=[] ∨ elem=dot then s
  else if elem=dotDot then (if s.2=[] then (s.1+1,[]) else (s.1,s.2.dropLast))
  else (s.1,s.2++[elem])

def climb (elems : List GoString) : Nat×List GoString := elems.foldl climbStep (0,[])

theorem enter_climbStep (d : List GoString) (s : Nat×List GoString) (elem : GoString) :
    enter (d.take (d.length-s.1)++s.2) elem=
      d.take (d.length-(climbStep s elem).1)++(climbStep s elem).2 := by
  obtain ⟨k,names⟩ := s
  rcases elem_cases elem with rfl | rfl | rfl | ⟨full,one,two⟩
  · rfl
  · rfl
  · by_cases none' : names=[]
    · have step : climbStep (k,names) dotDot=(k+1,[]) := by simp [climbStep,none',dotDot,dot]
      rw [step,enter_dotDot,none',List.append_nil,List.append_nil,
        List.dropLast_eq_take,List.take_take,List.length_take]
      congr 1
      omega
    · have step : climbStep (k,names) dotDot=(k,names.dropLast) := by
        simp [climbStep,none',dotDot,dot]
      rw [step,enter_dotDot,List.dropLast_append_of_ne_nil none']
  · have step : climbStep (k,names) elem=(k,names++[elem]) := by simp [climbStep,full,one,two]
    rw [step,enter_name full one two,List.append_assoc]

theorem walk_eq_climb (d : List GoString) (elems : List GoString) :
    walk d elems=d.take (d.length-(climb elems).1)++(climb elems).2 := by
  induction elems using List.reverseRecOn with
  | nil => simp [walk,climb]
  | append_singleton elems e ih =>
    rw [walk_snoc,ih,enter_climbStep,climb,climb,List.foldl_append]
    rfl

theorem below_walk_iff {d : List GoString} {elems : List GoString} :
    Below d (walk d elems) ↔ Below (d.drop (d.length-(climb elems).1)) (climb elems).2 := by
  have cut := List.take_append_drop (d.length-(climb elems).1) d
  rw [walk_eq_climb]
  constructor
  · rintro ⟨inside,other⟩
    refine ⟨?_,fun same => other ?_⟩
    · rw [← List.prefix_append_right_inj,cut]
      exact inside
    · rw [← same,cut]
  · rintro ⟨inside,other⟩
    rw [← List.prefix_append_right_inj,cut] at inside
    refine ⟨inside,fun same => other ?_⟩
    exact List.append_cancel_left (cut.trans same)

end KServeLLM.GoPath
