import Mathlib.Data.List.Infix

namespace KServeLLM

abbrev GoString := List Char

namespace GoString

def hasPrefix (s p : GoString) : Bool := p.isPrefixOf s

def trimPrefix (s p : GoString) : GoString := if hasPrefix s p then s.drop p.length else s

def trimSuffix (s p : GoString) : GoString :=
  if p.isSuffixOf s then s.take (s.length-p.length) else s

def cut (sep : Char) : GoString → Option (GoString×GoString)
  | [] => none
  | c::s => if c=sep then some ([],s) else (cut sep s).map fun parts => (c::parts.1,parts.2)

def cutLast (sep : Char) : GoString → Option (GoString×GoString)
  | [] => none
  | c::s =>
      match cutLast sep s with
      | some parts => some (c::parts.1,parts.2)
      | none => if c=sep then some ([],s) else none

theorem hasPrefix_iff {s p : GoString} : hasPrefix s p=true ↔ p <+: s := List.isPrefixOf_iff_prefix

theorem hasPrefix_append {p s : GoString} : hasPrefix (p++s) p=true :=
  hasPrefix_iff.mpr (List.prefix_append p s)

theorem trimPrefix_append (p s : GoString) : trimPrefix (p++s) p=s := by
  rw [trimPrefix,if_pos (hasPrefix_append),List.drop_left]

variable {sep : Char} {a b : GoString}

theorem cut_append (free : sep∉a) : cut sep (a++sep::b)=some (a,b) := by
  induction a with
  | nil => exact if_pos rfl
  | cons c a ih =>
    have other : c≠sep := fun same => free (by simp [same])
    have rest : sep∉a := fun mem => free (List.mem_cons_of_mem c mem)
    rw [List.cons_append,cut,if_neg other,ih rest]
    rfl

theorem cut_eq_some_iff {s : GoString} : cut sep s=some (a,b) ↔ sep∉a ∧ s=a++sep::b := by
  constructor
  · intro h
    induction s generalizing a with
    | nil => cases h
    | cons c s ih =>
      by_cases same : c=sep
      · rw [cut,if_pos same] at h
        obtain ⟨rfl,rfl⟩ := Prod.mk.inj (Option.some.inj h)
        exact ⟨by simp,by rw [same]; rfl⟩
      · rw [cut,if_neg same] at h
        obtain ⟨⟨_,_⟩,found,parts⟩ := Option.map_eq_some_iff.mp h
        obtain ⟨rfl,rfl⟩ := Prod.mk.inj parts
        obtain ⟨free,rfl⟩ := ih found
        refine ⟨fun mem => ?_,rfl⟩
        rcases List.mem_cons.mp mem with here | later
        · exact same here.symm
        · exact free later
  · rintro ⟨free,rfl⟩
    exact cut_append free

variable {s : GoString}

theorem cut_of_free (free : sep∉s) : cut sep s=none := by
  cases found : cut sep s with
  | none => rfl
  | some parts =>
    obtain ⟨_,whole⟩ := cut_eq_some_iff.mp found
    exact absurd (by simp [whole]) free

theorem cutLast_of_free (free : sep∉s) : cutLast sep s=none := by
  induction s with
  | nil => rfl
  | cons c s ih =>
    have other : c≠sep := fun same => free (by simp [same])
    have rest : sep∉s := fun inside => free (List.mem_cons_of_mem c inside)
    rw [cutLast,ih rest]
    exact if_neg other

theorem cutLast_append (free : sep∉b) : cutLast sep (a++sep::b)=some (a,b) := by
  induction a with
  | nil =>
    rw [List.nil_append,cutLast,cutLast_of_free free]
    exact if_pos rfl
  | cons c a ih => rw [List.cons_append,cutLast,ih]

def join (sep : Char) (parts : List GoString) : GoString := List.intercalate [sep] parts

def split (sep : Char) (s : GoString) : List GoString := s.splitOn sep

theorem split_join (sep : Char) {parts : List GoString} (some' : parts≠[]) :
    split sep (join sep parts)=parts.flatMap (split sep) := by
  induction parts with
  | nil => exact absurd rfl some'
  | cons a rest ih =>
    cases rest with
    | nil => simp [join]
    | cons b rest =>
      rw [List.flatMap_cons,← ih (by simp)]
      exact List.splitOnP_append_cons a _ (by simp)

theorem split_of_free (free : sep∉s) : split sep s=[s] := List.splitOn_eq_singleton free

theorem free_of_mem_split {sep : Char} {s p : GoString} (h : p∈split sep s) : sep∉p := by
  induction s generalizing p with
  | nil =>
    obtain rfl : p=[] := by simpa [split] using h
    simp
  | cons c s ih =>
    unfold split at h ih
    rw [List.splitOn,List.splitOnP_cons_eq_if_modifyHead] at h
    by_cases same : c=sep
    · simp only [same,beq_self_eq_true,if_true,List.mem_cons] at h
      rcases h with rfl | old
      · simp
      · exact ih old
    · simp only [beq_iff_eq,same] at h
      change p∈(s.splitOn sep).modifyHead (List.cons c) at h
      cases parts : s.splitOn sep with
      | nil => simp [parts] at h
      | cons q qs =>
        rw [parts] at h ih
        rcases List.mem_cons.mp h with rfl | old
        · -- the character joins the first part of the rest
          have rest := ih (List.mem_cons_self)
          simp [rest,Ne.symm same]
        · exact ih (List.mem_cons_of_mem q old)

end GoString

end KServeLLM
