import KServeLLM.Framework.FileTree
import KServeLLM.Framework.Framing
import KServeLLM.Storage.ChunkedDownload

namespace KServeLLM.Initializer

open Storage (DownloadError)

def verificationStateDir : String := ".ckodex"
def verificationStateFile : String := "runtime-verification.json"
def stagingDirectory : String := ".ckodex-staging"
def stagingStateFile : String := ".ckodex-staging-state.json"

inductive Visit where
  | skipDir | pass | reject
  | hash (content : List UInt8)
  deriving DecidableEq

def visit (name : String) (kind : Kind) : Visit :=
  if kind=.dir ∧ name=verificationStateDir then .skipDir
  else if name=stagingStateFile then .pass
  else match kind with
    | .symlink => .reject
    | .file content => .hash content
    | .dir | .irregular => .pass

def entryName (rel : TreePath) : String := rel.getLastD ""

def answer (t : Tree) (rel : TreePath) : Option Visit := (t.node rel).map (visit (entryName rel))

def Skipped (t : Tree) (rel : TreePath) : Prop := ∃q∈rel.inits,q≠rel ∧ answer t q=some .skipDir

instance (t : Tree) (rel : TreePath) : Decidable (Skipped t rel) :=
  inferInstanceAs (Decidable (∃_∈_,_))

def walkDir (t : Tree) : List TreePath := lexical (t.dom.filter (¬Skipped t ·))

def slashPath (rel : TreePath) : String := String.intercalate "/" rel

def hashParts (t : Tree) : List TreePath → Except DownloadError (List (List UInt8))
  | [] => .ok []
  | rel::rest =>
      match answer t rel with
      | some .reject => .error (.plain
          ⟨"symlink is not allowed in model payload: %s",[.str (slashPath rel)]⟩)
      | some (.hash content) =>
          (hashParts t rest).map ([(slashPath rel).toUTF8.toList,content]++·)
      | _ => hashParts t rest

def directoryDigest (hexSum : List UInt8 → String) (t : Tree) : Except DownloadError String :=
  (hashParts t (walkDir t)).map fun parts => "sha256:"++hexSum (terminate 0 parts)

def content (t : Tree) (p : TreePath) : Option (List UInt8) :=
  match t.node p with
  | some (.file content) => some content
  | _ => none

def Hashed (p : TreePath) : Prop := verificationStateDir∉p.dropLast ∧ entryName p≠stagingStateFile

instance (p : TreePath) : Decidable (Hashed p) := inferInstanceAs (Decidable (_ ∧ _))

def Payload (p : TreePath) : Prop :=
  ¬(p.head?=some verificationStateDir ∧ 1 < p.length) ∧ p≠[stagingStateFile]

instance (p : TreePath) : Decidable (Payload p) := inferInstanceAs (Decidable (_ ∧ _))

def Hidden (p : TreePath) : Prop := Payload p ∧ ¬Hashed p

variable {p : TreePath}

theorem Hashed.payload (h : Hashed p) : Payload p := by
  refine ⟨fun own => ?_,fun same => ?_⟩
  · obtain ⟨head,long⟩ := own
    match p,long with
    | n::m::q,_ =>
      obtain rfl : n=verificationStateDir := by simpa using head
      exact h.1 (by simp)
  · exact h.2 (by rw [same]; rfl)

variable {t : Tree} {c : List UInt8}

theorem content_eq_some : content t p=some c ↔ t.node p=some (.file c) := by
  unfold content
  cases t.node p with
  | none => simp
  | some k => cases k <;> simp

theorem entryName_concat (p : TreePath) (n : String) : entryName (p++[n])=n := List.getLastD_concat

variable {name : String}

theorem visit_skipDir_iff {k : Kind} :
    visit name k=.skipDir ↔ k=.dir ∧ name=verificationStateDir := by
  unfold visit
  by_cases own : k=.dir ∧ name=verificationStateDir
  · simp [own]
  · rw [if_neg own]
    refine iff_of_false ?_ own
    split
    · nofun
    · cases k <;> nofun

theorem visit_reject_iff {k : Kind} :
    visit name k=.reject ↔ name≠stagingStateFile ∧ k=.symlink := by
  unfold visit
  by_cases state : name=stagingStateFile
  · have other : stagingStateFile≠verificationStateDir := by decide
    simp [state,other]
  · cases k <;> simp [state]
    split <;> nofun

theorem visit_hash_iff {k : Kind} : visit name k=.hash c ↔ name≠stagingStateFile ∧ k=.file c := by
  unfold visit
  by_cases state : name=stagingStateFile
  · have other : stagingStateFile≠verificationStateDir := by decide
    simp [state,other]
  · cases k <;> simp [state]
    split <;> nofun

section

theorem skipped_iff (used : t.node p≠none) : Skipped t p ↔ verificationStateDir∈p.dropLast := by
  constructor
  · rintro ⟨q,mem,other,skip⟩
    obtain ⟨r,rfl⟩ := List.mem_inits q p |>.mp mem
    have more : r≠[] := fun none' => other (by simp [none'])
    obtain ⟨k,found,skips⟩ := Option.map_eq_some_iff.mp skip
    rcases List.eq_nil_or_concat q with rfl | ⟨_,_,rfl⟩
    · rw [t.root] at found
      cases found
    · rw [List.concat_eq_append] at skips ⊢
      rw [entryName_concat,visit_skipDir_iff] at skips
      rw [List.dropLast_append_of_ne_nil more]
      simp [skips.2]
  · intro mem
    obtain ⟨a,b,split⟩ := List.append_of_mem mem
    have full : p≠[] := by
      rintro rfl
      cases mem
    have whole : p=(a++[verificationStateDir])++(b++[p.getLast full]) := by
      conv_lhs => rw [← List.dropLast_append_getLast full,split]
      simp
    refine ⟨a++[verificationStateDir],(List.mem_inits _ _).mpr ⟨_,whole.symm⟩,fun same => ?_,?_⟩
    · have size := congrArg List.length (same.trans whole)
      simp at size
    · have dir : t.node (a++[verificationStateDir])=some .dir :=
        t.above (by simp) (by simp) (whole ▸ used)
      rw [answer,dir,Option.map_some,entryName_concat,visit_skipDir_iff.mpr ⟨rfl,rfl⟩]

theorem mem_walkDir : p∈walkDir t ↔ t.node p≠none ∧ verificationStateDir∉p.dropLast := by
  rw [walkDir,Finset.mem_sort,Finset.mem_filter,t.mem_dom]
  exact and_congr_right fun used => not_congr (skipped_iff used)

def Clean (t : Tree) : Prop := ∀p,Hashed p → t.node p≠some .symlink

theorem answer_reject_iff :
    answer t p=some .reject ↔ entryName p≠stagingStateFile ∧ t.node p=some .symlink := by
  rw [answer,Option.map_eq_some_iff]
  constructor
  · rintro ⟨k,found,rejects⟩
    obtain ⟨name,rfl⟩ := visit_reject_iff.mp rejects
    exact ⟨name,found⟩
  · rintro ⟨name,found⟩
    exact ⟨.symlink,found,visit_reject_iff.mpr ⟨name,rfl⟩⟩

theorem answer_hash_iff :
    answer t p=some (.hash c) ↔ entryName p≠stagingStateFile ∧ content t p=some c := by
  rw [answer,Option.map_eq_some_iff,content_eq_some]
  constructor
  · rintro ⟨k,found,hashes⟩
    obtain ⟨name,rfl⟩ := visit_hash_iff.mp hashes
    exact ⟨name,found⟩
  · rintro ⟨name,found⟩
    exact ⟨.file c,found,visit_hash_iff.mpr ⟨name,rfl⟩⟩

def partsAt (t : Tree) (p : TreePath) : List (List UInt8) :=
  match answer t p with
  | some (.hash c) => [(slashPath p).toUTF8.toList,c]
  | _ => []

theorem hashParts_eq {t : Tree} {ps : List TreePath} (parts : List (List UInt8)) :
    hashParts t ps=.ok parts ↔ (∀p∈ps,answer t p≠some .reject) ∧ ps.flatMap (partsAt t)=parts := by
  induction ps generalizing parts with
  | nil => simp [hashParts]
  | cons p ps ih =>
    rw [hashParts,List.forall_mem_cons]
    cases found : answer t p with
    | none => simp [partsAt,found,ih]
    | some v =>
      cases v with
      | reject => simp
      | hash c =>
        have mapped : (hashParts t ps).map ([(slashPath p).toUTF8.toList,c]++·)=.ok parts ↔
            ∃rest,hashParts t ps=.ok rest ∧ [(slashPath p).toUTF8.toList,c]++rest=parts := by
          cases hashParts t ps <;> simp [Except.map]
        rw [mapped]
        simp [partsAt,found,ih]
      | skipDir => simp [partsAt,found,ih]
      | pass => simp [partsAt,found,ih]

theorem flatMap_filter_of {α β : Type} {f : α → List β} {P : α → Prop} [DecidablePred P]
    {l : List α} (idle : ∀a∈l,¬P a → f a=[]) : l.flatMap f=(l.filter P).flatMap f := by
  induction l with
  | nil => rfl
  | cons a l ih =>
    have rest := ih fun b mem => idle b (List.mem_cons_of_mem a mem)
    by_cases h : P a
    · rw [List.filter_cons_of_pos (by simpa using h),List.flatMap_cons,List.flatMap_cons,rest]
    · rw [List.filter_cons_of_neg (by simpa using h),List.flatMap_cons,rest,
        idle a List.mem_cons_self h,List.nil_append]

def hashedPaths (t : Tree) : List TreePath :=
  lexical (t.dom.filter fun p => Hashed p ∧ content t p≠none)

def digestParts (t : Tree) : List (List UInt8) :=
  (hashedPaths t).flatMap fun p => [(slashPath p).toUTF8.toList,(content t p).getD []]

theorem partsAt_of_content (name : entryName p≠stagingStateFile) :
    partsAt t p=if content t p=none then [] else
      [(slashPath p).toUTF8.toList,(content t p).getD []] := by
  unfold partsAt
  cases found : content t p with
  | some c => rw [answer_hash_iff.mpr ⟨name,found⟩]; rfl
  | none =>
    split
    · rename_i c hashes
      rw [(answer_hash_iff.mp hashes).2] at found
      cases found
    · rfl

theorem walkDir_parts {t : Tree} : (walkDir t).flatMap (partsAt t)=digestParts t := by
  have idle : ∀p∈walkDir t,¬(Hashed p ∧ content t p≠none) → partsAt t p=[] := by
    intro p mem other
    by_cases state : entryName p=stagingStateFile
    · unfold partsAt
      split
      · rename_i c hashes
        exact absurd state (answer_hash_iff.mp hashes).1
      · rfl
    · have empty : content t p=none := by
        by_contra full
        exact other ⟨⟨(mem_walkDir.mp mem).2,state⟩,full⟩
      rw [partsAt_of_content state,if_pos empty]
  have same : (t.dom.filter (¬Skipped t ·)).filter (fun p => Hashed p ∧ content t p≠none)=
      t.dom.filter fun p => Hashed p ∧ content t p≠none := by
    ext p
    simp only [Finset.mem_filter,t.mem_dom]
    constructor
    · rintro ⟨⟨used,-⟩,hashed⟩
      exact ⟨used,hashed⟩
    · rintro ⟨used,hashed⟩
      exact ⟨⟨used,mt (skipped_iff used).mp hashed.1.1⟩,hashed⟩
  rw [flatMap_filter_of idle,walkDir,sort_filter,same,digestParts]
  refine List.flatMap_congr fun p mem => ?_
  obtain ⟨-,hashed,full⟩ := Finset.mem_filter.mp ((Finset.mem_sort _).mp mem)
  rw [partsAt_of_content hashed.2,if_neg full]

variable (hexSum : List UInt8 → String)

theorem directoryDigest_ok_iff {d : String} : directoryDigest hexSum t=.ok d ↔
    Clean t ∧ d="sha256:"++hexSum (terminate 0 (digestParts t)) := by
  have clean : (∀p∈walkDir t,answer t p≠some .reject) ↔ Clean t := by
    constructor
    · intro h p hashed link
      have seen := mem_walkDir.mpr ⟨by rw [link]; nofun,hashed.1⟩
      exact h p seen (answer_reject_iff.mpr ⟨hashed.2,link⟩)
    · intro h p mem rejects
      obtain ⟨name,link⟩ := answer_reject_iff.mp rejects
      exact h p ⟨(mem_walkDir.mp mem).2,name⟩ link
  rw [directoryDigest,← clean]
  constructor
  · intro ok
    cases found : hashParts t (walkDir t) with
    | error e =>
      rw [found] at ok
      cases ok
    | ok parts =>
      rw [found] at ok
      obtain ⟨calm,rfl⟩ := (hashParts_eq parts).mp found
      rw [walkDir_parts] at ok
      exact ⟨calm,(Except.ok.inj ok).symm⟩
  · rintro ⟨calm,rfl⟩
    rw [(hashParts_eq _).mpr ⟨calm,walkDir_parts⟩]
    rfl

theorem digestParts_congr {t u : Tree} (same : ∀p,Hashed p → content t p=content u p) :
    digestParts t=digestParts u := by
  have listed : hashedPaths t=hashedPaths u := by
    unfold hashedPaths
    congr 1
    ext p
    have used {v : Tree} (h : content v p≠none) : v.node p≠none := by
      intro none'
      exact h (by rw [content,none'])
    simp only [Finset.mem_filter,t.mem_dom,u.mem_dom]
    constructor
    · rintro ⟨-,hashed,full⟩
      rw [same p hashed] at full
      exact ⟨used full,hashed,full⟩
    · rintro ⟨-,hashed,full⟩
      rw [← same p hashed] at full
      exact ⟨used full,hashed,full⟩
  rw [digestParts,listed]
  refine List.flatMap_congr fun p mem => ?_
  rw [same p (Finset.mem_filter.mp ((Finset.mem_sort _).mp mem)).2.1]

end

def Agree (P : TreePath → Prop) (t u : Tree) : Prop := ∀p,P p → content t p=content u p

def digestPieces (t : Tree) : List (List UInt8) := pieces 0 (digestParts t)

theorem hashedPaths_of {l : List TreePath} (sorted : l.Pairwise (· < ·))
    (h : (t.dom.filter fun p => Hashed p ∧ content t p≠none)=l.toFinset) : hashedPaths t=l := by
  have strict : l.Pairwise (· ≤ ·) := sorted.imp fun lt => le_of_lt lt
  have nodup : l.Nodup := sorted.imp fun lt => ne_of_lt lt
  rw [hashedPaths,h]
  exact (List.toFinset_sort (· ≤ ·) nodup).mpr strict

def oneFile : Tree := Tree.empty.put ["a"] (.file [120,0,98,0,121]) (by decide)

def twoFiles : Tree :=
  (Tree.empty.put ["a"] (.file [120]) (by decide)).put ["b"] (.file [121]) (by decide)

def plainDir : Tree := Tree.empty.put ["m"] .dir (by decide)

def nestedState : Tree :=
  (plainDir.put ["m",".ckodex"] .dir (by decide)).put ["m",".ckodex","w"] (.file [1]) (by decide)

theorem sample_parts : digestParts oneFile=[[97],[120,0,98,0,121]] ∧
    digestParts twoFiles=[[97],[120],[98],[121]] ∧ digestParts plainDir=[] ∧
    digestParts nestedState=[] := by
  have one : hashedPaths oneFile=[["a"]] := hashedPaths_of (by decide) (by decide)
  have two : hashedPaths twoFiles=[["a"],["b"]] := hashedPaths_of (by decide) (by decide)
  have dir : hashedPaths plainDir=[] := hashedPaths_of (by decide) (by decide)
  have nested : hashedPaths nestedState=[] := hashedPaths_of (by decide) (by decide)
  simp only [digestParts,one,two,dir,nested,byteArray_toList]
  decide

theorem clean_of (h : ∀p∈t.dom,t.node p≠some .symlink) : Clean t := by
  intro p _ link
  exact h p ((t.mem_dom p).mpr (by rw [link]; nofun)) link

theorem plainDir_ok {hexSum : List UInt8 → String} :
    directoryDigest hexSum plainDir=.ok ("sha256:"++hexSum []) := by
  refine (directoryDigest_ok_iff hexSum).mpr ⟨clean_of (by decide),?_⟩
  rw [sample_parts.2.2.1]
  rfl

theorem twoFiles_ok {hexSum : List UInt8 → String} :
    directoryDigest hexSum twoFiles=.ok ("sha256:"++hexSum [97,0,120,0,98,0,121,0]) := by
  refine (directoryDigest_ok_iff hexSum).mpr ⟨clean_of (by decide),?_⟩
  rw [sample_parts.2.1]
  rfl

end KServeLLM.Initializer
