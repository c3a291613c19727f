import Mathlib.Data.Finset.Sort
import Mathlib.Data.String.Basic

namespace KServeLLM

abbrev TreePath := List String

inductive Kind where
  | file (content : List UInt8)
  | dir | symlink | irregular
  deriving DecidableEq

structure Tree where
  node : TreePath → Option Kind
  dom : Finset TreePath
  mem_dom : ∀p,p∈dom ↔ node p≠none
  root : node []=none
  closed : ∀p n,p≠[] → node (p++[n])≠none → node p=some .dir

abbrev lexical (s : Finset TreePath) : List TreePath := s.sort

theorem sort_filter {α : Type} [LinearOrder α] (s : Finset α) (P : α → Prop) [DecidablePred P] :
    s.sort.filter P=(s.filter P).sort := by
  have sorted : (s.sort.filter P).Pairwise (· ≤ ·) := (s.pairwise_sort (· ≤ ·)).filter _
  have listed : (s.sort.filter P).toFinset=s.filter P := by
    simp
  rw [← listed]
  exact ((List.toFinset_sort (· ≤ ·) ((s.sort_nodup (· ≤ ·)).filter _)).mpr sorted).symm

namespace Tree

@[ext] theorem ext {t u : Tree} (h : ∀p,t.node p=u.node p) : t=u := by
  have nodes : t.node=u.node := funext h
  have doms : t.dom=u.dom := by
    ext p
    rw [t.mem_dom,u.mem_dom,nodes]
  cases t
  cases u
  cases nodes
  cases doms
  rfl

def empty : Tree := ⟨fun _ => none,∅,by simp,rfl,by simp⟩

theorem above (t : Tree) {p : TreePath} (full : p≠[]) {q : TreePath} (down : q≠[])
    (h : t.node (p++q)≠none) : t.node p=some .dir := by
  induction q using List.reverseRecOn with
  | nil => exact absurd rfl down
  | append_singleton q n ih =>
    rw [← List.append_assoc] at h
    have parent := t.closed (p++q) n (by simp [full]) h
    by_cases direct : q=[]
    · rw [direct,List.append_nil] at parent
      exact parent
    · exact ih direct (by rw [parent]; nofun)

variable {q : TreePath}

theorem top (t : Tree) {n : String} (h : t.node (n::q)≠none) : t.node [n]≠none := by
  by_cases direct : q=[]
  · rwa [direct] at h
  · rw [@above t [n] (by simp) q direct h]
    nofun

def restrict (t : Tree) (keep : TreePath → Prop) [DecidablePred keep]
    (h : ∀p n,p≠[] → t.node (p++[n])≠none → keep (p++[n]) → keep p) : Tree where
  node p := if keep p then t.node p else none
  dom := t.dom.filter keep
  mem_dom p := by simp [t.mem_dom,and_comm]
  root := by simp [t.root]
  closed p n full used := by
    by_cases kept : keep (p++[n])
    · rw [if_pos kept] at used
      rw [if_pos (h p n full used kept)]
      exact t.closed p n full used
    · rw [if_neg kept] at used
      exact absurd rfl used

variable {p : TreePath}

theorem head_snoc (full : p≠[]) {n : String} : (p++[n]).head?=p.head? := by
  cases p with
  | nil => exact absurd rfl full
  | cons m p => rfl

def without (t : Tree) (n : String) : Tree :=
  t.restrict (fun p => p.head?≠some n) fun _ m full _ kept => head_snoc full ▸ kept

def adopt (t : Tree) (n : String) (from' : Tree) : Tree where
  node p := if p.head?=some n then from'.node p else t.node p
  dom := t.dom.filter (·.head?≠some n) ∪ from'.dom.filter (·.head?=some n)
  mem_dom p := by
    by_cases here : p.head?=some n
    · simp [here,from'.mem_dom]
    · simp [here,t.mem_dom]
  root := t.root
  closed p m full used := by
    rw [head_snoc full] at used
    by_cases here : p.head?=some n
    · rw [if_pos here] at used ⊢
      exact from'.closed p m full used
    · rw [if_neg here] at used ⊢
      exact t.closed p m full used

def graft (t : Tree) (n : String) (inner : Tree) : Tree where
  node
    | [] => none
    | m::q => if m=n then if q=[] then some .dir else inner.node q else t.node (m::q)
  dom := insert [n] (t.dom.filter (·.head?≠some n) ∪ inner.dom.image (n::·))
  mem_dom p := by
    cases p with
    | nil => simp [t.mem_dom,t.root]
    | cons m q =>
      by_cases here : m=n
      · by_cases direct : q=[]
        · simp [here,direct]
        · simp [here,direct,inner.mem_dom]
      · have other (q' : TreePath) : n::q'≠m::q := fun same => here (List.cons.inj same).1.symm
        simp [here,other,t.mem_dom]
  root := rfl
  closed p k full used := by
    cases p with
    | nil => exact absurd rfl full
    | cons m q =>
      change (if m=n then if q=[] then some .dir else inner.node q else t.node (m::q))=some .dir
      change (if m=n then if q++[k]=[] then some .dir else inner.node (q++[k])
        else t.node (m::q++[k]))≠none at used
      by_cases here : m=n
      · rw [if_pos here,if_neg (by simp)] at used
        rw [if_pos here]
        by_cases direct : q=[]
        · rw [if_pos direct]
        · rw [if_neg direct]
          exact inner.closed q k direct used
      · rw [if_neg here] at used ⊢
        exact t.closed (m::q) k full used

def Open (t : Tree) (p : TreePath) (k : Kind) : Prop :=
  p≠[] ∧ (p.dropLast=[] ∨ t.node p.dropLast=some .dir) ∧ (k=.dir ∨ ∀q∈t.dom,p <+: q → q=p)

instance (t : Tree) (p : TreePath) (k : Kind) : Decidable (t.Open p k) :=
  inferInstanceAs (Decidable (_ ∧ _))

theorem Open.file {t : Tree} {a : List UInt8} (h : t.Open p (.file a))
    (b : List UInt8) : t.Open p (.file b) :=
  ⟨h.1,h.2.1,.inr (h.2.2.resolve_left (by nofun))⟩

def put (t : Tree) (p : TreePath) (k : Kind) (h : t.Open p k) : Tree where
  node q := if q=p then some k else t.node q
  dom := insert p t.dom
  mem_dom q := by
    by_cases here : q=p
    · simp [here]
    · simp [here,t.mem_dom]
  root := by rw [if_neg (Ne.symm h.1),t.root]
  closed q n full used := by
    by_cases same : q++[n]=p
    · have parent := h.2.1
      rw [← same,List.dropLast_concat] at parent
      have other : q≠p := fun eq => by simp [← eq] at same
      rw [if_neg other]
      exact parent.resolve_left full
    · rw [if_neg same] at used
      have dir := t.closed q n full used
      by_cases here : q=p
      · rw [if_pos here]
        rcases h.2.2 with rfl | alone
        · rfl
        · exact absurd (alone (q++[n]) ((t.mem_dom _).mpr used) (here ▸ List.prefix_append q [n]))
            same
      · rw [if_neg here]
        exact dir

section

variable (t u : Tree) (n : String)

theorem without_node {p : TreePath} :
    (t.without n).node p=if p.head?=some n then none else t.node p := ite_not _ _ _

theorem adopt_node (p : TreePath) :
    (t.adopt n u).node p=if p.head?=some n then u.node p else t.node p := rfl

theorem put_node {k : Kind} (h : t.Open p k) (q : TreePath) :
    (t.put p k h).node q=if q=p then some k else t.node q := rfl

theorem graft_node (m : String) (q : TreePath) : (t.graft n u).node (m::q)=
    if m=n then if q=[] then some .dir else u.node q else t.node (m::q) := rfl

end

def names (t : Tree) : Finset String := (t.dom.filter (·.length=1)).image (·.headD "")

def readDir (t : Tree) : List String := t.names.sort

theorem mem_names {t : Tree} {n : String} : n∈t.names ↔ t.node [n]≠none := by
  rw [names,Finset.mem_image]
  constructor
  · rintro ⟨p,mem,rfl⟩
    obtain ⟨inside,single⟩ := Finset.mem_filter.mp mem
    obtain ⟨m,rfl⟩ := List.length_eq_one_iff.mp single
    exact (t.mem_dom _).mp inside
  · intro h
    exact ⟨[n],Finset.mem_filter.mpr ⟨(t.mem_dom _).mpr h,rfl⟩,rfl⟩

theorem mem_readDir {t : Tree} {n : String} : n∈t.readDir ↔ t.node [n]≠none := by
  rw [readDir,Finset.mem_sort,mem_names]

theorem readDir_eq {t : Tree} {l : List String} (sorted : l.Pairwise (·<·))
    (mem : ∀n,t.node [n]≠none ↔ n∈l) : t.readDir=l := by
  have names : t.names=l.toFinset := by
    ext n
    rw [mem_names,mem,List.mem_toFinset]
  rw [readDir,names]
  exact (List.toFinset_sort (·≤·) (sorted.imp fun h => ne_of_lt h)).mpr
    (sorted.imp fun h => le_of_lt h)

def Leaf (t : Tree) (q : TreePath) : Prop := t.node q≠none ∧ ∀p∈t.dom,q <+: p → p=q

instance (t : Tree) (q : TreePath) : Decidable (t.Leaf q) := inferInstanceAs (Decidable (_ ∧ _))

def removeLeaf (t : Tree) (q : TreePath) (h : t.Leaf q) : Tree :=
  t.restrict (·≠q) fun p n _ used _ same => by
    have longer := h.2 (p++[n]) ((t.mem_dom _).mpr used) (same ▸ List.prefix_append p [n])
    simp [← same] at longer

theorem removeLeaf_node (t : Tree) (h : t.Leaf q) (p : TreePath) :
    (t.removeLeaf q h).node p=if p=q then none else t.node p := ite_not _ _ _

def Part (under : TreePath → Prop) (u t : Tree) : Prop :=
  ∀p,u.node p=t.node p ∨ u.node p=none ∧ under p

theorem Part.refl {under : TreePath → Prop} {t : Tree} : Part under t t := fun _ => .inl rfl

theorem Part.trans {under : TreePath → Prop} {t u v : Tree} (first : Part under v u)
    (second : Part under u t) : Part under v t := by
  intro p
  rcases first p with same | gone
  · rw [same]
    exact second p
  · exact .inr gone

theorem removeLeaf_part {under : TreePath → Prop} {t : Tree}
    (h : under q ∧ t.Leaf q) : Part under (t.removeLeaf q h.2) t := by
  intro p
  rw [removeLeaf_node]
  by_cases here : p=q
  · exact .inr ⟨if_pos here,here ▸ h.1⟩
  · exact .inl (if_neg here)

def removals (under : TreePath → Prop) [DecidablePred under] : List TreePath → Tree → List Tree
  | [],_ => []
  | q::qs,t =>
      if h : under q ∧ t.Leaf q then
        t.removeLeaf q h.2::removals under qs (t.removeLeaf q h.2)
      else removals under qs t

variable (under : TreePath → Prop) [DecidablePred under]

def removeAll (order : List TreePath) (t : Tree) : List Tree :=
  removals under (order++(lexical (t.dom.filter under)).reverse) t

variable {under}

theorem removals_part {qs : List TreePath} {t u : Tree} (mem : u∈removals under qs t) :
    Part under u t := by
  induction qs generalizing t with
  | nil => cases mem
  | cons q qs ih =>
    rw [removals] at mem
    split at mem
    · rename_i leaf
      rcases List.mem_cons.mp mem with rfl | later
      · exact removeLeaf_part leaf
      · exact (ih later).trans (removeLeaf_part leaf)
    · exact ih mem

def afterRemovals (under : TreePath → Prop) [DecidablePred under] (qs : List TreePath)
    (t : Tree) : Tree := (removals under qs t).getLastD t

theorem afterRemovals_cons (q : TreePath) (qs : List TreePath) (t : Tree) :
    afterRemovals under (q::qs) t=
      if h : under q ∧ t.Leaf q then afterRemovals under qs (t.removeLeaf q h.2)
      else afterRemovals under qs t := by
  rw [afterRemovals,removals]
  split
  · rw [List.getLastD_cons]
    rfl
  · rfl

theorem afterRemovals_append (qs rs : List TreePath) (t : Tree) :
    afterRemovals under (qs++rs) t=afterRemovals under rs (afterRemovals under qs t) := by
  induction qs generalizing t with
  | nil => rfl
  | cons q qs ih =>
    rw [List.cons_append,afterRemovals_cons,afterRemovals_cons]
    split
    · exact ih _
    · exact ih t

theorem afterRemovals_part (qs : List TreePath) (t : Tree) :
    Part under (afterRemovals under qs t) t := by
  induction qs generalizing t with
  | nil => exact .refl
  | cons q qs ih =>
    rw [afterRemovals_cons]
    split
    · rename_i leaf
      exact (ih _).trans (removeLeaf_part leaf)
    · exact ih t

theorem afterRemovals_descending (up : ∀q p,under q → q <+: p → under p) {qs : List TreePath}
    (sorted : qs.Pairwise (· > ·)) {t : Tree} (all : ∀p,t.node p≠none → under p → p∈qs)
    {p : TreePath} (h : under p) : (afterRemovals under qs t).node p=none := by
  induction qs generalizing t with
  | nil =>
    by_contra used
    cases all p used h
  | cons q qs ih =>
    obtain ⟨first,rest⟩ := List.pairwise_cons.mp sorted
    rw [afterRemovals_cons]
    by_cases leaf : under q ∧ t.Leaf q
    · rw [dif_pos leaf]
      refine ih rest fun x used below => ?_
      rw [removeLeaf_node] at used
      by_cases here : x=q
      · exact absurd (if_pos here) used
      · rw [if_neg here] at used
        exact (List.mem_cons.mp (all x used below)).resolve_left here
    · rw [dif_neg leaf]
      refine ih rest fun x used below => ?_
      refine (List.mem_cons.mp (all x used below)).resolve_left fun here => leaf ?_
      subst here
      refine ⟨below,used,fun y mem extends' => ?_⟩
      -- what lies below comes earlier in the list
      have listed := all y ((t.mem_dom y).mp mem) (up x y below extends')
      rcases List.mem_cons.mp listed with same | later
      · exact same
      · exact absurd (first y later) extends'.le

theorem removeAll_last (up : ∀q p,under q → q <+: p → under p) (order : List TreePath)
    (t : Tree) (p : TreePath) :
    ((removeAll under order t).getLastD t).node p=if under p then none else t.node p := by
  change (afterRemovals under (order++(lexical (t.dom.filter under)).reverse) t).node p=_
  rw [afterRemovals_append]
  have first := @afterRemovals_part under _ order t
  by_cases h : under p
  · rw [if_pos h]
    refine afterRemovals_descending up ?_ (fun x used below => ?_) h
    · rw [List.pairwise_reverse]
      exact List.sortedLT_iff_pairwise.mp (Finset.sortedLT_sort _)
    · have old : t.node x≠none := by
        rcases first x with same | gone
        · exact same ▸ used
        · exact absurd gone.1 used
      simp [t.mem_dom,old,below]
  · rw [if_neg h]
    have both := (@afterRemovals_part under _ (lexical (t.dom.filter under)).reverse
      (afterRemovals under order t)).trans first
    exact (both p).resolve_right fun gone => h gone.2

end Tree

end KServeLLM
