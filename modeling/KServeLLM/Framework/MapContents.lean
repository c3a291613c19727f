import KServeLLM.Framework.GoTypes

namespace KServeLLM

variable {κ ν α : Type} [DecidableEq κ]

def contents (f : ν → List α) (m : GoMap κ ν) : List (κ×α) :=
  m.entries.flatMap (fun e => (f e.2).map (Prod.mk e.1))

section

variable {m : GoMap κ ν} {k : κ} {v : ν}

theorem entries_perm_of_lookup (h : m.lookup k=some v) :
    m.entries.Perm (⟨k,v⟩::(m.erase k).entries) := by
  have mem : k∈m.entries.keys := by
    have known : (m.lookup k).isSome := by simp [h]
    exact AList.lookup_isSome.mp known
  obtain ⟨b,left,right,_,split,rest⟩ := List.exists_of_kerase mem
  have found : m.lookup k=some b := AList.mem_lookup_iff.mpr (by rw [split]; simp)
  rw [h] at found
  obtain rfl := Option.some.inj found
  have erased : (m.erase k).entries=left++right := rest
  rw [erased,split]
  exact List.perm_middle

theorem erase_of_lookup_none (h : m.lookup k=none) : m.erase k=m := by
  apply AList.ext
  apply List.kerase_of_notMem_keys
  exact AList.lookup_eq_none.mp h

variable (f : ν → List α)

theorem contents_insert : contents f (m.insert k v)=
    (f v).map (Prod.mk k)++contents f (m.erase k) := by
  rfl

theorem contents_perm_of_lookup (h : m.lookup k=some v) :
    (contents f m).Perm ((f v).map (Prod.mk k)++contents f (m.erase k)) := by
  have split := (entries_perm_of_lookup h).flatMap_right (fun e => (f e.2).map (Prod.mk e.1))
  exact split

end

def times (m : GoMap κ Nat) (k : κ) : Nat := (m.lookup k).getD 0

def bump (m : GoMap κ Nat) (k : κ) : GoMap κ Nat := m.insert k (times m k+1)

def Counts [BEq κ] (m : GoMap κ Nat) (keys : List κ) : Prop := ∀ k,times m k=keys.count k

theorem counts_empty [BEq κ] : Counts (∅ : GoMap κ Nat) [] := fun _ => rfl

theorem times_bump (m : GoMap κ Nat) (k other : κ) :
    times (bump m k) other=if other=k then times m k+1 else times m other := by
  unfold bump times
  by_cases same : other=k
  · subst same
    simp
  · simp [same]

theorem counts_bump [BEq κ] [LawfulBEq κ] {m : GoMap κ Nat} {keys : List κ} (h : Counts m keys)
    {k : κ} : Counts (bump m k) (k::keys) := by
  intro other
  rw [times_bump]
  by_cases same : other=k
  · simp [same,h k]
  · simp [same,Ne.symm,h other]

def rewriteAll (due : ν → Bool) (new : ν → ν) (m : GoMap κ ν) (es : List ((_ : κ) × ν)) :
    GoMap κ ν :=
  es.foldl (fun m e => if due e.2 then m.insert e.1 (new e.2) else m) m

def assignAll (m : GoMap κ ν) (es : List ((_ : κ) × ν)) : GoMap κ ν :=
  es.foldl (fun m e => m.insert e.1 e.2) m

theorem lookup_rewriteAll {es : List ((_ : κ) × ν)} (distinct : es.NodupKeys) (due : ν → Bool)
    (new : ν → ν) (m : GoMap κ ν) (k : κ) :
    (rewriteAll due new m es).lookup k=(((es.dlookup k).filter due).map new).or (m.lookup k) := by
  induction es generalizing m with
  | nil => rfl
  | cons e es ih =>
    obtain ⟨key,value⟩ := e
    obtain ⟨fresh,rest⟩ := List.nodupKeys_cons.mp distinct
    have later : (rewriteAll due new m (⟨key,value⟩::es))=
        rewriteAll due new (if due value then m.insert key (new value) else m) es := rfl
    rw [later,ih rest]
    by_cases here : k=key
    · subst here
      rw [List.dlookup_eq_none.mpr fresh]
      cases isDue : due value <;> simp [Option.filter,isDue]
    · rw [List.dlookup_cons_ne _ _ here]
      split_ifs
      · rw [AList.lookup_insert_ne here]
      · rfl

theorem lookup_assignAll {es : List ((_ : κ) × ν)} (distinct : es.NodupKeys) (m : GoMap κ ν)
    (k : κ) : (assignAll m es).lookup k=(es.dlookup k).or (m.lookup k) := by
  have all := lookup_rewriteAll distinct (fun _ => true) id m k
  have every : (es.dlookup k).filter (fun _ => true)=es.dlookup k := by
    cases es.dlookup k <;> rfl
  rw [every,Option.map_id] at all
  exact all

variable (order : RangeOrder ((_ : κ) × ν)) (source : GoMap κ ν)

omit [DecidableEq κ] in
theorem nodupKeys_arrange : (order.arrange source.entries).NodupKeys :=
  (List.perm_nodupKeys (order.perm source.entries)).mpr source.nodupKeys

theorem dlookup_arrange (k : κ) : (order.arrange source.entries).dlookup k=source.lookup k :=
  List.perm_dlookup k (nodupKeys_arrange order source) (order.perm source.entries)

theorem lookup_copied {m : GoMap κ ν} {k : κ} :
    (assignAll m (order.arrange source.entries)).lookup k=(source.lookup k).or (m.lookup k) := by
  rw [lookup_assignAll (nodupKeys_arrange order source),dlookup_arrange]

theorem lookup_rewritten (due : ν → Bool) (new : ν → ν) (k : κ) :
    (rewriteAll due new source (order.arrange source.entries)).lookup k=
      (source.lookup k).map fun v => if due v then new v else v := by
  rw [lookup_rewriteAll (nodupKeys_arrange order source),dlookup_arrange]
  cases source.lookup k with
  | none => rfl
  | some v => cases isDue : due v <;> simp [Option.filter,isDue]

end KServeLLM
