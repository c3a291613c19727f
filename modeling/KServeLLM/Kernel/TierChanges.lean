import KServeLLM.Kernel.CacheFabric

namespace KServeLLM.KVState

def CacheEntry.Consistent (e : CacheEntry) : Prop :=
  e.vector.lifecycle=.evicted → e.vector.residency=.evicted

theorem consistent_upkeep : CacheEntry.Upkeep fun old new => old.Consistent → new.Consistent where
  refl _ := id
  trans _ _ _ first second := second∘first
  renewed _ _ := id
  evicted _ _ _ := rfl

namespace CacheFabric

variable (hexSum : List UInt8 → String)

def moved (f : CacheFabric) (ident : CacheIdentity) (entry : CacheEntry)
    (target : ResidencyTier) : CacheFabric :=
  let vector := {entry.vector with residency := target}
  f.put (ident.digest hexSum) {entry with vector := vector}

def TierChange (ordered : Nat → Nat → Prop) (allowed : CacheEntry → Prop) (key : String)
    (before after : CacheFabric) (err : Option Error) : Prop :=
  ∀e,before.entries.lookup key=some e → (err=none → ∃new,after.entries.lookup key=some new ∧
      ordered (tierRank e.vector.residency) (tierRank new.vector.residency)) ∧
    (¬allowed e → (∃cause,err=some cause ∧ cause.root=.invalidTierTransition) ∧
      after.entries.lookup key=some e)

def Orderly (st : Step CacheFabric Op Answer) : Prop :=
  match st.call,st.answer with
  | .promote ident target,.outcome err =>
      TierChange (· ≤ ·) (fun e => e.vector.lifecycle=.active ∧
        tierRank e.vector.residency ≤ tierRank target) (ident.digest hexSum) st.before st.after err
  | .demote ident target,.outcome err =>
      TierChange (· ≥ ·) (fun e => tierRank target ≤ tierRank e.vector.residency)
        (ident.digest hexSum) st.before st.after err
  | _,_ => True

def Directed (f : CacheFabric) : Op → Prop
  | .promote ident target => ∀e∈f.entries.lookup (ident.digest hexSum),
      e.vector.lifecycle=.active → tierRank e.vector.residency ≤ tierRank target
  | .demote ident target => ∀e∈f.entries.lookup (ident.digest hexSum),
      tierRank target ≤ tierRank e.vector.residency ∧
      (e.vector.lifecycle=.evicted → target=.evicted)
  | _ => True

instance (f : CacheFabric) (op : Op) : Decidable (Directed hexSum f op) := by
  cases op <;> unfold Directed <;> infer_instance

def AllConsistent (f : CacheFabric) : Prop := ∀key e,f.entries.lookup key=some e → e.Consistent

section

variable {hexSum} {f : CacheFabric} {ident : CacheIdentity} {target : ResidencyTier}

theorem AllConsistent.put (h : AllConsistent f) {key : String} {entry : CacheEntry}
    (good : entry.Consistent) : AllConsistent (f.put key entry) := by
  intro k e held
  rw [CacheFabric.put] at held
  by_cases here : k=key
  · rw [here,AList.lookup_insert] at held
    obtain rfl := Option.some.inj held
    exact good
  · rw [AList.lookup_insert_ne here] at held
    exact h k e held

theorem AllConsistent.upkeep (h : AllConsistent f) {op : Op} (keeps : op.Upkeep) :
    AllConsistent (step hexSum f op).1 := by
  intro key e held
  obtain ⟨old,heldOld,kept⟩ := upkeep_derived _ consistent_upkeep keeps key e held
  exact kept (h key old heldOld)

theorem AllConsistent.insert (h : AllConsistent f) {entry : CacheEntry}
    (good : entry.Consistent) : AllConsistent (f.insert hexSum entry).1 := by
  rcases insert_cases _ with same | filed
  · rwa [same]
  · rw [filed]
    exact h.put good

variable {e : CacheEntry}

theorem promote_active (held : f.entries.lookup (ident.digest hexSum)=some e)
    (active : e.vector.lifecycle=.active) :
    f.promote hexSum ident target=(f.moved hexSum ident e target,none) := by
  unfold promote
  simp only [held]
  rw [if_neg (not_not.mpr active)]
  rfl

theorem promote_refused (held : f.entries.lookup (ident.digest hexSum)=some e)
    (inactive : e.vector.lifecycle≠.active) :
    f.promote hexSum ident target=(f,some (.errorf "%w: cannot promote non-active entry"
      (.sentinel .invalidTierTransition) [])) := by
  unfold promote
  simp [held,ne_eq,inactive,not_false_eq_true]

theorem demote_found (held : f.entries.lookup (ident.digest hexSum)=some e) :
    f.demote hexSum ident target=(f.moved hexSum ident e target,none) := by
  unfold demote
  simp only [held]
  rfl

theorem lookup_moved {f : CacheFabric} {e : CacheEntry} :
    (f.moved hexSum ident e target).entries.lookup (ident.digest hexSum)=
      some {e with vector := {e.vector with residency := target}} :=
  AList.lookup_insert _

theorem moved_tierChange {ordered : Nat → Nat → Prop} {allowed : CacheEntry → Prop}
    (held : f.entries.lookup (ident.digest hexSum)=some e) :
    TierChange ordered allowed (ident.digest hexSum) f (f.moved hexSum ident e target) none ↔
      ordered (tierRank e.vector.residency) (tierRank target) ∧ allowed e := by
  constructor
  · intro law
    obtain ⟨success,refusal⟩ := law e held
    obtain ⟨_,stored,ranks⟩ := success rfl
    rw [lookup_moved] at stored
    obtain rfl := Option.some.inj stored
    refine ⟨ranks,by_contra fun no => ?_⟩
    obtain ⟨⟨_,refused,_⟩,_⟩ := refusal no
    cases refused
  · rintro ⟨ranks,fine⟩ old heldOld
    obtain rfl : e=old := Option.some.inj (held.symm.trans heldOld)
    exact ⟨fun _ => ⟨_,lookup_moved,ranks⟩,fun no => absurd fine no⟩

theorem AllConsistent.moved_iff (h : AllConsistent f) (e : CacheEntry) :
    AllConsistent (f.moved hexSum ident e target) ↔
      (e.vector.lifecycle=.evicted → target=.evicted) :=
  ⟨fun all => all _ _ (lookup_moved),fun fine => h.put fine⟩

theorem promote_orderly_iff (h : AllConsistent f) :
    AllConsistent (f.promote hexSum ident target).1 ∧
      Orderly hexSum (stepOf (step hexSum) f (.promote ident target)) ↔
    Directed hexSum f (.promote ident target) := by
  unfold Orderly Directed
  change _ ∧ TierChange _ _ _ f (f.promote hexSum ident target).1
    (f.promote hexSum ident target).2 ↔ _
  cases held : f.entries.lookup (ident.digest hexSum) with
  | none =>
    have same : f.promote hexSum ident target=(f,some notFound) := by
      unfold promote
      simp [held]
    rw [same]
    simp [TierChange,held,h]
  | some e =>
    by_cases active : e.vector.lifecycle=.active
    · rw [promote_active held active,moved_tierChange held,h.moved_iff]
      simp [active,held]
    · rw [promote_refused held active]
      simp [TierChange,held,h,active,GoError.root]

theorem demote_orderly_iff (h : AllConsistent f) : AllConsistent (f.demote hexSum ident target).1 ∧
      Orderly hexSum (stepOf (step hexSum) f (.demote ident target)) ↔
    Directed hexSum f (.demote ident target) := by
  unfold Orderly Directed
  change _ ∧ TierChange _ _ _ f (f.demote hexSum ident target).1
    (f.demote hexSum ident target).2 ↔ _
  cases held : f.entries.lookup (ident.digest hexSum) with
  | none =>
    have same : f.demote hexSum ident target=(f,some notFound) := by
      unfold demote
      simp [held]
    rw [same]
    simp [TierChange,held,h]
  | some e =>
    rw [demote_found held,moved_tierChange held,h.moved_iff]
    simp [held,and_comm]

theorem step_orderly_iff (h : AllConsistent f) {op : Op}
    (inserted : ∀entry,op=.insert entry → entry.Consistent) :
    AllConsistent (step hexSum f op).1 ∧ Orderly hexSum (stepOf (step hexSum) f op) ↔
      Directed hexSum f op := by
  cases op with
  | insert entry => exact iff_of_true ⟨h.insert (inserted _ rfl),trivial⟩ trivial
  | promote ident target => exact promote_orderly_iff h
  | demote ident target => exact demote_orderly_iff h
  | _ => exact iff_of_true ⟨h.upkeep trivial,trivial⟩ trivial

end

theorem tiers_orderly_iff (ops : List Op) (inserted : ∀entry,.insert entry∈ops → entry.Consistent) :
    Always (step hexSum) newCacheFabric ops
      (fun tr f => AllConsistent f ∧ ∀st∈tr,Orderly hexSum st) ↔
    EachCall (step hexSum) newCacheFabric ops (fun _ f op => Directed hexSum f op) := by
  refine always_iff_eachCall_of (step hexSum) (fun _ _ => True) _
    (fun _ _ op => ∀entry,op=.insert entry → entry.Consistent) trivial
    ⟨fun _ _ held => (by cases held),by simp⟩ ?_ ?_ ?_
  · intro tr f op _ good fresh directed
    obtain ⟨consistent,orderly⟩ := (step_orderly_iff good.1 fresh).mpr directed
    exact ⟨trivial,consistent,forall_mem_snoc good.2 orderly⟩
  · intro tr f op _ good fresh after
    exact (step_orderly_iff good.1 fresh).mp ⟨after.1,after.2 _ (by simp)⟩
  · rintro _ _ before entry rfl
    exact inserted entry (before.subset (List.mem_append_right _ (List.mem_singleton_self _)))

end CacheFabric

theorem moves_orderly : Always (CacheFabric.step fun _ => "") newCacheFabric
      [.insert sampleEntry,.demote sampleEntry.identity .remote,
        .promote sampleEntry.identity .hostCPU,.evict sampleEntry.identity]
      (fun tr f => CacheFabric.AllConsistent f ∧ ∀st∈tr,CacheFabric.Orderly (fun _ => "") st) :=
  (CacheFabric.tiers_orderly_iff _ _ (by simp [CacheEntry.Consistent,sampleEntry])).mpr (by decide)

theorem moves_disorderly :
    let hexSum : List UInt8 → String := fun _ => ""
    let ident := sampleEntry.identity
    let f := (newCacheFabric.insert hexSum sampleEntry).1
    let raised := (f.evict hexSum ident).1.demote hexSum ident .gpu
    let lowered := f.promote hexSum ident .remote
    raised.2=none ∧ ¬CacheFabric.AllConsistent raised.1 ∧
    lowered.2=none ∧ ¬CacheFabric.Orderly hexSum
      (stepOf (CacheFabric.step hexSum) f (.promote ident .remote)) := by
  intro hexSum ident f raised lowered
  have evicted : raised.1.entries.lookup (ident.digest hexSum)=some {sampleEntry.evicted with
        vector := {sampleEntry.evicted.vector with residency := .gpu}} := by decide
  have held : f.entries.lookup (ident.digest hexSum)=some sampleEntry := by decide
  refine ⟨by decide,fun all => absurd (all _ _ evicted rfl) (by decide),by decide,?_⟩
  intro orderly
  have law : CacheFabric.TierChange (· ≤ ·) _ (ident.digest hexSum) f
      (f.moved hexSum ident sampleEntry .remote) none := orderly
  exact absurd ((CacheFabric.moved_tierChange held).mp law).1 (by decide)

end KServeLLM.KVState
