import KServeLLM.Kernel.PrefixMatch

namespace KServeLLM.KVState

variable {e : CacheEntry}

namespace CacheEntry

def Expired (e : CacheEntry) (t : Time) : Prop := e.expiresAt≠0 ∧ e.expiresAt ≤ t

def Barred (e : CacheEntry) (t : Time) : Prop :=
  e.vector.lifecycle≠.active ∨ e.vector.integrity=.corrupted ∨ e.Expired t

theorem Barred.later {t u : Time} (h : e.Barred t) (le : t ≤ u) : e.Barred u :=
  h.imp_right (·.imp_right fun expired => ⟨expired.1,Int.le_trans expired.2 le⟩)

theorem Barred.becomes {old new : CacheEntry} {t : Time} (h : old.Barred t)
    (becomes : old.Becomes new) : new.Barred t := by
  rcases h with inactive | corrupted | expired
  · rcases becomes.lifecycle with same | evicted
    · exact .inl (same▸inactive)
    · exact .inl (by simp [evicted])
  · exact .inr (.inl (becomes.integrity▸corrupted))
  · refine .inr (.inr ?_)
    unfold Expired
    rw [← becomes.expiresAt]
    exact expired

theorem Barred.not_reusable {t : Time} (h : e.Barred t) :
    e.vector.evaluateReuse t e.expiresAt≠.hit := by
  intro hit
  obtain ⟨active,sound,live,_⟩ := evaluateReuse_hit hit
  rcases h with inactive | corrupted | expired
  · exact inactive active
  · exact sound corrupted
  · rcases live with never | before
    · exact expired.1 never
    · exact Int.not_lt.mpr expired.2 before

def Due (e : CacheEntry) (t : Time) : Prop := e.Expired t ∧ e.vector.lifecycle≠.evicted

instance (e : CacheEntry) (t : Time) : Decidable (e.Due t) := by
  unfold Due Expired
  infer_instance

theorem lapsed_eq (e : CacheEntry) (t : Time) : e.lapsed t=decide (e.Due t) := by
  rw [Bool.eq_iff_iff,decide_eq_true_iff]
  simp [lapsed,Due,Expired,Time.isZero,Time.before]

theorem not_due_evicted (e : CacheEntry) (t : Time) : ¬e.evicted.Due t := fun due => due.2 rfl

end CacheEntry

namespace CacheFabric

variable {hexSum : List UInt8 → String}

def Op.moment : Op → Option Time
  | .lookup _ now => some now
  | .prefixLookup _ _ now => some now
  | .evictExpired now _ => some now
  | _ => none

def Hits (ident : CacheIdentity) (st : Step CacheFabric Op Answer) : Prop :=
  match st.call,st.answer with
  | .lookup query _,.looked _ disp _ => query=ident ∧ disp=.hit
  | .prefixLookup base hashes _,.found res =>
      hashes.length<2^63 ∧ ∃i ph,hashes[i]?=some ph ∧ base.chunk i ph=ident ∧
        (i<res.entries.length ∨ res.disposition=.hit)
  | _,_ => False

theorem matchDisposition_hit {matched requested : Nat}
    (h : matchDisposition matched requested=.hit) : matched=requested := by
  unfold matchDisposition at h
  split_ifs at h with none all
  exact all

def Keyed (hexSum : List UInt8 → String) (f : CacheFabric) : Prop :=
  ∀key e,f.entries.lookup key=some e → key=e.identity.digest hexSum

theorem Keyed.insert {f : CacheFabric} (h : Keyed hexSum f) (entry : CacheEntry) :
    Keyed hexSum (f.insert hexSum entry).1 := by
  rcases insert_cases _ with same | filed
  · rwa [same]
  · intro key e held
    rw [filed,CacheFabric.put] at held
    by_cases here : key=entry.identity.digest hexSum
    · rw [here,AList.lookup_insert] at held
      obtain rfl := Option.some.inj held
      exact here
    · rw [AList.lookup_insert_ne here] at held
      exact h key e held

theorem Keyed.step {f : CacheFabric} (h : Keyed hexSum f) (op : Op) :
    Keyed hexSum (step hexSum f op).1 := by
  by_cases inserts : ∃entry,op=.insert entry
  · obtain ⟨_,rfl⟩ := inserts
    exact h.insert _
  · intro key e held
    obtain ⟨old,heldOld,becomes⟩ := step_derived _ (not_exists.mp inserts) key e held
    rw [← becomes.identity]
    exact h key old heldOld

theorem run_keyed {hexSum : List UInt8 → String} {ops : List Op} :
    Keyed hexSum (run (step hexSum) newCacheFabric ops) :=
  run_induction _ (fun _ f => Keyed _ f) _ (fun _ _ h => (by cases h))
    (fun _ _ op h => h.step op) ops

section

def Bars (hexSum : List UInt8 → String) (ident : CacheIdentity) (t : Time) (f : CacheFabric) :
    Prop :=
  ∀e,f.entries.lookup (ident.digest hexSum)=some e → e.identity=ident → e.Barred t

variable {ident : CacheIdentity} {t now : Time} {f : CacheFabric}

theorem Bars.later (h : Bars hexSum ident t f) (le : t ≤ now) : Bars hexSum ident now f :=
  fun e held same => (h e held same).later le

theorem Bars.unserved (h : Bars hexSum ident t f) : f.serving hexSum ident t=none := by
  cases serves : f.serving _ _ t with
  | none => rfl
  | some e =>
    obtain ⟨_,held,same,reusable⟩ := (serving_eq_some _).mp serves
    exact absurd reusable (h e held same).not_reusable

theorem Bars.insert (h : Bars hexSum ident t f) {entry : CacheEntry}
    (other : entry.identity≠ident) : Bars hexSum ident t (f.insert hexSum entry).1 := by
  rcases insert_cases _ with same | filed
  · rwa [same]
  · intro e held same
    rw [filed,CacheFabric.put] at held
    by_cases here : ident.digest hexSum=entry.identity.digest hexSum
    · rw [here,AList.lookup_insert] at held
      obtain rfl := Option.some.inj held
      exact absurd same other
    · rw [AList.lookup_insert_ne here] at held
      exact h e held same

theorem Bars.step (h : Bars hexSum ident t f) {op : Op}
    (other : ∀entry,op=.insert entry → entry.identity≠ident) :
    Bars hexSum ident t (step hexSum f op).1 := by
  by_cases inserts : ∃entry,op=.insert entry
  · obtain ⟨_,rfl⟩ := inserts
    exact h.insert (other _ rfl)
  · intro e held same
    obtain ⟨old,heldOld,becomes⟩ := step_derived _ (not_exists.mp inserts) _ e held
    exact (h old heldOld (becomes.identity.trans same)).becomes becomes

theorem Bars.no_hit (h : Bars hexSum ident t f) {op : Op} (clock : ∀now∈op.moment,t ≤ now) :
    ¬Hits ident (stepOf (CacheFabric.step hexSum) f op) := by
  cases op with
  | lookup query now =>
    rintro ⟨rfl,hit⟩
    have unserved := (h.later (clock now rfl)).unserved
    exact (lookup_of_unserved _ unserved).2 hit
  | prefixLookup base hashes now =>
    rintro ⟨short,i,ph,asked,rfl,reached⟩
    have answer := prefixLookup_longest hexSum f base _ now short
    have unserved := lookup_of_unserved _ (h.later (clock now rfl)).unserved
    have inside : i<(f.prefixLookup hexSum base hashes now).2.entries.length := by
      rcases reached with matched | full
      · exact matched
      · have total := matchDisposition_hit (answer.disposition.symm.trans full)
        rw [total]
        exact (List.getElem?_eq_some_iff.mp asked).1
    obtain ⟨p,asked',hit⟩ := answer.longest.hits i _ (List.getElem?_eq_getElem inside)
    obtain rfl : p=ph := Option.some.inj (asked'.symm.trans asked)
    exact unserved.2 (by rw [hit])
  | _ => exact id

theorem Bars.trace (h : Bars hexSum ident t f) {ops : List Op}
    (clock : ∀op∈ops,∀now∈op.moment,t ≤ now)
    (others : ∀entry,.insert entry∈ops → entry.identity≠ident) :
    ∀st∈trace (CacheFabric.step hexSum) f ops,¬Hits ident st := by
  induction ops generalizing f with
  | nil => simp [KServeLLM.trace]
  | cons op ops ih =>
    have here : ∀entry,op=.insert entry → entry.identity≠ident := by
      rintro _ rfl
      exact others _ List.mem_cons_self
    refine List.forall_mem_cons.mpr ⟨h.no_hit (clock op List.mem_cons_self),?_⟩
    exact ih (h.step here) (fun o mem => clock o (List.mem_cons_of_mem op mem))
      (fun entry mem => others _ (List.mem_cons_of_mem op mem))

end

structure Sweeps (f : CacheFabric) (now : Time) (g : CacheFabric)
    (evicted : List CacheIdentity) : Prop where
  reported : evicted.Perm ((f.entries.entries.filter (·.2.Due now)).map (·.2.identity))
  frame : ∀key,g.entries.lookup key=
    (f.entries.lookup key).map fun e => if e.Due now then e.evicted else e

theorem foldl_expire (now : Time) (es : List ((_ : String) × CacheEntry))
    (acc : CacheFabric×List CacheIdentity) :
    es.foldl (expire now) acc=(⟨rewriteAll (·.Due now) CacheEntry.evicted acc.1.entries es⟩,
        acc.2++(es.filter (·.2.Due now)).map (·.2.identity)) := by
  induction es generalizing acc with
  | nil => simp [rewriteAll]
  | cons e es ih =>
    rw [List.foldl_cons,ih]
    unfold expire
    rw [CacheEntry.lapsed_eq]
    by_cases due : e.2.Due now <;> simp [due,rewriteAll,CacheFabric.put]

theorem evictExpired_sweeps (f : CacheFabric) (now : Time)
    (order : RangeOrder ((_ : String) × CacheEntry)) :
    Sweeps f now (f.evictExpired now order).1 (f.evictExpired now order).2 := by
  unfold evictExpired
  rw [foldl_expire]
  refine ⟨?_,fun key => ?_⟩
  · refine (List.mergeSort_perm _ _).trans ?_
    exact ((order.perm _).filter _).map _
  · have written := lookup_rewritten order f.entries (·.Due now) CacheEntry.evicted key
    simpa only [decide_eq_true_eq] using written

theorem Sweeps.nothing_due {f g : CacheFabric} {now : Time} {evicted : List CacheIdentity}
    (h : Sweeps f now g evicted) {key : String}
    (held : g.entries.lookup key=some e) : ¬e.Due now := by
  rw [h.frame,Option.map_eq_some_iff] at held
  obtain ⟨old,_,rfl⟩ := held
  split_ifs with due
  · exact old.not_due_evicted now
  · exact due

theorem Sweeps.again {f g : CacheFabric} {now : Time} {evicted : List CacheIdentity}
    (h : Sweeps f now g evicted) (order : RangeOrder ((_ : String) × CacheEntry)) :
    (g.evictExpired now order).2=[] := by
  have none : g.entries.entries.filter (·.2.Due now)=[] := by
    refine List.filter_eq_nil_iff.mpr fun e mem => ?_
    have held : g.entries.lookup e.1=some e.2 := AList.mem_lookup_iff.mpr mem
    simpa using h.nothing_due held
  have reported := (evictExpired_sweeps g now order).reported
  rw [none] at reported
  exact reported.eq_nil

end CacheFabric

theorem barred_until_insert (hexSum : List UInt8 → String) :
    (∀(past later : List CacheFabric.Op) (t : Time) (key : String) (e : CacheEntry),
      (past.filterMap (·.moment)++t::later.filterMap (·.moment)).Pairwise (· ≤ ·) →
      (run (CacheFabric.step hexSum) newCacheFabric past).entries.lookup key=some e →
      e.Barred t →
      (∀new,.insert new∈later → new.identity≠e.identity) →
      ∀st∈trace (CacheFabric.step hexSum) (run (CacheFabric.step hexSum) newCacheFabric past) later,
        ¬CacheFabric.Hits e.identity st) ∧
    ∀(f : CacheFabric) (now : Time) (order again : RangeOrder ((_ : String) × CacheEntry)),
      let (g,evicted) := f.evictExpired now order
      CacheFabric.Sweeps f now g evicted ∧ (g.evictExpired now again).2=[] := by
  refine ⟨?_,fun f now order again => ?_⟩
  · intro past later t key e clock held barred others
    have bars : CacheFabric.Bars hexSum e.identity t
        (run (CacheFabric.step hexSum) newCacheFabric past) := by
      intro e' held' _
      rw [← CacheFabric.run_keyed key e held,held] at held'
      obtain rfl := Option.some.inj held'
      exact barred
    refine bars.trace (fun op mem now at' => ?_) others
    have after := (List.pairwise_cons.mp (List.pairwise_append.mp clock).2.1).1
    exact after now (List.mem_filterMap.mpr ⟨op,mem,at'⟩)
  · have sweeps := CacheFabric.evictExpired_sweeps f now order
    exact ⟨sweeps,sweeps.again again⟩

theorem evicted_stays_barred :
    let ident := sampleEntry.identity
    let f := run (CacheFabric.step fun _ => "") newCacheFabric [.insert sampleEntry,.evict ident]
    ¬CacheFabric.Hits ident
      (stepOf (CacheFabric.step fun _ => "") (f.demote (fun _ => "") ident .gpu).1
        (.lookup ident 5)) := by
  intro ident f
  refine (barred_until_insert fun _ => "").1 [.insert sampleEntry,.evict ident]
    [.demote ident .gpu,.lookup ident 5] 3 "sha256:" sampleEntry.evicted (by decide) (by decide)
    (.inl (by decide)) (by simp) _ ?_
  exact .tail _ (.head _)

end KServeLLM.KVState
