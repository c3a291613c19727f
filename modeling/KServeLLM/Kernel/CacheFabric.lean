import Mathlib.Data.List.Sort
import KServeLLM.Framework.Execution
import KServeLLM.Framework.GoTypes

namespace KServeLLM.KVState

inductive ResidencyTier where
  | gpu | hostCPU | localDisk | remote | evicted | cold
  | other (text : String)
  deriving DecidableEq

inductive LifecycleState where
  | unallocated | allocating | active | draining | evicted | quarantined
  | other (text : String)
  deriving DecidableEq

inductive TransferPhase where
  | idle | initiated | inFlight | completed | failed | cancelled
  | other (text : String)
  deriving DecidableEq

inductive AffinityPosture where
  | none | soft | strict | orphaned
  | other (text : String)
  deriving DecidableEq

inductive IsolationPosture where
  | tenantStrict | partitionStrict | sharedPreamble
  | other (text : String)
  deriving DecidableEq

inductive IntegrityPosture where
  | unverified | verified | corrupted
  | other (text : String)
  deriving DecidableEq

inductive ReuseDisposition where
  | hit | miss | partialHit | deniedTenantMismatch | deniedAdapterMismatch | deniedTokenizerMismatch
  | deniedPartitionMismatch | deniedExpired | deniedQuarantined | deniedCorrupted | deniedNotActive
  deriving DecidableEq

inductive Sentinel where
  | invalidIdentity | entryNotFound | invalidTierTransition
  deriving DecidableEq

abbrev Error := GoError Sentinel

structure StateVector where
  residency : ResidencyTier
  lifecycle : LifecycleState
  transfer : TransferPhase
  affinity : AffinityPosture
  isolation : IsolationPosture
  integrity : IntegrityPosture
  deriving DecidableEq

def StateVector.evaluateReuse (v : StateVector) (now expiresAt : Time) : ReuseDisposition :=
  if v.lifecycle=.quarantined then .deniedQuarantined
  else if v.integrity=.corrupted then .deniedCorrupted
  else if !expiresAt.isZero && !now.before expiresAt then .deniedExpired
  else if v.lifecycle=.evicted ∨ v.residency=.evicted ∨ v.residency=.cold then .miss
  else if v.lifecycle≠.active then .deniedNotActive
  else
    match v.residency with
    | .gpu | .hostCPU | .localDisk | .remote => .hit
    | _ => .miss

structure CacheIdentity where
  (tenantID partitionID modelID adapterID tokenizerID prefixHash : String)
  chunkIndex : Int64
  deriving DecidableEq

def isSpace (c : Char) : Bool :=
  let n := c.toNat
  (9 ≤ n && n ≤ 13) || n==0x20 || n==0x85 || n==0xA0 || n==0x1680 ||
    (0x2000 ≤ n && n ≤ 0x200a) || n==0x2028 || n==0x2029 || n==0x202f || n==0x205f ||
    n==0x3000

def blank (s : String) : Bool := s.toList.all isSpace

namespace CacheIdentity

def validate (id : CacheIdentity) : Option Error :=
  if blank id.tenantID || blank id.partitionID then
    some (.errorf "%w: missing tenantId or partitionId" (.sentinel .invalidIdentity) [])
  else if blank id.modelID || blank id.tokenizerID then
    some (.errorf "%w: missing modelId or tokenizerId" (.sentinel .invalidIdentity) [])
  else if blank id.prefixHash || id.chunkIndex<0 then
    some (.errorf "%w: invalid prefixHash or chunkIndex" (.sentinel .invalidIdentity) [])
  else none

def itoa (n : Int64) : String := toString n.toInt

def urn (id : CacheIdentity) : String :=
  "urn:ckodex:kv:"++id.tenantID++":"++id.partitionID++":"++id.modelID++":"++id.adapterID++
    ":"++id.tokenizerID++":"++itoa id.chunkIndex++":"++id.prefixHash

def digestInput (id : CacheIdentity) : List UInt8 :=
  [id.tenantID,id.partitionID,id.modelID,id.adapterID,id.tokenizerID,itoa id.chunkIndex,
    id.prefixHash].flatMap fun p => p.toUTF8.toList++[0]

def digest (hexSum : List UInt8 → String) (id : CacheIdentity) : String :=
  "sha256:"++hexSum id.digestInput

def checkCompatibility (id query : CacheIdentity) : ReuseDisposition :=
  if id.tenantID≠query.tenantID then .deniedTenantMismatch
  else if id.partitionID≠query.partitionID then .deniedPartitionMismatch
  else if id.modelID≠query.modelID ∨ id.adapterID≠query.adapterID then .deniedAdapterMismatch
  else if id.tokenizerID≠query.tokenizerID then .deniedTokenizerMismatch
  else if id.chunkIndex≠query.chunkIndex ∨ id.prefixHash≠query.prefixHash then .miss
  else .hit

end CacheIdentity

structure CacheEntry where
  identity : CacheIdentity
  vector : StateVector
  nodeAffinity : String
  (tokens sizeBytes : Int64)
  (createdAt lastAccessed expiresAt : Time)
  accessCount : Int64
  deriving DecidableEq

def CacheEntry.renewed (entry : CacheEntry) (now : Time) : CacheEntry :=
  {entry with accessCount := entry.accessCount+1, lastAccessed := now}

def CacheEntry.zero : CacheEntry :=
  ⟨⟨"","","","","","",0⟩,⟨.other "",.other "",.other "",.other "",.other "",.other ""⟩,
    "",0,0,0,0,0,0⟩

structure PrefixMatchResult where
  (matchedChunks totalRequestedChunks matchedTokens : Int64)
  bestTier : ResidencyTier
  entries : List CacheEntry
  disposition : ReuseDisposition
  deriving DecidableEq

def tierRank : ResidencyTier → Nat
  | .gpu => 4
  | .hostCPU => 3
  | .localDisk => 2
  | .remote => 1
  | _ => 0

def selectBestTier (current next : ResidencyTier) : ResidencyTier :=
  if tierRank current<tierRank next then next else current

structure CacheFabric where
  entries : GoMap String CacheEntry

def newCacheFabric : CacheFabric := ⟨∅⟩

namespace CacheFabric

variable (hexSum : List UInt8 → String)

def put (f : CacheFabric) (key : String) (entry : CacheEntry) : CacheFabric :=
  ⟨f.entries.insert key entry⟩

def insert (f : CacheFabric) (entry : CacheEntry) : CacheFabric×Option Error :=
  match entry.identity.validate with
  | some err => (f,some (.errorf "insert validation: %w" err []))
  | none => (f.put (entry.identity.digest hexSum) entry,none)

def lookup (f : CacheFabric) (query : CacheIdentity) (now : Time) :
    CacheFabric×CacheEntry×ReuseDisposition×Option Error :=
  match query.validate with
  | some err => (f,.zero,.miss,some (.errorf "lookup identity: %w" err []))
  | none =>
    match f.entries.lookup (query.digest hexSum) with
    | none => (f,.zero,.miss,none)
    | some entry =>
      let compatible := entry.identity.checkCompatibility query
      if compatible≠.hit then (f,.zero,compatible,none)
      else
        let disp := entry.vector.evaluateReuse now entry.expiresAt
        if disp=.hit then
          let entry := {entry with accessCount := entry.accessCount+1, lastAccessed := now}
          (f.put (query.digest hexSum) entry,entry,disp,none)
        else (f,entry,disp,none)

def matchChunks (base : CacheIdentity) (now : Time) :
    Int64 → List String → CacheFabric → PrefixMatchResult → CacheFabric×PrefixMatchResult
  | _,[],f,res => (f,res)
  | i,ph::hashes,f,res =>
      let chunkID := {base with chunkIndex := i, prefixHash := ph}
      let (f,entry,disp,err) := f.lookup hexSum chunkID now
      if err.isSome ∨ disp≠.hit then (f,res)
      else
        matchChunks base now (i+1) hashes f { res with
            matchedChunks := res.matchedChunks+1
            matchedTokens := res.matchedTokens+entry.tokens
            entries := res.entries++[entry]
            bestTier := selectBestTier res.bestTier entry.vector.residency }

def prefixLookup (f : CacheFabric) (base : CacheIdentity) (hashes : List String) (now : Time) :
    CacheFabric×PrefixMatchResult :=
  let (f,res) := f.matchChunks hexSum base now 0 hashes
    ⟨0,.ofNat hashes.length,0,.other "",[],.miss⟩
  if res.matchedChunks=res.totalRequestedChunks ∧ 0 < res.totalRequestedChunks then
    (f,{res with disposition := .hit})
  else if 0 < res.matchedChunks then (f,{res with disposition := .partialHit})
  else (f,res)

def notFound : Error := .errorf "%w: entry not found" (.sentinel .entryNotFound) []

def promote (f : CacheFabric) (id : CacheIdentity) (target : ResidencyTier) :
    CacheFabric×Option Error :=
  match f.entries.lookup (id.digest hexSum) with
  | none => (f,some notFound)
  | some entry =>
    if entry.vector.lifecycle≠.active then
      (f,some (.errorf "%w: cannot promote non-active entry" (.sentinel .invalidTierTransition) []))
    else
      let vector := {entry.vector with residency := target}
      (f.put (id.digest hexSum) {entry with vector := vector},none)

def demote (f : CacheFabric) (id : CacheIdentity) (target : ResidencyTier) :
    CacheFabric×Option Error :=
  match f.entries.lookup (id.digest hexSum) with
  | none => (f,some notFound)
  | some entry =>
    let vector := {entry.vector with residency := target}
    (f.put (id.digest hexSum) {entry with vector := vector},none)

end CacheFabric

def CacheEntry.evicted (entry : CacheEntry) : CacheEntry :=
  let vector := {entry.vector with residency := .evicted, lifecycle := .evicted}
  {entry with vector := vector}

def CacheEntry.lapsed (entry : CacheEntry) (now : Time) : Bool :=
  !entry.expiresAt.isZero && !now.before entry.expiresAt &&
    decide (entry.vector.lifecycle≠.evicted)

structure CacheEntry.Upkeep (R : CacheEntry → CacheEntry → Prop) : Prop where
  refl : ∀e,R e e
  trans : ∀a b c,R a b → R b c → R a c
  renewed : ∀e now,R e (e.renewed now)
  evicted : ∀e,R e e.evicted

structure CacheEntry.Becomes (old new : CacheEntry) : Prop where
  identity : old.identity=new.identity
  expiresAt : old.expiresAt=new.expiresAt
  integrity : old.vector.integrity=new.vector.integrity
  lifecycle : old.vector.lifecycle=new.vector.lifecycle ∨ new.vector.lifecycle=.evicted

theorem CacheEntry.Becomes.trans {a b c : CacheEntry} (first : a.Becomes b)
    (second : b.Becomes c) : a.Becomes c := by
  refine ⟨first.identity.trans second.identity,first.expiresAt.trans second.expiresAt,
    first.integrity.trans second.integrity,?_⟩
  rcases second.lifecycle with same | evicted
  · rw [← same]
    exact first.lifecycle
  · exact .inr evicted

theorem CacheEntry.becomes_upkeep : CacheEntry.Upkeep CacheEntry.Becomes where
  refl _ := ⟨rfl,rfl,rfl,.inl rfl⟩
  trans _ _ _ := CacheEntry.Becomes.trans
  renewed _ _ := ⟨rfl,rfl,rfl,.inl rfl⟩
  evicted _ := ⟨rfl,rfl,rfl,.inr rfl⟩

variable {entry : CacheEntry} {now : Time} {ident : CacheIdentity}

namespace CacheFabric

variable (hexSum : List UInt8 → String)

def evict (f : CacheFabric) (id : CacheIdentity) : CacheFabric×Option Error :=
  match f.entries.lookup (id.digest hexSum) with
  | none => (f,some notFound)
  | some entry => (f.put (id.digest hexSum) entry.evicted,none)

def expire (now : Time) (acc : CacheFabric×List CacheIdentity)
    (e : (_ : String) × CacheEntry) : CacheFabric×List CacheIdentity :=
  if e.2.lapsed now then (acc.1.put e.1 e.2.evicted,acc.2++[e.2.identity]) else acc

def evictExpired (f : CacheFabric) (now : Time)
    (order : RangeOrder ((_ : String) × CacheEntry)) : CacheFabric×List CacheIdentity :=
  let (g,evicted) := (order.arrange f.entries.entries).foldl (expire now) (f,[])
  (g,evicted.mergeSort fun a b => !decide (b.urn<a.urn))

inductive Op where
  | insert (entry : CacheEntry)
  | lookup (query : CacheIdentity) (now : Time)
  | prefixLookup (base : CacheIdentity) (hashes : List String) (now : Time)
  | promote (id : CacheIdentity) (target : ResidencyTier)
  | demote (id : CacheIdentity) (target : ResidencyTier)
  | evict (id : CacheIdentity)
  | evictExpired (now : Time) (order : RangeOrder ((_ : String) × CacheEntry))

inductive Answer where
  | outcome (err : Option Error)
  | looked (entry : CacheEntry) (disp : ReuseDisposition) (err : Option Error)
  | found (res : PrefixMatchResult)
  | evicted (ids : List CacheIdentity)

def step (f : CacheFabric) : Op → CacheFabric×Answer
  | .insert entry => (f.insert hexSum entry).map id .outcome
  | .lookup query now =>
      let (g,entry,disp,err) := f.lookup hexSum query now
      (g,.looked entry disp err)
  | .prefixLookup base hashes now => (f.prefixLookup hexSum base hashes now).map id .found
  | .promote ident target => (f.promote hexSum ident target).map id .outcome
  | .demote ident target => (f.demote hexSum ident target).map id .outcome
  | .evict ident => (f.evict hexSum ident).map id .outcome
  | .evictExpired now order => (f.evictExpired now order).map id .evicted

def SameOrigins (f g : CacheFabric) : Prop := ∀key e,g.entries.lookup key=some e →
    ∃old,f.entries.lookup key=some old ∧ old.identity=e.identity

def Derived (R : CacheEntry → CacheEntry → Prop) (f g : CacheFabric) : Prop :=
  ∀key e,g.entries.lookup key=some e → ∃old,f.entries.lookup key=some old ∧ R old e

section

variable {R : CacheEntry → CacheEntry → Prop} {f g h : CacheFabric}

theorem Derived.trans (join : ∀a b c,R a b → R b c → R a c) (fg : Derived R f g)
    (gh : Derived R g h) : Derived R f h := by
  intro key e held
  obtain ⟨mid,heldMid,second⟩ := gh key e held
  obtain ⟨old,heldOld,first⟩ := fg key mid heldMid
  exact ⟨old,heldOld,join old mid e first second⟩

theorem Derived.put (fg : Derived R f g) {key : String} {old : CacheEntry}
    (held : f.entries.lookup key=some old) (rel : R old entry) :
    Derived R f (g.put key entry) := by
  intro k e he
  by_cases hk : k=key
  · subst hk
    rw [CacheFabric.put,AList.lookup_insert] at he
    obtain rfl := Option.some.inj he
    exact ⟨old,held,rel⟩
  · rw [CacheFabric.put,AList.lookup_insert_ne hk] at he
    exact fg k e he

def Op.Upkeep : Op → Prop
  | .insert _ | .promote _ _ | .demote _ _ => False
  | _ => True

variable {op : Op}

section

variable (upkeep : CacheEntry.Upkeep R)

include upkeep

theorem unchanged (f : CacheFabric) : Derived R f f := fun _ e held => ⟨e,held,upkeep.refl e⟩

theorem lookup_derived (f : CacheFabric) (query : CacheIdentity) (now : Time) :
    Derived R f (f.lookup hexSum query now).1 := by
  unfold CacheFabric.lookup
  cases query.validate with
  | some err => exact unchanged upkeep f
  | none =>
    cases held : f.entries.lookup _ with
    | none => exact unchanged upkeep f
    | some entry =>
      dsimp only
      split_ifs
      · exact unchanged upkeep f
      · exact (unchanged upkeep f).put held (upkeep.renewed _ now)
      · exact unchanged upkeep f

theorem matchChunks_derived (base : CacheIdentity) (now : Time) (i : Int64)
    (hashes : List String) (f : CacheFabric) (res : PrefixMatchResult) :
    Derived R f (f.matchChunks hexSum base now i hashes res).1 := by
  induction hashes generalizing i f res with
  | nil => exact unchanged upkeep f
  | cons ph hashes ih =>
    have first := lookup_derived hexSum upkeep f {base with chunkIndex := i, prefixHash := ph} now
    rw [matchChunks]
    dsimp only
    split_ifs
    · exact first
    · exact first.trans upkeep.trans (ih _ _ _)

theorem prefixLookup_derived {f : CacheFabric} {base : CacheIdentity} {hashes : List String} :
    Derived R f (f.prefixLookup hexSum base hashes now).1 := by
  have all := matchChunks_derived hexSum upkeep base now 0 hashes f
    ⟨0,.ofNat hashes.length,0,.other "",[],.miss⟩
  unfold prefixLookup
  dsimp only
  split_ifs <;> exact all

theorem evict_derived {f : CacheFabric} : Derived R f (f.evict hexSum ident).1 := by
  unfold evict
  cases held : f.entries.lookup _ with
  | none => exact unchanged upkeep f
  | some entry => exact (unchanged upkeep f).put held (upkeep.evicted _)

theorem expire_derived {f : CacheFabric} {es : List ((_ : String) × CacheEntry)}
    (from' : ∀e∈es,f.entries.lookup e.1=some e.2) (acc : CacheFabric×List CacheIdentity)
    (start : Derived R f acc.1) : Derived R f (es.foldl (expire now) acc).1 := by
  induction es generalizing acc with
  | nil => exact start
  | cons e es ih =>
    refine ih (fun x hx => from' x (List.mem_cons_of_mem e hx)) _ ?_
    unfold expire
    split_ifs
    · exact start.put (from' e List.mem_cons_self) (upkeep.evicted e.2)
    · exact start

theorem evictExpired_derived {f : CacheFabric} {order : RangeOrder ((_ : String) × CacheEntry)} :
    Derived R f (f.evictExpired now order).1 := by
  refine expire_derived upkeep (fun e he => ?_) _ (unchanged upkeep f)
  have mem : e∈f.entries.entries := (order.perm _).mem_iff.mp he
  exact AList.mem_lookup_iff.mpr mem

theorem upkeep_derived {f : CacheFabric} (keeps : op.Upkeep) :
    Derived R f (step hexSum f op).1 := by
  cases op with
  | insert entry => exact keeps.elim
  | promote ident target => exact keeps.elim
  | demote ident target => exact keeps.elim
  | lookup query now => exact lookup_derived _ upkeep f _ now
  | prefixLookup base hashes now => exact prefixLookup_derived _ upkeep
  | evict ident => exact evict_derived _ upkeep
  | evictExpired now order => exact evictExpired_derived upkeep

end

variable {target : ResidencyTier}

theorem promote_derived {f : CacheFabric} :
    Derived CacheEntry.Becomes f (f.promote hexSum ident target).1 := by
  have same := unchanged CacheEntry.becomes_upkeep f
  unfold promote
  cases held : f.entries.lookup _ with
  | none => exact same
  | some entry =>
    dsimp only
    split_ifs
    · exact same
    · exact same.put held ⟨rfl,rfl,rfl,.inl rfl⟩

theorem demote_derived {f : CacheFabric} :
    Derived CacheEntry.Becomes f (f.demote hexSum ident target).1 := by
  have same := unchanged CacheEntry.becomes_upkeep f
  unfold demote
  cases held : f.entries.lookup _ with
  | none => exact same
  | some entry => exact same.put held ⟨rfl,rfl,rfl,.inl rfl⟩

theorem step_derived {f : CacheFabric} (other : ∀entry,op≠.insert entry) :
    Derived CacheEntry.Becomes f (step hexSum f op).1 := by
  cases op with
  | insert entry => exact absurd rfl (other _)
  | promote ident target => exact promote_derived _
  | demote ident target => exact demote_derived _
  | _ => exact upkeep_derived _ CacheEntry.becomes_upkeep trivial

theorem Derived.origins (h : Derived CacheEntry.Becomes f g) : SameOrigins f g := by
  intro key e held
  obtain ⟨old,heldOld,becomes⟩ := h key e held
  exact ⟨old,heldOld,becomes.identity⟩

end

abbrev History := List (Step CacheFabric Op Answer)

def Inserted (tr : History) (ident : CacheIdentity) : Prop :=
  ∃st∈tr,∃entry,st.call=.insert entry ∧ st.answer=.outcome none ∧ entry.identity=ident

def Provenance (tr : History) (f : CacheFabric) : Prop :=
  ∀key e,f.entries.lookup key=some e → Inserted tr e.identity

variable {tr : History}

theorem Inserted.snoc (h : Inserted tr ident)
    (st : Step CacheFabric Op Answer) : Inserted (tr++[st]) ident := by
  obtain ⟨old,mem,rest⟩ := h
  exact ⟨old,List.mem_append_left _ mem,rest⟩

theorem Provenance.of_origins {f g : CacheFabric} (h : Provenance tr f)
    (origins : SameOrigins f g) (st : Step CacheFabric Op Answer) :
    Provenance (tr++[st]) g := by
  intro key e he
  obtain ⟨old,held,same⟩ := origins key e he
  exact same▸(h key old held).snoc st

theorem insert_cases {f : CacheFabric} : (f.insert hexSum entry).1=f ∨
    f.insert hexSum entry=(f.put (entry.identity.digest hexSum) entry,none) := by
  unfold CacheFabric.insert
  cases entry.identity.validate with
  | some err => exact .inl rfl
  | none => exact .inr rfl

theorem Provenance.insert {f : CacheFabric} (h : Provenance tr f) (entry : CacheEntry) :
    Provenance (tr++[stepOf (step hexSum) f (.insert entry)]) (f.insert hexSum entry).1 := by
  rcases insert_cases _ with same | filed
  · rw [same]
    exact h.of_origins (unchanged CacheEntry.becomes_upkeep f).origins _
  · intro key e he
    rw [filed,CacheFabric.put] at he
    by_cases hk : key=entry.identity.digest hexSum
    · subst hk
      rw [AList.lookup_insert] at he
      obtain rfl := Option.some.inj he
      have answer : (step hexSum f (.insert entry)).2=.outcome none :=
        congrArg (fun r : CacheFabric×Option Error => Answer.outcome r.2) filed
      exact ⟨_,List.mem_append_right _ (List.mem_singleton_self _),entry,rfl,answer,rfl⟩
    · rw [AList.lookup_insert_ne hk] at he
      exact (h key e he).snoc _

theorem Provenance.step {f : CacheFabric} (h : Provenance tr f) (op : Op) :
    Provenance (tr++[stepOf (CacheFabric.step hexSum) f op]) (CacheFabric.step hexSum f op).1 := by
  by_cases inserts : ∃entry,op=.insert entry
  · obtain ⟨_,rfl⟩ := inserts
    exact h.insert _ _
  · exact h.of_origins (step_derived _ (not_exists.mp inserts)).origins _

theorem run_provenance {ops : List Op} :
    Provenance (trace (step hexSum) newCacheFabric ops) (run (step hexSum) newCacheFabric ops) :=
  run_induction _ _ _ (fun _ _ h => (by cases h)) (fun _ _ op h => h.step _ op) ops

end CacheFabric

variable {query : CacheIdentity}

theorem checkCompatibility_hit (h : ident.checkCompatibility query=.hit) : ident=query := by
  obtain ⟨_,_,_,_,_,_,_⟩ := ident
  unfold CacheIdentity.checkCompatibility at h
  split_ifs at h
  simp_all

theorem evaluateReuse_hit {v : StateVector} {expiresAt : Time}
    (h : v.evaluateReuse now expiresAt=.hit) :
    v.lifecycle=.active ∧ v.integrity≠.corrupted ∧ (expiresAt=0 ∨ now < expiresAt) ∧
    v.residency∈[ResidencyTier.gpu,.hostCPU,.localDisk,.remote] := by
  unfold StateVector.evaluateReuse at h
  split_ifs at h with quarantined corrupted expired gone inactive
  have live : expiresAt=0 ∨ now < expiresAt := by
    simp only [Time.isZero,Time.before,Bool.and_eq_true,Bool.not_eq_true',decide_eq_false_iff_not,
      not_and,not_not] at expired
    exact or_iff_not_imp_left.mpr expired
  refine ⟨not_not.mp inactive,corrupted,live,?_⟩
  cases tier : v.residency <;> simp_all

theorem lookup_hit {hexSum : List UInt8 → String} {f : CacheFabric}
    (hit : (f.lookup hexSum query now).2=(entry,.hit,none)) :
    ∃stored,f.entries.lookup (query.digest hexSum)=some stored ∧
      stored.identity.checkCompatibility query=.hit ∧
      stored.vector.evaluateReuse now stored.expiresAt=.hit ∧
      entry={stored with accessCount := stored.accessCount+1, lastAccessed := now} := by
  unfold CacheFabric.lookup at hit
  cases valid : query.validate with
  | some err => simp [valid] at hit
  | none =>
    cases held : f.entries.lookup _ with
    | none => simp [valid,held] at hit
    | some stored =>
      by_cases compatible : stored.identity.checkCompatibility query=.hit
      · by_cases reusable : stored.vector.evaluateReuse now stored.expiresAt=.hit
        · simp only [valid,held,compatible,reusable,if_true] at hit
          exact ⟨stored,rfl,compatible,reusable,(Prod.mk.inj hit).1.symm⟩
        · simp [valid,held,compatible,reusable] at hit
      · simp [valid,held,compatible] at hit

def sampleEntry : CacheEntry :=
  ⟨⟨"t","p","m","","k","h",0⟩,⟨.gpu,.active,.idle,.none,.tenantStrict,.verified⟩,"n",4,8,1,1,9,0⟩

end KServeLLM.KVState
