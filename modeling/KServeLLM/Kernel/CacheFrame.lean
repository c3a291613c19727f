import KServeLLM.Framework.Framing
import KServeLLM.Kernel.CacheFabric

namespace KServeLLM.KVState

variable {a b : CacheIdentity}

namespace CacheIdentity

def parts (id : CacheIdentity) : List (List UInt8) :=
  [id.tenantID,id.partitionID,id.modelID,id.adapterID,id.tokenizerID,itoa id.chunkIndex,
    id.prefixHash].map (·.toUTF8.toList)

def pieces (id : CacheIdentity) : List (List UInt8) := KServeLLM.pieces 0 id.parts

theorem digestInput_eq (id : CacheIdentity) : id.digestInput=terminate 0 id.parts := rfl

theorem digest_eq_iff {hexSum : List UInt8 → String} (inj : Function.Injective hexSum)
    {a b : CacheIdentity} : a.digest hexSum=b.digest hexSum ↔ a.pieces=b.pieces := by
  rw [digest,digest,String.append_right_inj,inj.eq_iff,digestInput_eq,digestInput_eq,
    terminate_eq_iff]
  rfl

end CacheIdentity

namespace CacheFabric

variable {hexSum : List UInt8 → String}

def WritesOnly (hexSum : List UInt8 → String) (id : CacheIdentity) (f g : CacheFabric) : Prop :=
  ∀key,key≠id.digest hexSum → g.entries.lookup key=f.entries.lookup key

theorem WritesOnly.refl {id : CacheIdentity} {f : CacheFabric} : WritesOnly hexSum id f f :=
  fun _ _ => rfl

theorem WritesOnly.put {id : CacheIdentity} {f : CacheFabric} {entry : CacheEntry} :
    WritesOnly hexSum id f (f.put (id.digest hexSum) entry) :=
  fun _ other => AList.lookup_insert_ne other

variable (f : CacheFabric)

theorem insert_writesOnly {entry : CacheEntry} :
    WritesOnly hexSum entry.identity f (f.insert hexSum entry).1 := by
  rcases insert_cases _ with same | filed
  · rw [same]
    exact .refl
  · rw [filed]
    exact .put

theorem promote_writesOnly {id : CacheIdentity} {target : ResidencyTier} :
    WritesOnly hexSum id f (f.promote hexSum id target).1 := by
  unfold promote
  cases f.entries.lookup _ with
  | none => exact .refl
  | some entry =>
    dsimp only
    split_ifs
    · exact .refl
    · exact .put

theorem demote_writesOnly {id : CacheIdentity} {target : ResidencyTier} :
    WritesOnly hexSum id f (f.demote hexSum id target).1 := by
  unfold demote
  cases f.entries.lookup _ with
  | none => exact .refl
  | some entry => exact .put

theorem evict_writesOnly {id : CacheIdentity} : WritesOnly hexSum id f (f.evict hexSum id).1 := by
  unfold evict
  cases f.entries.lookup _ with
  | none => exact .refl
  | some entry => exact .put

def Isolated (hexSum : List UInt8 → String) (a b : CacheIdentity) : Prop :=
  ∀f : CacheFabric,∀target : ResidencyTier,
    (∀entry : CacheEntry,entry.identity=a → (f.insert hexSum entry).1.entries.lookup
      (b.digest hexSum)=f.entries.lookup (b.digest hexSum)) ∧
    (f.promote hexSum a target).1.entries.lookup (b.digest hexSum)=
      f.entries.lookup (b.digest hexSum) ∧
    (f.demote hexSum a target).1.entries.lookup (b.digest hexSum)=
      f.entries.lookup (b.digest hexSum) ∧
    (f.evict hexSum a).1.entries.lookup (b.digest hexSum)=f.entries.lookup (b.digest hexSum)

theorem isolated_of_digest_ne (h : b.digest hexSum≠a.digest hexSum) : Isolated hexSum a b := by
  intro f target
  refine ⟨?_,promote_writesOnly f _ h,demote_writesOnly f _ h,evict_writesOnly f _ h⟩
  rintro _ rfl
  exact insert_writesOnly f _ h

theorem lookup_insert_self (f : CacheFabric) {entry : CacheEntry}
    (valid : entry.identity.validate=none) :
    (f.insert hexSum entry).1.entries.lookup (entry.identity.digest hexSum)=some entry := by
  unfold CacheFabric.insert
  rw [valid]
  exact AList.lookup_insert _

theorem isolated_iff_pieces (inj : Function.Injective hexSum) (a b : CacheIdentity)
    (valid : a.validate=none) : Isolated hexSum a b ↔ a.pieces≠b.pieces := by
  constructor
  · intro isolated same
    have key : a.digest hexSum=b.digest hexSum := (CacheIdentity.digest_eq_iff inj).mpr same
    have unchanged := (isolated newCacheFabric .gpu).1 {CacheEntry.zero with identity := a} rfl
    rw [← key,@lookup_insert_self hexSum newCacheFabric {CacheEntry.zero with identity := a} valid]
      at unchanged
    cases unchanged
  · intro differ
    exact isolated_of_digest_ne fun key =>
      differ ((CacheIdentity.digest_eq_iff inj).mp key).symm

def leftIdentity : CacheIdentity := ⟨"acme","emea","m","","k","h",0⟩

theorem partitions_isolated :
    Isolated latin1 leftIdentity {leftIdentity with partitionID := "apac"} :=
  (isolated_iff_pieces latin1_injective leftIdentity _ (by decide)).mpr (by
    simp only [CacheIdentity.pieces,CacheIdentity.parts,byteArray_toList,List.map_cons]
    decide)

def shiftedIdentity : CacheIdentity := {leftIdentity with
  tenantID := "acme\x00emea", partitionID := "x" }

def targetIdentity : CacheIdentity := {leftIdentity with partitionID := "emea\x00x" }

theorem insert_replaces_other_tenant :
    shiftedIdentity.validate=none ∧ targetIdentity.validate=none ∧
    shiftedIdentity.tenantID≠targetIdentity.tenantID ∧
    ∀hexSum : List UInt8 → String,
      let victim := {sampleEntry with identity := targetIdentity}
      let writer := {sampleEntry with identity := shiftedIdentity}
      let f := (newCacheFabric.insert hexSum victim).1
      f.entries.lookup (targetIdentity.digest hexSum)=some victim ∧
      (f.insert hexSum writer).1.entries.lookup (targetIdentity.digest hexSum)=some writer := by
  have same : targetIdentity.digestInput=shiftedIdentity.digestInput := by
    rw [CacheIdentity.digestInput_eq,CacheIdentity.digestInput_eq]
    simp only [CacheIdentity.parts,byteArray_toList,List.map_cons]
    decide
  have valid : shiftedIdentity.validate=none ∧ targetIdentity.validate=none := by decide
  refine ⟨valid.1,valid.2,by decide,?_⟩
  intro hexSum victim writer f
  have key : targetIdentity.digest hexSum=shiftedIdentity.digest hexSum :=
    congrArg ("sha256:"++hexSum ·) same
  refine ⟨@lookup_insert_self hexSum _ victim valid.2,?_⟩
  rw [key]
  exact @lookup_insert_self hexSum f writer valid.1

end CacheFabric

end KServeLLM.KVState
