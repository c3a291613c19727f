import Mathlib.Data.List.MinMax
import KServeLLM.Framework.MapContents
import KServeLLM.Kernel.CacheFabric

namespace KServeLLM.KVState

def CacheIdentity.chunk (base : CacheIdentity) (i : Nat) (ph : String) : CacheIdentity :=
  {base with chunkIndex := .ofNat i, prefixHash := ph}

theorem checkCompatibility_self (ident : CacheIdentity) : ident.checkCompatibility ident=.hit := by
  simp [CacheIdentity.checkCompatibility]

theorem ofNat_injective_of_lt {i j : Nat} (hi : i<2^63) (hj : j<2^63)
    (h : Int64.ofNat i=Int64.ofNat j) : i=j := by
  have value := congrArg Int64.toInt h
  rw [Int64.toInt_ofNat_of_lt hi,Int64.toInt_ofNat_of_lt hj] at value
  omega

theorem ofNat_pos_iff {n : Nat} (h : n<2^63) : (0 : Int64)<.ofNat n ↔ 0<n := by
  rw [Int64.lt_iff_toInt_lt,Int64.toInt_ofNat_of_lt h]
  exact Int.natCast_pos

theorem CacheIdentity.chunk_ne {base : CacheIdentity} {i j : Nat} (hi : i<2^63) (hj : j<2^63)
    (ne : i≠j) {p q : String} : base.chunk i p≠base.chunk j q :=
  fun same => ne (ofNat_injective_of_lt hi hj (congrArg CacheIdentity.chunkIndex same))

variable {e : CacheEntry} {i : Nat}

namespace CacheFabric

variable (hexSum : List UInt8 → String)

def serving (f : CacheFabric) (query : CacheIdentity) (now : Time) : Option CacheEntry :=
  if query.validate.isSome then none
  else (f.entries.lookup (query.digest hexSum)).filter fun e =>
    decide (e.identity=query ∧ e.vector.evaluateReuse now e.expiresAt=.hit)

variable {query : CacheIdentity}

theorem serving_eq_some {f : CacheFabric} {now : Time} : f.serving hexSum query now=some e ↔
      query.validate=none ∧ f.entries.lookup (query.digest hexSum)=some e ∧
      e.identity=query ∧ e.vector.evaluateReuse now e.expiresAt=.hit := by
  unfold serving
  cases valid : query.validate with
  | some err => simp
  | none => simp

theorem lookup_of_serving {f : CacheFabric} {now : Time} (h : f.serving hexSum query now=some e) :
    f.lookup hexSum query now=
      (f.put (query.digest hexSum) (e.renewed now),e.renewed now,.hit,none) := by
  obtain ⟨valid,held,rfl,reusable⟩ := (serving_eq_some _).mp h
  unfold CacheFabric.lookup
  simp only [valid,held,checkCompatibility_self,reusable,if_true]
  rfl

theorem lookup_of_unserved {f : CacheFabric} {now : Time} (h : f.serving hexSum query now=none) :
    (f.lookup hexSum query now).1=f ∧ (f.lookup hexSum query now).2.2.1≠.hit := by
  have unserved e : f.serving hexSum query now≠some e := by simp [h]
  unfold CacheFabric.lookup
  cases valid : query.validate with
  | some err => simp
  | none =>
    cases held : f.entries.lookup _ with
    | none => simp
    | some e =>
      by_cases compatible : e.identity.checkCompatibility query=.hit
      · have same := checkCompatibility_hit compatible
        have denied : e.vector.evaluateReuse now e.expiresAt≠.hit := fun reusable =>
          unserved e ((serving_eq_some _).mpr ⟨valid,held,same,reusable⟩)
        simp [compatible,denied]
      · simp [compatible]

theorem serving_put_renewed {f : CacheFabric} {key : String} (held : f.entries.lookup key=some e)
    {now : Time} (other : e.identity≠query) :
    (f.put key (e.renewed now)).serving hexSum query now=f.serving hexSum query now := by
  ext _
  rw [serving_eq_some,serving_eq_some,CacheFabric.put]
  by_cases here : query.digest hexSum=key
  · rw [here,AList.lookup_insert,held]
    constructor
    · rintro ⟨_,same,rfl,_⟩
      exact absurd (congrArg CacheEntry.identity (Option.some.inj same)) other
    · rintro ⟨_,same,rfl,_⟩
      exact absurd (congrArg _ (Option.some.inj same)) other
  · rw [AList.lookup_insert_ne here]

def served (f : CacheFabric) (base : CacheIdentity) (now : Time) :
    Nat → List String → List CacheEntry
  | _,[] => []
  | i,ph::hashes =>
      match f.serving hexSum (base.chunk i ph) now with
      | none => []
      | some e => e.renewed now::f.served base now (i+1) hashes

section

variable {f : CacheFabric} {base : CacheIdentity} {now : Time}

theorem served_get {hashes : List String} {i k : Nat}
    (h : (f.served hexSum base now i hashes)[k]?=some e) :
    ∃ph stored,hashes[k]?=some ph ∧ f.serving hexSum (base.chunk (i+k) ph) now=some stored ∧
      e=stored.renewed now := by
  induction hashes generalizing i k with
  | nil => simp [served] at h
  | cons ph hashes ih =>
    rw [served] at h
    cases first : f.serving hexSum (base.chunk i ph) now with
    | none => simp [first] at h
    | some stored =>
      simp only [first] at h
      cases k with
      | zero => exact ⟨ph,stored,rfl,first,(Option.some.inj h).symm⟩
      | succ k =>
        obtain ⟨p,s,at',serves,rfl⟩ := ih h
        exact ⟨p,s,at',by rwa [Nat.add_right_comm] at serves,rfl⟩

theorem served_stops {hashes : List String} {ph : String}
    (h : hashes[(f.served hexSum base now i hashes).length]?=some ph) :
    f.serving hexSum (base.chunk (i+(f.served hexSum base now i hashes).length) ph) now=none := by
  induction hashes generalizing i with
  | nil => simp at h
  | cons p hashes ih =>
    rw [served] at h ⊢
    cases first : f.serving _ (base.chunk i p) now with
    | none =>
      simp only [first,List.length_nil,List.getElem?_cons_zero,Option.some.injEq] at h
      rw [← h]
      exact first
    | some stored =>
      simp only [first,List.length_cons] at h
      have rest := ih h
      rw [Nat.add_right_comm] at rest
      exact rest

theorem served_mem {hashes : List String} (h : e∈f.served hexSum base now i hashes) :
    ∃k ph stored,k<hashes.length ∧ f.serving hexSum (base.chunk (i+k) ph) now=some stored ∧
      e=stored.renewed now := by
  obtain ⟨k,at'⟩ := List.getElem?_of_mem h
  obtain ⟨ph,stored,asked,serves,rfl⟩ := served_get _ at'
  exact ⟨k,ph,stored,(List.getElem?_eq_some_iff.mp asked).1,serves,rfl⟩

theorem served_length_le (f : CacheFabric) (base : CacheIdentity) (now : Time) (i : Nat)
    (hashes : List String) : (f.served hexSum base now i hashes).length ≤ hashes.length := by
  by_contra long
  have inside : hashes.length<(f.served hexSum base now i hashes).length := Nat.lt_of_not_le long
  obtain ⟨_,_,asked,_⟩ := served_get _ (List.getElem?_eq_getElem inside)
  simp at asked

theorem served_congr {g : CacheFabric} {hashes : List String}
    (same : ∀k ph,k<hashes.length → g.serving hexSum (base.chunk (i+k) ph) now=
      f.serving hexSum (base.chunk (i+k) ph) now) :
    g.served hexSum base now i hashes=f.served hexSum base now i hashes := by
  induction hashes generalizing i with
  | nil => rfl
  | cons ph hashes ih =>
    have rest : g.served hexSum base now (i+1) hashes=f.served hexSum base now (i+1) hashes := by
      refine ih fun k p inside => ?_
      rw [Nat.add_right_comm]
      exact same (k+1) p (Nat.succ_lt_succ inside)
    have first : g.serving hexSum (base.chunk i ph) now=f.serving hexSum (base.chunk i ph) now :=
      same 0 ph (Nat.succ_pos _)
    rw [served,served,first,rest]

theorem served_keys_nodup {hashes : List String} (short : i+hashes.length<2^63) :
    ((f.served hexSum base now i hashes).map (·.identity.digest hexSum)).Nodup := by
  induction hashes generalizing i with
  | nil => exact List.nodup_nil
  | cons ph hashes ih =>
    rw [served]
    cases first : f.serving _ _ now with
    | none => exact List.nodup_nil
    | some stored =>
      have short' : i+1+hashes.length<2^63 := by
        rw [List.length_cons] at short
        omega
      refine List.nodup_cons.mpr ⟨?_,ih short'⟩
      intro again
      obtain ⟨e,mem,sameKey⟩ := List.mem_map.mp again
      obtain ⟨k,p,_,_,serves,rfl⟩ := served_mem _ mem
      obtain ⟨_,held,ident,_⟩ := (serving_eq_some _).mp first
      obtain ⟨_,held',ident',_⟩ := (serving_eq_some _).mp serves
      have key : (base.chunk (i+1+k) p).digest hexSum=(base.chunk i ph).digest hexSum := by
        rw [← ident,← ident']
        exact sameKey
      rw [key,held] at held'
      obtain rfl := Option.some.inj held'
      exact CacheIdentity.chunk_ne (by omega) (by omega) (by omega) (ident.symm.trans ident')

end

end CacheFabric

def PrefixMatchResult.extend (res : PrefixMatchResult) (entry : CacheEntry) : PrefixMatchResult :=
  { res with
    matchedChunks := res.matchedChunks+1
    matchedTokens := res.matchedTokens+entry.tokens
    entries := res.entries++[entry]
    bestTier := selectBestTier res.bestTier entry.vector.residency }

theorem foldl_extend (found : List CacheEntry) (res : PrefixMatchResult) :
    found.foldl PrefixMatchResult.extend res={ res with
        matchedChunks := res.matchedChunks+.ofNat found.length
        matchedTokens := res.matchedTokens+(found.map (·.tokens)).sum
        entries := res.entries++found
        bestTier := (found.map (·.vector.residency)).foldl selectBestTier res.bestTier } := by
  induction found generalizing res with
  | nil => simp
  | cons e found ih =>
    rw [List.foldl_cons,ih]
    simp only [PrefixMatchResult.extend,List.length_cons,List.map_cons,List.foldl_cons,
      List.append_assoc,List.singleton_append,PrefixMatchResult.mk.injEq,and_true,true_and,
      Int64.ofNat_add]
    refine ⟨?_,add_assoc _ _ _⟩
    rw [add_assoc,add_comm 1]
    rfl

def Highest (found : List CacheEntry) (tier : ResidencyTier) : Prop :=
  (∃e∈found,e.vector.residency=tier) ∧ ∀e∈found,tierRank e.vector.residency ≤ tierRank tier

theorem foldl_selectBestTier {tiers : List ResidencyTier} (ranked : ∀t∈tiers,0<tierRank t) :
    tiers.foldl selectBestTier (.other "")=(tiers.argmax tierRank).getD (.other "") := by
  induction tiers using List.reverseRecOn with
  | nil => rfl
  | append_singleton tiers t ih =>
    have before := ih fun u mem => ranked u (List.mem_append_left _ mem)
    rw [List.foldl_append,before,List.argmax_concat]
    cases best : tiers.argmax tierRank with
    | none =>
      have positive := ranked t (List.mem_append_right _ (List.mem_singleton_self t))
      exact if_pos positive
    | some u =>
      rw [List.foldl_cons,selectBestTier]
      by_cases better : tierRank u<tierRank t <;> simp [better]

theorem highest_of_ranked {found : List CacheEntry} (some' : found≠[])
    (ranked : ∀e∈found,0<tierRank e.vector.residency) :
    Highest found ((found.map (·.vector.residency)).foldl selectBestTier (.other "")) := by
  rw [foldl_selectBestTier (List.forall_mem_map.mpr ranked)]
  cases best : (found.map (·.vector.residency)).argmax tierRank with
  | none => exact absurd (List.map_eq_nil_iff.mp (List.argmax_eq_none.mp best)) some'
  | some tier =>
    refine ⟨List.mem_map.mp (List.argmax_mem best),fun e mem => ?_⟩
    have here : e.vector.residency∈found.map (·.vector.residency) := List.mem_map.mpr ⟨e,mem,rfl⟩
    exact List.le_of_mem_argmax here best

namespace CacheFabric

variable (hexSum : List UInt8 → String)

def writeBack (f : CacheFabric) (found : List CacheEntry) : CacheFabric :=
  ⟨assignAll f.entries (found.map fun e => ⟨e.identity.digest hexSum,e⟩)⟩

theorem matchChunks_eq (base : CacheIdentity) (now : Time) {hashes : List String}
    (short : i+hashes.length<2^63) (f : CacheFabric) (res : PrefixMatchResult) :
    f.matchChunks hexSum base now (.ofNat i) hashes res=
      (f.writeBack hexSum (f.served hexSum base now i hashes),
        (f.served hexSum base now i hashes).foldl PrefixMatchResult.extend res) := by
  induction hashes generalizing i f res with
  | nil => rfl
  | cons ph hashes ih =>
    have short' : i+1+hashes.length<2^63 := by
      rw [List.length_cons] at short
      omega
    have chunk : {base with chunkIndex := .ofNat i, prefixHash := ph}=base.chunk i ph := rfl
    rw [matchChunks,served,chunk]
    cases first : f.serving _ _ now with
    | none =>
      obtain ⟨same,denied⟩ := lookup_of_unserved _ first
      simp only [denied,ne_eq,not_false_eq_true,or_true,same]
      rfl
    | some e =>
      obtain ⟨_,held,ident,_⟩ := (serving_eq_some _).mp first
      have later : (f.put ((base.chunk i ph).digest hexSum) (e.renewed now)).served hexSum base now
          (i+1) hashes=f.served hexSum base now (i+1) hashes := by
        refine served_congr _ fun k p inside => ?_
        refine serving_put_renewed _ held ?_
        rw [ident]
        exact CacheIdentity.chunk_ne (by omega) (by omega) (by omega)
      have next : Int64.ofNat i+1=.ofNat (i+1) := (Int64.ofNat_add i 1).symm
      have key : (base.chunk i ph).digest hexSum=(e.renewed now).identity.digest hexSum := by
        rw [← ident]
        rfl
      rw [lookup_of_serving _ first]
      simp only
      rw [next,ih short',later,key]
      rfl

structure LongestMatch (f : CacheFabric) (base : CacheIdentity) (hashes : List String)
    (now : Time) (found : List CacheEntry) : Prop where
  hits : ∀i e,found[i]?=some e → ∃ph,hashes[i]?=some ph ∧
    (f.lookup hexSum (base.chunk i ph) now).2=(e,.hit,none)
  stops : ∀ph,hashes[found.length]?=some ph →
    (f.lookup hexSum (base.chunk found.length ph) now).2.2.1≠.hit

structure Renews (now : Time) (keys : List String) (f g : CacheFabric) : Prop where
  once : keys.Nodup
  frame : ∀key,g.entries.lookup key=
    if key∈keys then (f.entries.lookup key).map (·.renewed now) else f.entries.lookup key

def matchDisposition (matched requested : Nat) : ReuseDisposition :=
  if matched=0 then .miss else if matched=requested then .hit else .partialHit

section

variable {f : CacheFabric} {base : CacheIdentity} {hashes : List String} {now : Time}

theorem served_longest {f : CacheFabric} {base : CacheIdentity} {hashes : List String}
    {now : Time} : LongestMatch hexSum f base hashes now (f.served hexSum base now 0 hashes) where
  hits := by
    intro i e at'
    obtain ⟨ph,_,asked,serves,rfl⟩ := served_get _ at'
    rw [Nat.zero_add] at serves
    exact ⟨ph,asked,by rw [lookup_of_serving _ serves]⟩
  stops := by
    intro ph asked
    have none := served_stops _ asked
    rw [Nat.zero_add] at none
    exact (lookup_of_unserved _ none).2

theorem served_ranked (h : e∈f.served hexSum base now 0 hashes) :
    0<tierRank e.vector.residency := by
  obtain ⟨_,_,stored,_,serves,rfl⟩ := served_mem _ h
  obtain ⟨_,_,_,reusable⟩ := (serving_eq_some _).mp serves
  have tier := (evaluateReuse_hit reusable).2.2.2
  simp only [List.mem_cons,List.not_mem_nil,or_false] at tier
  change 0<tierRank stored.vector.residency
  rcases tier with tier | tier | tier | tier <;> rw [tier] <;> decide

theorem writeBack_renews (short : hashes.length<2^63) :
    Renews now ((f.served hexSum base now 0 hashes).map (·.identity.digest hexSum)) f
      (f.writeBack hexSum (f.served hexSum base now 0 hashes)) := by
  have fits : 0+hashes.length<2^63 := by rwa [Nat.zero_add]
  have once : ((f.served hexSum base now 0 hashes).map (·.identity.digest hexSum)).Nodup :=
    served_keys_nodup _ fits
  refine ⟨once,fun key => ?_⟩
  have keys : ((f.served hexSum base now 0 hashes).map fun e =>
      (⟨e.identity.digest hexSum,e⟩ : (_ : String) × CacheEntry)).keys=
      (f.served hexSum base now 0 hashes).map (·.identity.digest hexSum) := by
    rw [List.keys,List.map_map]
    rfl
  have distinct : ((f.served hexSum base now 0 hashes).map fun e =>
      (⟨e.identity.digest hexSum,e⟩ : (_ : String) × CacheEntry)).NodupKeys := by
    rw [List.NodupKeys,keys]
    exact once
  rw [writeBack,lookup_assignAll distinct]
  split_ifs with mine
  · obtain ⟨e,mem,rfl⟩ := List.mem_map.mp mine
    obtain ⟨k,_,stored,_,serves,rfl⟩ := served_mem _ mem
    obtain ⟨_,held,ident,_⟩ := (serving_eq_some _).mp serves
    have written := (List.mem_dlookup_iff distinct).mpr (List.mem_map.mpr ⟨_,mem,rfl⟩)
    have stood : f.entries.lookup ((stored.renewed now).identity.digest hexSum)=some stored := by
      rw [← ident] at held
      exact held
    rw [Option.mem_def.mp written,stood]
    rfl
  · rw [List.dlookup_eq_none.mpr (by rwa [keys])]
    rfl

theorem prefixLookup_eq {f : CacheFabric} {base : CacheIdentity} {now : Time}
    (short : hashes.length<2^63) :
    let found := f.served hexSum base now 0 hashes
    f.prefixLookup hexSum base hashes now=(f.writeBack hexSum found,
        { matchedChunks := .ofNat found.length
          totalRequestedChunks := .ofNat hashes.length
          matchedTokens := (found.map (·.tokens)).sum
          bestTier := (found.map (·.vector.residency)).foldl selectBestTier (.other "")
          entries := found
          disposition := matchDisposition found.length hashes.length }) := by
  have fits : 0+hashes.length<2^63 := by rwa [Nat.zero_add]
  have le := served_length_le hexSum f base now 0 hashes
  have loop := matchChunks_eq hexSum base now fits f ⟨0,.ofNat hashes.length,0,.other "",[],.miss⟩
  have zero : Int64.ofNat 0=0 := rfl
  rw [foldl_extend,zero] at loop
  simp only [zero_add,List.nil_append] at loop
  generalize f.served _ _ now 0 _=found at le loop ⊢
  have matched : (0 : Int64)<.ofNat found.length ↔ 0<found.length := ofNat_pos_iff (by omega)
  have requested : (0 : Int64)<.ofNat hashes.length ↔ 0<hashes.length := ofNat_pos_iff short
  have all : Int64.ofNat found.length=.ofNat hashes.length ↔ found.length=hashes.length :=
    ⟨ofNat_injective_of_lt (by omega) short,congrArg _⟩
  unfold prefixLookup
  rw [loop]
  simp only [all,requested,matched,matchDisposition]
  split_ifs <;> first | rfl | omega

end

structure PrefixAnswer (f : CacheFabric) (base : CacheIdentity) (hashes : List String)
    (now : Time) (g : CacheFabric) (res : PrefixMatchResult) : Prop where
  longest : LongestMatch hexSum f base hashes now res.entries
  matchedChunks : res.matchedChunks=.ofNat res.entries.length
  totalRequestedChunks : res.totalRequestedChunks=.ofNat hashes.length
  matchedTokens : res.matchedTokens=(res.entries.map (·.tokens)).sum
  bestTier : if res.entries=[] then res.bestTier=.other "" else Highest res.entries res.bestTier
  disposition : res.disposition=matchDisposition res.entries.length hashes.length
  renews : Renews now (res.entries.map (·.identity.digest hexSum)) f g

theorem prefixLookup_longest (f : CacheFabric) (base : CacheIdentity) (hashes : List String)
    (now : Time) (short : hashes.length<2^63) :
    PrefixAnswer hexSum f base hashes now (f.prefixLookup hexSum base hashes now).1
      (f.prefixLookup hexSum base hashes now).2 := by
  rw [prefixLookup_eq hexSum short]
  refine ⟨served_longest hexSum,rfl,rfl,rfl,?_,rfl,writeBack_renews hexSum short⟩
  split_ifs with empty
  · simp only at empty
    simp [empty,List.map_nil,List.foldl_nil]
  · exact highest_of_ranked empty fun e mem => served_ranked hexSum mem

end CacheFabric

theorem first_chunk_matched :
    let f := (newCacheFabric.insert (fun _ => "") sampleEntry).1
    let answer := f.prefixLookup (fun _ => "") sampleEntry.identity ["h","x"] 5
    answer.2.entries=[sampleEntry.renewed 5] ∧ answer.2.disposition=.partialHit ∧
    CacheFabric.Renews 5 ["sha256:"] f answer.1 := by
  intro f answer
  have all := CacheFabric.prefixLookup_longest (fun _ => "") f sampleEntry.identity ["h","x"] 5
    (by decide)
  have found : answer.2.entries=[sampleEntry.renewed 5] := by decide
  refine ⟨found,?_,?_⟩
  · rfl
  · have renews := all.renews
    exact renews

def vastEntry (i : Int64) (ph : String) : CacheEntry :=
  {sampleEntry with identity := {sampleEntry.identity with chunkIndex := i, prefixHash := ph},
                    tokens := 4611686018427387904}

def byteCount (bs : List UInt8) : String := toString bs.length

theorem matchedTokens_wraps :
    let f := (((newCacheFabric.insert byteCount (vastEntry 0 "h")).1.insert byteCount
      (vastEntry 1 "hh")).1)
    let res := (f.prefixLookup byteCount sampleEntry.identity ["h","hh"] 5).2
    res.entries=[(vastEntry 0 "h").renewed 5,(vastEntry 1 "hh").renewed 5] ∧
    (res.entries.map (·.tokens.toInt)).sum=2^63 ∧ res.matchedTokens.toInt=-2^63 := by
  decide +kernel

end KServeLLM.KVState
