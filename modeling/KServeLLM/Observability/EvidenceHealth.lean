import Mathlib.Data.List.Chain
import KServeLLM.Framework.MapContents
import KServeLLM.Provenance.EvidenceReceipt

namespace KServeLLM.Observability

open Provenance

structure EvidenceHealthResult where
  (healthy valid : Bool := false)
  (expectedReceipts observedReceipts missingReceipts unexpectedReceipts : List GoString := [])
  (duplicateReceipts signatureFailures producerBindingFailures : List GoString := [])
  (integrityFailures sequenceGaps : List GoString := [])

structure EvidenceHealthTracker where
  expected : List GoString
  observed : List EvidenceReceipt := []
  verifier : Option ReceiptVerifier

def newEvidenceHealthTracker (expected : List GoString) (verifier : Option ReceiptVerifier) :
    Option EvidenceHealthTracker :=
  some {expected,verifier}

def recordReceipt (t : Option EvidenceHealthTracker) (receipt : EvidenceReceipt) :
    Option EvidenceHealthTracker :=
  t.map fun t => {t with observed := t.observed++[receipt]}

def appendUnique (values : List GoString) (target : GoString) : List GoString :=
  if values.contains target then values else values++[target]

namespace EvidenceHealthResult

def failureCount (r : EvidenceHealthResult) : Nat :=
  r.missingReceipts.length+r.unexpectedReceipts.length+r.duplicateReceipts.length+
    r.signatureFailures.length+r.producerBindingFailures.length+r.integrityFailures.length+
    r.sequenceGaps.length

structure Clean (r : EvidenceHealthResult) : Prop where
  unexpected : r.unexpectedReceipts=[]
  duplicate : r.duplicateReceipts=[]
  signature : r.signatureFailures=[]
  producer : r.producerBindingFailures=[]
  integrity : r.integrityFailures=[]

theorem failureCount_eq_zero (r : EvidenceHealthResult) :
    r.failureCount=0 ↔ r.Clean ∧ r.missingReceipts=[] ∧ r.sequenceGaps=[] := by
  simp only [failureCount,Nat.add_eq_zero_iff,List.length_eq_zero_iff]
  constructor
  · rintro ⟨⟨⟨⟨⟨⟨missing,unexpected⟩,duplicate⟩,signature⟩,producer⟩,integrity⟩,gaps⟩
    exact ⟨⟨unexpected,duplicate,signature,producer,integrity⟩,missing,gaps⟩
  · rintro ⟨clean,missing,gaps⟩
    exact ⟨⟨⟨⟨⟨⟨missing,clean.unexpected⟩,clean.duplicate⟩,clean.signature⟩,clean.producer⟩,
      clean.integrity⟩,gaps⟩

end EvidenceHealthResult

variable (lib : Library)

def classifyReceiptVerification (result : EvidenceHealthResult) (receiptID : GoString)
    (verifier : Option ReceiptVerifier) (receipt : EvidenceReceipt) : EvidenceHealthResult :=
  match ReceiptVerifier.verify lib verifier receipt with
  | none => result
  | some err =>
    match err.root with
    | .receiptSignature =>
      {result with signatureFailures := appendUnique result.signatureFailures receiptID}
    | .receiptProducer =>
      {result with
        producerBindingFailures := appendUnique result.producerBindingFailures receiptID}
    | _ => {result with integrityFailures := appendUnique result.integrityFailures receiptID}

def observeReceipt (expected : List GoString) (verifier : Option ReceiptVerifier)
    (state : EvidenceHealthResult×GoMap GoString Nat) (receipt : EvidenceReceipt) :
    EvidenceHealthResult×GoMap GoString Nat :=
  let result := {state.1 with observedReceipts := state.1.observedReceipts++[receipt.id]}
  let seen := bump state.2 receipt.id
  let result := classifyReceiptVerification lib result receipt.id verifier receipt
  let result :=
    if !expected.contains receipt.id && receipt.id≠[] then
      {result with unexpectedReceipts := appendUnique result.unexpectedReceipts receipt.id}
    else result
  let result :=
    if 1 < times seen receipt.id && receipt.id≠[] then
      {result with duplicateReceipts := appendUnique result.duplicateReceipts receipt.id}
    else result
  (result,seen)

def receiptGaps (expected : List GoString) :
    Nat → GoString → List EvidenceReceipt → List GoString → List GoString
  | _,_,[],gaps => gaps
  | index,previous,receipt::rest,gaps =>
    let gaps :=
      if expected[index]?≠some receipt.id ∨ receipt.sequence≠UInt64.ofNat (index+1) then
        appendUnique gaps receipt.id
      else gaps
    let gaps := if receipt.previousDigest≠previous then appendUnique gaps receipt.id else gaps
    receiptGaps expected (index+1) receipt.digest rest gaps

def findReceiptSequenceGaps (expected : List GoString) (observed : List EvidenceReceipt) :
    List GoString :=
  (expected.drop observed.length).foldl appendUnique (receiptGaps expected 0 [] observed [])

def evaluate (t : Option EvidenceHealthTracker) : EvidenceHealthResult :=
  match t with
  | none => {}
  | some t =>
    let (result,seen) := t.observed.foldl (observeReceipt lib t.expected t.verifier)
      ({expectedReceipts := t.expected},∅)
    let result := {result with
      missingReceipts := t.expected.filter fun id => times seen id=0
      sequenceGaps := findReceiptSequenceGaps t.expected t.observed}
    let valid := 0 < t.expected.length && t.verifier.isSome && result.failureCount=0
    {result with valid, healthy := valid}

inductive HealthError (ε : Type) where
  | own (e : Errorf)
  | given (e : ε)
  deriving DecidableEq

structure EvidenceHealthMonitor (ε : Type) where
  failure : Option (HealthError ε) := none

namespace EvidenceHealthMonitor

variable {ε : Type}

def recordFailure (m : Option (EvidenceHealthMonitor ε)) (err : Option (HealthError ε)) :
    Option (EvidenceHealthMonitor ε) :=
  m.map fun m => {m with failure := m.failure.or err}

def observationFailure (result : EvidenceHealthResult) : HealthError ε :=
  let failures := if result.failureCount=0 then 1 else result.failureCount
  .own ⟨"evidence receipt verification failed (%d failures)",[.int failures]⟩

def observe (m : Option (EvidenceHealthMonitor ε)) (result : EvidenceHealthResult) :
    Option (EvidenceHealthMonitor ε) :=
  if result.healthy then m else recordFailure m (some (observationFailure result))

def check (m : Option (EvidenceHealthMonitor ε)) : Option (HealthError ε) :=
  match m with
  | none => some (.own ⟨"evidence health monitor is unavailable",[]⟩)
  | some m => m.failure

inductive Call (ε : Type) where
  | observe (result : EvidenceHealthResult)
  | recordFailure (err : Option ε)

def step (m : Option (EvidenceHealthMonitor ε)) : Call ε → Option (EvidenceHealthMonitor ε)
  | .observe result => observe m result
  | .recordFailure err => recordFailure m (err.map .given)

end EvidenceHealthMonitor

theorem appendUnique_ne_nil {values : List GoString} {target : GoString} :
    appendUnique values target≠[] := by
  unfold appendUnique
  split
  · rename_i present
    rintro rfl
    simp at present
  · simp

theorem foldl_appendUnique_nil (targets values : List GoString) :
    targets.foldl appendUnique values=[] ↔ values=[] ∧ targets=[] := by
  induction targets generalizing values with
  | nil => simp
  | cons target rest ih => simp [ih,appendUnique_ne_nil]

theorem classify_clean (result : EvidenceHealthResult) (receiptID : GoString)
    (verifier : Option ReceiptVerifier) (receipt : EvidenceReceipt) :
    (classifyReceiptVerification lib result receiptID verifier receipt).Clean ↔
      result.Clean ∧ ReceiptVerifier.verify lib verifier receipt=none := by
  unfold classifyReceiptVerification
  cases outcome : ReceiptVerifier.verify lib _ _ with
  | none => simp
  | some err =>
    simp only [reduceCtorEq,and_false,iff_false]
    cases err.root with
    | receiptSignature => exact fun clean => appendUnique_ne_nil clean.signature
    | receiptProducer => exact fun clean => appendUnique_ne_nil clean.producer
    | receiptShape => exact fun clean => appendUnique_ne_nil clean.integrity
    | receiptDigest => exact fun clean => appendUnique_ne_nil clean.integrity
    | marshal => exact fun clean => appendUnique_ne_nil clean.integrity

theorem clean_unexpected (result : EvidenceHealthResult) (id : GoString) (b : Bool) : (if b then
      {result with unexpectedReceipts := appendUnique result.unexpectedReceipts id}
    else result).Clean ↔ result.Clean ∧ b=false := by
  cases b with
  | false => simp
  | true => simpa using fun clean : EvidenceHealthResult.Clean _ =>
      appendUnique_ne_nil clean.unexpected

theorem clean_duplicate (result : EvidenceHealthResult) (id : GoString) (b : Bool) : (if b then
      {result with duplicateReceipts := appendUnique result.duplicateReceipts id}
    else result).Clean ↔ result.Clean ∧ b=false := by
  cases b with
  | false => simp
  | true => simpa using fun clean : EvidenceHealthResult.Clean _ =>
      appendUnique_ne_nil clean.duplicate

variable {state : EvidenceHealthResult×GoMap GoString Nat} {ids : List GoString}
  (expected : List GoString) {verifier : Option ReceiptVerifier}

theorem observeReceipt_clean (counts : Counts state.2 ids) (receipt : EvidenceReceipt) :
    (observeReceipt lib expected verifier state receipt).1.Clean ↔
      state.1.Clean ∧ ReceiptVerifier.verify lib verifier receipt=none ∧
        receipt.id∈expected ∧ receipt.id∉ids := by
  have base : ({state.1 with observedReceipts := state.1.observedReceipts++[receipt.id]}).Clean ↔
    state.1.Clean :=
    ⟨fun h => ⟨h.1,h.2,h.3,h.4,h.5⟩,fun h => ⟨h.1,h.2,h.3,h.4,h.5⟩⟩
  have again : times (bump state.2 receipt.id) receipt.id=ids.count receipt.id+1 := by
    rw [times_bump,if_pos rfl,counts]
  unfold observeReceipt
  dsimp only
  rw [again,clean_duplicate,clean_unexpected,classify_clean,base]
  constructor
  · rintro ⟨⟨⟨clean,verified⟩,unexpected⟩,duplicate⟩
    have named := (named_of_verified lib verified).1
    refine ⟨clean,verified,?_,?_⟩
    · simpa [named] using unexpected
    · simpa [named] using duplicate
  · rintro ⟨clean,verified,known,fresh⟩
    simp [clean,verified,known,List.count_eq_zero.mpr fresh]

theorem observeReceipt_counts (verifier : Option ReceiptVerifier)
    (counts : Counts state.2 ids) (receipt : EvidenceReceipt) :
    Counts (observeReceipt lib expected verifier state receipt).2 (receipt.id::ids) :=
  counts_bump counts

theorem observed_counts (verifier : Option ReceiptVerifier)
    (observed : List EvidenceReceipt) (counts : Counts state.2 ids) :
    Counts (observed.foldl (observeReceipt lib expected verifier) state).2
      ((observed.map (·.id)).reverse++ids) := by
  induction observed generalizing state ids with
  | nil => simpa using counts
  | cons receipt rest ih =>
    have after := ih (observeReceipt_counts lib expected verifier counts receipt)
    simpa using after

variable {observed : List EvidenceReceipt}

theorem observed_clean (counts : Counts state.2 ids) :
    (observed.foldl (observeReceipt lib expected verifier) state).1.Clean ↔
      state.1.Clean ∧ (∀ receipt∈observed,ReceiptVerifier.verify lib verifier receipt=none ∧
        receipt.id∈expected ∧ receipt.id∉ids) ∧ (observed.map (·.id)).Nodup := by
  induction observed generalizing state ids with
  | nil => simp
  | cons receipt rest ih =>
    rw [List.foldl_cons,ih (observeReceipt_counts lib _ _ counts _),
      observeReceipt_clean lib _ counts]
    simp only [List.mem_cons,forall_eq_or_imp,not_or,List.map_cons,List.nodup_cons,List.mem_map,
      not_exists,not_and]
    constructor
    · rintro ⟨⟨clean,here⟩,later,distinct⟩
      refine ⟨clean,⟨here,fun other mem => ?_⟩,fun other mem => ?_,distinct⟩
      · exact ⟨(later _ mem).1,(later _ mem).2.1,(later _ mem).2.2.2⟩
      · exact (later _ mem).2.2.1
    · rintro ⟨clean,⟨here,later⟩,apart,distinct⟩
      refine ⟨⟨clean,here⟩,fun other mem => ?_,distinct⟩
      exact ⟨(later _ mem).1,(later _ mem).2.1,apart _ mem,(later _ mem).2.2⟩

theorem noted_nil (gaps : List GoString) (id : GoString) (P : Prop) [Decidable P] :
    (if P then appendUnique gaps id else gaps)=[] ↔ gaps=[] ∧ ¬P := by
  by_cases h : P <;> simp [h,appendUnique_ne_nil]

theorem receiptGaps_nil (observed : List EvidenceReceipt) (index : Nat)
    (previous : GoString) (gaps : List GoString) :
    receiptGaps expected index previous observed gaps=[] ↔ gaps=[] ∧
      (∀ i receipt,observed[i]?=some receipt → expected[index+i]?=some receipt.id ∧
        receipt.sequence=UInt64.ofNat (index+i+1)) ∧
      (∀ receipt∈observed.head?,receipt.previousDigest=previous) ∧
      observed.IsChain fun before after => after.previousDigest=before.digest := by
  induction observed generalizing index previous gaps with
  | nil => simp [receiptGaps]
  | cons receipt rest ih =>
    have shift : ∀ i : Nat,index+1+i=index+(i+1) := fun i => by omega
    simp only [receiptGaps,ih,noted_nil,List.isChain_cons,shift]
    constructor
    · rintro ⟨⟨⟨none,here⟩,linked⟩,later,next,chain⟩
      refine ⟨none,fun i other mem => ?_,by simpa using linked,next,chain⟩
      cases i with
      | zero =>
        obtain rfl : receipt=other := by simpa using mem
        simpa using here
      | succ i => exact later i _ (by simpa using mem)
    · rintro ⟨none,all,first,next,chain⟩
      refine ⟨⟨⟨none,?_⟩,?_⟩,fun i other mem => all _ _ (by simpa using mem),next,chain⟩
      · simpa using all 0 _ rfl
      · simpa using first

theorem findReceiptSequenceGaps_nil (observed : List EvidenceReceipt) :
    findReceiptSequenceGaps expected observed=[] ↔ observed.map (·.id)=expected ∧
      (∀ i receipt,observed[i]?=some receipt → receipt.sequence=UInt64.ofNat (i+1)) ∧
      (∀ receipt∈observed.head?,receipt.previousDigest=[]) ∧
      observed.IsChain fun before after => after.previousDigest=before.digest := by
  unfold findReceiptSequenceGaps
  rw [foldl_appendUnique_nil,receiptGaps_nil,List.drop_eq_nil_iff]
  simp only [Nat.zero_add,true_and]
  constructor
  · rintro ⟨⟨places,first,chain⟩,short⟩
    refine ⟨?_,fun i receipt mem => (places i _ mem).2,first,chain⟩
    apply List.ext_getElem?
    intro i
    rw [List.getElem?_map]
    cases at_i : observed[i]? with
    | some receipt => exact (places i _ at_i).1.symm
    | none =>
      have past := List.getElem?_eq_none_iff.mp at_i
      exact (List.getElem?_eq_none (short.trans past)).symm
  · rintro ⟨rfl,numbered,first,chain⟩
    refine ⟨⟨fun i receipt mem => ⟨?_,numbered i _ mem⟩,first,chain⟩,by simp⟩
    rw [List.getElem?_map,mem]
    rfl

structure Accountable (expected : List GoString) (verifier : Option ReceiptVerifier)
    (observed : List EvidenceReceipt) : Prop where
  trusted : verifier≠none
  expecting : expected≠[]
  distinct : expected.Nodup
  inOrder : observed.map (·.id)=expected
  numbered : ∀ i receipt,observed[i]?=some receipt → receipt.sequence.toNat=i+1
  first : ∀ receipt∈observed.head?,receipt.previousDigest=[]
  chained : observed.IsChain fun before after => after.previousDigest=before.digest
  verified : ∀ receipt∈observed,ReceiptVerifier.verify lib verifier receipt=none

theorem numbered_iff (positive : ∀ receipt∈observed,receipt.sequence≠0) :
    (∀ i receipt,observed[i]?=some receipt → receipt.sequence=UInt64.ofNat (i+1)) ↔
      ∀ i receipt,observed[i]?=some receipt → receipt.sequence.toNat=i+1 := by
  constructor
  · intro wrapped i receipt mem
    have below : i+1 < 2^64 := by
      by_contra _
      have inside : 2^64-1 < observed.length := by
        have := (List.getElem?_eq_some_iff.mp mem).1
        omega
      have zero := wrapped _ observed[2^64-1] (List.getElem?_eq_getElem _)
      exact positive _ (List.getElem_mem _) zero
    rw [wrapped i _ mem,UInt64.toNat_ofNat_of_lt' below]
  · intro exactly i receipt mem
    rw [← exactly i _ mem,UInt64.ofNat_toNat]

theorem recorded (verifier : Option ReceiptVerifier) (receipts : List EvidenceReceipt) :
    receipts.foldl recordReceipt (newEvidenceHealthTracker expected verifier)=
      some ⟨expected,receipts,verifier⟩ := by
  have general : ∀ observed,receipts.foldl recordReceipt (some ⟨expected,observed,verifier⟩)=
      some ⟨expected,observed++receipts,verifier⟩ := by
    induction receipts with
    | nil => simp
    | cons receipt rest ih =>
      intro observed
      simp [recordReceipt,ih]
  exact general []

def looped (expected : List GoString) (verifier : Option ReceiptVerifier)
    (observed : List EvidenceReceipt) : EvidenceHealthResult×GoMap GoString Nat :=
  observed.foldl (observeReceipt lib expected verifier) ({expectedReceipts := expected},∅)

theorem looped_clean (verifier : Option ReceiptVerifier) (observed : List EvidenceReceipt) :
    (looped lib expected verifier observed).1.Clean ↔
      (∀ receipt∈observed,ReceiptVerifier.verify lib verifier receipt=none ∧
        receipt.id∈expected) ∧ (observed.map (·.id)).Nodup := by
  have start : Counts (({expectedReceipts := expected},∅) :
      EvidenceHealthResult×GoMap GoString Nat).2 [] := counts_empty
  unfold looped
  rw [observed_clean lib _ start]
  have clean : EvidenceHealthResult.Clean {expectedReceipts := expected} := ⟨rfl,rfl,rfl,rfl,rfl⟩
  simp [clean]

theorem looped_counts (verifier : Option ReceiptVerifier)
    (observed : List EvidenceReceipt) (id : GoString) :
    times (looped lib expected verifier observed).2 id=(observed.map (·.id)).count id := by
  have start : Counts (({expectedReceipts := expected},∅) :
      EvidenceHealthResult×GoMap GoString Nat).2 [] := counts_empty
  have counts := observed_counts lib expected verifier observed start id
  simpa [looped] using counts

theorem evaluate_healthy (verifier : Option ReceiptVerifier) (observed : List EvidenceReceipt) :
    (evaluate lib (some ⟨expected,observed,verifier⟩)).healthy ↔ expected≠[] ∧ verifier≠none ∧
      (looped lib expected verifier observed).1.Clean ∧
      (∀ id∈expected,id∈observed.map (·.id)) ∧ findReceiptSequenceGaps expected observed=[] := by
  have result : (evaluate lib (some ⟨expected,observed,verifier⟩)).healthy=
      (0 < expected.length && verifier.isSome && ({(looped lib expected verifier observed).1 with
          missingReceipts := expected.filter fun id =>
            times (looped lib expected verifier observed).2 id=0
          sequenceGaps := findReceiptSequenceGaps expected observed}).failureCount=0) := rfl
  rw [result]
  simp only [Bool.and_eq_true,decide_eq_true_eq,List.length_pos_iff,Option.isSome_iff_ne_none,
    EvidenceHealthResult.failureCount_eq_zero,List.filter_eq_nil_iff,looped_counts,
    List.count_eq_zero,not_not,and_assoc]
  refine and_congr_right fun _ => and_congr_right fun _ => and_congr_left fun _ => ?_
  exact ⟨fun h => ⟨h.1,h.2,h.3,h.4,h.5⟩,fun h => ⟨h.1,h.2,h.3,h.4,h.5⟩⟩

theorem healthy_iff_accountable : (evaluate lib (some ⟨expected,observed,verifier⟩)).healthy ↔
      Accountable lib expected verifier observed := by
  rw [evaluate_healthy,looped_clean,findReceiptSequenceGaps_nil]
  constructor
  · rintro ⟨expecting,trusted,⟨good,distinct⟩,_,inOrder,wrapped,first,chained⟩
    have verified := fun receipt mem => (good receipt mem).1
    have positive := fun receipt mem => (named_of_verified lib (verified receipt mem)).2
    exact ⟨trusted,expecting,inOrder ▸ distinct,inOrder,(numbered_iff positive).mp wrapped,first,
      chained,verified⟩
  · rintro ⟨trusted,expecting,distinct,rfl,numbered,first,chained,verified⟩
    have positive := fun receipt mem => (named_of_verified lib (verified receipt mem)).2
    refine ⟨expecting,trusted,⟨fun receipt mem => ?_,distinct⟩,fun _ mem => mem,rfl,
      (numbered_iff positive).mpr numbered,first,chained⟩
    exact ⟨verified _ mem,List.mem_map_of_mem mem⟩

namespace EvidenceHealthMonitor

variable {ε : Type} {m : Option (EvidenceHealthMonitor ε)} {err : HealthError ε}

theorem check_step (failed : check m=some err) {call : Call ε} : check (step m call)=some err := by
  have kept : ∀ other,check (recordFailure m other)=some err := by
    intro other
    cases m with
    | none => exact failed
    | some m =>
      change m.failure=some err at failed
      simp [recordFailure,check,failed]
  cases call with
  | observe result =>
    change check (observe m result)=some err
    unfold observe
    split
    · exact failed
    · exact kept _
  | recordFailure other => exact kept _

theorem check_run
    (failed : check m=some err) {calls : List (Call ε)} : check (calls.foldl step m)=some err := by
  induction calls generalizing m with
  | nil => exact failed
  | cons call rest ih => exact ih (check_step failed)

theorem check_observe {result : EvidenceHealthResult} (unhealthy : result.healthy=false) :
    check (observe m result)=some ((check m).getD (observationFailure result)) := by
  cases m with
  | none => simp [observe,recordFailure,check]
  | some m => cases failure : m.failure <;> simp [observe,unhealthy,recordFailure,check]

end EvidenceHealthMonitor

theorem health_accounts {ε : Type} (expected : List GoString)
    (verifier : Option ReceiptVerifier) (receipts : List EvidenceReceipt) :
    ((evaluate lib (receipts.foldl recordReceipt
        (newEvidenceHealthTracker expected verifier))).healthy ↔
      Accountable lib expected verifier receipts) ∧
    ∀ (m : Option (EvidenceHealthMonitor ε)) (before after : List (EvidenceHealthMonitor.Call ε))
        (result : EvidenceHealthResult),result.healthy=false →
      EvidenceHealthMonitor.check
          ((before++.observe result::after).foldl EvidenceHealthMonitor.step m)=
        some ((EvidenceHealthMonitor.check (before.foldl EvidenceHealthMonitor.step m)).getD
          (EvidenceHealthMonitor.observationFailure result)) := by
  constructor
  · rw [recorded]
    exact healthy_iff_accountable lib expected
  · intro m before after result unhealthy
    rw [List.foldl_append]
    exact EvidenceHealthMonitor.check_run (EvidenceHealthMonitor.check_observe unhealthy)

def lenient : Library where
  spiffeID := fun _ => true
  utcTime := fun _ => true
  marshal := fun _ => some []
  hexSum := fun _ => List.replicate 64 '0'
  decodeBase64 := fun _ => some (List.replicate 64 0)
  ed25519Verify := fun _ _ _ => true

def zeroDigest : GoString := "sha256:".toList++List.replicate 64 '0'

def startReceipt : EvidenceReceipt where
  schema := evidenceReceiptSchemaV1
  id := "start".toList
  subjectDigest := zeroDigest
  producer := ⟨"spiffe://ckodex/gateway".toList,zeroDigest⟩
  sequence := 1
  previousDigest := []
  producedAt := "2026-01-01T00:00:00Z".toList
  digest := zeroDigest
  signature := "AAAA".toList

def gatewayTrust : Option ReceiptVerifier :=
  some ⟨(∅ : GoMap GoString (List UInt8)).insert "spiffe://ckodex/gateway".toList []⟩

theorem lone_receipt_accounted : Accountable lenient ["start".toList] gatewayTrust [startReceipt] ∧
      EvidenceHealthMonitor.check ((([.observe {}] :
        List (EvidenceHealthMonitor.Call Unit)).foldl EvidenceHealthMonitor.step (some {})))=
        some (.own ⟨"evidence receipt verification failed (%d failures)",[.int 1]⟩) :=
  ⟨(health_accounts (ε := Unit) lenient ["start".toList] gatewayTrust [startReceipt]).1.mp
      (by decide +kernel),
    (health_accounts lenient [] none []).2 (some {}) [] [] {} rfl⟩

end KServeLLM.Observability
