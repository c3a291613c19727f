import KServeLLM.Controller.Objects
import KServeLLM.Controller.SessionReconciler
import KServeLLM.Initializer.Provenance
import KServeLLM.Kernel.CacheFabric
import KServeLLM.Storage.OciUri

namespace KServeLLM.Controller.Lora

open Initializer (RuntimeVerificationRecord)

structure Library where
  isPrint : Char → Bool
  parseRecord : String → Except String RuntimeVerificationRecord
  parseTime : String → Option Time
  sha : Sha256

structure ConformanceResult where
  valid : Bool
  (reason message : String := "")

def hasAssertedSupplyChainEvidence (lora : LLMLoraAdapter) : Bool :=
  lora.status.evidenceBundle.signatureDigest≠"" && lora.status.evidenceBundle.attestationURI≠"" &&
    lora.status.evidenceBundle.sbomDigest≠""

def evidValidator (lora : LLMLoraAdapter) : ConformanceResult :=
  if !hasAssertedSupplyChainEvidence lora then
    ⟨false,"IncompleteEvidence","Evidence bundle is incomplete: signature digest, "++
      "attestation URI, and SBOM digest are all required"⟩
  else {valid := true}

def sbomValidator (lora : LLMLoraAdapter) : ConformanceResult :=
  if !hasAssertedSupplyChainEvidence lora then
    ⟨false,"MissingSBOM","No CycloneDX SBOM digest found in a complete evidence bundle"⟩
  else {valid := true}

def compValidator (lib : Library) (lora : LLMLoraAdapter) : ConformanceResult :=
  match lora.adapterName.toList.find? fun ch => KVState.isSpace ch || !lib.isPrint ch with
  | some ch =>
    ⟨false,"InvalidAdapterName","adapter name "++lora.adapterName.quote++" contains character "++
      ch.toString.quote++" that is invalid as a vLLM routing key; use lowercase alphanumeric "++
      "characters, hyphens, or underscores only"⟩
  | none => {valid := true}

def safeValidator (lora : LLMLoraAdapter) : ConformanceResult :=
  match lora.behavior with
  | none => {valid := true}
  | some behavior =>
    if behavior.safety < 5 then
      ⟨false,"SafetyViolation","Adapter safety score is below the mandatory threshold of 5"⟩
    else {valid := true}

def trustScores (level : String) : Int :=
  ([("unknown",0),("asserted",1),("verified",2),("trusted",3),("denied",-1)].lookup level).getD 0

def minTrustLevel (lora : LLMLoraAdapter) : String :=
  (lora.policyEnvelope.map (·.minTrustLevel)).getD ""

def actualTrust (lora : LLMLoraAdapter) : String :=
  if lora.planes.trust="" then "unknown" else lora.planes.trust

def policyValidator (lora : LLMLoraAdapter) : ConformanceResult :=
  if minTrustLevel lora="" then {valid := true}
  else if trustScores (actualTrust lora) < trustScores (minTrustLevel lora) then
    ⟨false,"PolicyBlocked","Adapter trust level '"++actualTrust lora++
      "' is insufficient for required policy level '"++minTrustLevel lora++"'"⟩
  else {valid := true}

def defaultEngine (lib : Library) : List (LLMLoraAdapter → ConformanceResult) :=
  [evidValidator,sbomValidator,compValidator lib,safeValidator,policyValidator]

def check (lib : Library) (lora : LLMLoraAdapter) : Bool×String :=
  match ((defaultEngine lib).map fun v => v lora).find? fun res => !res.valid with
  | some res => (false,"["++res.reason++"] "++res.message)
  | none => (true,"All conformance vectors passed")

def transitionStates (lora : LLMLoraAdapter) (valid : Bool) (now : Time) : LLMLoraAdapter :=
  let planes := lora.planes
  let planes :=
    if !valid then
      {planes with lifecycle := "quarantined", risk := "quarantined", trust := "denied"}
    else if planes.trust="verified" ∨ planes.trust="trusted" then
      {planes with lifecycle := "active", risk := "normal"}
    else {planes with lifecycle := "active", risk := "normal", trust := "asserted"}
  {lora with status := {lora.status with
    statePlanes := planes
    evidenceBundle := {lora.status.evidenceBundle with lastVerifiedAt := some now}}}

section

variable {Selector : Type}

structure JobContainer where
  name : String
  terminated : Option String

structure JobPod where
  name : String
  containers : List JobContainer

def warmupMessage (pods : List JobPod) : Option (JobPod×String) :=
  (pods.flatMap fun pod => pod.containers.map fun c => (pod,c)).findSome? fun (pod,c) =>
    match c.terminated with
    | none => none
    | some message =>
      if c.name≠"warmup" || KVState.blank message then none else some (pod,message)

def readJobVerificationRecord (lib : Library) (pods : Except ApiError (List JobPod)) :
    Except String (Option RuntimeVerificationRecord) :=
  match pods with
  | .error err => .error err.text
  | .ok pods =>
    match warmupMessage pods with
    | none => .ok none
    | some (pod,message) =>
      match lib.parseRecord message with
      | .error err =>
        .error ("parse warmup verification record from pod "++pod.name++": "++err)
      | .ok record => .ok (some record)

def latestRecord (lib : Library) (jobs : String → String → Except ApiError (List JobPod))
    (ns : String) : List NodeCacheStatus → Option RuntimeVerificationRecord →
      Except String (Option RuntimeVerificationRecord)
  | [],latest => .ok latest
  | node::nodes,_ =>
    if node.phase≠"Ready" then .ok none
    else
      match readJobVerificationRecord lib
          (jobs ns (warmupJobName lib.sha node.modelURIHash node.nodeName)) with
      | .error err => .error err
      | .ok none => .ok none
      | .ok (some record) =>
        if !record.verified then .ok none else latestRecord lib jobs ns nodes (some record)

def hydrateVerificationEvidence (lib : Library)
    (jobs : String → String → Except ApiError (List JobPod)) (now : Time)
    (lora : LLMLoraAdapter) (cache : LocalModelCache Selector) :
    Except String (Option LLMLoraAdapter) :=
  if !Storage.hasOCIScheme lora.modelURI.toList || cache.status.nodeStatuses.isEmpty then .ok none
  else
    match latestRecord lib jobs (cacheWorkloadNamespace cache) cache.status.nodeStatuses none with
    | .error err => .error err
    | .ok none => .ok none
    | .ok (some record) =>
      .ok (some {lora with status := {lora.status with
        statePlanes := {lora.status.statePlanes with trust := "verified"}
        evidenceBundle := ⟨record.attestationURI,record.signatureDigest,record.sbomDigest,
          some ((lib.parseTime record.verifiedAt).getD now)⟩}})

end

section

variable {Selector : Type}

inductive Write where
  | initialise | finalizer | progressing | hydration | quarantine | activation

structure Round (Selector : Type) where
  cache : Option (LocalModelCache Selector)
  jobs : String → String → Except ApiError (List JobPod)
  refuses : Write → Option ApiError
  now : Time

structure Answer where
  checked : Option LLMLoraAdapter
  error : Option String

def initialised (lora : LLMLoraAdapter) : LLMLoraAdapter :=
  {lora with status := {lora.status with statePlanes :=
    {lora.status.statePlanes with lifecycle := "proposed", trust := "unknown", risk := "normal"}}}

def withFinalizer (lora : LLMLoraAdapter) : LLMLoraAdapter :=
  {lora with finalizers := lora.finalizers++[loraFinalizer]}

def withProgressing (lora : LLMLoraAdapter) : LLMLoraAdapter :=
  {lora with status := {lora.status with conditions := lora.status.conditions++
    [⟨"Progressing","True","Reconciling","LoRA hot-swap reconciliation started",0⟩]}}

def written (refusal : Option ApiError) (before after : LLMLoraAdapter)
    (checked : Option LLMLoraAdapter) (next : LLMLoraAdapter → LLMLoraAdapter×Answer) :
    LLMLoraAdapter×Answer :=
  match refusal with
  | some err => (before,⟨checked,some err.text⟩)
  | none => next after

def initializeLoraState (round : Round Selector) (lora : LLMLoraAdapter)
    (next : LLMLoraAdapter → LLMLoraAdapter×Answer) : LLMLoraAdapter×Answer :=
  if lora.planes.lifecycle≠"" then next lora
  else written (round.refuses .initialise) lora (initialised lora) none next

def ensureLoraFinalizer (round : Round Selector) (lora : LLMLoraAdapter)
    (next : LLMLoraAdapter → LLMLoraAdapter×Answer) : LLMLoraAdapter×Answer :=
  if loraFinalizer∈lora.finalizers then next lora
  else written (round.refuses .finalizer) lora (withFinalizer lora) none next

def ensureProgressingCondition (round : Round Selector) (lora : LLMLoraAdapter)
    (next : LLMLoraAdapter → LLMLoraAdapter×Answer) : LLMLoraAdapter×Answer :=
  if lora.status.conditions.any fun c => c.type="Progressing" || c.type="Ready" then next lora
  else written (round.refuses .progressing) lora (withProgressing lora) none next

def prepareLora (round : Round Selector) (lora : LLMLoraAdapter)
    (next : LLMLoraAdapter → LLMLoraAdapter×Answer) : LLMLoraAdapter×Answer :=
  initializeLoraState round lora fun lora =>
    if lora.planes.lifecycle="quarantined" then (lora,⟨none,none⟩)
    else ensureLoraFinalizer round lora fun lora => ensureProgressingCondition round lora next

def govern (lib : Library) (round : Round Selector) (lora : LLMLoraAdapter) :
    LLMLoraAdapter×Answer :=
  if !(check lib lora).1 then
    written (round.refuses .quarantine) lora (transitionStates lora false round.now) (some lora)
      fun after => (after,⟨some lora,none⟩)
  else if lora.planes.lifecycle≠"active" then
    written (round.refuses .activation) lora (transitionStates lora true round.now) (some lora)
      fun after => (after,⟨some lora,none⟩)
  else (lora,⟨some lora,none⟩)

def hydrateAndGovernLora (lib : Library) (round : Round Selector) (lora : LLMLoraAdapter)
    (cache : LocalModelCache Selector) : LLMLoraAdapter×Answer :=
  match hydrateVerificationEvidence lib round.jobs round.now lora cache with
  | .error _ => govern lib round lora
  | .ok none => govern lib round lora
  | .ok (some hydrated) =>
    written (round.refuses .hydration) lora hydrated none fun lora => govern lib round lora

def reconcile (lib : Library) (lora : LLMLoraAdapter) (round : Round Selector) :
    LLMLoraAdapter×Answer :=
  prepareLora round lora fun lora =>
    match round.cache with
    | none => (lora,⟨none,none⟩)
    | some cache => hydrateAndGovernLora lib round lora cache

end

variable {Selector : Type} (lib : Library)

def initialPlanes (planes : Api.StatePlanes) : Api.StatePlanes :=
  if planes.lifecycle≠"" then planes
  else {planes with lifecycle := "proposed", trust := "unknown", risk := "normal"}

variable {next : LLMLoraAdapter → LLMLoraAdapter×Answer} {Q : LLMLoraAdapter×Answer → Prop}

theorem written_elim {refusal : Option ApiError} {before after : LLMLoraAdapter}
    {checked : Option LLMLoraAdapter} (refused : ∀err,Q (before,⟨checked,some err⟩))
    (ok : Q (next after)) : Q (written refusal before after checked next) := by
  cases refusal with
  | some err => exact refused err.text
  | none => exact ok

variable {round : Round Selector} {lora : LLMLoraAdapter}

theorem prepareLora_elim
    (stopped : ∀after err,after.planes=lora.planes ∨ after.planes=initialPlanes lora.planes →
      Q (after,⟨none,err⟩))
    (through : ∀after,after.planes=initialPlanes lora.planes → Q (next after)) :
    Q (prepareLora round lora next) := by
  have rest l (planes : l.planes=initialPlanes lora.planes) :
      Q (if l.planes.lifecycle="quarantined" then (l,⟨none,none⟩)
        else ensureLoraFinalizer round l fun l => ensureProgressingCondition round l next) := by
    have progressing l (planes : l.planes=initialPlanes lora.planes) :
        Q (ensureProgressingCondition round l next) := by
      unfold ensureProgressingCondition
      split
      · exact through l planes
      · exact written_elim (fun err => stopped l _ (.inr planes)) (through _ planes)
    split
    · exact stopped l _ (.inr planes)
    · unfold ensureLoraFinalizer
      split
      · exact progressing l planes
      · exact written_elim (fun err => stopped l _ (.inr planes)) (progressing _ planes)
  unfold prepareLora initializeLoraState
  split
  · rename_i named
    exact rest lora (if_pos named).symm
  · rename_i unnamed
    exact written_elim (fun err => stopped lora _ (.inl rfl)) (rest _ (if_neg unnamed).symm)

variable {now : Time}

theorem hydrated_planes {jobs : String → String → Except ApiError (List JobPod)}
    {hydrated : LLMLoraAdapter} {cache : LocalModelCache Selector}
    (h : hydrateVerificationEvidence lib jobs now lora cache=.ok (some hydrated)) :
    hydrated.planes={lora.planes with trust := "verified"} := by
  unfold hydrateVerificationEvidence at h
  split at h
  · cases h
  · split at h
    · cases h
    · cases h
    · cases h
      rfl

inductive Effect (s : LLMLoraAdapter) (now : Time) : LLMLoraAdapter → Answer → Prop
  | unchecked {t err} (planes : t.planes=s.planes ∨ t.planes=initialPlanes s.planes) :
      Effect s now t ⟨none,err⟩
  | checked {l t err} (lifecycle : l.planes.lifecycle=(initialPlanes s.planes).lifecycle)
      (trust : l.planes.trust=(initialPlanes s.planes).trust ∨ l.planes.trust="verified")
      (kept : t=l ∨ t=transitionStates l (check lib l).1 now)
      (active : (check lib l).1=true → err=none → t.planes.lifecycle="active") :
      Effect s now t ⟨some l,err⟩

theorem active_transition {l : LLMLoraAdapter} :
    (transitionStates l true now).planes.lifecycle="active" := by
  by_cases high : l.planes.trust="verified" ∨ l.planes.trust="trusted"
  · exact congrArg Api.StatePlanes.lifecycle (if_pos high)
  · exact congrArg Api.StatePlanes.lifecycle (if_neg high)

theorem trust_transition (l : LLMLoraAdapter) (now : Time) :
    (transitionStates l true now).planes.trust=
      if l.planes.trust="verified" ∨ l.planes.trust="trusted" then l.planes.trust
      else "asserted" :=
  apply_ite Api.StatePlanes.trust _ _ _

theorem govern_effect {s l : LLMLoraAdapter}
    (lifecycle : l.planes.lifecycle=(initialPlanes s.planes).lifecycle)
    (trust : l.planes.trust=(initialPlanes s.planes).trust ∨ l.planes.trust="verified") :
    Effect lib s round.now (govern lib round l).1 (govern lib round l).2 := by
  unfold govern
  cases verdict : (check lib l).1 with
  | false =>
    rw [Bool.not_false,if_pos rfl]
    refine written_elim (Q := fun r => Effect lib s round.now r.1 r.2) (fun err => ?_) ?_
    · exact .checked lifecycle trust (.inl rfl) (by simp)
    · exact .checked lifecycle trust (.inr (by rw [verdict])) (by simp [verdict])
  | true =>
    simp only [Bool.not_true,Bool.false_eq_true,if_false]
    split
    · refine written_elim (Q := fun r => Effect lib s round.now r.1 r.2) (fun err => ?_) ?_
      · exact .checked lifecycle trust (.inl rfl) (by simp)
      · exact .checked lifecycle trust (.inr (by rw [verdict]))
          fun _ _ => active_transition
    · rename_i already
      exact .checked lifecycle trust (.inl rfl) fun _ _ => not_not.mp already

theorem reconcile_effect (s : LLMLoraAdapter) (round : Round Selector) :
    Effect lib s round.now (reconcile lib s round).1 (reconcile lib s round).2 := by
  refine prepareLora_elim (Q := fun r => Effect lib s round.now r.1 r.2)
    (fun _ _ planes => .unchecked planes) fun l planes => ?_
  have plain : Effect lib s round.now (govern lib round l).1 (govern lib round l).2 :=
    govern_effect lib (by rw [planes]) (.inl (by rw [planes]))
  cases round.cache with
  | none => exact .unchecked (.inr planes)
  | some cache =>
    dsimp only [hydrateAndGovernLora]
    cases found : hydrateVerificationEvidence lib round.jobs round.now l cache with
    | error err => exact plain
    | ok result =>
      cases result with
      | none => exact plain
      | some hydrated =>
        have same := hydrated_planes lib found
        refine written_elim (Q := fun r => Effect lib s round.now r.1 r.2)
          (fun err => .unchecked (.inr planes)) (govern_effect lib ?_ (.inr ?_))
        · rw [same,planes]
        · rw [same]

def InGoodStanding (planes : Api.StatePlanes) : Prop :=
  (planes.lifecycle="" ∧ planes.trust="") ∨
    (planes.lifecycle="proposed" ∧ (planes.trust="unknown" ∨ planes.trust="verified")) ∨
    (planes.lifecycle="active" ∧ (planes.trust="asserted" ∨ planes.trust="verified"))

structure Entitled (l : LLMLoraAdapter) (now : Time) : Prop where
  evidence : (evidValidator l).valid=true
  sbom : (sbomValidator l).valid=true
  name : (compValidator lib l).valid=true
  safety : (safeValidator l).valid=true
  trust : trustScores (minTrustLevel l) ≤ trustScores (transitionStates l true now).planes.trust

instance (l : LLMLoraAdapter) (now : Time) : Decidable (Entitled lib l now) :=
  decidable_of_iff ((evidValidator l).valid=true ∧ (sbomValidator l).valid=true ∧
      (compValidator lib l).valid=true ∧ (safeValidator l).valid=true ∧
      trustScores (minTrustLevel l) ≤ trustScores (transitionStates l true now).planes.trust)
    ⟨fun ⟨a,b,c,d,e⟩ => ⟨a,b,c,d,e⟩,fun ⟨a,b,c,d,e⟩ => ⟨a,b,c,d,e⟩⟩

structure Activates (st : Step LLMLoraAdapter (Round Selector) Answer) : Prop where
  passes : ∀l∈st.answer.checked,(check lib l).1=true
  active : st.answer.checked.isSome=true → st.answer.error=none →
    st.after.planes.lifecycle="active"
  free : st.after.planes.lifecycle≠"quarantined"

theorem check_valid (l : LLMLoraAdapter) :
    (check lib l).1=true ↔ (evidValidator l).valid=true ∧ (sbomValidator l).valid=true ∧
      (compValidator lib l).valid=true ∧ (safeValidator l).valid=true ∧
      (policyValidator l).valid=true := by
  have all : (check lib l).1=true ↔
      ((defaultEngine lib).map fun v => v l).find? (fun res => !res.valid)=none := by
    unfold check
    cases ((defaultEngine lib).map fun v => v l).find? fun res => !res.valid <;> simp
  rw [all]
  simp [defaultEngine]

theorem policy_valid (l : LLMLoraAdapter) : (policyValidator l).valid=true ↔
    (minTrustLevel l="" ∨ trustScores (minTrustLevel l) ≤ trustScores (actualTrust l)) := by
  unfold policyValidator
  split
  · simp_all
  · split
    · simp_all
    · simp_all

theorem score_le_one {level : String} (low : trustScores level ≤ 1) :
    level≠"asserted" ↔ trustScores level ≤ 0 := by
  constructor
  · intro other
    by_contra _
    have one : trustScores level=1 := by omega
    unfold trustScores at one
    simp only [List.lookup_cons] at one
    iterate 5 split at one <;> simp_all
  · rintro zero rfl
    exact absurd zero (by decide)

variable {l : LLMLoraAdapter}

theorem entitled_passes_iff (entitled : Entitled lib l now)
    (standing : l.planes.trust="unknown" ∨ l.planes.trust="asserted" ∨
      l.planes.trust="verified") :
    (check lib l).1=true ↔ (l.planes.trust="unknown" → minTrustLevel l≠"asserted") := by
  have policy : (check lib l).1=true ↔ (policyValidator l).valid=true := by
    rw [check_valid]
    simp [entitled.evidence,entitled.sbom,entitled.name,entitled.safety]
  have assigned := entitled.trust
  rw [trust_transition] at assigned
  rw [policy,policy_valid,actualTrust]
  rcases standing with trust | trust | trust
  · simp only [trust] at assigned ⊢
    rw [forall_true_left,score_le_one assigned]
    constructor
    · rintro (none | low)
      · rw [none]
        decide
      · exact low
    · exact .inr
  · simp only [trust,String.reduceEq,or_self,if_false] at assigned ⊢
    simp [assigned]
  · simp only [trust,String.reduceEq,or_false,if_true] at assigned ⊢
    simp [assigned]

variable {planes : Api.StatePlanes}

theorem checked_standing (good : InGoodStanding planes)
    (lifecycle : l.planes.lifecycle=(initialPlanes planes).lifecycle)
    (trust : l.planes.trust=(initialPlanes planes).trust ∨ l.planes.trust="verified") :
    (l.planes.lifecycle="proposed" ∧ (l.planes.trust="unknown" ∨ l.planes.trust="verified")) ∨
      (l.planes.lifecycle="active" ∧
        (l.planes.trust="asserted" ∨ l.planes.trust="verified")) := by
  rcases good with ⟨empty,_⟩ | ⟨proposed,_⟩ | ⟨active,_⟩
  · have start : initialPlanes planes=
        {planes with lifecycle := "proposed", trust := "unknown", risk := "normal"} :=
      if_neg (not_not.mpr empty)
    rw [start] at lifecycle trust
    exact .inl ⟨lifecycle,trust⟩
  · have start : initialPlanes planes=planes := if_pos (by simp [proposed])
    rw [start] at lifecycle trust
    refine .inl ⟨lifecycle.trans proposed,?_⟩
    rcases trust with same | high
    · rwa [same]
    · exact .inr high
  · have start : initialPlanes planes=planes := if_pos (by simp [active])
    rw [start] at lifecycle trust
    refine .inr ⟨lifecycle.trans active,?_⟩
    rcases trust with same | high
    · rwa [same]
    · exact .inr high

theorem initialPlanes_standing (good : InGoodStanding planes) :
    InGoodStanding (initialPlanes planes) := by
  rcases good with ⟨empty,_⟩ | ⟨proposed,known⟩ | ⟨active,known⟩
  · rw [initialPlanes,if_neg (not_not.mpr empty)]
    exact .inr (.inl ⟨rfl,.inl rfl⟩)
  · rw [initialPlanes,if_pos (by simp [proposed])]
    exact .inr (.inl ⟨proposed,known⟩)
  · rw [initialPlanes,if_pos (by simp [active])]
    exact .inr (.inr ⟨active,known⟩)

theorem InGoodStanding.free (good : InGoodStanding planes) :
    planes.lifecycle≠"quarantined" := by
  rcases good with ⟨h,_⟩ | ⟨h,_⟩ | ⟨h,_⟩ <;> simp [h]

theorem activated_standing
    (standing : l.planes.trust="unknown" ∨ l.planes.trust="asserted" ∨
      l.planes.trust="verified") : InGoodStanding (transitionStates l true now).planes := by
  refine .inr (.inr ⟨active_transition,?_⟩)
  rw [trust_transition]
  rcases standing with h | h | h <;> simp [h]

def Premise (lora : LLMLoraAdapter) (round : Round Selector) : Prop :=
  ∀l∈(reconcile lib lora round).2.checked,Entitled lib l round.now

def TrustedBefore (lora : LLMLoraAdapter) (round : Round Selector) : Prop :=
  ∀l∈(reconcile lib lora round).2.checked,
    l.planes.trust="unknown" → minTrustLevel l≠"asserted"

instance (lora : LLMLoraAdapter) (round : Round Selector) : Decidable (Premise lib lora round) :=
  inferInstanceAs (Decidable (∀l∈(reconcile lib lora round).2.checked,Entitled lib l round.now))

instance (lora : LLMLoraAdapter) (round : Round Selector) :
    Decidable (TrustedBefore lib lora round) :=
  inferInstanceAs (Decidable (∀l∈(reconcile lib lora round).2.checked,
    l.planes.trust="unknown" → minTrustLevel l≠"asserted"))

theorem reconcile_activates_iff
    (good : InGoodStanding lora.planes) (premise : Premise lib lora round) :
    (Activates lib (stepOf (reconcile lib) lora round) ↔ TrustedBefore lib lora round) ∧
      (TrustedBefore lib lora round → InGoodStanding (reconcile lib lora round).1.planes) := by
  have effect := reconcile_effect lib lora round
  unfold Premise at premise
  unfold TrustedBefore
  generalize result : reconcile lib lora round=r at effect premise ⊢
  obtain ⟨t,_,err⟩ := r
  cases effect with
  | unchecked planes =>
    have still : InGoodStanding t.planes := by
      rcases planes with same | same
      · rwa [same]
      · rw [same]
        exact initialPlanes_standing good
    refine ⟨⟨fun _ => by simp,fun _ => ⟨?_,?_,?_⟩⟩,fun _ => still⟩
    · simp [stepOf,result]
    · simp [stepOf,result]
    · simpa [stepOf,result] using still.free
  | @checked l _ _ lifecycle trust kept active =>
    have entitled := premise l rfl
    have standing := checked_standing good lifecycle trust
    have known : l.planes.trust="unknown" ∨ l.planes.trust="asserted" ∨
        l.planes.trust="verified" := by
      rcases standing with ⟨_,h | h⟩ | ⟨_,h | h⟩ <;> simp [h]
    have passes := entitled_passes_iff lib entitled known
    have after (pass : (check lib l).1=true) : InGoodStanding t.planes := by
      have kept : t=l ∨ t=transitionStates l (check lib l).1 round.now := kept
      rcases kept with same | same
      · rw [same]
        exact .inr standing
      · rw [same,pass]
        exact activated_standing known
    simp only [Option.mem_def,Option.some.injEq,forall_eq']
    rw [← passes]
    refine ⟨⟨fun law => ?_,fun pass => ⟨?_,?_,?_⟩⟩,after⟩
    · exact law.passes l (by simp [stepOf,result])
    · simpa [stepOf,result] using pass
    · intro _ quiet
      have none : err=none := by simpa [stepOf,result] using quiet
      simpa [stepOf,result] using active pass none
    · simpa [stepOf,result] using (after pass).free

def sampleLibrary : Library where
  isPrint c := 32 ≤ c.toNat && c.toNat < 127
  parseRecord _ := .error "unexpected end of JSON input"
  parseTime _ := none
  sha := sampleSha256

def assertedAdapter (level : String) : LLMLoraAdapter where
  ns := "team"
  name := "sql"
  uid := "1"
  adapterName := "sql-helper"
  modelURI := "hf://org/sql"
  policyEnvelope := some ⟨[],level⟩
  status := {evidenceBundle := ⟨"attestation","sha256:1","sha256:2",none⟩}

def plainRound : Round Unit where
  cache := some {name := "lora", spec := {sourceModelURI := "hf://org/sql"}}
  jobs _ _ := .ok []
  refuses _ := none
  now := 0

end KServeLLM.Controller.Lora
