import KServeLLM.Evidence.Sealing

namespace KServeLLM.Channels

def ExecutionRecord.Active (e : ExecutionRecord) : Prop := e.state=.running ∨ e.state=.completed

def Chained (evs : List EvidenceRecord) : Prop :=
  (∀root,evs.head?=some root → root.previousDigest=[]) ∧
    evs.IsChain (fun before next => next.previousDigest=before.subjectDigest)

structure Orderly (decs : List DecisionRecord) (execs : List ExecutionRecord)
    (evs : List EvidenceRecord) : Prop where
  antiExecute : ∀d∈decs,d.disposition=.deny ∨ d.disposition=.quarantine →
    ∀e∈execs,e.Active → e.context.timestamp < d.context.timestamp
  trusted : ∀ev∈evs,ev.state=.rejected ∨ ev.state=.quarantine → ∀e∈execs,¬e.Active
  chained : Chained evs

def Preceded (decs : List DecisionRecord) (execs : List ExecutionRecord) : Prop :=
  ∀e∈execs,e.state=.completed → ∃d∈decs,d.context.timestamp ≤ e.context.timestamp

section

variable (decs : List DecisionRecord) (execs : List ExecutionRecord) (evs : List EvidenceRecord)

theorem checkAntiExecute_nil_iff : checkAntiExecute decs execs=[] ↔
    ∀d∈decs,d.disposition=.deny ∨ d.disposition=.quarantine →
      ∀e∈execs,e.Active → e.context.timestamp < d.context.timestamp := by
  rw [checkAntiExecute,List.flatMap_eq_nil_iff]
  refine forall₂_congr (fun d _ => ?_)
  by_cases forbids : d.disposition=.deny ∨ d.disposition=.quarantine
  · rw [if_pos forbids,List.flatMap_eq_nil_iff]
    simp only [forbids,true_imp_iff]
    refine forall₂_congr (fun e _ => ?_)
    have late : (e.context.timestamp.after d.context.timestamp=true ∨
        e.context.timestamp=d.context.timestamp) ↔ ¬e.context.timestamp < d.context.timestamp := by
      rw [Time.after,decide_eq_true_eq,Int.not_lt,Int.le_iff_lt_or_eq,@eq_comm]
    simp only [late,ite_eq_right_iff,List.cons_ne_nil,imp_false,not_and',not_not]
    rfl
  · simp [forbids]

theorem checkActiveUntrusted_nil_iff : checkActiveUntrusted execs evs=[] ↔
    ∀ev∈evs,ev.state=.rejected ∨ ev.state=.quarantine → ∀e∈execs,¬e.Active := by
  rw [checkActiveUntrusted,List.flatMap_eq_nil_iff]
  refine forall₂_congr (fun ev _ => ?_)
  by_cases untrusted : ev.state=.rejected ∨ ev.state=.quarantine
  · rw [if_pos untrusted,List.flatMap_eq_nil_iff]
    simp only [untrusted,true_imp_iff]
    refine forall₂_congr (fun e _ => ?_)
    rw [ite_eq_right_iff]
    simp only [List.cons_ne_nil]
    rfl
  · simp [untrusted]

theorem checkDecisionPrecedence_nil_iff : checkDecisionPrecedence decs execs=[] ↔
    ∀e∈execs,e.state=.completed → decs≠[] := by
  rw [checkDecisionPrecedence]
  simp

theorem checkLinks_nil_iff (root : EvidenceRecord) : checkLinks root.subjectDigest evs=[] ↔
    (root::evs).IsChain (fun before next => next.previousDigest=before.subjectDigest) := by
  induction evs generalizing root with
  | nil => simp [checkLinks]
  | cons ev evs ih =>
    rw [checkLinks,List.append_eq_nil_iff,ih]
    simp

theorem checkEvidenceChaining_nil_iff : checkEvidenceChaining evs=[] ↔ Chained evs := by
  cases evs with
  | nil => simp [checkEvidenceChaining,Chained]
  | cons root evs =>
    rw [checkEvidenceChaining,List.append_eq_nil_iff,checkLinks_nil_iff,Chained]
    simp

end

namespace FlightRecorder

variable {F : Type} (fr : FlightRecorder F) (cid : String)

theorem verifyInvariantsLocked_satisfied_iff : (fr.verifyInvariantsLocked cid).1=.satisfied ↔
      Orderly (fr.decisionOf cid) (fr.executionOf cid) (fr.evidenceOf cid) ∧
      ∀e∈fr.executionOf cid,e.state=.completed → fr.decisionOf cid≠[] := by
  have quiet : (fr.verifyInvariantsLocked cid).1=.satisfied ↔
      ((checkAntiExecute (fr.decisionOf cid) (fr.executionOf cid)=[] ∧
        checkActiveUntrusted (fr.executionOf cid) (fr.evidenceOf cid)=[]) ∧
        checkDecisionPrecedence (fr.decisionOf cid) (fr.executionOf cid)=[]) ∧
        checkEvidenceChaining (fr.evidenceOf cid)=[] := by
    rw [← List.append_eq_nil_iff,← List.append_eq_nil_iff,← List.append_eq_nil_iff]
    unfold verifyInvariantsLocked
    dsimp only
    split_ifs with found
    · exact iff_of_false nofun (List.ne_nil_of_length_pos found)
    · exact iff_of_true rfl (List.length_eq_zero_iff.mp (Nat.eq_zero_of_not_pos found))
  rw [quiet,checkAntiExecute_nil_iff,checkActiveUntrusted_nil_iff,checkDecisionPrecedence_nil_iff,
    checkEvidenceChaining_nil_iff]
  constructor
  · rintro ⟨⟨⟨antiExecute,trusted⟩,decided⟩,chained⟩
    exact ⟨⟨antiExecute,trusted,chained⟩,decided⟩
  · rintro ⟨⟨antiExecute,trusted,chained⟩,decided⟩
    exact ⟨⟨⟨antiExecute,trusted⟩,decided⟩,chained⟩

theorem verifyInvariants_satisfied_iff (seen : cid∈fr.seen) :
    ((fr.verifyInvariants cid).1=.satisfied ↔
      Orderly (fr.decisionOf cid) (fr.executionOf cid) (fr.evidenceOf cid) ∧
        Preceded (fr.decisionOf cid) (fr.executionOf cid)) ↔
    (Orderly (fr.decisionOf cid) (fr.executionOf cid) (fr.evidenceOf cid) →
      fr.decisionOf cid≠[] → ∀e∈fr.executionOf cid,e.state=.completed →
        ∃d∈fr.decisionOf cid,d.context.timestamp ≤ e.context.timestamp) := by
  have verdict : (fr.verifyInvariants cid).1=(fr.verifyInvariantsLocked cid).1 := by
    simp [verifyInvariants,seen]
  rw [verdict,verifyInvariantsLocked_satisfied_iff]
  constructor
  · intro exact' orderly decided
    exact (exact'.mp ⟨orderly,fun _ _ _ => decided⟩).2
  · intro timely
    refine and_congr_right (fun orderly => ⟨fun decided e mem completed => ?_,?_⟩)
    · exact timely orderly (decided e mem completed) e mem completed
    · intro preceded e mem completed none'
      obtain ⟨d,among,-⟩ := preceded e mem completed
      rw [none'] at among
      cases among

end FlightRecorder

def lateDecision : Call Unit := .decision ⟨⟨"a","workload","",2,1⟩,"policy","rule",.pass,"",
    "sha256:".toList++List.replicate 64 '0',0,""⟩

def completedAt (time : Time) : Call Unit :=
  .execution ⟨⟨"a","workload","",time,2⟩,"engine","infer",.running,.completed,"pod",.completed⟩

def decidedThen (time : Time) : FlightRecorder Unit :=
  run (FlightRecorder.step countingLibrary) smallRecorder [lateDecision,completedAt time]

theorem waiting_execution_judged : ((decidedThen 3).verifyInvariants "a").1=.satisfied ↔
      Orderly ((decidedThen 3).decisionOf "a") ((decidedThen 3).executionOf "a")
        ((decidedThen 3).evidenceOf "a") ∧
      Preceded ((decidedThen 3).decisionOf "a") ((decidedThen 3).executionOf "a") :=
  (FlightRecorder.verifyInvariants_satisfied_iff (decidedThen 3) "a" (by decide)).mpr
    (fun _ _ => by decide)

theorem undecided_execution_passes : ((decidedThen 1).verifyInvariants "a").1=.satisfied ∧
    ∃e∈(decidedThen 1).executionOf "a",e.state=.completed ∧
      ∀d∈(decidedThen 1).decisionOf "a",e.context.timestamp < d.context.timestamp := by
  decide

end KServeLLM.Channels
