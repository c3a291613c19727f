import KServeLLM.Kernel.CacheFabric

namespace KServeLLM.KVState

inductive TransferRole where
  | producer | consumer | both
  | other (text : String)
  deriving DecidableEq

inductive TransferSentinel where
  | cache (k : Sentinel)
  | adapterMismatch | stateConflict | transferFailed | transferTimeout | integrityViolation
  deriving DecidableEq

abbrev TransferError := GoError TransferSentinel

def liftError : Error → TransferError
  | .sentinel k => .sentinel (.cache k)
  | .errorf format cause args => .errorf format (liftError cause) args

def TransferPhase.text : TransferPhase → String
  | .idle => "idle"
  | .initiated => "initiated"
  | .inFlight => "in-flight"
  | .completed => "completed"
  | .failed => "failed"
  | .cancelled => "cancelled"
  | .other text => text

structure TransferContract where
  transferID : String
  identity : CacheIdentity
  (sourceNode targetNode connector : String)
  role : TransferRole
  phase : TransferPhase
  (tokens bytes : Int64)
  payloadChecksum : String
  (createdAt deadline completedAt : Time)
  failureReason : String
  deriving DecidableEq

def newTransferContract (id : String) (identity : CacheIdentity) (src dst conn : String)
    (role : TransferRole) (tokens bytesCount : Int64) (deadline : Time) :
    Except TransferError TransferContract :=
  match identity.validate with
  | some err => .error (.errorf "transfer contract identity: %w" (liftError err) [])
  | none =>
    if id="" ∨ src="" ∨ dst="" ∨ conn="" then
      .error (.errorf "%w: transfer contract requires non-empty ids and nodes"
        (.sentinel .transferFailed) [])
    else if src=dst then
      .error (.errorf "%w: source and destination cannot be identical" (.sentinel .transferFailed)
        [])
    else .ok ⟨id,identity,src,dst,conn,role,.idle,tokens,bytesCount,"",0,deadline,0,""⟩

namespace TransferContract

def conflict (format : String) (t : TransferContract) : TransferError :=
  .errorf format (.sentinel .stateConflict) [.str t.phase.text]

def expired : TransferError :=
  .errorf "%w: transfer deadline expired" (.sentinel .transferTimeout) []

def late (t : TransferContract) (now : Time) : Bool := !t.deadline.isZero && !now.before t.deadline

def initiate (t : TransferContract) (now : Time) : TransferContract×Option TransferError :=
  if t.phase≠.idle then (t,some (t.conflict "%w: cannot initiate from phase %s"))
  else ({t with createdAt := now, phase := .initiated},none)

def markInFlight (t : TransferContract) (now : Time) : TransferContract×Option TransferError :=
  if t.late now then
    ({t with phase := .failed, failureReason := "deadline exceeded prior to in-flight"},
      some expired)
  else if t.phase≠.initiated then (t,some (t.conflict "%w: cannot mark in-flight from phase %s"))
  else ({t with phase := .inFlight},none)

def complete (t : TransferContract) (now : Time) (checksum : String) :
    TransferContract×Option TransferError :=
  if t.late now then
    ({t with phase := .failed, failureReason := "deadline exceeded before completion"},some expired)
  else if t.phase≠.inFlight then (t,some (t.conflict "%w: cannot complete transfer in phase %s"))
  else if blank checksum then
    ({t with phase := .failed, failureReason := "missing payload checksum"},
      some (.errorf "%w: payload checksum is required" (.sentinel .integrityViolation) []))
  else ({t with payloadChecksum := checksum, completedAt := now, phase := .completed},none)

def fail (t : TransferContract) (now : Time) (reason : String) : TransferContract :=
  {t with phase := .failed, failureReason := reason, completedAt := now}

def verifyGovernance (t : TransferContract) (consumerAdapter : String) : Option TransferError :=
  if t.identity.adapterID≠"" ∧ t.identity.adapterID≠consumerAdapter then
    some (.errorf "%w: expected adapter %q, consumer loaded %q" (.sentinel .adapterMismatch)
      [.str t.identity.adapterID,.str consumerAdapter])
  else none

inductive Call where
  | initiate (now : Time)
  | markInFlight (now : Time)
  | complete (now : Time) (checksum : String)
  | fail (now : Time) (reason : String)
  deriving DecidableEq

def step (t : TransferContract) : Call → TransferContract×Option TransferError
  | .initiate now => t.initiate now
  | .markInFlight now => t.markInFlight now
  | .complete now checksum => t.complete now checksum
  | .fail now reason => (t.fail now reason,none)

abbrev History := List (Step TransferContract Call (Option TransferError))

def Terminal (t : TransferContract) : Prop :=
  t.phase=.completed ∨ t.phase=.failed ∨ t.phase=.cancelled

instance (t : TransferContract) : Decidable t.Terminal := inferInstanceAs (Decidable (_ ∨ _ ∨ _))

def verdict (t : TransferContract) : TransferPhase×String×Time×String :=
  (t.phase,t.payloadChecksum,t.completedAt,t.failureReason)

def Absorbing (t : TransferContract) (calls : List Call) : Prop :=
  ∀pre later,pre++later <+: calls → (run step t pre).Terminal →
    (run step t (pre++later)).verdict=(run step t pre).verdict

def Spares (t : TransferContract) : Call → Prop
  | .initiate _ => True
  | .markInFlight now => t.Terminal → t.late now →
      t.phase=.failed ∧ t.failureReason="deadline exceeded prior to in-flight"
  | .complete now _ => t.Terminal → t.late now →
      t.phase=.failed ∧ t.failureReason="deadline exceeded before completion"
  | .fail now reason => t.Terminal →
      t.phase=.failed ∧ t.failureReason=reason ∧ t.completedAt=now

def Accepted (tr : History) (calls : List Call) : Prop :=
  ∃sts : History,sts.Sublist tr ∧ sts.map (·.call)=calls ∧ ∀st∈sts,st.answer=none

def Earned (tr : History) (t : TransferContract) : Prop :=
  (∃n₁ n₂,Accepted tr [.initiate n₁,.markInFlight n₂,.complete t.completedAt t.payloadChecksum]) ∧
  ¬blank t.payloadChecksum ∧ (t.deadline=0 ∨ t.completedAt < t.deadline)

variable {tr : History} {calls : List Call}

theorem Accepted.later (h : Accepted tr calls)
    (st : Step TransferContract Call (Option TransferError)) : Accepted (tr++[st]) calls := by
  obtain ⟨sts,sub,rest⟩ := h
  exact ⟨sts,sub.trans (List.sublist_append_left tr _),rest⟩

theorem Accepted.next (h : Accepted tr calls)
    (st : Step TransferContract Call (Option TransferError)) (ok : st.answer=none) :
    Accepted (tr++[st]) (calls++[st.call]) := by
  obtain ⟨sts,sub,rfl,all⟩ := h
  exact ⟨sts++[st],sub.append (List.Sublist.refl _),by simp,forall_mem_snoc all ok⟩

inductive Effect (t : TransferContract) : Call → TransferContract → Option TransferError → Prop
  | refused (call : Call) (err : TransferError) : Effect t call t (some err)
  | failed (call : Call) (reason : String) (completedAt : Time) (err : Option TransferError) :
      Effect t call
        {t with phase := .failed, failureReason := reason, completedAt := completedAt} err
  | initiated (now : Time) (idle : t.phase=.idle) :
      Effect t (.initiate now) {t with createdAt := now, phase := .initiated} none
  | marked (now : Time) (initiated : t.phase=.initiated) :
      Effect t (.markInFlight now) {t with phase := .inFlight} none
  | completed (now : Time) (checksum : String) (inFlight : t.phase=.inFlight)
      (present : ¬blank checksum) (inTime : t.deadline=0 ∨ now < t.deadline) :
      Effect t (.complete now checksum)
        {t with payloadChecksum := checksum, completedAt := now, phase := .completed} none

variable {t : TransferContract}

theorem inTime_of_not_late {now : Time} (h : ¬t.late now) : t.deadline=0 ∨ now < t.deadline := by
  simp only [late,Time.isZero,Time.before,Bool.and_eq_true,Bool.not_eq_true',
    decide_eq_false_iff_not,not_and,not_not] at h
  exact or_iff_not_imp_left.mpr h

theorem step_effect (t : TransferContract) (call : Call) :
    Effect t call (t.step call).1 (t.step call).2 := by
  cases call with
  | initiate now =>
    simp only [step,initiate]
    split_ifs with busy
    · exact .refused _ _
    · exact .initiated now (not_not.mp busy)
  | markInFlight now =>
    simp only [step,markInFlight]
    split_ifs with late other
    · exact .failed _ _ _ _
    · exact .refused _ _
    · exact .marked now (not_not.mp other)
  | complete now checksum =>
    simp only [step,complete]
    split_ifs with late other missing
    · exact .failed _ _ _ _
    · exact .refused _ _
    · exact .failed _ _ _ _
    · exact .completed now _ (not_not.mp other) missing (inTime_of_not_late late)
  | fail now reason => exact .failed _ _ now _

structure Progress (tr : History) (t : TransferContract) : Prop where
  initiated : t.phase=.initiated → ∃n₁,Accepted tr [.initiate n₁]
  inFlight : t.phase=.inFlight → ∃n₁ n₂,Accepted tr [.initiate n₁,.markInFlight n₂]
  completed : t.phase=.completed → Earned tr t

theorem Progress.step (h : Progress tr t) (call : Call) :
    Progress (tr++[stepOf TransferContract.step t call]) (t.step call).1 := by
  have effect := step_effect t call
  generalize made : stepOf _ t _=st
  have callIs : st.call=call := by rw [← made]; rfl
  have answerIs : st.answer=(t.step call).2 := by rw [← made]; rfl
  generalize (t.step _).1=t',(t.step _).2=err at effect answerIs
  cases effect with
  | refused err =>
    refine ⟨fun p => ?_,fun p => ?_,fun p => ?_⟩
    · obtain ⟨n₁,acc⟩ := h.initiated p
      exact ⟨n₁,acc.later st⟩
    · obtain ⟨n₁,n₂,acc⟩ := h.inFlight p
      exact ⟨n₁,n₂,acc.later st⟩
    · obtain ⟨⟨n₁,n₂,acc⟩,rest⟩ := h.completed p
      exact ⟨⟨n₁,n₂,acc.later st⟩,rest⟩
  | failed reason completedAt err => refine ⟨?_,?_,?_⟩ <;> intro p <;> cases p
  | initiated now idle =>
    have none : Accepted tr [] := ⟨[],List.nil_sublist tr,rfl,by simp⟩
    have acc := none.next st answerIs
    rw [callIs] at acc
    refine ⟨fun _ => ⟨now,acc⟩,?_,?_⟩ <;> intro p <;> cases p
  | marked now initiated =>
    obtain ⟨n₁,before⟩ := h.initiated initiated
    have acc := before.next st answerIs
    rw [callIs] at acc
    refine ⟨?_,fun _ => ⟨n₁,now,acc⟩,?_⟩ <;> intro p <;> cases p
  | completed now checksum inFlight present inTime =>
    obtain ⟨n₁,n₂,before⟩ := h.inFlight inFlight
    have acc := before.next st answerIs
    rw [callIs] at acc
    refine ⟨?_,?_,fun _ => ⟨⟨n₁,n₂,acc⟩,present,inTime⟩⟩ <;> intro p <;> cases p

theorem run_earned {t : TransferContract} (idle : t.phase=.idle)
    (completed : (run step t calls).phase=.completed) :
    Earned (trace step t calls) (run step t calls) :=
  have start : Progress [] t := ⟨by simp [idle],by simp [idle],by simp [idle]⟩
  (run_induction _ _ t start (fun _ _ call h => h.step _) _).completed completed

theorem Terminal.not_open (fin : t.Terminal) :
    t.phase≠.idle ∧ t.phase≠.initiated ∧ t.phase≠.inFlight := by
  rcases fin with p | p | p <;> simp [p]

theorem verdict_failed_iff (t : TransferContract) (reason : String) (completedAt : Time) :
    {t with phase := .failed, failureReason := reason, completedAt := completedAt}.verdict=
      t.verdict ↔ t.phase=.failed ∧ t.failureReason=reason ∧ t.completedAt=completedAt := by
  simp only [verdict,Prod.mk.injEq,true_and]
  constructor
  · rintro ⟨phase,time,text⟩
    exact ⟨phase.symm,text.symm,time.symm⟩
  · rintro ⟨phase,text,time⟩
    exact ⟨phase.symm,time.symm,text.symm⟩

variable {call : Call}

theorem step_verdict_iff {t : TransferContract} (fin : t.Terminal) :
    (t.step call).1.verdict=t.verdict ↔ t.Spares call := by
  obtain ⟨idle,initiated,inFlight⟩ := fin.not_open
  have written reason := verdict_failed_iff t reason t.completedAt
  cases call with
  | initiate now => simp [step,initiate,idle,Spares]
  | markInFlight now =>
    by_cases late : t.late now
    · simpa [step,markInFlight,late,Spares,fin] using written _
    · simp [step,markInFlight,late,initiated,Spares]
  | complete now checksum =>
    by_cases late : t.late now
    · simpa [step,complete,late,Spares,fin] using written _
    · simp [step,complete,late,inFlight,Spares]
  | fail now reason => simpa [step,fail,Spares,fin] using verdict_failed_iff t _ now

theorem Spares.of_open (still : ¬t.Terminal) : t.Spares call := by
  cases call with
  | initiate now => trivial
  | markInFlight now => exact fun fin => absurd fin still
  | complete now checksum => exact fun fin => absurd fin still
  | fail now reason => exact fun fin => absurd fin still

theorem Terminal.of_verdict {t u : TransferContract} (fin : t.Terminal)
    (same : u.verdict=t.verdict) : u.Terminal := by
  have phase : u.phase=t.phase := congrArg Prod.fst same
  unfold Terminal
  rw [phase]
  exact fin

theorem absorbing_iff (t : TransferContract) (calls : List Call) :
    Absorbing t calls ↔ EachCall step t calls (fun _ u call => u.Spares call) := by
  constructor
  · intro absorbing pre call made
    by_cases fin : (run step t pre).Terminal
    · have same := absorbing pre _ made fin
      rw [run_snoc] at same
      exact (step_verdict_iff fin).mp same
    · exact .of_open fin
  · intro spares pre later made fin
    induction later using List.reverseRecOn with
    | nil => rw [List.append_nil]
    | append_singleton later call ih =>
      rw [← List.append_assoc] at made ⊢
      have before := ih ((List.prefix_append _ _).trans made)
      have spared := spares _ _ made
      rw [run_snoc,(step_verdict_iff (fin.of_verdict before)).mpr spared,before]

theorem absorbing_earned_iff (t : TransferContract) (calls : List Call) : (Absorbing t calls ∧
      ∀pre,pre <+: calls → t.phase=.idle → (run step t pre).phase=.completed →
        Earned (trace step t pre) (run step t pre)) ↔
    EachCall step t calls (fun _ u call => u.Spares call) := by
  rw [absorbing_iff]
  exact and_iff_left (fun pre _ idle completed => run_earned idle completed)

def sampleContract : TransferContract :=
  ⟨"tx",⟨"t","p","m","","k","h",0⟩,"prefill","decode","nixl",.both,.idle,8,64,"",0,100,0,""⟩

def timelyCalls : List Call := [.initiate 1,.markInFlight 2,.complete 3 "sum"]

theorem completed_overwritten :
    newTransferContract "tx" sampleContract.identity "prefill" "decode" "nixl" .both 8 64 100=
      .ok sampleContract ∧
    (run step sampleContract timelyCalls).phase=.completed ∧
    (run step sampleContract (timelyCalls++[.markInFlight 100])).phase=.failed ∧
    (run step sampleContract (timelyCalls++[.fail 4 "abort"])).completedAt=4 ∧
    ¬Absorbing sampleContract (timelyCalls++[.markInFlight 100]) := by
  refine ⟨by decide,by decide,by decide,by decide,fun absorbing => ?_⟩
  have same := absorbing timelyCalls [.markInFlight 100] (List.prefix_refl _) (by decide)
  exact absurd same (by decide)

end TransferContract

end KServeLLM.KVState
