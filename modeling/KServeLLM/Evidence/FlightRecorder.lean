import KServeLLM.Api.ServiceTypes
import KServeLLM.Kernel.CacheFabric
import KServeLLM.Kernel.Composition

namespace KServeLLM.Channels

open Api (StringMap)
open KServeLLM.Composition (hexDecodes)
open KVState (blank)

inductive TelemetryState where
  | nominal | degraded | anomalous | critical
  | other (text : String)
  deriving DecidableEq

inductive ExecutionState where
  | pending | running | completed | failed | halted
  | other (text : String)
  deriving DecidableEq

def ExecutionState.text : ExecutionState → String
  | .pending => "pending"
  | .running => "running"
  | .completed => "completed"
  | .failed => "failed"
  | .halted => "halted"
  | .other text => text

inductive DecisionDisposition where
  | pass | degrade | deny | quarantine | escalate
  | other (text : String)
  deriving DecidableEq

def DecisionDisposition.text : DecisionDisposition → String
  | .pass => "PASS"
  | .degrade => "DEGRADE"
  | .deny => "DENY"
  | .quarantine => "QUARANTINE"
  | .escalate => "ESCALATE"
  | .other text => text

inductive EvidenceState where
  | committed | verified | rejected | quarantine
  | other (text : String)
  deriving DecidableEq

inductive InvariantState where
  | satisfied | violated | indeterminate
  deriving DecidableEq

inductive Sentinel where
  | emptyCorrelation | zeroSequence | invalidDigestFormat | recorderCapacity | recorderSealed
  | correlationNotFound | unsupportedValue
  deriving DecidableEq

abbrev Error := GoError Sentinel

structure CorrelationContext where
  (correlationID workloadID tenantID : String)
  timestamp : Time
  sequence : UInt64
  deriving DecidableEq

structure TelemetryRecord (F : Type) where
  context : CorrelationContext
  metricName : String
  metricValue : F
  unit : String
  state : TelemetryState
  labels : StringMap

structure ExecutionRecord where
  context : CorrelationContext
  (component action : String)
  (fromState toState : ExecutionState)
  resourceRef : String
  state : ExecutionState
  deriving DecidableEq

structure DecisionRecord where
  context : CorrelationContext
  (policyID ruleID : String)
  disposition : DecisionDisposition
  evaluatorAppraisal : String
  factsDigest : GoString
  evaluationLatencyMs : Int64
  reasonCode : String
  deriving DecidableEq

structure EvidenceRecord where
  context : CorrelationContext
  receiptID : String
  subjectDigest : GoString
  producerSPIFFE : String
  producerKeyDigest : GoString
  state : EvidenceState
  previousDigest : GoString
  signatureRef : String
  deriving DecidableEq

structure CorrelatedFlightTraces (F : Type) where
  correlationID : String
  telemetry : List (TelemetryRecord F)
  execution : List ExecutionRecord
  decision : List DecisionRecord
  evidence : List EvidenceRecord
  state : InvariantState
  violations : List Errorf

structure SealedFlightRecord where
  (correlationID rootDigest : String)
  recordCount : Nat
  state : InvariantState
  sealedAt : Time
  producerID : String
  deriving DecidableEq

structure FlightRecorder (F : Type) where
  capacity : Int
  producerID : String
  order : List String
  seen : GoMap String Unit
  telemetry : GoMap String (List (TelemetryRecord F))
  execution : GoMap String (List ExecutionRecord)
  decision : GoMap String (List DecisionRecord)
  evidence : GoMap String (List EvidenceRecord)
  sealed : GoMap String SealedFlightRecord

structure Library (F : Type) where
  replaceAll : String → String → String → String
  marshalTelemetry : List (TelemetryRecord F) → Option (List UInt8)
  marshalExecution : List ExecutionRecord → Option (List UInt8)
  marshalDecision : List DecisionRecord → Option (List UInt8)
  marshalEvidence : List EvidenceRecord → Option (List UInt8)
  hexSum : List UInt8 → String

def redactedMask : String := "__REDACTED__"

def scrubbed : List String := ["\\b\\d\x7b3\x7d-\\d\x7b2\x7d-\\d\x7b4\x7d\\b",
    "\\b(?:\\d[ -]?)\x7b13,19\x7d\\b",
    "\\b[A-Za-z0-9._%+\\-]+@[A-Za-z0-9.\\-]+\\.[A-Za-z]\x7b2,\x7d\\b",
    "\\b(?:\\d\x7b1,3\x7d\\.)\x7b3\x7d\\d\x7b1,3\x7d\\b",
    "(?i)bearer\\s+[A-Za-z0-9\\-._~+/]+=*",
    "-----BEGIN [A-Z ]*PRIVATE KEY-----",
    "(?i)(?:api_key|sk-[a-zA-Z0-9]\x7b20,\x7d)"]

variable {F : Type} (lib : Library F)

def sanitizeText (s : String) : String :=
  if s="" then s else scrubbed.foldl (fun out pattern => lib.replaceAll pattern out redactedMask) s

def sanitizeLabels (labels : StringMap) : StringMap :=
  fun key => (labels key).map (sanitizeText lib)

def validateSHA256 (v : GoString) : Option Error :=
  let refuse (format : String) (args : List ErrArg) : Option Error :=
    some (.errorf format (.sentinel .invalidDigestFormat) args)
  if !GoString.hasPrefix v "sha256:".toList || v.length≠71 then
    refuse "%w: %q" [.str (String.ofList v)]
  else
    let raw := GoString.trimPrefix v "sha256:".toList
    if raw.map Char.toLower≠raw then
      refuse "%w: lowercase required for %q" [.str (String.ofList v)]
    else if !hexDecodes raw then refuse "%w: hex decode failed: %w" []
    else none

def validateContext (c : CorrelationContext) : Option Error :=
  if blank c.correlationID then
    some (.errorf "%w: empty context" (.sentinel .emptyCorrelation) [])
  else if c.sequence=0 then
    some (.errorf "%w: context sequence %d" (.sentinel .zeroSequence) [.int c.sequence.toNat])
  else none

def firstRefusal : List (String×Option Error) → Option Error
  | [] => none
  | (format,refusal)::rest =>
      match refusal with
      | some err => some (.errorf format err [])
      | none => firstRefusal rest

def newFlightRecorder (capacity : Int) (producerID : String) : Except Error (FlightRecorder F) :=
  if capacity ≤ 0 then
    .error (.errorf "%w: capacity %d" (.sentinel .recorderCapacity) [.int capacity])
  else .ok ⟨capacity,producerID,[],∅,∅,∅,∅,∅,∅⟩

namespace FlightRecorder

variable (fr : FlightRecorder F) (cid : String)

def telemetryOf : List (TelemetryRecord F) := (fr.telemetry.lookup cid).getD []
def executionOf : List ExecutionRecord := (fr.execution.lookup cid).getD []
def decisionOf : List DecisionRecord := (fr.decision.lookup cid).getD []
def evidenceOf : List EvidenceRecord := (fr.evidence.lookup cid).getD []

def evictOldest : FlightRecorder F :=
  match fr.order with
  | [] => fr -- order[0] exists: the capacity is positive
  | evicted::order =>
    {fr with
      order := order
      seen := fr.seen.erase evicted
      telemetry := fr.telemetry.erase evicted
      execution := fr.execution.erase evicted
      decision := fr.decision.erase evicted
      evidence := fr.evidence.erase evicted
      sealed := fr.sealed.erase evicted}

def touchCorrelationLocked : FlightRecorder F :=
  if cid∈fr.seen then fr
  else
    let fr := if fr.capacity ≤ fr.order.length then fr.evictOldest else fr
    {fr with order := fr.order++[cid],seen := fr.seen.insert cid ()}

def file (append : FlightRecorder F → FlightRecorder F) : FlightRecorder F×Option Error :=
  match fr.sealed.lookup cid with
  | some _ => (fr,some (.errorf "%w: %s" (.sentinel .recorderSealed) [.str cid]))
  | none => (append (fr.touchCorrelationLocked cid),none)

def checkTelemetry (r : TelemetryRecord F) : Option Error :=
  firstRefusal [("telemetry context: %w",validateContext r.context)]

def recordTelemetry (r : TelemetryRecord F) : FlightRecorder F×Option Error :=
  match checkTelemetry r with
  | some err => (fr,some err)
  | none =>
    let r := {r with
      labels := sanitizeLabels lib r.labels
      metricName := sanitizeText lib r.metricName}
    let cid := r.context.correlationID
    fr.file cid fun fr => {fr with telemetry := fr.telemetry.insert cid (fr.telemetryOf cid++[r])}

def checkExecution (r : ExecutionRecord) : Option Error :=
  firstRefusal [("execution context: %w",validateContext r.context)]

def recordExecution (r : ExecutionRecord) : FlightRecorder F×Option Error :=
  match checkExecution r with
  | some err => (fr,some err)
  | none =>
    let r := {r with
      action := sanitizeText lib r.action
      resourceRef := sanitizeText lib r.resourceRef}
    let cid := r.context.correlationID
    fr.file cid fun fr => {fr with execution := fr.execution.insert cid (fr.executionOf cid++[r])}

def checkDecision (r : DecisionRecord) : Option Error :=
  firstRefusal [("decision context: %w",validateContext r.context),
    ("decision facts digest: %w",validateSHA256 r.factsDigest)]

def recordDecision (r : DecisionRecord) : FlightRecorder F×Option Error :=
  match checkDecision r with
  | some err => (fr,some err)
  | none =>
    let r := {r with
      evaluatorAppraisal := sanitizeText lib r.evaluatorAppraisal
      reasonCode := sanitizeText lib r.reasonCode}
    let cid := r.context.correlationID
    fr.file cid fun fr => {fr with decision := fr.decision.insert cid (fr.decisionOf cid++[r])}

def checkEvidence (r : EvidenceRecord) : Option Error :=
  firstRefusal [("evidence context: %w",validateContext r.context),
    ("evidence subject digest: %w",validateSHA256 r.subjectDigest),
    ("evidence producer key digest: %w",validateSHA256 r.producerKeyDigest),
    ("evidence previous digest: %w",
      if r.previousDigest=[] then none else validateSHA256 r.previousDigest)]

def recordEvidence (r : EvidenceRecord) : FlightRecorder F×Option Error :=
  match checkEvidence r with
  | some err => (fr,some err)
  | none =>
    let cid := r.context.correlationID
    fr.file cid fun fr => {fr with evidence := fr.evidence.insert cid (fr.evidenceOf cid++[r])}

end FlightRecorder

def checkAntiExecute (decs : List DecisionRecord) (execs : List ExecutionRecord) : List Errorf :=
  decs.flatMap fun d =>
    if d.disposition=.deny ∨ d.disposition=.quarantine then
      execs.flatMap fun e =>
        if (e.context.timestamp.after d.context.timestamp ∨
            e.context.timestamp=d.context.timestamp) ∧
            (e.state=.running ∨ e.state=.completed) then
          [⟨"anti_execute: %s reached %s after %s",
            [.str e.component,.str e.state.text,.str d.disposition.text]⟩]
        else []
    else []

def checkActiveUntrusted (execs : List ExecutionRecord) (evs : List EvidenceRecord) : List Errorf :=
  evs.flatMap fun ev =>
    if ev.state=.rejected ∨ ev.state=.quarantine then
      execs.flatMap fun e =>
        if e.state=.running ∨ e.state=.completed then
          [⟨"active_untrusted: active %s with untrusted evidence %s",
            [.str e.component,.str ev.receiptID]⟩]
        else []
    else []

def checkDecisionPrecedence (decs : List DecisionRecord) (execs : List ExecutionRecord) :
    List Errorf :=
  execs.flatMap fun e =>
    if e.state=.completed ∧ decs.length=0 then
      [⟨"decision_missing: %s completed without decision",[.str e.component]⟩]
    else []

def checkLinks (previous : GoString) : List EvidenceRecord → List Errorf
  | [] => []
  | ev::evs =>
      (if ev.previousDigest≠previous then
        [⟨"chain_break: %s previousDigest mismatch",[.str ev.receiptID]⟩]
      else [])++checkLinks ev.subjectDigest evs

def checkEvidenceChaining : List EvidenceRecord → List Errorf
  | [] => []
  | root::evs =>
      (if root.previousDigest≠[] then
        [⟨"chain_break: root %s specifies previousDigest",[.str root.receiptID]⟩]
      else [])++checkLinks root.subjectDigest evs

namespace FlightRecorder

variable (fr : FlightRecorder F) (cid : String)

def verifyInvariantsLocked : InvariantState×List Errorf :=
  let violations := checkAntiExecute (fr.decisionOf cid) (fr.executionOf cid)++
    checkActiveUntrusted (fr.executionOf cid) (fr.evidenceOf cid)++
    checkDecisionPrecedence (fr.decisionOf cid) (fr.executionOf cid)++
    checkEvidenceChaining (fr.evidenceOf cid)
  if 0 < violations.length then (.violated,violations) else (.satisfied,[])

def notFound : Error := .errorf "%w: %s" (.sentinel .correlationNotFound) [.str cid]

def verifyInvariants : InvariantState×List Errorf×Option Error :=
  if cid∉fr.seen then (.indeterminate,[],some (notFound cid))
  else ((fr.verifyInvariantsLocked cid).1,(fr.verifyInvariantsLocked cid).2,none)

def correlate : Except Error (CorrelatedFlightTraces F) :=
  if cid∉fr.seen then .error (notFound cid)
  else .ok ⟨cid,fr.telemetryOf cid,fr.executionOf cid,fr.decisionOf cid,fr.evidenceOf cid,
    (fr.verifyInvariantsLocked cid).1,(fr.verifyInvariantsLocked cid).2⟩

def computeRootDigestLocked : Except Error (String×Nat) :=
  match lib.marshalTelemetry (fr.telemetryOf cid),lib.marshalExecution (fr.executionOf cid),
      lib.marshalDecision (fr.decisionOf cid),lib.marshalEvidence (fr.evidenceOf cid) with
  | some telemetry,some execution,some decision,some evidence =>
    .ok ("sha256:"++lib.hexSum (telemetry++execution++decision++evidence),
      (fr.telemetryOf cid).length+(fr.executionOf cid).length+(fr.decisionOf cid).length+
        (fr.evidenceOf cid).length)
  | _,_,_,_ => .error (.errorf "marshal trace: %w" (.sentinel .unsupportedValue) [])

def sealFlight (now : Time) : FlightRecorder F×Except Error SealedFlightRecord :=
  match fr.sealed.lookup cid with
  | some s => (fr,.ok s)
  | none =>
    if cid∉fr.seen then (fr,.error (notFound cid))
    else
      match fr.computeRootDigestLocked lib cid with
      | .error err => (fr,.error (.errorf "compute root digest: %w" err []))
      | .ok (digest,count) =>
        let s : SealedFlightRecord :=
          ⟨cid,digest,count,(fr.verifyInvariantsLocked cid).1,now,fr.producerID⟩
        ({fr with sealed := fr.sealed.insert cid s},.ok s)

end FlightRecorder

inductive Call (F : Type) where
  | telemetry (r : TelemetryRecord F)
  | execution (r : ExecutionRecord)
  | decision (r : DecisionRecord)
  | evidence (r : EvidenceRecord)
  | sealFlight (cid : String) (now : Time)
  | verify (cid : String)
  | correlate (cid : String)

inductive Answer (F : Type) where
  | recorded (error : Option Error)
  | sealed (result : Except Error SealedFlightRecord)
  | verdict (state : InvariantState) (violations : List Errorf) (error : Option Error)
  | traces (result : Except Error (CorrelatedFlightTraces F))

def FlightRecorder.step (fr : FlightRecorder F) : Call F → FlightRecorder F×Answer F
  | .telemetry r => ((fr.recordTelemetry lib r).1,.recorded (fr.recordTelemetry lib r).2)
  | .execution r => ((fr.recordExecution lib r).1,.recorded (fr.recordExecution lib r).2)
  | .decision r => ((fr.recordDecision lib r).1,.recorded (fr.recordDecision lib r).2)
  | .evidence r => ((fr.recordEvidence r).1,.recorded (fr.recordEvidence r).2)
  | .sealFlight cid now =>
    ((fr.sealFlight lib cid now).1,.sealed (fr.sealFlight lib cid now).2)
  | .verify cid =>
    (fr,.verdict (fr.verifyInvariants cid).1 (fr.verifyInvariants cid).2.1
      (fr.verifyInvariants cid).2.2)
  | .correlate cid => (fr,.traces (fr.correlate cid))

end KServeLLM.Channels
