import KServeLLM.Framework.Execution
import KServeLLM.Framework.MapHeap

namespace KServeLLM.Modes

inductive Mode where
  | normal | degraded | safeHold | quarantined | recovering | failed
  | other (text : String)
  deriving DecidableEq

def Mode.text : Mode → String
  | .normal => "NORMAL"
  | .degraded => "DEGRADED"
  | .safeHold => "SAFE_HOLD"
  | .quarantined => "QUARANTINED"
  | .recovering => "RECOVERING"
  | .failed => "FAILED"
  | .other text => text

inductive SeverityLevel where
  | none | low | medium | high | critical
  | other (text : String)
  deriving DecidableEq

inductive TrafficPosture where
  | admitAll | constrained | paused | blocked | probingOnly | terminated
  | other (text : String)
  deriving DecidableEq

inductive MutationPosture where
  | allowed | restricted | frozen | remediationOnly | disallowed
  | other (text : String)
  deriving DecidableEq

inductive IsolationLevel where
  | standard | enhanced | frozen | complete | sandboxed | terminal
  | other (text : String)
  deriving DecidableEq

inductive SLAPosture where
  | strict | relaxed | suspended | voided | warming | breached
  | other (text : String)
  deriving DecidableEq

inductive HealingPosture where
  | passive | active | manualIntervention | forensicLocked | inFlight | supervisorIntervention
  | other (text : String)
  deriving DecidableEq

inductive Sentinel where
  | invalidMode | illegalTransition | invalidIntent
  deriving DecidableEq

abbrev Error := GoError Sentinel

def validModes : List Mode := [.normal,.degraded,.safeHold,.quarantined,.recovering,.failed]

def legalTransitions : Mode → Option (List Mode)
  | .normal => some [.degraded,.safeHold,.quarantined,.failed]
  | .degraded => some [.normal,.safeHold,.quarantined,.recovering,.failed]
  | .safeHold => some [.normal,.recovering,.quarantined,.failed]
  | .quarantined => some [.recovering,.failed]
  | .recovering => some [.normal,.degraded,.safeHold,.quarantined,.failed]
  | .failed => some [.recovering]
  | .other _ => none

structure Contract where
  mode : Mode
  traffic : TrafficPosture
  mutation : MutationPosture
  isolation : IsolationLevel
  sla : SLAPosture
  selfHealing : HealingPosture
  deriving DecidableEq

def modeContracts : Mode → Option Contract
  | .normal => some ⟨.normal,.admitAll,.allowed,.standard,.strict,.passive⟩
  | .degraded => some ⟨.degraded,.constrained,.restricted,.enhanced,.relaxed,.active⟩
  | .safeHold => some ⟨.safeHold,.paused,.frozen,.frozen,.suspended,.manualIntervention⟩
  | .quarantined => some ⟨.quarantined,.blocked,.frozen,.complete,.voided,.forensicLocked⟩
  | .recovering =>
      some ⟨.recovering,.probingOnly,.remediationOnly,.sandboxed,.warming,.inFlight⟩
  | .failed => some ⟨.failed,.terminated,.disallowed,.terminal,.breached,.supervisorIntervention⟩
  | .other _ => none

def contractOf (m : Mode) : Contract :=
  (modeContracts m).getD ⟨.other "",.other "",.other "",.other "",.other "",.other ""⟩

structure ModeVector where
  (currentMode previousMode : Mode)
  severity : SeverityLevel
  (epoch transitionCount : UInt64)
  lastTransition : Time
  contract : Contract
  dimensions : MapRef
  (reason evidenceDigest : String)
  deriving DecidableEq

structure TransitionIntent where
  targetMode : Mode
  severity : SeverityLevel
  (reason evidenceDigest : String)
  dimensions : MapRef
  timestamp : Time

abbrev Dimensions := MapHeap String String

structure World where
  heap : Dimensions
  vector : ModeVector

def World.dimensions (w : World) : GoMap String String := w.heap.read w.vector.dimensions

def validateMode (m : Mode) : Option Error :=
  if m∈validModes then none else some (.errorf "%w: %q" (.sentinel .invalidMode) [.str m.text])

def getContract (m : Mode) : Except Error Contract :=
  match validateMode m with
  | some err => .error (.errorf "contract retrieval failed: %w" err [])
  | none => .ok (contractOf m)

def canTransition (source target : Mode) : Bool :=
  match legalTransitions source with
  | none => false
  | some targets => decide (target∈targets)

def defaultSeverityForMode : Mode → SeverityLevel
  | .normal => .none
  | .degraded => .medium
  | .safeHold => .high
  | .quarantined => .critical
  | .recovering => .low
  | .failed => .critical
  | .other _ => .none

def severityOr (severity : SeverityLevel) (m : Mode) : SeverityLevel :=
  if severity=.other "" then defaultSeverityForMode m else severity

def newModeVector (heap : Dimensions) (now : Time) (initial : Mode) (severity : SeverityLevel)
    (epoch : UInt64) : Except Error World :=
  match validateMode initial with
  | some err => .error (.errorf "failed to initialize ModeVector: %w" err [])
  | none =>
    match getContract initial with
    | .error err => .error (.errorf "failed to resolve initial contract: %w" err [])
    | .ok contract =>
        .ok ⟨heap.make,
          { currentMode := initial
            previousMode := .other ""
            severity := severityOr severity initial
            epoch := epoch
            transitionCount := 0
            lastTransition := now
            contract := contract
            dimensions := some heap.length
            reason := "initialization"
            evidenceDigest := "" }⟩

structure Call where
  now : Time
  intent : TransitionIntent
  (own given : RangeOrder ((_ : String) × String))

namespace World

def resolveTransitionDimensions (w : World) (call : Call) :
    SeverityLevel×(Dimensions×MapRef)×String×Time :=
  let ts := if call.intent.timestamp.isZero then call.now else call.intent.timestamp
  let sev := severityOr call.intent.severity call.intent.targetMode
  let dims := w.heap.length
  let heap := w.heap.make
  let heap := heap.copyInto dims call.own w.vector.dimensions
  let heap := heap.copyInto dims call.given call.intent.dimensions
  let ev := if call.intent.evidenceDigest="" then w.vector.evidenceDigest
    else call.intent.evidenceDigest
  (sev,(heap,some dims),ev,ts)

def transition (w : World) (call : Call) : World×Option Error :=
  match validateMode call.intent.targetMode with
  | some err => (w,some (.errorf "transition target validation failed: %w" err []))
  | none =>
    if call.intent.reason="" then
      (w,some (.errorf "%w: reason must not be empty" (.sentinel .invalidIntent) []))
    else if !canTransition w.vector.currentMode call.intent.targetMode then
      (w,some (.errorf "%w: transition from %s to %s is prohibited" (.sentinel .illegalTransition)
        [.str w.vector.currentMode.text,.str call.intent.targetMode.text]))
    else
      let contract := contractOf call.intent.targetMode
      let (sev,(heap,dims),ev,ts) := w.resolveTransitionDimensions call
      (⟨heap,
        { currentMode := call.intent.targetMode
          previousMode := w.vector.currentMode
          severity := sev
          epoch := w.vector.epoch+1
          transitionCount := w.vector.transitionCount+1
          lastTransition := ts
          contract := contract
          dimensions := dims
          reason := call.intent.reason
          evidenceDigest := ev }⟩,none)

end World

end KServeLLM.Modes
