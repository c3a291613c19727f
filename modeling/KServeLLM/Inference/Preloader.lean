import KServeLLM.Framework.Execution
import KServeLLM.Framework.GoTypes

namespace KServeLLM.Inference

inductive PreloadPhase where
  | Pending | Downloading | Loading | Warming | Ready | Failed
  deriving DecidableEq

structure PreloadState (ε : Type) where
  modelName : String
  phase : PreloadPhase
  (startTime readyTime : Time)
  error : Option ε
  /-- ReadyCh is closed. -/
  closed : Bool

structure Preloader (ε : Type) where
  models : GoMap String (PreloadState ε)

inductive WaitError (ε : Type) where
  | errorf (error : Errorf)
  | wrapping (error : Errorf) (cause : ε)
  deriving DecidableEq

namespace Preloader

variable {ε : Type}

inductive Answer (ε : Type) where
  | started (state : PreloadState ε)
  | returned | panicked
  /-- WaitReady returned because the channel was closed. -/
  | received (error : Option (WaitError ε))
  /-- WaitReady returned without the channel. -/
  | gaveUp (error : WaitError ε)
  | waiting
  | lasted (duration : Duration)

def newPreloader : Preloader ε := ⟨∅⟩

def start (p : Preloader ε) (modelName : String) (now : Time) : Preloader ε×PreloadState ε :=
  match p.models.lookup modelName with
  | some state => (p,state)
  | none =>
      let state : PreloadState ε := ⟨modelName,.Pending,now,0,none,false⟩
      (⟨p.models.insert modelName state⟩,state)

def complete (p : Preloader ε) (modelName : String) (write : PreloadState ε → PreloadState ε) :
    Preloader ε×Answer ε :=
  match p.models.lookup modelName with
  | none => (p,.returned)
  | some state =>
      let written := write state
      if written.closed then (⟨p.models.insert modelName written⟩,.panicked)
      else (⟨p.models.insert modelName {written with closed := true}⟩,.returned)

def markReady (p : Preloader ε) (modelName : String) (now : Time) : Preloader ε×Answer ε :=
  p.complete modelName fun state => {state with phase := .Ready,readyTime := now}

def markFailed (p : Preloader ε) (modelName : String) (err : Option ε) : Preloader ε×Answer ε :=
  p.complete modelName fun state => {state with phase := .Failed,error := err}

def readError (modelName : String) (state : PreloadState ε) : Option (WaitError ε) :=
  state.error.map fun cause => .wrapping ⟨"model %s preload failed: %w",[.str modelName]⟩ cause

def waitReady (p : Preloader ε) (ctx : Option ε) (takesReady : Bool) (modelName : String) :
    Answer ε :=
  match p.models.lookup modelName with
  | none => .gaveUp (.errorf ⟨"model %s not in preload queue",[.str modelName]⟩)
  | some state =>
    match ctx with
    | none => if state.closed then .received (readError modelName state) else .waiting
    | some cause =>
        if state.closed && takesReady then .received (readError modelName state)
        else .gaveUp (.wrapping ⟨"model %s preload timed out: %w",[.str modelName]⟩ cause)

def loadDuration (p : Preloader ε) (modelName : String) : Duration :=
  match p.models.lookup modelName with
  | some state => if state.phase=.Ready then state.readyTime.sub state.startTime else 0
  | none => 0

inductive Op (ε : Type) where
  | start (modelName : String) (now : Time)
  | markReady (modelName : String) (now : Time)
  | markFailed (modelName : String) (err : Option ε)
  | waitReady (ctx : Option ε) (takesReady : Bool) (modelName : String)
  | loadDuration (modelName : String)

def step (p : Preloader ε) : Op ε → Preloader ε×Answer ε
  | .start modelName now => ((p.start modelName now).1,.started (p.start modelName now).2)
  | .markReady modelName now => p.markReady modelName now
  | .markFailed modelName err => p.markFailed modelName err
  | .waitReady ctx takesReady modelName => (p,p.waitReady ctx takesReady modelName)
  | .loadDuration modelName => (p,.lasted (p.loadDuration modelName))

abbrev History (ε : Type) : Type := List (Step (Preloader ε) (Op ε) (Answer ε))

def Op.completed : Op ε → Option String
  | .markReady modelName _ => some modelName
  | .markFailed modelName _ => some modelName
  | _ => none

def closes (modelName : String) (st : Step (Preloader ε) (Op ε) (Answer ε)) : Bool :=
  st.call.completed=some modelName && (st.before.models.lookup modelName).isSome

def Received (st : Step (Preloader ε) (Op ε) (Answer ε)) (modelName : String)
    (error : Option (WaitError ε)) : Prop :=
  ∃ctx takesReady,st.call=.waitReady ctx takesReady modelName ∧ st.answer=.received error

structure Settled (tr : History ε) (_ : Preloader ε) : Prop where
  noPanic : ∀st∈tr,st.answer≠.panicked
  closedOnce : ∀modelName,tr.countP (closes modelName) ≤ 1
  agree : tr.Pairwise fun a b => ∀modelName x y,
    Received a modelName x → Received b modelName y → x=y

def told (p : Preloader ε) (modelName : String) : Option (Option (WaitError ε)) :=
  (p.models.lookup modelName).bind fun state =>
    if state.closed then some (readError modelName state) else none

def CompletesOpen (p : Preloader ε) (op : Op ε) : Prop :=
  ∀modelName∈op.completed,(p.told modelName).isNone=true

instance (p : Preloader ε) (op : Op ε) : Decidable (CompletesOpen p op) :=
  inferInstanceAs (Decidable (∀modelName∈op.completed,(p.told modelName).isNone=true))

variable {op : Op ε}

section

variable {p : Preloader ε}

theorem told_insert (modelName x : String) (state : PreloadState ε) :
    told ⟨p.models.insert modelName state⟩ x=
      if x=modelName then if state.closed then some (readError x state) else none
      else p.told x := by
  by_cases same : x=modelName
  · subst same
    simp [told]
  · simp [told,same]

variable {modelName : String}

theorem told_start {x : String} {now : Time} :
    (p.start modelName now).1.told x=p.told x := by
  unfold start
  cases found : p.models.lookup modelName with
  | some state => rfl
  | none =>
    rw [told_insert]
    by_cases same : x=modelName
    · rw [if_pos same,same,told,found]
      rfl
    · exact if_neg same

inductive Completes (p : Preloader ε) (modelName : String) : Preloader ε×Answer ε → Prop where
  | unknown (none_found : p.models.lookup modelName=none) : Completes p modelName (p,.returned)
  | first (state written : PreloadState ε) (found : p.models.lookup modelName=some state)
      (isOpen : p.told modelName=none) (closed : written.closed=true) :
      Completes p modelName (⟨p.models.insert modelName written⟩,.returned)
  | again (p' : Preloader ε) (told : (p.told modelName).isSome) :
      Completes p modelName (p',.panicked)

theorem completes {p : Preloader ε}
    {write : PreloadState ε → PreloadState ε} (keeps : ∀s,(write s).closed=s.closed) :
    Completes p modelName (p.complete modelName write) := by
  unfold complete
  cases found : p.models.lookup modelName with
  | none => exact .unknown found
  | some state =>
    simp only [keeps]
    cases closed : state.closed with
    | true => exact .again _ (by simp [told,found,closed])
    | false => exact .first state _ found (by simp [told,found,closed]) rfl

theorem waitReady_ne_panicked {ctx : Option ε} {takesReady : Bool} :
    p.waitReady ctx takesReady modelName≠.panicked := by
  unfold waitReady
  cases p.models.lookup modelName with
  | none => simp
  | some state =>
    cases ctx with
    | none => cases closed : state.closed <;> simp [closed]
    | some cause => cases ready : state.closed && takesReady <;> simp [ready]

theorem step_completes (h : op.completed=some modelName) :
    Completes p modelName (step p op) := by
  cases op with
  | markReady other now =>
    obtain rfl := Option.some.inj h
    exact completes fun _ => rfl
  | markFailed other err =>
    obtain rfl := Option.some.inj h
    exact completes fun _ => rfl
  | start other now => cases h
  | waitReady ctx takesReady other => cases h
  | loadDuration other => cases h

theorem step_other (h : op.completed=none) :
    (∀x,(step p op).1.told x=p.told x) ∧ (step p op).2≠.panicked := by
  cases op with
  | start modelName now => exact ⟨fun x => told_start,by simp [step]⟩
  | markReady modelName now => cases h
  | markFailed modelName err => cases h
  | waitReady ctx takesReady modelName =>
    exact ⟨fun _ => rfl,waitReady_ne_panicked⟩
  | loadDuration modelName => exact ⟨fun _ => rfl,by simp [step]⟩

theorem panicked_of_closed (h : ¬CompletesOpen p op) : (step p op).2=.panicked := by
  unfold CompletesOpen at h
  push Not at h
  obtain ⟨_,marked,closed⟩ := h
  have form := step_completes (p := p) marked
  generalize step p op=after at form
  cases form with
  | unknown none_found => simp [told,none_found] at closed
  | first state written found isOpen => simp [isOpen] at closed
  | again p' told => rfl

theorem step_open (h : CompletesOpen p op) :
    (step p op).2≠.panicked ∧
    (∀x r,p.told x=some r → (step p op).1.told x=some r) ∧
    ∀x,((step p op).1.told x).isSome.toNat=
      (p.told x).isSome.toNat+(closes x (stepOf step p op)).toNat := by
  cases marked : op.completed with
  | none =>
    obtain ⟨same,noPanic⟩ := step_other (p := p) marked
    refine ⟨noPanic,fun x r told => by rw [same,told],fun x => ?_⟩
    simp [same,closes,stepOf,marked]
  | some modelName =>
    have isOpen := h modelName marked
    have form := step_completes (p := p) marked
    have closing x : closes x (stepOf step p op)=
        (modelName=x && (p.models.lookup x).isSome) := by
      simp [closes,stepOf,marked]
    generalize step p op=after at form
    cases form with
    | unknown none_found =>
      refine ⟨by simp,fun x r told => told,fun x => ?_⟩
      rw [closing]
      by_cases same : modelName=x
      · subst same
        simp [none_found]
      · simp [same]
    | first state written found _ closed =>
      refine ⟨by simp,fun x r told => ?_,fun x => ?_⟩
      · have other : x≠modelName := fun same => by simp [← same,told] at isOpen
        rw [told_insert,if_neg other,told]
      · rw [closing,told_insert]
        by_cases same : x=modelName
        · subst same
          simp [closed,found,Option.isNone_iff_eq_none.mp isOpen]
        · simp [same,Ne.symm]
    | again p' told =>
      rw [Option.isNone_iff_eq_none.mp isOpen] at told
      cases told

theorem told_of_received {error : Option (WaitError ε)}
    (h : Received (stepOf step p op) modelName error) : p.told modelName=some error := by
  obtain ⟨ctx,takesReady,call,answer⟩ := h
  obtain rfl : op=.waitReady ctx takesReady modelName := call
  replace answer : p.waitReady ctx takesReady modelName=.received error := answer
  unfold waitReady at answer
  cases found : p.models.lookup modelName with
  | none => simp [found] at answer
  | some state =>
    simp only [found] at answer
    cases closed : state.closed with
    | false => cases ctx <;> simp [closed] at answer
    | true =>
      cases ctx with
      | none =>
        obtain rfl : readError modelName state=error := by simpa [closed] using answer
        simp [told,found,closed]
      | some cause =>
        cases takesReady with
        | false => simp at answer
        | true =>
          obtain rfl : readError modelName state=error := by simpa [closed] using answer
          simp [told,found,closed]

end

structure Recorded (tr : History ε) (p : Preloader ε) : Prop where
  counted : ∀x,tr.countP (closes x)=(p.told x).isSome.toNat
  lasting : ∀st∈tr,∀x r,Received st x r → p.told x=some r

variable {tr : History ε}

theorem Recorded.snoc {p : Preloader ε} (h : Recorded tr p)
    (opened : CompletesOpen p op) : Recorded (tr++[stepOf step p op]) (step p op).1 := by
  obtain ⟨_,keeps,grows⟩ := step_open opened
  refine ⟨fun x => ?_,forall_mem_snoc (fun st mem x r got => ?_) (fun x r got => ?_)⟩
  · rw [List.countP_append,h.counted,grows,List.countP_singleton]
    cases closes x (stepOf step p op) <;> rfl
  · exact keeps x r (h.lasting st mem x r got)
  · exact keeps x r (told_of_received got)

theorem Settled.snoc {p : Preloader ε} (h : Settled tr p)
    (recorded : Recorded tr p) (opened : CompletesOpen p op) :
    Settled (tr++[stepOf step p op]) (step p op).1 := by
  have after := recorded.snoc opened
  refine ⟨forall_mem_snoc h.noPanic (step_open opened).1,fun x => ?_,?_⟩
  · rw [after.counted]
    exact Bool.toNat_le _
  · refine List.pairwise_append.mpr ⟨h.agree,List.pairwise_singleton _ _,?_⟩
    intro a inside b last x r r' got got'
    obtain rfl := List.mem_singleton.mp last
    have before := recorded.lasting a inside x r got
    have now := told_of_received got'
    exact Option.some.inj (before.symm.trans now)

theorem settled_iff (ops : List (Op ε)) :
    Always step newPreloader ops Settled ↔
      EachCall step newPreloader ops (fun _ p op => CompletesOpen p op) := by
  refine always_iff_eachCall step Recorded Settled _ newPreloader ⟨fun _ => rfl,by simp⟩
    ⟨by simp,by simp,.nil⟩ ?_ ?_ ops
  · intro tr p op recorded settled opened
    exact ⟨recorded.snoc opened,settled.snoc recorded opened⟩
  · intro tr p op _ _ after
    by_contra again
    exact after.noPanic (stepOf step p op) (by simp) (panicked_of_closed again)

theorem ready_then_failed_panics :
    ((trace step (newPreloader : Preloader String) [.start "m" 1,.markReady "m" 2,
      .waitReady none true "m",.markFailed "m" (some "lost"),.waitReady none true "m"]).map
        Step.answer).drop 1=
      [.returned,.received none,.panicked,
        .received (some (.wrapping ⟨"model %s preload failed: %w",[.str "m"]⟩ "lost"))] ∧
    ¬Always step (newPreloader : Preloader String) [.start "m" 1,.markReady "m" 2,
      .waitReady none true "m",.markFailed "m" (some "lost"),.waitReady none true "m"]
      Settled := by
  refine ⟨rfl,fun always => ?_⟩
  have calm := (always _ (List.prefix_refl _)).noPanic
  have second := mem_trace step newPreloader [.start "m" 1,.markReady "m" 2,
    .waitReady none true "m"] (.markFailed "m" (some "lost")) [.waitReady none true "m"]
  exact calm _ second rfl

end Preloader

end KServeLLM.Inference
