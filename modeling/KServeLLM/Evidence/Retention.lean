import KServeLLM.Evidence.Sealing

namespace KServeLLM.Channels

variable {F : Type}

structure Contents (F : Type) where
  telemetry : List (TelemetryRecord F)
  execution : List ExecutionRecord
  decision : List DecisionRecord
  evidence : List EvidenceRecord

def Contents.none : Contents F := ⟨[],[],[],[]⟩

namespace Call

def sanitised (lib : Library F) : Call F → Call F
  | .telemetry r => .telemetry {r with
      labels := sanitizeLabels lib r.labels
      metricName := sanitizeText lib r.metricName}
  | .execution r => .execution {r with
      action := sanitizeText lib r.action
      resourceRef := sanitizeText lib r.resourceRef}
  | .decision r => .decision {r with
      evaluatorAppraisal := sanitizeText lib r.evaluatorAppraisal
      reasonCode := sanitizeText lib r.reasonCode}
  | call => call

def put : Call F → Contents F → Contents F
  | .telemetry r,x => {x with telemetry := x.telemetry++[r]}
  | .execution r,x => {x with execution := x.execution++[r]}
  | .decision r,x => {x with decision := x.decision++[r]}
  | .evidence r,x => {x with evidence := x.evidence++[r]}
  | _,x => x

def store : Call F → FlightRecorder F → FlightRecorder F
  | .telemetry r,fr => {fr with
      telemetry := fr.telemetry.insert r.context.correlationID
        (fr.telemetryOf r.context.correlationID++[r])}
  | .execution r,fr => {fr with
      execution := fr.execution.insert r.context.correlationID
        (fr.executionOf r.context.correlationID++[r])}
  | .decision r,fr => {fr with
      decision := fr.decision.insert r.context.correlationID
        (fr.decisionOf r.context.correlationID++[r])}
  | .evidence r,fr => {fr with
      evidence := fr.evidence.insert r.context.correlationID
        (fr.evidenceOf r.context.correlationID++[r])}
  | _,fr => fr

end Call

namespace FlightRecorder

def contents (fr : FlightRecorder F) (c : String) : Contents F :=
  ⟨fr.telemetryOf c,fr.executionOf c,fr.decisionOf c,fr.evidenceOf c⟩

def Keyed (fr : FlightRecorder F) (c : String) : Prop :=
  c∈fr.telemetry ∨ c∈fr.execution ∨ c∈fr.decision ∨ c∈fr.evidence

end FlightRecorder

open FlightRecorder

def recorded (lib : Library F) (c : String) (tr : List (Observed F)) : Contents F :=
  tr.foldl (fun x st => if st.answer.accepted ∧ st.call.cid=c then (st.call.sanitised lib).put x
    else x) .none

variable (lib : Library F)

def Held (c : String) (tr : List (Observed F)) (fr : FlightRecorder F) : Prop :=
  ∃pre st post,tr=pre++st::post ∧ c∉st.before.seen ∧ c∈st.after.seen ∧
    (∀later∈post,c∈later.before.seen) ∧ fr.contents c=recorded lib c (st::post)

structure Retained (n : Nat) (tr : List (Observed F)) (fr : FlightRecorder F) : Prop where
  nodup : fr.order.Nodup
  bounded : fr.order.length ≤ n
  seen : ∀c,c∈fr.seen ↔ c∈fr.order
  keys : ∀c,fr.Keyed c ∨ c∈fr.sealed → c∈fr.seen
  held : ∀c∈fr.seen,Held lib c tr fr

section

variable {fr fr' : FlightRecorder F} {call : Call F} {c cid : String} {n : Nat}

theorem contents_of_unkeyed (h : ¬fr.Keyed c) : fr.contents c=.none := by
  simp only [Keyed,not_or,← AList.lookup_eq_none] at h
  simp [FlightRecorder.contents,Contents.none,telemetryOf,executionOf,decisionOf,evidenceOf,h]

theorem contents_store (call : Call F) (fr : FlightRecorder F) (c : String) :
    (call.store fr).contents c=if call.cid=c then call.put (fr.contents c) else fr.contents c := by
  by_cases own : call.cid=c
  · subst own
    cases call <;> simp [Call.store,Call.put,Call.cid,FlightRecorder.contents,telemetryOf,
      executionOf,decisionOf,evidenceOf]
  · have other := Ne.symm own
    cases call <;> simp_all [Call.store,Call.cid,FlightRecorder.contents,telemetryOf,
      executionOf,decisionOf,evidenceOf]

theorem keyed_store (h : (call.store fr).Keyed c) : call.cid=c ∨ fr.Keyed c := by
  cases call <;> simp_all [Call.store,Keyed] <;> tauto

theorem store_same (call : Call F) (fr : FlightRecorder F) : SameIndex fr (call.store fr) := by
  cases call <;> exact ⟨rfl,rfl,rfl,rfl⟩

theorem sanitised_cid (call : Call F) : (call.sanitised lib).cid=call.cid := by cases call <;> rfl

theorem evict_retains (h : Indexed n fr) (keyed : ∀c,fr.Keyed c → c∈fr.order) :
    (∀c,fr.evictOldest.Keyed c → c∈fr.evictOldest.order) ∧
    ∀c,c∉fr.order ∨ c∈fr.evictOldest.order → fr.evictOldest.contents c=fr.contents c := by
  rw [evictOldest_order]
  unfold evictOldest
  split
  · next empty => exact ⟨fun c key => by simpa [empty] using keyed c key,fun _ _ => rfl⟩
  · next evicted order split =>
    have fresh := (List.nodup_cons.mp (split ▸ h.nodup)).1
    refine ⟨fun c key => ?_,fun c kept => ?_⟩
    · have parts : c≠evicted ∧ fr.Keyed c := by
        simp only [Keyed,AList.mem_erase] at key ⊢
        tauto
      have mem := keyed c parts.2
      rw [split] at mem ⊢
      exact (List.mem_cons.mp mem).resolve_left parts.1
    · have other : c≠evicted := by
        rintro rfl
        rw [split] at kept
        exact kept.elim (fun new => new (.head _)) fresh
      simp [FlightRecorder.contents,telemetryOf,executionOf,decisionOf,evidenceOf,
        AList.lookup_erase_ne other]

theorem touch_retains (h : Indexed n fr) (keyed : ∀c,fr.Keyed c → c∈fr.order) {cid : String} :
    (∀c,(fr.touchCorrelationLocked cid).Keyed c → c∈(fr.touchCorrelationLocked cid).order) ∧
    ∀c∈(fr.touchCorrelationLocked cid).order,
      (fr.touchCorrelationLocked cid).contents c=fr.contents c := by
  rcases touch_cases h with ⟨_,same⟩ | ⟨new,_,same⟩ | ⟨_,_,same⟩
  · rw [same]
    exact ⟨keyed,fun _ _ => rfl⟩
  · rw [same]
    obtain ⟨keys,holds⟩ := evict_retains h keyed
    refine ⟨fun c key => List.mem_append_left _ (keys c key),fun c mem => holds c ?_⟩
    rcases List.mem_append.mp mem with old | last
    · exact .inr old
    · exact .inl (List.mem_singleton.mp last ▸ new)
  · rw [same]
    exact ⟨fun c key => List.mem_append_left _ (keyed c key),fun _ _ => rfl⟩

theorem record_accepted {append : FlightRecorder F → FlightRecorder F}
    {refusal : Option Error} {outcome : FlightRecorder F×Option Error}
    (own : outcome=match refusal with
      | some err => (fr,some err)
      | none => fr.file cid append)
    (h : (Answer.recorded outcome.2 : Answer F).accepted) :
    outcome.1=append (fr.touchCorrelationLocked cid) := by
  subst own
  cases refusal with
  | some err => cases h
  | none =>
    unfold file at h ⊢
    cases known : fr.sealed.lookup cid with
    | some s =>
      rw [known] at h
      cases h
    | none => rfl

theorem step_accepted (h : (fr.step lib call).2.accepted) :
    (fr.step lib call).1=(call.sanitised lib).store (fr.touchCorrelationLocked call.cid) := by
  cases call with
  | telemetry r => exact record_accepted rfl h
  | execution r => exact record_accepted rfl h
  | decision r => exact record_accepted rfl h
  | evidence r => exact record_accepted rfl h
  | _ => cases h

theorem step_unaccepted (h : ¬(fr.step lib call).2.accepted) :
    ∃sealed,(fr.step lib call).1={fr with sealed := sealed} ∧
      ∀c∈sealed,c∈fr.sealed ∨ c∈fr.seen := by
  have effect := step_effect lib fr call
  revert h effect
  rcases fr.step lib call with ⟨next,answer⟩
  rintro h (effect : Effect fr call next answer)
  cases effect with
  | filed => exact absurd rfl h
  | closed cid now s own unsealed seen =>
    refine ⟨_,rfl,fun c mem => ?_⟩
    rcases (AList.mem_insert _).mp mem with rfl | old
    · exact .inr seen
    · exact .inl old
  | _ => exact ⟨fr.sealed,rfl,fun c mem => .inl mem⟩

theorem recorded_snoc (tr : List (Observed F)) (st : Observed F) :
    recorded lib c (tr++[st])=if st.answer.accepted ∧ st.call.cid=c then
      (st.call.sanitised lib).put (recorded lib c tr) else recorded lib c tr := by
  simp [recorded]

variable {tr : List (Observed F)}

theorem Held.snoc (h : Held lib c tr fr) (st : Observed F)
    (known : c∈st.before.seen) (next : fr'.contents c=
      if st.answer.accepted ∧ st.call.cid=c then (st.call.sanitised lib).put (fr.contents c)
      else fr.contents c) : Held lib c (tr++[st]) fr' := by
  obtain ⟨pre,first,post,rfl,new,added,stays,holds⟩ := h
  refine ⟨pre,first,post++[st],by simp,new,added,forall_mem_snoc stays known,?_⟩
  rw [← List.cons_append,recorded_snoc,next,holds]

structure Invariant (n : Nat) (tr : List (Observed F)) (fr : FlightRecorder F) : Prop where
  index : Indexed n fr
  bounded : fr.order.length ≤ n
  keyed : ∀c,fr.Keyed c → c∈fr.order
  held : ∀c∈fr.order,Held lib c tr fr

theorem Invariant.accepted (h : Invariant lib n tr fr) (accepted : (fr.step lib call).2.accepted) :
    Invariant lib n (tr++[stepOf (FlightRecorder.step lib) fr call]) (fr.step lib call).1 := by
  have stored := step_accepted lib accepted
  obtain ⟨keys,kept⟩ := touch_retains h.index h.keyed
  have same := store_same (call.sanitised lib) (fr.touchCorrelationLocked call.cid)
  have index := (h.index.touch call.cid).of_same same
  have own := sanitised_cid lib call
  have here : call.cid∈(fr.touchCorrelationLocked call.cid).order := by
    rw [touch_order h.index]
    exact mem_pushWindow
  have next {c : String} (mem : c∈(fr.touchCorrelationLocked call.cid).order) :
      (fr.step lib call).1.contents c=if call.cid=c then
        (call.sanitised lib).put (fr.contents c) else fr.contents c := by
    rw [stored,contents_store,own,kept c mem]
  refine ⟨stored ▸ index,?_,fun c key => ?_,fun c mem => ?_⟩
  · rw [stored,same.order,touch_order h.index]
    exact pushWindow_length h.index.positive h.bounded
  · rw [stored] at key ⊢
    rw [same.order]
    rcases keyed_store key with rfl | old
    · exact own ▸ here
    · exact keys c old
  · rw [stored,same.order] at mem
    by_cases known : c∈fr.order
    · refine (h.held c known).snoc lib _ ((h.index.seen c).mpr known) ?_
      simp only [stepOf,accepted,true_and]
      exact next mem
    · rw [touch_order h.index] at mem
      obtain rfl := (mem_of_mem_push mem).resolve_left known
      refine ⟨tr,_,[],rfl,fun seen => known ((h.index.seen _).mp seen),?_,by simp,?_⟩
      · change call.cid∈(fr.step lib call).1.seen
        rw [stored,same.seen,(h.index.touch call.cid).seen]
        exact here
      · rw [next here,contents_of_unkeyed fun key => known (h.keyed _ key)]
        simp [recorded,stepOf,accepted]

theorem Invariant.unaccepted (h : Invariant lib n tr fr)
    (refused : ¬(fr.step lib call).2.accepted) :
    Invariant lib n (tr++[stepOf (FlightRecorder.step lib) fr call]) (fr.step lib call).1 := by
  obtain ⟨_,same,among⟩ := step_unaccepted lib refused
  rw [same]
  refine ⟨⟨h.index.capacity,h.index.positive,h.index.nodup,h.index.seen,fun c mem => ?_⟩,h.bounded,
    h.keyed,fun c mem => (h.held c mem).snoc lib _ ((h.index.seen c).mpr mem) ?_⟩
  · rcases among c mem with old | seen
    · exact h.index.sealed c old
    · exact (h.index.seen c).mp seen
  · exact (if_neg fun both => refused both.1).symm

theorem Invariant.retained (h : Invariant lib n tr fr) : Retained lib n tr fr where
  nodup := h.index.nodup
  bounded := h.bounded
  seen := h.index.seen
  keys c known := (h.index.seen c).mpr (known.elim (h.keyed c) (h.index.sealed c))
  held c mem := h.held c ((h.index.seen c).mp mem)

end

theorem run_retained (capacity : Int) (producerID : String) (fr : FlightRecorder F)
    (created : newFlightRecorder capacity producerID=.ok fr) (calls : List (Call F)) :
    Retained lib capacity.toNat (trace (FlightRecorder.step lib) fr calls)
      (run (FlightRecorder.step lib) fr calls) := by
  obtain ⟨positive,rfl⟩ := newFlightRecorder_ok created
  refine Invariant.retained lib (run_induction _ (Invariant lib capacity.toNat) _ ?_ ?_ calls)
  · exact ⟨newFlightRecorder_indexed positive,Nat.zero_le _,by simp [Keyed],by simp⟩
  · intro tr t call h
    by_cases accepted : (t.step lib call).2.accepted
    · exact h.accepted lib accepted
    · exact h.unaccepted lib accepted

theorem readmitted_retained : Retained countingLibrary 1
      (trace (FlightRecorder.step countingLibrary) smallRecorder
        [sample "a",sample "a",sample "b",sample "a"])
      (run (FlightRecorder.step countingLibrary) smallRecorder
        [sample "a",sample "a",sample "b",sample "a"]) :=
  run_retained countingLibrary 1 "producer" smallRecorder rfl _

end KServeLLM.Channels
