import KServeLLM.Framework.Execution
import KServeLLM.Residency.Course

namespace KServeLLM.Residency

def perform (accepts : Bool) (observed : Observation) : Action → Observation
  | .cacheArtifact => {observed with artifactCached := true}
  | .loadRuntime => {observed with runtimeLoaded := true}
  | .warmRuntime => {observed with runtimeReady := true, prefillReady := true}
  | .attachRoute =>
      {observed with
        routeAttached := true
        acceptingRequests := observed.acceptingRequests || accepts}
  | .detachRoute => {observed with routeAttached := false, acceptingRequests := false}
  | .waitForDrain => {observed with activeRequests := observed.activeRequests-1}
  | .stopRuntime =>
      {observed with runtimeLoaded := false, runtimeReady := false, prefillReady := false}
  | .evictArtifact => {observed with artifactCached := false}

def performAll (accepts : Bool) (observed : Observation) (actions : List Action) : Observation :=
  actions.foldl (perform accepts) observed

@[ext] structure Phase where
  state : State
  observed : Observation
  deriving DecidableEq

def calmCourse (plan : Plan) (p : Phase) : Course :=
  if consistent p.state p.observed plan.requirePrefill then targetCourse plan p.state p.observed
  else ⟨p.state,failClosedActions p.observed⟩

def phaseStep (accepts : Bool) (plan : Plan) (p : Phase) : Phase :=
  let course := calmCourse plan p
  ⟨course.state,performAll accepts p.observed course.actions⟩

def Owned (p : Phase) : Prop := 0 ≤ p.observed.activeRequests ∧
  (0 < p.observed.activeRequests → p.state=.ready ∨ p.state=.draining)

def RouteStands (requirePrefill : Bool) (p : Phase) : Prop :=
  p.observed.routeAttached ∧ consistent p.state p.observed requirePrefill

def ReadyConverges (requirePrefill : Bool) (p : Phase) : Prop :=
  0 < p.observed.activeRequests → p.observed.serves requirePrefill

def CachedConverges (requirePrefill : Bool) (p : Phase) : Prop :=
  p.observed.artifactCached ∧ p.state≠.cold ∧
  (p.state=.cached → p.observed.runtimeLoaded=false ∧ ¬RouteStands requirePrefill p) ∧
  (p.state=.evicting → RouteStands requirePrefill p → p.observed.runtimeLoaded)

def ColdConverges (requirePrefill : Bool) (p : Phase) : Prop :=
  (p.state=.cold → p.observed.artifactCached=false ∧ p.observed.runtimeLoaded=false ∧
    ¬RouteStands requirePrefill p) ∧
  (p.state=.cached ∨ p.state=.evicting → RouteStands requirePrefill p → p.observed.runtimeLoaded)

def Converges (plan : Plan) (p : Phase) : Prop := isKnownState p.state ∧ Owned p ∧
  match plan.target with
  | .ready => ReadyConverges plan.requirePrefill p
  | .cached => CachedConverges plan.requirePrefill p
  | _ => ColdConverges plan.requirePrefill p

def Matches (plan : Plan) (p : Phase) : Prop :=
  p.state=plan.target ∧ consistent p.state p.observed plan.requirePrefill ∧
  match plan.target with
  | .ready => p.observed.serves plan.requirePrefill ∧ p.observed.routeAttached
  | .cached =>
      p.observed.artifactCached ∧ p.observed.runtimeLoaded=false ∧
      p.observed.routeAttached=false
  | _ =>
      p.observed.artifactCached=false ∧ p.observed.runtimeLoaded=false ∧
      p.observed.routeAttached=false

def Phase.detached (p : Phase) : Phase :=
  ⟨p.state,{p.observed with routeAttached := false, acceptingRequests := false}⟩

section
variable (p : Phase)

@[simp] theorem detached_state : p.detached.state=p.state := rfl
@[simp] theorem detached_artifactCached :
    p.detached.observed.artifactCached=p.observed.artifactCached := rfl
@[simp] theorem detached_runtimeLoaded :
    p.detached.observed.runtimeLoaded=p.observed.runtimeLoaded := rfl
@[simp] theorem detached_serves (requirePrefill : Bool) :
    p.detached.observed.serves requirePrefill=p.observed.serves requirePrefill := rfl
@[simp] theorem detached_routeAttached : p.detached.observed.routeAttached=false := rfl
@[simp] theorem detached_acceptingRequests : p.detached.observed.acceptingRequests=false := rfl
@[simp] theorem detached_activeRequests :
    p.detached.observed.activeRequests=p.observed.activeRequests := rfl

end

theorem phaseStep_consistent {accepts : Bool} {plan : Plan} {p : Phase}
    (fits : consistent p.state p.observed plan.requirePrefill) :
    phaseStep accepts plan p=⟨(targetCourse plan p.state p.observed).state,
        performAll accepts p.observed (targetCourse plan p.state p.observed).actions⟩ := by
  simp [phaseStep,calmCourse,fits]

theorem performAll_append (accepts : Bool) (o : Observation) (as bs : List Action) :
    performAll accepts o (as++bs)=performAll accepts (performAll accepts o as) bs := by
  simp [performAll]

theorem performAll_failClosed {accepts : Bool} {o : Observation} :
    performAll accepts o (failClosedActions o)=perform accepts o .detachRoute := by
  unfold failClosedActions
  split_ifs with route
  · rfl
  · have off : o.routeAttached=false ∧ o.acceptingRequests=false := by simpa using route
    cases o
    obtain ⟨rfl,rfl⟩ := off
    rfl

theorem phaseStep_inconsistent {accepts : Bool} {plan : Plan} {p : Phase}
    (fails : ¬consistent p.state p.observed plan.requirePrefill) :
    phaseStep accepts plan p=p.detached := by
  unfold phaseStep calmCourse
  rw [if_neg fails]
  exact congrArg _ (performAll_failClosed)

variable {requirePrefill : Bool}

theorem owned_of_consistent {p : Phase}
    (fits : consistent p.state p.observed requirePrefill) : Owned p := by
  obtain ⟨low,-,-,owned⟩ := (consistent_iff).mp fits
  exact ⟨low,owned⟩

theorem consistent_detached {p : Phase} (owned : Owned p) :
    consistent p.detached.state p.detached.observed requirePrefill := by
  rw [consistent_iff]
  simpa [Owned] using owned

theorem route_of_inconsistent {p : Phase} (owned : Owned p)
    (fails : ¬consistent p.state p.observed requirePrefill) :
    p.observed.routeAttached || p.observed.acceptingRequests := by
  by_contra _
  apply fails
  rw [consistent_iff]
  simp_all [Owned]

theorem converges_detached {plan : Plan} {p : Phase}
    (fails : ¬consistent p.state p.observed plan.requirePrefill) :
    Converges plan p.detached ↔ Converges plan p := by
  have stands : ¬RouteStands plan.requirePrefill p := fun h => fails h.2
  have off : ¬RouteStands plan.requirePrefill p.detached := fun h => by simpa using h.1
  unfold Converges
  cases plan.target <;>
    simp [ReadyConverges,CachedConverges,ColdConverges,stands,off,Owned]

theorem toInt_pred_of_pos {n : Int64} (h : 0 < n) : 0 < n.toInt ∧ (n-1).toInt=n.toInt-1 := by
  have pos : 0 < n.toInt := Int64.lt_iff_toInt_lt.mp h
  exact ⟨pos,int64_toInt_sub_of_le (by decide) (Int64.le_iff_toInt_le.mpr pos)⟩

theorem pred_nonneg {n : Int64} (h : 0 < n) : 0 ≤ n-1 := by
  obtain ⟨pos,pred⟩ := toInt_pred_of_pos h
  rw [Int64.le_iff_toInt_le,pred]
  exact Int.sub_nonneg_of_le pos

section
variable (a l t q rp : Bool) (n : Int64) (e : String)

@[simp] theorem serves_same (o : Observation) :
    Observation.serves ⟨a,l,o.runtimeReady,o.prefillReady,t,q,n,e⟩ rp=o.serves rp := rfl
@[simp] theorem serves_warm : Observation.serves ⟨a,l,true,true,t,q,n,e⟩ rp=true := by
  simp [Observation.serves]
@[simp] theorem serves_stopped (f : Bool) : Observation.serves ⟨a,l,false,f,t,q,n,e⟩ rp=false := rfl

end

inductive ReadyStep (accepts requirePrefill : Bool) : Phase → Phase → Prop
  | found {o : Observation} (ha : o.artifactCached) :
      ReadyStep accepts requirePrefill ⟨.cold,o⟩ ⟨.cached,o⟩
  | fetch {s : State} {o : Observation} (hs : s=.cold ∨ s=.cached)
      (ha : o.artifactCached=false) :
      ReadyStep accepts requirePrefill ⟨s,o⟩ ⟨.cold,perform accepts o .cacheArtifact⟩
  | start {o : Observation} (ha : o.artifactCached) :
      ReadyStep accepts requirePrefill ⟨.cached,o⟩ ⟨.loading,perform accepts o .loadRuntime⟩
  | load {o : Observation} (hl : o.runtimeLoaded=false) :
      ReadyStep accepts requirePrefill ⟨.loading,o⟩ ⟨.loading,perform accepts o .loadRuntime⟩
  | loaded {o : Observation} (hl : o.runtimeLoaded) :
      ReadyStep accepts requirePrefill ⟨.loading,o⟩ ⟨.warming,perform accepts o .warmRuntime⟩
  | warm {s : State} {o : Observation}
      (hs : s=.warming ∨ s=.ready ∨ s=.draining ∨ s=.evicting)
      (hv : o.serves requirePrefill=false) :
      ReadyStep accepts requirePrefill ⟨s,o⟩ ⟨.warming,perform accepts o .warmRuntime⟩
  | attach {s : State} {o : Observation}
      (hs : s=.warming ∨ s=.draining ∨ s=.evicting ∨ (s=.ready ∧ o.routeAttached=false))
      (hv : o.serves requirePrefill) :
      ReadyStep accepts requirePrefill ⟨s,o⟩ ⟨.ready,perform accepts o .attachRoute⟩
  | rest {o : Observation} (hv : o.serves requirePrefill) (hr : o.routeAttached) :
      ReadyStep accepts requirePrefill ⟨.ready,o⟩ ⟨.ready,o⟩

theorem readyStep_of_consistent (accepts : Bool) {plan : Plan} (ht : plan.target=.ready)
    {p : Phase} (known : isKnownState p.state)
    (fits : consistent p.state p.observed plan.requirePrefill) :
    ReadyStep accepts plan.requirePrefill p (phaseStep accepts plan p) := by
  rw [phaseStep_consistent fits]
  obtain ⟨state,o⟩ := p
  simp only [targetCourse,readyCourse]
  cases state with
  | cold =>
    dsimp only
    split_ifs with ha
    · exact .found ha
    · exact .fetch (.inl rfl) (by simpa using ha)
  | cached =>
    dsimp only
    split_ifs with ha
    · exact .start ha
    · exact .fetch (.inr rfl) (by simpa using ha)
  | loading =>
    dsimp only
    split_ifs with hl
    · exact .loaded hl
    · exact .load (by simpa using hl)
  | ready =>
    dsimp only
    split_ifs with resting hv
    · exact .rest resting.1 resting.2
    · exact .attach (by simp_all) hv
    · exact .warm (by simp) (by simpa using hv)
  | warming | draining | evicting =>
    dsimp only
    split_ifs with hv
    · exact .attach (by simp) hv
    · exact .warm (by simp) (by simpa using hv)
  | other text => cases known

inductive LowerStep (accepts : Bool) (target : State) : Phase → Phase → Prop
  | rest {o : Observation} : LowerStep accepts target ⟨target,o⟩ ⟨target,o⟩
  | drain {o : Observation} :
      LowerStep accepts target ⟨.ready,o⟩ ⟨.draining,perform accepts o .detachRoute⟩
  | cancel {s : State} {o : Observation} (hs : s=.loading ∨ s=.warming) :
      LowerStep accepts target ⟨s,o⟩
        ⟨.evicting,perform accepts (perform accepts o .detachRoute) .stopRuntime⟩
  | detach {o : Observation} (hr : o.routeAttached) :
      LowerStep accepts target ⟨.draining,o⟩ ⟨.draining,perform accepts o .detachRoute⟩
  | wait {o : Observation} (hr : o.routeAttached=false) (hn : 0 < o.activeRequests) :
      LowerStep accepts target ⟨.draining,o⟩ ⟨.draining,perform accepts o .waitForDrain⟩
  | drained {o : Observation} (hr : o.routeAttached=false) (hn : ¬0 < o.activeRequests) :
      LowerStep accepts target ⟨.draining,o⟩ ⟨.evicting,perform accepts o .stopRuntime⟩
  | stop {o : Observation} (hl : o.runtimeLoaded) :
      LowerStep accepts target ⟨.evicting,o⟩ ⟨.evicting,perform accepts o .stopRuntime⟩
  | keep {o : Observation} (hl : o.runtimeLoaded=false) (ht : target=.cached)
      (ha : o.artifactCached) : LowerStep accepts target ⟨.evicting,o⟩ ⟨.cached,o⟩
  | evict {s : State} {o : Observation} (ht : target=.cold)
      (hs : s=.cached ∨ (s=.evicting ∧ o.runtimeLoaded=false ∧ o.artifactCached)) :
      LowerStep accepts target ⟨s,o⟩ ⟨.evicting,perform accepts o .evictArtifact⟩
  | evicted {o : Observation} (hl : o.runtimeLoaded=false) (ha : o.artifactCached=false) :
      LowerStep accepts target ⟨.evicting,o⟩ ⟨.cold,o⟩
  | fetch {o : Observation} (ht : target=.cached) :
      LowerStep accepts target ⟨.cold,o⟩ ⟨.cold,perform accepts o .cacheArtifact⟩

theorem lowerStep_of_consistent (accepts : Bool) {plan : Plan}
    (ht : plan.target=.cached ∨ plan.target=.cold) {p : Phase} (known : isKnownState p.state)
    (fits : consistent p.state p.observed plan.requirePrefill) :
    LowerStep accepts plan.target p (phaseStep accepts plan p) := by
  have notReady : plan.target≠.ready := by rcases ht with ht | ht <;> simp [ht]
  rw [phaseStep_consistent fits]
  obtain ⟨state,o⟩ := p
  simp only [targetCourse,notReady,if_false,lowerCourse]
  by_cases same : state=plan.target
  · subst same
    simp only [if_true]
    exact .rest
  rw [if_neg same]
  cases state with
  | ready => exact .drain
  | loading =>
    rw [performAll_append,performAll_failClosed]
    exact .cancel (.inl rfl)
  | warming =>
    rw [performAll_append,performAll_failClosed]
    exact .cancel (.inr rfl)
  | draining =>
    dsimp only
    split_ifs with hr hn
    · exact .detach hr
    · exact .wait (by simpa using hr) hn
    · exact .drained (by simpa using hr) hn
  | evicting =>
    dsimp only
    split_ifs with hl kept ha
    · exact .stop hl
    · exact .keep (by simpa using hl) kept.1 kept.2
    · have cold : plan.target=.cold := ht.resolve_left (fun h => kept ⟨h,ha⟩)
      exact .evict cold (.inr ⟨rfl,by simpa using hl,ha⟩)
    · exact .evicted (by simpa using hl) (by simpa using ha)
  | cached =>
    exact .evict (ht.resolve_left (Ne.symm same)) (.inl rfl)
  | cold =>
    exact .fetch (ht.resolve_right (Ne.symm same))
  | other text => cases known

theorem ReadyStep.converges_iff {accepts requirePrefill : Bool} {p q : Phase}
    (st : ReadyStep accepts requirePrefill p q)
    (fits : consistent p.state p.observed requirePrefill) :
    (Owned q ∧ ReadyConverges requirePrefill q) ↔ ReadyConverges requirePrefill p := by
  have h := (consistent_iff).mp fits
  cases st with
  | fetch hs | warm hs =>
    rcases hs with rfl | rfl | rfl | rfl <;> simp_all [Owned,ReadyConverges,perform]
  | found | start | load | loaded | attach | rest =>
    simp_all [Owned,ReadyConverges,perform]

theorem ReadyStep.consistent {accepts requirePrefill : Bool} {p q : Phase}
    (st : ReadyStep accepts requirePrefill p q)
    (fits : consistent p.state p.observed requirePrefill)
    (good : ReadyConverges requirePrefill p) : consistent q.state q.observed requirePrefill := by
  have next := ((st.converges_iff fits).mpr good).1
  have h := (consistent_iff).mp fits
  -- requests are accepted only over a route, and a route needs a runtime that serves
  have quiet (hv : p.observed.serves requirePrefill=false) :
      p.observed.acceptingRequests=false := by
    by_contra on
    have route := h.2.1 (by simpa using on)
    rw [h.2.2.1 route.1] at hv
    cases hv
  rw [consistent_iff]
  cases st with
  | warm hs hv =>
    rcases hs with rfl | rfl | rfl | rfl <;> simp_all [Owned,perform]
  | fetch hs => rcases hs with rfl | rfl <;> simp_all [perform]
  | found | start | load | loaded | attach | rest => simp_all [perform]

def readyHeight (requirePrefill : Bool) (p : Phase) : Nat :=
  match p.state with
  | .cold => if p.observed.artifactCached then 4 else 5
  | .cached => if p.observed.artifactCached then 3 else 5
  | .loading => if p.observed.runtimeLoaded then 2 else 3
  | _ =>
      if p.observed.serves requirePrefill then
        (if p.state=.ready ∧ p.observed.routeAttached then 0 else 1)
      else 2

theorem ReadyStep.height_lt {accepts requirePrefill : Bool} {p q : Phase}
    (st : ReadyStep accepts requirePrefill p q)
    (busy : ¬(p.state=.ready ∧ p.observed.serves requirePrefill ∧ p.observed.routeAttached)) :
    readyHeight requirePrefill q<readyHeight requirePrefill p := by
  cases st with
  | rest hv hr => exact absurd ⟨rfl,hv,hr⟩ busy
  | fetch hs | warm hs =>
    rcases hs with rfl | rfl | rfl | rfl <;> simp_all [readyHeight,perform]
  | attach hs =>
    rcases hs with rfl | rfl | rfl | ⟨rfl,_⟩ <;> simp_all [readyHeight,perform]
  | found | start | load | loaded => simp_all [readyHeight,perform]

theorem LowerStep.cached_converges_iff {accepts requirePrefill : Bool} {p q : Phase}
    (st : LowerStep accepts .cached p q) (fits : consistent p.state p.observed requirePrefill) :
    (Owned q ∧ CachedConverges requirePrefill q) ↔ CachedConverges requirePrefill p := by
  have h := (consistent_iff).mp fits
  cases st with
  | evict ht => cases ht
  | wait hr hn =>
    have low := pred_nonneg hn
    simp_all [Owned,CachedConverges,perform]
  | cancel hs =>
    rcases hs with rfl | rfl <;>
      simp_all [Owned,CachedConverges,RouteStands,perform]
  | rest | drain | detach | drained | stop | keep | evicted | fetch =>
    simp_all [Owned,CachedConverges,perform,RouteStands,consistent_iff]

theorem LowerStep.cold_converges_iff {accepts requirePrefill : Bool} {p q : Phase}
    (st : LowerStep accepts .cold p q) (fits : consistent p.state p.observed requirePrefill) :
    (Owned q ∧ ColdConverges requirePrefill q) ↔ ColdConverges requirePrefill p := by
  cases st with
  | keep _ ht => cases ht
  | wait hr hn =>
    have low := pred_nonneg hn
    simp_all [Owned,ColdConverges,perform]
  | cancel hs | evict _ hs =>
    rcases hs with rfl | _ <;>
      simp_all [Owned,ColdConverges,RouteStands,consistent_iff,perform]
  | rest | drain | detach | drained | stop | evicted | fetch =>
    simp_all [Owned,ColdConverges,perform,RouteStands,consistent_iff]

def lowerRank (target : State) (p : Phase) : Nat :=
  (p.observed.routeAttached || p.observed.acceptingRequests).toNat+
  match p.state with
  | .ready => 4+p.observed.activeRequests.toNatClampNeg
  | .draining => 3+p.observed.activeRequests.toNatClampNeg
  | .loading | .warming => 3
  | .evicting => 1+p.observed.runtimeLoaded.toNat+p.observed.artifactCached.toNat
  | .cached => if target=.cached then 0 else 2+p.observed.runtimeLoaded.toNat
  | _ => 0

theorem pred_toNat_lt {n : Int64} (h : 0 < n) : (n-1).toNatClampNeg<n.toNatClampNeg := by
  obtain ⟨_,_⟩ := toInt_pred_of_pos h
  change (n-1).toInt.toNat<n.toInt.toNat
  omega

theorem LowerStep.rank_lt {accepts requirePrefill : Bool} {target : State} {p q : Phase}
    (st : LowerStep accepts target p q)
    (fits : Residency.consistent p.state p.observed requirePrefill) (moving : p.state≠target)
    (good : ¬(p.state=.cold ∧ target=.cached)) : lowerRank target q<lowerRank target p := by
  have artifact := p.observed.artifactCached.toNat_le
  cases st with
  | rest => exact absurd rfl moving
  | fetch ht => exact absurd ⟨rfl,ht⟩ good
  | wait hr hn =>
    have falls := pred_toNat_lt hn
    simp_all [lowerRank,perform]
  | cancel hs =>
    rcases hs with rfl | rfl <;> simp_all [lowerRank,perform] <;> omega
  | evict ht hs =>
    rcases hs with rfl | ⟨rfl,hl,_⟩ <;> simp_all [lowerRank,perform]
  | drain | drained =>
    simp_all [lowerRank,perform]
    omega
  | detach | stop | keep | evicted => simp_all [lowerRank,perform]

theorem isKnownState_lower {accepts : Bool} {target : State} {p q : Phase}
    (st : LowerStep accepts target p q) (known : isKnownState p.state) :
    isKnownState q.state := by
  cases st with
  | rest => exact known
  | drain | cancel | detach | wait | drained | stop | keep | evict | evicted | fetch => rfl

theorem isKnownState_ready {accepts requirePrefill : Bool} {p q : Phase}
    (st : ReadyStep accepts requirePrefill p q) : isKnownState q.state := by
  cases st <;> rfl

def rank (plan : Plan) (p : Phase) : Nat :=
  if plan.target=.ready then
    (if consistent p.state p.observed plan.requirePrefill then 0 else 1)+
      readyHeight plan.requirePrefill p
  else lowerRank plan.target p

theorem rank_le {plan : Plan} {p : Phase} :
    rank plan p ≤ 12+p.observed.activeRequests.toInt.toNat := by
  have route := (p.observed.routeAttached || p.observed.acceptingRequests).toNat_le
  have loaded := p.observed.runtimeLoaded.toNat_le
  have artifact := p.observed.artifactCached.toNat_le
  have count : p.observed.activeRequests.toNatClampNeg=
      p.observed.activeRequests.toInt.toNat := rfl
  unfold rank readyHeight lowerRank
  cases p.state <;> dsimp only <;> split_ifs <;> omega

theorem rank_detached_lt {plan : Plan} {p : Phase} (owned : Owned p)
    (fails : ¬consistent p.state p.observed plan.requirePrefill) :
    rank plan p.detached<rank plan p := by
  have route := route_of_inconsistent owned fails
  unfold rank
  split_ifs with ready fits
  · -- a ready, serving model with its route would have been consistent
    have unsettled : ¬(p.state=.ready ∧ p.observed.serves plan.requirePrefill ∧
        p.observed.routeAttached) := by
      rintro ⟨_,_,_⟩
      apply fails
      rw [consistent_iff]
      simp_all [Owned]
    have same : readyHeight plan.requirePrefill p.detached=readyHeight plan.requirePrefill p := by
      unfold readyHeight
      rw [detached_state]
      cases hs : p.state with
      | cold | cached | loading => rfl
      | warming | ready | draining | evicting | other => simp_all
    omega
  · exact absurd (consistent_detached owned) fits
  · unfold lowerRank
    rw [route]
    simp

section
variable (accepts : Bool) {plan : Plan} (target : stable plan.target)
include target

theorem isKnownState_step (p : Phase) :
    isKnownState (phaseStep accepts plan p).state=isKnownState p.state := by
  by_cases fits : consistent p.state p.observed plan.requirePrefill
  · cases known : isKnownState p.state with
    | true =>
      rcases stable_iff.mp target with ht | ht
      · exact isKnownState_ready (readyStep_of_consistent _ ht known fits)
      · exact isKnownState_lower (lowerStep_of_consistent _ ht known fits) known
    | false =>
      rw [phaseStep_consistent fits]
      obtain ⟨state,o⟩ := p
      cases state with
      | other text =>
        simp [targetCourse,readyCourse,lowerCourse,isKnownState]
      | cold | cached | loading | warming | ready | draining | evicting => cases known
  · rw [phaseStep_inconsistent fits]
    rfl

theorem converges_step (p : Phase) :
    Converges plan (phaseStep accepts plan p) ↔ Converges plan p := by
  by_cases fits : consistent p.state p.observed plan.requirePrefill
  · have owned := owned_of_consistent fits
    have same := isKnownState_step accepts target p
    by_cases known : isKnownState p.state
    · rcases stable_iff.mp target with ht | ht | ht
      · have st := readyStep_of_consistent accepts ht known fits
        simpa [Converges,ht,known,owned,same] using st.converges_iff fits
      · have st := lowerStep_of_consistent accepts (.inl ht) known fits
        rw [ht] at st
        simpa [Converges,ht,known,owned,same] using st.cached_converges_iff fits
      · have st := lowerStep_of_consistent accepts (.inr ht) known fits
        rw [ht] at st
        simpa [Converges,ht,known,owned,same] using st.cold_converges_iff fits
    · simp [Converges,same,known]
  · rw [phaseStep_inconsistent fits]
    exact converges_detached fits

theorem matches_fixed {p : Phase} (h : Matches plan p) : phaseStep accepts plan p=p := by
  obtain ⟨_,fits,_⟩ := h
  rw [phaseStep_consistent fits]
  obtain ⟨s,o⟩ := p
  rcases stable_iff.mp target with _ | _ | _ <;>
    simp_all [targetCourse,readyCourse,lowerCourse,performAll]

theorem converges_of_matches {p : Phase} (h : Matches plan p) : Converges plan p := by
  obtain ⟨_,fits,_⟩ := h
  have owned := owned_of_consistent fits
  rcases stable_iff.mp target with _ | _ | _ <;>
    simp_all [Converges,ReadyConverges,CachedConverges,ColdConverges,isKnownState,RouteStands]

theorem rank_falls {p : Phase} (good : Converges plan p) :
    Matches plan p ∨ rank plan (phaseStep accepts plan p)<rank plan p := by
  obtain ⟨known,owned,goal⟩ := good
  by_cases fits : consistent p.state p.observed plan.requirePrefill
  · rcases stable_iff.mp target with ht | ht
    · have st := readyStep_of_consistent accepts ht known fits
      by_cases done : p.state=.ready ∧ p.observed.serves plan.requirePrefill ∧
          p.observed.routeAttached
      · exact .inl ⟨done.1.trans ht.symm,fits,by simpa [ht] using done.2⟩
      · right
        simp only [ht] at goal
        have next := st.consistent fits goal
        simpa [rank,ht,fits,next] using st.height_lt done
    · have st := lowerStep_of_consistent accepts ht known fits
      have notReady : plan.target≠.ready := by rcases ht with ht | ht <;> simp [ht]
      by_cases done : p.state=plan.target
      · left
        refine ⟨done,fits,?_⟩
        rcases ht with _ | _ <;>
          simp_all [CachedConverges,ColdConverges,RouteStands]
      · right
        have goes : ¬(p.state=.cold ∧ plan.target=.cached) := by
          rintro ⟨hs,hc⟩
          simp [hc,CachedConverges,hs] at goal
        simpa [rank,notReady] using st.rank_lt fits done goes
  · right
    rw [phaseStep_inconsistent fits]
    exact rank_detached_lt owned fits

end

structure Loop where
  snapshot : Snapshot
  observed : Observation
  deriving DecidableEq

def Loop.phase (l : Loop) : Phase := ⟨l.snapshot.state,l.observed⟩

def loopStep (accepts : Bool) (plan : Plan) (now : Time) (l : Loop) : Loop :=
  let d := (advance now l.snapshot plan l.observed).1
  ⟨d.snapshot,performAll accepts l.observed d.actions⟩

def loopAt (accepts : Bool) (plan : Plan) (clock : Nat → Time) (start : Loop) : Nat → Loop
  | 0 => start
  | k+1 => loopStep accepts plan (clock k) (loopAt accepts plan clock start k)

def Calm (now : Time) (l : Loop) : Prop := l.observed.failure="" ∧ overdue now l.snapshot=false

theorem failure_performAll {accepts : Bool} (o : Observation) {actions : List Action} :
    (performAll accepts o actions).failure=o.failure := by
  induction actions generalizing o with
  | nil => rfl
  | cons a as ih =>
    refine (ih _).trans ?_
    cases a <;> rfl

theorem loopStep_phase (accepts : Bool) {plan : Plan} (target : stable plan.target)
    {now : Time} {l : Loop} (known : isKnownState l.snapshot.state) (calm : Calm now l) :
    (loopStep accepts plan now l).phase=phaseStep accepts plan l.phase := by
  have course := advance_course now l.snapshot plan l.observed
  have ordinary : courseOf (overdue now l.snapshot) l.snapshot plan l.observed=
      calmCourse plan l.phase := by
    unfold courseOf calmCourse
    rw [if_pos ⟨known,target⟩,if_neg (by simp [calm.1,calm.2])]
    rfl
  rw [ordinary] at course
  unfold phaseStep
  rw [← course]
  rfl

theorem loopAt_phase {accepts : Bool} {plan : Plan} (target : stable plan.target)
    {clock : Nat → Time} {start : Loop} (known : isKnownState start.snapshot.state)
    (clean : start.observed.failure="")
    (early : ∀k,overdue (clock k) (loopAt accepts plan clock start k).snapshot=false) (k : Nat) :
    (loopAt accepts plan clock start k).phase=(phaseStep accepts plan)^[k] start.phase ∧
    isKnownState (loopAt accepts plan clock start k).snapshot.state ∧
    (loopAt accepts plan clock start k).observed.failure="" := by
  induction k with
  | zero => exact ⟨rfl,known,clean⟩
  | succ k ih =>
    obtain ⟨phase,kept,quiet⟩ := ih
    have step := loopStep_phase accepts target kept ⟨quiet,early k⟩
    refine ⟨?_,?_,?_⟩
    · rw [Function.iterate_succ_apply',← phase]
      exact step
    · have same := isKnownState_step accepts target (loopAt accepts plan clock start k).phase
      rw [← step] at same
      exact same.trans kept
    · exact (failure_performAll _).trans quiet

theorem loop_settles_iff (accepts : Bool) (plan : Plan) (clock : Nat → Time) (start : Loop)
    (known : isKnownState start.snapshot.state) (target : stable plan.target)
    (clean : start.observed.failure="")
    (early : ∀k,overdue (clock k) (loopAt accepts plan clock start k).snapshot=false) :
    (∀k,12+start.observed.activeRequests.toInt.toNat ≤ k →
        Matches plan (loopAt accepts plan clock start k).phase) ↔
      Converges plan start.phase := by
  have phases := fun k => (loopAt_phase target known clean early k).1
  simp only [phases]
  exact settles_iff (fun p h => (matches_fixed accepts target h).symm ▸ h)
    (fun _ => converges_of_matches target) (converges_step accepts target)
    (fun _ => rank_falls accepts target) (fun _ => rank_le)

theorem loopAt_of_fixed {accepts : Bool} {plan : Plan} {now : Time} {start : Loop} {n : Nat}
    (fixed : loopAt accepts plan (fun _ => now) start (n+1)=
      loopAt accepts plan (fun _ => now) start n) (k : Nat) :
    loopAt accepts plan (fun _ => now) start (n+k)=loopAt accepts plan (fun _ => now) start n := by
  induction k with
  | zero => rfl
  | succ k ih => exact (congrArg _ ih).trans fixed

def bareStart : Loop := ⟨⟨.cold,.cold,0,0⟩,⟨false,false,false,false,false,false,0,""⟩⟩

theorem cold_start_settles :
    (∀k,overdue 1 (loopAt true ⟨.ready,true,0⟩ (fun _ => 1) bareStart k).snapshot=false) ∧
    ∀k,12+bareStart.observed.activeRequests.toInt.toNat ≤ k →
      Matches ⟨.ready,true,0⟩ (loopAt true ⟨.ready,true,0⟩ (fun _ => 1) bareStart k).phase := by
  have early k :
      overdue 1 (loopAt true ⟨.ready,true,0⟩ (fun _ => 1) bareStart k).snapshot=false := by
    rcases Nat.lt_or_ge k 6 with _ | high
    · revert k
      decide
    · obtain ⟨j,rfl⟩ := Nat.exists_eq_add_of_le high
      rw [loopAt_of_fixed (by decide)]
      decide
  refine ⟨early,(loop_settles_iff true ⟨.ready,true,0⟩ (fun _ => 1) bareStart rfl rfl rfl
    early).mpr ?_⟩
  exact ⟨rfl,⟨by decide,by decide⟩,fun busy => absurd busy (by decide)⟩

theorem cold_never_cached :
    (∀k,overdue 1 (loopAt true ⟨.cached,false,0⟩ (fun _ => 1) bareStart k).snapshot=false) ∧
    ¬∀k,12+bareStart.observed.activeRequests.toInt.toNat ≤ k →
      Matches ⟨.cached,false,0⟩ (loopAt true ⟨.cached,false,0⟩ (fun _ => 1) bareStart k).phase := by
  have stuck := @loopAt_of_fixed true ⟨.cached,false,0⟩ 1 bareStart 1 (by decide)
  constructor
  · intro k
    cases k with
    | zero => decide
    | succ k =>
      rw [Nat.add_comm,stuck]
      decide
  · intro settles
    have reached := (settles (1+11) (by decide)).1
    revert reached
    decide

end KServeLLM.Residency
