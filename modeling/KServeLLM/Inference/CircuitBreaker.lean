import KServeLLM.Inference.RequestPipeline

namespace KServeLLM.Inference.RequestPipeline

variable {κ : Type} [DecidableEq κ] (hash : PromptHash κ)

abbrev Executions (κ : Type) : Type :=
  List (Step (RequestPipeline κ) Call (Except PipelineError InferenceResponse))

def countFailure (endpoint : String) (failures : Nat)
    (st : Step (RequestPipeline κ) Call (Except PipelineError InferenceResponse)) : Nat :=
  if st.before.servedBy hash st.call=some endpoint then
    match st.call.inference with
    | none => 0
    | some _ => if st.call.req.sessionEndpoint=endpoint then failures+1 else failures
  else failures

def failures (tr : Executions κ) (endpoint : String) : Nat :=
  tr.foldl (countFailure hash endpoint) 0

def BreakerOpens (tr : Executions κ) (p : RequestPipeline κ) : Prop :=
  ∀endpoint,endpoint≠"" → 3 ≤ failures hash tr endpoint →
    ∀candidates elapsed,(route p.routing.pool endpoint candidates elapsed).2.cacheHit=false

def NoThirdFailure (tr : Executions κ) (p : RequestPipeline κ) (call : Call) : Prop :=
  p.servedBy hash call=some call.req.sessionEndpoint → call.req.sessionEndpoint≠"" →
    call.inference.isSome → failures hash tr call.req.sessionEndpoint<2

def Unrecorded (p : RequestPipeline κ) : Prop :=
  ∀endpoint,(p.routing.pool.conn endpoint).errorCount=0

variable {p : RequestPipeline κ}

theorem Unrecorded.execute (h : Unrecorded p) (call : Call) :
    Unrecorded (p.execute hash call).1 := by
  intro endpoint
  rcases execute_errorCount hash with same | zero
  · exact same.trans (h endpoint)
  · exact zero

theorem Unrecorded.breakerOpens_iff (h : Unrecorded p) (tr : Executions κ) :
    BreakerOpens hash tr p ↔ ∀endpoint,endpoint≠"" → failures hash tr endpoint<3 := by
  constructor
  · intro law endpoint named
    by_contra many
    have closed : (p.routing.pool.conn endpoint).errorCount<3 := by
      rw [h]
      decide
    have fast := (route_fast named closed [] 0).2
    rw [law endpoint named (Nat.le_of_not_lt many)] at fast
    cases fast
  · intro few endpoint named many
    exact absurd (few endpoint named) (Nat.not_lt_of_le many)

theorem failures_snoc (tr : Executions κ) (p : RequestPipeline κ) (call : Call)
    (endpoint : String) :
    failures hash (tr++[stepOf (execute hash) p call]) endpoint=
      if p.servedBy hash call=some endpoint then
        match call.inference with
        | none => 0
        | some _ =>
          if call.req.sessionEndpoint=endpoint then failures hash tr endpoint+1
          else failures hash tr endpoint
      else failures hash tr endpoint := by
  unfold failures
  rw [List.foldl_append]
  rfl

theorem failures_keep {tr : Executions κ} {call : Call} (good : NoThirdFailure hash tr p call)
    {endpoint : String} (named : endpoint≠"") (few : failures hash tr endpoint<3) :
    failures hash (tr++[stepOf (execute hash) p call]) endpoint<3 := by
  rw [failures_snoc]
  split
  · next served =>
    cases failed : call.inference with
    | none => exact Nat.zero_lt_succ 2
    | some cause =>
      dsimp only
      split
      · next bound =>
        subst bound
        exact Nat.succ_lt_succ (good served named (by rw [failed]; rfl))
      · exact few
  · exact few

theorem failures_third {tr : Executions κ} {call : Call}
    (served : p.servedBy hash call=some call.req.sessionEndpoint) (failed : call.inference.isSome) :
    failures hash (tr++[stepOf (execute hash) p call]) call.req.sessionEndpoint=
      failures hash tr call.req.sessionEndpoint+1 := by
  obtain ⟨_,text⟩ := Option.isSome_iff_exists.mp failed
  rw [failures_snoc,if_pos served,text]
  exact if_pos rfl

omit [DecidableEq κ] in
theorem newRequestPipeline_unrecorded (policy : Option AccessPlane.Evaluator) :
    Unrecorded (newRequestPipeline policy : RequestPipeline κ) := fun _ => rfl

theorem breaker_opens_iff (policy : Option AccessPlane.Evaluator) (calls : List Call) :
    Always (execute hash) (newRequestPipeline policy) calls (BreakerOpens hash) ↔
      EachCall (execute hash) (newRequestPipeline policy) calls (NoThirdFailure hash) := by
  have start := newRequestPipeline_unrecorded (κ := κ) policy
  refine always_iff_eachCall (execute hash) (fun _ p => Unrecorded p) (BreakerOpens hash)
    (NoThirdFailure hash) _ start ?_ ?_ ?_ calls
  · exact (start.breakerOpens_iff hash []).mpr (fun _ _ => Nat.zero_lt_succ 2)
  · intro tr p call clean law good
    have after := clean.execute hash call
    refine ⟨after,(after.breakerOpens_iff hash _).mpr fun endpoint named => ?_⟩
    exact failures_keep hash good named ((clean.breakerOpens_iff hash tr).mp law endpoint named)
  · intro tr p call clean law next served named failed
    have few := ((clean.execute hash call).breakerOpens_iff hash _).mp next _ named
    rw [failures_third hash served failed] at few
    exact Nat.lt_of_succ_lt_succ few

def refusedCall : Call :=
  ⟨⟨"","",⟨⟨0,0⟩,∅⟩,"m","s","pod-a",["pod-b"],"hi"⟩,1,1,none,none,1,1,0,1,
    some "connection refused",2,2,2⟩

theorem breaker_stays_closed :
    ¬Always (execute PromptHash.plain) (newRequestPipeline none)
      [refusedCall,refusedCall,refusedCall] (BreakerOpens PromptHash.plain) := by
  intro law
  have opened := law _ (List.prefix_refl _) "pod-a" (by decide) (by decide) [] 0
  revert opened
  decide

end KServeLLM.Inference.RequestPipeline
