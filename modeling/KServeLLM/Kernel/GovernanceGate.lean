import Mathlib.Data.List.DropRight
import KServeLLM.Kernel.Lifecycle

namespace KServeLLM.Lifecycle

def visits (tr : History) : List State := (accepted tr).map (fun st => st.after.currentState)

def sinceQuarantine (path : List State) : List State := path.rtakeWhile (fun s => s≠.quarantined)

theorem sinceQuarantine_concat (path : List State) (s : State) :
    sinceQuarantine (path++[s])=if s=.quarantined then [] else sinceQuarantine path++[s] := by
  unfold sinceQuarantine
  rw [List.rtakeWhile_concat]
  by_cases h : s=.quarantined <;> simp

def passed : State → List State
  | .observed => [.observed]
  | .benchmarked => [.observed,.benchmarked]
  | .governed => [.observed,.benchmarked,.governed]
  | .promoted | .warming | .active | .draining => [.observed,.benchmarked,.governed,.promoted]
  | .quarantined | .retired | .other _ => []

theorem passed_edge {source target : State} (legal : canTransition source target)
    (away : target≠.quarantined) : (passed target).Sublist (passed source++[target]) := by
  cases source <;> cases target <;> simp_all [canTransition,legalTransitions,passed]

theorem visits_snoc (tr : History) (v : StateVector) (call : Call) :
    visits (tr++[stepOf apply v call])=
      if (apply v call).2=none then visits tr++[(apply v call).1.currentState]
      else visits tr := by
  unfold visits
  rw [accepted_snoc]
  split_ifs <;> simp [stepOf]

def Gated (tr : History) (v : StateVector) : Prop :=
  (passed v.currentState).Sublist (sinceQuarantine (.quarantined::visits tr))

theorem Gated.apply {tr : History} {v : StateVector} (h : Gated tr v) (call : Call) :
    Gated (tr++[stepOf Lifecycle.apply v call]) (Lifecycle.apply v call).1 := by
  unfold Gated
  rw [visits_snoc]
  rcases apply_cases with ⟨refused,same⟩ | ⟨taken,-,legal,cur,-⟩
  · rw [if_neg refused,same]
    exact h
  · rw [if_pos taken,cur,← List.cons_append,sinceQuarantine_concat]
    split_ifs with back
    · rw [back]
      exact List.Sublist.refl []
    · exact (passed_edge legal back).trans (h.append_right _)

theorem retired_edge {target : State} (legal : canTransition .retired target) :
    target=.quarantined := by
  cases target <;> simp_all [canTransition,legalTransitions]

def RetiredRequarantined (tr : History) : Prop :=
  ∀st∈tr,st.answer=none → st.before.currentState=.retired → st.after.currentState=.quarantined

theorem RetiredRequarantined.apply {tr : History} (h : RetiredRequarantined tr)
    (v : StateVector) (call : Call) :
    RetiredRequarantined (tr++[stepOf Lifecycle.apply v call]) := by
  refine forall_mem_snoc h fun done retired => ?_
  rcases apply_cases with ⟨refused,-⟩ | ⟨-,-,legal,cur,-⟩
  · exact absurd done refused
  · change v.currentState=.retired at retired
    rw [retired] at legal
    exact cur.trans (retired_edge legal)

theorem service_passes_gate (v : StateVector) (start : v.currentState=.quarantined)
    (calls : List Call) :
    Always apply v calls (fun tr w =>
      (w.currentState∈[State.promoted,.warming,.active,.draining] →
        [State.observed,.benchmarked,.governed,.promoted].Sublist
          (sinceQuarantine (.quarantined::visits tr))) ∧
      RetiredRequarantined tr) := by
  intro pre _
  have gated := run_induction apply (fun tr w => Gated tr w ∧ RetiredRequarantined tr) v
    ⟨by simp [Gated,start,passed],by simp [RetiredRequarantined]⟩
    (fun tr w call h => ⟨h.1.apply call,h.2.apply w call⟩) pre
  refine ⟨fun serving => ?_,gated.2⟩
  have behind : passed (run apply v pre).currentState=
      [.observed,.benchmarked,.governed,.promoted] := by
    simp only [List.mem_cons,List.not_mem_nil,or_false] at serving
    rcases serving with h | h | h | h <;> rw [h] <;> rfl
  rw [← behind]
  exact gated.1

theorem recalled_passes_gate : Always apply quarantinedVector
      ([State.observed,.benchmarked,.governed,.promoted,.active,.quarantined,.observed,
        .benchmarked,.governed,.promoted,.warming].map fun s => ⟨1,plainIntent s ""⟩)
      (fun tr w =>
        (w.currentState∈[State.promoted,.warming,.active,.draining] →
          [State.observed,.benchmarked,.governed,.promoted].Sublist
            (sinceQuarantine (.quarantined::visits tr))) ∧
        RetiredRequarantined tr) :=
  service_passes_gate quarantinedVector rfl _

end KServeLLM.Lifecycle
