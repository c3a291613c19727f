import KServeLLM.Controller.Objects
import KServeLLM.Governance.DecisionProfile

namespace KServeLLM.Governance

open Api (StatePlanes)
open Controller (Condition LLMLoraAdapter)

def scoreToTrust (score : Int) : String :=
  if score=-1 then "denied"
  else if score=0 then "unknown"
  else if score=1 then "asserted"
  else if score=2 then "verified"
  else if score=3 then "trusted"
  else ""

def foundationScore (conditions : List Condition) : Int :=
  match conditions.find? (·.type="Compliance-AC-4") with
  | some cond => trustScores (if cond.status="False" then "denied" else "asserted")
  | none => trustScores "asserted"

def addAdapter (acc : StatePlanes×Int) (a : LLMLoraAdapter) : StatePlanes×Int :=
  let lifecycle := if a.planes.lifecycle≠"active" then "quarantined" else acc.1.lifecycle
  let adapterTrust := if a.planes.trust="" then "unknown" else a.planes.trust
  let score := if trustScores adapterTrust < acc.2 then trustScores adapterTrust else acc.2
  let risk :=
    if a.planes.risk="quarantined" ∨ a.planes.risk="evaluating" then "high" else acc.1.risk
  ({acc.1 with lifecycle,risk},score)

def folded (conditions : List Condition) (adapters : List LLMLoraAdapter) : StatePlanes×Int :=
  adapters.foldl addAdapter
    ({lifecycle := "active",trust := "asserted",risk := "normal"},foundationScore conditions)

def aggregateStatePlanes (conditions : List Condition) (adapters : List LLMLoraAdapter) :
    StatePlanes :=
  let acc := folded conditions adapters
  let effective := {acc.1 with trust := scoreToTrust acc.2}
  if effective.lifecycle="quarantined" then {effective with trust := "denied"} else effective

theorem denied_le (level : String) : trustScores "denied" ≤ trustScores level := by
  have least : trustScores "denied"=-1 := by decide
  rw [least]
  unfold trustScores
  split_ifs <;> decide

theorem foundationScore_mem (conditions : List Condition) :
    foundationScore conditions=trustScores "denied" ∨
      foundationScore conditions=trustScores "asserted" := by
  unfold foundationScore
  split
  · split_ifs
    · exact .inl rfl
    · exact .inr rfl
  · exact .inr rfl

section

variable (acc : StatePlanes×Int) (a b : LLMLoraAdapter)

theorem addAdapter_score : (addAdapter acc a).2=min (trustScores a.planes.trust) acc.2 := by
  have unknown : trustScores (if a.planes.trust="" then "unknown" else a.planes.trust)=
      trustScores a.planes.trust := by
    split_ifs with empty
    · rw [empty]
      decide
    · rfl
  unfold addAdapter
  simp only [unknown]
  split_ifs <;> omega

theorem addAdapter_comm : addAdapter (addAdapter acc a) b=addAdapter (addAdapter acc b) a := by
  refine Prod.ext ?_ ?_
  · simp only [addAdapter,StatePlanes.mk.injEq]
    refine ⟨?_,trivial,trivial,trivial,?_⟩ <;> split_ifs <;> rfl
  · simp only [addAdapter_score]
    omega

end

variable (conditions : List Condition)

/-- What the loop has reached of a list of adapters. -/
structure Bounded (adapters : List LLMLoraAdapter) (acc : StatePlanes×Int) : Prop where
  foundation : acc.2 ≤ foundationScore conditions
  adapter : ∀a∈adapters,acc.2 ≤ trustScores a.planes.trust
  low : trustScores "denied" ≤ acc.2
  lifecycle : acc.1.lifecycle="quarantined" ∨
    acc.1.lifecycle="active" ∧ ∀a∈adapters,a.planes.lifecycle="active"

theorem folded_snoc (adapters : List LLMLoraAdapter) (a : LLMLoraAdapter) :
    folded conditions (adapters++[a])=addAdapter (folded conditions adapters) a := by
  simp [folded]

theorem folded_bounded (adapters : List LLMLoraAdapter) :
    Bounded conditions adapters (folded conditions adapters) := by
  induction adapters using List.reverseRecOn with
  | nil =>
    refine ⟨le_refl _,by simp,?_,.inr ⟨rfl,by simp⟩⟩
    rcases foundationScore_mem conditions with same | same <;> rw [folded,List.foldl_nil,same]
    decide
  | append_singleton adapters a ih =>
    have score := addAdapter_score (folded conditions adapters) a
    rw [folded_snoc]
    refine ⟨?_,?_,?_,?_⟩
    · exact (score.trans_le (min_le_right _ _)).trans ih.foundation
    · intro b mem
      rcases List.mem_append.mp mem with old | new
      · exact (score.trans_le (min_le_right _ _)).trans (ih.adapter b old)
      · rw [List.mem_singleton.mp new]
        exact score.trans_le (min_le_left _ _)
    · rw [score]
      exact le_min (denied_le _) ih.low
    · by_cases active : a.planes.lifecycle="active"
      · simpa [addAdapter,active,or_imp,forall_and] using ih.lifecycle
      · simp [addAdapter,active]

theorem trust_eq (adapters : List LLMLoraAdapter) :
    let acc := folded conditions adapters
    let planes := aggregateStatePlanes conditions adapters
    planes.lifecycle=acc.1.lifecycle ∧ planes.risk=acc.1.risk ∧ trustScores planes.trust=
        if acc.1.lifecycle="quarantined" then trustScores "denied" else acc.2 := by
  intro acc planes
  have bounded := folded_bounded conditions adapters
  have low : -1 ≤ acc.2 := bounded.low
  have high : acc.2 ≤ 1 := by
    refine bounded.foundation.trans ?_
    rcases foundationScore_mem conditions with same | same <;> rw [same] <;> decide
  have named : trustScores (scoreToTrust acc.2)=acc.2 := by
    obtain eq | eq | eq : acc.2=-1 ∨ acc.2=0 ∨ acc.2=1 := by omega
    all_goals rw [eq]; decide
  simp only [planes,aggregateStatePlanes]
  split_ifs
  · exact ⟨rfl,rfl,rfl⟩
  · exact ⟨rfl,rfl,named⟩

/-- Adding an adapter can only restrict, and the order of the adapters does not matter. -/
theorem aggregateStatePlanes_restricts (adapters : List LLMLoraAdapter) :
    let planes := aggregateStatePlanes conditions
    (∀others,others.Perm adapters → planes others=planes adapters) ∧
    trustScores (planes adapters).trust ≤ foundationScore conditions ∧
    (∀a∈adapters,trustScores (planes adapters).trust ≤ trustScores a.planes.trust) ∧
    ((planes adapters).lifecycle="active" → ∀a∈adapters,a.planes.lifecycle="active") ∧
    ∀a,trustScores (planes (adapters++[a])).trust ≤ trustScores (planes adapters).trust ∧
      ((planes adapters).risk="high" → (planes (adapters++[a])).risk="high") ∧
      ((planes adapters).lifecycle="quarantined" →
        (planes (adapters++[a])).lifecycle≠"active") := by
  intro planes
  have bounded := folded_bounded conditions adapters
  obtain ⟨lifecycle,risk,trust⟩ := trust_eq conditions adapters
  refine ⟨fun others perm => ?_,?_,fun a mem => ?_,fun active => ?_,fun a => ?_⟩
  · have same : folded conditions others=folded conditions adapters :=
      perm.foldl_eq' (fun b _ c _ acc => addAdapter_comm acc b c) _
    simp only [planes,aggregateStatePlanes,same]
  · rw [trust]
    split_ifs
    · exact bounded.low.trans bounded.foundation
    · exact bounded.foundation
  · rw [trust]
    split_ifs
    · exact denied_le _
    · exact bounded.adapter a mem
  · rw [lifecycle] at active
    rcases bounded.lifecycle with held | ⟨_,all⟩
    · simp [held] at active
    · exact all
  · obtain ⟨lifecycle',risk',trust'⟩ := trust_eq conditions (adapters++[a])
    rw [folded_snoc] at lifecycle' risk' trust'
    rw [lifecycle,lifecycle',risk,risk',trust,trust']
    have held (h : (folded conditions adapters).1.lifecycle="quarantined") :
        (addAdapter (folded conditions adapters) a).1.lifecycle="quarantined" := by
      simp [addAdapter,h]
    refine ⟨?_,fun high => by simp [addAdapter,high],fun h => by simp [held h]⟩
    split_ifs with new old old
    · exact le_refl _
    · exact bounded.low
    · exact absurd (held old) new
    · exact (addAdapter_score _ a).trans_le (min_le_right _ _)

end KServeLLM.Governance
