import KServeLLM.Framework.HashChain
import KServeLLM.Kernel.StateVectorRuns

namespace KServeLLM.Statevector

section

variable (hexSum : String → String)

def Lineage.genesis : Lineage := ⟨"","",0⟩

def Lineage.after (steps : List String) : Lineage :=
  steps.foldl (Lineage.advance hexSum) Lineage.genesis

def linked (chainDigest stepDigest : String) : String := chainDigest++":"++stepDigest

def hashedTexts (steps : List String) : List String := HashChain.inputs linked hexSum "" steps

variable {hexSum}

theorem after_snoc (steps : List String) (s : String) :
    Lineage.after hexSum (steps++[s])=(Lineage.after hexSum steps).advance hexSum s := by
  simp [Lineage.after]

theorem after_chainDigest (steps : List String) :
    (Lineage.after hexSum steps).chainDigest=HashChain.digest linked hexSum "" steps := by
  induction steps using List.reverseRecOn with
  | nil => rfl
  | append_singleton steps s ih =>
    rw [after_snoc,HashChain.digest_snoc,← ih]
    rfl

end

section

variable (sum : String → Vector UInt8 32)

def hexDigest (text : String) : String := hexText (sum text).toList

theorem hexDigest_ne_empty (text : String) : hexDigest sum text≠"" := by
  intro empty
  have none : (sum text).toList=[] := hexText_injective (empty.trans (by rfl))
  have length : (sum text).toList.length=32 := by simp
  rw [none] at length
  cases length

theorem hexDigest_framed : HashChain.Framed linked (hexDigest sum) "" (fun d => ':'∉d.toList) where
  first := by simp
  hashed text := colon_notMem_hexText
  fresh := hexDigest_ne_empty sum
  split _ _ _ _ := colon_split

theorem collisionFree_hexDigest {texts : List String} (free : HashChain.CollisionFree sum texts) :
    HashChain.CollisionFree (hexDigest sum) texts := by
  intro p hp q hq same
  have bytes : (sum p).toList=(sum q).toList := hexText_injective same
  exact free p hp q hq (Vector.toList_inj.mp bytes)

end

section

variable {F : Type} [Float64 F] (hexSum : String → String)

abbrev History (F : Type) :=
  List (Step StateVector (Floating.Call F) (Except Error (Floating.Outcome F)))

def stepDigests (tr : History F) : List String := tr.filterMap fun st => match st.answer with
    | .ok _ => some (Floating.stepDigest st.call.input)
    | .error _ => none

theorem run_lineage {s : StateVector} (genesis : s.lineage=.genesis)
    {calls : List (Floating.Call F)} :
    (run (Floating.step hexSum) s calls).lineage=
      Lineage.after hexSum (stepDigests (trace (Floating.step hexSum) s calls)) := by
  refine run_induction _ (fun tr t => t.lineage=Lineage.after _ (stepDigests tr)) s genesis ?_ _
  intro tr t call before
  unfold stepDigests at before ⊢
  rw [List.filterMap_append]
  cases done : call.on _ t with
  | ok o =>
    have made : Floating.step hexSum t call=(o.nextState,.ok o) := by
      unfold Floating.step
      rw [done]
    have next : o.nextState.lineage=t.lineage.advance hexSum (Floating.stepDigest call.input) := by
      rw [(Floating.on_ok done).2]
      exact (Floating.successor_frame).2.2
    simp only [stepOf,made,List.filterMap_cons,List.filterMap_nil]
    rw [after_snoc,next,before]
  | error err =>
    have made : Floating.step hexSum t call=(t,.error err) := by
      unfold Floating.step
      rw [done]
    simp only [stepOf,made,List.filterMap_cons,List.filterMap_nil,List.append_nil]
    exact before

end

theorem lineage_commits (sum : String → Vector UInt8 32) : (∀steps steps' : List String,
      HashChain.CollisionFree sum
        (hashedTexts (hexDigest sum) steps++hashedTexts (hexDigest sum) steps') →
      (Lineage.after (hexDigest sum) steps).chainDigest=
        (Lineage.after (hexDigest sum) steps').chainDigest → steps=steps') ∧
    (∀(steps : List String) (s : String),(Lineage.after (hexDigest sum) (steps++[s])).parentID=
        (Lineage.after (hexDigest sum) steps).chainDigest) ∧
    ∀(F : Type) [Float64 F] (s : StateVector) (calls : List (Floating.Call F)),s.lineage=.genesis →
      (run (Floating.step (hexDigest sum)) s calls).lineage=Lineage.after (hexDigest sum)
          (stepDigests (trace (Floating.step (hexDigest sum)) s calls)) := by
  refine ⟨?_,?_,?_⟩
  · intro steps steps' free same
    rw [after_chainDigest,after_chainDigest] at same
    exact (hexDigest_framed sum).digest_injective (collisionFree_hexDigest sum free) same
  · intro steps s
    rw [after_snoc]
    rfl
  · intro F _ s calls genesis
    exact run_lineage (hexDigest sum) genesis

def lengthSum (text : String) : Vector UInt8 32 := .replicate 32 (.ofNat text.length)

theorem longer_chain_differs : (Lineage.after (hexDigest lengthSum) ["a"]).chainDigest≠
      (Lineage.after (hexDigest lengthSum) ["a","b"]).chainDigest := by
  intro same
  have equal := (lineage_commits lengthSum).1 ["a"] ["a","b"] (by decide +kernel) same
  exact absurd equal (by decide)

end KServeLLM.Statevector
