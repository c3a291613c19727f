import KServeLLM.Api.RoundTrip
import KServeLLM.Controller.SessionReconciler
import KServeLLM.Framework.Execution

namespace KServeLLM.Controller

open Api

variable {K : Kubernetes}

abbrev Actor (K : Kubernetes) := InferenceActor .v1alpha2 K

abbrev State := ActorState .v1alpha2

instance instDecidableEqState : DecidableEq State := fun p q =>
  decidable_of_iff (p.text=q.text) ⟨fun h => by cases p; cases q; cases h; rfl,fun h => h ▸ rfl⟩

def actorStateInactive : State := ⟨"Inactive"⟩
def actorStateActive : State := ⟨"Active"⟩
def actorStateDeactivating : State := ⟨"Deactivating"⟩

structure ActorAnswers (K : Kubernetes) where
  actor : Except ApiError (Actor K)
  (first second : Option ApiError)

structure ActorDone (K : Kubernetes) where
  written : Option (Actor K)
  result : Except ApiError Duration

namespace InferenceActor

def inState (actor : Actor K) (state : State) : Actor K :=
  {actor with status := {actor.status with state}}

def activated (actor : Actor K) (now : Time) : Actor K := {actor with status := {actor.status with
    state := actorStateActive
    lastActivationTime := some now}}

def withSessions (actor : Actor K) (activeSessions : Int32) : Actor K :=
  {actor with status := {actor.status with activeSessions}}

end InferenceActor

open InferenceActor

def idleTimedOut (actor : Actor K) (now : Time) : Bool :=
  match actor.spec.idleTimeout,actor.status.lastActivationTime with
  | some timeout,some last => timeout < now.sub last
  | _,_ => false

def ActorReconciler.reconcile (answers : ActorAnswers K) (now : Time) : ActorDone K :=
  match answers.actor with
  | .error .notFound => ⟨none,.ok 0⟩
  | .error err => ⟨none,.error err⟩
  | .ok actor =>
    if actor.status.state=actorStateActive ∧ actor.status.activeSessions=0 ∧
        idleTimedOut actor now then
      match answers.first with
      | some err => ⟨none,.error err⟩
      | none =>
        match answers.second with
        | some err => ⟨some (inState actor actorStateDeactivating),.error err⟩
        | none => ⟨some (inState actor actorStateInactive),.ok 0⟩
    else
      let actor :=
        if actor.status.state=actorStateInactive ∧ 0 < actor.status.activeSessions then
          activated actor now
        else actor
      match answers.first with
      | some err => ⟨none,.error err⟩
      | none => ⟨some actor,.ok (30*Duration.second)⟩

inductive ActorCall where
  | reconcile (first second : Option ApiError) (now : Time)
  | sessions (activeSessions : Int32)

def actorStep (actor : Actor K) : ActorCall → Actor K×Option (Except ApiError Duration)
  | .reconcile first second now =>
    let done := ActorReconciler.reconcile ⟨.ok actor,first,second⟩ now
    (done.written.getD actor,some done.result)
  | .sessions activeSessions => (withSessions actor activeSessions,none)

section

variable {actor : Actor K}

def Stranded (actor : Actor K) : Prop :=
  actor.status.state≠actorStateActive ∧ actor.status.state≠actorStateInactive

theorem reconcile_stranded (h : Stranded actor) (first second : Option ApiError) (now : Time) :
    (actorStep actor (.reconcile first second now)).1=actor := by
  unfold actorStep ActorReconciler.reconcile
  simp only [h.1,h.2,false_and]
  cases first <;> rfl

theorem Stranded.run (h : Stranded actor) (calls : List ActorCall) :
    Stranded (run actorStep actor calls) ∧
      (run actorStep actor calls).status.state=actor.status.state := by
  refine run_induction actorStep (fun _ a => Stranded a ∧ a.status.state=actor.status.state) actor
    ⟨h,rfl⟩ (fun _ a call kept => ?_) calls
  cases call with
  | reconcile first second now =>
    rw [reconcile_stranded kept.1]
    exact kept
  | sessions activeSessions => exact kept

end

theorem actor_never_activates (actor : Actor K) (calls : List ActorCall) (activeSessions : Int32)
    (now : Time) :
    (run actorStep {actor with status := {}} (calls++[.sessions activeSessions,
      .reconcile none none now])).status.state≠actorStateActive := by
  have empty : (⟨""⟩)≠actorStateActive ∧ (⟨""⟩)≠actorStateInactive := by decide
  have start : Stranded ({actor with status := {}}) := empty
  exact (start.run _).1.1

theorem new_actor_waits : (run actorStep ({} : Actor V1alpha2.bareKubernetes)
      [.sessions 1,.reconcile none none 0]).status.activeSessions=1 ∧
    (run actorStep ({} : Actor V1alpha2.bareKubernetes)
      [.sessions 1,.reconcile none none 0]).status.state=⟨""⟩ ∧
    (run actorStep ({} : Actor V1alpha2.bareKubernetes)
      [.sessions 1,.reconcile none none 0]).status.state≠actorStateActive := by
  decide

end KServeLLM.Controller
