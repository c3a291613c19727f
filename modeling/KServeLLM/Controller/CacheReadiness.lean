import KServeLLM.Controller.CacheEffects
import KServeLLM.Framework.Execution

namespace KServeLLM.Controller.Cache

variable {Selector : Type}

def newLoraCache (sha : Sha256) (lora : LLMLoraAdapter) : LocalModelCache Selector where
  name := loraCacheName sha lora.ns lora.name
  labels := (∅ : GoMap String String).insert loraCacheManagedByLabel loraCacheManagedByAdapter
  annotations := ((((∅ : GoMap String String).insert loraCacheOwnerNamespace lora.ns).insert
      loraCacheOwnerName lora.name).insert loraCacheOwnerUID lora.uid).insert
      cacheWorkloadNamespaceAnnotation lora.ns
  spec := {sourceModelURI := lora.modelURI}

def loraCacheReady (cache : LocalModelCache Selector) : Bool :=
  cache.status.conditions.any fun condition => condition.type="Ready" && condition.status="True"

inductive LoraCache (Selector : Type) where
  | passes (cache : LocalModelCache Selector)
  | waits (delay : Duration)
  | fails (err : String)

def ensureLoraCache (sha : Sha256) (lora : LLMLoraAdapter) (cl : Cluster Selector) :
    Cluster Selector×LoraCache Selector :=
  let expected : LocalModelCache Selector := newLoraCache sha lora
  match cl.caches expected.name with
  | none =>
    ({cl with caches := Function.update cl.caches expected.name (some expected)},
      .waits Duration.second)
  | some existing =>
    match validateLoraCacheOwner existing lora with
    | .error err => (cl,.fails err)
    | .ok () =>
      (cl,if loraCacheReady existing then .passes existing else .waits (5*Duration.second))

inductive LoopEvent where
  | adapter
  | cache (now : Time) (secretFirst : Bool)
  | surroundings (around : Surroundings)
  | objects (objects : Ref → Option Object)

variable (lib : Library Selector) (lora : LLMLoraAdapter)

def loopStep (cl : Cluster Selector) : LoopEvent → Cluster Selector×Option (LoraCache Selector)
  | .adapter =>
    let done := ensureLoraCache lib.sha lora cl
    (done.1,some done.2)
  | .cache now secretFirst =>
    ((reconcile lib (View.smooth now secretFirst) (loraCacheName lib.sha lora.ns lora.name) cl).1,
      none)
  | .surroundings around => ({cl with around},none)
  | .objects objects => ({cl with objects},none)

def recordedReady (cl : Cluster Selector) : Bool :=
  match cl.caches (loraCacheName lib.sha lora.ns lora.name) with
  | none => false
  | some cache =>
    match resolveTargetNodes lib cl.around (View.smooth 0 false) cache with
    | .error _ => false
    | .ok targets =>
      !targets.isEmpty && targets.all fun node =>
        cache.status.nodeStatuses.any fun st => st.nodeName=node && st.phase="Ready"

def LoraCache.delay : LoraCache Selector → Option Duration
  | .waits delay => some delay
  | _ => none

def AdapterPasses (cl : Cluster Selector) : Prop :=
  ∃cache,(ensureLoraCache lib.sha lora cl).2=.passes cache

def Cluster.uncached (cl : Cluster Selector) : Cluster Selector :=
  {cl with caches := Function.update cl.caches (loraCacheName lib.sha lora.ns lora.name) none}

def Unconditioned (cl : Cluster Selector) : Prop :=
  ∀cache,cl.caches (loraCacheName lib.sha lora.ns lora.name)=some cache →
    cache.name=loraCacheName lib.sha lora.ns lora.name ∧ cache.status.conditions=[]

theorem reconcileTargets_conditions {around : Surroundings} {view : View}
    {cache : LocalModelCache Selector} {targets : List String} {s : Store}
    {status : LocalModelCacheStatus}
    (done : (reconcileTargets lib around view cache targets s).2=.ok status) :
    status.conditions=cache.status.conditions := by
  simp only [reconcileTargets] at done
  split at done
  · cases done
  · cases done
    rfl

variable {cl : Cluster Selector}

theorem reconcile_unconditioned {view : View} (bare : Unconditioned lib lora cl) :
    Unconditioned lib lora (reconcile lib view (loraCacheName lib.sha lora.ns lora.name) cl).1 := by
  have effect := reconcile_effect lib view (loraCacheName lib.sha lora.ns lora.name) cl
  generalize (reconcile lib view (loraCacheName lib.sha lora.ns lora.name) cl).1=after at effect ⊢
  generalize (reconcile lib view (loraCacheName lib.sha lora.ns lora.name) cl).2.deleted=deleted
    at effect
  cases effect with
  | idle => exact bare
  | unreported => exact bare
  | reported cache targets status found prepared done =>
    obtain ⟨named,conditions⟩ := bare cache found
    intro next listed
    simp only [Cluster.setStatus,named,Function.update_self,Option.some.injEq] at listed
    subst listed
    exact ⟨rfl,(reconcileTargets_conditions lib done).trans conditions⟩

theorem ensureLoraCache_unconditioned (bare : Unconditioned lib lora cl) :
    Unconditioned lib lora (ensureLoraCache lib.sha lora cl).1 := by
  unfold ensureLoraCache
  dsimp only
  split
  · intro cache listed
    have own : (newLoraCache lib.sha lora : LocalModelCache Selector).name=
        loraCacheName lib.sha lora.ns lora.name := rfl
    simp only [own,Function.update_self,Option.some.injEq] at listed
    subst listed
    exact ⟨rfl,rfl⟩
  · split
    · exact bare
    · exact bare

theorem loopStep_unconditioned (bare : Unconditioned lib lora cl)
    {event : LoopEvent} : Unconditioned lib lora (loopStep lib lora cl event).1 := by
  cases event with
  | adapter => exact ensureLoraCache_unconditioned lib lora bare
  | cache now secretFirst => exact reconcile_unconditioned lib lora bare
  | surroundings around => exact bare
  | objects objects => exact bare

theorem not_passes_of_unconditioned (bare : Unconditioned lib lora cl) :
    ¬AdapterPasses lib lora cl := by
  rintro ⟨_,passes⟩
  unfold ensureLoraCache at passes
  dsimp only at passes
  split at passes
  · cases passes
  · rename_i existing found
    have ready : loraCacheReady existing=false := by
      rw [loraCacheReady,(bare existing found).2]
      rfl
    split at passes
    · cases passes
    · rw [ready] at passes
      cases passes

theorem recorded_passes_iff (cl : Cluster Selector) (events : List LoopEvent) :
    Always (loopStep lib lora) (cl.uncached lib lora) events
        (fun _ t => recordedReady lib lora t=true → AdapterPasses lib lora t) ↔
      Always (loopStep lib lora) (cl.uncached lib lora) events
        (fun _ t => recordedReady lib lora t=false) := by
  have bare pre : Unconditioned lib lora (run (loopStep lib lora) (cl.uncached lib lora) pre) := by
    refine run_induction (loopStep lib lora) (fun _ t => Unconditioned lib lora t) _ ?_ ?_ pre
    · intro cache found
      simp [Cluster.uncached] at found
    · intro _ t event bare
      exact loopStep_unconditioned lib lora bare
  constructor
  · intro passes pre hp
    refine Bool.eq_false_iff.mpr fun recorded => ?_
    exact not_passes_of_unconditioned lib lora (bare pre) (passes pre hp recorded)
  · intro never pre hp recorded
    rw [never pre hp] at recorded
    cases recorded

def sampleAdapter : LLMLoraAdapter := {ns := "team",name := "l",uid := "u",modelURI := "m"}

def sampleCluster : Cluster Unit := ⟨fun _ => none,
    ⟨[{name := "n"}],fun ns name => if ns="team" ∧ name="l" then some sampleAdapter else none⟩,
    fun _ => none⟩

def cacheObject (status : JobStatus) : Object :=
  {owner := loraCacheName sampleSha256 "team" "l",status}

def warmedUp : Ref → Option Object := fun ref =>
  if ref=pvcRef sampleLibrary "team" (modelURIHash sampleSha256 "m") "n" then some (cacheObject {})
  else if ref=jobRef sampleLibrary "team" (modelURIHash sampleSha256 "m") "n" then
    some (cacheObject {conditions := [⟨"Complete","True",0⟩]})
  else none

def warmUp : List LoopEvent :=
  [.adapter,.cache 0 false,.cache 0 false,.objects warmedUp,.cache 0 false]

theorem ready_adapter_waits :
    recordedReady sampleLibrary sampleAdapter (run (loopStep sampleLibrary sampleAdapter)
      (sampleCluster.uncached sampleLibrary sampleAdapter) warmUp)=true ∧
    (ensureLoraCache sampleSha256 sampleAdapter (run (loopStep sampleLibrary sampleAdapter)
      (sampleCluster.uncached sampleLibrary sampleAdapter) warmUp)).2.delay=
        some (5*Duration.second) := by
  decide +kernel

end KServeLLM.Controller.Cache
