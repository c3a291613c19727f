import KServeLLM.Controller.CacheEffects
import KServeLLM.Framework.Execution

namespace KServeLLM.Controller.Cache

variable {Selector : Type}

structure Metadata where
  (labels annotations : GoMap String String := ∅)

structure Configuration (Selector : Type) where
  specs : String → Option (LocalModelCacheSpec Selector)
  around : Surroundings

inductive Event (Selector : Type) where
  | configure (config : Configuration Selector)
  | reconcile (name : String) (view : View)
  | report (ref : Ref) (status : JobStatus)
  | remove (ref : Ref)

def statusOf (cl : Cluster Selector) (name : String) : LocalModelCacheStatus :=
  match cl.caches name with
  | none => {}
  | some cache => cache.status

def Configuration.cache (config : Configuration Selector) (metadata : String → Metadata)
    (name : String) (status : LocalModelCacheStatus) : Option (LocalModelCache Selector) :=
  (config.specs name).map fun spec =>
    ⟨name,(metadata name).labels,(metadata name).annotations,spec,status⟩

def Cluster.configure (metadata : String → Metadata) (config : Configuration Selector)
    (cl : Cluster Selector) : Cluster Selector :=
  {cl with
    caches := fun name => config.cache metadata name (statusOf cl name)
    around := config.around}

def Cluster.report (ref : Ref) (status : JobStatus) (cl : Cluster Selector) : Cluster Selector :=
  {cl with objects := Function.update cl.objects ref ((cl.objects ref).map ({· with status}))}

def Cluster.remove (ref : Ref) (cl : Cluster Selector) : Cluster Selector :=
  {cl with objects := Function.update cl.objects ref none}

def clusterStep (lib : Library Selector) (metadata : String → Metadata) (cl : Cluster Selector) :
    Event Selector → Cluster Selector×List (Deletion Ref String)
  | .configure config => (cl.configure metadata config,[])
  | .reconcile name view =>
    let done := reconcile lib view name cl
    (done.1,done.2.deleted)
  | .report ref status => (cl.report ref status,[])
  | .remove ref => (cl.remove ref,[])

def Cluster.empty : Cluster Selector := ⟨fun _ => none,⟨[],fun _ _ => none⟩,fun _ => none⟩

def configurations (events : List (Event Selector)) : List (Configuration Selector) :=
  events.filterMap fun
    | .configure config => some config
    | _ => none

variable (lib : Library Selector) (metadata : String → Metadata)

def Isolated (events : List (Event Selector)) : Prop :=
  ∀st∈trace (clusterStep lib metadata) Cluster.empty events,∀d∈st.answer,d.owner=d.who

structure Claim where
  (ns uri node : String)
  deriving DecidableEq

def claims (config : Configuration Selector) (name : String) : List Claim :=
  match config.cache metadata name {} with
  | none => []
  | some cache =>
    match prepare lib config.around (View.smooth 0 false) cache with
    | .error _ => []
    | .ok targets =>
      targets.map (⟨workloadNamespace cache.annotations,cache.spec.sourceModelURI,·⟩)

def Unshared (configs : List (Configuration Selector)) : Prop :=
  ∀ config∈configs,∀ config'∈configs,∀ name name',name≠name' →
    ∀claim∈claims lib metadata config name,claim∉claims lib metadata config' name'

def CollisionFree (configs : List (Configuration Selector)) : Prop :=
  ∀ config∈configs,∀ config'∈configs,∀ name name',
    ∀claim∈claims lib metadata config name,∀claim'∈claims lib metadata config' name',
      (modelURIHash lib.sha claim.uri=modelURIHash lib.sha claim'.uri → claim.uri=claim'.uri) ∧
      (nodeHash lib.sha claim.node=nodeHash lib.sha claim'.node → claim.node=claim'.node)

variable {ref : Ref}

theorem modelURIHash_length (sha : Sha256) (uri : String) :
    (modelURIHash sha uri).toList.length=16 := by
  simp [modelURIHash,sha.length_hexSum]

theorem hashes_of_name {pre h h' n n' : String} (length : h.toList.length=h'.toList.length)
    (same : pre++h++"-"++n=pre++h'++"-"++n') : h=h' ∧ n=n' := by
  have chars := congrArg String.toList same
  simp only [String.toList_append,List.append_assoc] at chars
  have rest := List.append_cancel_left chars
  have parts := List.append_inj rest length
  have nodes := List.append_cancel_left parts.2
  exact ⟨String.toList_inj.mp parts.1,String.toList_inj.mp nodes⟩

theorem pvcRef_eq_iff {ns modelHash node node' : String} :
    pvcRef lib ns modelHash node=pvcRef lib ns modelHash node' ↔
      jobRef lib ns modelHash node=jobRef lib ns modelHash node' := by
  constructor
  · intro same
    have node := (hashes_of_name rfl (congrArg Ref.name same)).2
    rw [jobRef,jobRef,warmupJobName,warmupJobName,node]
  · intro same
    have node := (hashes_of_name rfl (congrArg Ref.name same)).2
    rw [pvcRef,pvcRef,pvcNameForNode,pvcNameForNode,node]

theorem hashes_of_ref {ns ns' uri uri' node node' : String}
    (one : ref=pvcRef lib ns (modelURIHash lib.sha uri) node ∨
      ref=jobRef lib ns (modelURIHash lib.sha uri) node)
    (other : ref=pvcRef lib ns' (modelURIHash lib.sha uri') node' ∨
      ref=jobRef lib ns' (modelURIHash lib.sha uri') node') :
    ns=ns' ∧ modelURIHash lib.sha uri=modelURIHash lib.sha uri' ∧
      nodeHash lib.sha node=nodeHash lib.sha node' := by
  have length := (modelURIHash_length lib.sha uri).trans (modelURIHash_length lib.sha uri').symm
  rcases one with rfl | rfl <;> rcases other with same | same <;>
    simp only [pvcRef,jobRef,Ref.mk.injEq,reduceCtorEq,false_and,true_and] at same
  · exact ⟨same.1,hashes_of_name length same.2⟩
  · exact ⟨same.1,hashes_of_name length same.2⟩

variable {configs : List (Configuration Selector)}

def Known (configs : List (Configuration Selector)) (name modelHash nodeName : String) : Prop :=
  ∃config∈configs,∃claim∈claims lib metadata config name,
    modelHash=modelURIHash lib.sha claim.uri ∧ nodeName=claim.node

structure Accounted (configs : List (Configuration Selector)) (cl : Cluster Selector) : Prop where
  caches : ∀ name cache,cl.caches name=some cache →
    ∃config∈configs,config.around=cl.around ∧ config.cache metadata name cache.status=some cache
  statuses : ∀name,∀status∈(statusOf cl name).nodeStatuses,
    Sound lib (Known lib metadata configs name) status
  objects : ∀ ref obj,cl.objects ref=some obj →
    Named lib (workloadNamespace (metadata obj.owner).annotations)
      (Known lib metadata configs obj.owner) ref

theorem Accounted.empty : Accounted lib metadata configs Cluster.empty where
  caches name cache found := by cases found
  statuses name status mem := by cases mem
  objects ref obj found := by cases found

variable {config : Configuration Selector} {cache : LocalModelCache Selector} {name : String}
  {status : LocalModelCacheStatus}

theorem cache_eq (made : config.cache metadata name status=some cache) :
    cache.name=name ∧ cache.annotations=(metadata name).annotations ∧ cache.status=status := by
  obtain ⟨_,-,rfl⟩ := Option.map_eq_some_iff.mp made
  exact ⟨rfl,rfl,rfl⟩

theorem cache_with_status
    (made : config.cache metadata name status=some cache) (status' : LocalModelCacheStatus) :
    config.cache metadata name status'=some ⟨cache.name,cache.labels,cache.annotations,cache.spec,
      status'⟩ := by
  obtain ⟨_,found,rfl⟩ := Option.map_eq_some_iff.mp made
  rw [Configuration.cache,found,Option.map_some]

variable {view : View} {targets : List String}

theorem claim_mem (made : config.cache metadata name status=some cache)
    (prepared : prepare lib config.around view cache=.ok targets) {nodeName : String}
    (target : nodeName∈targets) :
    ⟨workloadNamespace cache.annotations,cache.spec.sourceModelURI,nodeName⟩∈
      claims lib metadata config name := by
  obtain ⟨spec,found,rfl⟩ := Option.map_eq_some_iff.mp made
  have smooth := prepare_smooth lib ⟨0,false,rfl⟩ prepared
  have bare : prepare lib config.around (View.smooth 0 false)
      (⟨name,(metadata name).labels,(metadata name).annotations,spec,{}⟩)=.ok targets := smooth
  simp only [claims,Configuration.cache,found,Option.map_some,bare]
  exact List.mem_map_of_mem target

theorem claim_ns {claim : Claim} (mem : claim∈claims lib metadata config name) :
    claim.ns=workloadNamespace (metadata name).annotations := by
  unfold claims at mem
  split at mem
  · cases mem
  · rename_i cache made
    split at mem
    · cases mem
    · obtain ⟨_,-,rfl⟩ := List.mem_map.mp mem
      rw [(cache_eq metadata made).2.1]

variable {cl : Cluster Selector}

theorem own_of_named (free : CollisionFree lib metadata configs)
    (unshared : Unshared lib metadata configs) (accounted : Accounted lib metadata configs cl)
    {obj : Object} (named : Named lib (workloadNamespace (metadata name).annotations)
      (Known lib metadata configs name) ref) (found : cl.objects ref=some obj) :
    obj.owner=name := by
  by_contra other
  obtain ⟨_,_,⟨config,hconfig,claim,hclaim,rfl,rfl⟩,one⟩ := named
  obtain ⟨_,_,⟨config',hconfig',claim',hclaim',rfl,rfl⟩,two⟩ := accounted.objects ref obj found
  obtain ⟨ns,_,_⟩ := hashes_of_ref lib one two
  have apart := free config hconfig config' hconfig' name obj.owner claim hclaim claim' hclaim'
  have same : claim=claim' := by
    have sameNs := (claim_ns lib metadata hclaim).trans
      (ns.trans (claim_ns lib metadata hclaim').symm)
    cases claim
    cases claim'
    simp_all
  exact unshared config hconfig config' hconfig' name obj.owner (Ne.symm other) claim hclaim
    (same ▸ hclaim')

theorem reconcileTargets_known (accounted : Accounted lib metadata configs cl)
    (found : cl.caches name=some cache)
    (prepared : prepare lib cl.around view cache=.ok targets) :
    Acts Object.owner name (Named lib (workloadNamespace (metadata name).annotations)
        (Known lib metadata configs name)) ⟨cl.objects,[]⟩
        (reconcileTargets lib cl.around view cache targets ⟨cl.objects,[]⟩).1 ∧
      ∀status,(reconcileTargets lib cl.around view cache targets ⟨cl.objects,[]⟩).2=.ok status →
        ∀st∈status.nodeStatuses,Sound lib (Known lib metadata configs name) st := by
  obtain ⟨config,hconfig,around,made⟩ := accounted.caches name cache found
  obtain ⟨sameName,annotations,-⟩ := cache_eq metadata made
  have claimed : ∀nodeName∈targets,Known lib metadata configs name
      (modelURIHash lib.sha cache.spec.sourceModelURI) nodeName := by
    intro nodeName target
    rw [← around] at prepared
    exact ⟨config,hconfig,_,claim_mem lib metadata made prepared target,rfl,rfl⟩
  have recorded : ∀status∈cache.status.nodeStatuses,
      Sound lib (Known lib metadata configs name) status := by
    have statuses := accounted.statuses name
    simpa only [statusOf,found] using statuses
  have acts := reconcileTargets_acts lib cl.around view cache claimed recorded ⟨cl.objects,[]⟩
  rw [sameName,annotations] at acts
  exact acts

theorem Accounted.objects_of_acts (accounted : Accounted lib metadata configs cl) {s : Store}
    (acts : Acts Object.owner name (Named lib (workloadNamespace (metadata name).annotations)
      (Known lib metadata configs name)) ⟨cl.objects,[]⟩ s) :
    ∀ ref obj,s.objects ref=some obj →
      Named lib (workloadNamespace (metadata obj.owner).annotations)
        (Known lib metadata configs obj.owner) ref := by
  intro ref obj found
  rcases acts.origin found with ⟨named,own⟩ | ⟨old,present,same⟩
  · rw [own]
    exact named
  · rw [← same]
    exact accounted.objects ref old present

theorem reconcile_accounted {name : String} (accounted : Accounted lib metadata configs cl) :
    Accounted lib metadata configs (reconcile lib view name cl).1 ∧
      (CollisionFree lib metadata configs → Unshared lib metadata configs →
        ∀d∈(reconcile lib view name cl).2.deleted,d.owner=d.who) := by
  have effect := reconcile_effect lib view name cl
  generalize (reconcile lib view name cl).1=after at effect ⊢
  generalize (reconcile lib view name cl).2.deleted=deleted at effect ⊢
  have deletes {s : Store} (acts : Acts Object.owner name (Named lib
      (workloadNamespace (metadata name).annotations) (Known lib metadata configs name))
      ⟨cl.objects,[]⟩ s) free
      unshared : ∀d∈s.log,d.owner=d.who :=
    acts.deletes_mine (fun ref obj named found =>
      own_of_named lib metadata free unshared accounted named found) (by simp)
  cases effect with
  | idle => exact ⟨accounted,by simp⟩
  | unreported cache targets found prepared =>
    have acts := (reconcileTargets_known lib metadata accounted found prepared).1
    exact ⟨⟨accounted.caches,accounted.statuses,accounted.objects_of_acts lib metadata acts⟩,
      deletes acts⟩
  | reported cache targets status found prepared done =>
    obtain ⟨acts,sound⟩ := reconcileTargets_known lib metadata accounted found prepared
    obtain ⟨config,hconfig,around,made⟩ := accounted.caches name cache found
    obtain ⟨sameName,-,-⟩ := cache_eq metadata made
    refine ⟨⟨?_,?_,accounted.objects_of_acts lib metadata acts⟩,deletes acts⟩
    · intro name' cache' found'
      by_cases here : name'=name
      · subst here
        simp only [Cluster.setStatus,sameName,Function.update_self,Option.some.injEq] at found'
        subst found'
        have written := cache_with_status metadata made status
        rw [sameName] at written
        exact ⟨config,hconfig,around,written⟩
      · simp only [Cluster.setStatus,sameName,Function.update_of_ne here] at found'
        exact accounted.caches name' cache' found'
    · intro name' st mem
      by_cases here : name'=name
      · subst here
        simp only [statusOf,Cluster.setStatus,sameName,Function.update_self] at mem
        exact sound status done st mem
      · simp only [statusOf,Cluster.setStatus,sameName,Function.update_of_ne here] at mem
        exact accounted.statuses name' st mem

theorem Accounted.configure (accounted : Accounted lib metadata configs cl) (mem : config∈configs) :
    Accounted lib metadata configs (cl.configure metadata config) where
  caches name cache found := by
    have same := (cache_eq metadata found).2.2
    exact ⟨config,mem,rfl,same ▸ found⟩
  statuses name status recorded := by
    unfold statusOf at recorded
    split at recorded
    · cases recorded
    · rename_i cache found
      rw [(cache_eq metadata found).2.2] at recorded
      exact accounted.statuses name status recorded
  objects := accounted.objects

theorem Accounted.update (accounted : Accounted lib metadata configs cl)
    (ref : Ref) {value : Option Object}
    (same : ∀obj,value=some obj → ∃old,cl.objects ref=some old ∧ old.owner=obj.owner) :
    Accounted lib metadata configs {cl with objects := Function.update cl.objects ref value} where
  caches := accounted.caches
  statuses := accounted.statuses
  objects ref' obj found := by
    by_cases here : ref'=ref
    · subst here
      simp only [Function.update_self] at found
      obtain ⟨old,present,owner⟩ := same obj found
      rw [← owner]
      exact accounted.objects _ old present
    · simp only [Function.update_of_ne here] at found
      exact accounted.objects ref' obj found

theorem clusterStep_accounted (accounted : Accounted lib metadata configs cl)
    {event : Event Selector} (listed : ∀config,event=.configure config → config∈configs) :
    Accounted lib metadata configs (clusterStep lib metadata cl event).1 ∧
      (CollisionFree lib metadata configs → Unshared lib metadata configs →
        ∀d∈(clusterStep lib metadata cl event).2,d.owner=d.who) := by
  cases event with
  | configure config =>
    exact ⟨accounted.configure lib metadata (listed config rfl),by simp [clusterStep]⟩
  | reconcile name view => exact reconcile_accounted lib metadata accounted
  | report ref status =>
    refine ⟨accounted.update lib metadata ref ?_,by simp [clusterStep]⟩
    intro obj found
    obtain ⟨old,present,rfl⟩ := Option.map_eq_some_iff.mp found
    exact ⟨old,present,rfl⟩
  | remove ref =>
    refine ⟨accounted.update lib metadata ref ?_,by simp [clusterStep]⟩
    intro obj found
    cases found

theorem isolated_of_unshared (free : CollisionFree lib metadata configs)
    (unshared : Unshared lib metadata configs) {events : List (Event Selector)}
    (listed : configurations events=configs) : Isolated lib metadata events := by
  refine (run_of_eachCall (clusterStep lib metadata)
    (fun tr cl => Accounted lib metadata configs cl ∧ ∀st∈tr,∀d∈st.answer,d.owner=d.who)
    (fun _ _ event => ∀config,event=.configure config → config∈configs) Cluster.empty
    ⟨Accounted.empty lib metadata,by simp⟩ ?_ events ?_).2
  · rintro _ _ event ⟨accounted,own⟩ listed
    obtain ⟨kept,deletes⟩ := clusterStep_accounted lib metadata accounted listed
    exact ⟨kept,forall_mem_snoc own (deletes free unshared)⟩
  · rintro _ _ hp config rfl
    rw [← listed]
    have mem : Event.configure config∈events := hp.subset (by simp)
    exact List.mem_filterMap.mpr ⟨_,mem,rfl⟩

theorem cluster_accounted (events : List (Event Selector)) :
    Accounted lib metadata (configurations events)
      (run (clusterStep lib metadata) Cluster.empty events) := by
  refine run_of_eachCall (clusterStep lib metadata)
    (fun _ => Accounted lib metadata (configurations events))
    (fun _ _ event => ∀config,event=.configure config → config∈configurations events) _
    (Accounted.empty lib metadata) ?_ events ?_
  · intro _ _ event accounted listed
    exact (clusterStep_accounted lib metadata accounted listed).1
  · rintro _ _ hp config rfl
    have mem : Event.configure config∈events := hp.subset (by simp)
    exact List.mem_filterMap.mpr ⟨_,mem,rfl⟩

end KServeLLM.Controller.Cache
