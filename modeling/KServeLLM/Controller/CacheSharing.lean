import KServeLLM.Controller.CacheIsolation

namespace KServeLLM.Controller.Cache

variable {Selector : Type} (lib : Library Selector)

def Calm (s : Store) : Prop := ∀ ref obj,s.objects ref=some obj → obj.status={} ∧ obj.deleting=false

variable {ref : Ref}

theorem Calm.update {s t : Store} (calm : Calm s) {obj : Option Object}
    (written : t.objects=Function.update s.objects ref obj)
    (fresh : ∀o∈obj,o.status={} ∧ o.deleting=false) : Calm t := by
  intro ref' o found
  rw [written] at found
  by_cases here : ref'=ref
  · subst here
    rw [Function.update_self] at found
    exact fresh o found
  · rw [Function.update_of_ne here] at found
    exact calm ref' o found

theorem Calm.create {s : Store} (calm : Calm s) (ref : Ref) (name : String) :
    Calm (s.create ref {owner := name}) :=
  calm.update rfl (by simp)

variable {s : Store} {obj : Object}

theorem create_present {ref' : Ref}
    (present : (s.objects ref').isSome) : ((s.create ref obj).objects ref').isSome := by
  by_cases here : ref'=ref
  · subst here
    simp [OwnedStore.create]
  · simpa only [OwnedStore.create,Function.update_of_ne here] using present

theorem create_made {s : Store} : ((s.create ref obj).objects ref).isSome := by
  simp [OwnedStore.create]

variable {view : View} {job : Object} {ns modelHash nodeName : String}

section

variable {around : Surroundings} {cache : LocalModelCache Selector}

structure Grown (s t : Store) (pvc job : Ref) : Prop where
  calm : Calm t
  pvcs : ∀ref,ref.kind=.pvc → (s.objects ref).isSome → (t.objects ref).isSome
  made : (t.objects pvc).isSome
  all : (s.objects pvc).isSome → ∀ref,(s.objects ref).isSome → (t.objects ref).isSome
  started : (s.objects pvc).isSome → (t.objects job).isSome

theorem updateNodeCacheFromJob_fresh (fresh : job.status={}) (status : NodeCacheStatus)
    (s : Store) :
    updateNodeCacheFromJob lib view cache ns modelHash nodeName job status s=
      (s,{status with phase := "Pending",lastTransitionTime := some view.now}) := by
  have phase : jobPhase job="Pending" := by
    rw [jobPhase,fresh]
    rfl
  simp [updateNodeCacheFromJob,phaseFromJob,phase]

variable (smooth : view.Smooth)
  (resolved : ∀stage,resolveCacheWorkloadNamespace around view stage cache=.ok ns)
  {size : Int} (sized : modelSizeQuantity lib cache.spec=.ok size) (calm : Calm s)

include smooth resolved sized calm

theorem reconcileNodeCache_grown {modelHash nodeName : String} :
    Grown s (reconcileNodeCache lib around view cache modelHash nodeName s).1
        (pvcRef lib ns modelHash nodeName) (jobRef lib ns modelHash nodeName) ∧
      ∃status,(reconcileNodeCache lib around view cache modelHash nodeName s).2=.ok status ∧
        status.phase≠"Ready" := by
  cases volume : s.objects (pvcRef lib ns modelHash nodeName) with
  | none =>
    rw [reconcileNodeCache_absent lib smooth (resolved _) sized volume]
    have gone : (delete view cache (.node nodeName) (jobRef lib ns modelHash nodeName)
        s).1.objects=_ := delete_smooth smooth
    refine ⟨⟨(calm.update gone (by simp)).create _ _,?_,create_made,?_,?_⟩,_,rfl,by simp [
      pendingNodeCacheStatus]⟩
    · intro ref claim present
      refine create_present ?_
      have other : ref≠jobRef lib ns modelHash nodeName := by
        rintro rfl
        cases claim
      rw [gone,Function.update_of_ne other]
      exact present
    · simp [volume]
    · simp [volume]
  | some claim =>
    have present : (s.objects (pvcRef lib ns modelHash nodeName)).isSome := by simp [volume]
    cases found : s.objects (jobRef lib ns modelHash nodeName) with
    | none =>
      rw [reconcileNodeCache_starts lib smooth (resolved _) present found]
      exact ⟨⟨calm.create _ _,fun _ _ => create_present,create_present present,
        fun _ _ => create_present,fun _ => create_made⟩,_,rfl,by simp⟩
    | some job =>
      obtain ⟨fresh,stays⟩ := calm _ job found
      rw [reconcileNodeCache_reads lib smooth (resolved _) present found stays,
        updateNodeCacheFromJob_fresh lib fresh]
      exact ⟨⟨calm,fun _ _ => id,present,fun _ _ => id,fun _ => by simp [found]⟩,_,rfl,by simp⟩

structure Filled (pvc job : String → Ref) (nodes : List String) (s : Store)
    (done : Store×List NodeCacheStatus) : Prop where
  calm : Calm done.1
  pvcs : ∀ref,ref.kind=.pvc → (s.objects ref).isSome → (done.1.objects ref).isSome
  made : ∀n∈nodes,(done.1.objects (pvc n)).isSome
  all : (∀n∈nodes,(s.objects (pvc n)).isSome) →
    ∀ref,(s.objects ref).isSome → (done.1.objects ref).isSome
  started : (∀n∈nodes,(s.objects (pvc n)).isSome) → ∀n∈nodes,(done.1.objects (job n)).isSome
  idle : ∀status∈done.2,status.phase≠"Ready"

theorem reconcileTargetCaches_filled (modelHash : String) (nodes : List String) :
    Filled (pvcRef lib ns modelHash) (jobRef lib ns modelHash) nodes s
      (reconcileTargetCaches lib around view cache modelHash nodes s) := by
  induction nodes generalizing s with
  | nil =>
    exact ⟨calm,fun _ _ => id,by simp,fun _ _ => id,by simp,by simp [reconcileTargetCaches]⟩
  | cons n nodes ih =>
    obtain ⟨grown,_,ok,phase⟩ := reconcileNodeCache_grown lib smooth resolved sized calm
    rw [reconcileTargetCaches]
    rcases parts : reconcileNodeCache lib around view cache modelHash n s with ⟨t,_⟩
    rw [parts] at grown ok
    cases ok
    have rest := ih grown.calm
    -- the claims that were there stay there, so the hypothesis on them passes to the rest
    have still (all : ∀m∈n::nodes,(s.objects (pvcRef lib ns modelHash m)).isSome) :
        ∀m∈nodes,(t.objects (pvcRef lib ns modelHash m)).isSome :=
      fun m hm => grown.pvcs _ rfl (all m (.tail _ hm))
    refine ⟨rest.calm,?_,?_,?_,?_,List.forall_mem_cons.mpr ⟨phase,rest.idle⟩⟩
    · intro ref claim present
      exact rest.pvcs ref claim (grown.pvcs ref claim present)
    · exact List.forall_mem_cons.mpr ⟨rest.pvcs _ rfl grown.made,rest.made⟩
    · intro all ref present
      exact rest.all (still all) ref (grown.all (all n (.head _)) ref present)
    · intro all
      exact List.forall_mem_cons.mpr ⟨rest.all (still all) _ (grown.started (all n (.head _))),
        rest.started (still all)⟩

end

variable {cl : Cluster Selector} {name : String}

section

variable {around : Surroundings} {cache : LocalModelCache Selector}
  {statuses : List NodeCacheStatus}

theorem cleanupLoop_keeps {targets : List String} {ns : String}
    (all : ∀status∈statuses,status.nodeName∈targets)
    {s : Store} : cleanupLoop lib view cache targets ns statuses s=(s,.ok statuses) := by
  induction statuses with
  | nil => rfl
  | cons status statuses ih =>
    have rest := ih (fun st hst => all st (.tail _ hst))
    simp [cleanupLoop,all status (.head _),rest,Except.map]

theorem cacheEntries_nil
    (idle : ∀status∈statuses,status.phase≠"Ready") : cacheEntries lib statuses=[] := by
  have none : statuses.zipIdx.filterMap cacheEntry=[] := by
    refine List.filterMap_eq_nil_iff.mpr ?_
    intro indexed mem
    exact if_neg (idle indexed.1 (List.fst_mem_of_mem_zipIdx mem))
  rw [cacheEntries,none]
  exact List.perm_nil.mp (lib.perm [])

theorem evictLRU_idle (idle : ∀status∈statuses,status.phase≠"Ready") (s : Store) :
    evictLRU lib around view cache statuses s=(s,statuses) := by
  unfold evictLRU
  split
  · rfl
  · rfl
  · rw [cacheEntries_nil lib idle]
    rfl

def Starting (cache : LocalModelCache Selector) (targets : List String) : Prop :=
  ∀status∈cache.status.nodeStatuses,status.nodeName∈targets ∧ status.phase≠"Ready"

theorem reconcileTargets_after {around : Surroundings} {view : View}
    {cache : LocalModelCache Selector} {targets : List String} {s : Store} :
    Acts Object.owner cache.name (fun _ => True) (reconcileTargetCaches lib around view cache
        (modelURIHash lib.sha cache.spec.sourceModelURI) targets s).1
      (reconcileTargets lib around view cache targets s).1 := by
  have stale := cleanupStaleNodeCaches_acts lib around view cache
    (fun st _ (_ : st.nodeName∉targets) ref _ => trivial)
    (reconcileTargetCaches lib around view cache
      (modelURIHash lib.sha cache.spec.sourceModelURI) targets s).1
  simp only [reconcileTargets]
  split <;> rename_i cleaned <;> rw [cleaned] at stale
  · exact stale
  · exact stale.trans (evictLRU_acts lib around view cache (fun _ _ _ _ => trivial) _)

variable {targets : List String} (smooth : view.Smooth)

include smooth

theorem reconcileTargets_starting
    (resolved : ∀stage,resolveCacheWorkloadNamespace around view stage cache=.ok ns)
    {size : Int} (sized : modelSizeQuantity lib cache.spec=.ok size) (calm : Calm s)
    (starting : Starting cache targets) :
    ∃status,reconcileTargets lib around view cache targets s=
        ((reconcileTargetCaches lib around view cache
          (modelURIHash lib.sha cache.spec.sourceModelURI) targets s).1,.ok status) ∧
      Starting {cache with status} targets := by
  have filled := reconcileTargetCaches_filled lib smooth resolved sized calm
    (modelURIHash lib.sha cache.spec.sourceModelURI) targets
  have cleaned t : cleanupStaleNodeCaches lib around view cache targets t=
      (t,.ok cache.status.nodeStatuses) := by
    simp only [cleanupStaleNodeCaches,resolved]
    exact cleanupLoop_keeps lib (fun st hst => (starting st hst).1)
  have merged st (mem : st∈mergeNodeCacheStatuses cache.status.nodeStatuses
      (reconcileTargetCaches lib around view cache
        (modelURIHash lib.sha cache.spec.sourceModelURI) targets s).2 targets) :
      st.nodeName∈targets ∧ st.phase≠"Ready" := by
    rcases mem_mergeNodeCacheStatuses mem with current | ⟨old,-⟩
    · obtain ⟨n,hn,same⟩ := reconcileTargetCaches_identity lib around _ cache current
      simp only [identity,Prod.mk.injEq] at same
      exact ⟨same.1 ▸ hn,filled.idle st current⟩
    · exact starting st old
  simp only [reconcileTargets,cleaned,evictLRU_idle lib (fun st hst => (merged st hst).2)]
  exact ⟨_,rfl,merged⟩

theorem reconcile_starting (found : cl.caches name=some cache) (named : cache.name=name)
    (prepared : prepare lib cl.around view cache=.ok targets) (calm : Calm ⟨cl.objects,[]⟩)
    (starting : Starting cache targets) :
    ∃ status done,(reconcile lib view name cl).1={cl with
          caches := Function.update cl.caches name (some {cache with status})
          objects := done.1.objects} ∧
      Starting {cache with status} targets ∧
      Acts Object.owner name (fun _ => True) ⟨cl.objects,[]⟩ done.1 ∧
      Filled (pvcRef lib (workloadNamespace cache.annotations)
          (modelURIHash lib.sha cache.spec.sourceModelURI))
        (jobRef lib (workloadNamespace cache.annotations)
          (modelURIHash lib.sha cache.spec.sourceModelURI)) targets ⟨cl.objects,[]⟩ done := by
  obtain ⟨⟨_,resolved⟩,-,-⟩ := prepare_ok lib prepared
  obtain ⟨_,sized⟩ := modelSize_of_prepared lib prepared
  have resolves := resolve_smooth smooth resolved
  obtain ⟨status,done,still⟩ := reconcileTargets_starting lib smooth resolves sized calm starting
  have filled := reconcileTargetCaches_filled lib smooth resolves sized calm
    (modelURIHash lib.sha cache.spec.sourceModelURI) targets
  have acts := reconcileTargetCaches_touches lib cl.around view cache
    (modelURIHash lib.sha cache.spec.sourceModelURI) targets ⟨cl.objects,[]⟩
  rw [named] at acts
  refine ⟨status,_,?_,still,acts,filled⟩
  rw [reconcile_smooth lib smooth found prepared done,Cluster.setStatus,named]

end

section

variable {around : Surroundings} {cache : LocalModelCache Selector} (smooth : view.Smooth)
  (stays : job.deleting=false) (failed : jobPhase job="Failed") (due : healable view job=true)

include smooth

theorem delete_logs {stage : Stage} (found : s.objects ref=some obj) :
    ⟨cache.name,ref,obj.owner⟩∈(delete view cache stage ref s).1.log := by
  obtain ⟨_,_,rfl⟩ := smooth
  simp [delete,View.smooth,found,OwnedStore.delete]

include stays failed due

theorem reconcileTargetCaches_heals {nodes : List String} (target : nodeName∈nodes)
    (resolved : ∀stage,resolveCacheWorkloadNamespace around view stage cache=.ok ns)
    (present : (s.objects (pvcRef lib ns modelHash nodeName)).isSome)
    (found : s.objects (jobRef lib ns modelHash nodeName)=some job) :
    ⟨cache.name,jobRef lib ns modelHash nodeName,job.owner⟩∈
      (reconcileTargetCaches lib around view cache modelHash nodes s).1.log := by
  obtain rfl := resolve_ns (resolved .start)
  induction nodes generalizing s with
  | nil => cases target
  | cons m nodes ih =>
    by_cases same : pvcRef lib (workloadNamespace cache.annotations) modelHash m=
        pvcRef lib (workloadNamespace cache.annotations) modelHash nodeName
    · -- the first node with these objects deletes the Job
      have sameJob := (pvcRef_eq_iff lib).mp same
      rw [← same] at present
      rw [← sameJob] at found ⊢
      rw [reconcileTargetCaches,reconcileNodeCache_reads lib smooth (resolved (.node m)) present
        found stays]
      refine (reconcileTargetCaches_touches lib around view cache _ _ _).log_grows.subset ?_
      simp only [updateNodeCacheFromJob,phaseFromJob,failed,selfHealFailedJob,due]
      exact delete_logs smooth found
    · have here : nodeName∈nodes :=
        (List.mem_cons.mp target).resolve_left fun eq => same (by rw [eq])
      have sameJob := mt (pvcRef_eq_iff lib).mpr same
      rw [← reconcileNodeCache_frame lib around view cache (Ne.symm same)
        (by simp [pvcRef,jobRef])] at present
      rw [← reconcileNodeCache_frame lib around view cache (by simp [pvcRef,jobRef])
        (Ne.symm sameJob)] at found
      have later := ih here present found
      simp only [reconcileTargetCaches]
      split <;> rename_i done <;> rw [done] at later <;> exact later

theorem reconcile_heals {targets : List String} (known : cl.caches name=some cache)
    (prepared : prepare lib cl.around view cache=.ok targets) (target : nodeName∈targets)
    (present : (cl.objects (pvcRef lib (workloadNamespace cache.annotations)
      (modelURIHash lib.sha cache.spec.sourceModelURI) nodeName)).isSome)
    (found : cl.objects (jobRef lib (workloadNamespace cache.annotations)
      (modelURIHash lib.sha cache.spec.sourceModelURI) nodeName)=some job) :
    ⟨cache.name,jobRef lib (workloadNamespace cache.annotations)
      (modelURIHash lib.sha cache.spec.sourceModelURI) nodeName,job.owner⟩∈
      (reconcile lib view name cl).2.deleted := by
  obtain ⟨⟨_,resolved⟩,-,-⟩ := prepare_ok lib prepared
  have healed := reconcileTargetCaches_heals lib smooth stays failed due target
    (resolve_smooth smooth resolved) (s := ⟨cl.objects,[]⟩) present found
  have listed := (reconcileTargets_after lib).log_grows.subset healed
  obtain ⟨_,_,rfl⟩ := smooth
  simp only [reconcile,View.smooth_refuses,known,prepared]
  split <;> rename_i done <;> rw [done] at listed <;> exact listed

end

variable {claim : Claim}

section

variable (metadata : String → Metadata) {config : Configuration Selector}

theorem mem_claims_iff : claim∈claims lib metadata config name ↔
      ∃ cache targets,config.cache metadata name {}=some cache ∧
        prepare lib config.around (View.smooth 0 false) cache=.ok targets ∧
        ∃node∈targets,⟨workloadNamespace cache.annotations,cache.spec.sourceModelURI,node⟩=
          claim := by
  unfold claims
  constructor
  · intro mem
    split at mem
    · cases mem
    · rename_i cache made
      split at mem
      · cases mem
      · rename_i targets prepared
        exact ⟨cache,targets,made,prepared,List.mem_map.mp mem⟩
  · rintro ⟨_,_,made,prepared,listed⟩
    simp only [made,prepared]
    exact List.mem_map.mpr listed

def configureAll (configs : List (Configuration Selector)) : List (Event Selector) :=
  configs.map .configure

theorem run_configureAll (configs : List (Configuration Selector)) (cl : Cluster Selector) :
    (run (clusterStep lib metadata) cl (configureAll configs)).objects=cl.objects ∧
      ∀name,statusOf cl name={} →
        statusOf (run (clusterStep lib metadata) cl (configureAll configs)) name={} := by
  induction configs generalizing cl with
  | nil => exact ⟨rfl,fun _ => id⟩
  | cons config configs ih =>
    obtain ⟨objects,statuses⟩ := ih (cl.configure metadata config)
    refine ⟨objects,fun name fresh => statuses name ?_⟩
    simp only [statusOf]
    split
    · rfl
    · rename_i cache made
      rw [(cache_eq metadata made).2.2]
      exact fresh

structure Fresh (config : Configuration Selector) (name : String) (cl : Cluster Selector) :
    Prop where
  around : cl.around=config.around
  cache : cl.caches name=config.cache metadata name {}

theorem Fresh.status (fresh : Fresh metadata config name cl) : statusOf cl name={} := by
  unfold statusOf
  rw [fresh.cache]
  split
  · rfl
  · rename_i made
    exact (cache_eq metadata made).2.2

theorem fresh_configureAll {configs : List (Configuration Selector)}
    {config : Configuration Selector} (fresh : statusOf cl name={}) :
    Fresh metadata config name
      (run (clusterStep lib metadata) cl (configureAll (configs++[config]))) := by
  have status := (run_configureAll lib metadata configs cl).2 name fresh
  rw [configureAll,List.map_append,List.map_singleton,run_snoc]
  refine ⟨rfl,?_⟩
  simp only [clusterStep,Cluster.configure]
  rw [← configureAll,status]

def failedAtStart : JobStatus := {conditions := [⟨"Failed","True",0⟩]}

def later : Time := 301000000000

def failing (name : String) (job : Ref) : List (Event Selector) :=
  [.reconcile name (View.smooth 0 false),.reconcile name (View.smooth 0 false),
    .report job failedAtStart]

theorem run_failing {name node : String} (fresh : Fresh metadata config name cl)
    (empty : ∀ref,cl.objects ref=none) {cache : LocalModelCache Selector} {targets : List String}
    (made : config.cache metadata name {}=some cache)
    (prepared : prepare lib config.around (View.smooth 0 false) cache=.ok targets)
    (target : node∈targets) {pvc job : Ref}
    (isPvc : pvc=pvcRef lib (workloadNamespace cache.annotations)
      (modelURIHash lib.sha cache.spec.sourceModelURI) node)
    (isJob : job=jobRef lib (workloadNamespace cache.annotations)
      (modelURIHash lib.sha cache.spec.sourceModelURI) node) :
    let t := run (clusterStep lib metadata) cl (failing name job)
    t.around=cl.around ∧ (∀other,other≠name → t.caches other=cl.caches other) ∧
      (t.objects pvc).isSome ∧
      t.objects job=some {owner := name,status := failedAtStart} := by
  obtain ⟨named,-,unrecorded⟩ := cache_eq metadata made
  rw [← fresh.around] at prepared
  have found : cl.caches name=some cache := fresh.cache.trans made
  have calm : Calm ⟨cl.objects,[]⟩ := by
    intro ref obj present
    simp [empty] at present
  obtain ⟨status,first,firstEq,starting,firstActs,firstFilled⟩ :=
    reconcile_starting lib ⟨0,false,rfl⟩ found named prepared calm (by simp [Starting,unrecorded])
  -- the second reconciliation finds the claims of the first
  let again : Cluster Selector := {cl with
      caches := Function.update cl.caches name (some {cache with status})
      objects := first.1.objects}
  have foundAgain : again.caches name=some {cache with status} := Function.update_self ..
  obtain ⟨_,_,secondEq,-,secondActs,secondFilled⟩ :=
    reconcile_starting lib ⟨0,false,rfl⟩ foundAgain named prepared firstFilled.calm starting
  have claimed := secondFilled.made node target
  have started := secondFilled.started firstFilled.made node target
  rw [← isPvc] at claimed
  rw [← isJob] at started
  obtain ⟨warm,present⟩ := Option.isSome_iff_exists.mp started
  obtain ⟨_,_⟩ := secondFilled.calm job warm present
  have owner : warm.owner=name := by
    rcases secondActs.origin present with ⟨-,own⟩ | ⟨_,there,same⟩
    · exact own
    · rcases firstActs.origin there with ⟨-,own⟩ | ⟨_,before,-⟩
      · exact same.symm.trans own
      · simp [empty] at before
  have apart : pvc≠job := by
    rw [isPvc,isJob]
    exact fun eq => by cases congrArg Ref.kind eq
  simp only [again] at secondEq
  simp only [failing,run,clusterStep,firstEq,secondEq,Cluster.report]
  refine ⟨trivial,?_,?_,?_⟩
  · intro other ne
    rw [Function.update_of_ne ne,Function.update_of_ne ne]
  · rw [Function.update_of_ne apart]
    exact claimed
  · simp_all

theorem exists_deletion {before between after : List (Configuration Selector)}
    {config config' : Configuration Selector} {name name' : String} (ne : name≠name')
    (one : claim∈claims lib metadata config name)
    (two : claim∈claims lib metadata config' name')
    (next : between=[] ∧ config'=config ∨ ∃front,between=front++[config']) :
    ∃events,configurations events=before++[config]++between++after ∧
      ¬Isolated lib metadata events := by
  obtain ⟨cache,_,made,prepared,node,target,rfl⟩ := (mem_claims_iff lib metadata).mp one
  obtain ⟨cache',_,made',prepared',node',target',same⟩ := (mem_claims_iff lib metadata).mp two
  obtain ⟨ns,uri,rfl⟩ : workloadNamespace cache'.annotations=workloadNamespace cache.annotations ∧
      cache'.spec.sourceModelURI=cache.spec.sourceModelURI ∧ node'=node := by
    simpa using same
  let job := jobRef lib (workloadNamespace cache.annotations)
    (modelURIHash lib.sha cache.spec.sourceModelURI) node'
  let start := run (clusterStep lib metadata) Cluster.empty (configureAll (before++[config]))
  let failed := run (clusterStep lib metadata) start (failing name job)
  let met := run (clusterStep lib metadata) failed (configureAll between)
  have fresh n : Fresh metadata config n start := fresh_configureAll lib metadata rfl
  have nothing ref : start.objects ref=none := by
    rw [show start.objects=_ from (run_configureAll lib metadata _ _).1]
    rfl
  obtain ⟨around,others,claimed,owned⟩ := run_failing lib metadata (fresh name) nothing made
    prepared target rfl rfl
  have freshMet : Fresh metadata config' name' met := by
    rcases next with ⟨rfl,rfl⟩ | ⟨front,rfl⟩
    · exact ⟨around.trans (fresh name).around,(others name' ne.symm).trans (fresh name').cache⟩
    · refine fresh_configureAll lib metadata ?_
      have status := (fresh name').status
      unfold statusOf at status ⊢
      rw [others name' ne.symm]
      exact status
  have objects : met.objects=failed.objects := (run_configureAll lib metadata between failed).1
  refine ⟨configureAll (before++[config])++failing name job++configureAll between++
    .reconcile name' (View.smooth later false)::configureAll after,?_,?_⟩
  · have all (configs : List (Configuration Selector)) :
        configurations (configureAll configs)=configs := by
      simp [configurations,configureAll]
    have none : configurations (failing name job : List (Event Selector))=[] := rfl
    simp only [configurations] at all none ⊢
    simp [List.filterMap_append,all,none]
  · intro isolated
    have mem := mem_trace (clusterStep lib metadata) Cluster.empty
      (configureAll (before++[config])++failing name job++configureAll between)
      (.reconcile name' (View.smooth later false)) (configureAll after)
    rw [run_append,run_append] at mem
    have own := isolated _ mem
    rw [← freshMet.around] at prepared'
    rw [← objects,← ns,← uri] at claimed owned
    have deleted := reconcile_heals lib ⟨later,false,rfl⟩ rfl rfl rfl (freshMet.cache.trans made')
      (prepare_smooth lib ⟨later,false,rfl⟩ prepared') target' claimed owned
    have bad := own _ deleted
    exact ne (bad.trans (cache_eq metadata made').1)

theorem isolated_iff_unshared (configs : List (Configuration Selector))
    (free : CollisionFree lib metadata configs) :
    (∀events,configurations events=configs → Isolated lib metadata events) ↔
      Unshared lib metadata configs := by
  constructor
  · intro isolated config hconfig config' hconfig' name name' ne claim one two
    have never before between after
        first second n n' (apart : n≠n')
        (here : claim∈claims lib metadata first n) (there : claim∈claims lib metadata second n')
        (next : between=[] ∧ second=first ∨ ∃front,between=front++[second])
        (split : configs=before++[first]++between++after) : False := by
      obtain ⟨events,listed,bad⟩ := exists_deletion lib metadata apart here there next
      exact bad (isolated events (listed.trans split.symm))
    obtain ⟨front,back,rfl⟩ := List.append_of_mem hconfig
    rcases List.mem_append.mp hconfig' with earlier | here
    · -- the other cache comes first
      obtain ⟨before,between,rfl⟩ := List.append_of_mem earlier
      exact never before (between++[config]) back config' config name' name ne.symm two one
        (.inr ⟨between,rfl⟩) (by simp)
    · rcases List.mem_cons.mp here with rfl | later
      · exact never front [] back config' config' name name' ne one two (.inl ⟨rfl,rfl⟩) (by simp)
      · obtain ⟨between,after,rfl⟩ := List.append_of_mem later
        exact never front (between++[config']) after config config' name name' ne one two
          (.inr ⟨between,rfl⟩) (by simp)
  · intro unshared events listed
    exact isolated_of_unshared lib metadata free unshared listed

end

def twoCaches (a b : LocalModelCacheSpec Unit) (nodes : List Node) : Configuration Unit :=
  ⟨fun name => if name="a" then some a else if name="b" then some b else none,
    ⟨nodes,fun _ _ => none⟩⟩

def oneNode : List Node := [{name := "n"}]

def noMetadata : String → Metadata := fun _ => {}

theorem claims_twoCaches (mem : claim∈claims sampleLibrary noMetadata
      (twoCaches {sourceModelURI := "m"} {sourceModelURI := "k"} oneNode) name) :
    name="a" ∧ claim=⟨"default","m","n"⟩ ∨ name="b" ∧ claim=⟨"default","k","n"⟩ := by
  by_cases a : name="a"
  · subst a
    exact .inl ⟨rfl,List.mem_singleton.mp mem⟩
  · by_cases b : name="b"
    · subst b
      exact .inr ⟨rfl,List.mem_singleton.mp mem⟩
    · simp [claims,Configuration.cache,twoCaches,a,b] at mem

theorem collisionFree_twoCaches : CollisionFree sampleLibrary noMetadata
    [twoCaches {sourceModelURI := "m"} {sourceModelURI := "k"} oneNode] := by
  intro config hconfig config' hconfig' name name' claim one claim' two
  obtain rfl := List.mem_singleton.mp hconfig
  obtain rfl := List.mem_singleton.mp hconfig'
  rcases claims_twoCaches one with ⟨-,rfl⟩ | ⟨-,rfl⟩ <;>
    rcases claims_twoCaches two with ⟨-,rfl⟩ | ⟨-,rfl⟩ <;> decide +kernel

theorem two_models_isolated : CollisionFree sampleLibrary noMetadata
        [twoCaches {sourceModelURI := "m"} {sourceModelURI := "k"} oneNode] ∧
      ∀events,configurations events=
          [twoCaches {sourceModelURI := "m"} {sourceModelURI := "k"} oneNode] →
        Isolated sampleLibrary noMetadata events := by
  refine ⟨collisionFree_twoCaches,?_⟩
  refine (isolated_iff_unshared sampleLibrary noMetadata _ collisionFree_twoCaches).mpr ?_
  intro config hconfig config' hconfig' name name' ne claim one two
  obtain rfl := List.mem_singleton.mp hconfig
  obtain rfl := List.mem_singleton.mp hconfig'
  rcases claims_twoCaches one with ⟨rfl,rfl⟩ | ⟨rfl,rfl⟩ <;>
    rcases claims_twoCaches two with ⟨rfl,eq⟩ | ⟨rfl,eq⟩
  · exact ne rfl
  · exact absurd (congrArg Claim.uri eq) (by decide)
  · exact absurd (congrArg Claim.uri eq) (by decide)
  · exact ne rfl

def sharedPvc : Ref := pvcRef sampleLibrary "default" (modelURIHash sampleSha256 "m") "n"
def sharedJob : Ref := jobRef sampleLibrary "default" (modelURIHash sampleSha256 "m") "n"

def sharedStart (b : LocalModelCacheSpec Unit) : List (Event Unit) :=
  [.configure (twoCaches {sourceModelURI := "m"} b oneNode),
    .reconcile "a" (View.smooth 0 false),.reconcile "a" (View.smooth 0 false)]

def deletions (events : List (Event Unit)) : List (Deletion Ref String) :=
  (trace (clusterStep sampleLibrary noMetadata) Cluster.empty events).flatMap (·.answer)

theorem not_isolated {events : List (Event Unit)} {d : Deletion Ref String}
    (mem : d∈deletions events) (ne : d.owner≠d.who) :
    ¬Isolated sampleLibrary noMetadata events := by
  obtain ⟨st,hst,hd⟩ := List.mem_flatMap.mp mem
  exact fun isolated => ne (isolated st hst d hd)

def healRun : List (Event Unit) := sharedStart {sourceModelURI := "m"}++
    [.report sharedJob failedAtStart,.reconcile "b" (View.smooth later false)]

def orphanRun : List (Event Unit) :=
  sharedStart {sourceModelURI := "m"}++[.remove sharedPvc,.reconcile "b" (View.smooth 0 false)]

def staleRun : List (Event Unit) := sharedStart {sourceModelURI := "m"}++
    [.reconcile "b" (View.smooth 0 false),.configure (twoCaches {sourceModelURI := "m"}
        {sourceModelURI := "m",warmNodes := ["gone"]} oneNode),
      .reconcile "b" (View.smooth 0 false)]

def evictRun : List (Event Unit) :=
  sharedStart {sourceModelURI := "m",modelSize := "ten",maxCacheSize := "1"}++
    [.report sharedJob {conditions := [⟨"Complete","True",0⟩]},.reconcile "b" (View.smooth 0 false)]

theorem shared_objects_deleted :
    (deletions healRun=[⟨"b",sharedJob,"a"⟩] ∧ deletions orphanRun=[⟨"b",sharedJob,"a"⟩] ∧
      deletions staleRun=[⟨"b",sharedPvc,"a"⟩,⟨"b",sharedJob,"a"⟩] ∧
      deletions evictRun=[⟨"b",sharedPvc,"a"⟩,⟨"b",sharedJob,"a"⟩]) ∧
    ∀events∈[healRun,orphanRun,staleRun,evictRun],¬Isolated sampleLibrary noMetadata events := by
  have listed : deletions healRun=[⟨"b",sharedJob,"a"⟩] ∧
      deletions orphanRun=[⟨"b",sharedJob,"a"⟩] ∧
      deletions staleRun=[⟨"b",sharedPvc,"a"⟩,⟨"b",sharedJob,"a"⟩] ∧
      deletions evictRun=[⟨"b",sharedPvc,"a"⟩,⟨"b",sharedJob,"a"⟩] := by decide +kernel
  refine ⟨listed,?_⟩
  obtain ⟨heal,orphan,stale,evict⟩ := listed
  have foreign {events : List (Event Unit)} (mem : ⟨"b",sharedJob,"a"⟩∈deletions events) :
      ¬Isolated sampleLibrary noMetadata events := not_isolated mem (by decide)
  intro events mem
  simp only [List.mem_cons,List.not_mem_nil,or_false] at mem
  rcases mem with rfl | rfl | rfl | rfl
  · exact foreign (by simp [heal])
  · exact foreign (by simp [orphan])
  · exact foreign (by simp [stale])
  · exact foreign (by simp [evict])

end KServeLLM.Controller.Cache
