import KServeLLM.Controller.CachePreparation

namespace KServeLLM.Controller.Cache

variable {Selector : Type} (lib : Library Selector)

def Named (ns : String) (known : String → String → Prop) (ref : Ref) : Prop :=
  ∃ modelHash nodeName,known modelHash nodeName ∧
    (ref=pvcRef lib ns modelHash nodeName ∨ ref=jobRef lib ns modelHash nodeName)

structure Sound (known : String → String → Prop) (status : NodeCacheStatus) : Prop where
  pvcName : status.pvcName=pvcNameForNode lib.sha status.modelURIHash status.nodeName
  known : known status.modelURIHash status.nodeName

variable {ref : Ref} {job : Object}

section

variable (around : Surroundings) (view : View) (cache : LocalModelCache Selector)
  {keys : Ref → Prop}

theorem create_acts (stage : Stage) (mem : keys ref) (s : Store) :
    Acts Object.owner cache.name keys s (create view cache stage ref s).1 := by
  unfold create
  split
  · exact .refl
  · exact .create .refl mem rfl

theorem delete_acts (stage : Stage) (mem : keys ref) (s : Store) :
    Acts Object.owner cache.name keys s (delete view cache stage ref s).1 := by
  unfold delete
  split
  · exact .refl
  · split
    · exact .refl
    · rename_i obj found
      refine .delete .refl mem found ?_
      intro o left
      split at left
      · obtain rfl := Option.mem_some_iff.mp left
        rfl
      · cases left

variable {modelHash nodeName ns : String}

theorem ensureCachePVC_acts (pvc : keys (pvcRef lib ns modelHash nodeName))
    (job : keys (jobRef lib ns modelHash nodeName)) (s : Store) :
    Acts Object.owner cache.name keys s
      (ensureCachePVC lib view cache ns modelHash nodeName s).1 := by
  have orphan := delete_acts view cache (.node nodeName) job s
  have made := create_acts view cache (.node nodeName) pvc
    (delete view cache (.node nodeName) (jobRef lib ns modelHash nodeName) s).1
  simp only [ensureCachePVC]
  split
  · exact .refl
  · split
    · exact .refl
    · split
      · exact orphan
      · split <;> rename_i created <;> rw [created] at made <;> exact orphan.trans made

theorem ensureWarmupJob_acts (job : keys (jobRef lib ns modelHash nodeName))
    (status : NodeCacheStatus) (s : Store) :
    Acts Object.owner cache.name keys s
      (ensureWarmupJob lib view cache ns modelHash nodeName status s).1 := by
  have made := create_acts view cache (.node nodeName) job s
  simp only [ensureWarmupJob]
  split
  · exact .refl
  · split
    · exact .refl
    · split <;> rename_i created <;> rw [created] at made <;> exact made

theorem updateNodeCacheFromJob_acts (mem : keys (jobRef lib ns modelHash nodeName))
    {status : NodeCacheStatus} {s : Store} :
    Acts Object.owner cache.name keys s
      (updateNodeCacheFromJob lib view cache ns modelHash nodeName job status s).1 := by
  simp only [updateNodeCacheFromJob]
  split
  · unfold selfHealFailedJob
    split
    · exact delete_acts view cache _ mem s
    · exact .refl
  · exact .refl

theorem reconcileNodeCache_acts
    (pvc : keys (pvcRef lib (workloadNamespace cache.annotations) modelHash nodeName))
    (job : keys (jobRef lib (workloadNamespace cache.annotations) modelHash nodeName)) (s : Store) :
    Acts Object.owner cache.name keys s
      (reconcileNodeCache lib around view cache modelHash nodeName s).1 := by
  simp only [reconcileNodeCache]
  split
  · exact .refl
  · rename_i ns resolved
    obtain rfl := resolve_ns resolved
    have volume := ensureCachePVC_acts lib view cache pvc job s
    split <;> rename_i ensured <;> rw [ensured] at volume
    · exact volume
    · exact volume
    · rename_i t
      have warm := ensureWarmupJob_acts lib view cache job
        (pendingNodeCacheStatus lib nodeName modelHash) t
      split <;> rename_i started <;> rw [started] at warm
      · exact volume.trans warm
      · exact volume.trans warm
      · exact (volume.trans warm).trans (updateNodeCacheFromJob_acts lib view cache job)

theorem reconcileNodeCache_frame
    (pvc : ref≠pvcRef lib (workloadNamespace cache.annotations) modelHash nodeName)
    (job : ref≠jobRef lib (workloadNamespace cache.annotations) modelHash nodeName) (s : Store) :
    (reconcileNodeCache lib around view cache modelHash nodeName s).1.objects ref=
      s.objects ref := by
  have acts : Acts Object.owner cache.name (· ≠ ref) s _ :=
    reconcileNodeCache_acts lib around view cache pvc.symm job.symm s
  exact acts.frame fun other => other rfl

end

def identity (status : NodeCacheStatus) : String×String×String :=
  (status.nodeName,status.modelURIHash,status.pvcName)

variable {status : NodeCacheStatus} {nodes : List String} {limit : Int} {entries : List CacheEntry}

section

variable (around : Surroundings) (view : View) (cache : LocalModelCache Selector)

theorem phaseFromJob_identity {nodeName : String} (status : NodeCacheStatus) :
    identity (phaseFromJob lib view cache nodeName job status)=identity status := by
  simp only [phaseFromJob]
  split
  · unfold markNodeCacheReady
    split <;> rfl
  · rfl

theorem updateNodeCacheFromJob_identity (ns modelHash nodeName : String) (job : Object)
    (status : NodeCacheStatus) (s : Store) :
    identity (updateNodeCacheFromJob lib view cache ns modelHash nodeName job status s).2=
      identity status := by
  rw [← phaseFromJob_identity lib view cache status]
  simp only [updateNodeCacheFromJob]
  split
  · unfold selfHealFailedJob
    split <;> rfl
  · rfl

theorem ensureWarmupJob_identity {ns modelHash nodeName : String} {status t : NodeCacheStatus}
    {s : Store} {job : Option Object}
    (started : (ensureWarmupJob lib view cache ns modelHash nodeName status s).2=.ok (t,job)) :
    identity t=identity status := by
  simp only [ensureWarmupJob] at started
  split at started
  · cases started
  · split at started
    · cases started
      rfl
    · split at started
      · cases started
      · cases started
        rfl

theorem reconcileNodeCache_identity {modelHash nodeName : String} {s : Store}
    (done : (reconcileNodeCache lib around view cache modelHash nodeName s).2=.ok status) :
    identity status=identity (pendingNodeCacheStatus lib nodeName modelHash) := by
  simp only [reconcileNodeCache] at done
  split at done
  · cases done
  · split at done
    · cases done
    · cases done
      rfl
    · split at done <;> rename_i started
      · cases done
      · cases done
        exact ensureWarmupJob_identity lib view cache (congrArg Prod.snd started)
      · cases done
        rw [updateNodeCacheFromJob_identity]
        exact ensureWarmupJob_identity lib view cache (congrArg Prod.snd started)

theorem reconcileTargetCaches_identity {modelHash : String} {s : Store}
    (mem : status∈(reconcileTargetCaches lib around view cache modelHash nodes s).2) :
    ∃nodeName∈nodes,identity status=identity (pendingNodeCacheStatus lib nodeName modelHash) := by
  induction nodes generalizing s with
  | nil => cases mem
  | cons nodeName nodes ih =>
    simp only [reconcileTargetCaches] at mem
    split at mem
    · obtain ⟨n,hn,same⟩ := ih mem
      exact ⟨n,.tail _ hn,same⟩
    · rename_i done
      rcases List.mem_cons.mp mem with rfl | later
      · have same := reconcileNodeCache_identity lib around view cache (congrArg Prod.snd done)
        exact ⟨nodeName,.head _,same⟩
      · obtain ⟨n,hn,same⟩ := ih later
        exact ⟨n,.tail _ hn,same⟩

variable {retained : List NodeCacheStatus}

theorem cleanupLoop_retained {targets : List String} {ns : String}
    {statuses : List NodeCacheStatus} {s : Store}
    (done : (cleanupLoop lib view cache targets ns statuses s).2=.ok retained) :
    retained=statuses.filter (·.nodeName∈targets) := by
  induction statuses generalizing s retained with
  | nil =>
    cases done
    rfl
  | cons status statuses ih =>
    simp only [cleanupLoop] at done
    split at done
    · rename_i target
      cases rest : (cleanupLoop lib view cache targets ns statuses s).2 with
      | error err => simp [rest,Except.map] at done
      | ok kept =>
        simp only [rest,Except.map,Except.ok.injEq] at done
        simp only [List.filter_cons,target,decide_true,if_true]
        rw [← ih rest,done]
    · rename_i stale
      simp only [List.filter_cons,stale]
      split at done
      · cases done
      · exact ih done

theorem cleanupStaleNodeCaches_retained {targets : List String}
    {s : Store} (done : (cleanupStaleNodeCaches lib around view cache targets s).2=.ok retained) :
    retained=cache.status.nodeStatuses.filter (·.nodeName∈targets) := by
  unfold cleanupStaleNodeCaches at done
  split at done
  · cases done
  · exact cleanupLoop_retained lib view cache done

theorem mem_foldl_addMissing {current merged : List NodeCacheStatus}
    (mem : status∈current.foldl addMissing merged) : status∈current ∨ status∈merged := by
  induction current generalizing merged with
  | nil => exact .inr mem
  | cons next current ih =>
    rcases ih mem with later | here
    · exact .inl (.tail _ later)
    · unfold addMissing at here
      split at here
      · exact .inr here
      · rcases List.mem_append.mp here with old | new
        · exact .inr old
        · obtain rfl := List.mem_singleton.mp new
          exact .inl (.head _)

theorem mem_mergeNodeCacheStatuses {previous current : List NodeCacheStatus}
    {targets : List String} (mem : status∈mergeNodeCacheStatuses previous current targets) :
    status∈current ∨ status∈previous ∧ status.nodeName∈targets ∧
      findNodeCacheStatus current status.nodeName=none := by
  rcases mem_foldl_addMissing mem with here | here
  · exact .inl here
  · obtain ⟨prev,hprev,rfl⟩ := List.mem_map.mp here
    obtain ⟨recorded,target⟩ := List.mem_filter.mp hprev
    cases found : findNodeCacheStatus current prev.nodeName with
    | none => exact .inr ⟨recorded,of_decide_eq_true target,found⟩
    | some status => exact .inl (List.mem_of_find?_eq_some found)

theorem evictCacheEntry_identity {statuses kept : List NodeCacheStatus} {entry : CacheEntry}
    {s : Store} (done : (evictCacheEntry lib around view cache statuses entry s).2=.ok kept) :
    kept.map identity=statuses.map identity := by
  simp only [evictCacheEntry] at done
  split at done
  · cases done
  · rename_i status found
    split at done
    · cases done
    · split at done
      · cases done
      · cases done
        rw [List.map_set]
        obtain ⟨_,rfl⟩ := List.getElem?_eq_some_iff.mp found
        exact List.ext_getElem (by simp) (by
          intro i _ _
          rw [List.getElem_set]
          split
          · rename_i here
            subst here
            simp [identity]
          · rfl)

theorem evictLoop_identity (total : Int) (statuses : List NodeCacheStatus) (s : Store) :
    (evictLoop lib around view cache limit entries total statuses s).2.map identity=
      statuses.map identity := by
  induction entries generalizing total statuses s with
  | nil => rfl
  | cons entry entries ih =>
    simp only [evictLoop]
    split
    · rfl
    · split
      · rfl
      · rename_i done
        rw [ih,evictCacheEntry_identity lib around view cache (congrArg Prod.snd done)]

theorem evictLRU_identity (statuses : List NodeCacheStatus) (s : Store) :
    (evictLRU lib around view cache statuses s).2.map identity=statuses.map identity := by
  unfold evictLRU
  split
  · rfl
  · rfl
  · exact evictLoop_identity lib around view cache _ _ _

end

section

variable (around : Surroundings) (view : View) (cache : LocalModelCache Selector)
  {keys : Ref → Prop}

theorem reconcileTargetCaches_acts {modelHash : String} (known : ∀nodeName∈nodes,
      keys (pvcRef lib (workloadNamespace cache.annotations) modelHash nodeName) ∧
      keys (jobRef lib (workloadNamespace cache.annotations) modelHash nodeName)) (s : Store) :
    Acts Object.owner cache.name keys s
      (reconcileTargetCaches lib around view cache modelHash nodes s).1 := by
  induction nodes generalizing s with
  | nil => exact .refl
  | cons nodeName nodes ih =>
    have here := known nodeName (.head _)
    have first := reconcileNodeCache_acts lib around view cache here.1 here.2 s
    have rest := ih (fun n hn => known n (.tail _ hn))
    simp only [reconcileTargetCaches]
    split <;> rename_i done <;> rw [done] at first <;> exact first.trans (rest _)

theorem reconcileTargetCaches_touches (modelHash : String) (nodes : List String) (s : Store) :
    Acts Object.owner cache.name (fun _ => True) s
      (reconcileTargetCaches lib around view cache modelHash nodes s).1 :=
  reconcileTargetCaches_acts lib around view cache (fun _ _ => ⟨trivial,trivial⟩) s

def recordedRefs (ns : String) (status : NodeCacheStatus) : List Ref := [⟨.pvc,ns,status.pvcName⟩,
    ⟨.job,ns,warmupJobName lib.sha status.modelURIHash status.nodeName⟩]

theorem deleteCacheObject_acts (kind : String) (stage : Stage) (mem : keys ref) (s : Store) :
    Acts Object.owner cache.name keys s (deleteCacheObject view cache kind stage ref s).1 := by
  have gone := delete_acts view cache stage mem s
  unfold deleteCacheObject
  split
  · exact .refl
  · split
    · exact .refl
    · split <;> rename_i deleted <;> rw [deleted] at gone <;> exact gone

theorem deleteRecorded_acts (stage : Stage) {ns : String}
    (known : ∀ref∈recordedRefs lib ns status,keys ref) (s : Store) :
    Acts Object.owner cache.name keys s (deleteRecorded lib view cache stage ns status s).1 := by
  have pvc := known ⟨.pvc,ns,status.pvcName⟩ (by simp [recordedRefs])
  have job := known ⟨.job,ns,warmupJobName lib.sha status.modelURIHash status.nodeName⟩
    (by simp [recordedRefs])
  have first := deleteCacheObject_acts view cache "PVC" stage pvc s
  unfold deleteRecorded deleteCachePVC
  split <;> rename_i deleted <;> rw [deleted] at first
  · exact first
  · exact first.trans (deleteCacheObject_acts view cache "Job" stage job _)

variable {statuses : List NodeCacheStatus}

theorem cleanupLoop_acts {targets : List String} {ns : String}
    (known : ∀status∈statuses,status.nodeName∉targets → ∀ref∈recordedRefs lib ns status,keys ref)
    (s : Store) :
    Acts Object.owner cache.name keys s (cleanupLoop lib view cache targets ns statuses s).1 := by
  induction statuses generalizing s with
  | nil => exact .refl
  | cons status statuses ih =>
    have rest := ih (fun st hst => known st (.tail _ hst))
    simp only [cleanupLoop]
    split
    · exact rest s
    · rename_i stale
      have first := deleteRecorded_acts lib view cache
        (.cleanup status.nodeName) (known status (.head _) stale) s
      split <;> rename_i deleted <;> rw [deleted] at first
      · exact first
      · exact first.trans (rest _)

theorem cleanupStaleNodeCaches_acts {targets : List String}
    (known : ∀status∈cache.status.nodeStatuses,status.nodeName∉targets →
      ∀ref∈recordedRefs lib (workloadNamespace cache.annotations) status,keys ref) (s : Store) :
    Acts Object.owner cache.name keys s
      (cleanupStaleNodeCaches lib around view cache targets s).1 := by
  unfold cleanupStaleNodeCaches
  split
  · exact .refl
  · rename_i ns resolved
    obtain rfl := resolve_ns resolved
    exact cleanupLoop_acts lib view cache known s

theorem evictCacheEntry_acts (known : ∀status∈statuses,
      ∀ref∈recordedRefs lib (workloadNamespace cache.annotations) status,keys ref)
    (entry : CacheEntry) (s : Store) :
    Acts Object.owner cache.name keys s
      (evictCacheEntry lib around view cache statuses entry s).1 := by
  simp only [evictCacheEntry]
  split
  · exact .refl
  · rename_i status found
    split
    · exact .refl
    · rename_i ns resolved
      obtain rfl := resolve_ns resolved
      have gone := deleteRecorded_acts lib view cache (.evict entry.index)
        (known status (List.mem_of_getElem? found)) s
      split <;> rename_i deleted <;> rw [deleted] at gone <;> exact gone

theorem recordedRefs_of_identity {ns : String} {statuses kept : List NodeCacheStatus}
    (same : kept.map identity=statuses.map identity)
    (known : ∀status∈statuses,∀ref∈recordedRefs lib ns status,keys ref) :
    ∀status∈kept,∀ref∈recordedRefs lib ns status,keys ref := by
  intro status mem ref href
  have listed : identity status∈statuses.map identity := same ▸ List.mem_map_of_mem mem
  obtain ⟨old,hold,eq⟩ := List.mem_map.mp listed
  simp only [identity,Prod.mk.injEq] at eq
  obtain ⟨node,model,pvc⟩ := eq
  refine known old hold ref ?_
  rw [recordedRefs,node,model,pvc]
  exact href

theorem evictLoop_acts (total : Int) (known : ∀status∈statuses,
      ∀ref∈recordedRefs lib (workloadNamespace cache.annotations) status,keys ref) (s : Store) :
    Acts Object.owner cache.name keys s
      (evictLoop lib around view cache limit entries total statuses s).1 := by
  induction entries generalizing total statuses s with
  | nil => exact .refl
  | cons entry entries ih =>
    have first := evictCacheEntry_acts lib around view cache known entry s
    simp only [evictLoop]
    split
    · exact .refl
    · split <;> rename_i evicted <;> rw [evicted] at first
      · exact first
      · have same := evictCacheEntry_identity lib around view cache (congrArg Prod.snd evicted)
        exact first.trans (ih _ (recordedRefs_of_identity lib same known) _)

theorem evictLRU_acts (known : ∀status∈statuses,
      ∀ref∈recordedRefs lib (workloadNamespace cache.annotations) status,keys ref) (s : Store) :
    Acts Object.owner cache.name keys s (evictLRU lib around view cache statuses s).1 := by
  unfold evictLRU
  split
  · exact .refl
  · exact .refl
  · exact evictLoop_acts lib around view cache _ known s

end

theorem Sound.named {known : String → String → Prop}
    (sound : Sound lib known status) (ns : String) :
    ∀ref∈recordedRefs lib ns status,Named lib ns known ref := by
  intro ref mem
  refine ⟨_,_,sound.known,?_⟩
  simp only [recordedRefs,sound.pvcName,List.mem_cons,List.not_mem_nil,or_false] at mem
  exact mem

theorem Sound.of_identity {known : String → String → Prop} {status t : NodeCacheStatus}
    (sound : Sound lib known status) (same : identity t=identity status) :
    Sound lib known t := by
  simp only [identity,Prod.mk.injEq] at same
  obtain ⟨node,model,pvc⟩ := same
  refine ⟨?_,?_⟩
  · rw [pvc,model,node]
    exact sound.pvcName
  · rw [model,node]
    exact sound.known

section

variable (around : Surroundings) (view : View) (cache : LocalModelCache Selector)
  {known : String → String → Prop} {targets : List String}

theorem pending_sound {modelHash nodeName : String} (hk : known modelHash nodeName) :
    Sound lib known (pendingNodeCacheStatus lib nodeName modelHash) := ⟨rfl,hk⟩

theorem reconcileTargets_acts
    (claimed : ∀nodeName∈targets,known (modelURIHash lib.sha cache.spec.sourceModelURI) nodeName)
    (recorded : ∀status∈cache.status.nodeStatuses,Sound lib known status) (s : Store) :
    Acts Object.owner cache.name (Named lib (workloadNamespace cache.annotations) known) s
        (reconcileTargets lib around view cache targets s).1 ∧
      ∀status,(reconcileTargets lib around view cache targets s).2=.ok status →
        ∀st∈status.nodeStatuses,Sound lib known st := by
  have nodes : Acts Object.owner cache.name
      (Named lib (workloadNamespace cache.annotations) known) s
      (reconcileTargetCaches lib around view cache
        (modelURIHash lib.sha cache.spec.sourceModelURI) targets s).1 :=
    reconcileTargetCaches_acts lib around view cache
      (fun n hn => ⟨⟨_,n,claimed n hn,.inl rfl⟩,⟨_,n,claimed n hn,.inr rfl⟩⟩) s
  have stale := cleanupStaleNodeCaches_acts lib around view cache
    (fun st hst (_ : st.nodeName∉targets) =>
      (recorded st hst).named lib (workloadNamespace cache.annotations))
    (reconcileTargetCaches lib around view cache
      (modelURIHash lib.sha cache.spec.sourceModelURI) targets s).1
  simp only [reconcileTargets]
  split <;> rename_i cleaned <;> rw [cleaned] at stale
  · exact ⟨nodes.trans stale,by simp⟩
  · rename_i t previous
    have kept := cleanupStaleNodeCaches_retained lib around view cache (congrArg Prod.snd cleaned)
    have merged st (mem : st∈mergeNodeCacheStatuses previous (reconcileTargetCaches lib around
        view cache (modelURIHash lib.sha cache.spec.sourceModelURI) targets s).2 targets) :
        Sound lib known st := by
      rcases mem_mergeNodeCacheStatuses mem with current | ⟨old,-⟩
      · obtain ⟨n,hn,same⟩ := reconcileTargetCaches_identity lib around view cache current
        exact (pending_sound lib (claimed n hn)).of_identity lib same
      · rw [kept] at old
        exact recorded st (List.mem_of_mem_filter old)
    have evicted := evictLRU_acts lib around view cache
      (fun st hst => (merged st hst).named lib (workloadNamespace cache.annotations)) t
    refine ⟨(nodes.trans stale).trans evicted,?_⟩
    intro status done st mem
    cases done
    have listed := List.mem_map_of_mem (f := identity) mem
    rw [reported,evictLRU_identity] at listed
    obtain ⟨old,hold,same⟩ := List.mem_map.mp listed
    exact (merged old hold).of_identity lib same.symm

end

section

variable {around : Surroundings} {view : View} {cache : LocalModelCache Selector}
  {modelHash nodeName ns : String} {s : Store} (smooth : view.Smooth)

include smooth

theorem delete_smooth {stage : Stage} {s : Store} :
    (delete view cache stage ref s).1.objects=Function.update s.objects ref none := by
  obtain ⟨_,_,rfl⟩ := smooth
  simp only [delete,View.smooth]
  split
  · rename_i missing
    rw [← missing,Function.update_eq_self]
  · rfl

variable (resolved : resolveCacheWorkloadNamespace around view (.node nodeName) cache=.ok ns)

include resolved

theorem reconcileNodeCache_absent {size : Int} (sized : modelSizeQuantity lib cache.spec=.ok size)
    (absent : s.objects (pvcRef lib ns modelHash nodeName)=none) :
    reconcileNodeCache lib around view cache modelHash nodeName s=
      ((delete view cache (.node nodeName) (jobRef lib ns modelHash nodeName) s).1.create
        (pvcRef lib ns modelHash nodeName) {owner := cache.name},
      .ok {pendingNodeCacheStatus lib nodeName modelHash with
        lastTransitionTime := some view.now}) := by
  obtain ⟨_,_,rfl⟩ := smooth
  simp only [reconcileNodeCache,resolved,ensureCachePVC,absent,sized]
  rfl

theorem reconcileNodeCache_starts (present : (s.objects (pvcRef lib ns modelHash nodeName)).isSome)
    (absent : s.objects (jobRef lib ns modelHash nodeName)=none) :
    reconcileNodeCache lib around view cache modelHash nodeName s=
      (s.create (jobRef lib ns modelHash nodeName) {owner := cache.name},
      .ok {pendingNodeCacheStatus lib nodeName modelHash with
        phase := "Downloading",lastTransitionTime := some view.now}) := by
  obtain ⟨_,_,rfl⟩ := smooth
  simp only [reconcileNodeCache,resolved,ensureCachePVC,View.smooth_refuses,present,if_true,
    ensureWarmupJob,absent]
  rfl

theorem reconcileNodeCache_waits (present : (s.objects (pvcRef lib ns modelHash nodeName)).isSome)
    (found : s.objects (jobRef lib ns modelHash nodeName)=some job)
    (deleting : job.deleting=true) :
    reconcileNodeCache lib around view cache modelHash nodeName s=
      (s,.ok (pendingNodeCacheStatus lib nodeName modelHash)) := by
  obtain ⟨_,_,rfl⟩ := smooth
  simp [reconcileNodeCache,resolved,ensureCachePVC,View.smooth_refuses,present,
    ensureWarmupJob,found,deleting]

theorem reconcileNodeCache_reads (present : (s.objects (pvcRef lib ns modelHash nodeName)).isSome)
    (found : s.objects (jobRef lib ns modelHash nodeName)=some job)
    (stays : job.deleting=false) :
    reconcileNodeCache lib around view cache modelHash nodeName s=
      let updated := updateNodeCacheFromJob lib view cache ns modelHash nodeName job
        (pendingNodeCacheStatus lib nodeName modelHash) s
      (updated.1,.ok updated.2) := by
  obtain ⟨_,_,rfl⟩ := smooth
  simp [reconcileNodeCache,resolved,ensureCachePVC,View.smooth_refuses,present,
    ensureWarmupJob,found,stays,Bool.false_eq_true]

end

inductive Effect (view : View) (name : String) (cl : Cluster Selector) :
    Cluster Selector → List (Deletion Ref String) → Prop
  | idle : Effect view name cl cl []
  | unreported (cache : LocalModelCache Selector) (targets : List String)
      (found : cl.caches name=some cache)
      (prepared : prepare lib cl.around view cache=.ok targets) :
      Effect view name cl {cl with
          objects := (reconcileTargets lib cl.around view cache targets ⟨cl.objects,[]⟩).1.objects}
        (reconcileTargets lib cl.around view cache targets ⟨cl.objects,[]⟩).1.log
  | reported (cache : LocalModelCache Selector) (targets : List String)
      (status : LocalModelCacheStatus) (found : cl.caches name=some cache)
      (prepared : prepare lib cl.around view cache=.ok targets)
      (done : (reconcileTargets lib cl.around view cache targets ⟨cl.objects,[]⟩).2=.ok status) :
      Effect view name cl ({cl with
          objects := (reconcileTargets lib cl.around view cache targets
            ⟨cl.objects,[]⟩).1.objects}.setStatus cache status)
        (reconcileTargets lib cl.around view cache targets ⟨cl.objects,[]⟩).1.log

theorem reconcile_effect (view : View) (name : String) (cl : Cluster Selector) :
    Effect lib view name cl (reconcile lib view name cl).1
      (reconcile lib view name cl).2.deleted := by
  unfold reconcile
  split
  · exact .idle
  · split
    · exact .idle
    · rename_i cache found
      split
      · exact .idle
      · rename_i targets prepared
        have failed := Effect.unreported cache targets found prepared
        split <;> rename_i done
        · rw [done] at failed
          exact failed
        · rename_i s status
          split
          · rw [done] at failed
            exact failed
          · have written := Effect.reported cache targets status found prepared
              (congrArg Prod.snd done)
            rw [done] at written
            exact written

theorem reconcile_smooth {view : View} (smooth : view.Smooth) {name : String}
    {cl : Cluster Selector} {cache : LocalModelCache Selector} {targets : List String}
    {status : LocalModelCacheStatus} (found : cl.caches name=some cache)
    (prepared : prepare lib cl.around view cache=.ok targets) {t : Store}
    (done : reconcileTargets lib cl.around view cache targets ⟨cl.objects,[]⟩=(t,.ok status)) :
    reconcile lib view name cl=({cl with objects := t.objects}.setStatus cache status,
        ⟨t.log,.ok localModelCacheRequeueInterval⟩) := by
  obtain ⟨_,_,rfl⟩ := smooth
  simp only [reconcile,View.smooth_refuses,found,prepared]
  rw [done]

end KServeLLM.Controller.Cache
