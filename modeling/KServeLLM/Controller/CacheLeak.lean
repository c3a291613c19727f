import KServeLLM.Controller.CacheIsolation

namespace KServeLLM.Controller.Cache

variable {Selector : Type}

structure Round (Selector : Type) where
  spec : LocalModelCacheSpec Selector
  around : Surroundings
  reports : List (Ref×JobStatus) := []
  now : Time := 0
  secretFirst : Bool := false

def Cluster.reportAll (reports : List (Ref×JobStatus)) (cl : Cluster Selector) :
    Cluster Selector :=
  reports.foldl (fun cl report => cl.report report.1 report.2) cl

variable (lib : Library Selector) (metadata : Metadata) (name : String)

def Round.cache (r : Round Selector) (status : LocalModelCacheStatus) : LocalModelCache Selector :=
  ⟨name,metadata.labels,metadata.annotations,r.spec,status⟩

def Round.meets (r : Round Selector) (cl : Cluster Selector) : Cluster Selector :=
  {cl with
    caches := Function.update cl.caches name (some (r.cache metadata name (statusOf cl name)))
    around := r.around}.reportAll r.reports

def Round.view (r : Round Selector) : View := View.smooth r.now r.secretFirst

def roundStep (cl : Cluster Selector) (r : Round Selector) : Cluster Selector×Answer :=
  reconcile lib r.view name (r.meets metadata name cl)

def Round.targets (r : Round Selector) : List String :=
  match resolveTargetNodes lib r.around r.view (r.cache metadata name {}) with
  | .error _ => []
  | .ok targets => targets

def Round.Current (r : Round Selector) (ref : Ref) : Prop :=
  ∃node∈r.targets lib metadata name,
    ref=pvcRef lib (workloadNamespace metadata.annotations)
        (modelURIHash lib.sha r.spec.sourceModelURI) node ∨
      ref=jobRef lib (workloadNamespace metadata.annotations)
        (modelURIHash lib.sha r.spec.sourceModelURI) node

def Owns (objects : Ref → Option Object) (ref : Ref) : Prop :=
  ∃obj,objects ref=some obj ∧ obj.owner=name

def NoLeak (st : Step (Cluster Selector) (Round Selector) Answer) : Prop :=
  ∀ref,Owns name st.after.objects ref → st.call.Current lib metadata name ref

def Round.Stale (r : Round Selector) (cl : Cluster Selector) (ref : Ref) : Prop :=
  ∃status∈(statusOf cl name).nodeStatuses,status.nodeName∉r.targets lib metadata name ∧
    ref∈recordedRefs lib (workloadNamespace metadata.annotations) status

def Round.Admitted (r : Round Selector) : Prop :=
  ∃targets,prepare lib r.around r.view (r.cache metadata name {})=.ok targets

def Round.Covers (r : Round Selector) (cl : Cluster Selector) : Prop :=
  ∀ref,Owns name cl.objects ref → r.Current lib metadata name ref ∨
    r.Admitted lib metadata name ∧ r.Stale lib metadata name cl ref

variable {ref : Ref} {targets : List String}

section

variable {around : Surroundings} {view : View} (cache : LocalModelCache Selector) {ns : String}
  (smooth : view.Smooth)

include smooth

variable {stage : Stage} {s : Store}

theorem deleteCacheObject_smooth {kind : String} :
    ∃t : Store,deleteCacheObject view cache kind stage ref s=(t,.ok ()) ∧
      t.objects=Function.update s.objects ref none := by
  have gone : (delete view cache stage ref s).1.objects=_ := delete_smooth smooth
  obtain ⟨now,first,rfl⟩ := smooth
  simp only [deleteCacheObject,View.smooth_refuses]
  split
  · rename_i missing
    rw [Option.isNone_iff_eq_none] at missing
    exact ⟨s,rfl,by rw [← missing,Function.update_eq_self]⟩
  · have quiet : (delete (View.smooth now first) cache stage ref s).2=none := by
      simp only [delete,View.smooth_refuses]
      split <;> rfl
    rcases deleted : delete (View.smooth now first) cache stage ref s with ⟨t,_⟩
    rw [deleted] at gone quiet
    cases quiet
    exact ⟨t,rfl,gone⟩

variable {status : NodeCacheStatus}

theorem deleteRecorded_smooth {ns : String} :
    ∃t : Store,deleteRecorded lib view cache stage ns status s=(t,.ok ()) ∧
      ∀ref,t.objects ref=if ref∈recordedRefs lib ns status then none else s.objects ref := by
  obtain ⟨t,pvc,_⟩ := deleteCacheObject_smooth cache smooth
  obtain ⟨u,job,jobGone⟩ := deleteCacheObject_smooth cache smooth
  refine ⟨u,by rw [deleteRecorded,deleteCachePVC,pvc]; exact job,fun ref => ?_⟩
  rw [jobGone]
  simp only [Function.update_apply,recordedRefs]
  split_ifs <;> simp_all

theorem cleanupLoop_smooth {ns : String} {statuses : List NodeCacheStatus}
    (s : Store) :
    ∃ (t : Store) (kept : List NodeCacheStatus),
      cleanupLoop lib view cache targets ns statuses s=(t,.ok kept) ∧
      ∀ref,t.objects ref=
        if ∃status∈statuses,status.nodeName∉targets ∧ ref∈recordedRefs lib ns status then none
        else s.objects ref := by
  induction statuses generalizing s with
  | nil => exact ⟨s,[],rfl,by simp⟩
  | cons status statuses ih =>
    simp only [cleanupLoop]
    split
    · rename_i target
      obtain ⟨t,kept,done,objects⟩ := ih s
      exact ⟨t,status::kept,by rw [done]; rfl,by simp [objects,target]⟩
    · rename_i stale
      obtain ⟨u,deleted,gone⟩ := deleteRecorded_smooth lib cache smooth
      obtain ⟨t,kept,done,objects⟩ := ih u
      refine ⟨t,kept,by rw [deleted]; exact done,fun ref => ?_⟩
      rw [objects,gone]
      by_cases here : ref∈recordedRefs lib ns status
      · simp [here,stale]
      · simp [here]

variable {cache} (resolved : ∀stage,resolveCacheWorkloadNamespace around view stage cache=.ok ns)

include resolved

theorem cleanupStaleNodeCaches_smooth :
    ∃ (t : Store) (kept : List NodeCacheStatus),
      cleanupStaleNodeCaches lib around view cache targets s=(t,.ok kept) ∧
      ∀ref,t.objects ref=
        if ∃status∈cache.status.nodeStatuses,status.nodeName∉targets ∧
          ref∈recordedRefs lib ns status then none
        else s.objects ref := by
  rw [cleanupStaleNodeCaches,resolved]
  exact cleanupLoop_smooth lib cache smooth s

variable {size : Int} (sized : modelSizeQuantity lib cache.spec=.ok size)

include sized

variable {modelHash : String}

theorem reconcileNodeCache_ok {nodeName : String} :
    ∃status,(reconcileNodeCache lib around view cache modelHash nodeName s).2=.ok status := by
  cases volume : s.objects (pvcRef lib ns modelHash nodeName) with
  | none =>
    rw [reconcileNodeCache_absent lib smooth (resolved _) sized volume]
    exact ⟨_,rfl⟩
  | some claim =>
    have present : (s.objects (pvcRef lib ns modelHash nodeName)).isSome := by simp [volume]
    cases found : s.objects (jobRef lib ns modelHash nodeName) with
    | none =>
      rw [reconcileNodeCache_starts lib smooth (resolved _) present found]
      exact ⟨_,rfl⟩
    | some job =>
      cases deleting : job.deleting with
      | true =>
        rw [reconcileNodeCache_waits lib smooth (resolved _) present found deleting]
        exact ⟨_,rfl⟩
      | false =>
        rw [reconcileNodeCache_reads lib smooth (resolved _) present found deleting]
        exact ⟨_,rfl⟩

variable {node : String}

theorem reconcileTargetCaches_complete {nodes : List String} (s : Store) (target : node∈nodes) :
    ∃status∈(reconcileTargetCaches lib around view cache modelHash nodes s).2,
      status.nodeName=node := by
  induction nodes generalizing s with
  | nil => cases target
  | cons m nodes ih =>
    obtain ⟨status,ok⟩ := reconcileNodeCache_ok lib smooth resolved sized
    rw [reconcileTargetCaches]
    rcases done : reconcileNodeCache lib around view cache modelHash m s with ⟨t,_⟩
    rw [done] at ok
    cases ok
    rcases List.mem_cons.mp target with rfl | later
    · have same := reconcileNodeCache_identity lib around _ cache (congrArg Prod.snd done)
      exact ⟨status,.head _,congrArg Prod.fst same⟩
    · obtain ⟨st,mem,same⟩ := ih t later
      exact ⟨st,.tail _ mem,same⟩

omit smooth resolved sized

theorem merged_current {previous current : List NodeCacheStatus}
    (complete : ∀node∈targets,∃status∈current,status.nodeName=node)
    (mem : status∈mergeNodeCacheStatuses previous current targets) : status∈current := by
  rcases mem_mergeNodeCacheStatuses mem with here | ⟨-,target,missing⟩
  · exact here
  · obtain ⟨other,listed,same⟩ := complete _ target
    have differs := List.find?_eq_none.mp missing other listed
    simp [same] at differs

def OfTargets (ns modelHash : String) (targets : List String) (ref : Ref) : Prop :=
  ∃node∈targets,ref=pvcRef lib ns modelHash node ∨ ref=jobRef lib ns modelHash node

theorem recordedRefs_pending (target : node∈targets)
    (same : identity status=identity (pendingNodeCacheStatus lib node modelHash)) :
    ∀ref∈recordedRefs lib ns status,OfTargets lib ns modelHash targets ref := by
  simp only [identity,Prod.mk.injEq] at same
  obtain ⟨nodeName,model,pvc⟩ := same
  intro ref mem
  simp only [recordedRefs,nodeName,model,pvc,List.mem_cons,List.not_mem_nil,or_false] at mem
  exact ⟨node,target,mem⟩

include smooth resolved sized

theorem reconcileTargets_smooth :
    ∃ (t : Store) (status : LocalModelCacheStatus),
      reconcileTargets lib around view cache targets s=(t,.ok status) ∧
      ∀ref,¬OfTargets lib ns (modelURIHash lib.sha cache.spec.sourceModelURI) targets ref →
        t.objects ref=
          if ∃status∈cache.status.nodeStatuses,status.nodeName∉targets ∧
            ref∈recordedRefs lib ns status then none
          else s.objects ref := by
  obtain rfl := resolve_ns (resolved .start)
  let keys := OfTargets lib (workloadNamespace cache.annotations)
    (modelURIHash lib.sha cache.spec.sourceModelURI) targets
  let current := reconcileTargetCaches lib around view cache
    (modelURIHash lib.sha cache.spec.sourceModelURI) targets s
  have looped : Acts Object.owner cache.name keys s current.1 :=
    reconcileTargetCaches_acts lib around _ cache
      (fun n hn => ⟨⟨n,hn,.inl rfl⟩,⟨n,hn,.inr rfl⟩⟩) s
  obtain ⟨t,kept,cleanup,cleaned⟩ :=
    cleanupStaleNodeCaches_smooth lib smooth resolved
  have evicted : Acts Object.owner cache.name keys t (evictLRU lib around view cache
      (mergeNodeCacheStatuses kept current.2 targets) t).1 := by
    refine evictLRU_acts lib around _ cache (fun st mem => ?_) t
    have here := merged_current (fun node target =>
      reconcileTargetCaches_complete lib smooth resolved sized s target) mem
    obtain ⟨_,target,same⟩ := reconcileTargetCaches_identity lib around _ cache here
    exact recordedRefs_pending lib target same
  simp only [reconcileTargets]
  rw [cleanup]
  refine ⟨_,_,rfl,fun ref out => ?_⟩
  rw [evicted.frame out,cleaned,looped.frame out]

end

section

variable (cl : Cluster Selector)

theorem report_owner {status : JobStatus} {ref' : Ref} :
    ((cl.report ref status).objects ref').map Object.owner=
      (cl.objects ref').map Object.owner := by
  by_cases here : ref'=ref
  · subst here
    simp [Cluster.report,Function.comp_def]
  · simp [Cluster.report,Function.update_of_ne here]

theorem reportAll_kept {reports : List (Ref×JobStatus)} (cl : Cluster Selector) :
    (cl.reportAll reports).caches=cl.caches ∧ (cl.reportAll reports).around=cl.around ∧
      ∀ref,((cl.reportAll reports).objects ref).map Object.owner=
        (cl.objects ref).map Object.owner := by
  induction reports generalizing cl with
  | nil => exact ⟨rfl,rfl,fun _ => rfl⟩
  | cons report reports ih =>
    obtain ⟨caches,around,owners⟩ := ih (cl.report report.1 report.2)
    exact ⟨caches,around,fun ref => (owners ref).trans (report_owner cl)⟩

theorem owns_iff_of_owner {one two : Ref → Option Object}
    (same : (one ref).map Object.owner=(two ref).map Object.owner) :
    Owns name one ref ↔ Owns name two ref := by
  simp only [Owns]
  have owned (objects : Ref → Option Object) :
      (∃obj,objects ref=some obj ∧ obj.owner=name) ↔
        (objects ref).map Object.owner=some name := by
    simp
  rw [owned,owned,same]

theorem Round.meets_kept (r : Round Selector) (cl : Cluster Selector) :
    (r.meets metadata name cl).caches name=some (r.cache metadata name (statusOf cl name)) ∧
      (r.meets metadata name cl).around=r.around ∧
      ∀ref,Owns name (r.meets metadata name cl).objects ref ↔ Owns name cl.objects ref := by
  obtain ⟨caches,around,owners⟩ := reportAll_kept {cl with
    caches := Function.update cl.caches name (some (r.cache metadata name (statusOf cl name)))
    around := r.around}
  refine ⟨?_,around,fun ref => owns_iff_of_owner name (owners ref)⟩
  rw [Round.meets,caches]
  exact Function.update_self ..

variable {r : Round Selector}

theorem Round.targets_of_prepared
    (prepared : prepare lib r.around r.view (r.cache metadata name {})=.ok targets) :
    r.targets lib metadata name=targets := by
  rw [Round.targets,(prepare_ok lib prepared).2.2]

theorem roundStep_admitted (admitted : r.Admitted lib metadata name) :
    ∀ref,¬r.Current lib metadata name ref →
      (Owns name (roundStep lib metadata name cl r).1.objects ref ↔
        Owns name cl.objects ref ∧ ¬r.Stale lib metadata name cl ref) := by
  obtain ⟨targets,prepared⟩ := admitted
  have same := Round.targets_of_prepared lib metadata name prepared
  obtain ⟨found,around,owns⟩ := r.meets_kept metadata name cl
  obtain ⟨⟨_,resolved⟩,-,-⟩ := prepare_ok lib prepared
  obtain ⟨_,sized⟩ := modelSize_of_prepared lib prepared
  have smooth : r.view.Smooth := ⟨r.now,r.secretFirst,rfl⟩
  have resolves stage : resolveCacheWorkloadNamespace (r.meets metadata name cl).around
      r.view stage (r.cache metadata name (statusOf cl name))=
        .ok (workloadNamespace metadata.annotations) := by
    rw [around]
    exact resolve_smooth smooth resolved stage
  have prepares : prepare lib (r.meets metadata name cl).around r.view
      (r.cache metadata name (statusOf cl name))=.ok targets := by
    rw [around]
    exact prepared
  obtain ⟨t,_,done,frame⟩ := reconcileTargets_smooth lib smooth resolves sized
  intro ref out
  rw [Round.Current,same] at out
  rw [roundStep,reconcile_smooth lib smooth found prepares done,← owns]
  simp only [Owns,Cluster.setStatus,frame ref out,Round.Stale,same]
  split <;> rename_i stale
  · constructor
    · rintro ⟨_,gone,-⟩
      cases gone
    · rintro ⟨-,fresh⟩
      exact absurd stale fresh
  · exact ⟨fun own => ⟨own,stale⟩,And.left⟩

theorem roundStep_refused (refused : ¬r.Admitted lib metadata name) :
    (roundStep lib metadata name cl r).1=r.meets metadata name cl := by
  obtain ⟨found,around,-⟩ := r.meets_kept metadata name cl
  have asked : r.view.refuses .start .getCache=none := rfl
  simp only [roundStep,reconcile,asked,found,around]
  split
  · rfl
  · rename_i targets prepared
    exact absurd ⟨targets,prepared⟩ refused

theorem noLeak_iff_covers (r : Round Selector) :
    NoLeak lib metadata name (stepOf (roundStep lib metadata name) cl r) ↔
      r.Covers lib metadata name cl := by
  simp only [NoLeak,stepOf,Round.Covers]
  by_cases admitted : r.Admitted lib metadata name
  · have frame := roundStep_admitted lib metadata name cl admitted
    constructor
    · intro clean ref own
      by_contra neither
      obtain ⟨out,fresh⟩ := not_or.mp neither
      have still := (frame ref out).mpr ⟨own,fun stale => fresh ⟨admitted,stale⟩⟩
      exact out (clean ref still)
    · intro covers ref own
      by_contra out
      obtain ⟨before,fresh⟩ := (frame ref out).mp own
      rcases covers ref before with current | ⟨-,stale⟩
      · exact out current
      · exact fresh stale
  · rw [roundStep_refused lib metadata name cl admitted]
    have owns := (r.meets_kept metadata name cl).2.2
    simp [owns,admitted,false_and,or_false]

end

def plainRound (uri : String) : Round Unit :=
  {spec := {sourceModelURI := uri},around := ⟨[{name := "n"}],fun _ _ => none⟩}

def oldClaim : Ref := pvcRef sampleLibrary "default" (modelURIHash sampleSha256 "m") "n"
def oldJob : Ref := jobRef sampleLibrary "default" (modelURIHash sampleSha256 "m") "n"

end KServeLLM.Controller.Cache
