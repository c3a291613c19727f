import KServeLLM.Api.RoundTrip
import KServeLLM.Autoscaler.MultiNode

namespace KServeLLM.Autoscaler

open Api

variable {K : Kubernetes}

def selectedKind (spec : Spec K) : Option Kind :=
  if requiresMultiNode spec then none
  else
    match spec.scaling with
    | none => none
    | some scaling =>
      if scaling.wva.isSome then some .workloadVariantAutoscaler
      else if scaling.keda.isSome then some .scaledObject
      else some .horizontalPodAutoscaler

def madeKind (spec : Spec K) : Option Kind := (selectedKind spec).filter fun kind =>
    kind≠.horizontalPodAutoscaler || spec.scaling.any fun scaling =>
      scaling.minReplicas.isSome || scaling.maxReplicas.isSome

def objectName (svc : Service) : Kind → String
  | .workloadVariantAutoscaler => wvaName svc
  | .scaledObject => scaledObjectName svc
  | _ => hpaName svc

def Object.Drives (obj : Object) (svc : Service) : Prop := obj.body.target=some svc.name

def Driven (svc : Service) (c : Cluster) (kind : Kind) (name : String) : Prop :=
  ∃ obj,c kind name=some obj ∧ obj.Drives svc

def Standing (svc : Service) (specs : List (Spec K)) (c : Cluster) : Prop :=
  ∀ kind name,Driven svc c kind name ↔
    name=objectName svc kind ∧ ∃ spec∈specs,madeKind spec=some kind

theorem driven_put (svc : Service) (c : Cluster) (kind : Kind) (name : String) (obj : Object)
    (k : Kind) (n : String) :
    Driven svc (c.put kind name obj) k n ↔
      if k=kind ∧ n=name then obj.Drives svc else Driven svc c k n := by
  unfold Driven Cluster.put
  split <;> simp

theorem driven_remove (svc : Service) (c : Cluster) (kind : Kind) (name : String)
    (k : Kind) (n : String) :
    Driven svc (c.remove kind name) k n ↔ ¬(k=kind ∧ n=name) ∧ Driven svc c k n := by
  unfold Driven Cluster.remove
  split <;> simp_all

variable {specs : List (Spec K)} {svc : Service} {spec : Spec K} {c : Cluster} {kind : Kind}

theorem standing_made (standing : Standing svc specs c)
    (made : madeKind spec=some kind) {obj : Object} (drives : obj.Drives svc) :
    Standing svc (specs++[spec]) (c.put kind (objectName svc kind) obj) := by
  intro k n
  rw [driven_put]
  by_cases same : k=kind ∧ n=objectName svc kind
  · obtain ⟨rfl,rfl⟩ := same
    simp [drives,made]
  · rw [if_neg same,standing]
    simp only [List.mem_append,List.mem_singleton]
    constructor
    · rintro ⟨named,earlier,mem,was⟩
      exact ⟨named,earlier,.inl mem,was⟩
    · rintro ⟨named,other,mem | rfl,was⟩
      · exact ⟨named,other,mem,was⟩
      · obtain rfl : kind=k := Option.some.inj (made.symm.trans was)
        exact absurd ⟨rfl,named⟩ same

theorem standing_unmade {c d : Cluster}
    (standing : Standing svc specs c) (unmade : madeKind spec=none)
    (same : ∀ kind name,Driven svc d kind name ↔ Driven svc c kind name) :
    Standing svc (specs++[spec]) d := by
  intro kind name
  rw [same,standing]
  simp [unmade]

theorem reconcile_standing
    (standing : Standing svc specs c) (single : requiresMultiNode spec=false) :
    Standing svc (specs++[spec]) (reconcile svc spec c) := by
  unfold reconcile
  cases scaled : spec.scaling with
  | none =>
    apply standing_unmade standing
    · simp [madeKind,selectedKind,scaled]
    · exact fun _ _ => Iff.rfl
  | some scaling =>
    dsimp only
    split
    · rename_i wva
      exact standing_made standing (by simp [madeKind,selectedKind,single,scaled,wva]) rfl
    · rename_i wva
      split
      · rename_i keda
        exact standing_made standing (by simp [madeKind,selectedKind,single,scaled,wva,keda]) rfl
      · rename_i keda
        have selected : selectedKind spec=some .horizontalPodAutoscaler := by
          simp [selectedKind,single,scaled,wva,keda]
        unfold reconcileHPA
        split
        · rename_i unbounded
          apply standing_unmade standing
          · simpa [madeKind,selected,scaled] using unbounded
          · exact fun _ _ => Iff.rfl
        · have made : madeKind spec=some .horizontalPodAutoscaler := by
            have some_bound : scaling.minReplicas.isSome ∨ scaling.maxReplicas.isSome := by
              cases low : scaling.minReplicas <;> cases high : scaling.maxReplicas <;>
                simp_all
            simp [madeKind,selected,scaled,some_bound]
          split
          · exact standing_made standing made rfl
          · exact standing_made standing made rfl

variable {name : String}

theorem not_driven_of_standing (standing : Standing svc specs c)
    (foreign : name≠objectName svc kind) : ¬Driven svc c kind name :=
  fun driven => foreign ((standing kind name).mp driven).1

theorem append_ne_self {s : String} {suffix : String} (some' : suffix.length≠0) : s≠s++suffix := by
  intro same
  have lengths := congrArg String.length same
  rw [String.length_append] at lengths
  omega

theorem service_name_foreign {svc : Service} (kind : Kind) : svc.name≠objectName svc kind := by
  cases kind <;> exact append_ne_self (by decide)

variable {k : Kind} {n : String}

theorem deleteControlled_driven (idle : ¬Driven svc c kind name) :
    Driven svc (deleteControlled svc kind name c) k n ↔ Driven svc c k n := by
  unfold deleteControlled
  split
  · exact Iff.rfl
  · split
    · rw [driven_remove]
      refine ⟨And.right,fun driven => ⟨?_,driven⟩⟩
      rintro ⟨rfl,rfl⟩
      exact idle driven
    · exact Iff.rfl

theorem deleteAll_driven {kinds : List Kind} (idle : ∀ kind,¬Driven svc c kind name) :
    Driven svc (kinds.foldl (fun c kind => deleteControlled svc kind name c) c) k n ↔
      Driven svc c k n := by
  induction kinds generalizing c with
  | nil => exact Iff.rfl
  | cons kind rest ih =>
    rw [List.foldl_cons,ih]
    · exact deleteControlled_driven (idle kind)
    · intro other
      rw [deleteControlled_driven (idle kind)]
      exact idle other

theorem leaderWorkerSet_name_foreign {svc : Service} :
    svc.name++"-lws"≠objectName svc .leaderWorkerSet := by
  intro same
  have suffixes : "-lws"="-hpa" := String.append_right_inj svc.name |>.mp same
  exact absurd suffixes (by decide)

theorem cleanup_driven (standing : Standing svc specs c) (kind : Kind) (name : String) :
    Driven svc (cleanupLegacyResources svc c) kind name ↔ Driven svc c kind name := by
  have idle := fun kind => not_driven_of_standing standing (service_name_foreign kind)
  have workers := not_driven_of_standing standing (leaderWorkerSet_name_foreign)
  unfold cleanupLegacyResources
  rw [deleteControlled_driven]
  · exact deleteAll_driven idle
  · rwa [deleteAll_driven idle]

variable {containers : Containers K} {runtimeName : String}

theorem build_target
    {body : Body} (built : build containers runtimeName spec=.ok body) : body.target=none := by
  revert built
  fun_cases build containers runtimeName spec <;> intro built <;> cases built
  rfl

theorem reconcileMultiNode_standing {c d : Cluster} (standing : Standing svc specs c)
    (multi : requiresMultiNode spec=true)
    (done : reconcileMultiNode containers runtimeName svc spec c=.ok d) :
    Standing svc (specs++[spec]) d := by
  revert done
  fun_cases reconcileMultiNode containers runtimeName svc spec c <;> intro done <;> cases done
  rename_i body built existing owned written
  have undriven : ¬Object.Drives {existing with controller := some svc.uid, body} svc := by
    simp [Object.Drives,build_target built]
  have same kind name : Driven svc written kind name ↔ Driven svc c kind name := by
    rw [driven_put]
    split
    · rename_i here
      obtain ⟨rfl,rfl⟩ := here
      exact iff_of_false undriven
        (not_driven_of_standing standing (service_name_foreign .inferenceService))
    · exact Iff.rfl
  have kept : Standing svc specs written :=
    fun kind name => (same kind name).trans (standing kind name)
  apply standing_unmade standing
  · simp [madeKind,selectedKind,multi]
  · intro kind name
    rw [cleanup_driven kept,same]

theorem reconcileService_standing {c d : Cluster} (standing : Standing svc specs c)
    (done : reconcileService containers runtimeName svc c spec=.ok d) :
    Standing svc (specs++[spec]) d := by
  unfold reconcileService at done
  cases multi : requiresMultiNode spec with
  | true =>
    rw [if_pos multi] at done
    exact reconcileMultiNode_standing standing multi done
  | false =>
    rw [if_neg (by simp [multi])] at done
    cases done
    exact reconcile_standing standing multi

def reconcileAll (containers : Containers K) (runtimeName : String) (svc : Service) :
    Cluster → List (Spec K) → Except Errorf Cluster
  | c,[] => .ok c
  | c,spec::specs =>
    match reconcileService containers runtimeName svc c spec with
    | .error err => .error err
    | .ok d => reconcileAll containers runtimeName svc d specs

theorem reconcileAll_standing {earlier : List (Spec K)} {c d : Cluster}
    (standing : Standing svc earlier c)
    (done : reconcileAll containers runtimeName svc c specs=.ok d) :
    Standing svc (earlier++specs) d := by
  induction specs generalizing earlier c with
  | nil =>
    cases done
    simpa using standing
  | cons spec specs ih =>
    rw [reconcileAll] at done
    cases first : reconcileService containers runtimeName svc c spec with
    | error err => simp [first] at done
    | ok next =>
      simp only [first] at done
      have after := ih (reconcileService_standing standing first) done
      simpa using after

theorem single_kind_iff (containers : Containers K) (runtimeName : String) (svc : Service)
    (start final : Cluster) (specs : List (Spec K)) (last : Spec K)
    (clean : ∀ kind name,¬Driven svc start kind name)
    (done : reconcileAll containers runtimeName svc start (specs++[last])=.ok final) :
    (∀ kind name,Driven svc final kind name → selectedKind last=some kind) ↔
      ∀ spec∈specs,∀ kind,madeKind spec=some kind → selectedKind last=some kind := by
  have unscaled : Standing svc ([] : List (Spec K)) start := by
    intro kind name
    simp [clean]
  have standing := reconcileAll_standing unscaled done
  constructor
  · intro single spec mem kind made
    refine single kind (objectName svc kind) ((standing _ _).mpr ⟨rfl,spec,?_,made⟩)
    simp [mem]
  · intro agree kind name driven
    obtain ⟨_,spec,mem,made⟩ := (standing _ _).mp driven
    simp only [List.nil_append,List.mem_append,List.mem_singleton] at mem
    rcases mem with mem | rfl
    · exact agree spec mem kind made
    · exact (Option.filter_eq_some_iff.mp made).1

def scaledBy (scaling : Option ScalingSpec) : Spec V1alpha2.bareKubernetes := {scaling}

def onKEDA : ScalingSpec := ⟨none,some 4,none,some ⟨none,none,none,none,none⟩,none⟩

def onHPA : ScalingSpec := ⟨some 1,some 4,none,none,none⟩

def chatService : Service := ⟨"chat","default","uid-1"⟩

def emptyCluster : Cluster := fun _ _ => none

theorem steady_service_single :
    Driven chatService (reconcile chatService (scaledBy onHPA) emptyCluster)
      .horizontalPodAutoscaler "chat-hpa" ∧
    ∀ kind name,Driven chatService (reconcile chatService (scaledBy onHPA)
        (reconcile chatService (scaledBy onHPA) emptyCluster)) kind name →
      selectedKind (scaledBy onHPA)=some kind :=
  ⟨⟨_,rfl,rfl⟩,(single_kind_iff (fun _ => []) "" chatService emptyCluster _ [scaledBy onHPA]
    (scaledBy onHPA) (by rintro _ _ ⟨_,found,_⟩; cases found) rfl).mpr
    (by simp [madeKind,scaledBy,onHPA])⟩

def twoNodes : Spec V1alpha2.bareKubernetes where
  model := {uri := "pvc://models/llama"}
  parallelism := some ⟨none,none,none,[],false,some 2,false⟩

def sharedVolume : Cluster := emptyCluster.put .persistentVolumeClaim "models"
    {body := .persistentVolumeClaim [readWriteMany]}

def driversOf (history : List (Spec V1alpha2.bareKubernetes)) :
    Except Errorf (List (Option String)) :=
  (reconcileAll (fun _ => []) "" chatService sharedVolume history).map fun c =>
    [(c .scaledObject "chat-scaledobject").bind (·.body.target),
      (c .horizontalPodAutoscaler "chat-hpa").bind (·.body.target)]

theorem stale_autoscalers_drive :
    driversOf [scaledBy onKEDA,scaledBy onHPA]=.ok [some "chat",some "chat"] ∧
    driversOf [scaledBy onHPA,twoNodes]=.ok [none,some "chat"] ∧
    selectedKind twoNodes=none := by
  decide +kernel

end KServeLLM.Autoscaler
