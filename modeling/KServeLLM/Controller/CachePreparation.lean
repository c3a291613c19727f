import KServeLLM.Controller.CacheReconciler

namespace KServeLLM.Controller.Cache

variable {Selector : Type}

def workloadNamespace (annotations : GoMap String String) : String :=
  if valueAt annotations cacheWorkloadNamespaceAnnotation="" then defaultCacheNamespace
  else valueAt annotations cacheWorkloadNamespaceAnnotation

variable {cache : LocalModelCache Selector}

theorem validateLoraCacheOwner_ns {lora : LLMLoraAdapter}
    (valid : validateLoraCacheOwner cache lora=.ok ()) :
    valueAt cache.annotations loraCacheOwnerNamespace=lora.ns := by
  by_contra other
  simp [validateLoraCacheOwner,other] at valid

inductive Resolves (around : Surroundings) (cache : LocalModelCache Selector) : String → Prop
  | plain (unnamed : valueAt cache.annotations cacheWorkloadNamespaceAnnotation="") :
      Resolves around cache defaultCacheNamespace
  | owned (owner : LLMLoraAdapter)
      (named : valueAt cache.annotations cacheWorkloadNamespaceAnnotation≠"")
      (managed : valueAt cache.labels loraCacheManagedByLabel=loraCacheManagedByAdapter)
      (complete : ¬(valueAt cache.annotations loraCacheOwnerNamespace="" ∨
        valueAt cache.annotations loraCacheOwnerName="" ∨
        valueAt cache.annotations cacheWorkloadNamespaceAnnotation≠
          valueAt cache.annotations loraCacheOwnerNamespace))
      (found : around.adapters (valueAt cache.annotations loraCacheOwnerNamespace)
        (valueAt cache.annotations loraCacheOwnerName)=some owner)
      (valid : validateLoraCacheOwner cache owner=.ok ()) : Resolves around cache owner.ns

variable {around : Surroundings} {view : View} {stage : Stage} {ns : String}

theorem resolve_ok (resolved : resolveCacheWorkloadNamespace around view stage cache=.ok ns) :
    validateWarmupStorageReferences view cache=.ok () ∧ Resolves around cache ns := by
  simp only [resolveCacheWorkloadNamespace,bind,Except.bind,pure] at resolved
  split at resolved
  · rename_i unnamed
    split at resolved
    · cases resolved
    · rename_i storage
      cases resolved
      exact ⟨storage,.plain unnamed⟩
  · rename_i named
    split at resolved
    · cases resolved
    · rename_i managed
      split at resolved
      · cases resolved
      · rename_i complete
        split at resolved
        · cases resolved
        · split at resolved
          · cases resolved
          · rename_i owner found
            split at resolved
            · cases resolved
            · rename_i valid
              split at resolved
              · cases resolved
              · rename_i storage
                cases resolved
                exact ⟨storage,.owned owner named (not_not.mp managed) complete found valid⟩

theorem resolve_of (open' : view.refuses stage .getOwner=none)
    (storage : validateWarmupStorageReferences view cache=.ok ())
    (resolves : Resolves around cache ns) :
    resolveCacheWorkloadNamespace around view stage cache=.ok ns := by
  simp only [resolveCacheWorkloadNamespace]
  cases resolves with
  | plain unnamed => simp [unnamed,storage,cacheWorkloadNamespace,bind,Except.bind,pure,Except.pure]
  | owned owner named managed complete found valid =>
    simp [if_neg named,managed,ne_eq,not_true_eq_false,if_neg complete,open',found,
      valid,storage,bind,Except.bind,pure,Except.pure]

theorem resolve_ns (resolved : resolveCacheWorkloadNamespace around view stage cache=.ok ns) :
    ns=workloadNamespace cache.annotations := by
  cases (resolve_ok resolved).2 with
  | plain unnamed => exact (if_pos unnamed).symm
  | owned owner named _ complete _ valid =>
    have requested : valueAt cache.annotations cacheWorkloadNamespaceAnnotation=
        valueAt cache.annotations loraCacheOwnerNamespace := by
      by_contra other
      exact complete (.inr (.inr other))
    rw [workloadNamespace,if_neg named,requested,validateLoraCacheOwner_ns valid]

variable (lib : Library Selector)

theorem validateWarmupStorageReferences_ok
    (valid : validateWarmupStorageReferences view cache=.ok ()) {view' : View} :
    validateWarmupStorageReferences view' cache=.ok () := by
  unfold validateWarmupStorageReferences at valid ⊢
  split
  · rfl
  · rename_i storage found
    simp only [found] at valid
    have clean : ∀reference∈storageReferences view storage,'/'∉reference.2.toList := by
      cases bad : (storageReferences view storage).find? fun reference =>
          decide ('/'∈reference.2.toList) with
      | some reference => simp [bad] at valid
      | none => simpa using bad
    have same : ∀reference∈storageReferences view' storage,'/'∉reference.2.toList := by
      intro reference mem
      refine clean reference ?_
      unfold storageReferences at mem ⊢
      split at mem <;> split <;> simpa [or_comm] using mem
    have none : ((storageReferences view' storage).find? fun reference =>
        decide ('/'∈reference.2.toList))=none := by
      simpa using same
    rw [none]

def View.Smooth (view : View) : Prop := ∃ now first,view=View.smooth now first

variable {found nodes : List String} {view' : View} (smooth : view'.Smooth)

include smooth

theorem appendSelectorNodes_smooth
    (done : appendSelectorNodes lib around view cache nodes=.ok found) :
    appendSelectorNodes lib around view' cache nodes=.ok found := by
  obtain ⟨_,_,rfl⟩ := smooth
  unfold appendSelectorNodes at done ⊢
  split at done
  · exact done
  · exact done
  · split at done
    · cases done
    · split at done
      · cases done
      · exact done

theorem appendWarmNodes_smooth {names : List String}
    (done : appendWarmNodes around view names nodes=.ok found) :
    appendWarmNodes around view' names nodes=.ok found := by
  obtain ⟨_,_,rfl⟩ := smooth
  induction names generalizing nodes with
  | nil => exact done
  | cons name names ih =>
    simp only [appendWarmNodes] at done ⊢
    split at done
    · rename_i seen
      rw [if_pos seen]
      exact ih done
    · rename_i unseen
      rw [if_neg unseen]
      split at done
      · cases done
      · split at done
        · rename_i exists'
          rw [if_pos exists']
          exact ih done
        · rename_i missing
          rw [if_neg missing]
          exact ih done

theorem appendSchedulableNodes_smooth (done : appendSchedulableNodes around view nodes=.ok found) :
    appendSchedulableNodes around view' nodes=.ok found := by
  obtain ⟨_,_,rfl⟩ := smooth
  unfold appendSchedulableNodes at done
  split at done
  · cases done
  · exact done

variable {targets : List String}

theorem resolveTargetNodes_smooth (done : resolveTargetNodes lib around view cache=.ok targets) :
    resolveTargetNodes lib around view' cache=.ok targets := by
  obtain ⟨_,selector,done⟩ := ok_of_bind done
  obtain ⟨_,warmed,done⟩ := ok_of_bind done
  simp only [resolveTargetNodes,appendSelectorNodes_smooth lib smooth selector,
    appendWarmNodes_smooth smooth warmed,bind,Except.bind]
  split at done
  · rename_i all
    rw [if_pos all]
    exact appendSchedulableNodes_smooth smooth done
  · rename_i some'
    rw [if_neg some']
    exact done

omit smooth in
theorem prepare_ok (prepared : prepare lib around view cache=.ok targets) :
    (∃ns,resolveCacheWorkloadNamespace around view .start cache=.ok ns) ∧
      validateLocalModelCacheQuantities lib cache=.ok () ∧
      resolveTargetNodes lib around view cache=.ok targets := by
  obtain ⟨ns,resolved,prepared⟩ := ok_of_bind prepared
  obtain ⟨_,valid,prepared⟩ := ok_of_bind prepared
  exact ⟨⟨ns,resolved⟩,valid,prepared⟩

theorem resolve_smooth (resolved : resolveCacheWorkloadNamespace around view stage cache=.ok ns)
    (stage' : Stage) : resolveCacheWorkloadNamespace around view' stage' cache=
      .ok (workloadNamespace cache.annotations) := by
  obtain ⟨_,_,rfl⟩ := smooth
  obtain ⟨storage,resolves⟩ := resolve_ok resolved
  rw [← resolve_ns resolved]
  exact resolve_of rfl (validateWarmupStorageReferences_ok storage) resolves

theorem prepare_smooth (prepared : prepare lib around view cache=.ok targets) :
    prepare lib around view' cache=.ok targets := by
  obtain ⟨⟨_,resolved⟩,valid,targets⟩ := prepare_ok lib prepared
  simp [prepare,resolve_smooth smooth resolved,valid,
    resolveTargetNodes_smooth lib smooth targets,bind,Except.bind]

omit smooth in
theorem modelSize_of_prepared (prepared : prepare lib around view cache=.ok targets) :
    ∃size,modelSizeQuantity lib cache.spec=.ok size := by
  obtain ⟨-,valid,-⟩ := prepare_ok lib prepared
  unfold validateLocalModelCacheQuantities at valid
  split at valid
  · cases valid
  · rename_i size found
    exact ⟨size,found⟩

end KServeLLM.Controller.Cache
