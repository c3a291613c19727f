import KServeLLM.Inference.RequestPipeline

namespace KServeLLM.Inference

structure Store where
  (tenant model prompt response : String)
  now : Time

inductive CacheEvent where
  | stored (s : Store)
  | executed (call : Call)

def CacheEvent.visible (tenant model : String) : CacheEvent → Bool
  | .stored s => decide (s.tenant=tenant ∧ s.model=model)
  | .executed _ => true

abbrev Workload : Type := String → String → String → Prop

def Confined (others : Workload) (tenant model : String) (history : List CacheEvent) : Prop :=
  ∀s,.stored s∈history → (s.tenant≠tenant ∨ s.model≠model) → others s.tenant s.model s.prompt

namespace SemanticCache

variable {κ : Type} [DecidableEq κ] {c d : SemanticCache κ} {key : κ}

theorem get_lookup_ne {c : SemanticCache κ} {now : Time} {key other : κ} (ne : other≠key) :
    (c.get key now).1.entries.lookup other=c.entries.lookup other := by
  unfold get
  cases c.entries.lookup key with
  | none => rfl
  | some entry =>
    dsimp only
    split
    · exact AList.lookup_erase_ne ne
    · exact AList.lookup_insert_ne ne

theorem get_answer_congr (same : c.entries.lookup key=d.entries.lookup key) (now : Time) :
    (c.get key now).2=(d.get key now).2 := by
  unfold get
  rw [same]
  cases d.entries.lookup key with
  | none => rfl
  | some entry =>
    dsimp only
    split <;> rfl

theorem get_lookup_congr (same : c.entries.lookup key=d.entries.lookup key) {now : Time} :
    (c.get key now).1.entries.lookup key=(d.get key now).1.entries.lookup key := by
  unfold get
  rw [same]
  cases h : d.entries.lookup key with
  | none => exact same
  | some entry =>
    dsimp only
    split
    · rw [AList.lookup_erase,AList.lookup_erase]
    · rw [AList.lookup_insert,AList.lookup_insert]

theorem get_set_now (c : SemanticCache κ) (key : κ) (response : String) (now : Time) :
    ((c.set key response ttl now).get key now).2=some response := by
  have later : now ≤ now.add ttl := Int.le_add_of_nonneg_right (by decide)
  have positive : 0<ttl := by decide
  have live : MemCacheEntry.expired ⟨response,1,now,now.add ttl⟩ now=false := by
    have past : now.after (now.add ttl)=false := decide_eq_false (Int.not_lt.mpr later)
    rw [MemCacheEntry.expired,past,Bool.and_false]
  unfold get set
  rw [AList.lookup_insert,if_pos positive]
  dsimp only
  rw [live]
  rfl

end SemanticCache

namespace RequestPipeline

variable {κ : Type} [DecidableEq κ] (hash : PromptHash κ)

def effectiveModel (policy : Option AccessPlane.Evaluator) (call : Call) : Option String :=
  match admitted policy call with
  | .error _ => none
  | .ok (model,_) => some model

def cacheBranch (p : RequestPipeline κ) (call : Call) : Option Bool :=
  match admitted p.policy call with
  | .error _ => none
  | .ok _ => some (p.cache.getExact hash call.req.prompt call.lookedUp).2.isSome

def event (p : RequestPipeline κ) : CacheEvent → RequestPipeline κ
  | .stored s => {p with cache := p.cache.storeExact hash s.prompt s.response s.now}
  | .executed call => (p.execute hash call).1

def after (p : RequestPipeline κ) (history : List CacheEvent) : RequestPipeline κ :=
  history.foldl (event hash) p

def Isolated (policy : Option AccessPlane.Evaluator) (call : Call) (model : String)
    (others : Workload) : Prop :=
  ∀left right : List CacheEvent,Confined others call.req.tenantID model left →
    Confined others call.req.tenantID model right →
    left.filter (CacheEvent.visible call.req.tenantID model)=
      right.filter (CacheEvent.visible call.req.tenantID model) →
    (after hash (newRequestPipeline policy) left).cacheBranch hash call=
      (after hash (newRequestPipeline policy) right).cacheBranch hash call

structure Agree (prompt : String) (p q : RequestPipeline κ) : Prop where
  policy : p.policy=q.policy
  entry : p.cache.entries.lookup (hash.digest prompt)=q.cache.entries.lookup (hash.digest prompt)

theorem execute_frame {p : RequestPipeline κ} {call : Call} : ∃routing,(p.execute hash call).1=
      ⟨routing,
        match admitted p.policy call with
        | .error _ => p.cache
        | .ok _ => (p.cache.getExact hash call.req.prompt call.lookedUp).1,
        p.policy⟩ := by
  unfold execute
  cases admitted p.policy call with
  | error err => exact ⟨_,rfl⟩
  | ok effective =>
    dsimp only
    split
    · exact ⟨_,rfl⟩
    · unfold executeMiss
      dsimp only
      split
      · exact ⟨_,rfl⟩
      · exact ⟨_,rfl⟩

variable {hash} {p q : RequestPipeline κ}

theorem Agree.cacheBranch {call : Call}
    (h : Agree hash call.req.prompt p q) : p.cacheBranch hash call=q.cacheBranch hash call := by
  have answer := SemanticCache.get_answer_congr h.entry call.lookedUp
  unfold RequestPipeline.cacheBranch SemanticCache.getExact
  rw [h.policy,answer]

variable {prompt : String}

theorem Agree.executed (h : Agree hash prompt p q)
    (call : Call) : Agree hash prompt (p.execute hash call).1 (q.execute hash call).1 := by
  obtain ⟨_,afterLeft⟩ := execute_frame hash
  obtain ⟨_,afterRight⟩ := execute_frame hash
  rw [afterLeft,afterRight]
  refine ⟨h.policy,?_⟩
  rw [h.policy]
  cases admitted q.policy call with
  | error err => exact h.entry
  | ok effective =>
    dsimp only [SemanticCache.getExact]
    by_cases same : hash.digest prompt=hash.digest call.req.prompt
    · rw [← same]
      exact SemanticCache.get_lookup_congr h.entry
    · rw [SemanticCache.get_lookup_ne same,SemanticCache.get_lookup_ne same]
      exact h.entry

theorem Agree.stored (h : Agree hash prompt p q)
    (s : Store) : Agree hash prompt (p.event hash (.stored s)) (q.event hash (.stored s)) := by
  refine ⟨h.policy,?_⟩
  dsimp only [event,SemanticCache.storeExact,SemanticCache.set]
  by_cases same : hash.digest prompt=hash.digest s.prompt
  · rw [← same,AList.lookup_insert,AList.lookup_insert]
  · rw [AList.lookup_insert_ne same,AList.lookup_insert_ne same]
    exact h.entry

theorem Agree.unseen (h : Agree hash prompt p q)
    {s : Store} (other : s.prompt≠prompt) : Agree hash prompt (p.event hash (.stored s)) q := by
  have apart : hash.digest prompt≠hash.digest s.prompt :=
    fun same => other (hash.collisionFree _ _ same).symm
  refine ⟨h.policy,?_⟩
  dsimp only [event,SemanticCache.storeExact,SemanticCache.set]
  rw [AList.lookup_insert_ne apart]
  exact h.entry

theorem Agree.after_filter {others : Workload} {tenant model prompt : String}
    (elsewhere : ∀t m q,others t m q → (t≠tenant ∨ m≠model) → q≠prompt)
    (history : List CacheEvent) (confined : Confined others tenant model history)
    (h : Agree hash prompt p q) :
    Agree hash prompt (after hash p history)
      (after hash q (history.filter (CacheEvent.visible tenant model))) := by
  induction history generalizing p q with
  | nil => exact h
  | cons e history ih =>
    have rest : Confined others tenant model history :=
      fun s mem => confined s (List.mem_cons_of_mem e mem)
    cases e with
    | executed call =>
      exact ih rest (h.executed call)
    | stored s =>
      by_cases own : s.tenant=tenant ∧ s.model=model
      · have kept : CacheEvent.visible tenant model (.stored s)=true := decide_eq_true own
        rw [List.filter_cons_of_pos kept]
        exact ih rest (h.stored s)
      · have foreign : s.tenant≠tenant ∨ s.model≠model := Decidable.not_and_iff_or_not.mp own
        have skipped : ¬CacheEvent.visible tenant model (.stored s)=true := by
          simpa only [CacheEvent.visible,decide_eq_true_eq] using own
        rw [List.filter_cons_of_neg skipped]
        have allowed := confined s List.mem_cons_self foreign
        exact ih rest (h.unseen (elsewhere _ _ _ allowed foreign))

theorem cacheBranch_of_effective {p : RequestPipeline κ} {call : Call} {model : String}
    (effective : effectiveModel p.policy call=some model) :
    p.cacheBranch hash call=
      some (p.cache.getExact hash call.req.prompt call.lookedUp).2.isSome := by
  unfold effectiveModel at effective
  unfold RequestPipeline.cacheBranch
  cases h : admitted p.policy call with
  | error err =>
    rw [h] at effective
    cases effective
  | ok result => rfl

variable (hash)

theorem cache_isolated_iff (policy : Option AccessPlane.Evaluator) (call : Call) (model : String)
    (effective : effectiveModel policy call=some model) (others : Workload) :
    Isolated hash policy call model others ↔
      ∀t m q,others t m q → (t≠call.req.tenantID ∨ m≠model) → q≠call.req.prompt := by
  constructor
  · rintro isolated t m q allowed foreign rfl
    -- one store for the others, at the moment of the lookup, against none
    let s : Store := ⟨t,m,call.req.prompt,"",call.lookedUp⟩
    have confined : Confined others call.req.tenantID model [.stored s] := by
      intro s' mem _
      obtain rfl := CacheEvent.stored.inj (List.mem_singleton.mp mem)
      exact allowed
    have hidden : ¬CacheEvent.visible call.req.tenantID model (.stored s)=true := by
      simp only [CacheEvent.visible,decide_eq_true_eq]
      exact Decidable.not_and_iff_or_not.mpr foreign
    have branches := isolated [] [.stored s] (fun _ mem => absurd mem List.not_mem_nil) confined
      (List.filter_cons_of_neg hidden).symm
    rw [cacheBranch_of_effective effective,cacheBranch_of_effective effective] at branches
    have hit := SemanticCache.get_set_now SemanticCache.empty
      (hash.digest call.req.prompt) "" call.lookedUp
    have found := Option.some.inj branches
    dsimp only [after,List.foldl,event,newRequestPipeline,SemanticCache.getExact,
      SemanticCache.storeExact] at found
    rw [hit] at found
    cases found
  · intro elsewhere left right confinedLeft confinedRight same
    have start : Agree hash call.req.prompt (newRequestPipeline policy)
        (newRequestPipeline policy) := ⟨rfl,rfl⟩
    have toLeft := (start.after_filter elsewhere left confinedLeft).cacheBranch
    have toRight := (start.after_filter elsewhere right confinedRight).cacheBranch
    rw [toLeft,toRight,same]

def tenantCall : Call :=
  ⟨⟨"tenant-b","chat",⟨⟨0,0⟩,∅⟩,"small","s","",["pod-b"],"hi"⟩,1,1,none,none,2,2,0,2,none,3,3,3⟩

theorem cache_isolated_greeting : effectiveModel none tenantCall=some "small" ∧
      Isolated PromptHash.plain none tenantCall "small" (fun _ _ prompt => prompt="bye") := by
  refine ⟨rfl,(cache_isolated_iff PromptHash.plain none tenantCall "small" rfl _).mpr ?_⟩
  rintro t m q rfl _
  decide

theorem cache_shared :
    let foreign : CacheEvent := .stored ⟨"tenant-a","large","hi","secret",1⟩
    foreign.visible "tenant-b" "small"=false ∧
      (after PromptHash.plain (newRequestPipeline none) []).cacheBranch PromptHash.plain tenantCall=
        some false ∧
      (after PromptHash.plain (newRequestPipeline none) [foreign]).cacheBranch PromptHash.plain
        tenantCall=some true := by
  decide

end RequestPipeline

end KServeLLM.Inference
