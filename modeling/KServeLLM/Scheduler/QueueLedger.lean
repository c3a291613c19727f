import KServeLLM.Scheduler.TokenQueue

namespace KServeLLM.Scheduler

variable {F : Type}

def QueuedRequest.entry (r : QueuedRequest F) : String×Int64 := (r.tenantID,r.effectiveCost)

def RequestHeap.entries (h : RequestHeap F) : List (String×Int64) :=
  h.requests.map QueuedRequest.entry

def charges (es : List (String×Int64)) (t : String) : List Int64 :=
  (es.filter (fun e => e.1=t)).map Prod.snd

theorem charges_perm {es fs : List (String×Int64)} (h : es.Perm fs) {t : String} :
    (charges es t).Perm (charges fs t) := (h.filter _).map _

theorem charges_cons (e : String×Int64) (es : List (String×Int64)) (t : String) :
    charges (e::es) t=if e.1=t then e.2::charges es t else charges es t := by
  by_cases h : e.1=t <;> simp [charges,h]

namespace TokenQueue

section

variable (q : TokenQueue F) (t u : String) (f : TenantState → TenantState)

theorem getOrCreateTenantState_snd : (q.getOrCreateTenantState t).2=q.tenant t := by
  unfold getOrCreateTenantState tenant
  split <;> simp_all

theorem getOrCreateTenantState_tenant : (q.getOrCreateTenantState t).1.tenant u=q.tenant u := by
  unfold getOrCreateTenantState
  split
  · rfl
  · next h =>
    by_cases hu : u=t
    · subst u
      simp [tenant,h]
    · simp [tenant,AList.lookup_insert_ne hu]

theorem getOrCreateTenantState_frame :
    (q.getOrCreateTenantState t).1={q with tenants := (q.getOrCreateTenantState t).1.tenants} := by
  unfold getOrCreateTenantState
  split <;> rfl

theorem updateTenant_frame :
    q.updateTenant t f={q with tenants := (q.updateTenant t f).tenants} := by
  unfold updateTenant getOrCreateTenantState
  split <;> rfl

theorem updateTenant_tenant :
    (q.updateTenant t f).tenant u=if u=t then f (q.tenant t) else q.tenant u := by
  by_cases hu : u=t
  · subst u
    rw [← getOrCreateTenantState_snd q]
    simp [updateTenant,tenant]
  · rw [if_neg hu,← getOrCreateTenantState_tenant q t]
    simp [updateTenant,tenant,AList.lookup_insert_ne hu]

end

structure Books (q : TokenQueue F) (es : List (String×Int64)) : Prop where
  tokens : q.totalTokens=(es.map Prod.snd).sum
  tenantTokens : ∀t,(q.tenant t).queuedTokens=(charges es t).sum
  tenantRequests : ∀t,(q.tenant t).queuedRequests=Int64.ofNat (charges es t).length

theorem Books.perm {q : TokenQueue F} {es fs : List (String×Int64)} (b : Books q es)
    (h : es.Perm fs) : Books q fs := by
  refine ⟨b.tokens.trans (h.map _).sum_eq,fun t => ?_,fun t => ?_⟩
  · exact (b.tenantTokens t).trans (charges_perm h).sum_eq
  · rw [b.tenantRequests,(charges_perm h).length_eq]

variable {es : List (String×Int64)} {q' : TokenQueue F}

theorem Books.congr {q : TokenQueue F} (b : Books q es)
    (ht : q'.totalTokens=q.totalTokens) (hq : ∀t,q'.tenant t=q.tenant t) : Books q' es :=
  ⟨ht.trans b.tokens,fun t => hq t ▸ b.tenantTokens t,fun t => hq t ▸ b.tenantRequests t⟩

theorem ofNat_succ (n : Nat) : Int64.ofNat (n+1)=Int64.ofNat n+1 := by
  rw [Int64.ofNat_add]
  rfl

theorem Books.charge {q : TokenQueue F} (b : Books q es) (e : String×Int64)
    (ht : q'.totalTokens=q.totalTokens+e.2) (hq : ∀t,(q'.tenant t).queuedTokens=
        (if t=e.1 then (q.tenant t).queuedTokens+e.2 else (q.tenant t).queuedTokens) ∧
      (q'.tenant t).queuedRequests=
        (if t=e.1 then (q.tenant t).queuedRequests+1 else (q.tenant t).queuedRequests)) :
    Books q' (e::es) := by
  refine ⟨?_,fun t => ?_,fun t => ?_⟩
  · rw [ht,b.tokens,List.map_cons,List.sum_cons,Int64.add_comm]
  · rw [(hq t).1,b.tenantTokens,charges_cons]
    by_cases h : t=e.1
    · subst t
      simp [Int64.add_comm]
    · simp [h,Ne.symm]
  · rw [(hq t).2,b.tenantRequests,charges_cons]
    by_cases h : t=e.1
    · subst t
      simp
    · simp [h,Ne.symm]

theorem Books.discharge {q : TokenQueue F} (e : String×Int64) (b : Books q (e::es))
    (ht : q'.totalTokens=q.totalTokens-e.2) (hq : ∀t,(q'.tenant t).queuedTokens=
        (if t=e.1 then (q.tenant t).queuedTokens-e.2 else (q.tenant t).queuedTokens) ∧
      (q'.tenant t).queuedRequests=
        (if t=e.1 then (q.tenant t).queuedRequests-1 else (q.tenant t).queuedRequests)) :
    Books q' es := by
  refine ⟨?_,fun t => ?_,fun t => ?_⟩
  · rw [ht,b.tokens,List.map_cons,List.sum_cons,Int64.add_comm,Int64.add_sub_cancel]
  · rw [(hq t).1,b.tenantTokens,charges_cons]
    by_cases h : t=e.1
    · subst t
      simp [Int64.add_comm e.2]
    · simp [h,Ne.symm]
  · rw [(hq t).2,b.tenantRequests,charges_cons]
    by_cases h : t=e.1
    · subst t
      simp
    · simp [h,Ne.symm]

end TokenQueue

end KServeLLM.Scheduler
