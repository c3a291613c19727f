import KServeLLM.Framework.Execution
import KServeLLM.Auth.Claims

namespace KServeLLM.Auth

structure TokenBudgetEnforcer where
  budgets : GoMap GoString Int64

def newTokenBudgetEnforcer : TokenBudgetEnforcer := ⟨∅⟩

structure HttpError where
  status : Nat
  body : String
  deriving DecidableEq

def budgetExhausted : HttpError :=
  ⟨429,"\x7b\"error\":\"rate_limited\",\"message\":\"token budget exhausted\"\x7d"⟩

namespace TokenBudgetEnforcer

def restoreFromAnnotation (e : TokenBudgetEnforcer) (subject : GoString) (remaining : Int64) :
    TokenBudgetEnforcer :=
  ⟨e.budgets.insert subject remaining⟩

def remaining (e : TokenBudgetEnforcer) (subject : GoString) : Int64 :=
  match e.budgets.lookup subject with
  | none => -1
  | some v => v

def consume (e : TokenBudgetEnforcer) (subject : GoString) (n : Int64) :
    TokenBudgetEnforcer×Option Errorf :=
  match e.budgets.lookup subject with
  | none => (e,none)
  | some remaining =>
    if remaining < n then
      (e,some ⟨"token budget exhausted: %d requested, %d remaining",
        [.int n.toInt,.int remaining.toInt]⟩)
    else (⟨e.budgets.insert subject (remaining-n)⟩,none)

def enforceBudget (e : TokenBudgetEnforcer) (claims : Option InferenceClaims) :
    TokenBudgetEnforcer×Option HttpError :=
  match claims with
  | none => (e,none)
  | some claims =>
    if claims.tokenBudget=0 then (e,none)
    else if claims.subject=[] then (e,none)
    else
      match e.budgets.lookup claims.subject with
      | none =>
          (⟨e.budgets.insert claims.subject claims.tokenBudget⟩,
            if claims.tokenBudget ≤ 0 then some budgetExhausted else none)
      | some remaining => (e,if remaining ≤ 0 then some budgetExhausted else none)

def recordConsumption (e : TokenBudgetEnforcer) (claims : Option InferenceClaims)
    (tokensUsed : Int64) : TokenBudgetEnforcer :=
  match claims with
  | none => e
  | some claims =>
    if claims.tokenBudget=0 ∨ claims.subject=[] then e
    else (e.consume claims.subject tokensUsed).1

inductive Op where
  | enforce (claims : Option InferenceClaims)
  | record (claims : Option InferenceClaims) (tokensUsed : Int64)

def step (e : TokenBudgetEnforcer) : Op → TokenBudgetEnforcer×Option HttpError
  | .enforce claims => e.enforceBudget claims
  | .record claims tokensUsed => (e.recordConsumption claims tokensUsed,none)

abbrev History := List (Step TokenBudgetEnforcer Op (Option HttpError))

def charge (subject : GoString) : Op → Int
  | .record (some claims) tokensUsed =>
      if claims.subject=subject then tokensUsed.toInt else 0
  | _ => 0

def spent (subject : GoString) (tr : History) : Int := (tr.map fun st => charge subject st.call).sum

def Proper (subject : GoString) (budget : Int64) : Op → Prop
  | .enforce (some claims) => claims.subject=subject → claims.tokenBudget=budget
  | .record (some claims) tokensUsed =>
      claims.subject=subject → claims.tokenBudget=budget ∧ 0 ≤ tokensUsed
  | _ => True

def Blocked (e : TokenBudgetEnforcer) (subject : GoString) (budget : Int64) : Prop :=
  ∀claims : InferenceClaims,claims.subject=subject → claims.tokenBudget=budget →
    (e.enforceBudget (some claims)).2=some budgetExhausted

def NeverRises (subject : GoString) (tr : History) : Prop :=
  ∀st∈tr,∀r,st.before.budgets.lookup subject=some r →
    st.after.budgets.lookup subject≠none ∧ st.after.remaining subject ≤ r

def BudgetHolds (subject : GoString) (budget : Int64) (tr : History)
    (e : TokenBudgetEnforcer) : Prop :=
  (budget.toInt ≤ spent subject tr → Blocked e subject budget) ∧ NeverRises subject tr

def Lands (subject : GoString) (budget : Int64) (tr : History) (e : TokenBudgetEnforcer) : Op → Prop
  | .record (some claims) tokensUsed =>
      claims.subject=subject → spent subject tr+tokensUsed.toInt<budget.toInt ∨
        e.budgets.lookup subject=some 0 ∨ e.budgets.lookup subject=some tokensUsed
  | _ => True

variable {n : Int64}

section
variable (e : TokenBudgetEnforcer) (subject : GoString)

def concerns (claims : InferenceClaims) : Prop :=
  claims.subject=subject ∧ claims.tokenBudget≠0 ∧ subject≠[]

variable {claims : InferenceClaims}

theorem enforceBudget_other (other : ¬concerns subject claims) :
    (e.enforceBudget (some claims)).1.budgets.lookup subject=e.budgets.lookup subject := by
  unfold enforceBudget
  by_cases zero : claims.tokenBudget=0
  · simp [zero]
  by_cases anonymous : claims.subject=[]
  · simp [anonymous]
  · have ne : subject≠claims.subject := fun same =>
      other ⟨same.symm,zero,fun h => anonymous (same▸h)⟩
    simp only [zero,anonymous]
    cases e.budgets.lookup claims.subject with
    | none => exact AList.lookup_insert_ne ne
    | some r => rfl

theorem enforceBudget_own (own : concerns subject claims) : e.enforceBudget (some claims)=
      (match e.budgets.lookup subject with
      | none =>
          (⟨e.budgets.insert subject claims.tokenBudget⟩,
            if claims.tokenBudget ≤ 0 then some budgetExhausted else none)
      | some remaining => (e,if remaining ≤ 0 then some budgetExhausted else none)) := by
  obtain ⟨rfl,budget,named⟩ := own
  simp [enforceBudget,budget,named]

theorem recordConsumption_other (other : ¬concerns subject claims) :
    (e.recordConsumption (some claims) n).budgets.lookup subject=e.budgets.lookup subject := by
  unfold recordConsumption consume
  dsimp only
  split_ifs with skip
  · rfl
  · obtain ⟨budget,named⟩ := not_or.mp skip
    have ne : subject≠claims.subject := fun same =>
      other ⟨same.symm,budget,fun h => named (same▸h)⟩
    cases e.budgets.lookup claims.subject with
    | none => rfl
    | some r =>
      dsimp only
      split_ifs
      · rfl
      · exact AList.lookup_insert_ne ne

theorem recordConsumption_own (own : concerns subject claims) :
    (e.recordConsumption (some claims) n).budgets.lookup subject=
      (e.budgets.lookup subject).map fun r => if r < n then r else r-n := by
  obtain ⟨rfl,budget,named⟩ := own
  unfold recordConsumption consume
  cases held : e.budgets.lookup claims.subject with
  | none => simp [held]
  | some r => by_cases excess : r < n <;> simp [budget,named,excess,held]

def Sound : Prop := ∀r,e.budgets.lookup subject=some r → 0 ≤ r ∧ subject≠[]

end

theorem ne_zero_of_pos (h : 0 < n) : n≠0 := by
  rintro rfl
  exact absurd h (by decide)

theorem Sound.blocked_iff {e : TokenBudgetEnforcer} {subject : GoString} {budget : Int64}
    (sound : Sound e subject) (positive : 0 < budget) :
    Blocked e subject budget ↔ e.budgets.lookup subject=some 0 := by
  have nonzero := ne_zero_of_pos positive
  constructor
  · intro blocked
    have rejects := blocked {InferenceClaims.empty with subject := subject, tokenBudget := budget}
      rfl rfl
    by_cases named : subject=[]
    · simp [enforceBudget,named] at rejects
    · rw [enforceBudget_own e subject ⟨rfl,nonzero,named⟩] at rejects
      cases held : e.budgets.lookup subject with
      | none =>
        rw [held] at rejects
        simp [Int64.not_le.mpr positive] at rejects
      | some r =>
        rw [held] at rejects
        have low : r ≤ 0 := by
          by_contra high
          simp [high] at rejects
        exact congrArg some (Int64.le_antisymm low (sound r held).1)
  · intro held claims hs hb
    have own : concerns subject claims := ⟨hs,hb▸nonzero,(sound 0 held).2⟩
    rw [enforceBudget_own e subject own,held]
    rfl

theorem spent_snoc (subject : GoString) (tr : History) (e : TokenBudgetEnforcer) (op : Op) :
    spent subject (tr++[stepOf step e op])=spent subject tr+charge subject op := by
  simp [spent,stepOf]

theorem toInt_nonneg : 0 ≤ n ↔ 0 ≤ n.toInt := Int64.le_iff_toInt_le

theorem deduct_bounds {r : Int64} (hr : 0 ≤ r) (hn : 0 ≤ n) :
    0 ≤ (if r < n then r else r-n) ∧ (if r < n then r else r-n) ≤ r := by
  split_ifs with excess
  · exact ⟨hr,Int64.le_refl r⟩
  · have enough := Int64.not_lt.mp excess
    have diff := int64_toInt_sub_of_le hn enough
    rw [toInt_nonneg] at hn ⊢
    rw [Int64.le_iff_toInt_le] at enough ⊢
    omega

theorem deduct_eq_zero_iff {r : Int64} (hn : 0 ≤ n) : (if r < n then r else r-n)=0 ↔ r=0 ∨ r=n := by
  split_ifs with excess
  · refine ⟨.inl,fun h => h.resolve_right ?_⟩
    rintro rfl
    exact Int64.lt_irrefl excess
  · have enough := Int64.not_lt.mp excess
    have diff := int64_toInt_sub_of_le hn enough
    have zero : (0 : Int64).toInt=0 := rfl
    rw [toInt_nonneg] at hn
    rw [Int64.le_iff_toInt_le] at enough
    simp only [← Int64.toInt_inj]
    omega

section
variable {e : TokenBudgetEnforcer} {subject : GoString} {budget : Int64}
  (sound : Sound e subject) (positive : 0 < budget)

inductive Moves (subject : GoString) (budget : Int64) : Option Int64 → Op → Option Int64 → Prop
  | same {b : Option Int64} {op : Op} (free : charge subject op=0) : Moves subject budget b op b
  | opens {claims : InferenceClaims} (named : subject≠[]) :
      Moves subject budget none (.enforce (some claims)) (some budget)
  | nameless {claims : InferenceClaims} {n : Int64} (hs : claims.subject=subject)
      (anonymous : subject=[]) : Moves subject budget none (.record (some claims) n) none
  | deducts {claims : InferenceClaims} {b : Option Int64} {n : Int64}
      (hs : claims.subject=subject) (named : subject≠[]) (hn : 0 ≤ n) :
      Moves subject budget b (.record (some claims) n) (b.map fun r => if r < n then r else r-n)

include sound positive

theorem step_moves {op : Op} (proper : Proper subject budget op) :
    Moves subject budget (e.budgets.lookup subject) op ((step e op).1.budgets.lookup subject) := by
  have nonzero := ne_zero_of_pos positive
  match op,proper with
  | .enforce none,_ => exact .same rfl
  | .record none n,_ => exact .same rfl
  | .enforce (some claims),proper =>
    change Moves subject budget _ _ ((e.enforceBudget (some claims)).1.budgets.lookup subject)
    by_cases own : concerns subject claims
    · rw [enforceBudget_own e subject own]
      cases held : e.budgets.lookup subject with
      | none =>
        rw [proper own.1]
        simp only [AList.lookup_insert]
        exact .opens own.2.2
      | some r =>
        simp only [held]
        exact .same rfl
    · rw [enforceBudget_other e subject own]
      exact .same rfl
  | .record (some claims) n,proper =>
    change Moves subject budget _ _ ((e.recordConsumption (some claims) n).budgets.lookup subject)
    by_cases hs : claims.subject=subject
    · obtain ⟨hb,hn⟩ := proper hs
      by_cases named : subject=[]
      · have none' : e.budgets.lookup subject=none := by
          cases held : e.budgets.lookup subject with
          | none => rfl
          | some r => exact absurd named (sound r held).2
        rw [recordConsumption_other e subject (fun own => own.2.2 named),none']
        exact .nameless hs named
      · rw [recordConsumption_own e subject ⟨hs,hb▸nonzero,named⟩]
        exact .deducts hs named hn
    · rw [recordConsumption_other e subject (fun own => hs own.1)]
      exact .same (by simp [charge,hs])

end

variable {op : Op} {b' : Option Int64}

theorem Moves.sound {subject : GoString} {budget : Int64} {b : Option Int64}
    (m : Moves subject budget b op b') (positive : 0 < budget)
    (sound : ∀r,b=some r → 0 ≤ r ∧ subject≠[]) : ∀r,b'=some r → 0 ≤ r ∧ subject≠[] := by
  cases m with
  | same => exact sound
  | opens named =>
    rintro r ⟨⟩
    exact ⟨Int64.le_of_lt positive,named⟩
  | nameless => exact sound
  | deducts hs named hn =>
    intro r hr
    obtain ⟨old,held,rfl⟩ := Option.map_eq_some_iff.mp hr
    exact ⟨(deduct_bounds (sound old held).1 hn).1,named⟩

theorem Moves.falls {subject : GoString} {budget r : Int64}
    (m : Moves subject budget (some r) op b') (hr : 0 ≤ r) : ∃r',b'=some r' ∧ r' ≤ r := by
  cases m with
  | same => exact ⟨r,rfl,Int64.le_refl r⟩
  | deducts hs named hn => exact ⟨_,rfl,(deduct_bounds hr hn).2⟩

variable {tr : History}

theorem Moves.lands_iff {subject : GoString} {budget : Int64} {e : TokenBudgetEnforcer}
    (m : Moves subject budget (e.budgets.lookup subject) op b')
    (held : budget.toInt ≤ spent subject tr → e.budgets.lookup subject=some 0) :
    (budget.toInt ≤ spent subject tr+charge subject op → b'=some 0) ↔
      Lands subject budget tr e op := by
  generalize balance : e.budgets.lookup subject=b at m held
  cases m with
  | same free =>
    rw [free,Int.add_zero]
    refine iff_of_true held ?_
    match op with
    | .enforce _ => trivial
    | .record none _ => trivial
    | .record (some claims) n =>
      intro hs
      have nothing : n.toInt=0 := by simpa [charge,hs] using free
      rw [nothing,Int.add_zero]
      exact (Int.lt_or_le _ _).imp_right fun reached => .inl (balance.trans (held reached))
  | opens named =>
    refine iff_of_true (fun reached => ?_) trivial
    simp only [charge,Int.add_zero] at reached
    exact absurd (held reached) (by simp)
  | nameless hs anonymous =>
    simp [Lands,charge,hs,balance]
  | @deducts claims b n hs named hn =>
    have gone : (b.map fun r => if r < n then r else r-n)=some 0 ↔ b=some 0 ∨ b=some n := by
      cases b with
      | none => simp
      | some r => simpa using deduct_eq_zero_iff hn
    simp only [Lands,charge,hs,balance,forall_const,gone]
    rw [← Int.not_le]
    exact imp_iff_not_or

theorem neverRises_snoc {subject : GoString} {budget : Int64}
    {e : TokenBudgetEnforcer} (h : NeverRises subject tr) (sound : Sound e subject)
    (m : Moves subject budget (e.budgets.lookup subject) op
      ((step e op).1.budgets.lookup subject)) :
    NeverRises subject (tr++[stepOf step e op]) := by
  refine forall_mem_snoc h fun r hr => ?_
  change e.budgets.lookup subject=some r at hr
  rw [hr] at m
  obtain ⟨_,after,low⟩ := m.falls (sound r hr).1
  change (step e op).1.budgets.lookup subject≠none ∧ (step e op).1.remaining subject ≤ r
  unfold remaining
  rw [after]
  exact ⟨by simp,low⟩

theorem budget_holds_iff (subject : GoString) (budget : Int64) (positive : 0 < budget)
    (ops : List Op)
    (proper : EachCall step newTokenBudgetEnforcer ops (fun _ _ op => Proper subject budget op)) :
    Always step newTokenBudgetEnforcer ops (BudgetHolds subject budget) ↔
      EachCall step newTokenBudgetEnforcer ops (Lands subject budget) := by
  refine always_iff_eachCall_of step (fun _ e => Sound e subject) (BudgetHolds subject budget)
    (fun _ _ op => Proper subject budget op)
    (fun _ h => (by cases h)) ⟨fun excess => ?_,by simp [NeverRises]⟩ ?_ ?_ proper
  · have pos : 0 < budget.toInt := Int64.lt_iff_toInt_lt.mp positive
    exact absurd excess (Int.not_le.mpr pos)
  · intro tr e op sound law call lands
    have m := step_moves sound positive call
    have sound' : Sound (step e op).1 subject := m.sound positive sound
    refine ⟨sound',fun excess => ?_,neverRises_snoc law.2 sound m⟩
    rw [spent_snoc] at excess
    have held := fun reached => (sound.blocked_iff positive).mp (law.1 reached)
    exact (sound'.blocked_iff positive).mpr ((m.lands_iff held).mpr lands excess)
  · intro tr e op sound law call next
    have m := step_moves sound positive call
    have sound' : Sound (step e op).1 subject := m.sound positive sound
    have held := fun reached => (sound.blocked_iff positive).mp (law.1 reached)
    refine (m.lands_iff held).mp fun excess => ?_
    rw [← spent_snoc] at excess
    exact (sound'.blocked_iff positive).mp (next.1 excess)

instance decidableProper (subject : GoString) (budget : Int64) :
    (op : Op) → Decidable (Proper subject budget op)
  | .enforce none => isTrue trivial
  | .enforce (some claims) =>
      inferInstanceAs (Decidable (claims.subject=subject → claims.tokenBudget=budget))
  | .record none _ => isTrue trivial
  | .record (some claims) n =>
      inferInstanceAs (Decidable (claims.subject=subject → claims.tokenBudget=budget ∧ 0 ≤ n))

instance decidableLands (subject : GoString) (budget : Int64) (tr : History)
    (e : TokenBudgetEnforcer) : (op : Op) → Decidable (Lands subject budget tr e op)
  | .enforce _ => isTrue trivial
  | .record none _ => isTrue trivial
  | .record (some claims) n =>
      inferInstanceAs (Decidable (claims.subject=subject →
        spent subject tr+n.toInt<budget.toInt ∨ e.budgets.lookup subject=some 0 ∨
        e.budgets.lookup subject=some n))

def tenTokens : InferenceClaims := {InferenceClaims.empty with subject := ['s'], tokenBudget := 10}

theorem budget_holds_to_the_token : Always step newTokenBudgetEnforcer
      [.enforce tenTokens,.record tenTokens 4,.record tenTokens 6,.record tenTokens 3]
      (BudgetHolds ['s'] 10) :=
  (budget_holds_iff ['s'] 10 (by decide) _ (by decide)).mpr (by decide)

theorem overspend_not_charged :
    ¬Always step newTokenBudgetEnforcer [.enforce tenTokens,.record tenTokens 20]
      (BudgetHolds ['s'] 10) := by
  intro law
  have blocked := (law _ (List.prefix_refl _)).1 (by decide) tenTokens rfl rfl
  revert blocked
  decide

end TokenBudgetEnforcer

end KServeLLM.Auth
