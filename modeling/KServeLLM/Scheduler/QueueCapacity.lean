import KServeLLM.Scheduler.QueueAccounting

namespace KServeLLM.Scheduler

variable {F : Type} [Float64 F] {now : Time}

namespace TokenQueue

structure WithinLimits (q : TokenQueue F) : Prop where
  depth : DepthBounded q
  tokens : 0 ≤ q.totalTokens ∧ q.totalTokens ≤ q.cfg.maxQueueTokens
  tenantRequests : ∀t,0<(q.getTenantConfig t).maxQueuedRequests → 0≤(q.tenant t).queuedRequests ∧
      (q.tenant t).queuedRequests≤(q.getTenantConfig t).maxQueuedRequests
  tenantTokens : ∀t,0<(q.getTenantConfig t).maxQueuedTokens → 0≤(q.tenant t).queuedTokens ∧
      (q.tenant t).queuedTokens≤(q.getTenantConfig t).maxQueuedTokens

def OtherChecksPass (q : TokenQueue F) (req : QueuedRequest F) (now : Time) : Prop :=
  req.expired now=false ∧ q.heap.slots.length+1 ≤ q.cfg.maxQueueDepth.toInt ∧
  (0<(q.getTenantConfig req.tenantID).maxQueuedRequests → (q.tenant req.tenantID).queuedRequests+1≤
      (q.getTenantConfig req.tenantID).maxQueuedRequests) ∧
  (0<(q.getTenantConfig req.tenantID).maxQueuedTokens →
    (q.tenant req.tenantID).queuedTokens+req.effectiveCost≤
      (q.getTenantConfig req.tenantID).maxQueuedTokens) ∧
  (q.isSaturated=true → q.cfg.highPriorityFloor ≤ req.priority ∨
    (¬(0<(q.getTenantConfig req.tenantID).tokenBudget ∧
      (q.getTenantConfig req.tenantID).tokenBudget≤
        (q.tenant req.tenantID).queuedTokens+(q.tenant req.tenantID).activeTokens) ∧
      Float64.le 0.95 q.saturationRatio=false))

def SumFits (q : TokenQueue F) (op : QueueOp F) : Prop :=
  ∀req now,op=.enqueue req now → q.OtherChecksPass req now →
    q.totalTokens.toInt+req.effectiveCost.toInt<2^63

theorem admission_iff_other {q : TokenQueue F} {req : QueuedRequest F} :
    (q.admission req now).1=.dispositionAdmit ↔
      q.OtherChecksPass req now ∧ q.totalTokens+req.effectiveCost ≤ q.cfg.maxQueueTokens := by
  rw [admission_admit_iff]
  unfold OtherChecksPass
  tauto

end TokenQueue

def intSum (cs : List Int64) : Int := (cs.map Int64.toInt).sum

theorem intSum_append (xs ys : List Int64) : intSum (xs++ys)=intSum xs+intSum ys := by
  simp [intSum]

theorem intSum_perm {xs ys : List Int64} (h : xs.Perm ys) : intSum xs=intSum ys := (h.map _).sum_eq

theorem intSum_nonneg {xs : List Int64} (h : ∀x∈xs,0 ≤ x.toInt) : 0 ≤ intSum xs := by
  apply List.sum_nonneg
  intro z hz
  obtain ⟨x,hx,rfl⟩ := List.mem_map.mp hz
  exact h x hx

section

variable {es : List (String×Int64)} (h : ∀e∈es,0 ≤ e.2.toInt)

include h

theorem costs_nonneg : ∀c∈es.map Prod.snd,0 ≤ c.toInt := by
  intro c hc
  obtain ⟨e,he,rfl⟩ := List.mem_map.mp hc
  exact h e he

theorem charges_nonneg (t : String) : ∀c∈charges es t,0 ≤ c.toInt := by
  intro c hc
  obtain ⟨e,he,rfl⟩ := List.mem_map.mp hc
  exact h e (List.mem_of_mem_filter he)

end

theorem charges_append (es fs : List (String×Int64)) (t : String) :
    charges (es++fs) t=charges es t++charges fs t := by simp [charges]

theorem intSum_charges_le {es : List (String×Int64)} (h : ∀e∈es,0 ≤ e.2.toInt) (t : String) :
    intSum (charges es t) ≤ intSum (es.map Prod.snd) := by
  induction es with
  | nil => exact le_refl _
  | cons e es ih =>
    have tail := ih (fun x hx => h x (by simp [hx]))
    have head := h e (by simp)
    rw [charges_cons]
    split <;> simp only [intSum,List.map_cons,List.sum_cons] at tail ⊢ <;> omega

namespace TokenQueue

theorem entries_pos (h : RequestHeap F) : ∀e∈h.entries,0 ≤ e.2.toInt := by
  intro e he
  obtain ⟨r,_,rfl⟩ := List.mem_map.mp he
  have pos := r.effectiveCost_pos
  simp only [QueuedRequest.entry]
  omega

def Exact (q : TokenQueue F) : Prop := intSum (q.heap.entries.map Prod.snd)<2^63

section

variable {q : TokenQueue F} (s : Sound q) (x : Exact q)

include s x

theorem totalTokens_exact : q.totalTokens.toInt=intSum (q.heap.entries.map Prod.snd) := by
  rw [s.books.tokens]
  exact toInt_sum_of_lt (costs_nonneg (entries_pos _)) x

theorem tenantTokens_exact (t : String) :
    (q.tenant t).queuedTokens.toInt=intSum (charges q.heap.entries t) := by
  rw [s.books.tenantTokens]
  exact toInt_sum_of_lt (charges_nonneg (entries_pos _) t)
    (lt_of_le_of_lt (intSum_charges_le (entries_pos _) t) x)

end

theorem tenantRequests_exact {q : TokenQueue F} (s : Sound q) (d : DepthBounded q) (t : String) :
    (q.tenant t).queuedRequests.toInt=(charges q.heap.entries t).length := by
  rw [tenantRequests_toInt s d,charges_entries,List.length_map]

structure IntLimits (q : TokenQueue F) : Prop where
  tokens : intSum (q.heap.entries.map Prod.snd) ≤ q.cfg.maxQueueTokens.toInt
  tenantRequests : ∀t,0<(q.getTenantConfig t).maxQueuedRequests →
    ((charges q.heap.entries t).length : Int)≤(q.getTenantConfig t).maxQueuedRequests.toInt
  tenantTokens : ∀t,0<(q.getTenantConfig t).maxQueuedTokens →
    intSum (charges q.heap.entries t)≤(q.getTenantConfig t).maxQueuedTokens.toInt

theorem withinLimits_iff {q : TokenQueue F} (s : Sound q) (d : DepthBounded q) (x : Exact q) :
    WithinLimits q ↔ IntLimits q := by
  have total := totalTokens_exact s x
  have pos := intSum_nonneg (costs_nonneg (entries_pos q.heap))
  have zero : (0 : Int64).toInt=0 := rfl
  constructor
  · intro w
    refine ⟨?_,fun t ht => ?_,fun t ht => ?_⟩
    · rw [← total]
      exact Int64.le_iff_toInt_le.mp w.tokens.2
    · rw [← tenantRequests_exact s d]
      exact Int64.le_iff_toInt_le.mp (w.tenantRequests t ht).2
    · rw [← tenantTokens_exact s x]
      exact Int64.le_iff_toInt_le.mp (w.tenantTokens t ht).2
  · intro w
    refine ⟨d,⟨?_,?_⟩,fun t ht => ⟨?_,?_⟩,fun t ht => ⟨?_,?_⟩⟩ <;> rw [Int64.le_iff_toInt_le]
    · rw [total]
      exact pos
    · rw [total]
      exact w.tokens
    · rw [tenantRequests_exact s d]
      omega
    · rw [tenantRequests_exact s d]
      exact w.tenantRequests t ht
    · rw [tenantTokens_exact s x]
      exact intSum_nonneg (charges_nonneg (entries_pos _) t)
    · rw [tenantTokens_exact s x]
      exact w.tenantTokens t ht

variable {t : String}

theorem getTenantConfig_of_cfg {q q' : TokenQueue F} (h : q'.cfg=q.cfg) :
    q'.getTenantConfig t=q.getTenantConfig t := by
  rw [getTenantConfig,getTenantConfig,h]

variable {gone : List Ref} {k : Nat}

theorem shrunk_entries {q q' : TokenQueue F} (s : Sound q) (h : Shrunk q q' gone k) :
    q.heap.entries.Perm (gone.map (fun r => (q.heap.objects r).entry)++q'.heap.entries) :=
  RequestHeap.entries_perm _ h.slots (fun r hr => h.payload r (s.allocated r (h.of_rest hr)))

theorem shrunk_limits {q q' : TokenQueue F} (s : Sound q)
    (h : Shrunk q q' gone k) (x : Exact q) (w : IntLimits q) : Exact q' ∧ IntLimits q' := by
  have perm := shrunk_entries s h
  have pos : ∀e∈gone.map (fun r => (q.heap.objects r).entry),0 ≤ e.2.toInt := by
    intro e he
    exact entries_pos _ e (perm.mem_iff.mpr (List.mem_append_left _ he))
  generalize gone.map (fun r => (q.heap.objects r).entry)=left at perm pos
  have total : intSum (q.heap.entries.map Prod.snd)=
      intSum (left.map Prod.snd)+intSum (q'.heap.entries.map Prod.snd) := by
    rw [intSum_perm (perm.map _),List.map_append,intSum_append]
  have leftPos := intSum_nonneg (costs_nonneg pos)
  have part t : (charges q.heap.entries t).Perm (charges left t++charges q'.heap.entries t) := by
    rw [← charges_append]
    exact charges_perm perm
  have partPos t := intSum_nonneg (charges_nonneg pos t)
  refine ⟨?_,?_,fun t ht => ?_,fun t ht => ?_⟩
  · unfold Exact at x ⊢
    omega
  · have old := w.tokens
    rw [h.cfg]
    omega
  · rw [getTenantConfig_of_cfg h.cfg] at ht ⊢
    have old := w.tenantRequests t ht
    have len := (part t).length_eq
    rw [List.length_append] at len
    omega
  · rw [getTenantConfig_of_cfg h.cfg] at ht ⊢
    have old := w.tenantTokens t ht
    have sum := intSum_perm (part t)
    rw [intSum_append] at sum
    have lp := partPos t
    omega

section

variable {q q' : TokenQueue F} {req : QueuedRequest F} (s : Sound q) (h : Admitted q q' req)

include s h

theorem admitted_entries : q'.heap.entries.Perm (req.entry::q.heap.entries) := by
  have perm := RequestHeap.entries_perm [q.heap.allocated] h.slots
    (fun r hr => (h.payload r (s.allocated r hr)).symm)
  rw [List.map_singleton,h.entry] at perm
  exact perm

theorem admitted_books : Books q' (req.entry::q.heap.entries) :=
  h.sound.books.perm (admitted_entries s h)

theorem admitted_totalTokens : q'.totalTokens=q.totalTokens+req.effectiveCost := by
  rw [(admitted_books s h).tokens,s.books.tokens,Int64.add_comm]
  rfl

theorem admitted_tenant : (q'.tenant req.tenantID).queuedTokens=
        (q.tenant req.tenantID).queuedTokens+req.effectiveCost ∧
      (q'.tenant req.tenantID).queuedRequests=(q.tenant req.tenantID).queuedRequests+1 := by
  have own : charges (req.entry::q.heap.entries) req.tenantID=
      req.effectiveCost::charges q.heap.entries req.tenantID := by
    rw [charges_cons]
    exact if_pos rfl
  have books := admitted_books s h
  constructor
  · rw [books.tenantTokens,s.books.tenantTokens,own,List.sum_cons,Int64.add_comm]
  · rw [books.tenantRequests,s.books.tenantRequests,own,List.length_cons,ofNat_succ]

theorem admitted_tenantRequests (d : DepthBounded q)
    (room : q.heap.slots.length+1 ≤ q.cfg.maxQueueDepth.toInt) (w : IntLimits q)
    (check : 0<(q.getTenantConfig req.tenantID).maxQueuedRequests →
      (q.tenant req.tenantID).queuedRequests+1≤
        (q.getTenantConfig req.tenantID).maxQueuedRequests) (ht :
          0<(q.getTenantConfig t).maxQueuedRequests) :
    ((charges q'.heap.entries t).length : Int)≤(q.getTenantConfig t).maxQueuedRequests.toInt := by
  rw [(charges_perm (admitted_entries s h)).length_eq,charges_cons]
  split
  · next he =>
    obtain rfl : req.tenantID=t := he
    have count := tenantRequests_exact s d req.tenantID
    have few : (charges q.heap.entries req.tenantID).length ≤ q.heap.slots.length := by
      unfold charges
      have hl := List.length_filter_le (fun e => decide (e.1=req.tenantID)) q.heap.entries
      simpa [RequestHeap.entries,RequestHeap.requests] using hl
    have top := q.cfg.maxQueueDepth.toInt_lt
    have one : (1 : Int64).toInt=1 := rfl
    have checked := check ht
    rw [Int64.le_iff_toInt_le,toInt_add_of_lt (by omega) (by omega) (by omega)] at checked
    rw [List.length_cons]
    omega
  · exact w.tenantRequests t ht

theorem admitted_tenantTokens (x : Exact q) (w : IntLimits q)
    (fits : q.totalTokens.toInt+req.effectiveCost.toInt<2^63)
    (check : 0<(q.getTenantConfig req.tenantID).maxQueuedTokens →
      (q.tenant req.tenantID).queuedTokens+req.effectiveCost≤
        (q.getTenantConfig req.tenantID).maxQueuedTokens) (ht :
          0<(q.getTenantConfig t).maxQueuedTokens) :
    intSum (charges q'.heap.entries t)≤(q.getTenantConfig t).maxQueuedTokens.toInt := by
  rw [intSum_perm (charges_perm (admitted_entries s h)),charges_cons]
  split
  · next he =>
    obtain rfl : req.tenantID=t := he
    have cost := req.effectiveCost_pos
    have total := totalTokens_exact s x
    have own := tenantTokens_exact s x req.tenantID
    have le := intSum_charges_le (entries_pos q.heap) req.tenantID
    have ownPos := intSum_nonneg (charges_nonneg (entries_pos q.heap) req.tenantID)
    have checked := check ht
    rw [Int64.le_iff_toInt_le,toInt_add_of_lt (by omega) (by omega) (by omega)] at checked
    simp only [intSum,List.map_cons,List.sum_cons,QueuedRequest.entry] at own ⊢
    omega
  · exact w.tenantTokens t ht

theorem admitted_limits (d : DepthBounded q) (x : Exact q) (w : IntLimits q)
    (ok : (q.admission req now).1=.dispositionAdmit)
    (fits : q.totalTokens.toInt+req.effectiveCost.toInt<2^63) : Exact q' ∧ IntLimits q' := by
  obtain ⟨_,room,tokenCheck,requestCheck,tenantCheck,_⟩ := (admission_admit_iff).mp ok
  have cost := req.effectiveCost_pos
  have total := totalTokens_exact s x
  have totalPos : 0 ≤ q.totalTokens.toInt := by
    rw [total]
    exact intSum_nonneg (costs_nonneg (entries_pos _))
  have sum : intSum (q'.heap.entries.map Prod.snd)=
      req.effectiveCost.toInt+intSum (q.heap.entries.map Prod.snd) := by
    rw [intSum_perm ((admitted_entries s h).map _)]
    simp [intSum,QueuedRequest.entry]
  refine ⟨?_,?_,fun t ht => ?_,fun t ht => ?_⟩
  · unfold Exact
    omega
  · rw [h.cfg]
    rw [Int64.le_iff_toInt_le,toInt_add_of_lt totalPos (by omega) fits] at tokenCheck
    omega
  · rw [getTenantConfig_of_cfg h.cfg] at ht ⊢
    exact admitted_tenantRequests s h d room w requestCheck ht
  · rw [getTenantConfig_of_cfg h.cfg] at ht ⊢
    exact admitted_tenantTokens s h x w fits tenantCheck ht

end

structure Exactly (q : TokenQueue F) : Prop where
  sound : Sound q
  depth : DepthBounded q
  exactSum : Exact q

theorem newTokenQueue_exactly (cfg : TokenQueueConfig F) : Exactly (newTokenQueue cfg) :=
  ⟨newTokenQueue_sound,newTokenQueue_depth,by
    simp [Exact,newTokenQueue,RequestHeap.entries,RequestHeap.requests,intSum]⟩

theorem newTokenQueue_limits {cfg : TokenQueueConfig F} : WithinLimits (newTokenQueue cfg) := by
  have e := newTokenQueue_exactly cfg
  rw [withinLimits_iff e.sound e.depth e.exactSum]
  have empty : (newTokenQueue cfg).heap.entries=[] := rfl
  refine ⟨?_,fun t ht => ?_,fun t ht => ?_⟩
  · rw [empty]
    simp only [newTokenQueue]
    split_ifs with h
    · decide
    · rw [Int64.not_le,Int64.lt_iff_toInt_lt] at h
      exact le_of_lt h
  · rw [Int64.lt_iff_toInt_lt] at ht
    exact le_of_lt ht
  · rw [Int64.lt_iff_toInt_lt] at ht
    exact le_of_lt ht

variable {op : QueueOp F}

theorem step_limits {q : TokenQueue F} (e : Exactly q) (w : WithinLimits q)
    (fits : SumFits q op) : Exactly (q.step op).1 ∧ WithinLimits (q.step op).1 := by
  have ints := (withinLimits_iff e.sound e.depth e.exactSum).mp w
  have sound := step_sound op e.sound
  have depth := step_depth op e.sound e.depth
  have both : Exact (q.step op).1 ∧ IntLimits (q.step op).1 := by
    rcases step_cases op e.sound with ⟨req,now,rfl,ha,grown⟩ | ⟨_,k,shr,_⟩
    · exact admitted_limits e.sound grown e.depth e.exactSum ints ha
        (fits req now rfl ((admission_iff_other).mp ha).1)
    · exact shrunk_limits e.sound shr e.exactSum ints
  exact ⟨⟨sound,depth,both.1⟩,(withinLimits_iff sound depth both.1).mpr both.2⟩

theorem step_overflow {q : TokenQueue F} (s : Sound q) (w : WithinLimits q)
    (w' : WithinLimits (q.step op).1) : SumFits q op := by
  intro req now ho pass
  subst ho
  by_contra _
  have wraps := toInt_add_wraps q.totalTokens req.effectiveCost (by omega)
  have limit : 0 ≤ q.cfg.maxQueueTokens.toInt := by
    have h := Int64.le_iff_toInt_le.mp (Int64.le_trans w.tokens.1 w.tokens.2)
    exact h
  have ok : (q.admission req now).1=.dispositionAdmit := by
    rw [admission_iff_other]
    refine ⟨pass,?_⟩
    rw [Int64.le_iff_toInt_le]
    omega
  have grown := step_admits s ok
  have low := Int64.le_iff_toInt_le.mp w'.tokens.1
  rw [admitted_totalTokens s grown] at low
  have zero : (0 : Int64).toInt=0 := rfl
  omega

def loudRequest (id : String) (tokens : Int64) : QueuedRequest F :=
  {blankRequest with id := id,tenantID := "a",priority := 100,predictedTokens := tokens}

variable {id : String} {tokens : Int64}

theorem loudRequest_cost (h : 0 < tokens) :
    (loudRequest id tokens : QueuedRequest F).effectiveCost=tokens := if_pos h

theorem loud_admission {q : TokenQueue F} (h : 0 < tokens)
    (cfg : q.cfg=(newTokenQueue defaultTokenQueueConfig).cfg) (room : q.heap.slots.length<1000)
    (total : q.totalTokens+tokens≤1000000) (requests : (q.tenant "a").queuedRequests+1≤200)
    (own : (q.tenant "a").queuedTokens+tokens≤200000) :
    (q.admission (loudRequest id tokens) 0).1=.dispositionAdmit := by
  have config : q.getTenantConfig "a"=(newTokenQueue defaultTokenQueueConfig).getTenantConfig "a" :=
    getTenantConfig_of_cfg cfg
  rw [admission_admit_iff,loudRequest_cost h,cfg]
  refine ⟨rfl,?_,total,fun _ => ?_,fun _ => ?_,fun _ => Or.inl ?_⟩
  · change (q.heap.slots.length : Int)+1≤1000
    omega
  · change (q.tenant "a").queuedRequests+1≤(q.getTenantConfig "a").maxQueuedRequests
    rw [config]
    exact requests
  · change (q.tenant "a").queuedTokens+tokens≤(q.getTenantConfig "a").maxQueuedTokens
    rw [config]
    exact own
  · show 80≤100
    decide

theorem loud_pair (id id' : String) (a b : Int64) (ha : 0 < a) (hb : 0 < b) (one : a≤200000)
    (two : a+b≤200000) :
    let q : TokenQueue F := newTokenQueue defaultTokenQueueConfig
    let q1 := (q.step (.enqueue (loudRequest id a) 0)).1
    Admitted q q1 (loudRequest id a) ∧
      Admitted q1 (q1.step (.enqueue (loudRequest id' b) 0)).1 (loudRequest id' b) := by
  intro q q1
  have s : Sound q := newTokenQueue_sound
  have limit {c : Int64} (h : c≤200000) : c≤1000000 := Int64.le_trans h (by decide)
  have first : Admitted q q1 (loudRequest id a) := by
    apply step_admits s
    apply loud_admission ha rfl
    · show 0<1000
      decide
    · exact limit (by rwa [show q.totalTokens=0 from rfl,Int64.zero_add])
    · show 0+1≤200
      decide
    · rwa [show (q.tenant "a").queuedTokens=0 from rfl,Int64.zero_add]
  refine ⟨first,step_admits first.sound ?_⟩
  have total : q1.totalTokens=a := by
    rw [admitted_totalTokens s first,loudRequest_cost ha]
    exact Int64.zero_add a
  obtain ⟨tokens,requests⟩ := admitted_tenant s first
  have tokens : (q1.tenant "a").queuedTokens=a := by
    rw [loudRequest_cost ha] at tokens
    exact tokens.trans (Int64.zero_add a)
  have requests : (q1.tenant "a").queuedRequests=1 := requests
  apply loud_admission hb first.cfg
  · rw [first.slots.length_eq]
    show 1<1000
    decide
  · rw [total]
    exact limit two
  · rw [requests]
    decide
  · rw [tokens]
    exact two

end TokenQueue

open TokenQueue

theorem tokenQueue_limits_iff (cfg : TokenQueueConfig F) (ops : List (QueueOp F)) :
    Always step (newTokenQueue cfg) ops (fun _ q => WithinLimits q) ↔
      EachCall step (newTokenQueue cfg) ops (fun _ q op => SumFits q op) := by
  apply always_iff_eachCall step (fun _ q => Exactly q)
  · exact newTokenQueue_exactly cfg
  · exact newTokenQueue_limits
  · exact fun _ q op e w fits => step_limits e w fits
  · exact fun _ q op e w w' => step_overflow e.sound w w'

def overflowing : List (QueueOp Float) :=
  [.enqueue (loudRequest "x" 1) 0,.enqueue (loudRequest "y" 9223372036854775807) 0]

theorem tokenQueue_limits_overflow :
    (run step (newTokenQueue defaultTokenQueueConfig) overflowing).totalTokens=Int64.minValue ∧
      ¬Always step (newTokenQueue defaultTokenQueueConfig) overflowing
        (fun _ q => WithinLimits q) := by
  obtain ⟨one,two⟩ := loud_pair (F := Float) "x" "y" 1 9223372036854775807
    (by decide) (by decide) (by decide) (by decide)
  have negative : (run step (newTokenQueue defaultTokenQueueConfig) overflowing).totalTokens=
      Int64.minValue := by
    have total := admitted_totalTokens one.sound two
    exact total
  refine ⟨negative,fun always => ?_⟩
  have bad := (always overflowing (List.prefix_refl _)).tokens.1
  rw [negative] at bad
  exact absurd bad (by decide)

end KServeLLM.Scheduler
