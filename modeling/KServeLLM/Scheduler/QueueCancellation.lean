import KServeLLM.Scheduler.QueueCapacity

namespace KServeLLM.Scheduler

variable {F : Type} [Float64 F]

namespace TokenQueue

def Holds (q : TokenQueue F) (id : String) : Prop := ∃r∈q.heap.slots,(q.heap.objects r).id=id

def RemoveExact (q : TokenQueue F) (id : String) : Prop :=
  ∃q' ok,q.remove id=some (q',ok) ∧ (ok=true ↔ q.Holds id) ∧ ¬q'.Holds id

def Described (q : TokenQueue F) : Prop :=
  ∀id r,q.lookup.lookup id=some r ↔ r∈q.heap.slots ∧ (q.heap.objects r).id=id

def FreshID (q : TokenQueue F) (op : QueueOp F) : Prop :=
  ∀req now,op=.enqueue req now → (q.admission req now).1=.dispositionAdmit → ¬q.Holds req.id

variable {q : TokenQueue F}

theorem described_iff (s : Sound q) : q.Described ↔ Complete q := by
  constructor
  · intro h r hr
    exact (h _ r).mpr ⟨hr,rfl⟩
  · intro c id r
    constructor
    · exact s.found id r
    · rintro ⟨hr,rfl⟩
      exact c r hr

theorem Shrunk.holds_iff {q q' : TokenQueue F} {gone : List Ref} {k : Nat} (s : Sound q)
    (h : Shrunk q q' gone k) (id : String) :
    q'.Holds id ↔ ∃r∈q'.heap.slots,(q.heap.objects r).id=id := by
  apply exists_congr
  intro r
  apply and_congr_right
  intro hr
  rw [id_of_payload (h.payload r (s.allocated r (h.of_rest hr)))]

theorem removeExact_of_complete (s : Sound q) (c : Complete q) (id : String) :
    q.RemoveExact id := by
  cases hl : q.lookup.lookup id with
  | none =>
    have absent : ¬q.Holds id := by
      rintro ⟨r,hr,rfl⟩
      rw [c r hr] at hl
      cases hl
    exact ⟨q,false,(remove_spec s).1 hl,by simp [absent],absent⟩
  | some r =>
    obtain ⟨q',hq,shr⟩ := (remove_spec s).2 r hl
    refine ⟨q',true,hq,by simp [show q.Holds id from ⟨r,s.found id r hl⟩],?_⟩
    rw [shr.holds_iff s]
    rintro ⟨x,hx,rfl⟩
    have same : x=r := by
      rw [c x (shr.of_rest hx)] at hl
      exact Option.some.inj hl
    subst x
    have nodup := shr.slots.nodup_iff.mp s.indexed.nodup
    exact (List.nodup_cons.mp nodup).1 hx

theorem complete_of_removeExact (s : Sound q) (h : ∀id,q.RemoveExact id) : Complete q := by
  intro r hr
  obtain ⟨_,_,hq,found,gone⟩ := h _
  cases hl : q.lookup.lookup _ with
  | none =>
    rw [(remove_spec s).1 hl] at hq
    cases hq
    exact absurd (found.mpr ⟨r,hr,rfl⟩) (by simp)
  | some x =>
    obtain ⟨_,hq',shr⟩ := (remove_spec s).2 x hl
    rw [hq'] at hq
    cases hq
    rcases List.mem_cons.mp (shr.slots.mem_iff.mp hr) with rfl|stays
    · rfl
    · exact absurd ((shr.holds_iff s _).mpr ⟨r,stays,rfl⟩) gone

theorem removeExact_iff (s : Sound q) : (∀id,q.RemoveExact id) ↔ Complete q :=
  ⟨complete_of_removeExact s,removeExact_of_complete s⟩

theorem step_complete {op : QueueOp F} (s : Sound q) (c : Complete q) (fresh : q.FreshID op) :
    Complete (q.step op).1 := by
  rcases step_cases op s with ⟨req,now,ho,ha,grown⟩ | ⟨_,_,shr,_⟩
  · exact grown.complete c fun r hr he => fresh req now ho ha ⟨r,hr,he⟩
  · exact shr.complete c

theorem step_freshID {op : QueueOp F} (s : Sound q) (c : Complete (q.step op).1) :
    q.FreshID op := by
  rintro _ _ rfl ha ⟨r,hr,he⟩
  have grown := step_admits s ha
  have old := s.allocated r hr
  have same := c.idsDistinct r (grown.slots.mem_iff.mpr (List.mem_cons_of_mem _ hr))
    q.heap.allocated (grown.slots.mem_iff.mpr (by simp))
    (by rw [grown.id,id_of_payload (grown.payload r old),he])
  exact Nat.ne_of_lt old same

theorem run_sound {cfg : TokenQueueConfig F} {ops : List (QueueOp F)} :
    Sound (run step (newTokenQueue cfg) ops) :=
  run_induction _ (fun _ q => Sound q) _ (newTokenQueue_sound) (fun _ _ => step_sound) ops

theorem complete_always_iff (cfg : TokenQueueConfig F) (ops : List (QueueOp F)) :
    Always step (newTokenQueue cfg) ops (fun _ q => Complete q) ↔
      EachCall step (newTokenQueue cfg) ops (fun _ q op => q.FreshID op) := by
  apply always_iff_eachCall _ (fun _ q => Sound q)
  · exact newTokenQueue_sound
  · exact newTokenQueue_complete
  · exact fun _ q op s c fresh => ⟨step_sound op s,step_complete s c fresh⟩
  · exact fun _ q op s _ c => step_freshID s c

end TokenQueue

open TokenQueue

theorem tokenQueue_remove_iff (cfg : TokenQueueConfig F) (ops : List (QueueOp F)) :
    (Always step (newTokenQueue cfg) ops (fun _ q => ∀id,q.RemoveExact id) ↔
      EachCall step (newTokenQueue cfg) ops (fun _ q op => q.FreshID op)) ∧
    (Always step (newTokenQueue cfg) ops (fun _ q => q.Described) ↔
      EachCall step (newTokenQueue cfg) ops (fun _ q op => q.FreshID op)) := by
  rw [← complete_always_iff]
  constructor
  · exact forall₂_congr (fun pre _ => removeExact_iff (run_sound))
  · exact forall₂_congr (fun pre _ => described_iff (run_sound))

def twins : List (QueueOp Float) :=
  [.enqueue (loudRequest "dup" 1) 0,.enqueue (loudRequest "dup" 1) 0]

theorem tokenQueue_remove_twins :
    (∃q',(run step (newTokenQueue defaultTokenQueueConfig) twins).remove "dup"=some (q',true) ∧
      q'.Holds "dup") ∧
    ¬Always step (newTokenQueue defaultTokenQueueConfig) twins
      (fun _ q => ∀id,q.RemoveExact id) := by
  obtain ⟨one,two⟩ := loud_pair (F := Float) "dup" "dup" 1 1
    (by decide) (by decide) (by decide) (by decide)
  obtain ⟨q',hq,shr⟩ := (remove_spec two.sound).2 _ two.index
  have queued := one.slots.mem_iff.mpr (List.mem_cons_self)
  have older := one.sound.allocated _ queued
  have left : q'.Holds "dup" := by
    rw [shr.holds_iff two.sound]
    refine ⟨(newTokenQueue (F := Float) defaultTokenQueueConfig).heap.allocated,?_,?_⟩
    · have both := shr.slots.mem_iff.mp (two.slots.mem_iff.mpr (List.mem_cons_of_mem _ queued))
      exact (List.mem_cons.mp both).resolve_left (Nat.ne_of_lt older)
    · rw [id_of_payload (two.payload _ older)]
      exact one.id
  refine ⟨⟨q',hq,left⟩,fun always => ?_⟩
  obtain ⟨q'',ok,hq',_,gone⟩ := always twins (List.prefix_refl _) "dup"
  have same : some (q',true)=some (q'',ok) := hq.symm.trans hq'
  cases same
  exact gone left

end KServeLLM.Scheduler
