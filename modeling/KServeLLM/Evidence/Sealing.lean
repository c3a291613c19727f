import KServeLLM.Evidence.FlightRecorder
import KServeLLM.Framework.FifoWindow

namespace KServeLLM.Channels

variable {F : Type} (lib : Library F)

namespace Call

def cid : Call F → String
  | .telemetry r => r.context.correlationID
  | .execution r => r.context.correlationID
  | .decision r => r.context.correlationID
  | .evidence r => r.context.correlationID
  | .sealFlight cid _ => cid
  | .verify cid => cid
  | .correlate cid => cid

def records : Call F → Bool
  | .telemetry _ | .execution _ | .decision _ | .evidence _ => true
  | _ => false

def refusal : Call F → Option Error
  | .telemetry r => FlightRecorder.checkTelemetry r
  | .execution r => FlightRecorder.checkExecution r
  | .decision r => FlightRecorder.checkDecision r
  | .evidence r => FlightRecorder.checkEvidence r
  | _ => none

def mention (call : Call F) : Option String :=
  if call.records && call.refusal.isNone then some call.cid else none

end Call

def mentions (calls : List (Call F)) : List String := calls.filterMap Call.mention

variable {err : Error}

theorem firstRefusal_root {checks : List (String×Option Error)} {P : Sentinel → Prop}
    (each : ∀check∈checks,∀err,check.2=some err → P err.root)
    (h : firstRefusal checks=some err) : P err.root := by
  induction checks with
  | nil => cases h
  | cons check checks ih =>
    obtain ⟨_,refusal⟩ := check
    obtain ⟨first,rest⟩ := List.forall_mem_cons.mp each
    cases refusal with
    | none => exact ih rest h
    | some cause =>
      obtain rfl := Option.some.inj h
      exact first cause rfl

theorem validateContext_root {c : CorrelationContext}
    (h : validateContext c=some err) : err.root≠.recorderSealed := by
  unfold validateContext at h
  split_ifs at h <;> obtain rfl := Option.some.inj h <;> nofun

theorem validateSHA256_root {v : GoString} (h : validateSHA256 v=some err) :
    err.root≠.recorderSealed := by
  unfold validateSHA256 at h
  dsimp only at h
  split_ifs at h <;> obtain rfl := Option.some.inj h <;> nofun

variable {call : Call F}

theorem refusal_root (h : call.refusal=some err) : err.root≠.recorderSealed := by
  cases call with
  | telemetry r =>
    refine firstRefusal_root (P := (·≠.recorderSealed)) ?_ h
    simp only [List.forall_mem_singleton]
    exact fun err bad => validateContext_root bad
  | execution r =>
    refine firstRefusal_root (P := (·≠.recorderSealed)) ?_ h
    simp only [List.forall_mem_singleton]
    exact fun err bad => validateContext_root bad
  | decision r =>
    refine firstRefusal_root (P := (·≠.recorderSealed)) ?_ h
    simp only [List.forall_mem_cons]
    exact ⟨fun err bad => validateContext_root bad,fun err bad => validateSHA256_root bad,
      fun x mem => absurd mem List.not_mem_nil⟩
  | evidence r =>
    refine firstRefusal_root (P := (·≠.recorderSealed)) ?_ h
    simp only [List.forall_mem_cons]
    refine ⟨fun err bad => validateContext_root bad,fun err bad => validateSHA256_root bad,
      fun err bad => validateSHA256_root bad,fun err bad => ?_,
      fun x mem => absurd mem List.not_mem_nil⟩
    split_ifs at bad
    exact validateSHA256_root bad
  | _ => cases h

variable {cid : String}

namespace FlightRecorder

structure SameIndex (fr fr' : FlightRecorder F) : Prop where
  capacity : fr'.capacity=fr.capacity
  order : fr'.order=fr.order
  seen : fr'.seen=fr.seen
  sealed : fr'.sealed=fr.sealed

inductive Effect (fr : FlightRecorder F) (call : Call F) : FlightRecorder F → Answer F → Prop
  | refused (err : Error) (record : call.records) (bad : call.refusal=some err) :
      Effect fr call fr (.recorded (some err))
  | blocked (s : SealedFlightRecord) (record : call.records) (good : call.refusal=none)
      (known : fr.sealed.lookup call.cid=some s) :
      Effect fr call fr (.recorded (some
        (.errorf "%w: %s" (.sentinel .recorderSealed) [.str call.cid])))
  | filed (fr' : FlightRecorder F) (record : call.records) (good : call.refusal=none)
      (unsealed : fr.sealed.lookup call.cid=none)
      (index : SameIndex (fr.touchCorrelationLocked call.cid) fr') :
      Effect fr call fr' (.recorded none)
  | again (cid : String) (now : Time) (s : SealedFlightRecord) (own : call=.sealFlight cid now)
      (known : fr.sealed.lookup cid=some s) : Effect fr call fr (.sealed (.ok s))
  | closed (cid : String) (now : Time) (s : SealedFlightRecord) (own : call=.sealFlight cid now)
      (unsealed : fr.sealed.lookup cid=none) (seen : cid∈fr.seen) :
      Effect fr call {fr with sealed := fr.sealed.insert cid s} (.sealed (.ok s))
  | failed (cid : String) (now : Time) (err : Error) (own : call=.sealFlight cid now) :
      Effect fr call fr (.sealed (.error err))
  | verified (cid : String) (state : InvariantState) (violations : List Errorf)
      (err : Option Error) (own : call=.verify cid) :
      Effect fr call fr (.verdict state violations err)
  | correlated (cid : String) (result : Except Error (CorrelatedFlightTraces F))
      (own : call=.correlate cid) : Effect fr call fr (.traces result)

variable (fr : FlightRecorder F)

theorem record_effect {call : Call F} {append : FlightRecorder F → FlightRecorder F}
    (record : call.records) (channel : ∀fr,SameIndex fr (append fr))
    {outcome : FlightRecorder F×Option Error} (own : outcome=match call.refusal with
      | some err => (fr,some err)
      | none => fr.file call.cid append) :
    Effect fr call outcome.1 (.recorded outcome.2) := by
  cases form : call.refusal with
  | some err =>
    rw [own,form]
    exact .refused err record form
  | none =>
    rw [own,form]
    unfold file
    cases known : fr.sealed.lookup call.cid with
    | some s => exact .blocked s record form known
    | none => exact .filed _ record form known (channel _)

theorem sealFlight_effect {cid : String} {now : Time} :
    Effect fr (.sealFlight cid now) (fr.sealFlight lib cid now).1
      (.sealed (fr.sealFlight lib cid now).2) := by
  unfold sealFlight
  cases known : fr.sealed.lookup cid with
  | some s => exact .again cid now s rfl known
  | none =>
    by_cases seen : cid∈fr.seen
    · simp only [seen]
      cases fr.computeRootDigestLocked lib cid with
      | error err => exact .failed cid now _ rfl
      | ok root => exact .closed cid now _ rfl known seen
    · simp only [seen]
      exact .failed cid now _ rfl

theorem step_effect (call : Call F) : Effect fr call (fr.step lib call).1 (fr.step lib call).2 := by
  cases call with
  | telemetry r =>
    exact record_effect fr rfl (by exact fun _ => ⟨rfl,rfl,rfl,rfl⟩) rfl
  | execution r =>
    exact record_effect fr rfl (by exact fun _ => ⟨rfl,rfl,rfl,rfl⟩) rfl
  | decision r =>
    exact record_effect fr rfl (by exact fun _ => ⟨rfl,rfl,rfl,rfl⟩) rfl
  | evidence r =>
    exact record_effect fr rfl (by exact fun _ => ⟨rfl,rfl,rfl,rfl⟩) rfl
  | sealFlight cid now => exact sealFlight_effect lib fr
  | verify cid => exact .verified cid _ _ _ rfl
  | correlate cid => exact .correlated cid _ rfl

structure Indexed (n : Nat) (fr : FlightRecorder F) : Prop where
  capacity : fr.capacity=n
  positive : 0 < n
  nodup : fr.order.Nodup
  seen : ∀c,c∈fr.seen ↔ c∈fr.order
  sealed : ∀c∈fr.sealed,c∈fr.order

variable {fr} {n : Nat}

theorem Indexed.of_same {fr' : FlightRecorder F} (h : Indexed n fr) (same : SameIndex fr fr') :
    Indexed n fr' where
  capacity := same.capacity.trans h.capacity
  positive := h.positive
  nodup := same.order ▸ h.nodup
  seen := by rw [same.seen,same.order]; exact h.seen
  sealed := by rw [same.sealed,same.order]; exact h.sealed

theorem evictOldest_order (fr : FlightRecorder F) : fr.evictOldest.order=fr.order.tail := by
  unfold evictOldest
  split
  · next empty => rw [empty]; rfl
  · next evicted order split => rw [split]; rfl

theorem Indexed.evictOldest (h : Indexed n fr) : Indexed n fr.evictOldest := by
  unfold FlightRecorder.evictOldest
  split
  · exact h
  · next evicted order split =>
    obtain ⟨fresh,nodup⟩ := List.nodup_cons.mp (split ▸ h.nodup)
    have rest {c : String} (mem : c∈fr.order) (other : c≠evicted) : c∈order := by
      rw [split] at mem
      exact (List.mem_cons.mp mem).resolve_left other
    refine ⟨h.capacity,h.positive,nodup,fun c => ?_,fun c mem => ?_⟩
    · rw [AList.mem_erase,h.seen,split]
      constructor
      · rintro ⟨other,mem⟩
        exact (List.mem_cons.mp mem).resolve_left other
      · intro mem
        exact ⟨fun same => fresh (same ▸ mem),List.mem_cons_of_mem _ mem⟩
    · obtain ⟨other,known⟩ := AList.mem_erase.mp mem
      exact rest (h.sealed c known) other

theorem evictOldest_lookup (h : Indexed n fr) {c : String} (mem : c∈fr.evictOldest.order) :
    fr.evictOldest.sealed.lookup c=fr.sealed.lookup c := by
  rw [evictOldest_order] at mem
  unfold FlightRecorder.evictOldest
  split
  · rfl
  · next evicted order split =>
    rw [split] at mem
    have fresh := (List.nodup_cons.mp (split ▸ h.nodup)).1
    exact AList.lookup_erase_ne (fun same => fresh (same ▸ mem))

def arrive (fr : FlightRecorder F) (cid : String) : FlightRecorder F :=
  {fr with order := fr.order++[cid],seen := fr.seen.insert cid ()}

theorem touch_cases (h : Indexed n fr) {cid : String} :
    (cid∈fr.order ∧ fr.touchCorrelationLocked cid=fr) ∨
    (cid∉fr.order ∧ n ≤ fr.order.length ∧ fr.touchCorrelationLocked cid=fr.evictOldest.arrive cid) ∨
    (cid∉fr.order ∧ ¬n ≤ fr.order.length ∧ fr.touchCorrelationLocked cid=fr.arrive cid) := by
  have full : fr.capacity ≤ fr.order.length ↔ n ≤ fr.order.length := by
    rw [h.capacity]
    omega
  unfold touchCorrelationLocked
  by_cases known : cid∈fr.order
  · exact .inl ⟨known,if_pos ((h.seen cid).mpr known)⟩
  · rw [if_neg (fun mem => known ((h.seen cid).mp mem))]
    by_cases room : n ≤ fr.order.length
    · rw [if_pos (full.mpr room)]
      exact .inr (.inl ⟨known,room,rfl⟩)
    · rw [if_neg (fun le => room (full.mp le))]
      exact .inr (.inr ⟨known,room,rfl⟩)

theorem touch_order (h : Indexed n fr) (cid : String) :
    (fr.touchCorrelationLocked cid).order=pushWindow n fr.order cid := by
  unfold pushWindow
  rcases touch_cases h with ⟨known,same⟩ | ⟨new,full,same⟩ | ⟨new,room,same⟩
  · rw [same,if_pos known]
  · rw [same,if_neg new,if_pos full,← evictOldest_order]
    rfl
  · rw [same,if_neg new,if_neg room]
    rfl

theorem Indexed.arrive (h : Indexed n fr) (new : cid∉fr.order) : Indexed n (fr.arrive cid) := by
  refine ⟨h.capacity,h.positive,?_,fun c => ?_,fun c mem => ?_⟩
  · exact h.nodup.append (List.nodup_singleton cid) (List.disjoint_singleton.mpr new)
  · rw [FlightRecorder.arrive,AList.mem_insert,h.seen,List.mem_append,List.mem_singleton,or_comm]
  · exact List.mem_append_left _ (h.sealed c mem)

theorem Indexed.touch (h : Indexed n fr) (cid : String) :
    Indexed n (fr.touchCorrelationLocked cid) := by
  rcases touch_cases h with ⟨_,same⟩ | ⟨new,_,same⟩ | ⟨new,_,same⟩
  · rw [same]
    exact h
  · rw [same]
    apply h.evictOldest.arrive
    rw [evictOldest_order]
    exact fun mem => new (List.mem_of_mem_tail mem)
  · rw [same]
    exact h.arrive new

theorem touch_lookup (h : Indexed n fr) {cid c : String} (kept : c∈fr.order)
    (stays : c∈(fr.touchCorrelationLocked cid).order) :
    (fr.touchCorrelationLocked cid).sealed.lookup c=fr.sealed.lookup c := by
  rcases touch_cases h with ⟨_,same⟩ | ⟨new,_,same⟩ | ⟨_,_,same⟩
  · rw [same]
  · rw [same] at stays ⊢
    rcases List.mem_append.mp stays with old | last
    · exact evictOldest_lookup h old
    · exact absurd (List.mem_singleton.mp last ▸ kept) new
  · rw [same]
    rfl

end FlightRecorder

abbrev Observed (F : Type) := Step (FlightRecorder F) (Call F) (Answer F)

def sealOf (st : Observed F) : Option (String×SealedFlightRecord) :=
  match st.call,st.answer with
  | .sealFlight cid _,.sealed (.ok s) => some (cid,s)
  | _,_ => none

def Permanent (first later : Observed F) : Prop := ∀cid s,sealOf first=some (cid,s) →
    (later.call.records → later.call.cid=cid →
      ∃err,later.answer=.recorded (some err) ∧ err.root=.recorderSealed) ∧
    ∀s',sealOf later=some (cid,s') → s'.rootDigest=s.rootDigest ∧ s'.recordCount=s.recordCount

def StillKept (n : Nat) (tr : List (Observed F)) (call : Call F) : Prop :=
  call.records → call.cid∈tr.filterMap (fun st => (sealOf st).map Prod.fst) →
    call.refusal=none ∧ call.cid∈window n (mentions (tr.map (·.call)))

open FlightRecorder

structure Tracked (n : Nat) (tr : List (Observed F)) (fr : FlightRecorder F) : Prop where
  index : Indexed n fr
  order : fr.order=window n (mentions (tr.map (·.call)))
  seals : ∀st∈tr,∀cid s,sealOf st=some (cid,s) → cid∈fr.order → fr.sealed.lookup cid=some s

theorem mentions_snoc (calls : List (Call F)) (call : Call F) :
    mentions (calls++[call])=mentions calls++call.mention.toList := by
  cases h : call.mention <;> simp [mentions,h]

theorem mention_of_record (record : call.records) (good : call.refusal=none) :
    call.mention=some call.cid := by
  simp [Call.mention,record,good]

theorem sealOf_record {st : Observed F} (record : st.call.records) : sealOf st=none := by
  unfold sealOf
  split
  · next own _ => simp [own,Call.records] at record
  · rfl

theorem permanent_of_unsealing {first later : Observed F} (unsealing : sealOf later=none)
    (refused : ∀cid s,sealOf first=some (cid,s) → later.call.records → later.call.cid=cid →
      ∃err,later.answer=.recorded (some err) ∧ err.root=.recorderSealed) :
    Permanent first later := by
  intro cid s found
  refine ⟨refused cid s found,fun s' again => ?_⟩
  rw [unsealing] at again
  cases again

theorem window_of_mem {n : Nat} {xs : List String} {x : String} (mem : x∈window n xs) :
    window n (xs++[x])=window n xs := by
  rw [window_snoc,pushWindow,if_pos mem]

variable {answer : Answer F}

namespace Tracked

variable {n : Nat} {tr : List (Observed F)} {fr : FlightRecorder F}

theorem unchanged (h : Tracked n tr fr)
    (silent : call.mention=none) (unsealed : sealOf ⟨fr,call,answer,fr⟩=none) :
    Tracked n (tr++[⟨fr,call,answer,fr⟩]) fr where
  index := h.index
  order := by
    rw [List.map_append,List.map_singleton,mentions_snoc,silent]
    simpa using h.order
  seals := forall_mem_snoc h.seals (fun cid s found => by rw [unsealed] at found; cases found)

theorem lookup_of_sealed (h : Tracked n tr fr)
    (known : cid∈tr.filterMap (fun st => (sealOf st).map Prod.fst)) (mem : cid∈fr.order) :
    ∃s,fr.sealed.lookup cid=some s := by
  obtain ⟨st,among,found⟩ := List.mem_filterMap.mp known
  obtain ⟨⟨c,s⟩,here,rfl⟩ := Option.map_eq_some_iff.mp found
  exact ⟨s,h.seals st among c s here mem⟩

theorem sealed_mem {st : Observed F} {s : SealedFlightRecord} (among : st∈tr)
    (found : sealOf st=some (cid,s)) :
    cid∈tr.filterMap (fun st => (sealOf st).map Prod.fst) :=
  List.mem_filterMap.mpr ⟨st,among,by rw [found]; rfl⟩

theorem filed (h : Tracked n tr fr) (record : call.records) (good : call.refusal=none)
    (open' : call.cid∉tr.filterMap (fun st => (sealOf st).map Prod.fst)) {fr' : FlightRecorder F}
    (index : SameIndex (fr.touchCorrelationLocked call.cid) fr') :
    Tracked n (tr++[⟨fr,call,.recorded none,fr'⟩]) fr' where
  index := (h.index.touch call.cid).of_same index
  order := by
    rw [List.map_append,List.map_singleton,mentions_snoc,mention_of_record record good,
      Option.toList_some,window_snoc,index.order,touch_order h.index,h.order]
  seals := by
    refine forall_mem_snoc (fun st among cid s found mem => ?_) (fun cid s found => ?_)
    · rw [index.order] at mem
      have other : cid≠call.cid := fun same => open' (same ▸ sealed_mem among found)
      have old : cid∈fr.order := by
        rw [touch_order h.index] at mem
        exact (mem_of_mem_push mem).resolve_right other
      rw [index.sealed,touch_lookup h.index old mem]
      exact h.seals st among cid s found old
    · rw [sealOf_record record] at found
      cases found

end Tracked

theorem tracked_effect {n : Nat} {tr : List (Observed F)} {fr fr' : FlightRecorder F}
    (h : Tracked n tr fr) (kept : StillKept n tr call)
    (effect : Effect fr call fr' answer) :
    Tracked n (tr++[⟨fr,call,answer,fr'⟩]) fr' ∧ ∀st∈tr,Permanent st ⟨fr,call,answer,fr'⟩ := by
  cases effect with
  | refused err record bad =>
    refine ⟨h.unchanged (by simp [Call.mention,bad]) (sealOf_record record),fun st among => ?_⟩
    refine permanent_of_unsealing (sealOf_record record) (fun cid s found _ own => ?_)
    have form := (kept record (own ▸ Tracked.sealed_mem among found)).1
    rw [bad] at form
    cases form
  | blocked s record good known =>
    have mem : call.cid∈fr.order := h.index.sealed _ (AList.lookup_isSome.mp (by rw [known]; rfl))
    refine ⟨⟨h.index,?_,?_⟩,fun st among => ?_⟩
    · rw [List.map_append,List.map_singleton,mentions_snoc,mention_of_record record good,
        Option.toList_some,window_of_mem (h.order ▸ mem),h.order]
    · exact forall_mem_snoc h.seals
        (fun cid s found => by rw [sealOf_record record] at found; cases found)
    · exact permanent_of_unsealing (sealOf_record record) (fun _ _ _ _ _ => ⟨_,rfl,rfl⟩)
  | filed fr' record good unsealed index =>
    have open' : call.cid∉tr.filterMap (fun st => (sealOf st).map Prod.fst) := by
      intro known
      have mem := (kept record known).2
      rw [← h.order] at mem
      obtain ⟨s,found⟩ := h.lookup_of_sealed known mem
      rw [unsealed] at found
      cases found
    refine ⟨h.filed record good open' index,fun st among => ?_⟩
    exact permanent_of_unsealing (sealOf_record record)
      (fun cid s found _ own => absurd (own ▸ Tracked.sealed_mem among found) open')
  | again cid now s own known =>
    subst own
    have mem : cid∈fr.order := h.index.sealed _ (AList.lookup_isSome.mp (by rw [known]; rfl))
    refine ⟨⟨h.index,?_,forall_mem_snoc h.seals ?_⟩,fun st among => ?_⟩
    · rw [List.map_append,List.map_singleton,mentions_snoc]
      simpa [Call.mention,Call.records] using h.order
    · rintro _ _ ⟨⟩ _
      exact known
    · rintro c s' found
      refine ⟨nofun,?_⟩
      rintro _ ⟨⟩
      have same := h.seals st among cid s' found mem
      rw [known] at same
      obtain rfl := Option.some.inj same
      exact ⟨rfl,rfl⟩
  | closed cid now s own unsealed seen =>
    subst own
    have mem : cid∈fr.order := (h.index.seen cid).mp seen
    -- the correlation is in the window and has no seal, so no earlier call has sealed it
    have first st (among : st∈tr) s' (found : sealOf st=some (cid,s')) : False := by
      have known := h.seals st among cid s' found mem
      rw [unsealed] at known
      cases known
    refine ⟨⟨⟨h.index.capacity,h.index.positive,h.index.nodup,h.index.seen,fun c known => ?_⟩,?_,
      forall_mem_snoc (fun st among c s' found inside => ?_) ?_⟩,fun st among => ?_⟩
    · rcases (AList.mem_insert _).mp known with rfl | old
      · exact mem
      · exact h.index.sealed c old
    · rw [List.map_append,List.map_singleton,mentions_snoc]
      simpa [Call.mention,Call.records] using h.order
    · have other : c≠cid := by
        rintro rfl
        exact first st among s' found
      rw [AList.lookup_insert_ne other]
      exact h.seals st among c s' found inside
    · rintro _ _ ⟨⟩ _
      exact AList.lookup_insert _
    · rintro c s' found
      refine ⟨nofun,?_⟩
      rintro _ ⟨⟩
      exact (first st among s' found).elim
  | failed cid now err own =>
    subst own
    exact ⟨h.unchanged rfl rfl,fun st _ => permanent_of_unsealing rfl nofun⟩
  | verified cid state violations err own =>
    subst own
    exact ⟨h.unchanged rfl rfl,fun st _ => permanent_of_unsealing rfl nofun⟩
  | correlated cid result own =>
    subst own
    exact ⟨h.unchanged rfl rfl,fun st _ => permanent_of_unsealing rfl nofun⟩

theorem stillKept_of_permanent {n : Nat} {tr : List (Observed F)} {fr fr' : FlightRecorder F}
    (h : Tracked n tr fr) (effect : Effect fr call fr' answer)
    (permanent : ∀st∈tr,Permanent st ⟨fr,call,answer,fr'⟩) : StillKept n tr call := by
  intro record known
  obtain ⟨st,among,found⟩ := List.mem_filterMap.mp known
  obtain ⟨⟨_,s⟩,here,rfl⟩ := Option.map_eq_some_iff.mp found
  obtain ⟨_,refused,root⟩ := (permanent st among _ s here).1 record rfl
  cases effect with
  | refused err' _ bad =>
    obtain rfl := Option.some.inj (Answer.recorded.inj refused)
    exact absurd root (refusal_root bad)
  | blocked s' _ good sealed =>
    have mem := h.index.sealed _ (AList.lookup_isSome.mp (by rw [sealed]; rfl))
    exact ⟨good,h.order ▸ mem⟩
  | filed fr' _ good unsealed index => cases refused
  | _ => cases refused

theorem newFlightRecorder_ok {capacity : Int} {producerID : String} {fr : FlightRecorder F}
    (created : newFlightRecorder capacity producerID=.ok fr) :
    0 < capacity ∧ fr=⟨capacity,producerID,[],∅,∅,∅,∅,∅,∅⟩ := by
  unfold newFlightRecorder at created
  split_ifs at created with positive
  exact ⟨by omega,(Except.ok.inj created).symm⟩

theorem newFlightRecorder_indexed {capacity : Int} {producerID : String} (positive : 0 < capacity) :
    Indexed capacity.toNat (⟨capacity,producerID,[],∅,∅,∅,∅,∅,∅⟩ : FlightRecorder F) := by
  refine ⟨?_,by omega,List.nodup_nil,by simp,by simp⟩
  simp only
  omega

theorem seals_permanent_iff (capacity : Int) (producerID : String) (fr : FlightRecorder F)
    (created : newFlightRecorder capacity producerID=.ok fr) (calls : List (Call F)) :
    Always (FlightRecorder.step lib) fr calls (fun tr _ => tr.Pairwise Permanent) ↔
      EachCall (FlightRecorder.step lib) fr calls
        (fun tr _ call => StillKept capacity.toNat tr call) := by
  have start : Tracked capacity.toNat [] fr := by
    obtain ⟨positive,rfl⟩ := newFlightRecorder_ok created
    exact ⟨newFlightRecorder_indexed positive,rfl,by simp⟩
  refine always_iff_eachCall (FlightRecorder.step lib) (Tracked capacity.toNat) _ _ fr start
    List.Pairwise.nil ?_ ?_ calls
  · intro tr t call tracked permanent kept
    obtain ⟨next,last⟩ := tracked_effect tracked kept (step_effect lib t call)
    refine ⟨next,List.pairwise_append.mpr ⟨permanent,List.pairwise_singleton _ _,?_⟩⟩
    intro st among later here
    rw [List.mem_singleton.mp here]
    exact last st among
  · intro tr t call tracked _ permanent
    have pairs := (List.pairwise_append.mp permanent).2.2
    exact stillKept_of_permanent tracked (step_effect lib t call)
      (fun st among => pairs st among _ (List.mem_singleton_self _))

instance decidableStillKept (n : Nat) (tr : List (Observed F)) (call : Call F) :
    Decidable (StillKept n tr call) :=
  inferInstanceAs (Decidable (_ → _ → _ ∧ _))

def countingLibrary : Library Unit where
  replaceAll := fun _ text _ => text
  marshalTelemetry := fun rs => some (rs.map fun _ => 0)
  marshalExecution := fun rs => some (rs.map fun _ => 0)
  marshalDecision := fun rs => some (rs.map fun _ => 0)
  marshalEvidence := fun rs => some (rs.map fun _ => 0)
  hexSum := fun bytes => String.ofList (bytes.map fun _ => '0')

def smallRecorder : FlightRecorder Unit := ⟨1,"producer",[],∅,∅,∅,∅,∅,∅⟩

def sample (cid : String) : Call Unit :=
  .telemetry ⟨⟨cid,"workload","",0,1⟩,"metric",(),"ms",.nominal,fun _ => none⟩

theorem lone_seal_permanent : Always (FlightRecorder.step countingLibrary) smallRecorder
      [sample "a",.sealFlight "a" 5,sample "a",.sealFlight "a" 6]
      (fun tr _ => tr.Pairwise Permanent) :=
  (seals_permanent_iff countingLibrary 1 "producer" smallRecorder rfl _).mpr (by decide)

def Answer.accepted : Answer F → Bool
  | .recorded none => true
  | _ => false

def reopening : List (Observed Unit) := trace (FlightRecorder.step countingLibrary) smallRecorder
    [sample "a",.sealFlight "a" 5,sample "b",sample "a",sample "a",.sealFlight "a" 6]

theorem evicted_seal_reopens : reopening.map (·.answer.accepted)=[true,false,true,true,true,false] ∧
    reopening.map (fun st => (sealOf st).map fun p => (p.1,p.2.rootDigest,p.2.recordCount))=
      [none,some ("a","sha256:0",1),none,none,none,some ("a","sha256:00",2)] := by
  decide

end KServeLLM.Channels
