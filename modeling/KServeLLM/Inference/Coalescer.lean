import KServeLLM.Framework.Execution
import KServeLLM.Framework.MapContents

namespace KServeLLM.Inference

abbrev Waiter := Nat

structure CoalescedRequest where
  key : String
  waiters : List Waiter
  createdAt : Time
  deriving DecidableEq

structure Coalescer where
  pending : GoMap String CoalescedRequest
  window : Duration
  maxBatch : Int64
  channels : Nat

def newCoalescer (window : Duration) (maxBatch : Int64) : Coalescer := ⟨∅,window,maxBatch,0⟩

namespace Coalescer

def full (c : Coalescer) (req : CoalescedRequest) : Bool :=
  decide (c.maxBatch.toInt ≤ req.waiters.length)

def submit (c : Coalescer) (key : String) (now : Time) : Coalescer×Waiter :=
  let ch := c.channels
  let put (req : CoalescedRequest) : Coalescer :=
    {c with pending := c.pending.insert key req,channels := c.channels+1}
  match c.pending.lookup key with
  | some req =>
      if !c.full req then (put {req with waiters := req.waiters++[ch]},ch)
      else (put ⟨key,[ch],now⟩,ch)
  | none => (put ⟨key,[ch],now⟩,ch)

def flushLoop (c : Coalescer) (cutoff : Time) : List (Sigma (fun _ : String => CoalescedRequest)) →
    GoMap String (List Waiter) → GoMap String CoalescedRequest →
    GoMap String (List Waiter)×GoMap String CoalescedRequest
  | [],ready,pending => (ready,pending)
  | ⟨key,req⟩::rest,ready,pending =>
      if req.createdAt.before cutoff || c.full req then
        flushLoop c cutoff rest (ready.insert key req.waiters) (pending.erase key)
      else flushLoop c cutoff rest ready pending

def flush (c : Coalescer) (now : Time)
    (order : RangeOrder (Sigma (fun _ : String => CoalescedRequest))) :
    Coalescer×GoMap String (List Waiter) :=
  let cutoff := now.add (-c.window)
  let swept := c.flushLoop cutoff (order.arrange c.pending.entries) ∅ c.pending
  ({c with pending := swept.2},swept.1)

end Coalescer

inductive CoalescerOp where
  | submit (key : String) (now : Time)
  | flush (now : Time) (order : RangeOrder (Sigma (fun _ : String => CoalescedRequest)))

inductive CoalescerAnswer where
  | submitted (ch : Waiter)
  | flushed (ready : GoMap String (List Waiter))

abbrev CoalescerStep := Step Coalescer CoalescerOp CoalescerAnswer

namespace Coalescer

def step (c : Coalescer) : CoalescerOp → Coalescer×CoalescerAnswer
  | .submit key now => ((c.submit key now).1,.submitted (c.submit key now).2)
  | .flush now order => ((c.flush now order).1,.flushed (c.flush now order).2)

def issued : CoalescerStep → List (String×Waiter)
  | ⟨_,.submit key _,.submitted ch,_⟩ => [(key,ch)]
  | _ => []

def handedOut : CoalescerStep → List (String×Waiter)
  | ⟨_,.flush _ _,.flushed ready,_⟩ => contents id ready
  | _ => []

def submitted (tr : List CoalescerStep) : List (String×Waiter) := tr.flatMap issued

def waiting (c : Coalescer) : List (String×Waiter) := contents CoalescedRequest.waiters c.pending

def places (tr : List CoalescerStep) (c : Coalescer) : List (String×Waiter) :=
  c.waiting++tr.flatMap handedOut

def EachOnce (tr : List CoalescerStep) (c : Coalescer) : Prop := ∀key ch,(key,ch)∈submitted tr →
    (key,ch)∈places tr c ∧ ((places tr c).map Prod.snd).count ch=1

def BatchesBounded (maxBatch : Int64) (tr : List CoalescerStep) : Prop :=
  ∀st∈tr,∀ready,st.answer=.flushed ready →
    ∀key batch,ready.lookup key=some batch → (batch.length : Int) ≤ maxBatch.toInt

def RoomFor (c : Coalescer) (op : CoalescerOp) : Prop :=
  ∀key now,op=.submit key now → ∀req∈c.pending.lookup key,c.full req=false

structure Accounts (maxBatch : Int64) (tr : List CoalescerStep) (c : Coalescer) : Prop where
  config : c.maxBatch=maxBatch
  perm : (places tr c).Perm (submitted tr)
  fresh : ∀x∈submitted tr,x.2 < c.channels
  nodup : ((submitted tr).map Prod.snd).Nodup
  sizes : ∀key req,c.pending.lookup key=some req → (req.waiters.length : Int) ≤ maxBatch.toInt
  bounded : BatchesBounded maxBatch tr

theorem Accounts.eachOnce {maxBatch : Int64} {tr : List CoalescerStep} {c : Coalescer}
    (a : Accounts maxBatch tr c) : EachOnce tr c := by
  intro key ch h
  refine ⟨a.perm.mem_iff.mpr h,?_⟩
  rw [(a.perm.map Prod.snd).count_eq]
  exact List.count_eq_one_of_mem a.nodup (List.mem_map.mpr ⟨(key,ch),h,rfl⟩)

section

variable {c : Coalescer} {key : String} {now : Time}

theorem submit_cases {c : Coalescer} {key : String} {now : Time} :
    (c.submit key now).2=c.channels ∧ ∃req,(c.submit key now).1=
        {c with pending := c.pending.insert key req,channels := c.channels+1} ∧
      ((∃old,c.pending.lookup key=some old ∧ c.full old=false ∧
          req.waiters=old.waiters++[c.channels]) ∨
        ((∀old∈c.pending.lookup key,c.full old=true) ∧ req.waiters=[c.channels])) := by
  cases found : c.pending.lookup key with
  | none =>
    simp only [submit,found]
    exact ⟨trivial,⟨key,[c.channels],now⟩,rfl,Or.inr ⟨by simp,rfl⟩⟩
  | some old =>
    cases isFull : c.full old with
    | false =>
      simp only [submit,found,isFull,Bool.not_false,if_true]
      exact ⟨trivial,_,rfl,Or.inl ⟨old,rfl,isFull,rfl⟩⟩
    | true =>
      simp only [submit,found,isFull,Bool.not_true,Bool.false_eq_true,if_false]
      refine ⟨trivial,⟨key,[c.channels],now⟩,rfl,Or.inr ⟨?_,rfl⟩⟩
      intro x hx
      obtain rfl : old=x := Option.some.inj hx
      exact isFull

theorem submit_waiting (room : ∀req∈c.pending.lookup key,c.full req=false) :
    (c.submit key now).1.waiting.Perm ((key,c.channels)::c.waiting) := by
  obtain ⟨_,req,after,cases⟩ := submit_cases
  rw [after]
  change (contents CoalescedRequest.waiters (c.pending.insert key req)).Perm _
  rw [contents_insert]
  rcases cases with ⟨_,found,_,waiters⟩|⟨isFull,waiters⟩
  · rw [waiters,List.map_append,List.append_assoc]
    have split := contents_perm_of_lookup CoalescedRequest.waiters found
    exact List.perm_middle.trans (split.symm.cons _)
  · have absent : c.pending.lookup key=none := by
      cases found : c.pending.lookup key with
      | none => rfl
      | some old =>
        have yes := isFull old found
        rw [room old found] at yes
        cases yes
    rw [waiters,erase_of_lookup_none absent]
    exact List.Perm.refl _

theorem submit_sizes {maxBatch : Int64} (positive : 1 ≤ maxBatch.toInt)
    (config : c.maxBatch=maxBatch)
    (sizes : ∀k r,c.pending.lookup k=some r → (r.waiters.length : Int) ≤ maxBatch.toInt)
    (k : String) (r : CoalescedRequest) (h : (c.submit key now).1.pending.lookup k=some r) :
    (r.waiters.length : Int) ≤ maxBatch.toInt := by
  obtain ⟨_,_,after,cases⟩ := submit_cases
  rw [after] at h
  by_cases hk : k=key
  · subst k
    rw [AList.lookup_insert] at h
    obtain rfl := Option.some.inj h
    rcases cases with ⟨_,_,room,waiters⟩|⟨_,waiters⟩
    · rw [waiters,List.length_append]
      simp only [full,config,decide_eq_false_iff_not] at room
      simp only [List.length_singleton]
      omega
    · rw [waiters]
      simpa using positive
  · rw [AList.lookup_insert_ne hk] at h
    exact sizes k r h

end

theorem flushLoop_spec (c : Coalescer) (cutoff : Time) {bound : Int}
    {es : List (Sigma (fun _ : String => CoalescedRequest))}
    (ready : GoMap String (List Waiter)) (pending : GoMap String CoalescedRequest)
    (nodup : es.NodupKeys) (listed : ∀e∈es,pending.lookup e.1=some e.2)
    (apart : ∀e∈es,ready.lookup e.1=none)
    (small : ∀k r,pending.lookup k=some r → (r.waiters.length : Int) ≤ bound)
    (held : ∀k b,ready.lookup k=some b → (b.length : Int) ≤ bound) :
    let swept := c.flushLoop cutoff es ready pending
    (contents id swept.1++contents CoalescedRequest.waiters swept.2).Perm
        (contents id ready++contents CoalescedRequest.waiters pending) ∧
      (∀k r,swept.2.lookup k=some r → (r.waiters.length : Int) ≤ bound) ∧
      (∀k b,swept.1.lookup k=some b → (b.length : Int) ≤ bound) := by
  induction es generalizing ready pending with
  | nil => exact ⟨List.Perm.refl _,small,held⟩
  | cons e es ih =>
    obtain ⟨key,req⟩ := e
    obtain ⟨fresh,nodup⟩ := List.nodupKeys_cons.mp nodup
    have other e (he : e∈es) : e.1≠key := by
      intro same
      have mem := List.mem_keys_of_mem he
      rw [same] at mem
      exact fresh mem
    have found := listed ⟨key,req⟩ (by simp)
    simp only [flushLoop]
    split
    · have moved := ih (ready.insert key req.waiters) (pending.erase key) nodup (fun e he => by
          rw [AList.lookup_erase_ne (other e he)]
          exact listed e (by simp [he]))
        (fun e he => by
          rw [AList.lookup_insert_ne (other e he)]
          exact apart e (by simp [he]))
        (fun k r h => by
          by_cases hk : k=key
          · subst k
            simp at h
          · rw [AList.lookup_erase_ne hk] at h
            exact small k r h)
        (fun k b h => by
          by_cases hk : k=key
          · subst k
            rw [AList.lookup_insert] at h
            obtain rfl := Option.some.inj h
            exact small key req found
          · rw [AList.lookup_insert_ne hk] at h
            exact held k b h)
      refine ⟨moved.1.trans ?_,moved.2⟩
      rw [contents_insert,erase_of_lookup_none (apart ⟨key,req⟩ (by simp))]
      have split := contents_perm_of_lookup CoalescedRequest.waiters found
      refine List.Perm.trans ?_ (split.symm.append_left (contents id ready))
      rw [← List.append_assoc]
      exact List.perm_append_comm.append_right _
    · exact ih ready pending nodup (fun e he => listed e (by simp [he]))
        (fun e he => apart e (by simp [he])) small held

theorem flush_spec {c : Coalescer} {now : Time}
    {order : RangeOrder (Sigma (fun _ : String => CoalescedRequest))} {bound : Int}
    (small : ∀k r,c.pending.lookup k=some r → (r.waiters.length : Int) ≤ bound) :
    (contents id (c.flush now order).2++(c.flush now order).1.waiting).Perm c.waiting ∧
      (∀k r,(c.flush now order).1.pending.lookup k=some r → (r.waiters.length : Int) ≤ bound) ∧
      (∀k b,(c.flush now order).2.lookup k=some b → (b.length : Int) ≤ bound) := by
  have perm := order.perm c.pending.entries
  have swept := flushLoop_spec c (now.add (-c.window)) ∅
    c.pending ((List.perm_nodupKeys perm).mpr c.pending.nodupKeys)
    (fun e he => AList.mem_lookup_iff.mpr (perm.mem_iff.mp he))
    (fun e _ => AList.lookup_empty e.1) small (fun k b h => by simp at h)
  exact swept

section

variable {maxBatch : Int64} {tr : List CoalescerStep} {c : Coalescer}

theorem submitted_snoc (tr : List CoalescerStep) (st : CoalescerStep) :
    submitted (tr++[st])=submitted tr++issued st := by
  simp [submitted]

theorem places_snoc (tr : List CoalescerStep) (st : CoalescerStep) (c : Coalescer) :
    places (tr++[st]) c=c.waiting++(tr.flatMap handedOut++handedOut st) := by
  simp [places]

theorem Accounts.submit (positive : 1 ≤ maxBatch.toInt) (a : Accounts maxBatch tr c) (key : String)
    (now : Time) (room : RoomFor c (.submit key now)) :
    Accounts maxBatch (tr++[stepOf step c (.submit key now)]) (c.submit key now).1 := by
  obtain ⟨answer,_,after,_⟩ := submit_cases
  have channels : (c.submit key now).1.channels=c.channels+1 := by rw [after]
  have issue : submitted (tr++[stepOf step c (.submit key now)])=
      submitted tr++[(key,c.channels)] := by
    rw [submitted_snoc]
    show submitted tr++[(key,(c.submit key now).2)]=_
    rw [answer]
  refine ⟨?_,?_,?_,?_,?_,?_⟩
  · rw [after]
    exact a.config
  · rw [places_snoc,issue]
    show ((c.submit key now).1.waiting++(tr.flatMap handedOut++[])).Perm _
    rw [List.append_nil]
    have joined : (c.submit key now).1.waiting.Perm ((key,c.channels)::c.waiting) :=
      submit_waiting (room key now rfl)
    have added := joined.append_right (tr.flatMap handedOut)
    have all := (a.perm.cons (key,c.channels)).trans (List.perm_append_singleton _ _).symm
    exact added.trans all
  · rw [issue,channels]
    exact forall_mem_snoc (fun x hx => Nat.lt_succ_of_lt (a.fresh x hx)) (Nat.lt_succ_self _)
  · rw [issue,List.map_append]
    apply List.Nodup.append a.nodup (by simp)
    intro ch old new
    obtain ⟨x,hx,rfl⟩ := List.mem_map.mp old
    have same : x.2=c.channels := by simpa using new
    exact Nat.ne_of_lt (a.fresh x hx) same
  · exact submit_sizes positive a.config a.sizes
  · refine forall_mem_snoc a.bounded fun ready hr => ?_
    cases hr

theorem Accounts.flush (a : Accounts maxBatch tr c) (now : Time)
    (order : RangeOrder (Sigma (fun _ : String => CoalescedRequest))) :
    Accounts maxBatch (tr++[stepOf step c (.flush now order)]) (c.flush now order).1 := by
  obtain ⟨perm,small,held⟩ := flush_spec a.sizes
  have issue : submitted (tr++[stepOf step c (.flush now order)])=submitted tr := by
    rw [submitted_snoc]
    exact List.append_nil _
  refine ⟨a.config,?_,?_,?_,small,?_⟩
  · rw [places_snoc,issue]
    show ((c.flush now order).1.waiting++(tr.flatMap handedOut++
      contents id (c.flush now order).2)).Perm _
    refine List.Perm.trans ?_ a.perm
    refine List.Perm.trans ?_ (perm.append_right (tr.flatMap handedOut))
    refine List.perm_append_comm.trans ?_
    rw [List.append_assoc]
    refine List.perm_append_comm.trans ?_
    rw [List.append_assoc]
  · rw [issue]
    exact a.fresh
  · rw [issue]
    exact a.nodup
  · refine forall_mem_snoc a.bounded fun ready hr => ?_
    cases hr
    exact held

theorem Accounts.step (positive : 1 ≤ maxBatch.toInt) (a : Accounts maxBatch tr c)
    (op : CoalescerOp) (room : RoomFor c op) :
    Accounts maxBatch (tr++[stepOf step c op]) (c.step op).1 := by
  cases op with
  | submit key now => exact a.submit positive key now room
  | flush now order => exact a.flush now order

theorem Accounts.roomFor (positive : 1 ≤ maxBatch.toInt) (a : Accounts maxBatch tr c)
    (op : CoalescerOp) (once : EachOnce (tr++[stepOf Coalescer.step c op]) (c.step op).1) :
    RoomFor c op := by
  intro key now ho old found
  subst ho
  by_contra isFull
  have isFull : c.full old=true := by simpa using isFull
  obtain ⟨_,req,after,cases⟩ := submit_cases
  rcases cases with ⟨other,found',room,_⟩|⟨_,waiters⟩
  · obtain rfl : other=old := Option.some.inj (found'.symm.trans found)
    rw [room] at isFull
    cases isFull
  · have size : maxBatch.toInt ≤ old.waiters.length := by
      simpa [full,a.config] using isFull
    obtain ⟨lost,hl⟩ := List.exists_mem_of_length_pos (l := old.waiters) (by omega)
    have before : (places tr c).Perm (old.waiters.map (Prod.mk key)++
        (contents CoalescedRequest.waiters (c.pending.erase key)++tr.flatMap handedOut)) := by
      rw [← List.append_assoc]
      exact (contents_perm_of_lookup CoalescedRequest.waiters found).append_right _
    have own : (key,lost)∈old.waiters.map (Prod.mk key) := List.mem_map.mpr ⟨lost,hl,rfl⟩
    have known : (key,lost)∈submitted tr :=
      a.perm.mem_iff.mp (before.mem_iff.mpr (List.mem_append_left _ own))
    have still := (once key lost (by
      rw [submitted_snoc]
      exact List.mem_append_left _ known)).1
    rw [places_snoc] at still
    have still : (key,lost)∈(c.submit key now).1.waiting++tr.flatMap handedOut := by
      simpa [handedOut,stepOf,Coalescer.step] using still
    have new : lost≠c.channels := Nat.ne_of_lt (a.fresh _ known)
    have rest : (key,lost)∈contents CoalescedRequest.waiters (c.pending.erase key)++
        tr.flatMap handedOut := by
      rw [after] at still
      change (key,lost)∈contents CoalescedRequest.waiters (c.pending.insert key req)++_ at still
      rw [contents_insert,waiters,List.append_assoc] at still
      rcases List.mem_append.mp still with here|there
      · exact absurd (by simpa using here) new
      · exact there
    have nodup : ((places tr c).map Prod.snd).Nodup := (a.perm.map Prod.snd).nodup_iff.mpr a.nodup
    have apart := List.disjoint_of_nodup_append
      (before.nodup_iff.mp (List.Nodup.of_map Prod.snd nodup))
    exact apart own rest

end

end Coalescer

open Coalescer

structure CoalescerConfig where
  window : Duration
  maxBatch : Int64
  positive : 1 ≤ maxBatch

theorem coalescer_eachOnce_iff (cfg : CoalescerConfig) (ops : List CoalescerOp) :
    let c := newCoalescer cfg.window cfg.maxBatch
    Always Coalescer.step c ops (fun tr c => EachOnce tr c ∧ BatchesBounded cfg.maxBatch tr) ↔
      EachCall Coalescer.step c ops (fun _ c op => RoomFor c op) := by
  intro c
  have positive : 1 ≤ cfg.maxBatch.toInt := Int64.le_iff_toInt_le.mp cfg.positive
  have start : Accounts cfg.maxBatch [] c :=
    ⟨rfl,List.Perm.refl _,by simp [submitted],List.nodup_nil,fun k r h => by
      simp [c,newCoalescer] at h,by simp [BatchesBounded]⟩
  apply always_iff_eachCall Coalescer.step (Accounts cfg.maxBatch)
  · exact start
  · exact ⟨start.eachOnce,start.bounded⟩
  · intro tr c op a _ room
    have next := a.step positive op room
    exact ⟨next,next.eachOnce,next.bounded⟩
  · exact fun tr c op a _ after => a.roomFor positive op after.1

def overfull : List CoalescerOp := [.submit "k" 0,.submit "k" 1]

theorem coalescer_eachOnce_lost :
    let c := newCoalescer Duration.second 1
    submitted (trace Coalescer.step c overfull)=[("k",0),("k",1)] ∧
    places (trace Coalescer.step c overfull) (run Coalescer.step c overfull)=[("k",1)] ∧
    ¬Always Coalescer.step c overfull (fun tr c => EachOnce tr c ∧ BatchesBounded 1 tr) := by
  intro c
  have issued : submitted (trace Coalescer.step c overfull)=[("k",0),("k",1)] := by decide
  have left : places (trace Coalescer.step c overfull) (run Coalescer.step c overfull)=
      [("k",1)] := by decide
  refine ⟨issued,left,fun always => ?_⟩
  have first := ((always overfull (List.prefix_refl _)).1 "k" 0 (by decide)).1
  exact absurd first (by decide)

end KServeLLM.Inference
