import Mathlib.Data.List.Basic

namespace KServeLLM

def Interruptible (σ ε α : Type) : Type := σ → List σ×Except ε α

namespace Interruptible

variable {σ ε α β : Type}

def visited (p : Interruptible σ ε α) (s : σ) : List σ := (p s).1

def result (p : Interruptible σ ε α) (s : σ) : Except ε α := (p s).2

def final (p : Interruptible σ ε α) (s : σ) : σ := (p.visited s).getLastD s

def killed (p : Interruptible σ ε α) (s : σ) (k : Nat) : σ := ((p.visited s).take k).getLastD s

def bind (p : Interruptible σ ε α) (f : α → Interruptible σ ε β) : Interruptible σ ε β :=
  fun s => match p.result s with
    | .ok a => (p.visited s++(f a).visited (p.final s),(f a).result (p.final s))
    | .error e => (p.visited s,.error e)

instance : Monad (Interruptible σ ε) where
  pure a := fun _ => ([],.ok a)
  bind := bind

def fail (e : ε) : Interruptible σ ε α := fun _ => ([],.error e)

def get : Interruptible σ ε σ := fun s => ([],.ok s)

def through (f : σ → List σ) : Interruptible σ ε Unit := fun s => (f s,.ok ())

def step (f : σ → σ) : Interruptible σ ε Unit := through fun s => [f s]

def andFinally (p : Interruptible σ ε α) (q : Interruptible σ ε Unit) : Interruptible σ ε α :=
  fun s => (p.visited s++q.visited (p.final s),p.result s)

def onFailure (p : Interruptible σ ε α) (q : Interruptible σ ε Unit) : Interruptible σ ε α :=
  fun s => match p.result s with
    | .ok _ => p s
    | .error e => (p.visited s++q.visited (p.final s),.error e)

def mapError (f : ε → ε) (p : Interruptible σ ε α) : Interruptible σ ε α :=
  fun s => (p.visited s,match p.result s with
    | .ok a => .ok a
    | .error e => .error (f e))

def Ends (good : α → σ → Prop) (bad : ε → σ → Prop) : Except ε α → σ → Prop
  | .ok a => good a
  | .error e => bad e

def Meets (p : Interruptible σ ε α) (s : σ) (mid : σ → Prop) (post : Except ε α → σ → Prop) :
    Prop := (∀t∈p.visited s,mid t) ∧ post (p.result s) (p.final s)

theorem getLastD_append (l r : List σ) (s : σ) : (l++r).getLastD s=r.getLastD (l.getLastD s) := by
  induction l generalizing s with
  | nil => rfl
  | cons a l ih => rw [List.cons_append,List.getLastD_cons,List.getLastD_cons,ih]

variable {f : α → Interruptible σ ε β} {a : α} {q : Interruptible σ ε Unit} {bad : ε → σ → Prop}

section

variable {s : σ} {mid : σ → Prop} {post : Except ε α → σ → Prop}

theorem meets_pure (h : post (.ok a) s) :
    (pure a : Interruptible σ ε α).Meets s mid post := ⟨by nofun,h⟩

theorem meets_fail {e : ε} (h : post (.error e) s) :
    (fail e : Interruptible σ ε α).Meets s mid post := ⟨by nofun,h⟩

theorem meets_through {f : σ → List σ} {post : Except ε Unit → σ → Prop}
    (on : ∀t∈f s,mid t) (h : post (.ok ()) ((f s).getLastD s)) : (through f).Meets s mid post :=
  ⟨on,h⟩

theorem meets_step {f : σ → σ} {post : Except ε Unit → σ → Prop} (on : mid (f s))
    (h : post (.ok ()) (f s)) : (step f).Meets s mid post := by
  refine ⟨fun t mem => ?_,h⟩
  rwa [List.mem_singleton.mp mem]

variable {post' : Except ε α → σ → Prop}

theorem Meets.mono {p : Interruptible σ ε α} {mid' : σ → Prop} (h : p.Meets s mid post)
    (weaker : ∀t,mid t → mid' t) (imp : ∀r t,post r t → post' r t) : p.Meets s mid' post' :=
  ⟨fun t mem => weaker t (h.1 t mem),imp _ _ h.2⟩

theorem Meets.of_eq {p q : Interruptible σ ε α} (h : q.Meets s mid post) (same : p s=q s) :
    p.Meets s mid post := by
  unfold Meets final result visited at h ⊢
  rw [same]
  exact h

theorem Meets.bind {p : Interruptible σ ε α} {post' : Except ε β → σ → Prop}
    (first : p.Meets s mid post) (next : ∀a t,post (.ok a) t → (f a).Meets t mid post')
    (stop : ∀e t,post (.error e) t → post' (.error e) t) : (p >>= f).Meets s mid post' := by
  obtain ⟨on,ended⟩ := first
  change (Interruptible.bind p f).Meets s mid post'
  unfold Meets visited result final visited Interruptible.bind
  cases outcome : p.result s with
  | error e =>
    rw [outcome] at ended
    exact ⟨on,stop e _ ended⟩
  | ok a =>
    rw [outcome] at ended
    obtain ⟨later,last⟩ := next a _ ended
    refine ⟨fun t mem => ?_,?_⟩
    · rcases List.mem_append.mp mem with early | late
      · exact on t early
      · exact later t late
    · rw [getLastD_append]
      exact last

theorem meets_get_bind {f : σ → Interruptible σ ε α} (h : (f s).Meets s mid post) :
    (get >>= f).Meets s mid post := h

theorem Meets.andFinally {p : Interruptible σ ε α} (first : p.Meets s mid post)
    (last : ∀r t,post r t → q.Meets t mid fun _ u => post' r u) :
    (p.andFinally q).Meets s mid post' := by
  obtain ⟨later,ended⟩ := last _ _ first.2
  refine ⟨fun t mem => ?_,?_⟩
  · rcases List.mem_append.mp mem with early | late
    · exact first.1 t early
    · exact later t late
  · change post' _ ((p.visited s++q.visited (p.final s)).getLastD s)
    rw [getLastD_append]
    exact ended

theorem Meets.onFailure {p : Interruptible σ ε α}
    {good : α → σ → Prop} {bad' : ε → σ → Prop} (first : p.Meets s mid (Ends good bad))
    (last : ∀e t,bad e t → q.Meets t mid fun _ => bad' e) :
    (p.onFailure q).Meets s mid (Ends good bad') := by
  obtain ⟨on,ended⟩ := first
  cases outcome : p.result s with
  | ok a =>
    have same : p.onFailure q s=p s := by simp [Interruptible.onFailure,outcome]
    have success : Ends good bad' (p.result s) (p.final s) := by
      rw [outcome] at ended ⊢
      exact ended
    unfold Meets final result visited at success ⊢
    rw [same]
    exact ⟨on,success⟩
  | error e =>
    have both : p.onFailure q s=(p.visited s++q.visited (p.final s),.error e) := by
      simp [Interruptible.onFailure,outcome]
    rw [outcome] at ended
    obtain ⟨later,done⟩ := last e _ ended
    unfold Meets final result visited
    rw [both]
    refine ⟨fun t mem => ?_,?_⟩
    · rcases List.mem_append.mp mem with early | late
      · exact on t early
      · exact later t late
    · rw [getLastD_append]
      exact done

theorem Meets.mapError {p : Interruptible σ ε α} {f : ε → ε}
    (h : p.Meets s mid post) (ok : ∀a t,post (.ok a) t → post' (.ok a) t)
    (stop : ∀e t,post (.error e) t → post' (.error (f e)) t) :
    (p.mapError f).Meets s mid post' := by
  refine ⟨h.1,?_⟩
  have ended := h.2
  change post' (match p.result s with
    | .ok a => .ok a
    | .error e => .error (f e)) (p.final s)
  cases outcome : p.result s with
  | ok a =>
    rw [outcome] at ended
    exact ok a _ ended
  | error e =>
    rw [outcome] at ended
    exact stop e _ ended

theorem meets_forM {xs : List β} {f : β → Interruptible σ ε PUnit}
    {inv : List β → σ → Prop} (start : inv xs s)
    (round : ∀x rest t,inv (x::rest) t → (f x).Meets t mid (Ends (fun _ => inv rest) bad)) :
    (forM xs f).Meets s mid (Ends (fun _ => inv []) bad) := by
  induction xs generalizing s with
  | nil => exact meets_pure start
  | cons x xs ih =>
    exact (round x xs s start).bind (fun _ t next => ih next) fun _ _ stopped => stopped

theorem Meets.killed {p : Interruptible σ ε α} (h : p.Meets s mid post) (start : mid s)
    (k : Nat) : mid (p.killed s k) := by
  unfold Interruptible.killed
  rcases List.eq_nil_or_concat ((p.visited s).take k) with none' | ⟨l,t,taken⟩
  · rw [none']
    exact start
  · rw [List.concat_eq_append] at taken
    have met : t∈(p.visited s).take k := by simp [taken]
    rw [taken,List.getLastD_concat]
    exact h.1 t (List.mem_of_mem_take met)

end

theorem get_bind (f : σ → Interruptible σ ε α) (s : σ) : (get >>= f) s=f s s := rfl

def Reaches (p : Interruptible σ ε α) (s : σ) (X : σ → Prop) : Prop := ∃k,X (p.killed s k)

variable {s : σ} {mid X : σ → Prop} {good : α → σ → Prop} {p : Interruptible σ ε α}

theorem Reaches.extend {q : Interruptible σ ε β} (h : p.Reaches s X)
    (more : ∃rest,q.visited s=p.visited s++rest) : q.Reaches s X := by
  obtain ⟨k,met⟩ := h
  obtain ⟨_,longer⟩ := more
  refine ⟨min k (p.visited s).length,?_⟩
  unfold killed at met ⊢
  rwa [longer,List.take_append_of_le_length (by omega),← List.take_take,List.take_length]

theorem Reaches.of_eq {q : Interruptible σ ε α} (h : q.Reaches s X) (same : p s=q s) :
    p.Reaches s X := h.extend ⟨[],by rw [visited,same,List.append_nil]; rfl⟩

theorem Reaches.bind (h : p.Reaches s X) {f : α → Interruptible σ ε β} : (p >>= f).Reaches s X := by
  refine h.extend ?_
  change ∃rest,(Interruptible.bind p f s).1=_
  unfold Interruptible.bind
  cases p.result s with
  | ok a => exact ⟨_,rfl⟩
  | error e => exact ⟨[],(List.append_nil _).symm⟩

theorem reaches_pure_bind (h : (f a).Reaches s X) : (pure a >>= f).Reaches s X := h

theorem reaches_get_bind {f : σ → Interruptible σ ε β} (h : (f s).Reaches s X) :
    (get >>= f).Reaches s X := h

theorem Reaches.andFinally (h : p.Reaches s X) : (p.andFinally q).Reaches s X := h.extend ⟨_,rfl⟩

theorem Reaches.mapError (h : p.Reaches s X) {f : ε → ε} : (p.mapError f).Reaches s X := h

theorem Meets.reaches (h : p.Meets s mid (Ends good fun _ _ => False))
    (enough : ∀a t,good a t → X t) : p.Reaches s X := by
  refine ⟨(p.visited s).length,?_⟩
  have ended := h.2
  unfold Interruptible.killed
  rw [List.take_length]
  cases outcome : p.result s with
  | error e =>
    rw [outcome] at ended
    exact absurd ended id
  | ok a =>
    rw [outcome] at ended
    exact enough a _ ended

theorem Meets.unfailing (h : p.Meets s mid (Ends good bad))
    (never : ∀e t,¬bad e t) : p.Meets s mid (Ends good fun _ _ => False) := by
  refine h.mono (fun _ met => met) fun r t ended => ?_
  cases r with
  | ok a => exact ended
  | error e => exact never e t ended

theorem Meets.bind_reaches (first : p.Meets s mid (Ends good fun _ _ => False))
    (next : ∀a t,good a t → (f a).Reaches t X) : (p >>= f).Reaches s X := by
  have ended := first.2
  cases outcome : p.result s with
  | error e =>
    rw [outcome] at ended
    exact absurd ended id
  | ok a =>
    rw [outcome] at ended
    obtain ⟨k,met⟩ := next a _ ended
    refine ⟨(p.visited s).length+k,?_⟩
    change X (((Interruptible.bind p f s).1.take _).getLastD s)
    unfold Interruptible.bind
    rw [outcome]
    simp only [List.take_length_add_append,getLastD_append]
    exact met

end Interruptible

end KServeLLM
