import KServeLLM.Initializer.CrashInvariant

namespace KServeLLM.Initializer

open Storage (DownloadError)
open Interruptible (Ends meets_pure meets_fail meets_get_bind meets_step meets_forM)

variable {w : World} {order : Removal → List TreePath}

section

variable (hexSum : List UInt8 → String) (codec : Codec) (uri destPath : String)

structure Recognized (v : Volume) (state : StagingState) : Prop where
  loaded : ∃t,v.staging=some t ∧ loadStagingState codec t=some state
  subject : state.subject=uri
  phase : state.phase=.downloading ∨ state.phase=.committing

def Listed (v : Volume) (state : StagingState) : Prop :=
  ∀n,v.rest.node [n]≠none → state.phase=.committing ∧ n∈state.files

def Recoverable (v : Volume) : Prop :=
  v.readDir=[] ∨ ∃state,Recognized codec uri v state ∧ Listed v state

variable {hexSum codec uri} {foreign : Prop}

theorem Recognized.unique {v : Volume} {t : Tree} {state state' : StagingState}
    (h : Recognized codec uri v state') (there : v.staging=some t)
    (loaded : loadStagingState codec t=some state) : state'=state := by
  obtain ⟨t',there',loaded'⟩ := h.loaded
  obtain rfl : t=t' := Option.some.inj (there.symm.trans there')
  exact Option.some.inj (loaded'.symm.trans loaded)

variable {state : StagingState}

theorem Recognized.listed (inv : Inv hexSum codec uri False w)
    (h : Recognized codec uri w.volume state) : Listed w.volume state := by
  intro n used
  rcases inv with ⟨never,-⟩ | bare | ⟨_,-,moving⟩
  · exact absurd never id
  · exact absurd (bare [n]) used
  · obtain ⟨t,there,loaded⟩ := h.loaded
    obtain ⟨bytes,found,decoded⟩ := Option.bind_eq_some_iff.mp loaded
    obtain ⟨_,rfl,listed⟩ := moving.state t there bytes found
    rw [codec.state_decodes] at decoded
    obtain rfl := Option.some.inj decoded
    exact ⟨rfl,listed n used⟩

structure Clearing (w : World) (state : StagingState) (names : List String) (u : World) :
    Prop where
  within : Within u.volume w.volume
  staging : u.volume.staging=w.volume.staging
  passed : u.passed=w.passed
  known : ∀n∈names,n∈w.volume.readDir
  listed : ∀n,w.volume.rest.node [n]≠none → n∈names ∨ state.phase=.committing ∧ n∈state.files
  used : ∀n,u.volume.rest.node [n]≠none → n∈names

variable {names : List String}

theorem Clearing.drop {w u : World} {x : String} (h : Clearing w state (x::names) u)
    (fits : w.volume.rest.node [x]≠none → state.phase=.committing ∧ x∈state.files)
    (free : u.volume.rest.node [x]=none) : Clearing w state names u := by
  refine ⟨h.within,h.staging,h.passed,fun n mem => h.known n (List.mem_cons_of_mem x mem),
    fun n used => ?_,fun n used => ?_⟩
  · rcases h.listed n used with mem | listed
    · rcases List.mem_cons.mp mem with rfl | later
      · exact .inr (fits used)
      · exact .inl later
    · exact .inr listed
  · exact (List.mem_cons.mp (h.used n used)).resolve_left fun same => used (same ▸ free)

theorem recoverEntry_meets {w u : World} (inv : Inv hexSum codec uri foreign w) {name : String}
    (h : Clearing w state (name::names) u) :
    (recoverEntry destPath order state name).Meets u (Inv hexSum codec uri foreign)
      (Ends (fun _ => Clearing w state names)
        fun _ x => ¬Listed w.volume state ∧ Inv hexSum codec uri foreign x) := by
  unfold recoverEntry
  by_cases own : name=stagingDirectory
  · rw [if_pos own]
    exact meets_pure (h.drop (fun used => absurd (own ▸ w.volume.apart) used)
      (own ▸ u.volume.apart))
  · have used : w.volume.rest.node [name]≠none := by
      rcases (mem_readDir_iff _).mp (h.known name List.mem_cons_self) with used | ⟨same,-⟩
      · exact used
      · exact absurd same own
    have here := inv.within h.within h.passed
    rw [if_neg own]
    by_cases phase : state.phase=.committing
    · rw [if_neg (not_not.mpr phase)]
      by_cases listed : name∈state.files
      · rw [if_neg (not_not.mpr listed)]
        refine (removeEntry_meets).mono (fun v gone => ?_) fun r v gone => ?_
        · exact here.within gone.1 gone.2.2
        · obtain ⟨rfl,within,staging,passed,free⟩ := gone
          refine Clearing.drop ⟨within.trans h.within,staging.trans h.staging,
            passed.trans h.passed,h.known,h.listed,fun n there => h.used n ?_⟩
              (fun _ => ⟨phase,listed⟩) free
          exact (within.rest [n]).resolve_right there ▸ there
      · rw [if_pos listed]
        exact meets_fail ⟨fun all => listed (all name used).2,here⟩
    · rw [if_pos phase]
      exact meets_fail ⟨fun all => phase (all name used).1,here⟩

theorem undo_meets (inv : Inv hexSum codec uri foreign w) {state : StagingState} : (do
      forM w.volume.readDir (recoverEntry destPath order state)
      removeStaging (order .stale) : Call Unit).Meets w (Inv hexSum codec uri foreign)
      (Ends (fun _ u => u.passed=w.passed ∧ Listed w.volume state ∧ Bare u.volume ∧
          u.volume.staging=none)
        fun _ u => ¬Listed w.volume state ∧ Inv hexSum codec uri foreign u) := by
  have entry n used : n∈w.volume.readDir := (mem_readDir_iff _).mpr (.inl used)
  have start : Clearing w state w.volume.readDir w :=
    ⟨.refl,rfl,rfl,fun _ mem => mem,fun n used => .inl (entry n used),entry⟩
  refine (meets_forM start
    fun name names u h => recoverEntry_meets destPath inv h).bind (fun _ u cleared => ?_)
      fun _ _ stopped => stopped
  have here := inv.within cleared.within cleared.passed
  refine (removeStaging_meets).mono (fun v h => here.within h.1 h.2.2) fun r v h => ?_
  obtain ⟨rfl,gone,passed⟩ := h
  have listed : Listed w.volume state := fun n used =>
    (cleared.listed n used).resolve_left (by simp)
  refine ⟨passed.trans cleared.passed,listed,?_,by rw [gone]; rfl⟩
  rw [gone,bare_iff]
  intro n
  by_contra used
  cases cleared.used n used

theorem recover_meets (inv : Inv hexSum codec uri foreign w) (full : w.volume.readDir≠[]) :
    (recoverStagingTransaction codec uri destPath order w.volume.readDir).Meets w
      (Inv hexSum codec uri foreign)
      (Ends (fun _ u => u.passed=w.passed ∧ Inv hexSum codec uri foreign u ∧
          (u.volume.readDir=[] ↔ Recoverable codec uri w.volume))
        fun _ u => ¬Recoverable codec uri w.volume ∧ Inv hexSum codec uri foreign u) := by
  have refused (unknown : ∀state,Recognized codec uri w.volume state → ¬Listed w.volume state) :
      ¬Recoverable codec uri w.volume := by
    rintro (nothing | ⟨state,known,listed⟩)
    · exact full nothing
    · exact unknown state known listed
  refine meets_get_bind ?_
  cases there : w.volume.staging with
  | none =>
    refine meets_pure ⟨rfl,inv,iff_of_false full (refused fun state known => ?_)⟩
    obtain ⟨t,there',-⟩ := known.loaded
    rw [there] at there'
    cases there'
  | some t =>
    simp only
    cases loaded : loadStagingState codec t with
    | none =>
      refine meets_fail ⟨refused fun state known => ?_,inv⟩
      obtain ⟨t',there',found⟩ := known.loaded
      obtain rfl : t=t' := Option.some.inj (there.symm.trans there')
      rw [loaded] at found
      cases found
    | some state =>
      simp only
      by_cases subject : state.subject=uri
      · rw [if_neg (not_not.mpr subject)]
        by_cases phase : state.phase≠.downloading ∧ state.phase≠.committing
        · rw [if_pos phase]
          refine meets_fail ⟨refused fun state' known => ?_,inv⟩
          obtain rfl := known.unique there loaded
          exact absurd known.phase (not_or.mpr phase)
        · rw [if_neg phase]
          refine (undo_meets destPath inv).mono (fun _ h => h) fun r u h => ?_
          cases r with
          | ok _ =>
            obtain ⟨passed,listed,bare,absent⟩ := h
            have known : Recognized codec uri w.volume state :=
              ⟨⟨t,there,loaded⟩,subject,or_iff_not_and_not.mpr phase⟩
            have empty : u.volume.readDir=[] := (readDir_eq_nil_iff _).mpr ⟨bare,absent⟩
            exact ⟨passed,.bare bare,iff_of_true empty (.inr ⟨state,known,listed⟩)⟩
          | error e =>
            refine ⟨refused fun state' known => ?_,h.2⟩
            obtain rfl := known.unique there loaded
            exact h.1
      · rw [if_pos subject]
        refine meets_fail ⟨refused fun state' known => ?_,inv⟩
        obtain rfl := known.unique there loaded
        exact absurd known.subject subject

end

variable {hexSum : List UInt8 → String} {codec : Codec} {uri : String} (destPath : String)
  {foreign : Prop}

def freshTree (codec : Codec) (uri : String) : Tree :=
  Tree.empty.put [stagingStateFile] (.file (codec.encodeState ⟨uri,.downloading,[]⟩))
    ⟨by simp,.inl rfl,.inr (by simp [Tree.empty])⟩

def Fresh (codec : Codec) (uri : String) (u : World) : Prop :=
  Bare u.volume ∧ u.volume.staging=some (freshTree codec uri)

theorem recordTransaction_meets (bare : Bare w.volume) (made : w.volume.staging=some Tree.empty) :
    (recordTransaction codec uri order).Meets w (Bare ·.volume)
      (Ends (fun _ u => Fresh codec uri u ∧ u.passed=w.passed) fun _ _ => False) := by
  have writable : Writable Tree.empty [stagingStateFile] := ⟨by simp,.inl rfl,.inl rfl⟩
  have written : (writeStagingState codec ⟨uri,.downloading,[]⟩).Meets w (Bare ·.volume) _ :=
    (writeStaged_meets made).mono (fun u h => bare.of_rest h.choose_spec.1) fun _ _ h => h
  refine (written.onFailure fun _ _ h => absurd writable h.1).mapError (fun _ u h => ?_)
    fun _ _ never => never
  obtain ⟨-,rest,passed,t,there,nodes⟩ := h
  have same : t=freshTree codec uri := Tree.ext nodes
  exact ⟨⟨bare.of_rest rest,same ▸ there⟩,passed⟩

theorem mkdirStaging_meets (bare : Bare w.volume) (absent : w.volume.staging=none) :
    mkdirStaging.Meets w (Bare ·.volume) (Ends (fun _ u => Bare u.volume ∧
      u.volume.staging=some Tree.empty ∧ u.passed=w.passed) fun _ _ => False) := by
  refine meets_get_bind ?_
  simp only [absent]
  exact meets_step bare ⟨bare,rfl,rfl⟩

theorem prepare_meets {w : World} (inv : Inv hexSum codec uri foreign w)
    (order : Removal → List TreePath) :
    (prepareStagingDirectory codec uri destPath order).Meets w (Inv hexSum codec uri foreign)
      (Ends (fun _ u => Recoverable codec uri w.volume ∧ Fresh codec uri u ∧ u.passed=w.passed)
        fun _ u => ¬Recoverable codec uri w.volume ∧ Inv hexSum codec uri foreign u) := by
  refine meets_get_bind ?_
  have cleared : (if w.volume.readDir=[] then pure ()
      else recoverStagingTransaction codec uri destPath order w.volume.readDir).Meets
        w (Inv hexSum codec uri foreign) (Ends (fun _ u => u.passed=w.passed ∧
          Inv hexSum codec uri foreign u ∧ (u.volume.readDir=[] ↔ Recoverable codec uri w.volume))
        fun _ u => ¬Recoverable codec uri w.volume ∧ Inv hexSum codec uri foreign u) := by
    by_cases nothing : w.volume.readDir=[]
    · rw [if_pos nothing]
      exact meets_pure ⟨rfl,inv,iff_of_true nothing (.inl nothing)⟩
    · rw [if_neg nothing]
      exact recover_meets destPath inv nothing
  refine cleared.bind (fun _ u h => meets_get_bind ?_) fun _ _ h => h
  obtain ⟨passed,inv',empty⟩ := h
  have checked (e : DownloadError) : (if u.volume.readDir=[] then pure ()
      else Interruptible.fail e).Meets u (Inv hexSum codec uri foreign)
        (Ends (fun _ x => x=u ∧ u.volume.readDir=[])
          fun _ x => ¬Recoverable codec uri w.volume ∧ Inv hexSum codec uri foreign x) := by
    by_cases nothing : u.volume.readDir=[]
    · rw [if_pos nothing]
      exact meets_pure ⟨rfl,nothing⟩
    · rw [if_neg nothing]
      exact meets_fail ⟨mt empty.mpr nothing,inv'⟩
  refine (checked _).bind (fun _ x h => ?_) fun _ _ h => h
  obtain ⟨rfl,nothing⟩ := h
  obtain ⟨bare,absent⟩ := (readDir_eq_nil_iff _).mp nothing
  have made := (wrap_meets (mkdirStaging_meets bare absent) "create staging directory: %w"
    []).mono (fun y bare' => (Inv.bare bare' : Inv hexSum codec uri foreign y)) fun _ _ h => h
  refine made.bind (fun _ y made => ?_) fun _ _ never => absurd never id
  refine (recordTransaction_meets made.1 made.2.1).mono (fun _ => .bare) fun r z h => ?_
  cases r with
  | error e => exact absurd h id
  | ok _ => exact ⟨empty.mp nothing,h.1,h.2.trans (made.2.2.trans passed)⟩

end KServeLLM.Initializer
