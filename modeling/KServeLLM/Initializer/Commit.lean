import KServeLLM.Initializer.Recovery

namespace KServeLLM.Initializer

open Interruptible (Ends meets_pure meets_fail meets_get_bind meets_step meets_through meets_forM)

structure Free (staged : Tree) : Prop where
  stateDir : MaybeDir staged [verificationStateDir]
  record : MaybeFile staged [verificationStateDir,verificationStateFile]
  state : MaybeFile staged [stagingStateFile]
  staging : staged.node [stagingDirectory]=none

section

variable {hexSum : List UInt8 → String} {codec : Codec} {uri : String} {foreign : Prop}

def pulled (codec : Codec) (uri : String) (u : RunInput) : Tree :=
  u.contents.getLastD (freshTree codec uri)

theorem setStaging_self {v : Volume} {s : Option Tree} (h : v.staging=s) : v.setStaging s=v := by
  subst h
  rfl

theorem pull_meets {w : World} (fresh : Fresh codec uri w) (u : RunInput) :
    (pull u).Meets w (Inv hexSum codec uri foreign)
      (Ends (fun _ x => u.pullError=none ∧ Bare x.volume ∧
          x.volume.staging=some (pulled codec uri u) ∧ x.passed=w.passed)
        fun _ x => u.pullError≠none ∧ Inv hexSum codec uri foreign x) := by
  have staged : (Interruptible.through fun w =>
      u.contents.map fun t => updateVolume (·.setStaging (some t)) w : Call Unit).Meets w
        (Inv hexSum codec uri foreign) (Ends (fun _ x => Bare x.volume ∧
          x.volume.staging=some (pulled codec uri u) ∧ x.passed=w.passed) fun _ _ => False) := by
    refine meets_through (fun x mem => ?_) ?_
    · obtain ⟨t,-,rfl⟩ := List.mem_map.mp mem
      exact .bare fresh.1
    · have self : updateVolume (·.setStaging (some (freshTree codec uri))) w=w :=
        congrArg (fun v => (⟨v,w.passed⟩ : World)) (setStaging_self fresh.2)
      have last := getLastD_map (fun t => updateVolume (·.setStaging (some t)) w) u.contents
        (freshTree codec uri)
      rw [self] at last
      rw [last]
      exact ⟨fresh.1,rfl,rfl⟩
  refine staged.bind (fun _ x h => ?_) fun _ _ never => absurd never id
  cases failed : u.pullError with
  | none => exact meets_pure ⟨rfl,h⟩
  | some e => exact meets_fail ⟨by simp,.bare h.1⟩

theorem assess_meets {w : World} {staged : Tree} (bare : Bare w.volume)
    (there : w.volume.staging=some staged) (scheme : String) (u : RunInput) :
    (assess hexSum codec uri scheme u).Meets w (Inv hexSum codec uri foreign)
      (Ends (fun record x =>
          assessProvenance hexSum codec uri scheme staged u.verification=.ok record ∧
          x.volume=w.volume ∧ x.passed=some ⟨staged,record⟩)
        fun _ x => (∀record,assessProvenance hexSum codec uri scheme staged u.verification≠
          .ok record) ∧ Inv hexSum codec uri foreign x) := by
  refine meets_get_bind ?_
  simp only [there,Option.getD_some]
  cases outcome : assessProvenance hexSum codec uri scheme staged u.verification with
  | error e => exact meets_fail ⟨by nofun,.bare bare⟩
  | ok record =>
    have noted : (Interruptible.step fun w => {w with passed := some ⟨staged,record⟩} :
        Call Unit).Meets w (Inv hexSum codec uri foreign) (Ends (fun _ x => x.volume=w.volume ∧
          x.passed=some ⟨staged,record⟩) fun _ _ => False) :=
      meets_step (.bare bare) ⟨rfl,rfl⟩
    exact noted.bind (fun _ x h => meets_pure ⟨rfl,h⟩) fun _ _ never => absurd never id

end

section

variable {hexSum : List UInt8 → String} {codec : Codec} {uri : String} {foreign : Prop}

def Noted (codec : Codec) (pa : Passed) (t : Tree) : Prop :=
  ∀q,t.node q=if q=[verificationStateDir] then some .dir
    else if q=[verificationStateDir,verificationStateFile] then
      some (.file (codec.encodeRecord pa.record))
    else pa.staged.node q

theorem writeRecord_meets {w : World} (pa : Passed) (bare : Bare w.volume)
    (there : w.volume.staging=some pa.staged) :
    (writeCacheRuntimeVerificationRecord codec pa.record).Meets w (Inv hexSum codec uri foreign)
      (Ends (fun _ x => MaybeDir pa.staged [verificationStateDir] ∧
          MaybeFile pa.staged [verificationStateDir,verificationStateFile] ∧
          Bare x.volume ∧ x.passed=w.passed ∧ ∃t,x.volume.staging=some t ∧ Noted codec pa t)
        fun _ x => ¬Free pa.staged ∧ Inv hexSum codec uri foreign x) := by
  have made := (mkdirStaged_meets there verificationStateDir).mono
    (fun x h => (show Inv hexSum codec uri foreign x from .bare (bare.of_rest h.1))) fun _ _ h => h
  refine made.bind (fun _ x h => ?_) fun _ x h => ?_
  · obtain ⟨free,rest,passed,t,there',nodes⟩ := h
    refine (writeStaged_meets there').mono (fun y h => ?_) fun r y h => ?_
    · obtain ⟨c,rest',-⟩ := h
      exact .bare (bare.of_rest (rest'.trans rest))
    · have parent : t.node [verificationStateDir]=some .dir := (nodes _).trans (if_pos rfl)
      have same : t.node [verificationStateDir,verificationStateFile]=
          pa.staged.node [verificationStateDir,verificationStateFile] :=
        (nodes _).trans (if_neg (by decide))
      cases r with
      | error e =>
        obtain ⟨refused,rfl⟩ := h
        have room (all : Free pa.staged) :
            Writable t [verificationStateDir,verificationStateFile] :=
          ⟨by simp,.inr parent,(maybeFile_congr same).mpr all.record⟩
        exact ⟨mt room refused,.bare (bare.of_rest rest)⟩
      | ok _ =>
        obtain ⟨⟨-,-,writable⟩,rest',passed',t',there'',nodes'⟩ := h
        refine ⟨free,(maybeFile_congr same).mp writable,bare.of_rest (rest'.trans rest),
          passed'.trans passed,t',there'',fun q => ?_⟩
        rw [nodes',nodes]
        by_cases dir : q=[verificationStateDir]
        · rw [if_pos dir,if_pos dir,if_neg (by rw [dir]; decide)]
        · rw [if_neg dir,if_neg dir]
  · obtain ⟨refused,rfl⟩ := h
    exact ⟨fun all => refused all.stateDir,.bare bare⟩

end

variable {hexSum : List UInt8 → String} {codec : Codec} {uri : String} {foreign : Prop}
  {pa : Passed}

theorem committed_state : committed codec pa [stagingStateFile]=none := by
  unfold committed
  rw [if_neg (by decide),if_neg (by decide),if_pos rfl]

theorem committed_staging :
    committed codec pa [stagingDirectory]=pa.staged.node [stagingDirectory] := by
  unfold committed
  rw [if_neg (by decide),if_neg (by decide),if_neg (by decide)]

variable {t : Tree}

theorem Noted.committed (h : Noted codec pa t) (p : TreePath) :
    committed codec pa p=if p=[stagingStateFile] then none else t.node p := by
  by_cases state : p=[stagingStateFile]
  · rw [if_pos state,state,committed_state]
  · rw [if_neg state,h]
    unfold Initializer.committed
    rw [if_neg state]

structure Committing (codec : Codec) (uri : String) (pa : Passed) (files names : List String)
    (u : World) : Prop where
  passed : u.passed=some pa
  listed : ∀n,committed codec pa [n]≠none → n∈files
  nodup : names.Nodup
  used : ∀n∈names,committed codec pa [n]≠none
  rest : ∀p,u.volume.rest.node p=
    if ∃n∈names,p.head?=some n then none else committed codec pa p
  staging : ∃t,u.volume.staging=some t ∧ ∀p,t.node p=
    if p=[stagingStateFile] then some (.file (codec.encodeState ⟨uri,.committing,files⟩))
    else if ∃n∈names,p.head?=some n then committed codec pa p else none

theorem Committing.moving {files names : List String} {u : World}
    (h : Committing codec uri pa files names u) (vouches : Vouches hexSum uri pa.staged pa.record)
    (free : MaybeDir pa.staged [verificationStateDir]) : Moving hexSum codec uri u.volume pa := by
  obtain ⟨t,there,nodes⟩ := h.staging
  have whole {p : TreePath} (used : u.volume.rest.node p≠none) :
      u.volume.rest.node p=committed codec pa p := by
    rw [h.rest] at used ⊢
    split at used
    · exact absurd rfl used
    · rename_i moved
      rw [if_neg moved]
  refine ⟨vouches,free,fun p => whole,fun t' there' p used other => ?_,
    fun t' there' bytes found => ⟨files,?_,fun n used => h.listed n (whole used ▸ used)⟩⟩
  · obtain rfl : t=t' := Option.some.inj (there.symm.trans there')
    rw [nodes,if_neg other] at used ⊢
    split at used
    · rename_i waiting
      rw [if_pos waiting]
      refine ⟨rfl,fun n head => ?_⟩
      obtain ⟨m,mem,head'⟩ := waiting
      rw [h.rest,if_pos ⟨m,mem,head'.symm.trans head |>.symm⟩]
    · exact absurd rfl used
  · obtain rfl : t=t' := Option.some.inj (there.symm.trans there')
    have node := (nodes [stagingStateFile]).trans (if_pos rfl)
    rw [content_eq_some.mpr node] at found
    exact (Option.some.inj found).symm

variable {name : String}

theorem waiting_cons {names : List String} {p : TreePath} (other : p.head?≠some name) :
    (∃n∈name::names,p.head?=some n) ↔ ∃n∈names,p.head?=some n := by
  simp [other]

theorem Committing.rename {files names : List String} {u : World}
    (h : Committing codec uri pa files (name::names) u)
    (there : u.volume.staging=some t) (own : name≠stagingDirectory) :
    Committing codec uri pa files names (updateVolume (fun v =>
      (v.setRest (v.rest.adopt name t)).setStaging (some (t.without name))) u) := by
  obtain ⟨t',there',nodes⟩ := h.staging
  obtain rfl : t=t' := Option.some.inj (there.symm.trans there')
  obtain ⟨fresh,nodup⟩ := List.nodup_cons.mp h.nodup
  have moved {p : TreePath} (mine : p.head?=some name) : ¬∃n∈names,p.head?=some n := by
    rintro ⟨n,mem,head⟩
    exact fresh (Option.some.inj (mine.symm.trans head) ▸ mem)
  have other {p : TreePath} (mine : p.head?=some name) : p≠[stagingStateFile] := by
    rintro rfl
    exact h.used name List.mem_cons_self (Option.some.inj mine ▸ committed_state)
  refine ⟨h.passed,h.listed,nodup,fun n mem => h.used n (List.mem_cons_of_mem _ mem),
    fun p => ?_,t.without name,rfl,fun p => ?_⟩
  · change (u.volume.setRest (u.volume.rest.adopt name t)).rest.node p=_
    rw [setRest_node,Tree.adopt_node]
    by_cases staged : p.head?=some stagingDirectory
    · rw [if_pos staged]
      have absent := (h.rest p).symm.trans (u.volume.rest_apart staged)
      have other : p.head?≠some name := fun mine => own (by simpa [mine] using staged)
      rw [if_congr (waiting_cons other) rfl rfl] at absent
      exact absent.symm
    · rw [if_neg staged]
      by_cases mine : p.head?=some name
      · rw [if_pos mine,nodes,if_neg (other mine),if_pos ⟨name,List.mem_cons_self,mine⟩,
          if_neg (moved mine)]
      · rw [if_neg mine,h.rest,if_congr (waiting_cons mine) rfl rfl]
  · rw [Tree.without_node]
    by_cases mine : p.head?=some name
    · rw [if_pos mine,if_neg (other mine),if_neg (moved mine)]
    · rw [if_neg mine,nodes,if_congr (waiting_cons mine) rfl rfl]

theorem renameOut_meets {files names : List String} {name : String} {u : World}
    (vouches : Vouches hexSum uri pa.staged pa.record)
    (free : MaybeDir pa.staged [verificationStateDir])
    (h : Committing codec uri pa files (name::names) u) :
    (renameOut name).Meets u (Inv hexSum codec uri foreign)
      (Ends (fun _ => Committing codec uri pa files names)
        fun _ x => ¬Free pa.staged ∧ Inv hexSum codec uri foreign x) := by
  obtain ⟨t,there,nodes⟩ := h.staging
  have used := h.used name List.mem_cons_self
  have plain : [name]≠[stagingStateFile] := fun same => used (same ▸ committed_state)
  have here : t.node [name]=committed codec pa [name] := by
    rw [nodes,if_neg plain,if_pos ⟨name,List.mem_cons_self,rfl⟩]
  have room : u.volume.rest.node [name]=none := by
    rw [h.rest,if_pos ⟨name,List.mem_cons_self,rfl⟩]
  refine meets_get_bind ?_
  simp only [there]
  rw [if_neg (here ▸ used)]
  by_cases own : name=stagingDirectory
  · rw [if_pos (.inl own)]
    refine meets_fail ⟨fun all => used ?_,.inr (.inr ⟨pa,h.passed,h.moving vouches free⟩)⟩
    rw [own,committed_staging]
    exact all.staging
  · have replaces : replaceable u.volume.rest t name=true := by
      unfold replaceable
      rw [room]
    rw [if_neg (by simp [own,replaces])]
    have next := h.rename there own
    exact meets_step (.inr (.inr ⟨pa,next.passed,next.moving vouches free⟩)) next

theorem Noted.mem_files (h : Noted codec pa t) {n : String} :
    n∈t.readDir.filter (·≠stagingStateFile) ↔ Initializer.committed codec pa [n]≠none := by
  rw [List.mem_filter,Tree.mem_readDir,h.committed]
  by_cases state : n=stagingStateFile
  · simp [state]
  · simp [state]

theorem Noted.outside (h : Noted codec pa t) (plain : MaybeFile t [stagingStateFile])
    {p : TreePath} (unlisted : ¬∃n∈t.readDir.filter (·≠stagingStateFile),p.head?=some n) :
    Initializer.committed codec pa p=none := by
  rw [h.committed]
  by_cases state : p=[stagingStateFile]
  · rw [if_pos state]
  · rw [if_neg state]
    by_contra used
    cases p with
    | nil => exact used t.root
    | cons n q =>
      by_cases own : n=stagingStateFile
      · subst own
        have deep : q≠[] := fun none' => state (by rw [none'])
        have dir := @Tree.above t [stagingStateFile] (by simp) q deep used
        exact plain.not_dir dir
      · refine unlisted ⟨n,h.mem_files.mpr ?_,rfl⟩
        rw [h.committed,if_neg (by simpa using own)]
        exact t.top used

theorem Noted.start {w x : World} (noted : Noted codec pa t) (bare : Bare w.volume)
    (passed : w.passed=some pa) (plain : MaybeFile t [stagingStateFile])
    (puts : Puts w x t [stagingStateFile] (.file (codec.encodeState
      ⟨uri,.committing,t.readDir.filter (·≠stagingStateFile)⟩))) :
    Committing codec uri pa (t.readDir.filter (·≠stagingStateFile))
      (t.readDir.filter (·≠stagingStateFile)) x := by
  obtain ⟨rest,passed',t',there',nodes⟩ := puts
  refine ⟨passed'.trans passed,fun n used => ?_,(t.names.sort_nodup _).filter _,fun n mem => ?_,
    fun p => ?_,t',there',fun p => ?_⟩
  · exact noted.mem_files.mpr used
  · exact noted.mem_files.mp mem
  · rw [rest,bare]
    split
    · rfl
    · rename_i outside
      exact (noted.outside plain outside).symm
  · rw [nodes]
    by_cases state : p=[stagingStateFile]
    · rw [if_pos state,if_pos state]
    · rw [if_neg state,if_neg state]
      have same := (noted.committed p).trans (if_neg state)
      split
      · exact same.symm
      · rename_i outside
        exact same.symm.trans (noted.outside plain outside)

theorem writeCommitting_meets {w : World} {t : Tree} (bare : Bare w.volume)
    (passed : w.passed=some pa) (there : w.volume.staging=some t) (noted : Noted codec pa t) :
    (writeStagingState codec ⟨uri,.committing,t.readDir.filter (·≠stagingStateFile)⟩).Meets w
      (Inv hexSum codec uri foreign)
      (Ends (fun _ x => MaybeFile pa.staged [stagingStateFile] ∧
          Committing codec uri pa (t.readDir.filter (·≠stagingStateFile))
            (t.readDir.filter (·≠stagingStateFile)) x)
        fun _ x => ¬MaybeFile pa.staged [stagingStateFile] ∧ Inv hexSum codec uri foreign x) := by
  have kept : t.node [stagingStateFile]=pa.staged.node [stagingStateFile] := by
    rw [noted,if_neg (by decide),if_neg (by decide)]
  refine (writeStaged_meets there).mono
    (fun x h => .bare (bare.of_rest h.choose_spec.1)) fun r x h => ?_
  cases r with
  | ok _ =>
    obtain ⟨⟨-,-,plain⟩,puts⟩ := h
    exact ⟨(maybeFile_congr kept).mp plain,noted.start bare passed plain puts⟩
  | error e =>
    obtain ⟨refused,rfl⟩ := h
    have room plain : Writable t [stagingStateFile] :=
      ⟨by simp,.inl rfl,(maybeFile_congr kept).mpr plain⟩
    exact ⟨mt room refused,.bare bare⟩

theorem commit_meets {w : World} (bare : Bare w.volume) (passed : w.passed=some pa)
    (vouches : Vouches hexSum uri pa.staged pa.record)
    (free : MaybeDir pa.staged [verificationStateDir]) (there : w.volume.staging=some t)
    (noted : Noted codec pa t) :
    (commitStagingDirectory codec uri).Meets w (Inv hexSum codec uri foreign)
      (Ends (fun _ x => MaybeFile pa.staged [stagingStateFile] ∧
          pa.staged.node [stagingDirectory]=none ∧
          x.passed=some pa ∧ Moving hexSum codec uri x.volume pa ∧
          ∀p,x.volume.rest.node p=committed codec pa p)
        fun _ x => ¬Free pa.staged ∧ Inv hexSum codec uri foreign x) := by
  refine meets_get_bind ?_
  simp only [there]
  refine (writeCommitting_meets bare passed there noted).bind (fun _ x h => ?_)
    fun _ x h => ⟨fun all => h.1 all.state,h.2⟩
  obtain ⟨plain,start⟩ := h
  refine (meets_forM start
    fun name names u h => wrap_meets (renameOut_meets vouches free h) _ _).mono (fun _ h => h)
      fun r y h => ?_
  cases r with
  | error e => exact h
  | ok _ =>
    have all p : y.volume.rest.node p=committed codec pa p :=
      (h.rest p).trans (if_neg (by simp))
    refine ⟨plain,?_,h.passed,h.moving vouches free,all⟩
    rw [← @committed_staging,← all,y.volume.apart]

theorem commit_reaches {w : World} (bare : Bare w.volume) (passed : w.passed=some pa)
    (vouches : Vouches hexSum uri pa.staged pa.record) (free : Free pa.staged)
    (there : w.volume.staging=some t) (noted : Noted codec pa t)
    {names : List String} (listing : t.readDir.filter (·≠stagingStateFile)=name::names) :
    (commitStagingDirectory codec uri).Reaches w
      (Committing codec uri pa (name::names) names) := by
  refine Interruptible.reaches_get_bind ?_
  simp only [there]
  have states := @writeCommitting_meets hexSum codec uri True pa w t bare passed there noted
  refine (states.unfailing fun _ _ h => h.1 free.state).bind_reaches fun _ x h => ?_
  rw [listing] at h ⊢
  have renames := wrap_meets (@renameOut_meets hexSum codec uri True pa _ names name x vouches
    free.stateDir h.2) "move %s: %w" [.str name]
  exact ((renames.unfailing fun _ _ h => h.1 free).reaches fun _ _ h => h).bind

end KServeLLM.Initializer
