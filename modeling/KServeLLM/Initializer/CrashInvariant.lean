import KServeLLM.Initializer.Transaction

namespace KServeLLM.Initializer

open Interruptible (Ends meets_pure meets_fail meets_get_bind meets_step meets_through)

variable {w : World} {p : TreePath} {n : String}

section

variable (v : Volume) (t : Tree)

theorem setRest_node (p : TreePath) : (v.setRest t).rest.node p=
    if p.head?=some stagingDirectory then none else t.node p := Tree.without_node t _

theorem wrap_meets {α : Type} {p : Call α} {mid bad : World → Prop}
    {good : α → World → Prop} (h : p.Meets w mid (Ends good fun _ => bad)) (format : String)
    (args : List ErrArg) : (wrap format args p).Meets w mid (Ends good fun _ => bad) :=
  h.mapError (fun _ _ ended => ended) fun _ _ ended => ended

theorem Volume.rest_apart (h : p.head?=some stagingDirectory) : v.rest.node p=none := by
  cases p with
  | nil => exact v.rest.root
  | cons n q =>
    obtain rfl : n=stagingDirectory := by simpa using h
    by_contra used
    exact v.rest.top used v.apart

theorem setRest_node_of (h : t.node p=v.rest.node p ∨ t.node p=none) :
    (v.setRest t).rest.node p=t.node p := by
  rw [setRest_node]
  split
  · rename_i own
    rcases h with same | gone
    · rw [same,v.rest_apart own]
    · exact gone.symm
  · rfl

theorem setRest_self : v.setRest v.rest=v := by
  have same : v.rest.without stagingDirectory=v.rest := by
    ext1 p
    exact setRest_node_of v v.rest (.inl rfl)
  unfold Volume.setRest
  congr 1

theorem tree_node (h : p.head?≠some stagingDirectory) : v.tree.node p=v.rest.node p := by
  unfold Volume.tree
  cases v.staging with
  | none => rfl
  | some t =>
    cases p with
    | nil => exact v.rest.root.symm
    | cons n q =>
      have other : n≠stagingDirectory := fun same => h (by rw [same]; rfl)
      exact if_neg other

theorem tree_node_staging {t : Tree} (h : v.staging=some t) {q : TreePath} (full : q≠[]) :
    v.tree.node (stagingDirectory::q)=t.node q := by
  unfold Volume.tree
  simp only [h]
  rw [Tree.graft_node,if_pos rfl,if_neg full]

theorem mem_readDir_iff :
    n∈v.readDir ↔ v.rest.node [n]≠none ∨ n=stagingDirectory ∧ v.staging≠none := by
  rw [Volume.readDir,Tree.mem_readDir]
  by_cases own : n=stagingDirectory
  · subst own
    unfold Volume.tree
    cases v.staging with
    | none => simp [v.apart]
    | some t =>
      change some Kind.dir≠none ↔ _
      simp
  · rw [tree_node v (by simpa using own)]
    simp [own]

def Bare (v : Volume) : Prop := ∀p,v.rest.node p=none

variable {v} in
theorem Bare.of_rest {v' : Volume} (h : Bare v) (same : v'.rest=v.rest) : Bare v' := by
  intro p
  rw [same]
  exact h p

theorem bare_iff : Bare v ↔ ∀n,v.rest.node [n]=none := by
  constructor
  · exact fun bare n => bare [n]
  · intro none' p
    cases p with
    | nil => exact v.rest.root
    | cons n q =>
      by_contra used
      exact v.rest.top used (none' n)

theorem readDir_eq_nil_iff : v.readDir=[] ↔ Bare v ∧ v.staging=none := by
  rw [List.eq_nil_iff_forall_not_mem,bare_iff]
  constructor
  · intro h
    refine ⟨fun n => ?_,?_⟩
    · by_contra used
      exact h n ((mem_readDir_iff v).mpr (.inl used))
    · by_contra there
      exact h stagingDirectory ((mem_readDir_iff v).mpr (.inr ⟨rfl,there⟩))
  · rintro ⟨bare,absent⟩ n mem
    rcases (mem_readDir_iff v).mp mem with used | ⟨-,there⟩
    · exact used (bare n)
    · exact there absent

end

section

variable (hexSum : List UInt8 → String) (codec : Codec) (uri : String) (foreign : Prop)

def MaybeDir (t : Tree) (p : TreePath) : Prop := t.node p=none ∨ t.node p=some .dir

def MaybeFile (t : Tree) (p : TreePath) : Prop := t.node p=none ∨ ∃bytes,t.node p=some (.file bytes)

theorem MaybeDir.not_file {t : Tree} (h : MaybeDir t p) (bytes : List UInt8) :
    t.node p≠some (.file bytes) := by
  rcases h with none' | dir
  · simp [none']
  · simp [dir]

theorem MaybeFile.not_dir {t : Tree} (h : MaybeFile t p) : t.node p≠some .dir := by
  rcases h with none' | ⟨_,file⟩
  · simp [none']
  · simp [file]

theorem maybeFile_congr {t u : Tree} (same : t.node p=u.node p) :
    MaybeFile t p ↔ MaybeFile u p := by
  unfold MaybeFile
  rw [same]

def committed (pa : Passed) (p : TreePath) : Option Kind :=
  if p=[verificationStateDir] then some .dir
  else if p=[verificationStateDir,verificationStateFile] then
    some (.file (codec.encodeRecord pa.record))
  else if p=[stagingStateFile] then none
  else pa.staged.node p

structure Moving (v : Volume) (pa : Passed) : Prop where
  vouches : Vouches hexSum uri pa.staged pa.record
  stateDir : MaybeDir pa.staged [verificationStateDir]
  moved : ∀p,v.rest.node p≠none → v.rest.node p=committed codec pa p
  left : ∀t,v.staging=some t → ∀p,t.node p≠none → p≠[stagingStateFile] →
    t.node p=committed codec pa p ∧ ∀n,p.head?=some n → v.rest.node [n]=none
  state : ∀t,v.staging=some t → ∀bytes,content t [stagingStateFile]=some bytes →
    ∃files,bytes=codec.encodeState ⟨uri,.committing,files⟩ ∧ ∀n,v.rest.node [n]≠none → n∈files

def Inv (w : World) : Prop := foreign ∧ w.passed=none ∨ Bare w.volume ∨
  ∃pa,w.passed=some pa ∧ Moving hexSum codec uri w.volume pa

structure Within (v v' : Volume) : Prop where
  rest : ∀p,v.rest.node p=v'.rest.node p ∨ v.rest.node p=none
  staging : ∀t,v.staging=some t → ∃t',v'.staging=some t' ∧ ∀p,t.node p=t'.node p ∨ t.node p=none

variable {hexSum codec uri foreign}

theorem Inv.bare (h : Bare w.volume) : Inv hexSum codec uri foreign w := .inr (.inl h)

theorem Moving.within {v v' : Volume} {pa : Passed} (h : Moving hexSum codec uri v' pa)
    (part : Within v v') : Moving hexSum codec uri v pa := by
  have rest {p : TreePath} used : v.rest.node p=v'.rest.node p := (part.rest p).resolve_right used
  have gone {p : TreePath} (none' : v'.rest.node p=none) : v.rest.node p=none := by
    rcases part.rest p with same | gone
    · rw [same,none']
    · exact gone
  refine ⟨h.vouches,h.stateDir,fun p used => ?_,fun t there p used other => ?_,
    fun t there bytes found => ?_⟩
  · rw [rest used]
    exact h.moved p (rest used ▸ used)
  · obtain ⟨t',there',inside⟩ := part.staging t there
    have same := (inside p).resolve_right used
    obtain ⟨node,free⟩ := h.left t' there' p (same ▸ used) other
    exact ⟨same.trans node,fun n head => gone (free n head)⟩
  · obtain ⟨t',there',inside⟩ := part.staging t there
    rw [content_eq_some] at found
    have same := (inside [stagingStateFile]).resolve_right (by rw [found]; nofun)
    obtain ⟨files,encoded,listed⟩ := h.state t' there' bytes (content_eq_some.mpr (same ▸ found))
    exact ⟨files,encoded,fun n used => listed n (rest used ▸ used)⟩

theorem Inv.within {w w' : World} (h : Inv hexSum codec uri foreign w')
    (part : Within w.volume w'.volume) (same : w.passed=w'.passed) :
    Inv hexSum codec uri foreign w := by
  rcases h with ⟨held,none'⟩ | bare | ⟨pa,passed,moving⟩
  · exact .inl ⟨held,same.trans none'⟩
  · refine .bare fun p => ?_
    rcases part.rest p with same | gone
    · rw [same,bare]
    · exact gone
  · exact .inr (.inr ⟨pa,same.trans passed,moving.within part⟩)

theorem Within.refl {v : Volume} : Within v v :=
  ⟨fun _ => .inl rfl,fun t there => ⟨t,there,fun _ => .inl rfl⟩⟩

theorem Within.trans {a b c : Volume} (first : Within a b) (second : Within b c) : Within a c := by
  refine ⟨fun p => ?_,fun t there => ?_⟩
  · rcases first.rest p with same | gone
    · rw [same]
      exact second.rest p
    · exact .inr gone
  · obtain ⟨t',there',inside⟩ := first.staging t there
    obtain ⟨t'',there'',inside'⟩ := second.staging t' there'
    refine ⟨t'',there'',fun p => ?_⟩
    rcases inside p with same | gone
    · rw [same]
      exact inside' p
    · exact .inr gone

end

section

theorem head_of_extends {q p : TreePath} (h : q.head?=some n) (longer : q <+: p) :
    p.head?=some n := by
  obtain ⟨r,rfl⟩ := longer
  cases q with
  | nil => cases h
  | cons m q => exact h

theorem getLastD_map {α β : Type} (f : α → β) (l : List α) (a : α) :
    (l.map f).getLastD (f a)=f (l.getLastD a) := by
  rw [List.getLastD_eq_getLast?,List.getLastD_eq_getLast?,List.getLast?_map,Option.getD_map]

variable {under : TreePath → Prop}

theorem within_setRest {v : Volume} {rest : Tree}
    (part : Tree.Part under rest v.rest) : Within (v.setRest rest) v := by
  have node p : rest.node p=v.rest.node p ∨ rest.node p=none := (part p).imp_right And.left
  refine ⟨fun p => ?_,fun t there => ⟨t,there,fun _ => .inl rfl⟩⟩
  rw [setRest_node_of v rest (node p)]
  exact node p

theorem within_setStaging {v : Volume} {t left : Tree} (there : v.staging=some t)
    (part : Tree.Part under left t) :
    Within (v.setStaging (some left)) v := by
  refine ⟨fun _ => .inl rfl,fun t' same => ⟨t,there,fun p => ?_⟩⟩
  obtain rfl : left=t' := Option.some.inj same
  exact (part p).imp_right And.left

theorem within_unstaged {v : Volume} : Within (v.setStaging none) v :=
  ⟨fun _ => .inl rfl,fun _ there => by cases there⟩

variable {order : List TreePath}

theorem removeEntry_meets {name : String} {w : World} : (removeEntry order name).Meets w
      (fun u => Within u.volume w.volume ∧ u.volume.staging=w.volume.staging ∧ u.passed=w.passed)
      fun r u => r=.ok () ∧ Within u.volume w.volume ∧ u.volume.staging=w.volume.staging ∧
        u.passed=w.passed ∧ u.volume.rest.node [name]=none := by
  refine meets_through (fun u mem => ?_) ?_
  · obtain ⟨_,among,rfl⟩ := List.mem_map.mp mem
    exact ⟨within_setRest (Tree.removals_part among),rfl,rfl⟩
  · have self : updateVolume (·.setRest w.volume.rest) w=w :=
      congrArg (fun v => (⟨v,w.passed⟩ : World)) (setRest_self w.volume)
    have last := getLastD_map (fun rest => updateVolume (·.setRest rest) w)
      (w.volume.rest.removeAll (·.head?=some name) order) w.volume.rest
    rw [self] at last
    rw [last]
    have part := @Tree.afterRemovals_part (·.head?=some name) _
      (order++(lexical (w.volume.rest.dom.filter (·.head?=some name))).reverse) w.volume.rest
    refine ⟨rfl,within_setRest part,rfl,rfl,?_⟩
    have gone := (@Tree.removeAll_last (·.head?=some name) _
      (fun q p h longer => head_of_extends h longer) order w.volume.rest [name]).trans (if_pos rfl)
    exact (setRest_node_of _ _ (.inr gone)).trans gone

theorem removeStaging_meets {w : World} : (removeStaging order).Meets w
      (fun u => Within u.volume w.volume ∧ u.volume.rest=w.volume.rest ∧ u.passed=w.passed)
      fun r u => r=.ok () ∧ u.volume=w.volume.setStaging none ∧ u.passed=w.passed := by
  cases there : w.volume.staging with
  | none =>
    have same : w.volume.setStaging none=w.volume := by
      congr 1
      exact there.symm
    refine meets_through (fun u mem => ?_) ?_
    · rw [there] at mem
      cases mem
    · rw [there]
      exact ⟨rfl,same.symm,rfl⟩
  | some t =>
    refine meets_through (fun u mem => ?_) ?_
    · rw [there] at mem
      rcases List.mem_append.mp mem with early | last
      · obtain ⟨_,among,rfl⟩ := List.mem_map.mp early
        exact ⟨within_setStaging there (Tree.removals_part among),rfl,rfl⟩
      · rw [List.mem_singleton.mp last]
        exact ⟨within_unstaged,rfl,rfl⟩
    · rw [there]
      rw [List.getLastD_concat]
      exact ⟨rfl,rfl,rfl⟩

end

def Writable (t : Tree) (p : TreePath) : Prop :=
  p≠[] ∧ (p.dropLast=[] ∨ t.node p.dropLast=some .dir) ∧ MaybeFile t p

variable {bytes : List UInt8}

theorem Writable.open {t : Tree} (h : Writable t p) : t.Open p (.file bytes) := by
  obtain ⟨full,parent,kind⟩ := h
  refine ⟨full,parent,.inr fun q mem longer => ?_⟩
  by_contra other
  obtain ⟨r,rfl⟩ := longer
  have dir := t.above full (fun none' => other (by simp [none'])) ((t.mem_dom _).mp mem)
  exact kind.not_dir dir

def Puts (w u : World) (t : Tree) (p : TreePath) (k : Kind) : Prop :=
  u.volume.rest=w.volume.rest ∧ u.passed=w.passed ∧ ∃t',u.volume.staging=some t' ∧
    ∀q,t'.node q=if q=p then some k else t.node q

theorem writeStaged_meets {t : Tree} (there : w.volume.staging=some t) {p : TreePath} :
    (writeStaged p bytes).Meets w (fun u => ∃c,Puts w u t p (.file c))
      (Ends (fun _ u => Writable t p ∧ Puts w u t p (.file bytes))
        fun _ u => ¬Writable t p ∧ u=w) := by
  refine meets_get_bind ?_
  simp only [there]
  have refused {msg : String} no : (Interruptible.fail (.external msg) : Call Unit).Meets w
        (fun u => ∃c,Puts w u t p (.file c))
        (Ends (fun _ u => Writable t p ∧ Puts w u t p (.file bytes))
          fun _ u => ¬Writable t p ∧ u=w) := meets_fail ⟨no,rfl⟩
  have written (kind : MaybeFile t p) : (if h : t.Open p (.file []) then
        Interruptible.through fun w => [updateVolume (·.setStaging (some (t.put p (.file []) h))) w,
          updateVolume (·.setStaging (some (t.put p (.file bytes) (h.file bytes)))) w]
        else Interruptible.fail (.external "not a directory") : Call Unit).Meets w
        (fun u => ∃c,Puts w u t p (.file c))
        (Ends (fun _ u => Writable t p ∧ Puts w u t p (.file bytes))
          fun _ u => ¬Writable t p ∧ u=w) := by
    by_cases h : t.Open p (.file [])
    · rw [dif_pos h]
      have put c : Puts w
          (updateVolume (·.setStaging (some (t.put p (.file c) (h.file c)))) w) t p (.file c) :=
        ⟨rfl,rfl,_,rfl,fun _ => rfl⟩
      refine meets_through (fun u mem => ?_) ⟨⟨h.1,h.2.1,kind⟩,put bytes⟩
      rcases List.mem_cons.mp mem with rfl | last
      · exact ⟨[],put []⟩
      · rw [List.mem_singleton.mp last]
        exact ⟨bytes,put bytes⟩
    · rw [dif_neg h]
      exact refused fun writable => h writable.open
  cases node : t.node p with
  | none => exact written (.inl node)
  | some k =>
    cases k with
    | file c => exact written (.inr ⟨c,node⟩)
    | dir => exact refused fun h => by simp [Writable,MaybeFile,node] at h
    | symlink => exact refused fun h => by simp [Writable,MaybeFile,node] at h
    | irregular => exact refused fun h => by simp [Writable,MaybeFile,node] at h

theorem mkdirStaged_meets {t : Tree} (there : w.volume.staging=some t) (name : String) :
    (mkdirStaged name).Meets w (fun u => Puts w u t [name] .dir)
      (Ends (fun _ u => MaybeDir t [name] ∧ Puts w u t [name] .dir)
        fun _ u => ¬MaybeDir t [name] ∧ u=w) := by
  refine meets_get_bind ?_
  simp only [there]
  cases node : t.node [name] with
  | none =>
    have h : t.Open [name] .dir := ⟨by simp,.inl rfl,.inl rfl⟩
    have put : Puts w (updateVolume (·.setStaging (some (t.put [name] .dir h))) w) t [name] .dir :=
      ⟨rfl,rfl,_,rfl,fun _ => rfl⟩
    exact meets_step put ⟨.inl node,put⟩
  | some k =>
    cases k with
    | dir =>
      refine meets_pure ⟨.inr node,rfl,rfl,t,there,fun q => ?_⟩
      split
      · rename_i here
        rw [here,node]
      · rfl
    | file c => exact meets_fail ⟨by simp [MaybeDir,node],rfl⟩
    | symlink => exact meets_fail ⟨by simp [MaybeDir,node],rfl⟩
    | irregular => exact meets_fail ⟨by simp [MaybeDir,node],rfl⟩

end KServeLLM.Initializer
