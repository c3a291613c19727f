import KServeLLM.Initializer.Restart

namespace KServeLLM.Initializer

open Interruptible (Ends meets_pure meets_fail meets_get_bind meets_step meets_forM)

section

variable (hexSum : List UInt8 → String) (codec : Codec) (uri destPath : String)

def downloadUnchecked (scheme : String) (u : RunInput) : Call RuntimeVerificationRecord := do
  pull u
  wrap "commit verified model payload: %w" [] (commitStagingDirectory codec uri)
  pure {RuntimeVerificationRecord.zero with subject := uri,scheme := scheme}

def runUnchecked (u : RunInput) : Call RuntimeVerificationRecord :=
  match schemeOf uri.toList with
  | none => Interruptible.fail (.plain ⟨"invalid URI: %s",[.str uri]⟩)
  | some scheme =>
      match u.client with
      | some e => Interruptible.fail (.errorf "get storage client: %w" [] e)
      | none => do
          let w ← Interruptible.get
          if w.volume.readDir≠[] then
            pure {RuntimeVerificationRecord.zero with subject := uri,scheme := String.ofList scheme}
          else do
            prepareStagingDirectory codec uri destPath u.order
            (downloadUnchecked codec uri (String.ofList scheme) u).andFinally
              (removeStaging (u.order .cleanup))

structure PastCall where
  uri : String
  skipChecksum : Bool
  run : PastRun

def PastCall.call (r : PastCall) : Call RuntimeVerificationRecord :=
  match r.skipChecksum with
  | true => runUnchecked codec r.uri destPath r.run.input
  | false => Initializer.run hexSum codec r.uri destPath r.run.input

def PastCall.leaves (w : World) (r : PastCall) : World :=
  match r.run.killed with
  | none => (r.call hexSum codec destPath).final w
  | some k => (r.call hexSum codec destPath).killed w k

def reached (start : Volume) (history : List PastCall) : World :=
  history.foldl (PastCall.leaves hexSum codec destPath) ⟨start,none⟩

def pullsOf (history : List PastCall) : List RunInput :=
  (history.filter (·.uri=uri)).map (·.run.input)

def pullResult (u : RunInput) (p : TreePath) : Option Kind :=
  pulledFile codec uri ⟨pulled codec uri u,.zero⟩ p

def Complete (pulls : List RunInput) (files : TreePath → Option Kind) : Prop :=
  ∃u∈pulls,u.pullError=none ∧ ∀p,files p=pullResult codec uri u p

def Holds (pulls : List RunInput) (v : Volume) : Prop :=
  v.staging=none ∧ Complete codec uri pulls (payload v)

structure Lands (u : RunInput) : Prop where
  pulls : u.pullError=none
  state : MaybeFile (pulled codec uri u) [stagingStateFile]
  staging : (pulled codec uri u).node [stagingDirectory]=none

def movedFile (u : RunInput) (p : TreePath) : Option Kind :=
  if p.head?=some stagingStateFile then none else pullResult codec uri u p

end

section

variable {codec : Codec} {uri : String} {t : Tree}

structure Unloading (t : Tree) (names : List String) (x : World) : Prop where
  nodup : names.Nodup
  plain : ∀n∈names,n≠stagingStateFile ∧ t.node [n]≠none
  rest : ∀p,x.volume.rest.node p=
    if (∃n∈names,p.head?=some n) ∨ p.head?=some stagingStateFile then none else t.node p
  staging : ∃s,x.volume.staging=some s ∧ ∀n∈names,∀p,p.head?=some n → s.node p=t.node p

theorem Unloading.rename {names : List String} {name : String} {x : World}
    (h : Unloading t (name::names) x) {s : Tree} (there : x.volume.staging=some s)
    (own : name≠stagingDirectory) :
    Unloading t names (updateVolume (fun v =>
      (v.setRest (v.rest.adopt name s)).setStaging (some (s.without name))) x) := by
  obtain ⟨s',there',nodes⟩ := h.staging
  obtain rfl : s=s' := Option.some.inj (there.symm.trans there')
  obtain ⟨fresh,nodup⟩ := List.nodup_cons.mp h.nodup
  have moved {p : TreePath} (mine : p.head?=some name) :
      ¬((∃n∈names,p.head?=some n) ∨ p.head?=some stagingStateFile) := by
    rintro (⟨n,mem,head⟩ | state)
    · exact fresh (Option.some.inj (mine.symm.trans head) ▸ mem)
    · exact (h.plain name List.mem_cons_self).1 (Option.some.inj (mine.symm.trans state))
  have kept {p : TreePath} other := (h.rest p).trans
    (if_congr (or_congr_left (waiting_cons other)) rfl rfl)
  refine ⟨nodup,fun n mem => h.plain n (List.mem_cons_of_mem _ mem),fun p => ?_,s.without name,
    rfl,fun n mem p head => ?_⟩
  · change (x.volume.setRest (x.volume.rest.adopt name s)).rest.node p=_
    rw [setRest_node,Tree.adopt_node]
    by_cases staged : p.head?=some stagingDirectory
    · have other : p.head?≠some name := fun mine => own (by simpa [mine] using staged)
      rw [if_pos staged,← kept other,x.volume.rest_apart staged]
    · rw [if_neg staged]
      by_cases mine : p.head?=some name
      · rw [if_pos mine,if_neg (moved mine),nodes name List.mem_cons_self p mine]
      · rw [if_neg mine,kept mine]
  · have other : p.head?≠some name := fun mine =>
      fresh (Option.some.inj (mine.symm.trans head) ▸ mem)
    rw [Tree.without_node,if_neg other,nodes n (List.mem_cons_of_mem _ mem) p head]

theorem renameOut_unloads {names : List String} {name : String} {x : World}
    (h : Unloading t (name::names) x) :
    (renameOut name).Meets x (fun _ => True) (Ends (fun _ => Unloading t names)
      fun _ _ => t.node [stagingDirectory]≠none) := by
  obtain ⟨s,there,nodes⟩ := h.staging
  have used := (h.plain name List.mem_cons_self).2
  have here := nodes name List.mem_cons_self [name] rfl
  have room : x.volume.rest.node [name]=none := by
    rw [h.rest,if_pos (.inl ⟨name,List.mem_cons_self,rfl⟩)]
  refine meets_get_bind ?_
  simp only [there]
  rw [if_neg (here ▸ used)]
  by_cases own : name=stagingDirectory
  · rw [if_pos (.inl own)]
    exact meets_fail (own ▸ used)
  · have replaces : replaceable x.volume.rest s name=true := by
      unfold replaceable
      rw [room]
    rw [if_neg (by simp [own,replaces])]
    exact meets_step trivial (h.rename there own)

theorem unloading_start {w x : World} (bare : Bare w.volume) {bytes : List UInt8}
    (puts : Puts w x t [stagingStateFile] (.file bytes)) :
    Unloading t (t.readDir.filter (·≠stagingStateFile)) x := by
  obtain ⟨rest,-,s,there,nodes⟩ := puts
  refine ⟨(t.names.sort_nodup _).filter _,fun n mem => ?_,fun p => ?_,s,there,
    fun n mem p head => ?_⟩
  · obtain ⟨listed,plain⟩ := List.mem_filter.mp mem
    exact ⟨by simpa using plain,Tree.mem_readDir.mp listed⟩
  · rw [rest,bare]
    split
    · rfl
    · rename_i outside
      obtain ⟨unlisted,plain⟩ := not_or.mp outside
      by_contra used
      cases p with
      | nil => exact used t.root.symm
      | cons n q =>
        have listed := Tree.mem_readDir.mpr (t.top (Ne.symm used))
        exact unlisted ⟨n,List.mem_filter.mpr ⟨listed,by simpa using plain⟩,rfl⟩
  · obtain ⟨-,plain⟩ := List.mem_filter.mp mem
    refine (nodes p).trans (if_neg ?_)
    rintro rfl
    exact absurd (Option.some.inj head).symm (by simpa using plain)

theorem commit_unloads {w : World} (bare : Bare w.volume) (there : w.volume.staging=some t) :
    (commitStagingDirectory codec uri).Meets w (fun _ => True)
      (Ends (fun _ x => MaybeFile t [stagingStateFile] ∧ t.node [stagingDirectory]=none ∧
          ∀p,x.volume.rest.node p=if p.head?=some stagingStateFile then none else t.node p)
        fun _ _ => ¬(MaybeFile t [stagingStateFile] ∧ t.node [stagingDirectory]=none)) := by
  refine meets_get_bind ?_
  simp only [there]
  have written : (writeStagingState codec ⟨uri,.committing,
      t.readDir.filter (·≠stagingStateFile)⟩).Meets w (fun _ => True) _ :=
    (writeStaged_meets there).mono (fun _ _ => trivial) fun _ _ h => h
  refine written.bind (fun _ x h => ?_) fun _ x h both => ?_
  · obtain ⟨⟨-,-,plain⟩,puts⟩ := h
    refine (meets_forM
      (unloading_start bare puts)
      fun name names y h => wrap_meets (renameOut_unloads h) _ _).mono (fun _ h => h)
        fun r y h => ?_
    cases r with
    | error e => exact fun both => h both.2
    | ok _ =>
      have all p : y.volume.rest.node p=
          if p.head?=some stagingStateFile then none else t.node p := by
        rw [h.rest]
        simp
      refine ⟨plain,?_,all⟩
      have apart := all [stagingDirectory]
      rwa [y.volume.apart,eq_comm] at apart
  · exact h.1 ⟨by simp,.inl rfl,both.1⟩

end

variable {codec : Codec} {uri : String}

theorem payload_of_rest {u : RunInput} {v : Volume}
    (rest : ∀p,v.rest.node p=
      if p.head?=some stagingStateFile then none else (pulled codec uri u).node p) (p : TreePath) :
    payload v p=movedFile codec uri u p := by
  unfold payload movedFile
  by_cases below : p.head?=some verificationStateDir
  · simp [below,pullResult,pulledFile]
  by_cases staged : p.head?=some stagingDirectory
  · have gone : (pulled codec uri u).node p=none := by
      have apart := rest p
      rwa [v.rest_apart staged,if_neg (by rw [staged]; decide),eq_comm] at apart
    simp [staged,pullResult,pulledFile,fileAt_of_none gone]
  rw [if_neg (not_or.mpr ⟨below,staged⟩)]
  by_cases state : p.head?=some stagingStateFile
  · rw [if_pos state]
    exact fileAt_of_none ((tree_node v staged).trans ((rest p).trans (if_pos state)))
  · have other : p≠[stagingStateFile] := fun same => state (by rw [same]; rfl)
    rw [if_neg state,pullResult,pulledFile_eq other below,fileAt,fileAt,tree_node v staged,rest,
      if_neg state]

theorem unchecked_lands {destPath scheme : String} {w : World} (nothing : w.volume.readDir=[])
    {u : RunInput} :
    (do
      prepareStagingDirectory codec uri destPath u.order
      (downloadUnchecked codec uri scheme u).andFinally
        (removeStaging (u.order .cleanup)) : Call RuntimeVerificationRecord).Meets w
      (fun _ => True)
      (Ends (fun _ x => Lands codec uri u ∧ x.volume.staging=none ∧
          ∀p,payload x.volume p=movedFile codec uri u p)
        fun _ _ => ¬Lands codec uri u) := by
  have bare := ((readDir_eq_nil_iff _).mp nothing).1
  have prepared : (prepareStagingDirectory codec uri destPath u.order).Meets w (fun _ => True) _ :=
    (@prepare_meets (fun _ => "") codec uri destPath True w (.bare bare) u.order).mono
      (fun _ _ => trivial) fun _ _ h => h
  refine prepared.bind (fun _ x h => ?_) fun _ _ h => absurd (.inl nothing) h.1
  have downloaded : (downloadUnchecked codec uri scheme u).Meets x (fun _ => True)
      (Ends (fun _ y => Lands codec uri u ∧ ∀p,y.volume.rest.node p=
          if p.head?=some stagingStateFile then none else (pulled codec uri u).node p)
        fun _ _ => ¬Lands codec uri u) := by
    have pulls : (pull u).Meets x (fun _ => True) _ :=
      (@pull_meets (fun _ => "") codec uri True x h.2.1 u).mono (fun _ _ => trivial) fun _ _ h => h
    refine pulls.bind (fun _ y h => ?_) fun _ _ h lands => h.1 lands.pulls
    obtain ⟨succeeds,bare,there,-⟩ := h
    refine (wrap_meets (commit_unloads bare there) _ _).bind (fun _ z h => ?_)
      fun _ _ h lands => h ⟨lands.state,lands.staging⟩
    exact meets_pure ⟨⟨succeeds,h.1,h.2.1⟩,h.2.2⟩
  refine downloaded.andFinally fun r y h => (removeStaging_meets).mono (fun _ _ => trivial)
    fun _ z gone => ?_
  cases r with
  | error e => exact h
  | ok record =>
    refine ⟨h.1,by rw [gone.2.1]; rfl,payload_of_rest fun p => ?_⟩
    rw [gone.2.1]
    exact h.2 p

theorem runUnchecked_meets {destPath : String} {u : RunInput} (w : World) :
    (runUnchecked codec uri destPath u).Meets w (fun _ => True)
      (Ends (fun _ x => (∃scheme,Begins uri scheme u) ∧
          (w.volume.readDir≠[] ∧ x=w ∨ w.volume.readDir=[] ∧ Lands codec uri u ∧
            x.volume.staging=none ∧ ∀p,payload x.volume p=movedFile codec uri u p))
        fun _ _ => (∃scheme,Begins uri scheme u) → w.volume.readDir=[] ∧ ¬Lands codec uri u) := by
  unfold runUnchecked
  cases parsed : schemeOf uri.toList with
  | none => exact meets_fail fun ⟨_,begins⟩ => by simp [Begins,parsed] at begins
  | some scheme =>
    cases registered : u.client with
    | some e => exact meets_fail fun ⟨_,begins⟩ => by simp [Begins,registered] at begins
    | none =>
      have started : ∃scheme,Begins uri scheme u := ⟨scheme,parsed,registered⟩
      refine meets_get_bind ?_
      by_cases nothing : w.volume.readDir=[]
      · rw [if_neg (not_not.mpr nothing)]
        refine (unchecked_lands nothing).mono (fun _ h => h) fun r x h => ?_
        cases r with
        | ok record => exact ⟨started,.inr ⟨nothing,h⟩⟩
        | error e => exact fun _ => ⟨nothing,h⟩
      · rw [if_pos nothing]
        exact meets_pure ⟨started,.inl ⟨nothing,rfl⟩⟩

def idleRun : RunInput where
  client := none
  contents := []
  pullError := none
  verification := ⟨⟨"","","",""⟩,none,.error "",none,.ok [],.ok [],.ok [],""⟩
  order := fun _ => []

theorem taken_as_it_is (destPath : String) {scheme : List Char} {u : RunInput}
    (begins : Begins uri scheme u) {w : World} (full : w.volume.readDir≠[]) :
    ∃record,(runUnchecked codec uri destPath u).result w=.ok record ∧
      (runUnchecked codec uri destPath u).final w=w := by
  have ended :=
    (runUnchecked_meets w : (runUnchecked codec uri destPath u).Meets _ _ _).2
  cases outcome : (runUnchecked codec uri destPath u).result w with
  | error e =>
    rw [outcome] at ended
    exact absurd (ended ⟨scheme,begins⟩).1 full
  | ok record =>
    rw [outcome] at ended
    obtain ⟨-,⟨-,same⟩ | ⟨nothing,-⟩⟩ := ended
    · exact ⟨record,rfl,same⟩
    · exact absurd nothing full

theorem signedRun_lands (codec : Codec) (destPath : String) :
    payload ((runUnchecked codec "oci://r/m" destPath (signedRun codec)).final
      ⟨Volume.empty,none⟩).volume ["weights"]=some (.file [1]) := by
  have nothing : Volume.empty.readDir=[] := (readDir_eq_nil_iff _).mpr ⟨fun _ => rfl,rfl⟩
  have free := signedTree_free codec
  have ended := (runUnchecked_meets ⟨Volume.empty,none⟩ :
    (runUnchecked codec "oci://r/m" destPath (signedRun codec)).Meets _ _ _).2
  cases outcome : (runUnchecked codec "oci://r/m" destPath (signedRun codec)).result
      ⟨Volume.empty,none⟩ with
  | error e =>
    rw [outcome] at ended
    exact absurd ⟨rfl,free.state,free.staging⟩ (ended ⟨"oci".toList,by decide,rfl⟩).2
  | ok record =>
    rw [outcome] at ended
    obtain ⟨-,⟨full,-⟩ | ⟨-,-,-,files⟩⟩ := ended
    · exact absurd nothing full
    · rw [files,movedFile,pullResult]
      rfl

end KServeLLM.Initializer
