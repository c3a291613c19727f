import KServeLLM.Initializer.Commit

namespace KServeLLM.Initializer

open Interruptible (Ends meets_pure meets_fail)

variable (hexSum : List UInt8 → String) (codec : Codec) (uri destPath : String)

structure Sound (scheme : String) (u : RunInput) : Prop where
  pulls : u.pullError=none
  passes : ∃record,
    assessProvenance hexSum codec uri scheme (pulled codec uri u) u.verification=.ok record
  free : Free (pulled codec uri u)

def Begins (scheme : List Char) (u : RunInput) : Prop :=
  schemeOf uri.toList=some scheme ∧ u.client=none

def Cached (v : Volume) (u : RunInput) : Prop :=
  ∃scheme,Begins uri scheme u ∧ cacheHit hexSum codec uri v≠none

def Commits (v : Volume) (u : RunInput) : Prop :=
  ∃scheme,Begins uri scheme u ∧ cacheHit hexSum codec uri v=none ∧ Recoverable codec uri v ∧
    Sound hexSum codec uri (String.ofList scheme) u

structure Landed (u : RunInput) (record : RuntimeVerificationRecord) (x : World) : Prop where
  passed : x.passed=some ⟨pulled codec uri u,record⟩
  moving : Moving hexSum codec uri x.volume ⟨pulled codec uri u,record⟩
  rest : ∀p,x.volume.rest.node p=committed codec ⟨pulled codec uri u,record⟩ p

variable {hexSum codec uri} {foreign : Prop} {w : World}

theorem download_meets (fresh : Fresh codec uri w) {scheme : String} {u : RunInput} :
    (download hexSum codec uri scheme u).Meets w (Inv hexSum codec uri foreign)
      (Ends (fun record x => Sound hexSum codec uri scheme u ∧ Landed hexSum codec uri u record x)
        fun _ x => ¬Sound hexSum codec uri scheme u ∧ Inv hexSum codec uri foreign x) := by
  refine (pull_meets fresh u).bind (fun _ x h => ?_) fun _ x h => ⟨fun all => h.1 all.pulls,h.2⟩
  obtain ⟨pulls,bare,there,-⟩ := h
  refine (assess_meets bare there scheme u).bind (fun record y h => ?_) fun _ y h => ?_
  · obtain ⟨passes,same,passed⟩ := h
    have vouches := assessProvenance_vouches hexSum codec passes
    have bare' : Bare y.volume := same ▸ bare
    have there' : y.volume.staging=some (pulled codec uri u) := same ▸ there
    refine (wrap_meets (writeRecord_meets ⟨pulled codec uri u,record⟩ bare' there') _ _).bind
      (fun _ z h => ?_) fun _ z h => ⟨fun all => h.1 all.free,h.2⟩
    obtain ⟨stateDir,room,bare'',passed',t,there'',noted⟩ := h
    refine (wrap_meets (commit_meets bare'' (passed'.trans passed) vouches stateDir there'' noted)
      _ _).bind (fun _ a h => ?_) fun _ a h => ⟨fun all => h.1 all.free,h.2⟩
    obtain ⟨state,staging,landed⟩ := h
    exact meets_pure ⟨⟨pulls,⟨record,passes⟩,stateDir,room,state,staging⟩,landed.1,landed.2.1,
      landed.2.2⟩
  · obtain ⟨fails,inv⟩ := h
    refine ⟨fun all => ?_,inv⟩
    obtain ⟨record,passes⟩ := all.passes
    exact fails record passes

variable {record : RuntimeVerificationRecord} {u : RunInput}

theorem download_reaches (fresh : Fresh codec uri w) {scheme : String}
    (sound : Sound hexSum codec uri scheme u)
    (passes : assessProvenance hexSum codec uri scheme (pulled codec uri u) u.verification=
      .ok record) {name : String} {names : List String}
    (listing : ∀t,Noted codec ⟨pulled codec uri u,record⟩ t →
      t.readDir.filter (·≠stagingStateFile)=name::names) :
    (download hexSum codec uri scheme u).Reaches w
      (Committing codec uri ⟨pulled codec uri u,record⟩ (name::names) names) := by
  have vouches := assessProvenance_vouches hexSum codec passes
  have pulls := @pull_meets hexSum codec uri True w fresh u
  refine (pulls.unfailing fun _ _ h => h.1 sound.pulls).bind_reaches fun _ x h => ?_
  obtain ⟨-,bare,there,-⟩ := h
  have assesses := @assess_meets hexSum codec uri True x _ bare there scheme u
  refine (assesses.unfailing fun _ _ h => h.1 record passes).bind_reaches fun record' y h => ?_
  obtain ⟨passes',same,passed⟩ := h
  obtain rfl : record=record' := Except.ok.inj (passes.symm.trans passes')
  have notes := wrap_meets (@writeRecord_meets hexSum codec uri True y ⟨pulled codec uri u,record⟩
    (same ▸ bare) (same ▸ there)) "persist verification state: %w" []
  refine (notes.unfailing fun _ _ h => h.1 sound.free).bind_reaches fun _ z h => ?_
  obtain ⟨_,-,bare',passed',t,there',noted⟩ := h
  refine (Interruptible.Reaches.mapError ?_).bind
  exact commit_reaches bare' (passed'.trans passed) vouches sound.free there' noted
    (listing t noted)

theorem removeStaging_landed {x : World}
    (h : Landed hexSum codec uri u record x) {order : List TreePath} :
    (removeStaging order).Meets x (Inv hexSum codec uri foreign)
      fun _ y => Landed hexSum codec uri u record y := by
  refine (removeStaging_meets).mono (fun y left => ?_) fun _ y gone => ?_
  · exact .inr (.inr ⟨_,left.2.2.trans h.passed,h.moving.within left.1⟩)
  · obtain ⟨-,volume,passed⟩ := gone
    refine ⟨passed.trans h.passed,?_,fun p => ?_⟩
    · rw [volume]
      exact h.moving.within (within_unstaged)
    · rw [volume]
      exact h.rest p

theorem run_of_hit {scheme : List Char} {u : RunInput} (begins : Begins uri scheme u) {w : World}
    {record : RuntimeVerificationRecord} (hit : cacheHit hexSum codec uri w.volume=some record) :
    run hexSum codec uri destPath u w=(pure record : Call RuntimeVerificationRecord) w := by
  unfold run
  rw [begins.1]
  simp [begins.2,Interruptible.get_bind,hit]

theorem run_of_miss {scheme : List Char} (begins : Begins uri scheme u)
    (miss : cacheHit hexSum codec uri w.volume=none) : run hexSum codec uri destPath u w=(do
      prepareStagingDirectory codec uri destPath u.order
      (download hexSum codec uri (String.ofList scheme) u).andFinally
        (removeStaging (u.order .cleanup)) : Call RuntimeVerificationRecord) w := by
  unfold run
  rw [begins.1]
  simp [begins.2,Interruptible.get_bind,miss]

theorem run_refused {u : RunInput} (never : ∀scheme,¬Begins uri scheme u) (w : World) :
    ∃e,run hexSum codec uri destPath u w=
      (Interruptible.fail e : Call RuntimeVerificationRecord) w := by
  unfold run
  cases parsed : schemeOf uri.toList with
  | none => exact ⟨_,rfl⟩
  | some scheme =>
    cases registered : u.client with
    | some e => exact ⟨_,rfl⟩
    | none => exact absurd ⟨parsed,registered⟩ (never scheme)

theorem transact_meets (inv : Inv hexSum codec uri foreign w) {scheme : String} {u : RunInput} : (do
      prepareStagingDirectory codec uri destPath u.order
      (download hexSum codec uri scheme u).andFinally
        (removeStaging (u.order .cleanup)) : Call RuntimeVerificationRecord).Meets w
      (Inv hexSum codec uri foreign)
      (Ends (fun record x => (Recoverable codec uri w.volume ∧ Sound hexSum codec uri scheme u) ∧
          Landed hexSum codec uri u record x)
        fun _ x => ¬(Recoverable codec uri w.volume ∧ Sound hexSum codec uri scheme u) ∧
          Inv hexSum codec uri foreign x) := by
  refine (prepare_meets destPath inv u.order).bind (fun _ x h => ?_)
    fun _ x h => ⟨fun all => h.1 all.1,h.2⟩
  obtain ⟨recoverable,fresh,-⟩ := h
  refine (download_meets fresh).andFinally fun r y h => ?_
  cases r with
  | ok record =>
    exact (removeStaging_landed h.2).mono (fun _ h => h) fun _ z landed =>
      ⟨⟨recoverable,h.1⟩,landed⟩
  | error e =>
    refine (removeStaging_meets).mono (fun z left => h.2.within left.1 left.2.2)
      fun _ z gone => ⟨fun all => h.1 all.2,?_⟩
    exact h.2.within (gone.2.1 ▸ within_unstaged) gone.2.2

theorem run_meets (inv : Inv hexSum codec uri foreign w) (u : RunInput) :
    (run hexSum codec uri destPath u).Meets w (Inv hexSum codec uri foreign)
      (Ends (fun record x => Cached hexSum codec uri w.volume u ∧
            cacheHit hexSum codec uri w.volume=some record ∧ x=w ∨
          Commits hexSum codec uri w.volume u ∧ Landed hexSum codec uri u record x)
        fun _ x => ¬Cached hexSum codec uri w.volume u ∧ ¬Commits hexSum codec uri w.volume u ∧
          Inv hexSum codec uri foreign x) := by
  by_cases started : ∃scheme,Begins uri scheme u
  · obtain ⟨scheme,begins⟩ := started
    cases hit : cacheHit hexSum codec uri w.volume with
    | some record =>
      refine Interruptible.Meets.of_eq ?_ (run_of_hit destPath begins hit)
      exact meets_pure (.inl ⟨⟨scheme,begins,by rw [hit]; nofun⟩,rfl,rfl⟩)
    | none =>
      have uncached : ¬Cached hexSum codec uri w.volume u := fun ⟨_,_,found⟩ => found hit
      refine ((transact_meets destPath inv).mono (fun _ h => h)
        fun r x h => ?_).of_eq (run_of_miss destPath begins hit)
      cases r with
      | ok record => exact .inr ⟨⟨scheme,begins,hit,h.1.1,h.1.2⟩,h.2⟩
      | error e =>
        refine ⟨uncached,fun all => ?_,h.2⟩
        obtain ⟨scheme',begins',-,able⟩ := all
        obtain rfl : scheme=scheme' := Option.some.inj (begins.1.symm.trans begins'.1)
        exact h.1 able
  · obtain ⟨e,refused⟩ := @run_refused hexSum codec uri destPath u (not_exists.mp started) w
    refine Interruptible.Meets.of_eq (meets_fail ⟨?_,?_,inv⟩) refused
    · exact fun ⟨scheme,begins,_⟩ => started ⟨scheme,begins⟩
    · exact fun ⟨scheme,begins,_⟩ => started ⟨scheme,begins⟩

theorem Landed.inv {x : World}
    (h : Landed hexSum codec uri u record x) : Inv hexSum codec uri foreign x :=
  .inr (.inr ⟨_,h.passed,h.moving⟩)

theorem leaves_inv (inv : Inv hexSum codec uri foreign w) {r : PastRun} :
    Inv hexSum codec uri foreign (leaves hexSum codec uri destPath w r) := by
  have spec := run_meets destPath inv r.input
  unfold leaves
  cases r.killed with
  | some k => exact spec.killed inv k
  | none =>
    have ended := spec.2
    cases outcome : (run hexSum codec uri destPath r.input).result w with
    | error e =>
      rw [outcome] at ended
      exact ended.2.2
    | ok record =>
      rw [outcome] at ended
      rcases ended with ⟨-,-,same⟩ | ⟨-,landed⟩
      · simp only [same]
        exact inv
      · exact landed.inv

theorem after_inv {start : Volume} (inv : Inv hexSum codec uri foreign ⟨start,none⟩)
    {history : List PastRun} :
    Inv hexSum codec uri foreign (after hexSum codec uri destPath start history) := by
  unfold after
  generalize (⟨start,none⟩ : World)=w at inv
  induction history generalizing w with
  | nil => exact inv
  | cons r history ih => exact ih _ (leaves_inv destPath inv)

theorem leaves_of_hit (hit : cacheHit hexSum codec uri w.volume=some record) {r : PastRun} :
    leaves hexSum codec uri destPath w r=w := by
  have stays : (run hexSum codec uri destPath r.input).Meets w (·=w) fun _ x => x=w := by
    by_cases started : ∃scheme,Begins uri scheme r.input
    · obtain ⟨_,begins⟩ := started
      exact .of_eq (meets_pure rfl) (run_of_hit destPath begins hit)
    · obtain ⟨_,refused⟩ := run_refused destPath (not_exists.mp started) w
      exact .of_eq (meets_fail rfl) refused
  unfold leaves
  cases r.killed with
  | some k => exact stays.killed rfl k
  | none => exact stays.2

end KServeLLM.Initializer
