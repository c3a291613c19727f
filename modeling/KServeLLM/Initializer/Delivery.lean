import KServeLLM.Initializer.Runs

namespace KServeLLM.Initializer

variable {p : TreePath}

section

variable (hexSum : List UInt8 → String) (codec : Codec) (uri : String)

def fileAt (t : Tree) (p : TreePath) : Option Kind := (t.node p).filter (·≠.dir)

def payload (v : Volume) (p : TreePath) : Option Kind :=
  if p.head?=some verificationStateDir ∨ p.head?=some stagingDirectory then none
  else fileAt v.tree p

def pulledFile (pa : Passed) (p : TreePath) : Option Kind :=
  if p.head?=some verificationStateDir ∨ pa.staged.node p=(freshTree codec uri).node p then none
  else fileAt pa.staged p

def Delivers (w : World) (record : RuntimeVerificationRecord) : Prop :=
  ∃pa,w.passed=some pa ∧ (∀p,payload w.volume p=pulledFile codec uri pa p) ∧
    directoryDigest hexSum w.volume.tree=.ok record.contentDigest

def Whole (v : Volume) (pa : Passed) : Prop :=
  ∀p,pulledFile codec uri pa p≠none → v.rest.node p≠none

variable {hexSum codec uri} {v : Volume} {pa : Passed}

theorem fresh_node (other : p≠[stagingStateFile]) :
    (freshTree codec uri).node p=none := if_neg other

theorem fileAt_of_none {t : Tree} (h : t.node p=none) : fileAt t p=none := by
  rw [fileAt,h]
  rfl

theorem pulledFile_eq (other : p≠[stagingStateFile])
    (below : p.head?≠some verificationStateDir) : pulledFile codec uri pa p=fileAt pa.staged p := by
  unfold pulledFile
  rw [fresh_node other]
  by_cases used : pa.staged.node p=none
  · rw [if_pos (.inr used),fileAt_of_none used]
  · rw [if_neg (not_or.mpr ⟨below,used⟩)]

theorem pulledFile_ne_none {k : Kind} (other : p≠[stagingStateFile])
    (below : p.head?≠some verificationStateDir) (node : pa.staged.node p=some k)
    (file : k≠.dir) : pulledFile codec uri pa p≠none := by
  rw [pulledFile_eq other below,fileAt,node,Option.filter_some,if_pos (by simpa using file)]
  nofun

theorem committed_eq (other : p≠[stagingStateFile])
    (below : p.head?≠some verificationStateDir) : committed codec pa p=pa.staged.node p := by
  unfold committed
  rw [if_neg fun same => below (by rw [same]; rfl),if_neg fun same => below (by rw [same]; rfl),
    if_neg other]

theorem Whole.payload (whole : Whole codec uri v pa) (moving : Moving hexSum codec uri v pa)
    (p : TreePath) : payload v p=pulledFile codec uri pa p := by
  unfold Initializer.payload
  by_cases below : p.head?=some verificationStateDir
  · rw [if_pos (.inl below),pulledFile,if_pos (.inl below)]
  by_cases staged : p.head?=some stagingDirectory
  · rw [if_pos (.inr staged)]
    by_contra used
    exact whole p (Ne.symm used) (v.rest_apart staged)
  rw [if_neg (not_or.mpr ⟨below,staged⟩)]
  by_cases none' : v.rest.node p=none
  · rw [fileAt_of_none ((tree_node v staged).trans none')]
    by_contra used
    exact whole p (Ne.symm used) none'
  · have node := moving.moved p none'
    have other : p≠[stagingStateFile] := by
      rintro rfl
      exact none' (node.trans committed_state)
    rw [committed_eq other below] at node
    rw [pulledFile_eq other below,fileAt,tree_node v staged,node]
    rfl

theorem Hashed.top (h : Hashed p) (below : p.head?=some verificationStateDir) :
    p=[verificationStateDir] := by
  match p,below with
  | [n],below => rw [Option.some.inj below]
  | n::m::q,below =>
    obtain rfl : n=verificationStateDir := Option.some.inj below
    exact absurd (by simp) h.1

theorem Hashed.tail {n : String} {q : TreePath} (h : Hashed (n::q)) (deep : q≠[]) : Hashed q := by
  obtain ⟨below,_⟩ := h
  refine ⟨fun mem => below ?_,?_⟩
  · rw [List.dropLast_cons_of_ne_nil deep]
    exact List.mem_cons_of_mem n mem
  · have same : entryName (n::q)=entryName q := by
      match q,deep with
      | m::q,_ => rfl
    rwa [← same]

theorem Hashed.not_state (h : Hashed p) : p≠[stagingStateFile] := by
  rintro rfl
  exact h.2 rfl

theorem committed_hashed {k : Kind} (hashed : Hashed p)
    (node : committed codec pa p=some k) (file : k≠.dir) :
    p.head?≠some verificationStateDir ∧ pa.staged.node p=some k := by
  have below : p.head?≠some verificationStateDir := by
    intro below
    rw [hashed.top below,committed] at node
    exact file (Option.some.inj node).symm
  exact ⟨below,(committed_eq hashed.not_state below).symm.trans node⟩

theorem Moving.hashed (moving : Moving hexSum codec uri v pa) {k : Kind}
    (hashed : Hashed p) (node : v.tree.node p=some k) (file : k≠.dir) :
    pa.staged.node p=some k ∨ ∃n q,Hashed (n::q) ∧ n≠verificationStateDir ∧
      pa.staged.node (n::q)=some k ∧ v.rest.node [n]=none := by
  by_cases staged : p.head?=some stagingDirectory
  · right
    match p,staged with
    | n::q,staged =>
      obtain rfl : n=stagingDirectory := Option.some.inj staged
      cases there : v.staging with
      | none =>
        rw [Volume.tree,there] at node
        have apart := v.rest_apart staged
        rw [node] at apart
        cases apart
      | some t =>
        match q with
        | [] =>
          rw [Volume.tree,there] at node
          exact absurd (Option.some.inj node).symm file
        | m::q =>
          rw [tree_node_staging v there (by simp)] at node
          have inner := hashed.tail (by simp)
          obtain ⟨same,free⟩ := moving.left t there (m::q) (by rw [node]; nofun) inner.not_state
          obtain ⟨below,pulled⟩ := committed_hashed inner (same.symm.trans node) file
          exact ⟨m,q,inner,fun own => below (by rw [own]; rfl),pulled,free m rfl⟩
  · left
    rw [tree_node v staged] at node
    have same := moving.moved p (by rw [node]; nofun)
    exact (committed_hashed hashed (same.symm.trans node) file).2

theorem Whole.digest (whole : Whole codec uri v pa) (moving : Moving hexSum codec uri v pa) :
    directoryDigest hexSum v.tree=.ok pa.record.contentDigest := by
  obtain ⟨clean,digest⟩ := (directoryDigest_ok_iff hexSum).mp moving.vouches.digest
  refine (directoryDigest_ok_iff hexSum).mpr ⟨fun p hashed link => ?_,?_⟩
  · rcases moving.hashed hashed link nofun with pulled | ⟨n,q,inner,-,pulled,-⟩
    · exact clean p hashed pulled
    · exact clean _ inner pulled
  · rw [digest]
    congr 3
    refine digestParts_congr fun p hashed => ?_
    ext c
    rw [content_eq_some,content_eq_some]
    constructor
    · intro pulled
      have below : p.head?≠some verificationStateDir := by
        intro below
        rw [hashed.top below] at pulled
        exact moving.stateDir.not_file c pulled
      have used := whole p (pulledFile_ne_none hashed.not_state below pulled nofun)
      have staged : p.head?≠some stagingDirectory := fun own => used (v.rest_apart own)
      rw [tree_node v staged,moving.moved p used,committed_eq hashed.not_state below,pulled]
    · intro node
      rcases moving.hashed hashed node nofun with pulled | ⟨n,q,inner,other,pulled,free⟩
      · exact pulled
      · have below : (n::q).head?≠some verificationStateDir :=
          fun own => other (Option.some.inj own)
        have used := whole _ (pulledFile_ne_none inner.not_state below pulled nofun)
        exact absurd free (v.rest.top used)

theorem delivers_iff {w : World} (passed : w.passed=some pa)
    (moving : Moving hexSum codec uri w.volume pa) :
    Delivers hexSum codec uri w pa.record ↔ Whole codec uri w.volume pa := by
  constructor
  · rintro ⟨pa',passed',same,-⟩ p used
    obtain rfl : pa=pa' := Option.some.inj (passed.symm.trans passed')
    rw [← same,payload] at used
    split at used
    · exact absurd rfl used
    · rename_i outside
      rw [fileAt,tree_node _ (not_or.mp outside).2] at used
      intro none'
      rw [none'] at used
      exact used rfl
  · intro whole
    exact ⟨pa,passed,whole.payload moving,whole.digest moving⟩

end

variable {hexSum : List UInt8 → String} {codec : Codec} {uri : String}

def KeepsState (codec : Codec) (uri : String) (staged : Tree) : Prop :=
  staged.node [stagingStateFile]=none ∨
    staged.node [stagingStateFile]=(freshTree codec uri).node [stagingStateFile]

variable {record : RuntimeVerificationRecord}

theorem Landed.whole_iff {u : RunInput} {x : World}
    (h : Landed hexSum codec uri u record x) (free : Free (pulled codec uri u)) :
    Whole codec uri x.volume ⟨pulled codec uri u,record⟩ ↔
      KeepsState codec uri (pulled codec uri u) := by
  constructor
  · intro whole
    by_contra own
    obtain ⟨used,changed⟩ := not_or.mp own
    obtain ⟨_,file⟩ := free.state.resolve_left used
    refine whole [stagingStateFile] ?_ ((h.rest _).trans committed_state)
    have other : ¬(([stagingStateFile]).head?=some verificationStateDir ∨
        (pulled codec uri u).node [stagingStateFile]=
          (freshTree codec uri).node [stagingStateFile]) := not_or.mpr ⟨by decide,changed⟩
    rw [pulledFile,if_neg other,fileAt,file]
    nofun
  · intro keeps p used
    rw [h.rest]
    by_cases state : p=[stagingStateFile]
    · subst state
      refine absurd ?_ used
      unfold pulledFile
      rcases keeps with none' | same
      · rw [fileAt_of_none none',ite_self]
      · rw [if_pos (.inr same)]
    · have below : p.head?≠some verificationStateDir := fun below => used (if_pos (.inl below))
      rw [committed_eq state below]
      rw [pulledFile_eq state below] at used
      exact mt fileAt_of_none used

theorem cached_moving {w : World} (inv : Inv hexSum codec uri True w)
    (hit : cacheHit hexSum codec uri w.volume=some record) :
    w.passed=none ∨ ∃pa,w.passed=some pa ∧ pa.record=record ∧
      Moving hexSum codec uri w.volume pa := by
  have loaded : loadCachedRuntimeVerificationRecord codec w.volume=some record := by
    unfold cacheHit at hit
    split at hit
    · cases hit
    · exact (Option.filter_eq_some_iff.mp hit).1
  obtain ⟨bytes,found,decoded⟩ := Option.bind_eq_some_iff.mp loaded
  rw [content_eq_some,tree_node _ (by decide)] at found
  rcases inv with ⟨-,none'⟩ | bare | ⟨pa,passed,moving⟩
  · exact .inl none'
  · rw [bare] at found
    cases found
  · have node := moving.moved _ (by rw [found]; nofun)
    rw [found,committed,if_neg (by decide)] at node
    obtain rfl : bytes=codec.encodeRecord pa.record := by simpa using node
    rw [codec.record_decodes] at decoded
    exact .inr ⟨pa,passed,Option.some.inj decoded,moving⟩

theorem cached_delivers_iff {w : World} (inv : Inv hexSum codec uri True w)
    (hit : cacheHit hexSum codec uri w.volume=some record) :
    Delivers hexSum codec uri w record ↔ ∃pa,w.passed=some pa ∧ Whole codec uri w.volume pa := by
  rcases cached_moving inv hit with none' | ⟨pa,passed,rfl,moving⟩
  · have unpassed pa : w.passed≠some pa := by simp [none']
    refine iff_of_false ?_ ?_
    · rintro ⟨pa,passed,-⟩
      exact unpassed pa passed
    · rintro ⟨pa,passed,-⟩
      exact unpassed pa passed
  · rw [delivers_iff passed moving]
    constructor
    · exact fun whole => ⟨pa,passed,whole⟩
    · rintro ⟨pa',passed',whole⟩
      obtain rfl : pa=pa' := Option.some.inj (passed.symm.trans passed')
      exact whole

def signedTree (codec : Codec) : Tree :=
  (freshTree codec "oci://r/m").put ["weights"] (.file [1])
    (Writable.open ⟨by simp,.inl rfl,.inl (fresh_node (by decide))⟩)

def signedRun (codec : Codec) : RunInput where
  client := none
  contents := [signedTree codec]
  pullError := none
  verification := ⟨⟨"/keys/cosign.pub","","",""⟩,none,.error "",none,.ok [],.ok [],.ok [],""⟩
  order := fun _ => []

theorem signedTree_node (codec : Codec) (p : TreePath) : (signedTree codec).node p=
    if p=["weights"] then some (.file [1]) else (freshTree codec "oci://r/m").node p := rfl

theorem signedTree_top {codec : Codec} (other : p≠["weights"])
    (other' : p≠[stagingStateFile]) : (signedTree codec).node p=none := by
  rw [signedTree_node,if_neg other,fresh_node other']

theorem signedTree_passes {hexSum : List UInt8 → String} {codec : Codec} :
    ∃record,assessProvenance hexSum codec "oci://r/m" "oci" (signedTree codec)
      (signedRun codec).verification=.ok record := by
  have clean : Clean (signedTree codec) := by
    intro p hashed link
    by_cases weights : p=["weights"]
    · rw [signedTree_node,if_pos weights] at link
      cases link
    · rw [signedTree_top weights hashed.not_state] at link
      cases link
  have digest := (directoryDigest_ok_iff hexSum).mpr ⟨clean,rfl⟩
  unfold assessProvenance
  rw [digest]
  exact ⟨_,rfl⟩

theorem signedTree_free (codec : Codec) : Free (signedTree codec) := by
  refine ⟨.inl ?_,.inl ?_,.inr ⟨_,rfl⟩,?_⟩
  · exact signedTree_top (by decide) (by decide)
  · exact signedTree_top (by decide) (by decide)
  · exact signedTree_top (by decide) (by decide)

theorem signedTree_listing {codec : Codec} {t : Tree}
    (noted : Noted codec ⟨signedTree codec,record⟩ t) :
    t.readDir.filter (·≠stagingStateFile)=[verificationStateDir,"weights"] := by
  have all : t.readDir=[verificationStateDir,stagingStateFile,"weights"] := by
    refine Tree.readDir_eq (by decide) fun n => ?_
    rw [noted]
    by_cases dir : n=verificationStateDir
    · simp [dir]
    by_cases weights : n="weights"
    · simp [weights,signedTree_node,verificationStateDir]
    by_cases state : n=stagingStateFile
    · simp [state,signedTree_node,freshTree,Tree.put_node,verificationStateDir,stagingStateFile]
    · have absent : (signedTree codec).node [n]=none :=
        signedTree_top (by simpa using weights) (by simpa using state)
      simp [weights,state,absent]
  rw [all]
  decide

theorem signedRun_reaches {hexSum : List UInt8 → String} {codec : Codec} {destPath : String}
    (passes : assessProvenance hexSum codec "oci://r/m" "oci" (signedTree codec)
      (signedRun codec).verification=.ok record) :
    (run hexSum codec "oci://r/m" destPath (signedRun codec)).Reaches ⟨Volume.empty,none⟩
      (Committing codec "oci://r/m" ⟨signedTree codec,record⟩ [verificationStateDir,"weights"]
        ["weights"]) := by
  have bare : Bare Volume.empty := fun _ => rfl
  have nothing : Volume.empty.readDir=[] := (readDir_eq_nil_iff _).mpr ⟨bare,rfl⟩
  have begins : Begins "oci://r/m" "oci".toList (signedRun codec) := ⟨by decide,rfl⟩
  have prepares := @prepare_meets hexSum codec "oci://r/m" destPath True ⟨Volume.empty,none⟩
    (.bare bare) (signedRun codec).order
  refine Interruptible.Reaches.of_eq ?_ (run_of_miss destPath begins (if_pos nothing))
  refine (prepares.unfailing fun _ _ h => h.1 (.inl nothing)).bind_reaches fun _ x h => ?_
  refine Interruptible.Reaches.andFinally ?_
  exact download_reaches h.2.1 ⟨rfl,⟨record,passes⟩,signedTree_free codec⟩ passes
    fun t noted => signedTree_listing noted

theorem cacheHit_of_committing {hexSum : List UInt8 → String} {pa : Passed} {files : List String}
    {names : List String} {x : World} (h : Committing codec uri pa files names x)
    (moved : verificationStateDir∉names) (subject : pa.record.subject=uri)
    (verified : pa.record.verified=true) :
    cacheHit hexSum codec uri x.volume=some pa.record := by
  have waiting q :
      ¬∃n∈names,(verificationStateDir::q).head?=some n := by
    rintro ⟨n,mem,head⟩
    exact moved (Option.some.inj head ▸ mem)
  have dir : x.volume.rest.node [verificationStateDir]=some .dir := by
    rw [h.rest,if_neg (waiting _),committed,if_pos rfl]
  have file : content x.volume.tree [verificationStateDir,verificationStateFile]=
      some (codec.encodeRecord pa.record) := by
    rw [content_eq_some,tree_node _ (by decide),h.rest,if_neg (waiting _),committed,
      if_neg (by decide),if_pos rfl]
  have full : x.volume.readDir≠[] := by
    intro nothing
    rw [((readDir_eq_nil_iff _).mp nothing).1] at dir
    cases dir
  have answered : answers hexSum uri x.volume pa.record=true := by
    simp [answers,subject,verified]
  rw [cacheHit,if_neg full,loadCachedRuntimeVerificationRecord,file,Option.bind_some,
    codec.record_decodes,Option.filter_some,if_pos answered]

end KServeLLM.Initializer
