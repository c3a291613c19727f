import KServeLLM.Framework.Effects
import KServeLLM.Framework.GoPath
import KServeLLM.Storage.ChunkedDownload

namespace KServeLLM.Storage.PullPaths

open GoString GoPath Effects

inductive FileOp where
  | mkdirAll (path : GoString)
  | create (path : GoString)
  | rename (src dst : GoString)
  | remove (path : GoString)
  | removeAll (path : GoString)
  deriving DecidableEq

def FileOp.written : FileOp → Option GoString
  | .create path => some path
  | .rename _ dst => some dst
  | .mkdirAll _ | .remove _ | .removeAll _ => none

abbrev FileCall := Effects FileOp (Option DownloadError)

def text (s : GoString) : ErrArg := .str (String.ofList s)

def refused (answer : Option String) : Option (Option DownloadError) :=
  answer.map fun t => some (.external t)

def refusedAs (format : String) (args : List ErrArg) (answer : Option String) :
    Option (Option DownloadError) :=
  answer.map fun t => some (.errorf format args (.external t))

def wrapped {α : Type} (format : String) (args : List ErrArg) (x : FileCall α) : FileCall α :=
  x.mapError (Option.map (.errorf format args))

inductive Response where
  | failed (text : String)
  | replied (statusCode : Nat) (status : String) (contentLength : Int64) (acceptRanges : String)

structure ChunkAnswers where
  stat : Option Int64
  response : Response
  create : Option String
  copy : Except String Nat
  (rename openChunk copyChunk : Option String)

structure DownloadAnswers where
  head : Response
  (mkdir mkdirChunks : Option String)
  fuel : Nat
  chunk : Nat → ChunkAnswers
  response : Response
  (create copy rename : Option String)
  verify : Option DownloadError

def largeFileThreshold : Int64 := 1*1024*1024*1024

def probeFile (url : GoString) : Response → Except (Option DownloadError) (Int64×Bool)
  | .failed t => .error (some (.external t))
  | .replied code status size acceptRanges =>
      if code≠200 then .error (some (.plain ⟨"HEAD %s returned %s",[text url,.str status]⟩))
      else .ok (size,acceptRanges.toLower=="bytes" && decide (0 < size))

def accept (codes : List Nat) (otherwise : String → DownloadError) :
    Response → Option (Option DownloadError)
  | .failed t => some (some (.external t))
  | .replied code status _ _ => if code∈codes then none else some (some (otherwise status))

def copyRefusal (c : ChunkDescriptor) : Except String Nat → Option (Option DownloadError)
  | .error t => some (some (.external t))
  | .ok written =>
      if (written : Int)≠c.expectedSize.toInt then some (some (shortWrite c written)) else none

def downloadChunk (path : GoString) (c : ChunkDescriptor) (a : ChunkAnswers) : FileCall Unit := do
  require (accept [206,200] (unexpectedStatus c) a.response)
  let tmpPath := path++".partial".toList
  perform (.create tmpPath) (refused a.create)
  (require (copyRefusal c a.copy)).onFailure (.remove tmpPath)
  perform (.rename tmpPath path) (refused a.rename)

def chunkName (i : Nat) : GoString := "chunk_".toList++(Nat.toDigits 10 i).leftpad 5 '0'

def chunkPath (destFile : GoString) (c : ChunkDescriptor) : GoString :=
  joinPath [destFile++".chunks".toList,chunkName c.index]

def assembleChunks (chunks : List ChunkDescriptor) (destFile : GoString) (a : DownloadAnswers) :
    FileCall Unit := do
  perform (.create destFile) (refusedAs "failed to create assembled file: %w" [] a.create)
  forM chunks fun c => do
    require (refusedAs "failed to open chunk %d: %w" [.int c.index] (a.chunk c.index).openChunk)
    require (refusedAs "failed to copy chunk %d: %w" [.int c.index] (a.chunk c.index).copyChunk)

def downloadChunked (d : ParallelDownloader) (destFile : GoString) (fileSize : Int64)
    (a : DownloadAnswers) : FileCall Unit := do
  perform (.mkdirAll (dir destFile)) (refused a.mkdir)
  let chunksDir := destFile++".chunks".toList
  perform (.mkdirAll chunksDir) (refusedAs "failed to create chunks dir: %w" [] a.mkdirChunks)
  -- without enough fuel the loop that builds the descriptors has not ended
  match buildChunks d.chunkSize fileSize a.fuel 0 0 with
  | none => fail none
  | some chunks => do
    let toDownload := chunks.filter fun c => (a.chunk c.index).stat≠some c.expectedSize
    let errs ← gather (toDownload.map fun c => wrapped "chunk %d: %w" [.int c.index]
      (downloadChunk (chunkPath destFile c) c (a.chunk c.index)))
    require (if errs=[] then none
      else some (some (.joined "parallel download failed:\n  %s" "\n  " errs.reduceOption)))
    let tmpFile := destFile++".tmp".toList
    (assembleChunks chunks tmpFile a).onFailure (.remove tmpFile)
    (perform (.rename tmpFile destFile)
      (refusedAs "failed to finalize file: %w" [] a.rename)).onFailure (.remove tmpFile)
    record (.removeAll chunksDir)

def downloadSimple (url destFile : GoString) (a : DownloadAnswers) : FileCall Unit := do
  perform (.mkdirAll (dir destFile)) (refused a.mkdir)
  require (accept [200] (fun status => .plain ⟨"download %s failed: %s",[text url,.str status]⟩)
    a.response)
  let tmpFile := destFile++".tmp".toList
  perform (.create tmpFile) (refused a.create)
  (require (refused a.copy)).onFailure (.remove tmpFile)
  perform (.rename tmpFile destFile) (refused a.rename)

def downloadFile (d : ParallelDownloader) (url destFile expectedSHA256 : GoString)
    (a : DownloadAnswers) : FileCall Unit := do
  let probed ← wrapped "parallel download: probe failed for %s: %w" [text url]
    (lift (probeFile url a.head))
  if largeFileThreshold ≤ probed.1 ∧ probed.2 then downloadChunked d destFile probed.1 a
  else downloadSimple url destFile a
  (require (if expectedSHA256=[] then none else a.verify.map some)).onFailure (.remove destFile)

inductive EntryType where
  | file | directory
  | other (text : String)
  deriving DecidableEq

structure HFTreeEntry where
  type : EntryType
  path : GoString

def repoFiles (entries : List HFTreeEntry) : List GoString :=
  (entries.filter (·.type=.file)).map (·.path)

structure HubAnswers where
  baseURL : GoString
  downloader : ParallelDownloader
  skipChecksum : Bool
  tree : Except DownloadError (List HFTreeEntry)
  checksums : Option (GoString → Option GoString)
  file : Nat → DownloadAnswers
  verifyDirectory : Option DownloadError

def hubRef (uri : GoString) : GoString×GoString :=
  let ref := trimPrefix (trimPrefix uri "hf://".toList) "huggingface://".toList
  (cut '@' ref).getD (ref,"main".toList)

def huggingFacePull (a : HubAnswers) (uri destPath : GoString) : FileCall Unit := do
  let repo := (hubRef uri).1
  let revision := (hubRef uri).2
  let entries ← wrapped "failed to list repo files: %w" [] (lift (a.tree.mapError some))
  let files := repoFiles entries
  require (if files=[] then
    some (some (.plain ⟨"no files found in repo %s at revision %s",[text repo,text revision]⟩))
    else none)
  -- a failed fetch is only a warning
  let checksums := if a.skipChecksum then none else a.checksums
  forM files.zipIdx fun file => do
    let fileURL := a.baseURL++ '/'::repo++"/resolve/".toList++revision++ '/'::file.1
    let destFile := joinPath [destPath,file.1]
    let expectedHash := (checksums.bind (· file.1)).getD []
    wrapped "failed to download %s: %w" [text file.1]
      (downloadFile a.downloader fileURL destFile expectedHash (a.file file.2))
  require (if checksums.isSome then a.verifyDirectory.map some else none)

structure ObjectAnswers where
  (mkdir create getObject copy : Option String)

structure BucketAnswers where
  config : Option String
  pages : List (Except String (List (Option GoString×ObjectAnswers)))

def relPath (key objKey : GoString) : GoString :=
  let rel := trimPrefix objKey key
  if rel=[] ∧ ¬['/'].isSuffixOf key then base key else rel

def pullObject (bucket key objKey destPath : GoString) (a : ObjectAnswers) : FileCall Unit := do
  let destFile := joinPath [destPath,relPath key objKey]
  perform (.mkdirAll (dir destFile)) (refused a.mkdir)
  perform (.create destFile) (refused a.create)
  require (refusedAs "failed to initiate download for s3://%s/%s: %w" [text bucket,text objKey]
    a.getObject)
  require (refusedAs "failed to download s3://%s/%s: %w" [text bucket,text objKey] a.copy)

def s3Pull (a : BucketAnswers) (uri destPath : GoString) : FileCall Unit :=
  match cut '/' (trimPrefix uri "s3://".toList) with
  | none => fail (some (.plain ⟨"invalid S3 URI format, expected s3://bucket/path: %s",[text uri]⟩))
  | some (bucket,key) => do
    require (refusedAs "failed to load S3 config: %w" [] a.config)
    forM a.pages fun page => do
      let contents ← wrapped "failed to list S3 objects: %w" []
        (lift (page.mapError fun t => some (.external t)))
      forM contents fun obj => match obj.1 with
        | none => pure ()
        | some objKey => pullObject bucket key objKey destPath obj.2

variable (d : ParallelDownloader) {op : FileOp} {path url uri bucket objKey : GoString}
  {entries : List HFTreeEntry}

section

variable (cwd : List GoString) (destPath : GoString)

def Inside (op : FileOp) : Prop := ∀p∈op.written,Below (resolve cwd destPath) (resolve cwd p)

variable {cwd destPath}

theorem inside_of_written {p : GoString} (writes : op.written=some p)
    (h : Below (resolve cwd destPath) (resolve cwd p)) : Inside cwd destPath op := by
  intro q mem
  rw [writes,Option.mem_some_iff] at mem
  exact mem ▸ h

theorem inside_of_none (silent : op.written=none) : Inside cwd destPath op := by
  intro q mem
  rw [silent] at mem
  cases mem

theorem chunkName_free {i : Nat} : '/'∉chunkName i := by
  intro mem
  unfold chunkName at mem
  rw [List.leftpad,List.mem_append,List.mem_append] at mem
  rcases mem with label | zeros | digits
  · revert label
    decide
  · exact absurd (List.eq_of_mem_replicate zeros) (by decide)
  · exact absurd (Nat.isDigit_of_mem_toDigits (by decide) (by decide) digits) (by decide)

theorem chunkName_length (i : Nat) : 6 ≤ (chunkName i).length := by
  have label : "chunk_".toList.length=6 := by decide
  have split := @List.length_append _ "chunk_".toList ((Nat.toDigits 10 i).leftpad 5 '0')
  unfold chunkName
  omega

variable {destFile : GoString} {c : ChunkDescriptor}

theorem chunkPath_below (h : Below (resolve cwd destPath) (resolve cwd destFile)) :
    Below (resolve cwd destPath) (resolve cwd (chunkPath destFile c)) := by
  have size := chunkName_length c.index
  refine Below.joinPath (h.suffix (by decide) (by decide)) (by simp) (chunkName_free)
    ?_ ?_ ?_ <;> intro same <;> simp [same,dot,dotDot] at size

theorem downloadChunk_within {a : ChunkAnswers}
    (h : Below (resolve cwd destPath) (resolve cwd path)) :
    (downloadChunk path c a).Within (Inside cwd destPath) := by
  have beside := h.suffix (show '/'∉".partial".toList by decide) (by decide)
  refine (within_require).bind fun _ _ => ?_
  refine (within_perform (inside_of_written rfl beside)).bind fun _ _ => ?_
  refine ((within_require).onFailure (inside_of_none rfl)).bind fun _ _ => ?_
  exact within_perform (inside_of_written rfl h)

variable {a : DownloadAnswers}

theorem assembleChunks_within {chunks : List ChunkDescriptor}
    (h : Below (resolve cwd destPath) (resolve cwd destFile)) :
    (assembleChunks chunks destFile a).Within (Inside cwd destPath) := by
  refine (within_perform (inside_of_written rfl h)).bind fun _ _ => ?_
  refine within_forM fun c _ => ?_
  exact (within_require).bind fun _ _ => within_require

theorem downloadChunked_within {fileSize : Int64}
    (h : Below (resolve cwd destPath) (resolve cwd destFile)) :
    (downloadChunked d destFile fileSize a).Within (Inside cwd destPath) := by
  have beside := h.suffix (show '/'∉".tmp".toList by decide) (by decide)
  refine (within_perform (inside_of_none rfl)).bind fun _ _ => ?_
  refine (within_perform (inside_of_none rfl)).bind fun _ _ => ?_
  cases buildChunks _ _ _ 0 0 with
  | none => exact within_fail
  | some chunks =>
    refine (within_gather fun x mem => ?_).bind fun errs _ => ?_
    · obtain ⟨c,_,rfl⟩ := List.mem_map.mp mem
      exact (downloadChunk_within (chunkPath_below h)).mapError _
    refine (within_require).bind fun _ _ => ?_
    refine ((assembleChunks_within beside).onFailure (inside_of_none rfl)).bind fun _ _ => ?_
    refine ((within_perform (inside_of_written rfl h)).onFailure (inside_of_none rfl)).bind
      fun _ _ => ?_
    exact within_record (inside_of_none rfl)

theorem downloadSimple_within (h : Below (resolve cwd destPath) (resolve cwd destFile)) :
    (downloadSimple url destFile a).Within (Inside cwd destPath) := by
  have beside := h.suffix (show '/'∉".tmp".toList by decide) (by decide)
  refine (within_perform (inside_of_none rfl)).bind fun _ _ => ?_
  refine (within_require).bind fun _ _ => ?_
  refine (within_perform (inside_of_written rfl beside)).bind fun _ _ => ?_
  refine ((within_require).onFailure (inside_of_none rfl)).bind fun _ _ => ?_
  exact within_perform (inside_of_written rfl h)

theorem downloadFile_within {expectedSHA256 : GoString}
    (h : Below (resolve cwd destPath) (resolve cwd destFile)) :
    (downloadFile d url destFile expectedSHA256 a).Within (Inside cwd destPath) := by
  refine ((within_lift).mapError _).bind fun probed _ => ?_
  have verified : ((require (if expectedSHA256=[] then none else a.verify.map some)).onFailure
      (.remove destFile)).Within (Inside cwd destPath) :=
    (within_require).onFailure (inside_of_none rfl)
  by_cases large : largeFileThreshold ≤ probed.1 ∧ probed.2
  · rw [if_pos large]
    exact (downloadChunked_within d h).bind fun _ _ => verified
  · rw [if_neg large]
    exact (downloadSimple_within h).bind fun _ _ => verified

theorem huggingFacePull_within {a : HubAnswers}
    (listed : a.tree=.ok entries) (h : ∀file∈repoFiles entries,
      Below (resolve cwd destPath) (resolve cwd (joinPath [destPath,file]))) :
    (huggingFacePull a uri destPath).Within (Inside cwd destPath) := by
  refine ((within_lift).mapError _).bind fun found answer => ?_
  obtain rfl : entries=found := by
    rw [listed] at answer
    exact Except.ok.inj answer
  refine (within_require).bind fun _ _ => ?_
  refine (within_forM fun file mem => ?_).bind fun _ _ => within_require
  exact (downloadFile_within _ (h _ (List.fst_mem_of_mem_zipIdx mem))).mapError _

theorem pullObject_within {key : GoString} {a : ObjectAnswers}
    (h : Below (resolve cwd destPath) (resolve cwd (joinPath [destPath,relPath key objKey]))) :
    (pullObject bucket key objKey destPath a).Within (Inside cwd destPath) := by
  refine (within_perform (inside_of_none rfl)).bind fun _ _ => ?_
  refine (within_perform (inside_of_written rfl h)).bind fun _ _ => ?_
  exact (within_require).bind fun _ _ => within_require

end

def BucketAnswers.keys (a : BucketAnswers) : List GoString :=
  a.pages.flatMap fun page => match page with
    | .error _ => []
    | .ok contents => contents.filterMap (·.1)

variable {cwd : List GoString} {destPath : GoString}

theorem s3Pull_within {a : BucketAnswers} (h : ∀bucket key,
      cut '/' (trimPrefix uri "s3://".toList)=some (bucket,key) → ∀objKey∈a.keys,
        Below (resolve cwd destPath) (resolve cwd (joinPath [destPath,relPath key objKey]))) :
    (s3Pull a uri destPath).Within (Inside cwd destPath) := by
  unfold s3Pull
  cases parts : cut '/' _ with
  | none => exact within_fail
  | some parts' =>
    obtain ⟨_,key⟩ := parts'
    refine (within_require).bind fun _ _ => ?_
    refine within_forM fun page among => ?_
    refine ((within_lift).mapError _).bind fun contents answer => ?_
    have shown : page=.ok contents := by
      cases page with
      | error t => cases answer
      | ok found => exact congrArg _ (Except.ok.inj answer)
    refine within_forM fun obj mem => ?_
    obtain ⟨name,_⟩ := obj
    cases name with
    | none => exact within_pure
    | some objKey =>
      refine pullObject_within (h _ key parts _ ?_)
      refine List.mem_flatMap.mpr ⟨page,among,?_⟩
      rw [shown]
      exact List.mem_filterMap.mpr ⟨_,mem,rfl⟩

def grantedResponse : Response := .replied 200 "" 0 ""

def granted : DownloadAnswers :=
  ⟨grantedResponse,none,none,0,fun _ => ⟨none,grantedResponse,none,.ok 0,none,none,none⟩,
    grantedResponse,none,none,none,none⟩

theorem downloadFile_granted {destFile : GoString} :
    (downloadFile d url destFile [] granted).ops=[.mkdirAll (dir destFile),
      .create (destFile++".tmp".toList),.rename (destFile++".tmp".toList) destFile] ∧
    (downloadFile d url destFile [] granted).result=.ok () := ⟨rfl,rfl⟩

def grantingHub (entries : List HFTreeEntry) : HubAnswers :=
  ⟨[],⟨4,defaultChunkSize⟩,true,.ok entries,none,fun _ => granted,none⟩

theorem mem_ops_bind {α β : Type} {x : FileCall α} {a : α} (h : x.result=.ok a)
    (f : α → FileCall β) (mem : op∈x.ops ∨ op∈(f a).ops) : op∈(x >>= f).ops := by
  rw [(bind_of_ok h f).1]
  exact List.mem_append.mpr mem

theorem huggingFacePull_writes {destPath : GoString}
    {file : GoString} (mem : file∈repoFiles entries) :
    ∃op∈(huggingFacePull (grantingHub entries) uri destPath).ops,
      op.written=some (joinPath [destPath,file]) := by
  obtain ⟨i,place⟩ := List.getElem?_of_mem mem
  have numbered : (file,i)∈(repoFiles entries).zipIdx := List.mem_zipIdx_iff_getElem?.mpr place
  refine ⟨.rename (joinPath [destPath,file]++".tmp".toList) _,?_,rfl⟩
  refine mem_ops_bind (a := entries) rfl _ (.inr ?_)
  have listed e :
      (require (if repoFiles entries=[] then some e else none) : FileCall Unit).result=.ok () := by
    rw [if_neg (List.ne_nil_of_mem mem)]
    rfl
  refine mem_ops_bind (listed _) _ (.inr ?_)
  refine mem_ops_bind (a := ()) (forM_of_ok fun _ _ => rfl).2 _ (.inl ?_)
  rw [(forM_of_ok fun _ _ => rfl).1]
  refine List.mem_flatMap.mpr ⟨(file,i),numbered,?_⟩
  change _∈(downloadFile _ _ (joinPath [destPath,file]) [] granted).ops
  rw [(downloadFile_granted _).1]
  simp

def grantedObject : ObjectAnswers := ⟨none,none,none,none⟩

def grantingBucket (keys : List GoString) : BucketAnswers :=
  ⟨none,[.ok (keys.map fun key => (some key,grantedObject))]⟩

variable {keys : List GoString}

theorem grantingBucket_keys : (grantingBucket keys).keys=keys := by
  simp [BucketAnswers.keys,grantingBucket]

theorem s3Pull_writes {key : GoString} {destPath : GoString}
    (parts : cut '/' (trimPrefix uri "s3://".toList)=some (bucket,key)) (mem : objKey∈keys) :
    ∃op∈(s3Pull (grantingBucket keys) uri destPath).ops,
      op.written=some (joinPath [destPath,relPath key objKey]) := by
  refine ⟨.create _,?_,rfl⟩
  have ended x (among : x∈keys.map fun key => (some key,grantedObject)) : (match x.1 with
        | none => pure ()
        | some objKey => pullObject bucket key objKey destPath x.2).result=
          .ok () := by
    obtain ⟨k,_,rfl⟩ := List.mem_map.mp among
    rfl
  rw [s3Pull,parts]
  refine mem_ops_bind (a := ()) rfl _ (.inr ?_)
  -- the only page of the listing
  refine mem_ops_bind (a := ()) (forM_of_ok ended).2 _ (.inl ?_)
  rw [(forM_of_ok ended).1]
  refine List.mem_flatMap.mpr ⟨(some _,grantedObject),List.mem_map_of_mem mem,?_⟩
  change _∈[FileOp.mkdirAll _,.create _]
  simp

def Descends (cwd : List GoString) (destPath path : GoString) : Prop :=
  let d := resolve cwd destPath
  let way := climb (joinSteps cwd destPath path)
  Below (d.drop (d.length-way.1)) way.2

theorem below_joinPath_iff {cwd : List GoString} {destPath : GoString} :
    Below (resolve cwd destPath) (resolve cwd (joinPath [destPath,path])) ↔
      Descends cwd destPath path := by
  rw [resolve_joinSteps]
  exact below_walk_iff

theorem pull_inside_iff (cwd : List GoString) (destPath hubURI bucketURI : GoString)
    (entries : List HFTreeEntry) (keys : List GoString) :
    ((∀a : HubAnswers,a.tree=.ok entries →
        (huggingFacePull a hubURI destPath).Within (Inside cwd destPath)) ∧
      ∀a : BucketAnswers,a.keys=keys → (s3Pull a bucketURI destPath).Within (Inside cwd destPath)) ↔
    (∀file∈repoFiles entries,Descends cwd destPath file) ∧
      ∀bucket key,cut '/' (trimPrefix bucketURI "s3://".toList)=some (bucket,key) →
        ∀objKey∈keys,Descends cwd destPath (relPath key objKey) := by
  constructor
  · rintro ⟨hub,bucket⟩
    refine ⟨fun file mem => ?_,fun name key parts objKey mem => ?_⟩
    · obtain ⟨op,done,writes⟩ := huggingFacePull_writes mem
      rw [← below_joinPath_iff]
      exact hub (grantingHub entries) rfl op done _ writes
    · obtain ⟨op,done,writes⟩ := s3Pull_writes parts mem
      rw [← below_joinPath_iff]
      exact bucket (grantingBucket keys) (grantingBucket_keys) op done _ writes
  · rintro ⟨files,objects⟩
    refine ⟨fun a listed => ?_,fun a listed => ?_⟩
    · refine huggingFacePull_within listed fun file mem => ?_
      exact (below_joinPath_iff).mpr (files file mem)
    · refine s3Pull_within fun bucket key parts objKey mem => ?_
      exact (below_joinPath_iff).mpr (objects bucket key parts objKey (listed ▸ mem))

def sampleDest : GoString := "/mnt/models".toList

theorem pull_writes_outside :
    (∃op∈(huggingFacePull (grantingHub [⟨.file,"../evil".toList⟩]) "hf://o/r".toList
        sampleDest).ops,
      op.written=some "/mnt/evil".toList ∧ ¬Inside [] sampleDest op) ∧
    ∃op∈(s3Pull (grantingBucket ["m/../evil".toList]) "s3://b/m/".toList sampleDest).ops,
      op.written=some "/mnt/evil".toList ∧ ¬Inside [] sampleDest op := by
  have outside : ¬Below (resolve [] sampleDest) (resolve [] "/mnt/evil".toList) := by decide
  refine ⟨⟨.rename "/mnt/evil.tmp".toList "/mnt/evil".toList,by decide,rfl,?_⟩,
    ⟨.create "/mnt/evil".toList,by decide,rfl,?_⟩⟩
  · exact fun inside => outside (inside _ rfl)
  · exact fun inside => outside (inside _ rfl)

end KServeLLM.Storage.PullPaths
