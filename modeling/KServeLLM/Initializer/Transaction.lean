import KServeLLM.Framework.Interruptible
import KServeLLM.Initializer.Provenance

namespace KServeLLM.Initializer

open Storage (DownloadError)
open Interruptible (fail get through step)

structure Volume where
  rest : Tree
  staging : Option Tree
  apart : rest.node [stagingDirectory]=none

namespace Volume

def empty : Volume := ⟨Tree.empty,none,rfl⟩

def setRest (v : Volume) (rest : Tree) : Volume :=
  ⟨rest.without stagingDirectory,v.staging,by simp [Tree.without_node]⟩

def setStaging (v : Volume) (staging : Option Tree) : Volume := ⟨v.rest,staging,v.apart⟩

def tree (v : Volume) : Tree :=
  match v.staging with
  | none => v.rest
  | some t => v.rest.graft stagingDirectory t

def readDir (v : Volume) : List String := v.tree.readDir

end Volume

structure Passed where
  staged : Tree
  record : RuntimeVerificationRecord

structure World where
  volume : Volume
  passed : Option Passed

inductive Removal where
  | entry (name : String)
  | stale | unrecorded | cleanup

structure RunInput where
  client : Option DownloadError
  contents : List Tree
  pullError : Option DownloadError
  verification : Verification
  order : Removal → List TreePath

abbrev Call := Interruptible World DownloadError

def wrap {α : Type} (format : String) (args : List ErrArg) (p : Call α) : Call α :=
  p.mapError (.errorf format args)

def updateVolume (f : Volume → Volume) (w : World) : World := {w with volume := f w.volume}

def writeStaged (p : TreePath) (bytes : List UInt8) : Call Unit := do
  let w ← get
  match w.volume.staging with
  | none => fail (.external "no such file or directory")
  | some t =>
      match t.node p with
      | some .dir | some .symlink | some .irregular => fail (.external "not a regular file")
      | none | some (.file _) =>
          if h : t.Open p (.file []) then
            through fun w => [updateVolume (·.setStaging (some (t.put p (.file []) h))) w,
              updateVolume (·.setStaging (some (t.put p (.file bytes) (h.file bytes)))) w]
          else fail (.external "not a directory")

def mkdirStaging : Call Unit := do
  let w ← get
  match w.volume.staging with
  | some _ => fail (.external "file exists")
  | none => step (updateVolume (·.setStaging (some Tree.empty)))

def mkdirStaged (name : String) : Call Unit := do
  let w ← get
  match w.volume.staging with
  | none => fail (.external "no such file or directory")
  | some t =>
      match t.node [name] with
      | some .dir => pure ()
      | some _ => fail (.external "not a directory")
      | none =>
          if h : t.Open [name] .dir then
            step (updateVolume (·.setStaging (some (t.put [name] .dir h))))
          else fail (.external "not a directory")

def replaceable (rest t : Tree) (name : String) : Bool :=
  match rest.node [name],t.node [name] with
  | none,_ => true
  | some .dir,some .dir => decide (∀p∈rest.dom,p.head?=some name → p=[name])
  | some .dir,_ => false
  | some _,some .dir => false
  | some _,_ => true

def renameOut (name : String) : Call Unit := do
  let w ← get
  match w.volume.staging with
  | none => fail (.external "no such file or directory")
  | some t =>
      if t.node [name]=none then fail (.external "no such file or directory")
      else if name=stagingDirectory ∨ ¬replaceable w.volume.rest t name then
        fail (.external "file exists")
      else step (updateVolume fun v =>
        (v.setRest (v.rest.adopt name t)).setStaging (some (t.without name)))

def removeEntry (order : List TreePath) (name : String) : Call Unit :=
  through fun w => (w.volume.rest.removeAll (·.head?=some name) order).map fun rest =>
    updateVolume (·.setRest rest) w

def removeStaging (order : List TreePath) : Call Unit :=
  through fun w => match w.volume.staging with
    | none => []
    | some t => (t.removeAll (fun _ => True) order).map
        (fun left => updateVolume (·.setStaging (some left)) w)++
          [updateVolume (·.setStaging none) w]

section

variable (codec : Codec) (uri destPath : String)

def writeStagingState (state : StagingState) : Call Unit :=
  writeStaged [stagingStateFile] (codec.encodeState state)

def loadStagingState (t : Tree) : Option StagingState :=
  (content t [stagingStateFile]).bind codec.decodeState

def unrecognized : DownloadError := .plain
  ⟨"destination %s contains an unrecognized staging transaction; refusing recovery",[.str destPath]⟩

def recoverEntry (order : Removal → List TreePath) (state : StagingState) (name : String) :
    Call Unit :=
  if name=stagingDirectory then pure ()
  else if state.phase≠.committing then
    fail (.plain ⟨"destination %s contains files alongside an active staging transaction; "++
      "refusing recovery",[.str destPath]⟩)
  else if name∉state.files then
    fail (.plain ⟨"destination %s contains an unexpected file during staging recovery; "++
      "refusing recovery",[.str destPath]⟩)
  else removeEntry (order (.entry name)) name

def recoverStagingTransaction (order : Removal → List TreePath) (entries : List String) :
    Call Unit := do
  let w ← get
  match w.volume.staging with
  | none => pure ()
  | some t =>
      match loadStagingState codec t with
      | none => fail (unrecognized destPath)
      | some state =>
          if state.subject≠uri then fail (unrecognized destPath)
          else if state.phase≠.downloading ∧ state.phase≠.committing then
            fail (.plain ⟨"destination %s contains a staging transaction with an invalid phase; "++
              "refusing recovery",[.str destPath]⟩)
          else do
            forM entries (recoverEntry destPath order state)
            removeStaging (order .stale)

def recordTransaction (order : Removal → List TreePath) : Call Unit :=
  wrap "record staging transaction: %w" []
    ((writeStagingState codec ⟨uri,.downloading,[]⟩).onFailure (removeStaging (order .unrecorded)))

def prepareStagingDirectory (order : Removal → List TreePath) : Call Unit := do
  let w ← get
  (if w.volume.readDir=[] then pure ()
    else recoverStagingTransaction codec uri destPath order w.volume.readDir)
  let w ← get
  (if w.volume.readDir=[] then pure ()
    else fail (.plain ⟨"destination %s already contains files, but no matching verified cache "++
      "record was found; refusing to reuse unverified content",[.str destPath]⟩))
  wrap "create staging directory: %w" [] mkdirStaging
  recordTransaction codec uri order

def commitStagingDirectory : Call Unit := do
  let w ← get
  match w.volume.staging with
  | none => fail (.external "no such file or directory")
  | some t => do
      let files := t.readDir.filter (·≠stagingStateFile)
      writeStagingState codec ⟨uri,.committing,files⟩
      forM files fun name => wrap "move %s: %w" [.str name] (renameOut name)

def writeCacheRuntimeVerificationRecord (record : RuntimeVerificationRecord) : Call Unit := do
  mkdirStaged verificationStateDir
  writeStaged [verificationStateDir,verificationStateFile] (codec.encodeRecord record)

def loadCachedRuntimeVerificationRecord (v : Volume) : Option RuntimeVerificationRecord :=
  (content v.tree [verificationStateDir,verificationStateFile]).bind codec.decodeRecord

end

variable (hexSum : List UInt8 → String) (codec : Codec) (uri destPath : String)

def schemeOf : List Char → Option (List Char)
  | ':':: '/':: '/'::_ => some []
  | c::rest => (schemeOf rest).map (c::·)
  | [] => none

def answers (v : Volume) (record : RuntimeVerificationRecord) : Bool :=
  record.subject==uri && (record.verified || record.contentIntegrityVerified &&
    match directoryDigest hexSum v.tree with
    | .ok digest => digest==record.contentDigest
    | .error _ => false)

def cacheHit (v : Volume) : Option RuntimeVerificationRecord :=
  if v.readDir=[] then none
  else (loadCachedRuntimeVerificationRecord codec v).filter (answers hexSum uri v)

def pull (u : RunInput) : Call Unit := do
  through fun w => u.contents.map fun t => updateVolume (·.setStaging (some t)) w
  match u.pullError with
  | some e => fail (.errorf "pull failed: %w" [] e)
  | none => pure ()

def assess (scheme : String) (u : RunInput) : Call RuntimeVerificationRecord := do
  let w ← get
  let staged := w.volume.staging.getD Tree.empty
  match assessProvenance hexSum codec uri scheme staged u.verification with
  | .error e => fail (.errorf "SECURITY FATAL: %w" [] e)
  | .ok record => do
      step fun w => {w with passed := some ⟨staged,record⟩}
      pure record

def download (scheme : String) (u : RunInput) : Call RuntimeVerificationRecord := do
  pull u
  let record ← assess hexSum codec uri scheme u
  wrap "persist verification state: %w" [] (writeCacheRuntimeVerificationRecord codec record)
  wrap "commit verified model payload: %w" [] (commitStagingDirectory codec uri)
  pure record

def run (u : RunInput) : Call RuntimeVerificationRecord :=
  match schemeOf uri.toList with
  | none => fail (.plain ⟨"invalid URI: %s",[.str uri]⟩)
  | some scheme =>
      match u.client with
      | some e => fail (.errorf "get storage client: %w" [] e)
      | none => do
          let w ← get
          match cacheHit hexSum codec uri w.volume with
          | some record => pure record
          | none => do
              prepareStagingDirectory codec uri destPath u.order
              (download hexSum codec uri (String.ofList scheme) u).andFinally
                (removeStaging (u.order .cleanup))

structure PastRun where
  input : RunInput
  killed : Option Nat

def leaves (w : World) (r : PastRun) : World :=
  match r.killed with
  | none => (run hexSum codec uri destPath r.input).final w
  | some k => (run hexSum codec uri destPath r.input).killed w k

def after (start : Volume) (history : List PastRun) : World :=
  history.foldl (leaves hexSum codec uri destPath) ⟨start,none⟩

end KServeLLM.Initializer
