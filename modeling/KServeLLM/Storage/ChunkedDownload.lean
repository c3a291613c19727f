import KServeLLM.Framework.Execution
import KServeLLM.Storage.ChunkPlan

namespace KServeLLM.Storage

structure RemoteFile where
  bytes : List UInt8
  fits : bytes.length<2^63

namespace RemoteFile

def fileSize (remote : RemoteFile) : Int64 := Int64.ofNat remote.bytes.length

def Serves (remote : RemoteFile) (c : ChunkDescriptor) : Prop :=
  0 ≤ c.start.toInt ∧ c.start.toInt ≤ c.stop.toInt ∧ c.stop.toInt < remote.bytes.length

instance instDecidableServes (remote : RemoteFile) (c : ChunkDescriptor) :
    Decidable (remote.Serves c) := inferInstanceAs (Decidable (_ ∧ _))

def range (remote : RemoteFile) (c : ChunkDescriptor) : List UInt8 := c.interval.slice remote.bytes

end RemoteFile

def ChunkDescriptor.expectedSize (c : ChunkDescriptor) : Int64 := c.stop-c.start+1

inductive DownloadError where
  | external (text : String)
  | plain (error : Errorf)
  | errorf (format : String) (args : List ErrArg) (cause : DownloadError)
  | joined (format separator : String) (causes : List DownloadError)

structure Disk where
  (chunk partials : Nat → Option (List UInt8))
  (tmp dest : Option (List UInt8))

namespace Disk

def setChunk (disk : Disk) (i : Nat) (file : Option (List UInt8)) : Disk :=
  {disk with chunk := Function.update disk.chunk i file}

def setPartial (disk : Disk) (i : Nat) (file : Option (List UInt8)) : Disk :=
  {disk with partials := Function.update disk.partials i file}

def complete (disk : Disk) (c : ChunkDescriptor) : Bool :=
  match disk.chunk c.index with
  | some data => decide (Int64.ofNat data.length=c.expectedSize)
  | none => false

end Disk

inductive Progress where
  | waiting
  | receiving (written : Nat) (rest : List UInt8)
  | done
  | failed (error : DownloadError)

namespace Progress

def isWaiting : Progress → Bool
  | .waiting => true
  | _ => false

def isReceiving : Progress → Bool
  | .receiving _ _ => true
  | _ => false

def error : Progress → Option DownloadError
  | .failed e => some e
  | _ => none

end Progress

inductive Phase where
  | idle
  | starting (d : ParallelDownloader)
  | startingChunks (d : ParallelDownloader)
  | planning (d : ParallelDownloader)
  | downloading (slots : Int64) (chunks toDownload : List ChunkDescriptor)
      (progress : Nat → Progress)
  | creating (chunks : List ChunkDescriptor)
  | assembling (rest : List ChunkDescriptor) (copied : Nat)
  | finalizing | cleaning
  | returned (error : Option DownloadError)

structure Download where
  disk : Disk
  phase : Phase

inductive WorkerEvent where
  | unreachable (text : String)
  | refused (status : String)
  | answered
  | received (n : Nat)
  | broken (text : String)
  | ended
  | unrenamed (text : String)

inductive Event where
  | begin (d : ParallelDownloader)
  | mkdir
  | plan (fuel : Nat)
  | worker (i : Nat) (e : WorkerEvent)
  | join | create
  | unopened (text : String)
  | copy (n : Nat)
  | next | rename
  | removeChunk (i : Nat)
  | removePartial (i : Nat)
  | cleaned
  | fail (text : String)

def unexpectedStatus (c : ChunkDescriptor) (status : String) : DownloadError :=
  .plain ⟨"unexpected status %s for range %d-%d",[.str status,.int c.start.toInt,.int c.stop.toInt]⟩

def shortWrite (c : ChunkDescriptor) (written : Nat) : DownloadError :=
  .plain ⟨"short write: got %d, expected %d",[.int written,.int c.expectedSize.toInt]⟩

section

variable (remote : RemoteFile)

def workerStep (disk : Disk) (c : ChunkDescriptor) : Progress → WorkerEvent → Disk×Progress
  | .waiting,.unreachable text => (disk,.failed (.external text))
  | .waiting,.refused status => (disk,.failed (unexpectedStatus c status))
  | .waiting,.answered =>
      if remote.Serves c then
        (disk.setPartial c.index (some []),.receiving 0 (remote.range c))
      else (disk,.failed (unexpectedStatus c "416 Requested Range Not Satisfiable"))
  | .receiving written rest,.received n =>
      let file := (disk.partials c.index).getD []
      (disk.setPartial c.index (some (file++rest.take n)),
        .receiving (written+(rest.take n).length) (rest.drop n))
  | .receiving _ _,.broken text => (disk.setPartial c.index none,.failed (.external text))
  | .receiving written [],.ended =>
      if Int64.ofNat written≠c.expectedSize then
        (disk.setPartial c.index none,.failed (shortWrite c written))
      else ((disk.setChunk c.index (disk.partials c.index)).setPartial c.index none,.done)
  | .receiving written [],.unrenamed text =>
      if Int64.ofNat written≠c.expectedSize then
        (disk.setPartial c.index none,.failed (shortWrite c written))
      else (disk,.failed (.external text))
  | progress,_ => (disk,progress)

def inFlight (toDownload : List ChunkDescriptor) (progress : Nat → Progress) : Nat :=
  toDownload.countP fun c => (progress c.index).isReceiving

def downloadErrors (toDownload : List ChunkDescriptor) (progress : Nat → Progress) :
    List DownloadError :=
  toDownload.filterMap fun c =>
    (progress c.index).error.map (.errorf "chunk %d: %w" [.int c.index])

def joinable (toDownload : List ChunkDescriptor) (progress : Nat → Progress) : Bool :=
  toDownload.all fun c => !(progress c.index).isWaiting && !(progress c.index).isReceiving

def abandon (disk : Disk) (error : DownloadError) : Download :=
  ⟨{disk with tmp := none},.returned (some error)⟩

def planned (s : Download) : Event → List ChunkDescriptor
  | .plan fuel =>
      match s.phase with
      | .planning d => (buildChunks d.chunkSize remote.fileSize fuel 0 0).getD []
      | _ => []
  | _ => []

def planStep (s : Download) (d : ParallelDownloader) (fuel : Nat) : Download :=
  match buildChunks d.chunkSize remote.fileSize fuel 0 0 with
  | none => s
  | some chunks =>
      ⟨s.disk,.downloading d.workers chunks (chunks.filter fun c => !s.disk.complete c)
        fun _ => .waiting⟩

def downloadStep (disk : Disk) (slots : Int64) (chunks toDownload : List ChunkDescriptor)
    (progress : Nat → Progress) (i : Nat) (e : WorkerEvent) : Download :=
  match toDownload.find? fun c => c.index==i with
  | none => ⟨disk,.downloading slots chunks toDownload progress⟩
  | some c =>
      if (progress i).isWaiting ∧ ¬(inFlight toDownload progress : Int) < slots.toInt then
        ⟨disk,.downloading slots chunks toDownload progress⟩
      else
        let result := workerStep remote disk c (progress i) e
        ⟨result.1,.downloading slots chunks toDownload (Function.update progress i result.2)⟩

def joinStep (disk : Disk) (slots : Int64) (chunks toDownload : List ChunkDescriptor)
    (progress : Nat → Progress) : Download :=
  if joinable toDownload progress then
    match downloadErrors toDownload progress with
    | [] => ⟨disk,.creating chunks⟩
    | errs => ⟨disk,.returned (some (.joined "parallel download failed:\n  %s" "\n  " errs))⟩
  else ⟨disk,.downloading slots chunks toDownload progress⟩

def copyStep (disk : Disk) (c : ChunkDescriptor) (rest : List ChunkDescriptor) (copied n : Nat) :
    Download :=
  match disk.chunk c.index with
  | none =>
      abandon disk (.errorf "failed to open chunk %d: %w" [.int c.index]
        (.external "no such file or directory"))
  | some data =>
      let block := (data.drop copied).take n
      ⟨{disk with tmp := some (disk.tmp.getD []++block)},
        .assembling (c::rest) (copied+block.length)⟩

def nextStep (s : Download) (c : ChunkDescriptor) (rest : List ChunkDescriptor) (copied : Nat) :
    Download :=
  match s.disk.chunk c.index with
  | none =>
      abandon s.disk (.errorf "failed to open chunk %d: %w" [.int c.index]
        (.external "no such file or directory"))
  | some data => if data.length ≤ copied then ⟨s.disk,.assembling rest 0⟩ else s

def assembleStep (s : Download) : List ChunkDescriptor → Nat → Event → Download
  | c::_,copied,.unopened text =>
      if copied=0 then
        abandon s.disk (.errorf "failed to open chunk %d: %w" [.int c.index] (.external text))
      else s
  | c::rest,copied,.copy n => copyStep s.disk c rest copied n
  | c::rest,copied,.next => nextStep s c rest copied
  | c::_,_,.fail text =>
      abandon s.disk (.errorf "failed to copy chunk %d: %w" [.int c.index] (.external text))
  | [],_,.next => ⟨s.disk,.finalizing⟩
  | _,_,_ => s

def downloadChunked (s : Download) : Event → Download
  | .begin d => ⟨s.disk,.starting d⟩
  | e =>
    match s.phase,e with
    | .starting d,.mkdir => ⟨s.disk,.startingChunks d⟩
    | .starting _,.fail text => ⟨s.disk,.returned (some (.external text))⟩
    | .startingChunks d,.mkdir => ⟨s.disk,.planning d⟩
    | .startingChunks _,.fail text =>
        ⟨s.disk,.returned (some (.errorf "failed to create chunks dir: %w" [] (.external text)))⟩
    | .planning d,.plan fuel => planStep remote s d fuel
    | .downloading slots chunks toDownload progress,.worker i e =>
        downloadStep remote s.disk slots chunks toDownload progress i e
    | .downloading slots chunks toDownload progress,.join =>
        joinStep s.disk slots chunks toDownload progress
    | .creating chunks,.create => ⟨{s.disk with tmp := some []},.assembling chunks 0⟩
    | .creating _,.fail text =>
        abandon s.disk (.errorf "failed to create assembled file: %w" [] (.external text))
    | .assembling rest copied,e => assembleStep s rest copied e
    | .finalizing,.rename => ⟨{s.disk with tmp := none,dest := s.disk.tmp},.cleaning⟩
    | .finalizing,.fail text =>
        abandon s.disk (.errorf "failed to finalize file: %w" [] (.external text))
    | .cleaning,.removeChunk i => ⟨s.disk.setChunk i none,.cleaning⟩
    | .cleaning,.removePartial i => ⟨s.disk.setPartial i none,.cleaning⟩
    | .cleaning,.cleaned => ⟨s.disk,.returned none⟩
    | _,_ => s

def step (s : Download) (e : Event) : Download×Unit := (downloadChunked remote s e,())

end

def fresh (dest : Option (List UInt8)) : Download := ⟨⟨fun _ => none,fun _ => none,none,dest⟩,.idle⟩

end KServeLLM.Storage
