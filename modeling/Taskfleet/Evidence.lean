import Taskfleet.Checkouts
import Taskfleet.Events
import Taskfleet.Gate
import Taskfleet.Physical
import Taskfleet.PidFile
import Taskfleet.Steps

/-
  The evidence of a native worker: the capture of its session
  before the teardown of its node, and calls of
  `archive_before_cleanup` among the events of others.

  A call works on a node value that was read before. It takes
  no lock but that of its appends, so that anything else may
  come between two of its steps, and it may stop after each
  of them. The read of a session file with the stats of the
  open file is one step. What Claude's capture does is left
  open; it never writes a transcript.

  Main declarations:
    * `Evidence.capture`, `Evidence.quiesceWorker`
    * `Evidence.opening`
    * `ArchiveState`, `ArchiveStep`
-/

------------------------------------------------------------
-- Session Files
------------------------------------------------------------

namespace Taskfleet

open Fallible

namespace Evidence

structure Metadata where
  isFile : Bool
  dev : Nat
  ino : Nat
  len : Nat
  mtime : Int
  mtimeNsec : Int

def sameFileState (a b : Metadata) : Bool :=
  a.dev == b.dev && a.ino == b.ino && a.len == b.len &&
    a.mtime == b.mtime && a.mtimeNsec == b.mtimeNsec

/- A file below the state root; a link is not a file. -/
structure LiveFile where
  isFile : Bool
  dev : Nat
  ino : Nat
  mtime : Int
  mtimeNsec : Int
  bytes : Bytes

def LiveFile.metadata (f : LiveFile) : Metadata where
  isFile := f.isFile
  dev := f.dev
  ino := f.ino
  len := f.bytes.length
  mtime := f.mtime
  mtimeNsec := f.mtimeNsec

/- The files below the state root, by the names to them. -/
abbrev LiveFiles := List String → Option LiveFile

/-
  A run with the libraries that its capture uses: the JSON
  readers and writers, the digest in hexadecimal, and how the
  system words its errors.
-/
structure Tools where
  env : RunEnv
  stateRoot : String
  value : Bytes → Except String Json
  compact : Json → Bytes
  pretty : Json → Bytes
  sha256 : Bytes → String
  errorText : Error → String
  notFound : String
  isLink : String

def Tools.display (T : Tools) (live : List String) : String :=
  Checkouts.join T.stateRoot ("/".intercalate live)

/- The recorded path, where it is one of the run's own. -/
def checkedLivePath (env : RunEnv) (recorded : String) :
    Except String (List String) :=
  let names := Checkouts.components recorded
  if Checkouts.isAbsolute recorded = true ∨
      names.dropLast ≠
        [".creating", "pi-sessions", env.runId.val] ∨
      ".." ∈ names then
    .error "recorded native transcript path is outside its private run source"
  else .ok names

def regularMetadata
    (T : Tools) (path : String) (file : Option LiveFile) :
    Except String Metadata :=
  match file with
  | none =>
      .error s!"stat native transcript {path}: {T.notFound}"
  | some f =>
      if f.isFile then .ok f.metadata
      else
        .error s!"native transcript {path} is not a regular file"

def maxTranscriptBytes : Nat := 256 * 1024 * 1024

/- What was read, and the state of the file around it. -/
structure Opened where
  bytes : Bytes
  before : Metadata
  after : Metadata

def readNofollow
    (T : Tools) (path : String) (file : Option LiveFile) :
    Except String Opened :=
  match file with
  | none =>
      .error s!"open native transcript {path}: {T.notFound}"
  | some f => do
      refuseIf (¬ f.isFile)
        s!"open native transcript {path}: {T.isLink}"
      refuseIf (f.metadata.len > maxTranscriptBytes)
        s!"native transcript exceeds {maxTranscriptBytes} byte archive cap"
      refuseIf (f.bytes.length > maxTranscriptBytes)
        "native transcript grew beyond archive cap while reading"
      return ⟨f.bytes, f.metadata, f.metadata⟩

/- The first line as JSON, and what follows it. -/
def parseHeader (T : Tools) (bytes : Bytes) :
    Except String (Json × Bytes) :=
  match bytes.idxOf? newline with
  | none =>
      .error "native transcript has no complete header line"
  | some i => do
      let header ←
        (T.value (bytes.take i)).mapError (fun e =>
          s!"parse native transcript header: {e}")
      return (header, bytes.drop (i + 1))

def headerMatches (e : WorkerEvidence) (header : Json) : Bool :=
  header.getStr "type" == some "session" &&
    (header.get "version").bind Json.asU64 == some 3 &&
    header.getStr "id" == some e.sessionId &&
    header.getStr "cwd" == some e.originalCwd

/- The session again, to be resumed in another directory. -/
def resumeCopy
    (T : Tools) (header : Json) (cwd : String) (tail : Bytes) :
    Bytes :=
  let moved :=
    match header with
    | .obj fields =>
        .obj (Json.insertField "cwd" (.str cwd) fields)
    | other => other
  T.compact moved ++ newline :: tail

------------------------------------------------------------
-- Capture
------------------------------------------------------------

inductive Artifact where
| transcript
| resume
| pane
| report
deriving DecidableEq, Repr

def Artifact.fileName : Artifact → String
| .transcript => "pi-session.original.jsonl"
| .resume => "pi-session.resume.jsonl"
| .pane => "final-pane.log"
| .report => "terminal-report.json"

/- The order in which a capture writes them. -/
def Artifact.all : List Artifact :=
  [.transcript, .resume, .pane, .report]

/- What a capture puts into the evidence of the node. -/
structure Captured where
  transcript : Bytes
  resume : Bytes
  pane : Bytes
  report : Bytes
deriving DecidableEq

def Captured.content (c : Captured) : Artifact → Bytes
| .transcript => c.transcript
| .resume => c.resume
| .pane => c.pane
| .report => c.report

/-
  What a capture meets: the session files when they are
  examined, read, examined again and examined after the pane
  was taken, the pane, and the run.
-/
structure CaptureView where
  before : LiveFiles
  opened : LiveFiles
  afterRead : LiveFiles
  afterCapture : LiveFiles
  pane : Except String Bytes
  disk : Disk
  isDir : String → Bool

def capture (T : Tools) (n : Node) (v : CaptureView) :
    Except String Captured := do
  let evidence ←
    orError "Pi evidence identity absent" n.evidence
  let live ← checkedLivePath T.env evidence.liveSessionPath
  let path := T.display live
  let before ← regularMetadata T path (v.before live)
  let opened ← readNofollow T path (v.opened live)
  let afterRead ← regularMetadata T path (v.afterRead live)
  refuseIf
    (¬ sameFileState before opened.before ∨
      ¬ sameFileState opened.before opened.after ∨
      ¬ sameFileState opened.after afterRead ∨
      opened.bytes.length ≠ opened.after.len)
    "native transcript changed while it was read"
  let (header, tail) ← parseHeader T opened.bytes
  refuseIf (¬ headerMatches evidence header)
    "native transcript header does not match recorded session identity/cwd"
  let report ←
    orError "terminal node has no terminal report" n.lastReport
  let _ ←
    orError "terminal worker has no qualified tmux identity"
      n.tmuxIdentity
  let pane ← v.pane
  let afterCapture ←
    regularMetadata T path (v.afterCapture live)
  refuseIf (¬ sameFileState afterRead afterCapture)
    "native transcript changed during final pane capture"
  let manifest ←
    (readManifestOpt T.env v.disk).mapError T.errorText
  let m ←
    orError "run manifest disappeared during evidence capture"
      manifest
  let cwd ←
    orError
      "recorded source repository is unavailable for resumable copy"
      (m.sourceRepo.filter v.isDir)
  return {
    transcript := opened.bytes
    resume := resumeCopy T header cwd tail
    pane
    report := T.pretty report ++ [newline] }

------------------------------------------------------------
-- The Writer
------------------------------------------------------------

inductive Signalled where
| sent
| gone
| failed (error : String)

/- What can be learnt of a process, and a signal to it. -/
structure WriterProbe where
  alive : Nat → Bool
  identity : Nat → Option String
  startSecs : Nat → Option Nat
  terminate : Nat → Signalled
  stopsInTime : Nat → Bool

/- What a node recorded about the start of its agent. -/
def recordedStart (n : Node) : RecordedStart :=
  .new (n.agentPidStartTime.map (fun t => (t / 10 ^ 9).toNat))
    n.agentPidStartIdentity

/- Stop the recorded process, where there is one. -/
def quiesceWorker (probe : WriterProbe) (n : Node) :
    Except String Unit :=
  if n.workerExit.isSome then .ok ()
  else
    match n.agentPid.filter (fun pid => pid > 0) with
    | none => .ok ()
    | some raw =>
        let pid := raw.toNat
        if !probe.alive pid then .ok ()
        else if
          (recordedStart n).matchesPid (probe.identity pid)
            (probe.startSecs pid) = some false then .ok ()
        else
          match probe.terminate pid with
          | .gone => .ok ()
          | .failed e =>
              .error s!"signal native Pi writer {pid}: {e}"
          | .sent =>
              if probe.stopsInTime pid then .ok ()
              else
                .error
                  s!"native Pi writer {pid} did not stop within 5s"

------------------------------------------------------------
-- Records
------------------------------------------------------------

def archivedKey (id : NodeId) (e : WorkerEvidence) : String :=
  "worker-evidence:" ++ id.val ++ ":" ++ toString e.attempt ++
    ":" ++ e.sessionId

def archivedRequest
    (T : Tools) (now : Time) (n : Node) (e : WorkerEvidence)
    (c : Captured) : Request where
  now := now
  kind := .workerEvidenceArchived
  nodeId := some n.nodeId
  key := some (archivedKey n.nodeId e)
  data := .obj
    [("attempt", .int e.attempt),
      ("pane_path",
        .str (evidencePath n.nodeId Artifact.pane.fileName)),
      ("report_path",
        .str (evidencePath n.nodeId Artifact.report.fileName)),
      ("resume_path",
        .str (evidencePath n.nodeId Artifact.resume.fileName)),
      ("session_id", .str e.sessionId),
      ("transcript_path",
        .str
          (evidencePath n.nodeId
            Artifact.transcript.fileName)),
      ("transcript_sha256", .str (T.sha256 c.transcript))]

def failedRequest
    (now : Time) (n : Node) (e : WorkerEvidence)
    (detail : String) : Request where
  now := now
  kind := .workerEvidenceFailed
  nodeId := some n.nodeId
  key :=
    some
      ("worker-evidence-failed:" ++ n.nodeId.val ++ ":" ++
        toString e.attempt ++ ":" ++ e.sessionId)
  data := .obj
    [("attempt", .int e.attempt), ("error", .str detail),
      ("session_id", .str e.sessionId)]

/- How often the capture of a node failed in this process. -/
structure RetryState where
  attempts : Nat
  next : Time

def RetryState.again
    (now : Time) (prior : Option RetryState) : RetryState :=
  let attempts :=
    (prior.map (fun state =>
      min (state.attempts + 1) (2 ^ 32 - 1))).getD 1
  { attempts, next := now + 2 ^ (min attempts 6) * 10 ^ 9 }

/- How a call goes on, from the value that it is made with. -/
inductive Opening where
| unrecorded
| complete (e : WorkerEvidence)
| deferred
| capture (e : WorkerEvidence)

def opening
    (n : Node) (retry : Option RetryState) (now : Time) :
    Opening :=
  match n.evidence with
  | none => .unrecorded
  | some e =>
      if e.status = .complete then .complete e
      else if retry.any (fun state => now < state.next) then
        .deferred
      else .capture e

/- The answer for a node value without a recorded session. -/
def unrecordedAnswer
    (env : RunEnv) (d : Disk) (claude : Bool) : Bool :=
  match readManifestOpt env d with
  | .ok (some m) =>
      if m.agentSelection.any (fun s =>
          s.selected.harness = "claude") then claude
      else true
  | .ok none => false
  | .error _ => false

end Evidence

------------------------------------------------------------
-- Calls
------------------------------------------------------------

open Evidence

/- What the call that is at work goes on with. -/
inductive ArchivePhase where
| idle
| capturing (n : Node) (e : WorkerEvidence)
    (looks : List LiveFiles)
| filing (n : Node) (e : WorkerEvidence) (c : Captured)
    (rest : List Artifact)
| failing (n : Node) (e : WorkerEvidence) (detail : String)
| removing (n : Node) (e : WorkerEvidence)
| removed (n : Node)

/-
  A run with the session files below its state root, what is
  archived of one of its nodes, the values of that node that
  were read so far, and the call at work on it.
-/
structure ArchiveState where
  disk : Disk
  live : LiveFiles
  archive : Artifact → Option Bytes
  held : List Node
  retry : Option RetryState
  phase : ArchivePhase

inductive ArchiveAct where
| other
| reads
| writes (path : List String)
| unlinks
| opens
| passes (permitted : Bool)
| looks
| captures
| fails
| files
| records
| removes (n : Node)
| returns (n : Node) (permitted : Bool)
| stops

/- The session files with one of them put there or gone. -/
def Evidence.LiveFiles.set
    (live : LiveFiles) (path : List String)
    (file : Option LiveFile) : LiveFiles :=
  Function.update live path file

def Evidence.archiveWith
    (archive : Artifact → Option Bytes) (c : Captured)
    (a : Artifact) : Artifact → Option Bytes :=
  Function.update archive a (some (c.content a))

/-
  One step on the node `id`. No other code archives evidence,
  though calls on other nodes may. A system call may fail
  wherever one is made, and an artifact that could not be
  written may be there all the same.
-/
inductive ArchiveStep (T : Tools) (id : NodeId) :
    ArchiveAct → ArchiveState → ArchiveState → Prop where
| other (S : ArchiveState) (call : Call) (d : Disk)
    (hAsks : ∀ r, call.Asks r →
      r.kind = .workerEvidenceArchived →
      ∃ now n e c, n.nodeId ≠ id ∧
        r = archivedRequest T now n e c)
    (hLeaves : (call.run T.env).Leaves S.disk d) :
    ArchiveStep T id .other S { S with disk := d }
| reads (S : ArchiveState) (n : Node)
    (hRead : readNodeOpt T.env S.disk id = .ok (some n)) :
    ArchiveStep T id .reads S { S with held := n :: S.held }
| writes (S : ArchiveState) (path : List String)
    (file : LiveFile) :
    ArchiveStep T id (.writes path) S
      { S with live := S.live.set path (some file) }
| unlinks (S : ArchiveState) (path : List String) :
    ArchiveStep T id .unlinks S
      { S with live := S.live.set path none }
| passes (S : ArchiveState) (n : Node) (now : Time)
    (claude : Bool) (archive : Artifact → Option Bytes)
    (hPhase : S.phase = .idle)
    (hHeld : n ∈ S.held)
    (hOpening : opening n S.retry now = .unrecorded)
    (hKept : archive .transcript = S.archive .transcript) :
    ArchiveStep T id
      (.passes (unrecordedAnswer T.env S.disk claude)) S
      { S with archive := archive }
| completed (S : ArchiveState) (n : Node) (now : Time)
    (e : WorkerEvidence)
    (hPhase : S.phase = .idle)
    (hHeld : n ∈ S.held)
    (hOpening : opening n S.retry now = .complete e) :
    ArchiveStep T id .opens S
      { S with retry := none, phase := .removing n e }
| defers (S : ArchiveState) (n : Node) (now : Time)
    (hPhase : S.phase = .idle)
    (hHeld : n ∈ S.held)
    (hOpening : opening n S.retry now = .deferred) :
    ArchiveStep T id (.returns n false) S S
| opens (S : ArchiveState) (n : Node) (now : Time)
    (e : WorkerEvidence) (probe : WriterProbe)
    (hPhase : S.phase = .idle)
    (hHeld : n ∈ S.held)
    (hOpening : opening n S.retry now = .capture e)
    (hQuiet : quiesceWorker probe n = .ok ()) :
    ArchiveStep T id .opens S
      { S with phase := .capturing n e [] }
| busy (S : ArchiveState) (n : Node) (now : Time)
    (e : WorkerEvidence) (probe : WriterProbe)
    (detail : String)
    (hPhase : S.phase = .idle)
    (hHeld : n ∈ S.held)
    (hOpening : opening n S.retry now = .capture e)
    (hBusy : quiesceWorker probe n = .error detail) :
    ArchiveStep T id .opens S
      { S with phase := .failing n e detail }
| looks (S : ArchiveState) (n : Node) (e : WorkerEvidence)
    (looks : List LiveFiles)
    (hPhase : S.phase = .capturing n e looks) :
    ArchiveStep T id .looks S
      { S with phase := .capturing n e (looks ++ [S.live]) }
| captures (S : ArchiveState) (n : Node)
    (e : WorkerEvidence) (c : Captured)
    (before opened afterRead afterCapture : LiveFiles)
    (pane : Except String Bytes) (isDir : String → Bool)
    (hPhase : S.phase =
      .capturing n e [before, opened, afterRead, afterCapture])
    (hOk : capture T n
      ⟨before, opened, afterRead, afterCapture, pane, S.disk,
        isDir⟩ = .ok c) :
    ArchiveStep T id .captures S
      { S with phase := .filing n e c Artifact.all }
| captureFails (S : ArchiveState) (n : Node)
    (e : WorkerEvidence) (looks : List LiveFiles)
    (detail : String)
    (hPhase : S.phase = .capturing n e looks) :
    ArchiveStep T id .fails S
      { S with phase := .failing n e detail }
| files (S : ArchiveState) (n : Node) (e : WorkerEvidence)
    (c : Captured) (a : Artifact) (rest : List Artifact)
    (hPhase : S.phase = .filing n e c (a :: rest)) :
    ArchiveStep T id .files S
      { S with
        archive := archiveWith S.archive c a
        phase := .filing n e c rest }
| fileFails (S : ArchiveState) (n : Node)
    (e : WorkerEvidence) (c : Captured) (a : Artifact)
    (rest : List Artifact) (detail : String) (there : Bool)
    (hPhase : S.phase = .filing n e c (a :: rest)) :
    ArchiveStep T id .fails S
      { S with
        archive :=
          if there then archiveWith S.archive c a
          else S.archive
        phase := .failing n e detail }
| records (S : ArchiveState) (n : Node) (e : WorkerEvidence)
    (c : Captured) (now : Time) (result : AppendResult)
    (hPhase : S.phase = .filing n e c [])
    (hOk :
      (appendAndApplyEvent T.env
        (archivedRequest T now n e c)).result S.disk =
          .ok result) :
    ArchiveStep T id .records S
      { S with
        disk :=
          (appendAndApplyEvent T.env
            (archivedRequest T now n e c)).final S.disk
        retry := none
        phase := .removing n e }
| recordFails (S : ArchiveState) (n : Node)
    (e : WorkerEvidence) (c : Captured) (now : Time)
    (error : Error)
    (hPhase : S.phase = .filing n e c [])
    (hError :
      (appendAndApplyEvent T.env
        (archivedRequest T now n e c)).result S.disk =
          .error error) :
    ArchiveStep T id (.returns n false) S
      { S with
        disk :=
          (appendAndApplyEvent T.env
            (archivedRequest T now n e c)).final S.disk
        phase := .idle }
| recordCut (S : ArchiveState) (n : Node)
    (e : WorkerEvidence) (c : Captured) (now : Time)
    (d : Disk)
    (hPhase : S.phase = .filing n e c [])
    (hLeaves :
      (appendAndApplyEvent T.env
        (archivedRequest T now n e c)).Leaves S.disk d) :
    ArchiveStep T id .stops S
      { S with disk := d, retry := none, phase := .idle }
| recordsFailure (S : ArchiveState) (n : Node)
    (e : WorkerEvidence) (detail : String) (clock now : Time)
    (hPhase : S.phase = .failing n e detail) :
    ArchiveStep T id (.returns n false) S
      { S with
        disk :=
          (appendAndApplyEvent T.env
            (failedRequest now n e detail)).final S.disk
        retry := some (RetryState.again clock S.retry)
        phase := .idle }
| failureCut (S : ArchiveState) (n : Node)
    (e : WorkerEvidence) (detail : String) (now : Time)
    (d : Disk)
    (hPhase : S.phase = .failing n e detail)
    (hLeaves :
      (appendAndApplyEvent T.env
        (failedRequest now n e detail)).Leaves S.disk d) :
    ArchiveStep T id .stops S
      { S with disk := d, retry := none, phase := .idle }
| removes (S : ArchiveState) (n : Node) (e : WorkerEvidence)
    (live : List String)
    (hPhase : S.phase = .removing n e)
    (hPath :
      checkedLivePath T.env e.liveSessionPath = .ok live) :
    ArchiveStep T id (.removes n) S
      { S with
        live := S.live.set live none
        phase := .removed n }
| keeps (S : ArchiveState) (n : Node) (e : WorkerEvidence)
    (hPhase : S.phase = .removing n e) :
    ArchiveStep T id (.returns n false) S
      { S with phase := .idle }
| permits (S : ArchiveState) (n : Node)
    (hPhase : S.phase = .removed n) :
    ArchiveStep T id (.returns n true) S
      { S with phase := .idle }
| stops (S : ArchiveState) :
    ArchiveStep T id .stops S
      { S with retry := none, phase := .idle }

end Taskfleet
