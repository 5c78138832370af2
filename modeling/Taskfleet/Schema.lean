import Taskfleet.Json

/-
  The on-disk schema: identifiers, enumerations, the run
  manifest, the node projection and the event envelope.

  Main declarations:
    * `RunId`, `NodeId` and their parsers
    * `Status`, `Kind`, `EventKind`
    * `Manifest`, `Node`, `Event`
    * `aggregateTerminalStatus`
-/

------------------------------------------------------------
-- Text Helpers
------------------------------------------------------------

namespace Taskfleet

namespace Text

/- The Unicode white-space characters. -/
def isWhitespace (c : Char) : Bool :=
  let n := c.toNat
  (9 ≤ n && n ≤ 13) || n == 0x20 || n == 0x85 || n == 0xA0 ||
    n == 0x1680 || (0x2000 ≤ n && n ≤ 0x200A) ||
    n == 0x2028 || n == 0x2029 || n == 0x202F ||
    n == 0x205F || n == 0x3000

/- Remove leading and trailing white space. -/
def trim (s : String) : String :=
  String.ofList
    (((s.toList.dropWhile isWhitespace).reverse.dropWhile
      isWhitespace).reverse)

/- Nothing is left after trimming. -/
def isBlank (s : String) : Bool :=
  s.toList.all isWhitespace

def isLowerHex (c : Char) : Bool :=
  c.isDigit || ('a' ≤ c && c ≤ 'f')

def isHex (c : Char) : Bool :=
  isLowerHex c || ('A' ≤ c && c ≤ 'F')

/- Hyphenated UUID shape with a given digit class. -/
def uuidShape (digit : Char → Bool) (s : String) : Bool :=
  s.toList.length == 36 &&
    s.toList.zipIdx.all (fun entry =>
      if entry.2 = 8 ∨ entry.2 = 13 ∨ entry.2 = 18 ∨
          entry.2 = 23 then
        entry.1 == '-'
      else digit entry.1)

/-
  A name made of lowercase letters, digits and single inner
  hyphens that starts with a letter.
-/
def isSlug (limit : Nat) (s : String) : Bool :=
  let cs := s.toList
  cs.length ≤ limit &&
    (cs.head?.any Char.isLower) &&
    cs.all (fun c => c.isLower || c.isDigit || c == '-') &&
    cs.getLast? != some '-' &&
    (cs.zip cs.tail).all (fun p => p != ('-', '-'))

end Text

------------------------------------------------------------
-- Identifiers
------------------------------------------------------------

/- An instant, in nanoseconds since the epoch. -/
abbrev Time := Int

/- Why a raw value is not an identifier. -/
inductive IdValidationError where
| invalidFormat (kind value expected : String)
| wrongPrefix (kind expected : String)
deriving DecidableEq, Repr

namespace IdValidationError

def message : IdValidationError → String
| .invalidFormat kind value expected =>
    s!"invalid {kind} id {value.quote}: expected {expected}"
| .wrongPrefix kind expected =>
    s!"invalid {kind} id: wrong prefix, expected {expected}"

end IdValidationError

namespace RunId

def crockfordLower : List Char :=
  "0123456789abcdefghjkmnpqrstvwxyz".toList

/- A lowercase ULID whose first digit bounds its timestamp. -/
def wellFormed (s : String) : Bool :=
  s.toList.length == 26 &&
    s.toList.all (fun c => crockfordLower.contains c) &&
    s.toList.head?.any (fun c => '0' ≤ c && c ≤ '7')

end RunId

/- A validated run identifier. -/
structure RunId where
  val : String
  valid : RunId.wellFormed val = true
deriving DecidableEq, Repr

namespace RunId

def expected : String :=
  "26-char lowercase Crockford base32 ULID"

def parseStr (s : String) : Except IdValidationError RunId :=
  if h : wellFormed s = true then .ok ⟨s, h⟩
  else .error (.invalidFormat "run" s expected)

end RunId

namespace NodeId

/- `n-` followed by four to ten decimal digits. -/
def wellFormed (s : String) : Bool :=
  match s.toList with
  | 'n' :: '-' :: body =>
      4 ≤ body.length && body.length ≤ 10 &&
        body.all Char.isDigit
  | _ => false

end NodeId

/- A validated node identifier. -/
structure NodeId where
  val : String
  valid : NodeId.wellFormed val = true
deriving DecidableEq, Repr

namespace NodeId

def expected : String :=
  "n-NNNN (n- followed by 4-10 ASCII digits)"

def parseStr (s : String) :
    Except IdValidationError NodeId :=
  if h : wellFormed s = true then .ok ⟨s, h⟩
  else
    match s.toList with
    | 'n' :: '-' :: _ =>
        .error (.invalidFormat "node" s expected)
    | _ => .error (.wrongPrefix "node" expected)

/- The number after the `n-` prefix. -/
def number (id : NodeId) : Nat :=
  (id.val.toList.drop 2).foldl
    (fun n c => 10 * n + (c.toNat - '0'.toNat)) 0

/- The node a run materializes first. -/
def first : NodeId := ⟨"n-0001", by decide⟩

end NodeId

------------------------------------------------------------
-- Enumerations
------------------------------------------------------------

inductive Kind where
| spinoff
| research
| technicalDecision
| fanOut
| unknown
deriving DecidableEq, Repr

namespace Kind

/- Unrecognised names fall into the read-only catch-all. -/
def ofName (name : String) : Kind :=
  if name = "spinoff" then .spinoff
  else if name = "research" then .research
  else if name = "technical-decision" then .technicalDecision
  else if name = "fan-out" then .fanOut
  else .unknown

end Kind

inductive Lifecycle where
| autonomous
| interactive
deriving DecidableEq, Repr

inductive AgentOwner where
| taskfleet
| caller
deriving DecidableEq, Repr

/- Run and node status. -/
inductive Status where
| pending
| running
| blocked
| done
| failed
| cancelled
deriving DecidableEq, Repr

namespace Status

def isTerminal : Status → Bool
| .done | .failed | .cancelled => true
| .pending | .running | .blocked => false

def name : Status → String
| .pending => "pending"
| .running => "running"
| .blocked => "blocked"
| .done => "done"
| .failed => "failed"
| .cancelled => "cancelled"

def ofName (name : String) : Option Status :=
  if name = "pending" then some .pending
  else if name = "running" then some .running
  else if name = "blocked" then some .blocked
  else if name = "done" then some .done
  else if name = "failed" then some .failed
  else if name = "cancelled" then some .cancelled
  else none

@[simp] theorem ofName_name (s : Status) :
    ofName s.name = some s := by
  cases s <;> rfl

end Status

/-
  The rolled-up status of a set of node statuses: none while
  the set is empty or a node is live, else a failure over a
  cancellation over success.
-/
def aggregateTerminalStatus (statuses : List Status) :
    Option Status :=
  if statuses = [] ∨ statuses.any (fun s => !s.isTerminal) then
    none
  else if statuses.contains .failed then some .failed
  else if statuses.contains .cancelled then some .cancelled
  else some .done

/- Only finished statuses aggregate, and to a finished one. -/
theorem terminal_of_aggregate
    {statuses : List Status} {agg : Status}
    (hSome : aggregateTerminalStatus statuses = some agg) :
    agg.isTerminal = true ∧
      ∀ s ∈ statuses, s.isTerminal = true := by
  unfold aggregateTerminalStatus at hSome
  split at hSome
  · cases hSome
  next hTerminal =>
  constructor
  · split at hSome
    · cases hSome
      rfl
    split at hSome
    · cases hSome
      rfl
    · cases hSome
      rfl
  · intro s hMem
    by_contra hLive
    refine hTerminal (.inr ?_)
    rw [List.any_eq_true]
    exact ⟨s, hMem, by simpa using hLive⟩

inductive EvidenceStatus where
| pending
| failed
| complete
deriving DecidableEq, Repr

inductive CallerPiState where
| reserved
| started
| launchFailed
| exited
| controlUncertain
deriving DecidableEq, Repr

inductive SettlementOperation where
| merge
| cancel
| discard
deriving DecidableEq, Repr

------------------------------------------------------------
-- Run Manifest
------------------------------------------------------------

structure SelectedAgentCandidate where
  candidateIndex : Nat
  harness : String
  command : List String
  telemetry : Option String
deriving DecidableEq, Repr

structure SkippedAgentCandidate where
  candidateIndex : Nat
  harness : String
  reason : String
deriving DecidableEq, Repr

structure AgentSelection where
  schemaVersion : Nat
  profile : String
  selectionSource : String
  interaction : String
  capability : String
  residency : String
  requestedHarness : Option String
  selected : SelectedAgentCandidate
  fallback : List SkippedAgentCandidate
deriving DecidableEq, Repr

structure TmuxRetentionPolicy where
  persistent : Bool
  completedWindowTtlSecs : Nat
  completedWindowMax : Nat
deriving DecidableEq, Repr

structure ResidentPolicy where
  name : String
  idleExpirySecs : Nat
deriving DecidableEq, Repr

structure CreatorSession where
  harness : String
  sessionId : String
deriving DecidableEq, Repr

structure CallerSettlementIntent where
  runId : RunId
  nodeId : NodeId
  key : String
  operation : SettlementOperation
  actor : String
  reason : Option String
  writerDev : Nat
  writerIno : Nat
  gateDev : Nat
  gateIno : Nat
  generation : Nat
  seq : Nat
deriving DecidableEq, Repr

structure Manifest where
  schemaVersion : Nat
  appliedSeq : Nat
  runId : RunId
  kind : Kind
  lifecycle : Lifecycle
  agentOwner : AgentOwner
  callerSettlementIntent : Option CallerSettlementIntent
  title : String
  status : Status
  createdAt : Time
  updatedAt : Time
  sourceRepo : Option String
  sourceBranch : Option String
  worktreeRoot : Option String
  managedTmuxSession : Option String
  tmuxRetention : Option TmuxRetentionPolicy
  notifyCmd : Option String
  harness : Option String
  agentSelection : Option AgentSelection
  nodeCount : Nat
  createdByRunId : Option RunId
  createdBySession : Option CreatorSession
  parentRunId : Option RunId
  parentNodeId : Option NodeId
  resident : Option ResidentPolicy
deriving Repr

------------------------------------------------------------
-- Node Projection
------------------------------------------------------------

structure ChildRef where
  runId : RunId
  nodeId : NodeId
deriving DecidableEq, Repr

structure TmuxIdentity where
  socket : Option String
  session : String
  windowId : String
  paneId : Option String
  serverPid : Option Nat
  serverPidStartSecs : Option Nat
  serverMarker : Option String
deriving DecidableEq, Repr

structure WorkerEvidence where
  attempt : Nat
  sessionId : String
  originalCwd : String
  liveSessionPath : String
  status : EvidenceStatus
  transcriptPath : Option String
  resumePath : Option String
  panePath : Option String
  reportPath : Option String
  transcriptSha256 : Option String
  error : Option String
deriving DecidableEq, Repr

structure RetainedDisplay where
  attempt : Nat
  socket : String
  session : String
  windowId : String
  paneId : String
  serverPid : Nat
  serverPidStartSecs : Nat
  serverMarker : String
  ownershipMarker : String
  retainedAt : Time
  expiresAt : Time
  expiredAt : Option Time
deriving DecidableEq, Repr

structure CallerPiSession where
  piSessionId : String
  sessionPath : String
  originalCwd : String
  fileDev : Nat
  fileIno : Nat
  generation : Option Nat
deriving DecidableEq, Repr

structure CallerPiLifecycle where
  generation : Nat
  piSessionId : String
  sessionPath : Option String
  state : CallerPiState
  reason : Option String
deriving DecidableEq, Repr

structure CallerMergeLink where
  intentSeq : Nat
  intentKey : String
  writerDev : Nat
  writerIno : Nat
deriving DecidableEq, Repr

structure MergeTxn where
  opId : String
  sourceBranch : String
  workerBranch : String
  expectedSourceOid : String
  workerOid : String
  baseSha : Option String
  driverPid : Option Int
  driverPidStartSecs : Option Nat
  driverPidStartIdentity : Option String
  callerAuthority : Option CallerMergeLink
  landing : Bool
  startedAt : Time
deriving DecidableEq, Repr

structure WorkerExit where
  code : Option Int
  signal : Option Int
  exitedAt : Time
deriving DecidableEq, Repr

structure AwaitingInput where
  openedAt : Time
  eventSeq : Nat
  discussionItems : List Json
deriving DecidableEq, Repr

structure RoundReport where
  round : Nat
  attempt : Nat
  reportedAt : Time
  eventSeq : Nat
  summary : String
  closedAt : Option Time
  closedBy : Option String
deriving DecidableEq, Repr

structure RoundLanding where
  landedAt : Time
  sourceBranch : String
  integratedOid : String
  round : Nat
deriving DecidableEq, Repr

structure ResidentState where
  roundsReported : Nat
  lastRound : Option RoundReport
  lastLanding : Option RoundLanding
  dormantSince : Option Time
  expiryAttentionAt : Option Time
deriving DecidableEq, Repr

namespace ResidentState

/- The state of a resident that has reported nothing. -/
def initial : ResidentState where
  roundsReported := 0
  lastRound := none
  lastLanding := none
  dormantSince := none
  expiryAttentionAt := none

/- The open round report, if the worker is between rounds. -/
def openRound (s : ResidentState) : Option RoundReport :=
  s.lastRound.filter (fun r => r.closedAt.isNone)

end ResidentState

structure Node where
  schemaVersion : Nat
  nodeId : NodeId
  runId : RunId
  parentNodeId : Option NodeId
  kind : Kind
  status : Status
  task : Option String
  worktreePath : Option String
  branch : Option String
  baseSha : Option String
  tmuxWindow : Option String
  tmuxIdentity : Option TmuxIdentity
  evidence : Option WorkerEvidence
  callerPiSession : Option CallerPiSession
  callerPiLifecycle : Option CallerPiLifecycle
  retainedDisplay : Option RetainedDisplay
  retentionUnavailable : Option String
  agentPid : Option Int
  agentPidStartTime : Option Time
  agentPidStartIdentity : Option String
  supervisorPid : Option Int
  children : List ChildRef
  startedAt : Option Time
  updatedAt : Time
  lastReport : Option Json
  lastProcessedReportSeqByChild : List (String × Json)
  retryAttempts : Nat
  workerExit : Option WorkerExit
  pendingMerge : Option MergeTxn
  firstDeathAt : Option Time
  awaitingInput : Option AwaitingInput
  claudeSessionId : Option String
  resident : Option ResidentState
deriving Repr

------------------------------------------------------------
-- Events
------------------------------------------------------------

/-
  The event kinds that the reducer folds. Every other kind,
  the append-only audit records included, folds to nothing.
-/
inductive EventKind where
| runCreated
| runStatus
| nodeCreated
| nodeStatus
| nodeReport
| nodeRetry
| callerPiSessionBound
| callerPiLifecycle
| callerSettlementIntent
| workerExited
| workerEvidenceArchived
| workerEvidenceFailed
| workerDisplayRetained
| workerDisplayExpired
| workerDisplayUnavailable
| nodeDeathObserved
| nodeAwaitingInput
| nodeInputResolved
| nodeRoundReported
| nodeResumed
| nodeRoundLanded
| nodeResidentDormant
| nodeResidentAttention
| mergeStarted
| mergeAborted
| childSpawned
| supervisorAttached
| supervisorCursorAdvanced
| other (name : String)
deriving DecidableEq, Repr

namespace EventKind

def name : EventKind → String
| .runCreated => "run.created"
| .runStatus => "run.status"
| .nodeCreated => "node.created"
| .nodeStatus => "node.status"
| .nodeReport => "node.report"
| .nodeRetry => "node.retry"
| .callerPiSessionBound => "caller.pi.session_bound"
| .callerPiLifecycle => "caller.pi.lifecycle"
| .callerSettlementIntent => "caller.settlement_intent"
| .workerExited => "worker.exited"
| .workerEvidenceArchived => "worker.evidence.archived"
| .workerEvidenceFailed => "worker.evidence.failed"
| .workerDisplayRetained => "worker.display.retained"
| .workerDisplayExpired => "worker.display.expired"
| .workerDisplayUnavailable => "worker.display.unavailable"
| .nodeDeathObserved => "node.death_observed"
| .nodeAwaitingInput => "node.awaiting_input"
| .nodeInputResolved => "node.input_resolved"
| .nodeRoundReported => "node.round_reported"
| .nodeResumed => "node.resumed"
| .nodeRoundLanded => "node.round_landed"
| .nodeResidentDormant => "node.resident_dormant"
| .nodeResidentAttention => "node.resident_attention"
| .mergeStarted => "merge.started"
| .mergeAborted => "merge.aborted"
| .childSpawned => "child.spawned"
| .supervisorAttached => "supervisor.attached"
| .supervisorCursorAdvanced => "supervisor.cursor_advanced"
| .other name => name

end EventKind

/- One event-log line. -/
structure Event where
  ts : Time
  seq : Nat
  kind : EventKind
  runId : RunId
  nodeId : Option NodeId
  idempotencyKey : Option String
  data : Json
deriving Repr

end Taskfleet
