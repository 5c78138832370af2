import Taskfleet.Reducer.Fields
import Taskfleet.Report

/-
  The reducer arms that settle, retry and annotate the
  worker of one existing node.

  An arm checks its payload and yields a step: what the
  event makes of the node projection, or nothing where one
  of the no-op guards holds.

  Main declarations:
    * `NodeStep`
    * `nodeStatusStep`, `nodeReportStep`, `nodeRetryStep`
    * the arms of worker exits, evidence and displays
-/

------------------------------------------------------------
-- Status, Report and Retry
------------------------------------------------------------

namespace Taskfleet

open Fallible

/- The effect of an event on an existing node. -/
abbrev NodeStep := Node → Except Error (Option Node)

/- A terminal status also drops what only a live node has. -/
def nodeStatusStep (ev : Event) : NodeStep :=
  fun n => do
    let newStatus ← ev.requireStatus
    if n.status.isTerminal then return none
    else if n.status = newStatus then return none
    else
      return some { n with
        status := newStatus
        pendingMerge :=
          if newStatus.isTerminal then none
          else n.pendingMerge
        awaitingInput :=
          if newStatus.isTerminal then none
          else n.awaitingInput
        updatedAt := ev.ts }

/-
  The outcome a report asserts: success or failure, or else
  a cancellation, with strict boolean typing.
-/
def Event.reportTerminalStatus (ev : Event) :
    Except Error Status := do
  let cancelled ← ev.optionalBool "cancelled"
  let success ← ev.optionalBool "success"
  if cancelled.getD false then
    if success = some true then
      throw (ev.corruptAt
        "kind=node.report has contradictory `success: true` with `cancelled: true`")
    else return .cancelled
  else
    match success with
    | some true => return .done
    | some false => return .failed
    | none =>
        throw (ev.corruptAt
          "kind=node.report must set boolean `success` or `cancelled: true`")

namespace Node

/- Settle a node by the report of an event. -/
def settleReport (n : Node) (ev : Event) (s : Status) :
    Node :=
  { n with
    lastReport := some ev.data
    status := s
    pendingMerge := none
    awaitingInput := none
    updatedAt := ev.ts }

end Node

/-
  A settled node is frozen before the payload is looked at.
  The one exception is a confirmed merge on a failed or done
  node, which is adopted once.
-/
def nodeReportStep (ev : Event) : NodeStep :=
  fun n =>
    if n.status.isTerminal then
      if permitsTerminalMergeRecovery n.status ev.data then
        if n.lastReport = some ev.data ∧ n.status = .done then
          .ok none
        else .ok (some (n.settleReport ev .done))
      else .ok none
    else do
      let newStatus ← ev.reportTerminalStatus
      return some (n.settleReport ev newStatus)

/- The attempt a retry records, or a saturating increment. -/
def Event.retryAttempts (ev : Event) (old : Nat) : Nat :=
  match (ev.data.get "attempt").bind Json.asU64 with
  | some a => a % 2 ^ 32
  | none => min (old + 1) (2 ^ 32 - 1)

/-
  Rewire a live node to a freshly spawned worker. Nothing of
  the previous attempt carries over.
-/
def nodeRetryStep (env : RunEnv) (ev : Event) : NodeStep :=
  fun n =>
    if n.status.isTerminal then .ok none
    else do
      let evidence ← ev.workerEvidenceFromSpawnData
      let claudeSessionId ← ev.claudeSessionFromData
      let agentPid ← ev.optionalI32 "agent_pid"
      let agentPidStartTime ←
        ev.optionalTs env "agent_pid_start_time"
      return some { n with
        branch := ev.data.getStr "branch"
        baseSha := ev.nonemptyStr "base_sha"
        worktreePath := ev.data.getStr "worktree_path"
        tmuxWindow := ev.data.getStr "tmux_window"
        tmuxIdentity := ev.tmuxIdentityFromData
        evidence := evidence
        claudeSessionId := claudeSessionId
        retainedDisplay := none
        retentionUnavailable := none
        agentPid := agentPid
        agentPidStartTime := agentPidStartTime
        agentPidStartIdentity := ev.startIdentityFromData
        status := .pending
        startedAt := some ev.ts
        updatedAt := ev.ts
        lastReport := none
        pendingMerge := none
        workerExit := none
        firstDeathAt := none
        awaitingInput := none
        retryAttempts := ev.retryAttempts n.retryAttempts }

------------------------------------------------------------
-- Worker Exit and Death
------------------------------------------------------------

/- The attempt of an exit fact; absence is the first. -/
def Event.exitAttempt (ev : Event) : Except Error Nat :=
  match ev.data.get "attempt" with
  | none | some .null => .ok 0
  | some _ => ev.evidenceAttempt

/- The first exit told of the current attempt is recorded. -/
def workerExitedStep
    (ev : Event)
    (attempt : Nat)
    (code signal : Option Int) : NodeStep :=
  fun n =>
    if attempt ≠ n.retryAttempts ∨ n.workerExit.isSome then
      .ok none
    else
      .ok (some { n with
        workerExit := some ⟨code, signal, ev.ts⟩
        awaitingInput := none
        updatedAt := ev.ts })

/- Exactly one of an exit code and a signal. -/
def workerExitedArm (ev : Event) : Except Error NodeStep := do
  let attempt ← ev.exitAttempt
  let code ← ev.optionalI32 "exit_code"
  let signal ← ev.optionalI32 "signal"
  refuseIf (code.isSome = signal.isSome)
    (ev.corruptAt
      "kind=worker.exited must carry EXACTLY one of `exit_code` or `signal`")
  return workerExitedStep ev attempt code signal

/- The first confirmed death anchors the crash backstop. -/
def nodeDeathObservedStep (ev : Event) : NodeStep :=
  fun n =>
    if n.firstDeathAt.isSome ∨ n.status.isTerminal ∨
        n.workerExit.isSome ∨ n.lastReport.isSome ∨
        n.pendingMerge.isSome then
      .ok none
    else
      .ok (some { n with
        firstDeathAt := some ev.ts
        updatedAt := ev.ts })

------------------------------------------------------------
-- Evidence and Displays
------------------------------------------------------------

/- The archived artifact of a node under its own name. -/
def evidencePath (id : NodeId) (artifact : String) : String :=
  "evidence/" ++ id.val ++ "/" ++ artifact

def isLowerSha256 (s : String) : Bool :=
  s.utf8ByteSize == 64 && s.toList.all Text.isLowerHex

/- The paths and the digest an archive records. -/
structure EvidenceArchive where
  transcriptPath : String
  resumePath : String
  panePath : String
  reportPath : String
  transcriptSha256 : String

namespace EvidenceArchive

def canonical (a : EvidenceArchive) (id : NodeId) : Bool :=
  a.transcriptPath ==
      evidencePath id "pi-session.original.jsonl" &&
    a.resumePath ==
      evidencePath id "pi-session.resume.jsonl" &&
    a.panePath == evidencePath id "final-pane.log" &&
    a.reportPath == evidencePath id "terminal-report.json"

end EvidenceArchive

/-
  Evidence facts address one attempt and session, and an
  archive that is complete is final.
-/
def evidenceStep
    (ev : Event)
    (attempt : Nat)
    (sessionId : String)
    (missing : String)
    (update : WorkerEvidence → WorkerEvidence) : NodeStep :=
  fun n =>
    match n.evidence with
    | none => .error (ev.corruptAt missing)
    | some e =>
        if e.attempt ≠ attempt ∨ e.sessionId ≠ sessionId then
          .ok none
        else if e.status = .complete then .ok none
        else
          .ok (some { n with
            evidence := some (update e)
            updatedAt := ev.ts })

def workerEvidenceArchivedArm (ev : Event) (id : NodeId) :
    Except Error NodeStep := do
  let attempt ← ev.evidenceAttempt
  let sessionId ← ev.wantStr "session_id"
  let transcriptPath ← ev.wantStr "transcript_path"
  let resumePath ← ev.wantStr "resume_path"
  let panePath ← ev.wantStr "pane_path"
  let reportPath ← ev.wantStr "report_path"
  let sha256 ← ev.wantStr "transcript_sha256"
  let archive : EvidenceArchive :=
    ⟨transcriptPath, resumePath, panePath, reportPath, sha256⟩
  refuseIf (¬ archive.canonical id)
    (ev.corruptAt "evidence artifact path is not canonical")
  refuseIf (¬ isLowerSha256 archive.transcriptSha256)
    (ev.corruptAt "transcript_sha256 is not lowercase SHA-256")
  return evidenceStep ev attempt sessionId
    "evidence archive has no recorded Pi session"
    (fun e => { e with
      transcriptPath := some archive.transcriptPath
      resumePath := some archive.resumePath
      panePath := some archive.panePath
      reportPath := some archive.reportPath
      transcriptSha256 := some archive.transcriptSha256
      status := .complete
      error := none })

def workerEvidenceFailedArm (ev : Event) :
    Except Error NodeStep := do
  let attempt ← ev.evidenceAttempt
  let sessionId ← ev.wantStr "session_id"
  let detail ← ev.wantStr "error"
  return evidenceStep ev attempt sessionId
    "evidence failure has no recorded Pi session"
    (fun e => { e with
      status := .failed
      error := some detail })

/- The first display retained for an attempt is kept. -/
def workerDisplayRetainedArm (env : RunEnv) (ev : Event) :
    Except Error NodeStep := do
  let display ←
    orError (ev.corruptAt "invalid retained display")
      (ev.data.asRetainedDisplay env)
  return fun n =>
    if display.attempt ≠ n.retryAttempts ∨
        display.ownershipMarker.isEmpty then
      .ok none
    else if n.retainedDisplay.isSome then .ok none
    else
      .ok (some { n with
        retainedDisplay := some display
        updatedAt := ev.ts })

def workerDisplayExpiredArm (ev : Event) :
    Except Error NodeStep := do
  let marker ← ev.wantStr "ownership_marker"
  let attempt ← ev.evidenceAttempt
  return fun n =>
    match n.retainedDisplay with
    | none => .ok none
    | some display =>
        if display.attempt ≠ attempt ∨
            display.ownershipMarker ≠ marker ∨
            display.expiredAt.isSome then
          .ok none
        else
          .ok (some { n with
            retainedDisplay :=
              some { display with expiredAt := some ev.ts }
            updatedAt := ev.ts })

/-
  The first reason is kept. Unlike the other no-op guards, a
  reason already there still rewrites the unchanged node.
-/
def workerDisplayUnavailableArm (ev : Event) :
    Except Error NodeStep := do
  let attempt ← ev.evidenceAttempt
  let reason ← ev.wantStr "reason"
  return fun n =>
    if attempt ≠ n.retryAttempts ∨
        n.retainedDisplay.isSome then
      .ok none
    else if n.retentionUnavailable.isNone then
      .ok (some { n with
        retentionUnavailable := some reason
        updatedAt := ev.ts })
    else .ok (some n)

------------------------------------------------------------
-- Children and Supervisor Records
------------------------------------------------------------

/- A child link is recorded once. -/
def childSpawnedArm (ev : Event) : Except Error NodeStep := do
  let rawRun ← ev.wantStr "child_run_id"
  let childRun ←
    (RunId.parseStr rawRun).mapError ev.corruptId
  let childNode ←
    (NodeId.parseStr
      ((ev.data.getStr "child_node_id").getD "n-0001")).mapError
        ev.corruptId
  let newRef : ChildRef := ⟨childRun, childNode⟩
  return fun n =>
    if n.children.contains newRef then .ok none
    else
      .ok (some { n with
        children := n.children ++ [newRef]
        updatedAt := ev.ts })

/- The latest supervisor process wins. -/
def supervisorAttachedArm (ev : Event) :
    Except Error NodeStep := do
  let raw ←
    orError
      (ev.corruptAt
        "kind=supervisor.attached missing/invalid `pid`")
      ((ev.data.get "pid").bind Json.asI64)
  refuseIf (¬ (-(2 ^ 31) ≤ raw ∧ raw < 2 ^ 31))
    (ev.corruptAt
      s!"kind=supervisor.attached `pid` out of i32 range: {raw}")
  return fun n =>
    if n.supervisorPid = some raw then .ok none
    else
      .ok (some { n with
        supervisorPid := some raw
        updatedAt := ev.ts })

/- The report cursor of a child never moves backward. -/
def supervisorCursorAdvancedArm (ev : Event) :
    Except Error NodeStep := do
  let child ← ev.wantStr "child_run_id"
  let _ ← (RunId.parseStr child).mapError ev.corruptId
  let reportSeq ←
    orError
      (ev.corruptAt
        "kind=supervisor.cursor_advanced missing/invalid `report_seq`")
      ((ev.data.get "report_seq").bind Json.asU64)
  return fun n =>
    let cursors := n.lastProcessedReportSeqByChild
    let prev := (cursors.lookup child).bind Json.asU64
    if prev.any (fun p => reportSeq ≤ p) then .ok none
    else
      .ok (some { n with
        lastProcessedReportSeqByChild :=
          Json.insertField child (.int reportSeq) cursors
        updatedAt := ev.ts })

end Taskfleet
