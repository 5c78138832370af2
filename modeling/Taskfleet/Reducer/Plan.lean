import Taskfleet.NodeStatus
import Taskfleet.Reducer.Resident

/-
  The reducer: the projection writes an event implies on a
  run directory, planned without performing them, and the
  commit of such a plan.

  Main declarations:
    * `ProjectionOp`, `onNode`
    * `reduceRunCreated`, `reduceRunStatus`
    * `reduceNodeCreated`, `reduceCallerSettlementIntent`
    * `reduceEventToOps`, `commitOps`, `applyEvent`
-/

------------------------------------------------------------
-- Planned Writes
------------------------------------------------------------

namespace Taskfleet

open Fallible

/- A projection write planned by the reducer. -/
inductive ProjectionOp where
| manifest (m : Manifest)
| node (n : Node)

/- The planned writes, or the reason an event is refused. -/
abbrev Plan := Except Error (List ProjectionOp)

namespace ProjectionOp

/- The file a write rewrites. -/
def path : ProjectionOp → StateFile
| .manifest _ => .manifest
| .node n => .node n.nodeId

/- The effect of a write on the run directory. -/
def put : ProjectionOp → Disk → Disk
| .manifest m => Disk.putManifest m
| .node n => Disk.putNode n

def write
    (env : RunEnv)
    (boundary : Boundary) : ProjectionOp → Locked Unit
| .manifest m => writeManifest env boundary m
| .node n => writeNode env boundary n

end ProjectionOp

/- The writes of a step's outcome. -/
def stepPlan : Option Node → List ProjectionOp
| none => []
| some n => [.node n]

/-
  The common shape of the arms that rewrite one existing
  node. A node without a projection is left alone, except
  where an arm refuses it.
-/
def onNode
    (env : RunEnv)
    (d : Disk)
    (id : NodeId)
    (missing : Plan)
    (step : NodeStep) : Plan := do
  match ← readNodeOpt env d id with
  | none => missing
  | some n => return stepPlan (← step n)

/- An arm of a node event, under its envelope node. -/
def reduceNode
    (env : RunEnv)
    (d : Disk)
    (ev : Event)
    (arm : NodeId → Except Error NodeStep) : Plan := do
  let id ← ev.requireEnvelopeNodeId
  onNode env d id (.ok []) (← arm id)

------------------------------------------------------------
-- Run Creation
------------------------------------------------------------

def stateSchemaVersion : Nat := 1

def Event.agentSelection (ev : Event) :
    Except Error (Option AgentSelection) :=
  match ev.data.get "agent_selection" with
  | none => .ok none
  | some v => do
      let selection ←
        orError
          (corruptLog "run.created invalid `agent_selection`")
          v.asAgentSelection
      selection.validate.mapError (fun reason =>
        corruptLog
          s!"run.created invalid `agent_selection`: {reason}")
      return some selection

def Event.agentOwner (ev : Event) : Except Error AgentOwner :=
  match ev.data.get "agent_owner" with
  | none => .ok .taskfleet
  | some v =>
      orError (corruptLog "run.created invalid agent_owner")
        v.asAgentOwner

/- The manifest a creation event describes. -/
def Event.newManifest (env : RunEnv) (ev : Event) :
    Except Error Manifest := do
  let kind ←
    orError (corruptLog "run.created missing/invalid `kind`")
      (Event.dataKind ((ev.data.get "kind").getD .null))
  let lifecycle ←
    orError
      (corruptLog "run.created missing/invalid `lifecycle`")
      ((ev.data.get "lifecycle").getD .null).asLifecycle
  let title ← ev.wantStr "title"
  let agentSelection ← ev.agentSelection
  let agentOwner ← ev.agentOwner
  let tmuxRetention ← ev.retentionPolicyFromData
  let createdByRunId ← ev.optRunId "created_by_run_id"
  let createdBySession ←
    orError
      (corruptLog "run.created invalid `created_by_session`")
      (Json.option Json.asCreatorSession
        ((ev.data.get "created_by_session").getD .null))
  let parentRunId ← ev.optRunId "parent_run_id"
  let parentNodeId ← ev.optNodeId "parent_node_id"
  let resident ← ev.residentPolicyFromData
  return {
    schemaVersion := stateSchemaVersion
    appliedSeq := 0
    runId := env.runId
    kind
    lifecycle
    agentOwner
    callerSettlementIntent := none
    title
    status := .pending
    createdAt := ev.ts
    updatedAt := ev.ts
    sourceRepo := ev.data.getStr "source_repo"
    sourceBranch := ev.data.getStr "source_branch"
    worktreeRoot := ev.data.getStr "worktree_root"
    managedTmuxSession :=
      ev.data.getStr "managed_tmux_session"
    tmuxRetention
    notifyCmd := ev.data.getStr "notify_cmd"
    harness := ev.data.getStr "harness"
    agentSelection
    nodeCount := 0
    createdByRunId
    createdBySession
    parentRunId
    parentNodeId
    resident }

/- A replayed creation against an existing run is a no-op. -/
def reduceRunCreated
    (env : RunEnv) (d : Disk) (ev : Event) : Plan := do
  match ← readManifestOpt env d with
  | some existing =>
      refuseIf (existing.runId ≠ ev.runId)
        (.corruptEventLog .manifest
          s!"run.created run_id={ev.runId.val} conflicts with existing manifest run_id={existing.runId.val}")
      return []
  | none =>
      let m ← ev.newManifest env
      return [.manifest m]

------------------------------------------------------------
-- Run Status
------------------------------------------------------------

/-
  The log-derived facts before an event authorize recovery
  by a merge report: every node is done and one of them
  adopted that very report.
-/
def recoveryEvidence
    (lines : List LogLine)
    (bound wanted : Nat) : Bool :=
  match readNodeStatusFacts lines (some bound) with
  | .error _ => false
  | .ok facts =>
      aggregateTerminalStatus
          (facts.map NodeStatusFact.status) == some .done &&
        facts.any (fun fact =>
          fact.confirmedMergeSeq == some wanted)

/- The one legal exit of a failed run. -/
def recoveryAllowed
    (d : Disk)
    (ev : Event)
    (current newStatus : Status) : Bool :=
  current == .failed && newStatus == .done &&
    (ev.data.get "children_successful").bind Json.asBool ==
      some true &&
    ((ev.data.get "recovery_merge_report_seq").bind
      Json.asU64).any (recoveryEvidence d.lines ev.seq)

def reduceRunStatus
    (env : RunEnv) (d : Disk) (ev : Event) : Plan := do
  match ← readManifestOpt env d with
  | none => return []
  | some m =>
      let newStatus ← ev.requireStatus
      if m.status.isTerminal ∧
          ¬ recoveryAllowed d ev m.status newStatus then
        return []
      else if m.status = newStatus then return []
      else
        return [.manifest { m with
          status := newStatus
          updatedAt := ev.ts }]

------------------------------------------------------------
-- Node Creation
------------------------------------------------------------

/- The node a creation event describes. -/
def Event.newNode
    (env : RunEnv) (ev : Event) (id : NodeId) :
    Except Error Node := do
  let kind ←
    orError
      (ev.corruptAt "kind=node.created missing/invalid `kind`")
      (Event.dataKind ((ev.data.get "kind").getD .null))
  let parentNodeId ← ev.optNodeId "parent_node_id"
  let evidence ← ev.workerEvidenceFromSpawnData
  let agentPid ← ev.optionalI32 "agent_pid"
  let agentPidStartTime ←
    ev.optionalTs env "agent_pid_start_time"
  let supervisorPid ← ev.optionalI32 "supervisor_pid"
  let claudeSessionId ← ev.claudeSessionFromData
  return {
    schemaVersion := stateSchemaVersion
    nodeId := id
    runId := env.runId
    parentNodeId
    kind
    status := .pending
    task := ev.data.getStr "task"
    worktreePath := ev.data.getStr "worktree_path"
    branch := ev.data.getStr "branch"
    baseSha := ev.nonemptyStr "base_sha"
    tmuxWindow := ev.data.getStr "tmux_window"
    tmuxIdentity := ev.tmuxIdentityFromData
    evidence
    callerPiSession := none
    callerPiLifecycle := none
    retainedDisplay := none
    retentionUnavailable := none
    agentPid
    agentPidStartTime
    agentPidStartIdentity := ev.startIdentityFromData
    supervisorPid
    children := []
    startedAt := some ev.ts
    updatedAt := ev.ts
    lastReport := none
    lastProcessedReportSeqByChild := []
    retryAttempts := 0
    workerExit := none
    pendingMerge := none
    firstDeathAt := none
    awaitingInput := none
    claudeSessionId
    resident := none }

/-
  The first node brings the source branch that was not known
  when the run was created. An explicit value is kept.
-/
def Manifest.materialize
    (m : Manifest)
    (ev : Event)
    (id : NodeId) : Manifest :=
  { m with
    sourceBranch :=
      if id = NodeId.first ∧ m.sourceBranch = none then
        ev.nonemptyStr "source_branch"
      else m.sourceBranch
    updatedAt := ev.ts }

def reduceNodeCreated
    (env : RunEnv) (d : Disk) (ev : Event) : Plan := do
  let id ← ev.requireEnvelopeNodeId
  match ← readNodeOpt env d id with
  | some _ => return []
  | none =>
      let n ← ev.newNode env id
      match ← readManifestOpt env d with
      | none => return [.node n]
      | some m =>
          return [.node n, .manifest (m.materialize ev id)]

------------------------------------------------------------
-- Settlement Intent
------------------------------------------------------------

/- The identity and audit fields of an intent on its node. -/
def CallerSettlementIntent.wellFormed
    (intent : CallerSettlementIntent)
    (m : Manifest)
    (n : Node)
    (ev : Event)
    (id : NodeId) : Bool :=
  m.agentOwner = .caller ∧
    intent.runId = ev.runId ∧
    intent.nodeId = id ∧
    n.runId = ev.runId ∧
    ev.idempotencyKey = some intent.key ∧
    ¬ Text.isBlank intent.key ∧
    ¬ Text.isBlank intent.actor ∧
    intent.writerDev ≠ 0 ∧
    intent.writerIno ≠ 0 ∧
    intent.gateDev ≠ 0 ∧
    intent.gateIno ≠ 0 ∧
    intent.seq = 0 ∧
    intent.generation = n.piGeneration

/- A terminal run still takes the settlement of one node. -/
def settlesFailedRun
    (m : Manifest)
    (n : Node)
    (id : NodeId)
    (intent : CallerSettlementIntent) : Bool :=
  m.status = .failed ∧ n.status = .failed ∧
    m.nodeCount = 1 ∧ id = NodeId.first ∧
    (intent.operation = .merge ∨
      intent.operation = .discard)

/- Only an exact duplicate of the recorded intent is a no-op. -/
def reduceCallerSettlementIntent
    (env : RunEnv) (d : Disk) (ev : Event) : Plan := do
  let id ← ev.requireEnvelopeNodeId
  let m ← requireManifest env d (ev.bad "missing run")
  let n ←
    orError (ev.bad "missing node") (← readNodeOpt env d id)
  let intent ←
    orError (ev.bad "invalid typed intent")
      ev.data.asCallerSettlementIntent
  refuseIf (¬ intent.wellFormed m n ev id)
    (ev.bad "invalid identity, generation or audit fields")
  let intent := { intent with seq := ev.seq }
  match m.callerSettlementIntent with
  | some existing =>
      refuseIf (existing ≠ intent)
        (ev.bad "intent already recorded")
      return []
  | none =>
      refuseIf
        (m.status.isTerminal ∧
          ¬ settlesFailedRun m n id intent)
        (ev.bad "terminal run")
      return [.manifest { m with
        callerSettlementIntent := some intent
        updatedAt := ev.ts }]

------------------------------------------------------------
-- Node Arms
------------------------------------------------------------

def reduceNodeStatus
    (env : RunEnv) (d : Disk) (ev : Event) : Plan :=
  reduceNode env d ev (fun _ => .ok (nodeStatusStep ev))

def reduceNodeReport
    (env : RunEnv) (d : Disk) (ev : Event) : Plan :=
  reduceNode env d ev (fun _ => .ok (nodeReportStep ev))

def reduceNodeRetry
    (env : RunEnv) (d : Disk) (ev : Event) : Plan :=
  reduceNode env d ev (fun _ => .ok (nodeRetryStep env ev))

/- A caller fact about a missing node is refused. -/
def reduceCallerPiSessionBound
    (env : RunEnv) (d : Disk) (ev : Event) : Plan := do
  let id ← ev.requireEnvelopeNodeId
  onNode env d id (.error (ev.bad "missing node"))
    (← callerPiSessionBoundArm env d ev)

def reduceCallerPiLifecycle
    (env : RunEnv) (d : Disk) (ev : Event) : Plan := do
  let id ← ev.requireEnvelopeNodeId
  onNode env d id (.error (ev.bad "missing node"))
    (← callerPiLifecycleArm env d ev)

def reduceWorkerExited
    (env : RunEnv) (d : Disk) (ev : Event) : Plan :=
  reduceNode env d ev (fun _ => workerExitedArm ev)

def reduceWorkerEvidenceArchived
    (env : RunEnv) (d : Disk) (ev : Event) : Plan :=
  reduceNode env d ev (workerEvidenceArchivedArm ev)

def reduceWorkerEvidenceFailed
    (env : RunEnv) (d : Disk) (ev : Event) : Plan :=
  reduceNode env d ev (fun _ => workerEvidenceFailedArm ev)

def reduceWorkerDisplayRetained
    (env : RunEnv) (d : Disk) (ev : Event) : Plan :=
  reduceNode env d ev
    (fun _ => workerDisplayRetainedArm env ev)

def reduceWorkerDisplayExpired
    (env : RunEnv) (d : Disk) (ev : Event) : Plan :=
  reduceNode env d ev (fun _ => workerDisplayExpiredArm ev)

def reduceWorkerDisplayUnavailable
    (env : RunEnv) (d : Disk) (ev : Event) : Plan :=
  reduceNode env d ev
    (fun _ => workerDisplayUnavailableArm ev)

def reduceNodeDeathObserved
    (env : RunEnv) (d : Disk) (ev : Event) : Plan :=
  reduceNode env d ev
    (fun _ => .ok (nodeDeathObservedStep ev))

def reduceNodeAwaitingInput
    (env : RunEnv) (d : Disk) (ev : Event) : Plan :=
  reduceNode env d ev (fun _ => nodeAwaitingInputArm ev)

def reduceNodeInputResolved
    (env : RunEnv) (d : Disk) (ev : Event) : Plan :=
  reduceNode env d ev (fun _ => nodeInputResolvedArm ev)

def reduceNodeRoundReported
    (env : RunEnv) (d : Disk) (ev : Event) : Plan :=
  reduceNode env d ev
    (fun _ => nodeRoundReportedArm env d ev)

def reduceNodeResumed
    (env : RunEnv) (d : Disk) (ev : Event) : Plan :=
  reduceNode env d ev (fun _ => nodeResumedArm env d ev)

def reduceNodeRoundLanded
    (env : RunEnv) (d : Disk) (ev : Event) : Plan :=
  reduceNode env d ev (fun _ => nodeRoundLandedArm env d ev)

def reduceNodeResidentDormant
    (env : RunEnv) (d : Disk) (ev : Event) : Plan :=
  reduceNode env d ev
    (fun _ => nodeResidentDormantArm env d ev)

def reduceNodeResidentAttention
    (env : RunEnv) (d : Disk) (ev : Event) : Plan :=
  reduceNode env d ev
    (fun _ => nodeResidentAttentionArm env d ev)

def reduceMergeStarted
    (env : RunEnv) (d : Disk) (ev : Event) : Plan :=
  reduceNode env d ev (mergeStartedArm env d ev)

def reduceMergeAborted
    (env : RunEnv) (d : Disk) (ev : Event) : Plan :=
  reduceNode env d ev (fun _ => mergeAbortedArm ev)

/- The envelope node of a spawn is the parent node. -/
def reduceChildSpawned
    (env : RunEnv) (d : Disk) (ev : Event) : Plan := do
  let id ←
    orError
      (ev.corruptAt
        "kind=child.spawned missing parent `node_id`")
      ev.nodeId
  onNode env d id (.ok []) (← childSpawnedArm ev)

def reduceSupervisorAttached
    (env : RunEnv) (d : Disk) (ev : Event) : Plan :=
  reduceNode env d ev (fun _ => supervisorAttachedArm ev)

def reduceSupervisorCursorAdvanced
    (env : RunEnv) (d : Disk) (ev : Event) : Plan :=
  reduceNode env d ev
    (fun _ => supervisorCursorAdvancedArm ev)

------------------------------------------------------------
-- The Reducer
------------------------------------------------------------

/- The plan of an event of the run, by its kind. -/
def reduceKind
    (env : RunEnv) (d : Disk) (ev : Event) : Plan :=
  match ev.kind with
  | .runCreated => reduceRunCreated env d ev
  | .runStatus => reduceRunStatus env d ev
  | .nodeCreated => reduceNodeCreated env d ev
  | .nodeStatus => reduceNodeStatus env d ev
  | .nodeReport => reduceNodeReport env d ev
  | .nodeRetry => reduceNodeRetry env d ev
  | .callerPiSessionBound =>
      reduceCallerPiSessionBound env d ev
  | .callerPiLifecycle => reduceCallerPiLifecycle env d ev
  | .callerSettlementIntent =>
      reduceCallerSettlementIntent env d ev
  | .workerExited => reduceWorkerExited env d ev
  | .workerEvidenceArchived =>
      reduceWorkerEvidenceArchived env d ev
  | .workerEvidenceFailed =>
      reduceWorkerEvidenceFailed env d ev
  | .workerDisplayRetained =>
      reduceWorkerDisplayRetained env d ev
  | .workerDisplayExpired =>
      reduceWorkerDisplayExpired env d ev
  | .workerDisplayUnavailable =>
      reduceWorkerDisplayUnavailable env d ev
  | .nodeDeathObserved => reduceNodeDeathObserved env d ev
  | .nodeAwaitingInput => reduceNodeAwaitingInput env d ev
  | .nodeInputResolved => reduceNodeInputResolved env d ev
  | .nodeRoundReported => reduceNodeRoundReported env d ev
  | .nodeResumed => reduceNodeResumed env d ev
  | .nodeRoundLanded => reduceNodeRoundLanded env d ev
  | .nodeResidentDormant =>
      reduceNodeResidentDormant env d ev
  | .nodeResidentAttention =>
      reduceNodeResidentAttention env d ev
  | .mergeStarted => reduceMergeStarted env d ev
  | .mergeAborted => reduceMergeAborted env d ev
  | .childSpawned => reduceChildSpawned env d ev
  | .supervisorAttached => reduceSupervisorAttached env d ev
  | .supervisorCursorAdvanced =>
      reduceSupervisorCursorAdvanced env d ev
  | .other _ => .ok []

/- An event of another run is refused before any planning. -/
def reduceEventToOps
    (env : RunEnv) (d : Disk) (ev : Event) : Plan := do
  refuseIf (ev.runId ≠ env.runId)
    (ev.corruptAt
      s!"envelope run_id {ev.runId.val.quote} does not match run {env.runId.val.quote}")
  reduceKind env d ev

/- The files an event would write, in commit order. -/
def planProjections
    (env : RunEnv) (d : Disk) (ev : Event) :
    Except Error (List StateFile) := do
  return (← reduceEventToOps env d ev).map ProjectionOp.path

------------------------------------------------------------
-- Commit
------------------------------------------------------------

/- Perform planned writes in order, numbered from `k`. -/
def commitFrom
    (env : RunEnv)
    (planned : Disk)
    (ev : Event) : Nat → List ProjectionOp → Locked Unit
| _, [] => pure ()
| k, op :: rest => do
    op.write env (.projected planned ev k)
    commitFrom env planned ev (k + 1) rest

def commitOps
    (env : RunEnv)
    (planned : Disk)
    (ev : Event)
    (ops : List ProjectionOp) : Locked Unit :=
  commitFrom env planned ev 0 ops

/- Plan an event on the current projections and commit it. -/
def applyEvent (env : RunEnv) (ev : Event) :
    Locked Unit := do
  let d ← Durable.read
  let ops ← Durable.lift (reduceEventToOps env d ev)
  commitOps env d ev ops

end Taskfleet
