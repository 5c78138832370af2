import Taskfleet.Reducer.Arms

/-
  Everything a plan can be: one case for each arm that
  writes, with the guards that let it through.

  Main declarations:
    * `readNodeOpt_eq_some`, `readManifestOpt_eq_some`
    * `nodeArm`, `reduceKind_eq_arm`
    * `Planned`, `planned_of_reduce`
-/

------------------------------------------------------------
-- Readable Projections
------------------------------------------------------------

namespace Taskfleet

open Fallible NodeStep

variable {env : RunEnv} {d : Disk} {ev : Event}

/- A projection the reader of its file accepts. -/
structure Node.Valid (env : RunEnv) (id : NodeId) (n : Node) :
    Prop where
  schemaVersion : n.schemaVersion ∈ supportedStateSchemas
  nodeId : n.nodeId = id
  runId : n.runId = env.runId

structure Manifest.Valid (env : RunEnv) (m : Manifest) :
    Prop where
  schemaVersion : m.schemaVersion ∈ supportedStateSchemas
  runId : m.runId = env.runId

theorem checkRunId_eq_ok
    {kind : String} {file : StateFile} {body : RunId}
    {u : Unit} :
    checkRunId env kind file body = .ok u ↔
      body = env.runId := by
  unfold checkRunId
  split <;> simp_all [eq_comm]

theorem checkSchema_eq_ok
    {file : StateFile} {found : Nat} {u : Unit} :
    checkSchema file found = .ok u ↔
      found ∈ supportedStateSchemas := by
  unfold checkSchema
  split <;> simp_all

theorem checkKey_eq_ok {id body : NodeId} {u : Unit} :
    checkKey id body = .ok u ↔ body = id := by
  unfold checkKey
  split <;> simp_all [eq_comm]

theorem readManifestOpt_eq_some {m : Manifest} :
    readManifestOpt env d = .ok (some m) ↔
      d.manifest = some m ∧ m.Valid env := by
  unfold readManifestOpt
  cases hManifest : d.manifest with
  | none => simp
  | some m' =>
      simp only [bind_eq_ok, checkSchema_eq_ok,
        checkRunId_eq_ok, pure_eq, Except.ok.injEq,
        Option.some.injEq]
      constructor
      · rintro ⟨_, hSchema, _, hRun, rfl⟩
        exact ⟨rfl, hSchema, hRun⟩
      · rintro ⟨rfl, hSchema, hRun⟩
        exact ⟨(), hSchema, (), hRun, rfl⟩

theorem readManifestOpt_eq_none :
    readManifestOpt env d = .ok none ↔ d.manifest = none := by
  unfold readManifestOpt
  cases hManifest : d.manifest <;> simp

theorem readNodeOpt_eq_some {id : NodeId} {n : Node} :
    readNodeOpt env d id = .ok (some n) ↔
      d.nodes.lookup id = some n ∧ n.Valid env id := by
  unfold readNodeOpt
  cases hNode : d.nodes.lookup id with
  | none => simp
  | some n' =>
      simp only [bind_eq_ok, checkSchema_eq_ok,
        checkKey_eq_ok, checkRunId_eq_ok, pure_eq,
        Except.ok.injEq, Option.some.injEq]
      constructor
      · rintro ⟨_, hSchema, _, hKey, _, hRun, rfl⟩
        exact ⟨rfl, hSchema, hKey, hRun⟩
      · rintro ⟨rfl, hSchema, hKey, hRun⟩
        exact ⟨(), hSchema, (), hKey, (), hRun, rfl⟩

theorem readNodeOpt_eq_none {id : NodeId} :
    readNodeOpt env d id = .ok none ↔
      d.nodes.lookup id = none := by
  unfold readNodeOpt
  cases hNode : d.nodes.lookup id <;> simp

/- Readers look at their own file only. -/
theorem readManifestOpt_congr
    {d d' : Disk} (hSame : d'.manifest = d.manifest) :
    readManifestOpt env d' = readManifestOpt env d := by
  unfold readManifestOpt
  rw [hSame]

theorem readNodeOpt_congr
    {d d' : Disk} {id : NodeId}
    (hSame : d'.nodes.lookup id = d.nodes.lookup id) :
    readNodeOpt env d' id = readNodeOpt env d id := by
  unfold readNodeOpt
  rw [hSame]

------------------------------------------------------------
-- Node Arms by Kind
------------------------------------------------------------

/- The arm of an event kind that rewrites an existing node. -/
def nodeArm
    (env : RunEnv) (d : Disk) (ev : Event) (id : NodeId) :
    Option (Except Error NodeStep) :=
  match ev.kind with
  | .nodeStatus => some (.ok (nodeStatusStep ev))
  | .nodeReport => some (.ok (nodeReportStep ev))
  | .nodeRetry => some (.ok (nodeRetryStep env ev))
  | .callerPiSessionBound =>
      some (callerPiSessionBoundArm env d ev)
  | .callerPiLifecycle => some (callerPiLifecycleArm env d ev)
  | .workerExited => some (workerExitedArm ev)
  | .workerEvidenceArchived =>
      some (workerEvidenceArchivedArm ev id)
  | .workerEvidenceFailed => some (workerEvidenceFailedArm ev)
  | .workerDisplayRetained =>
      some (workerDisplayRetainedArm env ev)
  | .workerDisplayExpired => some (workerDisplayExpiredArm ev)
  | .workerDisplayUnavailable =>
      some (workerDisplayUnavailableArm ev)
  | .nodeDeathObserved =>
      some (.ok (nodeDeathObservedStep ev))
  | .nodeAwaitingInput => some (nodeAwaitingInputArm ev)
  | .nodeInputResolved => some (nodeInputResolvedArm ev)
  | .nodeRoundReported =>
      some (nodeRoundReportedArm env d ev)
  | .nodeResumed => some (nodeResumedArm env d ev)
  | .nodeRoundLanded => some (nodeRoundLandedArm env d ev)
  | .nodeResidentDormant =>
      some (nodeResidentDormantArm env d ev)
  | .nodeResidentAttention =>
      some (nodeResidentAttentionArm env d ev)
  | .mergeStarted => some (mergeStartedArm env d ev id)
  | .mergeAborted => some (mergeAbortedArm ev)
  | .childSpawned => some (childSpawnedArm ev)
  | .supervisorAttached => some (supervisorAttachedArm ev)
  | .supervisorCursorAdvanced =>
      some (supervisorCursorAdvancedArm ev)
  | .runCreated | .runStatus | .nodeCreated
  | .callerSettlementIntent | .other _ => none

/- The plan of a node event without a node projection. -/
def missingNode (ev : Event) : Plan :=
  match ev.kind with
  | .callerPiSessionBound | .callerPiLifecycle =>
      .error (ev.bad "missing node")
  | _ => .ok []

/- Node events all run their arm on the envelope node. -/
theorem reduceKind_eq_arm
    {id : NodeId}
    {arm : Except Error NodeStep}
    (hArm : nodeArm env d ev id = some arm)
    (hNode : ev.nodeId = some id) :
    reduceKind env d ev =
      arm >>= onNode env d id (missingNode ev) := by
  cases hKind : ev.kind <;>
    simp only [nodeArm, hKind, Option.some.injEq,
      reduceCtorEq] at hArm <;>
    subst hArm <;>
    simp [reduceKind, hKind, missingNode, reduceNode,
      reduceNodeStatus, reduceNodeReport, reduceNodeRetry,
      reduceCallerPiSessionBound, reduceCallerPiLifecycle,
      reduceWorkerExited, reduceWorkerEvidenceArchived,
      reduceWorkerEvidenceFailed, reduceWorkerDisplayRetained,
      reduceWorkerDisplayExpired,
      reduceWorkerDisplayUnavailable, reduceNodeDeathObserved,
      reduceNodeAwaitingInput, reduceNodeInputResolved,
      reduceNodeRoundReported, reduceNodeResumed,
      reduceNodeRoundLanded, reduceNodeResidentDormant,
      reduceNodeResidentAttention, reduceMergeStarted,
      reduceMergeAborted, reduceChildSpawned,
      reduceSupervisorAttached,
      reduceSupervisorCursorAdvanced,
      Event.requireEnvelopeNodeId, hNode]

theorem onNode_eq_ok
    {id : NodeId}
    {missing : Plan}
    {step : NodeStep}
    {ops : List ProjectionOp}
    (hRun : onNode env d id missing step = .ok ops) :
    (d.nodes.lookup id = none ∧ missing = .ok ops) ∨
      (∃ n, d.nodes.lookup id = some n ∧ n.Valid env id ∧
        ((step n = .ok none ∧ ops = []) ∨
          ∃ n', step n = .ok (some n') ∧ ops = [.node n'])) := by
  unfold onNode at hRun
  simp only [bind_eq_ok] at hRun
  rcases hRun with ⟨read, hRead, hRest⟩
  cases read with
  | none => exact .inl ⟨readNodeOpt_eq_none.mp hRead, hRest⟩
  | some n =>
      rcases readNodeOpt_eq_some.mp hRead with ⟨hLookup, hValid⟩
      simp only [bind_eq_ok] at hRest
      rcases hRest with ⟨outcome, hStep, hOps⟩
      refine .inr ⟨n, hLookup, hValid, ?_⟩
      cases outcome with
      | none =>
          exact .inl ⟨hStep, by simpa [stepPlan] using hOps.symm⟩
      | some n' =>
          exact .inr
            ⟨n', hStep, by simpa [stepPlan] using hOps.symm⟩

theorem onNode_of_step
    {id : NodeId}
    {missing : Plan}
    {step : NodeStep}
    {n : Node}
    (hLookup : d.nodes.lookup id = some n)
    (hValid : n.Valid env id) :
    onNode env d id missing step =
      (do return stepPlan (← step n)) := by
  have hRead : readNodeOpt env d id = .ok (some n) :=
    readNodeOpt_eq_some.mpr ⟨hLookup, hValid⟩
  unfold onNode
  rw [hRead]
  rfl

------------------------------------------------------------
-- Plans
------------------------------------------------------------

/- Every way the reducer accepts an event. -/
inductive Planned
    (env : RunEnv) (d : Disk) (ev : Event) :
    List ProjectionOp → Prop where
| nothing : Planned env d ev []
| runCreated (m : Manifest)
    (hKind : ev.kind = .runCreated)
    (hNone : d.manifest = none)
    (hNew : ev.newManifest env = .ok m) :
    Planned env d ev [.manifest m]
| runStatus (m : Manifest) (s : Status)
    (hKind : ev.kind = .runStatus)
    (hManifest : d.manifest = some m)
    (hValid : m.Valid env)
    (hStatus : ev.requireStatus = .ok s)
    (hOpen : m.status.isTerminal = true →
      recoveryAllowed d ev m.status s = true)
    (hMoves : m.status ≠ s) :
    Planned env d ev
      [.manifest { m with status := s, updatedAt := ev.ts }]
| nodeAlone (id : NodeId) (n : Node)
    (hKind : ev.kind = .nodeCreated)
    (hNode : ev.nodeId = some id)
    (hMissing : d.nodes.lookup id = none)
    (hNew : ev.newNode env id = .ok n)
    (hNone : d.manifest = none) :
    Planned env d ev [.node n]
| nodeCreated (id : NodeId) (n : Node) (m : Manifest)
    (hKind : ev.kind = .nodeCreated)
    (hNode : ev.nodeId = some id)
    (hMissing : d.nodes.lookup id = none)
    (hNew : ev.newNode env id = .ok n)
    (hManifest : d.manifest = some m)
    (hValid : m.Valid env) :
    Planned env d ev
      [.node n, .manifest (m.materialize ev id)]
| settlementIntent (id : NodeId) (n : Node) (m : Manifest)
    (intent : CallerSettlementIntent)
    (hKind : ev.kind = .callerSettlementIntent)
    (hNode : ev.nodeId = some id)
    (hManifest : d.manifest = some m)
    (hValid : m.Valid env)
    (hLookup : d.nodes.lookup id = some n)
    (hNodeValid : n.Valid env id)
    (hIntent :
      ev.data.asCallerSettlementIntent = some intent)
    (hFormed : intent.wellFormed m n ev id = true)
    (hFirst : m.callerSettlementIntent = none) :
    Planned env d ev
      [.manifest { m with
        callerSettlementIntent :=
          some { intent with seq := ev.seq }
        updatedAt := ev.ts }]
| stepped (id : NodeId) (n n' : Node) (step : NodeStep)
    (hNode : ev.nodeId = some id)
    (hArm : nodeArm env d ev id = some (.ok step))
    (hLookup : d.nodes.lookup id = some n)
    (hValid : n.Valid env id)
    (hStep : step n = .ok (some n')) :
    Planned env d ev [.node n']

theorem requireManifest_eq_ok
    {missing : Error} {m : Manifest} :
    requireManifest env d missing = .ok m ↔
      d.manifest = some m ∧ m.Valid env := by
  unfold requireManifest
  simp only [bind_eq_ok, orError_eq_ok]
  constructor
  · rintro ⟨_, hRead, rfl⟩
    exact readManifestOpt_eq_some.mp hRead
  · intro hManifest
    exact ⟨_, readManifestOpt_eq_some.mpr hManifest, rfl⟩

theorem planned_of_runCreated
    {ops : List ProjectionOp}
    (hKind : ev.kind = .runCreated)
    (hPlan : reduceRunCreated env d ev = .ok ops) :
    Planned env d ev ops := by
  unfold reduceRunCreated at hPlan
  simp only [bind_eq_ok] at hPlan
  rcases hPlan with ⟨read, hRead, hRest⟩
  cases read with
  | some m =>
      simp only [bind_eq_ok, pure_eq, Except.ok.injEq] at hRest
      rcases hRest with ⟨_, _, rfl⟩
      exact .nothing
  | none =>
      simp only [bind_eq_ok, pure_eq, Except.ok.injEq] at hRest
      rcases hRest with ⟨m, hNew, rfl⟩
      exact .runCreated m hKind
        (readManifestOpt_eq_none.mp hRead) hNew

theorem planned_of_runStatus
    {ops : List ProjectionOp}
    (hKind : ev.kind = .runStatus)
    (hPlan : reduceRunStatus env d ev = .ok ops) :
    Planned env d ev ops := by
  unfold reduceRunStatus at hPlan
  simp only [bind_eq_ok] at hPlan
  rcases hPlan with ⟨read, hRead, hRest⟩
  cases read with
  | none => cases hRest; exact .nothing
  | some m =>
      rcases readManifestOpt_eq_some.mp hRead with
        ⟨hManifest, hValid⟩
      simp only [bind_eq_ok] at hRest
      rcases hRest with ⟨s, hStatus, hRest⟩
      split at hRest
      · cases hRest; exact .nothing
      next hOpen =>
      split at hRest
      · cases hRest; exact .nothing
      next hMoves =>
      cases hRest
      refine .runStatus m s hKind hManifest hValid hStatus ?_
        hMoves
      intro hTerminal
      by_contra hDenied
      exact hOpen ⟨hTerminal, hDenied⟩

theorem planned_of_nodeCreated
    {ops : List ProjectionOp}
    (hKind : ev.kind = .nodeCreated)
    (hPlan : reduceNodeCreated env d ev = .ok ops) :
    Planned env d ev ops := by
  unfold reduceNodeCreated at hPlan
  simp only [bind_eq_ok, Event.requireEnvelopeNodeId,
    orError_eq_ok] at hPlan
  rcases hPlan with ⟨id, hNode, read, hRead, hRest⟩
  cases read with
  | some n => cases hRest; exact .nothing
  | none =>
      have hMissing := readNodeOpt_eq_none.mp hRead
      simp only [bind_eq_ok] at hRest
      rcases hRest with ⟨n, hNew, manifest, hManifest, hRest⟩
      cases manifest with
      | none =>
          cases hRest
          exact .nodeAlone id n hKind hNode hMissing hNew
            (readManifestOpt_eq_none.mp hManifest)
      | some m =>
          cases hRest
          rcases readManifestOpt_eq_some.mp hManifest with
            ⟨hSome, hValid⟩
          exact .nodeCreated id n m hKind hNode hMissing hNew
            hSome hValid

theorem planned_of_settlementIntent
    {ops : List ProjectionOp}
    (hKind : ev.kind = .callerSettlementIntent)
    (hPlan : reduceCallerSettlementIntent env d ev = .ok ops) :
    Planned env d ev ops := by
  unfold reduceCallerSettlementIntent at hPlan
  simp only [bind_eq_ok, Event.requireEnvelopeNodeId,
    orError_eq_ok, requireManifest_eq_ok, refuseIf_eq_ok,
    not_not] at hPlan
  rcases hPlan with
    ⟨id, hNode, m, ⟨hManifest, hValid⟩, _, hRead, n, rfl,
      intent, hIntent, _, hFormed, hRest⟩
  rcases readNodeOpt_eq_some.mp hRead with
    ⟨hLookup, hNodeValid⟩
  split at hRest
  · simp only [bind_eq_ok, pure_eq, Except.ok.injEq] at hRest
    rcases hRest with ⟨_, _, rfl⟩
    exact .nothing
  next hFirst =>
  simp only [bind_eq_ok, pure_eq, Except.ok.injEq] at hRest
  rcases hRest with ⟨_, _, rfl⟩
  exact .settlementIntent id n m intent hKind hNode hManifest
    hValid hLookup hNodeValid hIntent hFormed hFirst

theorem planned_of_arm
    {id : NodeId}
    {arm : Except Error NodeStep}
    {ops : List ProjectionOp}
    (hNode : ev.nodeId = some id)
    (hArm : nodeArm env d ev id = some arm)
    (hPlan : reduceKind env d ev = .ok ops) :
    Planned env d ev ops := by
  rw [reduceKind_eq_arm hArm hNode, bind_eq_ok] at hPlan
  rcases hPlan with ⟨step, rfl, hRun⟩
  rcases onNode_eq_ok hRun with
    ⟨_, hMissing⟩ | ⟨n, hLookup, hValid, hCase⟩
  · unfold missingNode at hMissing
    split at hMissing <;> cases hMissing
    exact .nothing
  · rcases hCase with ⟨_, rfl⟩ | ⟨n', hStep, rfl⟩
    · exact .nothing
    · exact .stepped id n n' step hNode hArm hLookup hValid
        hStep

/- The kinds that write a manifest or a new node. -/
def EventKind.isRunKind : EventKind → Bool
| .runCreated | .runStatus | .nodeCreated
| .callerSettlementIntent | .other _ => true
| _ => false

theorem nodeArm_isSome
    (hKind : ev.kind.isRunKind = false) (id : NodeId) :
    ∃ arm, nodeArm env d ev id = some arm := by
  unfold nodeArm
  cases hCase : ev.kind <;> simp_all [EventKind.isRunKind]

/- A node event without its envelope node is refused. -/
theorem reduceKind_without_node
    (env : RunEnv)
    (hKind : ev.kind.isRunKind = false)
    (hNode : ev.nodeId = none) :
    ∃ e, ∀ d, reduceKind env d ev = .error e := by
  cases hCase : ev.kind <;>
    simp [EventKind.isRunKind, hCase] at hKind <;>
    simp [reduceKind, hCase, reduceNode,
      reduceNodeStatus, reduceNodeReport, reduceNodeRetry,
      reduceCallerPiSessionBound,
      reduceCallerPiLifecycle, reduceWorkerExited,
      reduceWorkerEvidenceArchived,
      reduceWorkerEvidenceFailed,
      reduceWorkerDisplayRetained,
      reduceWorkerDisplayExpired,
      reduceWorkerDisplayUnavailable,
      reduceNodeDeathObserved, reduceNodeAwaitingInput,
      reduceNodeInputResolved, reduceNodeRoundReported,
      reduceNodeResumed, reduceNodeRoundLanded,
      reduceNodeResidentDormant,
      reduceNodeResidentAttention, reduceMergeStarted,
      reduceMergeAborted, reduceChildSpawned,
      reduceSupervisorAttached,
      reduceSupervisorCursorAdvanced,
      Event.requireEnvelopeNodeId, hNode] <;>
    exact ⟨_, fun _ => rfl⟩

theorem nodeId_of_reduceKind
    {ops : List ProjectionOp}
    (hKind : ev.kind.isRunKind = false)
    (hPlan : reduceKind env d ev = .ok ops) :
    ∃ id, ev.nodeId = some id := by
  cases hNode : ev.nodeId with
  | some id => exact ⟨id, rfl⟩
  | none =>
      rcases reduceKind_without_node env hKind hNode with
        ⟨e, hError⟩
      rw [hError d] at hPlan
      cases hPlan

theorem planned_of_reduceKind
    {ops : List ProjectionOp}
    (hPlan : reduceKind env d ev = .ok ops) :
    Planned env d ev ops := by
  cases hRun : ev.kind.isRunKind with
  | false =>
      rcases nodeId_of_reduceKind hRun hPlan with ⟨id, hNode⟩
      rcases nodeArm_isSome hRun id with ⟨arm, hArm⟩
      exact planned_of_arm hNode hArm hPlan
  | true =>
      unfold reduceKind at hPlan
      cases hKind : ev.kind <;>
        simp only [hKind, EventKind.isRunKind,
          Bool.false_eq_true] at hRun hPlan
      case runCreated =>
        exact planned_of_runCreated hKind hPlan
      case runStatus =>
        exact planned_of_runStatus hKind hPlan
      case nodeCreated =>
        exact planned_of_nodeCreated hKind hPlan
      case callerSettlementIntent =>
        exact planned_of_settlementIntent hKind hPlan
      case other name => cases hPlan; exact .nothing

theorem reduce_eq_ok {ops : List ProjectionOp} :
    reduceEventToOps env d ev = .ok ops ↔
      ev.runId = env.runId ∧ reduceKind env d ev = .ok ops := by
  unfold reduceEventToOps
  simp only [bind_eq_ok, refuseIf_eq_ok, ne_eq, not_not]
  constructor
  · rintro ⟨_, hRun, hPlan⟩
    exact ⟨hRun, hPlan⟩
  · rintro ⟨hRun, hPlan⟩
    exact ⟨(), hRun, hPlan⟩

/- What an accepted event plans. -/
theorem planned_of_reduce
    {ops : List ProjectionOp}
    (hPlan : reduceEventToOps env d ev = .ok ops) :
    ev.runId = env.runId ∧ Planned env d ev ops := by
  rcases reduce_eq_ok.mp hPlan with ⟨hRun, hKind⟩
  exact ⟨hRun, planned_of_reduceKind hKind⟩

end Taskfleet
