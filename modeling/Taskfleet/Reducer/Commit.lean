import Taskfleet.Reducer.Inversion

/-
  The commit of an accepted plan: it never fails, and it
  leaves the projections the plan describes, write by write.

  Main declarations:
    * `applyOps`, `wp_commitOps`
    * `NodeMove`, `nodeArm_move`
    * `ProjectionOp.Writable`, `writable_of_planned`
    * `applyEvent_of_plan`, `applyEvent_of_refusal`
-/

------------------------------------------------------------
-- What a Node Arm Does to a Node
------------------------------------------------------------

namespace Taskfleet

open Fallible NodeStep

variable {env : RunEnv} {d : Disk} {ev : Event}

/- The ways an event moves the outcome of a node. -/
inductive NodeMove (ev : Event) (n n' : Node) : Prop where
| annotated
    (hStatusKind : ev.kind ≠ .nodeStatus)
    (hReportKind : ev.kind ≠ .nodeReport)
    (hStatus : n'.status = n.status)
    (hReport : n'.lastReport = n.lastReport)
| rewired
    (hKind : ev.kind = .nodeRetry ∨ ev.kind = .nodeResumed)
    (hLive : n.status.isTerminal = false)
    (hStatus : n'.status = .pending)
| status
    (hKind : ev.kind = .nodeStatus)
    (hLive : n.status.isTerminal = false)
    (hStatus : ev.requireStatus = .ok n'.status)
    (hReport : n'.lastReport = n.lastReport)
| reported
    (hKind : ev.kind = .nodeReport)
    (hLive : n.status.isTerminal = false)
    (hStatus : ev.reportTerminalStatus = .ok n'.status)
    (hReport : n'.lastReport = some ev.data)
| adopted
    (hKind : ev.kind = .nodeReport)
    (hPermits :
      permitsTerminalMergeRecovery n.status ev.data = true)
    (hStatus : n'.status = .done)
    (hReport : n'.lastReport = some ev.data)

/- The arms that only annotate a node. -/
theorem nodeArm_annotates
    {id : NodeId}
    {step : NodeStep}
    (hArm : nodeArm env d ev id = some (.ok step))
    (hStatus : ev.kind ≠ .nodeStatus)
    (hReport : ev.kind ≠ .nodeReport)
    (hRetry : ev.kind ≠ .nodeRetry)
    (hResumed : ev.kind ≠ .nodeResumed) :
    step.Annotates := by
  unfold nodeArm at hArm
  cases hKind : ev.kind <;>
    simp only [hKind, Option.some.injEq, reduceCtorEq] at hArm
  case nodeStatus => exact absurd hKind hStatus
  case nodeReport => exact absurd hKind hReport
  case nodeRetry => exact absurd hKind hRetry
  case nodeResumed => exact absurd hKind hResumed
  case callerPiSessionBound =>
    exact (callerPiSessionBoundArm_quiet _ _ _ _ hArm).annotates
  case callerPiLifecycle =>
    exact callerPiLifecycleArm_annotates _ _ _ _ hArm
  case workerExited =>
    exact (workerExitedArm_quiet _ _ hArm).annotates
  case workerEvidenceArchived =>
    exact (workerEvidenceArchivedArm_quiet _ _ _ hArm).annotates
  case workerEvidenceFailed =>
    exact (workerEvidenceFailedArm_quiet _ _ hArm).annotates
  case workerDisplayRetained =>
    exact (workerDisplayRetainedArm_quiet _ _ _ hArm).annotates
  case workerDisplayExpired =>
    exact (workerDisplayExpiredArm_quiet _ _ hArm).annotates
  case workerDisplayUnavailable =>
    exact (workerDisplayUnavailableArm_quiet _ _ hArm).annotates
  case nodeDeathObserved =>
    cases hArm
    exact (nodeDeathObservedStep_quiet ev).annotates
  case nodeAwaitingInput =>
    exact nodeAwaitingInputArm_annotates _ _ hArm
  case nodeInputResolved =>
    exact (nodeInputResolvedArm_quiet _ _ hArm).annotates
  case nodeRoundReported =>
    exact (nodeRoundReportedArm_quiet _ _ _ _ hArm).annotates
  case nodeRoundLanded =>
    exact (nodeRoundLandedArm_quiet _ _ _ _ hArm).annotates
  case nodeResidentDormant =>
    exact (nodeResidentDormantArm_quiet _ _ _ _ hArm).annotates
  case nodeResidentAttention =>
    exact (nodeResidentAttentionArm_quiet _ _ _ _ hArm).annotates
  case mergeStarted =>
    exact (mergeStartedArm_quiet _ _ _ _ _ hArm).annotates
  case mergeAborted =>
    exact (mergeAbortedArm_quiet _ _ hArm).annotates
  case childSpawned =>
    exact (childSpawnedArm_quiet _ _ hArm).annotates
  case supervisorAttached =>
    exact (supervisorAttachedArm_quiet _ _ hArm).annotates
  case supervisorCursorAdvanced =>
    exact (supervisorCursorAdvancedArm_quiet _ _ hArm).annotates

theorem nodeResumedArm_eq_ok
    {step : NodeStep}
    (hArm : nodeResumedArm env d ev = .ok step) :
    ∃ attempt messageId evidence claude,
      step = nodeResumedStep env ev attempt messageId evidence
        claude := by
  unfold nodeResumedArm at hArm
  simp only [bind_eq_ok, pure_eq, Except.ok.injEq] at hArm
  rcases hArm with
    ⟨attempt, _, messageId, _, evidence, _, claude, _, _, _, rfl⟩
  exact ⟨attempt, messageId, evidence, claude, rfl⟩

/- Every node arm keeps identity and moves a node one way. -/
theorem nodeArm_move
    {id : NodeId}
    {step : NodeStep}
    {n n' : Node}
    (hArm : nodeArm env d ev id = some (.ok step))
    (hStep : step n = .ok (some n')) :
    n.SameIdentity n' ∧ NodeMove ev n n' := by
  by_cases hStatus : ev.kind = .nodeStatus
  · simp only [nodeArm, hStatus, Option.some.injEq,
      Except.ok.injEq] at hArm
    subst hArm
    rcases nodeStatusStep_spec hStep with
      ⟨hRead, hLive, hSame, hReport⟩
    exact ⟨hSame, .status hStatus hLive hRead hReport⟩
  by_cases hReport : ev.kind = .nodeReport
  · simp only [nodeArm, hReport, Option.some.injEq,
      Except.ok.injEq] at hArm
    subst hArm
    rcases nodeReportStep_spec hStep with
      ⟨s, rfl, _, ⟨hLive, hRead⟩ | ⟨_, rfl, hPermits⟩⟩
    · exact ⟨⟨rfl, rfl, rfl⟩, .reported hReport hLive hRead rfl⟩
    · exact ⟨⟨rfl, rfl, rfl⟩, .adopted hReport hPermits rfl rfl⟩
  by_cases hRetry : ev.kind = .nodeRetry
  · simp only [nodeArm, hRetry, Option.some.injEq,
      Except.ok.injEq] at hArm
    subst hArm
    rcases nodeRetryStep_spec hStep with
      ⟨hLive, hPending, hSame, _⟩
    exact ⟨hSame, .rewired (.inl hRetry) hLive hPending⟩
  by_cases hResumed : ev.kind = .nodeResumed
  · simp only [nodeArm, hResumed, Option.some.injEq] at hArm
    rcases nodeResumedArm_eq_ok hArm with ⟨_, _, _, _, rfl⟩
    rcases nodeResumedStep_spec hStep with
      ⟨hLive, hPending, hSame, _⟩
    exact ⟨hSame, .rewired (.inr hResumed) hLive hPending⟩
  · have hKept :=
      nodeArm_annotates hArm hStatus hReport hRetry hResumed
        n n' hStep
    exact
      ⟨hKept.toSameIdentity,
        .annotated hStatus hReport hKept.status
          hKept.lastReport⟩

------------------------------------------------------------
-- Created Projections
------------------------------------------------------------

theorem newManifest_spec (env : RunEnv) (ev : Event) :
    Yields (ev.newManifest env)
      (fun m => m.Valid env ∧ m.status = .pending ∧
        m.appliedSeq = 0 ∧ m.updatedAt = ev.ts) := by
  refine .bind fun _ _ => .bind fun _ _ => .bind fun _ _ =>
    .bind fun _ _ => .bind fun _ _ => .bind fun _ _ =>
    .bind fun _ _ => .bind fun _ _ => .bind fun _ _ =>
    .bind fun _ _ => .bind fun _ _ => .pure ?_
  exact ⟨⟨by simp [stateSchemaVersion, supportedStateSchemas],
    rfl⟩, rfl, rfl, rfl⟩

theorem newNode_spec
    (env : RunEnv) (ev : Event) (id : NodeId) :
    Yields (ev.newNode env id)
      (fun n => n.Valid env id ∧ n.status = .pending ∧
        n.lastReport = none) := by
  refine .bind fun _ _ => .bind fun _ _ => .bind fun _ _ =>
    .bind fun _ _ => .bind fun _ _ => .bind fun _ _ =>
    .bind fun _ _ => .pure ?_
  exact ⟨⟨by simp [stateSchemaVersion, supportedStateSchemas],
    rfl, rfl⟩, rfl, rfl⟩

------------------------------------------------------------
-- Planned Writes
------------------------------------------------------------

/- The projections after a list of planned writes. -/
def applyOps (ops : List ProjectionOp) (d : Disk) : Disk :=
  ops.foldl (fun d op => op.put d) d

@[simp] theorem applyOps_nil (d : Disk) :
    applyOps [] d = d := rfl

@[simp] theorem applyOps_cons
    (op : ProjectionOp) (ops : List ProjectionOp) (d : Disk) :
    applyOps (op :: ops) d = applyOps ops (op.put d) := rfl

@[simp] theorem applyOps_lines
    (ops : List ProjectionOp) (d : Disk) :
    (applyOps ops d).lines = d.lines := by
  induction ops generalizing d with
  | nil => rfl
  | cons op ops ih =>
      rw [applyOps_cons, ih]
      cases op <;> rfl

@[simp] theorem applyOps_torn
    (ops : List ProjectionOp) (d : Disk) :
    (applyOps ops d).torn = d.torn := by
  induction ops generalizing d with
  | nil => rfl
  | cons op ops ih =>
      rw [applyOps_cons, ih]
      cases op <;> rfl

/- Writes that each find their file as they leave it. -/
theorem applyOps_idle
    {ops : List ProjectionOp}
    {d : Disk}
    (hIdle : ∀ op ∈ ops, op.put d = d) :
    applyOps ops d = d := by
  induction ops with
  | nil => rfl
  | cons op rest ih =>
      rw [applyOps_cons, hIdle op List.mem_cons_self]
      exact ih (fun op hMem =>
        hIdle op (List.mem_cons_of_mem _ hMem))

namespace ProjectionOp

/- A write that the writers of the run's files let through. -/
def Writable (env : RunEnv) : ProjectionOp → Prop
| .manifest m => m.Valid env
| .node n => n.Valid env n.nodeId

end ProjectionOp

theorem Node.SameIdentity.valid
    {id : NodeId} {n n' : Node}
    (hSame : n.SameIdentity n')
    (hValid : n.Valid env id) :
    n'.Valid env id :=
  ⟨hSame.schemaVersion ▸ hValid.schemaVersion,
    hSame.nodeId.trans hValid.nodeId,
    hSame.runId.trans hValid.runId⟩

theorem Node.Valid.self
    {id : NodeId} {n : Node} (hValid : n.Valid env id) :
    n.Valid env n.nodeId :=
  ⟨hValid.schemaVersion, rfl, hValid.runId⟩

/- Accepted plans write only valid projections. -/
theorem writable_of_planned
    {ops : List ProjectionOp}
    (hPlan : Planned env d ev ops) :
    ∀ op ∈ ops, op.Writable env := by
  cases hPlan with
  | nothing => simp
  | runCreated m _ _ hNew =>
      simpa [ProjectionOp.Writable] using
        (newManifest_spec env ev m hNew).1
  | runStatus m s _ _ hValid =>
      simpa [ProjectionOp.Writable] using
        (⟨hValid.schemaVersion, hValid.runId⟩ :
          Manifest.Valid env
            { m with status := s, updatedAt := ev.ts })
  | nodeAlone id n _ _ _ hNew =>
      simpa [ProjectionOp.Writable] using
        (newNode_spec env ev id n hNew).1.self
  | nodeCreated id n m _ _ _ hNew _ hValid =>
      intro op hMem
      simp only [List.mem_cons, List.not_mem_nil,
        or_false] at hMem
      rcases hMem with rfl | rfl
      · exact (newNode_spec env ev id n hNew).1.self
      · exact ⟨hValid.schemaVersion, hValid.runId⟩
  | settlementIntent _ _ m _ _ _ _ hValid =>
      intro op hMem
      rw [List.mem_singleton] at hMem
      subst hMem
      exact ⟨hValid.schemaVersion, hValid.runId⟩
  | stepped id n n' step _ hArm _ hValid hStep =>
      simpa [ProjectionOp.Writable] using
        ((nodeArm_move hArm hStep).1.valid hValid).self

section Commit

variable {Q : Unit → Disk → Prop}
variable {E : Error → Disk → Prop}
variable {C : Boundary → Disk → Prop}

theorem wp_writeOp
    {op : ProjectionOp}
    {boundary : Boundary}
    (hOp : op.Writable env) :
    Durable.wp (op.write env boundary) Q E C d ↔
      C boundary (op.put d) ∧ Q () (op.put d) := by
  cases op with
  | manifest m =>
      have hCheck :
          checkRunId env "manifest_run_id" .manifest m.runId =
            .ok () := checkRunId_eq_ok.mpr hOp.runId
      simp [ProjectionOp.write, writeManifest, hCheck,
        ProjectionOp.put]
  | node n =>
      have hCheck :
          checkRunId env "node_run_id" (.node n.nodeId)
            n.runId = .ok () := checkRunId_eq_ok.mpr hOp.runId
      simp [ProjectionOp.write, writeNode, hCheck,
        ProjectionOp.put]

/- Committing valid writes meets each boundary in turn. -/
theorem wp_commitFrom
    {planned : Disk}
    {ops : List ProjectionOp}
    (hOps : ∀ op ∈ ops, op.Writable env)
    (k : Nat) :
    Durable.wp (commitFrom env planned ev k ops) Q E C d ↔
      (∀ j < ops.length,
        C (.projected planned ev (k + j))
          (applyOps (ops.take (j + 1)) d)) ∧
      Q () (applyOps ops d) := by
  induction ops generalizing d k with
  | nil => simp [commitFrom]
  | cons op rest ih =>
      have hRest : ∀ op ∈ rest, op.Writable env :=
        fun op hMem => hOps op (List.mem_cons_of_mem _ hMem)
      rw [commitFrom, Durable.wp_bind,
        wp_writeOp (hOps op List.mem_cons_self), ih hRest]
      constructor
      · rintro ⟨hFirst, hLater, hEnd⟩
        refine ⟨?_, hEnd⟩
        intro j hBound
        cases j with
        | zero => simpa using hFirst
        | succ j =>
            have hCut := hLater j (by simpa using hBound)
            simpa [Nat.add_assoc, Nat.add_comm 1 j] using hCut
      · rintro ⟨hAll, hEnd⟩
        refine ⟨by simpa using hAll 0 (by simp), ?_, hEnd⟩
        intro j hBound
        have hCut := hAll (j + 1) (by simpa using hBound)
        simpa [Nat.add_assoc, Nat.add_comm 1 j] using hCut

theorem wp_commitOps
    {planned : Disk}
    {ops : List ProjectionOp}
    (hOps : ∀ op ∈ ops, op.Writable env) :
    Durable.wp (commitOps env planned ev ops) Q E C d ↔
      (∀ j < ops.length,
        C (.projected planned ev j)
          (applyOps (ops.take (j + 1)) d)) ∧
      Q () (applyOps ops d) := by
  unfold commitOps
  rw [wp_commitFrom hOps 0]
  simp

/- An accepted event is applied in full, a refused one not. -/
theorem wp_applyEvent
    {ops : List ProjectionOp}
    (hPlan : reduceEventToOps env d ev = .ok ops) :
    Durable.wp (applyEvent env ev) Q E C d ↔
      (∀ j < ops.length,
        C (.projected d ev j)
          (applyOps (ops.take (j + 1)) d)) ∧
      Q () (applyOps ops d) := by
  have hOps := writable_of_planned (planned_of_reduce hPlan).2
  simp [applyEvent, hPlan, wp_commitOps hOps]

end Commit

theorem applyEvent_of_plan
    {ops : List ProjectionOp}
    (hPlan : reduceEventToOps env d ev = .ok ops) :
    (applyEvent env ev).result d = .ok () ∧
      (applyEvent env ev).final d = applyOps ops d := by
  have hRun :
      Durable.wp (applyEvent env ev)
        (fun _ s => s = applyOps ops d) (fun _ _ => False)
        (fun _ _ => True) d := by
    simp [wp_applyEvent hPlan]
  rcases Durable.wp_total hRun with ⟨_, hResult, hFinal⟩
  exact ⟨hResult, hFinal⟩

theorem applyEvent_of_refusal
    {e : Error}
    (hPlan : reduceEventToOps env d ev = .error e) :
    (applyEvent env ev).result d = .error e ∧
      (applyEvent env ev).final d = d := by
  have hRun :
      Durable.wp (applyEvent env ev) (fun _ _ => False)
        (fun e' s => e' = e ∧ s = d) (fun _ _ => True) d := by
    simp [applyEvent, hPlan]
  rcases Durable.wp_fails hRun with ⟨_, hResult, rfl, hFinal⟩
  exact ⟨hResult, hFinal⟩

theorem applyEvent_eq_ok :
    (applyEvent env ev).result d = .ok () ↔
      ∃ ops, reduceEventToOps env d ev = .ok ops := by
  cases hPlan : reduceEventToOps env d ev with
  | ok ops => simp [(applyEvent_of_plan hPlan).1]
  | error e => simp [(applyEvent_of_refusal hPlan).1]

end Taskfleet

------------------------------------------------------------
-- A Small Run
------------------------------------------------------------

namespace Taskfleet

/- The run that concrete inputs of later modules refer to. -/
namespace Sample

def env : RunEnv where
  runId := ⟨"01jxsnap000000000000000000", by decide⟩
  parseRfc3339 := fun _ => none
  parseDateTime := fun _ => none

def event
    (seq : Nat)
    (kind : EventKind)
    (nodeId : Option NodeId)
    (data : Json) : Event where
  ts := seq
  seq := seq
  kind := kind
  runId := env.runId
  nodeId := nodeId
  idempotencyKey := none
  data := data

def runData : Json :=
  .obj
    [("kind", .str "spinoff"),
      ("lifecycle", .str "autonomous"), ("title", .str "t")]

def nodeData : Json := .obj [("kind", .str "spinoff")]

/- One question with one option. -/
def questionData : Json :=
  .obj
    [("discussion_items",
      .arr
        [.obj
          [("options", .arr [.str "yes"]),
            ("recommended_default", .str "yes"),
            ("topic", .str "proceed")]])]

def runCreated : Event := event 1 .runCreated none runData

def nodeCreated : Event :=
  event 2 .nodeCreated (some .first) nodeData

/- A run with one live node. -/
def liveNode : Disk :=
  (applyEvent env nodeCreated).final
    ((applyEvent env runCreated).final Disk.empty)

/- The items open on the first node. -/
def openItems (d : Disk) : Option Nat :=
  (d.nodes.lookup .first).map (fun n => n.openItems.length)

end Sample

end Taskfleet
