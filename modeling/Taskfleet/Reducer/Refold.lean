import Taskfleet.Reducer.Locality

/-
  Folding an accepted event a second time.

  Recovery folds an event again whose projections landed
  before a crash. Three kinds do not stand that: a question
  adds its items again, a retry without an attempt number
  counts again, and a lifecycle fact of an unbound session
  no longer finds the reservation it followed.

  Main declarations:
    * `Refoldable`
    * `refold_of_reduce`, `applyEvent_twice_iff`
    * `KeepsBranch`, `same_of_cut`
    * `Reacceptable`, `accepted_of_cut`
-/

------------------------------------------------------------
-- Arms After Their Own Write
------------------------------------------------------------

namespace Taskfleet

open Fallible NodeStep

variable {env : RunEnv} {d d' : Disk} {ev : Event}

/- Arms look at the manifest and never at the nodes. -/
theorem nodeArm_congr
    {id : NodeId}
    (hSame : readManifestOpt env d' = readManifestOpt env d) :
    nodeArm env d' ev id = nodeArm env d ev id := by
  unfold nodeArm callerPiSessionBoundArm callerPiLifecycleArm
    requireCallerRun nodeRoundReportedArm nodeResumedArm
    nodeRoundLandedArm nodeResidentDormantArm
    nodeResidentAttentionArm requireResident mergeStartedArm
    requireManifest
  rw [hSame]

theorem reduce_of_step
    {id : NodeId}
    {step : NodeStep}
    {n : Node}
    (hRun : ev.runId = env.runId)
    (hNode : ev.nodeId = some id)
    (hArm : nodeArm env d ev id = some (.ok step))
    (hLookup : d.nodes.lookup id = some n)
    (hValid : n.Valid env id) :
    reduceEventToOps env d ev =
      (do return stepPlan (← step n)) := by
  have hEnvelope :
      refuseIf (ev.runId ≠ env.runId)
        (ev.corruptAt
          s!"envelope run_id {ev.runId.val.quote} does not match run {env.runId.val.quote}") =
        .ok () := refuseIf_eq_ok.mpr (by simp [hRun])
  unfold reduceEventToOps
  rw [hEnvelope, ok_bind, reduceKind_eq_arm hArm hNode,
    ok_bind, onNode_of_step hLookup hValid]

/-
  The plan of an event on the projections that the step of
  the same event has just written.
-/
theorem reduce_after_step
    {id : NodeId}
    {step : NodeStep}
    {n n' : Node}
    (hRun : ev.runId = env.runId)
    (hNode : ev.nodeId = some id)
    (hArm : nodeArm env d ev id = some (.ok step))
    (hValid : n.Valid env id)
    (hStep : step n = .ok (some n')) :
    reduceEventToOps env (d.putNode n') ev =
      (do return stepPlan (← step n')) := by
  have hValid' := (nodeArm_move hArm hStep).1.valid hValid
  have hArm' :
      nodeArm env (d.putNode n') ev id = some (.ok step) :=
    (nodeArm_congr (readManifestOpt_congr rfl)).trans hArm
  refine reduce_of_step hRun hNode hArm' ?_ hValid'
  rw [Disk.putNode_nodes, hValid'.nodeId, Finmap.lookup_insert]

theorem putNode_putNode
    {n n' : Node}
    (hSame : n'.nodeId = n.nodeId) :
    (d.putNode n).putNode n' = d.putNode n' := by
  simp [Disk.putNode, hSame, Finmap.insert_insert]

------------------------------------------------------------
-- The Kinds That Refold
------------------------------------------------------------

/-
  The event, accepted on these projections, may be folded
  again: it is of another kind than the three, its node is
  settled or missing, or the payload makes it absolute.
-/
def Refoldable (d : Disk) (ev : Event) : Prop :=
  ∀ id n, ev.nodeId = some id → d.nodes.lookup id = some n →
    match ev.kind with
    | .nodeAwaitingInput =>
        n.status.isTerminal = true ∨ n.workerExit.isSome
    | .nodeRetry =>
        n.status.isTerminal = true ∨
          ((ev.data.get "attempt").bind Json.asU64).isSome ∨
          2 ^ 32 - 2 ≤ n.retryAttempts
    | .callerPiLifecycle =>
        n.callerPiSession.isSome ∨
          ∀ fact, ev.data.asCallerPiLifecycle = some fact →
            fact.state = .reserved
    | _ => True

/- The three kinds whose step may not run twice. -/
def EventKind.accumulates : EventKind → Bool
| .nodeAwaitingInput | .nodeRetry | .callerPiLifecycle => true
| _ => false

theorem refoldable_of_kind
    (hKind : ev.kind.accumulates = false) :
    Refoldable d ev := by
  intro id n _ _
  cases hCase : ev.kind <;>
    simp_all [EventKind.accumulates]

theorem nodeArm_refolds
    {id : NodeId}
    {step : NodeStep}
    (hArm : nodeArm env d ev id = some (.ok step))
    (hKind : ev.kind.accumulates = false) :
    step.Refolds := by
  unfold nodeArm at hArm
  cases hCase : ev.kind <;>
    simp only [hCase, Option.some.injEq, reduceCtorEq,
      EventKind.accumulates] at hArm hKind
  case nodeStatus =>
    cases hArm
    exact nodeStatusStep_refolds ev
  case nodeReport =>
    cases hArm
    exact nodeReportStep_refolds ev
  case nodeResumed =>
    rcases nodeResumedArm_eq_ok hArm with ⟨_, _, _, _, rfl⟩
    exact nodeResumedStep_refolds _ _ _ _ _ _
  case callerPiSessionBound =>
    exact (callerPiSessionBoundArm_quiet _ _ _ _ hArm).refolds
  case workerExited =>
    exact (workerExitedArm_quiet _ _ hArm).refolds
  case workerEvidenceArchived =>
    exact (workerEvidenceArchivedArm_quiet _ _ _ hArm).refolds
  case workerEvidenceFailed =>
    exact (workerEvidenceFailedArm_quiet _ _ hArm).refolds
  case workerDisplayRetained =>
    exact (workerDisplayRetainedArm_quiet _ _ _ hArm).refolds
  case workerDisplayExpired =>
    exact (workerDisplayExpiredArm_quiet _ _ hArm).refolds
  case workerDisplayUnavailable =>
    exact (workerDisplayUnavailableArm_quiet _ _ hArm).refolds
  case nodeDeathObserved =>
    cases hArm
    exact (nodeDeathObservedStep_quiet ev).refolds
  case nodeInputResolved =>
    exact (nodeInputResolvedArm_quiet _ _ hArm).refolds
  case nodeRoundReported =>
    exact (nodeRoundReportedArm_quiet _ _ _ _ hArm).refolds
  case nodeRoundLanded =>
    exact (nodeRoundLandedArm_quiet _ _ _ _ hArm).refolds
  case nodeResidentDormant =>
    exact (nodeResidentDormantArm_quiet _ _ _ _ hArm).refolds
  case nodeResidentAttention =>
    exact (nodeResidentAttentionArm_quiet _ _ _ _ hArm).refolds
  case mergeStarted =>
    exact (mergeStartedArm_quiet _ _ _ _ _ hArm).refolds
  case mergeAborted =>
    exact (mergeAbortedArm_quiet _ _ hArm).refolds
  case childSpawned =>
    exact (childSpawnedArm_quiet _ _ hArm).refolds
  case supervisorAttached =>
    exact (supervisorAttachedArm_quiet _ _ hArm).refolds
  case supervisorCursorAdvanced =>
    exact (supervisorCursorAdvancedArm_quiet _ _ hArm).refolds

/- A retry that refolds has an absolute attempt number. -/
theorem retryAttempts_twice
    {k : Nat}
    (hAbsolute :
      ((ev.data.get "attempt").bind Json.asU64).isSome ∨
        2 ^ 32 - 2 ≤ k) :
    ev.retryAttempts (ev.retryAttempts k) =
      ev.retryAttempts k := by
  unfold Event.retryAttempts
  cases hAttempt : (ev.data.get "attempt").bind Json.asU64 with
  | some a => rfl
  | none =>
      simp only [hAttempt, Option.isSome_none,
        Bool.false_eq_true, false_or] at hAbsolute
      dsimp only
      omega

theorem retryAttempts_grows
    {k : Nat}
    (hAttempt : (ev.data.get "attempt").bind Json.asU64 = none)
    (hSmall : k < 2 ^ 32 - 2) :
    ev.retryAttempts (ev.retryAttempts k) ≠
      ev.retryAttempts k := by
  unfold Event.retryAttempts
  rw [hAttempt]
  dsimp only
  omega

/- A step of a refoldable event runs a second time in vain. -/
theorem step_twice
    {id : NodeId}
    {step : NodeStep}
    {n n' : Node}
    (hNode : ev.nodeId = some id)
    (hArm : nodeArm env d ev id = some (.ok step))
    (hLookup : d.nodes.lookup id = some n)
    (hStep : step n = .ok (some n'))
    (hSafe : Refoldable d ev) :
    step n' = .ok none ∨ step n' = .ok (some n') := by
  have hHere := hSafe id n hNode hLookup
  by_cases hAwaiting : ev.kind = .nodeAwaitingInput
  · simp only [nodeArm, hAwaiting, Option.some.injEq] at hArm
    unfold nodeAwaitingInputArm at hArm
    simp only [bind_eq_ok, pure_eq, Except.ok.injEq] at hArm
    rcases hArm with ⟨items, _, rfl⟩
    have hSpec := (nodeAwaitingInputStep_spec hStep).1
    simp [hAwaiting, hSpec.1, hSpec.2] at hHere
  by_cases hRetry : ev.kind = .nodeRetry
  · simp only [nodeArm, hRetry, Option.some.injEq,
      Except.ok.injEq] at hArm
    subst hArm
    rcases nodeRetryStep_spec hStep with
      ⟨hLive, _, _, _, hAttempts, hAgain⟩
    simp only [hRetry, hLive, Bool.false_eq_true,
      false_or] at hHere
    right
    rw [hAgain, hAttempts, retryAttempts_twice hHere,
      ← hAttempts]
  by_cases hLifecycle : ev.kind = .callerPiLifecycle
  · simp only [nodeArm, hLifecycle, Option.some.injEq] at hArm
    unfold callerPiLifecycleArm at hArm
    simp only [bind_eq_ok, pure_eq, Except.ok.injEq] at hArm
    rcases hArm with ⟨m, _, rfl⟩
    simp only [hLifecycle] at hHere
    rcases callerPiLifecycleStep_again hStep with
      ⟨fact, hFact, ⟨_, hNone⟩ | ⟨hStranded, _⟩⟩
    · exact .inl hNone
    · exact absurd
        (hHere.imp_right (fun hAll => hAll fact hFact))
        hStranded
  · refine nodeArm_refolds hArm ?_ n n' hStep
    cases hKind : ev.kind <;> simp_all [EventKind.accumulates]

------------------------------------------------------------
-- The Second Fold
------------------------------------------------------------

theorem reduce_of_kind
    {ops : List ProjectionOp}
    (hRun : ev.runId = env.runId)
    (hPlan : reduceKind env d ev = .ok ops) :
    reduceEventToOps env d ev = .ok ops :=
  reduce_eq_ok.mpr ⟨hRun, hPlan⟩

theorem reduce_created_run
    {m : Manifest}
    (hRun : ev.runId = env.runId)
    (hKind : ev.kind = .runCreated)
    (hManifest : d.manifest = some m)
    (hValid : m.Valid env) :
    reduceEventToOps env d ev = .ok [] := by
  refine reduce_of_kind hRun ?_
  have hRead : readManifestOpt env d = .ok (some m) :=
    readManifestOpt_eq_some.mpr ⟨hManifest, hValid⟩
  unfold reduceKind reduceRunCreated
  rw [hKind]
  simp [hRead, refuseIf, hRun, hValid.runId]

theorem reduce_settled_status
    {m : Manifest}
    (hRun : ev.runId = env.runId)
    (hKind : ev.kind = .runStatus)
    (hManifest : d.manifest = some m)
    (hValid : m.Valid env)
    (hStatus : ev.requireStatus = .ok m.status) :
    reduceEventToOps env d ev = .ok [] := by
  refine reduce_of_kind hRun ?_
  have hRead : readManifestOpt env d = .ok (some m) :=
    readManifestOpt_eq_some.mpr ⟨hManifest, hValid⟩
  unfold reduceKind reduceRunStatus
  rw [hKind]
  simp [hRead, hStatus]

theorem reduce_created_node
    {id : NodeId}
    {n : Node}
    (hRun : ev.runId = env.runId)
    (hKind : ev.kind = .nodeCreated)
    (hNode : ev.nodeId = some id)
    (hLookup : d.nodes.lookup id = some n)
    (hValid : n.Valid env id) :
    reduceEventToOps env d ev = .ok [] := by
  refine reduce_of_kind hRun ?_
  have hRead : readNodeOpt env d id = .ok (some n) :=
    readNodeOpt_eq_some.mpr ⟨hLookup, hValid⟩
  unfold reduceKind reduceNodeCreated
  rw [hKind]
  simp [Event.requireEnvelopeNodeId, hNode, hRead]

theorem reduce_recorded_intent
    {id : NodeId}
    {n : Node}
    {m : Manifest}
    {intent : CallerSettlementIntent}
    (hRun : ev.runId = env.runId)
    (hKind : ev.kind = .callerSettlementIntent)
    (hNode : ev.nodeId = some id)
    (hManifest : d.manifest = some m)
    (hValid : m.Valid env)
    (hLookup : d.nodes.lookup id = some n)
    (hNodeValid : n.Valid env id)
    (hIntent :
      ev.data.asCallerSettlementIntent = some intent)
    (hFormed : intent.wellFormed m n ev id = true)
    (hRecorded :
      m.callerSettlementIntent =
        some { intent with seq := ev.seq }) :
    reduceEventToOps env d ev = .ok [] := by
  refine reduce_of_kind hRun ?_
  have hRead : readManifestOpt env d = .ok (some m) :=
    readManifestOpt_eq_some.mpr ⟨hManifest, hValid⟩
  have hReadNode : readNodeOpt env d id = .ok (some n) :=
    readNodeOpt_eq_some.mpr ⟨hLookup, hNodeValid⟩
  unfold reduceKind reduceCallerSettlementIntent
  rw [hKind]
  simp [Event.requireEnvelopeNodeId, requireManifest, hNode,
    hRead, hReadNode, hIntent, refuseIf, hFormed, hRecorded]

/-
  On the projections an accepted event wrote, a refoldable
  event is accepted again and writes nothing new.
-/
theorem refold_of_reduce
    {ops : List ProjectionOp}
    (hPlan : reduceEventToOps env d ev = .ok ops)
    (hSafe : Refoldable d ev) :
    ∃ again,
      reduceEventToOps env (applyOps ops d) ev = .ok again ∧
        ∀ op ∈ again,
          op.put (applyOps ops d) = applyOps ops d := by
  rcases planned_of_reduce hPlan with ⟨hRun, hPlanned⟩
  cases hPlanned with
  | nothing => exact ⟨[], hPlan, by simp⟩
  | runCreated m hKind _ hNew =>
      exact
        ⟨[], reduce_created_run hRun hKind rfl
          (newManifest_spec env ev m hNew).1, by simp⟩
  | runStatus m s hKind _ hValid hStatus =>
      exact
        ⟨[], reduce_settled_status hRun hKind rfl
          ⟨hValid.schemaVersion, hValid.runId⟩ hStatus,
          by simp⟩
  | nodeAlone id n hKind hNode _ hNew =>
      have hValid := (newNode_spec env ev id n hNew).1
      refine
        ⟨[], reduce_created_node hRun hKind hNode ?_ hValid,
          by simp⟩
      simp [ProjectionOp.put, hValid.nodeId]
  | nodeCreated id n m hKind hNode _ hNew =>
      have hValid := (newNode_spec env ev id n hNew).1
      refine
        ⟨[], reduce_created_node hRun hKind hNode ?_ hValid,
          by simp⟩
      simp [ProjectionOp.put, hValid.nodeId]
  | settlementIntent id n m intent hKind hNode _ hValid hLookup
      hNodeValid hIntent hFormed =>
      exact
        ⟨[], reduce_recorded_intent hRun hKind hNode rfl
          ⟨hValid.schemaVersion, hValid.runId⟩ hLookup
          hNodeValid hIntent hFormed rfl, by simp⟩
  | stepped id n n' step hNode hArm hLookup hValid hStep =>
      have hAgain :=
        reduce_after_step hRun hNode hArm hValid hStep
      rcases step_twice hNode hArm hLookup hStep hSafe with
        hNone | hSome
      · refine ⟨[], ?_, by simp⟩
        change reduceEventToOps env (d.putNode n') ev = .ok []
        rw [hAgain, hNone]
        rfl
      · refine ⟨[.node n'], ?_, ?_⟩
        · change
            reduceEventToOps env (d.putNode n') ev =
              .ok [.node n']
          rw [hAgain, hSome]
          rfl
        · intro op hMem
          rw [List.mem_singleton] at hMem
          subst hMem
          exact putNode_putNode rfl

------------------------------------------------------------
-- Interrupted Commits
------------------------------------------------------------

/-
  A node creation that brings the manifest no source branch:
  another node than the first, a branch that is known, or no
  branch in the payload.
-/
def KeepsBranch (d : Disk) (ev : Event) : Prop :=
  ev.kind = .nodeCreated → ev.nodeId = some .first →
    ∀ m, d.manifest = some m → m.sourceBranch = none →
      ev.nonemptyStr "source_branch" = none

theorem sourceBranch_kept
    {id : NodeId}
    {m : Manifest}
    (hKeeps : KeepsBranch d ev)
    (hKind : ev.kind = .nodeCreated)
    (hNode : ev.nodeId = some id)
    (hManifest : d.manifest = some m) :
    (m.materialize ev id).unstamped = m.unstamped := by
  have hBranch :
      (m.materialize ev id).sourceBranch = m.sourceBranch := by
    unfold Manifest.materialize
    dsimp only
    split
    next hFirst =>
      rw [hFirst.1] at hNode
      rw [hFirst.2]
      exact hKeeps hKind hNode m hManifest hFirst.2
    next => rfl
  calc
    (m.materialize ev id).unstamped =
        { m.unstamped with
          sourceBranch :=
            (m.materialize ev id).sourceBranch } := rfl
    _ = m.unstamped := by rw [hBranch]; rfl

/- A plan cut short: all of it, or the node of a creation. -/
theorem cut_of_plan
    {ops : List ProjectionOp}
    (k : Nat)
    (hPlan : reduceEventToOps env d ev = .ok ops) :
    ops.take (k + 1) = ops ∨
      ∃ id n m, k = 0 ∧ ev.kind = .nodeCreated ∧
        ev.nodeId = some id ∧ ev.newNode env id = .ok n ∧
        d.manifest = some m ∧
        ops = [.node n, .manifest (m.materialize ev id)] := by
  by_cases hAll : ops.length ≤ k + 1
  · exact .inl (List.take_of_length_le hAll)
  · rcases planned_of_reduce hPlan with ⟨_, hPlanned⟩
    cases hPlanned with
    | nodeCreated id n m hKind hNode _ hNew hManifest =>
        refine .inr ⟨id, n, m, ?_, hKind, hNode, hNew,
          hManifest, rfl⟩
        simp only [List.length_cons, List.length_nil] at hAll
        omega
    | nothing => simp at hAll
    | runCreated => simp at hAll
    | runStatus => simp at hAll
    | nodeAlone => simp at hAll
    | settlementIntent => simp at hAll
    | stepped => simp at hAll

/- A plan cut short has its effect, up to the manifest clock. -/
theorem same_of_cut
    {ops : List ProjectionOp}
    {k : Nat}
    (hPlan : reduceEventToOps env d ev = .ok ops)
    (hBranch : k = 0 → KeepsBranch d ev) :
    SameProjections (applyOps (ops.take (k + 1)) d)
      (applyOps ops d) := by
  rcases cut_of_plan k hPlan with
    hAll | ⟨id, n, m, hZero, hKind, hNode, _, hManifest, rfl⟩
  · rw [hAll]
    exact .refl _
  · subst hZero
    refine ⟨rfl, ?_⟩
    have hKept :=
      sourceBranch_kept (hBranch rfl) hKind hNode hManifest
    simp [ProjectionOp.put, hManifest, hKept]

/-
  Folding an event again after the first writes of its plan
  writes nothing new.
-/
theorem refold_of_cut
    {ops : List ProjectionOp}
    (k : Nat)
    (hPlan : reduceEventToOps env d ev = .ok ops)
    (hSafe : Refoldable d ev) :
    ∃ again,
      reduceEventToOps env (applyOps (ops.take (k + 1)) d) ev =
          .ok again ∧
        ∀ op ∈ again,
          op.put (applyOps (ops.take (k + 1)) d) =
            applyOps (ops.take (k + 1)) d := by
  rcases cut_of_plan k hPlan with
    hAll | ⟨id, n, m, hZero, hKind, hNode, hNew, _, rfl⟩
  · rw [hAll]
    exact refold_of_reduce hPlan hSafe
  · subst hZero
    have hRun := (planned_of_reduce hPlan).1
    have hValid := (newNode_spec env ev id n hNew).1
    refine ⟨[], reduce_created_node hRun hKind hNode ?_ hValid,
      by simp⟩
    simp [ProjectionOp.put, hValid.nodeId]

/-
  The event, accepted on these projections, is accepted again
  on those it leaves: a question leaves room for its items a
  second time, a lifecycle fact stands on a bound session or
  is a reservation.
-/
def Reacceptable (d : Disk) (ev : Event) : Prop :=
  ∀ id n, ev.nodeId = some id → d.nodes.lookup id = some n →
    match ev.kind with
    | .nodeAwaitingInput =>
        n.status.isTerminal = true ∨ n.workerExit.isSome ∨
          ∀ items, ev.discussionItems = .ok items →
            n.openItems.length + 2 * items.length ≤
              DiscussionItem.maxItems
    | .callerPiLifecycle =>
        n.callerPiSession.isSome ∨
          ∀ fact, ev.data.asCallerPiLifecycle = some fact →
            fact.state = .reserved
    | _ => True

/- The step of a reacceptable event does not fail again. -/
theorem step_reaccepted
    {id : NodeId}
    {step : NodeStep}
    {n n' : Node}
    (hNode : ev.nodeId = some id)
    (hArm : nodeArm env d ev id = some (.ok step))
    (hLookup : d.nodes.lookup id = some n)
    (hStep : step n = .ok (some n'))
    (hSafe : Reacceptable d ev) :
    ∃ outcome, step n' = .ok outcome := by
  have hHere := hSafe id n hNode hLookup
  by_cases hAwaiting : ev.kind = .nodeAwaitingInput
  · simp only [nodeArm, hAwaiting, Option.some.injEq] at hArm
    unfold nodeAwaitingInputArm at hArm
    simp only [bind_eq_ok, pure_eq, Except.ok.injEq] at hArm
    rcases hArm with ⟨items, hItems, rfl⟩
    rcases nodeAwaitingInputStep_spec hStep with
      ⟨⟨hLive, hExit⟩, _, _, _, hOpen⟩
    simp only [hAwaiting, hLive, hExit, Option.isSome_none,
      Bool.false_eq_true, false_or] at hHere
    have hRoom := hHere items hItems
    rcases nodeAwaitingInputStep_again hStep with
      ⟨hFull, _⟩ | ⟨_, n'', hSome, _⟩
    · rw [hOpen, List.length_append] at hFull
      omega
    · exact ⟨_, hSome⟩
  by_cases hRetry : ev.kind = .nodeRetry
  · simp only [nodeArm, hRetry, Option.some.injEq,
      Except.ok.injEq] at hArm
    subst hArm
    rcases nodeRetryStep_spec hStep with ⟨_, _, _, _, _, hAgain⟩
    exact ⟨_, hAgain⟩
  · have hRefoldable : Refoldable d ev := by
      intro id' n₀ hNode' hLookup'
      have hThere := hSafe id' n₀ hNode' hLookup'
      cases hKind : ev.kind <;> simp_all
    rcases step_twice hNode hArm hLookup hStep hRefoldable with
      hNone | hSome
    · exact ⟨_, hNone⟩
    · exact ⟨_, hSome⟩

/- A cut commit of a reacceptable event can be taken up. -/
theorem accepted_of_cut
    {ops : List ProjectionOp}
    (k : Nat)
    (hPlan : reduceEventToOps env d ev = .ok ops)
    (hSafe : Reacceptable d ev) :
    Accepted env (applyOps (ops.take (k + 1)) d) ev := by
  rcases planned_of_reduce hPlan with ⟨hRun, hPlanned⟩
  by_cases hKind : ev.kind.isRunKind = true
  · have hRefoldable : Refoldable d ev := by
      refine refoldable_of_kind ?_
      cases hCase : ev.kind <;>
        simp_all [EventKind.isRunKind, EventKind.accumulates]
    rcases refold_of_cut k hPlan hRefoldable with
      ⟨again, hAgain, _⟩
    exact ⟨again, hAgain⟩
  · rcases cut_of_plan k hPlan with
      hAll | ⟨_, _, _, _, hOther, _⟩
    · rw [hAll]
      cases hPlanned with
      | stepped id n n' step hNode hArm hLookup hValid hStep =>
          rcases step_reaccepted hNode hArm hLookup hStep
            hSafe with ⟨outcome, hOutcome⟩
          refine ⟨stepPlan outcome, ?_⟩
          change
            reduceEventToOps env (d.putNode n') ev = _
          rw [reduce_after_step hRun hNode hArm hValid hStep,
            hOutcome]
          rfl
      | nothing => exact ⟨[], hPlan⟩
      | runCreated _ hCase =>
          simp [hCase, EventKind.isRunKind] at hKind
      | runStatus _ _ hCase =>
          simp [hCase, EventKind.isRunKind] at hKind
      | nodeAlone _ _ hCase =>
          simp [hCase, EventKind.isRunKind] at hKind
      | nodeCreated _ _ _ hCase =>
          simp [hCase, EventKind.isRunKind] at hKind
      | settlementIntent _ _ _ _ hCase =>
          simp [hCase, EventKind.isRunKind] at hKind
    · simp [hOther, EventKind.isRunKind] at hKind

------------------------------------------------------------
-- Events That Do Not Refold
------------------------------------------------------------

theorem discussionItems_nonempty (ev : Event) :
    Yields ev.discussionItems (fun items => items ≠ []) := by
  refine .bind fun items hItems => .bind fun _ _ => .pure ?_
  rw [orError_eq_ok, Option.filter_eq_some_iff] at hItems
  rintro rfl
  simp at hItems

/- A step outcome that a second run fails on or changes. -/
def Accumulated
    (step : NodeStep) (outcome : Option Node) : Prop :=
  ∃ n', outcome = some n' ∧ step n' ≠ .ok none ∧
    step n' ≠ .ok (some n')

theorem awaitingInput_accumulates
    {items : List Json}
    {n : Node}
    {outcome : Option Node}
    (hItems : items ≠ [])
    (hLive : ¬ (n.status.isTerminal = true ∨ n.workerExit.isSome))
    (hStep : nodeAwaitingInputStep ev items n = .ok outcome) :
    Accumulated (nodeAwaitingInputStep ev items) outcome := by
  cases outcome with
  | none =>
      unfold nodeAwaitingInputStep at hStep
      rw [if_neg hLive] at hStep
      split at hStep
      · split at hStep <;> simp at hStep
      · simp at hStep
  | some n' =>
      refine ⟨n', rfl, ?_⟩
      rcases nodeAwaitingInputStep_again hStep with
        ⟨_, e, hError⟩ | ⟨_, n'', hSome, hMore⟩
      · simp [hError]
      · refine ⟨by simp [hSome], ?_⟩
        rw [hSome]
        intro hEq
        simp only [Except.ok.injEq, Option.some.injEq] at hEq
        subst hEq
        have hLength := congrArg List.length hMore
        simp only [List.length_append] at hLength
        exact hItems (List.length_eq_zero_iff.mp (by omega))

theorem retry_accumulates
    {n : Node}
    {outcome : Option Node}
    (hLive : ¬ n.status.isTerminal = true)
    (hAttempt : (ev.data.get "attempt").bind Json.asU64 = none)
    (hSmall : n.retryAttempts < 2 ^ 32 - 2)
    (hStep : nodeRetryStep env ev n = .ok outcome) :
    Accumulated (nodeRetryStep env ev) outcome := by
  cases outcome with
  | none =>
      unfold nodeRetryStep at hStep
      rw [if_neg hLive] at hStep
      simp at hStep
  | some n' =>
      refine ⟨n', rfl, ?_⟩
      rcases nodeRetryStep_spec hStep with
        ⟨_, _, _, _, hAttempts, hAgain⟩
      refine ⟨by simp [hAgain], ?_⟩
      rw [hAgain]
      intro hEq
      simp only [Except.ok.injEq, Option.some.injEq] at hEq
      have hSame := congrArg Node.retryAttempts hEq
      rw [hAttempts] at hSame
      exact retryAttempts_grows hAttempt hSmall hSame

theorem lifecycle_accumulates
    {m : Manifest}
    {n : Node}
    {outcome : Option Node}
    {fact : CallerPiLifecycle}
    (hFact : ev.data.asCallerPiLifecycle = some fact)
    (hUnbound : ¬ n.callerPiSession.isSome)
    (hState : fact.state ≠ .reserved)
    (hStep : callerPiLifecycleStep ev m n = .ok outcome) :
    Accumulated (callerPiLifecycleStep ev m) outcome := by
  cases outcome with
  | none =>
      -- A duplicate would show a state that is not reserved.
      exfalso
      unfold callerPiLifecycleStep at hStep
      simp only [hFact, orError_some, ok_bind, bind_eq_ok,
        refuseIf_eq_ok, not_not] at hStep
      rcases hStep with ⟨_, hFormed, hRest⟩
      split at hRest
      next hDuplicate =>
        unfold CallerPiLifecycle.wellFormed at hFormed
        rw [decide_eq_true_eq] at hFormed
        exact hFormed.2.2.2.2.1
          ⟨by simpa using hUnbound, hState,
            by simpa [hDuplicate] using hState⟩
      next => simp at hRest
  | some n' =>
      refine ⟨n', rfl, ?_⟩
      rcases callerPiLifecycleStep_again hStep with
        ⟨fact', hFact', ⟨hBound, _⟩ | ⟨_, reason, hError⟩⟩
      · obtain rfl : fact = fact' := by
          rw [hFact, Option.some.injEq] at hFact'
          exact hFact'
        exact absurd hBound (not_or.mpr ⟨hUnbound, hState⟩)
      · simp [hError]

/- The second run of an accumulating step fails or differs. -/
theorem step_again_of_not_refoldable
    {id : NodeId}
    {step : NodeStep}
    {n : Node}
    {outcome : Option Node}
    (hNode : ev.nodeId = some id)
    (hArm : nodeArm env d ev id = some (.ok step))
    (hLookup : d.nodes.lookup id = some n)
    (hStep : step n = .ok outcome)
    (hUnsafe : ¬ Refoldable d ev) :
    Accumulated step outcome := by
  unfold Refoldable at hUnsafe
  push Not at hUnsafe
  rcases hUnsafe with ⟨id', n', hNode', hLookup', hCase⟩
  obtain rfl : id = id' := by
    rw [hNode, Option.some.injEq] at hNode'
    exact hNode'
  obtain rfl : n = n' := by
    rw [hLookup, Option.some.injEq] at hLookup'
    exact hLookup'
  cases hKind : ev.kind <;>
    simp only [hKind, not_true_eq_false] at hCase
  case nodeAwaitingInput =>
    simp only [nodeArm, hKind, Option.some.injEq] at hArm
    unfold nodeAwaitingInputArm at hArm
    simp only [bind_eq_ok, pure_eq, Except.ok.injEq] at hArm
    rcases hArm with ⟨items, hItems, rfl⟩
    exact awaitingInput_accumulates
      (discussionItems_nonempty ev items hItems) hCase hStep
  case nodeRetry =>
    simp only [not_or, Option.isSome_iff_ne_none, ne_eq,
      not_not, not_le] at hCase
    simp only [nodeArm, hKind, Option.some.injEq,
      Except.ok.injEq] at hArm
    subst hArm
    exact retry_accumulates hCase.1 hCase.2.1 hCase.2.2 hStep
  case callerPiLifecycle =>
    simp only [not_or] at hCase
    rcases hCase with ⟨hUnbound, hState⟩
    push Not at hState
    rcases hState with ⟨fact, hFact, hNotReserved⟩
    simp only [nodeArm, hKind, Option.some.injEq] at hArm
    unfold callerPiLifecycleArm at hArm
    simp only [bind_eq_ok, pure_eq, Except.ok.injEq] at hArm
    rcases hArm with ⟨m, _, rfl⟩
    exact lifecycle_accumulates hFact hUnbound hNotReserved
      hStep

theorem not_refold_of_reduce
    {ops : List ProjectionOp}
    (hPlan : reduceEventToOps env d ev = .ok ops)
    (hUnsafe : ¬ Refoldable d ev) :
    ∀ again,
      reduceEventToOps env (applyOps ops d) ev = .ok again →
        (applyOps again (applyOps ops d)).nodes ≠
          (applyOps ops d).nodes := by
  rcases reduce_eq_ok.mp hPlan with ⟨hRun, hKindPlan⟩
  have hAccumulates : ev.kind.isRunKind = false := by
    by_contra hOther
    refine hUnsafe (refoldable_of_kind ?_)
    cases hKind : ev.kind <;>
      simp_all [EventKind.isRunKind, EventKind.accumulates]
  rcases nodeId_of_reduceKind hAccumulates hKindPlan with
    ⟨id, hNode⟩
  rcases nodeArm_isSome hAccumulates id with ⟨arm, hArm⟩
  rw [reduceKind_eq_arm hArm hNode, bind_eq_ok] at hKindPlan
  rcases hKindPlan with ⟨step, rfl, hOn⟩
  rcases onNode_eq_ok hOn with
    ⟨hMissing, _⟩ | ⟨n, hLookup, hValid, hCase⟩
  · refine absurd ?_ hUnsafe
    intro id' n' hNode' hLookup'
    rw [hNode, Option.some.injEq] at hNode'
    rw [← hNode', hMissing] at hLookup'
    cases hLookup'
  rcases hCase with ⟨hStep, _⟩ | ⟨n', hStep, rfl⟩
  · rcases step_again_of_not_refoldable hNode hArm hLookup
      hStep hUnsafe with ⟨_, hNone, _⟩
    cases hNone
  rcases step_again_of_not_refoldable hNode hArm hLookup hStep
    hUnsafe with ⟨last, hLast, hNotNone, hNotSame⟩
  obtain rfl : n' = last := by simpa using hLast
  intro again hAgain hSame
  change reduceEventToOps env (d.putNode n') ev = .ok again
    at hAgain
  rw [reduce_after_step hRun hNode hArm hValid hStep,
    bind_eq_ok] at hAgain
  rcases hAgain with ⟨outcome, hSecond, hOps⟩
  cases outcome with
  | none => exact hNotNone hSecond
  | some n'' =>
      cases hOps
      have hArm' :
          nodeArm env (d.putNode n') ev id = some (.ok step) :=
        (nodeArm_congr (readManifestOpt_congr rfl)).trans hArm
      have hSameId := (nodeArm_move hArm' hSecond).1.nodeId
      have hLookupEq :=
        congrArg (Finmap.lookup n'.nodeId) hSame
      simp only [stepPlan, applyOps_cons, applyOps_nil,
        ProjectionOp.put, Disk.putNode_nodes, hSameId,
        Finmap.lookup_insert, Option.some.injEq] at hLookupEq
      exact hNotSame (hLookupEq ▸ hSecond)

/-
  An accepted event folded a second time succeeds and leaves
  manifest and nodes unchanged exactly when it is refoldable
  on the projections it was first accepted on.
-/
theorem applyEvent_twice_iff
    (env : RunEnv)
    (d : Disk)
    (ev : Event)
    (hFirst : (applyEvent env ev).result d = .ok ()) :
    ((applyEvent env ev).result ((applyEvent env ev).final d) =
          .ok () ∧
        ((applyEvent env ev).final
            ((applyEvent env ev).final d)).manifest =
          ((applyEvent env ev).final d).manifest ∧
        ((applyEvent env ev).final
            ((applyEvent env ev).final d)).nodes =
          ((applyEvent env ev).final d).nodes) ↔
      Refoldable d ev := by
  rcases applyEvent_eq_ok.mp hFirst with ⟨ops, hPlan⟩
  rw [(applyEvent_of_plan hPlan).2]
  constructor
  · rintro ⟨hSecond, _, hNodes⟩
    by_contra hUnsafe
    rcases applyEvent_eq_ok.mp hSecond with ⟨again, hAgain⟩
    rw [(applyEvent_of_plan hAgain).2] at hNodes
    exact not_refold_of_reduce hPlan hUnsafe again hAgain hNodes
  · intro hSafe
    rcases refold_of_reduce hPlan hSafe with
      ⟨again, hAgain, hIdle⟩
    have hSame := applyOps_idle hIdle
    have hSecond := applyEvent_of_plan hAgain
    exact ⟨hSecond.1, by rw [hSecond.2, hSame],
      by rw [hSecond.2, hSame]⟩

/- Settling a live node refolds. -/
theorem applyEvent_twice_nodeStatus :
    let ev :=
      Sample.event 3 .nodeStatus (some .first)
        (.obj [("status", .str "failed")])
    (applyEvent Sample.env ev).result
          ((applyEvent Sample.env ev).final Sample.liveNode) =
        .ok () ∧
      ((applyEvent Sample.env ev).final
          ((applyEvent Sample.env ev).final
            Sample.liveNode)).nodes =
        ((applyEvent Sample.env ev).final
          Sample.liveNode).nodes := by
  intro ev
  have hTwice :=
    (applyEvent_twice_iff Sample.env Sample.liveNode ev
      (by decide +kernel)).mpr (refoldable_of_kind rfl)
  exact ⟨hTwice.1, hTwice.2.2⟩

/- A question folded twice is open twice. -/
theorem not_applyEvent_idempotent :
    ¬ ∀ (env : RunEnv) (d : Disk) (ev : Event),
      (applyEvent env ev).result d = .ok () →
        (applyEvent env ev).result
            ((applyEvent env ev).final d) = .ok () ∧
          ((applyEvent env ev).final
              ((applyEvent env ev).final d)).manifest =
            ((applyEvent env ev).final d).manifest ∧
          ((applyEvent env ev).final
              ((applyEvent env ev).final d)).nodes =
            ((applyEvent env ev).final d).nodes := by
  intro hAlways
  let ask :=
    Sample.event 3 .nodeAwaitingInput (some .first)
      Sample.questionData
  have hNodes :=
    (hAlways Sample.env Sample.liveNode ask
      (by decide +kernel)).2.2
  have hOnce :
      Sample.openItems
          ((applyEvent Sample.env ask).final
            Sample.liveNode) = some 1 := by
    decide +kernel
  have hTwice :
      Sample.openItems
          ((applyEvent Sample.env ask).final
            ((applyEvent Sample.env ask).final
              Sample.liveNode)) = some 2 := by
    decide +kernel
  unfold Sample.openItems at hOnce hTwice
  rw [hNodes, hOnce] at hTwice
  cases hTwice

end Taskfleet
