import Taskfleet.Reducer.Plan

/-
  What the steps of the node arms keep, and what a second
  run of the same step finds.

  Main declarations:
    * `Node.SameIdentity`, `Node.Annotated`
    * `NodeStep.Annotates`, `NodeStep.Refolds`
    * one lemma for each arm
-/

------------------------------------------------------------
-- Properties of Steps
------------------------------------------------------------

namespace Taskfleet

open Fallible

namespace Node

/- The fields by which a projection is found and accepted. -/
structure SameIdentity (n n' : Node) : Prop where
  nodeId : n'.nodeId = n.nodeId
  runId : n'.runId = n.runId
  schemaVersion : n'.schemaVersion = n.schemaVersion

/- A change that is no change of outcome. -/
structure Annotated (n n' : Node) : Prop
    extends SameIdentity n n' where
  status : n'.status = n.status
  lastReport : n'.lastReport = n.lastReport

end Node

namespace NodeStep

def Annotates (step : NodeStep) : Prop :=
  ∀ n n', step n = .ok (some n') → n.Annotated n'

/- A step run again finds nothing to do or rewrites the same. -/
def Refolds (step : NodeStep) : Prop :=
  ∀ n n', step n = .ok (some n') →
    step n' = .ok none ∨ step n' = .ok (some n')

/-
  Rules for the two shapes a step is built from: a guard
  that skips, and an update.
-/
theorem annotates_skip
    {c : Node → Prop} [DecidablePred c]
    {rest : NodeStep}
    (hRest : rest.Annotates) :
    Annotates
      (fun n => if c n then .ok none else rest n) := by
  intro n n' hRun
  by_cases hSkip : c n
  · simp [hSkip] at hRun
  · exact hRest n n' (by simpa [hSkip] using hRun)

theorem annotates_update
    {update : Node → Node}
    (hUpdate : ∀ n : Node, n.Annotated (update n)) :
    Annotates (fun n => .ok (some (update n))) := by
  rintro n n' ⟨⟩
  exact hUpdate n

theorem yields_none {P : Node → Prop} :
    Yields (pure none : Except Error (Option Node))
      (fun r => ∀ n', r = some n' → P n') :=
  .pure (by simp)

/- A step written as a sequence of checks. -/
theorem annotates_of_yields
    {step : NodeStep}
    (hStep : ∀ n, Yields (step n)
      (fun r => ∀ n', r = some n' → n.Annotated n')) :
    step.Annotates :=
  fun n n' hRun => hStep n _ hRun n' rfl

theorem refolds_skip
    {c : Node → Prop} [DecidablePred c]
    {rest : NodeStep}
    (hRest : rest.Refolds) :
    Refolds (fun n => if c n then .ok none else rest n) := by
  intro n n' hRun
  by_cases hSkip : c n
  · simp [hSkip] at hRun
  · have hAgain := hRest n n' (by simpa [hSkip] using hRun)
    by_cases hSkip' : c n'
    · simp [hSkip']
    · simpa [hSkip'] using hAgain

theorem refolds_update
    {update : Node → Node}
    (hUpdate : ∀ n, update (update n) = update n) :
    Refolds (fun n => .ok (some (update n))) := by
  rintro n n' ⟨⟩
  exact .inr (by simp [hUpdate n])

/- A guard that the update itself closes. -/
theorem refolds_closed
    {c : Node → Prop} [DecidablePred c]
    {update : Node → Node}
    (hClosed : ∀ n, ¬ c n → c (update n)) :
    Refolds
      (fun n =>
        if c n then .ok none else .ok (some (update n))) := by
  intro n n' hRun
  by_cases hSkip : c n
  · simp [hSkip] at hRun
  · simp only [hSkip, if_false, Except.ok.injEq,
      Option.some.injEq] at hRun
    subst hRun
    exact .inl (by simp [hClosed n hSkip])

end NodeStep

/- A step that annotates a node and may be run again. -/
structure NodeStep.Quiet (step : NodeStep) : Prop where
  annotates : step.Annotates
  refolds : step.Refolds

open NodeStep

------------------------------------------------------------
-- Worker Facts
------------------------------------------------------------

theorem workerExitedArm_quiet (ev : Event) :
    Yields (workerExitedArm ev) Quiet := by
  refine .bind fun attempt _ => .bind fun code _ =>
    .bind fun signal _ => .bind fun _ _ => .pure ?_
  refine ⟨?_, ?_⟩
  · exact annotates_skip (annotates_update
      fun n => ⟨⟨rfl, rfl, rfl⟩, rfl, rfl⟩)
  · exact refolds_skip (refolds_update fun n => rfl)

theorem nodeDeathObservedStep_quiet (ev : Event) :
    (nodeDeathObservedStep ev).Quiet := by
  refine ⟨?_, ?_⟩
  · exact annotates_skip (annotates_update
      fun n => ⟨⟨rfl, rfl, rfl⟩, rfl, rfl⟩)
  · exact refolds_skip (refolds_update fun n => rfl)

/-
  Evidence facts rewrite the evidence in place; a second
  fold sees the same attempt and session.
-/
theorem evidenceStep_quiet
    (ev : Event)
    (attempt : Nat)
    (sessionId missing : String)
    {update : WorkerEvidence → WorkerEvidence}
    (hTwice : ∀ e, update (update e) = update e)
    (hAttempt : ∀ e, (update e).attempt = e.attempt)
    (hSession : ∀ e, (update e).sessionId = e.sessionId) :
    (evidenceStep ev attempt sessionId missing
      update).Quiet := by
  refine ⟨?_, ?_⟩
  · intro n n' hRun
    unfold evidenceStep at hRun
    split at hRun
    · simp at hRun
    · split at hRun
      · simp at hRun
      · split at hRun
        · simp at hRun
        · cases hRun
          exact ⟨⟨rfl, rfl, rfl⟩, rfl, rfl⟩
  · intro n n' hRun
    unfold evidenceStep at hRun
    split at hRun
    · simp at hRun
    · split at hRun
      · simp at hRun
      next hHere =>
      split at hRun
      · simp at hRun
      cases hRun
      unfold evidenceStep
      simp only [hAttempt, hSession, hHere, if_false, hTwice]
      split <;> simp

theorem workerEvidenceArchivedArm_quiet
    (ev : Event) (id : NodeId) :
    Yields (workerEvidenceArchivedArm ev id) Quiet := by
  refine .bind fun _ _ => .bind fun _ _ => .bind fun _ _ =>
    .bind fun _ _ => .bind fun _ _ => .bind fun _ _ =>
    .bind fun _ _ => .bind fun _ _ => .bind fun _ _ =>
    .pure ?_
  exact evidenceStep_quiet _ _ _ _ (fun _ => rfl)
    (fun _ => rfl) (fun _ => rfl)

theorem workerEvidenceFailedArm_quiet (ev : Event) :
    Yields (workerEvidenceFailedArm ev) Quiet := by
  refine .bind fun _ _ => .bind fun _ _ => .bind fun _ _ =>
    .pure ?_
  exact evidenceStep_quiet _ _ _ _ (fun _ => rfl)
    (fun _ => rfl) (fun _ => rfl)

theorem workerDisplayRetainedArm_quiet
    (env : RunEnv) (ev : Event) :
    Yields (workerDisplayRetainedArm env ev) Quiet := by
  refine .bind fun _ _ => .pure ⟨?_, ?_⟩
  · exact annotates_skip (annotates_skip (annotates_update
      fun n => ⟨⟨rfl, rfl, rfl⟩, rfl, rfl⟩))
  · exact refolds_skip (refolds_skip (refolds_update
      fun n => rfl))

theorem workerDisplayExpiredArm_quiet (ev : Event) :
    Yields (workerDisplayExpiredArm ev) Quiet := by
  refine .bind fun _ _ => .bind fun _ _ => .pure ⟨?_, ?_⟩
  · intro n n' hRun
    dsimp only at hRun
    split at hRun
    · simp at hRun
    · split at hRun
      · simp at hRun
      · cases hRun
        exact ⟨⟨rfl, rfl, rfl⟩, rfl, rfl⟩
  · intro n n' hRun
    dsimp only at hRun
    split at hRun
    · simp at hRun
    · split at hRun
      · simp at hRun
      · cases hRun
        exact .inl (by simp)

theorem workerDisplayUnavailableArm_quiet (ev : Event) :
    Yields (workerDisplayUnavailableArm ev) Quiet := by
  refine .bind fun _ _ => .bind fun _ _ => .pure ⟨?_, ?_⟩
  · refine annotates_skip fun n n' hRun => ?_
    split at hRun <;> cases hRun <;>
      exact ⟨⟨rfl, rfl, rfl⟩, rfl, rfl⟩
  · refine refolds_skip fun n n' hRun => .inr ?_
    split at hRun
    · cases hRun
      simp
    · cases hRun
      simp_all

------------------------------------------------------------
-- Children and Supervisor Records
------------------------------------------------------------

theorem childSpawnedArm_quiet (ev : Event) :
    Yields (childSpawnedArm ev) Quiet := by
  refine .bind fun _ _ => .bind fun _ _ => .bind fun _ _ =>
    .pure ⟨?_, ?_⟩
  · exact annotates_skip (annotates_update
      fun n => ⟨⟨rfl, rfl, rfl⟩, rfl, rfl⟩)
  · exact refolds_closed fun n _ => by simp

theorem supervisorAttachedArm_quiet (ev : Event) :
    Yields (supervisorAttachedArm ev) Quiet := by
  refine .bind fun _ _ => .bind fun _ _ => .pure ⟨?_, ?_⟩
  · exact annotates_skip (annotates_update
      fun n => ⟨⟨rfl, rfl, rfl⟩, rfl, rfl⟩)
  · exact refolds_closed fun n _ => rfl

/- A number read from a payload is read back the same. -/
theorem asU64_int
    {v : Json} {n : Nat} (hRead : v.asU64 = some n) :
    (Json.int n).asU64 = some n := by
  unfold Json.asU64 at hRead
  split at hRead
  next i =>
    split at hRead
    next hBounds =>
      simp only [Option.some.injEq] at hRead
      have hCast : (n : Int) = i := by omega
      simp only [Json.asU64, hCast]
      rw [if_pos hBounds, hRead]
    next => simp at hRead
  next => simp at hRead

theorem supervisorCursorAdvancedArm_quiet (ev : Event) :
    Yields (supervisorCursorAdvancedArm ev) Quiet := by
  refine .bind fun child _ => .bind fun _ _ =>
    .bind fun seq hSeq => .pure ⟨?_, ?_⟩
  · exact annotates_skip (annotates_update
      fun n => ⟨⟨rfl, rfl, rfl⟩, rfl, rfl⟩)
  · refine refolds_closed fun n _ => ?_
    rw [orError_eq_ok, Option.bind_eq_some_iff] at hSeq
    rcases hSeq with ⟨v, _, hRead⟩
    rw [Json.lookup_insertField_self, Option.bind_some,
      asU64_int hRead]
    simp

------------------------------------------------------------
-- Caller Facts and Merge Transactions
------------------------------------------------------------

theorem callerPiSessionBoundStep_quiet (ev : Event) :
    (callerPiSessionBoundStep ev).Quiet := by
  refine ⟨?_, ?_⟩
  · refine annotates_of_yields fun n =>
      .bind fun binding _ => .bind fun _ _ => ?_
    split
    · exact .ite (fun _ => yields_none) (fun _ => .error)
    · refine .bind fun _ _ => .bind fun _ _ => .pure ?_
      rintro _ ⟨⟩
      exact ⟨⟨rfl, rfl, rfl⟩, rfl, rfl⟩
  · intro n n' hRun
    unfold callerPiSessionBoundStep at hRun
    simp only [bind_eq_ok] at hRun
    rcases hRun with ⟨binding, hBinding, _, hIdentity, hRest⟩
    split at hRest
    · split at hRest <;> simp at hRest
    · simp only [bind_eq_ok, pure_eq, Except.ok.injEq,
        Option.some.injEq] at hRest
      rcases hRest with ⟨_, _, _, _, rfl⟩
      left
      unfold callerPiSessionBoundStep
      simp only [hBinding, ok_bind, hIdentity]
      simp

theorem callerPiSessionBoundArm_quiet
    (env : RunEnv) (d : Disk) (ev : Event) :
    Yields (callerPiSessionBoundArm env d ev) Quiet :=
  .bind fun _ _ => .pure (callerPiSessionBoundStep_quiet ev)

theorem callerPiLifecycleStep_annotates
    (ev : Event) (m : Manifest) :
    (callerPiLifecycleStep ev m).Annotates := by
  refine annotates_of_yields fun n =>
    .bind fun fact _ => .bind fun _ _ => ?_
  refine .ite (fun _ => yields_none) (fun _ => ?_)
  refine .bind fun _ _ => .bind fun _ _ => .pure ?_
  rintro _ ⟨⟩
  exact ⟨⟨rfl, rfl, rfl⟩, rfl, rfl⟩

theorem callerPiLifecycleArm_annotates
    (env : RunEnv) (d : Disk) (ev : Event) :
    Yields (callerPiLifecycleArm env d ev) Annotates :=
  .bind fun m _ =>
    .pure (callerPiLifecycleStep_annotates ev m)

theorem mergeStartedStep_quiet
    (ev : Event)
    (m : Manifest)
    (id : NodeId)
    (txn : MergeTxn) :
    (mergeStartedStep ev m id txn).Quiet := by
  refine ⟨?_, ?_⟩
  · refine annotates_of_yields fun n => .bind fun _ _ => ?_
    refine .ite (fun _ => yields_none) (fun _ => ?_)
    refine .ite (fun _ => yields_none) (fun _ => .pure ?_)
    rintro _ ⟨⟩
    exact ⟨⟨rfl, rfl, rfl⟩, rfl, rfl⟩
  · intro n n' hRun
    unfold mergeStartedStep at hRun
    simp only [bind_eq_ok] at hRun
    rcases hRun with ⟨_, hLink, hRest⟩
    split at hRest
    · simp at hRest
    split at hRest
    · simp at hRest
    cases hRest
    left
    have hSame :
        refuseIf
          (m.agentOwner = .caller ∧
            (n.branch ≠ some txn.workerBranch ∨
              some n.piGeneration ≠
                m.callerSettlementIntent.map
                  CallerSettlementIntent.generation))
          ev.badLink = .ok () := hLink
    unfold mergeStartedStep
    refine bind_eq_ok.mpr ⟨(), hSame, ?_⟩
    simp

theorem mergeStartedArm_quiet
    (env : RunEnv) (d : Disk) (ev : Event) (id : NodeId) :
    Yields (mergeStartedArm env d ev id) Quiet :=
  .bind fun _ _ => .bind fun _ _ => .bind fun _ _ =>
    .pure (mergeStartedStep_quiet _ _ _ _)

theorem mergeAbortedArm_quiet (ev : Event) :
    Yields (mergeAbortedArm ev) Quiet := by
  refine .bind fun opId _ => .pure ⟨?_, ?_⟩
  · intro n n' hRun
    dsimp only at hRun
    split at hRun
    · cases hRun
      exact ⟨⟨rfl, rfl, rfl⟩, rfl, rfl⟩
    · simp at hRun
  · intro n n' hRun
    dsimp only at hRun
    split at hRun
    · cases hRun
      exact .inl (by simp)
    · simp at hRun

------------------------------------------------------------
-- Open Questions
------------------------------------------------------------

theorem nodeAwaitingInputStep_annotates
    (ev : Event) (items : List Json) :
    (nodeAwaitingInputStep ev items).Annotates := by
  intro n n' hRun
  unfold nodeAwaitingInputStep at hRun
  split at hRun
  · simp at hRun
  split at hRun
  · split at hRun
    · simp at hRun
    · cases hRun
      exact ⟨⟨rfl, rfl, rfl⟩, rfl, rfl⟩
  · cases hRun
    exact ⟨⟨rfl, rfl, rfl⟩, rfl, rfl⟩

theorem nodeAwaitingInputArm_annotates (ev : Event) :
    Yields (nodeAwaitingInputArm ev) Annotates :=
  .bind fun items _ =>
    .pure (nodeAwaitingInputStep_annotates ev items)

theorem nodeInputResolvedArm_quiet (ev : Event) :
    Yields (nodeInputResolvedArm ev) Quiet := by
  refine .bind fun seq _ => .pure ⟨?_, ?_⟩
  · intro n n' hRun
    dsimp only at hRun
    split at hRun
    · cases hRun
      exact ⟨⟨rfl, rfl, rfl⟩, rfl, rfl⟩
    · simp at hRun
  · intro n n' hRun
    dsimp only at hRun
    split at hRun
    · cases hRun
      exact .inl (by simp)
    · simp at hRun

------------------------------------------------------------
-- Residents
------------------------------------------------------------

namespace ResidentState

/- Reporting a round twice amends what the first opened. -/
theorem report_report
    (s : ResidentState)
    (ev : Event)
    (attempt : Nat)
    (summary : String) :
    (s.report ev attempt summary).report ev attempt summary =
      s.report ev attempt summary := by
  cases hRound : s.lastRound with
  | none => simp [report, hRound, openNext]
  | some r =>
      by_cases hOpen : r.closedAt = none ∧ r.attempt = attempt
      · simp [report, hRound, hOpen]
      · simp [report, hRound, hOpen, openNext]

end ResidentState

theorem nodeRoundReportedArm_quiet
    (env : RunEnv) (d : Disk) (ev : Event) :
    Yields (nodeRoundReportedArm env d ev) Quiet := by
  refine .bind fun summary _ => .bind fun attempt _ =>
    .bind fun _ _ => .pure ⟨?_, ?_⟩
  · exact annotates_skip (annotates_update
      fun n => ⟨⟨rfl, rfl, rfl⟩, rfl, rfl⟩)
  · refine refolds_skip (refolds_update fun n => ?_)
    simp only [Node.residentState, Option.getD_some,
      ResidentState.report_report]

theorem nodeRoundLandedArm_quiet
    (env : RunEnv) (d : Disk) (ev : Event) :
    Yields (nodeRoundLandedArm env d ev) Quiet := by
  refine .bind fun opId _ => .bind fun _ _ =>
    .bind fun _ _ => .bind fun _ _ => .bind fun _ _ =>
    .pure ⟨?_, ?_⟩
  · exact annotates_skip (annotates_update
      fun n => ⟨⟨rfl, rfl, rfl⟩, rfl, rfl⟩)
  · refine refolds_skip (refolds_update fun n => ?_)
    simp only [Node.residentState, Option.getD_some]
    congr 1
    split <;> simp_all

theorem nodeResidentDormantArm_quiet
    (env : RunEnv) (d : Disk) (ev : Event) :
    Yields (nodeResidentDormantArm env d ev) Quiet := by
  refine .bind fun _ _ => .pure ⟨?_, ?_⟩
  · exact annotates_skip (annotates_skip (annotates_update
      fun n => ⟨⟨rfl, rfl, rfl⟩, rfl, rfl⟩))
  · exact refolds_skip (refolds_closed fun n _ =>
      .inr (by simp [Node.residentState]))

theorem nodeResidentAttentionArm_quiet
    (env : RunEnv) (d : Disk) (ev : Event) :
    Yields (nodeResidentAttentionArm env d ev) Quiet := by
  refine .bind fun _ _ => .bind fun _ _ => .pure ⟨?_, ?_⟩
  · exact annotates_skip (annotates_skip (annotates_update
      fun n => ⟨⟨rfl, rfl, rfl⟩, rfl, rfl⟩))
  · exact refolds_skip (refolds_closed fun n _ =>
      .inr (by simp [Node.residentState]))

------------------------------------------------------------
-- Steps That Settle or Rewire a Node
------------------------------------------------------------

/- A status event moves a live node to another status. -/
theorem nodeStatusStep_spec
    {ev : Event}
    {n n' : Node}
    (hRun : nodeStatusStep ev n = .ok (some n')) :
    ev.requireStatus = .ok n'.status ∧
      n.status.isTerminal = false ∧
      n.SameIdentity n' ∧
      n'.lastReport = n.lastReport := by
  unfold nodeStatusStep at hRun
  simp only [bind_eq_ok] at hRun
  rcases hRun with ⟨s, hStatus, hRest⟩
  split at hRest
  · simp at hRest
  next hLive =>
  split at hRest
  · simp at hRest
  cases hRest
  exact ⟨hStatus, by simpa using hLive, ⟨rfl, rfl, rfl⟩, rfl⟩

theorem nodeStatusStep_refolds (ev : Event) :
    (nodeStatusStep ev).Refolds := by
  intro n n' hRun
  have hSpec := nodeStatusStep_spec hRun
  left
  unfold nodeStatusStep
  simp [hSpec.1]

/- The outcome of a valid report is terminal. -/
theorem reportTerminalStatus_isTerminal (ev : Event) :
    Yields ev.reportTerminalStatus
      (fun s => s.isTerminal = true) := by
  refine .bind fun cancelled _ => .bind fun success _ => ?_
  refine .ite (fun _ => .ite (fun _ => .error)
    (fun _ => .pure rfl)) (fun _ => ?_)
  split
  · exact .pure rfl
  · exact .pure rfl
  · exact .error

/- A confirmed merge reports success. -/
theorem reportTerminalStatus_of_confirmedMerge
    {ev : Event}
    (hMerge : reportIsConfirmedMerge ev.data = true) :
    ev.reportTerminalStatus = .ok .done := by
  have hSuccess := success_of_confirmedMerge hMerge
  rcases cancelled_of_confirmedMerge hMerge with h | h | h <;>
    simp [Event.reportTerminalStatus, Event.optionalBool,
      hSuccess, h]

theorem nodeReportStep_spec
    {ev : Event}
    {n n' : Node}
    (hRun : nodeReportStep ev n = .ok (some n')) :
    ∃ s, n' = n.settleReport ev s ∧ s.isTerminal = true ∧
      ((n.status.isTerminal = false ∧
          ev.reportTerminalStatus = .ok s) ∨
        (n.status.isTerminal = true ∧ s = .done ∧
          permitsTerminalMergeRecovery n.status ev.data =
            true)) := by
  unfold nodeReportStep at hRun
  split at hRun
  next hTerminal =>
    split at hRun
    next hPermits =>
      split at hRun
      · simp at hRun
      · cases hRun
        exact ⟨.done, rfl, rfl, .inr ⟨hTerminal, rfl, hPermits⟩⟩
    next => simp at hRun
  next hLive =>
    simp only [bind_eq_ok, pure_eq, Except.ok.injEq,
      Option.some.injEq] at hRun
    rcases hRun with ⟨s, hStatus, rfl⟩
    exact
      ⟨s, rfl, reportTerminalStatus_isTerminal ev s hStatus,
        .inl ⟨by simpa using hLive, hStatus⟩⟩

/-
  The adopted report is recorded, so a second fold finds the
  node settled by that very report.
-/
theorem nodeReportStep_refolds (ev : Event) :
    (nodeReportStep ev).Refolds := by
  intro n n' hRun
  rcases nodeReportStep_spec hRun with
    ⟨s, rfl, hTerminal, hCase⟩
  left
  have hOutcome :
      permitsTerminalMergeRecovery s ev.data = true →
        s = .done := by
    intro hPermits
    rcases hCase with ⟨_, hStatus⟩ | ⟨_, hDone, _⟩
    · have hMerge : reportIsConfirmedMerge ev.data = true := by
        simp only [permitsTerminalMergeRecovery,
          Bool.and_eq_true] at hPermits
        exact hPermits.2
      rw [reportTerminalStatus_of_confirmedMerge hMerge]
        at hStatus
      cases hStatus
      rfl
    · exact hDone
  unfold nodeReportStep
  simp only [Node.settleReport, hTerminal, if_true]
  split
  next hPermits => simp [hOutcome hPermits]
  next => rfl

theorem nodeRetryStep_spec
    {env : RunEnv}
    {ev : Event}
    {n n' : Node}
    (hRun : nodeRetryStep env ev n = .ok (some n')) :
    n.status.isTerminal = false ∧
      n'.status = .pending ∧
      n.SameIdentity n' ∧
      n'.lastReport = none ∧
      n'.retryAttempts = ev.retryAttempts n.retryAttempts ∧
      nodeRetryStep env ev n' =
        .ok (some { n' with
          retryAttempts :=
            ev.retryAttempts n'.retryAttempts }) := by
  unfold nodeRetryStep at hRun
  split at hRun
  · simp at hRun
  next hLive =>
  simp only [bind_eq_ok, pure_eq, Except.ok.injEq,
    Option.some.injEq] at hRun
  rcases hRun with ⟨e, hE, c, hC, p, hP, t, hT, rfl⟩
  refine
    ⟨by simpa using hLive, rfl, ⟨rfl, rfl, rfl⟩, rfl, rfl, ?_⟩
  unfold nodeRetryStep
  simp [Status.isTerminal, hE, hC, hP, hT]

theorem nodeResumedStep_spec
    {env : RunEnv}
    {ev : Event}
    {attempt : Nat}
    {messageId : String}
    {evidence : Option WorkerEvidence}
    {claude : Option String}
    {n n' : Node}
    (hRun :
      nodeResumedStep env ev attempt messageId evidence
        claude n = .ok (some n')) :
    n.status.isTerminal = false ∧
      n'.status = .pending ∧
      n.SameIdentity n' ∧
      n'.lastReport = n.lastReport ∧
      n'.retryAttempts = attempt := by
  unfold nodeResumedStep at hRun
  split at hRun
  · simp at hRun
  next hLive =>
  simp only [bind_eq_ok, pure_eq, Except.ok.injEq,
    Option.some.injEq] at hRun
  rcases hRun with ⟨p, hP, t, hT, rfl⟩
  simp only [not_or, Bool.not_eq_true] at hLive
  exact ⟨hLive.1, rfl, ⟨rfl, rfl, rfl⟩, rfl, rfl⟩

theorem nodeResumedStep_refolds
    (env : RunEnv)
    (ev : Event)
    (attempt : Nat)
    (messageId : String)
    (evidence : Option WorkerEvidence)
    (claude : Option String) :
    (nodeResumedStep env ev attempt messageId evidence
      claude).Refolds := by
  intro n n' hRun
  have hSpec := nodeResumedStep_spec hRun
  left
  unfold nodeResumedStep
  simp [hSpec.2.2.2.2]

------------------------------------------------------------
-- Steps That Do Not Refold
------------------------------------------------------------

/- The items open on a node. -/
def Node.openItems (n : Node) : List Json :=
  (n.awaitingInput.map AwaitingInput.discussionItems).getD []

/- A question on a live node joins its open items. -/
theorem nodeAwaitingInputStep_spec
    {ev : Event}
    {items : List Json}
    {n n' : Node}
    (hRun : nodeAwaitingInputStep ev items n = .ok (some n')) :
    (n.status.isTerminal = false ∧ n.workerExit = none) ∧
      n'.status = n.status ∧ n'.workerExit = n.workerExit ∧
      n'.awaitingInput.isSome ∧
      n'.openItems = n.openItems ++ items := by
  unfold nodeAwaitingInputStep at hRun
  split at hRun
  · simp at hRun
  next hLive =>
  simp only [not_or, Bool.not_eq_true, Option.isSome_eq_false_iff,
    Option.isNone_iff_eq_none] at hLive
  split at hRun
  next opened hOpen =>
    split at hRun
    · simp at hRun
    · cases hRun
      exact ⟨hLive, rfl, rfl, rfl, by simp [Node.openItems, hOpen]⟩
  next hOpen =>
    cases hRun
    exact ⟨hLive, rfl, rfl, rfl, by simp [Node.openItems, hOpen]⟩

/- Folding the question again adds its items once more. -/
theorem nodeAwaitingInputStep_again
    {ev : Event}
    {items : List Json}
    {n n' : Node}
    (hRun : nodeAwaitingInputStep ev items n = .ok (some n')) :
    (n'.openItems.length + items.length >
          DiscussionItem.maxItems ∧
        ∃ e, nodeAwaitingInputStep ev items n' = .error e) ∨
      (n'.openItems.length + items.length ≤
          DiscussionItem.maxItems ∧
        ∃ n'', nodeAwaitingInputStep ev items n' =
            .ok (some n'') ∧
          n''.openItems = n'.openItems ++ items) := by
  rcases nodeAwaitingInputStep_spec hRun with
    ⟨⟨hLive, hExit⟩, hStatus, hExit', hOpen, _⟩
  rcases Option.isSome_iff_exists.mp hOpen with ⟨opened, hSome⟩
  have hItems : n'.openItems = opened.discussionItems := by
    simp [Node.openItems, hSome]
  have hGuard :
      ¬ (n'.status.isTerminal = true ∨ n'.workerExit.isSome) := by
    simp [hStatus, hExit', hLive, hExit]
  by_cases hFull :
      opened.discussionItems.length + items.length >
        DiscussionItem.maxItems
  · left
    refine ⟨by rw [hItems]; exact hFull, ?_⟩
    unfold nodeAwaitingInputStep
    rw [if_neg hGuard]
    simp [hSome, hFull]
  · right
    refine ⟨by rw [hItems]; omega, ?_⟩
    unfold nodeAwaitingInputStep
    rw [if_neg hGuard]
    simp only [hSome, hFull, if_false]
    exact ⟨_, rfl, by simp [Node.openItems, hSome]⟩

/-
  A lifecycle fact folded again is a duplicate where the
  session is bound or only reserved; otherwise the node no
  longer shows the reservation the fact needs.
-/
theorem callerPiLifecycleStep_again
    {ev : Event}
    {m : Manifest}
    {n n' : Node}
    (hRun : callerPiLifecycleStep ev m n = .ok (some n')) :
    ∃ fact, ev.data.asCallerPiLifecycle = some fact ∧
      ((n.callerPiSession.isSome ∨ fact.state = .reserved) ∧
          callerPiLifecycleStep ev m n' = .ok none ∨
        (¬ (n.callerPiSession.isSome ∨
            fact.state = .reserved)) ∧
          ∃ reason, callerPiLifecycleStep ev m n' =
            .error (ev.bad reason)) := by
  unfold callerPiLifecycleStep at hRun
  simp only [bind_eq_ok] at hRun
  rcases hRun with ⟨fact, hFact, _, hFormed, hRest⟩
  rw [orError_eq_ok] at hFact
  rw [refuseIf_eq_ok, not_not] at hFormed
  split at hRest
  · simp at hRest
  simp only [bind_eq_ok, pure_eq, Except.ok.injEq,
    Option.some.injEq] at hRest
  rcases hRest with ⟨_, _, _, _, rfl⟩
  refine ⟨fact, hFact, ?_⟩
  by_cases hBound :
      n.callerPiSession.isSome ∨ fact.state = .reserved
  · left
    refine ⟨hBound, ?_⟩
    have hAgain :
        fact.wellFormed n.callerPiSession (some fact) =
          true := by
      unfold CallerPiLifecycle.wellFormed at hFormed ⊢
      simp only [decide_eq_true_eq] at hFormed ⊢
      refine ⟨hFormed.1, hFormed.2.1, hFormed.2.2.1,
        hFormed.2.2.2.1, ?_, hFormed.2.2.2.2.2⟩
      rintro ⟨hNone, hState, _⟩
      rcases hBound with hSome | hReserved
      · simp_all
      · exact hState hReserved
    unfold callerPiLifecycleStep
    simp [hFact, hAgain, refuseIf]
  · right
    refine ⟨hBound,
      "invalid generation, session identity or reason", ?_⟩
    have hAgain :
        fact.wellFormed n.callerPiSession (some fact) =
          false := by
      unfold CallerPiLifecycle.wellFormed
      simp only [decide_eq_false_iff_not]
      intro hAll
      apply hAll.2.2.2.2.1
      push Not at hBound
      refine ⟨by simpa using hBound.1, hBound.2, ?_⟩
      simpa using hBound.2
    unfold callerPiLifecycleStep
    simp [hFact, hAgain, refuseIf]

end Taskfleet
