import Taskfleet.Reducer.Commit

/-
  What an accepted event does to the open obligations of a
  node: its question, its merge transaction and the exit of
  its worker.

  Main declarations:
    * `Node.SameDues`, `NodeStep.Leads`
    * `DuesMove`, `nodeArm_dues`
-/

------------------------------------------------------------
-- Obligations of a Node
------------------------------------------------------------

namespace Taskfleet

open Fallible

/- The fields that say what a node still owes. -/
structure Node.SameDues (n n' : Node) : Prop where
  status : n'.status = n.status
  awaitingInput : n'.awaitingInput = n.awaitingInput
  pendingMerge : n'.pendingMerge = n.pendingMerge
  workerExit : n'.workerExit = n.workerExit

/-
  Every way an event moves the obligations of a node. The
  transaction of a merge is opened under the authority of
  the run and closed under its own name.
-/
inductive DuesMove
    (env : RunEnv)
    (d : Disk)
    (ev : Event)
    (id : NodeId)
    (n n' : Node) : Prop where
| kept
    (hSame : n.SameDues n')
| moved
    (hLive : n.status.isTerminal = false)
    (hLive' : n'.status.isTerminal = false)
    (hAsked : n'.awaitingInput = n.awaitingInput)
    (hMerge : n'.pendingMerge = n.pendingMerge)
    (hExit : n'.workerExit = n.workerExit)
| settled
    (hTerminal : n'.status.isTerminal = true)
    (hAsked : n'.awaitingInput = none)
    (hMerge : n'.pendingMerge = none)
    (hExit : n'.workerExit = n.workerExit)
| rewired
    (hLive : n.status.isTerminal = false)
    (hStatus : n'.status = .pending)
    (hAsked : n'.awaitingInput = none)
    (hMerge : n'.pendingMerge = none)
    (hExit : n'.workerExit = none)
| exited (exit : WorkerExit)
    (hFirst : n.workerExit = none)
    (hExit : n'.workerExit = some exit)
    (hOne : exit.code.isSome ≠ exit.signal.isSome)
    (hStatus : n'.status = n.status)
    (hAsked : n'.awaitingInput = none)
    (hMerge : n'.pendingMerge = n.pendingMerge)
| asked
    (hLive : n.status.isTerminal = false)
    (hNoExit : n.workerExit = none)
    (hStatus : n'.status = n.status)
    (hMerge : n'.pendingMerge = n.pendingMerge)
    (hExit : n'.workerExit = n.workerExit)
| answered
    (hStatus : n'.status = n.status)
    (hAsked : n'.awaitingInput = none)
    (hMerge : n'.pendingMerge = n.pendingMerge)
    (hExit : n'.workerExit = n.workerExit)
| merging (m : Manifest) (txn : MergeTxn)
    (hKind : ev.kind = .mergeStarted)
    (hTxn : ev.data.asMergeTxn env = some txn)
    (hManifest : d.manifest = some m)
    (hAuthority : checkMergeAuthority m ev id txn = .ok ())
    (hOpen : n.status.isTerminal = true →
      recoverableMerge m id n = true)
    (hStatus : n'.status = n.status)
    (hAsked : n'.awaitingInput = n.awaitingInput)
    (hMerge : n'.pendingMerge = some txn)
    (hExit : n'.workerExit = n.workerExit)
| unmerged (txn : MergeTxn)
    (hKind : ev.kind = .mergeAborted ∨
      ev.kind = .nodeRoundLanded ∧ txn.landing = true)
    (hWas : n.pendingMerge = some txn)
    (hNamed : ev.data.getStr "op_id" = some txn.opId)
    (hStatus : n'.status = n.status)
    (hAsked : n'.awaitingInput = n.awaitingInput)
    (hMerge : n'.pendingMerge = none)
    (hExit : n'.workerExit = n.workerExit)

namespace NodeStep

/- The changes a step makes are all of a kind. -/
def Leads (R : Node → Node → Prop) (step : NodeStep) : Prop :=
  ∀ n n', step n = .ok (some n') → R n n'

variable {R : Node → Node → Prop}

theorem leads_skip
    {c : Node → Prop} [DecidablePred c]
    {rest : NodeStep}
    (hRest : Leads R rest) :
    Leads R (fun n => if c n then .ok none else rest n) := by
  intro n n' hRun
  by_cases hSkip : c n
  · simp [hSkip] at hRun
  · exact hRest n n' (by simpa [hSkip] using hRun)

theorem leads_update
    {update : Node → Node}
    (hUpdate : ∀ n, R n (update n)) :
    Leads R (fun n => .ok (some (update n))) := by
  rintro n n' ⟨⟩
  exact hUpdate n

/- A step written as a sequence of checks. -/
theorem leads_of_yields
    {step : NodeStep}
    (hStep : ∀ n, Yields (step n)
      (fun r => ∀ n', r = some n' → R n n')) :
    Leads R step :=
  fun n n' hRun => hStep n _ hRun n' rfl

end NodeStep

open NodeStep

------------------------------------------------------------
-- Arms That Keep Obligations
------------------------------------------------------------

section Kept

variable (env : RunEnv) (d : Disk) (ev : Event) (id : NodeId)

theorem evidenceStep_keepsDues
    (attempt : Nat)
    (sessionId missing : String)
    (update : WorkerEvidence → WorkerEvidence) :
    (evidenceStep ev attempt sessionId missing update).Leads
      Node.SameDues := by
  intro n n' hRun
  unfold evidenceStep at hRun
  split at hRun
  · cases hRun
  split at hRun
  · cases hRun
  split at hRun
  · cases hRun
  · cases hRun
    exact ⟨rfl, rfl, rfl, rfl⟩

theorem workerEvidenceArchivedArm_keepsDues :
    Yields (workerEvidenceArchivedArm ev id)
      (Leads Node.SameDues) := by
  refine .bind fun _ _ => .bind fun _ _ => .bind fun _ _ =>
    .bind fun _ _ => .bind fun _ _ => .bind fun _ _ =>
    .bind fun _ _ => .bind fun _ _ => .bind fun _ _ =>
    .pure ?_
  exact evidenceStep_keepsDues ev _ _ _ _

theorem workerEvidenceFailedArm_keepsDues :
    Yields (workerEvidenceFailedArm ev)
      (Leads Node.SameDues) := by
  refine .bind fun _ _ => .bind fun _ _ => .bind fun _ _ =>
    .pure ?_
  exact evidenceStep_keepsDues ev _ _ _ _

theorem workerDisplayRetainedArm_keepsDues :
    Yields (workerDisplayRetainedArm env ev)
      (Leads Node.SameDues) := by
  refine .bind fun _ _ => .pure ?_
  exact leads_skip (leads_skip (leads_update
    fun _ => ⟨rfl, rfl, rfl, rfl⟩))

theorem workerDisplayExpiredArm_keepsDues :
    Yields (workerDisplayExpiredArm ev)
      (Leads Node.SameDues) := by
  refine .bind fun _ _ => .bind fun _ _ => .pure ?_
  intro n n' hRun
  dsimp only at hRun
  split at hRun
  · cases hRun
  split at hRun
  · cases hRun
  · cases hRun
    exact ⟨rfl, rfl, rfl, rfl⟩

theorem workerDisplayUnavailableArm_keepsDues :
    Yields (workerDisplayUnavailableArm ev)
      (Leads Node.SameDues) := by
  refine .bind fun _ _ => .bind fun _ _ => .pure ?_
  refine leads_skip fun n n' hRun => ?_
  split at hRun <;> cases hRun <;> exact ⟨rfl, rfl, rfl, rfl⟩

theorem childSpawnedArm_keepsDues :
    Yields (childSpawnedArm ev) (Leads Node.SameDues) := by
  refine .bind fun _ _ => .bind fun _ _ => .bind fun _ _ =>
    .pure ?_
  exact leads_skip (leads_update
    fun _ => ⟨rfl, rfl, rfl, rfl⟩)

theorem supervisorAttachedArm_keepsDues :
    Yields (supervisorAttachedArm ev)
      (Leads Node.SameDues) := by
  refine .bind fun _ _ => .bind fun _ _ => .pure ?_
  exact leads_skip (leads_update
    fun _ => ⟨rfl, rfl, rfl, rfl⟩)

theorem supervisorCursorAdvancedArm_keepsDues :
    Yields (supervisorCursorAdvancedArm ev)
      (Leads Node.SameDues) := by
  refine .bind fun _ _ => .bind fun _ _ => .bind fun _ _ =>
    .pure ?_
  exact leads_skip (leads_update
    fun _ => ⟨rfl, rfl, rfl, rfl⟩)

theorem nodeDeathObservedStep_keepsDues :
    (nodeDeathObservedStep ev).Leads Node.SameDues :=
  leads_skip (leads_update fun _ => ⟨rfl, rfl, rfl, rfl⟩)

theorem callerPiSessionBoundArm_keepsDues :
    Yields (callerPiSessionBoundArm env d ev)
      (Leads Node.SameDues) := by
  refine .bind fun _ _ => .pure (leads_of_yields fun n => ?_)
  refine .bind fun _ _ => .bind fun _ _ => ?_
  split
  · exact .ite (fun _ => yields_none) (fun _ => .error)
  · refine .bind fun _ _ => .bind fun _ _ => .pure ?_
    rintro _ ⟨⟩
    exact ⟨rfl, rfl, rfl, rfl⟩

theorem callerPiLifecycleArm_keepsDues :
    Yields (callerPiLifecycleArm env d ev)
      (Leads Node.SameDues) := by
  refine .bind fun _ _ => .pure (leads_of_yields fun n => ?_)
  refine .bind fun _ _ => .bind fun _ _ => ?_
  refine .ite (fun _ => yields_none) (fun _ => ?_)
  refine .bind fun _ _ => .bind fun _ _ => .pure ?_
  rintro _ ⟨⟩
  exact ⟨rfl, rfl, rfl, rfl⟩

theorem nodeResidentDormantArm_keepsDues :
    Yields (nodeResidentDormantArm env d ev)
      (Leads Node.SameDues) := by
  refine .bind fun _ _ => .pure ?_
  exact leads_skip (leads_skip (leads_update
    fun _ => ⟨rfl, rfl, rfl, rfl⟩))

theorem nodeResidentAttentionArm_keepsDues :
    Yields (nodeResidentAttentionArm env d ev)
      (Leads Node.SameDues) := by
  refine .bind fun _ _ => .bind fun _ _ => .pure ?_
  exact leads_skip (leads_skip (leads_update
    fun _ => ⟨rfl, rfl, rfl, rfl⟩))

end Kept

------------------------------------------------------------
-- Arms That Move Obligations
------------------------------------------------------------

section Moved

variable {env : RunEnv} {d : Disk} {ev : Event} {id : NodeId}

theorem nodeStatusStep_dues :
    (nodeStatusStep ev).Leads (DuesMove env d ev id) := by
  intro n n' hRun
  have hSpec := nodeStatusStep_spec hRun
  unfold nodeStatusStep at hRun
  simp only [bind_eq_ok] at hRun
  rcases hRun with ⟨s, hStatus, hRest⟩
  split at hRest
  · cases hRest
  split at hRest
  · cases hRest
  cases hRest
  cases hTerminal : s.isTerminal with
  | true =>
      exact .settled hTerminal (by simp)
        (by simp) rfl
  | false =>
      exact .moved hSpec.2.1 hTerminal (by simp) (by simp) rfl

theorem nodeReportStep_dues :
    (nodeReportStep ev).Leads (DuesMove env d ev id) := by
  intro n n' hRun
  rcases nodeReportStep_spec hRun with ⟨s, rfl, hTerminal, _⟩
  exact .settled hTerminal rfl rfl rfl

theorem nodeRetryStep_dues :
    (nodeRetryStep env ev).Leads (DuesMove env d ev id) := by
  intro n n' hRun
  have hSpec := nodeRetryStep_spec hRun
  unfold nodeRetryStep at hRun
  split at hRun
  · cases hRun
  simp only [bind_eq_ok, pure_eq, Except.ok.injEq,
    Option.some.injEq] at hRun
  rcases hRun with ⟨_, _, _, _, _, _, _, _, rfl⟩
  exact .rewired hSpec.1 rfl rfl rfl rfl

theorem nodeResumedArm_dues :
    Yields (nodeResumedArm env d ev)
      (Leads (DuesMove env d ev id)) := by
  refine .bind fun _ _ => .bind fun _ _ => .bind fun _ _ =>
    .bind fun _ _ => .bind fun _ _ => .pure ?_
  intro n n' hRun
  have hSpec := nodeResumedStep_spec hRun
  unfold nodeResumedStep at hRun
  split at hRun
  · cases hRun
  simp only [bind_eq_ok, pure_eq, Except.ok.injEq,
    Option.some.injEq] at hRun
  rcases hRun with ⟨_, _, _, _, rfl⟩
  exact .rewired hSpec.1 rfl rfl rfl rfl

theorem workerExitedArm_dues :
    Yields (workerExitedArm ev)
      (Leads (DuesMove env d ev id)) := by
  refine .bind fun _ _ => .bind fun code _ =>
    .bind fun signal _ => .bind fun _ hOne => .pure ?_
  intro n n' hRun
  unfold workerExitedStep at hRun
  split at hRun
  · cases hRun
  next hHere =>
  cases hRun
  simp only [not_or, Bool.not_eq_true,
    Option.isSome_eq_false_iff, Option.isNone_iff_eq_none]
    at hHere
  exact .exited ⟨code, signal, ev.ts⟩ hHere.2 rfl
    (refuseIf_eq_ok.mp hOne) rfl rfl rfl

theorem nodeAwaitingInputArm_dues :
    Yields (nodeAwaitingInputArm ev)
      (Leads (DuesMove env d ev id)) := by
  refine .bind fun items _ => .pure ?_
  intro n n' hRun
  rcases nodeAwaitingInputStep_spec hRun with
    ⟨⟨hLive, hNoExit⟩, hStatus, hExit, _⟩
  refine .asked hLive hNoExit hStatus ?_ hExit
  unfold nodeAwaitingInputStep at hRun
  split at hRun
  · cases hRun
  split at hRun
  · split at hRun
    · cases hRun
    · cases hRun
      rfl
  · cases hRun
    rfl

theorem nodeInputResolvedArm_dues :
    Yields (nodeInputResolvedArm ev)
      (Leads (DuesMove env d ev id)) := by
  refine .bind fun seq _ => .pure ?_
  intro n n' hRun
  dsimp only at hRun
  split at hRun
  · cases hRun
    exact .answered rfl rfl rfl rfl
  · cases hRun

theorem nodeRoundReportedArm_dues :
    Yields (nodeRoundReportedArm env d ev)
      (Leads (DuesMove env d ev id)) := by
  refine .bind fun _ _ => .bind fun _ _ => .bind fun _ _ =>
    .pure ?_
  exact leads_skip (leads_update
    fun _ => .answered rfl rfl rfl rfl)

/- A landing closes the transaction it names, if pending. -/
theorem nodeRoundLandedArm_dues
    (hKind : ev.kind = .nodeRoundLanded) :
    Yields (nodeRoundLandedArm env d ev)
      (Leads (DuesMove env d ev id)) := by
  refine .bind fun opId hOp => .bind fun _ _ =>
    .bind fun _ _ => .bind fun _ _ => .bind fun _ _ =>
    .pure ?_
  unfold Event.wantStr at hOp
  rw [orError_eq_ok] at hOp
  refine leads_skip ?_
  intro n n' hRun
  dsimp only at hRun
  cases hRun
  by_cases hNamed : n.pendingMerge.any (fun txn =>
      decide (txn.landing = true ∧ txn.opId = opId)) = true
  · cases hWas : n.pendingMerge with
    | none =>
        rw [hWas] at hNamed
        cases hNamed
    | some txn =>
        rw [hWas, Option.any_some, decide_eq_true_eq] at hNamed
        refine .unmerged txn (.inr ⟨hKind, hNamed.1⟩) hWas
          (by rw [hNamed.2]; exact hOp) rfl rfl ?_ rfl
        simp [hNamed]
  · refine .kept ⟨rfl, rfl, ?_, rfl⟩
    exact if_neg hNamed

theorem mergeStartedArm_dues
    (hKind : ev.kind = .mergeStarted) :
    Yields (mergeStartedArm env d ev id)
      (Leads (DuesMove env d ev id)) := by
  refine .bind fun txn hTxn => .bind fun m hManifest =>
    .bind fun _ hAuthority => .pure ?_
  rw [orError_eq_ok] at hTxn
  rw [requireManifest_eq_ok] at hManifest
  intro n n' hRun
  unfold mergeStartedStep at hRun
  simp only [bind_eq_ok] at hRun
  rcases hRun with ⟨_, _, hRest⟩
  split at hRest
  · cases hRest
  next hOpen =>
  split at hRest
  · cases hRest
  cases hRest
  refine .merging m txn hKind hTxn hManifest.1 hAuthority ?_ rfl
    rfl rfl rfl
  intro hTerminal
  by_contra hNot
  exact hOpen ⟨hTerminal, hNot⟩

theorem mergeAbortedArm_dues
    (hKind : ev.kind = .mergeAborted) :
    Yields (mergeAbortedArm ev)
      (Leads (DuesMove env d ev id)) := by
  refine .bind fun opId hOp => .pure ?_
  rw [orError_eq_ok] at hOp
  intro n n' hRun
  dsimp only at hRun
  split at hRun
  next hNamed =>
    cases hRun
    rw [Option.map_eq_some_iff] at hNamed
    rcases hNamed with ⟨txn, hWas, rfl⟩
    exact .unmerged txn (.inl hKind) hWas hOp rfl rfl rfl rfl
  · cases hRun

end Moved

/- Keeping them is one way to move the obligations. -/
theorem leads_dues
    {env : RunEnv} {d : Disk} {ev : Event} {id : NodeId}
    {step : NodeStep}
    (hStep : step.Leads Node.SameDues) :
    step.Leads (DuesMove env d ev id) :=
  fun n n' hRun => .kept (hStep n n' hRun)

theorem nodeArm_dues
    {env : RunEnv} {d : Disk} {ev : Event} {id : NodeId}
    {step : NodeStep}
    (hArm : nodeArm env d ev id = some (.ok step)) :
    step.Leads (DuesMove env d ev id) := by
  unfold nodeArm at hArm
  cases hKind : ev.kind <;>
    simp only [hKind, Option.some.injEq, reduceCtorEq,
      Except.ok.injEq] at hArm
  case nodeStatus => exact hArm ▸ nodeStatusStep_dues
  case nodeReport => exact hArm ▸ nodeReportStep_dues
  case nodeRetry => exact hArm ▸ nodeRetryStep_dues
  case nodeResumed => exact nodeResumedArm_dues _ hArm
  case workerExited => exact workerExitedArm_dues _ hArm
  case nodeAwaitingInput =>
    exact nodeAwaitingInputArm_dues _ hArm
  case nodeInputResolved =>
    exact nodeInputResolvedArm_dues _ hArm
  case nodeRoundReported =>
    exact nodeRoundReportedArm_dues _ hArm
  case nodeRoundLanded =>
    exact nodeRoundLandedArm_dues hKind _ hArm
  case mergeStarted => exact mergeStartedArm_dues hKind _ hArm
  case mergeAborted => exact mergeAbortedArm_dues hKind _ hArm
  case nodeDeathObserved =>
    exact hArm ▸ leads_dues (nodeDeathObservedStep_keepsDues ev)
  case callerPiSessionBound =>
    exact leads_dues
      (callerPiSessionBoundArm_keepsDues env d ev _ hArm)
  case callerPiLifecycle =>
    exact leads_dues
      (callerPiLifecycleArm_keepsDues env d ev _ hArm)
  case workerEvidenceArchived =>
    exact leads_dues
      (workerEvidenceArchivedArm_keepsDues ev id _ hArm)
  case workerEvidenceFailed =>
    exact leads_dues
      (workerEvidenceFailedArm_keepsDues ev _ hArm)
  case workerDisplayRetained =>
    exact leads_dues
      (workerDisplayRetainedArm_keepsDues env ev _ hArm)
  case workerDisplayExpired =>
    exact leads_dues
      (workerDisplayExpiredArm_keepsDues ev _ hArm)
  case workerDisplayUnavailable =>
    exact leads_dues
      (workerDisplayUnavailableArm_keepsDues ev _ hArm)
  case nodeResidentDormant =>
    exact leads_dues
      (nodeResidentDormantArm_keepsDues env d ev _ hArm)
  case nodeResidentAttention =>
    exact leads_dues
      (nodeResidentAttentionArm_keepsDues env d ev _ hArm)
  case childSpawned =>
    exact leads_dues (childSpawnedArm_keepsDues ev _ hArm)
  case supervisorAttached =>
    exact leads_dues
      (supervisorAttachedArm_keepsDues ev _ hArm)
  case supervisorCursorAdvanced =>
    exact leads_dues
      (supervisorCursorAdvancedArm_keepsDues ev _ hArm)

end Taskfleet
