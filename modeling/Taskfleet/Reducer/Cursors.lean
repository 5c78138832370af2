import Taskfleet.Reducer.Dues

/-
  What an accepted event does to the report cursors that a
  node keeps for its children.

  Main declarations:
    * `Node.reportCursor`, `Node.CursorsGrow`
    * `nodeArm_cursors`
-/

------------------------------------------------------------
-- Report Cursors of a Node
------------------------------------------------------------

namespace Taskfleet

open Fallible NodeStep

namespace Node

/- The last report of a child that a node has recorded. -/
def reportCursor (n : Node) (child : String) : Option Nat :=
  (n.lastProcessedReportSeqByChild.lookup child).bind
    Json.asU64

def SameCursors (n n' : Node) : Prop :=
  n'.lastProcessedReportSeqByChild =
    n.lastProcessedReportSeqByChild

/- No cursor of a child is lost or moves backward. -/
def CursorsGrow (n n' : Node) : Prop :=
  ∀ child seq, n.reportCursor child = some seq →
    ∃ seq', n'.reportCursor child = some seq' ∧ seq ≤ seq'

theorem SameCursors.grow
    {n n' : Node}
    (hSame : n.SameCursors n') :
    n.CursorsGrow n' := by
  intro child seq hCursor
  refine ⟨seq, ?_, le_refl _⟩
  unfold SameCursors at hSame
  rwa [reportCursor, hSame]

end Node

------------------------------------------------------------
-- Arms
------------------------------------------------------------

section Arms

variable (env : RunEnv) (d : Disk) (ev : Event) (id : NodeId)

theorem supervisorCursorAdvancedArm_cursors :
    Yields (supervisorCursorAdvancedArm ev)
      (Leads Node.CursorsGrow) := by
  refine .bind fun child _ => .bind fun _ _ =>
    .bind fun reportSeq hSeq => .pure ?_
  rw [orError_eq_ok, Option.bind_eq_some_iff] at hSeq
  rcases hSeq with ⟨v, -, hRead⟩
  intro n n' hRun
  dsimp only at hRun
  split at hRun
  · cases hRun
  next hNew =>
    cases hRun
    intro other seq hCursor
    by_cases hSame : other = child
    · subst hSame
      refine ⟨reportSeq, ?_, ?_⟩
      · unfold Node.reportCursor
        rw [Json.lookup_insertField_self, Option.bind_some]
        exact asU64_int hRead
      · unfold Node.reportCursor at hCursor
        rw [hCursor, Option.any_some] at hNew
        have hAbove : ¬ reportSeq ≤ seq := by
          simpa using hNew
        omega
    · refine ⟨seq, ?_, le_refl _⟩
      unfold Node.reportCursor
      rw [Json.lookup_insertField_ne _ _ hSame]
      exact hCursor

theorem asU64_eq
    {n m : Nat}
    (hRead : (Json.int n).asU64 = some m) : n = m := by
  unfold Json.asU64 at hRead
  dsimp only at hRead
  split at hRead
  · rw [Int.toNat_natCast, Option.some.injEq] at hRead
    exact hRead
  · cases hRead

/- A report at or below the cursor changes nothing. -/
theorem supervisorCursorAdvancedArm_again
    {ev : Event} {step : NodeStep} {child : String}
    {seq seq' : Nat} {n : Node}
    (hArm : supervisorCursorAdvancedArm ev = .ok step)
    (hChild : ev.data.get "child_run_id" = some (.str child))
    (hSeq : ev.data.get "report_seq" = some (.int seq))
    (hCursor : n.reportCursor child = some seq')
    (hLe : seq ≤ seq') :
    step n = .ok none := by
  unfold supervisorCursorAdvancedArm at hArm
  simp only [bind_eq_ok, pure_eq, Except.ok.injEq] at hArm
  rcases hArm with ⟨child', hWant, -, -, seq'', hRead, rfl⟩
  rw [Event.wantStr, orError_eq_ok, Json.getStr, hChild,
    Option.bind_some] at hWant
  cases hWant
  rw [orError_eq_ok, hSeq, Option.bind_some] at hRead
  have hSame := asU64_eq hRead
  subst hSame
  dsimp only
  rw [if_pos]
  unfold Node.reportCursor at hCursor
  rw [hCursor, Option.any_some]
  exact decide_eq_true hLe

theorem evidenceStep_keepsCursors
    (attempt : Nat)
    (sessionId missing : String)
    (update : WorkerEvidence → WorkerEvidence) :
    (evidenceStep ev attempt sessionId missing update).Leads
      Node.SameCursors := by
  intro n n' hRun
  unfold evidenceStep at hRun
  split at hRun
  · cases hRun
  split at hRun
  · cases hRun
  split at hRun
  · cases hRun
  · cases hRun
    rfl

theorem workerEvidenceArchivedArm_keepsCursors :
    Yields (workerEvidenceArchivedArm ev id)
      (Leads Node.SameCursors) := by
  refine .bind fun _ _ => .bind fun _ _ => .bind fun _ _ =>
    .bind fun _ _ => .bind fun _ _ => .bind fun _ _ =>
    .bind fun _ _ => .bind fun _ _ => .bind fun _ _ =>
    .pure ?_
  exact evidenceStep_keepsCursors ev _ _ _ _

theorem workerEvidenceFailedArm_keepsCursors :
    Yields (workerEvidenceFailedArm ev)
      (Leads Node.SameCursors) := by
  refine .bind fun _ _ => .bind fun _ _ => .bind fun _ _ =>
    .pure ?_
  exact evidenceStep_keepsCursors ev _ _ _ _

theorem workerDisplayRetainedArm_keepsCursors :
    Yields (workerDisplayRetainedArm env ev)
      (Leads Node.SameCursors) := by
  refine .bind fun _ _ => .pure ?_
  exact leads_skip (leads_skip (leads_update fun _ => rfl))

theorem workerDisplayExpiredArm_keepsCursors :
    Yields (workerDisplayExpiredArm ev)
      (Leads Node.SameCursors) := by
  refine .bind fun _ _ => .bind fun _ _ => .pure ?_
  intro n n' hRun
  dsimp only at hRun
  split at hRun
  · cases hRun
  split at hRun
  · cases hRun
  · cases hRun
    rfl

theorem workerDisplayUnavailableArm_keepsCursors :
    Yields (workerDisplayUnavailableArm ev)
      (Leads Node.SameCursors) := by
  refine .bind fun _ _ => .bind fun _ _ => .pure ?_
  refine leads_skip fun n n' hRun => ?_
  split at hRun <;> cases hRun <;> rfl

theorem childSpawnedArm_keepsCursors :
    Yields (childSpawnedArm ev)
      (Leads Node.SameCursors) := by
  refine .bind fun _ _ => .bind fun _ _ => .bind fun _ _ =>
    .pure ?_
  exact leads_skip (leads_update fun _ => rfl)

theorem supervisorAttachedArm_keepsCursors :
    Yields (supervisorAttachedArm ev)
      (Leads Node.SameCursors) := by
  refine .bind fun _ _ => .bind fun _ _ => .pure ?_
  exact leads_skip (leads_update fun _ => rfl)

theorem nodeDeathObservedStep_keepsCursors :
    (nodeDeathObservedStep ev).Leads Node.SameCursors :=
  leads_skip (leads_update fun _ => rfl)

theorem callerPiSessionBoundArm_keepsCursors :
    Yields (callerPiSessionBoundArm env d ev)
      (Leads Node.SameCursors) := by
  refine .bind fun _ _ => .pure (leads_of_yields fun n => ?_)
  refine .bind fun _ _ => .bind fun _ _ => ?_
  split
  · exact .ite (fun _ => yields_none) (fun _ => .error)
  · refine .bind fun _ _ => .bind fun _ _ => .pure ?_
    rintro _ ⟨⟩
    rfl

theorem callerPiLifecycleArm_keepsCursors :
    Yields (callerPiLifecycleArm env d ev)
      (Leads Node.SameCursors) := by
  refine .bind fun _ _ => .pure (leads_of_yields fun n => ?_)
  refine .bind fun _ _ => .bind fun _ _ => ?_
  refine .ite (fun _ => yields_none) (fun _ => ?_)
  refine .bind fun _ _ => .bind fun _ _ => .pure ?_
  rintro _ ⟨⟩
  rfl

theorem nodeResidentDormantArm_keepsCursors :
    Yields (nodeResidentDormantArm env d ev)
      (Leads Node.SameCursors) := by
  refine .bind fun _ _ => .pure ?_
  exact leads_skip (leads_skip (leads_update fun _ => rfl))

theorem nodeResidentAttentionArm_keepsCursors :
    Yields (nodeResidentAttentionArm env d ev)
      (Leads Node.SameCursors) := by
  refine .bind fun _ _ => .bind fun _ _ => .pure ?_
  exact leads_skip (leads_skip (leads_update fun _ => rfl))

theorem nodeStatusStep_keepsCursors :
    (nodeStatusStep ev).Leads Node.SameCursors := by
  intro n n' hRun
  unfold nodeStatusStep at hRun
  simp only [bind_eq_ok] at hRun
  rcases hRun with ⟨s, -, hRest⟩
  split at hRest
  · cases hRest
  split at hRest
  · cases hRest
  · cases hRest
    rfl

theorem nodeReportStep_keepsCursors :
    (nodeReportStep ev).Leads Node.SameCursors := by
  intro n n' hRun
  rcases nodeReportStep_spec hRun with ⟨s, rfl, -⟩
  rfl

theorem nodeRetryStep_keepsCursors :
    (nodeRetryStep env ev).Leads Node.SameCursors := by
  intro n n' hRun
  unfold nodeRetryStep at hRun
  split at hRun
  · cases hRun
  simp only [bind_eq_ok, pure_eq, Except.ok.injEq,
    Option.some.injEq] at hRun
  rcases hRun with ⟨_, _, _, _, _, _, _, _, rfl⟩
  rfl

theorem nodeResumedArm_keepsCursors :
    Yields (nodeResumedArm env d ev)
      (Leads Node.SameCursors) := by
  refine .bind fun _ _ => .bind fun _ _ => .bind fun _ _ =>
    .bind fun _ _ => .bind fun _ _ => .pure ?_
  intro n n' hRun
  unfold nodeResumedStep at hRun
  split at hRun
  · cases hRun
  simp only [bind_eq_ok, pure_eq, Except.ok.injEq,
    Option.some.injEq] at hRun
  rcases hRun with ⟨_, _, _, _, rfl⟩
  rfl

theorem workerExitedArm_keepsCursors :
    Yields (workerExitedArm ev)
      (Leads Node.SameCursors) := by
  refine .bind fun _ _ => .bind fun _ _ => .bind fun _ _ =>
    .bind fun _ _ => .pure ?_
  intro n n' hRun
  unfold workerExitedStep at hRun
  split at hRun
  · cases hRun
  · cases hRun
    rfl

theorem nodeAwaitingInputArm_keepsCursors :
    Yields (nodeAwaitingInputArm ev)
      (Leads Node.SameCursors) := by
  refine .bind fun _ _ => .pure ?_
  intro n n' hRun
  unfold nodeAwaitingInputStep at hRun
  split at hRun
  · cases hRun
  split at hRun
  · split at hRun
    · cases hRun
    · cases hRun
      rfl
  · cases hRun
    rfl

theorem nodeInputResolvedArm_keepsCursors :
    Yields (nodeInputResolvedArm ev)
      (Leads Node.SameCursors) := by
  refine .bind fun _ _ => .pure ?_
  intro n n' hRun
  dsimp only at hRun
  split at hRun
  · cases hRun
    rfl
  · cases hRun

theorem nodeRoundReportedArm_keepsCursors :
    Yields (nodeRoundReportedArm env d ev)
      (Leads Node.SameCursors) := by
  refine .bind fun _ _ => .bind fun _ _ => .bind fun _ _ =>
    .pure ?_
  exact leads_skip (leads_update fun _ => rfl)

theorem nodeRoundLandedArm_keepsCursors :
    Yields (nodeRoundLandedArm env d ev)
      (Leads Node.SameCursors) := by
  refine .bind fun _ _ => .bind fun _ _ => .bind fun _ _ =>
    .bind fun _ _ => .bind fun _ _ => .pure ?_
  exact leads_skip (leads_update fun _ => rfl)

theorem mergeStartedArm_keepsCursors :
    Yields (mergeStartedArm env d ev id)
      (Leads Node.SameCursors) := by
  refine .bind fun _ _ => .bind fun _ _ => .bind fun _ _ =>
    .pure ?_
  intro n n' hRun
  unfold mergeStartedStep at hRun
  simp only [bind_eq_ok] at hRun
  rcases hRun with ⟨_, -, hRest⟩
  split at hRest
  · cases hRest
  split at hRest
  · cases hRest
  · cases hRest
    rfl

theorem mergeAbortedArm_keepsCursors :
    Yields (mergeAbortedArm ev)
      (Leads Node.SameCursors) := by
  refine .bind fun _ _ => .pure ?_
  intro n n' hRun
  dsimp only at hRun
  split at hRun
  · cases hRun
    rfl
  · cases hRun

end Arms

theorem leads_cursors
    {step : NodeStep}
    (hStep : step.Leads Node.SameCursors) :
    step.Leads Node.CursorsGrow :=
  fun n n' hRun => (hStep n n' hRun).grow

theorem nodeArm_cursors
    {env : RunEnv} {d : Disk} {ev : Event} {id : NodeId}
    {step : NodeStep}
    (hArm : nodeArm env d ev id = some (.ok step)) :
    step.Leads Node.CursorsGrow := by
  unfold nodeArm at hArm
  cases hKind : ev.kind <;>
    simp only [hKind, Option.some.injEq, reduceCtorEq,
      Except.ok.injEq] at hArm
  case supervisorCursorAdvanced =>
    exact supervisorCursorAdvancedArm_cursors ev _ hArm
  case nodeStatus =>
    exact hArm ▸ leads_cursors (nodeStatusStep_keepsCursors ev)
  case nodeReport =>
    exact hArm ▸ leads_cursors (nodeReportStep_keepsCursors ev)
  case nodeRetry =>
    exact hArm ▸
      leads_cursors (nodeRetryStep_keepsCursors env ev)
  case nodeDeathObserved =>
    exact hArm ▸
      leads_cursors (nodeDeathObservedStep_keepsCursors ev)
  case nodeResumed =>
    exact leads_cursors
      (nodeResumedArm_keepsCursors env d ev _ hArm)
  case workerExited =>
    exact leads_cursors
      (workerExitedArm_keepsCursors ev _ hArm)
  case nodeAwaitingInput =>
    exact leads_cursors
      (nodeAwaitingInputArm_keepsCursors ev _ hArm)
  case nodeInputResolved =>
    exact leads_cursors
      (nodeInputResolvedArm_keepsCursors ev _ hArm)
  case nodeRoundReported =>
    exact leads_cursors
      (nodeRoundReportedArm_keepsCursors env d ev _ hArm)
  case nodeRoundLanded =>
    exact leads_cursors
      (nodeRoundLandedArm_keepsCursors env d ev _ hArm)
  case mergeStarted =>
    exact leads_cursors
      (mergeStartedArm_keepsCursors env d ev id _ hArm)
  case mergeAborted =>
    exact leads_cursors
      (mergeAbortedArm_keepsCursors ev _ hArm)
  case callerPiSessionBound =>
    exact leads_cursors
      (callerPiSessionBoundArm_keepsCursors env d ev _ hArm)
  case callerPiLifecycle =>
    exact leads_cursors
      (callerPiLifecycleArm_keepsCursors env d ev _ hArm)
  case workerEvidenceArchived =>
    exact leads_cursors
      (workerEvidenceArchivedArm_keepsCursors ev id _ hArm)
  case workerEvidenceFailed =>
    exact leads_cursors
      (workerEvidenceFailedArm_keepsCursors ev _ hArm)
  case workerDisplayRetained =>
    exact leads_cursors
      (workerDisplayRetainedArm_keepsCursors env ev _ hArm)
  case workerDisplayExpired =>
    exact leads_cursors
      (workerDisplayExpiredArm_keepsCursors ev _ hArm)
  case workerDisplayUnavailable =>
    exact leads_cursors
      (workerDisplayUnavailableArm_keepsCursors ev _ hArm)
  case nodeResidentDormant =>
    exact leads_cursors
      (nodeResidentDormantArm_keepsCursors env d ev _ hArm)
  case nodeResidentAttention =>
    exact leads_cursors
      (nodeResidentAttentionArm_keepsCursors env d ev _ hArm)
  case childSpawned =>
    exact leads_cursors (childSpawnedArm_keepsCursors ev _ hArm)
  case supervisorAttached =>
    exact leads_cursors
      (supervisorAttachedArm_keepsCursors ev _ hArm)

end Taskfleet
