import Taskfleet.Agreement

/-
  Why the reducer refuses an event: on readable projections
  every refusal is about the event itself, so a replay passes
  over it and the catch-up goes on.

  Main declarations:
    * `Skips`
    * `nodeArm_skips`, `nodeStep_skips`
    * `reduceEventToOps_skips`
    * `wp_catchUp_skips`, `Sane.wp_catchUp`
-/

------------------------------------------------------------
-- Passed Over
------------------------------------------------------------

namespace Taskfleet

open Fallible

/- Every error of a computation is one a replay skips. -/
def Skips {α : Type} (x : Except Error α) : Prop :=
  Refuses x (fun e => e.skips = true)

namespace Skips

variable {α β : Type} {x : Except Error α}

theorem bind
    {f : α → Except Error β}
    (hFirst : Skips x)
    (hNext : ∀ a, Skips (f a)) :
    Skips (x >>= f) :=
  Refuses.bind hFirst (fun a _ => hNext a)

theorem ite
    {c : Prop} [Decidable c] {y : Except Error α}
    (hThen : Skips x)
    (hElse : Skips y) :
    Skips (if c then x else y) :=
  Refuses.ite hThen hElse

@[simp] theorem ok (a : α) :
    Skips (.ok a : Except Error α) := refuses_ok a

@[simp] theorem pure (a : α) :
    Skips (Pure.pure a : Except Error α) := refuses_ok a

end Skips

section Errors

variable (ev : Event) (what : String)

@[simp] theorem corruptLog_skips :
    (corruptLog what).skips = true := rfl

@[simp] theorem corrupt_skips :
    (ev.corrupt what).skips = true := rfl

@[simp] theorem corruptAt_skips :
    (ev.corruptAt what).skips = true := rfl

@[simp] theorem corruptId_skips (e : IdValidationError) :
    (ev.corruptId e).skips = true := rfl

@[simp] theorem bad_skips :
    (ev.bad what).skips = true := rfl

@[simp] theorem badLink_skips :
    ev.badLink.skips = true := rfl

end Errors

section Guards

variable {α : Type} {e : Error}

@[simp] theorem skips_error :
    Skips (.error e : Except Error α) ↔ e.skips = true :=
  refuses_error

@[simp] theorem skips_throw :
    Skips (throw e : Except Error α) ↔ e.skips = true :=
  refuses_error

@[simp] theorem skips_orError {x : Option α} :
    Skips (orError e x) ↔ (x = none → e.skips = true) :=
  refuses_orError

@[simp] theorem skips_refuseIf {p : Prop} [Decidable p] :
    Skips (refuseIf p e) ↔ (p → e.skips = true) :=
  refuses_refuseIf

theorem skips_mapError
    {δ : Type} {x : Except δ α} {f : δ → Error}
    (hAll : ∀ reason, (f reason).skips = true) :
    Skips (x.mapError f) :=
  Refuses.mapError hAll

end Guards

------------------------------------------------------------
-- Payload Readers
------------------------------------------------------------

section Readers

variable (env : RunEnv) (ev : Event) (field : String)

theorem optId_skips
    {α : Type} (parse : String → Except IdValidationError α) :
    Skips (ev.optId parse field) := by
  unfold Event.optId
  split
  · simp
  · simp
  · split <;> simp
  · simp

@[simp] theorem wantStr_skips :
    Skips (ev.wantStr field) := by
  simp [Event.wantStr]

@[simp] theorem requireStatus_skips :
    Skips ev.requireStatus := by
  simp [Event.requireStatus]

@[simp] theorem requireEnvelopeNodeId_skips :
    Skips ev.requireEnvelopeNodeId := by
  simp [Event.requireEnvelopeNodeId]

@[simp] theorem evidenceAttempt_skips :
    Skips ev.evidenceAttempt := by
  simp [Event.evidenceAttempt]

@[simp] theorem optionalBool_skips :
    Skips (ev.optionalBool field) := by
  unfold Event.optionalBool
  split <;> simp

@[simp] theorem optionalI32_skips :
    Skips (ev.optionalI32 field) := by
  unfold Event.optionalI32
  split
  · simp
  · simp
  · split
    · simp
    · split <;> simp

@[simp] theorem optionalTs_skips :
    Skips (ev.optionalTs env field) := by
  unfold Event.optionalTs
  split
  · simp
  · simp
  · split <;> simp
  · simp

@[simp] theorem spawnAttempt_skips :
    Skips ev.spawnAttempt := by
  unfold Event.spawnAttempt
  split <;> simp

@[simp] theorem exitAttempt_skips :
    Skips ev.exitAttempt := by
  unfold Event.exitAttempt
  split <;> simp

@[simp] theorem claudeSessionFromData_skips :
    Skips ev.claudeSessionFromData := by
  unfold Event.claudeSessionFromData
  split
  · simp
  · simp
  · dsimp only
    split <;> simp

@[simp] theorem workerEvidenceFromSpawnData_skips :
    Skips ev.workerEvidenceFromSpawnData := by
  unfold Event.workerEvidenceFromSpawnData
  dsimp only
  split
  · split <;> simp
  · split <;> simp
  · exact .bind (by simp) fun _ => .bind (by simp) fun _ =>
      .bind (by simp) fun _ => .bind (by simp) fun _ =>
      .bind (by simp) fun _ => .bind (by simp) fun _ =>
      .pure _

theorem retentionPolicyFromData_skips :
    Skips ev.retentionPolicyFromData := by
  unfold Event.retentionPolicyFromData
  split
  · simp
  · exact .bind (by simp) fun _ => .bind (by simp) fun _ =>
      .pure _

theorem residentPolicyFromData_skips :
    Skips ev.residentPolicyFromData := by
  unfold Event.residentPolicyFromData
  split
  · simp
  · simp
  · exact .bind (by simp) fun _ =>
      .bind (skips_mapError (fun _ => rfl)) fun _ =>
      .bind (by simp) fun _ => .pure _

theorem agentSelection_skips :
    Skips ev.agentSelection := by
  unfold Event.agentSelection
  split
  · simp
  · exact .bind (by simp) fun _ =>
      .bind (skips_mapError (fun _ => rfl)) fun _ => .pure _

theorem agentOwner_skips :
    Skips ev.agentOwner := by
  unfold Event.agentOwner
  split <;> simp

theorem newManifest_skips :
    Skips (ev.newManifest env) := by
  exact .bind (by simp) fun _ => .bind (by simp) fun _ =>
    .bind (by simp) fun _ =>
    .bind (agentSelection_skips ev) fun _ =>
    .bind (agentOwner_skips ev) fun _ =>
    .bind (retentionPolicyFromData_skips ev) fun _ =>
    .bind (optId_skips ev _ _) fun _ => .bind (by simp) fun _ =>
    .bind (optId_skips ev _ _) fun _ =>
    .bind (optId_skips ev _ _) fun _ =>
    .bind (residentPolicyFromData_skips ev) fun _ => .pure _

theorem newNode_skips (id : NodeId) :
    Skips (ev.newNode env id) := by
  exact .bind (by simp) fun _ =>
    .bind (optId_skips ev _ _) fun _ => .bind (by simp) fun _ =>
    .bind (by simp) fun _ => .bind (by simp) fun _ =>
    .bind (by simp) fun _ => .bind (by simp) fun _ => .pure _

theorem discussionItems_skips :
    Skips ev.discussionItems := by
  unfold Event.discussionItems
  apply Skips.bind
  · simp
  · intro items
    apply Skips.bind
    · apply Refuses.forM
      intro entry _
      unfold DiscussionItem.check
      split
      · exact skips_refuseIf.mpr (fun _ => rfl)
      · exact skips_error.mpr rfl
    · simp

end Readers

------------------------------------------------------------
-- Arms
------------------------------------------------------------

section Arms

variable {env : RunEnv} {d : Disk} {ev : Event} {id : NodeId}

theorem readManifestOpt_skips (hReadable : Readable env d) :
    Skips (readManifestOpt env d) := by
  rw [readManifestOpt_of_readable hReadable]
  simp

theorem readNodeOpt_skips
    (hNodes : NodesReadable env d) (id : NodeId) :
    Skips (readNodeOpt env d id) := by
  rw [readNodeOpt_of_readable hNodes]
  simp

theorem requireManifest_skips
    {missing : Error}
    (hReadable : Readable env d)
    (hMissing : missing.skips = true) :
    Skips (requireManifest env d missing) :=
  .bind (readManifestOpt_skips hReadable)
    fun _ => skips_orError.mpr (fun _ => hMissing)

theorem requireCallerRun_skips (hReadable : Readable env d) :
    Skips (requireCallerRun env d ev) :=
  .bind (requireManifest_skips hReadable rfl)
    fun _ => .bind (by simp) fun _ => .pure _

theorem requireResident_skips (hReadable : Readable env d) :
    Skips (requireResident env d ev) :=
  .bind (readManifestOpt_skips hReadable)
    fun _ => skips_orError.mpr (fun _ => rfl)

theorem checkMergeAuthority_skips
    (m : Manifest) (txn : MergeTxn) :
    Skips (checkMergeAuthority m ev id txn) := by
  unfold checkMergeAuthority
  split
  · exact .bind (by simp) fun _ => .bind (by simp) fun _ =>
      skips_refuseIf.mpr (fun _ => rfl)
  · simp

/- An arm that checks its payload refuses a bad one only. -/
theorem nodeArm_skips
    {arm : Except Error NodeStep}
    (hReadable : Readable env d)
    (hArm : nodeArm env d ev id = some arm) :
    Skips arm := by
  have hResident : Skips (requireResident env d ev) :=
    requireResident_skips hReadable
  have hCaller : Skips (requireCallerRun env d ev) :=
    requireCallerRun_skips hReadable
  unfold nodeArm at hArm
  cases hKind : ev.kind <;>
    simp only [hKind, Option.some.injEq, reduceCtorEq]
      at hArm <;>
    subst hArm
  case nodeStatus => simp
  case nodeReport => simp
  case nodeRetry => simp
  case nodeDeathObserved => simp
  case callerPiSessionBound =>
    exact .bind hCaller fun _ => .pure _
  case callerPiLifecycle =>
    exact .bind hCaller fun _ => .pure _
  case workerExited =>
    exact .bind (by simp) fun _ => .bind (by simp) fun _ =>
      .bind (by simp) fun _ => .bind (by simp) fun _ => .pure _
  case workerEvidenceArchived =>
    exact .bind (by simp) fun _ => .bind (by simp) fun _ =>
      .bind (by simp) fun _ => .bind (by simp) fun _ =>
      .bind (by simp) fun _ => .bind (by simp) fun _ =>
      .bind (by simp) fun _ => .bind (by simp) fun _ =>
      .bind (by simp) fun _ => .pure _
  case workerEvidenceFailed =>
    exact .bind (by simp) fun _ => .bind (by simp) fun _ =>
      .bind (by simp) fun _ => .pure _
  case workerDisplayRetained =>
    exact .bind (by simp) fun _ => .pure _
  case workerDisplayExpired =>
    exact .bind (by simp) fun _ => .bind (by simp) fun _ =>
      .pure _
  case workerDisplayUnavailable =>
    exact .bind (by simp) fun _ => .bind (by simp) fun _ =>
      .pure _
  case nodeAwaitingInput =>
    exact .bind (discussionItems_skips ev) fun _ => .pure _
  case nodeInputResolved =>
    exact .bind (by simp) fun _ => .pure _
  case nodeRoundReported =>
    exact .bind (by simp) fun _ => .bind (by simp) fun _ =>
      .bind hResident fun _ => .pure _
  case nodeResumed =>
    exact .bind (by simp) fun _ => .bind (by simp) fun _ =>
      .bind (by simp) fun _ => .bind (by simp) fun _ =>
      .bind hResident fun _ => .pure _
  case nodeRoundLanded =>
    exact .bind (by simp) fun _ => .bind (by simp) fun _ =>
      .bind (by simp) fun _ => .bind (by simp) fun _ =>
      .bind hResident fun _ => .pure _
  case nodeResidentDormant =>
    exact .bind hResident fun _ => .pure _
  case nodeResidentAttention =>
    exact .bind (by simp) fun _ => .bind hResident fun _ =>
      .pure _
  case mergeStarted =>
    exact .bind (by simp) fun _ =>
      .bind (requireManifest_skips hReadable rfl) fun m =>
      .bind (checkMergeAuthority_skips m _) fun _ => .pure _
  case mergeAborted => exact .bind (by simp) fun _ => .pure _
  case childSpawned =>
    exact .bind (by simp) fun _ =>
      .bind (skips_mapError (fun _ => rfl)) fun _ =>
      .bind (skips_mapError (fun _ => rfl)) fun _ => .pure _
  case supervisorAttached =>
    exact .bind (by simp) fun _ => .bind (by simp) fun _ =>
      .pure _
  case supervisorCursorAdvanced =>
    exact .bind (by simp) fun _ =>
      .bind (skips_mapError (fun _ => rfl)) fun _ =>
      .bind (by simp) fun _ => .pure _

theorem reportTerminalStatus_skips (ev : Event) :
    Skips ev.reportTerminalStatus := by
  unfold Event.reportTerminalStatus
  apply Skips.bind (by simp)
  intro _
  apply Skips.bind (by simp)
  intro success
  apply Skips.ite
  · exact .ite (by simp) (.pure _)
  · split <;> simp

theorem callerPiSessionBoundStep_skips
    (ev : Event) (n : Node) :
    Skips (callerPiSessionBoundStep ev n) := by
  unfold callerPiSessionBoundStep
  apply Skips.bind (by simp)
  intro binding
  apply Skips.bind (by simp)
  intro _
  split
  · exact .ite (.pure _) (by simp)
  · exact .bind (by simp) fun _ => .bind (by simp) fun _ =>
      .pure _

theorem evidenceStep_skips
    (ev : Event)
    {attempt : Nat}
    {sessionId missing : String}
    {update : WorkerEvidence → WorkerEvidence}
    (n : Node) :
    Skips (evidenceStep ev attempt sessionId missing update
      n) := by
  unfold evidenceStep
  split
  · simp
  · exact .ite (.ok _) (.ite (.ok _) (.ok _))

/- The step of an arm on a node, whatever the node is. -/
theorem nodeStep_skips
    {step : NodeStep}
    (hArm : nodeArm env d ev id = some (.ok step))
    (n : Node) :
    Skips (step n) := by
  unfold nodeArm at hArm
  cases hKind : ev.kind <;>
    simp only [hKind, Option.some.injEq, reduceCtorEq]
      at hArm
  case nodeStatus =>
    cases hArm
    exact .bind (by simp) fun _ =>
      .ite (.pure _) (.ite (.pure _) (.pure _))
  case nodeReport =>
    cases hArm
    apply Skips.ite
    · exact .ite (.ite (.ok _) (.ok _)) (.ok _)
    · apply Skips.bind
      · exact reportTerminalStatus_skips ev
      · simp
  case nodeRetry =>
    cases hArm
    apply Skips.ite (.ok _)
    exact .bind (by simp) fun _ => .bind (by simp) fun _ =>
      .bind (by simp) fun _ => .bind (by simp) fun _ => .pure _
  case nodeDeathObserved =>
    cases hArm
    exact .ite (.ok _) (.ok _)
  case callerPiSessionBound =>
    simp only [callerPiSessionBoundArm, bind_eq_ok, pure_eq,
      Except.ok.injEq] at hArm
    rcases hArm with ⟨_, _, rfl⟩
    exact callerPiSessionBoundStep_skips ev n
  case callerPiLifecycle =>
    simp only [callerPiLifecycleArm, bind_eq_ok, pure_eq,
      Except.ok.injEq] at hArm
    rcases hArm with ⟨m, _, rfl⟩
    exact .bind (by simp) fun _ => .bind (by simp) fun _ =>
      .ite (.pure _)
        (.bind (by simp) fun _ => .bind (by simp) fun _ =>
          .pure _)
  case workerExited =>
    simp only [workerExitedArm, bind_eq_ok, pure_eq,
      Except.ok.injEq] at hArm
    rcases hArm with ⟨_, _, _, _, _, _, _, _, rfl⟩
    exact .ite (.ok _) (.ok _)
  case workerEvidenceArchived =>
    simp only [workerEvidenceArchivedArm, bind_eq_ok, pure_eq,
      Except.ok.injEq] at hArm
    rcases hArm with
      ⟨_, _, _, _, _, _, _, _, _, _, _, _, _, _, _, _, _, _,
        rfl⟩
    exact evidenceStep_skips ev n
  case workerEvidenceFailed =>
    simp only [workerEvidenceFailedArm, bind_eq_ok, pure_eq,
      Except.ok.injEq] at hArm
    rcases hArm with ⟨_, _, _, _, _, _, rfl⟩
    exact evidenceStep_skips ev n
  case workerDisplayRetained =>
    simp only [workerDisplayRetainedArm, bind_eq_ok, pure_eq,
      Except.ok.injEq] at hArm
    rcases hArm with ⟨_, _, rfl⟩
    exact .ite (.ok _) (.ite (.ok _) (.ok _))
  case workerDisplayExpired =>
    simp only [workerDisplayExpiredArm, bind_eq_ok, pure_eq,
      Except.ok.injEq] at hArm
    rcases hArm with ⟨_, _, _, _, rfl⟩
    dsimp only
    split
    · exact .ok _
    · exact .ite (.ok _) (.ok _)
  case workerDisplayUnavailable =>
    simp only [workerDisplayUnavailableArm, bind_eq_ok,
      pure_eq, Except.ok.injEq] at hArm
    rcases hArm with ⟨_, _, _, _, rfl⟩
    exact .ite (.ok _) (.ite (.ok _) (.ok _))
  case nodeAwaitingInput =>
    simp only [nodeAwaitingInputArm, bind_eq_ok, pure_eq,
      Except.ok.injEq] at hArm
    rcases hArm with ⟨_, _, rfl⟩
    apply Skips.ite (.ok _)
    split
    · exact .ite (skips_error.mpr rfl) (.ok _)
    · exact .ok _
  case nodeInputResolved =>
    simp only [nodeInputResolvedArm, bind_eq_ok, pure_eq,
      Except.ok.injEq] at hArm
    rcases hArm with ⟨_, _, rfl⟩
    exact .ite (.ok _) (.ok _)
  case nodeRoundReported =>
    simp only [nodeRoundReportedArm, bind_eq_ok, pure_eq,
      Except.ok.injEq] at hArm
    rcases hArm with ⟨_, _, _, _, _, _, rfl⟩
    exact .ite (.ok _) (.ok _)
  case nodeResumed =>
    simp only [nodeResumedArm, bind_eq_ok, pure_eq,
      Except.ok.injEq] at hArm
    rcases hArm with ⟨_, _, _, _, _, _, _, _, _, _, rfl⟩
    exact .ite (.ok _)
      (.bind (by simp) fun _ => .bind (by simp) fun _ =>
        .pure _)
  case nodeRoundLanded =>
    simp only [nodeRoundLandedArm, bind_eq_ok, pure_eq,
      Except.ok.injEq] at hArm
    rcases hArm with ⟨_, _, _, _, _, _, _, _, _, _, rfl⟩
    exact .ite (.ok _) (.ok _)
  case nodeResidentDormant =>
    simp only [nodeResidentDormantArm, bind_eq_ok, pure_eq,
      Except.ok.injEq] at hArm
    rcases hArm with ⟨_, _, rfl⟩
    exact .ite (.ok _) (.ite (.ok _) (.ok _))
  case nodeResidentAttention =>
    simp only [nodeResidentAttentionArm, bind_eq_ok, pure_eq,
      Except.ok.injEq] at hArm
    rcases hArm with ⟨_, _, _, _, rfl⟩
    exact .ite (.ok _) (.ite (.ok _) (.ok _))
  case mergeStarted =>
    simp only [mergeStartedArm, bind_eq_ok, pure_eq,
      Except.ok.injEq] at hArm
    rcases hArm with ⟨_, _, _, _, _, _, rfl⟩
    exact .bind (by simp) fun _ =>
      .ite (.pure _) (.ite (.pure _) (.pure _))
  case mergeAborted =>
    simp only [mergeAbortedArm, bind_eq_ok, pure_eq,
      Except.ok.injEq] at hArm
    rcases hArm with ⟨_, _, rfl⟩
    exact .ite (.ok _) (.ok _)
  case childSpawned =>
    simp only [childSpawnedArm, bind_eq_ok, pure_eq,
      Except.ok.injEq] at hArm
    rcases hArm with ⟨_, _, _, _, _, _, rfl⟩
    exact .ite (.ok _) (.ok _)
  case supervisorAttached =>
    simp only [supervisorAttachedArm, bind_eq_ok, pure_eq,
      Except.ok.injEq] at hArm
    rcases hArm with ⟨_, _, _, _, rfl⟩
    exact .ite (.ok _) (.ok _)
  case supervisorCursorAdvanced =>
    simp only [supervisorCursorAdvancedArm, bind_eq_ok,
      pure_eq, Except.ok.injEq] at hArm
    rcases hArm with ⟨_, _, _, _, _, _, rfl⟩
    exact .ite (.ok _) (.ok _)

end Arms

------------------------------------------------------------
-- The Reducer
------------------------------------------------------------

section Reducer

variable {env : RunEnv} {d : Disk} {ev : Event}

theorem missingNode_skips :
    Skips (missingNode ev) := by
  unfold missingNode
  split <;> simp

theorem onNode_skips
    {id : NodeId} {missing : Plan} {step : NodeStep}
    (hNodes : NodesReadable env d)
    (hMissing : Skips missing)
    (hStep : ∀ n, Skips (step n)) :
    Skips (onNode env d id missing step) := by
  apply Skips.bind (readNodeOpt_skips hNodes id)
  intro found
  cases found with
  | none => exact hMissing
  | some n => exact .bind (hStep n) fun _ => .pure _

theorem reduceArm_skips
    {id : NodeId} {arm : Except Error NodeStep}
    (hReadable : Readable env d)
    (hNodes : NodesReadable env d)
    (hNode : ev.nodeId = some id)
    (hArm : nodeArm env d ev id = some arm) :
    Skips (reduceKind env d ev) := by
  rw [reduceKind_eq_arm hArm hNode]
  apply Refuses.bind (nodeArm_skips hReadable hArm)
  intro step hOk
  rw [hOk] at hArm
  exact onNode_skips hNodes missingNode_skips
    (nodeStep_skips hArm)

theorem reduceRunCreated_skips (hReadable : Readable env d) :
    Skips (reduceRunCreated env d ev) := by
  apply Skips.bind (readManifestOpt_skips hReadable)
  intro found
  cases found with
  | some m =>
      exact .bind (skips_refuseIf.mpr (fun _ => rfl))
        fun _ => .pure _
  | none =>
      exact .bind (newManifest_skips env ev) fun _ => .pure _

theorem reduceRunStatus_skips (hReadable : Readable env d) :
    Skips (reduceRunStatus env d ev) := by
  apply Skips.bind (readManifestOpt_skips hReadable)
  intro found
  cases found with
  | none => exact .pure _
  | some m =>
      exact .bind (by simp) fun _ =>
        .ite (.pure _) (.ite (.pure _) (.pure _))

theorem reduceNodeCreated_skips
    (hReadable : Readable env d)
    (hNodes : NodesReadable env d) :
    Skips (reduceNodeCreated env d ev) := by
  apply Skips.bind (requireEnvelopeNodeId_skips ev)
  intro id
  apply Skips.bind (readNodeOpt_skips hNodes id)
  intro found
  cases found with
  | some n => exact .pure _
  | none =>
      apply Skips.bind (newNode_skips env ev id)
      intro n
      apply Skips.bind (readManifestOpt_skips hReadable)
      intro m
      cases m <;> exact .pure _

theorem reduceCallerSettlementIntent_skips
    (hReadable : Readable env d)
    (hNodes : NodesReadable env d) :
    Skips (reduceCallerSettlementIntent env d ev) := by
  apply Skips.bind (requireEnvelopeNodeId_skips ev)
  intro id
  apply Skips.bind (requireManifest_skips hReadable rfl)
  intro m
  apply Skips.bind (readNodeOpt_skips hNodes id)
  intro found
  apply Skips.bind (by simp)
  intro n
  apply Skips.bind (by simp)
  intro intent
  apply Skips.bind (by simp)
  intro _
  dsimp only
  split
  · exact .bind (by simp) fun _ => .pure _
  · exact .bind (by simp) fun _ => .pure _

/- A node event without an envelope node is refused. -/
theorem reduceNodeless_skips
    {id : NodeId} {arm : Except Error NodeStep}
    (hArm : nodeArm env d ev id = some arm)
    (hNode : ev.nodeId = none) :
    Skips (reduceKind env d ev) := by
  cases hKind : ev.kind <;>
    simp only [nodeArm, hKind, reduceCtorEq] at hArm <;>
    simp [reduceKind, hKind, reduceNode,
      reduceNodeStatus, reduceNodeReport, reduceNodeRetry,
      reduceCallerPiSessionBound, reduceCallerPiLifecycle,
      reduceWorkerExited, reduceWorkerEvidenceArchived,
      reduceWorkerEvidenceFailed, reduceWorkerDisplayRetained,
      reduceWorkerDisplayExpired,
      reduceWorkerDisplayUnavailable, reduceNodeDeathObserved,
      reduceNodeAwaitingInput, reduceNodeInputResolved,
      reduceNodeRoundReported, reduceNodeResumed,
      reduceNodeRoundLanded, reduceNodeResidentDormant,
      reduceNodeResidentAttention, reduceMergeStarted,
      reduceMergeAborted, reduceChildSpawned,
      reduceSupervisorAttached,
      reduceSupervisorCursorAdvanced,
      Event.requireEnvelopeNodeId, hNode]

/-
  On readable projections the reducer refuses an event for
  its own sake only: nothing else ends a catch-up.
-/
theorem reduceEventToOps_skips
    (hReadable : Readable env d)
    (hNodes : NodesReadable env d)
    (ev : Event) :
    Skips (reduceEventToOps env d ev) := by
  apply Skips.bind
  · exact skips_refuseIf.mpr (fun _ => rfl)
  intro _
  cases hArm : nodeArm env d ev (ev.nodeId.getD .first) with
  | some arm =>
      cases hNode : ev.nodeId with
      | none => exact reduceNodeless_skips hArm hNode
      | some id =>
          rw [hNode, Option.getD_some] at hArm
          exact reduceArm_skips hReadable hNodes hNode hArm
  | none =>
      -- what is left are the arms of the run itself
      cases hKind : ev.kind <;>
        simp only [nodeArm, hKind, reduceCtorEq] at hArm <;>
        simp only [reduceKind, hKind]
      case runCreated =>
        exact reduceRunCreated_skips hReadable
      case runStatus => exact reduceRunStatus_skips hReadable
      case nodeCreated =>
        exact reduceNodeCreated_skips hReadable hNodes
      case callerSettlementIntent =>
        exact reduceCallerSettlementIntent_skips hReadable
          hNodes
      case other => simp

end Reducer

------------------------------------------------------------
-- Catch-Up
------------------------------------------------------------

section CatchUp

variable {env : RunEnv} {d : Disk}

/-
  Catch-up returns: the tail is readable, and a refused event
  is refused for its own sake. What the folds keep holds all
  along.
-/
theorem wp_catchUp_skips
    {I : Disk → Prop}
    (hReadable : ∀ s, I s → Readable env s)
    (hNodes : ∀ s, I s → NodesReadable env s)
    (hLines : d.lines = d.events.map .event)
    (hFold : ∀ s ev ops, I s →
      reduceEventToOps env s ev = .ok ops →
      (∀ j, I (applyOps (ops.take (j + 1)) s)) ∧
        I ((applyOps ops s).advance ev.seq))
    (hStart : I { d with torn := false }) :
    Durable.wp (replayUnappliedUnlocked env)
      (fun _ s => I s ∧ s.lines = d.lines)
      (fun _ _ => False)
      (fun _ s => I s ∧ s.lines = d.lines) d := by
  have hLast : recoverLastSeq d.lines = .ok d.lastSeq := by
    rw [hLines]
    exact recoverLastSeq_events d.events
  rw [wp_replayUnappliedUnlocked]
  apply And.intro
  · intro _
    exact ⟨hStart, rfl⟩
  apply wp_replayUnapplied
  · intro hUnreadable
    exact absurd (hReadable _ hStart) hUnreadable
  · intro _
    exact ⟨hStart, rfl⟩
  · intro m e _ _ hTail
    cases hLast.symm.trans hTail
  · intro m last _ _ _ _
    exact ⟨hStart, rfl⟩
  · intro m last _ _ _ _
    refine Durable.wp_mono
      (wp_replayLines (E := fun _ _ => False)
        (C := fun _ s => I s ∧ s.lines = d.lines)
        (L := fun _ s => I s ∧ s.lines = d.lines)
        (fun _ _ hLoop => hReadable _ hLoop.1) ?_ ?_ ?_
        ⟨hStart, rfl⟩)
      (fun _ _ h => h) (fun _ _ h => h) (fun _ _ h => h)
    · intro line rest s hLoop _
      exact hLoop
    · intro ev rest s e hLoop _ hRefused
      have hSkips :=
        reduceEventToOps_skips (hReadable s hLoop.1)
          (hNodes s hLoop.1) ev e hRefused
      apply And.intro
      · intro _
        exact hLoop
      · intro hStops
        rw [hSkips] at hStops
        cases hStops
    · intro ev rest s ops hLoop _ hPlan
      rcases hFold s ev ops hLoop.1 hPlan with ⟨hCuts, hDone⟩
      have hLines' :
          ((applyOps ops s).advance ev.seq).lines =
            d.lines := by
        simp [hLoop.2]
      refine ⟨?_, fun _ => ⟨hDone, hLines'⟩, hDone, hLines'⟩
      intro j _
      exact ⟨hCuts j, by simp [hLoop.2]⟩

/- On a sane run, catch-up does not fail. -/
theorem Sane.wp_catchUp (hSane : Sane env d) :
    Durable.wp (replayUnappliedUnlocked env)
      (fun _ _ => True) (fun _ _ => False) (fun _ _ => True)
      d := by
  refine Durable.wp_mono
    (wp_catchUp_skips
      (I := fun s => Readable env s ∧ NodesReadable env s)
      (fun _ h => h.1) (fun _ h => h.2) hSane.lines ?_
      ⟨hSane.readable, hSane.nodes⟩)
    (fun _ _ _ => trivial) (fun _ _ h => h)
    (fun _ _ _ => trivial)
  intro s ev ops hHere hPlan
  have hOps := writable_of_planned (planned_of_reduce hPlan).2
  constructor
  · intro j
    have hTaken : ∀ op ∈ ops.take (j + 1), op.Writable env :=
      fun op hMem => hOps op (List.mem_of_mem_take hMem)
    exact ⟨readable_applyOps hHere.1 hTaken,
      nodesReadable_applyOps hHere.2 hTaken⟩
  · apply And.intro
    · exact readable_advance (readable_applyOps hHere.1 hOps)
    · intro id n hLookup
      rw [Disk.advance_nodes] at hLookup
      exact nodesReadable_applyOps hHere.2 hOps id n hLookup

end CatchUp

end Taskfleet
