import Taskfleet.Reducer.Dues
import Taskfleet.Reducer.Freeze

/-
  Every way an accepted event rewrites a node projection,
  with the guards that let it and the record it leaves.

  The fields of a node are followed over runs from here: a
  result about some fields reads off the few rewrites that
  touch them.

  Main declarations:
    * `Node.retried`, `Node.resumed`, `Node.landed`
    * `NodeRewrite`, `nodeArm_rewrites`
    * `NodeChange`, `nodeChange_of_accepts`
    * `step_of_accepts`
    * `NodeInvariant`
    * `AcceptedRun.holds`, `AcceptedRun.relates`
    * `foldAll`, `acceptedRun_foldAll`
-/

------------------------------------------------------------
-- Rewritten Records
------------------------------------------------------------

namespace Taskfleet

open Fallible NodeStep

/- What the payload of a spawn says about its process. -/
structure SpawnFacts where
  evidence : Option WorkerEvidence
  claudeSessionId : Option String
  agentPid : Option Int
  agentPidStartTime : Option Time

namespace SpawnFacts

/- The facts as the payload of an event has them. -/
structure ReadFrom
    (facts : SpawnFacts) (env : RunEnv) (ev : Event) :
    Prop where
  evidence :
    ev.workerEvidenceFromSpawnData = .ok facts.evidence
  claudeSessionId :
    ev.claudeSessionFromData = .ok facts.claudeSessionId
  agentPid : ev.optionalI32 "agent_pid" = .ok facts.agentPid
  agentPidStartTime :
    ev.optionalTs env "agent_pid_start_time" =
      .ok facts.agentPidStartTime

end SpawnFacts

namespace Node

/- A node rewired to the worker of a retry. -/
def retried (n : Node) (ev : Event) (facts : SpawnFacts) :
    Node :=
  { n with
    branch := ev.data.getStr "branch"
    baseSha := ev.nonemptyStr "base_sha"
    worktreePath := ev.data.getStr "worktree_path"
    tmuxWindow := ev.data.getStr "tmux_window"
    tmuxIdentity := ev.tmuxIdentityFromData
    evidence := facts.evidence
    claudeSessionId := facts.claudeSessionId
    retainedDisplay := none
    retentionUnavailable := none
    agentPid := facts.agentPid
    agentPidStartTime := facts.agentPidStartTime
    agentPidStartIdentity := ev.startIdentityFromData
    status := .pending
    startedAt := some ev.ts
    updatedAt := ev.ts
    lastReport := none
    pendingMerge := none
    workerExit := none
    firstDeathAt := none
    awaitingInput := none
    retryAttempts := ev.retryAttempts n.retryAttempts }

/- A node rewired to a resumed worker. -/
def resumed
    (n : Node)
    (ev : Event)
    (attempt : Nat)
    (messageId : String)
    (facts : SpawnFacts) : Node :=
  { n with
    baseSha := (ev.nonemptyStr "base_sha").or n.baseSha
    tmuxWindow :=
      (ev.data.getStr "tmux_window").or n.tmuxWindow
    tmuxIdentity := ev.tmuxIdentityFromData.or n.tmuxIdentity
    evidence := facts.evidence
    claudeSessionId := facts.claudeSessionId
    agentPid := facts.agentPid
    agentPidStartTime := facts.agentPidStartTime
    agentPidStartIdentity := ev.startIdentityFromData
    status := .pending
    startedAt := some ev.ts
    updatedAt := ev.ts
    workerExit := none
    firstDeathAt := none
    awaitingInput := none
    pendingMerge := none
    retainedDisplay := none
    retentionUnavailable := none
    retryAttempts := attempt
    resident := some (n.residentState.resume ev messageId) }

/- A node whose open work was landed in a source branch. -/
def landed
    (n : Node)
    (ev : Event)
    (opId sourceBranch integratedOid : String) : Node :=
  { n with
    pendingMerge :=
      if n.pendingMerge.any (fun txn =>
          txn.landing ∧ txn.opId = opId) then none
      else n.pendingMerge
    baseSha := some integratedOid
    resident := some { n.residentState with
      lastLanding := some {
        landedAt := ev.ts
        sourceBranch := sourceBranch
        integratedOid := integratedOid
        round :=
          (n.residentState.lastRound.map
            RoundReport.round).getD 0 }
      expiryAttentionAt := none }
    updatedAt := ev.ts }

end Node

------------------------------------------------------------
-- Rewrites
------------------------------------------------------------

/- Every way an arm rewrites an existing node. -/
inductive NodeRewrite
    (env : RunEnv)
    (d : Disk)
    (ev : Event)
    (id : NodeId)
    (n : Node) : Node → Prop where
| status (s : Status)
    (hKind : ev.kind = .nodeStatus)
    (hStatus : ev.requireStatus = .ok s)
    (hLive : n.status.isTerminal = false) :
    NodeRewrite env d ev id n { n with
      status := s
      pendingMerge :=
        if s.isTerminal then none else n.pendingMerge
      awaitingInput :=
        if s.isTerminal then none else n.awaitingInput
      updatedAt := ev.ts }
| reported (s : Status)
    (hKind : ev.kind = .nodeReport)
    (hTerminal : s.isTerminal = true)
    (hOpen : n.status.isTerminal = true →
      permitsTerminalMergeRecovery n.status ev.data = true) :
    NodeRewrite env d ev id n (n.settleReport ev s)
| retried (facts : SpawnFacts)
    (hKind : ev.kind = .nodeRetry)
    (hLive : n.status.isTerminal = false)
    (hFacts : facts.ReadFrom env ev) :
    NodeRewrite env d ev id n (n.retried ev facts)
| sessionBound (binding : CallerPiSession)
    (hKind : ev.kind = .callerPiSessionBound)
    (hData : ev.data.asCallerPiSession = some binding)
    (hFirst : n.callerPiSession = none)
    (hAdmits : ∀ reserved,
      n.callerPiLifecycle = some reserved →
        reserved.admits binding = true) :
    NodeRewrite env d ev id n { n with
      callerPiLifecycle :=
        n.callerPiLifecycle.map (fun current =>
          { current with
            sessionPath := some binding.sessionPath })
      callerPiSession := some binding
      updatedAt := ev.ts }
| piLifecycle (fact : CallerPiLifecycle)
    (hKind : ev.kind = .callerPiLifecycle)
    (hData : ev.data.asCallerPiLifecycle = some fact)
    (hFormed : fact.wellFormed n.callerPiSession
      n.callerPiLifecycle = true)
    (hFollows : fact.follows n.callerPiSession.isSome
      n.callerPiLifecycle = true) :
    NodeRewrite env d ev id n { n with
      callerPiLifecycle := some fact
      updatedAt := ev.ts }
| exited (code signal : Option Int)
    (hKind : ev.kind = .workerExited)
    (hAttempt : ev.exitAttempt = .ok n.retryAttempts)
    (hFirst : n.workerExit = none)
    (hOne : code.isSome ≠ signal.isSome) :
    NodeRewrite env d ev id n { n with
      workerExit := some ⟨code, signal, ev.ts⟩
      awaitingInput := none
      updatedAt := ev.ts }
| evidenced (e e' : WorkerEvidence)
    (hKind : ev.kind = .workerEvidenceArchived ∨
      ev.kind = .workerEvidenceFailed)
    (hWas : n.evidence = some e)
    (hAttempt : ev.evidenceAttempt = .ok e.attempt)
    (hSession :
      ev.data.getStr "session_id" = some e.sessionId)
    (hOpen : e.status ≠ .complete)
    (hSame : e'.attempt = e.attempt)
    (hSameSession : e'.sessionId = e.sessionId) :
    NodeRewrite env d ev id n { n with
      evidence := some e'
      updatedAt := ev.ts }
| displayRetained (display : RetainedDisplay)
    (hKind : ev.kind = .workerDisplayRetained)
    (hData : ev.data.asRetainedDisplay env = some display)
    (hAttempt : display.attempt = n.retryAttempts)
    (hFirst : n.retainedDisplay = none) :
    NodeRewrite env d ev id n { n with
      retainedDisplay := some display
      updatedAt := ev.ts }
| displayExpired (display : RetainedDisplay)
    (hKind : ev.kind = .workerDisplayExpired)
    (hWas : n.retainedDisplay = some display)
    (hAttempt : ev.evidenceAttempt = .ok display.attempt)
    (hOpen : display.expiredAt = none) :
    NodeRewrite env d ev id n { n with
      retainedDisplay :=
        some { display with expiredAt := some ev.ts }
      updatedAt := ev.ts }
| displayUnavailable (reason : String)
    (hKind : ev.kind = .workerDisplayUnavailable)
    (hAttempt : ev.evidenceAttempt = .ok n.retryAttempts)
    (hNone : n.retainedDisplay = none)
    (hFirst : n.retentionUnavailable = none) :
    NodeRewrite env d ev id n { n with
      retentionUnavailable := some reason
      updatedAt := ev.ts }
| displayStillUnavailable
    (hKind : ev.kind = .workerDisplayUnavailable) :
    NodeRewrite env d ev id n n
| deathObserved
    (hKind : ev.kind = .nodeDeathObserved)
    (hFirst : n.firstDeathAt = none)
    (hLive : n.status.isTerminal = false)
    (hExit : n.workerExit = none)
    (hReport : n.lastReport = none)
    (hMerge : n.pendingMerge = none) :
    NodeRewrite env d ev id n { n with
      firstDeathAt := some ev.ts
      updatedAt := ev.ts }
| asked (question : AwaitingInput)
    (hKind : ev.kind = .nodeAwaitingInput)
    (hLive : n.status.isTerminal = false)
    (hExit : n.workerExit = none) :
    NodeRewrite env d ev id n { n with
      awaitingInput := some question
      updatedAt := ev.ts }
| answered
    (hKind : ev.kind = .nodeInputResolved) :
    NodeRewrite env d ev id n { n with
      awaitingInput := none
      updatedAt := ev.ts }
| roundReported (summary : String)
    (hKind : ev.kind = .nodeRoundReported)
    (hAttempt : ev.evidenceAttempt = .ok n.retryAttempts)
    (hLive : n.status.isTerminal = false) :
    NodeRewrite env d ev id n { n with
      resident :=
        some (n.residentState.report ev n.retryAttempts
          summary)
      awaitingInput := none
      updatedAt := ev.ts }
| resumed (attempt : Nat) (messageId : String)
    (facts : SpawnFacts)
    (hKind : ev.kind = .nodeResumed)
    (hAttempt : ev.evidenceAttempt = .ok attempt)
    (hLater : n.retryAttempts < attempt)
    (hLive : n.status.isTerminal = false)
    (hFacts : facts.ReadFrom env ev) :
    NodeRewrite env d ev id n
      (n.resumed ev attempt messageId facts)
| roundLanded (opId sourceBranch integratedOid : String)
    (hKind : ev.kind = .nodeRoundLanded)
    (hOp : ev.data.getStr "op_id" = some opId)
    (hLive : n.status.isTerminal = false) :
    NodeRewrite env d ev id n
      (n.landed ev opId sourceBranch integratedOid)
| dormant
    (hKind : ev.kind = .nodeResidentDormant)
    (hLive : n.status.isTerminal = false) :
    NodeRewrite env d ev id n { n with
      resident := some { n.residentState with
        dormantSince := some ev.ts
        expiryAttentionAt := none }
      updatedAt := ev.ts }
| attention
    (hKind : ev.kind = .nodeResidentAttention)
    (hLive : n.status.isTerminal = false) :
    NodeRewrite env d ev id n { n with
      resident := some { n.residentState with
        expiryAttentionAt := some ev.ts }
      updatedAt := ev.ts }
| mergeStarted (m : Manifest) (txn : MergeTxn)
    (hKind : ev.kind = .mergeStarted)
    (hTxn : ev.data.asMergeTxn env = some txn)
    (hManifest : d.manifest = some m)
    (hOpen : n.status.isTerminal = true →
      recoverableMerge m id n = true) :
    NodeRewrite env d ev id n { n with
      pendingMerge := some txn
      updatedAt := ev.ts }
| mergeAborted (txn : MergeTxn)
    (hKind : ev.kind = .mergeAborted)
    (hWas : n.pendingMerge = some txn)
    (hNamed : ev.data.getStr "op_id" = some txn.opId) :
    NodeRewrite env d ev id n { n with
      pendingMerge := none
      updatedAt := ev.ts }
| childSpawned (child : ChildRef)
    (hKind : ev.kind = .childSpawned) :
    NodeRewrite env d ev id n { n with
      children := n.children ++ [child]
      updatedAt := ev.ts }
| supervisorAttached (pid : Int)
    (hKind : ev.kind = .supervisorAttached) :
    NodeRewrite env d ev id n { n with
      supervisorPid := some pid
      updatedAt := ev.ts }
| cursorAdvanced (child : String) (seq : Nat)
    (hKind : ev.kind = .supervisorCursorAdvanced) :
    NodeRewrite env d ev id n { n with
      lastProcessedReportSeqByChild :=
        Json.insertField child (.int seq)
          n.lastProcessedReportSeqByChild
      updatedAt := ev.ts }

------------------------------------------------------------
-- Arms of the Worker
------------------------------------------------------------

section Arms

variable {env : RunEnv} {d : Disk} {ev : Event} {id : NodeId}

theorem nodeStatusStep_rewrites
    (hKind : ev.kind = .nodeStatus) :
    (nodeStatusStep ev).Leads (NodeRewrite env d ev id) := by
  intro n n' hRun
  have hLive := (nodeStatusStep_spec hRun).2.1
  unfold nodeStatusStep at hRun
  simp only [bind_eq_ok] at hRun
  rcases hRun with ⟨s, hStatus, hRest⟩
  split at hRest
  · cases hRest
  split at hRest
  · cases hRest
  · cases hRest
    exact .status s hKind hStatus hLive

theorem nodeReportStep_rewrites
    (hKind : ev.kind = .nodeReport) :
    (nodeReportStep ev).Leads (NodeRewrite env d ev id) := by
  intro n n' hRun
  have hPermits : n.status.isTerminal = true →
      permitsTerminalMergeRecovery n.status ev.data = true := by
    intro hTerminal
    by_contra hDenied
    simp [nodeReportStep, hTerminal, hDenied] at hRun
  rcases nodeReportStep_spec hRun with ⟨s, hSettled, hTerminal, _⟩
  rw [hSettled]
  exact .reported s hKind hTerminal hPermits

/- A retry of a live node rewires it, whatever it held. -/
theorem nodeRetryStep_retried
    {n n' : Node}
    (hRun : nodeRetryStep env ev n = .ok (some n')) :
    ∃ facts : SpawnFacts, facts.ReadFrom env ev ∧
      n' = n.retried ev facts := by
  unfold nodeRetryStep at hRun
  split at hRun
  · cases hRun
  simp only [bind_eq_ok, pure_eq, Except.ok.injEq,
    Option.some.injEq] at hRun
  rcases hRun with
    ⟨evidence, hEvidence, session, hSession, pid, hPid, start,
      hStart, hNode⟩
  exact ⟨⟨evidence, session, pid, start⟩,
    ⟨hEvidence, hSession, hPid, hStart⟩, hNode.symm⟩

theorem nodeRetryStep_rewrites
    (hKind : ev.kind = .nodeRetry) :
    (nodeRetryStep env ev).Leads
      (NodeRewrite env d ev id) := by
  intro n n' hRun
  have hLive := (nodeRetryStep_spec hRun).1
  rcases nodeRetryStep_retried hRun with ⟨facts, hFacts, hNode⟩
  rw [hNode]
  exact .retried facts hKind hLive hFacts

theorem workerExitedArm_rewrites
    (hKind : ev.kind = .workerExited) :
    Yields (workerExitedArm ev)
      (Leads (NodeRewrite env d ev id)) := by
  refine .bind fun attempt hAttempt => .bind fun code _ =>
    .bind fun signal _ => .bind fun _ hOne => .pure ?_
  intro n n' hRun
  unfold workerExitedStep at hRun
  split at hRun
  · cases hRun
  next hHere =>
  cases hRun
  simp only [not_or, not_not, Bool.not_eq_true,
    Option.isSome_eq_false_iff, Option.isNone_iff_eq_none]
    at hHere
  rw [hHere.1] at hAttempt
  exact .exited code signal hKind hAttempt hHere.2
    (refuseIf_eq_ok.mp hOne)

theorem nodeDeathObservedStep_rewrites
    (hKind : ev.kind = .nodeDeathObserved) :
    (nodeDeathObservedStep ev).Leads
      (NodeRewrite env d ev id) := by
  intro n n' hRun
  unfold nodeDeathObservedStep at hRun
  split at hRun
  · cases hRun
  next hHere =>
  cases hRun
  simp only [not_or, Bool.not_eq_true,
    Option.isSome_eq_false_iff, Option.isNone_iff_eq_none]
    at hHere
  rcases hHere with ⟨hFirst, hLive, hExit, hReport, hMerge⟩
  exact .deathObserved hKind hFirst hLive hExit hReport hMerge

/- An evidence fact rewrites the record that it names. -/
theorem evidenceStep_rewrites
    {attempt : Nat}
    {sessionId missing : String}
    {update : WorkerEvidence → WorkerEvidence}
    (hKind : ev.kind = .workerEvidenceArchived ∨
      ev.kind = .workerEvidenceFailed)
    (hAttempt : ev.evidenceAttempt = .ok attempt)
    (hSession : ev.wantStr "session_id" = .ok sessionId)
    (hSame : ∀ e, (update e).attempt = e.attempt ∧
      (update e).sessionId = e.sessionId) :
    (evidenceStep ev attempt sessionId missing update).Leads
      (NodeRewrite env d ev id) := by
  intro n n' hRun
  unfold evidenceStep at hRun
  split at hRun
  · cases hRun
  next e hWas =>
  split at hRun
  · cases hRun
  next hNamed =>
  split at hRun
  · cases hRun
  next hOpen =>
  cases hRun
  simp only [not_or, not_not] at hNamed
  rw [← hNamed.1] at hAttempt
  rw [Event.wantStr, orError_eq_ok, ← hNamed.2] at hSession
  exact .evidenced e (update e) hKind hWas hAttempt hSession
    hOpen (hSame e).1 (hSame e).2

theorem workerEvidenceArchivedArm_rewrites
    (hKind : ev.kind = .workerEvidenceArchived) :
    Yields (workerEvidenceArchivedArm ev id)
      (Leads (NodeRewrite env d ev id)) := by
  refine .bind fun _ hAttempt => .bind fun _ hSession =>
    .bind fun _ _ => .bind fun _ _ => .bind fun _ _ =>
    .bind fun _ _ => .bind fun _ _ => .bind fun _ _ =>
    .bind fun _ _ => .pure ?_
  apply evidenceStep_rewrites (.inl hKind) hAttempt hSession
  intro e
  exact ⟨rfl, rfl⟩

theorem workerEvidenceFailedArm_rewrites
    (hKind : ev.kind = .workerEvidenceFailed) :
    Yields (workerEvidenceFailedArm ev)
      (Leads (NodeRewrite env d ev id)) := by
  refine .bind fun _ hAttempt => .bind fun _ hSession =>
    .bind fun _ _ => .pure ?_
  apply evidenceStep_rewrites (.inr hKind) hAttempt hSession
  intro e
  exact ⟨rfl, rfl⟩

theorem workerDisplayRetainedArm_rewrites
    (hKind : ev.kind = .workerDisplayRetained) :
    Yields (workerDisplayRetainedArm env ev)
      (Leads (NodeRewrite env d ev id)) := by
  refine .bind fun display hData => .pure ?_
  rw [orError_eq_ok] at hData
  intro n n' hRun
  dsimp only at hRun
  split at hRun
  · cases hRun
  next hHere =>
  split at hRun
  · cases hRun
  next hFirst =>
  cases hRun
  simp only [not_or, not_not] at hHere
  apply NodeRewrite.displayRetained display hKind hData hHere.1
  simpa using hFirst

theorem workerDisplayExpiredArm_rewrites
    (hKind : ev.kind = .workerDisplayExpired) :
    Yields (workerDisplayExpiredArm ev)
      (Leads (NodeRewrite env d ev id)) := by
  refine .bind fun marker _ => .bind fun attempt hAttempt =>
    .pure ?_
  intro n n' hRun
  dsimp only at hRun
  split at hRun
  · cases hRun
  next display hWas =>
  split at hRun
  · cases hRun
  next hNamed =>
  cases hRun
  simp only [not_or, not_not, Bool.not_eq_true,
    Option.isSome_eq_false_iff, Option.isNone_iff_eq_none]
    at hNamed
  rw [← hNamed.1] at hAttempt
  exact .displayExpired display hKind hWas hAttempt hNamed.2.2

theorem workerDisplayUnavailableArm_rewrites
    (hKind : ev.kind = .workerDisplayUnavailable) :
    Yields (workerDisplayUnavailableArm ev)
      (Leads (NodeRewrite env d ev id)) := by
  refine .bind fun attempt hAttempt => .bind fun reason _ =>
    .pure ?_
  intro n n' hRun
  dsimp only at hRun
  split at hRun
  · cases hRun
  next hHere =>
  simp only [not_or, not_not, Bool.not_eq_true,
    Option.isSome_eq_false_iff, Option.isNone_iff_eq_none]
    at hHere
  split at hRun
  next hFirst =>
    cases hRun
    rw [hHere.1] at hAttempt
    apply NodeRewrite.displayUnavailable reason hKind hAttempt
      hHere.2
    simpa using hFirst
  · cases hRun
    exact .displayStillUnavailable hKind

------------------------------------------------------------
-- Arms of the Caller and of Residents
------------------------------------------------------------

theorem callerPiSessionBoundArm_rewrites
    (hKind : ev.kind = .callerPiSessionBound) :
    Yields (callerPiSessionBoundArm env d ev)
      (Leads (NodeRewrite env d ev id)) := by
  refine .bind fun _ _ => .pure (leads_of_yields fun n => ?_)
  refine .bind fun binding hData => .bind fun _ _ => ?_
  rw [orError_eq_ok] at hData
  split
  · exact .ite (fun _ => yields_none) (fun _ => .error)
  next hFirst =>
  refine .bind fun _ hAdmits => .bind fun _ _ => .pure ?_
  rw [refuseIf_eq_ok] at hAdmits
  intro n' hNode
  cases hNode
  apply NodeRewrite.sessionBound binding hKind hData hFirst
  intro reserved hReserved
  simpa [hReserved] using hAdmits

theorem callerPiLifecycleArm_rewrites
    (hKind : ev.kind = .callerPiLifecycle) :
    Yields (callerPiLifecycleArm env d ev)
      (Leads (NodeRewrite env d ev id)) := by
  refine .bind fun _ _ => .pure (leads_of_yields fun n => ?_)
  refine .bind fun fact hData => .bind fun _ hFormed => ?_
  rw [orError_eq_ok] at hData
  rw [refuseIf_eq_ok, not_not] at hFormed
  refine .ite (fun _ => yields_none) (fun _ => ?_)
  refine .bind fun _ _ => .bind fun _ hFollows => .pure ?_
  rw [refuseIf_eq_ok, not_not] at hFollows
  intro n' hNode
  cases hNode
  exact .piLifecycle fact hKind hData hFormed hFollows

theorem nodeAwaitingInputArm_rewrites
    (hKind : ev.kind = .nodeAwaitingInput) :
    Yields (nodeAwaitingInputArm ev)
      (Leads (NodeRewrite env d ev id)) := by
  refine .bind fun items _ => .pure ?_
  intro n n' hRun
  rcases nodeAwaitingInputStep_spec hRun with
    ⟨⟨hLive, hExit⟩, _⟩
  unfold nodeAwaitingInputStep at hRun
  split at hRun
  · cases hRun
  split at hRun
  · split at hRun
    · cases hRun
    · cases hRun
      exact .asked _ hKind hLive hExit
  · cases hRun
    exact .asked _ hKind hLive hExit

theorem nodeInputResolvedArm_rewrites
    (hKind : ev.kind = .nodeInputResolved) :
    Yields (nodeInputResolvedArm ev)
      (Leads (NodeRewrite env d ev id)) := by
  refine .bind fun seq _ => .pure ?_
  intro n n' hRun
  dsimp only at hRun
  split at hRun
  · cases hRun
    exact .answered hKind
  · cases hRun

theorem nodeRoundReportedArm_rewrites
    (hKind : ev.kind = .nodeRoundReported) :
    Yields (nodeRoundReportedArm env d ev)
      (Leads (NodeRewrite env d ev id)) := by
  refine .bind fun summary _ => .bind fun attempt hAttempt =>
    .bind fun _ _ => .pure ?_
  intro n n' hRun
  dsimp only at hRun
  split at hRun
  · cases hRun
  next hHere =>
  simp only [not_or, not_not, Bool.not_eq_true] at hHere
  rw [hHere.2] at hAttempt hRun
  cases hRun
  exact .roundReported summary hKind hAttempt hHere.1

theorem nodeResumedArm_rewrites
    (hKind : ev.kind = .nodeResumed) :
    Yields (nodeResumedArm env d ev)
      (Leads (NodeRewrite env d ev id)) := by
  refine .bind fun attempt hAttempt => .bind fun messageId _ =>
    .bind fun evidence hEvidence => .bind fun session hSession =>
    .bind fun _ _ => .pure ?_
  intro n n' hRun
  unfold nodeResumedStep at hRun
  split at hRun
  · cases hRun
  next hHere =>
  simp only [not_or, Nat.not_le, Bool.not_eq_true] at hHere
  simp only [bind_eq_ok, pure_eq, Except.ok.injEq,
    Option.some.injEq] at hRun
  rcases hRun with ⟨pid, hPid, start, hStart, hNode⟩
  subst hNode
  exact .resumed attempt messageId
    ⟨evidence, session, pid, start⟩ hKind hAttempt hHere.2
    hHere.1 ⟨hEvidence, hSession, hPid, hStart⟩

theorem nodeRoundLandedArm_rewrites
    (hKind : ev.kind = .nodeRoundLanded) :
    Yields (nodeRoundLandedArm env d ev)
      (Leads (NodeRewrite env d ev id)) := by
  refine .bind fun opId hOp => .bind fun branch _ =>
    .bind fun oid _ => .bind fun _ _ => .bind fun _ _ =>
    .pure ?_
  rw [Event.wantStr, orError_eq_ok] at hOp
  intro n n' hRun
  dsimp only at hRun
  split at hRun
  · cases hRun
  next hLive =>
  cases hRun
  apply NodeRewrite.roundLanded opId branch oid hKind hOp
  simpa using hLive

theorem nodeResidentDormantArm_rewrites
    (hKind : ev.kind = .nodeResidentDormant) :
    Yields (nodeResidentDormantArm env d ev)
      (Leads (NodeRewrite env d ev id)) := by
  refine .bind fun _ _ => .pure ?_
  intro n n' hRun
  dsimp only at hRun
  split at hRun
  · cases hRun
  next hLive =>
  split at hRun
  · cases hRun
  cases hRun
  apply NodeRewrite.dormant hKind
  simpa using hLive

theorem nodeResidentAttentionArm_rewrites
    (hKind : ev.kind = .nodeResidentAttention) :
    Yields (nodeResidentAttentionArm env d ev)
      (Leads (NodeRewrite env d ev id)) := by
  refine .bind fun _ _ => .bind fun _ _ => .pure ?_
  intro n n' hRun
  dsimp only at hRun
  split at hRun
  · cases hRun
  next hLive =>
  split at hRun
  · cases hRun
  cases hRun
  apply NodeRewrite.attention hKind
  simpa using hLive

------------------------------------------------------------
-- Arms of Merges and Children
------------------------------------------------------------

theorem mergeStartedArm_rewrites
    (hKind : ev.kind = .mergeStarted) :
    Yields (mergeStartedArm env d ev id)
      (Leads (NodeRewrite env d ev id)) := by
  refine .bind fun txn hTxn => .bind fun m hManifest =>
    .bind fun _ _ => .pure ?_
  rw [orError_eq_ok] at hTxn
  rw [requireManifest_eq_ok] at hManifest
  intro n n' hRun
  unfold mergeStartedStep at hRun
  simp only [bind_eq_ok] at hRun
  rcases hRun with ⟨_, _, hRest⟩
  split at hRest
  · cases hRest
  next hOpen =>
  split at hRest
  · cases hRest
  cases hRest
  apply NodeRewrite.mergeStarted m txn hKind hTxn hManifest.1
  intro hTerminal
  by_contra hNot
  exact hOpen ⟨hTerminal, hNot⟩

theorem mergeAbortedArm_rewrites
    (hKind : ev.kind = .mergeAborted) :
    Yields (mergeAbortedArm ev)
      (Leads (NodeRewrite env d ev id)) := by
  refine .bind fun opId hOp => .pure ?_
  rw [orError_eq_ok] at hOp
  intro n n' hRun
  dsimp only at hRun
  split at hRun
  next hNamed =>
    cases hRun
    rw [Option.map_eq_some_iff] at hNamed
    rcases hNamed with ⟨txn, hWas, hSame⟩
    rw [← hSame] at hOp
    exact .mergeAborted txn hKind hWas hOp
  · cases hRun

theorem childSpawnedArm_rewrites
    (hKind : ev.kind = .childSpawned) :
    Yields (childSpawnedArm ev)
      (Leads (NodeRewrite env d ev id)) := by
  refine .bind fun _ _ => .bind fun _ _ => .bind fun _ _ =>
    .pure ?_
  apply leads_skip
  apply leads_update
  intro n
  exact .childSpawned _ hKind

theorem supervisorAttachedArm_rewrites
    (hKind : ev.kind = .supervisorAttached) :
    Yields (supervisorAttachedArm ev)
      (Leads (NodeRewrite env d ev id)) := by
  refine .bind fun _ _ => .bind fun _ _ => .pure ?_
  apply leads_skip
  apply leads_update
  intro n
  exact .supervisorAttached _ hKind

theorem supervisorCursorAdvancedArm_rewrites
    (hKind : ev.kind = .supervisorCursorAdvanced) :
    Yields (supervisorCursorAdvancedArm ev)
      (Leads (NodeRewrite env d ev id)) := by
  refine .bind fun _ _ => .bind fun _ _ => .bind fun _ _ =>
    .pure ?_
  apply leads_skip
  apply leads_update
  intro n
  exact .cursorAdvanced _ _ hKind

/- The step of an arm makes one of the listed rewrites. -/
theorem nodeArm_rewrites
    {step : NodeStep}
    (hArm : nodeArm env d ev id = some (.ok step)) :
    step.Leads (NodeRewrite env d ev id) := by
  unfold nodeArm at hArm
  cases hKind : ev.kind <;>
    simp only [hKind, Option.some.injEq, reduceCtorEq,
      Except.ok.injEq] at hArm
  case nodeStatus => exact hArm ▸ nodeStatusStep_rewrites hKind
  case nodeReport => exact hArm ▸ nodeReportStep_rewrites hKind
  case nodeRetry => exact hArm ▸ nodeRetryStep_rewrites hKind
  case nodeDeathObserved =>
    exact hArm ▸ nodeDeathObservedStep_rewrites hKind
  case callerPiSessionBound =>
    exact callerPiSessionBoundArm_rewrites hKind _ hArm
  case callerPiLifecycle =>
    exact callerPiLifecycleArm_rewrites hKind _ hArm
  case workerExited =>
    exact workerExitedArm_rewrites hKind _ hArm
  case workerEvidenceArchived =>
    exact workerEvidenceArchivedArm_rewrites hKind _ hArm
  case workerEvidenceFailed =>
    exact workerEvidenceFailedArm_rewrites hKind _ hArm
  case workerDisplayRetained =>
    exact workerDisplayRetainedArm_rewrites hKind _ hArm
  case workerDisplayExpired =>
    exact workerDisplayExpiredArm_rewrites hKind _ hArm
  case workerDisplayUnavailable =>
    exact workerDisplayUnavailableArm_rewrites hKind _ hArm
  case nodeAwaitingInput =>
    exact nodeAwaitingInputArm_rewrites hKind _ hArm
  case nodeInputResolved =>
    exact nodeInputResolvedArm_rewrites hKind _ hArm
  case nodeRoundReported =>
    exact nodeRoundReportedArm_rewrites hKind _ hArm
  case nodeResumed =>
    exact nodeResumedArm_rewrites hKind _ hArm
  case nodeRoundLanded =>
    exact nodeRoundLandedArm_rewrites hKind _ hArm
  case nodeResidentDormant =>
    exact nodeResidentDormantArm_rewrites hKind _ hArm
  case nodeResidentAttention =>
    exact nodeResidentAttentionArm_rewrites hKind _ hArm
  case mergeStarted =>
    exact mergeStartedArm_rewrites hKind _ hArm
  case mergeAborted =>
    exact mergeAbortedArm_rewrites hKind _ hArm
  case childSpawned =>
    exact childSpawnedArm_rewrites hKind _ hArm
  case supervisorAttached =>
    exact supervisorAttachedArm_rewrites hKind _ hArm
  case supervisorCursorAdvanced =>
    exact supervisorCursorAdvancedArm_rewrites hKind _ hArm

end Arms

------------------------------------------------------------
-- Changes of One Projection
------------------------------------------------------------

variable {env : RunEnv} {d d' : Disk} {ev : Event}

/- What an accepted event does to the projection of a node. -/
inductive NodeChange
    (env : RunEnv) (d : Disk) (ev : Event) (id : NodeId) :
    Option Node → Option Node → Prop where
| kept (o : Option Node) : NodeChange env d ev id o o
| created (n : Node)
    (hKind : ev.kind = .nodeCreated)
    (hNode : ev.nodeId = some id)
    (hNew : ev.newNode env id = .ok n) :
    NodeChange env d ev id none (some n)
| rewritten (n n' : Node)
    (hNode : ev.nodeId = some id)
    (hRewrite : NodeRewrite env d ev id n n') :
    NodeChange env d ev id (some n) (some n')

theorem nodeChange_putNode
    {id : NodeId}
    {n : Node}
    (hChange :
      NodeChange env d ev n.nodeId (d.nodes.lookup n.nodeId)
        (some n)) :
    NodeChange env d ev id (d.nodes.lookup id)
      ((d.putNode n).nodes.lookup id) := by
  rw [Disk.putNode_nodes]
  by_cases hHere : id = n.nodeId
  · subst hHere
    rw [Finmap.lookup_insert]
    exact hChange
  · rw [Finmap.lookup_insert_of_ne _ hHere]
    exact .kept _

theorem nodeChange_of_reduce
    {ops : List ProjectionOp}
    (hPlan : reduceEventToOps env d ev = .ok ops)
    (id : NodeId) :
    NodeChange env d ev id (d.nodes.lookup id)
      ((applyOps ops d).nodes.lookup id) := by
  cases (planned_of_reduce hPlan).2 with
  | nothing => exact .kept _
  | runCreated => exact .kept _
  | runStatus => exact .kept _
  | settlementIntent => exact .kept _
  | nodeAlone id' n hKind hNode hMissing hNew =>
      have hId := (newNode_spec env ev id' n hNew).1.nodeId
      apply nodeChange_putNode
      rw [hId, hMissing]
      exact .created n hKind hNode hNew
  | nodeCreated id' n m hKind hNode hMissing hNew =>
      have hId := (newNode_spec env ev id' n hNew).1.nodeId
      apply nodeChange_putNode (d := d)
      rw [hId, hMissing]
      exact .created n hKind hNode hNew
  | stepped id' n n' step hNode hArm hLookup hValid hStep =>
      have hSame := (nodeArm_move hArm hStep).1
      apply nodeChange_putNode
      rw [(hSame.valid hValid).nodeId, hLookup]
      exact .rewritten n n' hNode
        (nodeArm_rewrites hArm n n' hStep)

theorem nodeChange_of_accepts
    (hAccepts : Accepts env d ev d') (id : NodeId) :
    NodeChange env d ev id (d.nodes.lookup id)
      (d'.nodes.lookup id) := by
  rcases hAccepts with ⟨ops, hPlan, hNodes, _⟩
  rw [hNodes]
  exact nodeChange_of_reduce hPlan id

/- A node stays, and is rewritten or left as it is. -/
theorem node_of_accepts
    {id : NodeId}
    {n : Node}
    (hAccepts : Accepts env d ev d')
    (hLookup : d.nodes.lookup id = some n) :
    ∃ n', d'.nodes.lookup id = some n' ∧
      (n' = n ∨ ev.nodeId = some id ∧
        NodeRewrite env d ev id n n') := by
  have hChange := nodeChange_of_accepts hAccepts id
  rw [hLookup] at hChange
  generalize d'.nodes.lookup id = after at hChange
  cases hChange with
  | kept => exact ⟨n, rfl, .inl rfl⟩
  | rewritten _ n' hNode hRewrite =>
      exact ⟨n', rfl, .inr ⟨hNode, hRewrite⟩⟩

/- The arm of an existing node leaves it or writes it. -/
theorem step_of_accepts
    {id : NodeId}
    {n : Node}
    {arm : Except Error NodeStep}
    (hAccepts : Accepts env d ev d')
    (hNode : ev.nodeId = some id)
    (hArm : nodeArm env d ev id = some arm)
    (hLookup : d.nodes.lookup id = some n) :
    ∃ step, arm = .ok step ∧
      (step n = .ok none ∧ d'.nodes.lookup id = some n ∨
        ∃ n', step n = .ok (some n') ∧
          d'.nodes.lookup id = some n') := by
  rcases hAccepts with ⟨ops, hPlan, hNodes, _⟩
  rw [reduce_eq_ok, reduceKind_eq_arm hArm hNode, bind_eq_ok]
    at hPlan
  rcases hPlan with ⟨_, step, hStepOf, hOn⟩
  apply Exists.intro step
  apply And.intro hStepOf
  rcases onNode_eq_ok hOn with
    ⟨hNone, _⟩ | ⟨n₀, hSome, hValid, hCase⟩
  · rw [hLookup] at hNone
    cases hNone
  rw [hLookup, Option.some.injEq] at hSome
  subst hSome
  rw [hNodes]
  rcases hCase with ⟨hSkip, hOps⟩ | ⟨n', hStep, hOps⟩
  · left
    rw [hOps, applyOps_nil]
    exact ⟨hSkip, hLookup⟩
  · right
    rw [hStepOf] at hArm
    have hSame := (nodeArm_move hArm hStep).1
    have hId := (hSame.valid hValid).nodeId
    rw [hOps, applyOps_cons, applyOps_nil,
      ProjectionOp.put, Disk.putNode_nodes]
    apply Exists.intro n'
    apply And.intro hStep
    rw [hId, Finmap.lookup_insert]

/- What a new node says about its worker: nothing yet. -/
structure Node.Fresh (n : Node) : Prop where
  callerPiSession : n.callerPiSession = none
  callerPiLifecycle : n.callerPiLifecycle = none
  retainedDisplay : n.retainedDisplay = none
  retentionUnavailable : n.retentionUnavailable = none
  lastReport : n.lastReport = none
  retryAttempts : n.retryAttempts = 0
  workerExit : n.workerExit = none
  pendingMerge : n.pendingMerge = none
  firstDeathAt : n.firstDeathAt = none
  awaitingInput : n.awaitingInput = none
  resident : n.resident = none

theorem newNode_fresh
    {id : NodeId}
    {n : Node}
    (hNew : ev.newNode env id = .ok n) :
    n.Fresh := by
  have hYields : Yields (ev.newNode env id) Node.Fresh := by
    refine .bind fun _ _ => .bind fun _ _ => .bind fun _ _ =>
      .bind fun _ _ => .bind fun _ _ => .bind fun _ _ =>
      .bind fun _ _ => .pure ?_
    constructor <;> rfl
  exact hYields n hNew

------------------------------------------------------------
-- Runs of Accepted Events
------------------------------------------------------------

/- A property that new nodes have and every rewrite keeps. -/
structure NodeInvariant
    (env : RunEnv) (P : Node → Prop) : Prop where
  created : ∀ ev id n, Event.newNode env ev id = .ok n → P n
  rewritten : ∀ d ev id n n',
    NodeRewrite env d ev id n n' → P n → P n'

section Runs

variable {evs : List Event} {P : Node → Prop}

/- An invariant of the nodes holds in every state reached. -/
theorem AcceptedRun.holds
    (hInvariant : NodeInvariant env P)
    (hRun : AcceptedRun env d evs d')
    (hStart : ∀ id n, d.nodes.lookup id = some n → P n) :
    ∀ id n, d'.nodes.lookup id = some n → P n := by
  induction hRun with
  | nil => exact hStart
  | cons hFirst _ ih =>
      apply ih
      intro id n' hLookup
      have hChange := nodeChange_of_accepts hFirst id
      rw [hLookup] at hChange
      generalize hBefore : Finmap.lookup id _ = before at hChange
      cases hChange with
      | kept => exact hStart id n' hBefore
      | created _ _ _ hNew => exact hInvariant.created _ _ _ hNew
      | rewritten n _ _ hRewrite =>
          exact hInvariant.rewritten _ _ _ n n' hRewrite
            (hStart id n hBefore)

theorem AcceptedRun.holds_of_empty
    (hInvariant : NodeInvariant env P)
    (hRun : AcceptedRun env Disk.empty evs d) :
    ∀ id n, d.nodes.lookup id = some n → P n := by
  apply hRun.holds hInvariant
  intro id n hLookup
  simp [Disk.empty] at hLookup

/-
  A reflexive and transitive relation that every rewrite of
  an invariant node respects relates such a node to all it
  later becomes.
-/
theorem AcceptedRun.relates
    {R : Node → Node → Prop}
    (hInvariant : NodeInvariant env P)
    (hRefl : ∀ n, R n n)
    (hTrans : ∀ n₁ n₂ n₃, R n₁ n₂ → R n₂ n₃ → R n₁ n₃)
    (hRewrite : ∀ d ev id n n',
      NodeRewrite env d ev id n n' → P n → R n n')
    (hRun : AcceptedRun env d evs d') :
    ∀ id n, d.nodes.lookup id = some n → P n →
      ∃ n', d'.nodes.lookup id = some n' ∧ R n n' := by
  induction hRun with
  | nil =>
      intro id n hLookup _
      exact ⟨n, hLookup, hRefl n⟩
  | cons hFirst _ ih =>
      intro id n hLookup hHolds
      rcases node_of_accepts hFirst hLookup with
        ⟨n₁, hLookup₁, hSame | ⟨_, hMove⟩⟩
      · subst hSame
        exact ih id n₁ hLookup₁ hHolds
      · have hHolds₁ :=
          hInvariant.rewritten _ _ _ _ _ hMove hHolds
        rcases ih id n₁ hLookup₁ hHolds₁ with
          ⟨n', hLookup', hRest⟩
        have hStep := hRewrite _ _ _ _ _ hMove hHolds
        exact ⟨n', hLookup', hTrans n n₁ n' hStep hRest⟩

end Runs

theorem AcceptedRun.accepts
    (hRun : AcceptedRun env d [ev] d') :
    Accepts env d ev d' := by
  cases hRun with
  | cons hFirst hLater =>
      cases hLater
      exact hFirst

/- Fold events one after the other. -/
def foldAll (env : RunEnv) : Disk → List Event → Disk
| d, [] => d
| d, ev :: later =>
    foldAll env ((applyEvent env ev).final d) later

/- Every event is accepted where its turn comes. -/
def acceptsAll (env : RunEnv) : Disk → List Event → Bool
| _, [] => true
| d, ev :: later =>
    (reduceEventToOps env d ev).isOk &&
      acceptsAll env ((applyEvent env ev).final d) later

theorem acceptedRun_foldAll
    {evs : List Event}
    (hAll : acceptsAll env d evs = true) :
    AcceptedRun env d evs (foldAll env d evs) := by
  induction evs generalizing d with
  | nil => exact .nil d
  | cons ev later ih =>
      simp only [acceptsAll, Bool.and_eq_true] at hAll
      rcases hAll with ⟨hFirst, hLater⟩
      cases hPlan : reduceEventToOps env d ev with
      | error e =>
          rw [hPlan] at hFirst
          cases hFirst
      | ok ops =>
          apply AcceptedRun.cons _ (ih hLater)
          apply accepts_applyEvent
          exact applyEvent_eq_ok.mpr ⟨ops, hPlan⟩

end Taskfleet
