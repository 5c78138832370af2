import Taskfleet.Audits
import Taskfleet.Backed
import Taskfleet.Evidence
import Taskfleet.KeyedReplay
import Taskfleet.Reducer.Cursors
import Taskfleet.Reducer.Rewrites

/-
  What the log says of the evidence of a node, and what the
  operations on a run keep of it.

  A terminal node keeps its session for good, and complete
  evidence stays as it is. An archived fact that is in the
  log and not folded yet is the last event there, and the
  next append folds it first.

  Main declarations:
    * `EvidenceMove`, `Onward`
    * `Filed`, `FiledSince`
    * `FiledSince.wp_call`, `FiledSince.wp_record`
-/

------------------------------------------------------------
-- What One Event Does to Evidence
------------------------------------------------------------

namespace Taskfleet

open Fallible Evidence

namespace Evidence

/- The same session of the same attempt. -/
structure SameSession (e e' : WorkerEvidence) : Prop where
  attempt : e'.attempt = e.attempt
  sessionId : e'.sessionId = e.sessionId
  liveSessionPath : e'.liveSessionPath = e.liveSessionPath

theorem SameSession.refl (e : WorkerEvidence) :
    SameSession e e := ⟨rfl, rfl, rfl⟩

theorem SameSession.trans
    {e₁ e₂ e₃ : WorkerEvidence}
    (hFirst : SameSession e₁ e₂)
    (hSecond : SameSession e₂ e₃) : SameSession e₁ e₃ where
  attempt := hSecond.attempt.trans hFirst.attempt
  sessionId := hSecond.sessionId.trans hFirst.sessionId
  liveSessionPath :=
    hSecond.liveSessionPath.trans hFirst.liveSessionPath

/- The evidence is complete by the archived fact. -/
structure CompleteBy
    (id : NodeId) (ev : Event) (e : WorkerEvidence) : Prop where
  complete : e.status = .complete
  path : e.transcriptPath =
    some (evidencePath id Artifact.transcript.fileName)
  sha256 : ∃ sha, ev.wantStr "transcript_sha256" = .ok sha ∧
    e.transcriptSha256 = some sha

/- The ways in which an event leaves the evidence of a node. -/
inductive EvidenceMove
    (ev : Event) (id : NodeId) (n n' : Node) : Prop where
| kept (hSame : n'.evidence = n.evidence)
| spawned
    (hLive : n.status.isTerminal = false)
    (hPending : ∀ e, n'.evidence = some e →
      e.status = .pending)
| failed (e e' : WorkerEvidence)
    (hKind : ev.kind = .workerEvidenceFailed)
    (hWas : n.evidence = some e)
    (hOpen : e.status ≠ .complete)
    (hNow : n'.evidence = some e')
    (hSame : SameSession e e')
    (hStatus : e'.status = .failed)
| archived (e e' : WorkerEvidence)
    (hKind : ev.kind = .workerEvidenceArchived)
    (hWas : n.evidence = some e)
    (hOpen : e.status ≠ .complete)
    (hNow : n'.evidence = some e')
    (hSame : SameSession e e')
    (hBy : CompleteBy id ev e')

section Moves

variable {env : RunEnv} {d : Disk} {ev : Event} {id : NodeId}

theorem pending_of_spawnData
    {e : WorkerEvidence}
    (hData : ev.workerEvidenceFromSpawnData = .ok (some e)) :
    e.status = .pending := by
  have hYields : Yields ev.workerEvidenceFromSpawnData
      (fun found => ∀ e, found = some e →
        e.status = .pending) := by
    unfold Event.workerEvidenceFromSpawnData
    split
    · split
      · exact .error
      · exact .ok (by simp)
    · split
      · exact .error
      · exact .ok (by simp)
    · refine .bind fun _ _ => .bind fun _ _ => .bind fun _ _ =>
        .bind fun _ _ => .bind fun _ _ => .bind fun _ _ =>
        .pure ?_
      intro e hSome
      cases hSome
      rfl
  exact hYields _ hData e rfl

/- The evidence once the archive is recorded. -/
def archivedAs
    (archive : EvidenceArchive) (e : WorkerEvidence) :
    WorkerEvidence :=
  { e with
    transcriptPath := some archive.transcriptPath
    resumePath := some archive.resumePath
    panePath := some archive.panePath
    reportPath := some archive.reportPath
    transcriptSha256 := some archive.transcriptSha256
    status := .complete
    error := none }

/- What an archived fact that its arm reads has to say. -/
theorem archivedArm_eq_ok
    {step : NodeStep}
    (hArm : workerEvidenceArchivedArm ev id = .ok step) :
    ∃ (attempt : Nat) (session : String)
      (archive : EvidenceArchive),
      ev.evidenceAttempt = .ok attempt ∧
      ev.wantStr "session_id" = .ok session ∧
      ev.wantStr "transcript_sha256" =
        .ok archive.transcriptSha256 ∧
      archive.transcriptPath =
        evidencePath id Artifact.transcript.fileName ∧
      step = evidenceStep ev attempt session
        "evidence archive has no recorded Pi session"
        (archivedAs archive) := by
  simp only [workerEvidenceArchivedArm, bind_eq_ok,
    refuseIf_eq_ok, not_not, pure_eq, Except.ok.injEq] at hArm
  rcases hArm with ⟨attempt, hAttempt, session, hSession,
    transcript, hTranscript, resume, hResume, pane, hPane,
    report, hReport, sha, hSha, _, hCanonical, _, _, rfl⟩
  refine ⟨attempt, session,
    ⟨transcript, resume, pane, report, sha⟩, hAttempt, hSession,
    hSha, ?_, rfl⟩
  simp only [EvidenceArchive.canonical, Bool.and_eq_true,
    beq_iff_eq] at hCanonical
  exact hCanonical.1.1.1

/- What an evidence fact rewrites, it rewrites in place. -/
theorem evidenceStep_eq_some
    {attempt : Nat}
    {session missing : String}
    {update : WorkerEvidence → WorkerEvidence}
    {n n' : Node}
    (hStep :
      evidenceStep ev attempt session missing update n =
        .ok (some n')) :
    ∃ e, n.evidence = some e ∧ e.status ≠ .complete ∧
      n'.evidence = some (update e) := by
  unfold evidenceStep at hStep
  split at hStep
  · cases hStep
  next e hWas =>
    split at hStep
    · cases hStep
    split at hStep
    · cases hStep
    next hOpen =>
      cases hStep
      exact ⟨e, hWas, hOpen, rfl⟩

theorem workerEvidenceFailedArm_evidence
    {step : NodeStep}
    (hKind : ev.kind = .workerEvidenceFailed)
    (hArm : workerEvidenceFailedArm ev = .ok step) :
    step.Leads (EvidenceMove ev id) := by
  simp only [workerEvidenceFailedArm, bind_eq_ok, pure_eq,
    Except.ok.injEq] at hArm
  rcases hArm with ⟨attempt, _, session, _, detail, _, rfl⟩
  intro n n' hStep
  rcases evidenceStep_eq_some hStep with ⟨e, hWas, hOpen, hNow⟩
  exact .failed e _ hKind hWas hOpen hNow ⟨rfl, rfl, rfl⟩ rfl

theorem workerEvidenceArchivedArm_evidence
    {step : NodeStep}
    (hKind : ev.kind = .workerEvidenceArchived)
    (hArm : workerEvidenceArchivedArm ev id = .ok step) :
    step.Leads (EvidenceMove ev id) := by
  rcases archivedArm_eq_ok hArm with
    ⟨attempt, session, archive, _, _, hSha, hPath, rfl⟩
  intro n n' hStep
  rcases evidenceStep_eq_some hStep with ⟨e, hWas, hOpen, hNow⟩
  exact .archived e _ hKind hWas hOpen hNow ⟨rfl, rfl, rfl⟩
    ⟨rfl, congrArg some hPath, _, hSha, rfl⟩

/- Other events leave evidence alone or start a new session. -/
theorem evidenceMove_of_rewrite
    {n n' : Node}
    (hArchived : ev.kind ≠ .workerEvidenceArchived)
    (hFailed : ev.kind ≠ .workerEvidenceFailed)
    (hRewrite : NodeRewrite env d ev id n n') :
    EvidenceMove ev id n n' := by
  cases hRewrite with
  | retried facts hKind hLive hFacts =>
      refine .spawned hLive (fun e hSome => ?_)
      have hData := hFacts.evidence
      rw [show facts.evidence = some e from hSome] at hData
      exact pending_of_spawnData hData
  | resumed attempt messageId facts hKind hAttempt hLater hLive
      hFacts =>
      refine .spawned hLive (fun e hSome => ?_)
      have hData := hFacts.evidence
      rw [show facts.evidence = some e from hSome] at hData
      exact pending_of_spawnData hData
  | evidenced e e' hKind =>
      rcases hKind with hKind | hKind
      · exact absurd hKind hArchived
      · exact absurd hKind hFailed
  | _ => exact .kept rfl

theorem nodeArm_evidence
    {step : NodeStep}
    (hArm : nodeArm env d ev id = some (.ok step)) :
    step.Leads (EvidenceMove ev id) := by
  by_cases hArchived : ev.kind = .workerEvidenceArchived
  · simp only [nodeArm, hArchived, Option.some.injEq] at hArm
    exact workerEvidenceArchivedArm_evidence hArchived hArm
  by_cases hFailed : ev.kind = .workerEvidenceFailed
  · simp only [nodeArm, hFailed, Option.some.injEq] at hArm
    exact workerEvidenceFailedArm_evidence hFailed hArm
  · intro n n' hStep
    exact evidenceMove_of_rewrite hArchived hFailed
      (nodeArm_rewrites hArm n n' hStep)

/- The plan of an event, seen from one node. -/
theorem evidenceMove_of_reduce
    {ops : List ProjectionOp}
    {n n' : Node}
    (hPlan : reduceEventToOps env d ev = .ok ops)
    (hLookup : d.nodes.lookup id = some n)
    (hLookup' : (applyOps ops d).nodes.lookup id = some n') :
    EvidenceMove ev id n n' := by
  have hSame : (applyOps ops d).nodes.lookup id =
      d.nodes.lookup id → EvidenceMove ev id n n' := by
    intro hStill
    rw [hLookup', hLookup, Option.some.injEq] at hStill
    exact .kept (by rw [hStill])
  have hMissed : ∀ {m : Node},
      d.nodes.lookup m.nodeId = none → id ≠ m.nodeId := by
    intro m hMissing hHere
    rw [← hHere, hLookup] at hMissing
    cases hMissing
  cases (planned_of_reduce hPlan).2 with
  | nothing => exact hSame rfl
  | runCreated => exact hSame rfl
  | runStatus => exact hSame rfl
  | settlementIntent => exact hSame rfl
  | nodeAlone id' m hKind hNode hMissing hNew =>
      rw [← (newNode_spec env ev id' m hNew).1.nodeId]
        at hMissing
      exact hSame
        (Finmap.lookup_insert_of_ne _ (hMissed hMissing))
  | nodeCreated id' m _ hKind hNode hMissing hNew =>
      rw [← (newNode_spec env ev id' m hNew).1.nodeId]
        at hMissing
      exact hSame
        (Finmap.lookup_insert_of_ne _ (hMissed hMissing))
  | stepped id' n₀ n₁ step hNode hArm hLookup₀ hValid hStep =>
      have hId :=
        ((nodeArm_move hArm hStep).1.valid hValid).nodeId
      by_cases hHere : id = n₁.nodeId
      · rw [hId] at hHere
        subst hHere
        rw [hLookup, Option.some.injEq] at hLookup₀
        subst hLookup₀
        have hPut :
            (d.putNode n₁).nodes.lookup id = some n' :=
          hLookup'
        rw [Disk.putNode_nodes, hId, Finmap.lookup_insert,
          Option.some.injEq] at hPut
        subst hPut
        exact nodeArm_evidence hArm n n₁ hStep
      · exact hSame (Finmap.lookup_insert_of_ne _ hHere)

theorem pending_of_newNode
    {n : Node} {e : WorkerEvidence}
    (hNew : ev.newNode env id = .ok n)
    (hSome : n.evidence = some e) : e.status = .pending := by
  have hYields : Yields (ev.newNode env id)
      (fun n => ∀ e, n.evidence = some e →
        e.status = .pending) := by
    refine .bind fun _ _ => .bind fun _ _ =>
      .bind fun evidence hData => .bind fun _ _ =>
      .bind fun _ _ => .bind fun _ _ => .bind fun _ _ =>
      .pure ?_
    intro e hSome
    rw [show evidence = some e from hSome] at hData
    exact pending_of_spawnData hData
  exact hYields n hNew e hSome

end Moves

------------------------------------------------------------
-- Terminal Nodes
------------------------------------------------------------

/- What a node keeps for good once it is terminal. -/
structure Onward (n n' : Node) : Prop where
  terminal : n.status.isTerminal = true →
    n'.status.isTerminal = true
  session : n.status.isTerminal = true →
    ∀ e, n.evidence = some e →
      ∃ e', n'.evidence = some e' ∧ SameSession e e'
  complete : n.status.isTerminal = true →
    ∀ e, n.evidence = some e → e.status = .complete →
      n'.evidence = some e

theorem Onward.refl (n : Node) : Onward n n where
  terminal := fun hOver => hOver
  session := fun _ e hSome => ⟨e, hSome, .refl e⟩
  complete := fun _ _ hSome _ => hSome

theorem Onward.trans
    {n₁ n₂ n₃ : Node}
    (hFirst : Onward n₁ n₂)
    (hSecond : Onward n₂ n₃) : Onward n₁ n₃ where
  terminal := fun hOver => hSecond.terminal (hFirst.terminal hOver)
  session := by
    intro hOver e hSome
    rcases hFirst.session hOver e hSome with
      ⟨e₂, hSome₂, hSame₂⟩
    rcases hSecond.session (hFirst.terminal hOver) e₂ hSome₂ with
      ⟨e₃, hSome₃, hSame₃⟩
    exact ⟨e₃, hSome₃, hSame₂.trans hSame₃⟩
  complete := by
    intro hOver e hSome hComplete
    exact hSecond.complete (hFirst.terminal hOver) e
      (hFirst.complete hOver e hSome hComplete) hComplete

section Onward

variable {env : RunEnv} {d : Disk} {ev : Event} {id : NodeId}
variable {n n' : Node}

theorem terminal_of_rewrite
    (hRewrite : NodeRewrite env d ev id n n')
    (hOver : n.status.isTerminal = true) :
    n'.status.isTerminal = true := by
  cases hRewrite with
  | status s hKind hStatus hLive =>
      rw [hOver] at hLive
      cases hLive
  | reported s hKind hTerminal => exact hTerminal
  | retried facts hKind hLive =>
      rw [hOver] at hLive
      cases hLive
  | resumed attempt messageId facts hKind hAttempt hLater
      hLive =>
      rw [hOver] at hLive
      cases hLive
  | _ => exact hOver

theorem EvidenceMove.onward
    (hMove : EvidenceMove ev id n n')
    (hOver : n.status.isTerminal = true →
      n'.status.isTerminal = true) : Onward n n' := by
  cases hMove with
  | kept hSame =>
      refine ⟨hOver, ?_, ?_⟩
      · intro _ e hSome
        exact ⟨e, hSame.trans hSome, .refl e⟩
      · intro _ e hSome _
        exact hSame.trans hSome
  | spawned hLive =>
      have hNever : n.status.isTerminal ≠ true := by
        rw [hLive]
        exact Bool.false_ne_true
      exact ⟨hOver, fun hTerminal => absurd hTerminal hNever,
        fun hTerminal => absurd hTerminal hNever⟩
  | failed e e' hKind hWas hOpen hNow hSame =>
      refine ⟨hOver, ?_, ?_⟩
      · intro _ e₀ hSome
        rw [hWas, Option.some.injEq] at hSome
        exact ⟨e', hNow, hSome ▸ hSame⟩
      · intro _ e₀ hSome hComplete
        rw [hWas, Option.some.injEq] at hSome
        exact absurd (hSome ▸ hComplete) hOpen
  | archived e e' hKind hWas hOpen hNow hSame =>
      refine ⟨hOver, ?_, ?_⟩
      · intro _ e₀ hSome
        rw [hWas, Option.some.injEq] at hSome
        exact ⟨e', hNow, hSome ▸ hSame⟩
      · intro _ e₀ hSome hComplete
        rw [hWas, Option.some.injEq] at hSome
        exact absurd (hSome ▸ hComplete) hOpen

theorem onward_of_reduce
    {ops : List ProjectionOp}
    (hPlan : reduceEventToOps env d ev = .ok ops)
    (hLookup : d.nodes.lookup id = some n) :
    ∃ n', (applyOps ops d).nodes.lookup id = some n' ∧
      Onward n n' := by
  have hChange := nodeChange_of_reduce hPlan id
  rw [hLookup] at hChange
  generalize hAfter : (applyOps ops d).nodes.lookup id = after
    at hChange
  cases hChange with
  | kept => exact ⟨n, rfl, .refl n⟩
  | rewritten _ n' hNode hRewrite =>
      exact ⟨n', rfl,
        (evidenceMove_of_reduce hPlan hLookup hAfter).onward
          (terminal_of_rewrite hRewrite)⟩

/- A part of the plan does all of it to a node, or nothing. -/
theorem onward_of_cut
    {ops : List ProjectionOp}
    (hPlan : reduceEventToOps env d ev = .ok ops)
    (hLookup : d.nodes.lookup id = some n)
    (j : Nat) :
    ∃ n', (applyOps (ops.take j) d).nodes.lookup id = some n' ∧
      Onward n n' := by
  rcases lookup_take_of_plan hPlan j id with hSame | hWhole
  · exact ⟨n, hSame.trans hLookup, .refl n⟩
  · rw [hWhole]
    exact onward_of_reduce hPlan hLookup

end Onward

------------------------------------------------------------
-- What the Log Says of the Archive
------------------------------------------------------------

/- An archived fact about the node. -/
def Archives (id : NodeId) (ev : Event) : Prop :=
  ev.kind = .workerEvidenceArchived ∧ ev.nodeId = some id

/- The archived fact is about this session. -/
structure Names
    (env : RunEnv) (id : NodeId) (ev : Event)
    (e : WorkerEvidence) : Prop where
  runId : ev.runId = env.runId
  arm : ∃ step, workerEvidenceArchivedArm ev id = .ok step
  attempt : ev.evidenceAttempt = .ok e.attempt
  session : ev.wantStr "session_id" = .ok e.sessionId

/-
  An archived fact of the log. Its digest is that of the
  archived transcript `copy`.
-/
structure Rests
    (T : Tools) (id : NodeId) (copy : Option Bytes) (d : Disk)
    (ev : Event) (n : Node) (e : WorkerEvidence) : Prop where
  node : d.nodes.lookup id = some n
  terminal : n.status.isTerminal = true
  evidence : n.evidence = some e
  names : Names T.env id ev e
  copied : ∃ bytes, copy = some bytes ∧
    ev.wantStr "transcript_sha256" = .ok (T.sha256 bytes)
  folded : ev.seq ≤ d.appliedSeq → e.status = .complete
  last : d.appliedSeq < ev.seq → ev.seq = d.lastSeq

/- How the log, the projection and the archive agree. -/
structure Filed
    (T : Tools) (id : NodeId) (copy : Option Bytes)
    (d : Disk) : Prop where
  keyed : ∀ ev ∈ d.events, ev.kind = .workerEvidenceArchived →
    ∀ e, ev.idempotencyKey = some (archivedKey id e) →
    ev.nodeId = some id
  reported : ∀ n, d.nodes.lookup id = some n →
    n.lastReport ≠ none → n.status.isTerminal = true
  facts : ∀ ev ∈ d.events, Archives id ev →
    ∃ n e, Rests T id copy d ev n e
  complete : ∀ n e, d.nodes.lookup id = some n →
    n.evidence = some e → e.status = .complete →
    n.status.isTerminal = true ∧
      ∃ ev ∈ d.events, Archives id ev ∧ CompleteBy id ev e

section Filed

variable {T : Tools} {id : NodeId} {copy : Option Bytes}
variable {d d' s : Disk} {ev ev' : Event}
variable {ops : List ProjectionOp} {n n' : Node}
variable {e e' : WorkerEvidence}

theorem Names.mono
    (hNames : Names T.env id ev e)
    (hSame : SameSession e e') : Names T.env id ev e' where
  runId := hNames.runId
  arm := hNames.arm
  attempt := by rw [hSame.attempt, hNames.attempt]
  session := by rw [hSame.sessionId, hNames.session]

/- A later state of the node, under the same watermark. -/
theorem Rests.onward
    (hRests : Rests T id copy d ev n e)
    (hLookup : d'.nodes.lookup id = some n')
    (hOnward : Onward n n')
    (hMark : d'.appliedSeq = d.appliedSeq)
    (hLast : d'.lastSeq = d.lastSeq) :
    ∃ e', Rests T id copy d' ev n' e' := by
  rcases hOnward.session hRests.terminal e hRests.evidence with
    ⟨e', hNow, hSame⟩
  refine ⟨e', hLookup, hOnward.terminal hRests.terminal, hNow,
    hRests.names.mono hSame, hRests.copied, ?_, ?_⟩
  · intro hDone
    rw [hMark] at hDone
    have hComplete := hRests.folded hDone
    have hStill := hOnward.complete hRests.terminal e
      hRests.evidence hComplete
    rw [hNow, Option.some.injEq] at hStill
    rw [hStill]
    exact hComplete
  · intro hAhead
    rw [hMark] at hAhead
    rw [hLast]
    exact hRests.last hAhead

/- Folding the fact leaves the evidence complete. -/
theorem Rests.plan
    (hRests : Rests T id copy d ev n e)
    (hArchives : Archives id ev)
    (hValid : n.Valid T.env id) :
    ∃ ops n' e', reduceEventToOps T.env d ev = .ok ops ∧
      (applyOps ops d).nodes.lookup id = some n' ∧
      n'.evidence = some e' ∧ e'.status = .complete := by
  rcases hRests.names.arm with ⟨step, hArm⟩
  have hPlan := reduce_of_step hRests.names.runId hArchives.2
    (show nodeArm T.env d ev id = some (.ok step) by
      simp only [nodeArm, hArchives.1, hArm])
    hRests.node hValid
  rcases archivedArm_eq_ok hArm with
    ⟨attempt, session, archive, hAttempt, hSession, _, _, rfl⟩
  rw [hRests.names.attempt, Except.ok.injEq] at hAttempt
  rw [hRests.names.session, Except.ok.injEq] at hSession
  subst hAttempt
  subst hSession
  by_cases hComplete : e.status = .complete
  · have hStep : evidenceStep ev e.attempt e.sessionId
        "evidence archive has no recorded Pi session"
        (archivedAs archive) n = .ok none := by
      simp [evidenceStep, hRests.evidence, hComplete]
    rw [hStep] at hPlan
    exact ⟨[], n, e, hPlan, hRests.node, hRests.evidence,
      hComplete⟩
  · let n' : Node :=
      { n with
        evidence := some (archivedAs archive e)
        updatedAt := ev.ts }
    have hStep : evidenceStep ev e.attempt e.sessionId
        "evidence archive has no recorded Pi session"
        (archivedAs archive) n = .ok (some n') := by
      simp [evidenceStep, hRests.evidence, hComplete, n']
    rw [hStep] at hPlan
    refine ⟨[.node n'], n', archivedAs archive e, hPlan, ?_,
      rfl, rfl⟩
    have hId : n'.nodeId = id := hValid.nodeId
    change (d.putNode n').nodes.lookup id = some n'
    rw [Disk.putNode_nodes, hId, Finmap.lookup_insert]

theorem reported_invariant (env : RunEnv) :
    NodeInvariant env (fun n =>
      n.lastReport ≠ none → n.status.isTerminal = true) := by
  constructor
  · intro ev id n hNew hSome
    exact absurd (newNode_fresh hNew).lastReport hSome
  · intro d ev id n n' hRewrite hBefore
    cases hRewrite with
    | status s hKind hStatus hLive =>
        intro hSome
        rw [hBefore hSome] at hLive
        cases hLive
    | reported s hKind hTerminal => exact fun _ => hTerminal
    | retried facts hKind hLive =>
        intro hSome
        exact absurd rfl hSome
    | resumed attempt messageId facts hKind hAttempt hLater
        hLive =>
        intro hSome
        rw [hBefore hSome] at hLive
        cases hLive
    | _ => exact hBefore

/- The projection after some of the writes of an event. -/
theorem Filed.cut
    (hFiled : Filed T id copy s)
    (hMem : ev ∈ s.events)
    (hPlan : reduceEventToOps T.env s ev = .ok ops)
    (j : Nat) :
    Filed T id copy (applyOps (ops.take j) s) := by
  have hEvents := Disk.applyOps_events (ops.take j) s
  have hMark :
      (applyOps (ops.take j) s).appliedSeq = s.appliedSeq :=
    appliedSeq_of_plan hPlan rfl j
  have hLast : (applyOps (ops.take j) s).lastSeq = s.lastSeq :=
    lastSeq_congr (applyOps_lines _ s)
  constructor
  · rw [hEvents]
    exact hFiled.keyed
  · intro n hLookup
    rcases lookup_take_of_plan hPlan j id with hSame | hWhole
    · exact hFiled.reported n (hSame.symm.trans hLookup)
    rw [hWhole] at hLookup
    have hChange := nodeChange_of_reduce hPlan id
    rw [hLookup] at hChange
    generalize hBefore : s.nodes.lookup id = before at hChange
    cases hChange with
    | kept => exact hFiled.reported n hBefore
    | created _ hKind hNode hNew =>
        exact (reported_invariant T.env).created ev id n hNew
    | rewritten n₀ _ hNode hRewrite =>
        exact (reported_invariant T.env).rewritten s ev id n₀ n
          hRewrite (hFiled.reported n₀ hBefore)
  · intro ev' hMem' hArchives
    rw [hEvents] at hMem'
    rcases hFiled.facts ev' hMem' hArchives with ⟨n, e, hRests⟩
    rcases onward_of_cut hPlan hRests.node j with
      ⟨n', hLookup', hOnward⟩
    exact ⟨n', hRests.onward hLookup' hOnward hMark hLast⟩
  · intro n e hLookup hSome hComplete
    rw [hEvents]
    rcases lookup_take_of_plan hPlan j id with hSame | hWhole
    · exact hFiled.complete n e (hSame.symm.trans hLookup) hSome
        hComplete
    rw [hWhole] at hLookup
    have hChange := nodeChange_of_reduce hPlan id
    rw [hLookup] at hChange
    generalize hBefore : s.nodes.lookup id = before at hChange
    cases hChange with
    | kept => exact hFiled.complete n e hBefore hSome hComplete
    | created _ hKind hNode hNew =>
        rw [pending_of_newNode hNew hSome] at hComplete
        cases hComplete
    | rewritten n₀ _ hNode hRewrite =>
        have hStill := terminal_of_rewrite hRewrite
        cases evidenceMove_of_reduce hPlan hBefore hLookup with
        | kept hSame =>
            rcases hFiled.complete n₀ e hBefore
              (hSame.symm.trans hSome) hComplete with
              ⟨hOver, hWitness⟩
            exact ⟨hStill hOver, hWitness⟩
        | spawned hLive hPending =>
            rw [hPending e hSome] at hComplete
            cases hComplete
        | failed e₀ e₁ hKind hWas hOpen hNow hSame hStatus =>
            rw [hNow, Option.some.injEq] at hSome
            rw [← hSome, hStatus] at hComplete
            cases hComplete
        | archived e₀ e₁ hKind hWas hOpen hNow hSame hBy =>
            rw [hNow, Option.some.injEq] at hSome
            have hArchives : Archives id ev := ⟨hKind, hNode⟩
            rcases hFiled.facts ev hMem hArchives with
              ⟨n₁, e₁', hRests⟩
            have hOver := hRests.terminal
            have hIs := hRests.node.symm.trans hBefore
            rw [Option.some.injEq] at hIs
            rw [hIs] at hOver
            exact ⟨hStill hOver, ev, hMem, hArchives,
              hSome ▸ hBy⟩

theorem Filed.torn
    {b : Bool} (hFiled : Filed T id copy s) :
    Filed T id copy { s with torn := b } where
  keyed := hFiled.keyed
  reported := hFiled.reported
  facts := by
    intro ev hMem hArchives
    rcases hFiled.facts ev hMem hArchives with ⟨n, e, hRests⟩
    exact ⟨n, hRests.onward hRests.node (.refl n) rfl rfl⟩
  complete := hFiled.complete

/- Folding the next event passes the watermark over it. -/
theorem Filed.folded
    (hBacked : Backed T.env s)
    (hFiled : Filed T id copy s)
    (hMem : ev ∈ s.events)
    (hAhead : s.appliedSeq < ev.seq)
    (hPlan : reduceEventToOps T.env s ev = .ok ops) :
    Filed T id copy ((applyOps ops s).advance ev.seq) := by
  have hAll := hFiled.cut hMem hPlan ops.length
  rw [List.take_length] at hAll
  have hOld := appliedSeq_of_whole hPlan
  have hMark :=
    appliedSeq_folded hBacked.manifest hAhead hPlan
  have hEvents :
      ((applyOps ops s).advance ev.seq).events = s.events := by
    rw [Disk.advance_events, Disk.applyOps_events]
  have hLast := lastSeq_folded ops s ev.seq
  have hBound : ev.seq ≤ s.lastSeq :=
    seq_le_lastSeqOf hBacked.ordered.increasing hMem
  constructor
  · rw [hEvents]
    exact hFiled.keyed
  · rw [Disk.advance_nodes]
    exact hAll.reported
  · intro ev' hMem' hArchives
    rw [hEvents] at hMem'
    rcases hAll.facts ev' (by simpa using hMem') hArchives with
      ⟨n, e, hRests⟩
    refine ⟨n, e, by rw [Disk.advance_nodes]; exact hRests.node,
      hRests.terminal, hRests.evidence, hRests.names,
      hRests.copied, ?_, ?_⟩
    · intro hDone
      rw [hMark] at hDone
      by_cases hBefore : ev'.seq ≤ s.appliedSeq
      · exact hRests.folded (hOld.symm ▸ hBefore)
      -- the fact past the watermark is the event just folded
      rcases hFiled.facts ev' hMem' hArchives with
        ⟨n₀, e₀, hRests₀⟩
      have hSeq := hRests₀.last (not_le.mp hBefore)
      obtain rfl : ev' = ev :=
        seq_injective hBacked.ordered hMem' hMem (by omega)
      rcases hRests₀.plan hArchives
        (hBacked.nodes id n₀ hRests₀.node) with
        ⟨ops', n', e', hPlan', hLookup', hSome', hComplete⟩
      rw [hPlan, Except.ok.injEq] at hPlan'
      subst hPlan'
      rw [hRests.node, Option.some.injEq] at hLookup'
      subst hLookup'
      rw [hRests.evidence, Option.some.injEq] at hSome'
      rw [hSome']
      exact hComplete
    · intro hLater
      rw [hMark] at hLater
      rw [hLast]
      have hSeq := hRests.last (by omega)
      rwa [show (applyOps ops s).lastSeq = s.lastSeq from
        lastSeq_congr (applyOps_lines ops s)] at hSeq
  · rw [Disk.advance_nodes, hEvents]
    simpa using hAll.complete

end Filed

------------------------------------------------------------
-- What the Operations Keep
------------------------------------------------------------

/- An archived fact of the node is in the log. -/
def OnRecord (id : NodeId) (d : Disk) : Prop :=
  ∃ ev ∈ d.events, Archives id ev

/- Such a fact is folded. -/
def FactsFolded (id : NodeId) (d : Disk) : Prop :=
  ∀ ev ∈ d.events, Archives id ev → ev.seq ≤ d.appliedSeq

/- The node is still there, and has moved on. -/
def Moved (id : NodeId) (d d' : Disk) : Prop :=
  ∀ n, d.nodes.lookup id = some n →
    ∃ n', d'.nodes.lookup id = some n' ∧ Onward n n'

theorem Moved.refl (id : NodeId) (d : Disk) : Moved id d d :=
  fun n hLookup => ⟨n, hLookup, .refl n⟩

theorem Moved.trans
    {id : NodeId} {d₁ d₂ d₃ : Disk}
    (hFirst : Moved id d₁ d₂)
    (hSecond : Moved id d₂ d₃) : Moved id d₁ d₃ := by
  intro n₁ hLookup₁
  rcases hFirst n₁ hLookup₁ with ⟨n₂, hLookup₂, hOnward₂⟩
  rcases hSecond n₂ hLookup₂ with ⟨n₃, hLookup₃, hOnward₃⟩
  exact ⟨n₃, hLookup₃, hOnward₂.trans hOnward₃⟩

/- The node has moved on from a value of it. -/
def Held (id : NodeId) (n : Node) (d : Disk) : Prop :=
  ∃ n', d.nodes.lookup id = some n' ∧ Onward n n'

theorem Held.moved
    {id : NodeId} {n : Node} {d d' : Disk}
    (hHeld : Held id n d)
    (hMoved : Moved id d d') : Held id n d' := by
  rcases hHeld with ⟨n₁, hLookup, hFirst⟩
  rcases hMoved n₁ hLookup with ⟨n₂, hLookup', hSecond⟩
  exact ⟨n₂, hLookup', hFirst.trans hSecond⟩

/-
  What is filed since a run was at `d`. A fact is on record
  only where `known` says so.
-/
structure FiledSince
    (T : Tools) (id : NodeId) (copy : Option Bytes)
    (known : Prop) (d s : Disk) : Prop where
  backed : Backed T.env s
  filed : Filed T id copy s
  moved : Moved id d s
  only : OnRecord id s → known

section Operations

variable {T : Tools} {id : NodeId} {copy : Option Bytes}
variable {known : Prop} {d s : Disk} {ev : Event}
variable {ops : List ProjectionOp}

theorem FiledSince.cut
    (hSince : FiledSince T id copy known d s)
    (hFoldable : Foldable s ev)
    (hMem : ev ∈ s.events)
    (hPlan : reduceEventToOps T.env s ev = .ok ops)
    (j : Nat) :
    FiledSince T id copy known d
      (applyOps (ops.take (j + 1)) s) where
  backed := hSince.backed.cut hFoldable hPlan j
  filed := hSince.filed.cut hMem hPlan (j + 1)
  moved := by
    intro n hLookup
    rcases hSince.moved n hLookup with ⟨n₁, hHere, hFirst⟩
    rcases onward_of_cut hPlan hHere (j + 1) with
      ⟨n₂, hThere, hSecond⟩
    exact ⟨n₂, hThere, hFirst.trans hSecond⟩
  only := by
    unfold OnRecord
    rw [Disk.applyOps_events]
    exact hSince.only

theorem FiledSince.folded
    (hSince : FiledSince T id copy known d s)
    (hMem : ev ∈ s.events)
    (hAhead : s.appliedSeq < ev.seq)
    (hPlan : reduceEventToOps T.env s ev = .ok ops) :
    FiledSince T id copy known d
      ((applyOps ops s).advance ev.seq) where
  backed := hSince.backed.folded hMem hAhead hPlan
  filed := hSince.filed.folded hSince.backed hMem hAhead hPlan
  moved := by
    intro n hLookup
    rcases hSince.moved n hLookup with ⟨n₁, hHere, hFirst⟩
    rcases onward_of_reduce hPlan hHere with
      ⟨n₂, hThere, hSecond⟩
    exact ⟨n₂, by rwa [Disk.advance_nodes],
      hFirst.trans hSecond⟩
  only := by
    unfold OnRecord
    rw [Disk.advance_events, Disk.applyOps_events]
    exact hSince.only

theorem kept_filedSince
    (T : Tools) (id : NodeId) (copy : Option Bytes)
    (known : Prop) (d : Disk) :
    Kept T.env (FiledSince T id copy known d) where
  backed := fun _ hSince => hSince.backed
  torn := fun _ _ hSince =>
    ⟨hSince.backed.torn, hSince.filed.torn, hSince.moved,
      hSince.only⟩
  cut := fun _ _ _ j hSince hMem hFoldable hPlan =>
    hSince.cut hFoldable hMem hPlan j
  folded := fun _ _ _ hSince hMem hAhead hPlan =>
    hSince.folded hMem hAhead hPlan

/- A catch-up takes an archived fact that is left to fold. -/
theorem Filed.factsFolded
    (hBacked : Backed T.env s)
    (hFiled : Filed T id copy s)
    (hSettled : Settled T.env s) : FactsFolded id s := by
  intro ev hMem hArchives
  by_contra hAhead
  have hLt := not_le.mp hAhead
  rcases Option.ne_none_iff_exists'.mp hBacked.manifest with
    ⟨m, hSome⟩
  rw [Disk.appliedSeq_of_manifest hSome] at hLt
  rcases hSettled.refused m hSome ev hMem hLt with
    ⟨error, hRefused⟩
  rcases hFiled.facts ev hMem hArchives with ⟨n, e, hRests⟩
  rcases hRests.plan hArchives
    (hBacked.nodes id n hRests.node) with ⟨ops, _, _, hPlan, _⟩
  rw [hRefused] at hPlan
  cases hPlan

theorem FiledSince.wp_catchUp
    (hSince : FiledSince T id copy known d s) :
    Durable.wp (replayUnappliedUnlocked T.env)
      (fun _ s' => FiledSince T id copy known d s' ∧
        Abreast s' ∧ FactsFolded id s')
      (fun _ => FiledSince T id copy known d)
      (fun _ => FiledSince T id copy known d) s := by
  refine Durable.wp_mono
    (Durable.wp_and
      ((kept_filedSince T id copy known d).wp_catchUp hSince)
      (wp_catchUp_settled hSince.backed.ordered))
    ?_ (fun _ _ h => h.1.1) (fun _ _ h => h.1.1)
  rintro _ s' ⟨⟨hHere, _, hAbreast⟩, _, hSettled⟩
  exact ⟨hHere, hAbreast,
    hHere.filed.factsFolded hHere.backed hSettled⟩

/- One more line, above facts that are all folded. -/
theorem Filed.log
    (hFiled : Filed T id copy s)
    (hFolded : FactsFolded id s)
    (hKeyed : ev.kind = .workerEvidenceArchived →
      ∀ e, ev.idempotencyKey = some (archivedKey id e) →
      ev.nodeId = some id)
    (hFact : Archives id ev →
      ∃ n e, Rests T id copy (s.log ev) ev n e) :
    Filed T id copy (s.log ev) := by
  constructor
  · intro ev' hMem'
    rw [Disk.log_events, List.mem_append,
      List.mem_singleton] at hMem'
    rcases hMem' with hOld | rfl
    · exact hFiled.keyed ev' hOld
    · exact hKeyed
  · exact hFiled.reported
  · intro ev' hMem' hArchives
    rw [Disk.log_events, List.mem_append,
      List.mem_singleton] at hMem'
    rcases hMem' with hOld | rfl
    · rcases hFiled.facts ev' hOld hArchives with
        ⟨n, e, hRests⟩
      exact ⟨n, e, hRests.node, hRests.terminal, hRests.evidence,
        hRests.names, hRests.copied, hRests.folded,
        fun hAhead => absurd (hFolded ev' hOld hArchives)
          (not_le.mpr hAhead)⟩
    · exact hFact hArchives
  · intro n e hLookup hSome hComplete
    rcases hFiled.complete n e hLookup hSome hComplete with
      ⟨hOver, ev', hMem', hRest⟩
    refine ⟨hOver, ev', ?_, hRest⟩
    rw [Disk.log_events]
    exact List.mem_append_left _ hMem'

theorem FiledSince.log
    (hSince : FiledSince T id copy known d s)
    (hAbreast : Abreast s)
    (hFolded : FactsFolded id s)
    (hSeq : ev.seq = s.lastSeq + 1)
    (hPlan : reduceEventToOps T.env s ev = .ok ops)
    (hKeyed : ev.kind = .workerEvidenceArchived →
      ∀ e, ev.idempotencyKey = some (archivedKey id e) →
      ev.nodeId = some id)
    (hFact : Archives id ev → known ∧
      ∃ n e, Rests T id copy (s.log ev) ev n e) :
    FiledSince T id copy known d (s.log ev) where
  backed :=
    hSince.backed.log hAbreast.1 hAbreast.2 hSeq hPlan
  filed :=
    hSince.filed.log hFolded hKeyed (fun hHere => (hFact hHere).2)
  moved := hSince.moved
  only := by
    rintro ⟨ev', hMem', hArchives⟩
    rw [Disk.log_events, List.mem_append,
      List.mem_singleton] at hMem'
    rcases hMem' with hOld | rfl
    · exact hSince.only ⟨ev', hOld, hArchives⟩
    · exact (hFact hArchives).1

------------------------------------------------------------
-- Records
------------------------------------------------------------

theorem colon_notMem (id : NodeId) : ':' ∉ id.val.toList := by
  have hValid := id.valid
  unfold NodeId.wellFormed at hValid
  split at hValid
  next body hList =>
    simp only [Bool.and_eq_true, List.all_eq_true] at hValid
    rw [hList]
    intro hMem
    simp only [List.mem_cons, Char.reduceEq, false_or] at hMem
    exact absurd (hValid.2 ':' hMem) (by decide)
  next => cases hValid

theorem takeWhile_colon (id : NodeId) (rest : List Char) :
    (id.val.toList ++ ':' :: rest).takeWhile (· ≠ ':') =
      id.val.toList := by
  rw [List.takeWhile_append_of_pos]
  · simp
  · intro c hMem
    simp only [ne_eq, decide_not, Bool.not_eq_eq_eq_not,
      Bool.not_true, decide_eq_false_iff_not]
    rintro rfl
    exact colon_notMem id hMem

theorem keyed_toList (start name attempt session : String) :
    (start ++ name ++ ":" ++ attempt ++ ":" ++ session).toList =
      start.toList ++ (name.toList ++
        ':' :: (attempt ++ ":" ++ session).toList) := by
  simp

/- The key of an archived fact is that of one node. -/
theorem archivedKey_injective
    {id₁ id₂ : NodeId} {e₁ e₂ : WorkerEvidence}
    (hKey : archivedKey id₁ e₁ = archivedKey id₂ e₂) :
    id₁ = id₂ := by
  have hLists := congrArg String.toList hKey
  unfold archivedKey at hLists
  rw [keyed_toList, keyed_toList] at hLists
  have hSame := congrArg (List.takeWhile (· ≠ ':'))
    (List.append_cancel_left hLists)
  rw [takeWhile_colon, takeWhile_colon] at hSame
  have hVal := String.toList_injective hSame
  cases id₁
  cases id₂
  simp only at hVal
  simp only [hVal]

/- Calls that leave the archived facts of the node alone. -/
def SparesFacts (T : Tools) (id : NodeId) (r : Request) : Prop :=
  r.kind = .workerEvidenceArchived →
    ∃ now n e c, n.nodeId ≠ id ∧ r = archivedRequest T now n e c

theorem SparesFacts.key
    {r : Request} {seq : Nat}
    (hSpares : SparesFacts T id r)
    (hKind : (r.event T.env seq).kind = .workerEvidenceArchived)
    (e : WorkerEvidence) :
    (r.event T.env seq).idempotencyKey ≠
      some (archivedKey id e) := by
  rcases hSpares hKind with ⟨now, n, e', c, hOther, rfl⟩
  intro hKey
  exact hOther (archivedKey_injective (Option.some.inj hKey))

theorem SparesFacts.not_archives
    {r : Request} {seq : Nat}
    (hSpares : SparesFacts T id r) :
    ¬ Archives id (r.event T.env seq) := by
  rintro ⟨hKind, hNode⟩
  rcases hSpares hKind with ⟨now, n, e', c, hOther, rfl⟩
  exact hOther (Option.some.inj hNode)

theorem FiledSince.wp_call
    (call : Call)
    (hSpares : ∀ r, call.Asks r → SparesFacts T id r)
    (hSince : FiledSince T id copy known d s) :
    Durable.wp (call.run T.env)
      (fun _ => FiledSince T id copy known d)
      (fun _ => FiledSince T id copy known d)
      (fun _ => FiledSince T id copy known d) s := by
  refine Taskfleet.wp_call call
    (I := FiledSince T id copy known d)
    (R := fun s => FiledSince T id copy known d s ∧
      Abreast s ∧ FactsFolded id s)
    (fun _ hHere => hHere.wp_catchUp) (fun _ hR => hR.1)
    (fun _ hR => hR.1) (fun _ hR => hR.1.backed.readable) ?_
    hSince
  rintro s last r ops hAsks ⟨hHere, hAbreast, hFolded⟩ hLast hPlan
  obtain rfl :=
    recoverLastSeq_eq hHere.backed.ordered.plain hLast
  have hOther := hSpares r hAsks
  have hLogged := hHere.log hAbreast hFolded rfl hPlan
    (fun hKind e hKey => absurd hKey (hOther.key hKind e))
    (fun hArchives => absurd hArchives hOther.not_archives)
  have hWrites := (kept_filedSince T id copy known d).ahead
    |>.gateWrites hHere hLogged rfl hPlan
  exact ⟨hWrites.torn.1, hWrites.logged.1,
    fun j hj => (hWrites.projected j hj).1,
    fun hBehind => (hWrites.applied hBehind).1,
    hWrites.done.1⟩

/- The node is here, and its evidence is complete. -/
def Recorded (id : NodeId) (s : Disk) : Prop :=
  ∃ n e, s.nodes.lookup id = some n ∧ n.evidence = some e ∧
    e.status = .complete

theorem Filed.recorded
    (hFiled : Filed T id copy s)
    (hFolded : FactsFolded id s)
    (hOn : OnRecord id s) : Recorded id s := by
  rcases hOn with ⟨ev, hMem, hArchives⟩
  rcases hFiled.facts ev hMem hArchives with ⟨n, e, hRests⟩
  exact ⟨n, e, hRests.node, hRests.evidence,
    hRests.folded (hFolded ev hMem hArchives)⟩

theorem arm_of_plan
    (hArchives : Archives id ev)
    (hPlan : reduceEventToOps T.env s ev = .ok ops) :
    ev.runId = T.env.runId ∧
      ∃ step, workerEvidenceArchivedArm ev id = .ok step := by
  rcases reduce_eq_ok.mp hPlan with ⟨hRun, hKind⟩
  have hArm : nodeArm T.env s ev id =
      some (workerEvidenceArchivedArm ev id) := by
    simp only [nodeArm, hArchives.1]
  rw [reduceKind_eq_arm hArm hArchives.2, bind_eq_ok] at hKind
  rcases hKind with ⟨step, hStep, _⟩
  exact ⟨hRun, step, hStep⟩

section Own

variable {n : Node} {e : WorkerEvidence} {c : Captured}
variable {now : Time}

theorem attempt_of_read
    {k attempt : Nat}
    (hGet : ev.data.get "attempt" = some (.int k))
    (hAttempt : ev.evidenceAttempt = .ok attempt) :
    attempt = k := by
  unfold Event.evidenceAttempt at hAttempt
  rw [orError_eq_ok, hGet, Option.bind_some] at hAttempt
  unfold Json.asU32 Json.asUnsigned at hAttempt
  exact (asU64_eq (Option.filter_eq_some_iff.mp hAttempt).1).symm

theorem archivedRequest_reads
    (T : Tools) (now : Time) (n : Node) (e : WorkerEvidence)
    (c : Captured) (seq : Nat) :
    ((archivedRequest T now n e c).event T.env
        seq).data.get "attempt" = some (.int e.attempt) ∧
      ((archivedRequest T now n e c).event T.env
        seq).wantStr "session_id" = .ok e.sessionId ∧
      ((archivedRequest T now n e c).event T.env
        seq).wantStr "transcript_sha256" =
          .ok (T.sha256 c.transcript) := by
  refine ⟨rfl, orError_eq_ok.mpr ?_, orError_eq_ok.mpr ?_⟩ <;>
    simp [archivedRequest, Request.event, Json.getStr, Json.get,
      Json.asStr, List.lookup_cons]

/- The fact of a call names the session that it is called for. -/
theorem names_of_plan
    {seq : Nat}
    (hNode : n.nodeId = id)
    (hPlan : reduceEventToOps T.env s
      ((archivedRequest T now n e c).event T.env seq) =
        .ok ops) :
    Names T.env id
      ((archivedRequest T now n e c).event T.env seq) e := by
  have hArchives : Archives id
      ((archivedRequest T now n e c).event T.env seq) :=
    ⟨rfl, congrArg some hNode⟩
  rcases arm_of_plan hArchives hPlan with ⟨hRun, step, hArm⟩
  rcases archivedArm_eq_ok hArm with
    ⟨attempt, session, archive, hAttempt, hSession, _⟩
  have hReads := archivedRequest_reads T now n e c seq
  rw [attempt_of_read hReads.1 hAttempt] at hAttempt
  exact ⟨hRun, ⟨step, hArm⟩, hAttempt, hReads.2.1⟩

theorem rests_logged
    {seq : Nat} {n' : Node}
    (hBacked : Backed T.env s)
    (hNode : n.nodeId = id)
    (hOver : n.status.isTerminal = true)
    (hSome : n.evidence = some e)
    (hLookup : s.nodes.lookup id = some n')
    (hOnward : Onward n n')
    (hCopy : copy = some c.transcript)
    (hSeq : seq = s.lastSeq + 1)
    (hPlan : reduceEventToOps T.env s
      ((archivedRequest T now n e c).event T.env seq) =
        .ok ops) :
    ∃ e', Rests T id copy
      (s.log ((archivedRequest T now n e c).event T.env seq))
      ((archivedRequest T now n e c).event T.env seq) n' e' := by
  rcases hOnward.session hOver e hSome with ⟨e', hNow, hSame⟩
  have hReads := archivedRequest_reads T now n e c seq
  refine ⟨e', hLookup, hOnward.terminal hOver, hNow,
    (names_of_plan hNode hPlan).mono hSame,
    ⟨c.transcript, hCopy, hReads.2.2⟩, ?_, ?_⟩
  · intro hDone
    change seq ≤ s.appliedSeq at hDone
    have hBehind := hBacked.behind
    omega
  · intro _
    rw [Disk.lastSeq, Disk.log_events, lastSeqOf_concat]

theorem FiledSince.gate_record
    (hNode : n.nodeId = id)
    (hHeld : Held id n d)
    (hOver : n.status.isTerminal = true)
    (hSome : n.evidence = some e)
    (hCopy : copy = some c.transcript)
    (hSince : FiledSince T id copy True d s)
    (hAbreast : Abreast s)
    (hFolded : FactsFolded id s)
    (hPlan : reduceEventToOps T.env s
      ((archivedRequest T now n e c).event T.env
        (s.lastSeq + 1)) = .ok ops) :
    GateWrites (fun _ => FiledSince T id copy True d)
      (fun s' => FiledSince T id copy True d s' ∧
        Recorded id s') s
      ((archivedRequest T now n e c).event T.env
        (s.lastSeq + 1)) ops := by
  rcases hHeld.moved hSince.moved with ⟨n', hLookup, hOnward⟩
  have hKept := kept_filedSince T id copy True d
  have hArchives : Archives id
      ((archivedRequest T now n e c).event T.env
        (s.lastSeq + 1)) := ⟨rfl, congrArg some hNode⟩
  have hLogged := hSince.log hAbreast hFolded rfl hPlan
    (fun _ _ _ => hArchives.2)
    (fun _ => ⟨trivial, n', rests_logged hSince.backed hNode
      hOver hSome hLookup hOnward hCopy rfl hPlan⟩)
  have hWrites :=
    hKept.ahead.gateWrites hSince hLogged rfl hPlan
  have hMark := fun hAhead =>
    appliedSeq_folded hLogged.backed.manifest hAhead
      ((reduce_logged T.env s _).trans hPlan)
  refine ⟨hWrites.torn.1, hWrites.logged.1,
    fun j hj => (hWrites.projected j hj).1,
    fun hBehind => (hWrites.applied hBehind).1,
    hWrites.done.1, ?_⟩
  rcases hWrites.done.1.filed.facts _ (by simp) hArchives with
    ⟨n₁, e₁, hRests⟩
  exact ⟨n₁, e₁, hRests.node, hRests.evidence,
    hRests.folded
      (hMark (Nat.lt_succ_of_le hSince.backed.behind)).ge⟩

/- The fact of a call is in the log and folded by its answer. -/
theorem FiledSince.wp_record
    (hNode : n.nodeId = id)
    (hHeld : Held id n d)
    (hOver : n.status.isTerminal = true)
    (hSome : n.evidence = some e)
    (hCopy : copy = some c.transcript)
    (hSince : FiledSince T id copy True d s) :
    Durable.wp
      (appendAndApplyEvent T.env (archivedRequest T now n e c))
      (fun _ s' => FiledSince T id copy True d s' ∧
        Recorded id s')
      (fun _ => FiledSince T id copy True d)
      (fun _ => FiledSince T id copy True d) s := by
  apply wp_appendAndApplyEvent hSince.wp_catchUp
  · exact fun _ _ _ hR _ _ => hR.1
  · rintro s key prior ⟨hHere, _, hFolded⟩ hKey hFound
    rcases priorEvent_mem hFound with ⟨ev, hMem, hKind, hIs, _⟩
    have hMem' := Disk.mem_events.mpr hMem
    rw [← hKey] at hIs
    have hOn : ev.nodeId = some id :=
      hHere.filed.keyed ev hMem' hKind e
        (hIs.trans (congrArg (fun i => some (archivedKey i e))
          hNode))
    exact ⟨hHere, hHere.filed.recorded hFolded
      ⟨ev, hMem', hKind, hOn⟩⟩
  · intro s hR _
    refine wp_appendAndApplyReporting hR.1.wp_catchUp
      (fun _ hR => hR.1.backed.readable)
      (fun _ _ hR _ => hR.1) (fun _ _ _ hR _ _ => hR.1) ?_
    rintro s last ops ⟨hHere, hAbreast, hFolded⟩ hLast hPlan
    obtain rfl :=
      recoverLastSeq_eq hHere.backed.ordered.plain hLast
    exact hHere.gate_record hNode hHeld hOver hSome hCopy
      hAbreast hFolded hPlan

end Own

end Operations

end Evidence

end Taskfleet
