import Taskfleet.Agreement

/-
  Recovery of a failed run.

  Over every sequence of accepted events, a failed run turns
  done only by a status event that names the last confirmed
  merge of a node, with all nodes done; and whether it does
  is decided by the log before that event.

  Main declarations:
    * `Mirrored`, `mirrored_of_rebuild`
    * `LastMerge`, `RecoveryJustified`
    * `recovery_sound`
-/

------------------------------------------------------------
-- Merges the Fold Adopts
------------------------------------------------------------

namespace Taskfleet

open Fallible

/- Verdicts under which a confirmed merge is adopted. -/
def Verdict.Mergeable (v : Verdict) : Prop :=
  v = .live ∨ v = .settled .failed ∨ v = .settled .done

/- A confirmed merge reported on a node. -/
def MergeOn (id : NodeId) (ev : Event) : Prop :=
  ev.kind = .nodeReport ∧ ev.nodeId = some id ∧
    reportIsConfirmedMerge ev.data = true

section Fold

variable {env : RunEnv} {acc : NodeStatusAcc} {ev : Event}
variable {id : NodeId}

/- Nothing else adopts a merge. -/
theorem step_merge_other
    (hAligned : ev.Aligned)
    (hOther : ¬ MergeOn id ev) :
    (acc.step ev).confirmedMergeSeq id =
      acc.confirmedMergeSeq id := by
  unfold NodeStatusAcc.step
  cases hProbe : CancelProbe.decode ev with
  | none => rfl
  | some probe => ?_
  simp only [CancelProbe.decode, Option.bind_eq_bind,
    Option.pure_def, Option.bind_eq_some_iff,
    Option.some.injEq] at hProbe
  rcases hProbe with ⟨p, hSkim, rfl⟩
  unfold NodeStatusAcc.observe
  dsimp only
  cases hNode : ev.nodeId with
  | none => rfl
  | some i => ?_
  dsimp only
  cases hKind : ev.kind <;> dsimp only
  case nodeCreated =>
    unfold NodeStatusAcc.observeCreated
    split <;> rfl
  case nodeStatus =>
    unfold NodeStatusAcc.observeStatus
    split
    · rfl
    · split
      · rfl
      · split <;> rfl
  case nodeReport =>
    -- an adoption here would make it a merge on this node
    have hNot : reportIsConfirmedMerge p.reportValue = true →
        id ≠ i := by
      intro hMerge hHere
      exact hOther ⟨hKind, hHere ▸ hNode,
        hAligned.report hKind p hSkim hMerge⟩
    unfold NodeStatusAcc.observeReport
    split
    · rfl
    dsimp only
    split
    · split
      next hPermits =>
        simp only [permitsTerminalMergeRecovery,
          Bool.and_eq_true] at hPermits
        exact Function.update_of_ne (hNot hPermits.2) _ _
      · rfl
    · split
      · rfl
      · split
        next hAdopts =>
          exact Function.update_of_ne (hNot hAdopts.2) _ _
        · rfl

/- A confirmed merge on a node that can take it is adopted. -/
theorem step_merge_here
    (hLegible : ev.Legible)
    (hMerge : MergeOn id ev)
    (hMergeable : (acc.verdict id).Mergeable) :
    (acc.step ev).confirmedMergeSeq id = some ev.seq := by
  rcases hMerge with ⟨hKind, hNode, hConfirmed⟩
  rcases hLegible.skimmed with ⟨p, hSkim⟩
  rw [step_of_skimmed hSkim]
  unfold NodeStatusAcc.observe
  rw [hNode, hKind]
  dsimp only
  have hSame :=
    reportIsConfirmedMerge_aligned hKind hLegible.aligned hSkim
  unfold NodeStatusAcc.observeReport
  cases hStatus : acc.status id with
  | none =>
      rw [accVerdict_of_none hStatus] at hMergeable
      rcases hMergeable with h | h | h <;> cases h
  | some cur =>
      rw [accVerdict_of_status hStatus] at hMergeable
      dsimp only
      cases hTerminal : cur.isTerminal with
      | true =>
          rw [Status.verdict_settled hTerminal] at hMergeable
          have hPermits :
              permitsTerminalMergeRecovery cur
                p.reportValue = true := by
            unfold permitsTerminalMergeRecovery
            rw [hSame, hConfirmed]
            rcases hMergeable with h | h | h <;> cases h <;> rfl
          rw [if_pos rfl, if_pos hPermits]
          exact Function.update_self id _ _
      | false =>
          rw [if_neg (by simp),
            reportTerminalStatus_skim
              (reportTerminalStatus_of_confirmedMerge hConfirmed)
              hSkim]
          dsimp only
          rw [if_pos ⟨rfl, hSame.trans hConfirmed⟩]
          exact Function.update_self id _ _

/- On a node that is not there or cancelled it is not. -/
theorem step_merge_refused
    (hMerge : MergeOn id ev)
    (hNot : ¬ (acc.verdict id).Mergeable) :
    (acc.step ev).confirmedMergeSeq id =
      acc.confirmedMergeSeq id := by
  rcases hMerge with ⟨hKind, hNode, _⟩
  unfold NodeStatusAcc.step
  cases hProbe : CancelProbe.decode ev with
  | none => rfl
  | some probe => ?_
  simp only [CancelProbe.decode, Option.bind_eq_bind,
    Option.pure_def, Option.bind_eq_some_iff,
    Option.some.injEq] at hProbe
  rcases hProbe with ⟨p, _, rfl⟩
  unfold NodeStatusAcc.observe
  rw [hNode, hKind]
  dsimp only
  unfold NodeStatusAcc.observeReport
  cases hStatus : acc.status id with
  | none => rfl
  | some cur =>
      rw [accVerdict_of_status hStatus] at hNot
      dsimp only
      cases hTerminal : cur.isTerminal with
      | true =>
          rw [if_pos rfl, if_neg]
          intro hPermits
          simp only [permitsTerminalMergeRecovery,
            Bool.and_eq_true, Bool.or_eq_true,
            beq_iff_eq] at hPermits
          rw [Status.verdict_settled hTerminal] at hNot
          rcases hPermits.1 with rfl | rfl
          · exact hNot (.inr (.inl rfl))
          · exact hNot (.inr (.inr rfl))
      | false =>
          exact absurd (.inl (Status.verdict_live hTerminal))
            hNot

end Fold

------------------------------------------------------------
-- Merges the Projections Adopt
------------------------------------------------------------

section Reducer

variable {env : RunEnv} {d : Disk} {ev : Event} {id : NodeId}
variable {ops : List ProjectionOp}

theorem merge_adopted
    (hMerge : MergeOn id ev)
    (hMergeable : (d.verdict id).Mergeable)
    (hPlan : reduceEventToOps env d ev = .ok ops) :
    ∃ n, (applyOps ops d).nodes.lookup id = some n ∧
      n.status = .done ∧ n.lastReport = some ev.data := by
  rcases hMerge with ⟨hKind, hNode, hConfirmed⟩
  have hArm :
      nodeArm env d ev id = some (.ok (nodeReportStep ev)) := by
    simp [nodeArm, hKind]
  have hKindPlan := (reduce_eq_ok.mp hPlan).2
  rw [reduceKind_eq_arm hArm hNode, ok_bind] at hKindPlan
  rcases onNode_eq_ok hKindPlan with
    ⟨hNone, _⟩ | ⟨n, hLookup, hValid, hCase⟩
  · rw [verdict_of_missing hNone] at hMergeable
    rcases hMergeable with h | h | h <;> cases h
  rcases hCase with ⟨hStep, rfl⟩ | ⟨n', hStep, rfl⟩
  · -- only the adopted report itself is passed over
    refine ⟨n, hLookup, ?_⟩
    unfold nodeReportStep at hStep
    cases hTerminal : n.status.isTerminal with
    | false => simp [hTerminal] at hStep
    | true =>
        rw [verdict_of_lookup hLookup,
          Status.verdict_settled hTerminal] at hMergeable
        have hPermits :
            permitsTerminalMergeRecovery n.status ev.data =
              true := by
          unfold permitsTerminalMergeRecovery
          rw [hConfirmed]
          rcases hMergeable with h | h | h
          · cases h
          · simp [Verdict.settled.inj h]
          · simp [Verdict.settled.inj h]
        by_contra hOther
        have hNot :
            ¬ (n.lastReport = some ev.data ∧
              n.status = .done) :=
          fun hBoth => hOther ⟨hBoth.2, hBoth.1⟩
        simp [hTerminal, hPermits, hNot] at hStep
  · have hSame := (nodeArm_move hArm hStep).1
    have hId : n'.nodeId = id :=
      hSame.nodeId.trans hValid.nodeId
    refine ⟨n', ?_, ?_⟩
    · change (d.putNode n').nodes.lookup id = some n'
      rw [Disk.putNode_nodes, hId, Finmap.lookup_insert]
    · rcases nodeReportStep_spec hStep with
        ⟨s, rfl, _, ⟨_, hRead⟩ | ⟨_, rfl, _⟩⟩
      · rw [reportTerminalStatus_of_confirmedMerge hConfirmed,
          Except.ok.injEq] at hRead
        exact ⟨hRead.symm, rfl⟩
      · exact ⟨rfl, rfl⟩

/- A node done by a report keeps it until the next merge. -/
theorem report_kept
    {n : Node}
    (hOther : ¬ MergeOn id ev)
    (hPlan : reduceEventToOps env d ev = .ok ops)
    (hLookup : d.nodes.lookup id = some n)
    (hDone : n.status = .done) :
    ∃ n', (applyOps ops d).nodes.lookup id = some n' ∧
      n'.status = .done ∧ n'.lastReport = n.lastReport := by
  have hEffect := nodeEffect_of_reduce hPlan id
  rw [hLookup] at hEffect
  generalize hAfter :
    (applyOps ops d).nodes.lookup id = after at hEffect
  have hTerminal : n.status.isTerminal = true := by
    rw [hDone]
    rfl
  cases hEffect with
  | kept => exact ⟨n, rfl, hDone, rfl⟩
  | moved _ n' hNode hMove =>
      cases hMove with
      | annotated _ _ hStatus hReport =>
          exact ⟨n', rfl, hStatus.trans hDone, hReport⟩
      | rewired _ hLive => simp [hTerminal] at hLive
      | status _ hLive => simp [hTerminal] at hLive
      | reported _ hLive => simp [hTerminal] at hLive
      | adopted hKind hPermits =>
          simp only [permitsTerminalMergeRecovery,
            Bool.and_eq_true] at hPermits
          exact absurd ⟨hKind, hNode, hPermits.2⟩ hOther

end Reducer

------------------------------------------------------------
-- Accepted Sequences
------------------------------------------------------------

/-
  The last confirmed merge on a node, by its number: an event
  of the run whose report is the one the node was done by.
-/
def LastMerge
    (env : RunEnv)
    (events : List Event)
    (d : Disk)
    (id : NodeId)
    (seq : Nat) : Prop :=
  ∃ ev ∈ events, ev.seq = seq ∧ ev.runId = env.runId ∧
    MergeOn id ev ∧
    (∀ e ∈ events, MergeOn id e → e.seq ≤ seq) ∧
    ∃ n, d.nodes.lookup id = some n ∧ n.status = .done ∧
      n.lastReport = some ev.data

/- The fold of the events describes the projections. -/
structure Mirrored
    (env : RunEnv) (events : List Event) (d : Disk) : Prop where
  verdicts : (logAcc events).verdict = d.verdict
  merges : ∀ id seq,
    (logAcc events).confirmedMergeSeq id = some seq →
      LastMerge env events d id seq

section Accepted

variable {env : RunEnv} {d d' : Disk} {ev : Event}
variable {events : List Event}

theorem mirrored_empty : Mirrored env [] Disk.empty := by
  refine ⟨rfl, ?_⟩
  rintro id seq ⟨⟩

theorem accept_eq_ok :
    accept env d ev = .ok d' ↔
      ∃ ops, reduceEventToOps env d ev = .ok ops ∧
        d' = (applyOps ops (d.log ev)).advance ev.seq := by
  unfold accept
  simp only [bind_eq_ok, pure_eq, Except.ok.injEq]
  constructor
  · rintro ⟨ops, hPlan, rfl⟩
    exact ⟨ops, hPlan, rfl⟩
  · rintro ⟨ops, hPlan, rfl⟩
    exact ⟨ops, hPlan, rfl⟩

theorem accepted_nodes (ops : List ProjectionOp) :
    ((applyOps ops (d.log ev)).advance ev.seq).nodes =
      (applyOps ops d).nodes := by
  rw [Disk.advance_nodes]
  exact ((sameProjections_log ev d).applyOps ops).nodes

theorem Mirrored.accept
    (hMirrored : Mirrored env events d)
    (hLater : ∀ e ∈ events, e.seq < ev.seq)
    (hLegible : ev.Legible)
    (hAccept : accept env d ev = .ok d') :
    Mirrored env (events ++ [ev]) d' := by
  rcases accept_eq_ok.mp hAccept with ⟨ops, hPlan, rfl⟩
  have hAdmissible : ev.kind.settles = true →
      Admissible env ev (logAcc events).verdict := by
    rw [hMirrored.verdicts]
    exact fun hSettles => admissible_of_plan hSettles hPlan
  refine ⟨?_, ?_⟩
  · rw [logAcc_concat, step_verdict hLegible hAdmissible,
      hMirrored.verdicts, ← verdict_of_plan hPlan]
    exact (verdict_congr (accepted_nodes ops)).symm
  · intro id seq hSeq
    rw [logAcc_concat] at hSeq
    unfold LastMerge
    rw [accepted_nodes ops]
    -- an old adoption finds its node done
    have hOld : ∀ r,
        (logAcc events).confirmedMergeSeq id = some r →
        ((logAcc events).verdict id).Mergeable := by
      intro r hMerge
      rcases hMirrored.merges id r hMerge with
        ⟨_, _, _, _, _, _, n, hLookup, hDone, _⟩
      rw [hMirrored.verdicts, verdict_of_lookup hLookup, hDone]
      exact .inr (.inr rfl)
    by_cases hMerge : MergeOn id ev
    · have hMergeable :
          ((logAcc events).verdict id).Mergeable := by
        by_contra hNot
        rw [step_merge_refused hMerge hNot] at hSeq
        exact hNot (hOld seq hSeq)
      rw [step_merge_here hLegible hMerge hMergeable,
        Option.some.injEq] at hSeq
      rw [hMirrored.verdicts] at hMergeable
      refine ⟨ev, by simp, hSeq, (reduce_eq_ok.mp hPlan).1,
        hMerge, ?_, merge_adopted hMerge hMergeable hPlan⟩
      intro e hMem _
      rw [List.mem_append, List.mem_singleton] at hMem
      rcases hMem with hEarlier | rfl
      · exact hSeq ▸ (hLater e hEarlier).le
      · exact hSeq.le
    · rw [step_merge_other hLegible.aligned hMerge] at hSeq
      rcases hMirrored.merges id seq hSeq with
        ⟨e, hMem, hNumber, hRun, hOn, hLast, n, hLookup, hDone,
          hReport⟩
      rcases report_kept hMerge hPlan hLookup hDone with
        ⟨n', hLookup', hDone', hReport'⟩
      refine ⟨e, by simp [hMem], hNumber, hRun, hOn, ?_, n',
        hLookup', hDone', hReport'.trans hReport⟩
      intro e' hMem' hOn'
      rw [List.mem_append, List.mem_singleton] at hMem'
      rcases hMem' with hEarlier | rfl
      · exact hLast e' hEarlier hOn'
      · exact absurd hOn' hMerge

/- A rebuilt run has the log it was rebuilt from. -/
theorem rebuild_lines
    (hRebuild : rebuild env events = .ok d) :
    d.lines = events.map .event := by
  induction events using List.reverseRecOn generalizing d with
  | nil =>
      cases hRebuild
      rfl
  | append_singleton events ev ih =>
      rw [rebuild_append, bind_eq_ok] at hRebuild
      rcases hRebuild with ⟨d₀, hBefore, hAccept⟩
      rcases accept_eq_ok.mp hAccept with ⟨ops, _, rfl⟩
      rw [applyOps_log_lines, ih hBefore, List.map_append]
      rfl

theorem mirrored_of_rebuild
    (hRebuild : rebuild env events = .ok d)
    (hSeqs : events.Pairwise (fun a b => a.seq < b.seq))
    (hLegible : ∀ e ∈ events, e.Legible) :
    Mirrored env events d := by
  induction events using List.reverseRecOn generalizing d with
  | nil =>
      cases hRebuild
      exact mirrored_empty
  | append_singleton events ev ih =>
      rw [rebuild_append, bind_eq_ok] at hRebuild
      rcases hRebuild with ⟨d₀, hBefore, hAccept⟩
      rw [List.pairwise_append] at hSeqs
      have hMirrored :=
        ih hBefore hSeqs.1
          (fun e hMem => hLegible e (by simp [hMem]))
      exact hMirrored.accept
        (fun e hMem => hSeqs.2.2 e hMem ev (by simp))
        (hLegible ev (by simp)) hAccept

theorem done_of_aggregate
    {statuses : List Status}
    (hDone : aggregateTerminalStatus statuses = some .done) :
    ∀ s ∈ statuses, s = .done := by
  intro s hMem
  have hSettled := (terminal_of_aggregate hDone).2 s hMem
  unfold aggregateTerminalStatus at hDone
  split at hDone
  · cases hDone
  split at hDone
  · cases hDone
  next hFailed =>
  split at hDone
  · cases hDone
  next hCancelled =>
  rw [List.contains_iff_mem] at hFailed hCancelled
  cases s with
  | done => rfl
  | failed => exact absurd hMem hFailed
  | cancelled => exact absurd hMem hCancelled
  | _ => cases hSettled

/- Recovery evidence is true of mirrored projections. -/
theorem recoveryEvidence_sound
    {wanted : Nat}
    (hRebuild : rebuild env events = .ok d)
    (hSeqs : events.Pairwise (fun a b => a.seq < b.seq))
    (hBefore : ∀ e ∈ events, e.seq < ev.seq)
    (hAligned : ∀ e ∈ events, e.Aligned)
    (hEvidence :
      recoveryEvidence d.lines ev.seq wanted = true) :
    (∃ id, LastMerge env events d id wanted) ∧
      ∀ id n, d.nodes.lookup id = some n → n.status = .done := by
  unfold recoveryEvidence at hEvidence
  rw [readNodeStatusFacts_eq, rebuild_lines hRebuild]
    at hEvidence
  cases hFold :
      statusAcc (events.map .event) (some ev.seq) with
  | error e =>
      rw [hFold] at hEvidence
      cases hEvidence
  | ok acc => ?_
  rcases statusAcc_read
    (fun e hMem => by
      simpa [beforeBound] using hBefore e hMem) hFold with
    ⟨rfl, hSkimmed⟩
  have hMirrored :=
    mirrored_of_rebuild hRebuild hSeqs
      (fun e hMem => ⟨hSkimmed e hMem, hAligned e hMem⟩)
  have hAgree :=
    factsAgree_of_verdicts (tidy_logAcc events)
      hMirrored.verdicts
  rw [hFold, ok_bind] at hEvidence
  simp only [Bool.and_eq_true, beq_iff_eq, List.any_eq_true]
    at hEvidence
  rcases hEvidence with ⟨hAll, fact, hFact, hSeq⟩
  have hDone := done_of_aggregate hAll
  refine ⟨⟨fact.nodeId, hMirrored.merges _ _ ?_⟩, ?_⟩
  · rw [← (mem_finishFacts.mp hFact).2.2, hSeq]
  · intro id n hLookup
    rcases List.mem_map.mp ((hAgree.nodes id).mpr ⟨n, hLookup⟩)
      with ⟨f, hMem, rfl⟩
    have hVerdict := hAgree.verdicts f hMem n hLookup
    rw [hDone f.status (List.mem_map_of_mem hMem)] at hVerdict
    cases hTerminal : n.status.isTerminal with
    | true =>
        rw [Status.verdict_settled hTerminal] at hVerdict
        exact (Verdict.settled.inj hVerdict).symm
    | false =>
        rw [Status.verdict_live hTerminal] at hVerdict
        cases hVerdict

theorem SameProjections.runStatus
    (hSame : SameProjections d d') :
    d.runStatus = d'.runStatus := by
  have hStatuses :=
    congrArg (Option.map Manifest.status) hSame.manifest
  simpa [Disk.runStatus, Option.map_map, Function.comp_def,
    Manifest.unstamped] using hStatuses

theorem accepted_runEffect
    (hAccept : accept env d ev = .ok d') :
    RunEffect d ev d.runStatus d'.runStatus := by
  rcases accept_eq_ok.mp hAccept with ⟨ops, hPlan, rfl⟩
  rw [advance_runStatus,
    ((sameProjections_log ev d).applyOps ops).runStatus]
  exact runEffect_of_reduce hPlan

end Accepted

------------------------------------------------------------
-- Soundness of Recovery
------------------------------------------------------------

/- What entitles an event to carry a failed run to done. -/
structure RecoveryJustified
    (env : RunEnv)
    (events : List Event)
    (d : Disk)
    (ev : Event) : Prop where
  kind : ev.kind = .runStatus
  children :
    (ev.data.get "children_successful").bind Json.asBool =
      some true
  merge : ∃ seq id,
    (ev.data.get "recovery_merge_report_seq").bind
        Json.asU64 = some seq ∧
      seq < ev.seq ∧ LastMerge env events d id seq
  nodes : ∀ id n,
    d.nodes.lookup id = some n → n.status = .done

/-
  The decision on an event, on any state that has the same
  projections and the same log up to events that are later.
-/
def DecidedBefore (env : RunEnv) (d : Disk) (ev : Event) :
    Prop :=
  ∀ (s : Disk) (later : List Event),
    (∀ e ∈ later, ev.seq ≤ e.seq) →
    s.lines = d.lines ++ later.map .event →
    (∀ current newStatus,
        recoveryAllowed s ev current newStatus =
          recoveryAllowed d ev current newStatus) ∧
      (SameProjections s d →
        reduceEventToOps env s ev = reduceEventToOps env d ev)

theorem decidedBefore
    (env : RunEnv) (d : Disk) (ev : Event) :
    DecidedBefore env d ev := by
  intro s later hLater hLines
  have hEvidence : ∀ wanted,
      recoveryEvidence s.lines ev.seq wanted =
        recoveryEvidence d.lines ev.seq wanted := by
    intro wanted
    rw [hLines]
    exact recoveryEvidence_append hLater wanted
  refine ⟨fun current newStatus => ?_, fun hSame =>
    reduce_congr hSame (fun _ => hEvidence)⟩
  unfold recoveryAllowed
  rw [funext hEvidence]

namespace Sample

/- A failed run of one failed node, and one more report. -/
def failedRun (report : Json) : Disk :=
  after
    [createRun, createNode,
      .append
        (request .nodeReport (some .first)
          (.obj [("success", .bool false)])),
      .append
        (request .runStatus none
          (.obj [("status", .str "failed")])),
      .append (request .nodeReport (some .first) report)]

def mergeReport : Json :=
  .obj
    [("success", .bool true), ("via", .str "explicit-merge")]

/- A merge by position, which the reducer does not see. -/
def positionalReport : Json :=
  .arr
    [.str "x", .bool true, .bool false, .str "explicit-merge"]

/- The status event that recovers by the fifth event. -/
def recovers : Event :=
  event 6 .runStatus none
    (.obj
      [("children_successful", .bool true),
        ("recovery_merge_report_seq", .int 5),
        ("status", .str "done")])

theorem rebuild_failedRun (report : Json) :
    rebuild env (failedRun report).events =
      .ok (failedRun report) :=
  (clean_of_crashFreeRun (crashFreeRun_after _)).rebuilt

/- Either report lets the run turn done. -/
theorem accept_recovers
    {report : Json}
    (hReport :
      report = mergeReport ∨ report = positionalReport) :
    ∃ d', accept env (failedRun report) recovers = .ok d' ∧
      (failedRun report).runStatus = some .failed ∧
      d'.runStatus = some .done ∧
      ((failedRun report).events ++ [recovers]).Pairwise
        (fun a b => a.seq < b.seq) := by
  have hDone :
      ((accept env (failedRun report) recovers).toOption.map
          Disk.runStatus) = some (some .done) ∧
        (failedRun report).runStatus = some .failed ∧
        ((failedRun report).events ++ [recovers]).Pairwise
          (fun a b => a.seq < b.seq) := by
    rcases hReport with rfl | rfl <;> decide +kernel
  rcases hDone with ⟨hTurns, hFailed, hSeqs⟩
  rw [Option.map_eq_some_iff] at hTurns
  rcases hTurns with ⟨d', hAccept, hStatus⟩
  refine ⟨d', ?_, hFailed, hStatus, hSeqs⟩
  cases hResult : accept env (failedRun report) recovers with
  | error e =>
      rw [hResult] at hAccept
      cases hAccept
  | ok d'' =>
      rw [hResult] at hAccept
      cases hAccept
      rfl

end Sample

/-
  Over every sequence of accepted events whose payloads read
  alike, a failed run turns done only with cause, and every
  decision is one of the log before the event.
-/
theorem recovery_sound
    (env : RunEnv)
    (events : List Event)
    (ev : Event)
    (d d' : Disk)
    (hAccepted : rebuild env events = .ok d)
    (hNext : accept env d ev = .ok d')
    (hSeqs :
      (events ++ [ev]).Pairwise (fun a b => a.seq < b.seq))
    (hAligned : ∀ e ∈ events, e.Aligned) :
    (d.runStatus = some .failed → d'.runStatus = some .done →
        RecoveryJustified env events d ev) ∧
      DecidedBefore env d ev := by
  refine ⟨fun hFailed hDone => ?_, decidedBefore env d ev⟩
  rw [List.pairwise_append] at hSeqs
  have hEffect := accepted_runEffect hNext
  rw [hFailed, hDone] at hEffect
  cases hEffect with
  | moved _ _ hKind _ hOpen =>
      have hAllowed := hOpen rfl
      simp only [recoveryAllowed, Bool.and_eq_true,
        beq_iff_eq, Option.any_eq_true] at hAllowed
      rcases hAllowed with
        ⟨⟨_, hChildren⟩, wanted, hWanted, hEvidence⟩
      have hBefore : ∀ e ∈ events, e.seq < ev.seq :=
        fun e hMem => hSeqs.2.2 e hMem ev (by simp)
      rcases recoveryEvidence_sound hAccepted hSeqs.1 hBefore
        hAligned hEvidence with ⟨⟨id, hMerge⟩, hNodes⟩
      have hEarlier : wanted < ev.seq := by
        rcases hMerge with ⟨e, hMem, rfl, _⟩
        exact hBefore e hMem
      exact ⟨hKind, hChildren,
        ⟨wanted, id, hWanted, hEarlier, hMerge⟩, hNodes⟩

/- A late merge on the failed node lets its run recover. -/
theorem mergeReport_recovery_sound :
    ∃ d',
      accept Sample.env (Sample.failedRun Sample.mergeReport)
          Sample.recovers = .ok d' ∧
        d'.runStatus = some .done ∧
        RecoveryJustified Sample.env
          (Sample.failedRun Sample.mergeReport).events
          (Sample.failedRun Sample.mergeReport)
          Sample.recovers := by
  rcases Sample.accept_recovers (.inl rfl) with
    ⟨d', hAccept, hFailed, hDone, hSeqs⟩
  have hPlain :
      ∀ ev ∈ (Sample.failedRun Sample.mergeReport).events,
        ev.plain = true := by
    decide +kernel
  have hSound :=
    recovery_sound Sample.env _ Sample.recovers _ d'
      (Sample.rebuild_failedRun Sample.mergeReport) hAccept
      hSeqs
      (fun ev hMem =>
        (Event.legible_of_plain (hPlain ev hMem)).aligned)
  exact ⟨d', hAccept, hDone, hSound.1 hFailed hDone⟩

/- A merge by position recovers a run with a failed node. -/
theorem not_recovery_sound :
    ¬ ∀ (env : RunEnv) (events : List Event) (ev : Event)
        (d d' : Disk),
      rebuild env events = .ok d →
        accept env d ev = .ok d' →
        (events ++ [ev]).Pairwise (fun a b => a.seq < b.seq) →
        (d.runStatus = some .failed →
            d'.runStatus = some .done →
            RecoveryJustified env events d ev) ∧
          DecidedBefore env d ev := by
  intro hAlways
  rcases Sample.accept_recovers (.inr rfl) with
    ⟨d', hAccept, hFailed, hDone, hSeqs⟩
  have hJustified :=
    (hAlways Sample.env _ Sample.recovers _ d'
      (Sample.rebuild_failedRun Sample.positionalReport) hAccept
      hSeqs).1 hFailed hDone
  have hStatus :
      ((Sample.failedRun
          Sample.positionalReport).nodes.lookup .first).map
        Node.status = some .failed := by
    decide +kernel
  rw [Option.map_eq_some_iff] at hStatus
  rcases hStatus with ⟨n, hLookup, hNode⟩
  rw [hJustified.nodes .first n hLookup] at hNode
  cases hNode

end Taskfleet
