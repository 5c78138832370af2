import Taskfleet.Grounded
import Taskfleet.Ledger

/-
  Runs whose projections back the log.

  A verdict has a rank: not there, live, settled. The log is
  nowhere above the projections, save for the last event when
  it is past the watermark. No payload breaks this, for where
  the two readers of a payload differ it is the log that
  falls short.

  Main declarations:
    * `Verdict.rank`, `Under`, `step_under`
    * `Backed`, `Kept`
    * `Kept.wp_catchUp`, `Kept.wp_append`, `Kept.wp_refold`
-/

------------------------------------------------------------
-- Ranks
------------------------------------------------------------

namespace Taskfleet

open Fallible

namespace Verdict

def rank : Verdict → Nat
| .absent => 0
| .live => 1
| .settled _ => 2

theorem rank_le (v : Verdict) : v.rank ≤ 2 := by
  cases v <;> simp [rank]

theorem rank_eq_two {v : Verdict} :
    v.rank = 2 ↔ ∃ s, v = .settled s := by
  cases v <;> simp [rank]

theorem rank_eq_zero {v : Verdict} :
    v.rank = 0 ↔ v = .absent := by
  cases v <;> simp [rank]

end Verdict

/- No node is ranked higher by the first than by the second. -/
def Under (v w : NodeId → Verdict) : Prop :=
  ∀ id, (v id).rank ≤ (w id).rank

section Ranks

variable {env : RunEnv} {ev : Event}
variable {u v w : NodeId → Verdict}

theorem Under.refl (v : NodeId → Verdict) : Under v v :=
  fun _ => le_refl _

theorem Under.trans
    (hLow : Under u v) (hHigh : Under v w) : Under u w :=
  fun id => le_trans (hLow id) (hHigh id)

theorem rank_status (s : Status) :
    s.verdict.rank = if s.isTerminal then 2 else 1 := by
  unfold Status.verdict
  split <;> rfl

/- No event takes a node back. -/
theorem rank_move (w : Verdict) :
    w.rank ≤ (ev.move w).rank := by
  have hStatus : ∀ s : Status, 1 ≤ s.verdict.rank := by
    intro s
    rw [rank_status]
    split <;> omega
  unfold Event.move
  split
  · exact Nat.zero_le _
  · split
    · exact hStatus _
    · exact le_refl _
  · split
    · exact hStatus _
    · exact le_refl _
  · split <;> exact le_refl _
  · exact le_refl _

theorem under_moves : Under v (ev.moves v) := by
  intro id
  unfold Event.moves
  split
  · exact rank_move _
  · exact le_refl _

/- A report settles the node it is on. -/
theorem rank_report
    {id : NodeId}
    (hKind : ev.kind = .nodeReport)
    (hNode : ev.nodeId = some id)
    (hTakes : ev.Takes env id (w id))
    (hThere : w id ≠ .absent) :
    (ev.moves w id).rank = 2 := by
  unfold Event.moves
  rw [if_pos hNode]
  cases hVerdict : w id with
  | absent => exact absurd hVerdict hThere
  | live =>
      rw [hVerdict] at hTakes
      simp only [Event.Takes, hKind] at hTakes
      rcases hTakes with ⟨s, hRead⟩
      simp only [Event.move, hKind, hRead]
      rw [rank_status,
        reportTerminalStatus_isTerminal ev s hRead, if_pos rfl]
  | settled s =>
      simp only [Event.move, hKind]
      split <;> rfl

------------------------------------------------------------
-- The Fold Stays Below
------------------------------------------------------------

variable {acc : NodeStatusAcc} {id : NodeId}

theorem accVerdict_eq_absent :
    acc.verdict id = .absent ↔ acc.status id = none := by
  refine ⟨fun hAbsent => ?_, accVerdict_of_none⟩
  cases hStatus : acc.status id with
  | none => rfl
  | some s =>
      rw [accVerdict_of_status hStatus] at hAbsent
      exact absurd hAbsent (Status.verdict_ne_absent s)

/- A status the log reads is the one the reducer reads. -/
theorem rank_observeStatus
    {p : CancelProbeData} {s : Status}
    (hSkim : CancelProbeData.decode ev.data = some p)
    (hRead : ev.requireStatus = .ok s) :
    ((acc.observeStatus id p).verdict id).rank ≤
      max (acc.verdict id).rank s.verdict.rank := by
  unfold NodeStatusAcc.observeStatus
  split
  · exact le_max_left _ _
  split
  · exact le_max_left _ _
  rcases parseStatus_skim hRead hSkim with hParse | ⟨hParse, _⟩
  · rw [hParse]
    dsimp only
    rw [verdict_setStatus, if_pos rfl]
    exact le_max_right _ _
  · rw [hParse]
    exact le_max_left _ _

/- A creation seeds a live node, if any. -/
theorem created_under
    {p : CancelProbeData}
    (hSkim : CancelProbeData.decode ev.data = some p)
    (hKind : ev.kind = .nodeCreated)
    (hNode : ev.nodeId = some id)
    (hHere : (acc.verdict id).rank ≤ (w id).rank) :
    ((acc.step ev).verdict id).rank ≤
      (ev.moves w id).rank := by
  have hVerdict :
      (acc.step ev).verdict id = ev.move (acc.verdict id) := by
    rw [step_of_skimmed hSkim]
    unfold NodeStatusAcc.observe
    rw [hNode, hKind]
    dsimp only
    rw [observeCreated_verdict hKind hNode]
    exact if_pos hNode
  have hMoved : ev.moves w id = ev.move (w id) :=
    if_pos hNode
  rw [hVerdict, hMoved]
  revert hHere
  cases acc.verdict id <;> cases w id <;>
    simp [Event.move, hKind, Verdict.rank]

theorem status_under
    {p : CancelProbeData}
    (hSkim : CancelProbeData.decode ev.data = some p)
    (hKind : ev.kind = .nodeStatus)
    (hNode : ev.nodeId = some id)
    (hTakes : ev.Takes env id (w id))
    (hThere : w id ≠ .absent)
    (hHere : (acc.verdict id).rank ≤ (w id).rank) :
    ((acc.step ev).verdict id).rank ≤
      (ev.moves w id).rank := by
  have hStep : acc.step ev = acc.observeStatus id p := by
    rw [step_of_skimmed hSkim]
    unfold NodeStatusAcc.observe
    rw [hNode, hKind]
  rw [hStep]
  cases hVerdict : w id with
  | absent => exact absurd hVerdict hThere
  | settled s =>
      have hUp : (w id).rank ≤ (ev.moves w id).rank :=
        under_moves id
      rw [hVerdict] at hUp
      exact le_trans (Verdict.rank_le _) hUp
  | live =>
      rw [hVerdict] at hTakes hHere
      simp only [Event.Takes, hKind] at hTakes
      rcases hTakes with ⟨s, hRead⟩
      have hMoved : ev.moves w id = s.verdict := by
        simp [Event.moves, hNode, hVerdict, Event.move, hKind,
          hRead]
      have hLow :
          ((acc.observeStatus id p).verdict id).rank ≤
            max (acc.verdict id).rank s.verdict.rank :=
        rank_observeStatus hSkim hRead
      have hStatus : 1 ≤ s.verdict.rank := by
        rw [rank_status]
        split <;> omega
      have hOne : (acc.verdict id).rank ≤ 1 := hHere
      rw [hMoved]
      omega

/- One more event of a log that was nowhere above. -/
theorem step_under
    (hAdmissible : ev.kind.settles = true →
      Admissible env ev w)
    (hUnder : Under acc.verdict w) :
    Under (acc.step ev).verdict (ev.moves w) := by
  intro id
  have hHere := hUnder id
  have hKept :
      (acc.step ev).status id = acc.status id →
        ((acc.step ev).verdict id).rank ≤
          (ev.moves w id).rank := by
    intro hSame
    have hVerdict :
        (acc.step ev).verdict id = acc.verdict id := by
      unfold NodeStatusAcc.verdict
      rw [hSame]
    rw [hVerdict]
    exact le_trans hHere (under_moves id)
  by_cases hNode : ev.nodeId = some id
  swap
  · exact hKept (step_other hNode)
  cases hSkim : CancelProbeData.decode ev.data with
  | none =>
      refine hKept ?_
      unfold NodeStatusAcc.step
      simp [CancelProbe.decode, hSkim]
  | some p => ?_
  cases hSettles : ev.kind.settles with
  | false =>
      refine hKept ?_
      rw [step_of_skimmed hSkim]
      unfold NodeStatusAcc.observe
      rw [hNode]
      cases hKind : ev.kind <;>
        simp_all [EventKind.settles]
  | true => ?_
  by_cases hCreated : ev.kind = .nodeCreated
  · exact created_under hSkim hCreated hNode hHere
  by_cases hThere : w id = .absent
  · -- only a creation reaches a node that is not there
    have hAbsent : acc.status id = none := by
      rw [← accVerdict_eq_absent, ← Verdict.rank_eq_zero]
      rw [hThere] at hHere
      exact Nat.le_zero.mp hHere
    refine hKept ?_
    rw [step_absent hCreated hAbsent, hAbsent]
  rcases hAdmissible hSettles with ⟨_, i, hOn, hTakes⟩
  rw [hNode, Option.some.injEq] at hOn
  subst hOn
  rcases EventKind.settles_cases hSettles with
    hKind | hKind | hKind
  · exact absurd hKind hCreated
  · exact status_under hSkim hKind hNode hTakes hThere hHere
  · rw [rank_report hKind hNode hTakes hThere]
    exact Verdict.rank_le _

------------------------------------------------------------
-- Reports Folded Out of Turn
------------------------------------------------------------

/- A report leaves a node or settles one that is there. -/
theorem report_lifts
    (hKind : ev.kind = .nodeReport) (id : NodeId) :
    ev.moves w id = w id ∨
      (w id ≠ .absent ∧ ∃ s, ev.moves w id = .settled s) := by
  unfold Event.moves
  split
  swap
  · exact .inl rfl
  cases w id with
  | absent => exact .inl (by simp [Event.move, hKind])
  | settled s =>
      right
      simp only [Event.move, hKind]
      split <;> exact ⟨by simp, _, rfl⟩
  | live =>
      cases hRead : ev.reportTerminalStatus with
      | error e => exact .inl (by simp [Event.move, hKind, hRead])
      | ok s =>
          have hTerminal :=
            reportTerminalStatus_isTerminal ev s hRead
          exact .inr ⟨by simp, s, by
            simp [Event.move, hKind, hRead,
              Status.verdict_settled hTerminal]⟩

/- What a node takes it takes after a report as well. -/
theorem Admissible.report
    {e : Event}
    (hKind : ev.kind = .nodeReport)
    (hAdmissible : Admissible env e w) :
    Admissible env e (ev.moves w) := by
  rcases hAdmissible with ⟨hRun, id, hNode, hTakes⟩
  refine ⟨hRun, id, hNode, ?_⟩
  rcases report_lifts (w := w) hKind id with
    hSame | ⟨hThere, s, hSettled⟩
  · rwa [hSame]
  · rw [hSettled]
    revert hTakes
    unfold Event.Takes
    cases hVerdict : w id with
    | absent => exact absurd hVerdict hThere
    | live => cases e.kind <;> simp
    | settled s' => cases e.kind <;> simp

/- A report takes nothing from what another event does. -/
theorem report_under
    {e : Event} (hKind : ev.kind = .nodeReport) :
    Under (e.moves w) (e.moves (ev.moves w)) := by
  intro id
  rcases report_lifts (w := w) hKind id with
    hSame | ⟨_, s, hSettled⟩
  · unfold Event.moves at hSame ⊢
    rw [hSame]
  · have hUp :
        (ev.moves w id).rank ≤
          (e.moves (ev.moves w) id).rank := under_moves id
    rw [hSettled] at hUp
    exact le_trans (Verdict.rank_le _) hUp

end Ranks

------------------------------------------------------------
-- Backed Runs
------------------------------------------------------------

/-
  The log is nowhere above the projections, or it is not once
  the one settling event past the watermark is folded.
-/
structure Backed (env : RunEnv) (s : Disk) : Prop
    extends Grounded env s where
  ahead : ∀ ev ∈ s.events, s.appliedSeq < ev.seq →
    ev.kind.settles = true →
    ev.seq = s.lastSeq ∧ Admissible env ev s.verdict
  under : Under (logAcc s.events).verdict s.verdict ∨
    ∃ ev ∈ s.events, s.appliedSeq < ev.seq ∧
      ev.kind.settles = true ∧
      Under (logAcc s.events).verdict (ev.moves s.verdict)

section Steps

variable {env : RunEnv} {d s : Disk} {ev : Event}
variable {ops : List ProjectionOp}

theorem Backed.torn
    {b : Bool} (hBacked : Backed env s) :
    Backed env { s with torn := b } :=
  ⟨hBacked.toGrounded.torn, hBacked.ahead, hBacked.under⟩

/- Two settling events past the watermark are one. -/
theorem Backed.only
    {e : Event}
    (hBacked : Backed env s)
    (hMem : ev ∈ s.events)
    (hAhead : s.appliedSeq < ev.seq)
    (hSettles : ev.kind.settles = true)
    (hMem' : e ∈ s.events)
    (hAhead' : s.appliedSeq < e.seq)
    (hSettles' : e.kind.settles = true) :
    e = ev := by
  have hLast := (hBacked.ahead ev hMem hAhead hSettles).1
  have hLast' := (hBacked.ahead e hMem' hAhead' hSettles').1
  exact seq_injective hBacked.ordered hMem' hMem
    (hLast'.trans hLast.symm)

/- Once a pending event is folded, the log is not above. -/
theorem Backed.moved
    (hBacked : Backed env s)
    (hMem : ev ∈ s.events)
    (hAhead : s.appliedSeq < ev.seq)
    (hSettles : ev.kind.settles = true) :
    Under (logAcc s.events).verdict (ev.moves s.verdict) := by
  rcases hBacked.under with
    hUnder | ⟨e, hMem', hAhead', hSettles', hUnder⟩
  · exact hUnder.trans under_moves
  · rw [hBacked.only hMem' hAhead' hSettles' hMem hAhead
      hSettles]
    exact hUnder

/- With nothing to settle past the watermark. -/
theorem Backed.agreed
    (hBacked : Backed env s) (hQuiet : Quiet s) :
    Under (logAcc s.events).verdict s.verdict := by
  rcases hBacked.under with
    hUnder | ⟨e, hMem, hAhead, hSettles, _⟩
  · exact hUnder
  · exact absurd (hQuiet e hMem hSettles) (not_le.mpr hAhead)

/- A settling event left behind would have been taken. -/
theorem Backed.quiet
    (hBacked : Backed env s)
    (hSettled : Settled env s) : Quiet s := by
  intro ev hMem hSettles
  by_contra hAhead
  have hLt := not_le.mp hAhead
  rcases Option.ne_none_iff_exists'.mp hBacked.manifest with
    ⟨m, hSome⟩
  have hAdmissible := (hBacked.ahead ev hMem hLt hSettles).2
  rw [Disk.appliedSeq_of_manifest hSome] at hLt
  exact not_accepted_iff.mpr
    (hSettled.refused m hSome ev hMem hLt)
    (accepted_of_admissible hBacked.readable hBacked.nodes
      hSettles hAdmissible)

/- A node the log has settled is there. -/
theorem Backed.present
    {id : NodeId}
    (hBacked : Backed env s)
    (hSettles : (logAcc s.events).Settles id) :
    s.verdict id ≠ .absent := by
  intro hAbsent
  rcases settles_iff_verdict.mp hSettles with ⟨st, hVerdict⟩
  have hTop : ((logAcc s.events).verdict id).rank = 2 :=
    Verdict.rank_eq_two.mpr ⟨st, hVerdict⟩
  rcases hBacked.under with hUnder | ⟨e, _, _, _, hUnder⟩
  · have hLe := hUnder id
    rw [hTop, hAbsent] at hLe
    exact absurd hLe (by decide)
  · have hLe := hUnder id
    have hLow : (e.moves s.verdict id).rank ≤ 1 := by
      unfold Event.moves
      rw [hAbsent]
      unfold Event.move
      cases e.kind <;> split <;> simp [Verdict.rank]
    omega

/- Folding a pending event, a report, or none that settles. -/
def Foldable (s : Disk) (ev : Event) : Prop :=
  ev.kind.settles = true →
    (ev ∈ s.events ∧ s.appliedSeq < ev.seq) ∨
      ev.kind = .nodeReport

theorem Backed.cut
    (hBacked : Backed env s)
    (hFoldable : Foldable s ev)
    (hPlan : reduceEventToOps env s ev = .ok ops)
    (j : Nat) :
    Backed env (applyOps (ops.take (j + 1)) s) := by
  have hMark :
      (applyOps (ops.take (j + 1)) s).appliedSeq =
        s.appliedSeq := appliedSeq_of_plan hPlan rfl _
  have hLast :
      (applyOps (ops.take (j + 1)) s).lastSeq = s.lastSeq :=
    lastSeq_congr (applyOps_lines _ s)
  have hVerdict := verdict_of_cut hPlan j
  refine ⟨hBacked.toGrounded.cut hPlan _, ?_, ?_⟩
  · rw [Disk.applyOps_events, hMark, hLast, hVerdict]
    intro e hMem hAhead hSettles
    rcases hBacked.ahead e hMem hAhead hSettles with
      ⟨hSeq, hAdmissible⟩
    refine ⟨hSeq, ?_⟩
    cases hHere : ev.kind.settles with
    | false => rwa [moves_of_not_settles hHere]
    | true =>
        rcases hFoldable hHere with ⟨hIn, hPending⟩ | hKind
        · obtain rfl := hBacked.only hIn hPending hHere hMem
            hAhead hSettles
          exact hAdmissible.moves
        · exact hAdmissible.report hKind
  · rw [Disk.applyOps_events, hMark, hVerdict]
    rcases hBacked.under with
      hUnder | ⟨e, hMem, hAhead, hSettles, hUnder⟩
    · exact .inl (hUnder.trans under_moves)
    cases hHere : ev.kind.settles with
    | false =>
        rw [moves_of_not_settles hHere]
        exact .inr ⟨e, hMem, hAhead, hSettles, hUnder⟩
    | true =>
        rcases hFoldable hHere with ⟨hIn, hPending⟩ | hKind
        · exact .inl (hBacked.moved hIn hPending hHere)
        · exact .inr ⟨e, hMem, hAhead, hSettles,
            hUnder.trans (report_under hKind)⟩

theorem Backed.folded
    (hBacked : Backed env s)
    (hMem : ev ∈ s.events)
    (hAhead : s.appliedSeq < ev.seq)
    (hPlan : reduceEventToOps env s ev = .ok ops) :
    Backed env ((applyOps ops s).advance ev.seq) := by
  have hBound : ∀ e ∈ s.events, e.seq ≤ s.lastSeq :=
    fun e hIn =>
      seq_le_lastSeqOf hBacked.ordered.increasing hIn
  have hMark :=
    appliedSeq_folded hBacked.manifest hAhead hPlan
  have hVerdict :
      ((applyOps ops s).advance ev.seq).verdict =
        ev.moves s.verdict := by
    rw [← verdict_of_plan hPlan]
    exact verdict_congr (Disk.advance_nodes _ _)
  have hTail := lastSeq_folded ops s ev.seq
  refine ⟨hBacked.toGrounded.folded hMem hAhead hPlan, ?_, ?_⟩
  · rw [Disk.advance_events, Disk.applyOps_events, hMark,
      hTail, hVerdict]
    intro e hIn hLater hSettles
    rcases hBacked.ahead e hIn (by omega) hSettles with
      ⟨hSeq, hAdmissible⟩
    refine ⟨hSeq, ?_⟩
    cases hHere : ev.kind.settles with
    | false => rwa [moves_of_not_settles hHere]
    | true =>
        have hFirst := (hBacked.ahead ev hMem hAhead hHere).1
        omega
  · rw [Disk.advance_events, Disk.applyOps_events, hMark,
      hVerdict]
    cases hHere : ev.kind.settles with
    | true => exact .inl (hBacked.moved hMem hAhead hHere)
    | false =>
        rw [moves_of_not_settles hHere]
        rcases hBacked.under with
          hUnder | ⟨e, hIn, hAhead', hSettles, hUnder⟩
        · exact .inl hUnder
        · refine .inr ⟨e, hIn, ?_, hSettles, hUnder⟩
          have hSeq := (hBacked.ahead e hIn hAhead' hSettles).1
          have hLe := hBound ev hMem
          by_contra hNot
          have hSame : ev = e :=
            seq_injective hBacked.ordered hMem hIn (by omega)
          rw [hSame, hSettles] at hHere
          cases hHere

theorem Backed.log
    (hBacked : Backed env s)
    (hQuiet : Quiet s)
    (hDrained : Drained s)
    (hSeq : ev.seq = s.lastSeq + 1)
    (hPlan : reduceEventToOps env s ev = .ok ops) :
    Backed env (s.log ev) := by
  have hLast : (s.log ev).lastSeq = ev.seq := by
    rw [Disk.lastSeq, Disk.log_events, lastSeqOf_concat]
  have hAdmissible : ev.kind.settles = true →
      Admissible env ev s.verdict :=
    fun hSettles => admissible_of_plan hSettles hPlan
  have hStep :
      Under (logAcc (s.log ev).events).verdict
        (ev.moves s.verdict) := by
    rw [Disk.log_events, logAcc_concat]
    exact step_under hAdmissible (hBacked.agreed hQuiet)
  have hBehind := hBacked.behind
  have hAhead : (s.log ev).appliedSeq < ev.seq := by
    change s.appliedSeq < _
    omega
  refine ⟨hBacked.toGrounded.log hDrained hSeq hPlan, ?_, ?_⟩
  · intro e hMem hLater hSettles
    rw [Disk.log_events, List.mem_append,
      List.mem_singleton] at hMem
    rcases hMem with hOld | rfl
    · exact absurd (hQuiet e hOld hSettles)
        (not_le.mpr hLater)
    · exact ⟨hLast.symm, hAdmissible hSettles⟩
  · cases hSettles : ev.kind.settles with
    | false =>
        rw [moves_of_not_settles hSettles] at hStep
        exact .inl hStep
    | true =>
        exact .inr ⟨ev, by simp, hAhead, hSettles, hStep⟩

theorem Booted.backed (hBooted : Booted env d) :
    Backed env d := by
  have hCreated := hBooted.created
  have hNone : ∀ (kinds : EventKind → Bool),
      kinds .runCreated = false →
      ∀ ev ∈ d.events, kinds ev.kind ≠ true := by
    intro kinds hOther ev hMem
    rw [hCreated.only hMem, hOther]
    simp
  refine ⟨⟨hCreated.sane, ?_, ?_, ?_, ?_⟩, ?_, .inl ?_⟩
  · exact fun ev hMem hFounds =>
      absurd hFounds (hNone EventKind.founds rfl ev hMem)
  · exact fun ev hMem hFounds =>
      absurd hFounds (hNone EventKind.founds rfl ev hMem)
  · intro ev hMem hKind
    rw [hCreated.only hMem] at hKind
    cases hKind
  · intro ev hMem hKind
    rw [hCreated.only hMem] at hKind
    cases hKind
  · exact fun ev hMem _ hSettles =>
      absurd hSettles (hNone EventKind.settles rfl ev hMem)
  · intro id
    rcases hCreated.event with ⟨r, hKind, hEvents⟩
    have hAbsent : (logAcc d.events).status id = none := by
      have hOther : (r.event env 1).kind ≠ .nodeCreated := by
        simp [Request.event, hKind]
      have hEmpty : NodeStatusAcc.empty.status id = none := rfl
      rw [hEvents]
      exact step_absent hOther hEmpty
    rw [accVerdict_of_none hAbsent]
    exact Nat.zero_le _

end Steps

------------------------------------------------------------
-- What the Operations Keep
------------------------------------------------------------

/- A property of backed runs that folding the log keeps. -/
structure Kept (env : RunEnv) (I : Disk → Prop) : Prop where
  backed : ∀ s, I s → Backed env s
  torn : ∀ s b, I s → I { s with torn := b }
  cut : ∀ s ev ops j, I s → ev ∈ s.events → Foldable s ev →
    reduceEventToOps env s ev = .ok ops →
    I (applyOps (ops.take (j + 1)) s)
  folded : ∀ s ev ops, I s → ev ∈ s.events →
    s.appliedSeq < ev.seq →
    reduceEventToOps env s ev = .ok ops →
    I ((applyOps ops s).advance ev.seq)

theorem kept_backed (env : RunEnv) : Kept env (Backed env) where
  backed := fun _ h => h
  torn := fun _ _ h => h.torn
  cut := fun _ _ _ j hBacked _ hFoldable hPlan =>
    hBacked.cut hFoldable hPlan j
  folded := fun _ _ _ hBacked hMem hAhead hPlan =>
    hBacked.folded hMem hAhead hPlan

/- A property that folding what is still to be folded keeps. -/
structure KeptAhead (env : RunEnv) (I : Disk → Prop) :
    Prop where
  backed : ∀ s, I s → Backed env s
  torn : ∀ s b, I s → I { s with torn := b }
  cut : ∀ s ev ops j, I s → ev ∈ s.events →
    s.appliedSeq < ev.seq →
    reduceEventToOps env s ev = .ok ops →
    I (applyOps (ops.take (j + 1)) s)
  folded : ∀ s ev ops, I s → ev ∈ s.events →
    s.appliedSeq < ev.seq →
    reduceEventToOps env s ev = .ok ops →
    I ((applyOps ops s).advance ev.seq)

theorem Kept.ahead
    {env : RunEnv} {I : Disk → Prop}
    (hKept : Kept env I) : KeptAhead env I where
  backed := hKept.backed
  torn := hKept.torn
  cut := fun s ev ops j hI hMem hAhead hPlan =>
    hKept.cut s ev ops j hI hMem
      (fun _ => .inl ⟨hMem, hAhead⟩) hPlan
  folded := hKept.folded

/- A further property that any fold and the watermark keep. -/
theorem Kept.and
    {env : RunEnv} {I X : Disk → Prop}
    (hKept : Kept env I)
    (hTorn : ∀ s b, X s → X { s with torn := b })
    (hCut : ∀ s ev ops k, I s → X s → ev ∈ s.events →
      reduceEventToOps env s ev = .ok ops →
      X (applyOps (ops.take k) s))
    (hMark : ∀ s ev, X s → ev ∈ s.events →
      X (s.advance ev.seq)) :
    Kept env (fun s => I s ∧ X s) where
  backed := fun s h => hKept.backed s h.1
  torn := fun s b h => ⟨hKept.torn s b h.1, hTorn s b h.2⟩
  cut := fun s ev ops j h hMem hFoldable hPlan =>
    ⟨hKept.cut s ev ops j h.1 hMem hFoldable hPlan,
      hCut s ev ops (j + 1) h.1 h.2 hMem hPlan⟩
  folded := by
    intro s ev ops h hMem hAhead hPlan
    refine ⟨hKept.folded s ev ops h.1 hMem hAhead hPlan, ?_⟩
    have hAll := hCut s ev ops ops.length h.1 h.2 hMem hPlan
    rw [List.take_length] at hAll
    exact hMark _ ev hAll (by rwa [Disk.applyOps_events])

/- Nothing that settles, closes or creates is left to fold. -/
def Abreast (s : Disk) : Prop := Quiet s ∧ Drained s

theorem abreast_of_covered
    {s : Disk}
    (hOrdered : s.Ordered)
    (hCovered : s.lastSeq ≤ s.appliedSeq) : Abreast s := by
  have hBound : ∀ e ∈ s.events, e.seq ≤ s.appliedSeq :=
    fun e hMem => le_trans
      (seq_le_lastSeqOf hOrdered.increasing hMem) hCovered
  exact ⟨fun e hMem _ => hBound e hMem,
    fun e hMem _ => hBound e hMem⟩

section Rules

variable {env : RunEnv} {d s : Disk} {ev : Event}
variable {ops : List ProjectionOp} {I : Disk → Prop}

theorem KeptAhead.wp_catchUp
    (hKept : KeptAhead env I) (hStart : I d) :
    Durable.wp (replayUnappliedUnlocked env)
      (fun _ s => I s ∧ s.lines = d.lines ∧ Abreast s)
      (fun _ s => I s ∧ s.lines = d.lines)
      (fun _ s => I s ∧ s.lines = d.lines) d := by
  refine Durable.wp_mono
    (wp_catchUp_rule (I := I)
      (fun s hI => (hKept.backed s hI).readable)
      (hKept.backed d hStart).ordered ?_
      (hKept.torn d false hStart))
    ?_ (fun _ _ h => h) (fun _ _ h => h)
  · intro s ev ops hI _ hMem hAhead _ hPlan
    exact ⟨fun j => hKept.cut s ev ops j hI hMem hAhead hPlan,
      hKept.folded s ev ops hI hMem hAhead hPlan⟩
  · rintro _ s ⟨hI, hLines, hSettled⟩
    have hBacked := hKept.backed s hI
    exact ⟨hI, hLines, hBacked.quiet hSettled,
      hBacked.toGrounded.drained hSettled⟩

theorem Kept.wp_catchUp
    (hKept : Kept env I) (hStart : I d) :
    Durable.wp (replayUnappliedUnlocked env)
      (fun _ s => I s ∧ s.lines = d.lines ∧ Abreast s)
      (fun _ s => I s ∧ s.lines = d.lines)
      (fun _ s => I s ∧ s.lines = d.lines) d :=
  hKept.ahead.wp_catchUp hStart

theorem KeptAhead.gateWrites
    (hKept : KeptAhead env I)
    (hHere : I s)
    (hLogged : I (s.log ev))
    (hSeq : ev.seq = s.lastSeq + 1)
    (hPlan : reduceEventToOps env s ev = .ok ops) :
    GateWrites
      (fun _ s' => I s' ∧
        (s'.lines = s.lines ∨ s'.lines = (s.log ev).lines))
      (fun s' => I s' ∧ Abreast s' ∧
        s'.lines = (s.log ev).lines) s ev ops := by
  have hAgain := (reduce_logged env s ev).trans hPlan
  have hBehind := (hKept.backed s hHere).behind
  have hAhead : (s.log ev).appliedSeq < ev.seq := by
    change s.appliedSeq < _
    omega
  have hMem : ev ∈ (s.log ev).events := by simp
  have hDone :=
    hKept.folded (s.log ev) ev ops hLogged hMem hAhead hAgain
  have hLines :
      ((applyOps ops (s.log ev)).advance ev.seq).lines =
        (s.log ev).lines := by
    simp
  have hMark :=
    appliedSeq_folded (hKept.backed _ hLogged).manifest hAhead
      hAgain
  have hAbreast :
      Abreast ((applyOps ops (s.log ev)).advance ev.seq) := by
    refine abreast_of_covered (hKept.backed _ hDone).ordered ?_
    rw [hMark, lastSeq_congr hLines, Disk.lastSeq,
      Disk.log_events, lastSeqOf_concat]
  exact ⟨⟨hKept.torn s true hHere, .inl rfl⟩,
    ⟨hLogged, .inr rfl⟩,
    fun j _ => ⟨hKept.cut _ _ _ j hLogged hMem hAhead hAgain,
      .inr (applyOps_lines _ _)⟩,
    fun _ => ⟨hDone, .inr hLines⟩, hDone, hAbreast, hLines⟩

/- The line that a request appends to a log. -/
def Disk.next (env : RunEnv) (d : Disk) (r : Request) : LogLine :=
  .event (r.event env (d.lastSeq + 1))

theorem KeptAhead.wp_append
    {r : Request}
    (hKept : KeptAhead env I)
    (hLog : ∀ s ops, I s → s.lines = d.lines → Abreast s →
      reduceEventToOps env s (r.event env (s.lastSeq + 1)) =
        .ok ops →
      I (s.log (r.event env (s.lastSeq + 1))))
    (hStart : I d) :
    Durable.wp (appendAndApplyUnlocked env r)
      (fun _ s => I s ∧ Abreast s ∧
        s.lines = d.lines ++ [d.next env r])
      (fun _ s => I s ∧ s.lines = d.lines)
      (fun _ s => I s ∧ (s.lines = d.lines ∨
        s.lines = d.lines ++ [d.next env r])) d := by
  refine wp_appendAndApplyUnlocked
    (wp_appendAndApplyReporting
      (R := fun s => I s ∧ s.lines = d.lines ∧ Abreast s)
      ?_ ?_ ?_ ?_ ?_)
  · exact Durable.wp_mono (hKept.wp_catchUp hStart)
      (fun _ _ h => h) (fun _ _ h => h)
      (fun _ _ h => ⟨h.1, .inl h.2⟩)
  · exact fun s hR => (hKept.backed s hR.1).readable
  · exact fun s _ hR _ => ⟨hR.1, hR.2.1⟩
  · exact fun s _ _ hR _ _ => ⟨hR.1, hR.2.1⟩
  · rintro s last ops ⟨hI, hLines, hAbreast⟩ hLast hPlan
    obtain rfl :=
      recoverLastSeq_eq (hKept.backed s hI).ordered.plain hLast
    have hWrites := hKept.gateWrites hI
      (hLog s ops hI hLines hAbreast hPlan) rfl hPlan
    have hNext :
        (s.log (r.event env (s.lastSeq + 1))).lines =
          d.lines ++ [d.next env r] := by
      unfold Disk.next
      rw [← lastSeq_congr hLines, ← hLines]
      rfl
    rw [hNext, hLines] at hWrites
    exact ⟨hWrites.torn, hWrites.logged, hWrites.projected,
      hWrites.applied, hWrites.done⟩

theorem Kept.wp_append
    {r : Request}
    (hKept : Kept env I)
    (hLog : ∀ s ops, I s → s.lines = d.lines → Abreast s →
      reduceEventToOps env s (r.event env (s.lastSeq + 1)) =
        .ok ops →
      I (s.log (r.event env (s.lastSeq + 1))))
    (hStart : I d) :
    Durable.wp (appendAndApplyUnlocked env r)
      (fun _ s => I s ∧ Abreast s ∧
        s.lines = d.lines ++ [d.next env r])
      (fun _ s => I s ∧ s.lines = d.lines)
      (fun _ s => I s ∧ (s.lines = d.lines ∨
        s.lines = d.lines ++ [d.next env r])) d :=
  hKept.ahead.wp_append hLog hStart

/- An event without a key is in the log once it is answered. -/
theorem Kept.wp_event
    {r : Request}
    (hKept : Kept env I)
    (hKey : r.key = none)
    (hLog : ∀ s ops, I s → Abreast s →
      reduceEventToOps env s (r.event env (s.lastSeq + 1)) =
        .ok ops →
      I (s.log (r.event env (s.lastSeq + 1))))
    (hStart : I d) :
    Durable.wp (appendAndApplyEvent env r)
      (fun _ s => I s ∧ Abreast s ∧
        ∃ seq, r.event env seq ∈ s.events)
      (fun _ => I) (fun _ => I) d := by
  have hCatchUp :
      Durable.wp (replayUnappliedUnlocked env)
        (fun _ s => I s ∧ Abreast s) (fun _ => I) (fun _ => I)
        d :=
    Durable.wp_mono (hKept.wp_catchUp hStart)
      (fun _ _ h => ⟨h.1, h.2.2⟩) (fun _ _ h => h.1)
      (fun _ _ h => h.1)
  apply wp_appendAndApplyEvent hCatchUp
  · intro s key e _ hSome _
    rw [hKey] at hSome
    cases hSome
  · intro s key prior _ hSome _
    rw [hKey] at hSome
    cases hSome
  · intro s hHere _
    have hAppend :=
      hKept.wp_append
        (fun s' ops hI _ hAbreast hPlan =>
          hLog s' ops hI hAbreast hPlan) hHere.1
    unfold appendAndApplyUnlocked at hAppend
    rw [Durable.wp_bind] at hAppend
    simp only [Durable.wp_pure] at hAppend
    apply Durable.wp_mono hAppend
    · rintro _ s' ⟨hI, hAbreast, hLines⟩
      refine ⟨hI, hAbreast, s.lastSeq + 1, ?_⟩
      simp [Disk.events, hLines, Disk.next, LogLine.event?]
    · exact fun _ _ h => h.1
    · exact fun _ _ h => h.1

theorem Kept.wp_call
    {call : Call}
    (hKept : Kept env I)
    (hLog : ∀ s r ops, call.Asks r → I s → Abreast s →
      reduceEventToOps env s (r.event env (s.lastSeq + 1)) =
        .ok ops →
      I (s.log (r.event env (s.lastSeq + 1))))
    (hStart : I d) :
    Durable.wp (call.run env) (fun _ => I) (fun _ => I)
      (fun _ => I) d := by
  refine Taskfleet.wp_call call
    (R := fun s => I s ∧ Abreast s) ?_ (fun _ hR => hR.1)
    (fun _ hR => hR.1)
    (fun s hR => (hKept.backed s hR.1).readable) ?_ hStart
  · intro s hI
    exact Durable.wp_mono (hKept.wp_catchUp hI)
      (fun _ _ h => ⟨h.1, h.2.2⟩) (fun _ _ h => h.1)
      (fun _ _ h => h.1)
  · rintro s last r ops hAsks ⟨hI, hAbreast⟩ hLast hPlan
    obtain rfl :=
      recoverLastSeq_eq (hKept.backed s hI).ordered.plain hLast
    have hWrites := hKept.ahead.gateWrites hI
      (hLog s r ops hAsks hI hAbreast hPlan) rfl hPlan
    exact ⟨hWrites.torn.1, hWrites.logged.1,
      fun j hj => (hWrites.projected j hj).1,
      fun hBehind => (hWrites.applied hBehind).1,
      hWrites.done.1⟩

/- A logged report or run status is folded once more. -/
theorem Kept.wp_refold
    (hKept : Kept env I)
    (hMem : ev ∈ d.events)
    (hKind : ev.kind = .nodeReport ∨ ev.kind = .runStatus)
    (hStart : I d) :
    Durable.wp (applyEvent env ev)
      (fun _ s => I s ∧ s.lines = d.lines ∧
        ∃ ops, reduceEventToOps env d ev = .ok ops ∧
          s = applyOps ops d)
      (fun _ s => I s ∧ s.lines = d.lines)
      (fun _ s => I s ∧ s.lines = d.lines) d := by
  have hFoldable : Foldable d ev := by
    intro hSettles
    rcases hKind with hReport | hStatus
    · exact .inr hReport
    · rw [hStatus] at hSettles
      cases hSettles
  cases hPlan : reduceEventToOps env d ev with
  | error e =>
      simp only [applyEvent, Durable.wp_bind, Durable.wp_read,
        hPlan, Durable.wp_lift_error]
      exact ⟨hStart, trivial⟩
  | ok ops =>
      have hAll := hKept.cut d ev ops ops.length hStart hMem
        hFoldable hPlan
      rw [List.take_of_length_le (by omega)] at hAll
      rw [wp_applyEvent hPlan]
      exact ⟨fun j _ => ⟨hKept.cut d ev ops j hStart hMem
          hFoldable hPlan, applyOps_lines _ _⟩,
        hAll, applyOps_lines _ _, ops, rfl, rfl⟩

end Rules

end Taskfleet
