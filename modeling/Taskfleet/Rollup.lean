import Taskfleet.RunRecovery
import Taskfleet.Writers

/-
  The supervisor's roll-up and the reducer's gate.

  What the roll-up decides on a caught-up run is accepted,
  is what the manifest says afterwards, and is not decided
  again.

  Main declarations:
    * `append_of_settled`
    * `RolledUp`, `rollup_converges`
-/

------------------------------------------------------------
-- Appends to a Caught-Up Run
------------------------------------------------------------

namespace Taskfleet

open Fallible

section Append

variable {env : RunEnv} {s : Disk} {r : Request}
variable {ops : List ProjectionOp}

/- With nothing to catch up, an accepted append goes through. -/
theorem append_of_settled
    (hSane : Sane env s)
    (hSettled : Settled env s)
    (hPassable : Passable env s)
    (hPlan :
      reduceEventToOps env s (r.event env (s.lastSeq + 1)) =
        .ok ops) :
    (appendAndApplyUnlocked env r).result s =
        .ok (s.lastSeq + 1) ∧
      (appendAndApplyUnlocked env r).final s =
        (applyOps ops
          (s.log (r.event env (s.lastSeq + 1)))).advance
          (s.lastSeq + 1) := by
  have hLast : recoverLastSeq s.lines = .ok s.lastSeq := by
    rw [hSane.lines, recoverLastSeq_events]
    rfl
  have hRun :
      Durable.wp (appendAndApplyUnlocked env r)
        (fun seq s' => seq = s.lastSeq + 1 ∧
          s' = (applyOps ops
            (s.log (r.event env (s.lastSeq + 1)))).advance
            (s.lastSeq + 1))
        (fun _ _ => False) (fun _ _ => True) s := by
    refine wp_appendAndApplyUnlocked
      (wp_appendAndApplyReporting (R := fun s' => s' = s)
        (wp_catchUp_again hSettled hPassable hSane.lines)
        ?_ ?_ ?_ ?_)
    · rintro s' rfl
      exact hSettled.readable
    · rintro s' e rfl hError
      rw [hLast] at hError
      cases hError
    · rintro s' last e rfl hOk hRefused
      rw [hLast, Except.ok.injEq] at hOk
      rw [← hOk, hPlan] at hRefused
      cases hRefused
    · rintro s' last ops' rfl hOk hPlan'
      rw [hLast, Except.ok.injEq] at hOk
      subst hOk
      rw [hPlan, Except.ok.injEq] at hPlan'
      subst hPlan'
      exact ⟨trivial, trivial, fun _ _ => trivial,
        fun _ => trivial, rfl, rfl⟩
  rcases Durable.wp_total hRun with ⟨seq, hResult, hSeq, hFinal⟩
  rw [hSeq] at hResult
  exact ⟨hResult, hFinal⟩

/- The manifest after an append that wrote it last. -/
theorem manifest_of_append
    {m : Manifest} {d : Disk}
    (hManifest : (applyOps ops d).manifest = some m)
    (seq : Nat) :
    ∃ m', ((applyOps ops d).advance seq).manifest = some m' ∧
      m'.status = m.status := by
  by_cases hBehind : m.appliedSeq < seq
  · rw [Disk.advance_of_behind hManifest hBehind]
    exact ⟨_, rfl, rfl⟩
  · rw [Disk.advance_of_not_behind
      (by simp [Disk.Behind, hManifest, hBehind])]
    exact ⟨m, hManifest, rfl⟩

end Append

------------------------------------------------------------
-- The Event of a Decision
------------------------------------------------------------

section Request

variable {env : RunEnv} {now : Time}
variable {decision : RollupDecision}

theorem terminal_cases
    {st : Status}
    (hTerminal : st.isTerminal = true) :
    st = .done ∨ st = .failed ∨ st = .cancelled := by
  revert hTerminal
  cases st <;> decide

theorem statusStr_of_terminal
    (hTerminal : decision.status.isTerminal = true) :
    decision.statusStr = decision.status.name := by
  unfold RollupDecision.statusStr
  rcases terminal_cases hTerminal with h | h | h <;>
    rw [h] <;> rfl

/- The event names the status that was decided. -/
theorem request_status
    (hTerminal : decision.status.isTerminal = true)
    (seq : Nat) :
    ((decision.request env now).event env seq).requireStatus =
      .ok decision.status := by
  have hName := statusStr_of_terminal hTerminal
  have hGet :
      (decision.request env now).data.get "status" =
        some (.str decision.status.name) := by
    unfold RollupDecision.request
    cases decision.recoveryMergeSeq <;>
      simp [Json.get, List.lookup_cons, hName]
  unfold Event.requireStatus
  rw [Request.event, hGet]
  cases decision.status <;> rfl

theorem request_kind (seq : Nat) :
    ((decision.request env now).event env seq).kind =
        .runStatus ∧
      ((decision.request env now).event env seq).nodeId =
        none := by
  unfold RollupDecision.request
  cases decision.recoveryMergeSeq <;> exact ⟨rfl, rfl⟩

end Request

------------------------------------------------------------
-- Recovery Evidence
------------------------------------------------------------

section Evidence

variable {env : RunEnv} {s : Disk} {ev : Event}
variable {acc : NodeStatusAcc} {id : NodeId} {n : Nat}

theorem adoptMerge_confirmed
    {i : NodeId} {seq : Nat}
    (hSeq :
      (acc.adoptMerge i seq).confirmedMergeSeq id = some n) :
    acc.confirmedMergeSeq id = some n ∨ seq = n := by
  unfold NodeStatusAcc.adoptMerge at hSeq
  dsimp only at hSeq
  rw [Function.update_apply] at hSeq
  split at hSeq
  · exact .inr (Option.some.inj hSeq)
  · exact .inl hSeq

/- A merge is adopted under the number of its event. -/
theorem step_confirmed
    (hSeq : (acc.step ev).confirmedMergeSeq id = some n) :
    acc.confirmedMergeSeq id = some n ∨ ev.seq = n := by
  unfold NodeStatusAcc.step at hSeq
  cases hProbe : CancelProbe.decode ev with
  | none =>
      rw [hProbe] at hSeq
      exact .inl hSeq
  | some probe => ?_
  have hNumber : probe.seq = ev.seq := by
    simp only [CancelProbe.decode, Option.bind_eq_bind,
      Option.pure_def, Option.bind_eq_some_iff,
      Option.some.injEq] at hProbe
    rcases hProbe with ⟨p, _, rfl⟩
    rfl
  rw [hProbe] at hSeq
  dsimp only at hSeq
  unfold NodeStatusAcc.observe at hSeq
  split at hSeq
  · exact .inl hSeq
  split at hSeq
  · unfold NodeStatusAcc.observeCreated at hSeq
    split at hSeq <;> exact .inl hSeq
  · unfold NodeStatusAcc.observeStatus at hSeq
    split at hSeq
    · exact .inl hSeq
    split at hSeq
    · exact .inl hSeq
    split at hSeq <;> exact .inl hSeq
  · unfold NodeStatusAcc.observeReport at hSeq
    rw [hNumber] at hSeq
    split at hSeq
    · exact .inl hSeq
    dsimp only at hSeq
    split at hSeq
    · split at hSeq
      · exact adoptMerge_confirmed hSeq
      · exact .inl hSeq
    split at hSeq
    · exact .inl hSeq
    split at hSeq
    · exact adoptMerge_confirmed hSeq
    · exact .inl hSeq
  · exact .inl hSeq

/- So an adopted merge is an event of the log. -/
theorem logAcc_confirmed
    {events : List Event}
    (hSeq : (logAcc events).confirmedMergeSeq id = some n) :
    ∃ e ∈ events, e.seq = n := by
  induction events using List.reverseRecOn with
  | nil => cases hSeq
  | append_singleton events e ih =>
      rw [logAcc_concat] at hSeq
      rcases step_confirmed hSeq with hOld | hHere
      · rcases ih hOld with ⟨e', hMem, hNumber⟩
        exact ⟨e', by simp [hMem], hNumber⟩
      · exact ⟨e, by simp, hHere⟩

/- The facts of a whole log are those before its next event. -/
theorem facts_before_next
    {facts : List NodeStatusFact}
    (hSane : Sane env s)
    (hRead : readNodeStatusFacts s.lines none = .ok facts) :
    readNodeStatusFacts s.lines (some (s.lastSeq + 1)) =
      .ok facts := by
  rcases facts_of_read hSane hRead with ⟨rfl, hSkimmed⟩
  rw [readNodeStatusFacts_eq, hSane.lines, statusAcc_events ?_
    hSkimmed, ok_bind]
  intro e hMem
  have hBound := seq_le_lastSeqOf hSane.ordered.increasing hMem
  have hNext : e.seq < s.lastSeq + 1 :=
    Nat.lt_succ_of_le hBound
  simpa [beforeBound] using hNext

/- The evidence a recovery decision rests on is there. -/
theorem recoveryEvidence_of_max
    {facts : List NodeStatusFact}
    (hSane : Sane env s)
    (hRead : readNodeStatusFacts s.lines none = .ok facts)
    (hDone :
      aggregateTerminalStatus
        (facts.map NodeStatusFact.status) = some .done)
    (hMax :
      (facts.filterMap
        NodeStatusFact.confirmedMergeSeq).max? = some n) :
    recoveryEvidence s.lines (s.lastSeq + 1) n = true ∧
      n ≤ s.lastSeq := by
  rcases List.mem_filterMap.mp (List.max?_mem hMax) with
    ⟨fact, hFact, hSeq⟩
  constructor
  · unfold recoveryEvidence
    rw [facts_before_next hSane hRead]
    simp only [hDone, beq_self_eq_true, Bool.true_and,
      List.any_eq_true, beq_iff_eq]
    exact ⟨fact, hFact, hSeq⟩
  · rcases facts_of_read hSane hRead with ⟨rfl, _⟩
    rw [(mem_finishFacts.mp hFact).2.2] at hSeq
    rcases logAcc_confirmed hSeq with ⟨e, hMem, rfl⟩
    exact seq_le_lastSeqOf hSane.ordered.increasing hMem

/- An event without a node leaves the facts of the log. -/
theorem facts_of_runEvent
    {lines : List LogLine} {facts : List NodeStatusFact}
    (hNode : ev.nodeId = none)
    (hRead :
      readNodeStatusFacts (lines ++ [.event ev]) none =
        .ok facts) :
    readNodeStatusFacts lines none = .ok facts := by
  rw [readNodeStatusFacts_eq, statusAcc_concat, bind_eq_ok]
    at hRead
  rcases hRead with ⟨acc', hFold, hFacts⟩
  rw [bind_eq_ok] at hFold
  rcases hFold with ⟨acc, hRest, hLast⟩
  have hSame : acc' = acc := by
    rw [foldStatusProbe, if_pos (by rfl)] at hLast
    cases hProbe : CancelProbe.decode ev with
    | none =>
        rw [hProbe] at hLast
        cases hLast
    | some probe =>
        rw [hProbe] at hLast
        simp only [CancelProbe.decode, Option.bind_eq_bind,
          Option.pure_def, Option.bind_eq_some_iff,
          Option.some.injEq] at hProbe
        rcases hProbe with ⟨p, _, rfl⟩
        rw [Except.ok.injEq] at hLast
        rw [← hLast, NodeStatusAcc.observe, hNode]
  rw [readNodeStatusFacts_eq, hRest, ok_bind, ← hSame]
  exact hFacts

end Evidence

------------------------------------------------------------
-- One Roll-Up
------------------------------------------------------------

section Rollup

variable {env : RunEnv} {d s : Disk} {now : Time}
variable {m : Manifest} {facts : List NodeStatusFact}
variable {agg : Status} {successful : Bool}
variable {decision : RollupDecision}

/- The event that a decision appends to a run. -/
def RollupDecision.next
    (env : RunEnv)
    (now : Time)
    (s : Disk)
    (decision : RollupDecision) : Event :=
  (decision.request env now).event env (s.lastSeq + 1)

theorem Decided.terminal
    (hDecided :
      Decided env s successful m facts agg decision) :
    decision.status.isTerminal = true := by
  have hAgg := (terminal_of_aggregate hDecided.aggregate).1
  rcases hDecided.decided with ⟨_, rfl⟩ | ⟨_, _, _, seq, _, rfl⟩
  · exact hAgg
  · rfl

/- Of the terminal runs only a failed one is decided on. -/
theorem Decided.failed
    (hDecided :
      Decided env s successful m facts agg decision)
    (hTerminal : m.status.isTerminal = true) :
    m.status = .failed := by
  rcases terminal_cases hTerminal with hDone | hFailed | hGone
  · exact absurd hDone hDecided.live.1
  · exact hFailed
  · exact absurd hGone hDecided.live.2

theorem Decided.moves
    (hDecided :
      Decided env s successful m facts agg decision) :
    m.status ≠ decision.status := by
  intro hSame
  have hTerminal := hDecided.terminal
  rw [← hSame] at hTerminal
  have hFailed := hDecided.failed hTerminal
  rcases hDecided.decided with
    ⟨hOther, _⟩ | ⟨_, _, _, seq, _, rfl⟩
  · exact hOther hFailed
  · rw [hFailed] at hSame
    cases hSame

/- A run that is failed already is left for a recovery. -/
theorem Decided.recovers
    (hSane : Sane env s)
    (hFits : s.lastSeq < 2 ^ 64)
    (hDecided :
      Decided env s successful m facts agg decision)
    (hTerminal : m.status.isTerminal = true) :
    recoveryAllowed s (decision.next env now s) m.status
      decision.status = true := by
  rcases hDecided.decided with
    ⟨hOther, _⟩ | ⟨hFailed, rfl, _, seq, hMax, rfl⟩
  · exact absurd (hDecided.failed hTerminal) hOther
  · rcases recoveryEvidence_of_max hSane hDecided.read
      hDecided.aggregate hMax with ⟨hEvidence, hLe⟩
    have hSeq := Json.asU64_natCast (lt_of_le_of_lt hLe hFits)
    have hMember :
        ((RollupDecision.next env now s ⟨.done, some seq⟩
          ).data.get "recovery_merge_report_seq") =
          some (.int seq) := rfl
    unfold recoveryAllowed
    rw [hFailed, hMember, Option.bind_some, hSeq,
      Option.any_some]
    exact hEvidence

/- The plan of the event: the status that was decided. -/
theorem Decided.plan
    (hSane : Sane env s)
    (hFits : s.lastSeq < 2 ^ 64)
    (hDecided :
      Decided env s successful m facts agg decision) :
    reduceEventToOps env s (decision.next env now s) =
      .ok [.manifest { m with
        status := decision.status
        updatedAt := (decision.next env now s).ts }] := by
  have hManifest := hDecided.manifest
  have hRead :=
    readManifestOpt_eq_some.mpr
      ⟨hManifest, hSane.readable m hManifest⟩
  have hStatus :
      (decision.next env now s).requireStatus =
        .ok decision.status :=
    request_status hDecided.terminal _
  refine reduce_eq_ok.mpr ⟨rfl, ?_⟩
  unfold reduceKind
  rw [show (decision.next env now s).kind = .runStatus from
    (request_kind _).1]
  dsimp only
  unfold reduceRunStatus
  rw [hRead, ok_bind]
  dsimp only
  rw [hStatus, ok_bind, if_neg, if_neg hDecided.moves]
  · rfl
  · rintro ⟨hTerminal, hNot⟩
    exact hNot (hDecided.recovers hSane hFits hTerminal)

/- The state a decision leaves. -/
def RollupDecision.rolled
    (env : RunEnv)
    (now : Time)
    (s : Disk)
    (decision : RollupDecision) : Disk :=
  (appendAndApplyUnlocked env
    (decision.request env now)).final s

/-
  The event of a decision is accepted, the manifest has the
  status decided, and nothing is decided after it, whatever
  the children are by then.
-/
structure RolledUp
    (env : RunEnv)
    (now : Time)
    (s : Disk)
    (decision : RollupDecision) : Prop where
  accepted :
    (appendAndApplyUnlocked env
        (decision.request env now)).result s =
      .ok (s.lastSeq + 1)
  status : ∃ m,
    (decision.rolled env now s).manifest = some m ∧
      m.status = decision.status
  silent : ∀ terminal successful,
    rollupDecision env (decision.rolled env now s) terminal
      successful = none

theorem Decided.rolledUp
    (hSane : Sane env s)
    (hSettled : Settled env s)
    (hPassable : Passable env s)
    (hFits : s.lastSeq < 2 ^ 64)
    (hDecided :
      Decided env s successful m facts agg decision) :
    RolledUp env now s decision := by
  have hPlan :
      reduceEventToOps env s (decision.next env now s) =
        .ok [.manifest { m with
          status := decision.status
          updatedAt := (decision.next env now s).ts }] :=
    hDecided.plan hSane hFits
  rcases append_of_settled hSane hSettled hPassable hPlan with
    ⟨hResult, hFinal⟩
  have hRolled := hFinal
  change decision.rolled env now s = _ at hRolled
  have hStatus : ∃ m',
      (decision.rolled env now s).manifest = some m' ∧
        m'.status = decision.status := by
    rw [hRolled]
    exact manifest_of_append
      (m := { m with
        status := decision.status
        updatedAt := (decision.next env now s).ts }) rfl _
  refine ⟨hResult, hStatus, ?_⟩
  intro terminal successful'
  by_contra hSome
  rcases Option.ne_none_iff_exists'.mp hSome with
    ⟨decision', hAgain⟩
  rcases decided_of_some hAgain with
    ⟨m', facts', agg', hDecided'⟩
  rcases hStatus with ⟨m'', hManifest, hSame⟩
  rw [hDecided'.manifest, Option.some.injEq] at hManifest
  subst hManifest
  -- a second decision finds the run failed by this one
  have hFailed : decision.status = .failed := by
    have hTerminal := hDecided.terminal
    rw [← hSame] at hTerminal
    rw [← hSame]
    exact hDecided'.failed hTerminal
  have hAgg : agg = .failed := by
    rcases hDecided.decided with
      ⟨_, rfl⟩ | ⟨_, _, _, seq, _, rfl⟩
    · exact hFailed
    · cases hFailed
  have hDone : agg' = .done := by
    rcases hDecided'.decided with
      ⟨hOther, _⟩ | ⟨_, hDone, _⟩
    · exact absurd (hSame.trans hFailed) hOther
    · exact hDone
  have hLines : (decision.rolled env now s).lines =
      s.lines ++ [.event (decision.next env now s)] := by
    rw [hRolled]
    exact applyOps_log_lines _ (decision.next env now s) s
  have hRead := hDecided'.read
  rw [hLines] at hRead
  have hFacts :=
    facts_of_runEvent (request_kind _).2 hRead
  rw [hDecided.read, Except.ok.injEq] at hFacts
  have hAggs := hDecided.aggregate
  rw [hFacts, hDecided'.aggregate, hDone, hAgg] at hAggs
  cases hAggs

/- The supervisor's section goes by its decision. -/
theorem rollUp_of_decision
    {view : SupervisorView} {linked : List RunId}
    (hCaughtUp :
      (replayUnappliedUnlocked env).result d = .ok ())
    (hLinked :
      discoverChildrenUnlocked env (catchUp env d)
        (view.nodeFiles (catchUp env d)) = .ok linked)
    (hSome :
      rollupDecision env (catchUp env d)
        (childCompletionEvidence linked view.childTails
          (linked.mapM view.childStatus)).1
        (childCompletionEvidence linked view.childTails
          (linked.mapM view.childStatus)).2 = some decision)
    (hRolled :
      RolledUp env now (catchUp env d) decision) :
    (rollUp env now view).result d =
        .ok (some decision.statusStr) ∧
      (rollUp env now view).final d =
        decision.rolled env now (catchUp env d) := by
  have hWhole :
      Durable.wp (rollUp env now view)
        (fun word s => word = some decision.statusStr ∧
          s = decision.rolled env now (catchUp env d))
        (fun _ _ => False) (fun _ _ => True) d := by
    unfold rollUp
    rw [Durable.wp_bind]
    apply Durable.wp_mono (Durable.wp_returned hCaughtUp)
      ?_ (fun _ _ h => h) (fun _ _ h => h)
    rintro _ s ⟨_, rfl⟩
    change Durable.wp _ _ _ _ (catchUp env d)
    rw [Durable.wp_bind, Durable.wp_read, Durable.wp_bind,
      hLinked, Durable.wp_lift_ok]
    dsimp only
    rw [hSome]
    dsimp only
    rw [Durable.wp_bind]
    apply Durable.wp_mono (Durable.wp_returned hRolled.accepted)
      ?_ (fun _ _ h => h) (fun _ _ h => h)
    rintro _ s ⟨_, rfl⟩
    exact Durable.wp_pure _ |>.mpr ⟨rfl, rfl⟩
  rcases Durable.wp_total hWhole with
    ⟨word, hResult, rfl, hFinal⟩
  exact ⟨hResult, hFinal⟩

end Rollup

------------------------------------------------------------
-- Convergence
------------------------------------------------------------

/-
  In every run of the writers, a decision on the caught-up
  run rolls it up for good, and the supervisor's section
  does just that. Sequence numbers are of 64 bits.
-/
theorem rollup_converges
    (env : RunEnv)
    (d : Disk)
    (now : Time)
    (hRun : WriterRun env d)
    (hFits : d.lastSeq < 2 ^ 64)
    (hCaughtUp :
      (replayUnappliedUnlocked env).result d = .ok ()) :
    (∀ terminal successful decision,
      rollupDecision env (catchUp env d) terminal successful =
        some decision →
      RolledUp env now (catchUp env d) decision) ∧
    ∀ (view : SupervisorView) linked decision,
      discoverChildrenUnlocked env (catchUp env d)
          (view.nodeFiles (catchUp env d)) = .ok linked →
      rollupDecision env (catchUp env d)
          (childCompletionEvidence linked view.childTails
            (linked.mapM view.childStatus)).1
          (childCompletionEvidence linked view.childTails
            (linked.mapM view.childStatus)).2 =
        some decision →
      (rollUp env now view).result d =
          .ok (some decision.statusStr) ∧
        (rollUp env now view).final d =
          decision.rolled env now (catchUp env d) := by
  have hBacked := hRun.backed
  have hCaught :=
    Durable.wp_ok
      (Durable.wp_and
        (wp_catchUp_passable hBacked.ordered)
        ((kept_backed env).wp_catchUp hBacked)) hCaughtUp
  rcases hCaught with
    ⟨⟨hLines, hSettled, hPassable⟩, hBacked', _⟩
  change Settled env (catchUp env d) at hSettled
  change Passable env (catchUp env d) at hPassable
  change Backed env (catchUp env d) at hBacked'
  have hLast : (catchUp env d).lastSeq = d.lastSeq :=
    lastSeq_congr hLines
  rw [← hLast] at hFits
  have hRolled : ∀ terminal successful decision,
      rollupDecision env (catchUp env d) terminal successful =
        some decision →
      RolledUp env now (catchUp env d) decision := by
    intro terminal successful decision hSome
    rcases decided_of_some hSome with ⟨m, facts, agg, hDecided⟩
    exact hDecided.rolledUp hBacked'.toSane hSettled hPassable
      hFits
  refine ⟨hRolled, ?_⟩
  intro view linked decision hLinked hSome
  exact rollUp_of_decision hCaughtUp hLinked hSome
    (hRolled _ _ _ hSome)

/- A failed run is recovered by its merge, once. -/
theorem rollup_converges_failedRun :
    rollupDecision Sample.env
        (catchUp Sample.env
          (Sample.failedRun Sample.mergeReport)) true true =
      some ⟨.done, some 5⟩ ∧
    RolledUp Sample.env 0
      (catchUp Sample.env
        (Sample.failedRun Sample.mergeReport))
      ⟨.done, some 5⟩ := by
  have hRun : WriterRun Sample.env
      (Sample.failedRun Sample.mergeReport) :=
    (Sample.bootedRun_after (fun _ => True) _).writerRun
  have hSome :
      rollupDecision Sample.env
          (catchUp Sample.env
            (Sample.failedRun Sample.mergeReport)) true true =
        some ⟨.done, some 5⟩ := by
    decide +kernel
  exact ⟨hSome,
    (rollup_converges Sample.env
      (Sample.failedRun Sample.mergeReport) 0 hRun
      (by decide +kernel) (by decide +kernel)).1 _ _ _ hSome⟩

end Taskfleet
