import Taskfleet.Writers

/-
  Cancelling a run: what an answer means, and what happens
  when the call is cut and made again.

  Main declarations:
    * `CancelSafe`, `CancelledWhole`
    * `AtMostOnce`, `Exhausted`
    * `cancelRun_sound`
-/

------------------------------------------------------------
-- The Status of the Run
------------------------------------------------------------

namespace Taskfleet

open Fallible

/- The run has a manifest with a status of the kind. -/
def Standing (P : Status → Prop) (s : Disk) : Prop :=
  ∃ m, s.manifest = some m ∧ P m.status

/- A run that is live or cancelled, and only by such events. -/
structure Cancellable (s : Disk) : Prop where
  standing : Standing
    (fun st => st.isTerminal = true → st = .cancelled) s
  ahead : ∀ ev ∈ s.events, s.appliedSeq < ev.seq →
    ev.kind = .runStatus → ∀ st, ev.requireStatus = .ok st →
    st.isTerminal = true → st = .cancelled

section Standing

variable {env : RunEnv} {s : Disk} {ev : Event}
variable {P : Status → Prop}

theorem standing_advance
    {seq : Nat}
    (hStanding : Standing P s) : Standing P (s.advance seq) := by
  rcases hStanding with ⟨m, hManifest, hStatus⟩
  by_cases hBehind : m.appliedSeq < seq
  · rw [Disk.advance_of_behind hManifest hBehind]
    exact ⟨_, rfl, hStatus⟩
  · rw [Disk.advance_of_not_behind
      (by simp [Disk.Behind, hManifest, hBehind])]
    exact ⟨m, hManifest, hStatus⟩

/- What a closed run is stays what it is, but for failures. -/
theorem standing_cut
    {ops : List ProjectionOp}
    (hStanding : Standing P s)
    (hPlan : reduceEventToOps env s ev = .ok ops)
    (hStep : ∀ m st, s.manifest = some m → P m.status →
      ev.kind = .runStatus → ev.requireStatus = .ok st →
      (m.status.isTerminal = true →
        m.status = .failed ∧ st = .done) →
      P st)
    (k : Nat) :
    Standing P (applyOps (ops.take k) s) := by
  rcases hStanding with ⟨m, hManifest, hStatus⟩
  rcases manifestStep_of_cut hPlan hManifest k with
    ⟨m', hManifest', hMove⟩
  refine ⟨m', hManifest', ?_⟩
  rcases hMove.status with hSame | ⟨hKind, hRead, hOpen⟩
  · rwa [hSame]
  · exact hStep m m'.status hManifest hStatus hKind hRead
      (fun hTerminal =>
        recoveryAllowed_statuses (hOpen hTerminal))

theorem standing_unless
    {st : Status}
    (hTerminal : st.isTerminal = true)
    (hOther : st ≠ .failed)
    (hStanding : Standing (fun cur => cur = st) s)
    {ops : List ProjectionOp}
    (hPlan : reduceEventToOps env s ev = .ok ops)
    (k : Nat) :
    Standing (fun cur => cur = st) (applyOps (ops.take k) s) := by
  refine standing_cut hStanding hPlan ?_ k
  intro m st' _ hStatus _ _ hOpen
  rw [hStatus] at hOpen
  exact absurd (hOpen hTerminal).1 hOther

theorem kept_cancelled (env : RunEnv) :
    Kept env (fun s => Backed env s ∧
      Standing (fun st => st = .cancelled) s) := by
  refine (kept_backed env).and (fun _ _ h => h) ?_
    (fun _ _ h _ => standing_advance h)
  intro s ev ops k _ hStanding _ hPlan
  exact standing_unless rfl (by simp) hStanding hPlan k

theorem Cancellable.cut
    {ops : List ProjectionOp}
    (hBacked : Backed env s)
    (hCancellable : Cancellable s)
    (hMem : ev ∈ s.events)
    (hPlan : reduceEventToOps env s ev = .ok ops)
    (k : Nat) :
    Cancellable (applyOps (ops.take k) s) := by
  refine ⟨standing_cut hCancellable.standing hPlan ?_ k, ?_⟩
  · intro m st hManifest hStatus hKind hRead hOpen hTerminal
    by_cases hAhead : s.appliedSeq < ev.seq
    · exact hCancellable.ahead ev hMem hAhead hKind st hRead
        hTerminal
    · -- a closing that was folded has left a closed run
      rcases hBacked.closed ev hMem hKind (not_lt.mp hAhead) st
        hRead hTerminal with ⟨m', hManifest', hClosed⟩
      rw [hManifest, Option.some.injEq] at hManifest'
      subst hManifest'
      have hCancelled := hStatus hClosed
      rw [hCancelled] at hOpen
      exact absurd (hOpen rfl).1 (by simp)
  · rw [Disk.applyOps_events, appliedSeq_of_plan hPlan rfl]
    exact hCancellable.ahead

theorem Cancellable.advance
    (hCancellable : Cancellable s) (seq : Nat) :
    Cancellable (s.advance seq) := by
  refine ⟨standing_advance hCancellable.standing, ?_⟩
  rw [Disk.advance_events]
  intro e hMem hAhead
  rcases hCancellable.standing with ⟨m, hManifest, _⟩
  refine hCancellable.ahead e hMem (lt_of_le_of_lt ?_ hAhead)
  rw [Disk.appliedSeq_of_manifest hManifest]
  by_cases hBehind : m.appliedSeq < seq
  · rw [advance_appliedSeq hManifest (by
      rw [Disk.appliedSeq_of_manifest hManifest]
      exact hBehind)]
    exact le_of_lt hBehind
  · rw [Disk.advance_of_not_behind
      (by simp [Disk.Behind, hManifest, hBehind]),
      Disk.appliedSeq_of_manifest hManifest]

theorem kept_cancellable (env : RunEnv) :
    Kept env (fun s => Backed env s ∧ Cancellable s) := by
  refine (kept_backed env).and
    (fun _ _ h => ⟨h.standing, h.ahead⟩) ?_
    (fun _ ev h _ => h.advance ev.seq)
  intro s ev ops k hBacked hCancellable hMem hPlan
  exact hCancellable.cut hBacked hMem hPlan k

/- A live run may take any event that does not close it. -/
theorem Cancellable.log
    (hCancellable : Cancellable s)
    (hEvent : ev.kind = .runStatus → ∀ st,
      ev.requireStatus = .ok st → st.isTerminal = true →
      st = .cancelled) :
    Cancellable (s.log ev) := by
  refine ⟨hCancellable.standing, ?_⟩
  intro e hMem hAhead
  rw [Disk.log_events, List.mem_append,
    List.mem_singleton] at hMem
  rcases hMem with hOld | rfl
  · exact hCancellable.ahead e hOld hAhead
  · exact hEvent

end Standing

------------------------------------------------------------
-- At Most Once
------------------------------------------------------------

/- The cancel events of a node, and of the run. -/
def nodeCancels
    (env : RunEnv) (id : NodeId) (s : Disk) : Nat :=
  keyedCount .nodeReport (nodeCancelKey env id) s.events

def runCancels (env : RunEnv) (s : Disk) : Nat :=
  keyedCount .runStatus (runStatusCancelKey env) s.events

/- No second cancel event came in between. -/
structure AtMostOnce (env : RunEnv) (d s : Disk) : Prop where
  node : ∀ id,
    nodeCancels env id s ≤ max 1 (nodeCancels env id d)
  run : runCancels env s ≤ max 1 (runCancels env d)

section Once

variable {env : RunEnv} {d s : Disk}

theorem AtMostOnce.refl (d : Disk) : AtMostOnce env d d :=
  ⟨fun _ => le_max_right _ _, le_max_right _ _⟩

theorem AtMostOnce.trans
    {s' : Disk}
    (hFirst : AtMostOnce env d s)
    (hSecond : AtMostOnce env s s') : AtMostOnce env d s' := by
  constructor
  · intro id
    have hLow := hFirst.node id
    have hHigh := hSecond.node id
    omega
  · have hLow := hFirst.run
    have hHigh := hSecond.run
    omega

theorem nodeCancels_eq
    {s' : Disk} {id : NodeId} (hEvents : s'.events = s.events) :
    nodeCancels env id s' = nodeCancels env id s := by
  unfold nodeCancels
  rw [hEvents]

theorem runCancels_eq
    {s' : Disk} (hEvents : s'.events = s.events) :
    runCancels env s' = runCancels env s := by
  unfold runCancels
  rw [hEvents]

theorem nodeCancels_log
    (id i : NodeId) (now : Time) (reason summary : String)
    (seq : Nat) :
    nodeCancels env i
        (s.log ((nodeCancelRequest env now reason summary
          id).event env seq)) =
      nodeCancels env i s + if i = id then 1 else 0 := by
  unfold nodeCancels
  rw [Disk.log_events, keyedCount_concat]
  congr 1
  by_cases hHere : i = id
  · rw [if_pos hHere, if_pos]
    rw [keyedAs_iff, hHere]
    exact ⟨rfl, rfl⟩
  · rw [if_neg hHere, if_neg]
    rw [keyedAs_iff]
    rintro ⟨_, hKey⟩
    rw [Request.event, nodeCancelRequest,
      Option.some.injEq] at hKey
    exact hHere (nodeCancelKey_injective hKey).symm

theorem runCancels_log
    (id : NodeId) (now : Time) (reason summary : String)
    (seq : Nat) :
    runCancels env
        (s.log ((nodeCancelRequest env now reason summary
          id).event env seq)) =
      runCancels env s := by
  unfold runCancels
  rw [Disk.log_events, keyedCount_concat, if_neg,
    Nat.add_zero]
  rw [keyedAs_iff]
  rintro ⟨hKind, _⟩
  cases hKind

/- A first report of a node's cancellation. -/
theorem AtMostOnce.report
    {id : NodeId} {now : Time} {reason summary : String}
    {seq : Nat}
    (hOnce : AtMostOnce env d s)
    (hFirst : nodeCancels env id s = 0) :
    AtMostOnce env d
      (s.log ((nodeCancelRequest env now reason summary
        id).event env seq)) := by
  constructor
  · intro i
    rw [nodeCancels_log]
    have hHere := hOnce.node i
    split
    next hSame =>
      rw [hSame]
      omega
    next => omega
  · rw [runCancels_log]
    exact hOnce.run

theorem AtMostOnce.close
    {now : Time} {data : Json} {seq : Nat}
    (hOnce : AtMostOnce env d s)
    (hFirst : runCancels env s = 0) :
    AtMostOnce env d
      (s.log ((runCancelRequest env now data).event env
        seq)) := by
  constructor
  · intro i
    have hHere := hOnce.node i
    unfold nodeCancels at hHere ⊢
    rw [Disk.log_events, keyedCount_concat, if_neg,
      Nat.add_zero]
    · exact hHere
    · rw [keyedAs_iff]
      rintro ⟨hKind, _⟩
      cases hKind
  · unfold runCancels at hFirst ⊢
    rw [Disk.log_events, keyedCount_concat, hFirst]
    split <;> omega

theorem kept_once (env : RunEnv) (d : Disk) :
    Kept env (fun s => Backed env s ∧ AtMostOnce env d s) := by
  have hCongr : ∀ s s' : Disk, s'.events = s.events →
      AtMostOnce env d s → AtMostOnce env d s' := by
    intro s s' hEvents hOnce
    constructor
    · intro id
      rw [nodeCancels_eq hEvents]
      exact hOnce.node id
    · rw [runCancels_eq hEvents]
      exact hOnce.run
  refine (kept_backed env).and
    (fun s _ h => hCongr s _ rfl h) ?_ ?_
  · intro s ev ops k _ hOnce _ _
    exact hCongr s _ (Disk.applyOps_events _ _) hOnce
  · intro s ev hOnce _
    exact hCongr s _ (Disk.advance_events _ _) hOnce

/- The entries still to come have no cancel event yet. -/
structure Fresh
    (env : RunEnv)
    (ledger : CancelLedger)
    (rest : List (NodeId × Status))
    (s : Disk) : Prop where
  once : (rest.map Prod.fst).Nodup
  node : ∀ entry ∈ rest,
    ledger.prior .nodeReport (nodeCancelKey env entry.1) =
      none →
    nodeCancels env entry.1 s = 0
  run :
    ledger.prior .runStatus (runStatusCancelKey env) = none →
    runCancels env s = 0

theorem fresh_start
    {m : Manifest} {ledger : CancelLedger}
    (hOpened : Opened env d m ledger) :
    Fresh env ledger ledger.nodeStatus d := by
  refine ⟨?_, ?_, ?_⟩
  · rw [hOpened.reads.nodeStatus]
    exact finish_nodup (tidy_logAcc _)
  · intro entry _ hPrior
    rw [hOpened.nodePrior] at hPrior
    exact keyedCount_eq_zero.mpr hPrior
  · intro hPrior
    rw [hOpened.runPrior] at hPrior
    exact keyedCount_eq_zero.mpr hPrior

theorem Fresh.step
    {ledger : CancelLedger} {id : NodeId} {st : Status}
    {rest : List (NodeId × Status)} {live : Bool} {s' : Disk}
    {now : Time} {reason summary : String}
    (hFresh : Fresh env ledger ((id, st) :: rest) s)
    (hSettling : Settling env ledger
      (nodeCancelRequest env now reason summary id) id st s
      live s') :
    Fresh env ledger rest s' := by
  have hTail : Fresh env ledger rest s :=
    ⟨(List.nodup_cons.mp hFresh.once).2,
      fun entry hMem =>
        hFresh.node entry (List.mem_cons_of_mem _ hMem),
      hFresh.run⟩
  cases hSettling with
  | passed => exact hTail
  | finished => exact hTail
  | refolded _ ops =>
      refine ⟨hTail.once, ?_, ?_⟩
      · intro entry hMem hPrior
        rw [nodeCancels_eq (Disk.applyOps_events _ _)]
        exact hTail.node entry hMem hPrior
      · intro hPrior
        rw [runCancels_eq (Disk.applyOps_events _ _)]
        exact hTail.run hPrior
  | appended _ _ _ _ hLines =>
      have hEvents : s'.events =
          (s.log ((nodeCancelRequest env now reason summary
            id).event env (s.lastSeq + 1))).events := by
        rw [events_next hLines, Disk.log_events]
      refine ⟨hTail.once, ?_, ?_⟩
      · intro entry hMem hPrior
        have hHere := hTail.node entry hMem hPrior
        have hOther : entry.1 ≠ id := by
          rintro rfl
          exact (List.nodup_cons.mp hFresh.once).1
            (List.mem_map.mpr ⟨entry, hMem, rfl⟩)
        rw [nodeCancels_eq hEvents, nodeCancels_log,
          if_neg hOther, hHere]
      · intro hPrior
        have hHere := hTail.run hPrior
        rw [runCancels_eq hEvents, runCancels_log, hHere]

/- One call, cut or not, cancels nothing twice. -/
theorem wp_cancelRun_once
    {clock : CancelClock} {note : Option String}
    (hBacked : Backed env d) :
    Durable.wp (cancelRunUnlocked env clock note)
      (fun _ s => Backed env s ∧ AtMostOnce env d s)
      (fun _ s => Backed env s ∧ AtMostOnce env d s)
      (fun _ s => Backed env s ∧ AtMostOnce env d s) d := by
  have hStart : Backed env d ∧ AtMostOnce env d d :=
    ⟨hBacked, .refl d⟩
  refine wp_cancelRunUnlocked hBacked.toSane (fun _ => hStart) ?_
  intro m ledger hOpened
  refine Durable.wp_mono
    (wp_settleNodes
      (J := fun rest s =>
        (Backed env s ∧ AtMostOnce env d s) ∧ Reported d s ∧
          Fresh env ledger rest s)
      ?_ ⟨hStart, .refl d, fresh_start hOpened⟩)
    ?_ (fun _ _ h => h) (fun _ _ h => h)
  · rintro id st rest s ⟨hI, hReported, hFresh⟩
    refine Durable.wp_mono
      (wp_settleNode (kept_once env d)
        (fun _ => hOpened.nodeRefolds hReported) ?_ hI)
      (fun _ _ h => ⟨h.1, hReported.trans
        (settling_reported h.2), hFresh.step h.2⟩)
      (fun _ _ h => h.1) (fun _ _ h => h.1)
    intro s' ops hPrior _ hI' hLines hAbreast hPlan
    refine ⟨hI'.1.log hAbreast.1 hAbreast.2 rfl hPlan,
      hI'.2.report ?_⟩
    rw [nodeCancels_eq (Disk.events_congr hLines)]
    exact hFresh.node _ List.mem_cons_self hPrior
  · rintro _ s ⟨hI, hReported, hFresh⟩
    split
    · exact Durable.wp_pure _ |>.mpr hI
    · refine Durable.wp_mono
        (wp_closeRun (kept_once env d)
          (fun _ => hOpened.runRefolds hReported) ?_ hI)
        (fun _ _ h => h.1) (fun _ _ h => h.1)
        (fun _ _ h => h.1)
      intro s' ops hPrior hI' hLines hAbreast hPlan
      refine ⟨hI'.1.log hAbreast.1 hAbreast.2 rfl hPlan,
        hI'.2.close ?_⟩
      rw [runCancels_eq (Disk.events_congr hLines)]
      exact hFresh.run hPrior

end Once

------------------------------------------------------------
-- Nothing Left to Append
------------------------------------------------------------

/- Every live node and a live run have a cancel event. -/
structure Exhausted (env : RunEnv) (s : Disk) : Prop where
  node : ∀ id, (logAcc s.events).status id ≠ none →
    Handled env s id
  run : Standing (fun st => st.isTerminal = true) s ∨
    s.events.find?
        (keyedAs .runStatus (runStatusCancelKey env)) ≠ none

section Exhausted

variable {env : RunEnv} {d s : Disk}
variable {clock : CancelClock} {note : Option String}

theorem standing_closed
    {ev : Event} {ops : List ProjectionOp}
    (hStanding : Standing (fun st => st.isTerminal = true) s)
    (hPlan : reduceEventToOps env s ev = .ok ops)
    (k : Nat) :
    Standing (fun st => st.isTerminal = true)
      (applyOps (ops.take k) s) := by
  refine standing_cut hStanding hPlan ?_ k
  intro m st _ hTerminal _ _ hOpen
  rw [(hOpen hTerminal).2]
  rfl

theorem kept_exhausted (env : RunEnv) (d : Disk) :
    Kept env (fun s => Backed env s ∧
      (s.lines = d.lines ∧ Exhausted env s)) := by
  have hMove : ∀ s s' : Disk, s'.events = s.events →
      (Standing (fun st => st.isTerminal = true) s →
        Standing (fun st => st.isTerminal = true) s') →
      Exhausted env s → Exhausted env s' := by
    intro s s' hEvents hStanding hExhausted
    refine ⟨?_, ?_⟩
    · unfold Handled
      rw [hEvents]
      exact hExhausted.node
    · rw [hEvents]
      exact hExhausted.run.imp hStanding (fun h => h)
  refine (kept_backed env).and
    (fun s _ h => ⟨h.1, hMove s _ rfl (fun h => h) h.2⟩) ?_ ?_
  · intro s ev ops k _ hX _ hPlan
    exact ⟨(applyOps_lines _ _).trans hX.1,
      hMove s _ (Disk.applyOps_events _ _)
        (fun hStanding => standing_closed hStanding hPlan k)
        hX.2⟩
  · intro s ev hX _
    exact ⟨(Disk.advance_lines _ _).trans hX.1,
      hMove s _ (Disk.advance_events _ _) standing_advance hX.2⟩

/- A further call only folds again. -/
theorem wp_cancelRun_exhausted
    (hBacked : Backed env d)
    (hExhausted : Exhausted env d) :
    Durable.wp (cancelRunUnlocked env clock note)
      (fun _ s => Backed env s ∧
        (s.lines = d.lines ∧ Exhausted env s))
      (fun _ s => Backed env s ∧
        (s.lines = d.lines ∧ Exhausted env s))
      (fun _ s => Backed env s ∧
        (s.lines = d.lines ∧ Exhausted env s)) d := by
  have hStart : Backed env d ∧
      (d.lines = d.lines ∧ Exhausted env d) :=
    ⟨hBacked, rfl, hExhausted⟩
  have hSame : ∀ s : Disk, s.lines = d.lines →
      Reported d s := by
    intro s hLines
    exact ⟨[], by simp [Disk.events_congr hLines], by simp⟩
  refine wp_cancelRunUnlocked hBacked.toSane (fun _ => hStart) ?_
  intro m ledger hOpened
  refine Durable.wp_mono
    (wp_settleNodes
      (J := fun rest s =>
        (Backed env s ∧
          (s.lines = d.lines ∧ Exhausted env s)) ∧
          ∀ entry ∈ rest, entry ∈ ledger.nodeStatus)
      ?_ ⟨hStart, fun _ h => h⟩)
    ?_ (fun _ _ h => h) (fun _ _ h => h)
  · rintro id st rest s ⟨hI, hRest⟩
    refine Durable.wp_mono
      (wp_settleNode (kept_exhausted env d)
        (fun _ => hOpened.nodeRefolds (hSame s hI.2.1)) ?_ hI)
      (fun _ _ h => ⟨h.1, fun entry hMem =>
        hRest entry (List.mem_cons_of_mem _ hMem)⟩)
      (fun _ _ h => h.1) (fun _ _ h => h.1)
    intro s' ops hPrior hLive
    have hStatus := hOpened.mem.mp
      (hRest (id, st) List.mem_cons_self)
    rw [hOpened.nodePrior] at hPrior
    rcases hExhausted.node id (by simp [hStatus]) with
      ⟨st', hSame', hTerminal⟩ | hKeyed
    · rw [hStatus, Option.some.injEq] at hSame'
      rw [hSame', hTerminal] at hLive
      cases hLive
    · exact absurd hPrior hKeyed
  · rintro _ s ⟨hI, _⟩
    split
    · exact Durable.wp_pure _ |>.mpr hI
    next hOther =>
      refine Durable.wp_mono
        (wp_closeRun (kept_exhausted env d)
          (fun _ => hOpened.runRefolds (hSame s hI.2.1)) ?_ hI)
        (fun _ _ h => h.1) (fun _ _ h => h.1)
        (fun _ _ h => h.1)
      intro s' ops hPrior
      rw [hOpened.runPrior] at hPrior
      rcases hExhausted.run with ⟨m', hManifest, hTerminal⟩ |
        hKeyed
      · rw [hOpened.manifest, Option.some.injEq] at hManifest
        subst hManifest
        exact absurd (hOpened.status hTerminal) hOther
      · exact absurd hPrior hKeyed

/- The nodes of the log after the loop. -/
theorem Looping.handledAll
    {m : Manifest} {ledger : CancelLedger}
    (hLooping : Looping env d ledger [] s)
    (hOpened : Opened env d m ledger) :
    ∀ id, (logAcc s.events).status id ≠ none →
      Handled env s id := by
  intro id hThere
  rw [ne_eq, hLooping.reported.status_eq_none] at hThere
  rcases Option.ne_none_iff_exists'.mp hThere with
    ⟨st, hStatus⟩
  rcases hLooping.handled (id, st) (hOpened.mem.mpr hStatus)
    with hNil | hDone
  · cases hNil
  · exact hDone

/- A state after the loop, once the run is closed. -/
theorem exhausted_of_closing
    {m : Manifest} {ledger : CancelLedger} {s' : Disk}
    {now : Time} {data : Json}
    (hOpened : Opened env d m ledger)
    (hLooping : Looping env d ledger [] s)
    (hClosing : Closing env ledger
      (runCancelRequest env now data) s s') :
    Exhausted env s' := by
  have hNodes := hLooping.handledAll hOpened
  cases hClosing with
  | refolded prior ops hPrior =>
      refine ⟨?_, .inr ?_⟩
      · unfold Handled
        rw [Disk.applyOps_events]
        exact hNodes
      · rw [Disk.applyOps_events]
        rcases hLooping.reported with ⟨added, hEvents, _⟩
        rw [hOpened.runPrior] at hPrior
        rw [hEvents]
        exact find_keyed_append (by simp [hPrior])
  | appended _ _ _ hLines =>
      have hEvents := events_next hLines
      refine ⟨?_, .inr ?_⟩
      · intro id hThere
        have hOld : (logAcc s.events).status id ≠ none := by
          intro hNone
          rw [hEvents, logAcc_concat] at hThere
          refine hThere (step_absent ?_ hNone)
          simp [Request.event, runCancelRequest]
        rcases hNodes id hOld with hSettles | hKeyed
        · left
          rw [hEvents]
          exact logAcc_settled hSettles
        · right
          rw [hEvents]
          exact find_keyed_append hKeyed
      · rw [hEvents]
        exact find_keyed_concat rfl rfl

end Exhausted

------------------------------------------------------------
-- What an Answer Means
------------------------------------------------------------

/-
  The states in which an answer of the call is true. A cancel
  key of a node in the log is on a report of that node, and
  the log has settled it. In a live run no closing past the
  watermark is another than a cancellation, nor is one under
  the run's cancel key. In a cancelled run whose log has no
  live node, the nodes that are live on disk but settled in
  the log have their cancel keys in it.
-/
structure CancelSafe (env : RunEnv) (d : Disk) : Prop where
  keys : ∀ id, (logAcc d.events).status id ≠ none →
    ∀ prior,
      d.events.find?
          (keyedAs .nodeReport (nodeCancelKey env id)) =
        some prior →
      prior.nodeId = some id ∧ (logAcc d.events).Settles id
  ahead : Standing (fun st => st.isTerminal = false) d →
    ∀ ev ∈ d.events, d.appliedSeq < ev.seq →
      ev.kind = .runStatus → ∀ st, ev.requireStatus = .ok st →
      st.isTerminal = true → st = .cancelled
  close : Standing (fun st => st.isTerminal = false) d →
    ∀ prior,
      d.events.find?
          (keyedAs .runStatus (runStatusCancelKey env)) =
        some prior →
      prior.requireStatus = .ok .cancelled
  stranded : Standing (fun st => st = .cancelled) d →
    (∀ id, (logAcc d.events).status id ≠ none →
      (logAcc d.events).Settles id) →
    ∀ id, (logAcc d.events).Settles id →
      (d.verdict id).rank ≠ 2 →
      d.events.find?
        (keyedAs .nodeReport (nodeCancelKey env id)) ≠ none

/- A cancelled run, every node settled in log and on disk. -/
structure CancelledWhole (s : Disk) : Prop where
  run : Standing (fun st => st = .cancelled) s
  node : ∀ ev ∈ s.events, ev.kind = .nodeCreated →
    ∀ id, ev.nodeId = some id →
    (logAcc s.events).Settles id ∧
      ∃ n, s.nodes.lookup id = some n ∧
        n.status.isTerminal = true

section Answer

variable {env : RunEnv} {d s s' : Disk} {I : Disk → Prop}
variable {clock : CancelClock} {note : Option String}
variable {m : Manifest} {ledger : CancelLedger}
variable {reason summary : String} {now : Time}

theorem settled_of_rank
    {id : NodeId} (hRank : (s.verdict id).rank = 2) :
    ∃ n, s.nodes.lookup id = some n ∧
      n.status.isTerminal = true := by
  cases hLookup : s.nodes.lookup id with
  | none =>
      rw [verdict_of_missing hLookup] at hRank
      cases hRank
  | some n =>
      rw [verdict_of_lookup hLookup, rank_status] at hRank
      refine ⟨n, rfl, ?_⟩
      by_contra hLive
      rw [if_neg hLive] at hRank
      cases hRank

/- Folds never take a node back. -/
theorem Kept.above
    (hKept : Kept env I) (d : Disk) :
    Kept env (fun s => I s ∧ Under d.verdict s.verdict) := by
  refine hKept.and (fun _ _ h => h) ?_ ?_
  · intro s ev ops k _ hUnder _ hPlan
    cases k with
    | zero => exact hUnder
    | succ j =>
        rw [verdict_of_cut hPlan j]
        exact hUnder.trans under_moves
  · intro s ev hUnder _
    rwa [verdict_congr (Disk.advance_nodes _ _)]

/-
  Either an append has caught the disk up with the log, or
  nothing was appended and the nodes passed over had an
  outcome in the log.
-/
def Converging
    (env : RunEnv)
    (d : Disk)
    (ledger : CancelLedger)
    (rest : List (NodeId × Status))
    (s : Disk) : Prop :=
  Under (logAcc s.events).verdict s.verdict ∨
    (s.events = d.events ∧
      ∀ entry ∈ ledger.nodeStatus,
        entry ∈ rest ∨
          (ledger.prior .nodeReport
              (nodeCancelKey env entry.1) = none ∧
            entry.2.isTerminal = true) ∨
          (ledger.prior .nodeReport
              (nodeCancelKey env entry.1) ≠ none ∧
            (s.verdict entry.1).rank = 2))

/- A prior cancel report settles its node when folded. -/
theorem rank_refolded
    {id : NodeId} {prior : Event} {ops : List ProjectionOp}
    (hBacked : Backed env s)
    (hKind : prior.kind = .nodeReport)
    (hNode : prior.nodeId = some id)
    (hSettles : (logAcc s.events).Settles id)
    (hPlan : reduceEventToOps env s prior = .ok ops) :
    ((applyOps ops s).verdict id).rank = 2 := by
  rcases admissible_of_plan (by rw [hKind]; rfl) hPlan with
    ⟨_, i, hOn, hTakes⟩
  rw [hNode, Option.some.injEq] at hOn
  subst hOn
  rw [verdict_of_plan hPlan]
  exact rank_report hKind hNode hTakes (hBacked.present hSettles)

theorem rank_mono
    {id : NodeId}
    (hUnder : Under s.verdict s'.verdict)
    (hRank : (s.verdict id).rank = 2) :
    (s'.verdict id).rank = 2 := by
  have hLe := hUnder id
  have hTop := (s'.verdict id).rank_le
  omega

theorem under_plan
    {ev : Event} {ops : List ProjectionOp}
    (hPlan : reduceEventToOps env s ev = .ok ops) :
    Under s.verdict (applyOps ops s).verdict := by
  rw [verdict_of_plan hPlan]
  exact under_moves

theorem Converging.step
    {id : NodeId} {st : Status} {live : Bool}
    {rest : List (NodeId × Status)}
    (hOpened : Opened env d m ledger)
    (hSafe : CancelSafe env d)
    (hBacked : Backed env s)
    (hBacked' : Backed env s')
    (hLooping : Looping env d ledger ((id, st) :: rest) s)
    (hConverging :
      Converging env d ledger ((id, st) :: rest) s)
    (hSettling : Settling env ledger
      (nodeCancelRequest env now reason summary id) id st s
      live s') :
    Converging env d ledger rest s' := by
  have hStatus := hOpened.mem.mp
    (hLooping.later (id, st) List.mem_cons_self)
  -- the entry at hand by its case, the others as before
  have hNext : ∀ s' : Disk,
      Under s.verdict s'.verdict → s'.events = s.events →
      ((ledger.prior .nodeReport (nodeCancelKey env id) =
            none ∧ st.isTerminal = true) ∨
        (ledger.prior .nodeReport (nodeCancelKey env id) ≠
            none ∧ (s'.verdict id).rank = 2)) →
      Converging env d ledger rest s' := by
    intro s' hUp hEvents hHere
    rcases hConverging with hUnder | ⟨hSame, hEntries⟩
    · left
      rw [hEvents]
      exact hUnder.trans hUp
    · refine .inr ⟨hEvents.trans hSame, ?_⟩
      intro entry hMem
      rcases hEntries entry hMem with hRest | hPassed | hFolded
      · rcases List.mem_cons.mp hRest with rfl | hRest
        · exact .inr hHere
        · exact .inl hRest
      · exact .inr (.inl hPassed)
      · exact .inr (.inr ⟨hFolded.1, rank_mono hUp hFolded.2⟩)
  cases hSettling with
  | passed prior hPrior hSettled =>
      exact hNext s (.refl _) rfl
        (.inr ⟨by simp [hPrior], hSettled⟩)
  | finished hPrior hTerminal =>
      exact hNext s (.refl _) rfl (.inl ⟨hPrior, hTerminal⟩)
  | refolded prior ops hPrior hPlan =>
      have hFound := hPrior
      rw [hOpened.nodePrior] at hFound
      rcases hSafe.keys id (by simp [hStatus]) prior hFound with
        ⟨hNode, hSettles⟩
      refine hNext _ (under_plan hPlan)
        (Disk.applyOps_events _ _)
        (.inr ⟨by simp [hPrior], ?_⟩)
      exact rank_refolded hBacked (find_mem hFound).2 hNode
        (hLooping.reported.settles hSettles) hPlan
  | appended _ _ _ hAbreast =>
      exact .inl (hBacked'.agreed hAbreast.1)

theorem wp_converge
    (hKept : Kept env I)
    (hReport : ∀ (s : Disk) ev ops, I s → Abreast s →
      ev.kind = .nodeReport → ev.seq = s.lastSeq + 1 →
      reduceEventToOps env s ev = .ok ops → I (s.log ev))
    (hOpened : Opened env d m ledger)
    (hSafe : CancelSafe env d)
    (hStart : I d) :
    Durable.wp
      (settleNodes env clock reason ledger ledger.nodeStatus)
      (fun _ s => I s ∧ Looping env d ledger [] s ∧
        Converging env d ledger [] s)
      (fun _ _ => True) (fun _ _ => True) d := by
  refine wp_settleNodes
    (J := fun rest s => I s ∧ Looping env d ledger rest s ∧
      Converging env d ledger rest s) ?_
    ⟨hStart, looping_start,
      .inr ⟨rfl, fun _ hMem => .inl hMem⟩⟩
  rintro id st rest s ⟨hI, hLooping, hConverging⟩
  refine Durable.wp_mono
    (wp_settleNode hKept
      (fun _ => hOpened.nodeRefolds hLooping.reported) ?_ hI)
    ?_ (fun _ _ _ => trivial) (fun _ _ _ => trivial)
  · intro s' ops _ _ hI' _ hAbreast hPlan
    exact hReport s' _ ops hI' hAbreast rfl rfl hPlan
  · rintro live s' ⟨hI', hSettling⟩
    exact ⟨hI', hLooping.step hOpened hSettling,
      hConverging.step hOpened hSafe (hKept.backed s hI)
        (hKept.backed s' hI') hLooping hSettling⟩

/- The log is settled after the loop, and all its later logs. -/
theorem Opened.looped
    {id : NodeId}
    (hOpened : Opened env d m ledger)
    (hSafe : CancelSafe env d)
    (hLooping : Looping env d ledger [] s)
    (hThere : (logAcc d.events).status id ≠ none) :
    (logAcc s.events).Settles id := by
  rcases Option.ne_none_iff_exists'.mp hThere with ⟨st, hStatus⟩
  rcases hLooping.settled (id, st) (hOpened.mem.mpr hStatus)
    with hNil | hDone
  · cases hNil
  · exact hDone (fun prior hPrior =>
      (hSafe.keys id hThere prior hPrior).2)

theorem cancelledWhole_of
    (hOpened : Opened env d m ledger)
    (hSafe : CancelSafe env d)
    (hLooping : Looping env d ledger [] s)
    (hLater : ∃ added, s'.events = s.events ++ added ∧
      ∀ ev ∈ added, ev.kind ≠ .nodeCreated)
    (hRun : Standing (fun st => st = .cancelled) s')
    (hDisk : ∀ id, (logAcc d.events).status id ≠ none →
      (logAcc s'.events).Settles id →
      (s'.verdict id).rank = 2) :
    CancelledWhole s' := by
  refine ⟨hRun, ?_⟩
  intro ev hMem hKind id hNode
  rcases hLater with ⟨added, hEvents, hKinds⟩
  rcases hLooping.reported with ⟨reports, hReports, hReported⟩
  have hOld : ev ∈ d.events := by
    rw [hEvents, hReports, List.mem_append,
      List.mem_append] at hMem
    rcases hMem with (hOld | hReport) | hNew
    · exact hOld
    · rw [hReported ev hReport] at hKind
      cases hKind
    · exact absurd hKind (hKinds ev hNew)
  have hThere :=
    created_present hOpened.reads.skimmed hOld hKind hNode
  have hSettles : (logAcc s'.events).Settles id := by
    rw [hEvents]
    exact logAcc_settled
      (hOpened.looped hSafe hLooping hThere)
  exact ⟨hSettles, settled_of_rank (hDisk id hThere hSettles)⟩

theorem rank_of_under
    {id : NodeId}
    (hUnder : Under (logAcc s.events).verdict s.verdict)
    (hSettles : (logAcc s.events).Settles id) :
    (s.verdict id).rank = 2 := by
  rcases settles_iff_verdict.mp hSettles with ⟨st, hVerdict⟩
  have hTop : ((logAcc s.events).verdict id).rank = 2 :=
    Verdict.rank_eq_two.mpr ⟨st, hVerdict⟩
  have hLe := hUnder id
  have hBound := (s.verdict id).rank_le
  omega

/- A run that was cancelled on entry. -/
theorem converged_cancelled
    {id : NodeId}
    (hOpened : Opened env d m ledger)
    (hSafe : CancelSafe env d)
    (hCancelled : m.status = .cancelled)
    (hUnder : Under d.verdict s.verdict)
    (hConverging : Converging env d ledger [] s)
    (hThere : (logAcc d.events).status id ≠ none)
    (hSettles : (logAcc s.events).Settles id) :
    (s.verdict id).rank = 2 := by
  rcases hConverging with hAbove | ⟨hEvents, hEntries⟩
  · exact rank_of_under hAbove hSettles
  have hAll : ∀ i, (logAcc d.events).status i ≠ none →
      (logAcc d.events).Settles i := by
    intro i hPresent
    rcases Option.ne_none_iff_exists'.mp hPresent with
      ⟨st, hStatus⟩
    rcases hEntries (i, st) (hOpened.mem.mpr hStatus) with
      hNil | ⟨_, hTerminal⟩ | ⟨hPrior, _⟩
    · cases hNil
    · exact ⟨st, hStatus, hTerminal⟩
    · rw [hOpened.nodePrior] at hPrior
      rcases Option.ne_none_iff_exists'.mp hPrior with
        ⟨prior, hFound⟩
      exact (hSafe.keys i hPresent prior hFound).2
  rcases Option.ne_none_iff_exists'.mp hThere with ⟨st, hStatus⟩
  rcases hEntries (id, st) (hOpened.mem.mpr hStatus) with
    hNil | ⟨hPrior, _⟩ | ⟨_, hRank⟩
  · cases hNil
  · by_cases hRank : (d.verdict id).rank = 2
    · exact rank_mono hUnder hRank
    · rw [hOpened.nodePrior] at hPrior
      exact absurd hPrior
        (hSafe.stranded ⟨m, hOpened.manifest, hCancelled⟩ hAll
          id (hAll id hThere) hRank)
  · exact hRank

/- A logged close of a live run is the one pending event. -/
theorem under_of_close
    {prior : Event}
    (hBacked : Backed env d)
    (hManifest : d.manifest = some m)
    (hLive : m.status.isTerminal = false)
    (hMem : prior ∈ d.events)
    (hKind : prior.kind = .runStatus)
    (hStatus : prior.requireStatus = .ok .cancelled) :
    Under (logAcc d.events).verdict d.verdict := by
  have hAhead : d.appliedSeq < prior.seq := by
    by_contra hNot
    rcases hBacked.closed prior hMem hKind (not_lt.mp hNot) _
      hStatus rfl with ⟨m', hManifest', hClosed⟩
    rw [hManifest, Option.some.injEq] at hManifest'
    rw [← hManifest', hLive] at hClosed
    cases hClosed
  have hLast :=
    hBacked.last prior hMem (by rw [hKind]; rfl) hAhead
  refine hBacked.agreed (fun e hIn hSettles => ?_)
  by_contra hNot
  have hSeq :=
    (hBacked.ahead e hIn (not_le.mp hNot) hSettles).1
  obtain rfl := seq_injective hBacked.ordered hIn hMem
    (hSeq.trans hLast.symm)
  rw [hKind] at hSettles
  cases hSettles

theorem standing_of_closed
    (hCancellable : Cancellable s)
    (hClosed : ∃ m, s.manifest = some m ∧
      m.status.isTerminal = true) :
    Standing (fun st => st = .cancelled) s := by
  rcases hClosed with ⟨m, hManifest, hTerminal⟩
  rcases hCancellable.standing with ⟨m', hManifest', hStatus⟩
  rw [hManifest, Option.some.injEq] at hManifest'
  subst hManifest'
  exact ⟨m, hManifest, hStatus hTerminal⟩

theorem cancelStatus_status
    {ev : Event} (hData : ev.data = cancelStatus note) :
    ev.requireStatus = .ok .cancelled := by
  have hStatus :
      (cancelStatus note).get "status" =
        some (.str "cancelled") := by
    unfold cancelStatus
    cases givenNote note <;> rfl
  rw [Event.requireStatus, hData, hStatus]
  rfl

/- A live run, once the close of the call went through. -/
theorem cancelledWhole_of_closing
    (hOpened : Opened env d m ledger)
    (hSafe : CancelSafe env d)
    (hBacked : Backed env d)
    (hLive : m.status.isTerminal = false)
    (hHere : Backed env s)
    (hUnder : Under d.verdict s.verdict)
    (hLooping : Looping env d ledger [] s)
    (hConverging : Converging env d ledger [] s)
    (hBacked' : Backed env s')
    (hCancellable : Cancellable s')
    (hClosing : Closing env ledger
      (runCancelRequest env now (cancelStatus note)) s s') :
    CancelledWhole s' := by
  have hStanding : Standing (fun st => st.isTerminal = false) d :=
    ⟨m, hOpened.manifest, hLive⟩
  cases hClosing with
  | refolded prior ops hPrior hPlan =>
      rcases hOpened.runRefolds hLooping.reported hPrior with
        ⟨hMem, hKind⟩
      have hOld := hOpened.runRefolds (.refl d) hPrior
      have hFound := hPrior
      rw [hOpened.runPrior] at hFound
      have hStatus := hSafe.close hStanding prior hFound
      rcases Option.ne_none_iff_exists'.mp hHere.manifest with
        ⟨m', hManifest⟩
      have hAbove :
          Under (logAcc (applyOps ops s).events).verdict
            (applyOps ops s).verdict := by
        rw [Disk.applyOps_events]
        refine Under.trans ?_ (under_plan hPlan)
        rcases hConverging with hAbove | ⟨hEvents, _⟩
        · exact hAbove
        · rw [hEvents]
          exact (under_of_close hBacked hOpened.manifest hLive
            hOld.1 hKind hStatus).trans hUnder
      refine cancelledWhole_of hOpened hSafe hLooping
        ⟨[], by simp [Disk.applyOps_events], by simp⟩
        (standing_of_closed hCancellable
          (closed_of_plan hKind hPlan hManifest
            (hHere.readable m' hManifest) hStatus rfl)) ?_
      intro id _ hSettles
      exact rank_of_under hAbove hSettles
  | appended _ _ hAbreast hLines =>
      have hEvents := events_next hLines
      refine cancelledWhole_of hOpened hSafe hLooping
        ⟨_, hEvents, by
          simp [runCancelRequest, Request.event]⟩
        (standing_of_closed hCancellable ?_) ?_
      · refine hBacked'.closed
          ((runCancelRequest env now (cancelStatus note)).event
            env (s.lastSeq + 1)) (by simp [hEvents]) rfl
          (hAbreast.2 _ (by simp [hEvents]) rfl) .cancelled
          (cancelStatus_status rfl) rfl
      · intro id _ hSettles
        exact rank_of_under (hBacked'.agreed hAbreast.1) hSettles

theorem wp_cancelRun_whole
    (hBacked : Backed env d)
    (hSafe : CancelSafe env d) :
    Durable.wp (cancelRunUnlocked env clock note)
      (fun _ s => CancelledWhole s) (fun _ _ => True)
      (fun _ _ => True) d := by
  refine wp_cancelRunUnlocked hBacked.toSane
    (fun _ => trivial) ?_
  intro m ledger hOpened
  by_cases hCancelled : m.status = .cancelled
  · have hKept := (kept_cancelled env).above d
    refine Durable.wp_mono
      (wp_converge hKept ?_ hOpened hSafe
        ⟨⟨hBacked, m, hOpened.manifest, hCancelled⟩, .refl _⟩)
      ?_ (fun _ _ h => h) (fun _ _ h => h)
    · rintro s ev ops ⟨⟨hHere, hRun⟩, hUnder⟩ hAbreast _ hSeq
        hPlan
      exact ⟨⟨hHere.log hAbreast.1 hAbreast.2 hSeq hPlan, hRun⟩,
        hUnder⟩
    · rintro _ s ⟨⟨⟨_, hRun⟩, hUnder⟩, hLooping, hConverging⟩
      rw [if_pos hCancelled, Durable.wp_pure]
      refine cancelledWhole_of hOpened hSafe hLooping
        ⟨[], by simp, by simp⟩ hRun ?_
      intro id hThere hSettles
      exact converged_cancelled hOpened hSafe hCancelled hUnder
        hConverging hThere hSettles
  · have hLive : m.status.isTerminal = false := by
      by_contra hNot
      exact hCancelled
        (hOpened.status (Bool.not_eq_false _ ▸ hNot))
    have hStanding :
        Standing (fun st => st.isTerminal = false) d :=
      ⟨m, hOpened.manifest, hLive⟩
    have hKept := (kept_cancellable env).above d
    refine Durable.wp_mono
      (wp_converge hKept ?_ hOpened hSafe
        ⟨⟨hBacked, ⟨m, hOpened.manifest, hOpened.status⟩,
          hSafe.ahead hStanding⟩, .refl _⟩)
      ?_ (fun _ _ h => h) (fun _ _ h => h)
    · rintro s ev ops ⟨⟨hHere, hRun⟩, hUnder⟩ hAbreast hKind
        hSeq hPlan
      refine ⟨⟨hHere.log hAbreast.1 hAbreast.2 hSeq hPlan,
        hRun.log ?_⟩, hUnder⟩
      intro hOther
      rw [hKind] at hOther
      cases hOther
    · rintro _ s ⟨hI, hLooping, hConverging⟩
      rw [if_neg hCancelled]
      refine Durable.wp_mono
        (wp_closeRun hKept
          (fun _ => hOpened.runRefolds hLooping.reported) ?_ hI)
        ?_ (fun _ _ _ => trivial) (fun _ _ _ => trivial)
      · rintro s' ops _ ⟨⟨hHere, hRun⟩, hUnder⟩ _ hAbreast hPlan
        refine ⟨⟨hHere.log hAbreast.1 hAbreast.2 rfl hPlan,
          hRun.log ?_⟩, hUnder⟩
        intro _ st hStatus _
        rw [cancelStatus_status rfl, Except.ok.injEq] at hStatus
        exact hStatus.symm
      · rintro _ s' ⟨⟨⟨hHere', hRun'⟩, _⟩, hClosing⟩
        exact cancelledWhole_of_closing hOpened hSafe hBacked
          hLive hI.1.1 hI.2 hLooping hConverging hHere' hRun'
          hClosing

/- An answer leaves nothing for a further call to append. -/
theorem wp_cancelRun_exhausts (hBacked : Backed env d) :
    Durable.wp (cancelRunUnlocked env clock note)
      (fun _ s => Backed env s ∧ Exhausted env s)
      (fun _ _ => True) (fun _ _ => True) d := by
  refine wp_cancelRunUnlocked hBacked.toSane
    (fun _ => trivial) ?_
  intro m ledger hOpened
  have hLoop : ∀ {I : Disk → Prop}, Kept env I →
      (∀ (s : Disk) ev ops, I s → Abreast s →
        ev.seq = s.lastSeq + 1 →
        reduceEventToOps env s ev = .ok ops → I (s.log ev)) →
      I d →
      Durable.wp
        (settleNodes env clock (normalizeCancelReason note)
          ledger ledger.nodeStatus)
        (fun _ s => I s ∧ Looping env d ledger [] s)
        (fun _ _ => True) (fun _ _ => True) d := by
    intro I hKept hLog hStart
    refine wp_settleNodes
      (J := fun rest s => I s ∧ Looping env d ledger rest s) ?_
      ⟨hStart, looping_start⟩
    rintro id st rest s ⟨hI, hLooping⟩
    refine Durable.wp_mono
      (wp_settleNode hKept
        (fun _ => hOpened.nodeRefolds hLooping.reported) ?_ hI)
      (fun _ _ h => ⟨h.1, hLooping.step hOpened h.2⟩)
      (fun _ _ _ => trivial) (fun _ _ _ => trivial)
    intro s' ops _ _ hI' _ hAbreast hPlan
    exact hLog s' _ ops hI' hAbreast rfl hPlan
  by_cases hCancelled : m.status = .cancelled
  · refine Durable.wp_mono
      (hLoop (kept_cancelled env) ?_
        ⟨hBacked, m, hOpened.manifest, hCancelled⟩)
      ?_ (fun _ _ h => h) (fun _ _ h => h)
    · rintro s ev ops ⟨hHere, hRun⟩ hAbreast hSeq hPlan
      exact ⟨hHere.log hAbreast.1 hAbreast.2 hSeq hPlan, hRun⟩
    · rintro _ s ⟨⟨hHere, m', hManifest, hStatus⟩, hLooping⟩
      rw [if_pos hCancelled, Durable.wp_pure]
      exact ⟨hHere, hLooping.handledAll hOpened,
        .inl ⟨m', hManifest, by rw [hStatus]; rfl⟩⟩
  · refine Durable.wp_mono
      (hLoop (kept_backed env) ?_ hBacked)
      ?_ (fun _ _ h => h) (fun _ _ h => h)
    · intro s ev ops hHere hAbreast hSeq hPlan
      exact hHere.log hAbreast.1 hAbreast.2 hSeq hPlan
    · rintro _ s ⟨hHere, hLooping⟩
      rw [if_neg hCancelled]
      refine Durable.wp_mono
        (wp_closeRun (kept_backed env)
          (fun _ => hOpened.runRefolds hLooping.reported) ?_
          hHere)
        (fun _ _ h =>
          ⟨h.1, exhausted_of_closing hOpened hLooping h.2⟩)
        (fun _ _ _ => trivial) (fun _ _ _ => trivial)
      intro s' ops _ hI _ hAbreast hPlan
      exact hI.log hAbreast.1 hAbreast.2 rfl hPlan

end Answer

------------------------------------------------------------
-- Cancelling Again
------------------------------------------------------------

/- Calls one after the other from `d`, each cut or not. -/
def CancelRuns (env : RunEnv) (d : Disk) : Disk → Prop :=
  Durable.Reach
    (fun c : CancelClock × Option String =>
      cancelRunUnlocked env c.1 c.2)
    (fun s => s = d) (fun _ _ _ => True)

section Again

variable {env : RunEnv} {d s : Disk}

theorem CancelRuns.once
    (hBacked : Backed env d)
    (hRuns : CancelRuns env d s) : AtMostOnce env d s := by
  have hBoth : Backed env s ∧ AtMostOnce env d s := by
    refine Durable.Reach.invariant
      (I := fun s => Backed env s ∧ AtMostOnce env d s)
      ?_ ?_ hRuns
    · rintro _ rfl
      exact ⟨hBacked, .refl _⟩
    · rintro c s ⟨hHere, hOnce⟩
      exact Durable.wp_mono (wp_cancelRun_once hHere)
        (fun _ _ h => ⟨h.1, hOnce.trans h.2⟩)
        (fun _ _ h => ⟨h.1, hOnce.trans h.2⟩)
        (fun _ _ h _ => ⟨h.1, hOnce.trans h.2⟩)
  exact hBoth.2

theorem CancelRuns.lines
    (hBacked : Backed env d)
    (hExhausted : Exhausted env d)
    (hRuns : CancelRuns env d s) : s.lines = d.lines := by
  have hAll : Backed env s ∧
      (s.lines = d.lines ∧ Exhausted env s) := by
    refine Durable.Reach.invariant
      (I := fun s => Backed env s ∧
        (s.lines = d.lines ∧ Exhausted env s))
      ?_ ?_ hRuns
    · rintro _ rfl
      exact ⟨hBacked, rfl, hExhausted⟩
    · rintro c s ⟨hHere, hLines, hSame⟩
      exact Durable.wp_mono (wp_cancelRun_exhausted hHere hSame)
        (fun _ _ h => ⟨h.1, h.2.1.trans hLines, h.2.2⟩)
        (fun _ _ h => ⟨h.1, h.2.1.trans hLines, h.2.2⟩)
        (fun _ _ h _ => ⟨h.1, h.2.1.trans hLines, h.2.2⟩)
  exact hAll.2.1

end Again

/-
  From any state of any run of writers: where it is safe, an
  answer leaves a run that is cancelled as a whole. However
  often the call is cut and made again, no node and no run
  gets a second cancel event, and after an answer no further
  call appends anything.
-/
theorem cancelRun_sound
    (env : RunEnv) (d : Disk) (hRun : WriterRun env d) :
    (CancelSafe env d → ∀ clock note out,
      (cancelRunUnlocked env clock note).result d = .ok out →
      CancelledWhole
        ((cancelRunUnlocked env clock note).final d)) ∧
    (∀ s, CancelRuns env d s → AtMostOnce env d s) ∧
    (∀ clock note out,
      (cancelRunUnlocked env clock note).result d = .ok out →
      ∀ s,
        CancelRuns env
            ((cancelRunUnlocked env clock note).final d) s →
        s.lines =
          ((cancelRunUnlocked env clock note).final d).lines) :=
    by
  have hBacked := hRun.backed
  refine ⟨?_, fun s hRuns => hRuns.once hBacked, ?_⟩
  · intro hSafe clock note out hOk
    exact Durable.wp_ok (wp_cancelRun_whole hBacked hSafe) hOk
  · intro clock note out hOk s hRuns
    rcases Durable.wp_ok (wp_cancelRun_exhausts hBacked) hOk with
      ⟨hHere, hExhausted⟩
    exact hRuns.lines hHere hExhausted

namespace Sample

def clock : CancelClock where
  node := fun _ => 0
  run := 0

/- A cancellation that got as far as the report of the node. -/
def cancelCut : Disk :=
  (cancelRunUnlocked env clock none).cutAt 1
    (after [createRun, createNode])

/- A finished run whose close is logged and no more. -/
def strandedClose : Disk :=
  ((Call.append
    (request .runStatus none
      (.obj [("status", .str "done")]))).run env).cutAt 1
    (after
      [createRun, createNode,
        .append
          (request .nodeReport (some .first)
            (.obj [("success", .bool true)]))])

end Sample

/- A live node is cancelled; a cut call is taken up again. -/
theorem createdNode_cancelRun_sound :
    CancelledWhole
        ((cancelRunUnlocked Sample.env Sample.clock none).final
          (Sample.after
            [Sample.createRun, Sample.createNode])) ∧
      nodeCancels Sample.env .first Sample.cancelCut = 1 ∧
      AtMostOnce Sample.env
        (Sample.after [Sample.createRun, Sample.createNode])
        ((cancelRunUnlocked Sample.env Sample.clock none).final
          Sample.cancelCut) := by
  have hRun : WriterRun Sample.env
      (Sample.after [Sample.createRun, Sample.createNode]) :=
    (Sample.bootedRun_after (fun _ => True)
      [Sample.createNode]).writerRun
  have hSound := cancelRun_sound Sample.env _ hRun
  have hKinds : ∀ ev ∈
      (Sample.after
        [Sample.createRun, Sample.createNode]).events,
      ev.kind ≠ .nodeReport ∧ ev.kind ≠ .runStatus := by
    decide +kernel
  have hStatus :
      (Sample.after
        [Sample.createRun, Sample.createNode]).runStatus =
        some .pending := by
    decide +kernel
  have hSafe : CancelSafe Sample.env
      (Sample.after [Sample.createRun, Sample.createNode]) := by
    refine ⟨?_, ?_, ?_, ?_⟩
    · intro id _ prior hFound
      rcases find_mem hFound with ⟨hMem, hKind⟩
      exact absurd hKind (hKinds prior hMem).1
    · intro _ ev hMem _ hKind
      exact absurd hKind (hKinds ev hMem).2
    · intro _ prior hFound
      rcases find_mem hFound with ⟨hMem, hKind⟩
      exact absurd hKind (hKinds prior hMem).2
    · rintro ⟨m, hManifest, hCancelled⟩
      rw [Disk.runStatus, hManifest] at hStatus
      simp [hCancelled] at hStatus
  have hOk :
      ((cancelRunUnlocked Sample.env Sample.clock none).result
        (Sample.after
          [Sample.createRun, Sample.createNode])).isOk = true :=
    by decide +kernel
  have hCut : CancelRuns Sample.env
      (Sample.after [Sample.createRun, Sample.createNode])
      Sample.cancelCut :=
    Durable.Reach.cutAt (Sample.clock, none) 1 (fun _ => true)
      (fun _ _ => trivial) (.start rfl) (by decide +kernel)
  refine ⟨?_, by decide +kernel, ?_⟩
  · cases hResult :
        (cancelRunUnlocked Sample.env Sample.clock none).result
          (Sample.after
            [Sample.createRun, Sample.createNode]) with
    | error e =>
        rw [hResult] at hOk
        cases hOk
    | ok out => exact hSound.1 hSafe _ _ out hResult
  · exact hSound.2.1 _
      (Durable.Reach.done (Sample.clock, none) hCut)

/- A stranded close wins over the cancellation that answers. -/
theorem not_cancelRun_sound :
    ¬ ∀ (env : RunEnv) (d : Disk) (clock : CancelClock)
        (note : Option String) (out : CancelOutcome),
      WriterRun env d →
        (cancelRunUnlocked env clock note).result d = .ok out →
        CancelledWhole
          ((cancelRunUnlocked env clock note).final d) := by
  intro hAlways
  have hBooted :
      BootedRun Sample.env (fun _ => True)
        Sample.strandedClose :=
    Durable.Reach.cutAt _ 1 (fun _ => true)
      (fun _ _ => trivial)
      (Sample.bootedRun_after (fun _ => True)
        [Sample.createNode, _])
      (by decide +kernel)
  have hRun := hBooted.writerRun
  have hOk :
      ((cancelRunUnlocked Sample.env Sample.clock none).result
        Sample.strandedClose).isOk = true := by
    decide +kernel
  have hStatus :
      ((cancelRunUnlocked Sample.env Sample.clock none).final
        Sample.strandedClose).runStatus = some .done := by
    decide +kernel
  cases hResult :
      (cancelRunUnlocked Sample.env Sample.clock none).result
        Sample.strandedClose with
  | error e =>
      rw [hResult] at hOk
      cases hOk
  | ok out =>
      rcases (hAlways _ _ _ _ out hRun hResult).run with
        ⟨m, hManifest, hCancelled⟩
      rw [Disk.runStatus, hManifest] at hStatus
      simp [hCancelled] at hStatus

end Taskfleet
