import Taskfleet.Sequence

/-
  Catch-up as a whole: it keeps every line of the log, and
  where it succeeds no event past the watermark is left that
  the reducer would take.

  Main declarations:
    * `catchUp`, `Settled`
    * `wp_catchUp`, `wp_catchUp_cuts`, `wp_catchUp_rule`
    * `catchUp_of_settled`
-/

------------------------------------------------------------
-- Caught-Up Runs
------------------------------------------------------------

namespace Taskfleet

/- The run after torn-tail truncation and replay. -/
def catchUp (env : RunEnv) (d : Disk) : Disk :=
  (replayUnappliedUnlocked env).final d

/-
  Nothing is left to fold: the reducer refuses every event
  past the watermark.
-/
structure Settled (env : RunEnv) (d : Disk) : Prop where
  torn : d.torn = false
  readable : Readable env d
  refused : ∀ m, d.manifest = some m →
    ∀ ev ∈ d.events, m.appliedSeq < ev.seq →
      ∃ e, reduceEventToOps env d ev = .error e

/- The refusals left are ones that a replay passes over. -/
def Passable (env : RunEnv) (d : Disk) : Prop :=
  ∀ m, d.manifest = some m →
    ∀ ev ∈ d.events, m.appliedSeq < ev.seq →
      ∃ e, e.skips = true ∧
        reduceEventToOps env d ev = .error e

variable {env : RunEnv} {d : Disk}

theorem Passable.settled
    (hPassable : Passable env d)
    (hTorn : d.torn = false)
    (hReadable : Readable env d) : Settled env d := by
  refine ⟨hTorn, hReadable, ?_⟩
  intro m hManifest ev hMem hAhead
  rcases hPassable m hManifest ev hMem hAhead with
    ⟨e, _, hRefused⟩
  exact ⟨e, hRefused⟩

/- A write of projections never removes the manifest. -/
theorem applyOps_manifest_some
    {m : Manifest}
    (ops : List ProjectionOp)
    (hManifest : d.manifest = some m) :
    ∃ m', (applyOps ops d).manifest = some m' := by
  induction ops generalizing d m with
  | nil => exact ⟨m, hManifest⟩
  | cons op rest ih =>
      cases op with
      | manifest m' => exact ih (m := m') rfl
      | node n => exact ih (m := m) hManifest

theorem manifest_ne_none_of_applyOps
    {ops : List ProjectionOp} (hManifest : d.manifest ≠ none) :
    (applyOps ops d).manifest ≠ none := by
  rcases Option.ne_none_iff_exists'.mp hManifest with
    ⟨m, hSome⟩
  rcases applyOps_manifest_some ops hSome with ⟨m', hSome'⟩
  simp [hSome']

theorem advance_manifest_some
    {m : Manifest}
    (seq : Nat)
    (hManifest : d.manifest = some m) :
    ∃ m', (d.advance seq).manifest = some m' ∧
      seq ≤ m'.appliedSeq := by
  unfold Disk.advance
  rw [hManifest]
  dsimp only
  by_cases hLt : m.appliedSeq < seq
  · rw [if_pos hLt]
    exact ⟨_, rfl, le_refl seq⟩
  · rw [if_neg hLt]
    exact ⟨m, hManifest, not_lt.mp hLt⟩

------------------------------------------------------------
-- The Replay Loop
------------------------------------------------------------

/-
  Before the lines `rest` of the log of `d` are read: the
  events before them are applied or refused.
-/
structure Replaying
    (env : RunEnv)
    (d : Disk)
    (w : Nat)
    (rest : List LogLine)
    (s : Disk) : Prop where
  lines : s.lines = d.lines
  torn : s.torn = false
  readable : Readable env s
  passed : ∃ m pre, s.manifest = some m ∧
    w ≤ m.appliedSeq ∧ d.lines = pre ++ rest ∧
    ∀ ev, .event ev ∈ pre → m.appliedSeq < ev.seq →
      ∃ e, e.skips = true ∧ reduceEventToOps env s ev = .error e

theorem Replaying.skip
    {w : Nat} {line : LogLine} {rest : List LogLine} {s : Disk}
    (hReplaying : Replaying env d w (line :: rest) s)
    (hLine : ∀ ev, line = .event ev → w < ev.seq →
      ∃ e, e.skips = true ∧
        reduceEventToOps env s ev = .error e) :
    Replaying env d w rest s := by
  rcases hReplaying.passed with
    ⟨m, pre, hManifest, hMark, hSplit, hPassed⟩
  refine ⟨hReplaying.lines, hReplaying.torn,
    hReplaying.readable, m, pre ++ [line], hManifest, hMark,
    by simp [hSplit], ?_⟩
  intro ev hMem hBehind
  rcases List.mem_append.mp hMem with hOld | hNew
  · exact hPassed ev hOld hBehind
  · exact hLine ev (List.mem_singleton.mp hNew).symm
      (lt_of_le_of_lt hMark hBehind)

theorem Replaying.fold
    {w : Nat} {ev : Event} {rest : List LogLine} {s : Disk}
    {ops : List ProjectionOp}
    (hOrdered : d.Ordered)
    (hReplaying : Replaying env d w (.event ev :: rest) s)
    (hNew : w < ev.seq)
    (hPlan : reduceEventToOps env s ev = .ok ops) :
    Replaying env d w rest
      ((applyOps ops s).advance ev.seq) := by
  rcases hReplaying.passed with
    ⟨m, pre, hManifest, _, hSplit, _⟩
  have hOps := writable_of_planned (planned_of_reduce hPlan).2
  rcases applyOps_manifest_some ops hManifest with
    ⟨m₁, hManifest₁⟩
  rcases advance_manifest_some ev.seq hManifest₁ with
    ⟨m₂, hManifest₂, hCovers⟩
  refine ⟨by simp [hReplaying.lines], by simp [hReplaying.torn],
    readable_advance
      (readable_applyOps hReplaying.readable hOps),
    m₂, pre ++ [.event ev], hManifest₂, by omega,
    by simp [hSplit], ?_⟩
  -- the watermark has passed every line read so far
  intro e hMem hBehind
  rcases List.mem_append.mp hMem with hOld | hLast
  · have := hOrdered.lt_of_split hSplit hOld
    omega
  · rw [List.mem_singleton, LogLine.event.injEq] at hLast
    subst hLast
    omega

theorem wp_replayLines_settled
    {m : Manifest}
    (hOrdered : d.Ordered)
    (hTorn : d.torn = false)
    (hReadable : Readable env d)
    (hManifest : d.manifest = some m) :
    Durable.wp (replayLines env m.appliedSeq d.lines)
      (fun _ s => s.lines = d.lines ∧ Settled env s ∧
        Passable env s)
      (fun _ s => s.lines = d.lines)
      (fun _ s => s.lines = d.lines) d := by
  refine Durable.wp_mono
    (wp_replayLines (E := fun _ s => s.lines = d.lines)
      (L := Replaying env d m.appliedSeq) ?_ ?_ ?_ ?_
      ⟨rfl, hTorn, hReadable, m, [], hManifest, le_refl _,
        rfl, by simp⟩)
    ?_ (fun _ _ h => h) (fun _ _ h => h)
  · exact fun _ _ hReplaying => hReplaying.readable
  · intro line rest s hReplaying hOld
    refine hReplaying.skip (fun ev hLine hNew => ?_)
    exact absurd hNew (not_lt.mpr (hOld ev hLine))
  · intro ev rest s e hReplaying _ hRefused
    refine ⟨fun hSkips => hReplaying.skip ?_,
      fun _ => hReplaying.lines⟩
    rintro _ ⟨⟩ _
    exact ⟨e, hSkips, hRefused⟩
  · intro ev rest s ops hReplaying hNew hPlan
    refine ⟨fun _ _ => ?_, fun _ => ?_,
      hReplaying.fold hOrdered hNew hPlan⟩
    · simp [hReplaying.lines]
    · simp [hReplaying.lines]
  · intro _ s hReplaying
    rcases hReplaying.passed with
      ⟨m', pre, hManifest', _, hSplit, hPassed⟩
    rw [List.append_nil] at hSplit
    have hPassable : Passable env s := by
      intro m'' hSame ev hMem
      rw [hManifest', Option.some.injEq] at hSame
      rw [Disk.mem_events, hReplaying.lines, hSplit] at hMem
      exact hSame ▸ hPassed ev hMem
    exact ⟨hReplaying.lines,
      hPassable.settled hReplaying.torn hReplaying.readable,
      hPassable⟩

------------------------------------------------------------
-- Catch-Up
------------------------------------------------------------

/- What catch-up leaves, the next one passes over. -/
theorem wp_catchUp_passable (hOrdered : d.Ordered) :
    Durable.wp (replayUnappliedUnlocked env)
      (fun _ s => s.lines = d.lines ∧ Settled env s ∧
        Passable env s)
      (fun _ s => s.lines = d.lines)
      (fun _ s => s.lines = d.lines) d := by
  rw [wp_replayUnappliedUnlocked]
  refine ⟨fun _ => rfl, ?_⟩
  have hReadable : ∀ m, d.manifest = some m → m.Valid env →
      Readable env { d with torn := false } := by
    intro m hManifest hValid m' hSame
    rw [show m' = m by
      rw [hManifest, Option.some.injEq] at hSame
      exact hSame.symm]
    exact hValid
  refine wp_replayUnapplied (fun _ _ => rfl) ?_
    (fun _ _ _ _ _ => rfl) ?_ ?_
  · intro hNone
    have hPassable :
        Passable env { d with torn := false } := by
      intro m hSome
      rw [hNone] at hSome
      cases hSome
    refine ⟨rfl, hPassable.settled rfl ?_, hPassable⟩
    intro m hSome
    rw [hNone] at hSome
    cases hSome
  · intro m last hManifest hValid hLast hDone
    have hPassable :
        Passable env { d with torn := false } := by
      intro m' hSame ev hMem hBehind
      rw [hManifest, Option.some.injEq] at hSame
      have hEq := recoverLastSeq_eq (d := d) hOrdered.plain hLast
      have hBound : ev.seq ≤ d.lastSeq :=
        seq_le_lastSeqOf hOrdered.increasing hMem
      subst hSame
      omega
    exact ⟨rfl,
      hPassable.settled rfl (hReadable m hManifest hValid),
      hPassable⟩
  · intro m last hManifest hValid _ _
    exact wp_replayLines_settled
      (Disk.Ordered.congr (d := d) rfl hOrdered) rfl
      (hReadable m hManifest hValid) hManifest

/- Catch-up writes projections, never lines. -/
theorem wp_catchUp_settled (hOrdered : d.Ordered) :
    Durable.wp (replayUnappliedUnlocked env)
      (fun _ s => s.lines = d.lines ∧ Settled env s)
      (fun _ s => s.lines = d.lines)
      (fun _ s => s.lines = d.lines) d :=
  Durable.wp_mono (wp_catchUp_passable hOrdered)
    (fun _ _ h => ⟨h.1, h.2.1⟩) (fun _ _ h => h)
    (fun _ _ h => h)

/- The final state of a catch-up, with what is known of it. -/
theorem wp_catchUp (hOrdered : d.Ordered) :
    Durable.wp (replayUnappliedUnlocked env)
      (fun _ s => s = catchUp env d ∧ s.lines = d.lines ∧
        Settled env s)
      (fun _ s => s = catchUp env d ∧ s.lines = d.lines)
      (fun _ s => s.lines = d.lines) d :=
  Durable.wp_ended (wp_catchUp_settled hOrdered)

------------------------------------------------------------
-- Invariants of Catch-Up
------------------------------------------------------------

/- The lines not read yet are past what was folded. -/
def Unread (w : Nat) (rest : List LogLine) (s : Disk) : Prop :=
  ∃ pre, s.lines = pre ++ rest ∧
    ∀ ev, .event ev ∈ rest → w < ev.seq → s.appliedSeq < ev.seq

theorem Unread.tail
    {w : Nat} {line : LogLine} {rest : List LogLine} {s : Disk}
    (hUnread : Unread w (line :: rest) s) :
    Unread w rest s := by
  rcases hUnread with ⟨pre, hSplit, hPast⟩
  exact ⟨pre ++ [line], by simp [hSplit], fun ev hMem =>
    hPast ev (List.mem_cons_of_mem _ hMem)⟩

theorem advanced_appliedSeq
    {ev : Event} {s : Disk}
    (hManifest : s.manifest ≠ none)
    (hAhead : s.appliedSeq < ev.seq) :
    (s.advance ev.seq).appliedSeq = ev.seq := by
  rcases Option.ne_none_iff_exists'.mp hManifest with ⟨m, hSome⟩
  exact advance_appliedSeq hSome hAhead

/- The watermark and the log once an event is folded. -/
theorem appliedSeq_folded
    {ev : Event} {s : Disk} {ops : List ProjectionOp}
    (hManifest : s.manifest ≠ none)
    (hAhead : s.appliedSeq < ev.seq)
    (hPlan : reduceEventToOps env s ev = .ok ops) :
    ((applyOps ops s).advance ev.seq).appliedSeq = ev.seq := by
  apply advanced_appliedSeq
    (manifest_ne_none_of_applyOps hManifest)
  rw [appliedSeq_of_whole hPlan]
  exact hAhead

theorem lastSeq_folded
    (ops : List ProjectionOp) (s : Disk) (seq : Nat) :
    ((applyOps ops s).advance seq).lastSeq = s.lastSeq :=
  (lastSeq_congr (Disk.advance_lines _ _)).trans
    (lastSeq_congr (applyOps_lines _ s))

theorem Unread.fold
    {w : Nat} {ev : Event} {rest : List LogLine} {s : Disk}
    {ops : List ProjectionOp}
    (hUnread : Unread w (.event ev :: rest) s)
    (hManifest : s.manifest ≠ none)
    (hOrdered : s.Ordered)
    (hNew : w < ev.seq)
    (hPlan : reduceEventToOps env s ev = .ok ops) :
    ev ∈ s.events ∧ s.appliedSeq < ev.seq ∧
      Unread w rest ((applyOps ops s).advance ev.seq) := by
  rcases hUnread with ⟨pre, hSplit, hPast⟩
  have hAhead := hPast ev List.mem_cons_self hNew
  have hMark := appliedSeq_folded hManifest hAhead hPlan
  refine ⟨?_, hAhead, pre ++ [.event ev], by simp [hSplit], ?_⟩
  · rw [Disk.mem_events, hSplit]
    simp
  · intro e hIn _
    rw [hMark]
    rcases List.append_of_mem hIn with ⟨before, after, hRest⟩
    have hDeeper :
        s.lines =
          (pre ++ .event ev :: before) ++ .event e :: after := by
      rw [hSplit, hRest]
      simp
    exact hOrdered.lt_of_split hDeeper (by simp)

/-
  Rule for a catch-up that may be cut: the fold of an event
  past the watermark keeps `I`, and each of its writes leaves
  what is asked of a cut there.
-/
theorem wp_catchUp_cuts
    {I : Disk → Prop}
    {C : Boundary → Disk → Prop}
    (hReadable : ∀ s, I s → Readable env s)
    (hOrdered : d.Ordered)
    (hRest : ∀ t s, I s → t.written = none → C t s)
    (hFold : ∀ s ev ops, I s → s.manifest ≠ none →
      s.lines = d.lines → ev ∈ s.events →
      s.appliedSeq < ev.seq → d.appliedSeq < ev.seq →
      reduceEventToOps env s ev = .ok ops →
      (∀ j, C (.projected s ev j)
        (applyOps (ops.take (j + 1)) s)) ∧
        I ((applyOps ops s).advance ev.seq))
    (hStart : I { d with torn := false }) :
    Durable.wp (replayUnappliedUnlocked env)
      (fun _ s => I s ∧ s.lines = d.lines ∧ Settled env s)
      (fun _ s => I s ∧ s.lines = d.lines)
      (fun t s => C t s ∧ s.lines = d.lines) d := by
  have hKept :
      Durable.wp (replayUnappliedUnlocked env) (fun _ s => I s)
        (fun _ s => I s) C d := by
    rw [wp_replayUnappliedUnlocked]
    refine ⟨fun _ => hRest _ _ hStart rfl, ?_⟩
    refine wp_replayUnapplied (fun _ _ => hStart)
      (fun _ => hStart) (fun _ _ _ _ _ => hStart)
      (fun _ _ _ _ _ _ => hStart) ?_
    intro m last hSome _ _ _
    have hMark : d.appliedSeq = m.appliedSeq :=
      Disk.appliedSeq_of_manifest hSome
    have hThere :
        ({ d with torn := false } : Disk).manifest ≠ none := by
      rw [hSome]
      exact Option.some_ne_none m
    refine Durable.wp_mono
      (wp_replayLines (E := fun _ s => I s)
        (L := fun rest s => I s ∧ s.lines = d.lines ∧
          s.manifest ≠ none ∧ Unread m.appliedSeq rest s)
        (fun _ _ hLoop => hReadable _ hLoop.1) ?_ ?_ ?_
        ⟨hStart, rfl, hThere, [], rfl, fun ev _ hNew => ?_⟩)
      (fun _ _ h => h.1) (fun _ _ h => h) (fun _ _ h => h)
    · intro line rest s hLoop _
      exact ⟨hLoop.1, hLoop.2.1, hLoop.2.2.1,
        hLoop.2.2.2.tail⟩
    · intro ev rest s e hLoop _ _
      exact ⟨fun _ => ⟨hLoop.1, hLoop.2.1, hLoop.2.2.1,
        hLoop.2.2.2.tail⟩, fun _ => hLoop.1⟩
    · intro ev rest s ops hLoop hNew hPlan
      rcases hLoop with ⟨hI, hLines, hManifest, hUnread⟩
      rcases hUnread.fold hManifest (hOrdered.congr hLines) hNew
        hPlan with ⟨hMem, hAhead, hLater⟩
      rcases hFold s ev ops hI hManifest hLines hMem hAhead
        (by rw [hMark]; exact hNew) hPlan with ⟨hCuts, hDone⟩
      refine ⟨fun j _ => hCuts j,
        fun _ => hRest _ _ hDone rfl, hDone,
        by simp [hLines], ?_, hLater⟩
      rcases Option.ne_none_iff_exists'.mp
          (show (applyOps ops s).manifest ≠ none from
            manifest_ne_none_of_applyOps hManifest) with
        ⟨m₁, hSome₁⟩
      rcases advance_manifest_some ev.seq hSome₁ with
        ⟨m₂, hSome₂, _⟩
      rw [hSome₂]
      exact Option.some_ne_none m₂
    · change d.appliedSeq < ev.seq
      rw [hMark]
      exact hNew
  exact Durable.wp_and hKept (wp_catchUp_settled hOrdered)

/-
  Invariant rule for catch-up: what the fold of an event past
  the watermark keeps, write by write, holds all along.
-/
theorem wp_catchUp_rule
    {I : Disk → Prop}
    (hReadable : ∀ s, I s → Readable env s)
    (hOrdered : d.Ordered)
    (hFold : ∀ s ev ops, I s → s.lines = d.lines →
      ev ∈ s.events → s.appliedSeq < ev.seq →
      d.appliedSeq < ev.seq →
      reduceEventToOps env s ev = .ok ops →
      (∀ j, I (applyOps (ops.take (j + 1)) s)) ∧
        I ((applyOps ops s).advance ev.seq))
    (hStart : I { d with torn := false }) :
    Durable.wp (replayUnappliedUnlocked env)
      (fun _ s => I s ∧ s.lines = d.lines ∧ Settled env s)
      (fun _ s => I s ∧ s.lines = d.lines)
      (fun _ s => I s ∧ s.lines = d.lines) d :=
  wp_catchUp_cuts (C := fun _ => I) hReadable hOrdered
    (fun _ _ hI _ => hI)
    (fun s ev ops hI _ hLines hMem hAhead hNew hPlan =>
      hFold s ev ops hI hLines hMem hAhead hNew hPlan)
    hStart

/-
  A catch-up with nothing left to fold writes nothing. It may
  fail on the tail of the log or on an event it cannot skip.
-/
theorem wp_catchUp_still
    {E : Error → Disk → Prop}
    {C : Boundary → Disk → Prop}
    (hSettled : Settled env d)
    (hTail : ∀ e, recoverLastSeq d.lines = .error e → E e d)
    (hStops : ∀ m, d.manifest = some m → ∀ ev ∈ d.events,
      m.appliedSeq < ev.seq → ∀ e,
      reduceEventToOps env d ev = .error e →
      e.skips = false → E e d) :
    Durable.wp (replayUnappliedUnlocked env)
      (fun _ s => s = d) E C d := by
  have hSame : { d with torn := false } = d := by
    rw [← hSettled.torn]
  rw [wp_replayUnappliedUnlocked, hSame]
  refine ⟨fun hTorn => ?_, ?_⟩
  · rw [hSettled.torn] at hTorn
    cases hTorn
  refine wp_replayUnapplied
    (fun hNot => absurd hSettled.readable hNot) (fun _ => rfl)
    (fun _ e _ _ hError => hTail e hError)
    (fun _ _ _ _ _ _ => rfl) ?_
  intro m last hManifest _ _ _
  refine Durable.wp_mono
    (wp_replayLines (E := E)
      (L := fun rest s => s = d ∧ ∀ line ∈ rest, line ∈ d.lines)
      ?_ ?_ ?_ ?_ ⟨rfl, fun _ h => h⟩)
    (fun _ _ h => h.1) (fun _ _ h => h) (fun _ _ h => h)
  · rintro _ _ ⟨rfl, _⟩
    exact hSettled.readable
  · intro line rest s hLoop _
    exact ⟨hLoop.1,
      fun l hMem => hLoop.2 l (List.mem_cons_of_mem _ hMem)⟩
  · rintro ev rest s e ⟨rfl, hRest⟩ hNew hRefused
    refine ⟨fun _ => ⟨rfl, fun l hMem =>
      hRest l (List.mem_cons_of_mem _ hMem)⟩, ?_⟩
    have hMem := hRest _ List.mem_cons_self
    exact hStops m hManifest ev (Disk.mem_events.mpr hMem) hNew
      e hRefused
  · rintro ev rest s ops ⟨rfl, hRest⟩ hNew hPlan
    have hMem := hRest _ List.mem_cons_self
    rcases hSettled.refused m hManifest ev
      (Disk.mem_events.mpr hMem) hNew with ⟨e, hRefused⟩
    rw [hRefused] at hPlan
    cases hPlan

theorem wp_catchUp_idle
    {C : Boundary → Disk → Prop}
    (hSettled : Settled env d) :
    Durable.wp (replayUnappliedUnlocked env)
      (fun _ s => s = d) (fun _ s => s = d) C d :=
  wp_catchUp_still hSettled (fun _ _ => rfl)
    (fun _ _ _ _ _ _ _ _ => rfl)

/- A second catch-up has nothing to do. -/
theorem catchUp_of_settled (hSettled : Settled env d) :
    catchUp env d = d :=
  Durable.wp_final (C := fun _ _ => True)
    (I := fun s => s = d) (wp_catchUp_idle hSettled)

/- A second catch-up passes over what the first one left. -/
theorem wp_catchUp_passed
    {last : Nat}
    {C : Boundary → Disk → Prop}
    (hSettled : Settled env d)
    (hPassable : Passable env d)
    (hTail : recoverLastSeq d.lines = .ok last) :
    Durable.wp (replayUnappliedUnlocked env)
      (fun _ s => s = d) (fun _ _ => False) C d := by
  apply wp_catchUp_still hSettled
  · intro e hError
    rw [hTail] at hError
    cases hError
  · intro m hManifest ev hMem hNew e hRefused hStops
    rcases hPassable m hManifest ev hMem hNew with
      ⟨e', hSkips, hSame⟩
    rw [hRefused, Except.error.injEq] at hSame
    rw [hSame, hSkips] at hStops
    cases hStops

------------------------------------------------------------
-- Logs of Events Alone
------------------------------------------------------------

theorem wp_catchUp_again
    {C : Boundary → Disk → Prop}
    (hSettled : Settled env d)
    (hPassable : Passable env d)
    (hLines : d.lines = d.events.map .event) :
    Durable.wp (replayUnappliedUnlocked env)
      (fun _ s => s = d) (fun _ _ => False) C d := by
  apply wp_catchUp_passed hSettled hPassable
  rw [hLines]
  exact recoverLastSeq_events d.events

/- Lines at or below the watermark are passed over. -/
theorem replayLines_skip
    {w : Nat} {old rest : List LogLine}
    (hOld : ∀ ev, .event ev ∈ old → ev.seq ≤ w) :
    replayLines env w (old ++ rest) =
      replayLines env w rest := by
  induction old with
  | nil => rfl
  | cons line old ih =>
      have hTail :=
        ih (fun ev hMem =>
          hOld ev (List.mem_cons_of_mem _ hMem))
      cases line with
      | event ev =>
          rw [List.cons_append, replayLines,
            if_pos (hOld ev List.mem_cons_self), hTail]
      | header => exact hTail
      | blank => exact hTail
      | space => exact hTail
      | junk => exact hTail

/- A covered log needs no replay and cannot fail. -/
theorem wp_catchUp_covered
    {Q : Unit → Disk → Prop}
    {E : Error → Disk → Prop}
    {C : Boundary → Disk → Prop}
    (hReadable : Readable env d)
    (hLines : d.lines = d.events.map .event)
    (hCovered : d.manifest ≠ none → d.lastSeq ≤ d.appliedSeq)
    (hCut : C .truncated { d with torn := false })
    (hDone : Q () { d with torn := false }) :
    Durable.wp (replayUnappliedUnlocked env) Q E C d := by
  have hLast : recoverLastSeq d.lines = .ok d.lastSeq := by
    rw [hLines, recoverLastSeq_events]
    rfl
  rw [wp_replayUnappliedUnlocked]
  refine ⟨fun _ => hCut, ?_⟩
  refine wp_replayUnapplied ?_ (fun _ => hDone) ?_
    (fun _ _ _ _ _ _ => hDone) ?_
  · exact fun hNot => absurd hReadable hNot
  · intro m e _ _ hError
    rw [show recoverLastSeq d.lines = .error e from hError]
      at hLast
    cases hLast
  · intro m last hManifest _ hTail hBehind
    rw [show recoverLastSeq d.lines = .ok last from hTail,
      Except.ok.injEq] at hLast
    have hSome : d.manifest = some m := hManifest
    have hBound := hCovered (by simp [hSome])
    rw [Disk.appliedSeq_of_manifest hSome] at hBound
    omega

end Taskfleet
