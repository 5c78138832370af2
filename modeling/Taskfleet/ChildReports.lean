import Taskfleet.Fostering

/-
  Every report of a child is recorded on the parent, across
  polls, failed writes, crashes and restarts.

  The cursors, saved or in memory, and the handled part of a
  followed log are all bounds below which every report of the
  child has its record in the parent's log.

  Main declarations:
    * `RecordedUpTo`, `Fosters`, `Fostered.fosters`
    * `lasting_cursor`
-/

------------------------------------------------------------
-- Recorded Parts of a Log
------------------------------------------------------------

namespace Taskfleet

open Physical

/- Every report of a child up to a number has its record. -/
def RecordedUpTo
    (codec : TailCodec)
    (w : Parent)
    (child : RunId)
    (n : Nat) : Prop :=
  n ≤ lastSeqOf (w.events codec child) ∧
    ∀ ev ∈ w.events codec child, ev.kind = .nodeReport →
      ev.seq ≤ n → w.disk.Records child ev.seq

/- The cursors of a state are bounds of recorded parts. -/
def CursorsCovered
    (codec : TailCodec)
    (w : Parent)
    (state : SupervisorState) : Prop :=
  ∀ child n, state.cursor child = some n →
    RecordedUpTo codec w child n

structure Fosters
    (codec : TailCodec) (env : RunEnv) (w : Parent) :
    Prop where
  ready : w.Ready env
  ascending : ∀ child, Ascending (w.events codec child)
  positive : ∀ child, ∀ ev ∈ w.events codec child, 0 < ev.seq
  saved : CursorsCovered codec w w.saved
  live : ∀ sup, w.live = some sup → CursorsCovered codec w sup.state
  tracked : ∀ child v, w.view child = some v →
    ∃ seen, Tracks codec v seen ∧
      RecordedUpTo codec w child seen

theorem enduring_records
    (env : RunEnv) (child : RunId) (seq : Nat) :
    Enduring env (fun d => d.Records child seq) where
  logged := by
    rintro s s' ⟨ev, hMem, hRecord⟩ _ _ hEvents
    exact ⟨ev, hEvents hMem, hRecord⟩
  folded := by
    rintro s other ops j ⟨ev, hMem, hRecord⟩ _
    refine ⟨ev, ?_, hRecord⟩
    rwa [Disk.applyOps_events]
  advanced := by
    rintro s seq ⟨ev, hMem, hRecord⟩
    refine ⟨ev, ?_, hRecord⟩
    rwa [Disk.advance_events]

section Steps

variable {codec : TailCodec} {env : RunEnv} {w : Parent}
variable {act : ParentAct} {child : RunId}

theorem view_events
    (codec : TailCodec)
    {v : ChildView}
    (hView : w.view child = some v) :
    v.events codec = w.events codec child := by
  unfold Parent.view at hView
  rw [Option.bind_eq_some_iff] at hView
  rcases hView with ⟨sup, -, hView⟩
  rw [Supervisor.view_eq_some] at hView
  rcases hView with ⟨tracking, -, rfl⟩
  rfl

/- A child's log grows by one event or not at all. -/
theorem perform_events
    (child : RunId)
    (hEnabled : act.Enabled codec env w) :
    (act.perform codec env w).events codec child =
        w.events codec child ∨
      ∃ ev, (act.perform codec env w).events codec child =
          w.events codec child ++ [ev] ∧
        ev.seq = lastSeqOf (w.events codec child) + 1 := by
  have hInsert (grown : RunId) (log : Bytes)
      (hNe : child ≠ grown) :
      Parent.events codec
          { w with logs := w.logs.insert grown log } child =
        w.events codec child := by
    simp [Parent.events, Parent.log,
      Finmap.lookup_insert_of_ne _ hNe]
  cases act with
  | append grown body =>
      by_cases hSame : child = grown
      · subst hSame
        have hGrown :
            ((ParentAct.append child body).perform codec env
              w).events codec child =
                w.events codec child ++
                  (lineEvent? codec.toLineCodec
                    body).toList := by
          simp [ParentAct.perform, Parent.events, Parent.log,
            lines_truncate_append, lines_line hEnabled.1,
            eventsOf_cons]
        rw [hGrown]
        cases hLine : lineEvent? codec.toLineCodec body with
        | none => simp
        | some ev =>
            right
            exact ⟨ev, rfl, hEnabled.2 ev hLine⟩
      · exact .inl (hInsert grown _ hSame)
  | tear grown part =>
      left
      by_cases hSame : child = grown
      · subst hSame
        simp [ParentAct.perform, Parent.events, Parent.log,
          lines_truncate_append, lines_torn hEnabled]
      · exact hInsert grown _ hSame
  | finish quarantine =>
      left
      simp only [ParentAct.perform, Parent.finish]
      split
      · rfl
      next sup hLive =>
        unfold Supervisor.finish
        split
        next left hWorking =>
          dsimp only
          split
          · rfl
          · split
            next c raw hTaken hRaw =>
              split
              · by_cases hSame : child = left
                · subst hSame
                  simp [Parent.events, Parent.log, hRaw,
                    eventsOf_filter]
                · exact hInsert _ _ hSame
              · rfl
            · rfl
        · rfl
  | handle now cut =>
      left
      simp only [ParentAct.perform, Parent.handle]
      split <;> rfl
  | save =>
      left
      simp only [ParentAct.perform, Parent.save]
      split
      · rfl
      · split <;> rfl
  | _ => exact .inl rfl

/- Records stay, and a log grows past what is recorded. -/
theorem RecordedUpTo.perform
    {n : Nat}
    (hReady : w.Ready env)
    (hEnabled : act.Enabled codec env w)
    (hRecorded : RecordedUpTo codec w child n) :
    RecordedUpTo codec (act.perform codec env w) child n := by
  have hKeep : ∀ seq, w.disk.Records child seq →
      (act.perform codec env w).disk.Records child seq := by
    intro seq hRecords
    exact (perform_disk (enduring_records env child seq) act
      hEnabled ⟨hReady.readable, hRecords⟩).2
  rcases perform_events child hEnabled with
    hSame | ⟨new, hGrew, hSeq⟩
  · refine ⟨hSame ▸ hRecorded.1, ?_⟩
    intro ev hMem hReport hLe
    rw [hSame] at hMem
    exact hKeep _ (hRecorded.2 ev hMem hReport hLe)
  · have hBound := hRecorded.1
    constructor
    · rw [hGrew, lastSeqOf_concat]
      omega
    · intro ev hMem hReport hLe
      rw [hGrew, List.mem_append, List.mem_singleton] at hMem
      rcases hMem with hOld | rfl
      · exact hKeep _ (hRecorded.2 ev hOld hReport hLe)
      · omega

theorem CursorsCovered.perform
    {state : SupervisorState}
    (hReady : w.Ready env)
    (hEnabled : act.Enabled codec env w)
    (hCovered : CursorsCovered codec w state) :
    CursorsCovered codec (act.perform codec env w) state := by
  intro child n hCursor
  exact (hCovered child n hCursor).perform hReady hEnabled

/- A report below a cursor has its record. -/
theorem CursorsCovered.records
    {state : SupervisorState} {ev : Event}
    (hCovered : CursorsCovered codec w state)
    (hMem : ev ∈ w.events codec child)
    (hReport : ev.kind = .nodeReport)
    (hOld : state.alreadyProcessed child ev.seq = true) :
    w.disk.Records child ev.seq := by
  unfold SupervisorState.alreadyProcessed at hOld
  cases hCursor : state.cursor child with
  | none => simp [hCursor] at hOld
  | some prev =>
      have hLe : ev.seq ≤ prev := by
        simpa [hCursor] using hOld
      exact (hCovered child prev hCursor).2 ev hMem hReport hLe

/- The next event stays the next one. -/
theorem NextUp.perform
    {seen : Nat} {ev : Event}
    (hNext : NextUp (w.events codec child) seen ev)
    (hAscending : Ascending (w.events codec child))
    (hEnabled : act.Enabled codec env w) :
    NextUp ((act.perform codec env w).events codec child) seen
      ev := by
  rcases perform_events child hEnabled with
    hSame | ⟨new, hGrew, hSeq⟩
  · rwa [hSame]
  · have hLe := seq_le_lastSeqOf hAscending hNext.1
    rw [hGrew]
    refine ⟨List.mem_append_left _ hNext.1, hNext.2.1, ?_⟩
    intro e hMem hBefore
    rw [List.mem_append, List.mem_singleton] at hMem
    rcases hMem with hOld | rfl
    · exact hNext.2.2 e hOld hBefore
    · omega

/- The next event is handled: the recorded part reaches it. -/
theorem RecordedUpTo.next
    {seen : Nat} {ev : Event}
    (hRecorded : RecordedUpTo codec w child seen)
    (hNext : NextUp (w.events codec child) seen ev)
    (hAscending : Ascending (w.events codec child))
    (hReport : ev.kind = .nodeReport →
      w.disk.Records child ev.seq) :
    RecordedUpTo codec w child ev.seq := by
  refine ⟨seq_le_lastSeqOf hAscending hNext.1, ?_⟩
  intro e hMem hKind hLe
  rcases hNext.2.2 e hMem hLe with hOld | rfl
  · exact hRecorded.2 e hMem hKind hOld
  · exact hReport hKind

/- What is recorded of a followed child after any act. -/
theorem Fosters.tracked_perform
    {v' : ChildView}
    (hFosters : Fosters codec env w)
    (hEnabled : act.Enabled codec env w)
    (hView :
      (act.perform codec env w).view child = some v') :
    ∃ seen, Tracks codec v' seen ∧
      RecordedUpTo codec (act.perform codec env w) child
        seen := by
  rcases view_cases hFosters.ready hEnabled hView with
    ⟨sup, parentNodeId, hLive, rfl, -, rfl⟩ |
      ⟨v, hOld, hMove⟩
  · have hAscending := hFosters.ascending child
    have hCursor :
        RecordedUpTo codec w child
          ((sup.state.cursor child).getD 0) := by
      cases hCursor : sup.state.cursor child with
      | some n => exact hFosters.live sup hLive child n hCursor
      | none =>
          refine ⟨Nat.zero_le _, ?_⟩
          intro ev hMem _ hLe
          have hPositive := hFosters.positive child ev hMem
          simp only [Option.getD_none] at hLe
          omega
    exact ⟨_, tracks_opened hAscending hCursor.1,
      hCursor.perform hFosters.ready hEnabled⟩
  · rcases hFosters.tracked child v hOld with
      ⟨seen, hTracks, hRecorded⟩
    rcases hMove.progress hTracks with
      ⟨seen', hTracks', hProgress⟩
    refine ⟨seen', hTracks', ?_⟩
    have hLater := hRecorded.perform hFosters.ready hEnabled
    have hEventsOld := view_events codec hOld
    have hEventsNew := view_events codec hView
    cases hProgress with
    | idle _ _ hSeen =>
        rw [hSeen]
        exact hLater
    | grew _ _ _ _ hSeen =>
        rw [hSeen]
        exact hLater
    | passed ev hEvents hNext _ hDone hSeen =>
        have hSame :
            (act.perform codec env w).events codec child =
              w.events codec child := by
          rw [← hEventsNew, hEvents, hEventsOld]
        rw [hEventsOld] at hNext
        rw [hSeen]
        apply hLater.next
        · rwa [hSame]
        · rw [hSame]
          exact hFosters.ascending child
        · intro hReport
          rcases hDone hReport with
            hRecords | ⟨sup, hLive, hBelow⟩
          · exact hRecords
          · have hRecords :=
              (hFosters.live sup hLive).records hNext.1 hReport
                hBelow
            exact (perform_disk
              (enduring_records env child ev.seq) act hEnabled
              ⟨hFosters.ready.readable, hRecords⟩).2
    | rewound ev hEvents hNext _ _ hSeen =>
        rw [hEventsOld] at hNext
        have hNew := hNext.2.1
        have hSame :
            (act.perform codec env w).events codec child =
              w.events codec child := by
          rw [← hEventsNew, hEvents, hEventsOld]
        rw [hSeen]
        constructor
        · have hLe :=
            seq_le_lastSeqOf (hFosters.ascending child) hNext.1
          rw [hSame]
          omega
        · intro e hMem hKind hLe
          rw [hSame] at hMem
          rcases hNext.2.2 e hMem (by omega) with hOld | rfl
          · exact hLater.2 e (hSame ▸ hMem) hKind hOld
          · omega

theorem Fosters.perform
    (hFosters : Fosters codec env w)
    (hEnabled : act.Enabled codec env w) :
    Fosters codec env (act.perform codec env w) := by
  have hReady := hFosters.ready
  have hAscending : ∀ child,
      Ascending ((act.perform codec env w).events codec
        child) := by
    intro child
    have hOrder := hFosters.ascending child
    rcases perform_events child hEnabled with
      hSame | ⟨new, hGrew, hSeq⟩
    · rwa [hSame]
    · rw [hGrew]
      exact hOrder.concat hSeq
  constructor
  · exact hReady.perform act hEnabled
  · exact hAscending
  · intro child ev hMem
    rcases perform_events child hEnabled with
      hSame | ⟨new, hGrew, hSeq⟩
    · exact hFosters.positive child ev (hSame ▸ hMem)
    · rw [hGrew, List.mem_append, List.mem_singleton] at hMem
      rcases hMem with hOld | rfl
      · exact hFosters.positive child ev hOld
      · omega
  · rcases saved_cases act with hSame | ⟨sup, hLive, hSaved⟩
    · rw [hSame]
      exact hFosters.saved.perform hReady hEnabled
    · rw [hSaved]
      exact (hFosters.live sup hLive).perform hReady hEnabled
  · intro sup' hLive'
    rcases live_cases hReady hLive' with
      rfl | ⟨sup, hLive, ⟨hCursor, -⟩ |
        ⟨child, v, ev, rest, hConsumes⟩⟩
    · exact hFosters.saved.perform hReady hEnabled
    · intro child n hSome
      rw [hCursor] at hSome
      exact (hFosters.live sup hLive).perform hReady hEnabled
        child n hSome
    · intro other n hSome
      rw [hConsumes.state] at hSome
      by_cases hNe : other = child
      · subst hNe
        rw [SupervisorState.cursor_consume,
          Option.some.injEq] at hSome
        subst hSome
        rcases hFosters.tracked other v hConsumes.view with
          ⟨seen, hTracks, hRecorded⟩
        have hNext :=
          (hTracks.handle v.terminal hConsumes.batch).2
        rw [view_events codec hConsumes.view] at hNext
        exact (hRecorded.perform hReady hEnabled).next
          (hNext.perform (hFosters.ascending other) hEnabled)
          (hAscending other) (fun _ => hConsumes.records)
      · rw [SupervisorState.cursor_consume_ne _ _ hNe] at hSome
        exact (hFosters.live sup hLive).perform hReady hEnabled
          other n hSome
  · intro child v' hView
    exact hFosters.tracked_perform hEnabled hView

end Steps

theorem fosters_start (codec : TailCodec) (env : RunEnv) :
    Fosters codec env .start := by
  have hEvents : ∀ child, Parent.start.events codec child = [] := by
    intro child
    rfl
  constructor
  · exact ready_start env
  · intro child
    rw [hEvents]
    exact List.Pairwise.nil
  · simp [hEvents]
  · intro child n hCursor
    cases hCursor
  · intro sup hLive
    cases hLive
  · intro child v hView
    cases hView

/- All this holds in every run. -/
theorem Fostered.fosters
    {codec : TailCodec} {env : RunEnv}
    {Ok : Parent → ParentAct → Prop} {w : Parent}
    (hRun : Fostered codec env Ok .start w) :
    Fosters codec env w := by
  induction hRun with
  | start => exact fosters_start codec env
  | next act _ hEnabled _ ih => exact ih.perform hEnabled

------------------------------------------------------------
-- Recorded Cursors
------------------------------------------------------------

/- The cursor of a child as its parent node records it. -/
def Disk.reportCursor
    (d : Disk) (id : NodeId) (child : RunId) : Option Nat :=
  (d.nodes.lookup id).bind
    (fun n => n.reportCursor child.val)

/- A recorded cursor that has come to a number. -/
def Disk.CursorAt
    (id : NodeId) (child : RunId) (seq : Nat) (d : Disk) :
    Prop :=
  ∃ seq', d.reportCursor id child = some seq' ∧ seq ≤ seq'

section Cursors

variable {id : NodeId} {child : RunId} {seq : Nat}

theorem cursorAt_putNode
    {s : Disk} {n' : Node}
    (hHere : s.CursorAt id child seq)
    (hGrow : ∀ n, s.nodes.lookup n'.nodeId = some n →
      n.CursorsGrow n') :
    (s.putNode n').CursorAt id child seq := by
  rcases hHere with ⟨seq', hCursor, hLe⟩
  unfold Disk.reportCursor at hCursor
  rw [Option.bind_eq_some_iff] at hCursor
  rcases hCursor with ⟨n, hLookup, hRead⟩
  by_cases hSame : id = n'.nodeId
  · rw [hSame] at hLookup
    rcases hGrow n hLookup child.val seq' hRead with
      ⟨seq'', hRead', hLe'⟩
    refine ⟨seq'', ?_, hLe.trans hLe'⟩
    rw [Disk.reportCursor, Disk.putNode, hSame,
      Finmap.lookup_insert]
    exact hRead'
  · refine ⟨seq', ?_, hLe⟩
    rw [Disk.reportCursor, Disk.putNode,
      Finmap.lookup_insert_of_ne _ hSame, hLookup]
    exact hRead

/- No accepted event moves a recorded cursor back. -/
theorem lasting_cursor
    (env : RunEnv)
    (id : NodeId)
    (child : RunId)
    (seq : Nat) :
    Lasting env (Disk.CursorAt id child seq) where
  framed := by
    rintro s s' ⟨seq', hCursor, hLe⟩ _ hNodes
    refine ⟨seq', ?_, hLe⟩
    rwa [Disk.reportCursor, hNodes]
  advanced := by
    rintro s mark ⟨seq', hCursor, hLe⟩
    refine ⟨seq', ?_, hLe⟩
    rwa [Disk.reportCursor, Disk.advance_nodes]
  folded := by
    intro s ev ops j hHere hPlan
    have hOne : ∀ op, Disk.CursorAt id child seq (op.put s) →
        Disk.CursorAt id child seq
          (applyOps ([op].take j) s) := by
      intro op hPut
      cases j with
      | zero => exact hHere
      | succ j =>
          rw [List.take_succ_cons, List.take_nil]
          exact hPut
    have hMissing : ∀ n : Node,
        s.nodes.lookup n.nodeId = none →
        Disk.CursorAt id child seq (s.putNode n) := by
      intro n hNone
      apply cursorAt_putNode hHere
      intro old hSome
      rw [hNone] at hSome
      cases hSome
    cases (planned_of_reduce hPlan).2 with
    | nothing =>
        rw [List.take_nil]
        exact hHere
    | runCreated m _ _ _ => exact hOne _ hHere
    | runStatus m st _ _ _ _ _ _ => exact hOne _ hHere
    | settlementIntent id' n m intent _ _ _ _ _ _ _ _ _ =>
        exact hOne _ hHere
    | nodeAlone id' n _ _ hNone hNew =>
        rcases newNode_bare hNew with ⟨rfl, -⟩
        exact hOne _ (hMissing n hNone)
    | nodeCreated id' n m _ _ hNone hNew _ =>
        rcases newNode_bare hNew with ⟨rfl, -⟩
        have hNode := hMissing n hNone
        rcases j with _ | _ | j
        · exact hHere
        · exact hNode
        · rw [List.take_succ_cons, List.take_succ_cons,
            List.take_nil]
          exact hNode
    | stepped id' n n' step _ hArm hLookup hValid hStep =>
        have hSame :=
          ((nodeArm_move hArm hStep).1.valid hValid).nodeId
        subst hSame
        apply hOne
        apply cursorAt_putNode hHere
        intro old hSome
        rw [hLookup, Option.some.injEq] at hSome
        subst hSome
        exact nodeArm_cursors hArm n n' hStep

/- Recording a report again leaves the projections alone. -/
theorem cursorAdvanced_again
    {env : RunEnv} {d : Disk} {now : Time} {k : Nat}
    {ops : List ProjectionOp}
    (hHere : d.CursorAt id child seq)
    (hPlan :
      reduceEventToOps env d
          ((cursorAdvanced now id child seq).event env k) =
        .ok ops) :
    ops = [] := by
  have hPlanned := (planned_of_reduce hPlan).2
  cases hPlanned with
  | nothing => rfl
  | runCreated m hKind _ _ => cases hKind
  | runStatus m st hKind _ _ _ _ _ => cases hKind
  | settlementIntent id' n m intent hKind _ _ _ _ _ _ _ _ =>
      cases hKind
  | nodeAlone id' n hKind _ _ _ _ => cases hKind
  | nodeCreated id' n m hKind _ _ _ _ _ => cases hKind
  | stepped id' n n' step hNode hArm hLookup _ hStep =>
      cases hNode
      rcases hHere with ⟨seq', hCursor, hLe⟩
      rw [Disk.reportCursor, hLookup] at hCursor
      have hNone := supervisorCursorAdvancedArm_again
        (Option.some.inj hArm) rfl rfl hCursor hLe
      rw [hNone] at hStep
      cases hStep

end Cursors

------------------------------------------------------------
-- Reports Consumed
------------------------------------------------------------

/-
  Of each child, a supervisor consumes later reports after
  earlier ones, and its cursor is at the last one or past it.
-/
structure Supervisor.InOrder (sup : Supervisor) : Prop where
  ascending :
    sup.consumed.Pairwise (fun later earlier =>
      later.1 = earlier.1 → earlier.2 < later.2)
  below : ∀ entry ∈ sup.consumed,
    ∃ n, sup.state.cursor entry.1 = some n ∧ entry.2 ≤ n

theorem not_alreadyProcessed
    {state : SupervisorState} {child : RunId} {seq n : Nat}
    (hNew : state.alreadyProcessed child seq = false)
    (hCursor : state.cursor child = some n) :
    n < seq := by
  simpa [SupervisorState.alreadyProcessed, hCursor] using hNew

theorem Supervisor.InOrder.consumes
    {w : Parent} {sup sup' : Supervisor} {d' : Disk}
    {child : RunId} {v : ChildView} {ev : Event}
    {rest : List Event}
    (hOrder : sup.InOrder)
    (hConsumes : Consumes w sup sup' d' child v ev rest) :
    sup'.InOrder := by
  constructor
  · rw [hConsumes.consumed]
    apply List.Pairwise.cons
    · intro entry hMem hSame
      rcases hOrder.below entry hMem with ⟨n, hCursor, hLe⟩
      simp only at hSame
      rw [← hSame] at hCursor
      have hLt := not_alreadyProcessed hConsumes.new hCursor
      dsimp only
      omega
    · exact hOrder.ascending
  · intro entry hMem
    rw [hConsumes.state]
    rw [hConsumes.consumed, List.mem_cons] at hMem
    rcases hMem with rfl | hOld
    · exact ⟨ev.seq, SupervisorState.cursor_consume _ _ _,
        le_refl _⟩
    · rcases hOrder.below entry hOld with ⟨n, hCursor, hLe⟩
      by_cases hSame : entry.1 = child
      · rw [hSame] at hCursor ⊢
        have hLt := not_alreadyProcessed hConsumes.new hCursor
        exact ⟨ev.seq, SupervisorState.cursor_consume _ _ _,
          by omega⟩
      · refine ⟨n, ?_, hLe⟩
        rw [SupervisorState.cursor_consume_ne _ _ hSame]
        exact hCursor

section Runs

variable {codec : TailCodec} {env : RunEnv}
variable {Ok : Parent → ParentAct → Prop} {w : Parent}

theorem Fostered.inOrder
    {sup : Supervisor}
    (hRun : Fostered codec env Ok .start w)
    (hLive : w.live = some sup) :
    sup.InOrder := by
  induction hRun generalizing sup with
  | start => cases hLive
  | next act hRun _ _ ih =>
      rcases live_cases hRun.fosters.ready hLive with
        rfl | ⟨old, hOld, ⟨hCursor, hConsumed⟩ |
          ⟨child, v, ev, rest, hConsumes⟩⟩
      · exact ⟨List.Pairwise.nil, by simp [Supervisor.start]⟩
      · have hOrder := ih hOld
        exact ⟨hConsumed ▸ hOrder.ascending,
          hConsumed ▸ hCursor ▸ hOrder.below⟩
      · exact (ih hOld).consumes hConsumes

/- What endures in the parent's run endures in every run. -/
theorem Fostered.disk
    {P : Disk → Prop} {w' : Parent}
    (hEnduring : Enduring env P)
    (hHere : Legibly env P w.disk)
    (hRun : Fostered codec env Ok w w') :
    Legibly env P w'.disk := by
  induction hRun with
  | start => exact hHere
  | next act _ hEnabled _ ih =>
      exact perform_disk hEnduring act hEnabled ih

end Runs

/-
  How a parent consumes the reports of its children: a
  recorded cursor never moves back; a supervisor consumes no
  report at or below its own cursor, and each at most once; a
  report that a supervisor consumes again changes no
  projection; and once a child's log is read to its end and
  handled, every report in it has its record.
-/
structure ReportsConsumed
    (codec : TailCodec) (env : RunEnv) (w : Parent) :
    Prop where
  grows : ∀ w', Fostered codec env (fun _ _ => True) w w' →
    ∀ id child seq, w.disk.reportCursor id child = some seq →
      ∃ seq', w'.disk.reportCursor id child = some seq' ∧
        seq ≤ seq'
  above : ∀ (act : ParentAct) (sup sup' : Supervisor),
    act.Enabled codec env w → w.live = some sup →
    (act.perform codec env w).live = some sup' →
    ∀ child seq,
      sup'.consumed = (child, seq) :: sup.consumed →
      ∀ n, sup.state.cursor child = some n → n < seq
  inOrder : ∀ sup, w.live = some sup → sup.InOrder
  again : ∀ (d : Disk) now id child seq n k ops,
    d.reportCursor id child = some n → seq ≤ n →
    reduceEventToOps env d
      ((cursorAdvanced now id child seq).event env k) =
        .ok ops →
    ops = []
  complete : ∀ sup child tracking,
    w.live = some sup →
    sup.childTails.lookup child = some tracking →
    sup.batchOf child = [] →
    (∀ ev ∈ w.events codec child,
      ev.seq ≤ tracking.tail.lastSeq) →
    ∀ ev ∈ w.events codec child, ev.kind = .nodeReport →
      w.disk.Records child ev.seq

theorem childReports_consumed
    (codec : TailCodec)
    (env : RunEnv)
    (w : Parent)
    (hRun : Fostered codec env (fun _ _ => True) .start w) :
    ReportsConsumed codec env w := by
  have hFosters := hRun.fosters
  have hReady := hFosters.ready
  constructor
  · intro w' hLater id child seq hCursor
    exact (hLater.disk
      (lasting_cursor env id child seq).enduring
      ⟨hReady.readable, seq, hCursor, le_refl _⟩).2
  · intro act sup sup' _ hLive hLive' child seq hConsumed n
      hCursor
    rcases live_cases hReady hLive' with
      rfl | ⟨old, hOld, ⟨-, hSame⟩ |
        ⟨other, v, ev, rest, hConsumes⟩⟩
    · simp [Supervisor.start] at hConsumed
    · rw [hLive, Option.some.injEq] at hOld
      subst hOld
      rw [hSame] at hConsumed
      simp at hConsumed
    · rw [hLive, Option.some.injEq] at hOld
      subst hOld
      rw [hConsumes.consumed, List.cons.injEq,
        Prod.mk.injEq] at hConsumed
      rcases hConsumed with ⟨⟨rfl, rfl⟩, -⟩
      exact not_alreadyProcessed hConsumes.new hCursor
  · intro sup hLive
    exact hRun.inOrder hLive
  · intro d now id child seq n k ops hCursor hLe hPlan
    exact cursorAdvanced_again ⟨n, hCursor, hLe⟩ hPlan
  · intro sup child tracking hLive hTail hIdle hEnd ev hMem
      hReport
    have hView : w.view child = some
        ⟨w.log child, tracking.tail, tracking.terminal, []⟩ := by
      simp only [Parent.view, hLive, Option.bind_some]
      rw [Supervisor.view_eq_some, hIdle]
      exact ⟨tracking, hTail, rfl⟩
    rcases hFosters.tracked child _ hView with
      ⟨seen, hTracks, hRecorded⟩
    apply hRecorded.2 ev hMem hReport
    -- What the tail has passed and no batch holds is handled.
    by_contra hUnseen
    have hBatch := hTracks.batch
    have hIn : ev ∈ (w.events codec child).filter
        (fun ev => seen < ev.seq ∧
          ev.seq ≤ tracking.tail.lastSeq) := by
      simp only [List.mem_filter, decide_eq_true_eq]
      exact ⟨hMem, by omega, hEnd ev hMem⟩
    rw [← view_events codec hView, ← hBatch] at hIn
    simp at hIn

namespace Sample

/- A run that has the sample run as a child. -/
def parentEnv : RunEnv where
  runId := ⟨"01jxparent0000000000000000", by decide⟩
  parseRfc3339 := clockEnv.parseRfc3339
  parseDateTime := clockEnv.parseDateTime

def child : RunId := env.runId

def utf8 (text : String) : Bytes :=
  text.toByteArray.data.toList

/- The log line of an event of the child. -/
def childLine (seq kind fields : String) : Bytes :=
  utf8
    ("\x7b\"ts\":\"1970-01-01T00:00:0" ++ seq ++
      "Z\",\"seq\":" ++ seq ++ ",\"kind\":\"" ++ kind ++
      "\",\"run_id\":\"01jxsnap000000000000000000\"," ++
      fields ++ "\x7d")

def createdLine : Bytes :=
  childLine "1" "run.created"
    ("\"data\":\x7b\"kind\":\"spinoff\"," ++
      "\"lifecycle\":\"autonomous\",\"title\":\"t\"\x7d")

def nodeLine : Bytes :=
  childLine "2" "node.created"
    ("\"node_id\":\"n-0001\"," ++
      "\"data\":\x7b\"kind\":\"spinoff\"\x7d")

def reportLine (seq : String) : Bytes :=
  childLine seq "node.report"
    ("\"node_id\":\"n-0001\"," ++
      "\"data\":\x7b\"success\":true\x7d")

def endedLine : Bytes :=
  childLine "4" "run.status"
    "\"data\":\x7b\"status\":\"done\"\x7d"

def nodeReport (seq : Nat) : Event :=
  event seq .nodeReport (some .first)
    (.obj [("success", .bool true)])

def runEnded : Event :=
  event 4 .runStatus none (.obj [("status", .str "done")])

/- The JSON reader on the lines of the child. -/
def childCodec : TailCodec where
  fromSlice := fun text =>
    if text = createdLine then .ok runCreated
    else if text = nodeLine then .ok nodeCreated
    else if text = reportLine "3" then .ok (nodeReport 3)
    else if text = endedLine then .ok runEnded
    else if text = reportLine "5" then .ok (nodeReport 5)
    else .error "expected value at line 1 column 1"
  escapeLossy := textCodec.escapeLossy
  excerptHash := fun _ => 0

/- A parent with one node, and a child that has reported. -/
def reported : List ParentAct :=
  [.other (appends (request .runCreated none
      (.obj
        [("kind", .str "fan-out"),
          ("lifecycle", .str "autonomous"),
          ("title", .str "p")]))) none,
    .other (appends (request .nodeCreated (some .first)
      (.obj [("kind", .str "fan-out")]))) none,
    .append child createdLine, .append child nodeLine,
    .append child (reportLine "3")]

/- The parent reads the log of the child and handles it. -/
def consuming : List ParentAct :=
  [.boot, .follow child .first, .poll child, .handle 0 none,
    .handle 0 none, .handle 0 none]

/-
  The supervisor records the report and ends before it saves
  its cursor. The next one comes to the report again.
-/
def recording : List ParentAct :=
  reported ++ consuming ++
    [.exit, .boot, .follow child .first, .poll child,
      .handle 0 none, .handle 0 none]

def recorded : Parent :=
  Parent.run childCodec parentEnv .start recording

/- The report at the cursor, and what the supervisor does. -/
theorem recorded_again :
    Parent.AllEnabled childCodec parentEnv (fun _ _ => True)
        .start recording ∧
      recorded.disk.reportCursor .first child = some 3 ∧
      recorded.live.any (fun sup =>
        (sup.childTails.lookup child).any (fun tracking =>
            tracking.parentNodeId = .first) &&
          sup.consumed = []) = true ∧
      ((ParentAct.handle 0 none).perform childCodec parentEnv
          recorded).live.any (fun sup =>
        sup.consumed = [(child, 3)]) = true := by
  decide +kernel

theorem recorded_fostered :
    Fostered childCodec parentEnv (fun _ _ => True) .start
      recorded :=
  Parent.fostered_run .start recording recorded_again.1

end Sample

/- After that restart a report at the cursor is consumed. -/
theorem childReports_consumed_restarted :
    ReportsConsumed Sample.childCodec Sample.parentEnv
      Sample.recorded :=
  childReports_consumed _ _ _ Sample.recorded_fostered

/-
  A report at or below the recorded cursor of its child can
  be consumed again.
-/
theorem childReports_consumedAgain :
    ¬ ∀ codec env w (act : ParentAct)
        (sup sup' : Supervisor) child tracking seq n,
      Fostered codec env (fun _ _ => True) .start w →
      act.Enabled codec env w →
      w.live = some sup →
      (act.perform codec env w).live = some sup' →
      sup.childTails.lookup child = some tracking →
      w.disk.reportCursor tracking.parentNodeId child =
        some n →
      sup'.consumed = (child, seq) :: sup.consumed →
      n < seq := by
  intro hAll
  rcases Sample.recorded_again with
    ⟨-, hCursor, hBefore, hAfter⟩
  rw [Option.any_eq_true] at hBefore hAfter
  rcases hBefore with ⟨sup, hLive, hSup⟩
  rcases hAfter with ⟨sup', hLive', hConsumed'⟩
  rw [Bool.and_eq_true, Option.any_eq_true] at hSup
  rcases hSup with ⟨⟨tracking, hTail, hNode⟩, hConsumed⟩
  simp only [decide_eq_true_eq] at hNode hConsumed hConsumed'
  have hLt := hAll Sample.childCodec Sample.parentEnv
    Sample.recorded (.handle 0 none) sup sup' Sample.child
    tracking 3 3 Sample.recorded_fostered trivial hLive hLive'
    hTail (hNode ▸ hCursor) (by rw [hConsumed, hConsumed'])
  omega

end Taskfleet
