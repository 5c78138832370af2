import Taskfleet.Children

/-
  What one act does to a child that is followed before and
  after it, and how far the supervisor has come in the log of
  the child.

  Main declarations:
    * `ChildView`, `ChildMove`, `view_cases`
    * `Tracks`, `Progress`, `ChildMove.progress`
-/

------------------------------------------------------------
-- A Followed Child
------------------------------------------------------------

namespace Taskfleet

open Physical

/- The events of a child that are polled and not handled. -/
def Supervisor.batchOf
    (sup : Supervisor) (child : RunId) : List Event :=
  match sup.working with
  | some (other, events) => if other = child then events else []
  | none => []

/- All that a supervisor and the log say of one child. -/
structure ChildView where
  log : Bytes
  tail : EventTail
  terminal : Bool
  batch : List Event

namespace Supervisor

def view
    (log : Bytes) (child : RunId) (sup : Supervisor) :
    Option ChildView := do
  let tracking ← sup.childTails.lookup child
  return {
    log := log
    tail := tracking.tail
    terminal := tracking.terminal
    batch := sup.batchOf child }

theorem view_eq_some
    {log : Bytes} {child : RunId} {sup : Supervisor}
    {v : ChildView} :
    sup.view log child = some v ↔
      ∃ tracking,
        sup.childTails.lookup child = some tracking ∧
          v = ⟨log, tracking.tail, tracking.terminal,
            sup.batchOf child⟩ := by
  unfold view
  cases hTail : sup.childTails.lookup child with
  | none => simp
  | some tracking => simp [eq_comm]

end Supervisor

def Parent.view (w : Parent) (child : RunId) :
    Option ChildView :=
  w.live.bind (Supervisor.view (w.log child) child)

/-
  The ways in which a followed child changes. `Done` is about
  the report numbers that need no more processing.
-/
inductive ChildMove
    (codec : TailCodec)
    (Done : Nat → Prop)
    (v : ChildView) : ChildView → Prop where
| kept : ChildMove codec Done v v
| grew
    (body log : Bytes)
    (hLines : lines log = lines v.log ++ [body])
    (hNumbered : ∀ ev ∈ lineEvent? codec.toLineCodec body,
      ev.seq =
        lastSeqOf
          (eventsOf codec.toLineCodec (lines v.log)) + 1) :
    ChildMove codec Done v { v with log := log }
| tore
    (log : Bytes)
    (hLines : lines log = lines v.log) :
    ChildMove codec Done v { v with log := log }
| polled
    (read : Option Bytes)
    (hRead : read.getD [] = v.log)
    (hLive : v.terminal = false)
    (hIdle : v.batch = []) :
    ChildMove codec Done v
      { v with
        tail := (v.tail.poll codec read).2
        batch := (v.tail.poll codec read).1 }
| handled
    (ev : Event)
    (rest : List Event)
    (terminal : Bool)
    (hBatch : v.batch = ev :: rest)
    (hDecided :
      terminal =
        (v.terminal || ev.kind = .nodeReport || ev.endsRun))
    (hDone : ev.kind = .nodeReport → Done ev.seq) :
    ChildMove codec Done v
      { v with terminal := terminal, batch := rest }
| failed
    (ev : Event)
    (rest : List Event)
    (hBatch : v.batch = ev :: rest)
    (hReport : ev.kind = .nodeReport) :
    ChildMove codec Done v
      { v with
        tail := .new (ev.seq - 1)
        terminal := false
        batch := [] }
| skipped (hIdle : v.batch = []) :
    ChildMove codec Done v
      { v with tail := (v.tail.takeNewCorrupt codec).2 }
| healed (hIdle : v.batch = []) :
    ChildMove codec Done v
      { v with
        log := recovered codec.toLineCodec v.log
        tail := (v.tail.takeNewCorrupt codec).2.restart }

------------------------------------------------------------
-- Recorded Reports
------------------------------------------------------------

/- The log has the record of a child's report. -/
def Disk.Records (d : Disk) (child : RunId) (seq : Nat) :
    Prop :=
  ∃ ev ∈ d.events, ev.kind = .supervisorCursorAdvanced ∧
    ev.data = cursorAdvancedData child seq

/- An append that succeeds leaves its event in the log. -/
theorem append_logged
    {env : RunEnv} {d : Disk} {r : Request} {seq : Nat}
    (hReadable : Readable env d)
    (hOk : (appendAndApplyUnlocked env r).result d = .ok seq) :
    ∃ n, r.event env n ∈
      ((appendAndApplyUnlocked env r).final d).events := by
  refine Durable.wp_ok
    (Q := fun _ s => ∃ n, r.event env n ∈ s.events)
    (E := fun _ _ => True) (C := fun _ _ => True) ?_ hOk
  have hCatchUp :=
    (lasting_readable env).enduring.keeps_catchUp d
      ⟨hReadable, hReadable⟩
  refine wp_appendAndApplyUnlocked
    (wp_appendAndApplyReporting
      (R := Readable env)
      (Durable.wp_mono hCatchUp (fun _ _ h => h.1)
        (fun _ _ _ => trivial) (fun _ _ _ => trivial))
      (fun _ h => h) (fun _ _ _ _ => trivial)
      (fun _ _ _ _ _ _ => trivial) ?_)
  intro s last ops _ _ _
  refine ⟨trivial, trivial, fun _ _ => trivial,
    fun _ => trivial, last + 1, ?_⟩
  simp [Disk.advance_events, Disk.applyOps_events,
    Disk.log_events]

section Processing

variable {env : RunEnv} {now : Time} {cut : Option Nat}
variable {parentNodeId : NodeId} {child : RunId}
variable {reportSeq : Nat}
variable {state state' : SupervisorState} {d d' : Disk}

theorem processNodeReport_consumed
    (hReadable : Readable env d)
    (hRun :
      processNodeReport env now cut parentNodeId child reportSeq
        state d = (.consumed, state', d')) :
    state.alreadyProcessed child reportSeq = false ∧
      state' = state.consume child reportSeq ∧
      d'.Records child reportSeq := by
  unfold processNodeReport at hRun
  cases hGuard : state.alreadyProcessed child reportSeq with
  | true => simp [hGuard] at hRun
  | false =>
      simp only [hGuard, Bool.false_eq_true, if_false] at hRun
      cases cut with
      | some n => simp [Durable.attempt] at hRun
      | none =>
          simp only [Durable.attempt] at hRun
          cases hResult : Durable.result
              (appendAndApplyUnlocked env
                (cursorAdvanced now parentNodeId child
                  reportSeq)) d with
          | error e => simp [hResult, Except.toOption] at hRun
          | ok seq =>
              simp only [hResult, Except.toOption,
                Prod.mk.injEq, true_and] at hRun
              rcases hRun with ⟨rfl, rfl⟩
              rcases append_logged hReadable hResult with
                ⟨n, hMem⟩
              exact ⟨rfl, rfl, _, hMem, rfl, rfl⟩

theorem processNodeReport_replayed
    (hRun :
      processNodeReport env now cut parentNodeId child reportSeq
        state d = (.replayed, state', d')) :
    state.alreadyProcessed child reportSeq = true ∧
      state' = state ∧ d' = d := by
  unfold processNodeReport at hRun
  cases hGuard : state.alreadyProcessed child reportSeq with
  | true =>
      simp only [hGuard, if_true, Prod.mk.injEq, true_and]
        at hRun
      exact ⟨rfl, hRun.1.symm, hRun.2.symm⟩
  | false =>
      simp only [hGuard, Bool.false_eq_true, if_false] at hRun
      split at hRun <;> simp at hRun

theorem processNodeReport_failed
    (hRun :
      processNodeReport env now cut parentNodeId child reportSeq
        state d = (.failed, state', d')) :
    state.alreadyProcessed child reportSeq = false ∧
      state' = state := by
  unfold processNodeReport at hRun
  cases hGuard : state.alreadyProcessed child reportSeq with
  | true => simp [hGuard] at hRun
  | false =>
      simp only [hGuard, Bool.false_eq_true, if_false] at hRun
      split at hRun
      · simp only [Prod.mk.injEq, true_and] at hRun
        exact ⟨rfl, hRun.1.symm⟩
      · simp at hRun

/- What an append keeps, the consumption keeps. -/
theorem processNodeReport_keeps
    {I : Disk → Prop}
    (hKeeps : ∀ r,
      Durable.Keeps I (appendAndApplyUnlocked env r))
    (hHere : I d) :
    I (processNodeReport env now cut parentNodeId child
      reportSeq state d).2.2 := by
  unfold processNodeReport
  split
  · exact hHere
  · have hWritten := (hKeeps
      (cursorAdvanced now parentNodeId child
        reportSeq)).attempt hHere cut
    dsimp only
    split <;> exact hWritten

end Processing

------------------------------------------------------------
-- The Steps of a Supervisor
------------------------------------------------------------

namespace Supervisor

@[simp] theorem track_lookup
    (sup : Supervisor)
    (child : RunId)
    (tracking : ChildTracking) :
    (sup.track child tracking).childTails.lookup child =
      some tracking :=
  Finmap.lookup_insert _

theorem track_lookup_ne
    {child other : RunId}
    (sup : Supervisor)
    (tracking : ChildTracking)
    (hNe : other ≠ child) :
    (sup.track child tracking).childTails.lookup other =
      sup.childTails.lookup other :=
  Finmap.lookup_insert_of_ne _ hNe

/- Only followed children are worked on. -/
def Orderly (sup : Supervisor) : Prop :=
  ∀ child events, sup.working = some (child, events) →
    sup.childTails.lookup child ≠ none

/- Steps on one child leave the views of the others alone. -/
theorem view_of_ne
    {sup sup' : Supervisor}
    {log : Bytes}
    {other : RunId}
    (hTails : sup'.childTails.lookup other =
      sup.childTails.lookup other)
    (hBefore : sup.batchOf other = [])
    (hAfter : sup'.batchOf other = []) :
    sup'.view log other = sup.view log other := by
  unfold view
  rw [hTails, hBefore, hAfter]

theorem batchOf_working_ne
    {sup : Supervisor}
    {child other : RunId}
    {events : List Event}
    (hWorking : sup.working = some (child, events))
    (hNe : other ≠ child) :
    sup.batchOf other = [] := by
  simp [batchOf, hWorking, Ne.symm hNe]

theorem batchOf_working
    {sup : Supervisor}
    {child : RunId}
    {events : List Event}
    (hWorking : sup.working = some (child, events)) :
    sup.batchOf child = events := by
  simp [batchOf, hWorking]

theorem batchOf_mk
    (state : SupervisorState)
    (childTails : Finmap (fun _ : RunId => ChildTracking))
    (child : RunId)
    (events : List Event)
    (consumed : List (RunId × Nat)) :
    batchOf ⟨state, childTails, some (child, events), consumed⟩
      child = events :=
  batchOf_working rfl

theorem batchOf_idle
    {sup : Supervisor}
    (hWorking : sup.working = none)
    (child : RunId) :
    sup.batchOf child = [] := by
  simp [batchOf, hWorking]

variable {sup : Supervisor} {log : Bytes}
variable {child other : RunId} {v' : ChildView}

theorem follow_view
    {parentNodeId : NodeId}
    (hOrderly : sup.Orderly)
    (hView :
      (sup.follow child parentNodeId).view log other =
        some v') :
    sup.view log other = some v' ∨
      other = child ∧ sup.childTails.lookup child = none ∧
        v' = ⟨log, .new ((sup.state.cursor child).getD 0),
          false, []⟩ := by
  unfold follow at hView
  cases hTail : sup.childTails.lookup child with
  | some tracking =>
      left
      simpa [hTail] using hView
  | none =>
      rw [hTail] at hView
      by_cases hSame : other = child
      · right
        subst hSame
        refine ⟨rfl, rfl, ?_⟩
        rw [view_eq_some] at hView
        rcases hView with ⟨tracking, hLookup, rfl⟩
        simp only [track_lookup, Option.some.injEq] at hLookup
        subst hLookup
        have hEmpty : sup.batchOf other = [] := by
          unfold batchOf
          split
          next c events hWorking =>
            split
            next hEq =>
              subst hEq
              exact absurd hTail (hOrderly _ _ hWorking)
            next => rfl
          next => rfl
        simpa [track, batchOf] using hEmpty
      · left
        unfold view at hView ⊢
        rwa [track_lookup_ne _ _ hSame] at hView

theorem poll_view
    {codec : TailCodec} {read : Option Bytes}
    {Done : Nat → Prop}
    (hRead : other = child → read.getD [] = log)
    (hView :
      (sup.poll codec read child).view log other = some v') :
    ∃ v, sup.view log other = some v ∧
      ChildMove codec Done v v' := by
  unfold poll at hView
  split at hView
  next tracking hWorking hTail =>
    split at hView
    · exact ⟨v', hView, .kept⟩
    next hLive =>
      by_cases hSame : other = child
      · subst hSame
        refine ⟨_, view_eq_some.mpr ⟨tracking, hTail, rfl⟩, ?_⟩
        rw [view_eq_some] at hView
        rcases hView with ⟨tracking', hLookup, rfl⟩
        rw [track_lookup, Option.some.injEq] at hLookup
        subst hLookup
        rw [batchOf_mk]
        apply ChildMove.polled
        · exact hRead rfl
        · simpa using hLive
        · exact batchOf_idle hWorking other
      · refine ⟨v', ?_, .kept⟩
        rw [← hView]
        symm
        apply view_of_ne
        · exact track_lookup_ne _ _ hSame
        · exact batchOf_idle hWorking other
        · exact batchOf_working_ne rfl hSame
  · exact ⟨v', hView, .kept⟩

/- A child whose tracking and batch are known. -/
theorem view_mk
    {tracking : ChildTracking}
    (state : SupervisorState)
    (events : List Event)
    (consumed : List (RunId × Nat)) :
    view log child
        ⟨state, sup.childTails.insert child tracking,
          some (child, events), consumed⟩ =
      some ⟨log, tracking.tail, tracking.terminal, events⟩ := by
  rw [view_eq_some]
  exact ⟨tracking, Finmap.lookup_insert _,
    by rw [batchOf_mk]⟩

/- All that handling an event may come to. -/
inductive Handled
    (d : Disk)
    (sup : Supervisor)
    (child : RunId)
    (tracking : ChildTracking)
    (ev : Event)
    (rest : List Event) : Supervisor → Disk → Prop where
| consumed
    (d' : Disk)
    (hReport : ev.kind = .nodeReport)
    (hNew : sup.state.alreadyProcessed child ev.seq = false)
    (hRecords : d'.Records child ev.seq) :
    Handled d sup child tracking ev rest
      ⟨(sup.state.see child ev.seq).consume child ev.seq,
        sup.childTails.insert child
          { tracking with terminal := true },
        some (child, rest), (child, ev.seq) :: sup.consumed⟩
      d'
| replayed
    (hReport : ev.kind = .nodeReport)
    (hOld : sup.state.alreadyProcessed child ev.seq = true) :
    Handled d sup child tracking ev rest
      ⟨sup.state.see child ev.seq,
        sup.childTails.insert child
          { tracking with terminal := true },
        some (child, rest), sup.consumed⟩ d
| failed
    (d' : Disk)
    (hReport : ev.kind = .nodeReport)
    (hNew : sup.state.alreadyProcessed child ev.seq = false) :
    Handled d sup child tracking ev rest
      ⟨(sup.state.see child ev.seq).see child (ev.seq - 1),
        sup.childTails.insert child
          { tracking with
            tail := .new (ev.seq - 1)
            terminal := false },
        some (child, []), sup.consumed⟩ d'
| ended
    (hKind : ev.kind ≠ .nodeReport)
    (hEnds : ev.endsRun = true) :
    Handled d sup child tracking ev rest
      ⟨sup.state.see child ev.seq,
        sup.childTails.insert child
          { tracking with terminal := true },
        some (child, rest), sup.consumed⟩ d
| passed
    (hKind : ev.kind ≠ .nodeReport)
    (hEnds : ev.endsRun = false) :
    Handled d sup child tracking ev rest
      ⟨sup.state.see child ev.seq, sup.childTails,
        some (child, rest), sup.consumed⟩ d

section Handling

variable {env : RunEnv} {now : Time} {cut : Option Nat}
variable {tracking : ChildTracking} {ev : Event}
variable {rest : List Event} {d : Disk}

theorem handleEvent_handled
    (sup : Supervisor)
    (now : Time)
    (cut : Option Nat)
    (child : RunId)
    (tracking : ChildTracking)
    (ev : Event)
    (rest : List Event)
    (hReadable : Readable env d) :
    Handled d sup child tracking ev rest
      (sup.handleEvent env now cut child tracking ev rest d).1
      (sup.handleEvent env now cut child tracking ev rest
        d).2 := by
  unfold handleEvent
  dsimp only
  split
  next hReport =>
    split
    next state' d' hRun =>
      rcases processNodeReport_consumed hReadable hRun with
        ⟨hNew, rfl, hRecords⟩
      exact .consumed d' hReport hNew hRecords
    next state' d' hRun =>
      rcases processNodeReport_replayed hRun with
        ⟨hOld, -, rfl⟩
      exact .replayed hReport hOld
    next state' d' hRun =>
      have hNew := processNodeReport_failed hRun
      rcases hNew with ⟨hNew, rfl⟩
      exact .failed d' hReport hNew
  next hKind =>
    split
    next hEnds => exact .ended hKind hEnds
    next hEnds => exact .passed hKind (by simpa using hEnds)

/- A step of the loop handles the next event, if any. -/
theorem handle_cases
    (sup : Supervisor)
    (env : RunEnv)
    (now : Time)
    (cut : Option Nat)
    (d : Disk) :
    sup.handle env now cut d = (sup, d) ∨
      ∃ child ev rest tracking,
        sup.working = some (child, ev :: rest) ∧
          sup.childTails.lookup child = some tracking ∧
          sup.handle env now cut d =
            sup.handleEvent env now cut child tracking ev rest
              d := by
  unfold handle
  split
  next child ev rest hWorking =>
    split
    next tracking hTail =>
      right
      exact ⟨child, ev, rest, tracking, hWorking, hTail, rfl⟩
    next => exact .inl rfl
  next => exact .inl rfl

/- The other children stay as they are. -/
theorem Handled.others
    {sup' : Supervisor} {d' : Disk}
    (hHandled :
      Handled d sup child tracking ev rest sup' d')
    (hNe : other ≠ child) :
    sup'.childTails.lookup other =
        sup.childTails.lookup other ∧
      sup'.batchOf other = [] := by
  cases hHandled <;>
    exact ⟨by simp [Finmap.lookup_insert_of_ne _ hNe],
      batchOf_working_ne rfl hNe⟩

theorem Handled.move
    {codec : TailCodec} {sup' : Supervisor} {d' : Disk}
    (hHandled :
      Handled d sup child tracking ev rest sup' d')
    (hTail : sup.childTails.lookup child = some tracking)
    (hView : sup'.view log child = some v') :
    ChildMove codec
      (fun seq => d'.Records child seq ∨
        sup.state.alreadyProcessed child seq = true)
      ⟨log, tracking.tail, tracking.terminal, ev :: rest⟩
      v' := by
  cases hHandled with
  | consumed d' hReport _ hRecords =>
      rw [view_mk, Option.some.injEq] at hView
      subst hView
      exact .handled ev rest true rfl (by simp [hReport])
        (fun _ => .inl hRecords)
  | replayed hReport hOld =>
      rw [view_mk, Option.some.injEq] at hView
      subst hView
      exact .handled ev rest true rfl (by simp [hReport])
        (fun _ => .inr hOld)
  | failed d' hReport _ =>
      rw [view_mk, Option.some.injEq] at hView
      subst hView
      exact .failed ev rest rfl hReport
  | ended hKind hEnds =>
      rw [view_mk, Option.some.injEq] at hView
      subst hView
      exact .handled ev rest true rfl (by simp [hEnds])
        (fun hReport => absurd hReport hKind)
  | passed hKind hEnds =>
      rw [view_eq_some] at hView
      rcases hView with ⟨tracking', hLookup, rfl⟩
      rw [hTail, Option.some.injEq] at hLookup
      subst hLookup
      rw [batchOf_mk]
      exact .handled ev rest tracking.terminal rfl
        (by simp [hKind, hEnds])
        (fun hReport => absurd hReport hKind)

theorem handle_view
    (codec : TailCodec)
    (hReadable : Readable env d)
    (hView :
      (sup.handle env now cut d).1.view log other = some v') :
    ∃ v, sup.view log other = some v ∧
      ChildMove codec
        (fun seq =>
          (sup.handle env now cut d).2.Records other seq ∨
            sup.state.alreadyProcessed other seq = true)
        v v' := by
  rcases handle_cases sup env now cut d with
    hSame | ⟨child, ev, rest, tracking, hWorking, hTail, hRun⟩
  · rw [hSame] at hView ⊢
    exact ⟨v', hView, .kept⟩
  · rw [hRun] at hView ⊢
    have hHandled :=
      handleEvent_handled sup now cut child tracking ev rest
        hReadable
    by_cases hSame : other = child
    · subst hSame
      refine ⟨_, view_eq_some.mpr ⟨tracking, hTail, rfl⟩, ?_⟩
      rw [batchOf_working hWorking]
      exact hHandled.move hTail hView
    · refine ⟨v', ?_, .kept⟩
      have hOthers := hHandled.others hSame
      rw [← hView]
      exact (view_of_ne hOthers.1
        (batchOf_working_ne hWorking hSame) hOthers.2).symm

end Handling

theorem view_idle
    {tracking : ChildTracking}
    (hTail : sup.childTails.lookup child = some tracking)
    (hIdle : sup.working = none) :
    sup.view log child =
      some ⟨log, tracking.tail, tracking.terminal, []⟩ := by
  rw [view_eq_some]
  exact ⟨tracking, hTail, by rw [batchOf_idle hIdle]⟩

theorem finish_view
    {codec : TailCodec} {quarantine : Bool}
    {logs : Finmap (fun _ : RunId => Bytes)}
    {Done : Nat → Prop}
    (hView :
      (sup.finish codec quarantine logs).1.view
          (((sup.finish codec quarantine logs).2.lookup
            other).getD []) other = some v') :
    ∃ v, sup.view ((logs.lookup other).getD []) other = some v ∧
      ChildMove codec Done v v' := by
  unfold finish at hView
  split at hView
  next child hWorking =>
    have hBatch : sup.batchOf other = [] := by
      by_cases hSame : other = child
      · subst hSame
        exact batchOf_working hWorking
      · exact batchOf_working_ne hWorking hSame
    dsimp only at hView
    split at hView
    next hTail =>
      refine ⟨v', ?_, .kept⟩
      rw [← hView]
      exact Eq.symm
        (view_of_ne rfl hBatch (batchOf_idle rfl other))
    next tracking hTail =>
      by_cases hSame : other = child
      · subst hSame
        refine ⟨_, view_eq_some.mpr ⟨tracking, hTail, rfl⟩, ?_⟩
        rw [hBatch]
        split at hView
        next c raw hTaken hRaw =>
          rw [hRaw]
          split at hView
          · rw [view_idle (track_lookup _ _ _) rfl,
              Finmap.lookup_insert, Option.some.injEq] at hView
            subst hView
            exact .healed rfl
          · rw [view_idle (track_lookup _ _ _) rfl, hRaw,
              Option.some.injEq] at hView
            subst hView
            exact .skipped rfl
        next =>
          rw [view_idle (track_lookup _ _ _) rfl,
            Option.some.injEq] at hView
          subst hView
          exact .skipped rfl
      · refine ⟨v', ?_, .kept⟩
        split at hView
        next c raw hTaken hRaw =>
          split at hView
          · rw [Finmap.lookup_insert_of_ne _ hSame] at hView
            rw [← hView]
            exact Eq.symm
              (view_of_ne (track_lookup_ne _ _ hSame) hBatch
                (batchOf_idle rfl other))
          · rw [← hView]
            exact Eq.symm
              (view_of_ne (track_lookup_ne _ _ hSame) hBatch
                (batchOf_idle rfl other))
        next =>
          rw [← hView]
          exact Eq.symm
            (view_of_ne (track_lookup_ne _ _ hSame) hBatch
              (batchOf_idle rfl other))
  next => exact ⟨v', hView, .kept⟩

end Supervisor

------------------------------------------------------------
-- The Acts Around a Supervisor
------------------------------------------------------------

namespace Supervisor

variable {sup : Supervisor} {env : RunEnv} {d : Disk}

theorem handle_keeps
    {I : Disk → Prop}
    (hKeeps : ∀ r,
      Durable.Keeps I (appendAndApplyUnlocked env r))
    (hHere : I d)
    (now : Time)
    (cut : Option Nat) :
    I (sup.handle env now cut d).2 := by
  rcases handle_cases sup env now cut d with
    hSame | ⟨child, ev, rest, tracking, -, -, hRun⟩
  · rw [hSame]
    exact hHere
  · rw [hRun]
    unfold handleEvent
    dsimp only
    split
    · have hKept : I (processNodeReport env now cut
          tracking.parentNodeId child ev.seq
          (sup.state.see child ev.seq) d).2.2 :=
        processNodeReport_keeps hKeeps hHere
      split
      all_goals
        next hRun =>
          rw [hRun] at hKept
          exact hKept
    · split <;> exact hHere

/- A tail that is open stays open. -/
theorem track_tracked
    {child other : RunId}
    {tracking : ChildTracking}
    (hOpen : sup.childTails.lookup other ≠ none) :
    (sup.track child tracking).childTails.lookup other ≠
      none := by
  by_cases hSame : other = child
  · subst hSame
    simp
  · rwa [track_lookup_ne _ _ hSame]

theorem orderly_follow
    (hOrderly : sup.Orderly)
    (child : RunId)
    (parentNodeId : NodeId) :
    (sup.follow child parentNodeId).Orderly := by
  unfold follow
  split
  · exact hOrderly
  · intro other events hWorking
    exact track_tracked (hOrderly other events hWorking)

theorem orderly_poll
    (hOrderly : sup.Orderly)
    (codec : TailCodec)
    (log : Option Bytes)
    (child : RunId) :
    (sup.poll codec log child).Orderly := by
  unfold poll
  split
  next tracking hWorking hTail =>
    split
    · exact hOrderly
    · intro other events hNow
      simp only [Option.some.injEq, Prod.mk.injEq] at hNow
      rcases hNow with ⟨rfl, -⟩
      simp
  · exact hOrderly

theorem Handled.orderly
    {child : RunId} {tracking : ChildTracking}
    {ev : Event} {rest : List Event}
    {sup' : Supervisor} {d' : Disk}
    (hHandled :
      Handled d sup child tracking ev rest sup' d')
    (hOpen : sup.childTails.lookup child ≠ none) :
    sup'.Orderly := by
  intro other events hWorking
  cases hHandled with
  | passed _ _ =>
      cases hWorking
      exact hOpen
  | _ =>
      cases hWorking
      exact track_tracked hOpen

theorem orderly_handle
    (hReadable : Readable env d)
    (hOrderly : sup.Orderly)
    (now : Time)
    (cut : Option Nat) :
    (sup.handle env now cut d).1.Orderly := by
  rcases handle_cases sup env now cut d with
    hSame | ⟨child, ev, rest, tracking, hWorking, -, hRun⟩
  · rw [hSame]
    exact hOrderly
  · rw [hRun]
    exact (handleEvent_handled sup now cut child tracking ev
      rest hReadable).orderly (hOrderly child _ hWorking)

theorem orderly_finish
    (hOrderly : sup.Orderly)
    (codec : TailCodec)
    (quarantine : Bool)
    (logs : Finmap (fun _ : RunId => Bytes)) :
    (sup.finish codec quarantine logs).1.Orderly := by
  have hIdle : ∀ s : Supervisor, s.working = none →
      s.Orderly := by
    intro s hNone other events hWorking
    rw [hNone] at hWorking
    cases hWorking
  unfold finish
  split
  · dsimp only
    split
    · exact hIdle _ rfl
    · split
      · split <;> exact hIdle _ rfl
      · exact hIdle _ rfl
  · exact hOrderly

end Supervisor

/- The parent's manifest can be read, and the loop is orderly. -/
structure Parent.Ready (env : RunEnv) (w : Parent) : Prop where
  readable : Readable env w.disk
  orderly : ∀ sup, w.live = some sup → sup.Orderly

theorem ready_start (env : RunEnv) : Parent.start.Ready env :=
  ⟨readable_empty, by simp [Parent.start]⟩

/- What acts and appends keep of the parent's run. -/
theorem perform_disk
    {codec : TailCodec} {env : RunEnv} {w : Parent}
    {P : Disk → Prop}
    (hEnduring : Enduring env P)
    (act : ParentAct)
    (hEnabled : act.Enabled codec env w)
    (hHere : Legibly env P w.disk) :
    Legibly env P (act.perform codec env w).disk := by
  cases act with
  | other a cut =>
      have hRun := hEnduring.acts a hHere
      cases cut with
      | none => exact Durable.wp_final hRun
      | some n =>
          refine Durable.wp_cutAt hRun hHere ?_
          intro entry hEntry hKept
          apply hKept
          have hLabel := hEnabled n rfl
          rw [hEntry] at hLabel
          intro hRenamed
          simp [hRenamed, Boundary.isRenamed] at hLabel
  | handle now cut =>
      simp only [ParentAct.perform, Parent.handle]
      split
      · exact hHere
      · exact Supervisor.handle_keeps
          hEnduring.keeps_append hHere now cut
  | finish quarantine =>
      simp only [ParentAct.perform, Parent.finish]
      split <;> exact hHere
  | save =>
      simp only [ParentAct.perform, Parent.save]
      split
      · exact hHere
      · split <;> exact hHere
  | _ => exact hHere

theorem Parent.Ready.perform
    {codec : TailCodec} {env : RunEnv} {w : Parent}
    (hReady : w.Ready env)
    (act : ParentAct)
    (hEnabled : act.Enabled codec env w) :
    (act.perform codec env w).Ready env := by
  have hDisk :=
    perform_disk (lasting_readable env).enduring act hEnabled
      ⟨hReady.readable, hReady.readable⟩
  refine ⟨hDisk.1, ?_⟩
  intro sup' hLive
  have hOld := hReady.orderly
  cases act with
  | boot =>
      cases hLive
      intro child events hWorking
      cases hWorking
  | exit => cases hLive
  | follow child parentNodeId =>
      simp only [ParentAct.perform, Option.map_eq_some_iff]
        at hLive
      rcases hLive with ⟨sup, hLive, rfl⟩
      exact Supervisor.orderly_follow (hOld sup hLive) child
        parentNodeId
  | poll child =>
      simp only [ParentAct.perform, Option.map_eq_some_iff]
        at hLive
      rcases hLive with ⟨sup, hLive, rfl⟩
      exact Supervisor.orderly_poll (hOld sup hLive) codec _
        child
  | handle now cut =>
      simp only [ParentAct.perform, Parent.handle] at hLive
      split at hLive
      next hNone => exact hOld sup' hLive
      next sup hSome =>
        cases hLive
        exact Supervisor.orderly_handle hReady.readable
          (hOld sup hSome) now cut
  | finish quarantine =>
      simp only [ParentAct.perform, Parent.finish] at hLive
      split at hLive
      next hNone => exact hOld sup' hLive
      next sup hSome =>
        cases hLive
        exact Supervisor.orderly_finish (hOld sup hSome) codec
          quarantine w.logs
  | save =>
      simp only [ParentAct.perform, Parent.save] at hLive
      split at hLive
      · exact hOld sup' hLive
      · split at hLive <;> exact hOld sup' hLive
  | _ => exact hOld sup' hLive

/- A child that no tail was open on, and now is. -/
def Parent.Opens
    (w : Parent) (act : ParentAct) (child : RunId)
    (v' : ChildView) : Prop :=
  ∃ sup parentNodeId,
    w.live = some sup ∧ act = .follow child parentNodeId ∧
      sup.childTails.lookup child = none ∧
      v' = ⟨w.log child,
        .new ((sup.state.cursor child).getD 0), false, []⟩

/- A report that is recorded, or below the cursor in memory. -/
def Parent.DoneWith
    (w w' : Parent) (child : RunId) (seq : Nat) : Prop :=
  w'.disk.Records child seq ∨
    ∃ sup, w.live = some sup ∧
      sup.state.alreadyProcessed child seq = true

theorem ChildMove.mono
    {codec : TailCodec} {Done Done' : Nat → Prop}
    {v v' : ChildView}
    (hMove : ChildMove codec Done v v')
    (hDone : ∀ seq, Done seq → Done' seq) :
    ChildMove codec Done' v v' := by
  cases hMove with
  | kept => exact .kept
  | grew body log hLines hNumbered =>
      exact .grew body log hLines hNumbered
  | tore log hLines => exact .tore log hLines
  | polled read hRead hLive hIdle =>
      exact .polled read hRead hLive hIdle
  | handled ev rest terminal hBatch hDecided hReport =>
      exact .handled ev rest terminal hBatch hDecided
        (fun hKind => hDone _ (hReport hKind))
  | failed ev rest hBatch hReport =>
      exact .failed ev rest hBatch hReport
  | skipped hIdle => exact .skipped hIdle
  | healed hIdle => exact .healed hIdle

/- The log of one child changes, and nothing else. -/
theorem view_relogged
    {w : Parent} {child other : RunId} {log : Bytes}
    {v' : ChildView}
    (hView :
      Parent.view { w with logs := w.logs.insert child log }
        other = some v') :
    ∃ v, w.view other = some v ∧
      (v' = v ∨ other = child ∧ v.log = w.log child ∧
        v' = { v with log := log }) := by
  unfold Parent.view at hView ⊢
  cases hLive : w.live with
  | none => simp [hLive] at hView
  | some sup =>
      rw [hLive, Option.bind_some, Supervisor.view_eq_some]
        at hView
      rcases hView with ⟨tracking, hTail, rfl⟩
      refine ⟨_, Supervisor.view_eq_some.mpr
        ⟨tracking, hTail, rfl⟩, ?_⟩
      by_cases hSame : other = child
      · right
        subst hSame
        simp [Parent.log]
      · left
        simp [Parent.log, Finmap.lookup_insert_of_ne _ hSame]

/- What any act does to a child that is followed after it. -/
theorem view_cases
    {codec : TailCodec} {env : RunEnv} {w : Parent}
    {act : ParentAct} {child : RunId} {v' : ChildView}
    (hReady : w.Ready env)
    (hEnabled : act.Enabled codec env w)
    (hView :
      (act.perform codec env w).view child = some v') :
    w.Opens act child v' ∨
      ∃ v, w.view child = some v ∧
        ChildMove codec
          (w.DoneWith (act.perform codec env w) child) v v' := by
  cases act with
  | append grown body =>
      right
      rcases view_relogged hView with
        ⟨v, hOld, rfl | ⟨rfl, hLog, rfl⟩⟩
      · exact ⟨v', hOld, .kept⟩
      · refine ⟨v, hOld, .grew body _ ?_ ?_⟩
        · rw [hLog, lines_truncate_append,
            lines_line hEnabled.1]
        · rw [hLog]
          exact hEnabled.2
  | tear grown part =>
      right
      rcases view_relogged hView with
        ⟨v, hOld, rfl | ⟨rfl, hLog, rfl⟩⟩
      · exact ⟨v', hOld, .kept⟩
      · refine ⟨v, hOld, .tore _ ?_⟩
        rw [hLog, lines_truncate_append, lines_torn hEnabled,
          List.append_nil]
  | other a cut => exact .inr ⟨v', hView, .kept⟩
  | boot =>
      have hNone : (Parent.view
          { w with live := some (.start w.saved) } child) =
            none := by
        simp [Parent.view, Supervisor.view, Supervisor.start]
      rw [ParentAct.perform, hNone] at hView
      cases hView
  | exit =>
      simp [ParentAct.perform, Parent.view] at hView
  | follow opened parentNodeId =>
      cases hLive : w.live with
      | none =>
          simp [ParentAct.perform, Parent.view, hLive] at hView
      | some sup =>
          have hSup :
              (sup.follow opened parentNodeId).view
                (w.log child) child = some v' := by
            simpa [ParentAct.perform, Parent.view, hLive,
              Parent.log] using hView
          rcases Supervisor.follow_view
              (hReady.orderly sup hLive) hSup with
            hOld | ⟨rfl, hFresh, rfl⟩
          · right
            refine ⟨v', ?_, .kept⟩
            simpa [Parent.view, hLive] using hOld
          · left
            exact ⟨sup, parentNodeId, hLive, rfl, hFresh, rfl⟩
  | poll polled =>
      cases hLive : w.live with
      | none =>
          simp [ParentAct.perform, Parent.view, hLive] at hView
      | some sup =>
          have hSup :
              (sup.poll codec (w.logs.lookup polled)
                polled).view (w.log child) child = some v' := by
            simpa [ParentAct.perform, Parent.view, hLive,
              Parent.log] using hView
          right
          simp only [Parent.view, hLive, Option.bind_some]
          apply Supervisor.poll_view _ hSup
          rintro rfl
          rfl
  | handle now cut =>
      cases hLive : w.live with
      | none =>
          simp [ParentAct.perform, Parent.handle, Parent.view,
            hLive] at hView
      | some sup =>
          have hSup :
              (sup.handle env now cut w.disk).1.view
                (w.log child) child = some v' := by
            simpa [ParentAct.perform, Parent.handle,
              Parent.view, hLive, Parent.log] using hView
          rcases Supervisor.handle_view codec hReady.readable
              hSup with
            ⟨v, hOld, hMove⟩
          right
          refine ⟨v, ?_, hMove.mono ?_⟩
          · simpa [Parent.view, hLive] using hOld
          · rintro seq (hRecords | hOld)
            · left
              simpa [ParentAct.perform, Parent.handle, hLive]
                using hRecords
            · right
              exact ⟨sup, hLive, hOld⟩
  | finish quarantine =>
      cases hLive : w.live with
      | none =>
          simp [ParentAct.perform, Parent.finish, Parent.view,
            hLive] at hView
      | some sup =>
          right
          simp only [Parent.view, hLive, Option.bind_some]
          apply Supervisor.finish_view
          simpa [ParentAct.perform, Parent.finish, Parent.view,
            hLive, Parent.log] using hView
  | save =>
      right
      refine ⟨v', ?_, .kept⟩
      simp only [ParentAct.perform, Parent.save] at hView
      split at hView
      · exact hView
      · split at hView <;> exact hView

/- A report of a child that this act consumes. -/
structure Consumes
    (w : Parent) (sup sup' : Supervisor) (d' : Disk)
    (child : RunId) (v : ChildView) (ev : Event)
    (rest : List Event) : Prop where
  view : w.view child = some v
  batch : v.batch = ev :: rest
  report : ev.kind = .nodeReport
  new : sup.state.alreadyProcessed child ev.seq = false
  records : d'.Records child ev.seq
  state : sup'.state.cursor =
    (sup.state.consume child ev.seq).cursor
  consumed : sup'.consumed = (child, ev.seq) :: sup.consumed

/- What any act does to the cursors of the supervisor. -/
theorem live_cases
    {codec : TailCodec} {env : RunEnv} {w : Parent}
    {act : ParentAct} {sup' : Supervisor}
    (hReady : w.Ready env)
    (hLive : (act.perform codec env w).live = some sup') :
    sup' = .start w.saved ∨
      ∃ sup, w.live = some sup ∧
        (sup'.state.cursor = sup.state.cursor ∧
            sup'.consumed = sup.consumed ∨
          ∃ child v ev rest,
            Consumes w sup sup'
              (act.perform codec env w).disk child v ev
              rest) := by
  cases act with
  | boot =>
      cases hLive
      exact .inl rfl
  | exit => cases hLive
  | follow child parentNodeId =>
      simp only [ParentAct.perform, Option.map_eq_some_iff]
        at hLive
      rcases hLive with ⟨sup, hLive, rfl⟩
      refine .inr ⟨sup, hLive, .inl ?_⟩
      unfold Supervisor.follow
      split <;> exact ⟨rfl, rfl⟩
  | poll child =>
      simp only [ParentAct.perform, Option.map_eq_some_iff]
        at hLive
      rcases hLive with ⟨sup, hLive, rfl⟩
      refine .inr ⟨sup, hLive, .inl ?_⟩
      unfold Supervisor.poll
      split
      · split <;> exact ⟨rfl, rfl⟩
      · exact ⟨rfl, rfl⟩
  | handle now cut =>
      cases hSome : w.live with
      | none =>
          simp [ParentAct.perform, Parent.handle, hSome] at hLive
      | some sup =>
        have hWorld :
            (ParentAct.handle now cut).perform codec env w =
              { w with
                live := some (sup.handle env now cut w.disk).1
                disk := (sup.handle env now cut w.disk).2 } := by
          simp [ParentAct.perform, Parent.handle, hSome]
        rw [hWorld] at hLive ⊢
        cases hLive
        refine .inr ⟨sup, rfl, ?_⟩
        rcases Supervisor.handle_cases sup env now cut w.disk
          with hSame | ⟨child, ev, rest, tracking, hWorking,
            hTail, hRun⟩
        · rw [hSame]
          exact .inl ⟨rfl, rfl⟩
        · have hHandled :=
            Supervisor.handleEvent_handled sup now cut child
              tracking ev rest hReady.readable
          rw [hRun]
          generalize sup.handleEvent env now cut child tracking
            ev rest w.disk = handled at hHandled ⊢
          rcases handled with ⟨sup', d'⟩
          cases hHandled with
          | consumed _ hReport hNew hRecords =>
              have hView : w.view child = some
                  ⟨w.log child, tracking.tail,
                    tracking.terminal, ev :: rest⟩ := by
                simp only [Parent.view, hSome,
                  Option.bind_some]
                rw [Supervisor.view_eq_some,
                  Supervisor.batchOf_working hWorking]
                exact ⟨tracking, hTail, rfl⟩
              right
              exact ⟨child, _, ev, rest, hView, rfl, hReport,
                hNew, hRecords, rfl, rfl⟩
          | _ => exact .inl ⟨rfl, rfl⟩
  | finish quarantine =>
      simp only [ParentAct.perform, Parent.finish] at hLive
      split at hLive
      next hNone =>
        rw [hNone] at hLive
        cases hLive
      next sup hSome =>
        cases hLive
        refine .inr ⟨sup, hSome, .inl ?_⟩
        unfold Supervisor.finish
        split
        · dsimp only
          split
          · exact ⟨rfl, rfl⟩
          · split
            · split <;> exact ⟨rfl, rfl⟩
            · exact ⟨rfl, rfl⟩
        · exact ⟨rfl, rfl⟩
  | save =>
      have hSame : (ParentAct.save.perform codec env w).live =
          w.live := by
        simp only [ParentAct.perform, Parent.save]
        split
        · rfl
        · split <;> rfl
      rw [hSame] at hLive
      exact .inr ⟨sup', hLive, .inl ⟨rfl, rfl⟩⟩
  | _ => exact .inr ⟨sup', hLive, .inl ⟨rfl, rfl⟩⟩

theorem saved_cases
    {codec : TailCodec} {env : RunEnv} {w : Parent}
    (act : ParentAct) :
    (act.perform codec env w).saved = w.saved ∨
      ∃ sup, w.live = some sup ∧
        (act.perform codec env w).saved = sup.state := by
  cases act with
  | handle now cut =>
      left
      simp only [ParentAct.perform, Parent.handle]
      split <;> rfl
  | finish quarantine =>
      left
      simp only [ParentAct.perform, Parent.finish]
      split <;> rfl
  | save =>
      simp only [ParentAct.perform, Parent.save]
      split
      · exact .inl rfl
      next sup hSome =>
        split
        · exact .inl rfl
        · exact .inr ⟨sup, hSome, rfl⟩
  | _ => exact .inl rfl

------------------------------------------------------------
-- How Far a Child's Log Is Handled
------------------------------------------------------------

def ChildView.events (codec : TailCodec) (v : ChildView) :
    List Event :=
  eventsOf codec.toLineCodec (lines v.log)

/-
  The supervisor has handled the events of a child up to the
  number `seen`, and the batch holds those up to the cursor
  of the tail.
-/
structure Tracks
    (codec : TailCodec)
    (v : ChildView)
    (seen : Nat) : Prop where
  ascending : Ascending (v.events codec)
  placed :
    ∃ before after, lines v.log = before ++ after ∧
      Placed codec.toLineCodec v.tail before after
  handled : seen ≤ v.tail.lastSeq
  reached : v.tail.lastSeq ≤ lastSeqOf (v.events codec)
  batch :
    v.batch = (v.events codec).filter
      (fun ev => seen < ev.seq ∧ ev.seq ≤ v.tail.lastSeq)

/- No event lies between what is handled and the next one. -/
def NextUp (events : List Event) (seen : Nat) (ev : Event) :
    Prop :=
  ev ∈ events ∧ seen < ev.seq ∧
    ∀ e ∈ events, e.seq ≤ ev.seq → e.seq ≤ seen ∨ e = ev

/- What the moves of a child come to for the handled part. -/
inductive Progress
    (codec : TailCodec)
    (Done : Nat → Prop)
    (v v' : ChildView)
    (seen seen' : Nat) : Prop where
| idle
    (hEvents : v'.events codec = v.events codec)
    (hTerminal : v'.terminal = v.terminal)
    (hSeen : seen' = seen)
| grew
    (ev : Event)
    (hEvents : v'.events codec = v.events codec ++ [ev])
    (hNumbered : ev.seq = lastSeqOf (v.events codec) + 1)
    (hTerminal : v'.terminal = v.terminal)
    (hSeen : seen' = seen)
| passed
    (ev : Event)
    (hEvents : v'.events codec = v.events codec)
    (hNext : NextUp (v.events codec) seen ev)
    (hTerminal :
      v'.terminal =
        (v.terminal || ev.kind = .nodeReport || ev.endsRun))
    (hDone : ev.kind = .nodeReport → Done ev.seq)
    (hSeen : seen' = ev.seq)
| rewound
    (ev : Event)
    (hEvents : v'.events codec = v.events codec)
    (hNext : NextUp (v.events codec) seen ev)
    (hReport : ev.kind = .nodeReport)
    (hTerminal : v'.terminal = false)
    (hSeen : seen' = ev.seq - 1)

section Batches

variable {events rest : List Event} {ev : Event}
variable {seen last : Nat}

theorem Ascending.concat
    (hAscending : Ascending events)
    (hSeq : ev.seq = lastSeqOf events + 1) :
    Ascending (events ++ [ev]) := by
  apply List.pairwise_append.mpr
  refine ⟨hAscending, List.pairwise_singleton _ _, ?_⟩
  intro e hMem last hLast
  have hLe := seq_le_lastSeqOf hAscending hMem
  rw [List.mem_singleton.mp hLast]
  omega

theorem Ascending.nextUp
    (hAscending : Ascending events)
    (hBatch :
      events.filter
          (fun ev => seen < ev.seq ∧ ev.seq ≤ last) =
        ev :: rest) :
    NextUp events seen ev ∧ ev.seq ≤ last := by
  have hHead :
      ev ∈ events.filter
        (fun ev => seen < ev.seq ∧ ev.seq ≤ last) := by
    rw [hBatch]
    exact List.mem_cons_self
  have hOrder := hAscending.filter
    (fun ev => seen < ev.seq ∧ ev.seq ≤ last)
  rw [hBatch] at hOrder
  have hFirst := (List.pairwise_cons.mp hOrder).1
  simp only [List.mem_filter, decide_eq_true_eq] at hHead
  refine ⟨⟨hHead.1, hHead.2.1, ?_⟩, hHead.2.2⟩
  intro e hMem hLe
  by_cases hOld : e.seq ≤ seen
  · exact .inl hOld
  · right
    have hIn : e ∈ ev :: rest := by
      rw [← hBatch]
      simp only [List.mem_filter, decide_eq_true_eq]
      exact ⟨hMem, by omega, by omega⟩
    rcases List.mem_cons.mp hIn with hEq | hRest
    · exact hEq
    · have hAfter := hFirst e hRest
      omega

theorem Ascending.filter_tail
    (hAscending : Ascending events)
    (hBatch :
      events.filter
          (fun ev => seen < ev.seq ∧ ev.seq ≤ last) =
        ev :: rest) :
    rest = events.filter
      (fun e => ev.seq < e.seq ∧ e.seq ≤ last) := by
  have hHead := (hAscending.nextUp hBatch).1
  have hOrder := hAscending.filter
    (fun ev => seen < ev.seq ∧ ev.seq ≤ last)
  rw [hBatch] at hOrder
  have hFirst := (List.pairwise_cons.mp hOrder).1
  have hAfter :
      rest = (ev :: rest).filter (fun e => ev.seq < e.seq) := by
    rw [List.filter_cons_of_neg (by simp)]
    symm
    apply List.filter_eq_self.mpr
    intro e hMem
    simpa using hFirst e hMem
  rw [hAfter, ← hBatch, List.filter_filter]
  apply List.filter_congr
  intro e _
  have hNew := hHead.2.1
  simp only [← Bool.decide_and, decide_eq_decide]
  omega

theorem filter_between (events : List Event) (n : Nat) :
    events.filter (fun ev => n < ev.seq ∧ ev.seq ≤ n) = [] := by
  apply List.filter_eq_nil_iff.mpr
  intro e _
  simp

end Batches

section Moves

variable {codec : TailCodec} {Done : Nat → Prop}
variable {v v' : ChildView} {seen : Nat}

/- Between two polls, one of which found nothing. -/
theorem Tracks.unpolled
    (hTracks : Tracks codec v seen)
    (hIdle : v.batch = []) :
    Tracks codec { v with batch := [] } seen := by
  have hSame : { v with batch := [] } = v := by
    rw [← hIdle]
  rwa [hSame]

theorem Tracks.scanned
    {raw : Bytes}
    (hTracks : Tracks codec v seen)
    (hIdle : v.batch = [])
    (hLog : v.log = raw)
    (hFree : v.tail.corrupt = none) :
    Tracks codec
      { v with
        tail := (v.tail.poll codec (some raw)).2
        batch := (v.tail.poll codec (some raw)).1 } seen := by
  subst hLog
  rcases hTracks.placed with ⟨before, after, hLines, hPlaced⟩
  rcases EventTail.poll_placed codec hLines
      hTracks.ascending hPlaced hFree with
    ⟨passed, left, rfl, hScanned⟩
  have hEvents :
      v.events codec =
        eventsOf codec.toLineCodec
          (before ++ (passed ++ left)) := by
    rw [ChildView.events, hLines]
  have hAscending := hTracks.ascending
  have hDelivered :=
    delivered_scanned hTracks.handled
      (hEvents ▸ hAscending) hPlaced.old hScanned
  constructor
  · exact hAscending
  · refine ⟨before ++ passed, left, ?_, ?_⟩
    · rw [hLines, List.append_assoc]
    · exact hPlaced.scanned hFree hScanned
  · exact hTracks.handled.trans hScanned.grew
  · rcases hScanned.reached with hStill | ⟨ev, hMem, hReached⟩
    · rw [hStill]
      exact hTracks.reached
    · rw [← hReached]
      apply seq_le_lastSeqOf hAscending
      simp [hEvents, hMem]
  · have hBatch := hTracks.batch
    rw [hIdle, hEvents] at hBatch
    have hNew := hDelivered
    rw [← hBatch, List.nil_append] at hNew
    rw [← hNew]
    change _ = (v.events codec).filter _
    rw [hEvents]

theorem Tracks.polled
    (hTracks : Tracks codec v seen)
    (hIdle : v.batch = [])
    (read : Option Bytes)
    (hRead : read.getD [] = v.log) :
    Tracks codec
      { v with
        tail := (v.tail.poll codec read).2
        batch := (v.tail.poll codec read).1 } seen := by
  cases read with
  | none => exact hTracks.unpolled hIdle
  | some raw =>
      by_cases hParked : v.tail.corrupt.isSome = true
      · have hLong : ¬ raw.length < v.tail.pos := by
          rcases hTracks.placed with
            ⟨before, after, hLines, hPlaced⟩
          have hLe := join_length_le hLines
          have hPos := hPlaced.pos
          simp only [Option.getD_some] at hRead
          rw [hRead]
          omega
        rw [EventTail.poll_parked codec hLong hParked]
        exact hTracks.unpolled hIdle
      · exact hTracks.scanned hIdle hRead.symm
          (by simpa using hParked)

/- A new line is past all that the tail has read. -/
theorem Tracks.grew
    {body log : Bytes}
    (hTracks : Tracks codec v seen)
    (hLines : lines log = lines v.log ++ [body])
    (hNumbered : ∀ ev ∈ lineEvent? codec.toLineCodec body,
      ev.seq = lastSeqOf (v.events codec) + 1) :
    Tracks codec { v with log := log } seen ∧
      Progress codec Done v { v with log := log } seen seen := by
  rcases hTracks.placed with ⟨before, after, hSplit, hPlaced⟩
  have hReplaced :
      ∃ before after, lines log = before ++ after ∧
        Placed codec.toLineCodec v.tail before after := by
    refine ⟨before, after ++ [body], ?_, hPlaced.pos,
      hPlaced.old, ?_⟩
    · rw [hLines, hSplit, List.append_assoc]
    · rcases hPlaced.parked with hFree | ⟨c, line, rest, hSome,
        rfl, hCorrupt, hLen⟩
      · exact .inl hFree
      · right
        exact ⟨c, line, rest ++ [body], hSome, rfl, hCorrupt,
          hLen⟩
  have hReached := hTracks.reached
  cases hLine : lineEvent? codec.toLineCodec body with
  | none =>
      have hEvents :
          ({ v with log := log } : ChildView).events codec =
            v.events codec := by
        simp [ChildView.events, hLines, eventsOf_cons, hLine]
      refine ⟨?_, .idle hEvents rfl rfl⟩
      constructor
      · rw [hEvents]
        exact hTracks.ascending
      · exact hReplaced
      · exact hTracks.handled
      · rw [hEvents]
        exact hReached
      · rw [hEvents]
        exact hTracks.batch
  | some ev =>
      have hSeq := hNumbered ev hLine
      have hEvents :
          ({ v with log := log } : ChildView).events codec =
            v.events codec ++ [ev] := by
        simp [ChildView.events, hLines, eventsOf_cons, hLine]
      refine ⟨?_, .grew ev hEvents hSeq rfl rfl⟩
      constructor
      · rw [hEvents]
        exact hTracks.ascending.concat hSeq
      · exact hReplaced
      · exact hTracks.handled
      · rw [hEvents, lastSeqOf_concat]
        dsimp only
        omega
      · have hLate : ¬ ev.seq ≤ v.tail.lastSeq := by omega
        rw [hEvents, List.filter_append, ← hTracks.batch]
        simp [hLate]

theorem Tracks.relined
    {v' : ChildView}
    (hTracks : Tracks codec v seen)
    (hIdle : v.batch = [])
    (hEvents : v'.events codec = v.events codec)
    (hPlaced :
      ∃ before after, lines v'.log = before ++ after ∧
        Placed codec.toLineCodec v'.tail before after)
    (hSeq : v'.tail.lastSeq = v.tail.lastSeq)
    (hBatch : v'.batch = []) :
    Tracks codec v' seen := by
  constructor
  · rw [hEvents]
    exact hTracks.ascending
  · exact hPlaced
  · rw [hSeq]
    exact hTracks.handled
  · rw [hEvents, hSeq]
    exact hTracks.reached
  · rw [hBatch, hEvents, hSeq, ← hTracks.batch, hIdle]

theorem Tracks.handle
    {ev : Event} {rest : List Event}
    (terminal : Bool)
    (hTracks : Tracks codec v seen)
    (hBatch : v.batch = ev :: rest) :
    Tracks codec
        { v with terminal := terminal, batch := rest } ev.seq ∧
      NextUp (v.events codec) seen ev := by
  have hFilter := hTracks.batch.symm.trans hBatch
  have hNext := hTracks.ascending.nextUp hFilter
  refine ⟨?_, hNext.1⟩
  constructor
  · exact hTracks.ascending
  · exact hTracks.placed
  · exact hNext.2
  · exact hTracks.reached
  · exact hTracks.ascending.filter_tail hFilter

theorem Tracks.fail
    {ev : Event} {rest : List Event}
    (hTracks : Tracks codec v seen)
    (hBatch : v.batch = ev :: rest) :
    Tracks codec
        { v with
          tail := .new (ev.seq - 1)
          terminal := false
          batch := [] } (ev.seq - 1) ∧
      NextUp (v.events codec) seen ev := by
  have hFilter := hTracks.batch.symm.trans hBatch
  have hNext := hTracks.ascending.nextUp hFilter
  refine ⟨?_, hNext.1⟩
  constructor
  · exact hTracks.ascending
  · exact ⟨[], _, rfl, placed_start _ _ _ rfl rfl⟩
  · exact le_refl _
  · have hLe :=
      seq_le_lastSeqOf hTracks.ascending hNext.1.1
    change ev.seq - 1 ≤ lastSeqOf (v.events codec)
    omega
  · exact (filter_between _ _).symm

/- A move of a followed child, and how far it is handled. -/
theorem ChildMove.progress
    (hMove : ChildMove codec Done v v')
    (hTracks : Tracks codec v seen) :
    ∃ seen', Tracks codec v' seen' ∧
      Progress codec Done v v' seen seen' := by
  cases hMove with
  | kept => exact ⟨seen, hTracks, .idle rfl rfl rfl⟩
  | grew body log hLines hNumbered =>
      exact ⟨seen, hTracks.grew hLines hNumbered⟩
  | tore log hLines =>
      have hEvents :
          ({ v with log := log } : ChildView).events codec =
            v.events codec := by
        simp only [ChildView.events, hLines]
      refine ⟨seen, ?_, .idle hEvents rfl rfl⟩
      rcases hTracks.placed with
        ⟨before, after, hSplit, hPlaced⟩
      exact ⟨hEvents ▸ hTracks.ascending,
        ⟨before, after, hLines.trans hSplit, hPlaced⟩,
        hTracks.handled, hEvents ▸ hTracks.reached,
        hEvents ▸ hTracks.batch⟩
  | polled read hRead hLive hIdle =>
      exact ⟨seen, hTracks.polled hIdle read hRead,
        .idle rfl rfl rfl⟩
  | handled ev rest terminal hBatch hDecided hDone =>
      rcases hTracks.handle terminal hBatch with
        ⟨hNow, hNext⟩
      exact ⟨ev.seq, hNow,
        .passed ev rfl hNext hDecided hDone rfl⟩
  | failed ev rest hBatch hReport =>
      rcases hTracks.fail hBatch with ⟨hNow, hNext⟩
      exact ⟨ev.seq - 1, hNow,
        .rewound ev rfl hNext hReport rfl rfl⟩
  | skipped hIdle =>
      rcases hTracks.placed with
        ⟨before, after, hSplit, hPlaced⟩
      rcases hPlaced.taken with
        ⟨taken, left, rfl, hNow, -, -⟩
      refine ⟨seen, ?_, .idle rfl rfl rfl⟩
      have hReplaced :
          ∃ before after, lines v.log = before ++ after ∧
            Placed codec.toLineCodec
              (v.tail.takeNewCorrupt codec).2 before after :=
        ⟨before ++ taken, left,
          by rw [hSplit, List.append_assoc], hNow⟩
      exact hTracks.relined hIdle rfl hReplaced
        (EventTail.takeNewCorrupt_lastSeq codec v.tail) hIdle
  | healed hIdle =>
      have hEvents :
          ({ v with
            log := recovered codec.toLineCodec v.log
            tail := (v.tail.takeNewCorrupt codec).2.restart } :
              ChildView).events codec = v.events codec := by
        simp [ChildView.events, eventsOf_filter]
      refine ⟨seen, ?_, .idle hEvents rfl rfl⟩
      apply hTracks.relined hIdle hEvents
      · exact ⟨[], _, rfl, placed_start _ _ _ rfl rfl⟩
      · exact EventTail.takeNewCorrupt_lastSeq codec v.tail
      · exact hIdle

/- A tail opened at a cursor has handled all up to it. -/
theorem tracks_opened
    {log : Bytes} {cursor : Nat} {terminal : Bool}
    (hAscending :
      Ascending (eventsOf codec.toLineCodec (lines log)))
    (hReached :
      cursor ≤
        lastSeqOf (eventsOf codec.toLineCodec (lines log))) :
    Tracks codec ⟨log, .new cursor, terminal, []⟩ cursor := by
  constructor
  · exact hAscending
  · exact ⟨[], _, rfl, placed_start _ _ _ rfl rfl⟩
  · exact le_refl _
  · exact hReached
  · exact (filter_between _ _).symm

end Moves

end Taskfleet
