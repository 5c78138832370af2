import Taskfleet.ChildReports

/-
  A finished child and the supervisor of its parent.

  The supervisor is done with a child once it has handled a
  report of it or the end of its run. It forgets this when it
  ends, and a new one begins past the last report consumed:
  whether it learns of the end again is a matter of what the
  log holds past that report.

  Main declarations:
    * `Event.decides`, `Finishes`, `Reopens`
    * `Hopeful`, `Fostered.hopeful`
-/

------------------------------------------------------------
-- Children Done With
------------------------------------------------------------

namespace Taskfleet

open Physical

/- An event after which the supervisor is done with a child. -/
def Event.decides (ev : Event) : Bool :=
  ev.kind = .nodeReport || ev.endsRun

/-
  A child whose run has ended, and whose log is read to its
  end and handled, is one that the supervisor is done with.
-/
def Finishes
    (codec : TailCodec) (w : Parent) (child : RunId) : Prop :=
  ∀ sup tracking, w.live = some sup →
    sup.childTails.lookup child = some tracking →
    sup.batchOf child = [] →
    (∀ ev ∈ w.events codec child,
      ev.seq ≤ tracking.tail.lastSeq) →
    (∃ ev ∈ w.events codec child, ev.endsRun = true) →
    tracking.terminal = true

/-
  A tail is opened on a child whose run has ended only where
  the log has a report or an end of the run past the cursor.
-/
def Reopens (codec : TailCodec) (w : Parent) :
    ParentAct → Prop
| .follow child _ =>
    ∀ sup ∈ w.live,
      (sup.childTails.lookup child).isNone = true →
      (∃ ev ∈ w.events codec child, ev.endsRun = true) →
      ∃ ev ∈ w.events codec child, ev.decides = true ∧
        (sup.state.cursor child).getD 0 < ev.seq
| _ => True

instance
    (codec : TailCodec)
    (w : Parent)
    (act : ParentAct) : Decidable (Reopens codec w act) :=
  match act with
  | .follow _ _ =>
      inferInstanceAs (Decidable (∀ sup ∈ w.live, _ → _ → _))
  | .append _ _ | .tear _ _ | .other _ _ | .boot | .exit
  | .poll _ | .handle _ _ | .finish _ | .save =>
      inferInstanceAs (Decidable True)

/-
  The supervisor is done with a child, or has yet to handle
  an event that decides it, or the run has not ended.
-/
def Hopeful
    (codec : TailCodec) (v : ChildView) (seen : Nat) : Prop :=
  v.terminal = true ∨
    (∃ ev ∈ v.events codec,
      ev.decides = true ∧ seen < ev.seq) ∨
    ∀ ev ∈ v.events codec, ev.endsRun = false

section Steps

variable {codec : TailCodec} {env : RunEnv} {w : Parent}
variable {act : ParentAct} {child : RunId}
variable {v v' : ChildView} {seen seen' : Nat}
variable {Done : Nat → Prop}

theorem decides_of_endsRun
    {ev : Event}
    (hEnds : ev.endsRun = true) :
    ev.decides = true := by
  simp [Event.decides, hEnds]

theorem Progress.hopeful
    (hProgress : Progress codec Done v v' seen seen')
    (hTracks : Tracks codec v seen)
    (hHopeful : Hopeful codec v seen) :
    Hopeful codec v' seen' := by
  cases hProgress with
  | idle hEvents hTerminal hSeen =>
      unfold Hopeful
      rwa [hEvents, hTerminal, hSeen]
  | grew ev hEvents hNumbered hTerminal hSeen =>
      unfold Hopeful
      rw [hEvents, hTerminal, hSeen]
      rcases hHopeful with hDone | ⟨e, hMem, hAhead⟩ | hOpen
      · exact .inl hDone
      · right
        left
        exact ⟨e, List.mem_append_left _ hMem, hAhead⟩
      · right
        cases hEnds : ev.endsRun with
        | true =>
            left
            have hHandled := hTracks.handled
            have hReached := hTracks.reached
            exact ⟨ev, by simp, decides_of_endsRun hEnds,
              by omega⟩
        | false =>
            right
            intro e hMem
            rw [List.mem_append, List.mem_singleton] at hMem
            rcases hMem with hOld | rfl
            · exact hOpen e hOld
            · exact hEnds
  | passed ev hEvents hNext hTerminal _ hSeen =>
      unfold Hopeful
      rw [hEvents, hTerminal, hSeen]
      cases hDecides : ev.decides with
      | true =>
          left
          simpa [Event.decides, Bool.or_assoc] using
            Or.inr hDecides
      | false =>
          -- The event that decides is still to come.
          rcases hHopeful with
            hDone | ⟨e, hMem, hLater, hAhead⟩ | hOpen
          · left
            simp [hDone]
          · right
            left
            refine ⟨e, hMem, hLater, ?_⟩
            by_contra hBehind
            rcases hNext.2.2 e hMem (by omega) with
              hOld | rfl
            · omega
            · rw [hDecides] at hLater
              cases hLater
          · exact .inr (.inr hOpen)
  | rewound ev hEvents hNext hReport hTerminal hSeen =>
      unfold Hopeful
      rw [hEvents, hSeen]
      right
      left
      have hNew := hNext.2.1
      exact ⟨ev, hNext.1, by simp [Event.decides, hReport],
        by omega⟩

/- A followed child stays hopeful if tails are opened well. -/
theorem hopeful_perform
    (hFosters : Fosters codec env w)
    (hEnabled : act.Enabled codec env w)
    (hReopens : Reopens codec w act)
    (hHopeful : ∀ v, w.view child = some v →
      ∃ seen, Tracks codec v seen ∧ Hopeful codec v seen)
    (hView :
      (act.perform codec env w).view child = some v') :
    ∃ seen, Tracks codec v' seen ∧ Hopeful codec v' seen := by
  rcases view_cases hFosters.ready hEnabled hView with
    ⟨sup, parentNodeId, hLive, rfl, hFresh, rfl⟩ |
      ⟨v, hOld, hMove⟩
  · have hCursor :
        (sup.state.cursor child).getD 0 ≤
          lastSeqOf (w.events codec child) := by
      cases hSome : sup.state.cursor child with
      | none => exact Nat.zero_le _
      | some n =>
          exact (hFosters.live sup hLive child n hSome).1
    refine ⟨_, tracks_opened (hFosters.ascending child) hCursor,
      .inr ?_⟩
    by_cases hEnded :
        ∃ ev ∈ w.events codec child, ev.endsRun = true
    · left
      exact hReopens sup hLive (by simp [hFresh]) hEnded
    · right
      intro ev hMem
      by_contra hEnds
      exact hEnded ⟨ev, hMem, by simpa using hEnds⟩
  · rcases hHopeful v hOld with ⟨seen, hTracks, hHere⟩
    rcases hMove.progress hTracks with
      ⟨seen', hTracks', hProgress⟩
    exact ⟨seen', hTracks', hProgress.hopeful hTracks hHere⟩

end Steps

theorem Fostered.hopeful
    {codec : TailCodec} {env : RunEnv} {w : Parent}
    (hRun : Fostered codec env (Reopens codec) .start w)
    (child : RunId)
    (v : ChildView)
    (hView : w.view child = some v) :
    ∃ seen, Tracks codec v seen ∧ Hopeful codec v seen := by
  induction hRun generalizing v with
  | start => cases hView
  | next act hRun hEnabled hReopens ih =>
      exact hopeful_perform hRun.fosters hEnabled hReopens ih
        hView

------------------------------------------------------------
-- Finished Children
------------------------------------------------------------

theorem foldl_and
    {α : Type} (f : α → Bool) (xs : List α) (b : Bool) :
    xs.foldl (fun acc x => acc && f x) b = (b && xs.all f) := by
  induction xs generalizing b with
  | nil => simp
  | cons x rest ih => simp [ih, Bool.and_assoc]

theorem childTails_all
    (f : RunId → ChildTracking → Bool)
    (tails : Finmap (fun _ : RunId => ChildTracking)) :
    tails.all f = true ↔
      ∀ child tracking,
        tails.lookup child = some tracking →
          f child tracking = true := by
  induction tails using Finmap.induction_on with
  | H tails =>
      have hFold : Finmap.all f tails.toFinmap =
          tails.entries.all (fun e => f e.1 e.2) := by
        change tails.entries.foldl
          (fun acc e => acc && f e.1 e.2) true = _
        rw [foldl_and, Bool.true_and]
      rw [hFold, List.all_eq_true]
      constructor
      · intro hAll child tracking hLookup
        rw [Finmap.lookup_toFinmap, ← Option.mem_def,
          AList.mem_lookup_iff] at hLookup
        exact hAll _ hLookup
      · intro hAll e hMem
        apply hAll
        rw [Finmap.lookup_toFinmap, ← Option.mem_def,
          AList.mem_lookup_iff]
        exact hMem

section Finished

variable {codec : TailCodec} {env : RunEnv} {w : Parent}

/- With nothing decisive left to handle, hope is fulfilled. -/
theorem finishes_of_hopeful
    {child : RunId}
    (hHopeful : ∀ v, w.view child = some v →
      ∃ seen, Tracks codec v seen ∧ Hopeful codec v seen) :
    Finishes codec w child := by
  intro sup tracking hLive hTail hIdle hEnd hEnded
  have hView : w.view child = some
      ⟨w.log child, tracking.tail, tracking.terminal, []⟩ := by
    simp only [Parent.view, hLive, Option.bind_some]
    rw [Supervisor.view_eq_some, hIdle]
    exact ⟨tracking, hTail, rfl⟩
  rcases hHopeful _ hView with ⟨seen, hTracks, hHere⟩
  rcases hHere with hDone | ⟨ev, hMem, -, hAhead⟩ | hOpen
  · exact hDone
  · have hRead := hEnd ev (view_events codec hView ▸ hMem)
    have hIn : ev ∈ ([] : List Event) := by
      have hBatch := hTracks.batch
      dsimp only at hBatch
      rw [hBatch, List.mem_filter]
      exact ⟨hMem, by simpa using ⟨hAhead, hRead⟩⟩
    cases hIn
  · rcases hEnded with ⟨ev, hMem, hEnds⟩
    rw [hOpen ev (view_events codec hView ▸ hMem)] at hEnds
    cases hEnds

end Finished

/-
  Where every tail is opened well, a finished child never
  holds its parent up.
-/
theorem finishedChild_done
    (codec : TailCodec)
    (env : RunEnv)
    (w : Parent)
    (hRun : Fostered codec env (Reopens codec) .start w) :
    (∀ child, Finishes codec w child) ∧
      ∀ sup m, w.live = some sup →
        readManifestOpt env w.disk = .ok (some m) →
        m.status.isTerminal = true →
        (∀ child tracking,
          sup.childTails.lookup child = some tracking →
          sup.batchOf child = [] ∧
            (∀ ev ∈ w.events codec child,
              ev.seq ≤ tracking.tail.lastSeq) ∧
            ∃ ev ∈ w.events codec child, ev.endsRun = true) →
        allWorkDone env w.disk sup.childTails = true := by
  have hFinishes : ∀ child, Finishes codec w child :=
    fun child => finishes_of_hopeful (hRun.hopeful child)
  refine ⟨hFinishes, ?_⟩
  intro sup m hLive hRead hClosed hChildren
  simp only [allWorkDone, hRead, hClosed, Bool.true_and]
  rw [childTails_all]
  intro child tracking hTail
  rcases hChildren child tracking hTail with
    ⟨hIdle, hEnd, hEnded⟩
  exact hFinishes child sup tracking hLive hTail hIdle hEnd
    hEnded

namespace Sample

/-
  The supervisor handles both reports, saves its cursor and
  ends. The next one begins past the late report.
-/
def late : List ParentAct :=
  reported ++
    [.append child endedLine, .append child (reportLine "5")] ++
    consuming ++
    [.handle 0 none, .handle 0 none, .finish false, .save,
      .exit, .boot, .follow child .first, .poll child,
      .finish false]

def waiting : Parent :=
  Parent.run childCodec parentEnv .start late

/- The log of the child is read, and the child not done with. -/
theorem waiting_open :
    Parent.AllEnabled childCodec parentEnv (fun _ _ => True)
        .start late ∧
      (waiting.events childCodec child).any Event.endsRun =
        true ∧
      waiting.live.any (fun sup =>
        sup.batchOf child = [] &&
          (sup.childTails.lookup child).any (fun tracking =>
            (waiting.events childCodec child).all (fun ev =>
                ev.seq ≤ tracking.tail.lastSeq) &&
              !tracking.terminal)) = true := by
  decide +kernel

end Sample

/- A child that ends after its report is done with. -/
theorem finishedChild_done_ended :
    Finishes Sample.childCodec
      (Parent.run Sample.childCodec Sample.parentEnv .start
        (Sample.reported ++
          [.append Sample.child Sample.endedLine] ++
          Sample.consuming ++ [.handle 0 none]))
      Sample.child := by
  refine (finishedChild_done _ Sample.parentEnv _ ?_).1 _
  apply Parent.fostered_run .start
  decide +kernel

/-
  A restart past a report that came after the end of the run
  leaves the parent waiting.
-/
theorem finishedChild_notDone :
    ¬ ∀ codec env w,
      Fostered codec env (fun _ _ => True) .start w →
        ∀ child, Finishes codec w child := by
  intro hAll
  rcases Sample.waiting_open with ⟨hEnabled, hEnded, hOpen⟩
  have hRun := Parent.fostered_run .start Sample.late hEnabled
  rw [Option.any_eq_true] at hOpen
  rcases hOpen with ⟨sup, hLive, hSup⟩
  rw [Bool.and_eq_true, Option.any_eq_true] at hSup
  rcases hSup with ⟨hIdle, tracking, hTail, hTracking⟩
  rw [Bool.and_eq_true, List.all_eq_true] at hTracking
  have hDone :=
    hAll Sample.childCodec Sample.parentEnv Sample.waiting hRun
      Sample.child sup tracking hLive hTail (by simpa using hIdle)
      (fun ev hMem => by simpa using hTracking.1 ev hMem)
      (List.any_eq_true.mp hEnded)
  rw [hDone] at hTracking
  simp at hTracking

end Taskfleet
