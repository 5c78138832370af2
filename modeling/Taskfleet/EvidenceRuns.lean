import Taskfleet.EvidenceLog
import Taskfleet.Utf8

/-
  Runs of `archive_before_cleanup` on one node.

  A call may be made with any value that was read of the
  node, and be cut after each of its steps. The evidence it
  relies on is that of a terminal node. The archive is safe
  while no capture reads other bytes than those on record.

  Main declarations:
    * `ArchiveState.Sound`, `ArchiveState.Archived`
    * `ArchiveAct.Sanctioned`, `ArchiveAct.Undisturbed`
    * `evidence_kept`
-/

------------------------------------------------------------
-- Values
------------------------------------------------------------

namespace Taskfleet

open Fallible Evidence

namespace Evidence

/- What a capture that goes through has read. -/
theorem capture_eq_ok
    {T : Tools} {n : Node} {v : CaptureView} {c : Captured}
    (hOk : capture T n v = .ok c) :
    n.lastReport ≠ none ∧
      ∃ e live f, n.evidence = some e ∧
        checkedLivePath T.env e.liveSessionPath = .ok live ∧
        v.opened live = some f ∧ c.transcript = f.bytes := by
  unfold capture at hOk
  simp only [bind_eq_ok, orError_eq_ok] at hOk
  rcases hOk with ⟨e, hSome, live, hLive, before, _, opened,
    hOpened, afterRead, _, _, _, header, _, _, _, report,
    hReport, _, _, pane, _, afterCapture, _, _, _, manifest, _,
    m, _, cwd, _, hDone⟩
  simp only [pure_eq, Except.ok.injEq] at hDone
  refine ⟨by simp [hReport], e, live, ?_⟩
  unfold readNofollow at hOpened
  split at hOpened
  · cases hOpened
  next f hFile =>
    simp only [bind_eq_ok, pure_eq, Except.ok.injEq] at hOpened
    rcases hOpened with ⟨_, _, _, _, _, _, rfl⟩
    exact ⟨f, hSome, hLive, hFile, by rw [← hDone]⟩

section Opening

variable {n : Node} {retry : Option RetryState} {now : Time}
variable {e : WorkerEvidence}

theorem opening_complete
    (hOpening : opening n retry now = .complete e) :
    n.evidence = some e ∧ e.status = .complete := by
  unfold opening at hOpening
  split at hOpening
  · cases hOpening
  next e' hSome =>
    split at hOpening
    next hComplete =>
      cases hOpening
      exact ⟨hSome, hComplete⟩
    · split at hOpening <;> cases hOpening

theorem opening_capture
    (hOpening : opening n retry now = .capture e) :
    n.evidence = some e := by
  unfold opening at hOpening
  split at hOpening
  · cases hOpening
  next e' hSome =>
    split at hOpening
    · cases hOpening
    split at hOpening
    · cases hOpening
    · cases hOpening
      exact hSome

end Opening

/- A value of the node that was read before. -/
structure Seen (id : NodeId) (n : Node) (d : Disk) : Prop where
  nodeId : n.nodeId = id
  held : Held id n d
  reported : n.lastReport ≠ none → n.status.isTerminal = true
  complete : ∀ e, n.evidence = some e → e.status = .complete →
    n.status.isTerminal = true

/- The session of the value is archived on disk. -/
structure Safe
    (id : NodeId) (n : Node) (e : WorkerEvidence) (d : Disk) :
    Prop where
  value : n.evidence = some e
  recorded : ∃ n' e', d.nodes.lookup id = some n' ∧
    n'.evidence = some e' ∧ SameSession e e' ∧
    e'.status = .complete

section Values

variable {T : Tools} {id : NodeId} {copy copy' : Option Bytes}
variable {d d' : Disk} {n : Node} {e : WorkerEvidence}

theorem Filed.seen
    (hFiled : Filed T id copy d)
    (hRead : readNodeOpt T.env d id = .ok (some n)) :
    Seen id n d := by
  rcases readNodeOpt_eq_some.mp hRead with ⟨hLookup, hValid⟩
  exact ⟨hValid.nodeId, ⟨n, hLookup, .refl n⟩,
    hFiled.reported n hLookup, fun e hSome hComplete =>
      (hFiled.complete n e hLookup hSome hComplete).1⟩

theorem Seen.moved
    (hSeen : Seen id n d)
    (hMoved : Moved id d d') : Seen id n d' where
  nodeId := hSeen.nodeId
  held := hSeen.held.moved hMoved
  reported := hSeen.reported
  complete := hSeen.complete

/- What is recorded of a session that is over is about it. -/
theorem Seen.safe
    (hSeen : Seen id n d)
    (hOver : n.status.isTerminal = true)
    (hSome : n.evidence = some e)
    (hRecorded : Recorded id d) : Safe id n e d := by
  rcases hSeen.held with ⟨n', hLookup, hOnward⟩
  rcases hOnward.session hOver e hSome with ⟨e', hNow, hSame⟩
  rcases hRecorded with
    ⟨n₁, e₁, hLookup₁, hSome₁, hComplete⟩
  rw [hLookup, Option.some.injEq] at hLookup₁
  subst hLookup₁
  rw [hNow, Option.some.injEq] at hSome₁
  subst hSome₁
  exact ⟨hSome, n', e', hLookup, hNow, hSame, hComplete⟩

theorem Seen.safe_of_complete
    (hSeen : Seen id n d)
    (hSome : n.evidence = some e)
    (hComplete : e.status = .complete) : Safe id n e d := by
  have hOver := hSeen.complete e hSome hComplete
  rcases hSeen.held with ⟨n', hLookup, hOnward⟩
  exact ⟨hSome, n', e, hLookup,
    hOnward.complete hOver e hSome hComplete, .refl e,
    hComplete⟩

theorem Safe.moved
    (hFiled : Filed T id copy d)
    (hSafe : Safe id n e d)
    (hMoved : Moved id d d') : Safe id n e d' := by
  rcases hSafe.recorded with
    ⟨n₁, e₁, hLookup, hSome, hSame, hComplete⟩
  have hOver := (hFiled.complete n₁ e₁ hLookup hSome hComplete).1
  rcases hMoved n₁ hLookup with ⟨n₂, hLookup₂, hOnward⟩
  exact ⟨hSafe.value, n₂, e₁, hLookup₂,
    hOnward.complete hOver e₁ hSome hComplete, hSame,
    hComplete⟩

/- Another copy, where no fact is about the old one. -/
theorem Filed.recopied
    (hFiled : Filed T id copy d)
    (hCopy : OnRecord id d → copy' = copy) :
    Filed T id copy' d := by
  refine ⟨hFiled.keyed, hFiled.reported, ?_, hFiled.complete⟩
  intro ev hMem hArchives
  rw [hCopy ⟨ev, hMem, hArchives⟩]
  exact hFiled.facts ev hMem hArchives

end Values

end Evidence

/- How far a call is, and what it may rely on there. -/
def ArchivePhase.Sound
    (id : NodeId) (copy : Option Bytes) (d : Disk) :
    ArchivePhase → Prop
| .idle => True
| .capturing n e _ => Seen id n d ∧ n.evidence = some e
| .filing n e c rest =>
    Seen id n d ∧ n.evidence = some e ∧ n.lastReport ≠ none ∧
      (OnRecord id d → copy = some c.transcript) ∧
      (.transcript ∉ rest → copy = some c.transcript)
| .failing n _ _ => Seen id n d
| .removing n e => Safe id n e d
| .removed n => ∃ e, Safe id n e d

namespace ArchiveState

structure Sound
    (T : Tools) (id : NodeId) (S : ArchiveState) : Prop where
  backed : Backed T.env S.disk
  filed : Filed T id (S.archive .transcript) S.disk
  held : ∀ n ∈ S.held, Seen id n S.disk
  phase : S.phase.Sound id (S.archive .transcript) S.disk

/- A run that was just created, before any call. -/
structure Initial (T : Tools) (S : ArchiveState) : Prop where
  booted : Booted T.env S.disk
  held : S.held = []
  phase : S.phase = .idle

/-
  The evidence on disk is complete for the session, with the
  digest of what is archived.
-/
structure Archived
    (T : Tools) (id : NodeId) (S : ArchiveState)
    (e : WorkerEvidence) : Prop where
  recorded : ∃ n e' bytes,
    S.disk.nodes.lookup id = some n ∧
      n.evidence = some e' ∧
      e'.attempt = e.attempt ∧
      e'.sessionId = e.sessionId ∧
      e'.status = .complete ∧
      e'.transcriptPath =
        some (evidencePath id Artifact.transcript.fileName) ∧
      S.archive .transcript = some bytes ∧
      e'.transcriptSha256 = some (T.sha256 bytes)

end ArchiveState

/- The source is removed, or the teardown may go on. -/
def ArchiveAct.Permits : ArchiveAct → Prop
| .removes _ | .returns _ true | .passes true => True
| _ => False

/- What a step permits is permitted for an archived session. -/
def ArchiveAct.Sanctioned
    (T : Tools) (id : NodeId) (S : ArchiveState) :
    ArchiveAct → Prop
| .removes n | .returns n true =>
    ∃ e, n.evidence = some e ∧ S.Archived T id e
| .passes true =>
    ∀ n e, S.disk.nodes.lookup id = some n →
      n.evidence = some e → S.Archived T id e
| _ => True

/-
  A value without a session is used only while no session of
  the node is open, and once an archived fact is in the log a
  capture reads what is archived.
-/
def ArchiveAct.Undisturbed
    (T : Tools) (id : NodeId) :
    ArchiveAct → ArchiveState → Prop
| .passes _, S =>
    ∀ n e, S.disk.nodes.lookup id = some n →
      n.evidence = some e → e.status = .complete
| .captures, S =>
    ∀ n e before opened rest live f,
      S.phase = .capturing n e (before :: opened :: rest) →
      checkedLivePath T.env e.liveSessionPath = .ok live →
      opened live = some f →
      OnRecord id S.disk →
      S.archive .transcript = some f.bytes
| _, _ => True

namespace ArchiveState

section Steps

variable {T : Tools} {id : NodeId} {S S' : ArchiveState}
variable {a : ArchiveAct} {d : Disk} {known : Prop}

theorem Sound.since (hSound : S.Sound T id) :
    FiledSince T id (S.archive .transcript)
      (OnRecord id S.disk) S.disk S.disk :=
  ⟨hSound.backed, hSound.filed, .refl id S.disk,
    fun hOn => hOn⟩

theorem Sound.archived
    {n : Node} {e : WorkerEvidence}
    (hSound : S.Sound T id)
    (hSafe : Safe id n e S.disk) : S.Archived T id e := by
  rcases hSafe.recorded with
    ⟨n', e', hLookup, hSome, hSame, hComplete⟩
  rcases hSound.filed.complete n' e' hLookup hSome hComplete with
    ⟨_, ev, hMem, hArchives, hBy⟩
  rcases hSound.filed.facts ev hMem hArchives with
    ⟨_, _, hRests⟩
  rcases hRests.copied with ⟨bytes, hCopy, hDigest⟩
  rcases hBy.sha256 with ⟨sha, hRead, hSha⟩
  rw [hDigest, Except.ok.injEq] at hRead
  exact ⟨n', e', bytes, hLookup, hSome, hSame.attempt,
    hSame.sessionId, hComplete, hBy.path, hCopy,
    hRead ▸ hSha⟩

/- The phase of a call, once the run has moved on. -/
theorem Sound.phase_moved
    (hSound : S.Sound T id)
    (hSince : FiledSince T id (S.archive .transcript)
      (OnRecord id S.disk) S.disk d) :
    S.phase.Sound id (S.archive .transcript) d := by
  have hPhase := hSound.phase
  have hMoved := hSince.moved
  cases hIs : S.phase with
  | idle => trivial
  | capturing n e looks =>
      rw [hIs] at hPhase
      exact ⟨hPhase.1.moved hMoved, hPhase.2⟩
  | filing n e c rest =>
      rw [hIs] at hPhase
      rcases hPhase with ⟨hSeen, hSome, hReport, hKnown, hDone⟩
      exact ⟨hSeen.moved hMoved, hSome, hReport,
        fun hOn => hKnown (hSince.only hOn), hDone⟩
  | failing n e detail =>
      rw [hIs] at hPhase
      exact Seen.moved hPhase hMoved
  | removing n e =>
      rw [hIs] at hPhase
      exact Safe.moved hSound.filed hPhase hMoved
  | removed n =>
      rw [hIs] at hPhase
      rcases hPhase with ⟨e, hSafe⟩
      exact ⟨e, hSafe.moved hSound.filed hMoved⟩

theorem Sound.held_moved
    (hSound : S.Sound T id)
    (hMoved : Moved id S.disk d) :
    ∀ n ∈ S.held, Seen id n d :=
  fun n hMem => (hSound.held n hMem).moved hMoved

theorem Sound.initial
    (hInitial : S.Initial T) : S.Sound T id := by
  have hCreated := hInitial.booted.created
  have hNone : ∀ n, S.disk.nodes.lookup id ≠ some n := by
    intro n hLookup
    rw [verdict_eq_absent.mp (hCreated.absent id)] at hLookup
    cases hLookup
  have hFact : ∀ ev ∈ S.disk.events,
      ev.kind ≠ .workerEvidenceArchived := by
    intro ev hMem hKind
    rw [hCreated.only hMem] at hKind
    cases hKind
  refine ⟨hInitial.booted.backed, ⟨?_, ?_, ?_, ?_⟩, ?_, ?_⟩
  · exact fun ev hMem hKind => absurd hKind (hFact ev hMem)
  · exact fun n hLookup => absurd hLookup (hNone n)
  · exact fun ev hMem hArchives =>
      absurd hArchives.1 (hFact ev hMem)
  · exact fun n e hLookup => absurd hLookup (hNone n)
  · rw [hInitial.held]
    simp
  · rw [hInitial.phase]
    trivial

/- A step that leaves the archive alone. -/
theorem Sound.onto
    {live : LiveFiles} {retry : Option RetryState}
    {phase : ArchivePhase}
    (hSound : S.Sound T id)
    (hSince : FiledSince T id (S.archive .transcript) known
      S.disk d)
    (hPhase : phase.Sound id (S.archive .transcript) d) :
    Sound T id { S with disk := d, live, retry, phase } where
  backed := hSince.backed
  filed := hSince.filed
  held := hSound.held_moved hSince.moved
  phase := hPhase

/- An artifact is written, again with what is on record. -/
theorem Sound.files
    {n : Node} {e : WorkerEvidence} {c : Captured}
    {artifact : Artifact} {rest : List Artifact}
    (hSound : S.Sound T id)
    (hPhase : S.phase = .filing n e c (artifact :: rest)) :
    Sound T id
      { S with
        archive := archiveWith S.archive c artifact
        phase := .filing n e c rest } := by
  have hFiling := hSound.phase
  rw [hPhase] at hFiling
  rcases hFiling with ⟨hSeen, hSome, hReport, hKnown, hDone⟩
  by_cases hHere : artifact = .transcript
  · subst hHere
    have hCopy : archiveWith S.archive c .transcript .transcript =
        some c.transcript := Function.update_self ..
    refine ⟨hSound.backed, ?_, hSound.held, hSeen, hSome,
      hReport, fun _ => hCopy, fun _ => hCopy⟩
    exact hSound.filed.recopied
      (fun hOn => hCopy.trans (hKnown hOn).symm)
  · have hCopy : archiveWith S.archive c artifact .transcript =
        S.archive .transcript :=
      Function.update_of_ne (Ne.symm hHere) ..
    refine ⟨hSound.backed, ?_, hSound.held, hSeen, hSome,
      hReport, fun hOn => hCopy.trans (hKnown hOn), ?_⟩
    · exact hSound.filed.recopied (fun _ => hCopy)
    · intro hRest
      refine hCopy.trans (hDone ?_)
      rw [List.mem_cons, not_or]
      exact ⟨Ne.symm hHere, hRest⟩

/- The last step of a capture that went through. -/
theorem Sound.captures
    {n : Node} {e : WorkerEvidence} {c : Captured}
    {before opened afterRead afterCapture : LiveFiles}
    {pane : Except String Bytes} {isDir : String → Bool}
    (hMet : ArchiveAct.Undisturbed T id .captures S)
    (hSound : S.Sound T id)
    (hPhase : S.phase =
      .capturing n e [before, opened, afterRead, afterCapture])
    (hOk : capture T n
      ⟨before, opened, afterRead, afterCapture, pane, S.disk,
        isDir⟩ = .ok c) :
    ArchivePhase.Sound id (S.archive .transcript) S.disk
      (.filing n e c Artifact.all) := by
  have hCapturing := hSound.phase
  rw [hPhase] at hCapturing
  rcases hCapturing with ⟨hSeen, hSome⟩
  rcases capture_eq_ok hOk with
    ⟨hReport, e', live, f, hSome', hLive, hFile, hBytes⟩
  rw [hSome, Option.some.injEq] at hSome'
  subst hSome'
  refine ⟨hSeen, hSome, hReport, fun hOn => ?_, fun hNot => ?_⟩
  · rw [hBytes]
    exact hMet n e before opened [afterRead, afterCapture] live
      f hPhase hLive hFile hOn
  · exact absurd (by decide) hNot

theorem Sound.wp_record
    {n : Node} {e : WorkerEvidence} {c : Captured} {now : Time}
    (hSound : S.Sound T id)
    (hPhase : S.phase = .filing n e c []) :
    Durable.wp
      (appendAndApplyEvent T.env (archivedRequest T now n e c))
      (fun _ s =>
        FiledSince T id (S.archive .transcript) True S.disk s ∧
          Safe id n e s)
      (fun _ => FiledSince T id (S.archive .transcript) True
        S.disk)
      (fun _ => FiledSince T id (S.archive .transcript) True
        S.disk) S.disk := by
  have hFiling := hSound.phase
  rw [hPhase] at hFiling
  rcases hFiling with ⟨hSeen, hSome, hReport, _, hDone⟩
  have hOver := hSeen.reported hReport
  have hSince := hSound.since
  refine Durable.wp_mono
    (FiledSince.wp_record hSeen.nodeId hSeen.held hOver hSome
      (hDone (by simp))
      ⟨hSince.backed, hSince.filed, hSince.moved,
        fun _ => trivial⟩)
    ?_ (fun _ _ h => h) (fun _ _ h => h)
  rintro _ s ⟨hHere, hRecorded⟩
  exact ⟨hHere,
    (hSeen.moved hHere.moved).safe hOver hSome hRecorded⟩

/- An event of another kind on the node. -/
theorem Sound.wp_fails
    (hSound : S.Sound T id)
    (now : Time) (n : Node) (e : WorkerEvidence)
    (detail : String) :
    Durable.wp
      (appendAndApplyEvent T.env (failedRequest now n e detail))
      (fun _ => FiledSince T id (S.archive .transcript)
        (OnRecord id S.disk) S.disk)
      (fun _ => FiledSince T id (S.archive .transcript)
        (OnRecord id S.disk) S.disk)
      (fun _ => FiledSince T id (S.archive .transcript)
        (OnRecord id S.disk) S.disk) S.disk := by
  have hCall := hSound.since.wp_call
    (.event (failedRequest now n e detail))
    (by
      rintro r rfl hKind
      cases hKind)
  simpa only [Call.run, Durable.wp_bind, Durable.wp_pure]
    using hCall

theorem Sound.step
    (hMet : a.Undisturbed T id S)
    (hStep : ArchiveStep T id a S S')
    (hSound : S.Sound T id) :
    S'.Sound T id ∧ Moved id S.disk S'.disk := by
  have hStill := hSound.since
  cases hStep with
  | other _ call d hAsks hLeaves =>
      have hSince := Durable.wp_leaves
        (hStill.wp_call call hAsks) hLeaves
      exact ⟨hSound.onto hSince (hSound.phase_moved hSince),
        hSince.moved⟩
  | reads _ n hRead =>
      refine ⟨⟨hSound.backed, hSound.filed, ?_, hSound.phase⟩,
        .refl id S.disk⟩
      intro m hMem
      rcases List.mem_cons.mp hMem with rfl | hOld
      · exact hSound.filed.seen hRead
      · exact hSound.held m hOld
  | writes _ path file =>
      exact ⟨hSound.onto hStill hSound.phase, hStill.moved⟩
  | unlinks _ path =>
      exact ⟨hSound.onto hStill hSound.phase, hStill.moved⟩
  | passes _ n now claude archive hPhase hHeld hOpening hKept =>
      refine
        ⟨⟨hSound.backed, ?_, hSound.held, ?_⟩, hStill.moved⟩
      · exact hSound.filed.recopied (fun _ => hKept)
      · change S.phase.Sound id (archive .transcript) S.disk
        rw [hKept]
        exact hSound.phase
  | completed _ n now e hPhase hHeld hOpening =>
      have hComplete := opening_complete hOpening
      exact ⟨hSound.onto hStill
        ((hSound.held n hHeld).safe_of_complete hComplete.1
          hComplete.2), hStill.moved⟩
  | defers => exact ⟨hSound, hStill.moved⟩
  | opens _ n now e probe hPhase hHeld hOpening hQuiet =>
      exact ⟨hSound.onto hStill
        ⟨hSound.held n hHeld, opening_capture hOpening⟩,
        hStill.moved⟩
  | busy _ n now e probe detail hPhase hHeld hOpening hBusy =>
      exact ⟨hSound.onto hStill (hSound.held n hHeld),
        hStill.moved⟩
  | looks _ n e looks hPhase =>
      have hCapturing := hSound.phase
      rw [hPhase] at hCapturing
      exact ⟨hSound.onto hStill hCapturing, hStill.moved⟩
  | captures _ n e c before opened afterRead afterCapture pane
      isDir hPhase hOk =>
      exact ⟨hSound.onto hStill
        (hSound.captures hMet hPhase hOk), hStill.moved⟩
  | captureFails _ n e looks detail hPhase =>
      have hCapturing := hSound.phase
      rw [hPhase] at hCapturing
      exact ⟨hSound.onto hStill hCapturing.1, hStill.moved⟩
  | files _ n e c artifact rest hPhase =>
      exact ⟨hSound.files hPhase, hStill.moved⟩
  | fileFails _ n e c artifact rest detail there hPhase =>
      have hFiled := hSound.files hPhase
      have hFiling := hSound.phase
      rw [hPhase] at hFiling
      cases there with
      | false =>
          exact ⟨hSound.onto hStill hFiling.1, hStill.moved⟩
      | true =>
          exact ⟨hFiled.onto hFiled.since hFiling.1,
            hStill.moved⟩
  | records _ n e c now result hPhase hOk =>
      rcases Durable.wp_ok (hSound.wp_record hPhase) hOk with
        ⟨hSince, hSafe⟩
      exact ⟨hSound.onto hSince hSafe, hSince.moved⟩
  | recordFails _ n e c now error hPhase hError =>
      have hSince :=
        Durable.wp_error (hSound.wp_record hPhase) hError
      exact ⟨hSound.onto hSince trivial, hSince.moved⟩
  | recordCut _ n e c now d hPhase hLeaves =>
      have hSince := Durable.wp_leaves
        (Durable.wp_mono (hSound.wp_record hPhase)
          (fun _ _ h => h.1) (fun _ _ h => h)
          (fun _ _ h => h)) hLeaves
      exact ⟨hSound.onto hSince trivial, hSince.moved⟩
  | recordsFailure _ n e detail clock now hPhase =>
      have hSince := Durable.wp_final (hSound.wp_fails now n e detail)
      exact ⟨hSound.onto hSince trivial, hSince.moved⟩
  | failureCut _ n e detail now d hPhase hLeaves =>
      have hSince := Durable.wp_leaves
        (hSound.wp_fails now n e detail) hLeaves
      exact ⟨hSound.onto hSince trivial, hSince.moved⟩
  | removes _ n e live hPhase hPath =>
      have hRemoving := hSound.phase
      rw [hPhase] at hRemoving
      exact ⟨hSound.onto hStill ⟨e, hRemoving⟩, hStill.moved⟩
  | keeps _ n e hPhase =>
      exact ⟨hSound.onto hStill trivial, hStill.moved⟩
  | permits _ n hPhase =>
      exact ⟨hSound.onto hStill trivial, hStill.moved⟩
  | stops => exact ⟨hSound.onto hStill trivial, hStill.moved⟩

theorem Sound.sanctioned
    (hMet : a.Undisturbed T id S)
    (hStep : ArchiveStep T id a S S')
    (hSound : S.Sound T id) : a.Sanctioned T id S := by
  cases hStep with
  | passes _ n now claude archive =>
      generalize unrecordedAnswer T.env S.disk claude = permitted
        at hMet
      cases permitted with
      | false => trivial
      | true =>
          intro n' e' hLookup hSome
          exact hSound.archived ⟨hSome, n', e', hLookup, hSome,
            .refl e', hMet n' e' hLookup hSome⟩
  | removes _ n e live hPhase hPath =>
      have hRemoving := hSound.phase
      rw [hPhase] at hRemoving
      exact ⟨e, hRemoving.value, hSound.archived hRemoving⟩
  | permits _ n hPhase =>
      have hRemoved := hSound.phase
      rw [hPhase] at hRemoved
      rcases hRemoved with ⟨e, hSafe⟩
      exact ⟨e, hSafe.value, hSound.archived hSafe⟩
  | _ => trivial

theorem Sound.run
    (hRun : Steps.RunWhen (ArchiveStep T id)
      (ArchiveAct.Undisturbed T id) S S')
    (hSound : S.Sound T id) :
    S'.Sound T id ∧ Moved id S.disk S'.disk := by
  refine Steps.RunWhen.invariant
    (I := fun S' => S'.Sound T id ∧ Moved id S.disk S'.disk)
    ?_ hRun ⟨hSound, .refl id S.disk⟩
  rintro a S₁ S₂ hMet hStep ⟨hHere, hMoved⟩
  rcases hHere.step hMet hStep with ⟨hThere, hNext⟩
  exact ⟨hThere, hMoved.trans hNext⟩

/- A failure ends the call, and permits nothing. -/
theorem failing_step
    {n : Node} {e : WorkerEvidence} {detail : String}
    (hPhase : S.phase = .failing n e detail)
    (hStep : ArchiveStep T id a S S') :
    ¬ a.Permits ∧
      (S'.phase = .idle ∨ S'.phase = S.phase) := by
  cases hStep with
  | passes _ _ _ _ _ hIdle =>
      rw [hPhase] at hIdle
      cases hIdle
  | removes _ _ _ _ hRemoving =>
      rw [hPhase] at hRemoving
      cases hRemoving
  | permits _ _ hRemoved =>
      rw [hPhase] at hRemoved
      cases hRemoved
  | other | reads | writes | unlinks =>
      exact ⟨fun hPermits => hPermits, .inr rfl⟩
  | recordsFailure | failureCut | stops =>
      exact ⟨fun hPermits => hPermits, .inl rfl⟩
  | _ => simp_all

end Steps

end ArchiveState

/-
  In a run of calls and events whose steps are undisturbed,
  the source of a session is removed and its teardown
  permitted only once its evidence is complete on disk with
  the digest of the archive. A failed capture permits
  nothing. Complete evidence stays as it is.
-/
theorem evidence_kept
    (T : Tools)
    (id : NodeId)
    (S₀ S : ArchiveState)
    (hInitial : S₀.Initial T)
    (hRun : Steps.RunWhen (ArchiveStep T id)
      (ArchiveAct.Undisturbed T id) S₀ S) :
    (∀ a S', a.Undisturbed T id S →
        ArchiveStep T id a S S' →
        a.Sanctioned T id S ∧
          ∀ n e detail, S.phase = .failing n e detail →
            ¬ a.Permits ∧
              (S'.phase = .idle ∨ S'.phase = S.phase)) ∧
      ∀ n e S', S.disk.nodes.lookup id = some n →
        n.evidence = some e → e.status = .complete →
        Steps.RunWhen (ArchiveStep T id)
          (ArchiveAct.Undisturbed T id) S S' →
        ∃ n', S'.disk.nodes.lookup id = some n' ∧
          n'.evidence = some e := by
  have hSound := (ArchiveState.Sound.initial hInitial).run hRun
    |>.1
  refine ⟨?_, ?_⟩
  · intro a S' hMet hStep
    exact ⟨hSound.sanctioned hMet hStep,
      fun n e detail hPhase =>
        ArchiveState.failing_step hPhase hStep⟩
  · intro n e S' hLookup hSome hComplete hOn
    have hOver :=
      (hSound.filed.complete n e hLookup hSome hComplete).1
    rcases (hSound.run hOn).2 n hLookup with
      ⟨n', hLookup', hOnward⟩
    exact ⟨n', hLookup',
      hOnward.complete hOver e hSome hComplete⟩

------------------------------------------------------------
-- A Sample Session
------------------------------------------------------------

theorem archiveWith_all
    (archive : Artifact → Option Bytes) (c : Captured) :
    archiveWith (archiveWith (archiveWith (archiveWith archive
        c .transcript) c .resume) c .pane) c .report =
      fun a => some (c.content a) := by
  funext a
  cases a <;> rfl

/- A capture that nothing comes in between. -/
theorem ArchiveState.run_capture
    {T : Tools} {id : NodeId}
    {met : ArchiveAct → ArchiveState → Prop}
    {d : Disk} {live : LiveFiles}
    {archive : Artifact → Option Bytes} {held : List Node}
    {retry : Option RetryState}
    {n : Node} {e : WorkerEvidence} {c : Captured}
    (now : Time) (probe : WriterProbe)
    (pane : Except String Bytes) (isDir : String → Bool)
    (hMet : ∀ act S, act ≠ .captures →
      (∀ permitted, act ≠ .passes permitted) → met act S)
    (hHere : met .captures
      ⟨d, live, archive, held, retry,
        .capturing n e [live, live, live, live]⟩)
    (hHeld : n ∈ held)
    (hOpening : opening n retry now = .capture e)
    (hQuiet : quiesceWorker probe n = .ok ())
    (hOk : capture T n
      ⟨live, live, live, live, pane, d, isDir⟩ = .ok c) :
    Steps.RunWhen (ArchiveStep T id) met
      ⟨d, live, archive, held, retry, .idle⟩
      ⟨d, live, fun a => some (c.content a), held, retry,
        .filing n e c []⟩ := by
  have hStart : Steps.RunWhen (ArchiveStep T id) met
      ⟨d, live, archive, held, retry, .idle⟩
      ⟨d, live, archive, held, retry, .idle⟩ := .refl
  have hLooks := fun S => hMet .looks S nofun nofun
  have hFiles := fun S => hMet .files S nofun nofun
  have hOpened := hStart.next (hMet .opens _ nofun nofun)
    (.opens _ n now e probe rfl hHeld hOpening hQuiet)
  have hLooked :=
    (((hOpened.next (hLooks _) (.looks _ n e _ rfl)).next
      (hLooks _) (.looks _ n e _ rfl)).next
      (hLooks _) (.looks _ n e _ rfl)).next
      (hLooks _) (.looks _ n e _ rfl)
  have hCaptured := hLooked.next hHere
    (.captures _ n e c _ _ _ _ pane isDir rfl hOk)
  have hFiled :=
    (((hCaptured.next (hFiles _) (.files _ n e c _ _ rfl)).next
      (hFiles _) (.files _ n e c _ _ rfl)).next
      (hFiles _) (.files _ n e c _ _ rfl)).next
      (hFiles _) (.files _ n e c _ _ rfl)
  rw [← archiveWith_all archive c]
  exact hFiled

namespace Sample

def sessionId : String := "0192a4c0-0000-4000-8000-000000000001"

def sessionPath : List String :=
  [".creating", "pi-sessions", env.runId.val,
    "pi-session-" ++ sessionId ++ ".jsonl"]

def createWorked : Call :=
  .append (request .nodeCreated (some .first)
    (.obj
      [("kind", .str "spinoff"), ("pi_session_cwd", .str "/w"),
        ("pi_session_id", .str sessionId),
        ("pi_session_path",
          .str ("/".intercalate sessionPath)),
        ("tmux_session", .str "s"),
        ("tmux_window_id", .str "@1")]))

def reportWorked : Call :=
  .append (request .nodeReport (some .first)
    (.obj [("success", .bool true)]))

def workedDisk : Disk :=
  after [createSourced, createWorked, reportWorked]

theorem workedDisk_node :
    (workedDisk.nodes.lookup .first).isSome = true := by
  decide

/- A settled node with a session that is still to archive. -/
def worked : Node :=
  (workedDisk.nodes.lookup .first).get workedDisk_node

def sessionHeader : Json :=
  .obj
    [("type", .str "session"), ("version", .int 3),
      ("id", .str sessionId), ("cwd", .str "/w")]

/- The first line of the session, with a directory. -/
def headerBytes (cwd : String) : Bytes :=
  Utf8.bytes
    ("\x7b\"type\":\"session\",\"version\":3,\"id\":\"" ++
      sessionId ++ "\",\"cwd\":\"" ++ cwd ++ "\"\x7d")

def sessionBytes : Bytes := headerBytes "/w" ++ [newline]

/- The session after one more message. -/
def grownBytes : Bytes :=
  sessionBytes ++
    Utf8.bytes "\x7b\"type\":\"message\"\x7d" ++ [newline]

/- The libraries, on the inputs that the sample gives them. -/
def tools : Tools where
  env := env
  stateRoot := "/s"
  value := fun bytes =>
    if bytes = headerBytes "/w" then .ok sessionHeader
    else .error "expected value at line 1 column 1"
  compact := fun _ => headerBytes "/r"
  pretty := fun _ => Utf8.bytes "\x7b\n  \"success\": true\n\x7d"
  sha256 := fun bytes =>
    if bytes = sessionBytes then
      "8ffc02c9822f71ba2e87237001ab345d33e7bd472c222fdfa17127b76edec6f9"
    else
      "df8a86c296ed805f7f6b78bf58abb1393cf6137bb97845e5e258df8bd176d390"
  errorText := fun _ => ""
  notFound := "No such file or directory (os error 2)"
  isLink := "Too many levels of symbolic links (os error 40)"

def sessionFile (bytes : Bytes) (mtime : Int) : LiveFile where
  isFile := true
  dev := 1
  ino := 2
  mtime := mtime
  mtimeNsec := 0
  bytes := bytes

/- What a capture takes from a session of these bytes. -/
def captured (bytes : Bytes) : Captured where
  transcript := bytes
  resume :=
    headerBytes "/r" ++ bytes.drop (headerBytes "/w").length
  pane := []
  report :=
    Utf8.bytes "\x7b\n  \"success\": true\n\x7d" ++ [newline]

def probe : WriterProbe where
  alive := fun _ => false
  identity := fun _ => none
  startSecs := fun _ => none
  terminate := fun _ => .gone
  stopsInTime := fun _ => true

/- The run before its node, with no session file. -/
def evidenceState (calls : List Call) : ArchiveState where
  disk := after (createSourced :: calls)
  live := fun _ => none
  archive := fun _ => none
  held := []
  retry := none
  phase := .idle

theorem initial_evidenceState :
    (evidenceState []).Initial tools :=
  ⟨⟨createSourced, rfl, .inl rfl, by decide⟩, rfl, rfl⟩

theorem run_evidenceState
    {met : ArchiveAct → ArchiveState → Prop}
    (hMet : ∀ S, met .other S)
    (calls : List Call)
    (hOther : ∀ call ∈ calls, ∀ r, call.Asks r →
      r.kind ≠ .workerEvidenceArchived) :
    Steps.RunWhen (ArchiveStep tools .first) met
      (evidenceState []) (evidenceState calls) := by
  induction calls using List.reverseRecOn with
  | nil => exact .refl
  | append_singleton calls call ih =>
      have hLast := hOther call (by simp)
      refine (ih fun c hMem => hOther c (by simp [hMem])).next
        (hMet _) (.other _ call _ ?_
          (.inl (after_concat (createSourced :: calls) call)))
      exact fun r hAsks hKind => absurd hKind (hLast r hAsks)

/- The value of the settled node is read. -/
def workedState (live : LiveFiles) : ArchiveState where
  disk := workedDisk
  live := live
  archive := fun _ => none
  held := [worked]
  retry := none
  phase := .idle

theorem read_worked :
    readNodeOpt env workedDisk .first = .ok (some worked) :=
  readNodeOpt_eq_some.mpr
    ⟨(Option.some_get workedDisk_node).symm,
      ⟨by decide, by decide,
        by decide⟩⟩

theorem worked_session :
    worked.evidence.isSome = true := by
  decide

def workedSession : WorkerEvidence :=
  worked.evidence.get worked_session

theorem opening_worked :
    opening worked none 0 = .capture workedSession := by
  have hSome : worked.evidence = some workedSession :=
    (Option.some_get worked_session).symm
  have hOpen : workedSession.status ≠ .complete := by
    decide
  simp [opening, hSome, hOpen]

set_option maxRecDepth 4000 in
theorem path_worked :
    checkedLivePath env workedSession.liveSessionPath =
      .ok sessionPath := by
  decide

theorem quiet_worked :
    quiesceWorker probe worked = .ok () := by
  decide

def firstLive : LiveFiles :=
  LiveFiles.set (fun _ => none) sessionPath
    (some (sessionFile sessionBytes 0))

def grownLive : LiveFiles :=
  LiveFiles.set firstLive sessionPath
    (some (sessionFile grownBytes 1))

/- What a capture meets while nothing changes. -/
def still (live : LiveFiles) (d : Disk) : CaptureView where
  before := live
  opened := live
  afterRead := live
  afterCapture := live
  pane := .ok []
  disk := d
  isDir := fun _ => true

set_option maxRecDepth 4000 in
theorem capture_worked :
    capture tools worked (still firstLive workedDisk) =
      .ok (captured sessionBytes) := by
  decide

/- The fact of a capture of these bytes. -/
def archivedWorked (bytes : Bytes) : Request :=
  archivedRequest tools 0 worked workedSession (captured bytes)

theorem capturing_worked
    {met : ArchiveAct → ArchiveState → Prop}
    (hMet : ∀ act S, act ≠ .captures →
      (∀ permitted, act ≠ .passes permitted) → met act S) :
    Steps.RunWhen (ArchiveStep tools .first) met
      (evidenceState []) (workedState firstLive) := by
  have hSettled : Steps.RunWhen (ArchiveStep tools .first) met
      (evidenceState [])
      (evidenceState [createWorked, reportWorked]) := by
    refine run_evidenceState
      (fun S => hMet .other S nofun nofun) _ ?_
    intro call hMem r hAsks
    simp only [List.mem_cons, List.not_mem_nil, or_false]
      at hMem
    rcases hMem with rfl | rfl <;> cases hAsks <;> nofun
  have hRead := hSettled.next (hMet .reads _ nofun nofun)
    (.reads _ worked read_worked)
  exact hRead.next (hMet (.writes sessionPath) _ nofun nofun)
    (.writes _ sessionPath (sessionFile sessionBytes 0))

/- The first capture, up to its record. -/
def filingState : ArchiveState :=
  { workedState firstLive with
    archive := fun a => some ((captured sessionBytes).content a)
    phase := .filing worked workedSession
      (captured sessionBytes) [] }

theorem filing_worked
    {met : ArchiveAct → ArchiveState → Prop}
    (hMet : ∀ act S, act ≠ .captures →
      (∀ permitted, act ≠ .passes permitted) → met act S)
    (hHere : ∀ S, ¬ OnRecord .first S.disk → met .captures S) :
    Steps.RunWhen (ArchiveStep tools .first) met
      (evidenceState []) filingState := by
  refine (capturing_worked hMet).trans
    (ArchiveState.run_capture 0 probe (.ok []) (fun _ => true)
      hMet (hHere _ ?_) (.head _) opening_worked
      quiet_worked capture_worked)
  · rintro ⟨ev, hMem, hKind, _⟩
    have hNone : ∀ ev ∈ workedDisk.events,
        ev.kind ≠ .workerEvidenceArchived := by
      decide
    exact hNone ev hMem hKind

/- The fact is in the log and the call is cut. -/
@[irreducible] def cutDisk : Disk :=
  (appendAndApplyEvent env
    (archivedWorked sessionBytes)).cutAt 1 workedDisk

set_option maxRecDepth 4000 in
theorem leaves_cutDisk :
    (appendAndApplyEvent env
      (archivedWorked sessionBytes)).Leaves workedDisk
        cutDisk := by
  unfold cutDisk
  exact Durable.leaves_cutAt (by decide)

theorem capture_grown :
    capture tools worked (still grownLive cutDisk) =
      .ok (captured grownBytes) := by
  decide +kernel

/- The session has grown before the next call. -/
def stoppedState : ArchiveState where
  disk := cutDisk
  live := grownLive
  archive := fun a => some ((captured sessionBytes).content a)
  held := [worked]
  retry := none
  phase := .idle

/- The session is captured over the first copy. -/
def refilingState : ArchiveState where
  disk := cutDisk
  live := grownLive
  archive := fun a => some ((captured grownBytes).content a)
  held := [worked]
  retry := none
  phase :=
    .filing worked workedSession (captured grownBytes) []

theorem stopped_worked :
    Steps.Run (ArchiveStep tools .first)
      (evidenceState []) stoppedState := by
  have hFiling : Steps.Run (ArchiveStep tools .first)
      (evidenceState []) filingState :=
    filing_worked (fun _ _ _ _ => trivial) (fun _ _ => trivial)
  have hCut := hFiling.next
    (.recordCut _ worked workedSession (captured sessionBytes) 0
      cutDisk rfl leaves_cutDisk)
  have hGrown := hCut.next
    (.writes _ sessionPath (sessionFile grownBytes 1))
  dsimp only [filingState, workedState] at hGrown
  unfold stoppedState grownLive
  exact hGrown

theorem refiling_worked :
    Steps.Run (ArchiveStep tools .first)
      (evidenceState []) refilingState := by
  have hStopped := stopped_worked
  unfold stoppedState at hStopped
  unfold refilingState
  exact hStopped.trans
    (ArchiveState.run_capture 0 probe (.ok []) (fun _ => true)
      (fun _ _ _ _ => trivial) trivial (.head _)
      opening_worked quiet_worked capture_grown)

set_option maxRecDepth 4000 in
theorem filed_result :
    ∃ result,
      (appendAndApplyEvent env
        (archivedWorked sessionBytes)).result workedDisk =
          .ok result :=
  exists_ok (by decide)

/- What the second call leaves. -/
def refiledDisk : Disk :=
  (appendAndApplyEvent env
    (archivedWorked grownBytes)).final cutDisk

theorem refiled_result :
    ∃ result,
      (appendAndApplyEvent env
        (archivedWorked grownBytes)).result cutDisk =
          .ok result :=
  exists_ok (by decide +kernel)

/- The digest on record is that of the first copy. -/
theorem refiled_digest :
    ∀ n e, refiledDisk.nodes.lookup .first = some n →
      n.evidence = some e →
      e.transcriptSha256 = some (tools.sha256 sessionBytes) := by
  have hDigest :
      ((refiledDisk.nodes.lookup .first).bind
        Node.evidence).bind WorkerEvidence.transcriptSha256 =
          some (tools.sha256 sessionBytes) := by
    decide +kernel
  intro n e hLookup hSome
  rw [hLookup, Option.bind_some, hSome, Option.bind_some]
    at hDigest
  exact hDigest

theorem grown_digest :
    tools.sha256 grownBytes ≠ tools.sha256 sessionBytes := by
  decide

------------------------------------------------------------
-- A Value from Before a Retry
------------------------------------------------------------

def retryWorked : Call :=
  .append (request .nodeRetry (some .first)
    (.obj
      [("attempt", .int 1), ("pi_session_cwd", .str "/w"),
        ("pi_session_id", .str sessionId),
        ("pi_session_path",
          .str ("/".intercalate sessionPath))]))

def plainDisk : Disk := after [createSourced, createNode]

theorem plainDisk_node :
    (plainDisk.nodes.lookup .first).isSome = true := by
  decide

/- A live node without a session. -/
def plain : Node :=
  (plainDisk.nodes.lookup .first).get plainDisk_node

theorem read_plain :
    readNodeOpt env plainDisk .first = .ok (some plain) :=
  readNodeOpt_eq_some.mpr
    ⟨(Option.some_get plainDisk_node).symm,
      ⟨by decide, by decide,
        by decide⟩⟩

def retriedDisk : Disk :=
  after [createSourced, createNode, retryWorked]

/- The value is held while a retry starts a session. -/
def retriedState : ArchiveState where
  disk := retriedDisk
  live := fun _ => none
  archive := fun _ => none
  held := [plain]
  retry := none
  phase := .idle

theorem retried_plain :
    Steps.Run (ArchiveStep tools .first)
      (evidenceState []) retriedState := by
  have hCreated : Steps.Run (ArchiveStep tools .first)
      (evidenceState []) (evidenceState [createNode]) := by
    refine run_evidenceState (fun _ => trivial) _ ?_
    intro call hMem r hAsks
    rw [List.mem_singleton] at hMem
    subst hMem
    cases hAsks
    nofun
  have hRead := hCreated.next (.reads _ plain read_plain)
  refine hRead.next
    (.other _ retryWorked retriedDisk ?_
      (.inl (after_concat [createSourced, createNode]
        retryWorked)))
  rintro r rfl hKind
  cases hKind

theorem retried_session :
    ∃ n e, retriedDisk.nodes.lookup .first = some n ∧
      n.evidence = some e ∧ e.status ≠ .complete := by
  have hOpen :
      ((retriedDisk.nodes.lookup .first).bind
        Node.evidence).any (fun e => e.status ≠ .complete) =
          true := by
    decide
  rw [Option.any_eq_true] at hOpen
  rcases hOpen with ⟨e, hBind, hStatus⟩
  rcases Option.bind_eq_some_iff.mp hBind with
    ⟨n, hLookup, hSome⟩
  exact ⟨n, e, hLookup, hSome, of_decide_eq_true hStatus⟩

theorem passes_plain :
    ArchiveStep tools .first (.passes true) retriedState
      retriedState := by
  have hStep : ArchiveStep tools .first
      (.passes (unrecordedAnswer tools.env retriedState.disk
        true)) retriedState retriedState :=
    .passes retriedState plain 0 true retriedState.archive rfl
      (.head _) rfl rfl
  have hAnswer : unrecordedAnswer tools.env retriedState.disk
      true = true := by
    decide
  rw [hAnswer] at hStep
  exact hStep

end Sample

/- A session is archived before its source is removed. -/
theorem archived_before_removal :
    ∃ (S S' : ArchiveState) (n : Node) (e : WorkerEvidence),
      n.evidence = some e ∧
      S.Archived Sample.tools .first e ∧
      ArchiveStep Sample.tools .first (.removes n) S S' := by
  have hMet : ∀ act S, act ≠ .captures →
      (∀ permitted, act ≠ .passes permitted) →
      ArchiveAct.Undisturbed Sample.tools .first act S := by
    intro act S hCaptures hPasses
    cases act with
    | captures => exact absurd rfl hCaptures
    | passes permitted => exact absurd rfl (hPasses permitted)
    | _ => trivial
  have hFiling := Sample.filing_worked hMet
    (fun S hNone _ _ _ _ _ _ _ _ _ _ hOn => absurd hOn hNone)
  unfold Sample.filingState Sample.workedState at hFiling
  rcases Sample.filed_result with ⟨result, hOk⟩
  have hRecorded := hFiling.next (hMet .records _ nofun nofun)
    (.records _ Sample.worked Sample.workedSession
      (Sample.captured Sample.sessionBytes) 0 result rfl hOk)
  have hKept := evidence_kept Sample.tools .first _ _
    Sample.initial_evidenceState hRecorded
  rcases (hKept.1 (.removes Sample.worked) _ trivial
    (.removes _ Sample.worked Sample.workedSession
      Sample.sessionPath rfl Sample.path_worked)).1 with
    ⟨e, hSome, hArchived⟩
  exact ⟨_, _, Sample.worked, e, hSome, hArchived,
    .removes _ Sample.worked Sample.workedSession
      Sample.sessionPath rfl Sample.path_worked⟩

/-
  A session that grows once its archived fact is in the log
  is archived again, and removed, under the old digest. A
  value from before a retry permits the teardown of the new
  session.
-/
theorem not_evidence_kept :
    ¬ (∀ (T : Tools) (id : NodeId) (S₀ S S' : ArchiveState)
        (n : Node),
        S₀.Initial T →
        Steps.Run (ArchiveStep T id) S₀ S →
        ArchiveStep T id (.removes n) S S' →
        ∃ e, n.evidence = some e ∧ S.Archived T id e) ∧
      ¬ (∀ (T : Tools) (id : NodeId) (S₀ S S' : ArchiveState)
        (n : Node) (e : WorkerEvidence),
        S₀.Initial T →
        Steps.Run (ArchiveStep T id) S₀ S →
        ArchiveStep T id (.passes true) S S' →
        S.disk.nodes.lookup id = some n →
        n.evidence = some e → S.Archived T id e) := by
  refine ⟨?_, ?_⟩
  · intro hAlways
    rcases Sample.refiled_result with ⟨result, hOk⟩
    have hRefiling := Sample.refiling_worked
    unfold Sample.refilingState at hRefiling
    have hRecorded := hRefiling.next
      (.records _ Sample.worked Sample.workedSession
        (Sample.captured Sample.grownBytes) 0 result rfl hOk)
    rcases hAlways Sample.tools .first _ _ _ Sample.worked
      Sample.initial_evidenceState hRecorded
      (.removes _ Sample.worked Sample.workedSession
        Sample.sessionPath rfl Sample.path_worked) with
      ⟨e, _, hArchived⟩
    rcases hArchived.recorded with
      ⟨n, e', bytes, hLookup, hSome, _, _, _, _, hCopy, hSha⟩
    cases hCopy
    rw [Sample.refiled_digest n e' hLookup hSome] at hSha
    exact Sample.grown_digest (Option.some.inj hSha).symm
  · intro hAlways
    rcases Sample.retried_session with
      ⟨n, e, hLookup, hSome, hOpen⟩
    rcases (hAlways Sample.tools .first _ _ _ n e
      Sample.initial_evidenceState Sample.retried_plain
      Sample.passes_plain hLookup hSome).recorded with
      ⟨n', e', bytes, hLookup', hSome', _, _, hComplete, _⟩
    change Sample.retriedDisk.nodes.lookup .first = some n'
      at hLookup'
    rw [hLookup, Option.some.injEq] at hLookup'
    subst hLookup'
    rw [hSome, Option.some.injEq] at hSome'
    exact hOpen (hSome' ▸ hComplete)

end Taskfleet
