import Taskfleet.Notify
import Taskfleet.Steps

/-
  Supervisors that fire the hooks of a run, among the locked
  sections of others. One of them at a time has the run lock,
  from the look at the run to the marker.

  A hook for a question or for a round that cannot be started
  is left for a later tick. A hook for the end of the run is
  marked as fired all the same.

  Main declarations:
    * `NotifyState`, `NotifyStep`
    * `NotifyState.Sound`, `NotifyState.Delivered`
    * `hooks_delivered`, `unspawned_hook_is_marked`
-/

------------------------------------------------------------
-- Supervisors
------------------------------------------------------------

namespace Taskfleet

open Fallible

/- What the supervisor that has the lock goes on with. -/
inductive NotifyPhase where
| idle
| firing (notice : Notice)
| marking (notice : Notice)

/-
  The run, the statuses of its manifest that ticks have read,
  the hooks that were started, and whether no section was cut
  and no append failed so far.
-/
structure NotifyState where
  disk : Disk
  seen : List Status
  hooks : List Notice
  phase : NotifyPhase
  smooth : Bool

namespace NotifyState

/- A created run with no supervisor on it yet. -/
structure Initial (env : RunEnv) (S : NotifyState) : Prop where
  booted : Booted env S.disk
  seen : S.seen = []
  hooks : S.hooks = []
  phase : S.phase = .idle

end NotifyState

inductive NotifyAct where
| other
| reads
| looks
| spawns
| spawnFails
| marks
| markFails
| stops
deriving DecidableEq, Repr

/-
  One step. A section of another process has the lock for its
  whole length, and records no marker. The append of a marker
  may fail after any of its writes; a supervisor may die
  where it is.
-/
inductive NotifyStep (env : RunEnv) :
    NotifyAct → NotifyState → NotifyState → Prop where
| other (S : NotifyState) (w : Writer) (d : Disk)
    (hPhase : S.phase = .idle)
    (hAsks : ∀ r, w.Asks r → r.kind.isMarker = false)
    (hLeaves : (w.run env).Leaves S.disk d) :
    NotifyStep env .other S { S with disk := d }
| reads (S : NotifyState) (m : Manifest)
    (hRead : readManifestOpt env S.disk = .ok (some m)) :
    NotifyStep env .reads S
      { S with seen := m.status :: S.seen }
| looks (S : NotifyState) (who : Notifier) (call : NotifyCall)
    (notice : Notice)
    (hPhase : S.phase = .idle)
    (hEnv : who.env = env)
    (hSeen : ∀ status before,
      call = .finished status before → status ∈ S.seen)
    (hDue : call.due who S.disk = .fire notice) :
    NotifyStep env .looks S { S with phase := .firing notice }
| spawns (S : NotifyState) (notice : Notice)
    (hPhase : S.phase = .firing notice) :
    NotifyStep env .spawns S
      { S with
        hooks := notice :: S.hooks
        phase := .marking notice }
| spawnFails (S : NotifyState) (notice : Notice)
    (hPhase : S.phase = .firing notice) :
    NotifyStep env .spawnFails S
      { S with
        phase :=
          match notice.generation with
          | .finished => .marking notice
          | _ => .idle }
| marks (S : NotifyState) (notice : Notice) (now : Time)
    (seq : Nat)
    (hPhase : S.phase = .marking notice)
    (hOk :
      (appendAndApplyUnlocked env
        (notice.request env now)).result S.disk = .ok seq) :
    NotifyStep env .marks S
      { S with
        disk :=
          (appendAndApplyUnlocked env
            (notice.request env now)).final S.disk
        phase := .idle }
| markFails (S : NotifyState) (notice : Notice) (now : Time)
    (d : Disk)
    (hPhase : S.phase = .marking notice)
    (hLeaves :
      (appendAndApplyUnlocked env
        (notice.request env now)).Leaves S.disk d) :
    NotifyStep env .markFails S
      { S with disk := d, phase := .idle, smooth := false }
| stops (S : NotifyState) :
    NotifyStep env .stops S
      { S with phase := .idle, smooth := false }

------------------------------------------------------------
-- What Outlasts a Section
------------------------------------------------------------

section Lasting

variable {env : RunEnv}

/- A run that is over stays over. -/
theorem lasting_finished (env : RunEnv) :
    Lasting env Generation.finished.Current where
  framed := by
    rintro s s' ⟨m, hSome, hTerminal⟩ hManifest _
    exact ⟨m, hManifest.trans hSome, hTerminal⟩
  folded := by
    rintro s ev ops j ⟨m, hSome, hTerminal⟩ hPlan
    rcases manifestStep_of_cut hPlan hSome j with
      ⟨m', hSome', hStep⟩
    exact ⟨m', hSome', hStep.isTerminal hTerminal⟩
  advanced := by
    rintro s seq ⟨m, hSome, hTerminal⟩
    by_cases hBehind : s.Behind seq
    · rcases hBehind with ⟨m₀, hSome₀, hLt⟩
      rw [hSome, Option.some.injEq] at hSome₀
      subst hSome₀
      rw [Disk.advance_of_behind hSome hLt]
      exact ⟨_, rfl, hTerminal⟩
    · rw [Disk.advance_of_not_behind hBehind]
      exact ⟨m, hSome, hTerminal⟩

/- Each marker of the log is that of a hook of the list. -/
def Earned
    (env : RunEnv) (hooks : List Notice) (s : Disk) : Prop :=
  ∀ ev ∈ s.events, ev.kind.isMarker = true →
    ∃ notice ∈ hooks,
      keyedAs notice.generation.marker
        (notice.generation.key env) ev = true

variable {hooks : List Notice} {s s' : Disk}

theorem Earned.congr
    (hEarned : Earned env hooks s)
    (hEvents : s'.events = s.events) : Earned env hooks s' := by
  unfold Earned
  rw [hEvents]
  exact hEarned

/- What is no marker, or the marker of a hook, is logged. -/
theorem Earned.log
    {ev : Event}
    (hEarned : Earned env hooks s)
    (hEvent : ev.kind.isMarker = true →
      ∃ notice ∈ hooks,
        keyedAs notice.generation.marker
          (notice.generation.key env) ev = true) :
    Earned env hooks (s.log ev) := by
  intro e hMem
  rw [Disk.log_events, List.mem_append, List.mem_singleton]
    at hMem
  rcases hMem with hMem | rfl
  · exact hEarned e hMem
  · exact hEvent

theorem Earned.cons
    {notice : Notice} (hEarned : Earned env hooks s) :
    Earned env (notice :: hooks) s := by
  intro ev hMem hMarker
  rcases hEarned ev hMem hMarker with ⟨n, hThere, hKeyed⟩
  exact ⟨n, List.mem_cons_of_mem _ hThere, hKeyed⟩

theorem kept_earned (env : RunEnv) (hooks : List Notice) :
    Kept env (fun s => Backed env s ∧ Earned env hooks s) := by
  apply (kept_backed env).and
  · intro s b hEarned
    exact hEarned.congr rfl
  · intro s ev ops k _ hEarned _ _
    exact hEarned.congr (Disk.applyOps_events _ _)
  · intro s ev hEarned _
    exact hEarned.congr (Disk.advance_events _ _)

/- Sections of others log no marker. -/
theorem keeps_earned_writer
    {w : Writer}
    (hAsks : ∀ r, w.Asks r → r.kind.isMarker = false) :
    Durable.Keeps
      (fun s => Backed env s ∧ Earned env hooks s)
      (w.run env) := by
  intro s hHere
  apply (kept_earned env hooks).wp_writer w ?_ hHere
  intro s' r ops hAsk hBoth hAbreast _ hPlan
  refine ⟨hBoth.1.log hAbreast.1 hAbreast.2 rfl hPlan,
    hBoth.2.log ?_⟩
  intro hMarker
  have hNot := hAsks r hAsk
  rw [show r.kind.isMarker = true from hMarker] at hNot
  cases hNot

/- The marker of a hook is there once it is answered. -/
theorem wp_mark
    (notice : Notice)
    (now : Time)
    (hBacked : Backed env s) :
    Durable.wp
      (appendAndApplyUnlocked env (notice.request env now))
      (fun _ s' => Backed env s' ∧
        notice.generation.Marked env s')
      (fun _ => Backed env) (fun _ => Backed env) s := by
  have hAppend :=
    (kept_backed env).wp_append
      (r := notice.request env now)
      (fun s' ops hHere hLines hAbreast hPlan =>
        hHere.log hAbreast.1 hAbreast.2 rfl hPlan) hBacked
  apply Durable.wp_mono hAppend
  · rintro _ s' ⟨hHere, _, hLines⟩
    refine ⟨hHere,
      (notice.request env now).event env (s.lastSeq + 1), ?_,
      ?_⟩
    · simp [Disk.events, hLines, Disk.next, LogLine.event?]
    · exact keyedAs_iff.mpr ⟨rfl, rfl⟩
  · exact fun _ _ h => h.1
  · exact fun _ _ h => h.1

theorem keeps_earned_mark
    {notice : Notice}
    (now : Time)
    (hThere : notice ∈ hooks) :
    Durable.Keeps
      (fun s => Backed env s ∧ Earned env hooks s)
      (appendAndApplyUnlocked env
        (notice.request env now)) := by
  intro s hHere
  have hAppend :=
    (kept_earned env hooks).wp_append
      (r := notice.request env now)
      (fun s' ops hBoth _ hAbreast hPlan =>
        ⟨hBoth.1.log hAbreast.1 hAbreast.2 rfl hPlan,
          hBoth.2.log (fun _ =>
            ⟨notice, hThere, keyedAs_iff.mpr ⟨rfl, rfl⟩⟩)⟩)
      hHere
  exact Durable.wp_mono hAppend (fun _ _ h => h.1)
    (fun _ _ h => h.1) (fun _ _ h => h.1)

end Lasting

------------------------------------------------------------
-- Invariants
------------------------------------------------------------

namespace NotifyState

/- What holds of every run. -/
structure Sound (env : RunEnv) (S : NotifyState) : Prop where
  backed : Backed env S.disk
  told : ∀ status ∈ S.seen, status.isTerminal = true →
    Generation.finished.Current S.disk
  firing : ∀ notice, S.phase = .firing notice →
    notice.generation.Current S.disk ∧
      ¬ notice.generation.Marked env S.disk
  once : S.smooth = true →
    (S.hooks.map Notice.generation).Nodup ∧
      ∀ notice ∈ S.hooks,
        notice.generation.Marked env S.disk ∨
          ∃ here, S.phase = .marking here ∧
            here.generation = notice.generation

/- What holds where the hook of a finished run starts. -/
structure Paid (env : RunEnv) (S : NotifyState) : Prop where
  earned : Earned env S.hooks S.disk
  marking : ∀ notice, S.phase = .marking notice →
    notice ∈ S.hooks

section Steps

variable {env : RunEnv} {S S' : NotifyState}
variable {act : NotifyAct}

theorem Initial.sound (hInitial : S.Initial env) :
    S.Sound env where
  backed := hInitial.booted.backed
  told := by simp [hInitial.seen]
  firing := by simp [hInitial.phase]
  once := by simp [hInitial.hooks]

theorem Initial.paid (hInitial : S.Initial env) :
    S.Paid env where
  earned := by
    intro ev hMem hMarker
    rw [hInitial.booted.created.only hMem] at hMarker
    cases hMarker
  marking := by simp [hInitial.phase]

/- Where no hook is about to be started. -/
theorem Sound.settle
    {d : Disk} {phase : NotifyPhase} {smooth : Bool}
    (hSound : S.Sound env)
    (hBacked : Backed env d)
    (hOver : Generation.finished.Current S.disk →
      Generation.finished.Current d)
    (hPhase : ∀ notice, phase ≠ .firing notice)
    (hOnce : smooth = true → S.smooth = true ∧
      ∀ notice ∈ S.hooks, notice.generation.Marked env d) :
    Sound env ⟨d, S.seen, S.hooks, phase, smooth⟩ := by
  constructor
  · exact hBacked
  · exact fun status hMem hTerminal =>
      hOver (hSound.told status hMem hTerminal)
  · exact fun notice hFiring => absurd hFiring (hPhase notice)
  · intro hSmooth
    rcases hOnce hSmooth with ⟨hWas, hMarked⟩
    exact ⟨(hSound.once hWas).1, fun notice hMem =>
      .inl (hMarked notice hMem)⟩

/- Between two sections every hook has its marker. -/
theorem Sound.marked
    (hSound : S.Sound env)
    (hPhase : ∀ notice, S.phase ≠ .marking notice)
    (hSmooth : S.smooth = true) :
    ∀ notice ∈ S.hooks, notice.generation.Marked env S.disk := by
  intro notice hMem
  rcases (hSound.once hSmooth).2 notice hMem with
    hMarked | ⟨here, hMarking, _⟩
  · exact hMarked
  · exact absurd hMarking (hPhase here)

/- A section that keeps what outlasts sections. -/
theorem over_of_leaves
    {α : Type} {x : Locked α} {d : Disk}
    (hSound : S.Sound env)
    (hKeeps : ∀ P : Disk → Prop, Enduring env P →
      Durable.Keeps (Legibly env P) x)
    (hLeaves : x.Leaves S.disk d) :
    (Generation.finished.Current S.disk →
      Generation.finished.Current d) ∧
    ∀ g : Generation, g.Marked env S.disk → g.Marked env d := by
  have hReadable := hSound.backed.readable
  constructor
  · intro hOver
    exact (Durable.wp_leaves
      (hKeeps _ (lasting_finished env).enduring S.disk
        ⟨hReadable, hOver⟩) hLeaves).2
  · intro g hMarked
    exact (Durable.wp_leaves
      (hKeeps _ (g.enduring_marked env) S.disk
        ⟨hReadable, hMarked⟩) hLeaves).2

theorem Sound.step
    (hSound : S.Sound env)
    (hStep : NotifyStep env act S S') : S'.Sound env := by
  cases hStep with
  | other _ w d hPhase hAsks hLeaves =>
      have hBacked := Durable.wp_leaves
        (Backed.keeps_writer env w S.disk hSound.backed) hLeaves
      have hLast := over_of_leaves hSound
        (fun _ hEnduring => hEnduring.keeps_writer w) hLeaves
      rw [show ({ S with disk := d } : NotifyState) =
        ⟨d, S.seen, S.hooks, S.phase, S.smooth⟩ from rfl]
      apply hSound.settle hBacked hLast.1
      · simp [hPhase]
      · intro hSmooth
        apply And.intro hSmooth
        have hMarked :=
          hSound.marked (by simp [hPhase]) hSmooth
        exact fun notice hMem =>
          hLast.2 _ (hMarked notice hMem)
  | reads _ m hRead =>
      refine ⟨hSound.backed, ?_, hSound.firing, hSound.once⟩
      intro status hMem hTerminal
      rcases List.mem_cons.mp hMem with rfl | hMem
      · exact ⟨m, (readManifestOpt_eq_some.mp hRead).1,
          hTerminal⟩
      · exact hSound.told status hMem hTerminal
  | looks _ who call notice hPhase hEnv hSeen hDue =>
      refine ⟨hSound.backed, hSound.told, ?_, ?_⟩
      · intro notice' hFiring
        cases hFiring
        constructor
        · apply due_current ?_ hDue
          intro status before hCall hTerminal
          exact hSound.told status (hSeen status before hCall)
            hTerminal
        · rw [← hEnv]
          exact due_unmarked hDue
      · intro hSmooth
        apply And.intro (hSound.once hSmooth).1
        exact fun n hMem =>
          .inl (hSound.marked (by simp [hPhase]) hSmooth n hMem)
  | spawns _ notice hPhase =>
      refine ⟨hSound.backed, hSound.told, ?_, ?_⟩
      · rintro notice' ⟨⟩
      · intro hSmooth
        have hMarked :=
          hSound.marked (by simp [hPhase]) hSmooth
        constructor
        · rw [List.map_cons, List.nodup_cons]
          apply And.intro ?_ (hSound.once hSmooth).1
          intro hMem
          rcases List.mem_map.mp hMem with ⟨n, hThere, hSame⟩
          apply (hSound.firing notice hPhase).2
          rw [← hSame]
          exact hMarked n hThere
        · intro n hMem
          rcases List.mem_cons.mp hMem with rfl | hMem
          · exact .inr ⟨n, rfl, rfl⟩
          · exact .inl (hMarked n hMem)
  | spawnFails _ notice hPhase =>
      apply hSound.settle hSound.backed id
      · intro notice' hFiring
        cases hIs : notice.generation with
        | finished =>
            rw [hIs] at hFiring
            cases hFiring
        | awaiting eventSeq =>
            rw [hIs] at hFiring
            cases hFiring
        | round eventSeq =>
            rw [hIs] at hFiring
            cases hFiring
      · exact fun hSmooth =>
          ⟨hSmooth, hSound.marked (by simp [hPhase]) hSmooth⟩
  | marks _ notice now seq hPhase hOk =>
      have hMark := Durable.wp_ok (wp_mark notice now hSound.backed) hOk
      have hLast := over_of_leaves hSound
        (fun _ hEnduring =>
          hEnduring.keeps_append (notice.request env now))
        (.inl rfl)
      apply hSound.settle hMark.1 hLast.1
      · rintro notice' ⟨⟩
      · intro hSmooth
        apply And.intro hSmooth
        intro n hMem
        rcases (hSound.once hSmooth).2 n hMem with
          hMarked | ⟨here, hMarking, hSame⟩
        · exact hLast.2 _ hMarked
        · rw [hPhase] at hMarking
          cases hMarking
          rw [← hSame]
          exact hMark.2
  | markFails _ notice now d hPhase hLeaves =>
      have hBacked :=
        Durable.wp_leaves
          (Durable.wp_mono
            (wp_mark notice now hSound.backed)
            (fun _ _ h => h.1) (fun _ _ h => h)
            (fun _ _ h => h))
          hLeaves
      have hLast := over_of_leaves hSound
        (fun _ hEnduring =>
          hEnduring.keeps_append (notice.request env now)) hLeaves
      apply hSound.settle hBacked hLast.1
      · rintro notice' ⟨⟩
      · rintro ⟨⟩
  | stops _ =>
      apply hSound.settle hSound.backed id
      · rintro notice ⟨⟩
      · rintro ⟨⟩

/- The hook of a finished run starts where it is tried. -/
def StartsFinished (act : NotifyAct) (S : NotifyState) : Prop :=
  act = .spawnFails → ∀ notice, S.phase = .firing notice →
    notice.generation ≠ .finished

theorem Paid.step
    (hSound : S.Sound env)
    (hPaid : S.Paid env)
    (hMet : StartsFinished act S)
    (hStep : NotifyStep env act S S') : S'.Paid env := by
  have hBoth : Backed env S.disk ∧ Earned env S.hooks S.disk :=
    ⟨hSound.backed, hPaid.earned⟩
  cases hStep with
  | other _ w d hPhase hAsks hLeaves =>
      exact ⟨(Durable.wp_leaves
        (keeps_earned_writer hAsks S.disk hBoth) hLeaves).2,
        hPaid.marking⟩
  | reads _ m hRead => exact ⟨hPaid.earned, hPaid.marking⟩
  | looks _ who call notice hPhase hEnv hSeen hDue =>
      refine ⟨hPaid.earned, ?_⟩
      rintro notice' ⟨⟩
  | spawns _ notice hPhase =>
      refine ⟨hPaid.earned.cons, ?_⟩
      rintro notice' ⟨⟩
      exact List.mem_cons_self
  | spawnFails _ notice hPhase =>
      refine ⟨hPaid.earned, ?_⟩
      intro notice' hMarking
      have hRetried := hMet rfl notice hPhase
      cases hIs : notice.generation with
      | finished => exact absurd hIs hRetried
      | awaiting eventSeq =>
          rw [hIs] at hMarking
          cases hMarking
      | round eventSeq =>
          rw [hIs] at hMarking
          cases hMarking
  | marks _ notice now seq hPhase hOk =>
      have hThere := hPaid.marking notice hPhase
      refine ⟨(Durable.wp_final
        (keeps_earned_mark now hThere S.disk
          hBoth)).2, ?_⟩
      rintro notice' ⟨⟩
  | markFails _ notice now d hPhase hLeaves =>
      have hThere := hPaid.marking notice hPhase
      refine ⟨(Durable.wp_leaves
        (keeps_earned_mark now hThere S.disk hBoth)
          hLeaves).2, ?_⟩
      rintro notice' ⟨⟩
  | stops _ =>
      refine ⟨hPaid.earned, ?_⟩
      rintro notice' ⟨⟩

end Steps

------------------------------------------------------------
-- Delivery
------------------------------------------------------------

/-
  What is promised of the hooks of a run: a marker is in the
  log only if the hook of its generation was started; no hook
  is started twice, unless a section was cut or an append
  failed; and the hook that is started next is for a current
  generation.
-/
structure Delivered (env : RunEnv) (S : NotifyState) : Prop where
  started : ∀ g : Generation, g.Marked env S.disk →
    ∃ notice ∈ S.hooks, notice.generation = g
  once : S.smooth = true →
    (S.hooks.map Notice.generation).Nodup
  current : ∀ S', NotifyStep env .spawns S S' →
    ∃ notice, S'.hooks = notice :: S.hooks ∧
      notice.generation.Current S.disk

theorem Sound.delivered
    {env : RunEnv} {S : NotifyState}
    (hSound : S.Sound env) (hPaid : S.Paid env) :
    S.Delivered env where
  started := by
    rintro g ⟨ev, hMem, hKeyed⟩
    rw [keyedAs_iff] at hKeyed
    have hMarker : ev.kind.isMarker = true := by
      rw [hKeyed.1]
      cases g with
      | finished => rfl
      | awaiting eventSeq => rfl
      | round eventSeq => rfl
    rcases hPaid.earned ev hMem hMarker with
      ⟨notice, hThere, hOther⟩
    rw [keyedAs_iff] at hOther
    refine ⟨notice, hThere, ?_⟩
    exact Generation.key_injective
      (hOther.1.symm.trans hKeyed.1)
      (Option.some.inj (hOther.2.symm.trans hKeyed.2))
  once := fun hSmooth => (hSound.once hSmooth).1
  current := by
    intro S' hStep
    cases hStep with
    | spawns _ notice hPhase =>
        exact ⟨notice, rfl, (hSound.firing notice hPhase).1⟩

end NotifyState

/-
  As long as the hook of a finished run starts where it is
  tried, every state keeps the promise.
-/
theorem hooks_delivered
    (env : RunEnv)
    (S₀ S : NotifyState)
    (hInitial : S₀.Initial env)
    (hRun :
      Steps.RunWhen (NotifyStep env) NotifyState.StartsFinished
        S₀ S) :
    S.Delivered env := by
  have hBoth : S.Sound env ∧ S.Paid env :=
    Steps.RunWhen.invariant
      (I := fun S => S.Sound env ∧ S.Paid env)
      (fun _ _ _ hMet hStep hHere =>
        ⟨hHere.1.step hStep, hHere.2.step hHere.1 hMet hStep⟩)
      hRun ⟨hInitial.sound, hInitial.paid⟩
  exact hBoth.1.delivered hBoth.2

namespace Sample

/- A run that is over, before its supervisor has seen it. -/
def endedRun : Disk :=
  after
    [createRun,
      .append
        (request .runStatus none
          (.obj [("status", .str "failed")]))]

def toldBy : Notifier where
  env := env
  command := some "notify"
  kind := .spinoff
  title := "t"
  grace := 180
  itemsText := fun _ => "[]"

def newSupervisor : NotifyState where
  disk := after [createRun]
  seen := []
  hooks := []
  phase := .idle
  smooth := true

/- The notice of that run, with the marker to record. -/
def failedNotice : Notice where
  generation := .finished
  hook := {
    command := "notify"
    vars :=
      [("TASKFLEET_RUN_ID", env.runId.val),
        ("TASKFLEET_STATUS", "failed"),
        ("TASKFLEET_SUMMARY", ""),
        ("TASKFLEET_RUN_KIND", "spinoff"),
        ("TASKFLEET_RUN_TITLE", "t")] }
  data := .obj [("status", .str "failed")]

theorem initial_newSupervisor : newSupervisor.Initial env :=
  ⟨⟨createRun, rfl, .inl rfl, by decide +kernel⟩, rfl, rfl,
    rfl⟩

/- The run fails, a tick reads that, and looks once more. -/
theorem firing_endedRun
    {met : NotifyAct → NotifyState → Prop}
    (hMet : ∀ act, act ≠ .spawnFails → ∀ S, met act S) :
    Steps.RunWhen (NotifyStep env) met newSupervisor
      ⟨endedRun, [.failed], [], .firing failedNotice,
        true⟩ := by
  have hStart :
      Steps.RunWhen (NotifyStep env) met newSupervisor
        newSupervisor := .refl
  have hFailed := hStart.next (hMet .other (by decide) _)
    (.other _
      (.call
        (.append
          (request .runStatus none
            (.obj [("status", .str "failed")]))))
      endedRun rfl (by rintro r ⟨⟩; rfl) (.inl rfl))
  obtain ⟨m, hRead, hStatus⟩ :
      ∃ m, readManifestOpt env endedRun = .ok (some m) ∧
        m.status = .failed :=
    ⟨_, rfl, rfl⟩
  have hSeen := hFailed.next (hMet .reads (by decide) _)
    (.reads _ m hRead)
  rw [hStatus] at hSeen
  exact hSeen.next (hMet .looks (by decide) _)
    (.looks _ toldBy (.finished .failed endedRun) failedNotice
      rfl rfl (by rintro status before ⟨⟩; simp) rfl)

theorem marking_endedRun :
    ∃ seq,
      (appendAndApplyUnlocked env
        (failedNotice.request env 0)).result endedRun =
          .ok seq :=
  exists_ok (by decide +kernel)

theorem marked_endedRun :
    Generation.finished.Marked env
      ((appendAndApplyUnlocked env
        (failedNotice.request env 0)).final endedRun) := by
  unfold Generation.Marked
  decide +kernel

end Sample

/-
  The hook of a finished run that cannot be started is marked
  as fired, and no later tick tries it again.
-/
theorem unspawned_hook_is_marked :
    ∃ S : NotifyState,
      Steps.Run (NotifyStep Sample.env) Sample.newSupervisor
        S ∧
      S.hooks = [] ∧
      Generation.finished.Marked Sample.env S.disk ∧
      ¬ S.Delivered Sample.env := by
  have hFiring :
      Steps.Run (NotifyStep Sample.env) Sample.newSupervisor
        _ :=
    Sample.firing_endedRun (fun _ _ _ => trivial)
  have hFailed := hFiring.next (.spawnFails _ _ rfl)
  rcases Sample.marking_endedRun with ⟨seq, hOk⟩
  have hMarks := hFailed.next (.marks _ _ 0 seq rfl hOk)
  have hMarked := Sample.marked_endedRun
  refine ⟨_, hMarks, rfl, hMarked, ?_⟩
  intro hDelivered
  rcases hDelivered.started .finished hMarked with
    ⟨notice, hMem, _⟩
  cases hMem

/- Where it starts, it is started once and then marked. -/
theorem spawned_hook_is_delivered :
    ∃ S : NotifyState,
      S.hooks = [Sample.failedNotice] ∧
      Generation.finished.Marked Sample.env S.disk ∧
      S.Delivered Sample.env := by
  have hMet : ∀ act, act ≠ .spawnFails → ∀ S,
      NotifyState.StartsFinished act S :=
    fun _ hNot _ hFails => absurd hFails hNot
  have hSpawned := (Sample.firing_endedRun hMet).next
    (hMet .spawns (by decide) _) (.spawns _ _ rfl)
  rcases Sample.marking_endedRun with ⟨seq, hOk⟩
  have hMarks := hSpawned.next (hMet .marks (by decide) _)
    (.marks _ _ 0 seq rfl hOk)
  have hMarked := Sample.marked_endedRun
  exact ⟨_, rfl, hMarked,
    hooks_delivered Sample.env Sample.newSupervisor _
      Sample.initial_newSupervisor hMarks⟩

end Taskfleet
