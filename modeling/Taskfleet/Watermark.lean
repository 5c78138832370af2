import Taskfleet.Reread
import Taskfleet.Reducer.Refold

/-
  The watermark and the log under every locked operation.

  The log only grows, its numbers are never given out twice,
  the watermark stays behind its end, and what it holds is
  folded when a call returns. This needs a created run, a
  quarantine that is not cut between its two writes, and no
  node creation that loses its source branch. It also needs
  payloads that read back as they were appended, and a log
  where each line with a header is an event.

  Main declarations:
    * `SoundCut`
    * `Folded`, `Sound`
    * `NeverLeads`, `watermark_sound`
-/

------------------------------------------------------------
-- Sound Cuts
------------------------------------------------------------

namespace Taskfleet

/-
  Any cut but one between the two writes of a quarantine and
  one that separates a node from its source branch.
-/
def SoundCut : Boundary → Prop
| .renamed => False
| .projected planned ev k => k = 0 → KeepsBranch planned ev
| _ => True

------------------------------------------------------------
-- Folded Logs
------------------------------------------------------------

/-
  The projections come from the empty ones by committing
  plans: each event of the list in its turn with the log at
  that event, and events of the log again at any time. The
  clock of the manifest is left open.
-/
inductive Folded (env : RunEnv) : List Event → Disk → Prop where
| start {d : Disk}
    (hManifest : d.manifest = none)
    (hNodes : d.nodes = ∅) :
    Folded env [] d
| fold {events : List Event} {d : Disk} {ev : Event}
    {ops : List ProjectionOp}
    (hBefore : Folded env events d)
    (hLog : d.events = events ++ [ev])
    (hPlan : reduceEventToOps env d ev = .ok ops) :
    Folded env (events ++ [ev]) (applyOps ops d)
| again {d : Disk} {ev : Event} {ops : List ProjectionOp}
    (k : Nat)
    (hBefore : Folded env d.events d)
    (hMem : ev ∈ d.events)
    (hPlan : reduceEventToOps env d ev = .ok ops) :
    Folded env d.events (applyOps (ops.take k) d)
| advance {events : List Event} {d : Disk}
    (seq : Nat)
    (hBefore : Folded env events d) :
    Folded env events (d.advance seq)
| same {events : List Event} {d d' : Disk}
    (hBefore : Folded env events d)
    (hSame : SameProjections d d') :
    Folded env events d'

/-
  The last event of the log is not folded yet, and the next
  catch-up will come to it on the same projections.
-/
structure Pending
    (env : RunEnv)
    (d : Disk)
    (events : List Event)
    (last : Event) : Prop where
  log : d.events = events ++ [last]
  folded : Folded env events d
  ahead : d.appliedSeq < last.seq
  accepted : Accepted env d last
  refused : ∀ ev ∈ events, d.appliedSeq < ev.seq →
    ¬ Accepted env d ev

/- What every locked operation keeps. -/
structure Sound (env : RunEnv) (d : Disk) : Prop where
  manifest : d.manifest ≠ none
  readable : Readable env d
  ordered : d.Ordered
  behind : d.appliedSeq ≤ d.lastSeq
  folded : Folded env d.events d ∨
    ∃ events last, Pending env d events last

section Frames

variable {env : RunEnv} {d d' : Disk}

/- Only the projections and the events of the log matter. -/
theorem Pending.congr
    {events : List Event} {last : Event}
    (hPending : Pending env d events last)
    (hManifest : d'.manifest = d.manifest)
    (hNodes : d'.nodes = d.nodes)
    (hEvents : d'.events = d.events) :
    Pending env d' events last := by
  have hSame : SameProjections d d' :=
    ⟨hNodes.symm, by rw [hManifest]⟩
  have hMark : d'.appliedSeq = d.appliedSeq := by
    unfold Disk.appliedSeq
    rw [hManifest]
  refine ⟨hEvents.trans hPending.log,
    .same hPending.folded hSame, ?_,
    (accepted_congr hSame).mp hPending.accepted, ?_⟩
  · rw [hMark]
    exact hPending.ahead
  · intro ev hMem hAhead
    rw [hMark] at hAhead
    rw [← accepted_congr hSame]
    exact hPending.refused ev hMem hAhead

theorem Sound.congr
    (hSound : Sound env d)
    (hManifest : d'.manifest = d.manifest)
    (hNodes : d'.nodes = d.nodes)
    (hEvents : d'.events = d.events)
    (hPlain : d.Plain → d'.Plain) :
    Sound env d' := by
  have hMark : d'.appliedSeq = d.appliedSeq := by
    unfold Disk.appliedSeq
    rw [hManifest]
  refine ⟨?_, ?_, ?_, ?_, ?_⟩
  · rw [hManifest]
    exact hSound.manifest
  · unfold Readable
    rw [hManifest]
    exact hSound.readable
  · exact hSound.ordered.of_events hEvents hPlain
  · rw [hMark, Disk.lastSeq, hEvents]
    exact hSound.behind
  · rcases hSound.folded with hFolded | ⟨events, last, hPending⟩
    · left
      rw [hEvents]
      exact .same hFolded ⟨hNodes.symm, by rw [hManifest]⟩
    · exact .inr ⟨events, last,
        hPending.congr hManifest hNodes hEvents⟩

end Frames

------------------------------------------------------------
-- Catch-Up
------------------------------------------------------------

section CatchUp

variable {env : RunEnv} {d s : Disk} {ev : Event}
variable {ops : List ProjectionOp}

/- A plan cut short by a sound cut counts as folded. -/
theorem Folded.cutShort
    {events : List Event}
    {k : Nat}
    (hBefore : Folded env events s)
    (hLog : s.events = events ++ [ev])
    (hPlan : reduceEventToOps env s ev = .ok ops)
    (hBranch : k = 0 → KeepsBranch s ev) :
    Folded env (events ++ [ev])
      (applyOps (ops.take (k + 1)) s) :=
  .same (.fold hBefore hLog hPlan)
    (same_of_cut hPlan hBranch).symm

/-
  The projections after writes of a planned event of the log,
  folded, are sound with the watermark before or after it.
-/
theorem sound_written
    {k : Nat}
    (hReadable : Readable env s)
    (hOrdered : s.Ordered)
    (hBehind : s.appliedSeq ≤ s.lastSeq)
    (hMem : ev ∈ s.events)
    (hPlan : reduceEventToOps env s ev = .ok ops)
    (hManifest : (applyOps (ops.take k) s).manifest ≠ none)
    (hFolded : Folded env s.events (applyOps (ops.take k) s)) :
    Sound env (applyOps (ops.take k) s) ∧
      Sound env ((applyOps (ops.take k) s).advance ev.seq) := by
  have hOps :=
    writable_of_planned (planned_of_reduce hPlan).2
  have hStill : Readable env (applyOps (ops.take k) s) :=
    readable_applyOps hReadable
      (fun op hMem => hOps op (List.mem_of_mem_take hMem))
  have hMark :
      (applyOps (ops.take k) s).appliedSeq ≤
        (applyOps (ops.take k) s).lastSeq := by
    rw [appliedSeq_of_plan hPlan rfl,
      lastSeq_congr (applyOps_lines _ s)]
    exact hBehind
  have hSeq : ev.seq ≤ (applyOps (ops.take k) s).lastSeq := by
    rw [lastSeq_congr (applyOps_lines _ s)]
    exact seq_le_lastSeqOf hOrdered.increasing hMem
  have hWritten : Sound env (applyOps (ops.take k) s) :=
    ⟨hManifest, hStill,
      hOrdered.congr (applyOps_lines _ s), hMark,
      .inl (by simpa using hFolded)⟩
  refine ⟨hWritten, ?_, readable_advance hStill,
    hWritten.ordered.congr (Disk.advance_lines _ _), ?_, ?_⟩
  · rcases Option.ne_none_iff_exists'.mp hManifest with
      ⟨m, hSome⟩
    rcases advance_manifest_some ev.seq hSome with
      ⟨m', hSome', _⟩
    simp [hSome']
  · rw [lastSeq_congr (Disk.advance_lines _ _)]
    exact advance_appliedSeq_le hMark hSeq
  · left
    simpa using Folded.advance ev.seq hFolded

/- Folding an event of the log, the last one or again. -/
theorem Sound.replayed
    (hSound : Sound env s)
    (hMem : ev ∈ s.events)
    (hPlan : reduceEventToOps env s ev = .ok ops)
    (hCase : Folded env s.events s ∨
      ∃ events, s.events = events ++ [ev] ∧
        Folded env events s) :
    (∀ j, SoundCut (.projected s ev j) →
        Sound env (applyOps (ops.take (j + 1)) s)) ∧
      Sound env ((applyOps ops s).advance ev.seq) ∧
      Folded env s.events
        ((applyOps ops s).advance ev.seq) := by
  have hFolded : ∀ j, SoundCut (.projected s ev j) →
      Folded env s.events (applyOps (ops.take (j + 1)) s) := by
    intro j hCut
    rcases hCase with hAgain | ⟨events, hLog, hBefore⟩
    · exact .again (j + 1) hAgain hMem hPlan
    · rw [hLog]
      exact hBefore.cutShort hLog hPlan hCut
  have hAll : Folded env s.events
      (applyOps (ops.take ops.length) s) := by
    rcases hCase with hAgain | ⟨events, hLog, hBefore⟩
    · exact .again ops.length hAgain hMem hPlan
    · rw [hLog, List.take_length]
      exact .fold hBefore hLog hPlan
  have hWritten : ∀ k,
      Folded env s.events (applyOps (ops.take k) s) →
      Sound env (applyOps (ops.take k) s) ∧
        Sound env
          ((applyOps (ops.take k) s).advance ev.seq) :=
    fun _ => sound_written hSound.readable hSound.ordered
      hSound.behind hMem hPlan
      (manifest_ne_none_of_applyOps hSound.manifest)
  refine ⟨fun j hCut => (hWritten _ (hFolded j hCut)).1, ?_⟩
  have hDone := (hWritten _ hAll).2
  rw [List.take_length] at hDone hAll
  exact ⟨hDone, .advance ev.seq hAll⟩

/-
  Before the lines `rest` are read: the log is folded, or
  nothing has changed and its last event is still to come.
-/
structure Replayed
    (env : RunEnv)
    (d : Disk)
    (rest : List LogLine)
    (s : Disk) : Prop where
  lines : s.lines = d.lines
  sound : Sound env s
  unread : ∀ line ∈ rest, line ∈ d.lines
  progress : Folded env s.events s ∨
    (s = d ∧ ∃ events last, Pending env d events last ∧
      .event last ∈ rest)

theorem Replayed.skip
    {line : LogLine} {rest : List LogLine}
    (hReplayed : Replayed env d (line :: rest) s)
    (hLine : ∀ ev, line = .event ev → s = d →
      d.appliedSeq < ev.seq → ¬ Accepted env d ev) :
    Replayed env d rest s := by
  refine ⟨hReplayed.lines, hReplayed.sound,
    fun l hMem =>
      hReplayed.unread l (List.mem_cons_of_mem _ hMem), ?_⟩
  rcases hReplayed.progress with
    hFolded | ⟨hSame, events, last, hPending, hMem⟩
  · exact .inl hFolded
  · refine .inr ⟨hSame, events, last, hPending, ?_⟩
    rcases List.mem_cons.mp hMem with hHead | hTail
    · exact absurd hPending.accepted
        (hLine last hHead.symm hSame hPending.ahead)
    · exact hTail

/- What a replayed event may find. -/
theorem Replayed.cases
    {rest : List LogLine}
    (hReplayed : Replayed env d (.event ev :: rest) s)
    (hAhead : d.appliedSeq < ev.seq)
    (hPlan : reduceEventToOps env s ev = .ok ops) :
    ev ∈ s.events ∧
      (Folded env s.events s ∨
        ∃ events, s.events = events ++ [ev] ∧
          Folded env events s) := by
  have hMem : ev ∈ s.events := by
    rw [Disk.mem_events, hReplayed.lines]
    exact hReplayed.unread _ List.mem_cons_self
  refine ⟨hMem, ?_⟩
  rcases hReplayed.progress with
    hFolded | ⟨rfl, events, last, hPending, _⟩
  · exact .inl hFolded
  · rw [hPending.log, List.mem_append,
      List.mem_singleton] at hMem
    rcases hMem with hOld | rfl
    · exact absurd ⟨ops, hPlan⟩
        (hPending.refused ev hOld hAhead)
    · exact .inr ⟨events, hPending.log, hPending.folded⟩

theorem Sound.wp_catchUp (hSound : Sound env d) :
    Durable.wp (replayUnappliedUnlocked env)
      (fun _ s => s.lines = d.lines ∧ Sound env s ∧
        Folded env s.events s)
      (fun _ s => s.lines = d.lines ∧ Sound env s)
      (fun t s => s.lines = d.lines ∧
        (SoundCut t → Sound env s)) d := by
  have hTruncated : Sound env { d with torn := false } :=
    hSound.congr rfl rfl rfl (fun hPlain => hPlain)
  rw [wp_replayUnappliedUnlocked]
  refine ⟨fun _ => ⟨rfl, fun _ => hTruncated⟩, ?_⟩
  refine wp_replayUnapplied (fun _ _ => ⟨rfl, hTruncated⟩) ?_
    (fun _ _ _ _ _ => ⟨rfl, hTruncated⟩) ?_ ?_
  · exact fun hNone => absurd hNone hSound.manifest
  · intro m last hManifest _ hTail hCovered
    refine ⟨rfl, hTruncated, ?_⟩
    rcases hTruncated.folded with
      hFolded | ⟨events, ev, hPending⟩
    · exact hFolded
    · have hAhead := hPending.ahead
      rw [Disk.appliedSeq_of_manifest hManifest] at hAhead
      have hEnd :=
        recoverLastSeq_eq hTruncated.ordered.plain hTail
      rw [Disk.lastSeq, hPending.log, lastSeqOf_concat] at hEnd
      omega
  · intro m last hManifest _ _ _
    have hMark := Disk.appliedSeq_of_manifest hManifest
    rw [← hMark]
    refine Durable.wp_mono
      (wp_replayLines (L := Replayed env { d with torn := false })
        (E := fun _ s => s.lines = d.lines ∧ Sound env s)
        ?_ ?_ ?_ ?_ ⟨rfl, hTruncated, fun _ h => h, ?_⟩)
      ?_ (fun _ _ h => h) (fun _ _ h => h)
    · exact fun _ _ hLoop => hLoop.sound.readable
    · intro line rest s hLoop hOld
      refine hLoop.skip (fun ev hLine _ hAhead => ?_)
      exact absurd hAhead (not_lt.mpr (hOld ev hLine))
    · intro ev rest s e hLoop _ hRefused
      refine ⟨fun _ => hLoop.skip ?_,
        fun _ => ⟨hLoop.lines, hLoop.sound⟩⟩
      rintro _ ⟨⟩ rfl _
      exact not_accepted_iff.mpr ⟨e, hRefused⟩
    · intro ev rest s ops hLoop hNew hPlan
      rcases hLoop.cases hNew hPlan with ⟨hMem, hCase⟩
      rcases hLoop.sound.replayed hMem hPlan hCase with
        ⟨hCuts, hDone, hFolded⟩
      refine ⟨fun j _ => ⟨by simp [hLoop.lines], hCuts j⟩,
        fun _ => ⟨by simp [hLoop.lines], fun _ => hDone⟩,
        by simp [hLoop.lines], hDone, fun l hRest =>
          hLoop.unread l (List.mem_cons_of_mem _ hRest),
        .inl (by simpa using hFolded)⟩
    · rcases hTruncated.folded with
        hFolded | ⟨events, ev, hPending⟩
      · exact .inl hFolded
      · refine .inr ⟨rfl, events, ev, hPending, ?_⟩
        rw [← Disk.mem_events, hPending.log]
        simp
    · intro _ s hLoop
      refine ⟨hLoop.lines, hLoop.sound, ?_⟩
      rcases hLoop.progress with
        hFolded | ⟨_, _, _, _, hNever⟩
      · exact hFolded
      · cases hNever

end CatchUp

------------------------------------------------------------
-- Appends and Repairs
------------------------------------------------------------

section Operations

variable {env : RunEnv} {base : List Event} {d s : Disk}
variable {ev : Event} {ops : List ProjectionOp}

/- The log never loses an event. -/
def Keeps (env : RunEnv) (base : List Event) (d : Disk) : Prop :=
  Sound env d ∧ base <+: d.events

theorem Keeps.congr
    {d' : Disk}
    (hKeeps : Keeps env base d)
    (hManifest : d'.manifest = d.manifest)
    (hNodes : d'.nodes = d.nodes)
    (hEvents : d'.events = d.events)
    (hPlain : d.Plain → d'.Plain) :
    Keeps env base d' :=
  ⟨hKeeps.1.congr hManifest hNodes hEvents hPlain,
    hEvents ▸ hKeeps.2⟩

/- An appended event is pending until it is folded. -/
theorem Sound.logged
    (hSound : Sound env s)
    (hFolded : Folded env s.events s)
    (hSettled : Settled env s)
    (hSeq : ev.seq = s.lastSeq + 1)
    (hPlan : reduceEventToOps env s ev = .ok ops) :
    Sound env (s.log ev) := by
  have hSame := sameProjections_log ev s
  have hLast : (s.log ev).lastSeq = ev.seq := by
    rw [Disk.lastSeq, Disk.log_events, lastSeqOf_concat]
  refine ⟨hSound.manifest, hSound.readable,
    ordered_log hSound.ordered hSeq, ?_, .inr ⟨s.events, ev, ?_⟩⟩
  · have hBehind : s.appliedSeq ≤ s.lastSeq := hSound.behind
    change s.appliedSeq ≤ _
    omega
  · refine ⟨Disk.log_events ev s, .same hFolded hSame.symm, ?_,
      ⟨ops, (reduce_logged env s ev).trans hPlan⟩, ?_⟩
    · have hBehind : s.appliedSeq ≤ s.lastSeq := hSound.behind
      change s.appliedSeq < _
      omega
    · intro e hMem hAhead
      rw [accepted_congr hSame, not_accepted_iff]
      rcases Option.ne_none_iff_exists'.mp hSound.manifest with
        ⟨m, hSome⟩
      refine hSettled.refused m hSome e hMem ?_
      rwa [← Disk.appliedSeq_of_manifest hSome]

theorem Keeps.gateWrites
    (hKeeps : Keeps env base s)
    (hFolded : Folded env s.events s)
    (hSettled : Settled env s)
    (hSeq : ev.seq = s.lastSeq + 1)
    (hPlan : reduceEventToOps env s ev = .ok ops) :
    GateWrites (fun t s' => SoundCut t → Keeps env base s')
      (fun s' => Keeps env base s' ∧ Folded env s'.events s')
      s ev ops := by
  have hLogged :=
    hKeeps.1.logged hFolded hSettled hSeq hPlan
  have hMore : base <+: (s.log ev).events := by
    rw [Disk.log_events]
    exact hKeeps.2.trans (List.prefix_append _ _)
  rcases hLogged.replayed (by simp)
      ((reduce_logged env s ev).trans hPlan)
      (.inr ⟨s.events, Disk.log_events ev s,
        .same hFolded (sameProjections_log ev s).symm⟩) with
    ⟨hCuts, hDone, hAll⟩
  have hEnd :
      Keeps env base
        ((applyOps ops (s.log ev)).advance ev.seq) :=
    ⟨hDone, by simpa using hMore⟩
  refine ⟨?_, ?_, ?_, ?_, hEnd, by simpa using hAll⟩
  · exact fun _ =>
      hKeeps.congr rfl rfl rfl (fun hPlain => hPlain)
  · exact fun _ => ⟨hLogged, hMore⟩
  · exact fun j _ hCut => ⟨hCuts j hCut, by simpa using hMore⟩
  · exact fun _ _ => hEnd

/- A call keeps the log, and folds it when it succeeds. -/
theorem Keeps.wp_call
    (hKeeps : Keeps env base d) (call : Call) :
    Durable.wp (call.run env)
      (fun _ s => Keeps env base s ∧ Folded env s.events s)
      (fun _ s => Keeps env base s)
      (fun t s => SoundCut t → Keeps env base s) d := by
  refine Taskfleet.wp_call call
    (R := fun s => (Keeps env base s ∧ Folded env s.events s) ∧
      Settled env s)
    ?_ (fun _ hR => hR.1.1) (fun _ hR => hR.1)
    (fun _ hR => hR.2.readable) ?_ hKeeps
  · intro s hI
    refine Durable.wp_mono
      (Durable.wp_and hI.1.wp_catchUp
        (wp_catchUp_settled hI.1.ordered)) ?_ ?_ ?_
    · rintro _ s' ⟨⟨hLines, hSound, hFolded⟩, _, hSettled⟩
      refine ⟨⟨⟨hSound, ?_⟩, hFolded⟩, hSettled⟩
      rw [Disk.events_congr hLines]
      exact hI.2
    · rintro _ s' ⟨⟨hLines, hSound⟩, _⟩
      refine ⟨hSound, ?_⟩
      rw [Disk.events_congr hLines]
      exact hI.2
    · rintro t s' ⟨⟨hLines, hSound⟩, _⟩ hCut
      refine ⟨hSound hCut, ?_⟩
      rw [Disk.events_congr hLines]
      exact hI.2
  · intro s last r ops _ hR hLast hPlan
    obtain rfl := recoverLastSeq_eq hR.1.1.1.ordered.plain hLast
    exact hR.1.1.gateWrites hR.1.2 hR.2 rfl hPlan

theorem Keeps.of_opRun
    {Init : Disk → Prop}
    (hInit : ∀ s, Init s → Keeps env base s)
    (hRun : OpRun env Init SoundCut d) :
    Keeps env base d :=
  hRun.invariant hInit
    (fun _ _ hKeeps hManifest hNodes hEvents hPlain =>
      hKeeps.congr hManifest hNodes hEvents hPlain)
    (fun call _ hKeeps =>
      Durable.wp_mono (hKeeps.wp_call call) (fun _ _ h => h.1)
        (fun _ _ h => h) (fun _ _ h => h))
    (fun hNever => hNever)

theorem Booted.sound (hBooted : Booted env d) :
    Sound env d := by
  have hWritten : ∀ (r : Request) (ops : List ProjectionOp) k,
      reduceEventToOps env Disk.empty (r.event env 1) =
        .ok ops →
      (applyOps (ops.take k)
        (Disk.empty.log (r.event env 1))).manifest ≠ none →
      Folded env [r.event env 1]
        (applyOps (ops.take k)
          (Disk.empty.log (r.event env 1))) →
      Sound env
          (applyOps (ops.take k)
            (Disk.empty.log (r.event env 1))) ∧
        Sound env
          ((applyOps (ops.take k)
            (Disk.empty.log (r.event env 1))).advance 1) := by
    intro r ops k hPlan hManifest hFolded
    have hReadable :
        Readable env (Disk.empty.log (r.event env 1)) :=
      readable_empty
    exact sound_written hReadable
      (ordered_log ordered_empty rfl) (Nat.zero_le _)
      (by simp) ((reduce_logged env _ _).trans hPlan) hManifest
      hFolded
  have hStart : ∀ r : Request,
      Folded env [] (Disk.empty.log (r.event env 1)) :=
    fun _ => .start rfl rfl
  refine hBooted.rule ?_ ?_
  · intro r ops j hKind hPlan hManifest
    refine (hWritten r ops (j + 1) hPlan hManifest ?_).1
    refine (hStart r).cutShort rfl
      ((reduce_logged env _ _).trans hPlan) ?_
    intro _ hOther
    simp [Request.event, hKind] at hOther
  · intro r ops _ hPlan hManifest
    have hDone := hWritten r ops ops.length hPlan
    rw [List.take_length] at hDone
    exact (hDone hManifest
      (.fold (hStart r) rfl
        ((reduce_logged env _ _).trans hPlan))).2

/- What is appended to a sound run is what a reader finds. -/
theorem Sound.run_call
    {text : JsonText}
    {call : Call}
    (hSound : Sound env d)
    (hBack : d.ReadsBack text)
    (hCall : call.ReadsBack text) :
    (FileOp.op (.call call)).run text env d =
      call.run env d := by
  apply Durable.view_of_fixed
  intro entry hEntry
  apply Disk.reread_of_readsBack
  exact (call.wp_readsBack hSound.ordered hBack hCall).1
    entry hEntry

end Operations

------------------------------------------------------------
-- The Watermark Never Leads
------------------------------------------------------------

/- Created runs whose payloads read back. -/
def BootedFile (text : JsonText) (env : RunEnv) (d : Disk) :
    Prop :=
  Booted env d ∧ d.ReadsBack text

/-
  The watermark is at most the recovered sequence number, no
  number is given to two events however the run goes on, and
  a successful call leaves every event of the log folded.
-/
structure NeverLeads
    (text : JsonText)
    (env : RunEnv)
    (Met : FileOp → Prop)
    (Cut : Boundary → Prop)
    (d : Disk) : Prop where
  behind : ∀ last, recoverLastSeq d.lines = .ok last →
    d.appliedSeq ≤ last
  once : ∀ d', FileRun text env (fun s => s = d) Met Cut d' →
    ∀ e ∈ d.events, ∀ e' ∈ d'.events, e.seq = e'.seq → e = e'
  folded : ∀ call : Call, Met (.op (.call call)) →
    ((FileOp.op (.call call)).run text env).result d =
      .ok () →
    (((FileOp.op (.call call)).run text env).final
        d).manifest ≠ none ∧
      Folded env
        (((FileOp.op (.call call)).run text env).final
          d).events
        (((FileOp.op (.call call)).run text env).final d)

namespace Sample

/- An operation on files that runs to its end. -/
def onFile (o : FileOp) (d : Disk) : Disk :=
  (o.run jsonText env).final d

def created : Disk := after [createRun]

/- A question cut between its projection and the watermark. -/
def asked : Disk :=
  ((FileOp.op (.call ask)).run jsonText env).cutAt 2
    (onFile (.op (.call createNode)) created)

/- A created run with a line that is no event. -/
def scribbled : Disk := onFile (.op (.foreign 0 .junk)) created

/- Its quarantine, cut after the rename. -/
def renamed : Disk :=
  ((FileOp.op (.quarantine "ts")).run jsonText env).cutAt 0
    scribbled

/- A note that the library does not read back, excised. -/
def unread : Disk :=
  onFile (.op (.quarantine "ts"))
    (onFile
      (.op (.call (.append
        (request (.other "note") none (Json.nested 127)))))
      created)

/- A header from outside, with a number already used. -/
def headed : Disk :=
  onFile (.header 2 1 none)
    (onFile (.op (.call createNode)) created)

theorem bootedFile_created : BootedFile jsonText env created :=
  ⟨⟨createRun, rfl, .inl rfl, by decide +kernel⟩,
    by decide +kernel⟩

end Sample

/-
  In a booted run of locked operations with sound cuts, whose
  payloads read back and that no header line is put into, the
  watermark never leads.
-/
theorem watermark_sound
    (text : JsonText)
    (env : RunEnv)
    (d : Disk)
    (hRun :
      FileRun text env (BootedFile text env)
        (FileOp.Meets text) SoundCut d) :
    NeverLeads text env (FileOp.Meets text) SoundCut d := by
  have hBooted : ∀ s, BootedFile text env s → Keeps env [] s :=
    fun s hBooted => ⟨hBooted.1.sound, List.nil_prefix⟩
  rcases hRun.opRun (fun _ hBooted => hBooted.2)
      (fun s hOps => (Keeps.of_opRun hBooted hOps).1.ordered)
    with ⟨hOps, hBack⟩
  have hKeeps : Keeps env [] d := .of_opRun hBooted hOps
  have hSound := hKeeps.1
  constructor
  · intro last hLast
    rw [recoverLastSeq_eq hSound.ordered.plain hLast]
    exact hSound.behind
  · intro d' hLater e hMem e' hMem' hSeq
    have hHere : ∀ s, s = d → Keeps env d.events s := by
      rintro s rfl
      exact ⟨hSound, List.prefix_refl _⟩
    have hOn := hLater.opRun (fun s hSame => hSame ▸ hBack)
      (fun s hOps => (Keeps.of_opRun hHere hOps).1.ordered)
    have hMore : Keeps env d.events d' :=
      .of_opRun hHere hOn.1
    exact seq_injective hMore.1.ordered
      (hMore.2.subset hMem) hMem' hSeq
  · intro call hCall hOk
    have hSame := hSound.run_call hBack hCall
    unfold Durable.result at hOk
    unfold Durable.final
    rw [hSame] at hOk ⊢
    have hDone := Durable.wp_ok (hKeeps.wp_call call) hOk
    exact ⟨hDone.1.1.manifest, hDone.2⟩

/- A question cut before its watermark. -/
theorem asked_watermark_sound :
    Sample.asked.appliedSeq = 2 ∧
      recoverLastSeq Sample.asked.lines = .ok 3 ∧
      let replayed :=
        Sample.onFile (.op (.call .replay)) Sample.asked
      replayed.appliedSeq = 3 ∧
        Folded Sample.env replayed.events replayed := by
  have hStart :
      FileRun Sample.jsonText Sample.env
        (BootedFile Sample.jsonText Sample.env)
        (FileOp.Meets Sample.jsonText) SoundCut
        Sample.created :=
    .start Sample.bootedFile_created
  have hNode :
      FileRun Sample.jsonText Sample.env
        (BootedFile Sample.jsonText Sample.env)
        (FileOp.Meets Sample.jsonText) SoundCut
        (Sample.onFile (.op (.call Sample.createNode))
          Sample.created) :=
    hStart.done (by rintro r rfl; decide +kernel)
  have hRun :
      FileRun Sample.jsonText Sample.env
        (BootedFile Sample.jsonText Sample.env)
        (FileOp.Meets Sample.jsonText) SoundCut
        Sample.asked := by
    refine hNode.cutAt
      (by rintro r rfl; decide +kernel) 2
      (fun t => t.written.any (fun kind => kind ≠ .nodeCreated))
      ?_ (by decide +kernel)
    intro t hAllowed
    cases t with
    | projected planned ev k =>
        intro _ hKind
        simp [Boundary.written, hKind] at hAllowed
    | _ => cases hAllowed
  have hSound :=
    (watermark_sound Sample.jsonText Sample.env Sample.asked
      hRun).folded .replay (by rintro r ⟨⟩) (by decide +kernel)
  exact ⟨by decide +kernel, by decide +kernel,
    by decide +kernel, hSound.2⟩

/-
  A quarantine cut after its rename leaves a watermark ahead
  of the log, and the next append takes its number again.
-/
theorem not_watermark_sound :
    ¬ ∀ (text : JsonText) (env : RunEnv) (d : Disk),
      FileRun text env (BootedFile text env) (fun _ => True)
        (fun _ => True) d →
        NeverLeads text env (fun _ => True) (fun _ => True)
          d := by
  intro hAlways
  have hStart :
      FileRun Sample.jsonText Sample.env
        (BootedFile Sample.jsonText Sample.env) (fun _ => True)
        (fun _ => True) Sample.created :=
    .start Sample.bootedFile_created
  have hScribbled :
      FileRun Sample.jsonText Sample.env
        (BootedFile Sample.jsonText Sample.env) (fun _ => True)
        (fun _ => True) Sample.scribbled :=
    hStart.done trivial
  have hRun :
      FileRun Sample.jsonText Sample.env
        (BootedFile Sample.jsonText Sample.env) (fun _ => True)
        (fun _ => True) Sample.renamed :=
    hScribbled.cutAt trivial 0
      (fun _ => true) (fun _ _ => trivial) (by decide +kernel)
  have hBound :=
    (hAlways _ _ Sample.renamed hRun).behind 0
      (by decide +kernel)
  have hAhead : Sample.renamed.appliedSeq = 1 := by
    decide +kernel
  omega

/-
  Each of the conditions on lines is needed, with sound cuts
  alone. A quarantine takes the line of a payload that does
  not read back, whose number has been applied; a header put
  in from outside hides the numbers before it.
-/
theorem leads_without_conditions :
    (FileRun Sample.jsonText Sample.env
          (BootedFile Sample.jsonText Sample.env)
          (fun _ => True) SoundCut Sample.unread ∧
        recoverLastSeq Sample.unread.lines = .ok 1 ∧
        Sample.unread.appliedSeq = 2) ∧
      FileRun Sample.jsonText Sample.env
          (BootedFile Sample.jsonText Sample.env)
          (fun _ => True) SoundCut Sample.headed ∧
        recoverLastSeq Sample.headed.lines = .ok 1 ∧
        Sample.headed.appliedSeq = 2 := by
  have hStart :
      FileRun Sample.jsonText Sample.env
        (BootedFile Sample.jsonText Sample.env) (fun _ => True)
        SoundCut Sample.created :=
    .start Sample.bootedFile_created
  refine ⟨⟨?_, by decide +kernel, by decide +kernel⟩, ?_,
    by decide +kernel, by decide +kernel⟩
  · exact (hStart.done trivial).done trivial
  · exact (hStart.done trivial).done trivial

end Taskfleet
