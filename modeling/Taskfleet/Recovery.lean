import Taskfleet.Rebuild
import Taskfleet.Reducer.Refold

/-
  Convergence of crash recovery.

  A call that is cut leaves at most one event on the log
  whose plan was not carried out to the end. The catch-up of
  the next call folds it again. Where the cut was before the
  first projection write, or the event stands to be folded
  twice, the projections become those of the uninterrupted
  run, up to the clock of the manifest.

  Main declarations:
    * `SafeCut`
    * `CaughtUp`, `Stranded`
    * `recovery_converges`
-/

------------------------------------------------------------
-- Safe Cuts
------------------------------------------------------------

namespace Taskfleet

open Fallible

/-
  A cut after a projection write is safe if the event may be
  folded again and, where the manifest is still to follow a
  node, brings it no source branch.
-/
def SafeCut : Boundary → Prop
| .projected planned ev k =>
    Refoldable planned ev ∧ (k = 0 → KeepsBranch planned ev)
| _ => True

------------------------------------------------------------
-- Caught-Up and Stranded States
------------------------------------------------------------

/-
  The projections are those of an uninterrupted run with the
  same log, and the watermark is at its end.
-/
structure CaughtUp (env : RunEnv) (d : Disk) : Prop where
  lines : d.lines = d.events.map .event
  ordered : d.Ordered
  readable : Readable env d
  covered : d.appliedSeq = d.lastSeq
  live : ∃ b, CrashFreeRun env b ∧ b.events = d.events ∧
    SameProjections d b

/-
  The last event of the log, planned on a caught-up run, has
  `k` of its writes performed and no watermark yet.
-/
structure StrandedAt
    (env : RunEnv)
    (p : Disk)
    (r : Request)
    (ops : List ProjectionOp)
    (k : Nat) : Prop where
  before : CaughtUp env p
  plan :
    reduceEventToOps env p (r.event env (p.lastSeq + 1)) =
      .ok ops
  safe : ∀ j, k = j + 1 →
    SafeCut (.projected p (r.event env (p.lastSeq + 1)) j)

/- The state of a stranded run. -/
def strandedDisk
    (env : RunEnv)
    (p : Disk)
    (r : Request)
    (ops : List ProjectionOp)
    (k : Nat) : Disk :=
  applyOps (ops.take k) (p.log (r.event env (p.lastSeq + 1)))

/- The states of an interrupted run. -/
def Recoverable (env : RunEnv) (d : Disk) : Prop :=
  d.manifest ≠ none ∧
    (CaughtUp env d ∨
      ∃ p r ops k, StrandedAt env p r ops k ∧
        d = strandedDisk env p r ops k)

section Steps

variable {env : RunEnv} {d p s : Disk} {r : Request}
variable {ops : List ProjectionOp} {k : Nat}

theorem SameProjections.advance
    {a b : Disk}
    (hSame : SameProjections a b) (seq : Nat) :
    SameProjections (a.advance seq) (b.advance seq) := by
  refine ⟨by simp [hSame.nodes], ?_⟩
  unfold Disk.advance Disk.countNodeFiles
  rcases hSame.manifests with ⟨hA, hB⟩ | ⟨m, t, hA, hB⟩
  · rw [hA, hB]
    simp [hA, hB]
  · rw [hA, hB, hSame.nodes]
    dsimp only
    split
    · rfl
    · simp [hA, hB, Manifest.unstamped]

theorem SameProjections.appliedSeq
    {a b : Disk} (hSame : SameProjections a b) :
    a.appliedSeq = b.appliedSeq := by
  unfold Disk.appliedSeq
  rcases hSame.manifests with ⟨hA, hB⟩ | ⟨m, t, hA, hB⟩
  · rw [hA, hB]
  · rw [hA, hB]
    rfl

theorem caughtUp_empty : CaughtUp env Disk.empty where
  lines := rfl
  ordered := ordered_empty
  readable := readable_empty
  covered := rfl
  live := ⟨Disk.empty, .start rfl, rfl, .refl _⟩

/- A torn tail is not part of the log. -/
theorem CaughtUp.torn
    (hCaught : CaughtUp env d) (torn : Bool) :
    CaughtUp env { d with torn } := by
  rcases hCaught.live with ⟨b, hRun, hEvents, hSame⟩
  exact
    { lines := hCaught.lines
      ordered := Disk.Ordered.congr (d := d) rfl hCaught.ordered
      readable := hCaught.readable
      covered := hCaught.covered
      live :=
        ⟨b, hRun, hEvents, hSame.nodes, hSame.manifest⟩ }

/- The effect of an uninterrupted append. -/
theorem append_final
    (hClean : Clean env d)
    (hPlan :
      reduceEventToOps env d (r.event env (d.lastSeq + 1)) =
        .ok ops) :
    ((Call.append r).run env).final d =
      (applyOps ops
        (d.log (r.event env (d.lastSeq + 1)))).advance
          (d.lastSeq + 1) := by
  have hLast : recoverLastSeq d.lines = .ok d.lastSeq := by
    rw [hClean.lines, recoverLastSeq_events]
    rfl
  have hSame : { d with torn := false } = d := by
    rw [← hClean.torn]
  refine Durable.wp_final
    (C := fun _ _ => True) (I := fun s => s = _) ?_
  simp only [Call.run, Durable.wp_bind, Durable.wp_pure]
  refine wp_appendAndApplyUnlocked
    (wp_appendAndApplyReporting (R := fun s => s = d) ?_ ?_ ?_
      ?_ ?_)
  · refine wp_catchUp_covered hClean.readable hClean.lines ?_
      trivial hSame
    intro hSome
    rcases Option.ne_none_iff_exists'.mp hSome with ⟨m, hM⟩
    rw [Disk.appliedSeq_of_manifest hM]
    exact hClean.covered m hM
  · rintro s rfl
    exact hClean.readable
  · rintro s e rfl hError
    rw [hLast] at hError
    cases hError
  · rintro s last e rfl hTail hRefused
    rw [hLast, Except.ok.injEq] at hTail
    rw [← hTail, hPlan] at hRefused
    cases hRefused
  · rintro s last ops' rfl hTail hPlan'
    rw [hLast, Except.ok.injEq] at hTail
    subst hTail
    rw [hPlan, Except.ok.injEq] at hPlan'
    subst hPlan'
    exact ⟨trivial, trivial, fun _ _ => trivial,
      fun _ => trivial, rfl⟩

/-
  A run whose log gained one event, and whose projections
  are those of its plan, is caught up once the watermark
  moves.
-/
theorem CaughtUp.accept
    (hCaught : CaughtUp env p)
    (hPlan :
      reduceEventToOps env p (r.event env (p.lastSeq + 1)) =
        .ok ops)
    (hLines :
      s.lines =
        p.lines ++ [.event (r.event env (p.lastSeq + 1))])
    (hManifest : s.manifest ≠ none)
    (hSame : SameProjections s (applyOps ops p))
    (hReadable : Readable env s) :
    CaughtUp env (s.advance (p.lastSeq + 1)) := by
  have hEvents :
      s.events =
        p.events ++ [r.event env (p.lastSeq + 1)] := by
    rw [← Disk.log_events]
    exact Disk.events_congr hLines
  rcases hCaught.live with ⟨b, hRun, hBase, hNear⟩
  have hClean := clean_of_crashFreeRun hRun
  have hLast : b.lastSeq = p.lastSeq := by
    rw [Disk.lastSeq, hBase]
    rfl
  have hPlan' :
      reduceEventToOps env b (r.event env (b.lastSeq + 1)) =
        .ok ops := by
    rw [hLast, ← hPlan]
    refine (reduce_congr hNear (fun _ wanted => ?_)).symm
    rw [hCaught.lines, hClean.lines, hBase]
  refine ⟨?_, ?_, readable_advance hReadable, ?_, ?_⟩
  · rw [Disk.advance_lines, Disk.advance_events, hLines,
      hEvents, hCaught.lines]
    simp
  · have hLog :
        (p.log (r.event env (p.lastSeq + 1))).Ordered :=
      ordered_log hCaught.ordered rfl
    refine hLog.congr ?_
    rw [Disk.advance_lines, hLines]
    rfl
  · rcases Option.ne_none_iff_exists'.mp hManifest with
      ⟨m, hSome⟩
    have hMark : s.appliedSeq = p.lastSeq := by
      rw [hSame.appliedSeq, appliedSeq_of_whole hPlan,
        hCaught.covered]
    have hTail :
        (s.advance (p.lastSeq + 1)).lastSeq = p.lastSeq + 1 := by
      change lastSeqOf (s.advance (p.lastSeq + 1)).events = _
      rw [Disk.advance_events, hEvents, lastSeqOf_concat]
      rfl
    rw [advance_appliedSeq hSome (by omega), hTail]
  · refine ⟨((Call.append r).run env).final b,
      hRun.done (.append r), ?_, ?_⟩
    · rw [append_final hClean hPlan', Disk.advance_events,
        Disk.applyOps_events, Disk.log_events, hBase,
        Disk.advance_events, hEvents, hLast]
    · rw [append_final hClean hPlan', hLast]
      refine SameProjections.advance (hSame.trans ?_) _
      exact (hNear.trans (sameProjections_log _ b).symm).applyOps
        ops

/- The end of an append or of a replayed event. -/
theorem CaughtUp.caughtUp_advance
    {again : List ProjectionOp}
    (hCaught : CaughtUp env p)
    (hPlan :
      reduceEventToOps env p (r.event env (p.lastSeq + 1)) =
        .ok ops)
    (hAgain :
      reduceEventToOps env d (r.event env (p.lastSeq + 1)) =
        .ok again)
    (hLines :
      d.lines =
        p.lines ++ [.event (r.event env (p.lastSeq + 1))])
    (hManifest : (applyOps again d).manifest ≠ none)
    (hReadable : Readable env d)
    (hSame :
      SameProjections (applyOps again d) (applyOps ops p)) :
    CaughtUp env
        ((applyOps again d).advance (p.lastSeq + 1)) ∧
      ((applyOps again d).advance
        (p.lastSeq + 1)).manifest ≠ none := by
  have hOps := writable_of_planned (planned_of_reduce hAgain).2
  refine ⟨hCaught.accept hPlan (by simp [hLines]) hManifest
    hSame (readable_applyOps hReadable hOps), ?_⟩
  rcases Option.ne_none_iff_exists'.mp hManifest with
    ⟨m, hSome⟩
  rcases advance_manifest_some (p.lastSeq + 1) hSome with
    ⟨m', hSome', _⟩
  simp [hSome']

/-
  Folding the stranded event again carries its plan out, and
  a safe cut on the way leaves a stranded run.
-/
theorem StrandedAt.refold
    (hStranded : StrandedAt env p r ops k)
    (hDisk : d = strandedDisk env p r ops k) :
    ∃ again,
      reduceEventToOps env d (r.event env (p.lastSeq + 1)) =
          .ok again ∧
        SameProjections (applyOps again d) (applyOps ops p) ∧
        ∀ j,
          SafeCut
              (.projected d (r.event env (p.lastSeq + 1)) j) →
            ∃ k', StrandedAt env p r ops k' ∧
              applyOps (again.take (j + 1)) d =
                strandedDisk env p r ops k' := by
  have hLogged :=
    (reduce_logged env p _).trans hStranded.plan
  have hBase :
      SameProjections
        (applyOps ops
          (p.log (r.event env (p.lastSeq + 1))))
        (applyOps ops p) :=
    (sameProjections_log _ p).applyOps ops
  subst hDisk
  cases k with
  | zero =>
      refine ⟨ops, hLogged, hBase, ?_⟩
      intro j hSafe
      refine ⟨j + 1, ⟨hStranded.before, hStranded.plan, ?_⟩,
        rfl⟩
      rintro j' ⟨⟩
      exact hSafe
  | succ j₀ =>
      have hSafe := hStranded.safe j₀ rfl
      have hSame := same_of_cut hLogged hSafe.2
      rcases refold_of_cut j₀ hLogged hSafe.1 with
        ⟨again, hAgain, hIdle⟩
      refine ⟨again, hAgain, ?_, ?_⟩
      · unfold strandedDisk
        rw [applyOps_idle hIdle]
        exact hSame.trans hBase
      · intro j _
        refine ⟨j₀ + 1, hStranded, ?_⟩
        exact applyOps_idle (fun op hMem =>
          hIdle op (List.mem_of_mem_take hMem))

theorem strandedDisk_lines :
    (strandedDisk env p r ops k).lines =
      p.lines ++ [.event (r.event env (p.lastSeq + 1))] := by
  simp [strandedDisk, Disk.log]

theorem StrandedAt.readable
    (hStranded : StrandedAt env p r ops k) :
    Readable env (strandedDisk env p r ops k) := by
  have hOps :=
    writable_of_planned (planned_of_reduce hStranded.plan).2
  exact readable_applyOps hStranded.before.readable
    (fun op hMem => hOps op (List.mem_of_mem_take hMem))

theorem StrandedAt.appliedSeq
    (hStranded : StrandedAt env p r ops k) :
    (strandedDisk env p r ops k).appliedSeq = p.lastSeq := by
  rw [← hStranded.before.covered]
  apply appliedSeq_of_plan hStranded.plan
  rfl

/- A stranded run is caught up by the next replay. -/
theorem StrandedAt.wp_catchUp
    (hStranded : StrandedAt env p r ops k)
    (hDisk : d = strandedDisk env p r ops k)
    (hManifest : d.manifest ≠ none) :
    Durable.wp (replayUnappliedUnlocked env)
      (fun _ s => CaughtUp env s ∧ s.manifest ≠ none)
      (fun _ _ => False)
      (fun t s => SafeCut t → Recoverable env s) d := by
  have hLines : d.lines = _ := hDisk ▸ strandedDisk_lines
  have hTorn : d.torn = false := by
    simp [hDisk, strandedDisk, Disk.log]
  have hReadable : Readable env d :=
    hDisk ▸ hStranded.readable
  have hMark : d.appliedSeq = p.lastSeq :=
    hDisk ▸ hStranded.appliedSeq
  have hLast :
      recoverLastSeq d.lines = .ok (p.lastSeq + 1) := by
    rw [hLines, recoverLastSeq_concat_event]
    rfl
  have hSame : { d with torn := false } = d := by
    rw [← hTorn]
  rw [wp_replayUnappliedUnlocked, hSame]
  refine ⟨fun hTrue => by simp [hTorn] at hTrue, ?_⟩
  refine wp_replayUnapplied ?_ ?_ ?_ ?_ ?_
  · exact fun hNot => absurd hReadable hNot
  · exact fun hNone => absurd hNone hManifest
  · intro m e _ _ hError
    rw [hLast] at hError
    cases hError
  · intro m last hSome _ hTail hCovered
    rw [hLast, Except.ok.injEq] at hTail
    rw [Disk.appliedSeq_of_manifest hSome] at hMark
    omega
  · intro m last hSome _ _ _
    rw [Disk.appliedSeq_of_manifest hSome] at hMark
    rw [hLines, replayLines_skip, replayLines, if_neg]
    · rcases hStranded.refold hDisk with
        ⟨again, hAgain, hNear, hCuts⟩
      have hDone :=
        hStranded.before.caughtUp_advance hStranded.plan
          hAgain hLines
          (manifest_ne_none_of_applyOps hManifest) hReadable
          hNear
      rw [Durable.wp_bind, wp_replayEvent hReadable, hAgain]
      refine ⟨?_, fun _ _ => ⟨hDone.2, .inl hDone.1⟩,
        Durable.wp_pure _ |>.mpr hDone⟩
      intro j _ hSafe
      rcases hCuts j hSafe with ⟨k', hStranded', hState⟩
      refine ⟨?_, .inr ⟨p, r, ops, k', hStranded', hState⟩⟩
      exact manifest_ne_none_of_applyOps hManifest
    · rw [hMark]
      exact not_le.mpr (Nat.lt_succ_self _)
    · intro ev hMem
      rw [hMark]
      exact seq_le_lastSeqOf
        hStranded.before.ordered.increasing
        (Disk.mem_events.mpr hMem)

------------------------------------------------------------
-- Runs With Safe Cuts
------------------------------------------------------------

theorem Recoverable.wp_catchUp
    (hRecoverable : Recoverable env d) :
    Durable.wp (replayUnappliedUnlocked env)
      (fun _ s => CaughtUp env s ∧ s.manifest ≠ none)
      (fun _ _ => False)
      (fun t s => SafeCut t → Recoverable env s) d := by
  rcases hRecoverable with
    ⟨hManifest, hCaught | ⟨p, r, ops, k, hStranded, hDisk⟩⟩
  · have hTruncated := hCaught.torn false
    refine wp_catchUp_covered hCaught.readable hCaught.lines
      (fun _ => hCaught.covered.ge) ?_ ⟨hTruncated, hManifest⟩
    exact fun _ => ⟨hManifest, .inl hTruncated⟩
  · exact hStranded.wp_catchUp hDisk hManifest

/- Every write of the gate leaves a recoverable run. -/
theorem CaughtUp.gateWrites
    (hCaught : CaughtUp env s)
    (hManifest : s.manifest ≠ none)
    (hPlan :
      reduceEventToOps env s (r.event env (s.lastSeq + 1)) =
        .ok ops) :
    GateWrites (fun t s' => SafeCut t → Recoverable env s')
      (fun s' => CaughtUp env s' ∧ s'.manifest ≠ none) s
      (r.event env (s.lastSeq + 1)) ops := by
  have hDone :=
    hCaught.caughtUp_advance hPlan
      ((reduce_logged env s _).trans hPlan) rfl
      (manifest_ne_none_of_applyOps hManifest) hCaught.readable
      ((sameProjections_log _ s).applyOps ops)
  refine ⟨?_, ?_, ?_, fun _ _ => ⟨hDone.2, .inl hDone.1⟩,
    hDone⟩
  · exact fun _ => ⟨hManifest, .inl (hCaught.torn true)⟩
  · refine fun _ =>
      ⟨hManifest, .inr ⟨s, r, ops, 0, ⟨hCaught, hPlan, ?_⟩, rfl⟩⟩
    rintro j ⟨⟩
  · intro j _ hSafe
    refine ⟨manifest_ne_none_of_applyOps hManifest,
      .inr ⟨s, r, ops, j + 1, ⟨hCaught, hPlan, ?_⟩, rfl⟩⟩
    rintro j' ⟨⟩
    exact hSafe

/- A call on a recoverable run, to its end or to a safe cut. -/
theorem Recoverable.wp_call
    (hRecoverable : Recoverable env d) (call : Call) :
    Durable.wp (call.run env)
      (fun _ s => CaughtUp env s ∧ s.manifest ≠ none)
      (fun _ s => Recoverable env s)
      (fun t s => SafeCut t → Recoverable env s) d := by
  refine Taskfleet.wp_call call
    (R := fun s => CaughtUp env s ∧ s.manifest ≠ none)
    (fun s hI => ?_) (fun s hR => ⟨hR.2, .inl hR.1⟩)
    (fun s hR => hR) (fun s hR => hR.1.readable) ?_
    hRecoverable
  · exact Durable.wp_mono hI.wp_catchUp (fun _ _ h => h)
      (fun _ _ h => h.elim) (fun _ _ h => h)
  · intro s last r ops _ hR hLast hPlan
    obtain rfl := recoverLastSeq_eq hR.1.ordered.plain hLast
    exact hR.1.gateWrites hR.2 hPlan

theorem Booted.recoverable (hBooted : Booted env d) :
    Recoverable env d := by
  refine hBooted.rule ?_ ?_
  · intro r ops j hKind hPlan hSome
    refine ⟨hSome, .inr ⟨Disk.empty, r, ops, j + 1,
      ⟨caughtUp_empty, hPlan, ?_⟩, rfl⟩⟩
    intro j' _
    refine ⟨refoldable_of_kind ?_, fun _ hOther => ?_⟩
    · simp [Request.event, hKind, EventKind.accumulates]
    · simp [Request.event, hKind] at hOther
  · intro r ops hKind hPlan hSome
    have hEnd :=
      caughtUp_empty.caughtUp_advance hPlan
        ((reduce_logged env Disk.empty _).trans hPlan) rfl
        hSome readable_empty
        ((sameProjections_log _ Disk.empty).applyOps ops)
    exact ⟨hEnd.2, .inl hEnd.1⟩

/- Safe cuts leave nothing that catch-up cannot repair. -/
theorem BootedRun.recoverable
    (hRun : BootedRun env SafeCut d) : Recoverable env d := by
  refine Durable.Reach.invariant
    (fun s hBooted => hBooted.recoverable) ?_ hRun
  intro call s hRecoverable
  exact Durable.wp_mono (hRecoverable.wp_call call)
    (fun _ s hDone => ⟨hDone.2, .inl hDone.1⟩)
    (fun _ _ h => h) (fun _ _ h => h)

end Steps

------------------------------------------------------------
-- Sample Cuts
------------------------------------------------------------

/- A cut that is not between projection writes. -/
def Boundary.isProjection : Boundary → Bool
| .projected _ _ _ => true
| _ => false

theorem safeCut_of_not_projection
    {t : Boundary} (hOther : (!t.isProjection) = true) :
    SafeCut t := by
  cases t <;> trivial

namespace Sample

/- A node creation cut before its first projection. -/
def strandedNode : Disk :=
  (createNode.run env).cutAt 1 (after [createRun])

/- A question cut after its projection. -/
def askedOnce : Disk :=
  (ask.run env).cutAt 2 (after [createRun, createNode])

end Sample

------------------------------------------------------------
-- Convergence
------------------------------------------------------------

/-
  In a booted run cut only at safe boundaries, a replay
  never fails, and the next successful call leaves the
  projections of the uninterrupted run over the same events.
-/
theorem recovery_converges
    (env : RunEnv)
    (d : Disk)
    (call : Call)
    (hRun : BootedRun env SafeCut d) :
    (Call.replay.run env).result d = .ok () ∧
      ((call.run env).result d = .ok () →
        ∃ b, CrashFreeRun env b ∧
          b.events = ((call.run env).final d).events ∧
          SameProjections ((call.run env).final d) b) := by
  have hRecoverable := hRun.recoverable
  refine ⟨?_, fun hOk => ?_⟩
  · rcases Durable.wp_total hRecoverable.wp_catchUp with
      ⟨_, hOk, _⟩
    exact hOk
  · exact
      (Durable.wp_ok (hRecoverable.wp_call call) hOk).1.live

/- A node cut before its projection is there after a replay. -/
theorem strandedNode_recovered :
    let replayed :=
      (Call.replay.run Sample.env).final Sample.strandedNode
    Sample.strandedNode.nodes.keys.card = 0 ∧
      replayed.nodes.keys.card = 1 ∧
      ∃ b, CrashFreeRun Sample.env b ∧
        b.events = replayed.events ∧
        SameProjections replayed b := by
  intro replayed
  have hRun : BootedRun Sample.env SafeCut Sample.strandedNode :=
    Durable.Reach.cutAt Sample.createNode 1
      (fun t => !t.isProjection)
      (fun _ hOther => safeCut_of_not_projection hOther)
      (Sample.bootedRun_after _ []) (by decide +kernel)
  have hBoth :=
    recovery_converges Sample.env Sample.strandedNode .replay
      hRun
  exact ⟨by decide +kernel, by decide +kernel,
    hBoth.2 hBoth.1⟩

/- A question folded again by the catch-up is open twice. -/
theorem not_recovery_converges :
    ¬ ∀ (env : RunEnv) (d : Disk) (call : Call),
      BootedRun env (fun _ => True) d →
      (call.run env).result d = .ok () →
        ∃ b, CrashFreeRun env b ∧
          b.events = ((call.run env).final d).events ∧
          SameProjections ((call.run env).final d) b := by
  intro hAlways
  have hRun :
      BootedRun Sample.env (fun _ => True) Sample.askedOnce :=
    Durable.Reach.cutAt Sample.ask 2 (fun _ => true)
      (fun _ _ => trivial)
      (Sample.bootedRun_after _ [Sample.createNode])
      (by decide +kernel)
  rcases hAlways Sample.env Sample.askedOnce .replay hRun
    (by decide +kernel) with ⟨b, hFree, hEvents, hSame⟩
  have hRebuilt := (clean_of_crashFreeRun hFree).rebuilt
  rw [hEvents] at hRebuilt
  have hOnce :
      (rebuild Sample.env
          ((Call.replay.run Sample.env).final
            Sample.askedOnce).events).map Sample.openItems =
        .ok (some 1) := by
    decide +kernel
  have hTwice :
      Sample.openItems
          ((Call.replay.run Sample.env).final
            Sample.askedOnce) = some 2 := by
    decide +kernel
  rw [hRebuilt] at hOnce
  unfold Sample.openItems at hOnce hTwice
  rw [hSame.nodes] at hTwice
  rw [Except.map, hTwice] at hOnce
  cases hOnce

end Taskfleet
