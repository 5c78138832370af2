import Taskfleet.Events
import Taskfleet.Reducer.Locality

/-
  Rules for the locked operations: what each does, write by
  write, in terms of the plan of the event at hand.

  The accepted append has a pure description, `accept`. The
  catch-up loop has an invariant rule over the lines it has
  not read yet.

  Main declarations:
    * `Disk.log`, `Disk.advance`, `accept`, `rebuild`
    * `wp_replayLines`, `wp_replayUnappliedUnlocked`
    * `wp_appendAndApplyReporting`
    * `Call`, `Call.run`
-/

------------------------------------------------------------
-- Pure Descriptions
------------------------------------------------------------

namespace Taskfleet

open Fallible

namespace Disk

/- The log with one more complete line. -/
def log (ev : Event) (d : Disk) : Disk :=
  { d with lines := d.lines ++ [.event ev], torn := false }

/- The watermark moves to a later event, with the counter. -/
def advance (seq : Nat) (d : Disk) : Disk :=
  match d.manifest with
  | none => d
  | some m =>
      if m.appliedSeq < seq then
        d.putManifest { m with
          nodeCount := d.countNodeFiles
          appliedSeq := seq }
      else d

/- The watermark is there and behind. -/
def Behind (seq : Nat) (d : Disk) : Prop :=
  ∃ m, d.manifest = some m ∧ m.appliedSeq < seq

@[simp] theorem advance_nodes (seq : Nat) (d : Disk) :
    (d.advance seq).nodes = d.nodes := by
  unfold advance
  split
  · rfl
  · split <;> rfl

@[simp] theorem advance_lines (seq : Nat) (d : Disk) :
    (d.advance seq).lines = d.lines := by
  unfold advance
  split
  · rfl
  · split <;> rfl

@[simp] theorem advance_torn (seq : Nat) (d : Disk) :
    (d.advance seq).torn = d.torn := by
  unfold advance
  split
  · rfl
  · split <;> rfl

theorem advance_of_behind
    {seq : Nat} {d : Disk} {m : Manifest}
    (hManifest : d.manifest = some m)
    (hBehind : m.appliedSeq < seq) :
    d.advance seq =
      d.putManifest { m with
        nodeCount := d.countNodeFiles
        appliedSeq := seq } := by
  simp [advance, hManifest, hBehind]

theorem advance_of_not_behind
    {seq : Nat} {d : Disk} (hNot : ¬ d.Behind seq) :
    d.advance seq = d := by
  unfold advance
  split
  · rfl
  next m hManifest =>
    rw [if_neg]
    exact fun hBehind => hNot ⟨m, hManifest, hBehind⟩

end Disk

theorem sameProjections_log (ev : Event) (d : Disk) :
    SameProjections (d.log ev) d := ⟨rfl, rfl⟩

/- An event's own line has no part in its plan. -/
theorem reduce_logged
    (env : RunEnv) (d : Disk) (ev : Event) :
    reduceEventToOps env (d.log ev) ev =
      reduceEventToOps env d ev :=
  reduce_congr (sameProjections_log ev d)
    (fun _ => recoveryEvidence_past_bound (le_refl _))

/- The manifest is missing or its reader accepts it. -/
def Readable (env : RunEnv) (d : Disk) : Prop :=
  ∀ m, d.manifest = some m → m.Valid env

/-
  The effect of the gate on a caught-up run: plan, log, write
  and move the watermark.
-/
def accept (env : RunEnv) (d : Disk) (ev : Event) :
    Except Error Disk := do
  let ops ← reduceEventToOps env d ev
  return (applyOps ops (d.log ev)).advance ev.seq

/- Fold a log from the empty run, as the gate would have. -/
def rebuild (env : RunEnv) (events : List Event) :
    Except Error Disk :=
  events.foldlM (accept env) Disk.empty

theorem rebuild_append
    (env : RunEnv) (events : List Event) (ev : Event) :
    rebuild env (events ++ [ev]) =
      rebuild env events >>= fun d => accept env d ev := by
  simp only [rebuild, List.foldlM_append, List.foldlM_cons,
    List.foldlM_nil, bind_pure]

------------------------------------------------------------
-- Readable Manifests
------------------------------------------------------------

section Readable

variable {env : RunEnv} {d : Disk} {ev : Event}

theorem readManifestOpt_of_readable
    (hReadable : Readable env d) :
    readManifestOpt env d = .ok d.manifest := by
  cases hManifest : d.manifest with
  | none => exact readManifestOpt_eq_none.mpr hManifest
  | some m =>
      exact readManifestOpt_eq_some.mpr
        ⟨hManifest, hReadable m hManifest⟩

theorem readable_of_readManifestOpt
    {o : Option Manifest}
    (hRead : readManifestOpt env d = .ok o) :
    Readable env d := by
  intro m hManifest
  cases o with
  | none =>
      rw [readManifestOpt_eq_none.mp hRead] at hManifest
      cases hManifest
  | some m' =>
      rcases readManifestOpt_eq_some.mp hRead with
        ⟨hSome, hValid⟩
      rw [hManifest, Option.some.injEq] at hSome
      exact hSome ▸ hValid

theorem readable_put
    {op : ProjectionOp}
    (hReadable : Readable env d)
    (hOp : op.Writable env) :
    Readable env (op.put d) := by
  cases op with
  | node n => exact hReadable
  | manifest m =>
      rintro _ ⟨⟩
      exact hOp

theorem readable_applyOps
    {ops : List ProjectionOp}
    (hReadable : Readable env d)
    (hOps : ∀ op ∈ ops, op.Writable env) :
    Readable env (applyOps ops d) := by
  induction ops generalizing d with
  | nil => exact hReadable
  | cons op rest ih =>
      exact ih
        (readable_put hReadable (hOps op List.mem_cons_self))
        (fun op hMem => hOps op (List.mem_cons_of_mem _ hMem))

theorem readable_log (hReadable : Readable env d) :
    Readable env (d.log ev) := hReadable

theorem readable_advance
    {seq : Nat} (hReadable : Readable env d) :
    Readable env (d.advance seq) := by
  by_cases hBehind : d.Behind seq
  · rcases hBehind with ⟨m, hManifest, hLt⟩
    rw [Disk.advance_of_behind hManifest hLt]
    rintro _ ⟨⟩
    have hValid := hReadable m hManifest
    exact ⟨hValid.schemaVersion, hValid.runId⟩
  · rwa [Disk.advance_of_not_behind hBehind]

end Readable

------------------------------------------------------------
-- Catch-Up
------------------------------------------------------------

section CatchUp

variable {env : RunEnv} {d : Disk}
variable {Q : Unit → Disk → Prop}
variable {E : Error → Disk → Prop}
variable {C : Boundary → Disk → Prop}

theorem wp_truncateTornTail :
    Durable.wp truncateTornTail Q E C d ↔
      (d.torn = true → C .truncated { d with torn := false }) ∧
        Q () { d with torn := false } := by
  unfold truncateTornTail
  rw [Durable.wp_bind, Durable.wp_read]
  cases hTorn : d.torn with
  | true => simp
  | false =>
      have hSame : { d with torn := false } = d := by
        rw [← hTorn]
      simp [hSame]

theorem wp_advanceAppliedSeq
    {seq : Nat} (hReadable : Readable env d) :
    Durable.wp (advanceAppliedSeq env seq) Q E C d ↔
      (d.Behind seq → C (.applied seq) (d.advance seq)) ∧
        Q () (d.advance seq) := by
  unfold advanceAppliedSeq
  rw [Durable.wp_bind, Durable.wp_read, Durable.wp_bind,
    readManifestOpt_of_readable hReadable, Durable.wp_lift_ok]
  cases hManifest : d.manifest with
  | none => simp [Disk.Behind, Disk.advance, hManifest]
  | some m =>
      by_cases hLt : m.appliedSeq < seq
      · have hCheck :
            checkRunId env "manifest_run_id" .manifest
              m.runId = .ok () :=
          checkRunId_eq_ok.mpr (hReadable m hManifest).runId
        simp [hLt, writeManifest, hCheck, Disk.Behind,
          hManifest, Disk.advance_of_behind hManifest hLt]
      · have hNot : ¬ d.Behind seq := by
          simp [Disk.Behind, hManifest, hLt]
        simp [hLt, hNot, Disk.advance_of_not_behind hNot]

/- The refusals that a replay passes over. -/
def Error.skips : Error → Bool
| .corruptEventLog _ _ => true
| _ => false

/- Folding one event of the log. -/
theorem wp_replayEvent
    {ev : Event} (hReadable : Readable env d) :
    Durable.wp (replayEvent env ev) Q E C d ↔
      match reduceEventToOps env d ev with
      | .ok ops =>
          (∀ j < ops.length,
            C (.projected d ev j)
              (applyOps (ops.take (j + 1)) d)) ∧
          ((applyOps ops d).Behind ev.seq →
            C (.applied ev.seq)
              ((applyOps ops d).advance ev.seq)) ∧
          Q () ((applyOps ops d).advance ev.seq)
      | .error (.corruptEventLog _ _) => Q () d
      | .error e => E e d := by
  unfold replayEvent
  rw [Durable.wp_bind, Durable.wp_read]
  cases hPlan : reduceEventToOps env d ev with
  | ok ops =>
      have hOps :=
        writable_of_planned (planned_of_reduce hPlan).2
      dsimp only
      rw [Durable.wp_bind, wp_commitOps hOps,
        wp_advanceAppliedSeq (readable_applyOps hReadable hOps)]
  | error e => cases e <;> simp

/-
  The catch-up loop. `L rest s` is what holds of the state
  before the lines `rest` are read.
-/
theorem wp_replayLines
    {w : Nat}
    {L : List LogLine → Disk → Prop}
    (hReadable : ∀ rest s, L rest s → Readable env s)
    (hSkip : ∀ line rest s, L (line :: rest) s →
      (∀ ev, line = .event ev → ev.seq ≤ w) → L rest s)
    (hRefuse : ∀ ev rest s e, L (.event ev :: rest) s →
      w < ev.seq → reduceEventToOps env s ev = .error e →
      (e.skips = true → L rest s) ∧
        (e.skips = false → E e s))
    (hFold : ∀ ev rest s ops, L (.event ev :: rest) s →
      w < ev.seq → reduceEventToOps env s ev = .ok ops →
      (∀ j < ops.length,
          C (.projected s ev j)
            (applyOps (ops.take (j + 1)) s)) ∧
        ((applyOps ops s).Behind ev.seq →
          C (.applied ev.seq)
            ((applyOps ops s).advance ev.seq)) ∧
        L rest ((applyOps ops s).advance ev.seq))
    {lines : List LogLine}
    (hStart : L lines d) :
    Durable.wp (replayLines env w lines) (fun _ => L []) E C
      d := by
  induction lines generalizing d with
  | nil => simpa [replayLines] using hStart
  | cons line rest ih =>
      cases line with
      | blank => exact ih (hSkip _ _ _ hStart (by simp))
      | header => exact ih (hSkip _ _ _ hStart (by simp))
      | space => exact ih (hSkip _ _ _ hStart (by simp))
      | junk => exact ih (hSkip _ _ _ hStart (by simp))
      | event ev =>
          unfold replayLines
          by_cases hOld : ev.seq ≤ w
          · rw [if_pos hOld]
            refine ih (hSkip _ _ _ hStart ?_)
            rintro _ ⟨⟩
            exact hOld
          · rw [if_neg hOld, Durable.wp_bind,
              wp_replayEvent (hReadable _ _ hStart)]
            have hNew : w < ev.seq := not_le.mp hOld
            cases hPlan : reduceEventToOps env d ev with
            | ok ops =>
                rcases hFold _ _ _ _ hStart hNew hPlan with
                  ⟨hCuts, hMark, hNext⟩
                exact ⟨hCuts, hMark, ih hNext⟩
            | error e =>
                rcases hRefuse _ _ _ _ hStart hNew hPlan with
                  ⟨hNext, hError⟩
                cases e with
                | corruptEventLog => exact ih (hNext rfl)
                | corruptProjection => exact hError rfl
                | unsupportedSchemaVersion => exact hError rfl
                | missingFile => exact hError rfl
                | runAlreadyTerminal => exact hError rfl
                | nodeNotFound => exact hError rfl
                | emptyIdempotencyKey => exact hError rfl

theorem wp_replayUnapplied
    (hUnreadable : ¬ Readable env d → ∀ e, E e d)
    (hFresh : d.manifest = none → Q () d)
    (hTail : ∀ m e, d.manifest = some m → m.Valid env →
      recoverLastSeq d.lines = .error e → E e d)
    (hDone : ∀ m last, d.manifest = some m → m.Valid env →
      recoverLastSeq d.lines = .ok last →
      last ≤ m.appliedSeq → Q () d)
    (hReplay : ∀ m last, d.manifest = some m → m.Valid env →
      recoverLastSeq d.lines = .ok last →
      m.appliedSeq < last →
      Durable.wp (replayLines env m.appliedSeq d.lines)
        Q E C d) :
    Durable.wp (replayUnapplied env) Q E C d := by
  unfold replayUnapplied
  rw [Durable.wp_bind, Durable.wp_read, Durable.wp_bind]
  cases hRead : readManifestOpt env d with
  | error e =>
      rw [Durable.wp_lift_error]
      refine hUnreadable (fun hReadable => ?_) e
      rw [readManifestOpt_of_readable hReadable] at hRead
      cases hRead
  | ok o =>
      rw [Durable.wp_lift_ok]
      cases o with
      | none =>
          rw [Durable.wp_pure]
          exact hFresh (readManifestOpt_eq_none.mp hRead)
      | some m =>
          rcases readManifestOpt_eq_some.mp hRead with
            ⟨hManifest, hValid⟩
          dsimp only
          rw [Durable.wp_bind]
          cases hLast : recoverLastSeq d.lines with
          | error e =>
              rw [Durable.wp_lift_error]
              exact hTail m e hManifest hValid hLast
          | ok last =>
              rw [Durable.wp_lift_ok]
              by_cases hLe : last ≤ m.appliedSeq
              · rw [if_pos hLe, Durable.wp_pure]
                exact hDone m last hManifest hValid hLast hLe
              · rw [if_neg hLe]
                exact hReplay m last hManifest hValid hLast
                  (not_le.mp hLe)

end CatchUp

------------------------------------------------------------
-- Appends
------------------------------------------------------------

/-
  The writes of an accepted append, from the caught-up state
  its plan was made on.
-/
structure GateWrites
    (C : Boundary → Disk → Prop)
    (Done : Disk → Prop)
    (s : Disk)
    (ev : Event)
    (ops : List ProjectionOp) : Prop where
  torn : C .torn { s with torn := true }
  logged : C (.logged ev) (s.log ev)
  projected : ∀ j < ops.length,
    C (.projected s ev j) (applyOps (ops.take (j + 1)) (s.log ev))
  applied : (applyOps ops (s.log ev)).Behind ev.seq →
    C (.applied ev.seq)
      ((applyOps ops (s.log ev)).advance ev.seq)
  done : Done ((applyOps ops (s.log ev)).advance ev.seq)

section Append

variable {env : RunEnv} {d : Disk}
variable {E : Error → Disk → Prop}
variable {C : Boundary → Disk → Prop}
variable {R : Disk → Prop}

theorem wp_replayUnappliedUnlocked
    {Q : Unit → Disk → Prop} :
    Durable.wp (replayUnappliedUnlocked env) Q E C d ↔
      (d.torn = true → C .truncated { d with torn := false }) ∧
        Durable.wp (replayUnapplied env) Q E C
          { d with torn := false } := by
  unfold replayUnappliedUnlocked
  rw [Durable.wp_bind, wp_truncateTornTail]

/-
  The gate after a catch-up that leaves `R`: the log may be
  unreadable, the plan refused, or the append goes through.
-/
theorem wp_appendAndApplyReporting
    {r : Request}
    {Q : Nat × Bool → Disk → Prop}
    (hCatchUp :
      Durable.wp (replayUnappliedUnlocked env) (fun _ => R) E C
        d)
    (hReadable : ∀ s, R s → Readable env s)
    (hTail : ∀ s e, R s →
      recoverLastSeq s.lines = .error e → E e s)
    (hReject : ∀ s last e, R s →
      recoverLastSeq s.lines = .ok last →
      reduceEventToOps env s (r.event env (last + 1)) =
        .error e → E e s)
    (hAppend : ∀ s last ops, R s →
      recoverLastSeq s.lines = .ok last →
      reduceEventToOps env s (r.event env (last + 1)) =
        .ok ops →
      GateWrites C (Q (last + 1, !ops.isEmpty)) s
        (r.event env (last + 1)) ops) :
    Durable.wp (appendAndApplyReporting env r) Q E C d := by
  unfold appendAndApplyReporting
  rw [Durable.wp_bind]
  refine Durable.wp_mono hCatchUp ?_ (fun _ _ h => h)
    (fun _ _ h => h)
  intro _ s hR
  rw [Durable.wp_bind, Durable.wp_read, Durable.wp_bind]
  cases hLast : recoverLastSeq s.lines with
  | error e =>
      rw [Durable.wp_lift_error]
      exact hTail s e hR hLast
  | ok last =>
      rw [Durable.wp_lift_ok]
      dsimp only
      rw [Durable.wp_bind]
      cases hPlan :
          reduceEventToOps env s (r.event env (last + 1)) with
      | error e =>
          rw [Durable.wp_lift_error]
          exact hReject s last e hR hLast hPlan
      | ok ops =>
          rw [Durable.wp_lift_ok]
          have hWrites := hAppend s last ops hR hLast hPlan
          have hOps :=
            writable_of_planned (planned_of_reduce hPlan).2
          unfold writeLine
          rw [Durable.wp_bind, Durable.wp_bind,
            Durable.wp_write, Durable.wp_write,
            Durable.wp_bind, wp_commitOps hOps,
            Durable.wp_bind, wp_advanceAppliedSeq,
            Durable.wp_pure]
          · exact
              ⟨hWrites.torn, hWrites.logged, hWrites.projected,
                hWrites.applied, hWrites.done⟩
          · exact readable_applyOps (hReadable s hR) hOps

theorem wp_appendAndApplyUnlocked
    {r : Request}
    {Q : Nat → Disk → Prop}
    (hRun :
      Durable.wp (appendAndApplyReporting env r)
        (fun result => Q result.1) E C d) :
    Durable.wp (appendAndApplyUnlocked env r) Q E C d := by
  unfold appendAndApplyUnlocked
  rw [Durable.wp_bind]
  exact Durable.wp_mono hRun
    (fun _ _ h => Durable.wp_pure _ |>.mpr h)
    (fun _ _ h => h) (fun _ _ h => h)

/- The entry point: a prior event answers, else the gate. -/
theorem wp_appendAndApplyEvent
    {r : Request}
    {Q : AppendResult → Disk → Prop}
    (hCatchUp :
      Durable.wp (replayUnappliedUnlocked env) (fun _ => R) E C
        d)
    (hScan : ∀ s key e, R s → r.key = some key →
      findPriorWithKey r.kind key s.lines = .error e → E e s)
    (hPrior : ∀ s key prior, R s → r.key = some key →
      findPriorWithKey r.kind key s.lines = .ok (some prior) →
      Q ⟨prior.seq, true, false, some prior⟩ s)
    (hGate : ∀ s, R s →
      (∀ key, r.key = some key →
        findPriorWithKey r.kind key s.lines = .ok none) →
      Durable.wp (appendAndApplyReporting env r)
        (fun result =>
          Q ⟨result.1, false, result.2, none⟩) E C s) :
    Durable.wp (appendAndApplyEvent env r) Q E C d := by
  unfold appendAndApplyEvent findPrior
  rw [Durable.wp_bind]
  refine Durable.wp_mono hCatchUp ?_ (fun _ _ h => h)
    (fun _ _ h => h)
  intro _ s hR
  rw [Durable.wp_bind]
  cases hKey : r.key with
  | none =>
      rw [Durable.wp_pure]
      dsimp only
      rw [Durable.wp_bind]
      refine Durable.wp_mono (hGate s hR (by simp [hKey])) ?_
        (fun _ _ h => h) (fun _ _ h => h)
      intro _ _ hQ
      exact Durable.wp_pure _ |>.mpr hQ
  | some key =>
      dsimp only
      rw [Durable.wp_bind, Durable.wp_read]
      cases hFound : findPriorWithKey r.kind key s.lines with
      | error e =>
          rw [Durable.wp_lift_error]
          exact hScan s key e hR hKey hFound
      | ok found =>
          rw [Durable.wp_lift_ok]
          cases found with
          | some prior =>
              dsimp only
              rw [Durable.wp_pure]
              exact hPrior s key prior hR hKey hFound
          | none =>
              dsimp only
              rw [Durable.wp_bind]
              refine Durable.wp_mono (hGate s hR ?_) ?_
                (fun _ _ h => h) (fun _ _ h => h)
              · intro key' hKey'
                rw [hKey, Option.some.injEq] at hKey'
                exact hKey' ▸ hFound
              · intro _ _ hQ
                exact Durable.wp_pure _ |>.mpr hQ

/- Why a keyed append fails before it reaches the gate. -/
inductive KeyedRequest.Fails
    (r : KeyedRequest) (s : Disk) (e : Error) : Prop where
| tail (hLast : recoverLastSeq s.lines = .error e)
| build (last : Nat)
    (hLast : recoverLastSeq s.lines = .ok last)
    (hBuild : r.build (last + 1) = .error e)
| scan
    (hScan : findPriorWithKey r.kind r.key s.lines = .error e)

/- The keyed append: replay, conflict or a fresh event. -/
theorem wp_appendAndApplyIdempotent
    {r : KeyedRequest}
    {Q : AppendOutcome → Disk → Prop}
    (hEmpty : r.key = "" → E .emptyIdempotencyKey d)
    (hCatchUp :
      Durable.wp (replayUnappliedUnlocked env) (fun _ => R) E C
        d)
    (hFail : ∀ s e, R s → r.Fails s e → E e s)
    (hPrior : ∀ s last data prior, R s →
      recoverLastSeq s.lines = .ok last →
      r.build (last + 1) = .ok data →
      findPriorWithKey r.kind r.key s.lines =
        .ok (some prior) →
      if prior.nodeId = r.nodeId ∧ prior.data = data then
        Q (.idempotentReplay prior) s
      else Q (.conflict prior) s)
    (hGate : ∀ s last data, R s →
      recoverLastSeq s.lines = .ok last →
      r.build (last + 1) = .ok data →
      findPriorWithKey r.kind r.key s.lines = .ok none →
      Durable.wp (appendAndApplyUnlocked env (r.request data))
        (fun seq => Q (.appended seq)) E C s) :
    Durable.wp (appendAndApplyIdempotent env r) Q E C d := by
  unfold appendAndApplyIdempotent
  by_cases hKey : r.key = ""
  · rw [if_pos hKey, Durable.wp_fail]
    exact hEmpty hKey
  rw [if_neg hKey, Durable.wp_bind]
  refine Durable.wp_mono hCatchUp ?_ (fun _ _ h => h)
    (fun _ _ h => h)
  intro _ s hR
  rw [Durable.wp_bind, Durable.wp_read, Durable.wp_bind]
  cases hLast : recoverLastSeq s.lines with
  | error e =>
      rw [Durable.wp_lift_error]
      exact hFail s e hR (.tail hLast)
  | ok last =>
      rw [Durable.wp_lift_ok, Durable.wp_bind]
      cases hBuild : r.build (last + 1) with
      | error e =>
          rw [Durable.wp_lift_error]
          exact hFail s e hR (.build last hLast hBuild)
      | ok data =>
          rw [Durable.wp_lift_ok, Durable.wp_bind]
          cases hFound :
              findPriorWithKey r.kind r.key s.lines with
          | error e =>
              rw [Durable.wp_lift_error]
              exact hFail s e hR (.scan hFound)
          | ok found =>
              rw [Durable.wp_lift_ok]
              cases found with
              | some prior =>
                  have hAnswer :=
                    hPrior s last data prior hR hLast hBuild
                      hFound
                  dsimp only
                  split at hAnswer <;> rename_i hSame
                  · rw [if_pos hSame, Durable.wp_pure]
                    exact hAnswer
                  · rw [if_neg hSame, Durable.wp_pure]
                    exact hAnswer
              | none =>
                  dsimp only
                  rw [Durable.wp_bind]
                  refine Durable.wp_mono
                    (hGate s last data hR hLast hBuild hFound)
                    ?_ (fun _ _ h => h) (fun _ _ h => h)
                  intro _ _ hQ
                  exact Durable.wp_pure _ |>.mpr hQ

end Append

------------------------------------------------------------
-- Calls
------------------------------------------------------------

/- The mutating calls of a run's clients. -/
inductive Call where
| append (r : Request)
| event (r : Request)
| keyed (r : KeyedRequest)
| replay

namespace Call

/- A call with its answer dropped. -/
def run (env : RunEnv) : Call → Locked Unit
| .append r => do
    let _ ← appendAndApplyUnlocked env r
    pure ()
| .event r => do
    let _ ← appendAndApplyEvent env r
    pure ()
| .keyed r => do
    let _ ← appendAndApplyIdempotent env r
    pure ()
| .replay => replayUnappliedUnlocked env

end Call

namespace Call

/- The requests a call may hand to the gate. -/
def Asks : Call → Request → Prop
| .append r, r' | .event r, r' => r' = r
| .keyed r, r' =>
    ∃ seq data, r.build seq = .ok data ∧ r' = r.request data
| .replay, _ => False

end Call

/-
  Invariant rule for calls. `I` holds at rest and after a
  failure, `R` after a catch-up, and `D` after a success.
-/
theorem wp_call
    {env : RunEnv}
    {d : Disk}
    {C : Boundary → Disk → Prop}
    {I R D : Disk → Prop}
    (call : Call)
    (hCatchUp : ∀ s, I s →
      Durable.wp (replayUnappliedUnlocked env) (fun _ => R)
        (fun _ => I) C s)
    (hRest : ∀ s, R s → I s)
    (hDone : ∀ s, R s → D s)
    (hReadable : ∀ s, R s → Readable env s)
    (hGate : ∀ s last r ops, call.Asks r → R s →
      recoverLastSeq s.lines = .ok last →
      reduceEventToOps env s (r.event env (last + 1)) =
        .ok ops →
      GateWrites C D s (r.event env (last + 1)) ops)
    (hStart : I d) :
    Durable.wp (call.run env) (fun _ => D) (fun _ => I) C d := by
  have hAppend : ∀ (r : Request) (s : Disk),
      call.Asks r → I s →
      Durable.wp (appendAndApplyReporting env r) (fun _ => D)
        (fun _ => I) C s := by
    intro r s hAsks hI
    exact wp_appendAndApplyReporting (hCatchUp s hI) hReadable
      (fun s _ hR _ => hRest s hR)
      (fun s _ _ hR _ _ => hRest s hR)
      (fun s last ops hR hLast hPlan =>
        hGate s last r ops hAsks hR hLast hPlan)
  cases call with
  | append r =>
      simp only [Call.run, Durable.wp_bind, Durable.wp_pure]
      exact wp_appendAndApplyUnlocked (hAppend r d rfl hStart)
  | event r =>
      simp only [Call.run, Durable.wp_bind, Durable.wp_pure]
      exact wp_appendAndApplyEvent (hCatchUp d hStart)
        (fun s _ _ hR _ _ => hRest s hR)
        (fun s _ _ hR _ _ => hDone s hR)
        (fun s hR _ => hAppend r s rfl (hRest s hR))
  | keyed r =>
      simp only [Call.run, Durable.wp_bind, Durable.wp_pure]
      refine wp_appendAndApplyIdempotent (fun _ => hStart)
        (hCatchUp d hStart) (fun s _ hR _ => hRest s hR) ?_ ?_
      · intro s last data prior hR _ _ _
        split <;> exact hDone s hR
      · intro s last data hR _ hBuild _
        exact wp_appendAndApplyUnlocked
          (hAppend _ s ⟨last + 1, data, hBuild, rfl⟩
            (hRest s hR))
  | replay =>
      exact Durable.wp_mono (hCatchUp d hStart)
        (fun _ s hR => hDone s hR) (fun _ _ h => h)
        (fun _ _ h => h)

end Taskfleet
