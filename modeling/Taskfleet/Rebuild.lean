import Taskfleet.Boot

/-
  The append gate and the rebuild of its log.

  A refused call leaves the caught-up run as it is, an
  accepted one adds exactly one line with the next sequence
  number. Folding the log of an uninterrupted run from the
  empty run, with the derived manifest fields, never fails
  and gives the live run back.

  Main declarations:
    * `GateSound`, `gateSound_of_ordered`
    * `Clean`, `clean_of_calls`
    * `applyEvents`
    * `gate_sound_and_rebuilds`
-/

------------------------------------------------------------
-- One Call
------------------------------------------------------------

namespace Taskfleet

open Fallible

/- The log of `d` grew by one event with the next number. -/
def Appended
    (env : RunEnv)
    (d : Disk)
    (r : Request)
    (seq : Nat)
    (d' : Disk) : Prop :=
  ∃ last, recoverLastSeq d.lines = .ok last ∧
    seq = last + 1 ∧
    d'.lines = d.lines ++ [.event (r.event env seq)]

/-
  What a call to the gate does on a run: a refusal or the
  answer from a prior event leaves the caught-up run, a new
  event is one more line.
-/
structure GateSound (env : RunEnv) (d : Disk) : Prop where
  reporting : ∀ r : Request,
    match (appendAndApplyReporting env r).result d with
    | .error _ =>
        (appendAndApplyReporting env r).final d =
          catchUp env d
    | .ok (seq, _) =>
        Appended env d r seq
          ((appendAndApplyReporting env r).final d)
  event : ∀ r : Request,
    match (appendAndApplyEvent env r).result d with
    | .error _ =>
        (appendAndApplyEvent env r).final d = catchUp env d
    | .ok result =>
        if result.idempotentReplay then
          (appendAndApplyEvent env r).final d = catchUp env d
        else
          Appended env d r result.seq
            ((appendAndApplyEvent env r).final d)
  idempotent : ∀ r : KeyedRequest, r.key ≠ "" →
    match (appendAndApplyIdempotent env r).result d with
    | .ok (.appended seq) =>
        ∃ data, r.build seq = .ok data ∧
          Appended env d (r.request data) seq
            ((appendAndApplyIdempotent env r).final d)
    | _ =>
        (appendAndApplyIdempotent env r).final d =
          catchUp env d

section Calls

variable {env : RunEnv} {d : Disk}

theorem applyOps_log_lines
    (ops : List ProjectionOp) (ev : Event) (d : Disk) :
    ((applyOps ops (d.log ev)).advance ev.seq).lines =
      d.lines ++ [.event ev] := by
  simp [Disk.log]

/- The gate from a state whose log is that of `d`. -/
theorem wp_reporting_appended
    {s : Disk}
    (r : Request)
    (hOrdered : s.Ordered)
    (hLines : s.lines = d.lines) :
    Durable.wp (appendAndApplyReporting env r)
      (fun result s' => Appended env d r result.1 s')
      (fun _ s' => s' = catchUp env s) (fun _ _ => True)
      s := by
  refine wp_appendAndApplyReporting
    (R := fun s' => s' = catchUp env s ∧ s'.lines = s.lines ∧
      Settled env s')
    (Durable.wp_mono (wp_catchUp hOrdered) (fun _ _ h => h)
      (fun _ _ h => h.1) (fun _ _ _ => trivial)) ?_ ?_ ?_ ?_
  · exact fun _ hR => hR.2.2.readable
  · exact fun _ _ hR _ => hR.1
  · exact fun _ _ _ hR _ _ => hR.1
  · intro s' last ops hR hLast _
    refine ⟨trivial, trivial, fun _ _ => trivial,
      fun _ => trivial, last, ?_, rfl, ?_⟩
    · rw [← hLines, ← hR.2.1, hLast]
    · rw [← hLines, ← hR.2.1]
      exact applyOps_log_lines ops _ s'

theorem wp_event_appended
    (r : Request)
    (hOrdered : d.Ordered) :
    Durable.wp (appendAndApplyEvent env r)
      (fun result s =>
        if result.idempotentReplay then s = catchUp env d
        else Appended env d r result.seq s)
      (fun _ s => s = catchUp env d) (fun _ _ => True) d := by
  refine wp_appendAndApplyEvent
    (R := fun s => s = catchUp env d ∧ s.lines = d.lines ∧
      Settled env s)
    (Durable.wp_mono (wp_catchUp hOrdered) (fun _ _ h => h)
      (fun _ _ h => h.1) (fun _ _ _ => trivial)) ?_ ?_ ?_
  · exact fun _ _ _ hR _ _ => hR.1
  · intro s key prior hR _ _
    simpa using hR.1
  · intro s hR _
    refine Durable.wp_mono
      (wp_reporting_appended _ (hOrdered.congr hR.2.1) hR.2.1)
      ?_ ?_ (fun _ _ h => h)
    · intro result s' hAppended
      simpa using hAppended
    · intro _ s' hFinal
      rw [hFinal, catchUp_of_settled hR.2.2, hR.1]

theorem wp_idempotent_appended
    {r : KeyedRequest}
    (hKey : r.key ≠ "")
    (hOrdered : d.Ordered) :
    Durable.wp (appendAndApplyIdempotent env r)
      (fun outcome s =>
        match outcome with
        | .appended seq =>
            ∃ data, r.build seq = .ok data ∧
              Appended env d (r.request data) seq s
        | _ => s = catchUp env d)
      (fun _ s => s = catchUp env d) (fun _ _ => True) d := by
  refine wp_appendAndApplyIdempotent
    (R := fun s => s = catchUp env d ∧ s.lines = d.lines ∧
      Settled env s)
    (fun hEmpty => absurd hEmpty hKey)
    (Durable.wp_mono (wp_catchUp hOrdered) (fun _ _ h => h)
      (fun _ _ h => h.1) (fun _ _ _ => trivial)) ?_ ?_ ?_
  · exact fun _ _ hR _ => hR.1
  · intro s last data prior hR _ _ _
    split <;> exact hR.1
  · intro s last data hR hLast hBuild _
    refine wp_appendAndApplyUnlocked
      (Durable.wp_mono
        (wp_reporting_appended _ (hOrdered.congr hR.2.1) hR.2.1)
        ?_ ?_ (fun _ _ h => h))
    · intro result s' hAppended
      refine ⟨data, ?_, hAppended⟩
      rcases hAppended with ⟨last', hLast', hSeq, _⟩
      rw [← hR.2.1, hLast, Except.ok.injEq] at hLast'
      rw [hSeq, ← hLast', hBuild]
    · intro _ s' hFinal
      rw [hFinal, catchUp_of_settled hR.2.2, hR.1]

theorem gateSound_of_ordered (hOrdered : d.Ordered) :
    GateSound env d := by
  refine ⟨?_, ?_, ?_⟩
  · intro r
    cases hValue :
        (appendAndApplyReporting env r).result d with
    | error e =>
        exact Durable.wp_error
          (wp_reporting_appended r hOrdered rfl) hValue
    | ok result =>
        exact Durable.wp_ok
          (wp_reporting_appended r hOrdered rfl) hValue
  · intro r
    cases hValue : (appendAndApplyEvent env r).result d with
    | error e =>
        exact Durable.wp_error (wp_event_appended r hOrdered)
          hValue
    | ok result =>
        exact Durable.wp_ok (wp_event_appended r hOrdered)
          hValue
  · intro r hKey
    cases hValue :
        (appendAndApplyIdempotent env r).result d with
    | error e =>
        exact Durable.wp_error
          (wp_idempotent_appended hKey hOrdered) hValue
    | ok outcome =>
        have hOutcome :=
          Durable.wp_ok (wp_idempotent_appended hKey hOrdered)
            hValue
        cases outcome <;> exact hOutcome

------------------------------------------------------------
-- Whole Runs
------------------------------------------------------------

/- The runs of calls from the empty run, cut anywhere. -/
def CrashRun (env : RunEnv) : Disk → Prop :=
  Durable.Reach (Call.run env) (· = Disk.empty)
    (fun _ _ _ => True)

/- The runs of calls from the empty run, each to its end. -/
def CrashFreeRun (env : RunEnv) : Disk → Prop :=
  Durable.Reach (Call.run env) (· = Disk.empty)
    (fun _ _ _ => False)

theorem CrashFreeRun.done
    (call : Call) (hRun : CrashFreeRun env d) :
    CrashFreeRun env ((call.run env).final d) :=
  Durable.Reach.done call hRun

theorem CrashFreeRun.crashRun
    (hRun : CrashFreeRun env d) : CrashRun env d :=
  Durable.Reach.mono (fun _ _ _ hNever => hNever.elim) hRun

/- Every write of the gate keeps the log ordered. -/
theorem gateWrites_ordered
    {s : Disk} {ev : Event} {ops : List ProjectionOp}
    (hOrdered : s.Ordered)
    (hSeq : ev.seq = s.lastSeq + 1) :
    GateWrites (fun _ => Disk.Ordered) Disk.Ordered s ev ops := by
  have hLog := ordered_log hOrdered hSeq
  refine ⟨?_, hLog, ?_, ?_, ?_⟩
  · exact Disk.Ordered.congr (d := s) rfl hOrdered
  · exact fun _ _ => hLog.congr (by simp)
  · exact fun _ => hLog.congr (by simp)
  · exact hLog.congr (by simp)

theorem ordered_of_crashRun
    (hRun : CrashRun env d) : d.Ordered := by
  refine Durable.Reach.invariant ?_ ?_ hRun
  · rintro _ rfl
    exact ordered_empty
  · intro call s hOrdered
    refine Durable.wp_mono
      (wp_call (C := fun _ => Disk.Ordered)
        (R := fun s => s.Ordered ∧ Readable env s)
        call ?_ (fun _ h => h.1) (fun _ h => h.1)
        (fun _ h => h.2) ?_ hOrdered)
      (fun _ _ h => h) (fun _ _ h => h) (fun _ _ h _ => h)
    · intro s hOrdered
      exact Durable.wp_mono (wp_catchUp_settled hOrdered)
        (fun _ _ h => ⟨hOrdered.congr h.1, h.2.readable⟩)
        (fun _ _ h => hOrdered.congr h)
        (fun _ _ h => hOrdered.congr h)
    · intro s last r ops _ hR hLast _
      refine gateWrites_ordered hR.1 ?_
      rw [← recoverLastSeq_eq hR.1.plain hLast]
      rfl

/-
  A run no call of which was cut: the log holds events only,
  the watermark covers them, and the fold gives the run back.
-/
structure Clean (env : RunEnv) (d : Disk) : Prop where
  torn : d.torn = false
  lines : d.lines = d.events.map .event
  ordered : d.Ordered
  readable : Readable env d
  covered : ∀ m, d.manifest = some m →
    d.lastSeq ≤ m.appliedSeq
  rebuilt : rebuild env d.events = .ok d

theorem clean_empty : Clean env Disk.empty where
  torn := rfl
  lines := rfl
  ordered := ordered_empty
  readable := by rintro m ⟨⟩
  covered := by rintro m ⟨⟩
  rebuilt := rfl

/- A clean run has nothing to catch up to. -/
theorem Clean.settled (hClean : Clean env d) :
    Settled env d := by
  refine ⟨hClean.torn, hClean.readable, ?_⟩
  intro m hManifest ev hMem hBehind
  have hBound : ev.seq ≤ d.lastSeq :=
    seq_le_lastSeqOf hClean.ordered.increasing hMem
  have hCovered := hClean.covered m hManifest
  omega

theorem Clean.accept
    {ev : Event} {ops : List ProjectionOp}
    (hClean : Clean env d)
    (hSeq : ev.seq = d.lastSeq + 1)
    (hPlan : reduceEventToOps env d ev = .ok ops) :
    Clean env ((applyOps ops (d.log ev)).advance ev.seq) := by
  have hOps := writable_of_planned (planned_of_reduce hPlan).2
  have hEvents :
      ((applyOps ops (d.log ev)).advance ev.seq).events =
        d.events ++ [ev] := by
    simp
  refine ⟨by simp [Disk.log], ?_,
    (ordered_log hClean.ordered hSeq).congr (by simp),
    readable_advance (readable_applyOps hClean.readable hOps),
    ?_, ?_⟩
  · rw [hEvents, applyOps_log_lines, hClean.lines]
    simp
  · intro m hManifest
    have hLast :
        ((applyOps ops (d.log ev)).advance ev.seq).lastSeq =
          ev.seq := by
      rw [Disk.lastSeq, hEvents, lastSeqOf_concat]
    rw [hLast]
    exact advance_covers hManifest
  · rw [hEvents, rebuild_append, hClean.rebuilt, ok_bind]
    unfold Taskfleet.accept
    rw [hPlan, ok_bind]
    rfl

theorem clean_of_crashFreeRun
    (hRun : CrashFreeRun env d) : Clean env d := by
  refine Durable.Reach.invariant ?_ ?_ hRun
  · rintro _ rfl
    exact clean_empty
  · intro call s hClean
    refine Durable.wp_mono
      (wp_call (C := fun _ _ => True) (R := Clean env) call ?_
        (fun _ h => h) (fun _ h => h) (fun _ h => h.readable)
        ?_ hClean)
      (fun _ _ h => h) (fun _ _ h => h)
      (fun _ _ _ hNever => hNever.elim)
    · intro s hClean
      refine Durable.wp_mono (wp_catchUp hClean.ordered)
        ?_ ?_ (fun _ _ _ => trivial)
      · rintro _ s' ⟨rfl, _⟩
        rwa [catchUp_of_settled hClean.settled]
      · rintro _ s' ⟨rfl, _⟩
        rwa [catchUp_of_settled hClean.settled]
    · intro s last r ops _ hR hLast hPlan
      refine ⟨trivial, trivial, fun _ _ => trivial,
        fun _ => trivial, hR.accept ?_ hPlan⟩
      rw [← recoverLastSeq_eq hR.ordered.plain hLast]
      rfl

end Calls

------------------------------------------------------------
-- Sample Runs
------------------------------------------------------------

namespace Sample

theorem crashFreeRun_after (calls : List Call) :
    CrashFreeRun env (after calls) := by
  induction calls using List.reverseRecOn with
  | nil => exact .start rfl
  | append_singleton calls call ih =>
      rw [after_concat]
      exact .done call ih

/- The creation of a run whose caller drives the agent. -/
def callerRunData : Json :=
  .obj
    [("agent_owner", .str "caller"), ("kind", .str "spinoff"),
      ("lifecycle", .str "autonomous"), ("title", .str "t")]

def mergeIntentData : Json :=
  .obj
    [("actor", .str "a"), ("gate_dev", .int 1),
      ("gate_ino", .int 1), ("generation", .int 0),
      ("key", .str "k"), ("node_id", .str "n-0001"),
      ("operation", .str "merge"), ("reason", .str "r"),
      ("run_id", .str env.runId.val), ("seq", .int 0),
      ("writer_dev", .int 1), ("writer_ino", .int 1)]

/- A failed caller run, settled by a merge afterwards. -/
def settledRun : Disk :=
  after
    [.append (request .runCreated none callerRunData),
      .append (request .nodeCreated (some .first) nodeData),
      .append
        (request .nodeReport (some .first)
          (.obj [("success", .bool false)])),
      .append
        (request .runStatus none
          (.obj [("status", .str "failed")])),
      .append
        { now := 0
          kind := .callerSettlementIntent
          nodeId := some .first
          key := some "k"
          data := mergeIntentData }]

end Sample

------------------------------------------------------------
-- Soundness and Rebuild
------------------------------------------------------------

/- Fold a log by the reducer alone. -/
def applyEvents (env : RunEnv) : List Event → Locked Unit
| [] => pure ()
| ev :: rest => do
    applyEvent env ev
    applyEvents env rest

/-
  The gate is sound in every run, interrupted or not, and
  the log of an uninterrupted run rebuilds it.
-/
theorem gate_sound_and_rebuilds (env : RunEnv) (d : Disk) :
    (CrashRun env d →
      GateSound env d ∧
        d.events.Pairwise (fun a b => a.seq < b.seq)) ∧
    (CrashFreeRun env d → rebuild env d.events = .ok d) := by
  refine ⟨fun hRun => ?_, fun hRun => ?_⟩
  · have hOrdered := ordered_of_crashRun hRun
    exact ⟨gateSound_of_ordered hOrdered, hOrdered.increasing⟩
  · exact (clean_of_crashFreeRun hRun).rebuilt

/- A caller run of five events is sound and rebuilds. -/
theorem settledRun_rebuilds :
    Sample.settledRun.events.length = 5 ∧
      GateSound Sample.env Sample.settledRun ∧
      rebuild Sample.env Sample.settledRun.events =
        .ok Sample.settledRun := by
  have hBoth :=
    gate_sound_and_rebuilds Sample.env Sample.settledRun
  have hRun : CrashFreeRun Sample.env Sample.settledRun :=
    Sample.crashFreeRun_after _
  exact ⟨by decide +kernel,
    (hBoth.1 hRun.crashRun).1, hBoth.2 hRun⟩

/-
  The reducer alone does not rebuild every log: the intent
  of a failed run needs the derived node counter.
-/
theorem not_applyEvents_rebuilds :
    ¬ ∀ (env : RunEnv) (d : Disk),
      CrashFreeRun env d →
        (applyEvents env d.events).result
            { Disk.empty with lines := d.lines } =
          .ok () := by
  intro hAlways
  have hOk :=
    hAlways Sample.env Sample.settledRun
      (Sample.crashFreeRun_after _)
  have hRefused :
      (applyEvents Sample.env Sample.settledRun.events).result
          { Disk.empty with lines := Sample.settledRun.lines } ≠
        .ok () := by
    decide +kernel
  exact hRefused hOk

end Taskfleet
