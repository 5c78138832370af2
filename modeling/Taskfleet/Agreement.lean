import Taskfleet.Rebuild
import Taskfleet.Verdict

/-
  The log and the projections agree on the nodes.

  In every created run whose payloads read alike, with cuts
  anywhere, a caught-up run has the same nodes, the same live
  ones and the same outcomes in its log and on its disk.

  Main declarations:
    * `logAcc`, `statusAcc_events`
    * `Event.Legible`, `Tracked`
    * `facts_agree`
-/

------------------------------------------------------------
-- The Fold of a Log of Events
------------------------------------------------------------

namespace Taskfleet

open Fallible

/- The payload is one the skimming reader takes, and alike. -/
structure Event.Legible (ev : Event) : Prop where
  skimmed : ∃ p, CancelProbeData.decode ev.data = some p
  aligned : ev.Aligned

/- One more event of a log, passed over if not legible. -/
def NodeStatusAcc.step
    (acc : NodeStatusAcc) (ev : Event) : NodeStatusAcc :=
  match CancelProbe.decode ev with
  | some probe => acc.observe probe
  | none => acc

def logAcc (events : List Event) : NodeStatusAcc :=
  events.foldl NodeStatusAcc.step NodeStatusAcc.empty

@[simp] theorem logAcc_nil :
    logAcc [] = NodeStatusAcc.empty := rfl

@[simp] theorem logAcc_concat
    (events : List Event) (ev : Event) :
    logAcc (events ++ [ev]) = (logAcc events).step ev := by
  simp [logAcc]

section Fold

variable {env : RunEnv} {ev : Event} {events : List Event}

theorem probe_of_skimmed
    {p : CancelProbeData}
    (hSkim : CancelProbeData.decode ev.data = some p) :
    CancelProbe.decode ev =
      some ⟨ev.seq, ev.kind, ev.nodeId, ev.idempotencyKey,
        p⟩ := by
  simp [CancelProbe.decode, hSkim]

theorem step_of_skimmed
    {acc : NodeStatusAcc} {p : CancelProbeData}
    (hSkim : CancelProbeData.decode ev.data = some p) :
    acc.step ev =
      acc.observe
        ⟨ev.seq, ev.kind, ev.nodeId, ev.idempotencyKey, p⟩ := by
  unfold NodeStatusAcc.step
  rw [probe_of_skimmed hSkim]

/- The fold of a legible log within its bound never fails. -/
theorem statusAcc_events
    {bound : Option Nat}
    (hBefore : ∀ ev ∈ events, beforeBound bound ev.seq = true)
    (hSkimmed : ∀ ev ∈ events,
      ∃ p, CancelProbeData.decode ev.data = some p) :
    statusAcc (events.map .event) bound =
      .ok (logAcc events) := by
  induction events using List.reverseRecOn with
  | nil => rfl
  | append_singleton events ev ih =>
      rw [List.map_append]
      change
        statusAcc (events.map .event ++ [.event ev]) bound = _
      rw [statusAcc_concat,
        ih (fun e hMem => hBefore e (by simp [hMem]))
          (fun e hMem => hSkimmed e (by simp [hMem])),
        logAcc_concat, ok_bind]
      rcases hSkimmed ev (by simp) with ⟨p, hSkim⟩
      rw [step_of_skimmed hSkim]
      simp [foldStatusProbe, hBefore ev (by simp),
        probe_of_skimmed hSkim]

/- A fold that succeeds has skimmed the events it took. -/
theorem statusAcc_read
    {bound : Option Nat} {acc : NodeStatusAcc}
    (hBefore : ∀ e ∈ events, beforeBound bound e.seq = true)
    (hFold :
      statusAcc (events.map .event) bound = .ok acc) :
    acc = logAcc events ∧
      ∀ e ∈ events, ∃ p,
        CancelProbeData.decode e.data = some p := by
  induction events using List.reverseRecOn generalizing acc with
  | nil =>
      cases hFold
      exact ⟨rfl, by simp⟩
  | append_singleton events ev ih =>
      rw [List.map_append] at hFold
      change
        statusAcc (events.map .event ++ [.event ev]) _ = _
        at hFold
      rw [statusAcc_concat, bind_eq_ok] at hFold
      rcases hFold with ⟨acc₀, hRest, hLast⟩
      rcases ih (fun e hMem => hBefore e (by simp [hMem])) hRest
        with ⟨rfl, hSkimmed⟩
      rw [foldStatusProbe, if_pos (hBefore ev (by simp))]
        at hLast
      cases hProbe : CancelProbe.decode ev with
      | none =>
          rw [hProbe] at hLast
          cases hLast
      | some probe =>
          rw [hProbe] at hLast
          cases hLast
          refine ⟨?_, ?_⟩
          · rw [logAcc_concat, NodeStatusAcc.step, hProbe]
          · intro e hMem
            rw [List.mem_append, List.mem_singleton] at hMem
            rcases hMem with hEarlier | rfl
            · exact hSkimmed e hEarlier
            · simp only [CancelProbe.decode,
                Option.bind_eq_bind, Option.pure_def,
                Option.bind_eq_some_iff] at hProbe
              exact ⟨_, hProbe.choose_spec.1⟩

theorem step_verdict
    {acc : NodeStatusAcc}
    (hLegible : ev.Legible)
    (hAdmissible : ev.kind.settles = true →
      Admissible env ev acc.verdict) :
    (acc.step ev).verdict = ev.moves acc.verdict := by
  rcases hLegible.skimmed with ⟨p, hSkim⟩
  rw [step_of_skimmed hSkim]
  exact observe_verdict hLegible.aligned hAdmissible
    (probe_of_skimmed hSkim)

------------------------------------------------------------
-- The Order of Creation
------------------------------------------------------------

/- The order lists the nodes that have a status, once. -/
structure Tidy (acc : NodeStatusAcc) : Prop where
  nodup : acc.order.Nodup
  mem : ∀ id, id ∈ acc.order ↔ acc.status id ≠ none

variable {acc : NodeStatusAcc} {id : NodeId}

theorem tidy_empty : Tidy NodeStatusAcc.empty :=
  ⟨List.nodup_nil, by simp [NodeStatusAcc.empty]⟩

theorem Tidy.setStatus
    {cur s : Status}
    (hTidy : Tidy acc)
    (hStatus : acc.status id = some cur) :
    Tidy (acc.setStatus id s) := by
  refine ⟨hTidy.nodup, fun i => ?_⟩
  simp only [NodeStatusAcc.setStatus]
  rw [hTidy.mem i]
  by_cases hHere : i = id
  · simp [hHere, hStatus]
  · rw [Function.update_of_ne hHere]

theorem Tidy.adoptMerge
    {seq : Nat} (hTidy : Tidy acc) :
    Tidy (acc.adoptMerge id seq) :=
  ⟨hTidy.nodup, hTidy.mem⟩

theorem Tidy.observeCreated (hTidy : Tidy acc) :
    Tidy (acc.observeCreated id) := by
  unfold NodeStatusAcc.observeCreated
  cases hStatus : acc.status id with
  | some s => exact hTidy
  | none =>
      have hFresh : id ∉ acc.order := by
        rw [hTidy.mem]
        simp [hStatus]
      refine ⟨?_, fun i => ?_⟩
      · simp only [NodeStatusAcc.setStatus]
        rw [List.nodup_append]
        refine ⟨hTidy.nodup, List.nodup_singleton id, ?_⟩
        intro a hMem b hLast
        rw [List.mem_singleton.mp hLast]
        exact fun hEq => hFresh (hEq ▸ hMem)
      · simp only [NodeStatusAcc.setStatus, List.mem_append,
          List.mem_singleton]
        rw [hTidy.mem i]
        by_cases hHere : i = id
        · simp [hHere]
        · rw [Function.update_of_ne hHere]
          simp [hHere]

theorem Tidy.observe
    (hTidy : Tidy acc) (probe : CancelProbe) :
    Tidy (acc.observe probe) := by
  unfold NodeStatusAcc.observe
  split
  · exact hTidy
  split
  · exact hTidy.observeCreated
  · unfold NodeStatusAcc.observeStatus
    split
    · exact hTidy
    next hStatus =>
      split
      · exact hTidy
      · split
        · exact hTidy.setStatus hStatus
        · exact hTidy
  · unfold NodeStatusAcc.observeReport
    split
    · exact hTidy
    next hStatus =>
      dsimp only
      split
      · split
        · exact (hTidy.setStatus hStatus).adoptMerge
        · exact hTidy
      · split
        · exact hTidy
        · split
          · exact (hTidy.setStatus hStatus).adoptMerge
          · exact hTidy.setStatus hStatus
  · exact hTidy

theorem tidy_logAcc (events : List Event) :
    Tidy (logAcc events) := by
  induction events using List.reverseRecOn with
  | nil => exact tidy_empty
  | append_singleton events ev ih =>
      rw [logAcc_concat]
      unfold NodeStatusAcc.step
      split
      · exact ih.observe _
      · exact ih

theorem mem_finishFacts {fact : NodeStatusFact} :
    fact ∈ acc.finishFacts ↔
      fact.nodeId ∈ acc.order ∧
        fact.status = (acc.status fact.nodeId).getD .pending ∧
        fact.confirmedMergeSeq =
          acc.confirmedMergeSeq fact.nodeId := by
  unfold NodeStatusAcc.finishFacts
  rw [List.mem_map]
  constructor
  · rintro ⟨id, hMem, rfl⟩
    rw [List.mem_insertionSort] at hMem
    exact ⟨hMem, rfl, rfl⟩
  · rintro ⟨hMem, hStatus, hSeq⟩
    refine ⟨fact.nodeId, ?_, ?_⟩
    · rw [List.mem_insertionSort]
      exact hMem
    · rw [← hStatus, ← hSeq]

end Fold

------------------------------------------------------------
-- Tracked Runs
------------------------------------------------------------

def LegibleLog (d : Disk) : Prop :=
  ∀ ev ∈ d.events, ev.Legible

/- A created run of complete lines that its readers accept. -/
structure Sane (env : RunEnv) (d : Disk) : Prop where
  manifest : d.manifest ≠ none
  readable : Readable env d
  nodes : NodesReadable env d
  lines : d.lines = d.events.map .event
  ordered : d.Ordered
  behind : d.appliedSeq ≤ d.lastSeq

/-
  Log and projections agree, or they do once the last event,
  which is past the watermark, is folded. Folding it again
  changes nothing.
-/
structure Tracked (env : RunEnv) (d : Disk) : Prop
    extends Sane env d where
  ahead : ∀ ev ∈ d.events, d.appliedSeq < ev.seq →
    ev.kind.settles = true →
    ev.seq = d.lastSeq ∧ Admissible env ev d.verdict ∧
      ev.moves (logAcc d.events).verdict =
        (logAcc d.events).verdict
  agree : (logAcc d.events).verdict = d.verdict ∨
    ∃ earlier ev, d.events = earlier ++ [ev] ∧
      d.appliedSeq < ev.seq ∧ ev.kind.settles = true ∧
      (logAcc earlier).verdict = d.verdict ∧
      (logAcc d.events).verdict = ev.moves d.verdict

/- No event that settles a node is past the watermark. -/
def Quiet (d : Disk) : Prop :=
  ∀ ev ∈ d.events, ev.kind.settles = true →
    ev.seq ≤ d.appliedSeq

section Steps

variable {env : RunEnv} {d s : Disk} {ev : Event}
variable {ops : List ProjectionOp}

theorem nodesReadable_put
    {op : ProjectionOp}
    (hNodes : NodesReadable env d)
    (hOp : op.Writable env) :
    NodesReadable env (op.put d) := by
  cases op with
  | manifest m => exact hNodes
  | node n =>
      intro id n' hLookup
      simp only [ProjectionOp.put, Disk.putNode_nodes] at hLookup
      by_cases hHere : id = n.nodeId
      · rw [hHere, Finmap.lookup_insert,
          Option.some.injEq] at hLookup
        rw [← hLookup, hHere]
        exact hOp
      · rw [Finmap.lookup_insert_of_ne _ hHere] at hLookup
        exact hNodes id n' hLookup

theorem nodesReadable_applyOps
    (hNodes : NodesReadable env d)
    (hOps : ∀ op ∈ ops, op.Writable env) :
    NodesReadable env (applyOps ops d) := by
  induction ops generalizing d with
  | nil => exact hNodes
  | cons op rest ih =>
      exact ih
        (nodesReadable_put hNodes (hOps op List.mem_cons_self))
        (fun op hMem => hOps op (List.mem_cons_of_mem _ hMem))

theorem Sane.cut
    (hSane : Sane env s)
    (hPlan : reduceEventToOps env s ev = .ok ops)
    (k : Nat) :
    Sane env (applyOps (ops.take k) s) := by
  have hOps : ∀ op ∈ ops.take k, op.Writable env :=
    fun op hMem =>
      writable_of_planned (planned_of_reduce hPlan).2 op
        (List.mem_of_mem_take hMem)
  refine ⟨manifest_ne_none_of_applyOps hSane.manifest,
    readable_applyOps hSane.readable hOps,
    nodesReadable_applyOps hSane.nodes hOps, ?_,
    hSane.ordered.congr (applyOps_lines _ s), ?_⟩
  · rw [applyOps_lines, Disk.applyOps_events]
    exact hSane.lines
  · rw [appliedSeq_of_plan hPlan rfl,
      lastSeq_congr (applyOps_lines _ s)]
    exact hSane.behind

theorem advance_runStatus (seq : Nat) :
    (s.advance seq).runStatus = s.runStatus := by
  by_cases hBehind : s.Behind seq
  · rcases hBehind with ⟨m, hManifest, hLt⟩
    rw [Disk.advance_of_behind hManifest hLt]
    simp [Disk.runStatus, hManifest]
  · rw [Disk.advance_of_not_behind hBehind]

theorem Sane.advance
    {seq : Nat}
    (hSane : Sane env s)
    (hSeq : seq ≤ s.lastSeq) :
    Sane env (s.advance seq) := by
  refine ⟨?_, readable_advance hSane.readable, ?_, ?_,
    hSane.ordered.congr (Disk.advance_lines seq s), ?_⟩
  · rcases Option.ne_none_iff_exists'.mp hSane.manifest with
      ⟨m, hSome⟩
    rcases advance_manifest_some seq hSome with ⟨m', hSome', _⟩
    simp [hSome']
  · intro id n hLookup
    rw [Disk.advance_nodes] at hLookup
    exact hSane.nodes id n hLookup
  · rw [Disk.advance_lines, Disk.advance_events]
    exact hSane.lines
  · rw [lastSeq_congr (Disk.advance_lines seq s)]
    exact advance_appliedSeq_le hSane.behind hSeq

theorem Sane.log
    (hSane : Sane env s)
    (hSeq : ev.seq = s.lastSeq + 1) :
    Sane env (s.log ev) := by
  have hLast : (s.log ev).lastSeq = ev.seq := by
    rw [Disk.lastSeq, Disk.log_events, lastSeqOf_concat]
  have hBehind := hSane.behind
  refine ⟨hSane.manifest, hSane.readable, hSane.nodes, ?_,
    ordered_log hSane.ordered hSeq, ?_⟩
  · rw [Disk.log_events, List.map_append, ← hSane.lines]
    rfl
  · change s.appliedSeq ≤ _
    omega

theorem Sane.torn
    {b : Bool} (hSane : Sane env s) :
    Sane env { s with torn := b } :=
  ⟨hSane.manifest, hSane.readable, hSane.nodes, hSane.lines,
    Disk.Ordered.congr (d := s) rfl hSane.ordered,
    hSane.behind⟩

theorem Tracked.torn
    {b : Bool} (hTracked : Tracked env s) :
    Tracked env { s with torn := b } :=
  ⟨hTracked.toSane.torn, hTracked.ahead, hTracked.agree⟩

/- Two settling events past the watermark are one. -/
theorem Tracked.only
    {e : Event}
    (hTracked : Tracked env s)
    (hMem : ev ∈ s.events)
    (hAhead : s.appliedSeq < ev.seq)
    (hSettles : ev.kind.settles = true)
    (hMem' : e ∈ s.events)
    (hAhead' : s.appliedSeq < e.seq)
    (hSettles' : e.kind.settles = true) :
    e = ev := by
  have hLast := (hTracked.ahead ev hMem hAhead hSettles).1
  have hLast' := (hTracked.ahead e hMem' hAhead' hSettles').1
  exact seq_injective hTracked.ordered hMem' hMem
    (hLast'.trans hLast.symm)

/- Once a settling event is folded, all agree. -/
theorem Tracked.moved
    (hTracked : Tracked env s)
    (hMem : ev ∈ s.events)
    (hAhead : s.appliedSeq < ev.seq)
    (hSettles : ev.kind.settles = true) :
    (logAcc s.events).verdict = ev.moves s.verdict := by
  rcases hTracked.agree with
    hAgree | ⟨_, e, hSplit, hAhead', hSettles', _, hPending⟩
  · rw [← hAgree]
    exact (hTracked.ahead ev hMem hAhead hSettles).2.2.symm
  · have hMem' : e ∈ s.events := by simp [hSplit]
    rw [← hTracked.only hMem hAhead hSettles hMem' hAhead'
      hSettles']
    exact hPending

/- Writes of an event that settles nothing, or is pending. -/
theorem Tracked.cut
    (hTracked : Tracked env s)
    (hPending : ev.kind.settles = true →
      ev ∈ s.events ∧ s.appliedSeq < ev.seq)
    (hPlan : reduceEventToOps env s ev = .ok ops)
    (j : Nat) :
    Tracked env (applyOps (ops.take (j + 1)) s) := by
  have hMark :
      (applyOps (ops.take (j + 1)) s).appliedSeq =
        s.appliedSeq := appliedSeq_of_plan hPlan rfl _
  have hLast :
      (applyOps (ops.take (j + 1)) s).lastSeq = s.lastSeq :=
    lastSeq_congr (applyOps_lines _ s)
  have hVerdict := verdict_of_cut hPlan j
  refine ⟨hTracked.toSane.cut hPlan _, ?_, ?_⟩
  · rw [Disk.applyOps_events, hMark, hLast, hVerdict]
    intro e hMem' hAhead' hSettles'
    rcases hTracked.ahead e hMem' hAhead' hSettles' with
      ⟨hSeq, hAdmissible, hStable⟩
    refine ⟨hSeq, ?_, hStable⟩
    cases hSettles : ev.kind.settles with
    | false => rwa [moves_of_not_settles hSettles]
    | true =>
        rcases hPending hSettles with ⟨hMem, hAhead⟩
        obtain rfl := hTracked.only hMem hAhead hSettles hMem'
          hAhead' hSettles'
        exact hAdmissible.moves
  · rw [Disk.applyOps_events, hMark, hVerdict]
    cases hSettles : ev.kind.settles with
    | false =>
        rw [moves_of_not_settles hSettles]
        exact hTracked.agree
    | true =>
        rcases hPending hSettles with ⟨hMem, hAhead⟩
        exact .inl (hTracked.moved hMem hAhead hSettles)

theorem Tracked.folded
    (hTracked : Tracked env s)
    (hMem : ev ∈ s.events)
    (hAhead : s.appliedSeq < ev.seq)
    (hPlan : reduceEventToOps env s ev = .ok ops) :
    Tracked env ((applyOps ops s).advance ev.seq) := by
  have hSane := hTracked.toSane.cut hPlan ops.length
  rw [List.take_length] at hSane
  have hBound : ∀ e ∈ s.events, e.seq ≤ s.lastSeq :=
    fun e hIn =>
      seq_le_lastSeqOf hTracked.ordered.increasing hIn
  have hLast : (applyOps ops s).lastSeq = s.lastSeq :=
    lastSeq_congr (applyOps_lines _ s)
  have hMark :=
    appliedSeq_folded hTracked.manifest hAhead hPlan
  have hVerdict :
      ((applyOps ops s).advance ev.seq).verdict =
        ev.moves s.verdict := by
    rw [← verdict_of_plan hPlan]
    exact verdict_congr (Disk.advance_nodes _ _)
  have hTail := lastSeq_folded ops s ev.seq
  refine ⟨hSane.advance (by rw [hLast]; exact hBound ev hMem),
    ?_, ?_⟩
  · rw [Disk.advance_events, Disk.applyOps_events, hMark,
      hTail, hVerdict]
    intro e hMem' hLater hSettles'
    rcases hTracked.ahead e hMem' (by omega) hSettles' with
      ⟨hSeq, hAdmissible, hStable⟩
    refine ⟨hSeq, ?_, hStable⟩
    cases hSettles : ev.kind.settles with
    | false => rwa [moves_of_not_settles hSettles]
    | true =>
        have hFirst := (hTracked.ahead ev hMem hAhead hSettles).1
        omega
  · rw [Disk.advance_events, Disk.applyOps_events, hMark,
      hVerdict]
    cases hSettles : ev.kind.settles with
    | true => exact .inl (hTracked.moved hMem hAhead hSettles)
    | false =>
        rw [moves_of_not_settles hSettles]
        rcases hTracked.agree with
          hAgree |
          ⟨earlier, e, hSplit, hAhead', hSettles', hPending⟩
        · exact .inl hAgree
        · have hMem' : e ∈ s.events := by simp [hSplit]
          refine .inr
            ⟨earlier, e, hSplit, ?_, hSettles', hPending⟩
          have hSeq :=
            (hTracked.ahead e hMem' hAhead' hSettles').1
          have hLe := hBound ev hMem
          by_contra hNot
          have hSame : ev = e :=
            seq_injective hTracked.ordered hMem hMem'
              (by omega)
          rw [hSame, hSettles'] at hSettles
          cases hSettles

/- With nothing to settle past the watermark, all agree. -/
theorem Tracked.agreed
    (hTracked : Tracked env s) (hQuiet : Quiet s) :
    (logAcc s.events).verdict = s.verdict := by
  rcases hTracked.agree with
    hAgree | ⟨_, e, hSplit, hAhead, hSettles, _⟩
  · exact hAgree
  · exact absurd (hQuiet e (by simp [hSplit]) hSettles)
      (not_le.mpr hAhead)

/- A settling event left behind would have been taken. -/
theorem Tracked.quiet
    (hTracked : Tracked env s)
    (hSettled : Settled env s) : Quiet s := by
  intro ev hMem hSettles
  by_contra hAhead
  have hLt := not_le.mp hAhead
  rcases Option.ne_none_iff_exists'.mp hTracked.manifest with
    ⟨m, hSome⟩
  have hAdmissible :=
    (hTracked.ahead ev hMem hLt hSettles).2.1
  rw [Disk.appliedSeq_of_manifest hSome] at hLt
  exact not_accepted_iff.mpr
    (hSettled.refused m hSome ev hMem hLt)
    (accepted_of_admissible hTracked.readable hTracked.nodes
      hSettles hAdmissible)

/- Tracked runs stay so, and catch-up makes them quiet. -/
theorem Tracked.wp_catchUp (hTracked : Tracked env d) :
    Durable.wp (replayUnappliedUnlocked env)
      (fun _ s => Tracked env s ∧ Quiet s)
      (fun _ s => Tracked env s)
      (fun _ s => Tracked env s) d := by
  refine Durable.wp_mono
    (wp_catchUp_rule (I := Tracked env)
      (fun _ hI => hI.readable) hTracked.ordered ?_
      hTracked.torn)
    (fun _ _ h => ⟨h.1, h.1.quiet h.2.2⟩) (fun _ _ h => h.1)
    (fun _ _ h => h.1)
  intro s ev ops hI _ hMem hAhead _ hPlan
  exact ⟨hI.cut (fun _ => ⟨hMem, hAhead⟩) hPlan,
    hI.folded hMem hAhead hPlan⟩

theorem Tracked.log
    (hTracked : Tracked env s)
    (hQuiet : Quiet s)
    (hSeq : ev.seq = s.lastSeq + 1)
    (hLegible : ev.Legible)
    (hPlan : reduceEventToOps env s ev = .ok ops) :
    Tracked env (s.log ev) := by
  have hLast : (s.log ev).lastSeq = ev.seq := by
    rw [Disk.lastSeq, Disk.log_events, lastSeqOf_concat]
  have hAgree := hTracked.agreed hQuiet
  have hAdmissible : ev.kind.settles = true →
      Admissible env ev s.verdict :=
    fun hSettles => admissible_of_plan hSettles hPlan
  have hStep :
      (logAcc (s.log ev).events).verdict =
        ev.moves s.verdict := by
    rw [← hAgree] at hAdmissible ⊢
    rw [Disk.log_events, logAcc_concat]
    exact step_verdict hLegible hAdmissible
  have hBehind := hTracked.behind
  have hAhead : (s.log ev).appliedSeq < ev.seq := by
    change s.appliedSeq < _
    omega
  refine ⟨hTracked.toSane.log hSeq, ?_, ?_⟩
  · intro e hMem hLater hSettles
    rw [Disk.log_events, List.mem_append,
      List.mem_singleton] at hMem
    rcases hMem with hOld | rfl
    · exact absurd (hQuiet e hOld hSettles)
        (not_le.mpr hLater)
    · refine ⟨hLast.symm, hAdmissible hSettles, ?_⟩
      rw [hStep, moves_idem]
  · cases hSettles : ev.kind.settles with
    | false =>
        left
        rw [hStep, moves_of_not_settles hSettles]
        rfl
    | true =>
        exact .inr ⟨s.events, ev, Disk.log_events ev s, hAhead,
          hSettles, hAgree, hStep⟩

theorem Tracked.gateWrites
    (hTracked : Tracked env s)
    (hQuiet : Quiet s)
    (hSeq : ev.seq = s.lastSeq + 1)
    (hLegible : ev.Legible)
    (hPlan : reduceEventToOps env s ev = .ok ops) :
    GateWrites (fun _ s' => Tracked env s')
      (fun s' => Tracked env s') s ev ops := by
  have hLogged := hTracked.log hQuiet hSeq hLegible hPlan
  have hAgain := (reduce_logged env s ev).trans hPlan
  have hBehind := hTracked.behind
  have hAhead : (s.log ev).appliedSeq < ev.seq := by
    change s.appliedSeq < _
    omega
  have hMem : ev ∈ (s.log ev).events := by simp
  exact ⟨hTracked.torn, hLogged,
    fun j _ => hLogged.cut (fun _ => ⟨hMem, hAhead⟩) hAgain j,
    fun _ => hLogged.folded hMem hAhead hAgain,
    hLogged.folded hMem hAhead hAgain⟩

------------------------------------------------------------
-- Whole Runs
------------------------------------------------------------

/- A run that is tracked as long as its log is legible. -/
structure Followed (env : RunEnv) (d : Disk) : Prop where
  ordered : d.Ordered
  tracked : LegibleLog d → Tracked env d

theorem LegibleLog.congr
    (hLines : s.lines = d.lines) :
    LegibleLog s ↔ LegibleLog d := by
  unfold LegibleLog
  rw [Disk.events_congr hLines]

theorem Followed.wp_catchUp (hFollowed : Followed env d) :
    Durable.wp (replayUnappliedUnlocked env)
      (fun _ s => Followed env s ∧ Readable env s ∧
        (LegibleLog s → Quiet s))
      (fun _ s => Followed env s)
      (fun _ s => Followed env s) d := by
  have hOrdered := hFollowed.ordered
  by_cases hLegible : LegibleLog d
  · have hTracked := hFollowed.tracked hLegible
    refine Durable.wp_mono hTracked.wp_catchUp ?_ ?_ ?_
    · intro _ s hEnd
      exact ⟨⟨hEnd.1.ordered, fun _ => hEnd.1⟩,
        hEnd.1.readable, fun _ => hEnd.2⟩
    · exact fun _ s hEnd => ⟨hEnd.ordered, fun _ => hEnd⟩
    · exact fun _ s hEnd => ⟨hEnd.ordered, fun _ => hEnd⟩
  · have hKept : ∀ s : Disk, s.lines = d.lines →
        Followed env s := by
      intro s hLines
      refine ⟨hOrdered.congr hLines, fun hOther => ?_⟩
      exact absurd ((LegibleLog.congr hLines).mp hOther) hLegible
    refine Durable.wp_mono (wp_catchUp_settled hOrdered) ?_
      (fun _ s hLines => hKept s hLines)
      (fun _ s hLines => hKept s hLines)
    intro _ s hEnd
    refine ⟨hKept s hEnd.1, hEnd.2.readable, fun hOther => ?_⟩
    exact absurd ((LegibleLog.congr hEnd.1).mp hOther) hLegible

theorem Followed.wp_call
    (hFollowed : Followed env d) (call : Call) :
    Durable.wp (call.run env) (fun _ s => Followed env s)
      (fun _ s => Followed env s)
      (fun _ s => Followed env s) d := by
  refine Taskfleet.wp_call call
    (R := fun s => Followed env s ∧ Readable env s ∧
      (LegibleLog s → Quiet s))
    (fun s hI => hI.wp_catchUp) (fun _ hR => hR.1)
    (fun _ hR => hR.1) (fun _ hR => hR.2.1) ?_ hFollowed
  intro s last r ops _ hR hLast hPlan
  obtain rfl := recoverLastSeq_eq hR.1.ordered.plain hLast
  rcases hR with ⟨hHere, _, hQuiet⟩
  have hLog :
      (s.log (r.event env (s.lastSeq + 1))).Ordered :=
    ordered_log hHere.ordered rfl
  by_cases hLegible : LegibleLog
      (s.log (r.event env (s.lastSeq + 1)))
  · have hOld : LegibleLog s :=
      fun e hMem => hLegible e (by simp [hMem])
    have hWrites :=
      (hHere.tracked hOld).gateWrites (hQuiet hOld) rfl
        (hLegible _ (by simp)) hPlan
    have hDone : ∀ s' : Disk, Tracked env s' →
        Followed env s' :=
      fun s' hTracked => ⟨hTracked.ordered, fun _ => hTracked⟩
    exact ⟨hDone _ hWrites.torn, hDone _ hWrites.logged,
      fun j hj => hDone _ (hWrites.projected j hj),
      fun hBehind => hDone _ (hWrites.applied hBehind),
      hDone _ hWrites.done⟩
  · have hDone : ∀ s' : Disk,
        s'.lines =
          (s.log (r.event env (s.lastSeq + 1))).lines →
        Followed env s' := by
      intro s' hLines
      refine ⟨hLog.congr hLines, fun hOther => ?_⟩
      exact absurd ((LegibleLog.congr hLines).mp hOther) hLegible
    refine ⟨?_, hDone _ rfl, fun _ _ => hDone _ (by simp),
      fun _ => hDone _ (by simp), hDone _ (by simp)⟩
    exact ⟨Disk.Ordered.congr (d := s) rfl hHere.ordered,
      fun hOther => (hHere.tracked hOther).torn⟩

/- A run with its creation in the log and nothing else. -/
structure Created (env : RunEnv) (s : Disk) : Prop where
  event : ∃ r : Request, r.kind = .runCreated ∧
    s.events = [r.event env 1]
  lines : s.lines = s.events.map .event
  manifest : s.manifest ≠ none
  readable : Readable env s
  verdict : s.verdict = Disk.empty.verdict
  mark : s.appliedSeq ≤ 1

theorem Created.absent
    (hCreated : Created env s) (id : NodeId) :
    s.verdict id = .absent := by
  rw [hCreated.verdict]
  exact verdict_of_missing rfl

theorem Created.only
    (hCreated : Created env s)
    (hMem : ev ∈ s.events) : ev.kind = .runCreated := by
  rcases hCreated.event with ⟨r, hKind, hEvents⟩
  rw [hEvents, List.mem_singleton] at hMem
  rw [hMem]
  exact hKind

theorem Created.sane (hCreated : Created env s) :
    Sane env s := by
  rcases hCreated.event with ⟨r, _, hEvents⟩
  refine ⟨hCreated.manifest, hCreated.readable, ?_,
    hCreated.lines, ?_, ?_⟩
  · intro id n hLookup
    rw [verdict_eq_absent.mp (hCreated.absent id)] at hLookup
    cases hLookup
  · exact Disk.Ordered.congr
      (d := Disk.empty.log (r.event env 1))
      (by rw [hCreated.lines, hEvents]; rfl)
      (ordered_log ordered_empty rfl)
  · have hLast : s.lastSeq = 1 := by
      rw [Disk.lastSeq, hEvents]
      rfl
    rw [hLast]
    exact hCreated.mark

theorem Created.tracked
    (hCreated : Created env s)
    (hLegible : LegibleLog s) :
    Tracked env s := by
  refine ⟨hCreated.sane, ?_, ?_⟩
  · intro e hMem _ hSettles
    rw [hCreated.only hMem] at hSettles
    cases hSettles
  · left
    rcases hCreated.event with ⟨r, hKind, hEvents⟩
    have hOther : (r.event env 1).kind.settles = false := by
      simp [Request.event, hKind, EventKind.settles]
    have hHere : (r.event env 1).Legible :=
      hLegible _ (by simp [hEvents])
    have hNever : (r.event env 1).kind.settles = true →
        Admissible env (r.event env 1)
          NodeStatusAcc.empty.verdict := by
      rw [hOther]
      exact fun hFalse => by cases hFalse
    have hStep := step_verdict hHere hNever
    rw [moves_of_not_settles hOther] at hStep
    rw [hEvents, hCreated.verdict]
    exact hStep

theorem Booted.created (hBooted : Booted env d) :
    Created env d := by
  have hOther : ∀ r : Request, r.kind = .runCreated →
      (r.event env 1).kind.settles = false := by
    intro r hKind
    simp [Request.event, hKind, EventKind.settles]
  refine hBooted.rule ?_ ?_
  · intro r ops j hKind hPlan hManifest
    have hAgain :=
      (reduce_logged env Disk.empty (r.event env 1)).trans hPlan
    have hOps := writable_of_planned (planned_of_reduce hAgain).2
    refine ⟨⟨r, hKind, by simp; rfl⟩, by simp; rfl, hManifest,
      readable_applyOps readable_empty
        (fun op hMem => hOps op (List.mem_of_mem_take hMem)),
      ?_, ?_⟩
    · rw [verdict_of_cut hAgain,
        moves_of_not_settles (hOther r hKind)]
      rfl
    · rw [appliedSeq_of_plan hAgain rfl]
      exact Nat.zero_le _
  · intro r ops hKind hPlan hManifest
    have hAgain :=
      (reduce_logged env Disk.empty (r.event env 1)).trans hPlan
    have hOps := writable_of_planned (planned_of_reduce hAgain).2
    rcases Option.ne_none_iff_exists'.mp hManifest with
      ⟨m, hSome⟩
    rcases advance_manifest_some 1 hSome with ⟨m', hSome', _⟩
    refine ⟨⟨r, hKind, by simp; rfl⟩, by simp; rfl,
      by simp [hSome'],
      readable_advance (readable_applyOps readable_empty hOps),
      ?_, ?_⟩
    · rw [verdict_congr (Disk.advance_nodes _ _),
        verdict_of_plan hAgain,
        moves_of_not_settles (hOther r hKind)]
      rfl
    · have hOld := appliedSeq_of_whole hAgain
      have hLast :
          (applyOps ops
            (Disk.empty.log (r.event env 1))).lastSeq = 1 :=
        lastSeq_congr (applyOps_lines _ _)
      refine le_of_le_of_eq (advance_appliedSeq_le ?_ hLast.ge)
        hLast
      rw [hOld]
      exact Nat.zero_le _

theorem Booted.followed (hBooted : Booted env d) :
    Followed env d :=
  ⟨hBooted.created.sane.ordered, hBooted.created.tracked⟩

theorem Followed.of_run
    {Cut : Boundary → Prop}
    (hRun : BootedRun env Cut d) : Followed env d :=
  Durable.Reach.invariant (I := Followed env)
    (fun _ hBooted => hBooted.followed)
    (fun call _ hFollowed =>
      Durable.wp_mono (hFollowed.wp_call call)
        (fun _ _ h => h) (fun _ _ h => h) (fun _ _ h _ => h))
    hRun

end Steps

------------------------------------------------------------
-- Plain Payloads
------------------------------------------------------------

/- An object whose status member, if any, is no object. -/
def Event.plain (ev : Event) : Bool :=
  match ev.data with
  | .obj kvs =>
      match kvs.lookup "status" with
      | some (.obj _) => false
      | _ => true
  | _ => false

theorem Event.legible_of_plain
    {ev : Event} (hPlain : ev.plain = true) :
    ev.Legible := by
  unfold Event.plain at hPlain
  split at hPlain
  next kvs hData =>
    refine ⟨⟨_, by rw [hData, decode_object]⟩, ?_, ?_⟩
    · intro _ s hStatus _
      simp only [Event.requireStatus, orError_eq_ok, hData,
        Json.get] at hStatus
      rw [hData]
      simp only [Json.get]
      generalize kvs.lookup "status" = found at hStatus hPlain ⊢
      cases found with
      | none => cases hStatus
      | some v =>
          cases v with
          | str name => exact ⟨name, rfl⟩
          | obj kvs => cases hPlain
          | _ => cases hStatus
    · intro _ p hSkim hMerge
      rwa [reportIsConfirmedMerge_skim hData hSkim] at hMerge
  next => cases hPlain

------------------------------------------------------------
-- Agreement
------------------------------------------------------------

/- Facts of a log that are true of the projections. -/
structure FactsAgree
    (facts : List NodeStatusFact) (d : Disk) : Prop where
  once : (facts.map NodeStatusFact.nodeId).Nodup
  nodes : ∀ id,
    id ∈ facts.map NodeStatusFact.nodeId ↔
      ∃ n, d.nodes.lookup id = some n
  verdicts : ∀ fact ∈ facts, ∀ n,
    d.nodes.lookup fact.nodeId = some n →
      fact.status.verdict = n.status.verdict

/- The copies of the payload readers give one answer. -/
structure Event.ReadAlike (ev : Event) : Prop where
  status : ev.kind = .nodeStatus → ∀ p s,
    CancelProbeData.decode ev.data = some p →
    ev.requireStatus = .ok s → s.isTerminal = true →
    (p.status.bind Json.asStr).bind parseStatus = some s
  report : ∀ p s,
    CancelProbeData.decode ev.data = some p →
    ev.reportTerminalStatus = .ok s →
    Taskfleet.reportTerminalStatus
      (p.success.bind Json.asBool)
      (p.cancelled.bind Json.asBool) = some s

theorem Event.Legible.readAlike
    {ev : Event} (hLegible : ev.Legible) : ev.ReadAlike := by
  refine ⟨?_, fun p s hSkim hRead =>
    reportTerminalStatus_skim hRead hSkim⟩
  intro hKind p s hSkim hRead hTerminal
  rcases parseStatus_skim hRead hSkim with
    hParse | ⟨_, hNoName⟩
  · exact hParse
  · rcases hLegible.aligned.status hKind s hRead hTerminal with
      ⟨name, hName⟩
    exact absurd hName (hNoName name)

theorem factsAgree_of_verdicts
    {acc : NodeStatusAcc} {d : Disk}
    (hTidy : Tidy acc)
    (hAgree : acc.verdict = d.verdict) :
    FactsAgree acc.finishFacts d := by
  have hIds :
      acc.finishFacts.map NodeStatusFact.nodeId =
        acc.order.insertionSort
          (fun a b => a.number ≤ b.number) := by
    simp [NodeStatusAcc.finishFacts, Function.comp_def]
  have hPresent : ∀ id, acc.status id ≠ none ↔
      ∃ n, d.nodes.lookup id = some n := by
    intro id
    have hHere := congrFun hAgree id
    rw [← Option.ne_none_iff_exists', ← not_iff_not, not_not,
      not_not, ← verdict_eq_absent, ← hHere]
    constructor
    · exact accVerdict_of_none
    · intro hAbsent
      by_contra hSome
      rcases Option.ne_none_iff_exists'.mp hSome with
        ⟨s, hStatus⟩
      rw [accVerdict_of_status hStatus] at hAbsent
      exact Status.verdict_ne_absent s hAbsent
  refine ⟨?_, ?_, ?_⟩
  · rw [hIds]
    exact (List.perm_insertionSort _ _).nodup_iff.mpr
      hTidy.nodup
  · intro id
    rw [hIds, List.mem_insertionSort, hTidy.mem, hPresent]
  · intro fact hMem n hLookup
    rcases mem_finishFacts.mp hMem with ⟨hOrder, hStatus, _⟩
    rcases Option.ne_none_iff_exists'.mp
      ((hTidy.mem _).mp hOrder) with ⟨s, hSome⟩
    rw [hStatus, hSome, Option.getD_some,
      ← accVerdict_of_status hSome, hAgree,
      verdict_of_lookup hLookup]

/- A caught-up tracked run reads the same facts everywhere. -/
theorem Tracked.facts
    {env : RunEnv} {s : Disk}
    (hTracked : Tracked env s)
    (hQuiet : Quiet s)
    (hLegible : LegibleLog s) :
    readNodeStatusFacts s.lines none =
        .ok (logAcc s.events).finishFacts ∧
      FactsAgree (logAcc s.events).finishFacts s := by
  refine ⟨?_, factsAgree_of_verdicts (tidy_logAcc _)
    (hTracked.agreed hQuiet)⟩
  rw [readNodeStatusFacts_eq, hTracked.lines,
    statusAcc_events (fun _ _ => rfl)
      (fun ev hMem => (hLegible ev hMem).skimmed)]
  rfl

namespace Sample

/- A report on the first node that is logged and no more. -/
def strandedReport : Disk :=
  ((Call.append
    (request .nodeReport (some .first)
      (.obj [("success", .bool false)]))).run env).cutAt 1
    (after [createRun, createNode])

/- A status in the object form of a unit variant. -/
def objectStatus : Disk :=
  after
    [createRun, createNode,
      .append
        (request .nodeStatus (some .first)
          (.obj [("status", .obj [("done", .null)])]))]

end Sample

/-
  In a created run of legible payloads, cut anywhere, the
  facts of the caught-up log can be read and agree with the
  projections, node by node.
-/
theorem facts_agree
    (env : RunEnv)
    (d : Disk)
    (hRun : BootedRun env (fun _ => True) d)
    (hLegible : LegibleLog d)
    (hCaughtUp :
      (replayUnappliedUnlocked env).result d = .ok ()) :
    (∃ facts,
        readNodeStatusFacts (catchUp env d).lines none =
            .ok facts ∧
          FactsAgree facts (catchUp env d)) ∧
      ∀ ev ∈ d.events, ev.ReadAlike := by
  have hFollowed := Followed.of_run hRun
  have hTracked := hFollowed.tracked hLegible
  have hEnd :=
    Durable.wp_ok
      (Durable.wp_and hTracked.wp_catchUp
        (wp_catchUp_settled hFollowed.ordered)) hCaughtUp
  rcases hEnd with ⟨⟨hDone, hQuiet⟩, hLines, _⟩
  have hSame : LegibleLog (catchUp env d) :=
    (LegibleLog.congr hLines).mpr hLegible
  exact ⟨⟨_, hDone.facts hQuiet hSame⟩,
    fun ev hMem => (hLegible ev hMem).readAlike⟩

/- A stranded report: catch-up brings both sides to failed. -/
theorem strandedReport_facts_agree :
    (Sample.strandedReport.nodes.lookup .first).map
        Node.status = some .pending ∧
      ∃ facts,
        readNodeStatusFacts
            (catchUp Sample.env Sample.strandedReport).lines
            none = .ok facts ∧
          FactsAgree facts
            (catchUp Sample.env Sample.strandedReport) := by
  have hRun :
      BootedRun Sample.env (fun _ => True)
        Sample.strandedReport :=
    Durable.Reach.cutAt _ 1 (fun _ => true)
      (fun _ _ => trivial)
      (Sample.bootedRun_after (fun _ => True)
        [Sample.createNode])
      (by decide +kernel)
  have hPlain :
      ∀ ev ∈ Sample.strandedReport.events, ev.plain = true := by
    decide +kernel
  have hBoth :=
    facts_agree Sample.env Sample.strandedReport hRun
      (fun ev hMem => Event.legible_of_plain (hPlain ev hMem))
      (by decide +kernel)
  exact ⟨by decide +kernel, hBoth.1⟩

/- An accepted object-form status settles the node on disk only. -/
theorem not_facts_agree :
    ¬ ∀ (env : RunEnv) (d : Disk),
      CrashRun env d →
        (replayUnappliedUnlocked env).result d = .ok () →
          (∃ facts,
              readNodeStatusFacts (catchUp env d).lines none =
                  .ok facts ∧
                FactsAgree facts (catchUp env d)) ∧
            ∀ ev ∈ d.events, ev.ReadAlike := by
  intro hAlways
  have hRun : CrashRun Sample.env Sample.objectStatus :=
    (Sample.crashFreeRun_after _).crashRun
  rcases (hAlways Sample.env Sample.objectStatus hRun
    (by decide +kernel)).1 with ⟨facts, hFacts, hAgree⟩
  have hRead :
      readNodeStatusFacts
          (catchUp Sample.env Sample.objectStatus).lines none =
        .ok [⟨.first, .pending, none⟩] := by
    decide +kernel
  rw [hRead, Except.ok.injEq] at hFacts
  subst hFacts
  have hStatus :
      ((catchUp Sample.env Sample.objectStatus).nodes.lookup
        .first).map Node.status = some .done := by
    decide +kernel
  rw [Option.map_eq_some_iff] at hStatus
  rcases hStatus with ⟨n, hLookup, hDone⟩
  have hVerdict :=
    hAgree.verdicts _ (List.mem_singleton.mpr rfl) n hLookup
  rw [hDone] at hVerdict
  revert hVerdict
  decide

end Taskfleet
