import Taskfleet.Agreement

/-
  Closings and creations of a run.

  A status of the run and a creation of a node are always
  taken again, so at most the last event of a log is one that
  is past the watermark. Those up to it show on disk: a run
  that was closed is closed, and a node that was created is
  counted.

  Main declarations:
    * `Grounded`, `Drained`
    * `Grounded.cut`, `Grounded.folded`, `Grounded.log`
    * `Grounded.wp_catchUp`
-/

------------------------------------------------------------
-- Manifests and Nodes Across a Plan
------------------------------------------------------------

namespace Taskfleet

open Fallible

section Plan

variable {env : RunEnv} {s : Disk} {ev : Event}
variable {ops : List ProjectionOp}

/- How the manifest may change under one event. -/
structure ManifestStep
    (s : Disk) (ev : Event) (m m' : Manifest) : Prop where
  nodeCount : m'.nodeCount = m.nodeCount
  status : m'.status = m.status ∨
    (ev.kind = .runStatus ∧ ev.requireStatus = .ok m'.status ∧
      (m.status.isTerminal = true →
        recoveryAllowed s ev m.status m'.status = true))

theorem planned_manifestStep
    {m m' : Manifest}
    (hPlanned : Planned env s ev ops)
    (hManifest : s.manifest = some m)
    (hMem : .manifest m' ∈ ops) :
    ManifestStep s ev m m' := by
  cases hPlanned with
  | nothing => simp at hMem
  | runCreated _ _ hNone =>
      rw [hNone] at hManifest
      cases hManifest
  | nodeAlone => simp at hMem
  | stepped => simp at hMem
  | runStatus m₀ st hKind hSome _ hStatus hOpen =>
      rw [hSome, Option.some.injEq] at hManifest
      subst hManifest
      simp only [List.mem_singleton,
        ProjectionOp.manifest.injEq] at hMem
      subst hMem
      exact ⟨rfl, .inr ⟨hKind, hStatus, hOpen⟩⟩
  | nodeCreated id n m₀ _ _ _ _ hSome =>
      rw [hSome, Option.some.injEq] at hManifest
      subst hManifest
      simp only [List.mem_cons, reduceCtorEq,
        ProjectionOp.manifest.injEq, List.not_mem_nil,
        or_false, false_or] at hMem
      subst hMem
      exact ⟨rfl, .inl rfl⟩
  | settlementIntent id n m₀ intent _ _ hSome =>
      rw [hSome, Option.some.injEq] at hManifest
      subst hManifest
      simp only [List.mem_singleton,
        ProjectionOp.manifest.injEq] at hMem
      subst hMem
      exact ⟨rfl, .inl rfl⟩

theorem applyOps_manifest_cases
    (ops : List ProjectionOp) (s : Disk) :
    (applyOps ops s).manifest = s.manifest ∨
      ∃ m, .manifest m ∈ ops ∧
        (applyOps ops s).manifest = some m := by
  induction ops generalizing s with
  | nil => exact .inl rfl
  | cons op rest ih =>
      rw [applyOps_cons]
      rcases ih (op.put s) with hSame | ⟨m, hMem, hSome⟩
      · cases op with
        | node n => exact .inl hSame
        | manifest m =>
            exact .inr ⟨m, List.mem_cons_self, hSame⟩
      · exact .inr ⟨m, List.mem_cons_of_mem _ hMem, hSome⟩

/- The manifest after any number of planned writes. -/
theorem manifestStep_of_cut
    {m : Manifest}
    (hPlan : reduceEventToOps env s ev = .ok ops)
    (hManifest : s.manifest = some m)
    (k : Nat) :
    ∃ m', (applyOps (ops.take k) s).manifest = some m' ∧
      ManifestStep s ev m m' := by
  rcases applyOps_manifest_cases (ops.take k) s with
    hSame | ⟨m', hMem, hSome⟩
  · exact ⟨m, hSame.trans hManifest, rfl, .inl rfl⟩
  · exact ⟨m', hSome, planned_manifestStep
      (planned_of_reduce hPlan).2 hManifest
      (List.mem_of_mem_take hMem)⟩

theorem ManifestStep.isTerminal
    {m m' : Manifest}
    (hStep : ManifestStep s ev m m')
    (hTerminal : m.status.isTerminal = true) :
    m'.status.isTerminal = true := by
  rcases hStep.status with hSame | ⟨_, _, hOpen⟩
  · rwa [hSame]
  · rw [(recoveryAllowed_statuses (hOpen hTerminal)).2]
    rfl

/- A planned write never removes a node. -/
theorem lookup_applyOps
    {id : NodeId}
    (ops : List ProjectionOp)
    (hThere : s.nodes.lookup id ≠ none) :
    (applyOps ops s).nodes.lookup id ≠ none := by
  induction ops generalizing s with
  | nil => exact hThere
  | cons op rest ih =>
      refine ih ?_
      cases op with
      | manifest m => exact hThere
      | node n =>
          simp only [ProjectionOp.put, Disk.putNode_nodes]
          by_cases hHere : id = n.nodeId
          · rw [hHere, Finmap.lookup_insert]
            simp
          · rwa [Finmap.lookup_insert_of_ne _ hHere]

/- A part of a plan writes all of a node or nothing of it. -/
theorem lookup_take_of_plan
    (hPlan : reduceEventToOps env s ev = .ok ops)
    (j : Nat) (id : NodeId) :
    (applyOps (ops.take j) s).nodes.lookup id =
        s.nodes.lookup id ∨
      (applyOps (ops.take j) s).nodes.lookup id =
        (applyOps ops s).nodes.lookup id := by
  have hOne : ∀ op : ProjectionOp,
      (applyOps ([op].take j) s).nodes.lookup id =
          s.nodes.lookup id ∨
        (applyOps ([op].take j) s).nodes.lookup id =
          (applyOps [op] s).nodes.lookup id := by
    intro op
    cases j with
    | zero => exact .inl rfl
    | succ j => exact .inr (by simp)
  cases (planned_of_reduce hPlan).2 with
  | nothing =>
      rw [List.take_nil]
      exact .inl rfl
  | runCreated => exact hOne _
  | runStatus => exact hOne _
  | nodeAlone => exact hOne _
  | settlementIntent => exact hOne _
  | stepped => exact hOne _
  | nodeCreated =>
      rcases j with _ | _ | j
      · exact .inl rfl
      · exact .inr rfl
      · exact .inr (by simp)

/- The plan of a closing leaves a closed run. -/
theorem closed_of_plan
    {m : Manifest} {st : Status}
    (hKind : ev.kind = .runStatus)
    (hPlan : reduceEventToOps env s ev = .ok ops)
    (hManifest : s.manifest = some m)
    (hValid : m.Valid env)
    (hStatus : ev.requireStatus = .ok st)
    (hTerminal : st.isTerminal = true) :
    ∃ m', (applyOps ops s).manifest = some m' ∧
      m'.status.isTerminal = true := by
  have hKindPlan := (reduce_eq_ok.mp hPlan).2
  simp only [reduceKind, hKind, reduceRunStatus] at hKindPlan
  rw [readManifestOpt_eq_some.mpr ⟨hManifest, hValid⟩,
    ok_bind] at hKindPlan
  simp only [hStatus, ok_bind] at hKindPlan
  split at hKindPlan
  next hClosed =>
    cases hKindPlan
    exact ⟨m, hManifest, hClosed.1⟩
  split at hKindPlan
  next hSame =>
    cases hKindPlan
    exact ⟨m, hManifest, by rw [hSame]; exact hTerminal⟩
  · cases hKindPlan
    exact ⟨_, rfl, hTerminal⟩

/- The plan of a creation leaves the node there. -/
theorem created_of_plan
    {id : NodeId}
    (hKind : ev.kind = .nodeCreated)
    (hNode : ev.nodeId = some id)
    (hPlan : reduceEventToOps env s ev = .ok ops) :
    (applyOps ops s).nodes.lookup id ≠ none := by
  rw [ne_eq, ← verdict_eq_absent, verdict_of_plan hPlan]
  unfold Event.moves
  rw [if_pos hNode]
  cases hVerdict : s.verdict id <;>
    simp [Event.move, hKind]

end Plan

------------------------------------------------------------
-- Grounded Runs
------------------------------------------------------------

/- The kinds that close a run or create a node. -/
def EventKind.founds : EventKind → Bool
| .runStatus | .nodeCreated => true
| _ => false

theorem EventKind.founds_cases
    {kind : EventKind} (hFounds : kind.founds = true) :
    kind = .runStatus ∨ kind = .nodeCreated := by
  unfold EventKind.founds at hFounds
  split at hFounds
  · exact .inl rfl
  · exact .inr rfl
  · cases hFounds

/- The reducer takes the event now and from now on. -/
def Firm (env : RunEnv) (s : Disk) (ev : Event) : Prop :=
  ev.runId = env.runId ∧
    (ev.kind = .runStatus → ∃ st, ev.requireStatus = .ok st) ∧
    (ev.kind = .nodeCreated →
      ∃ id, ev.nodeId = some id ∧
        (s.nodes.lookup id ≠ none ∨
          ∃ n, ev.newNode env id = .ok n))

structure Grounded (env : RunEnv) (s : Disk) : Prop
    extends Sane env s where
  firm : ∀ ev ∈ s.events, ev.kind.founds = true →
    Firm env s ev
  last : ∀ ev ∈ s.events, ev.kind.founds = true →
    s.appliedSeq < ev.seq → ev.seq = s.lastSeq
  closed : ∀ ev ∈ s.events, ev.kind = .runStatus →
    ev.seq ≤ s.appliedSeq → ∀ st, ev.requireStatus = .ok st →
    st.isTerminal = true →
    ∃ m, s.manifest = some m ∧ m.status.isTerminal = true
  counted : ∀ ev ∈ s.events, ev.kind = .nodeCreated →
    ev.seq ≤ s.appliedSeq →
    (∃ id, ev.nodeId = some id ∧ s.nodes.lookup id ≠ none) ∧
      ∃ m, s.manifest = some m ∧ m.nodeCount ≠ 0

/- No closing and no creation is past the watermark. -/
def Drained (s : Disk) : Prop :=
  ∀ ev ∈ s.events, ev.kind.founds = true →
    ev.seq ≤ s.appliedSeq

section Steps

variable {env : RunEnv} {d s : Disk} {ev : Event}
variable {ops : List ProjectionOp}

theorem Firm.mono
    {s' : Disk}
    (hFirm : Firm env s ev)
    (hNodes : ∀ id, s.nodes.lookup id ≠ none →
      s'.nodes.lookup id ≠ none) :
    Firm env s' ev := by
  refine ⟨hFirm.1, hFirm.2.1, fun hKind => ?_⟩
  rcases hFirm.2.2 hKind with ⟨id, hNode, hThere | hNew⟩
  · exact ⟨id, hNode, .inl (hNodes id hThere)⟩
  · exact ⟨id, hNode, .inr hNew⟩

theorem Firm.accepted
    (hFirm : Firm env s ev)
    (hSane : Sane env s)
    (hFounds : ev.kind.founds = true) :
    Accepted env s ev := by
  rcases EventKind.founds_cases hFounds with hKind | hKind
  · rw [accepted_runStatus hKind]
    exact ⟨hFirm.1, _,
      readManifestOpt_of_readable hSane.readable,
      .inr (hFirm.2.1 hKind)⟩
  · rcases hFirm.2.2 hKind with ⟨id, hNode, hTakes⟩
    refine accepted_of_admissible hSane.readable hSane.nodes
      (by rw [hKind]; rfl) ⟨hFirm.1, id, hNode, ?_⟩
    cases hVerdict : s.verdict id <;>
      simp only [Event.Takes, hKind]
    rcases hTakes with hThere | hNew
    · exact absurd (verdict_eq_absent.mp hVerdict) hThere
    · exact hNew

theorem firm_of_plan
    (hSane : Sane env s)
    (hPlan : reduceEventToOps env s ev = .ok ops) :
    Firm env s ev := by
  rcases reduce_eq_ok.mp hPlan with ⟨hRun, _⟩
  refine ⟨hRun, fun hKind => ?_, fun hKind => ?_⟩
  · rcases (accepted_runStatus hKind).mp ⟨ops, hPlan⟩ with
      ⟨_, o, hRead, hNone | hStatus⟩
    · rw [readManifestOpt_of_readable hSane.readable,
        hNone, Except.ok.injEq] at hRead
      exact absurd hRead hSane.manifest
    · exact hStatus
  · rcases admissible_of_plan (by rw [hKind]; rfl) hPlan with
      ⟨_, id, hNode, hTakes⟩
    refine ⟨id, hNode, ?_⟩
    by_cases hThere : s.nodes.lookup id = none
    · rw [verdict_of_missing hThere] at hTakes
      simp only [Event.Takes, hKind] at hTakes
      exact .inr hTakes
    · exact .inl hThere

theorem Grounded.torn
    {b : Bool} (hGrounded : Grounded env s) :
    Grounded env { s with torn := b } :=
  ⟨hGrounded.toSane.torn, hGrounded.firm, hGrounded.last,
    hGrounded.closed, hGrounded.counted⟩

/- Writes of any planned event keep the run grounded. -/
theorem Grounded.cut
    (hGrounded : Grounded env s)
    (hPlan : reduceEventToOps env s ev = .ok ops)
    (k : Nat) :
    Grounded env (applyOps (ops.take k) s) := by
  have hMark :
      (applyOps (ops.take k) s).appliedSeq = s.appliedSeq :=
    appliedSeq_of_plan hPlan rfl _
  have hLast :
      (applyOps (ops.take k) s).lastSeq = s.lastSeq :=
    lastSeq_congr (applyOps_lines _ s)
  refine ⟨hGrounded.toSane.cut hPlan k, ?_, ?_, ?_, ?_⟩
  · rw [Disk.applyOps_events]
    intro e hMem hFounds
    exact (hGrounded.firm e hMem hFounds).mono
      (fun _ hThere => lookup_applyOps _ hThere)
  · rw [Disk.applyOps_events, hMark, hLast]
    exact hGrounded.last
  · rw [Disk.applyOps_events, hMark]
    intro e hMem hKind hSeq st hStatus hTerminal
    rcases hGrounded.closed e hMem hKind hSeq st hStatus
      hTerminal with ⟨m, hManifest, hClosed⟩
    rcases manifestStep_of_cut hPlan hManifest k with
      ⟨m', hManifest', hStep⟩
    exact ⟨m', hManifest', hStep.isTerminal hClosed⟩
  · rw [Disk.applyOps_events, hMark]
    intro e hMem hKind hSeq
    rcases hGrounded.counted e hMem hKind hSeq with
      ⟨⟨id, hNode, hThere⟩, m, hManifest, hCount⟩
    rcases manifestStep_of_cut hPlan hManifest k with
      ⟨m', hManifest', hStep⟩
    exact ⟨⟨id, hNode, lookup_applyOps _ hThere⟩, m',
      hManifest', by rw [hStep.nodeCount]; exact hCount⟩

theorem countNodeFiles_ne_zero
    {id : NodeId} (hThere : s.nodes.lookup id ≠ none) :
    s.countNodeFiles ≠ 0 := by
  have hMem : id ∈ s.nodes.keys := by
    rw [Finmap.mem_keys]
    by_contra hNot
    exact hThere (Finmap.lookup_eq_none.mpr hNot)
  have hCard := Finset.card_pos.mpr ⟨id, hMem⟩
  unfold Disk.countNodeFiles
  omega

theorem Grounded.folded
    (hGrounded : Grounded env s)
    (hMem : ev ∈ s.events)
    (hAhead : s.appliedSeq < ev.seq)
    (hPlan : reduceEventToOps env s ev = .ok ops) :
    Grounded env ((applyOps ops s).advance ev.seq) := by
  have hCut := hGrounded.cut hPlan ops.length
  rw [List.take_length] at hCut
  have hBound : ∀ e ∈ s.events, e.seq ≤ s.lastSeq :=
    fun e hIn =>
      seq_le_lastSeqOf hGrounded.ordered.increasing hIn
  have hLast : (applyOps ops s).lastSeq = s.lastSeq :=
    lastSeq_congr (applyOps_lines _ s)
  rcases Option.ne_none_iff_exists'.mp hCut.manifest with
    ⟨m, hManifest⟩
  have hBehind : m.appliedSeq < ev.seq := by
    rw [← Disk.appliedSeq_of_manifest hManifest,
      appliedSeq_of_whole hPlan]
    exact hAhead
  have hMark :=
    appliedSeq_folded hGrounded.manifest hAhead hPlan
  -- an event the watermark passes now is old or this one
  have hPassed : ∀ e ∈ s.events, e.kind.founds = true →
      e.seq ≤ ev.seq → e.seq ≤ s.appliedSeq ∨ e = ev := by
    intro e hIn hFounds hSeq
    by_cases hLater : s.appliedSeq < e.seq
    · right
      have hEnd := hGrounded.last e hIn hFounds hLater
      have hLe := hBound ev hMem
      exact seq_injective hGrounded.ordered hIn hMem (by omega)
    · exact .inl (not_lt.mp hLater)
  refine ⟨hCut.toSane.advance
    (by rw [hLast]; exact hBound ev hMem), ?_, ?_, ?_, ?_⟩
  · rw [Disk.advance_events]
    intro e hIn hFounds
    refine (hCut.firm e hIn hFounds).mono (fun id hThere => ?_)
    rwa [Disk.advance_nodes]
  · rw [Disk.advance_events, Disk.applyOps_events, hMark,
      lastSeq_congr (Disk.advance_lines _ _), hLast]
    intro e hIn hFounds hLater
    exact hGrounded.last e hIn hFounds (by omega)
  · rw [Disk.advance_events, Disk.applyOps_events, hMark]
    intro e hIn hKind hSeq st hStatus hTerminal
    have hClosed : ∃ m', (applyOps ops s).manifest = some m' ∧
        m'.status.isTerminal = true := by
      rcases hPassed e hIn (by rw [hKind]; rfl) hSeq with
        hEarlier | rfl
      · exact hCut.closed e
          (by rw [Disk.applyOps_events]; exact hIn) hKind
          (by rw [appliedSeq_of_whole hPlan]; exact hEarlier) st
          hStatus hTerminal
      · rcases Option.ne_none_iff_exists'.mp
          hGrounded.manifest with ⟨m₀, hSome⟩
        exact closed_of_plan hKind hPlan hSome
          (hGrounded.readable m₀ hSome) hStatus hTerminal
    rcases hClosed with ⟨m', hSame, hClosed⟩
    rw [hManifest, Option.some.injEq] at hSame
    subst hSame
    rw [Disk.advance_of_behind hManifest hBehind]
    exact ⟨_, rfl, hClosed⟩
  · rw [Disk.advance_events, Disk.applyOps_events, hMark]
    intro e hIn hKind hSeq
    have hThere : ∃ id, e.nodeId = some id ∧
        (applyOps ops s).nodes.lookup id ≠ none := by
      rcases hPassed e hIn (by rw [hKind]; rfl) hSeq with
        hEarlier | rfl
      · exact (hCut.counted e
          (by rw [Disk.applyOps_events]; exact hIn) hKind
          (by rw [appliedSeq_of_whole hPlan]; exact hEarlier)).1
      · rcases (hGrounded.firm e hMem
          (by rw [hKind]; rfl)).2.2 hKind with ⟨id, hNode, _⟩
        exact ⟨id, hNode, created_of_plan hKind hNode hPlan⟩
    rcases hThere with ⟨id, hNode, hThere⟩
    refine ⟨⟨id, hNode, by rwa [Disk.advance_nodes]⟩, ?_⟩
    rw [Disk.advance_of_behind hManifest hBehind]
    exact ⟨_, rfl, countNodeFiles_ne_zero hThere⟩

theorem Grounded.log
    (hGrounded : Grounded env s)
    (hDrained : Drained s)
    (hSeq : ev.seq = s.lastSeq + 1)
    (hPlan : reduceEventToOps env s ev = .ok ops) :
    Grounded env (s.log ev) := by
  have hLast : (s.log ev).lastSeq = ev.seq := by
    rw [Disk.lastSeq, Disk.log_events, lastSeqOf_concat]
  have hBehind := hGrounded.behind
  -- the new event is past the watermark
  have hOld : ∀ e ∈ (s.log ev).events,
      e.seq ≤ s.appliedSeq → e ∈ s.events := by
    intro e hMem hPassed
    rw [Disk.log_events, List.mem_append,
      List.mem_singleton] at hMem
    rcases hMem with hEarlier | rfl
    · exact hEarlier
    · omega
  refine ⟨hGrounded.toSane.log hSeq, ?_, ?_, ?_, ?_⟩
  · intro e hMem hFounds
    rw [Disk.log_events, List.mem_append,
      List.mem_singleton] at hMem
    rcases hMem with hEarlier | rfl
    · exact hGrounded.firm e hEarlier hFounds
    · have hFirm : Firm env s e :=
        firm_of_plan hGrounded.toSane hPlan
      exact hFirm
  · intro e hMem hFounds hLater
    rw [Disk.log_events, List.mem_append,
      List.mem_singleton] at hMem
    rcases hMem with hEarlier | rfl
    · exact absurd (hDrained e hEarlier hFounds)
        (not_le.mpr hLater)
    · exact hLast.symm
  · intro e hMem hKind hPassed
    exact hGrounded.closed e (hOld e hMem hPassed) hKind hPassed
  · intro e hMem hKind hPassed
    exact hGrounded.counted e (hOld e hMem hPassed) hKind
      hPassed

/- Catch-up leaves no closing and no creation behind. -/
theorem Grounded.drained
    (hGrounded : Grounded env s)
    (hSettled : Settled env s) : Drained s := by
  intro ev hMem hFounds
  by_contra hAhead
  have hLt := not_le.mp hAhead
  rcases Option.ne_none_iff_exists'.mp hGrounded.manifest with
    ⟨m, hSome⟩
  rw [Disk.appliedSeq_of_manifest hSome] at hLt
  exact not_accepted_iff.mpr
    (hSettled.refused m hSome ev hMem hLt)
    ((hGrounded.firm ev hMem hFounds).accepted
      hGrounded.toSane hFounds)

end Steps

end Taskfleet
