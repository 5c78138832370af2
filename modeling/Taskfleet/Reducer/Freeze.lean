import Taskfleet.Reducer.Commit

/-
  Terminal statuses are frozen.

  An accepted event moves the status of at most one node or
  of the run. Over any sequence of accepted events a settled
  status stays, except that a confirmed merge repairs a
  failed node and an evidenced status event a failed run.

  Main declarations:
    * `NodeEffect`, `nodeEffect_of_reduce`
    * `RunEffect`, `runEffect_of_reduce`
    * `AcceptedRun`, `acceptedRun_terminal_frozen`
-/

------------------------------------------------------------
-- Effects of One Event
------------------------------------------------------------

namespace Taskfleet

open Fallible

variable {env : RunEnv} {d d' : Disk} {ev : Event}

/- What an accepted event does to the projection of a node. -/
inductive NodeEffect (ev : Event) (id : NodeId) :
    Option Node → Option Node → Prop where
| kept (o : Option Node) : NodeEffect ev id o o
| created (n : Node)
    (hKind : ev.kind = .nodeCreated)
    (hNode : ev.nodeId = some id)
    (hStatus : n.status = .pending)
    (hReport : n.lastReport = none) :
    NodeEffect ev id none (some n)
| moved (n n' : Node)
    (hNode : ev.nodeId = some id)
    (hMove : NodeMove ev n n') :
    NodeEffect ev id (some n) (some n')

theorem nodeEffect_putNode
    {id : NodeId}
    {n : Node}
    (hEffect :
      NodeEffect ev n.nodeId (d.nodes.lookup n.nodeId)
        (some n)) :
    NodeEffect ev id (d.nodes.lookup id)
      ((d.putNode n).nodes.lookup id) := by
  rw [Disk.putNode_nodes]
  by_cases hHere : id = n.nodeId
  · subst hHere
    rw [Finmap.lookup_insert]
    exact hEffect
  · rw [Finmap.lookup_insert_of_ne _ hHere]
    exact .kept _

theorem nodeEffect_of_reduce
    {ops : List ProjectionOp}
    (hPlan : reduceEventToOps env d ev = .ok ops)
    (id : NodeId) :
    NodeEffect ev id (d.nodes.lookup id)
      ((applyOps ops d).nodes.lookup id) := by
  cases (planned_of_reduce hPlan).2 with
  | nothing => exact .kept _
  | runCreated => exact .kept _
  | runStatus => exact .kept _
  | settlementIntent => exact .kept _
  | nodeAlone id' n hKind hNode hMissing hNew =>
      rcases newNode_spec env ev id' n hNew with
        ⟨hValid, hStatus, hReport⟩
      refine nodeEffect_putNode ?_
      rw [hValid.nodeId, hMissing]
      exact .created n hKind hNode hStatus hReport
  | nodeCreated id' n m hKind hNode hMissing hNew =>
      rcases newNode_spec env ev id' n hNew with
        ⟨hValid, hStatus, hReport⟩
      refine nodeEffect_putNode (d := d) ?_
      rw [hValid.nodeId, hMissing]
      exact .created n hKind hNode hStatus hReport
  | stepped id' n n' step hNode hArm hLookup hValid hStep =>
      rcases nodeArm_move hArm hStep with ⟨hSame, hMove⟩
      refine nodeEffect_putNode ?_
      rw [(hSame.valid hValid).nodeId, hLookup]
      exact .moved n n' hNode hMove

/- What an accepted event does to the status of the run. -/
inductive RunEffect (d : Disk) (ev : Event) :
    Option Status → Option Status → Prop where
| kept (o : Option Status) : RunEffect d ev o o
| created (hKind : ev.kind = .runCreated) :
    RunEffect d ev none (some .pending)
| moved (s s' : Status)
    (hKind : ev.kind = .runStatus)
    (hStatus : ev.requireStatus = .ok s')
    (hOpen : s.isTerminal = true →
      recoveryAllowed d ev s s' = true) :
    RunEffect d ev (some s) (some s')

def Disk.runStatus (d : Disk) : Option Status :=
  d.manifest.map Manifest.status

theorem runEffect_of_reduce
    {ops : List ProjectionOp}
    (hPlan : reduceEventToOps env d ev = .ok ops) :
    RunEffect d ev d.runStatus (applyOps ops d).runStatus := by
  cases (planned_of_reduce hPlan).2 with
  | nothing => exact .kept _
  | nodeAlone => exact .kept _
  | stepped => exact .kept _
  | runCreated m hKind hNone hNew =>
      have hPending := (newManifest_spec env ev m hNew).2.1
      simp only [Disk.runStatus, hNone, applyOps_cons,
        applyOps_nil, ProjectionOp.put,
        Disk.putManifest_manifest, Option.map_none,
        Option.map_some, hPending]
      exact .created hKind
  | runStatus m s hKind hManifest _ hStatus hOpen =>
      simp only [Disk.runStatus, hManifest, applyOps_cons,
        applyOps_nil, ProjectionOp.put,
        Disk.putManifest_manifest, Option.map_some]
      exact .moved m.status s hKind hStatus hOpen
  | nodeCreated id n m _ _ _ _ hManifest =>
      simp only [Disk.runStatus, hManifest, applyOps_cons,
        applyOps_nil, ProjectionOp.put,
        Disk.putManifest_manifest, Option.map_some]
      exact .kept _
  | settlementIntent id n m intent _ _ hManifest =>
      simp only [Disk.runStatus, hManifest, applyOps_cons,
        applyOps_nil, ProjectionOp.put,
        Disk.putManifest_manifest, Option.map_some]
      exact .kept _

------------------------------------------------------------
-- Sequences of Accepted Events
------------------------------------------------------------

/-
  An event is accepted and folded. The log and the derived
  manifest fields may change besides: the gate appends the
  line and moves the watermark, a bare fold does neither.
-/
def Accepts
    (env : RunEnv) (d : Disk) (ev : Event) (d' : Disk) : Prop :=
  ∃ ops, reduceEventToOps env d ev = .ok ops ∧
    d'.nodes = (applyOps ops d).nodes ∧
    d'.runStatus = (applyOps ops d).runStatus

inductive AcceptedRun (env : RunEnv) :
    Disk → List Event → Disk → Prop where
| nil (d : Disk) : AcceptedRun env d [] d
| cons {d d' d'' : Disk} {ev : Event} {later : List Event}
    (hFirst : Accepts env d ev d')
    (hLater : AcceptedRun env d' later d'') :
    AcceptedRun env d (ev :: later) d''

/- Repair of a failed node by a report on it. -/
def RepairsNode (id : NodeId) (ev : Event) : Prop :=
  ev.kind = .nodeReport ∧ ev.nodeId = some id ∧
    reportIsConfirmedMerge ev.data = true

/- How a settled node may stand after further events. -/
def NodeFrozen
    (id : NodeId) (s : Status) (later : List Event)
    (s' : Status) : Prop :=
  s' = s ∨
    (s = .failed ∧ s' = .done ∧
      ∃ ev ∈ later, RepairsNode id ev)

/- One accepted event against a settled node. -/
theorem node_frozen_step
    {id : NodeId}
    {n : Node}
    (hAccepts : Accepts env d ev d')
    (hLookup : d.nodes.lookup id = some n)
    (hTerminal : n.status.isTerminal = true) :
    ∃ n', d'.nodes.lookup id = some n' ∧
      NodeFrozen id n.status [ev] n'.status := by
  rcases hAccepts with ⟨ops, hPlan, hNodes, _⟩
  have hEffect := nodeEffect_of_reduce hPlan id
  rw [← hNodes, hLookup] at hEffect
  generalize hAfter : d'.nodes.lookup id = after at hEffect
  cases hEffect with
  | kept => exact ⟨n, rfl, .inl rfl⟩
  | moved _ n' hNode hMove =>
      refine ⟨n', rfl, ?_⟩
      cases hMove with
      | annotated _ _ hStatus => exact .inl hStatus
      | rewired _ hLive => simp [hTerminal] at hLive
      | status _ hLive => simp [hTerminal] at hLive
      | reported _ hLive => simp [hTerminal] at hLive
      | adopted hKind hPermits hStatus =>
          simp only [permitsTerminalMergeRecovery,
            Bool.and_eq_true, Bool.or_eq_true,
            beq_iff_eq] at hPermits
          rcases hPermits with ⟨hFailed | hDone, hMerge⟩
          · exact .inr
              ⟨hFailed, hStatus, ev, by simp, hKind, hNode,
                hMerge⟩
          · exact .inl (hStatus.trans hDone.symm)

/- The event that carries a failed run to done, in its place. -/
def RepairsRun
    (env : RunEnv) (d : Disk) (later : List Event) : Prop :=
  ∃ before ev after d₁,
    later = before ++ ev :: after ∧
      AcceptedRun env d before d₁ ∧
      ev.kind = .runStatus ∧
      ev.requireStatus = .ok .done ∧
      recoveryAllowed d₁ ev .failed .done = true

def RunFrozen
    (env : RunEnv) (d : Disk) (s : Status)
    (later : List Event) (s' : Status) : Prop :=
  s' = s ∨
    (s = .failed ∧ s' = .done ∧ RepairsRun env d later)

theorem recoveryAllowed_statuses
    {s s' : Status}
    (hAllowed : recoveryAllowed d ev s s' = true) :
    s = .failed ∧ s' = .done := by
  simp only [recoveryAllowed, Bool.and_eq_true,
    beq_iff_eq] at hAllowed
  exact ⟨hAllowed.1.1.1, hAllowed.1.1.2⟩

theorem run_frozen_step
    {s : Status}
    (hAccepts : Accepts env d ev d')
    (hStatus : d.runStatus = some s)
    (hTerminal : s.isTerminal = true) :
    ∃ s', d'.runStatus = some s' ∧
      RunFrozen env d s [ev] s' := by
  rcases hAccepts with ⟨ops, hPlan, _, hRun⟩
  have hEffect := runEffect_of_reduce hPlan
  rw [← hRun, hStatus] at hEffect
  generalize hAfter : d'.runStatus = after at hEffect
  cases hEffect with
  | kept => exact ⟨s, rfl, .inl rfl⟩
  | moved _ s' hKind hRead hOpen =>
      refine ⟨s', rfl, ?_⟩
      have hAllowed := hOpen hTerminal
      rcases recoveryAllowed_statuses hAllowed with
        ⟨rfl, rfl⟩
      exact .inr
        ⟨rfl, rfl, [], ev, [], d, rfl, .nil d, hKind, hRead,
          hAllowed⟩

theorem NodeFrozen.isTerminal
    {id : NodeId} {s s' : Status} {later : List Event}
    (hFrozen : NodeFrozen id s later s')
    (hTerminal : s.isTerminal = true) :
    s'.isTerminal = true := by
  rcases hFrozen with rfl | ⟨_, rfl, _⟩
  · exact hTerminal
  · rfl

theorem NodeFrozen.cons
    {id : NodeId} {s s₁ s' : Status} {later : List Event}
    (hStep : NodeFrozen id s [ev] s₁)
    (hRest : NodeFrozen id s₁ later s') :
    NodeFrozen id s (ev :: later) s' := by
  rcases hStep with rfl | ⟨hFailed, rfl, e, hMem, hRepair⟩
  · rcases hRest with rfl | ⟨hFailed, hDone, e, hMem, hRepair⟩
    · exact .inl rfl
    · exact .inr
        ⟨hFailed, hDone, e, List.mem_cons_of_mem _ hMem,
          hRepair⟩
  · rcases hRest with rfl | ⟨hFailed', _⟩
    · refine .inr ⟨hFailed, rfl, e, ?_, hRepair⟩
      rw [List.mem_singleton] at hMem
      exact hMem ▸ List.mem_cons_self
    · cases hFailed'

theorem RunFrozen.isTerminal
    {s s' : Status} {later : List Event}
    (hFrozen : RunFrozen env d s later s')
    (hTerminal : s.isTerminal = true) :
    s'.isTerminal = true := by
  rcases hFrozen with rfl | ⟨_, rfl, _⟩
  · exact hTerminal
  · rfl

theorem RunFrozen.cons
    {s s₁ s' : Status} {later : List Event}
    (hFirst : Accepts env d ev d')
    (hStep : RunFrozen env d s [ev] s₁)
    (hRest : RunFrozen env d' s₁ later s') :
    RunFrozen env d s (ev :: later) s' := by
  rcases hStep with
    rfl |
    ⟨hFailed, rfl, before, e, after, d₂, hSplit, hReach, hRepair⟩
  · rcases hRest with
      rfl |
      ⟨hFailed, hDone, before, e, after, d₂, rfl, hReach, hRepair⟩
    · exact .inl rfl
    · exact .inr
        ⟨hFailed, hDone, ev :: before, e, after, d₂, rfl,
          .cons hFirst hReach, hRepair⟩
  · rcases hRest with rfl | ⟨hFailed', _⟩
    · refine .inr
        ⟨hFailed, rfl, before, e, after ++ later, d₂, ?_,
          hReach, hRepair⟩
      rw [← List.cons_append, ← List.append_assoc, ← hSplit]
      rfl
    · cases hFailed'

/-
  Over every sequence of accepted events, a done or cancelled
  node or run keeps its status, and a failed one may only
  become done: a node by a confirmed merge report on it, the
  run by a status event with recovery evidence.
-/
theorem acceptedRun_terminal_frozen
    (env : RunEnv)
    (d d' : Disk)
    (later : List Event)
    (hRun : AcceptedRun env d later d') :
    (∀ id n, d.nodes.lookup id = some n →
        n.status.isTerminal = true →
        ∃ n', d'.nodes.lookup id = some n' ∧
          NodeFrozen id n.status later n'.status) ∧
      (∀ s, d.runStatus = some s → s.isTerminal = true →
        ∃ s', d'.runStatus = some s' ∧
          RunFrozen env d s later s') := by
  induction hRun with
  | nil d =>
      exact
        ⟨fun id n hLookup _ => ⟨n, hLookup, .inl rfl⟩,
          fun s hStatus _ => ⟨s, hStatus, .inl rfl⟩⟩
  | cons hFirst _ ih =>
      refine ⟨?_, ?_⟩
      · intro id n hLookup hTerminal
        rcases node_frozen_step hFirst hLookup hTerminal with
          ⟨n₁, hLookup₁, hStep⟩
        rcases ih.1 id n₁ hLookup₁ (hStep.isTerminal hTerminal)
          with ⟨n', hLookup', hRest⟩
        exact ⟨n', hLookup', hStep.cons hRest⟩
      · intro s hStatus hTerminal
        rcases run_frozen_step hFirst hStatus hTerminal with
          ⟨s₁, hStatus₁, hStep⟩
        rcases ih.2 s₁ hStatus₁ (hStep.isTerminal hTerminal)
          with ⟨s', hStatus', hRest⟩
        exact ⟨s', hStatus', hStep.cons hFirst hRest⟩

/- The bare fold is one way to accept an event. -/
theorem accepts_applyEvent
    (hResult : (applyEvent env ev).result d = .ok ()) :
    Accepts env d ev ((applyEvent env ev).final d) := by
  rcases applyEvent_eq_ok.mp hResult with ⟨ops, hPlan⟩
  refine ⟨ops, hPlan, ?_, ?_⟩ <;>
    rw [(applyEvent_of_plan hPlan).2]

/- A failed node is repaired by a late merge report. -/
theorem acceptedRun_merge_repairs :
    let failed :=
      (applyEvent Sample.env
        (Sample.event 3 .nodeReport (some .first)
          (.obj [("success", .bool false)]))).final
        Sample.liveNode
    let merge :=
      Sample.event 4 .nodeReport (some .first)
        (.obj
          [("success", .bool true),
            ("via", .str "explicit-merge")])
    let repaired := (applyEvent Sample.env merge).final failed
    (∃ n, failed.nodes.lookup .first = some n ∧
        n.status = .failed) ∧
      (∃ n', repaired.nodes.lookup .first = some n' ∧
        n'.status = .done ∧
        NodeFrozen .first .failed [merge] n'.status) := by
  intro failed merge repaired
  have hRun :
      AcceptedRun Sample.env failed [merge] repaired :=
    .cons (accepts_applyEvent (by decide +kernel)) (.nil _)
  have hBefore :
      (failed.nodes.lookup .first).map Node.status =
        some .failed := by
    decide +kernel
  have hAfter :
      (repaired.nodes.lookup .first).map Node.status =
        some .done := by
    decide +kernel
  rw [Option.map_eq_some_iff] at hBefore hAfter
  rcases hBefore with ⟨n, hLookup, hFailed⟩
  rcases hAfter with ⟨m, hLookup', hDone⟩
  refine ⟨⟨n, hLookup, hFailed⟩, m, hLookup', hDone, ?_⟩
  rcases (acceptedRun_terminal_frozen Sample.env failed repaired
      [merge] hRun).1 .first n hLookup (by rw [hFailed]; rfl)
    with ⟨n', hSame, hFrozen⟩
  rw [hLookup', Option.some.injEq] at hSame
  rw [hSame, ← hFailed]
  exact hFrozen

end Taskfleet
