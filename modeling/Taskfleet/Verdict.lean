import Taskfleet.Gate
import Taskfleet.Reducer.Freeze

/-
  Verdicts on nodes: not there, live, or settled with a
  status. An event moves the verdict of its node. The reducer
  moves the projections that way, and the skimming fold of
  the log moves its accumulator that way, on payloads that
  both read alike.

  Main declarations:
    * `Verdict`, `Event.moves`, `Admissible`
    * `verdict_of_cut`, `admissible_of_plan`
    * `Event.Aligned`, `observe_verdict`
-/

------------------------------------------------------------
-- Verdicts
------------------------------------------------------------

namespace Taskfleet

open Fallible

inductive Verdict where
| absent
| live
| settled (s : Status)
deriving DecidableEq, Repr

/- What a status says about a node that has it. -/
def Status.verdict (s : Status) : Verdict :=
  if s.isTerminal then .settled s else .live

namespace Verdict

def ofStatus : Option Status → Verdict
| none => .absent
| some s => s.verdict

end Verdict

theorem Status.verdict_settled
    {s : Status} (hTerminal : s.isTerminal = true) :
    s.verdict = .settled s := if_pos hTerminal

theorem Status.verdict_live
    {s : Status} (hLive : s.isTerminal = false) :
    s.verdict = .live := by
  simp [Status.verdict, hLive]

theorem Status.verdict_ne_absent (s : Status) :
    s.verdict ≠ .absent := by
  unfold Status.verdict
  split <;> simp

/- The verdict of the projections. -/
def Disk.verdict (d : Disk) (id : NodeId) : Verdict :=
  .ofStatus ((d.nodes.lookup id).map Node.status)

/- The verdict of a fold of the log. -/
def NodeStatusAcc.verdict
    (acc : NodeStatusAcc) (id : NodeId) : Verdict :=
  .ofStatus (acc.status id)

------------------------------------------------------------
-- Moves
------------------------------------------------------------

/- The kinds that create or settle a node. -/
def EventKind.settles : EventKind → Bool
| .nodeCreated | .nodeStatus | .nodeReport => true
| _ => false

theorem EventKind.settles_cases
    {kind : EventKind} (hSettles : kind.settles = true) :
    kind = .nodeCreated ∨ kind = .nodeStatus ∨
      kind = .nodeReport := by
  unfold EventKind.settles at hSettles
  split at hSettles
  · exact .inl rfl
  · exact .inr (.inl rfl)
  · exact .inr (.inr rfl)
  · cases hSettles

namespace Event

/-
  How an event moves the verdict of its node. A settled node
  moves only by a merge that may replace its outcome.
-/
def move (ev : Event) (v : Verdict) : Verdict :=
  match ev.kind, v with
  | .nodeCreated, .absent => .live
  | .nodeStatus, .live =>
      match ev.requireStatus with
      | .ok s => s.verdict
      | .error _ => .live
  | .nodeReport, .live =>
      match ev.reportTerminalStatus with
      | .ok s => s.verdict
      | .error _ => .live
  | .nodeReport, .settled s =>
      if permitsTerminalMergeRecovery s ev.data then
        .settled .done
      else .settled s
  | _, v => v

/- The move of one node among all. -/
def moves
    (ev : Event) (v : NodeId → Verdict) (id : NodeId) :
    Verdict :=
  if ev.nodeId = some id then ev.move (v id) else v id

/- The payload says what the verdict of its node needs. -/
def Takes
    (ev : Event) (env : RunEnv) (id : NodeId) (v : Verdict) :
    Prop :=
  match ev.kind, v with
  | .nodeCreated, .absent => ∃ n, ev.newNode env id = .ok n
  | .nodeStatus, .live => ∃ s, ev.requireStatus = .ok s
  | .nodeStatus, .settled _ => ∃ s, ev.requireStatus = .ok s
  | .nodeReport, .live =>
      ∃ s, ev.reportTerminalStatus = .ok s
  | _, _ => True

end Event

/- An event of this run whose node takes it. -/
def Admissible
    (env : RunEnv) (ev : Event) (v : NodeId → Verdict) : Prop :=
  ev.runId = env.runId ∧
    ∃ id, ev.nodeId = some id ∧ ev.Takes env id (v id)

section Moves

variable {env : RunEnv} {ev : Event} {v : NodeId → Verdict}

theorem move_of_not_settles
    (hKind : ev.kind.settles = false) (w : Verdict) :
    ev.move w = w := by
  unfold Event.move
  cases hCase : ev.kind <;>
    simp_all [EventKind.settles]

theorem moves_of_not_settles
    (hKind : ev.kind.settles = false) :
    ev.moves v = v := by
  funext id
  unfold Event.moves
  rw [move_of_not_settles hKind, ite_self]

/- A report of failure is no merge that would repair it. -/
theorem permits_of_reported
    {s : Status}
    (hRead : ev.reportTerminalStatus = .ok s)
    (hPermits :
      permitsTerminalMergeRecovery s ev.data = true) :
    s = .done := by
  simp only [permitsTerminalMergeRecovery,
    Bool.and_eq_true] at hPermits
  rw [reportTerminalStatus_of_confirmedMerge hPermits.2]
    at hRead
  cases hRead
  rfl

theorem move_idem (w : Verdict) :
    ev.move (ev.move w) = ev.move w := by
  cases hSettles : ev.kind.settles with
  | false => exact move_of_not_settles hSettles _
  | true => ?_
  rcases EventKind.settles_cases hSettles with
    hKind | hKind | hKind
  · cases w <;> simp [Event.move, hKind]
  · cases w with
    | absent => simp [Event.move, hKind]
    | settled s => simp [Event.move, hKind]
    | live =>
        cases hRead : ev.requireStatus with
        | error e => simp [Event.move, hKind, hRead]
        | ok s =>
            cases hTerminal : s.isTerminal <;>
              simp [Event.move, hKind, hRead, Status.verdict,
                hTerminal]
  · cases w with
    | absent => simp [Event.move, hKind]
    | settled s =>
        by_cases hPermits :
            permitsTerminalMergeRecovery s ev.data = true
        · simp [Event.move, hKind, hPermits]
        · simp [Event.move, hKind, hPermits]
    | live =>
        cases hRead : ev.reportTerminalStatus with
        | error e => simp [Event.move, hKind, hRead]
        | ok s =>
            have hTerminal :=
              reportTerminalStatus_isTerminal ev s hRead
            have hMove :
                ev.move .live = .settled s := by
              simp [Event.move, hKind, hRead,
                Status.verdict_settled hTerminal]
            rw [hMove]
            simp only [Event.move, hKind]
            split
            next hPermits =>
              rw [permits_of_reported hRead hPermits]
            next => rfl

theorem moves_idem : ev.moves (ev.moves v) = ev.moves v := by
  funext id
  unfold Event.moves
  by_cases hHere : ev.nodeId = some id
  · simp only [if_pos hHere]
    exact move_idem (v id)
  · simp only [if_neg hHere]

/- What a node takes it takes again. -/
theorem takes_move
    {id : NodeId} {w : Verdict}
    (hTakes : ev.Takes env id w) :
    ev.Takes env id (ev.move w) := by
  cases hSettles : ev.kind.settles with
  | false => rwa [move_of_not_settles hSettles]
  | true => ?_
  rcases EventKind.settles_cases hSettles with
    hKind | hKind | hKind
  · cases w <;> simp_all [Event.Takes, Event.move]
  · cases w with
    | absent => simp [Event.Takes, Event.move, hKind]
    | settled s =>
        simpa [Event.Takes, Event.move, hKind] using hTakes
    | live =>
        simp only [Event.Takes, hKind] at hTakes
        rcases hTakes with ⟨s, hRead⟩
        simp only [Event.Takes, Event.move, hKind, hRead]
        split <;> first | trivial | exact ⟨s, rfl⟩
  · cases w with
    | absent => simp [Event.Takes, Event.move, hKind]
    | settled s =>
        by_cases hPermits :
            permitsTerminalMergeRecovery s ev.data = true
        · simp [Event.Takes, Event.move, hKind, hPermits]
        · simp [Event.Takes, Event.move, hKind, hPermits]
    | live =>
        simp only [Event.Takes, hKind] at hTakes
        rcases hTakes with ⟨s, hRead⟩
        simp only [Event.Takes, Event.move, hKind, hRead]
        split <;> first | trivial | exact ⟨s, rfl⟩

theorem Admissible.moves
    (hAdmissible : Admissible env ev v) :
    Admissible env ev (ev.moves v) := by
  rcases hAdmissible with ⟨hRun, id, hNode, hTakes⟩
  refine ⟨hRun, id, hNode, ?_⟩
  unfold Event.moves
  rw [if_pos hNode]
  exact takes_move hTakes

end Moves

------------------------------------------------------------
-- The Reducer Moves Verdicts
------------------------------------------------------------

section Reducer

variable {env : RunEnv} {d : Disk} {ev : Event}

/- Every node file is one its reader accepts. -/
def NodesReadable (env : RunEnv) (d : Disk) : Prop :=
  ∀ id n, d.nodes.lookup id = some n → n.Valid env id

theorem readNodeOpt_of_readable
    (hNodes : NodesReadable env d) (id : NodeId) :
    readNodeOpt env d id = .ok (d.nodes.lookup id) := by
  cases hLookup : d.nodes.lookup id with
  | none => exact readNodeOpt_eq_none.mpr hLookup
  | some n =>
      exact readNodeOpt_eq_some.mpr
        ⟨hLookup, hNodes id n hLookup⟩

theorem verdict_of_lookup
    {id : NodeId} {n : Node}
    (hLookup : d.nodes.lookup id = some n) :
    d.verdict id = n.status.verdict := by
  simp [Disk.verdict, hLookup, Verdict.ofStatus]

theorem verdict_of_missing
    {id : NodeId} (hMissing : d.nodes.lookup id = none) :
    d.verdict id = .absent := by
  simp [Disk.verdict, hMissing, Verdict.ofStatus]

theorem verdict_eq_absent {id : NodeId} :
    d.verdict id = .absent ↔ d.nodes.lookup id = none := by
  refine ⟨fun hAbsent => ?_, verdict_of_missing⟩
  cases hLookup : d.nodes.lookup id with
  | none => rfl
  | some n =>
      rw [verdict_of_lookup hLookup] at hAbsent
      exact absurd hAbsent (Status.verdict_ne_absent _)

theorem verdict_congr
    {d' : Disk} (hNodes : d'.nodes = d.nodes) :
    d'.verdict = d.verdict := by
  funext id
  simp [Disk.verdict, hNodes]

theorem applyOps_manifests_nodes
    {ops : List ProjectionOp}
    (hOps : ∀ op ∈ ops, ∃ m, op = .manifest m) :
    (applyOps ops d).nodes = d.nodes := by
  induction ops generalizing d with
  | nil => rfl
  | cons op rest ih =>
      rcases hOps op List.mem_cons_self with ⟨m, rfl⟩
      rw [applyOps_cons, ih
        (fun op hMem => hOps op (List.mem_cons_of_mem _ hMem))]
      rfl

theorem verdict_putNode
    {n : Node} (id : NodeId) :
    (d.putNode n).verdict id =
      if n.nodeId = id then n.status.verdict
      else d.verdict id := by
  unfold Disk.verdict
  rw [Disk.putNode_nodes]
  by_cases hHere : n.nodeId = id
  · rw [if_pos hHere, ← hHere, Finmap.lookup_insert]
    rfl
  · rw [if_neg hHere, Finmap.lookup_insert_of_ne]
    exact fun hEq => hHere hEq.symm

/-
  The plan of an event that creates or settles a node: it
  leaves the verdict, or its first write moves it.
-/
inductive NodePlan (ev : Event) (v : Verdict) (id : NodeId) :
    List ProjectionOp → Prop where
| kept (hMove : ev.move v = v) : NodePlan ev v id []
| wrote (n : Node) (rest : List ProjectionOp)
    (hNode : n.nodeId = id)
    (hMove : n.status.verdict = ev.move v)
    (hRest : ∀ op ∈ rest, ∃ m, op = .manifest m) :
    NodePlan ev v id (.node n :: rest)

theorem nodePlan_of_created
    {ops : List ProjectionOp}
    (hKind : ev.kind = .nodeCreated)
    (hPlan : reduceNodeCreated env d ev = .ok ops) :
    ∃ id, ev.nodeId = some id ∧
      NodePlan ev (d.verdict id) id ops := by
  unfold reduceNodeCreated at hPlan
  simp only [bind_eq_ok, Event.requireEnvelopeNodeId,
    orError_eq_ok] at hPlan
  rcases hPlan with ⟨id, hNode, read, hRead, hRest⟩
  refine ⟨id, hNode, ?_⟩
  cases read with
  | some n =>
      cases hRest
      have hLookup := (readNodeOpt_eq_some.mp hRead).1
      refine .kept ?_
      rw [verdict_of_lookup hLookup]
      unfold Status.verdict
      split <;> simp [Event.move, hKind]
  | none =>
      rw [verdict_of_missing (readNodeOpt_eq_none.mp hRead)]
      simp only [bind_eq_ok] at hRest
      rcases hRest with ⟨n, hNew, manifest, _, hRest⟩
      rcases newNode_spec env ev id n hNew with
        ⟨hValid, hPending, _⟩
      have hMove : n.status.verdict = ev.move .absent := by
        rw [hPending]
        simp [Event.move, hKind, Status.verdict,
          Status.isTerminal]
      cases manifest with
      | none =>
          cases hRest
          exact .wrote n [] hValid.nodeId hMove (by simp)
      | some m =>
          cases hRest
          exact .wrote n _ hValid.nodeId hMove (by simp)

theorem nodePlan_of_step
    {id : NodeId} {step : NodeStep}
    {ops : List ProjectionOp}
    (hArm : nodeArm env d ev id = some (.ok step))
    (hAbsent : ev.move .absent = .absent)
    (hKept : ∀ n, step n = .ok none →
      ev.move n.status.verdict = n.status.verdict)
    (hMoved : ∀ n n', step n = .ok (some n') →
      n'.status.verdict = ev.move n.status.verdict)
    (hMissing : missingNode ev = .ok [])
    (hPlan :
      onNode env d id (missingNode ev) step = .ok ops) :
    NodePlan ev (d.verdict id) id ops := by
  rcases onNode_eq_ok hPlan with
    ⟨hNone, hOps⟩ | ⟨n, hLookup, hValid, hCase⟩
  · rw [hMissing, Except.ok.injEq] at hOps
    rw [← hOps, verdict_of_missing hNone]
    exact .kept hAbsent
  · rw [verdict_of_lookup hLookup]
    rcases hCase with ⟨hStep, rfl⟩ | ⟨n', hStep, rfl⟩
    · exact .kept (hKept n hStep)
    · have hSame := (nodeArm_move hArm hStep).1
      exact .wrote n' [] (hSame.nodeId.trans hValid.nodeId)
        (hMoved n n' hStep) (by simp)

theorem nodePlan_of_status
    {id : NodeId} {ops : List ProjectionOp}
    (hKind : ev.kind = .nodeStatus)
    (hNode : ev.nodeId = some id)
    (hPlan : reduceKind env d ev = .ok ops) :
    NodePlan ev (d.verdict id) id ops := by
  have hArm :
      nodeArm env d ev id = some (.ok (nodeStatusStep ev)) := by
    simp [nodeArm, hKind]
  rw [reduceKind_eq_arm hArm hNode, ok_bind] at hPlan
  refine nodePlan_of_step hArm (by simp [Event.move, hKind])
    ?_ ?_ (by simp [missingNode, hKind]) hPlan
  · intro n hStep
    unfold nodeStatusStep at hStep
    simp only [bind_eq_ok] at hStep
    rcases hStep with ⟨s, hRead, hRest⟩
    cases hTerminal : n.status.isTerminal with
    | true =>
        rw [Status.verdict_settled hTerminal]
        simp [Event.move, hKind]
    | false =>
        by_cases hSame : n.status = s
        · rw [Status.verdict_live hTerminal]
          simp [Event.move, hKind, hRead, ← hSame,
            Status.verdict_live hTerminal]
        · simp [hTerminal, hSame] at hRest
  · intro n n' hStep
    rcases nodeStatusStep_spec hStep with ⟨hRead, hLive, _⟩
    rw [Status.verdict_live hLive]
    simp [Event.move, hKind, hRead]

theorem nodePlan_of_report
    {id : NodeId} {ops : List ProjectionOp}
    (hKind : ev.kind = .nodeReport)
    (hNode : ev.nodeId = some id)
    (hPlan : reduceKind env d ev = .ok ops) :
    NodePlan ev (d.verdict id) id ops := by
  have hArm :
      nodeArm env d ev id = some (.ok (nodeReportStep ev)) := by
    simp [nodeArm, hKind]
  rw [reduceKind_eq_arm hArm hNode, ok_bind] at hPlan
  refine nodePlan_of_step hArm (by simp [Event.move, hKind])
    ?_ ?_ (by simp [missingNode, hKind]) hPlan
  · intro n hStep
    unfold nodeReportStep at hStep
    cases hTerminal : n.status.isTerminal with
    | true =>
        rw [Status.verdict_settled hTerminal]
        by_cases hPermits :
            permitsTerminalMergeRecovery n.status ev.data = true
        · have hDone : n.status = .done := by
            by_contra hOther
            simp [hTerminal, hPermits, hOther] at hStep
          simp [Event.move, hKind, hDone]
        · simp [Event.move, hKind, hPermits]
    | false => simp [hTerminal] at hStep
  · intro n n' hStep
    rcases nodeReportStep_spec hStep with
      ⟨s, rfl, hTerminal, hCase⟩
    change s.verdict = _
    rw [Status.verdict_settled hTerminal]
    rcases hCase with ⟨hLive, hRead⟩ | ⟨hOld, rfl, hPermits⟩
    · rw [Status.verdict_live hLive]
      simp [Event.move, hKind, hRead,
        Status.verdict_settled hTerminal]
    · rw [Status.verdict_settled hOld]
      simp [Event.move, hKind, hPermits]

theorem nodePlan_of_settles
    {ops : List ProjectionOp}
    (hSettles : ev.kind.settles = true)
    (hPlan : reduceKind env d ev = .ok ops) :
    ∃ id, ev.nodeId = some id ∧
      NodePlan ev (d.verdict id) id ops := by
  rcases EventKind.settles_cases hSettles with
    hKind | hKind | hKind
  · have hCreated : reduceNodeCreated env d ev = .ok ops := by
      simpa [reduceKind, hKind] using hPlan
    exact nodePlan_of_created hKind hCreated
  · rcases nodeId_of_reduceKind
      (by simp [hKind, EventKind.isRunKind]) hPlan with
      ⟨id, hNode⟩
    exact ⟨id, hNode, nodePlan_of_status hKind hNode hPlan⟩
  · rcases nodeId_of_reduceKind
      (by simp [hKind, EventKind.isRunKind]) hPlan with
      ⟨id, hNode⟩
    exact ⟨id, hNode, nodePlan_of_report hKind hNode hPlan⟩

/- Other events leave every verdict. -/
theorem verdict_of_other
    {ops : List ProjectionOp}
    (hSettles : ev.kind.settles = false)
    (hPlan : reduceEventToOps env d ev = .ok ops) :
    (applyOps ops d).verdict = d.verdict := by
  funext id
  have hEffect := nodeEffect_of_reduce hPlan id
  unfold Disk.verdict
  generalize (applyOps ops d).nodes.lookup id = after at hEffect
  generalize d.nodes.lookup id = before at hEffect
  cases hEffect with
  | kept => rfl
  | created n hKind =>
      simp [hKind, EventKind.settles] at hSettles
  | moved n n' _ hMove =>
      cases hMove with
      | annotated _ _ hStatus =>
          simp [Verdict.ofStatus, hStatus]
      | rewired _ hLive hStatus =>
          simp only [Option.map_some, Verdict.ofStatus,
            hStatus, Status.verdict_live hLive]
          rfl
      | status hKind =>
          simp [hKind, EventKind.settles] at hSettles
      | reported hKind =>
          simp [hKind, EventKind.settles] at hSettles
      | adopted hKind =>
          simp [hKind, EventKind.settles] at hSettles

/- An event that creates no node plans at most one write. -/
theorem plan_length
    {ops : List ProjectionOp}
    (hKind : ev.kind ≠ .nodeCreated)
    (hPlan : reduceEventToOps env d ev = .ok ops) :
    ops.length ≤ 1 := by
  cases (planned_of_reduce hPlan).2 with
  | nodeCreated _ _ _ hCreated => exact absurd hCreated hKind
  | _ => simp

/-
  From its first write on, an accepted event has moved the
  verdicts of the projections.
-/
theorem verdict_of_cut
    {ops : List ProjectionOp}
    (hPlan : reduceEventToOps env d ev = .ok ops)
    (j : Nat) :
    (applyOps (ops.take (j + 1)) d).verdict =
      ev.moves d.verdict := by
  cases hSettles : ev.kind.settles with
  | false =>
      have hLength : ops.length ≤ 1 := by
        refine plan_length ?_ hPlan
        intro hKind
        simp [hKind, EventKind.settles] at hSettles
      rw [moves_of_not_settles hSettles,
        List.take_of_length_le (by omega)]
      exact verdict_of_other hSettles hPlan
  | true =>
      rcases nodePlan_of_settles hSettles
        (reduce_eq_ok.mp hPlan).2 with ⟨id, hNode, hShape⟩
      funext i
      unfold Event.moves
      cases hShape with
      | kept hMove =>
          rw [List.take_nil, applyOps_nil]
          by_cases hHere : ev.nodeId = some i
          · rw [if_pos hHere]
            rw [hHere, Option.some.injEq] at hNode
            rw [hNode, hMove]
          · rw [if_neg hHere]
      | wrote n rest hId hMove hRest =>
          rw [List.take_succ_cons, applyOps_cons]
          rw [verdict_congr (applyOps_manifests_nodes
            (fun op hMem =>
              hRest op (List.mem_of_mem_take hMem)))]
          change (d.putNode n).verdict i = _
          rw [verdict_putNode, hId]
          by_cases hHere : id = i
          · rw [if_pos hHere, if_pos (hHere ▸ hNode), hMove,
              hHere]
          · rw [if_neg hHere, if_neg]
            intro hOther
            rw [hNode, Option.some.injEq] at hOther
            exact hHere hOther

theorem verdict_of_plan
    {ops : List ProjectionOp}
    (hPlan : reduceEventToOps env d ev = .ok ops) :
    (applyOps ops d).verdict = ev.moves d.verdict := by
  have hCut := verdict_of_cut hPlan ops.length
  rwa [List.take_of_length_le (by omega)] at hCut

/- What the reducer takes, the verdict of its node admits. -/
theorem admissible_of_plan
    {ops : List ProjectionOp}
    (hSettles : ev.kind.settles = true)
    (hPlan : reduceEventToOps env d ev = .ok ops) :
    Admissible env ev d.verdict := by
  rcases reduce_eq_ok.mp hPlan with ⟨hRun, hKindPlan⟩
  rcases nodePlan_of_settles hSettles hKindPlan with
    ⟨id, hNode, _⟩
  refine ⟨hRun, id, hNode, ?_⟩
  rcases EventKind.settles_cases hSettles with
    hKind | hKind | hKind
  · rw [reduceKind, hKind] at hKindPlan
    dsimp only at hKindPlan
    unfold reduceNodeCreated at hKindPlan
    simp only [bind_eq_ok, Event.requireEnvelopeNodeId,
      orError_eq_ok, hNode, Option.some.injEq,
      exists_eq_left'] at hKindPlan
    rcases hKindPlan with ⟨read, hRead, hRest⟩
    cases hVerdict : d.verdict id <;>
      simp only [Event.Takes, hKind]
    rw [verdict_eq_absent] at hVerdict
    obtain rfl : read = none := by
      rw [readNodeOpt_eq_none.mpr hVerdict,
        Except.ok.injEq] at hRead
      exact hRead.symm
    simp only [bind_eq_ok] at hRest
    rcases hRest with ⟨n, hNew, _⟩
    exact ⟨n, hNew⟩
  · have hArm :
        nodeArm env d ev id =
          some (.ok (nodeStatusStep ev)) := by
      simp [nodeArm, hKind]
    rw [reduceKind_eq_arm hArm hNode, ok_bind] at hKindPlan
    rcases onNode_eq_ok hKindPlan with
      ⟨hNone, _⟩ | ⟨n, _, _, hCase⟩
    · simp [verdict_of_missing hNone, Event.Takes, hKind]
    · have hRead : ∃ s, ev.requireStatus = .ok s := by
        rcases hCase with ⟨hStep, _⟩ | ⟨n', hStep, _⟩ <;>
          · unfold nodeStatusStep at hStep
            simp only [bind_eq_ok] at hStep
            exact ⟨_, hStep.choose_spec.1⟩
      cases d.verdict id <;> simp [Event.Takes, hKind, hRead]
  · have hArm :
        nodeArm env d ev id =
          some (.ok (nodeReportStep ev)) := by
      simp [nodeArm, hKind]
    rw [reduceKind_eq_arm hArm hNode, ok_bind] at hKindPlan
    rcases onNode_eq_ok hKindPlan with
      ⟨hNone, _⟩ | ⟨n, hLookup, _, hCase⟩
    · simp [verdict_of_missing hNone, Event.Takes, hKind]
    · rw [verdict_of_lookup hLookup]
      cases hTerminal : n.status.isTerminal with
      | true =>
          simp [Status.verdict_settled hTerminal, Event.Takes,
            hKind]
      | false =>
          rw [Status.verdict_live hTerminal]
          simp only [Event.Takes, hKind]
          rcases hCase with ⟨hStep, _⟩ | ⟨n', hStep, _⟩ <;>
            · simp only [nodeReportStep, hTerminal,
                Bool.false_eq_true, if_false, bind_eq_ok]
                at hStep
              exact ⟨_, hStep.choose_spec.1⟩

/- And the reducer takes what is admitted. -/
theorem accepted_of_admissible
    (hReadable : Readable env d)
    (hNodes : NodesReadable env d)
    (hSettles : ev.kind.settles = true)
    (hAdmissible : Admissible env ev d.verdict) :
    Accepted env d ev := by
  rcases hAdmissible with ⟨hRun, id, hNode, hTakes⟩
  have hRead := readNodeOpt_of_readable hNodes id
  suffices hKindPlan : ∃ ops, reduceKind env d ev = .ok ops by
    rcases hKindPlan with ⟨ops, hPlan⟩
    exact ⟨ops, reduce_eq_ok.mpr ⟨hRun, hPlan⟩⟩
  rcases EventKind.settles_cases hSettles with
    hKind | hKind | hKind
  · rw [reduceKind, hKind]
    dsimp only
    unfold reduceNodeCreated
    rw [readManifestOpt_of_readable hReadable]
    simp only [Event.requireEnvelopeNodeId, hNode,
      orError_some, ok_bind, hRead]
    cases hLookup : d.nodes.lookup id with
    | some n => exact ⟨_, rfl⟩
    | none =>
        rw [verdict_of_missing hLookup] at hTakes
        simp only [Event.Takes, hKind] at hTakes
        rcases hTakes with ⟨n, hNew⟩
        simp only [hNew, ok_bind]
        cases d.manifest <;> exact ⟨_, rfl⟩
  · have hArm :
        nodeArm env d ev id =
          some (.ok (nodeStatusStep ev)) := by
      simp [nodeArm, hKind]
    rw [reduceKind_eq_arm hArm hNode, ok_bind]
    unfold onNode
    rw [hRead, ok_bind]
    cases hLookup : d.nodes.lookup id with
    | none => exact ⟨[], by simp [missingNode, hKind]⟩
    | some n =>
        rw [verdict_of_lookup hLookup] at hTakes
        have hStatus : ∃ s, ev.requireStatus = .ok s := by
          unfold Status.verdict at hTakes
          split at hTakes <;>
            simpa [Event.Takes, hKind] using hTakes
        rcases hStatus with ⟨s, hStatus⟩
        simp only [nodeStatusStep, hStatus, ok_bind]
        split
        · exact ⟨_, rfl⟩
        · split <;> exact ⟨_, rfl⟩
  · have hArm :
        nodeArm env d ev id =
          some (.ok (nodeReportStep ev)) := by
      simp [nodeArm, hKind]
    rw [reduceKind_eq_arm hArm hNode, ok_bind]
    unfold onNode
    rw [hRead, ok_bind]
    cases hLookup : d.nodes.lookup id with
    | none => exact ⟨[], by simp [missingNode, hKind]⟩
    | some n =>
        rw [verdict_of_lookup hLookup] at hTakes
        simp only [nodeReportStep]
        cases hTerminal : n.status.isTerminal with
        | true =>
            simp only [if_true]
            split
            · split <;> exact ⟨_, rfl⟩
            · exact ⟨_, rfl⟩
        | false =>
            rw [Status.verdict_live hTerminal] at hTakes
            simp only [Event.Takes, hKind] at hTakes
            rcases hTakes with ⟨s, hStatus⟩
            exact ⟨_, by simp [hStatus]; rfl⟩

end Reducer

------------------------------------------------------------
-- Skimmed Payloads
------------------------------------------------------------

/-
  Payloads on which the skimming reader and the reducer see
  one outcome: a terminal status is spelled as a string, and
  a report that is no object does not read as a merge by its
  positions.
-/
structure Event.Aligned (ev : Event) : Prop where
  status : ev.kind = .nodeStatus → ∀ s,
    ev.requireStatus = .ok s → s.isTerminal = true →
    ∃ name, ev.data.get "status" = some (.str name)
  report : ev.kind = .nodeReport →
    ∀ p, CancelProbeData.decode ev.data = some p →
      reportIsConfirmedMerge p.reportValue = true →
      reportIsConfirmedMerge ev.data = true

section Skim

variable {ev : Event} {kvs : List (String × Json)}
variable {p : CancelProbeData}

/- A member that is there and not null. -/
def Json.present (v : Option Json) : Option Json :=
  v.filter (fun j => !j.isNull)

theorem defaulted_present (name : String) (i : Nat) :
    (Json.Fields.named kvs).defaulted name i none
        (Json.option some) =
      some (Json.present (kvs.lookup name)) := by
  simp only [Json.Fields.defaulted, Json.Fields.raw,
    Json.present]
  rcases kvs.lookup name with _ | v
  · rfl
  · cases v <;> rfl

/- Of an object, the skim is its members by name. -/
theorem decode_object :
    CancelProbeData.decode (.obj kvs) =
      some {
        status := Json.present (kvs.lookup "status")
        success := Json.present (kvs.lookup "success")
        cancelled := Json.present (kvs.lookup "cancelled")
        via := Json.present (kvs.lookup "via")
        origin := kvs.lookup "origin" } := by
  unfold CancelProbeData.decode
  simp only [Json.fields, Option.bind_eq_bind,
    Option.bind_some, defaulted_present]
  simp only [Json.Fields.defaulted, Json.Fields.raw]
  cases kvs.lookup "origin" <;> rfl

theorem reportValue_get :
    p.reportValue.get "success" = p.success ∧
      p.reportValue.get "cancelled" = p.cancelled ∧
      p.reportValue.get "via" = p.via ∧
      p.reportValue.get reportOriginKey = p.origin := by
  rcases p with ⟨status, success, cancelled, via, origin⟩
  cases success <;> cases cancelled <;> cases via <;>
    cases origin <;>
    simp [CancelProbeData.reportValue, Json.get,
      reportOriginKey, List.lookup_cons]

theorem reportIsConfirmedMerge_skim
    (hData : ev.data = .obj kvs)
    (hSkim : CancelProbeData.decode ev.data = some p) :
    reportIsConfirmedMerge p.reportValue =
      reportIsConfirmedMerge ev.data := by
  rw [hData, decode_object, Option.some.injEq] at hSkim
  subst hSkim
  unfold reportIsConfirmedMerge ReportOrigin.fromReport
    Json.getStr
  rw [reportValue_get.1, reportValue_get.2.1,
    reportValue_get.2.2.1, reportValue_get.2.2.2, hData]
  simp only [Json.get, reportOriginKey]
  congr 1
  · congr 1
    · rcases kvs.lookup "success" with _ | v
      · rfl
      · cases v <;> rfl
    · rcases kvs.lookup "cancelled" with _ | v
      · rfl
      · cases v <;> rfl
  · congr 2
    rcases kvs.lookup "via" with _ | v
    · rfl
    · cases v <;> rfl

/- The skimming parser reads the status where it is a name. -/
theorem parseStatus_skim
    {s : Status}
    (hStatus : ev.requireStatus = .ok s)
    (hSkim : CancelProbeData.decode ev.data = some p) :
    (p.status.bind Json.asStr).bind parseStatus = some s ∨
      ((p.status.bind Json.asStr).bind parseStatus = none ∧
        ∀ name, ev.data.get "status" ≠ some (.str name)) := by
  simp only [Event.requireStatus, orError_eq_ok] at hStatus
  cases hData : ev.data <;>
    rw [hData] at hStatus hSkim <;>
    try cases hStatus
  rw [decode_object, Option.some.injEq] at hSkim
  subst hSkim
  simp only [Json.get] at hStatus ⊢
  generalize List.lookup "status" _ = found at hStatus ⊢
  cases found with
  | none => cases hStatus
  | some v =>
      cases v with
      | str name => exact .inl hStatus
      | null => cases hStatus
      | _ => exact .inr ⟨rfl, by simp⟩

theorem optionalBool_skim
    {field : String} {b : Option Bool}
    (hData : ev.data = .obj kvs)
    (hRead : ev.optionalBool field = .ok b) :
    (Json.present (kvs.lookup field)).bind Json.asBool = b := by
  simp only [Event.optionalBool, hData, Json.get] at hRead
  cases hLookup : kvs.lookup field with
  | none => simpa [hLookup, Json.present] using hRead
  | some v =>
      rw [hLookup] at hRead
      cases v <;> cases hRead <;> rfl

theorem object_of_optionalBool
    {field : String} {b : Bool}
    (hRead : ev.optionalBool field = .ok (some b)) :
    ∃ kvs, ev.data = .obj kvs := by
  cases hData : ev.data <;>
    simp [Event.optionalBool, hData, Json.get] at hRead
  exact ⟨_, rfl⟩

/- A report the reducer reads is an object. -/
theorem object_of_reportTerminalStatus
    {s : Status}
    (hRead : ev.reportTerminalStatus = .ok s) :
    ∃ kvs, ev.data = .obj kvs := by
  unfold Event.reportTerminalStatus at hRead
  simp only [bind_eq_ok] at hRead
  rcases hRead with ⟨cancelled, hCancelled, success, hSuccess,
    hRest⟩
  cases cancelled with
  | some c => exact object_of_optionalBool hCancelled
  | none =>
      cases success with
      | some b => exact object_of_optionalBool hSuccess
      | none => simp at hRest

/- The two readings of a report's outcome agree. -/
theorem reportTerminalStatus_skim
    {s : Status}
    (hRead : ev.reportTerminalStatus = .ok s)
    (hSkim : CancelProbeData.decode ev.data = some p) :
    reportTerminalStatus (p.success.bind Json.asBool)
      (p.cancelled.bind Json.asBool) = some s := by
  rcases object_of_reportTerminalStatus hRead with
    ⟨kvs, hData⟩
  rw [hData, decode_object, Option.some.injEq] at hSkim
  subst hSkim
  unfold Event.reportTerminalStatus at hRead
  simp only [bind_eq_ok] at hRead
  rcases hRead with ⟨cancelled, hCancelled, success, hSuccess,
    hRest⟩
  rw [optionalBool_skim hData hCancelled,
    optionalBool_skim hData hSuccess]
  unfold Taskfleet.reportTerminalStatus
  cases hCase : cancelled.getD false with
  | true =>
      simp only [hCase, if_true] at hRest ⊢
      split at hRest
      · cases hRest
      next hSome =>
        cases hRest
        rw [if_neg hSome]
  | false =>
      simp only [hCase, Bool.false_eq_true, if_false]
        at hRest ⊢
      rcases success with _ | _ | _ <;> cases hRest <;> rfl

end Skim

------------------------------------------------------------
-- The Fold Moves Verdicts
------------------------------------------------------------

section Fold

variable {env : RunEnv} {acc : NodeStatusAcc} {ev : Event}

theorem verdict_setStatus
    (id i : NodeId) (s : Status) :
    (acc.setStatus id s).verdict i =
      if id = i then s.verdict else acc.verdict i := by
  simp only [NodeStatusAcc.verdict, NodeStatusAcc.setStatus]
  by_cases hHere : id = i
  · rw [if_pos hHere, hHere, Function.update_self]
    rfl
  · rw [if_neg hHere,
      Function.update_of_ne (fun hEq => hHere hEq.symm)]

@[simp] theorem verdict_adoptMerge
    (id : NodeId) (seq : Nat) :
    (acc.adoptMerge id seq).verdict = acc.verdict := rfl

theorem accVerdict_of_status
    {id : NodeId} {s : Status}
    (hStatus : acc.status id = some s) :
    acc.verdict id = s.verdict := by
  simp [NodeStatusAcc.verdict, hStatus, Verdict.ofStatus]

theorem accVerdict_of_none
    {id : NodeId} (hStatus : acc.status id = none) :
    acc.verdict id = .absent := by
  simp [NodeStatusAcc.verdict, hStatus, Verdict.ofStatus]

/- The fold changed at most the verdict of one node. -/
theorem verdict_moved
    {acc' : NodeStatusAcc} {id : NodeId} {w : Verdict}
    (hNode : ev.nodeId = some id)
    (hHere : w = ev.move (acc.verdict id))
    (hAll : ∀ i, acc'.verdict i =
      if id = i then w else acc.verdict i) :
    acc'.verdict = ev.moves acc.verdict := by
  funext i
  rw [hAll i]
  unfold Event.moves
  by_cases hEq : id = i
  · rw [if_pos hEq, if_pos (hEq ▸ hNode), hHere, hEq]
  · rw [if_neg hEq, if_neg]
    intro hOther
    rw [hNode, Option.some.injEq] at hOther
    exact hEq hOther

theorem verdict_unmoved
    {id : NodeId}
    (hNode : ev.nodeId = some id)
    (hHere : ev.move (acc.verdict id) = acc.verdict id) :
    acc.verdict = ev.moves acc.verdict := by
  refine verdict_moved hNode hHere.symm (fun i => ?_)
  by_cases hEq : id = i
  · rw [if_pos hEq, hEq]
  · rw [if_neg hEq]

theorem observeCreated_verdict
    {id : NodeId}
    (hKind : ev.kind = .nodeCreated)
    (hNode : ev.nodeId = some id) :
    (acc.observeCreated id).verdict = ev.moves acc.verdict := by
  unfold NodeStatusAcc.observeCreated
  cases hStatus : acc.status id with
  | some s =>
      refine verdict_unmoved hNode ?_
      rw [accVerdict_of_status hStatus]
      unfold Status.verdict
      split <;> simp [Event.move, hKind]
  | none =>
      refine verdict_moved hNode ?_
        (fun i => verdict_setStatus id i .pending)
      rw [accVerdict_of_none hStatus]
      simp [Event.move, hKind, Status.verdict,
        Status.isTerminal]

theorem observeStatus_verdict
    {id : NodeId} {p : CancelProbeData}
    (hKind : ev.kind = .nodeStatus)
    (hNode : ev.nodeId = some id)
    (hAligned : ev.Aligned)
    (hTakes : ev.Takes env id (acc.verdict id))
    (hSkim : CancelProbeData.decode ev.data = some p) :
    (acc.observeStatus id p).verdict =
      ev.moves acc.verdict := by
  unfold NodeStatusAcc.observeStatus
  cases hStatus : acc.status id with
  | none =>
      refine verdict_unmoved hNode ?_
      rw [accVerdict_of_none hStatus]
      simp [Event.move, hKind]
  | some cur =>
      have hVerdict := accVerdict_of_status hStatus
      rw [hVerdict] at hTakes
      dsimp only
      cases hTerminal : cur.isTerminal with
      | true =>
          rw [if_pos rfl]
          refine verdict_unmoved hNode ?_
          rw [hVerdict, Status.verdict_settled hTerminal]
          simp [Event.move, hKind]
      | false =>
          rw [Status.verdict_live hTerminal] at hTakes hVerdict
          simp only [Event.Takes, hKind] at hTakes
          rcases hTakes with ⟨s, hRead⟩
          have hMove :
              ev.move (acc.verdict id) = s.verdict := by
            simp [hVerdict, Event.move, hKind, hRead]
          rw [if_neg (by simp)]
          rcases parseStatus_skim hRead hSkim with
            hParse | ⟨hParse, hNoName⟩
          · rw [hParse]
            exact verdict_moved hNode hMove.symm
              (fun i => verdict_setStatus id i s)
          · -- what is not spelled as a name is no outcome
            rw [hParse]
            cases hSettled : s.isTerminal with
            | true =>
                rcases hAligned.status hKind s hRead hSettled
                  with ⟨name, hName⟩
                exact absurd hName (hNoName name)
            | false =>
                rw [Status.verdict_live hSettled] at hMove
                exact verdict_unmoved hNode
                  (hMove.trans hVerdict.symm)

theorem reportIsConfirmedMerge_aligned
    {p : CancelProbeData}
    (hKind : ev.kind = .nodeReport)
    (hAligned : ev.Aligned)
    (hSkim : CancelProbeData.decode ev.data = some p) :
    reportIsConfirmedMerge p.reportValue =
      reportIsConfirmedMerge ev.data := by
  cases hMerge : reportIsConfirmedMerge p.reportValue with
  | true => exact (hAligned.report hKind p hSkim hMerge).symm
  | false =>
      cases hOther : reportIsConfirmedMerge ev.data with
      | false => rfl
      | true =>
          rcases object_of_reportTerminalStatus
            (reportTerminalStatus_of_confirmedMerge hOther) with
            ⟨kvs, hData⟩
          rw [reportIsConfirmedMerge_skim hData hSkim,
            hOther] at hMerge
          cases hMerge

theorem observeReport_verdict
    {id : NodeId} {seq : Nat} {p : CancelProbeData}
    (hKind : ev.kind = .nodeReport)
    (hNode : ev.nodeId = some id)
    (hAligned : ev.Aligned)
    (hTakes : ev.Takes env id (acc.verdict id))
    (hSkim : CancelProbeData.decode ev.data = some p) :
    (acc.observeReport id seq p).verdict =
      ev.moves acc.verdict := by
  have hMerge :=
    reportIsConfirmedMerge_aligned hKind hAligned hSkim
  have hPermits : ∀ s,
      permitsTerminalMergeRecovery s p.reportValue =
        permitsTerminalMergeRecovery s ev.data := by
    intro s
    unfold permitsTerminalMergeRecovery
    rw [hMerge]
  unfold NodeStatusAcc.observeReport
  cases hStatus : acc.status id with
  | none =>
      refine verdict_unmoved hNode ?_
      rw [accVerdict_of_none hStatus]
      simp [Event.move, hKind]
  | some cur =>
      have hVerdict := accVerdict_of_status hStatus
      rw [hVerdict] at hTakes
      dsimp only
      rw [hPermits]
      cases hTerminal : cur.isTerminal with
      | true =>
          rw [Status.verdict_settled hTerminal] at hVerdict
          by_cases hAdopts :
              permitsTerminalMergeRecovery cur ev.data = true
          · rw [if_pos rfl, if_pos hAdopts]
            refine verdict_moved hNode ?_
              (fun i => verdict_setStatus id i .done)
            simp [hVerdict, Event.move, hKind, hAdopts,
              Status.verdict, Status.isTerminal]
          · rw [if_pos rfl, if_neg hAdopts]
            refine verdict_unmoved hNode ?_
            simp [hVerdict, Event.move, hKind, hAdopts]
      | false =>
          rw [Status.verdict_live hTerminal] at hTakes hVerdict
          simp only [Event.Takes, hKind] at hTakes
          rcases hTakes with ⟨s, hRead⟩
          rw [if_neg (by simp),
            reportTerminalStatus_skim hRead hSkim]
          have hMove :
              s.verdict = ev.move (acc.verdict id) := by
            simp [hVerdict, Event.move, hKind, hRead]
          dsimp only
          split
          · exact verdict_moved hNode hMove
              (fun i => verdict_setStatus id i s)
          · exact verdict_moved hNode hMove
              (fun i => verdict_setStatus id i s)

/- One skimmed line moves the verdicts as its event does. -/
theorem observe_verdict
    {probe : CancelProbe}
    (hAligned : ev.Aligned)
    (hAdmissible : ev.kind.settles = true →
      Admissible env ev acc.verdict)
    (hProbe : CancelProbe.decode ev = some probe) :
    (acc.observe probe).verdict = ev.moves acc.verdict := by
  simp only [CancelProbe.decode, Option.bind_eq_bind,
    Option.pure_def, Option.bind_eq_some_iff,
    Option.some.injEq] at hProbe
  rcases hProbe with ⟨p, hSkim, rfl⟩
  unfold NodeStatusAcc.observe
  dsimp only
  cases hSettles : ev.kind.settles with
  | false =>
      rw [moves_of_not_settles hSettles]
      split
      · rfl
      · cases hKind : ev.kind <;>
          simp_all [EventKind.settles]
  | true =>
      rcases hAdmissible hSettles with ⟨_, id, hNode, hTakes⟩
      rw [hNode]
      dsimp only
      rcases EventKind.settles_cases hSettles with
        hKind | hKind | hKind
      · rw [hKind]
        exact observeCreated_verdict hKind hNode
      · rw [hKind]
        exact observeStatus_verdict hKind hNode hAligned hTakes
          hSkim
      · rw [hKind]
        exact observeReport_verdict hKind hNode hAligned hTakes
          hSkim

end Fold

end Taskfleet
