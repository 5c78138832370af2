import Taskfleet.CatchUp
import Taskfleet.EventCreate
import Taskfleet.Reducer.Refold
import Taskfleet.Together

/-
  The paths that `event create` announces and the projections
  that its append changes.

  The number and the time of an event say nothing about the
  files it writes, the recovery of a failed run apart. What
  is left is whether the projections that were planned on are
  the ones that the append finds.

  Main declarations:
    * `Event.SameAsk`, `plan_together`
    * `EventRequest.Current`, `PlanExact`
    * `plan_exact`, `command_exact`, `not_plan_exact`
-/

------------------------------------------------------------
-- Events That Ask the Same
------------------------------------------------------------

namespace Taskfleet

open Fallible

/- Events that differ in clock, number and key only. -/
structure Event.SameAsk (ev ev' : Event) : Prop where
  kind : ev'.kind = ev.kind
  runId : ev'.runId = ev.runId
  nodeId : ev'.nodeId = ev.nodeId
  data : ev'.data = ev.data

section Readers

variable {ev ev' : Event}

theorem wantStr_together
    (hSame : ev.SameAsk ev') (field : String) :
    Together Eq (ev.wantStr field) (ev'.wantStr field) := by
  unfold Event.wantStr
  rw [hSame.data]
  exact .orError _ _ _

theorem requireStatus_together (hSame : ev.SameAsk ev') :
    Together Eq ev.requireStatus ev'.requireStatus := by
  unfold Event.requireStatus
  rw [hSame.data]
  exact .orError _ _ _

theorem optId_together
    {α : Type}
    (hSame : ev.SameAsk ev')
    (parse : String → Except IdValidationError α)
    (field : String) :
    Together Eq (ev.optId parse field)
      (ev'.optId parse field) := by
  unfold Event.optId
  rw [hSame.data]
  split
  · exact .ok rfl
  · exact .ok rfl
  next s _ =>
    cases parse s with
    | ok id => exact .ok rfl
    | error e => exact .error _ _
  · exact .error _ _

theorem optionalI32_together
    (hSame : ev.SameAsk ev') (field : String) :
    Together Eq (ev.optionalI32 field)
      (ev'.optionalI32 field) := by
  unfold Event.optionalI32
  rw [hSame.data]
  split
  · exact .ok rfl
  · exact .ok rfl
  next v _ _ =>
    cases v.asI64 with
    | none => exact .error _ _
    | some raw =>
        dsimp only
        exact .ite_error rfl

theorem optionalTs_together
    (env : RunEnv) (hSame : ev.SameAsk ev') (field : String) :
    Together Eq (ev.optionalTs env field)
      (ev'.optionalTs env field) := by
  unfold Event.optionalTs
  rw [hSame.data]
  split
  · exact .ok rfl
  · exact .ok rfl
  next s _ =>
    cases env.parseRfc3339 s with
    | none => exact .error _ _
    | some t => exact .ok rfl
  · exact .error _ _

theorem claudeSession_together (hSame : ev.SameAsk ev') :
    Together Eq ev.claudeSessionFromData
      ev'.claudeSessionFromData := by
  unfold Event.claudeSessionFromData
  rw [hSame.data]
  split
  · exact .ok rfl
  · exact .ok rfl
  · dsimp only
    exact .ite_error rfl

theorem spawnAttempt_together (hSame : ev.SameAsk ev') :
    Together Eq ev.spawnAttempt ev'.spawnAttempt := by
  unfold Event.spawnAttempt
  rw [hSame.data]
  split
  · exact .ok rfl
  · exact .ok rfl
  · exact .orError _ _ _

theorem workerEvidence_together (hSame : ev.SameAsk ev') :
    Together Eq ev.workerEvidenceFromSpawnData
      ev'.workerEvidenceFromSpawnData := by
  have hPath : ev'.liveSessionPath = ev.liveSessionPath := by
    funext sessionId
    unfold Event.liveSessionPath
    rw [hSame.runId]
  have hValue : ev'.hasValue = ev.hasValue := by
    funext field
    unfold Event.hasValue
    rw [hSame.data]
  unfold Event.workerEvidenceFromSpawnData
  rw [hSame.data, hPath, hValue]
  dsimp only
  split
  · apply Together.ite
    · intro _
      exact .error _ _
    · intro _
      exact .ok rfl
  · apply Together.ite
    · intro _
      exact .error _ _
    · intro _
      exact .ok rfl
  · apply Together.bind_eq (.orError _ _ _)
    intro sessionId
    apply Together.bind_eq (.refuseIf _ _ _)
    intro _
    apply Together.bind_eq (wantStr_together hSame _)
    intro originalCwd
    apply Together.bind_eq (wantStr_together hSame _)
    intro livePath
    apply Together.bind_eq (.refuseIf _ _ _)
    intro _
    apply Together.bind_eq (spawnAttempt_together hSame)
    intro attempt
    exact .ok rfl

/- A node is created under one number or under the other. -/
theorem newNode_together
    (env : RunEnv) (hSame : ev.SameAsk ev') (id : NodeId) :
    Together (fun n n' => n.nodeId = n'.nodeId)
      (ev.newNode env id) (ev'.newNode env id) := by
  unfold Event.newNode
  rw [hSame.data]
  apply Together.bind_eq (.orError _ _ _)
  intro kind
  apply Together.bind_eq (optId_together hSame _ _)
  intro parent
  apply Together.bind_eq (workerEvidence_together hSame)
  intro evidence
  apply Together.bind_eq (optionalI32_together hSame _)
  intro agentPid
  apply Together.bind_eq (optionalTs_together env hSame _)
  intro started
  apply Together.bind_eq (optionalI32_together hSame _)
  intro supervisorPid
  apply Together.bind_eq (claudeSession_together hSame)
  intro session
  exact .ok rfl

theorem discussionItems_together (hSame : ev.SameAsk ev') :
    Together Eq ev.discussionItems ev'.discussionItems := by
  unfold Event.discussionItems
  rw [hSame.data]
  apply Together.bind_eq (.orError _ _ _)
  intro items
  apply Together.bind_eq
  · apply Together.forM
    intro entry _
    unfold DiscussionItem.check
    split
    · exact .refuseIf _ _ _
    · exact .error _ _
  · intro _
    exact .ok rfl

end Readers

------------------------------------------------------------
-- Plans That Write the Same Files
------------------------------------------------------------

/- The kinds that `event create` routes to the reducer. -/
def EventKind.routable : EventKind → Bool
| .runStatus | .nodeCreated | .nodeStatus
| .nodeAwaitingInput | .nodeInputResolved | .childSpawned
| .supervisorAttached | .supervisorCursorAdvanced
| .other _ => true
| _ => false

/- Steps that fail together and write together. -/
def NodeStep.Alike (step step' : NodeStep) : Prop :=
  ∀ n, Together
    (fun o o' => o.map Node.nodeId = o'.map Node.nodeId)
    (step n) (step' n)

/- A failed run that a merge report takes to done. -/
def Event.Recovers (ev : Event) (d : Disk) : Prop :=
  ev.kind = .runStatus ∧
    ∃ m, d.manifest = some m ∧
      ev.requireStatus = .ok .done ∧
      recoveryAllowed d ev m.status .done = true

/- No manifest on either, or one that both reads accept. -/
def ManifestAlike
    (env : RunEnv) (ev : Event) (d d' : Disk) : Prop :=
  (d.manifest = none ∧ d'.manifest = none) ∨
    ∃ m m', d.manifest = some m ∧ m.Valid env ∧
      d'.manifest = some m' ∧ m'.Valid env ∧
      (ev.kind = .runStatus → m.status = m'.status)

section Plans

variable {env : RunEnv} {d d' : Disk} {ev ev' : Event}

/- Only done is recovered to. -/
theorem status_of_recoveryAllowed
    {current s : Status}
    (hAllowed : recoveryAllowed d ev current s = true) :
    s = .done := by
  simp only [recoveryAllowed, Bool.and_eq_true,
    beq_iff_eq] at hAllowed
  exact hAllowed.1.1.2

theorem nodeStatusStep_alike (hSame : ev.SameAsk ev') :
    (nodeStatusStep ev).Alike (nodeStatusStep ev') := by
  intro n
  unfold nodeStatusStep
  apply Together.bind_eq (requireStatus_together hSame)
  intro s
  apply Together.ite
  · intro _
    exact .ok rfl
  · intro _
    exact .ite_ok rfl rfl

theorem nodeAwaitingInputArm_alike (hSame : ev.SameAsk ev') :
    Together NodeStep.Alike (nodeAwaitingInputArm ev)
      (nodeAwaitingInputArm ev') := by
  unfold nodeAwaitingInputArm
  apply Together.bind_eq (discussionItems_together hSame)
  intro items
  apply Together.ok
  intro n
  unfold nodeAwaitingInputStep
  apply Together.ite
  · intro _
    exact .ok rfl
  · intro _
    cases n.awaitingInput with
    | none => exact .ok rfl
    | some opened =>
        dsimp only
        apply Together.ite
        · intro _
          exact .error _ _
        · intro _
          exact .ok rfl

theorem nodeInputResolvedArm_alike (hSame : ev.SameAsk ev') :
    Together NodeStep.Alike (nodeInputResolvedArm ev)
      (nodeInputResolvedArm ev') := by
  unfold nodeInputResolvedArm
  rw [hSame.data]
  apply Together.bind_eq (.orError _ _ _)
  intro seq
  apply Together.ok
  intro n
  dsimp only
  exact .ite_ok rfl rfl

theorem childSpawnedArm_alike (hSame : ev.SameAsk ev') :
    Together NodeStep.Alike (childSpawnedArm ev)
      (childSpawnedArm ev') := by
  unfold childSpawnedArm
  rw [hSame.data]
  apply Together.bind_eq (wantStr_together hSame _)
  intro rawRun
  apply Together.bind_eq (.mapError _ _ _)
  intro childRun
  apply Together.bind_eq (.mapError _ _ _)
  intro childNode
  apply Together.ok
  intro n
  dsimp only
  exact .ite_ok rfl rfl

theorem supervisorAttachedArm_alike
    (hSame : ev.SameAsk ev') :
    Together NodeStep.Alike (supervisorAttachedArm ev)
      (supervisorAttachedArm ev') := by
  unfold supervisorAttachedArm
  rw [hSame.data]
  apply Together.bind_eq (.orError _ _ _)
  intro raw
  apply Together.bind_eq (.refuseIf _ _ _)
  intro _
  apply Together.ok
  intro n
  dsimp only
  exact .ite_ok rfl rfl

theorem supervisorCursorAdvancedArm_alike
    (hSame : ev.SameAsk ev') :
    Together NodeStep.Alike (supervisorCursorAdvancedArm ev)
      (supervisorCursorAdvancedArm ev') := by
  unfold supervisorCursorAdvancedArm
  rw [hSame.data]
  apply Together.bind_eq (wantStr_together hSame _)
  intro child
  apply Together.bind_eq (.mapError _ _ _)
  intro _
  apply Together.bind_eq (.orError _ _ _)
  intro reportSeq
  apply Together.ok
  intro n
  dsimp only
  exact .ite_ok rfl rfl

/- A node that both runs have alike is written by both. -/
theorem onNode_together
    {id : NodeId} {step step' : NodeStep}
    (hLookup : d.nodes.lookup id = d'.nodes.lookup id)
    (hAlike : step.Alike step') :
    Together
      (fun ops ops' =>
        ops.map ProjectionOp.path = ops'.map ProjectionOp.path)
      (onNode env d id (.ok []) step)
      (onNode env d' id (.ok []) step') := by
  unfold onNode
  rw [readNodeOpt_congr hLookup]
  apply Together.bind_eq (.refl _)
  intro found
  cases found with
  | none => exact .ok rfl
  | some n =>
      apply (hAlike n).bind
      intro o o' hWritten
      apply Together.ok
      cases o with
      | none =>
          cases o' with
          | none => rfl
          | some n' => cases hWritten
      | some n₁ =>
          cases o' with
          | none => cases hWritten
          | some n₂ =>
              simpa [stepPlan, ProjectionOp.path] using hWritten

theorem reduceNode_together
    {arm arm' : NodeId → Except Error NodeStep}
    (hSame : ev.SameAsk ev')
    (hNode : ∀ id, ev.nodeId = some id →
      d.nodes.lookup id = d'.nodes.lookup id)
    (hArm : ∀ id, Together NodeStep.Alike (arm id) (arm' id)) :
    Together
      (fun ops ops' =>
        ops.map ProjectionOp.path = ops'.map ProjectionOp.path)
      (reduceNode env d ev arm) (reduceNode env d' ev' arm') := by
  unfold reduceNode Event.requireEnvelopeNodeId
  rw [hSame.nodeId]
  cases hId : ev.nodeId with
  | none => exact .error _ _
  | some id =>
      apply (hArm id).bind
      intro step step' hAlike
      exact onNode_together (hNode id hId) hAlike

theorem reduceChildSpawned_together
    (hSame : ev.SameAsk ev')
    (hNode : ∀ id, ev.nodeId = some id →
      d.nodes.lookup id = d'.nodes.lookup id) :
    Together
      (fun ops ops' =>
        ops.map ProjectionOp.path = ops'.map ProjectionOp.path)
      (reduceChildSpawned env d ev)
      (reduceChildSpawned env d' ev') := by
  unfold reduceChildSpawned
  rw [hSame.nodeId]
  cases hId : ev.nodeId with
  | none => exact .error _ _
  | some id =>
      apply (childSpawnedArm_alike hSame).bind
      intro step step' hAlike
      exact onNode_together (hNode id hId) hAlike

theorem reduceRunStatus_together
    (hKind : ev.kind = .runStatus)
    (hSame : ev.SameAsk ev')
    (hManifest : ManifestAlike env ev d d')
    (hPlain : ¬ ev.Recovers d)
    (hPlain' : ¬ ev'.Recovers d') :
    Together
      (fun ops ops' =>
        ops.map ProjectionOp.path = ops'.map ProjectionOp.path)
      (reduceRunStatus env d ev) (reduceRunStatus env d' ev') := by
  unfold reduceRunStatus
  rcases hManifest with
    ⟨hNone, hNone'⟩ |
    ⟨m, m', hSome, hValid, hSome', hValid', hStatus⟩
  · rw [readManifestOpt_eq_none.mpr hNone,
      readManifestOpt_eq_none.mpr hNone']
    exact .ok rfl
  rw [readManifestOpt_eq_some.mpr ⟨hSome, hValid⟩,
    readManifestOpt_eq_some.mpr ⟨hSome', hValid'⟩, ok_bind,
    ok_bind]
  dsimp only
  have hSeen : ∀ s, ev.requireStatus = .ok s →
      recoveryAllowed d ev m.status s = false ∧
        recoveryAllowed d' ev' m'.status s = false := by
    intro s hAsks
    have hAsks' := (requireStatus_together hSame).ok_iff.mp hAsks
    constructor
    · rw [Bool.eq_false_iff]
      intro hAllowed
      have hDone := status_of_recoveryAllowed hAllowed
      subst hDone
      exact hPlain ⟨hKind, m, hSome, hAsks, hAllowed⟩
    · rw [Bool.eq_false_iff]
      intro hAllowed
      have hDone := status_of_recoveryAllowed hAllowed
      subst hDone
      exact hPlain' ⟨hSame.kind.trans hKind, m', hSome', hAsks',
        hAllowed⟩
  have hAsk := requireStatus_together hSame
  cases hAsks : ev.requireStatus with
  | error e =>
      rw [hAsks] at hAsk
      cases hAsks' : ev'.requireStatus with
      | error e' => exact .error _ _
      | ok s =>
          rw [hAsks'] at hAsk
          cases hAsk
  | ok s =>
      rw [hAsk.ok_iff.mp hAsks, ok_bind, ok_bind,
        (hSeen s hAsks).1, (hSeen s hAsks).2, hStatus hKind]
      apply Together.ite
      · intro _
        exact .ok rfl
      · intro _
        exact .ite_ok rfl rfl

theorem reduceNodeCreated_together
    (hSame : ev.SameAsk ev')
    (hManifest : ManifestAlike env ev d d')
    (hNode : ∀ id, ev.nodeId = some id →
      d.nodes.lookup id = d'.nodes.lookup id) :
    Together
      (fun ops ops' =>
        ops.map ProjectionOp.path = ops'.map ProjectionOp.path)
      (reduceNodeCreated env d ev)
      (reduceNodeCreated env d' ev') := by
  unfold reduceNodeCreated Event.requireEnvelopeNodeId
  rw [hSame.nodeId]
  cases hId : ev.nodeId with
  | none => exact .error _ _
  | some id =>
      rw [orError_some, orError_some, ok_bind, ok_bind,
        readNodeOpt_congr (hNode id hId)]
      apply Together.bind_eq (.refl _)
      intro found
      cases found with
      | some n => exact .ok rfl
      | none =>
          apply (newNode_together env hSame id).bind
          intro n n' hIds
          rcases hManifest with
            ⟨hNone, hNone'⟩ |
              ⟨m, m', hSome, hValid, hSome', hValid', _⟩
          · rw [readManifestOpt_eq_none.mpr hNone,
              readManifestOpt_eq_none.mpr hNone']
            apply Together.ok
            simp [ProjectionOp.path, hIds]
          · rw [readManifestOpt_eq_some.mpr ⟨hSome, hValid⟩,
              readManifestOpt_eq_some.mpr ⟨hSome', hValid'⟩]
            apply Together.ok
            simp [ProjectionOp.path, hIds]

/-
  Two events that ask the same, on runs that are alike where
  the event looks, are planned to write the same files.
-/
theorem plan_together
    (hRoutable : ev.kind.routable = true)
    (hSame : ev.SameAsk ev')
    (hManifest : ManifestAlike env ev d d')
    (hNode : ∀ id, ev.nodeId = some id →
      d.nodes.lookup id = d'.nodes.lookup id)
    (hPlain : ¬ ev.Recovers d)
    (hPlain' : ¬ ev'.Recovers d') :
    Together
      (fun ops ops' =>
        ops.map ProjectionOp.path = ops'.map ProjectionOp.path)
      (reduceEventToOps env d ev)
      (reduceEventToOps env d' ev') := by
  unfold reduceEventToOps
  rw [hSame.runId]
  apply Together.bind_eq (.refuseIf _ _ _)
  intro _
  unfold reduceKind
  rw [hSame.kind]
  cases hKind : ev.kind <;>
    simp only [hKind, EventKind.routable, Bool.false_eq_true]
      at hRoutable
  case runStatus =>
    exact reduceRunStatus_together hKind hSame hManifest hPlain
      hPlain'
  case nodeCreated =>
    exact reduceNodeCreated_together hSame hManifest hNode
  case nodeStatus =>
    apply reduceNode_together hSame hNode
    intro _
    exact .ok (nodeStatusStep_alike hSame)
  case nodeAwaitingInput =>
    apply reduceNode_together hSame hNode
    intro _
    exact nodeAwaitingInputArm_alike hSame
  case nodeInputResolved =>
    apply reduceNode_together hSame hNode
    intro _
    exact nodeInputResolvedArm_alike hSame
  case childSpawned =>
    exact reduceChildSpawned_together hSame hNode
  case supervisorAttached =>
    apply reduceNode_together hSame hNode
    intro _
    exact supervisorAttachedArm_alike hSame
  case supervisorCursorAdvanced =>
    apply reduceNode_together hSame hNode
    intro _
    exact supervisorCursorAdvancedArm_alike hSame
  case other => exact .ok rfl

end Plans

------------------------------------------------------------
-- Plans That Change What They Write
------------------------------------------------------------

/- The manifest without its watermark and its counter. -/
def Manifest.unmarked (m : Manifest) : Manifest :=
  { m with
    appliedSeq := 0
    nodeCount := 0 }

/- What a projection file holds, the watermark aside. -/
def Disk.content (d : Disk) :
    StateFile → Option (Manifest ⊕ Node)
| .events => none
| .manifest => d.manifest.map (fun m => .inl m.unmarked)
| .node id => (d.nodes.lookup id).map .inr

/- A step never writes a node as it was. -/
def NodeStep.Moves (step : NodeStep) : Prop :=
  ∀ n n', step n = .ok (some n') → n' ≠ n

/- A new node that leaves the manifest exactly as it is. -/
def Event.LeavesManifest (ev : Event) (d : Disk) : Prop :=
  ev.kind = .nodeCreated ∧
    ∃ id m, ev.nodeId = some id ∧
      d.nodes.lookup id = none ∧ d.manifest = some m ∧
      m.materialize ev id = m

section Changes

variable {env : RunEnv} {d : Disk} {ev : Event}
variable {ops : List ProjectionOp}

theorem nodeStatusStep_moves (ev : Event) :
    (nodeStatusStep ev).Moves := by
  intro n n' hStep hSame
  rcases nodeStatusStep_spec hStep with ⟨hRead, _⟩
  unfold nodeStatusStep at hStep
  rw [hRead, ok_bind] at hStep
  subst hSame
  split at hStep
  · cases hStep
  · rw [if_pos rfl] at hStep
    cases hStep

theorem nodeAwaitingInputArm_moves (ev : Event) :
    Yields (nodeAwaitingInputArm ev) NodeStep.Moves := by
  apply Yields.bind
  intro items hItems
  apply Yields.pure
  intro n n' hStep hSame
  unfold nodeAwaitingInputStep at hStep
  split at hStep
  · cases hStep
  cases hOpen : n.awaitingInput with
  | none =>
      simp only [hOpen, Except.ok.injEq, Option.some.injEq]
        at hStep
      have hAsked := congrArg Node.awaitingInput hStep
      rw [hSame, hOpen] at hAsked
      cases hAsked
  | some opened =>
      simp only [hOpen] at hStep
      split at hStep
      · cases hStep
      simp only [Except.ok.injEq, Option.some.injEq] at hStep
      have hAsked := congrArg Node.awaitingInput hStep
      rw [hSame, hOpen, Option.some.injEq] at hAsked
      have hJoined :=
        congrArg AwaitingInput.discussionItems hAsked
      exact discussionItems_nonempty ev items hItems
        (List.append_right_eq_self.mp hJoined)

theorem nodeInputResolvedArm_moves (ev : Event) :
    Yields (nodeInputResolvedArm ev) NodeStep.Moves := by
  apply Yields.bind
  intro seq _
  apply Yields.pure
  intro n n' hStep hSame
  dsimp only at hStep
  split at hStep
  next hOpen =>
    simp only [Except.ok.injEq, Option.some.injEq] at hStep
    have hClosed := congrArg Node.awaitingInput hStep
    rw [hSame] at hClosed
    rw [← hClosed] at hOpen
    cases hOpen
  · cases hStep

theorem childSpawnedArm_moves (ev : Event) :
    Yields (childSpawnedArm ev) NodeStep.Moves := by
  apply Yields.bind
  intro rawRun _
  apply Yields.bind
  intro childRun _
  apply Yields.bind
  intro childNode _
  apply Yields.pure
  intro n n' hStep hSame
  dsimp only at hStep
  split at hStep
  · cases hStep
  · simp only [Except.ok.injEq, Option.some.injEq] at hStep
    have hChildren := congrArg Node.children hStep
    rw [hSame] at hChildren
    simp at hChildren

theorem supervisorAttachedArm_moves (ev : Event) :
    Yields (supervisorAttachedArm ev) NodeStep.Moves := by
  apply Yields.bind
  intro raw _
  apply Yields.bind
  intro _ _
  apply Yields.pure
  intro n n' hStep hSame
  dsimp only at hStep
  split at hStep
  · cases hStep
  next hOther =>
    simp only [Except.ok.injEq, Option.some.injEq] at hStep
    have hPid := congrArg Node.supervisorPid hStep
    rw [hSame] at hPid
    exact hOther hPid.symm

theorem supervisorCursorAdvancedArm_moves (ev : Event) :
    Yields (supervisorCursorAdvancedArm ev) NodeStep.Moves := by
  apply Yields.bind
  intro child _
  apply Yields.bind
  intro _ _
  apply Yields.bind
  intro reportSeq hSeq
  apply Yields.pure
  intro n n' hStep hSame
  dsimp only at hStep
  split at hStep
  · cases hStep
  next hBehind =>
    simp only [Except.ok.injEq, Option.some.injEq] at hStep
    have hCursors :=
      congrArg Node.lastProcessedReportSeqByChild hStep
    rw [hSame] at hCursors
    have hThere :
        n.lastProcessedReportSeqByChild.lookup child =
          some (.int reportSeq) := by
      rw [← hCursors]
      exact Json.lookup_insertField_self _ _ _
    rw [orError_eq_ok, Option.bind_eq_some_iff] at hSeq
    rcases hSeq with ⟨v, _, hRead⟩
    apply hBehind
    rw [hThere, Option.bind_some,
      Json.asU64_natCast (Json.lt_of_asU64 hRead)]
    simp

theorem nodeArm_moves
    {id : NodeId} {step : NodeStep}
    (hRoutable : ev.kind.routable = true)
    (hArm : nodeArm env d ev id = some (.ok step)) :
    step.Moves := by
  unfold nodeArm at hArm
  cases hKind : ev.kind <;>
    simp only [hKind, EventKind.routable, Bool.false_eq_true]
      at hRoutable <;>
    simp only [hKind, Option.some.injEq, reduceCtorEq] at hArm
  case nodeStatus =>
    cases hArm
    exact nodeStatusStep_moves ev
  case nodeAwaitingInput =>
    exact nodeAwaitingInputArm_moves ev _ hArm
  case nodeInputResolved =>
    exact nodeInputResolvedArm_moves ev _ hArm
  case childSpawned => exact childSpawnedArm_moves ev _ hArm
  case supervisorAttached =>
    exact supervisorAttachedArm_moves ev _ hArm
  case supervisorCursorAdvanced =>
    exact supervisorCursorAdvancedArm_moves ev _ hArm

def ProjectionOp.content : ProjectionOp → Manifest ⊕ Node
| .manifest m => .inl m.unmarked
| .node n => .inr n

@[simp] theorem content_log
    (ev : Event) (d : Disk) (f : StateFile) :
    (d.log ev).content f = d.content f := by
  cases f <;> rfl

@[simp] theorem content_advance
    (seq : Nat) (d : Disk) (f : StateFile) :
    (d.advance seq).content f = d.content f := by
  cases f with
  | events => rfl
  | node id => simp [Disk.content]
  | manifest =>
      unfold Disk.content Disk.advance
      cases hManifest : d.manifest with
      | none => simp [hManifest]
      | some m =>
          dsimp only
          split
          · rfl
          · simp [hManifest]

theorem content_put
    (op : ProjectionOp) (d : Disk) (f : StateFile) :
    (op.put d).content f =
      if f = op.path then some op.content else d.content f := by
  cases op with
  | manifest m =>
      cases f <;> simp [ProjectionOp.put, ProjectionOp.path,
        ProjectionOp.content, Disk.content]
  | node n =>
      cases f with
      | events =>
          simp [ProjectionOp.path, Disk.content]
      | manifest =>
          simp [ProjectionOp.put, ProjectionOp.path,
            Disk.content]
      | node id =>
          simp only [ProjectionOp.put, ProjectionOp.path,
            ProjectionOp.content, Disk.content,
            Disk.putNode_nodes, StateFile.node.injEq]
          by_cases hSame : id = n.nodeId
          · rw [hSame, Finmap.lookup_insert, if_pos rfl]
            rfl
          · rw [Finmap.lookup_insert_of_ne _ hSame,
              if_neg hSame]

/- Plans move alike what is alike before them. -/
theorem content_applyOps_congr
    {d d' : Disk}
    (hSame : ∀ f, d.content f = d'.content f)
    (f : StateFile) :
    (applyOps ops d).content f = (applyOps ops d').content f := by
  induction ops generalizing d d' with
  | nil => exact hSame f
  | cons op ops ih =>
      rw [applyOps_cons, applyOps_cons]
      apply ih
      intro f'
      rw [content_put, content_put, hSame f']

/- One write changes the file it is of, and no other. -/
theorem changed_put
    {op : ProjectionOp}
    (hNew : d.content op.path ≠ some op.content)
    (f : StateFile) :
    f ∈ [op].map ProjectionOp.path ↔
      (applyOps [op] d).content f ≠ d.content f := by
  change f ∈ [op.path] ↔ (op.put d).content f ≠ d.content f
  rw [List.mem_singleton, content_put]
  by_cases hSame : f = op.path
  · rw [if_pos hSame, hSame]
    constructor
    · intro _ hEqual
      exact hNew hEqual.symm
    · intro _
      rfl
  · rw [if_neg hSame]
    constructor
    · intro hThere
      exact absurd hThere hSame
    · intro hDiffers
      exact absurd rfl hDiffers

/- A creation moves neither the watermark nor the counter. -/
theorem materialize_of_unmarked
    {m : Manifest} {id : NodeId}
    (hSame : m.unmarked = (m.materialize ev id).unmarked) :
    m.materialize ev id = m := by
  have hMarked :=
    congrArg
      (fun x : Manifest =>
        { x with
          appliedSeq := m.appliedSeq
          nodeCount := m.nodeCount })
      hSame
  exact hMarked.symm

/- The files of a plan are the ones whose content it moves. -/
theorem plan_changes
    (hRoutable : ev.kind.routable = true)
    (hPlan : reduceEventToOps env d ev = .ok ops)
    (hFresh : ¬ ev.LeavesManifest d)
    (f : StateFile) :
    f ∈ ops.map ProjectionOp.path ↔
      (applyOps ops d).content f ≠ d.content f := by
  cases (planned_of_reduce hPlan).2 with
  | nothing => simp [applyOps]
  | runCreated m hKind =>
      rw [hKind] at hRoutable
      cases hRoutable
  | settlementIntent id n m intent hKind =>
      rw [hKind] at hRoutable
      cases hRoutable
  | runStatus m s _ hManifest _ _ _ hMoves =>
      apply changed_put
      intro hSame
      simp only [ProjectionOp.path, ProjectionOp.content,
        Disk.content, hManifest, Option.map_some,
        Option.some.injEq, Sum.inl.injEq] at hSame
      exact hMoves (congrArg Manifest.status hSame)
  | nodeAlone id n _ _ hMissing hNew _ =>
      have hId := (newNode_spec env ev id n hNew).1.nodeId
      apply changed_put
      simp [ProjectionOp.path, Disk.content, hId, hMissing]
  | stepped id n n' step _ hArm hLookup hValid hStep =>
      have hId : n'.nodeId = id :=
        (nodeArm_move hArm hStep).1.nodeId.trans hValid.nodeId
      apply changed_put
      intro hSame
      simp only [ProjectionOp.path, ProjectionOp.content,
        Disk.content, hId, hLookup, Option.map_some,
        Option.some.injEq, Sum.inr.injEq] at hSame
      exact nodeArm_moves hRoutable hArm n n' hStep hSame.symm
  | nodeCreated id n m hKind hNode hMissing hNew hManifest _ =>
      have hId := (newNode_spec env ev id n hNew).1.nodeId
      change f ∈ [.node n.nodeId, .manifest] ↔
        ((ProjectionOp.manifest (m.materialize ev id)).put
          ((ProjectionOp.node n).put d)).content f ≠ d.content f
      rw [content_put, content_put, List.mem_cons,
        List.mem_singleton]
      by_cases hFile : f = .manifest
      · subst hFile
        have hMoved : m.unmarked ≠ (m.materialize ev id).unmarked
            := by
          intro hSame
          exact hFresh ⟨hKind, id, m, hNode, hMissing, hManifest,
            (materialize_of_unmarked hSame)⟩
        simpa [ProjectionOp.path, ProjectionOp.content,
          Disk.content, hManifest, eq_comm] using hMoved
      · by_cases hNodeFile : f = .node n.nodeId
        · have hNone : d.content f = none := by
            rw [hNodeFile, hId]
            simp [Disk.content, hMissing]
          rw [hNone]
          simp [ProjectionOp.path, hNodeFile]
        · simp [ProjectionOp.path, hFile, hNodeFile]

end Changes

------------------------------------------------------------
-- The Append
------------------------------------------------------------

/- The append fails, or its key was used for something else. -/
def EventRequest.Rejected
    (env : RunEnv) (now : Time) (r : EventRequest) (d : Disk) :
    Prop :=
  ∀ outcome, (r.append env now).result d = .ok outcome →
    ∃ prior, outcome = .conflict prior

/-
  What is announced is what the append changes on the run it
  has caught up, and the plan fails where it is rejected.
-/
structure PlanExact
    (env : RunEnv)
    (planned now : Time)
    (r : EventRequest)
    (d : Disk) : Prop where
  rejected :
    (∃ e, r.projectedPaths env planned d = .error e) ↔
      r.Rejected env now d
  changed : ∀ paths,
    r.projectedPaths env planned d = .ok paths →
    ∀ f, f ∈ paths ↔
      ((r.append env now).final d).content f ≠
        (catchUp env d).content f

/- What the event looks at is as the log has it. -/
structure EventRequest.Current
    (r : EventRequest) (d d' : Disk) : Prop where
  status : r.kind = .runStatus →
    d.manifest.map Manifest.status =
      d'.manifest.map Manifest.status
  node : ∀ id, r.nodeId = some id →
    d.nodes.lookup id = d'.nodes.lookup id

/- The event of the append on a run. -/
def EventRequest.eventAt
    (env : RunEnv) (now : Time) (r : EventRequest) (last : Nat) :
    Event :=
  (r.request now).event env (last + 1)

section Append

variable {env : RunEnv} {d : Disk} {r : EventRequest}
variable {planned now : Time} {last : Nat}

/- A catch-up that returns has read the manifest. -/
theorem readable_of_caughtUp
    (hCaughtUp :
      (replayUnappliedUnlocked env).result d = .ok ()) :
    Readable env d := by
  by_contra hUnreadable
  have hRun :
      Durable.wp (replayUnappliedUnlocked env)
        (fun _ _ => False) (fun _ _ => True)
        (fun _ _ => True) d := by
    have hRead : ∀ m, d.manifest = some m → ¬ m.Valid env := by
      intro m hManifest hValid
      apply hUnreadable
      intro m' hSame
      rw [hManifest, Option.some.injEq] at hSame
      exact hSame ▸ hValid
    rw [wp_replayUnappliedUnlocked]
    refine ⟨fun _ => trivial, ?_⟩
    apply wp_replayUnapplied
    · exact fun _ _ => trivial
    · intro hNone
      apply hUnreadable
      intro m hSome
      rw [show d.manifest = none from hNone] at hSome
      cases hSome
    · exact fun _ _ _ _ _ => trivial
    · intro m _ hManifest hValid
      exact absurd hValid (hRead m hManifest)
    · intro m _ hManifest hValid
      exact absurd hValid (hRead m hManifest)
  exact Durable.wp_ok hRun hCaughtUp

/- A catch-up neither brings a manifest nor takes one. -/
theorem manifest_of_caughtUp
    (hOrdered : d.Ordered)
    (hCaughtUp :
      (replayUnappliedUnlocked env).result d = .ok ()) :
    (d.manifest = none ∧ (catchUp env d).manifest = none) ∨
      ∃ m m', d.manifest = some m ∧ m.Valid env ∧
        (catchUp env d).manifest = some m' ∧ m'.Valid env := by
  have hReadable := readable_of_caughtUp hCaughtUp
  cases hManifest : d.manifest with
  | none =>
      left
      have hRun :
          Durable.wp (replayUnappliedUnlocked env)
            (fun _ s => s.manifest = none)
            (fun _ _ => True) (fun _ _ => True) d := by
        rw [wp_replayUnappliedUnlocked]
        refine ⟨fun _ => trivial, ?_⟩
        apply wp_replayUnapplied
        · exact fun _ _ => trivial
        · exact fun _ => hManifest
        · exact fun _ _ _ _ _ => trivial
        · intro m _ hSome
          rw [show d.manifest = some m from hSome] at hManifest
          cases hManifest
        · intro m _ hSome
          rw [show d.manifest = some m from hSome] at hManifest
          cases hManifest
      exact ⟨rfl, Durable.wp_ok hRun hCaughtUp⟩
  | some m =>
      right
      have hRun :=
        wp_catchUp_rule
          (I := fun s => Readable env s ∧ s.manifest ≠ none)
          (fun _ h => h.1) hOrdered
          (by
            intro s ev ops hHere _ _ _ _ hPlan
            have hOps :=
              writable_of_planned (planned_of_reduce hPlan).2
            constructor
            · intro j
              constructor
              · apply readable_applyOps hHere.1
                intro op hMem
                exact hOps op (List.mem_of_mem_take hMem)
              · exact manifest_ne_none_of_applyOps hHere.2
            · constructor
              · exact readable_advance
                  (readable_applyOps hHere.1 hOps)
              · have hThere : (applyOps ops s).manifest ≠ none :=
                  manifest_ne_none_of_applyOps hHere.2
                rcases Option.ne_none_iff_exists'.mp hThere with
                  ⟨m', hSome⟩
                rcases advance_manifest_some ev.seq hSome with
                  ⟨m'', hSome', _⟩
                simp [hSome'])
          ⟨hReadable, by simp [hManifest]⟩
      rcases Durable.wp_ok hRun hCaughtUp with
        ⟨⟨hReadable', hSome⟩, _⟩
      rcases Option.ne_none_iff_exists'.mp hSome with
        ⟨m', hManifest'⟩
      exact ⟨m, m', rfl, hReadable m hManifest, hManifest',
        hReadable' m' hManifest'⟩

/- What an accepted event leaves, the plan committed. -/
inductive Committed
    (env : RunEnv) (d : Disk) (ev : Event) : Disk → Prop where
| plan (ops : List ProjectionOp)
    (hPlan : reduceEventToOps env d ev = .ok ops) :
    Committed env d ev
      ((applyOps ops (d.log ev)).advance ev.seq)

/- The gate on a run that it catches up to a known state. -/
theorem wp_gate_caughtUp
    {s : Disk}
    (hReadable : Readable env (catchUp env d))
    (hTail : recoverLastSeq (catchUp env d).lines = .ok last)
    (hCatchUp :
      Durable.wp (replayUnappliedUnlocked env)
        (fun _ s => s = catchUp env d) (fun _ _ => False)
        (fun _ _ => True) s) :
    Durable.wp (appendAndApplyUnlocked env (r.request now))
      (fun _ => Committed env (catchUp env d)
        (r.eventAt env now last))
      (fun _ _ => ∃ e,
        reduceEventToOps env (catchUp env d)
          (r.eventAt env now last) = .error e)
      (fun _ _ => True) s := by
  have hHere : ∀ k, recoverLastSeq (catchUp env d).lines = .ok k →
      k = last := by
    intro k hLast
    rw [hTail, Except.ok.injEq] at hLast
    exact hLast.symm
  apply wp_appendAndApplyUnlocked
  apply wp_appendAndApplyReporting
    (R := fun s => s = catchUp env d)
  · exact Durable.wp_mono hCatchUp (fun _ _ h => h)
      (fun _ _ h => h.elim) (fun _ _ h => h)
  · intro s hState
    rw [hState]
    exact hReadable
  · intro s e hState hError
    rw [hState, hTail] at hError
    cases hError
  · intro s k e hState hLast hRefused
    subst hState
    rw [hHere k hLast] at hRefused
    exact ⟨e, hRefused⟩
  · intro s k ops hState hLast hPlan
    subst hState
    rw [hHere k hLast] at hPlan ⊢
    constructor
    · trivial
    · trivial
    · intro _ _
      trivial
    · intro _
      trivial
    · exact .plan ops hPlan

/- A fresh append on a run that can be caught up. -/
theorem wp_append
    (hOrdered : d.Ordered)
    (hKey : r.key ≠ some "")
    (hCaughtUp :
      (replayUnappliedUnlocked env).result d = .ok ())
    (hTail : recoverLastSeq d.lines = .ok last)
    (hFree : ∀ key, r.key = some key →
      findPriorWithKey r.kind key d.lines = .ok none) :
    Durable.wp (r.append env now)
      (fun outcome s => (∃ seq, outcome = .appended seq) ∧
        Committed env (catchUp env d) (r.eventAt env now last) s)
      (fun _ _ => ∃ e,
        reduceEventToOps env (catchUp env d)
          (r.eventAt env now last) = .error e)
      (fun _ _ => True) d := by
  rcases Durable.wp_ok (wp_catchUp_passable hOrdered) hCaughtUp
    with ⟨hLines, hSettled, hPassable⟩
  change (catchUp env d).lines = d.lines at hLines
  have hFirst :
      Durable.wp (replayUnappliedUnlocked env)
        (fun _ s => s = catchUp env d) (fun _ _ => False)
        (fun _ _ => True) d :=
    Durable.wp_mono (Durable.wp_returned hCaughtUp)
      (fun _ _ h => h.2) (fun _ _ h => h) (fun _ _ h => h)
  have hTail' : recoverLastSeq (catchUp env d).lines = .ok last := by
    rw [hLines]
    exact hTail
  unfold EventRequest.append
  cases hAsked : r.key with
  | none =>
      dsimp only
      rw [Durable.wp_bind]
      refine Durable.wp_mono
        (wp_gate_caughtUp hSettled.readable hTail' hFirst) ?_
        (fun _ _ h => h) (fun _ _ h => h)
      intro seq s hDone
      rw [Durable.wp_pure]
      exact ⟨⟨seq, rfl⟩, hDone⟩
  | some key =>
      dsimp only
      have hAgain :
          Durable.wp (replayUnappliedUnlocked env)
            (fun _ s => s = catchUp env d) (fun _ _ => False)
            (fun _ _ => True) (catchUp env d) :=
        wp_catchUp_passed hSettled hPassable hTail'
      apply wp_appendAndApplyIdempotent
        (R := fun s => s = catchUp env d)
      · intro hEmpty
        rw [hAsked, show key = "" from hEmpty] at hKey
        exact absurd rfl hKey
      · exact Durable.wp_mono hFirst (fun _ _ h => h)
          (fun _ _ h => h.elim) (fun _ _ h => h)
      · intro s e hState hFails
        subst hState
        cases hFails with
        | tail hLast =>
            rw [hTail'] at hLast
            cases hLast
        | build k _ hBuild => cases hBuild
        | scan hScan =>
            rw [hLines, hFree key hAsked] at hScan
            cases hScan
      · intro s k data prior hState _ _ hFound
        subst hState
        rw [hLines, hFree key hAsked] at hFound
        cases hFound
      · intro s k data hState _ hBuild _
        subst hState
        cases hBuild
        have hSame :
            KeyedRequest.request
                { now, kind := r.kind, nodeId := r.nodeId, key,
                  build := fun _ => .ok r.data } r.data =
              r.request now := by
          unfold KeyedRequest.request EventRequest.request
          rw [hAsked]
        rw [hSame]
        exact Durable.wp_mono
          (wp_gate_caughtUp hSettled.readable hTail' hAgain)
          (fun seq _ h => ⟨⟨seq, rfl⟩, h⟩) (fun _ _ h => h)
          (fun _ _ h => h)

end Append

------------------------------------------------------------
-- The Announced Paths
------------------------------------------------------------

/- No event comes before the number that a plan is made at. -/
theorem statusAcc_zero (lines : List LogLine) :
    Yields (statusAcc lines (some 0))
      (fun acc => acc = NodeStatusAcc.empty) := by
  unfold statusAcc forEachEventProbe
  generalize lines.zipIdx = entries
  induction entries with
  | nil => exact .pure rfl
  | cons entry rest ih =>
      rw [List.foldlM_cons]
      apply Yields.bind
      intro acc hStep
      have hSame : acc = NodeStatusAcc.empty := by
        split at hStep
        · exact (Except.ok.inj hStep).symm
        · simpa [foldStatusProbe, beforeBound, eq_comm] using hStep
        · cases hStep
      rw [hSame]
      exact ih

theorem recoveryEvidence_zero
    (lines : List LogLine) (wanted : Nat) :
    recoveryEvidence lines 0 wanted = false := by
  unfold recoveryEvidence
  rw [readNodeStatusFacts_eq]
  cases hAcc : statusAcc lines (some 0) with
  | error e => rfl
  | ok acc =>
      rw [statusAcc_zero lines acc hAcc]
      rfl

theorem not_recovers_synthetic
    (env : RunEnv) (planned : Time) (r : EventRequest)
    (d : Disk) : ¬ (r.syntheticEvent env planned).Recovers d := by
  intro hRecovers
  rcases hRecovers with ⟨_, m, _, _, hAllowed⟩
  simp only [recoveryAllowed, Bool.and_eq_true,
    Option.any_eq_true] at hAllowed
  rcases hAllowed.2 with ⟨wanted, _, hEvidence⟩
  rw [show (r.syntheticEvent env planned).seq = 0 from rfl,
    recoveryEvidence_zero] at hEvidence
  cases hEvidence

theorem routable_of_allowed :
    ∀ kind ∈ EventCreate.allowedKinds,
      kind ∈ EventCreate.forbiddenKinds ∨
        (EventKind.ofName kind).routable = true := by
  decide

/- What is admitted is routable, under a key that is text. -/
theorem validate_spec
    {args : EventCreateArgs} {r : EventRequest}
    (hAdmitted : args.validate = .ok r) :
    r.kind.routable = true ∧ r.key ≠ some "" := by
  simp only [EventCreateArgs.validate, bind_eq_ok, refuseIf_eq_ok,
    pure_eq, Except.ok.injEq] at hAdmitted
  rcases hAdmitted with
    ⟨_, hAllowed, key, hKey, _, hRoutes, _, _, id, _, _, _, data,
      _, _, _, _, _, rfl⟩
  constructor
  · rw [not_not, List.contains_iff_mem] at hAllowed
    rw [List.contains_iff_mem] at hRoutes
    rcases routable_of_allowed args.kind hAllowed with
      hForbidden | hRoutable
    · exact absurd hForbidden hRoutes
    · exact hRoutable
  · intro hEmpty
    dsimp only at hEmpty
    subst hEmpty
    cases hGiven : args.idempotencyKey with
    | none =>
        rw [hGiven] at hKey
        cases hKey
    | some value =>
        rw [hGiven, optionally] at hKey
        cases hRead :
            EventCreate.requireNonempty "idempotency-key" value
          with
        | error e =>
            rw [hRead] at hKey
            cases hKey
        | ok text =>
            rw [hRead] at hKey
            cases hKey
            simp only [EventCreate.requireNonempty, bind_eq_ok,
              refuseIf_eq_ok, pure_eq, Except.ok.injEq] at hRead
            rcases hRead with ⟨_, hText, hTrimmed⟩
            exact hText hTrimmed

/- The append finds what the plan was made on. -/
structure EventRequest.Foreseen
    (env : RunEnv)
    (now : Time)
    (r : EventRequest)
    (last : Nat)
    (d : Disk) : Prop where
  caughtUp : (replayUnappliedUnlocked env).result d = .ok ()
  tail : recoverLastSeq d.lines = .ok last
  free : ∀ key, r.key = some key →
    findPriorWithKey r.kind key d.lines = .ok none
  current : r.Current d (catchUp env d)
  plain : ¬ (r.eventAt env now last).Recovers (catchUp env d)
  moves :
    ¬ (r.eventAt env now last).LeavesManifest (catchUp env d)

section Exact

variable {env : RunEnv} {d : Disk} {r : EventRequest}
variable {now : Time} {last : Nat}

/- A commit moves what its plan would move in place. -/
theorem Committed.content_eq
    {ev : Event} {ops : List ProjectionOp} {s : Disk}
    (hCommitted : Committed env d ev s)
    (hPlan : reduceEventToOps env d ev = .ok ops)
    (f : StateFile) :
    s.content f = (applyOps ops d).content f := by
  cases hCommitted with
  | plan ops' hPlan' =>
      rw [hPlan, Except.ok.injEq] at hPlan'
      subst hPlan'
      rw [content_advance]
      apply content_applyOps_congr
      intro f'
      exact content_log ev d f'

theorem Committed.exists_plan
    {ev : Event} {s : Disk}
    (hCommitted : Committed env d ev s) :
    ∃ ops, reduceEventToOps env d ev = .ok ops := by
  cases hCommitted with
  | plan ops hPlan => exact ⟨ops, hPlan⟩

theorem manifestAlike_of_foreseen
    (planned : Time)
    (hOrdered : d.Ordered)
    (hForeseen : r.Foreseen env now last d) :
    ManifestAlike env (r.syntheticEvent env planned) d
      (catchUp env d) := by
  rcases manifest_of_caughtUp hOrdered hForeseen.caughtUp with
    hNone | ⟨m, m', hSome, hValid, hSome', hValid'⟩
  · exact .inl hNone
  · refine .inr ⟨m, m', hSome, hValid, hSome', hValid', ?_⟩
    intro hKind
    have hStatus := hForeseen.current.status hKind
    rw [hSome, hSome'] at hStatus
    exact Option.some.inj hStatus

/- The plan of the command and the plan of the append. -/
theorem plans_of_foreseen
    (planned : Time)
    (hRoutable : r.kind.routable = true)
    (hOrdered : d.Ordered)
    (hForeseen : r.Foreseen env now last d) :
    Together
      (fun ops ops' =>
        ops.map ProjectionOp.path = ops'.map ProjectionOp.path)
      (reduceEventToOps env d (r.syntheticEvent env planned))
      (reduceEventToOps env (catchUp env d)
        (r.eventAt env now last)) := by
  apply plan_together hRoutable
  · exact ⟨rfl, rfl, rfl, rfl⟩
  · exact manifestAlike_of_foreseen planned hOrdered hForeseen
  · exact hForeseen.current.node
  · exact not_recovers_synthetic env planned r d
  · exact hForeseen.plain

/- An append of a plan that is accepted is done. -/
theorem appended_of_plan
    {ops : List ProjectionOp}
    (hAppend :
      Durable.wp (r.append env now)
        (fun outcome s => (∃ seq, outcome = .appended seq) ∧
          Committed env (catchUp env d) (r.eventAt env now last) s)
        (fun _ _ => ∃ e,
          reduceEventToOps env (catchUp env d)
            (r.eventAt env now last) = .error e)
        (fun _ _ => True) d)
    (hPlan :
      reduceEventToOps env (catchUp env d)
        (r.eventAt env now last) = .ok ops) :
    ∃ seq,
      (r.append env now).result d = .ok (.appended seq) ∧
        Committed env (catchUp env d) (r.eventAt env now last)
          ((r.append env now).final d) := by
  cases hResult : (r.append env now).result d with
  | error e =>
      rcases Durable.wp_error hAppend hResult with ⟨e', hRefused⟩
      rw [hPlan] at hRefused
      cases hRefused
  | ok outcome =>
      rcases Durable.wp_ok hAppend hResult with
        ⟨⟨seq, hAppended⟩, hCommitted⟩
      exact ⟨seq, congrArg Except.ok hAppended, hCommitted⟩

/- A plan that the append refuses is refused before it. -/
theorem planExact_of_error
    {planned : Time} {e : Error}
    (hRefused :
      r.projectedPaths env planned d = .error e)
    (hRejected : r.Rejected env now d) :
    PlanExact env planned now r d where
  rejected := ⟨fun _ => hRejected, fun _ => ⟨e, hRefused⟩⟩
  changed := by
    intro paths hPaths
    rw [hRefused] at hPaths
    cases hPaths

/- The plan of a foreseen append is exact. -/
theorem planExact_of_foreseen
    {args : EventCreateArgs}
    (planned : Time)
    (hAdmitted : args.validate = .ok r)
    (hOrdered : d.Ordered)
    (hForeseen : r.Foreseen env now last d) :
    PlanExact env planned now r d := by
  rcases validate_spec hAdmitted with ⟨hRoutable, hKey⟩
  have hAppend :
      Durable.wp (r.append env now) _ _ _ d :=
    wp_append hOrdered hKey hForeseen.caughtUp hForeseen.tail
      hForeseen.free
  have hPlans :=
    plans_of_foreseen planned hRoutable hOrdered hForeseen
  cases hPlan :
      reduceEventToOps env d (r.syntheticEvent env planned) with
  | error e =>
      apply planExact_of_error (e := e)
      · simp [EventRequest.projectedPaths, planProjections, hPlan]
      · intro outcome hDone
        rcases (Durable.wp_ok hAppend hDone).2.exists_plan with
          ⟨ops', hPlan'⟩
        rcases hPlans.error_iff.mp ⟨e, hPlan⟩ with ⟨e', hError⟩
        rw [hPlan'] at hError
        cases hError
  | ok ops =>
      have hPaths :
          r.projectedPaths env planned d =
            .ok (ops.map ProjectionOp.path) := by
        simp [EventRequest.projectedPaths, planProjections, hPlan]
      rw [hPlan] at hPlans
      rcases hPlans.exists_ok with ⟨ops', hPlan', hSame⟩
      rcases appended_of_plan hAppend hPlan' with
        ⟨seq, hDone, hCommitted⟩
      constructor
      · constructor
        · intro hRefused
          rcases hRefused with ⟨e, hRefused⟩
          rw [hPaths] at hRefused
          cases hRefused
        · intro hRejected
          rcases hRejected _ hDone with ⟨prior, hConflict⟩
          cases hConflict
      · intro paths hAnnounced f
        rw [hPaths, Except.ok.injEq] at hAnnounced
        subst hAnnounced
        rw [hCommitted.content_eq hPlan' f, hSame]
        exact plan_changes hRoutable hPlan' hForeseen.moves f

/-
  An admitted event is announced exactly: the plan fails when
  the append is rejected, and its paths are the ones that the
  append leaves with other content.
-/
theorem plan_exact
    (env : RunEnv)
    (args : EventCreateArgs)
    (r : EventRequest)
    (planned now : Time)
    (last : Nat)
    (d : Disk)
    (hAdmitted : args.validate = .ok r)
    (hOrdered : d.Ordered)
    (hForeseen : r.Foreseen env now last d) :
    PlanExact env planned now r d :=
  planExact_of_foreseen planned hAdmitted hOrdered hForeseen

end Exact

section Command

variable {env : RunEnv} {args : EventCreateArgs}
variable {r : EventRequest} {d : Disk}
variable {planned now : Time} {paths : List StateFile}

/- A dry run announces the plan and leaves the run alone. -/
theorem wp_run_dry
    (hAdmitted : args.validate = .ok r)
    (hPaths : r.projectedPaths env planned d = .ok paths)
    (hDry : args.dryRun = true) :
    Durable.wp (args.run env planned now)
      (fun answer s => s = d ∧
        ∃ payload, answer = .ok payload ∧
          payload.projections = paths.map StateFile.relative)
      (fun _ _ => False) (fun _ _ => False) d := by
  unfold EventCreateArgs.run
  rw [hAdmitted]
  dsimp only
  rw [Durable.wp_bind, Durable.wp_read, hPaths]
  dsimp only
  rw [if_pos hDry, Durable.wp_pure]
  exact ⟨rfl, _, rfl, rfl⟩

/- A plan that fails is the answer, before any write. -/
theorem wp_run_refused
    {e : Error}
    (hAdmitted : args.validate = .ok r)
    (hRefused : r.projectedPaths env planned d = .error e) :
    Durable.wp (args.run env planned now)
      (fun answer s => s = d ∧ answer = .error (.core e))
      (fun _ _ => False) (fun _ _ => False) d := by
  unfold EventCreateArgs.run
  rw [hAdmitted]
  dsimp only
  rw [Durable.wp_bind, Durable.wp_read, hRefused]
  exact (Durable.wp_pure _).mpr ⟨rfl, rfl⟩

/- The command leaves what its append leaves. -/
theorem wp_run_append
    {I : Disk → Prop}
    {E : Error → Disk → Prop}
    {C : Boundary → Disk → Prop}
    (hAdmitted : args.validate = .ok r)
    (hPaths : r.projectedPaths env planned d = .ok paths)
    (hWrites : args.dryRun = false)
    (hAppend :
      Durable.wp (r.append env now) (fun _ => I) E C d) :
    Durable.wp (args.run env planned now) (fun _ => I) E C d := by
  unfold EventCreateArgs.run
  rw [hAdmitted]
  dsimp only
  rw [Durable.wp_bind, Durable.wp_read, hPaths]
  dsimp only
  rw [if_neg (by simp [hWrites]), Durable.wp_bind]
  refine Durable.wp_mono hAppend ?_ (fun _ _ h => h)
    (fun _ _ h => h)
  intro outcome s hDone
  cases outcome <;> exact (Durable.wp_pure _).mpr hDone

/-
  The command on a foreseen run: where its plan fails it
  leaves the run alone, a dry run too and answers with the
  plan, and otherwise the files announced are those that the
  command changes.
-/
theorem command_exact
    {last : Nat}
    (hAdmitted : args.validate = .ok r)
    (hOrdered : d.Ordered)
    (hForeseen : r.Foreseen env now last d) :
    (∀ e, r.projectedPaths env planned d = .error e →
        (args.run env planned now).final d = d) ∧
      (∀ paths, r.projectedPaths env planned d = .ok paths →
        if args.dryRun = true then
          (args.run env planned now).final d = d ∧
            ∃ payload,
              (args.run env planned now).result d =
                .ok (.ok payload) ∧
              payload.projections =
                paths.map StateFile.relative
        else
          ∀ f, f ∈ paths ↔
            ((args.run env planned now).final d).content f ≠
              (catchUp env d).content f) := by
  have hExact :=
    planExact_of_foreseen planned hAdmitted hOrdered hForeseen
  constructor
  · intro e hRefused
    apply Durable.wp_final (I := (· = d))
    exact Durable.wp_mono (wp_run_refused hAdmitted hRefused)
      (fun _ _ h => h.1) (fun _ _ h => h.elim) (fun _ _ h => h)
  intro paths hPaths
  split
  next hDry =>
    have hRun : Durable.wp (args.run env planned now) _ _ _ d :=
      wp_run_dry hAdmitted hPaths hDry
    cases hResult : (args.run env planned now).result d with
    | error e => exact (Durable.wp_error hRun hResult).elim
    | ok answer =>
        rcases Durable.wp_ok hRun hResult with
          ⟨hSame, payload, hAnswer, hShown⟩
        exact ⟨hSame, payload, congrArg Except.ok hAnswer,
          hShown⟩
  next hWrites =>
    have hAppend :
        Durable.wp (r.append env now)
          (fun _ s => s = (r.append env now).final d)
          (fun _ s => s = (r.append env now).final d)
          (fun _ _ => True) d :=
      Durable.wp_mono (Durable.wp_ended (Durable.wp_trivial _ d))
        (fun _ _ h => h.1) (fun _ _ h => h.1)
        (fun _ _ _ => trivial)
    have hSame :
        (args.run env planned now).final d =
          (r.append env now).final d :=
      Durable.wp_final (I := (· = (r.append env now).final d))
        (wp_run_append hAdmitted hPaths
          (Bool.eq_false_iff.mpr hWrites) hAppend)
    rw [hSame]
    exact hExact.changed paths hPaths

end Command

namespace Sample

/- The node is said to be running. -/
def startedData : Json := .obj [("status", .str "running")]

def statusArgs : EventCreateArgs where
  kind := "node.status"
  nodeId := some "n-0001"
  fromFilePath := "status.json"
  fromFile := .ok startedData
  idempotencyKey := none
  dryRun := false

def statusRequest : EventRequest where
  kind := .nodeStatus
  nodeId := some .first
  key := none
  data := startedData

def pendingRun : Disk := after [createRun, createNode]

/- A status that is logged and no more. -/
def strandedStatus : Disk :=
  ((Call.append
    (request .nodeStatus (some .first) startedData)).run
      env).cutAt 1 pendingRun

theorem validate_status :
    statusArgs.validate = .ok statusRequest := by
  rfl

end Sample

/- A node is said to run: one file, announced and changed. -/
theorem status_plan_exact :
    Sample.statusRequest.projectedPaths Sample.env 0
        Sample.pendingRun = .ok [.node .first] ∧
      PlanExact Sample.env 0 1 Sample.statusRequest
        Sample.pendingRun := by
  have hOrdered : Sample.pendingRun.Ordered :=
    ordered_of_crashRun (Sample.crashFreeRun_after _).crashRun
  constructor
  · decide +kernel
  · apply plan_exact Sample.env Sample.statusArgs
      Sample.statusRequest 0 1 2 Sample.pendingRun
      Sample.validate_status hOrdered
    constructor
    · decide +kernel
    · decide +kernel
    · intro key hKey
      cases hKey
    · constructor
      · intro hKind
        cases hKind
      · intro id hNode
        cases hNode
        rfl
    · intro hRecovers
      cases hRecovers.1
    · intro hLeaves
      cases hLeaves.1

/-
  A status that a crash kept from the projection is planned
  again, and the append finds it there.
-/
theorem not_plan_exact :
    ¬ ∀ (env : RunEnv) (args : EventCreateArgs)
        (r : EventRequest) (planned now : Time) (d : Disk),
      CrashRun env d → args.validate = .ok r →
        PlanExact env planned now r d := by
  intro hAlways
  have hRun : CrashRun Sample.env Sample.strandedStatus :=
    Durable.Reach.cutAt _ 1 (fun _ => true)
      (fun _ _ => trivial)
      (Sample.crashFreeRun_after _).crashRun (by decide +kernel)
  have hExact :=
    hAlways Sample.env Sample.statusArgs Sample.statusRequest 0 0
      Sample.strandedStatus hRun Sample.validate_status
  have hAnnounced :
      Sample.statusRequest.projectedPaths Sample.env 0
        Sample.strandedStatus = .ok [.node .first] := by
    decide +kernel
  apply (hExact.changed _ hAnnounced (.node .first)).mp
    (List.mem_singleton.mpr rfl)
  rfl

end Taskfleet
