import Taskfleet.Events

/-
  The critical sections of the supervisor that close a run:
  the roll-up of a run whose nodes and children are settled,
  and the guard against a run without a worker.

  What the supervisor knows of other runs is a parameter:
  which children it has consumed, and what the manifests of
  the child runs say.

  Main declarations:
    * `childCompletionEvidence`, `rollupDecision`
    * `rollUp`, `noWorkerGuard`
-/

------------------------------------------------------------
-- Children
------------------------------------------------------------

namespace Taskfleet

open Fallible

/-
  The supervisor's view outside the run directory: the order
  in which it lists the node files, its cursors on child
  runs with their terminal flags, the status in each child's
  manifest, and whether it has spawned children itself.
-/
structure SupervisorView where
  nodeFiles : Disk → List NodeId
  childTails : List (RunId × Bool)
  childStatus : RunId → Option Status
  spawnedChildren : List RunId

/- The child runs linked from the node projections. -/
def discoverChildrenUnlocked
    (env : RunEnv) (d : Disk) (files : List NodeId) :
    Except Error (List RunId) :=
  files.foldlM
    (fun linked id => do
      match ← readNodeOpt env d id with
      | none => return linked
      | some n => return linked ++ n.children.map ChildRef.runId)
    []

/-
  Whether every linked child is consumed and terminal, and
  whether every one is done.
-/
def childCompletionEvidence
    (linked : List RunId)
    (childTails : List (RunId × Bool))
    (childStatuses : Option (List Status)) : Bool × Bool :=
  let linkedConsumed :=
    linked.all (fun child =>
      (childTails.lookup child).getD false)
  let allTerminal :=
    childStatuses.any (fun statuses =>
      statuses.all Status.isTerminal &&
        childTails.all (fun tail => tail.2) && linkedConsumed)
  let allSuccessful :=
    childStatuses.any (fun statuses =>
      statuses.all (fun s => s == .done))
  (allTerminal, allSuccessful)

------------------------------------------------------------
-- Roll-Up
------------------------------------------------------------

structure RollupDecision where
  status : Status
  recoveryMergeSeq : Option Nat
deriving DecidableEq, Repr

/-
  The roll-up of the log's node statuses, or the recovery of
  a failed run by its latest adopted merge.
-/
def rollupDecision
    (env : RunEnv)
    (d : Disk)
    (childrenAllTerminal childrenAllSuccessful : Bool) :
    Option RollupDecision := do
  let m ← (readManifestOpt env d).toOption.join
  if m.status = .done ∨ m.status = .cancelled then none
  else if !childrenAllTerminal then none
  else
    let facts ← (readNodeStatusFacts d.lines none).toOption
    let status ←
      aggregateTerminalStatus
        (facts.map NodeStatusFact.status)
    if m.status = .failed then
      if status ≠ .done ∨ !childrenAllSuccessful then none
      else
        let seq ←
          (facts.filterMap
            NodeStatusFact.confirmedMergeSeq).max?
        return ⟨.done, some seq⟩
    else return ⟨status, none⟩

/- The status word of a decision; failed where unexpected. -/
def RollupDecision.statusStr (decision : RollupDecision) :
    String :=
  match decision.status with
  | .done => "done"
  | .cancelled => "cancelled"
  | _ => "failed"

def RollupDecision.request
    (env : RunEnv) (now : Time) (decision : RollupDecision) :
    Request :=
  match decision.recoveryMergeSeq with
  | some seq => {
      now := now
      kind := .runStatus
      nodeId := none
      key := some
        ("supervisor-recovery-rollup:" ++ env.runId.val ++
          ":merge-report:" ++ toString seq)
      data := .obj
        [("children_successful", .bool true),
          ("recovery_merge_report_seq", .int seq),
          ("status", .str decision.statusStr)] }
  | none => {
      now := now
      kind := .runStatus
      nodeId := none
      key := some
        ("supervisor-rollup:" ++ env.runId.val ++
          ":run-status")
      data := .obj [("status", .str decision.statusStr)] }

/- One roll-up, under the lock and after a catch-up. -/
def rollUp
    (env : RunEnv) (now : Time) (view : SupervisorView) :
    Locked (Option String) := do
  replayUnappliedUnlocked env
  let d ← Durable.read
  let linked ←
    Durable.lift
      (discoverChildrenUnlocked env d (view.nodeFiles d))
  let evidence :=
    childCompletionEvidence linked view.childTails
      (linked.mapM view.childStatus)
  match rollupDecision env d evidence.1 evidence.2 with
  | none => return none
  | some decision => do
      let _ ←
        appendAndApplyUnlocked env (decision.request env now)
      return some decision.statusStr

------------------------------------------------------------
-- No Worker
------------------------------------------------------------

def noWorkerReason : String := "no-worker-node"

def noWorkerRequest (env : RunEnv) (now : Time) : Request where
  now := now
  kind := .runStatus
  nodeId := none
  key := some
    ("supervisor-no-worker:" ++ env.runId.val ++ ":run-status")
  data := .obj
    [("reason", .str noWorkerReason),
      ("status", .str "failed")]

/- A live run without nodes, children or cursors. -/
def stillNoWorker
    (env : RunEnv) (d : Disk) (view : SupervisorView) : Bool :=
  (readManifestOpt env d).toOption.join.any (fun m =>
    !m.status.isTerminal && m.nodeCount == 0 &&
      view.childTails.isEmpty && view.spawnedChildren.isEmpty)

/-
  The re-check under the lock and the close that follows it.
  The counter is read as it stands on disk.
-/
def noWorkerGuard
    (env : RunEnv) (now : Time) (view : SupervisorView) :
    Locked Bool := do
  let d ← Durable.read
  if stillNoWorker env d view then do
    let _ ← appendAndApplyUnlocked env (noWorkerRequest env now)
    return true
  else return false

end Taskfleet
