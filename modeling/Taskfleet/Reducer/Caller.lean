import Taskfleet.Reducer.Worker

/-
  The reducer arms of caller-owned runs and of the merge
  transaction record.

  Main declarations:
    * `callerPiSessionBoundArm`, `callerPiLifecycleArm`
    * `CallerPiLifecycle.follows`
    * `mergeStartedArm`, `mergeAbortedArm`
-/

------------------------------------------------------------
-- Session Binding
------------------------------------------------------------

namespace Taskfleet

open Fallible

/- An error of a caller-owned arm, under the arm's kind. -/
def Event.bad (ev : Event) (reason : String) : Error :=
  ev.corruptAt s!"{ev.kind.name}: {reason}"

/- The manifest of a run that must exist. -/
def requireManifest
    (env : RunEnv)
    (d : Disk)
    (missing : Error) : Except Error Manifest := do
  orError missing (← readManifestOpt env d)

/- The manifest of a run that must be caller-owned. -/
def requireCallerRun
    (env : RunEnv)
    (d : Disk)
    (ev : Event) : Except Error Manifest := do
  let m ← requireManifest env d (ev.bad "missing run")
  refuseIf (m.agentOwner ≠ .caller)
    (ev.bad "not a caller-owned run")
  return m

/- A binding against the launch reservation it completes. -/
def CallerPiLifecycle.admits
    (reserved : CallerPiLifecycle)
    (binding : CallerPiSession) : Bool :=
  reserved.piSessionId = binding.piSessionId ∧
    some reserved.generation = binding.generation ∧
    reserved.sessionPath.all (fun p =>
      p = binding.sessionPath) ∧
    (reserved.state = .reserved ∨ reserved.state = .started)

/- A binding is recorded once and never changes. -/
def callerPiSessionBoundStep (ev : Event) : NodeStep :=
  fun n => do
    let binding ←
      orError (ev.bad "invalid binding")
        ev.data.asCallerPiSession
    refuseIf
      (binding.originalCwd ≠ n.worktreePath.getD "" ∨
        binding.originalCwd.isEmpty ∨
        binding.piSessionId.isEmpty ∨
        binding.sessionPath.isEmpty)
      (ev.bad "binding identity does not match node")
    match n.callerPiSession with
    | some existing =>
        if existing = binding then return none
        else
          throw (ev.bad
            "binding already exists with different identity")
    | none => do
        refuseIf
          (n.callerPiLifecycle.any (fun reserved =>
            !reserved.admits binding))
          (ev.bad
            "binding does not match the current launch reservation")
        refuseIf
          (binding.generation.isSome ∧
            n.callerPiLifecycle.isNone)
          (ev.bad "binding generation has no reservation")
        return some { n with
          callerPiLifecycle :=
            n.callerPiLifecycle.map (fun current =>
              { current with
                sessionPath := some binding.sessionPath })
          callerPiSession := some binding
          updatedAt := ev.ts }

def callerPiSessionBoundArm
    (env : RunEnv) (d : Disk) (ev : Event) :
    Except Error NodeStep := do
  let _ ← requireCallerRun env d ev
  return callerPiSessionBoundStep ev

------------------------------------------------------------
-- Session Lifecycle
------------------------------------------------------------

namespace CallerPiLifecycle

/- The fact agrees with the bound session, if there is one. -/
def matchesBinding
    (fact : CallerPiLifecycle)
    (binding : Option CallerPiSession) : Bool :=
  binding.all (fun b =>
    fact.piSessionId = b.piSessionId ∧
      fact.sessionPath = some b.sessionPath)

/-
  The shape of a fact on a node: its generation, session
  identity and reason.
-/
def wellFormed
    (fact : CallerPiLifecycle)
    (binding : Option CallerPiSession)
    (old : Option CallerPiLifecycle) : Bool :=
  fact.generation ≠ 0 ∧
    fact.matchesBinding binding ∧
    ¬ (fact.state = .reserved ∧ fact.sessionPath.isSome) ∧
    ¬ (fact.state = .started ∧ fact.sessionPath.isNone) ∧
    ¬ (binding.isNone ∧ fact.state ≠ .reserved ∧
        ¬ old.any (fun o => o.state = .reserved)) ∧
    fact.reason.all (fun r =>
      ¬ Text.isBlank r ∧ r.utf8ByteSize ≤ 1024) ∧
    ((fact.state = .started ∨ fact.state = .reserved) ↔
      fact.reason = none)

/- The transitions from the fact a node already has. -/
def follows
    (fact : CallerPiLifecycle)
    (bound : Bool) : Option CallerPiLifecycle → Bool
| none =>
    fact.generation = 1 ∧
      ((fact.state = .started ∧ bound) ∨
        (fact.state = .reserved ∧ ¬ bound))
| some old =>
    (old.generation = fact.generation ∧
      old.state = .started ∧
      (fact.state = .exited ∨
        fact.state = .controlUncertain)) ∨
    (old.generation = fact.generation ∧
      old.state = .reserved ∧
      old.piSessionId = fact.piSessionId ∧
      (old.sessionPath = fact.sessionPath ∨
        (old.sessionPath = none ∧ fact.state = .started ∧
          bound)) ∧
      (fact.state = .launchFailed ∨
        fact.state = .controlUncertain ∨
        (fact.state = .started ∧ bound))) ∨
    (old.generation + 1 = fact.generation ∧
      old.generation + 1 < 2 ^ 64 ∧
      (old.state = .exited ∨ old.state = .launchFailed) ∧
      fact.state = .started)

end CallerPiLifecycle

def callerPiLifecycleStep (ev : Event) (m : Manifest) :
    NodeStep :=
  fun n => do
    let fact ←
      orError (ev.bad "invalid lifecycle fact")
        ev.data.asCallerPiLifecycle
    refuseIf
      (¬ fact.wellFormed n.callerPiSession
        n.callerPiLifecycle)
      (ev.bad
        "invalid generation, session identity or reason")
    if n.callerPiLifecycle = some fact then return none
    else do
      refuseIf m.status.isTerminal
        (ev.bad
          "terminal run cannot accept a new Pi transition")
      refuseIf
        (¬ fact.follows n.callerPiSession.isSome
          n.callerPiLifecycle)
        (ev.bad "stale or conflicting generation/transition")
      return some { n with
        callerPiLifecycle := some fact
        updatedAt := ev.ts }

def callerPiLifecycleArm
    (env : RunEnv) (d : Disk) (ev : Event) :
    Except Error NodeStep := do
  let m ← requireCallerRun env d ev
  return callerPiLifecycleStep ev m

------------------------------------------------------------
-- Merge Transactions
------------------------------------------------------------

/- A transaction against the settlement intent of its run. -/
def MergeTxn.authorizedBy
    (txn : MergeTxn)
    (m : Manifest)
    (ev : Event)
    (id : NodeId)
    (intent : CallerSettlementIntent)
    (link : CallerMergeLink) : Bool :=
  intent.operation = .merge ∧
    intent.runId = ev.runId ∧
    intent.nodeId = id ∧
    link.intentSeq = intent.seq ∧
    link.intentKey = intent.key ∧
    link.writerDev = intent.writerDev ∧
    link.writerIno = intent.writerIno ∧
    txn.sourceBranch = m.sourceBranch.getD ""

def Event.badLink (ev : Event) : Error :=
  ev.corruptAt
    "merge.started caller authority does not match intent"

def checkMergeAuthority
    (m : Manifest)
    (ev : Event)
    (id : NodeId)
    (txn : MergeTxn) : Except Error Unit :=
  match m.agentOwner with
  | .caller => do
      let intent ←
        orError ev.badLink m.callerSettlementIntent
      let link ← orError ev.badLink txn.callerAuthority
      refuseIf (¬ txn.authorizedBy m ev id intent link)
        ev.badLink
  | .taskfleet =>
      refuseIf txn.callerAuthority.isSome ev.badLink

/- The generation of the session a node last saw. -/
def Node.piGeneration (n : Node) : Nat :=
  (n.callerPiLifecycle.map
    CallerPiLifecycle.generation).getD 0

/- A failed sole node that the caller settles by a merge. -/
def recoverableMerge
    (m : Manifest)
    (id : NodeId)
    (n : Node) : Bool :=
  m.agentOwner = .caller ∧ n.status = .failed ∧
    m.status = .failed ∧ m.nodeCount = 1 ∧
    m.callerSettlementIntent.any (fun i =>
      i.operation = .merge ∧ i.nodeId = id)

/- Refolding the same transaction changes nothing. -/
def mergeStartedStep
    (ev : Event)
    (m : Manifest)
    (id : NodeId)
    (txn : MergeTxn) : NodeStep :=
  fun n => do
    refuseIf
      (m.agentOwner = .caller ∧
        (n.branch ≠ some txn.workerBranch ∨
          some n.piGeneration ≠
            m.callerSettlementIntent.map
              CallerSettlementIntent.generation))
      ev.badLink
    if n.status.isTerminal ∧ ¬ recoverableMerge m id n then
      return none
    else if n.pendingMerge.map MergeTxn.opId =
        some txn.opId then
      return none
    else
      return some { n with
        pendingMerge := some txn
        updatedAt := ev.ts }

def mergeStartedArm
    (env : RunEnv) (d : Disk) (ev : Event) (id : NodeId) :
    Except Error NodeStep := do
  let txn ←
    orError
      (ev.corruptAt
        "kind=merge.started has an invalid MergeTxn payload")
      (ev.data.asMergeTxn env)
  let m ←
    requireManifest env d
      (corruptLog "merge.started without a run")
  checkMergeAuthority m ev id txn
  return mergeStartedStep ev m id txn

/- Only the transaction an abort names is cleared. -/
def mergeAbortedArm (ev : Event) : Except Error NodeStep := do
  let opId ←
    orError
      (ev.corruptAt
        "kind=merge.aborted is missing string `op_id`")
      (ev.data.getStr "op_id")
  return fun n =>
    if n.pendingMerge.map MergeTxn.opId = some opId then
      .ok (some { n with
        pendingMerge := none
        updatedAt := ev.ts })
    else .ok none

end Taskfleet
