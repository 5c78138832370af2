import Taskfleet.Events

/-
  Cancellation under one held lock.

  One pass over the log gives the status of every node and
  the cancel events this run has logged. A node that is live
  in the log gets a keyed report; a cancel event that is in
  the log already is folded again instead of appended.

  Main declarations:
    * `nodeCancelKey`, `runStatusCancelKey`
    * `CancelLedger`, `readCancelLedger`
    * `cancelRunUnlocked`, `cancelNodeUnlocked`
-/

------------------------------------------------------------
-- Keys
------------------------------------------------------------

namespace Taskfleet

open Fallible

/- What the keys of this run's cancel events start with. -/
def cancelKeySpace (env : RunEnv) : String :=
  "run-cancel:" ++ env.runId.val ++ ":"

def nodeCancelKey (env : RunEnv) (id : NodeId) : String :=
  "run-cancel:" ++ env.runId.val ++ ":node:" ++ id.val

def runStatusCancelKey (env : RunEnv) : String :=
  "run-cancel:" ++ env.runId.val ++ ":run-status"

def inCancelKeySpace (env : RunEnv) (key : String) : Bool :=
  (cancelKeySpace env).toList.isPrefixOf key.toList

------------------------------------------------------------
-- Ledger
------------------------------------------------------------

/-
  The node statuses of the log and the first event of each
  kind and key among this run's cancel events.
-/
structure CancelLedger where
  nodeStatus : List (NodeId × Status)
  priorCancel : List ((EventKind × String) × Event)

namespace CancelLedger

def prior
    (ledger : CancelLedger)
    (kind : EventKind)
    (key : String) : Option Event :=
  ledger.priorCancel.lookup (kind, key)

end CancelLedger

/- The ledger while the log is being read. -/
structure LedgerAcc where
  acc : NodeStatusAcc
  priorCancel : List ((EventKind × String) × Event)

namespace LedgerAcc

def empty : LedgerAcc where
  acc := NodeStatusAcc.empty
  priorCancel := []

/- The first event of a kind and key is kept. -/
def capture
    (ledger : LedgerAcc)
    (kind : EventKind)
    (key : String)
    (ev : Event) : List ((EventKind × String) × Event) :=
  match ledger.priorCancel.lookup (kind, key) with
  | some _ => ledger.priorCancel
  | none => ledger.priorCancel ++ [((kind, key), ev)]

def visit
    (env : RunEnv)
    (ledger : LedgerAcc)
    (probe : CancelProbe)
    (ev : Event) : Except Error LedgerAcc :=
  .ok {
    acc := ledger.acc.observe probe
    priorCancel :=
      match
        probe.idempotencyKey.filter (inCancelKeySpace env) with
      | some key => ledger.capture probe.kind key ev
      | none => ledger.priorCancel }

end LedgerAcc

def readCancelLedger
    (env : RunEnv) (lines : List LogLine) :
    Except Error CancelLedger := do
  let ledger ←
    forEachEventProbe CancelProbe.decode
      (LedgerAcc.visit env) LedgerAcc.empty lines
  return {
    nodeStatus := ledger.acc.finish
    priorCancel := ledger.priorCancel }

------------------------------------------------------------
-- Settling One Node
------------------------------------------------------------

/- A note that is not blank, trimmed. -/
def givenNote (note : Option String) : Option String :=
  (note.map Text.trim).filter (fun s => s ≠ "")

def normalizeCancelReason (note : Option String) : String :=
  (givenNote note).getD "cancelled by user"

/- The report a cancellation writes for a live node. -/
def cancelReport (reason summary : String) : Json :=
  .obj
    [("cancelled", .bool true),
      ("discussion_items", .arr []),
      ("reason", .str reason),
      ("spinoff_proposals", .arr []),
      ("success", .bool false),
      ("summary", .str summary),
      ("wrap_up_recommendations", .arr [])]

/-
  Settle one node of the ledger: fold its logged cancel event
  again while its projection is live, pass over a node that
  the log has settled, else append a cancel report. Tells
  whether the node was live.
-/
def settleNode
    (env : RunEnv)
    (now : Time)
    (reason summary : String)
    (ledger : CancelLedger)
    (id : NodeId)
    (logStatus : Status) : Locked Bool := do
  match ledger.prior .nodeReport (nodeCancelKey env id) with
  | some prior => do
      let d ← Durable.read
      let n ← Durable.lift (readNodeOpt env d id)
      if n.any (fun n => n.status.isTerminal) then
        return false
      else do
        applyEvent env prior
        return true
  | none =>
      if logStatus.isTerminal then return false
      else do
        let _ ← appendAndApplyUnlocked env {
          now := now
          kind := .nodeReport
          nodeId := some id
          key := some (nodeCancelKey env id)
          data := cancelReport reason summary }
        return true

/-
  Close the run by its cancel key: fold a logged close again,
  else append one.
-/
def closeRun
    (env : RunEnv)
    (now : Time)
    (ledger : CancelLedger)
    (data : Json) : Locked Unit := do
  match ledger.prior .runStatus (runStatusCancelKey env) with
  | some prior => applyEvent env prior
  | none => do
      let _ ← appendAndApplyUnlocked env {
        now := now
        kind := .runStatus
        nodeId := none
        key := some (runStatusCancelKey env)
        data := data }
      pure ()

------------------------------------------------------------
-- Cancelling a Run
------------------------------------------------------------

structure CancelOutcome where
  runWasAlreadyCancelled : Bool
  nodesCancelled : List NodeId
  nodesAlreadyTerminal : List NodeId
deriving DecidableEq, Repr

/- The times at which the events of a call are stamped. -/
structure CancelClock where
  node : NodeId → Time
  run : Time

/- The nodes of the ledger in turn, split by the outcome. -/
def settleNodes
    (env : RunEnv)
    (clock : CancelClock)
    (reason : String)
    (ledger : CancelLedger) :
    List (NodeId × Status) →
      Locked (List NodeId × List NodeId)
| [] => pure ([], [])
| (id, logStatus) :: rest => do
    let live ←
      settleNode env (clock.node id) reason
        "Run cancelled before agent reported." ledger id
        logStatus
    let (cancelled, terminal) ←
      settleNodes env clock reason ledger rest
    if live then return (id :: cancelled, terminal)
    else return (cancelled, id :: terminal)

/- The close of a cancelled run, with a note if one is given. -/
def cancelStatus (note : Option String) : Json :=
  .obj
    (((givenNote note).map
        (fun s => ("note", Json.str s))).toList ++
      [("status", .str "cancelled")])

/-
  A run that is done or failed is refused, a cancelled one is
  only brought to an end.
-/
def cancelRunUnlocked
    (env : RunEnv)
    (clock : CancelClock)
    (note : Option String) : Locked CancelOutcome := do
  let d ← Durable.read
  let m ← Durable.lift (readManifest env d)
  if m.status.isTerminal ∧ m.status ≠ .cancelled then
    Durable.fail (.runAlreadyTerminal m.status)
  else do
    let ledger ← Durable.lift (readCancelLedger env d.lines)
    let (cancelled, terminal) ←
      settleNodes env clock (normalizeCancelReason note) ledger
        ledger.nodeStatus
    if m.status = .cancelled then pure ()
    else closeRun env clock.run ledger (cancelStatus note)
    return {
      runWasAlreadyCancelled := m.status == .cancelled
      nodesCancelled := cancelled
      nodesAlreadyTerminal := terminal }

------------------------------------------------------------
-- Cancelling a Node
------------------------------------------------------------

structure NodeCancelOutcome where
  nodeId : NodeId
  cancelled : Bool
  alreadyTerminal : Bool
  rolledUp : Option Status
deriving DecidableEq, Repr

/-
  Roll the run up once no node of the ledger is live, with
  the status the target has by now.
-/
def maybeRollUpRun
    (env : RunEnv)
    (now : Time)
    (runStatusOnEntry : Status)
    (ledger : CancelLedger)
    (target : NodeId)
    (targetCancelled : Bool)
    (targetLogStatus : Status) :
    Locked (Option Status) := do
  if runStatusOnEntry.isTerminal then return none
  else
    let effectiveTarget :=
      if targetCancelled then .cancelled else targetLogStatus
    let statuses :=
      ledger.nodeStatus.map (fun entry =>
        if entry.1 = target then effectiveTarget else entry.2)
    match aggregateTerminalStatus statuses with
    | none => return none
    | some agg => do
        closeRun env now ledger
          (.obj [("status", .str agg.name)])
        return some agg

def cancelNodeUnlocked
    (env : RunEnv)
    (clock : CancelClock)
    (id : NodeId)
    (note : Option String) : Locked NodeCancelOutcome := do
  let d ← Durable.read
  let m ← Durable.lift (readManifest env d)
  if m.status.isTerminal ∧ m.status ≠ .cancelled then
    Durable.fail (.runAlreadyTerminal m.status)
  else do
    let ledger ← Durable.lift (readCancelLedger env d.lines)
    match ledger.nodeStatus.lookup id with
    | none => Durable.fail (.nodeNotFound id)
    | some logStatus => do
        let cancelled ←
          settleNode env (clock.node id)
            (normalizeCancelReason note)
            "Node cancelled before agent reported." ledger id
            logStatus
        let rolledUp ←
          maybeRollUpRun env clock.run m.status ledger id
            cancelled logStatus
        return {
          nodeId := id
          cancelled
          alreadyTerminal := !cancelled
          rolledUp }

end Taskfleet
