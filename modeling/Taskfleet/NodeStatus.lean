import Mathlib.Data.List.Sort
import Mathlib.Logic.Function.Basic
import Taskfleet.Disk
import Taskfleet.Report

/-
  Node statuses replayed from the event log.

  A probe skims the envelope and five small payload fields
  of a line; the accumulator folds the probes of a log into
  a status for each created node and the sequence number of
  the merge report it adopted.

  Main declarations:
    * `CancelProbeData`, `CancelProbe`
    * `NodeStatusAcc.observe`, `NodeStatusAcc.finishFacts`
    * `readNodeStatusFacts`
-/

------------------------------------------------------------
-- Probes
------------------------------------------------------------

namespace Taskfleet

/-
  The status-bearing payload fields, kept as raw values. A
  null origin is still a present one.
-/
structure CancelProbeData where
  status : Option Json
  success : Option Json
  cancelled : Option Json
  via : Option Json
  origin : Option Json
deriving DecidableEq, Repr

namespace CancelProbeData

/- Null and a missing field are both absence. -/
def decode (data : Json) : Option CancelProbeData := do
  let f ← data.fields 5
  return {
    status := ← f.defaulted "status" 0 none (Json.option some)
    success :=
      ← f.defaulted "success" 1 none (Json.option some)
    cancelled :=
      ← f.defaulted "cancelled" 2 none (Json.option some)
    via := ← f.defaulted "via" 3 none (Json.option some)
    origin :=
      ← f.defaulted "origin" 4 none (fun v => some (some v)) }

/- The report object rebuilt from the skimmed fields. -/
def reportValue (p : CancelProbeData) : Json :=
  let member (key : String) (value : Option Json) :=
    (value.map (fun v => (key, v))).toList
  .obj
    (member "cancelled" p.cancelled ++
      member reportOriginKey p.origin ++
      member "success" p.success ++
      member "via" p.via)

end CancelProbeData

structure CancelProbe where
  seq : Nat
  kind : EventKind
  nodeId : Option NodeId
  idempotencyKey : Option String
  data : CancelProbeData
deriving DecidableEq, Repr

namespace CancelProbe

def decode (ev : Event) : Option CancelProbe := do
  let data ← CancelProbeData.decode ev.data
  return {
    seq := ev.seq
    kind := ev.kind
    nodeId := ev.nodeId
    idempotencyKey := ev.idempotencyKey
    data }

end CancelProbe

------------------------------------------------------------
-- Status Accumulator
------------------------------------------------------------

/- The kebab-case status names. -/
def parseStatus (s : String) : Option Status :=
  (Json.str s).asStatus

/- A bare or contradictory report is no transition. -/
def reportTerminalStatus
    (success cancelled : Option Bool) : Option Status :=
  if cancelled.getD false then
    if success = some true then none else some .cancelled
  else
    match success with
    | some true => some .done
    | some false => some .failed
    | none => none

structure NodeStatusAcc where
  order : List NodeId
  status : NodeId → Option Status
  confirmedMergeSeq : NodeId → Option Nat

namespace NodeStatusAcc

def empty : NodeStatusAcc where
  order := []
  status := fun _ => none
  confirmedMergeSeq := fun _ => none

def setStatus
    (acc : NodeStatusAcc)
    (id : NodeId)
    (s : Status) : NodeStatusAcc :=
  { acc with status := Function.update acc.status id (some s) }

def adoptMerge
    (acc : NodeStatusAcc)
    (id : NodeId)
    (seq : Nat) : NodeStatusAcc :=
  { acc with
    confirmedMergeSeq :=
      Function.update acc.confirmedMergeSeq id (some seq) }

/- The first creation of a node seeds it as pending. -/
def observeCreated (acc : NodeStatusAcc) (id : NodeId) :
    NodeStatusAcc :=
  match acc.status id with
  | some _ => acc
  | none =>
      { acc with order := acc.order ++ [id] }.setStatus id
        .pending

def observeStatus
    (acc : NodeStatusAcc)
    (id : NodeId)
    (data : CancelProbeData) : NodeStatusAcc :=
  match acc.status id with
  | none => acc
  | some cur =>
      if cur.isTerminal then acc
      else
        match (data.status.bind Json.asStr).bind parseStatus with
        | some ns => acc.setStatus id ns
        | none => acc

def observeReport
    (acc : NodeStatusAcc)
    (id : NodeId)
    (seq : Nat)
    (data : CancelProbeData) : NodeStatusAcc :=
  match acc.status id with
  | none => acc
  | some cur =>
      let report := data.reportValue
      if cur.isTerminal then
        if permitsTerminalMergeRecovery cur report then
          (acc.setStatus id .done).adoptMerge id seq
        else acc
      else
        match
          reportTerminalStatus
            (data.success.bind Json.asBool)
            (data.cancelled.bind Json.asBool) with
        | none => acc
        | some ns =>
            let acc := acc.setStatus id ns
            if ns = .done ∧ reportIsConfirmedMerge report then
              acc.adoptMerge id seq
            else acc

/- Fold one skimmed line. Retries never cross the boundary. -/
def observe (acc : NodeStatusAcc) (probe : CancelProbe) :
    NodeStatusAcc :=
  match probe.nodeId with
  | none => acc
  | some id =>
      match probe.kind with
      | .nodeCreated => acc.observeCreated id
      | .nodeStatus => acc.observeStatus id probe.data
      | .nodeReport =>
          acc.observeReport id probe.seq probe.data
      | _ => acc

end NodeStatusAcc

/- One node's log-derived facts. -/
structure NodeStatusFact where
  nodeId : NodeId
  status : Status
  confirmedMergeSeq : Option Nat
deriving DecidableEq, Repr

namespace NodeStatusAcc

/- The facts in the order of the node numbers. -/
def finishFacts (acc : NodeStatusAcc) :
    List NodeStatusFact :=
  (acc.order.insertionSort
      (fun a b => a.number ≤ b.number)).map
    (fun id => {
      nodeId := id
      status := (acc.status id).getD .pending
      confirmedMergeSeq := acc.confirmedMergeSeq id })

def finish (acc : NodeStatusAcc) :
    List (NodeId × Status) :=
  acc.finishFacts.map (fun fact => (fact.nodeId, fact.status))

end NodeStatusAcc

------------------------------------------------------------
-- Facts of a Log
------------------------------------------------------------

/- Whether an event lies strictly before an optional bound. -/
def beforeBound (bound : Option Nat) (seq : Nat) : Bool :=
  bound.all (fun b => seq < b)

/-
  One line of the bounded fold. Only events before the bound
  are decoded beyond their sequence number.
-/
def foldStatusProbe
    (bound : Option Nat)
    (acc : NodeStatusAcc)
    (seq : Nat)
    (ev : Event) : Except Error NodeStatusAcc :=
  if beforeBound bound seq then
    match CancelProbe.decode ev with
    | some probe => .ok (acc.observe probe)
    | none =>
        .error (.corruptEventLog .events
          "node-status fold: event before bound is malformed")
  else .ok acc

def readNodeStatusFacts
    (lines : List LogLine)
    (before : Option Nat) :
    Except Error (List NodeStatusFact) := do
  let acc ←
    forEachEventProbe (fun ev => some ev.seq)
      (foldStatusProbe before) NodeStatusAcc.empty lines
  return acc.finishFacts

end Taskfleet
