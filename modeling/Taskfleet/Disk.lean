import Mathlib.Data.Finmap
import Taskfleet.Durable
import Taskfleet.Decode

/-
  A run directory: the manifest, the node projections and
  the event log, with the readers and writers the rest of
  the crate shares.

  A missing event log reads as an empty one everywhere, so
  the model does not distinguish the two. A line of the log
  is complete; bytes after the last newline are a torn tail
  that no reader looks at.

  The log holds values here and not their text. What the JSON
  library makes of a written payload when the line is read
  again is `JsonText`: it refuses one that is nested too deep
  and may shift a fraction. Runs over `Disk` alone are about
  payloads that read back as themselves.

  Main declarations:
    * `LogLine`, `Disk`, `Boundary`
    * `readManifestOpt`, `readNodeOpt`
    * `writeManifest`, `writeNode`
    * `recoverLastSeq`, `forEachEventProbe`
    * `findPriorWithKey`
-/

------------------------------------------------------------
-- The Run Directory
------------------------------------------------------------

namespace Taskfleet

/-
  A newline-terminated line: an event, an empty line, a line
  of white space only, or a line that is not JSON. Of a
  `header` line the tail scan takes the sequence number,
  but the event cannot be read; the idempotency probe takes
  the kind and the key, where it reads it. How the other
  probes read such a line is left out.
-/
inductive LogLine where
| event (ev : Event)
| header (seq : Nat)
    (probe : Option (EventKind × Option String))
| blank
| space
| junk
deriving Repr

structure Disk where
  manifest : Option Manifest
  nodes : Finmap (fun _ : NodeId => Node)
  lines : List LogLine
  torn : Bool

/-
  The durable writes of the locked operations, as the places
  where a crash may cut them. `projected planned ev k` is
  the boundary after projection write `k` of the event that
  was planned on the disk `planned`. A `foreign` line comes
  from outside.
-/
inductive Boundary where
| truncated
| torn
| logged (ev : Event)
| projected (planned : Disk) (ev : Event) (k : Nat)
| applied (seq : Nat)
| renamed
| rewritten
| foreign

/- The kind of the event that a projection write is of. -/
def Boundary.written : Boundary → Option EventKind
| .projected _ ev _ => some ev.kind
| _ => none

/- A locked operation on a run directory. -/
abbrev Locked (α : Type) := Durable Boundary Disk Error α

namespace LogLine

def event? : LogLine → Option Event
| .event ev => some ev
| _ => none

@[simp] theorem event?_event (ev : Event) :
    (LogLine.event ev).event? = some ev := rfl

@[simp] theorem event?_header
    (seq : Nat)
    (probe : Option (EventKind × Option String)) :
    (LogLine.header seq probe).event? = none := rfl

@[simp] theorem event?_blank :
    LogLine.blank.event? = none := rfl

@[simp] theorem event?_space :
    LogLine.space.event? = none := rfl

@[simp] theorem event?_junk :
    LogLine.junk.event? = none := rfl

/- Only the header of the line can be read. -/
def isHeader : LogLine → Bool
| .header _ _ => true
| _ => false

end LogLine

namespace Disk

/- A run directory before its first event. -/
def empty : Disk where
  manifest := none
  nodes := ∅
  lines := []
  torn := false

/- The events of the log, in file order. -/
def events (d : Disk) : List Event :=
  d.lines.filterMap LogLine.event?

/- No line has a header alone. -/
def Plain (d : Disk) : Prop :=
  ∀ line ∈ d.lines, line.isHeader = false

/- The watermark, zero before the manifest exists. -/
def appliedSeq (d : Disk) : Nat :=
  (d.manifest.map Manifest.appliedSeq).getD 0

end Disk

------------------------------------------------------------
-- Projection Readers and Writers
------------------------------------------------------------

def supportedStateSchemas : List Nat := [1]

def checkSchema (file : StateFile) (found : Nat) :
    Except Error Unit :=
  if supportedStateSchemas.contains found then .ok ()
  else .error (.unsupportedSchemaVersion file found)

def checkKey (id body : NodeId) : Except Error Unit :=
  if id = body then .ok ()
  else
    .error (.corruptProjection "node" (.node id) id.val
      body.val)

def checkRunId
    (env : RunEnv)
    (kind : String)
    (file : StateFile)
    (body : RunId) : Except Error Unit :=
  if env.runId = body then .ok ()
  else
    .error (.corruptProjection kind file env.runId.val
      body.val)

def readManifestOpt (env : RunEnv) (d : Disk) :
    Except Error (Option Manifest) :=
  match d.manifest with
  | none => .ok none
  | some m => do
      checkSchema .manifest m.schemaVersion
      checkRunId env "manifest_run_id" .manifest m.runId
      return some m

def readManifest (env : RunEnv) (d : Disk) :
    Except Error Manifest := do
  match ← readManifestOpt env d with
  | some m => return m
  | none => throw (.missingFile .manifest)

def readNodeOpt (env : RunEnv) (d : Disk) (id : NodeId) :
    Except Error (Option Node) :=
  match d.nodes.lookup id with
  | none => .ok none
  | some n => do
      checkSchema (.node id) n.schemaVersion
      checkKey id n.nodeId
      checkRunId env "node_run_id" (.node id) n.runId
      return some n

namespace Disk

def putManifest (m : Manifest) (d : Disk) : Disk :=
  { d with manifest := some m }

def putNode (n : Node) (d : Disk) : Disk :=
  { d with nodes := d.nodes.insert n.nodeId n }

@[simp] theorem putManifest_manifest
    (m : Manifest) (d : Disk) :
    (d.putManifest m).manifest = some m := rfl

@[simp] theorem putManifest_nodes
    (m : Manifest) (d : Disk) :
    (d.putManifest m).nodes = d.nodes := rfl

@[simp] theorem putManifest_lines
    (m : Manifest) (d : Disk) :
    (d.putManifest m).lines = d.lines := rfl

@[simp] theorem putManifest_torn
    (m : Manifest) (d : Disk) :
    (d.putManifest m).torn = d.torn := rfl

@[simp] theorem putNode_manifest (n : Node) (d : Disk) :
    (d.putNode n).manifest = d.manifest := rfl

@[simp] theorem putNode_nodes (n : Node) (d : Disk) :
    (d.putNode n).nodes = d.nodes.insert n.nodeId n := rfl

@[simp] theorem putNode_lines (n : Node) (d : Disk) :
    (d.putNode n).lines = d.lines := rfl

@[simp] theorem putNode_torn (n : Node) (d : Disk) :
    (d.putNode n).torn = d.torn := rfl

/- The node counter, recomputed from the projection files. -/
def countNodeFiles (d : Disk) : Nat :=
  min d.nodes.keys.card (2 ^ 32 - 1)

end Disk

def writeManifest
    (env : RunEnv)
    (boundary : Boundary)
    (m : Manifest) : Locked Unit := do
  Durable.lift
    (checkRunId env "manifest_run_id" .manifest m.runId)
  Durable.write boundary (Disk.putManifest m)

def writeNode
    (env : RunEnv)
    (boundary : Boundary)
    (n : Node) : Locked Unit := do
  Durable.lift
    (checkRunId env "node_run_id" (.node n.nodeId) n.runId)
  Durable.write boundary (Disk.putNode n)

------------------------------------------------------------
-- Log Readers
------------------------------------------------------------

/-
  The sequence number of the last complete record, scanning
  lines from the last one backward over blank ones. It parses
  the header of the record and not its payload or key.
-/
def lastSeqBackward : List LogLine → Except Error Nat
| [] => .ok 0
| .event ev :: _ => .ok ev.seq
| .header seq _ :: _ => .ok seq
| .junk :: _ =>
    .error (.corruptEventLog .events
      "last complete line is not a valid event")
| .blank :: rest => lastSeqBackward rest
| .space :: rest => lastSeqBackward rest

def recoverLastSeq (lines : List LogLine) :
    Except Error Nat :=
  lastSeqBackward lines.reverse

@[simp] theorem recoverLastSeq_nil :
    recoverLastSeq [] = .ok 0 := rfl

@[simp] theorem recoverLastSeq_concat_event
    (lines : List LogLine) (ev : Event) :
    recoverLastSeq (lines ++ [.event ev]) = .ok ev.seq := by
  simp [recoverLastSeq, lastSeqBackward]

def notAnEvent (lineno : Nat) : Error :=
  .corruptEventLog .events
    s!"line {lineno} is not a valid event"

/-
  Walk the log in file order, decoding each line into a
  probe before it is visited. Empty lines are skipped; any
  other line that does not decode is an error.
-/
def forEachEventProbe
    {π σ : Type}
    (decode : Event → Option π)
    (visit : σ → π → Event → Except Error σ)
    (init : σ)
    (lines : List LogLine) : Except Error σ :=
  lines.zipIdx.foldlM
    (fun acc entry =>
      match entry.1 with
      | .blank => .ok acc
      | .event ev =>
          match decode ev with
          | some probe => visit acc probe ev
          | none => .error (notAnEvent (entry.2 + 1))
      | _ => .error (notAnEvent (entry.2 + 1)))
    init

/- A prior event located by its idempotency key. -/
structure PriorEvent where
  seq : Nat
  nodeId : Option NodeId
  data : Json
deriving DecidableEq, Repr

/-
  The first event with a kind and an idempotency key. A
  corrupt line before it is an error: it might carry the key.
  A probe that matches is followed by a read of the event.
-/
def findPriorWithKey
    (kind : EventKind)
    (key : String) :
    List LogLine → Except Error (Option PriorEvent)
| [] => .ok none
| .event ev :: rest =>
    if ev.kind = kind ∧ ev.idempotencyKey = some key then
      .ok (some ⟨ev.seq, ev.nodeId, ev.data⟩)
    else findPriorWithKey kind key rest
| .header _ (some (k, found)) :: rest =>
    if k = kind ∧ found = some key then
      .error (.corruptEventLog .events
        "a line matched idempotency key but is not a replayable event")
    else findPriorWithKey kind key rest
| .blank :: rest => findPriorWithKey kind key rest
| _ :: _ =>
    .error (.corruptEventLog .events
      "a line is not a valid event envelope")

/- A scan that was answered has read past a header. -/
theorem findPriorWithKey_header
    {kind : EventKind} {key : String} {seq : Nat}
    {probe : Option (EventKind × Option String)}
    {rest : List LogLine} {found : Option PriorEvent}
    (hFound :
      findPriorWithKey kind key (.header seq probe :: rest) =
        .ok found) :
    findPriorWithKey kind key rest = .ok found := by
  cases probe with
  | none => cases hFound
  | some tag =>
      simp only [findPriorWithKey] at hFound
      split at hFound
      next => cases hFound
      next => exact hFound

end Taskfleet
