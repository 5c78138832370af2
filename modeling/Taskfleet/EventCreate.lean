import Taskfleet.Events
import Taskfleet.Probe

/-
  `event create`: what it admits, the projections it says an
  event will touch, and the append.

  The projections are planned before the lock is taken, on
  the run as it is stored, for an event that has no sequence
  number yet. The run is found and its directory is there.

  Main declarations:
    * `EventCreateArgs.validate`, `EventRequest`
    * `EventRequest.projectedPaths`, `EventRequest.append`
    * `EventCreateArgs.run`
-/

------------------------------------------------------------
-- Kinds
------------------------------------------------------------

namespace Taskfleet

open Fallible

namespace EventCreate

def allowedKinds : List String :=
  ["run.created", "run.status", "node.created", "node.status",
    "node.report", "node.awaiting_input",
    "node.input_resolved", "child.spawned",
    "supervisor.attached", "supervisor.cursor_advanced",
    "supervisor.exited", "supervisor.reattach-requested",
    "orchestrator.decision", "discuss.critical"]

def forbiddenKinds : List String :=
  ["run.created", "node.report"]

/- The kinds that are about a node. -/
def requiresNodeId (kind : String) : Bool :=
  ["node.created", "node.status", "node.report",
    "node.awaiting_input", "node.input_resolved",
    "child.spawned", "supervisor.attached",
    "supervisor.cursor_advanced"].contains kind

------------------------------------------------------------
-- Checks on the Payload
------------------------------------------------------------

def invalidId (value : String) (e : IdValidationError) :
    CliError :=
  .user "invalid_id" e.message (some value)

def parseNodeId (value : String) : Except CliError NodeId :=
  (NodeId.parseStr value).mapError (invalidId value)

def parseRunId (value : String) : Except CliError RunId :=
  (RunId.parseStr value).mapError (invalidId value)

def invalidDataId (field : String) : CliError :=
  .user "invalid_data_id" s!"data.{field} must be a string" none

def schemaViolation (message : String) : CliError :=
  .user "schema_violation" message none

/- A member that is an identifier where it is there. -/
def checkDataId
    {α : Type}
    (data : Json)
    (field : String)
    (parse : String → Except CliError α) :
    Except CliError Unit :=
  match data.get field with
  | none => .ok ()
  | some v => do
      let s ← orError (invalidDataId field) v.asStr
      let _ ← parse s
      return ()

/- The node of the payload is the node of the envelope. -/
def checkDataNode (top : Option NodeId) (data : Json) :
    Except CliError Unit :=
  match data.get "node_id" with
  | none => .ok ()
  | some v => do
      let s ← orError (invalidDataId "node_id") v.asStr
      let _ ← parseNodeId s
      match top with
      | none => return ()
      | some id =>
          refuseIf (id.val ≠ s)
            (.user "node_id_mismatch"
              s!"--node-id ({id.val}) does not match data.node_id ({s})"
              none)

def optionsOffer (default : String) (item : Json) : Bool :=
  ((item.get "options").bind Json.asArray).any (fun values =>
    !values.isEmpty &&
      values.all (fun v =>
        v.asStr.any (fun s => !Text.isBlank s)) &&
      values.any (fun v => v.asStr == some default))

/- A question without the bounds that the reducer sets. -/
def checkItem (index : Nat) (item : Json) :
    Except CliError Unit :=
  match item with
  | .obj _ =>
      let topic := (item.getStr "topic").getD ""
      let default :=
        (item.getStr "recommended_default").getD ""
      refuseIf
        (Text.isBlank topic ∨ Text.isBlank default ∨
          ¬ optionsOffer default item)
        (schemaViolation
          s!"discussion_items[{index}] requires non-empty topic, string options, and a recommended_default present in options")
  | _ =>
      .error (schemaViolation
        s!"discussion_items[{index}] must be an object")

def checkItems (data : Json) : Except CliError Unit := do
  let items ←
    orError
      (schemaViolation
        "node.awaiting_input requires a non-empty data.discussion_items array")
      (((data.get "discussion_items").bind
        Json.asArray).filter (fun items => !items.isEmpty))
  items.zipIdx.forM (fun entry => checkItem entry.2 entry.1)

def validateDataIds
    (kind : String) (top : Option NodeId) (data : Json) :
    Except CliError Unit := do
  checkDataNode top data
  checkWhen (kind = "child.spawned")
    (checkDataId data "child_run_id" parseRunId)
  checkWhen (kind = "child.spawned")
    (checkDataId data "child_node_id" parseNodeId)
  checkWhen (kind = "supervisor.cursor_advanced")
    (checkDataId data "child_run_id" parseRunId)
  refuseIf
    (kind = "node.input_resolved" ∧
      (data.get "event_seq").bind Json.asU64 = none)
    (schemaViolation
      "node.input_resolved requires unsigned data.event_seq")
  checkWhen (kind = "node.awaiting_input") (checkItems data)

def checkObject (path : String) : Json → Except CliError Unit
| .obj _ => .ok ()
| _ =>
    .error (.user "from_file_invalid_json"
      "--from-file must contain a JSON object" (some path))

/- Trimmed, and not empty then. -/
def requireNonempty (field value : String) :
    Except CliError String := do
  let trimmed := Text.trim value
  refuseIf (trimmed = "")
    (.user "invalid_value"
      s!"--{field} must not be empty or whitespace-only"
      (some value))
  return trimmed

end EventCreate

------------------------------------------------------------
-- Arguments
------------------------------------------------------------

open EventCreate

/- The arguments, with what reading the payload file gave. -/
structure EventCreateArgs where
  kind : String
  nodeId : Option String
  fromFilePath : String
  fromFile : Except CliError Json
  idempotencyKey : Option String
  dryRun : Bool

/- An event that is admitted. -/
structure EventRequest where
  kind : EventKind
  nodeId : Option NodeId
  key : Option String
  data : Json

def optionally
    {α β : Type} (f : α → Except CliError β) :
    Option α → Except CliError (Option β)
| none => .ok none
| some a => (f a).map some

def EventCreateArgs.validate (args : EventCreateArgs) :
    Except CliError EventRequest := do
  let kind := args.kind
  refuseIf (¬ allowedKinds.contains kind)
    (.user "unknown_event_kind"
      s!"unknown event kind: {kind}" (some kind))
  let key ←
    optionally (requireNonempty "idempotency-key")
      args.idempotencyKey
  refuseIf (forbiddenKinds.contains kind)
    (.user "kind_not_routable"
      s!"`{kind}` is a bootstrap event and is owned by `taskfleet run create`; it is not accepted via `event create`"
      (some kind))
  refuseIf (args.nodeId.isSome ∧ ¬ requiresNodeId kind)
    (.user "unexpected_flag"
      s!"--node-id is not accepted for kind `{kind}`"
      args.nodeId)
  let nodeId ← optionally parseNodeId args.nodeId
  refuseIf (requiresNodeId kind ∧ nodeId = none)
    (.user "missing_required_flag"
      s!"--node-id is required for kind `{kind}`" none)
  let data ← args.fromFile
  checkObject args.fromFilePath data
  validateDataIds kind nodeId data
  return { kind := .ofName kind, nodeId, key, data }

------------------------------------------------------------
-- Plan and Append
------------------------------------------------------------

namespace EventRequest

/- What the append is asked for. -/
def request (r : EventRequest) (now : Time) : Request where
  now := now
  kind := r.kind
  nodeId := r.nodeId
  key := r.key
  data := r.data

/- An envelope without a key and without a number. -/
def syntheticEvent
    (env : RunEnv) (now : Time) (r : EventRequest) : Event where
  ts := now
  seq := 0
  kind := r.kind
  runId := env.runId
  nodeId := r.nodeId
  idempotencyKey := none
  data := r.data

def projectedPaths
    (env : RunEnv) (now : Time) (r : EventRequest) (d : Disk) :
    Except Error (List StateFile) :=
  planProjections env d (r.syntheticEvent env now)

/- A keyed append answers a retry; the other only appends. -/
def append
    (env : RunEnv) (now : Time) (r : EventRequest) :
    Locked AppendOutcome :=
  match r.key with
  | none => do
      let seq ← appendAndApplyUnlocked env (r.request now)
      return .appended seq
  | some key =>
      appendAndApplyIdempotent env {
        now
        kind := r.kind
        nodeId := r.nodeId
        key
        build := fun _ => .ok r.data }

end EventRequest

------------------------------------------------------------
-- The Command
------------------------------------------------------------

/- A state file under the directory of its run. -/
def StateFile.relative : StateFile → String
| .events => "events.jsonl"
| .manifest => "manifest.json"
| .node id => "nodes/" ++ id.val ++ ".json"

structure CreatedPayload where
  kind : String
  nodeId : Option NodeId
  seq : Option Nat
  idempotentReplay : Bool
  dryRun : Bool
  projections : List String

def debugNode : Option NodeId → String
| none => "None"
| some id => "Some(" ++ id.val.quote ++ ")"

/- A key that was used for another request. -/
def idempotencyConflict
    (prior : PriorEvent) (r : EventRequest) : CliError :=
  if prior.nodeId ≠ r.nodeId then
    .user "idempotency_conflict"
      s!"idempotency-key was previously used for a different --node-id (prior: {debugNode prior.nodeId}, current: {debugNode r.nodeId})"
      none
  else
    .user "idempotency_conflict"
      "idempotency-key was previously used with a different --from-file payload"
      none

/-
  The command on a run: the plan is read on the run as it is,
  and the append comes after it unless it is a dry run.
-/
def EventCreateArgs.run
    (env : RunEnv) (planned now : Time) (args : EventCreateArgs) :
    Locked (Except CliError CreatedPayload) :=
  match args.validate with
  | .error e => return .error e
  | .ok r => do
      let d ← Durable.read
      match r.projectedPaths env planned d with
      | .error e => return .error (.core e)
      | .ok paths =>
          let payload : CreatedPayload := {
            kind := args.kind
            nodeId := r.nodeId
            seq := none
            idempotentReplay := false
            dryRun := args.dryRun
            projections := paths.map StateFile.relative }
          if args.dryRun then return .ok payload
          else
            match ← r.append env now with
            | .appended seq =>
                return .ok { payload with seq := some seq }
            | .idempotentReplay prior =>
                return .ok { payload with
                  seq := some prior.seq
                  idempotentReplay := true }
            | .conflict prior =>
                return .error (idempotencyConflict prior r)

end Taskfleet
