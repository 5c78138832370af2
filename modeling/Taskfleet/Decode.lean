import Mathlib.Algebra.GroupWithZero.Nat
import Taskfleet.Schema

/-
  Errors, the environment of a run, and the decoders of the
  typed event payloads.

  The calendar library is outside the repository: its two
  text parsers are fields of the environment.

  Main declarations:
    * `Error`, `CliError`, `RunEnv`
    * `Json.asStatus`, `Json.asKind`
    * one decoder for each typed payload
    * `AgentSelection.validate`
-/

------------------------------------------------------------
-- Errors and Environment
------------------------------------------------------------

namespace Taskfleet

/- The state files an error may name. -/
inductive StateFile where
| events
| manifest
| node (id : NodeId)
deriving DecidableEq, Repr

inductive Error where
| corruptEventLog (file : StateFile) (reason : String)
| corruptProjection
    (kind : String) (file : StateFile)
    (expectedId bodyId : String)
| unsupportedSchemaVersion (file : StateFile) (found : Nat)
| missingFile (file : StateFile)
| runAlreadyTerminal (status : Status)
| nodeNotFound (nodeId : NodeId)
| emptyIdempotencyKey
deriving DecidableEq, Repr

/- An error of the command line, with its code and value. -/
inductive CliError where
| core (e : Error)
| user (code message : String) (invalidValue : Option String)
| system (code message : String)
    (invalidValue : Option String)
deriving DecidableEq, Repr

/-
  What is fixed for a run: its identifier, and how the
  calendar library reads timestamps.
-/
structure RunEnv where
  runId : RunId
  parseRfc3339 : String → Option Time
  parseDateTime : String → Option Time

------------------------------------------------------------
-- Scalars and Enumerations
------------------------------------------------------------

namespace Json

def asU32 : Json → Option Nat := asUnsigned (2 ^ 32)

def asU8 : Json → Option Nat := asUnsigned (2 ^ 8)

def asRunId (v : Json) : Option RunId :=
  v.asStr.bind (fun s => (RunId.parseStr s).toOption)

def asNodeId (v : Json) : Option NodeId :=
  v.asStr.bind (fun s => (NodeId.parseStr s).toOption)

/- `serde_json::from_value::<Status>`. -/
def asStatus (v : Json) : Option Status :=
  v.variantName.bind Status.ofName

/- `serde_json::from_value::<Kind>`. -/
def asKind (v : Json) : Option Kind :=
  v.variantName.map Kind.ofName

def asLifecycle (v : Json) : Option Lifecycle :=
  v.variantName.bind (fun name =>
    if name = "autonomous" then some .autonomous
    else if name = "interactive" then some .interactive
    else none)

def asAgentOwner (v : Json) : Option AgentOwner :=
  v.variantName.bind (fun name =>
    if name = "taskfleet" then some .taskfleet
    else if name = "caller" then some .caller
    else none)

def asCallerPiState (v : Json) : Option CallerPiState :=
  v.variantName.bind (fun name =>
    if name = "reserved" then some .reserved
    else if name = "started" then some .started
    else if name = "launch-failed" then some .launchFailed
    else if name = "exited" then some .exited
    else if name = "control-uncertain" then
      some .controlUncertain
    else none)

def asSettlementOperation (v : Json) :
    Option SettlementOperation :=
  v.variantName.bind (fun name =>
    if name = "merge" then some .merge
    else if name = "cancel" then some .cancel
    else if name = "discard" then some .discard
    else none)

------------------------------------------------------------
-- Record Payloads
------------------------------------------------------------

def asCallerSettlementIntent (v : Json) :
    Option CallerSettlementIntent := do
  let f ← v.fields 12
  return {
    runId := ← f.required "run_id" 0 asRunId
    nodeId := ← f.required "node_id" 1 asNodeId
    key := ← f.required "key" 2 asStr
    operation :=
      ← f.required "operation" 3 asSettlementOperation
    actor := ← f.required "actor" 4 asStr
    reason := ← f.optional "reason" 5 asStr
    writerDev := ← f.required "writer_dev" 6 asU64
    writerIno := ← f.required "writer_ino" 7 asU64
    gateDev := ← f.required "gate_dev" 8 asU64
    gateIno := ← f.required "gate_ino" 9 asU64
    generation := ← f.required "generation" 10 asU64
    seq := ← f.required "seq" 11 asU64 }

def asCallerPiSession (v : Json) :
    Option CallerPiSession := do
  let f ← v.fields 6
  return {
    piSessionId := ← f.required "pi_session_id" 0 asStr
    sessionPath := ← f.required "session_path" 1 asStr
    originalCwd := ← f.required "original_cwd" 2 asStr
    fileDev := ← f.required "file_dev" 3 asU64
    fileIno := ← f.required "file_ino" 4 asU64
    generation :=
      ← f.defaulted "generation" 5 none (option asU64) }

def asCallerPiLifecycle (v : Json) :
    Option CallerPiLifecycle := do
  let f ← v.fields 5
  return {
    generation := ← f.required "generation" 0 asU64
    piSessionId := ← f.required "pi_session_id" 1 asStr
    sessionPath :=
      ← f.defaulted "session_path" 2 none (option asStr)
    state := ← f.required "state" 3 asCallerPiState
    reason := ← f.optional "reason" 4 asStr }

def asCallerMergeLink (v : Json) :
    Option CallerMergeLink := do
  let f ← v.fields 4
  return {
    intentSeq := ← f.required "intent_seq" 0 asU64
    intentKey := ← f.required "intent_key" 1 asStr
    writerDev := ← f.required "writer_dev" 2 asU64
    writerIno := ← f.required "writer_ino" 3 asU64 }

def asMergeTxn (env : RunEnv) (v : Json) :
    Option MergeTxn := do
  let f ← v.fields 12
  return {
    opId := ← f.required "op_id" 0 asStr
    sourceBranch := ← f.required "source_branch" 1 asStr
    workerBranch := ← f.required "worker_branch" 2 asStr
    expectedSourceOid :=
      ← f.required "expected_source_oid" 3 asStr
    workerOid := ← f.required "worker_oid" 4 asStr
    baseSha := ← f.defaulted "base_sha" 5 none (option asStr)
    driverPid :=
      ← f.defaulted "driver_pid" 6 none (option asI32)
    driverPidStartSecs :=
      ← f.defaulted "driver_pid_start_secs" 7 none
        (option asU64)
    driverPidStartIdentity :=
      ← f.defaulted "driver_pid_start_identity" 8 none
        (option asStr)
    callerAuthority :=
      ← f.defaulted "caller_authority" 9 none
        (option asCallerMergeLink)
    landing := ← f.defaulted "landing" 10 false asBool
    startedAt :=
      ← f.required "started_at" 11
        (fun t => t.asStr.bind env.parseDateTime) }

def asRetainedDisplay (env : RunEnv) (v : Json) :
    Option RetainedDisplay := do
  let f ← v.fields 12
  let time := fun t : Json => t.asStr.bind env.parseDateTime
  return {
    attempt := ← f.required "attempt" 0 asU32
    socket := ← f.required "socket" 1 asStr
    session := ← f.required "session" 2 asStr
    windowId := ← f.required "window_id" 3 asStr
    paneId := ← f.required "pane_id" 4 asStr
    serverPid := ← f.required "server_pid" 5 asU32
    serverPidStartSecs :=
      ← f.required "server_pid_start_secs" 6 asU64
    serverMarker := ← f.required "server_marker" 7 asStr
    ownershipMarker :=
      ← f.required "ownership_marker" 8 asStr
    retainedAt := ← f.required "retained_at" 9 time
    expiresAt := ← f.required "expires_at" 10 time
    expiredAt :=
      ← f.defaulted "expired_at" 11 none (option time) }

def asTmuxRetentionPolicy (v : Json) :
    Option TmuxRetentionPolicy := do
  let f ← v.fields 3
  return {
    persistent := ← f.required "persistent" 0 asBool
    completedWindowTtlSecs :=
      ← f.required "completed_window_ttl_secs" 1 asU64
    completedWindowMax :=
      ← f.required "completed_window_max" 2 asU32 }

def asResidentPolicy (v : Json) :
    Option ResidentPolicy := do
  let f ← v.fields 2
  return {
    name := ← f.required "name" 0 asStr
    idleExpirySecs :=
      ← f.required "idle_expiry_secs" 1 asU64 }

/- Unknown members are refused, unlike in every other record. -/
def asCreatorSession (v : Json) :
    Option CreatorSession := do
  let f ← v.fields 2
  let known :=
    match v with
    | .obj kvs =>
        kvs.all (fun entry =>
          entry.1 == "harness" || entry.1 == "session_id")
    | _ => true
  if known then
    let harness ← f.required "harness" 0 asStr
    let sessionId ← f.required "session_id" 1 asStr
    if harness = "pi" ∧
        Text.uuidShape Text.isLowerHex sessionId then
      return { harness, sessionId }
    else none
  else none

def asSelectedAgentCandidate (v : Json) :
    Option SelectedAgentCandidate := do
  let f ← v.fields 4
  return {
    candidateIndex := ← f.required "candidate_index" 0 asU8
    harness := ← f.required "harness" 1 asStr
    command := ← f.required "command" 2 (listOf asStr)
    telemetry :=
      ← f.defaulted "telemetry" 3 none (option asStr) }

def asSkippedAgentCandidate (v : Json) :
    Option SkippedAgentCandidate := do
  let f ← v.fields 3
  return {
    candidateIndex := ← f.required "candidate_index" 0 asU8
    harness := ← f.required "harness" 1 asStr
    reason := ← f.required "reason" 2 asStr }

def asAgentSelection (v : Json) :
    Option AgentSelection := do
  let f ← v.fields 9
  return {
    schemaVersion := ← f.required "schema_version" 0 asU32
    profile := ← f.required "profile" 1 asStr
    selectionSource :=
      ← f.required "selection_source" 2 asStr
    interaction := ← f.required "interaction" 3 asStr
    capability := ← f.required "capability" 4 asStr
    residency := ← f.required "residency" 5 asStr
    requestedHarness :=
      ← f.defaulted "requested_harness" 6 none (option asStr)
    selected :=
      ← f.required "selected" 7 asSelectedAgentCandidate
    fallback :=
      ← f.defaulted "fallback" 8 []
        (listOf asSkippedAgentCandidate) }

end Json

------------------------------------------------------------
-- Agent Selection Bounds
------------------------------------------------------------

namespace SelectedAgentCandidate

def validate (c : SelectedAgentCandidate) :
    Except String Unit := do
  if !(["pi", "claude"].contains c.harness) ||
      c.command.isEmpty || c.command.length > 32 ||
      c.command.any (fun arg =>
        arg.isEmpty || arg.utf8ByteSize > 4096 ||
          arg.toList.contains '\x00') ||
      (c.command.map String.utf8ByteSize).sum > 16384 then
    throw "invalid selected harness or command"
  match c.telemetry with
  | none => return ()
  | some t =>
      if c.harness = "pi" ∧ t = "worker-v1" then return ()
      else throw "invalid selected telemetry declaration"

end SelectedAgentCandidate

namespace AgentSelection

/- One rejected candidate, at its position in the profile. -/
def validateSkipped
    (interaction : String)
    (position : Nat)
    (c : SkippedAgentCandidate) : Except String Unit := do
  if c.candidateIndex != position ||
      !(["pi", "claude"].contains c.harness) ||
      !(["executable_missing",
          "autonomous_harness_unsupported",
          "telemetry_unsupported"].contains c.reason) then
    throw "invalid fallback candidate index, harness, or reason"
  if c.reason = "autonomous_harness_unsupported" ∧
      (interaction ≠ "autonomous" ∨ c.harness = "pi") then
    throw "inconsistent autonomous harness skip reason"
  if c.reason = "telemetry_unsupported" ∧
      (interaction ≠ "autonomous" ∨ c.harness ≠ "pi") then
    throw "inconsistent telemetry skip reason"

/- Semantic bounds and closed vocabularies of a selection. -/
def validate (s : AgentSelection) : Except String Unit := do
  if s.schemaVersion ≠ 1 then
    throw s!"unsupported selection schema_version {s.schemaVersion}"
  if !(Text.isSlug 63 s.profile) then
    throw "invalid profile name"
  if !(["cli", "environment", "repository-per-kind",
        "user-per-kind", "repository-default",
        "user-default", "builtin-harness"].contains
          s.selectionSource) then
    throw "invalid selection_source"
  if !(["autonomous", "explicit-interactive"].contains
        s.interaction) ||
      !(["fast", "capable", "ultra-capable"].contains
        s.capability) ||
      !(["local", "remote"].contains s.residency) then
    throw "invalid interaction, capability, or residency"
  s.selected.validate
  if s.interaction = "autonomous" ∧
      ¬ ((s.selected.harness = "pi" ∧
            s.selected.telemetry = some "worker-v1") ∨
          (s.selected.harness = "claude" ∧
            s.selected.telemetry = none)) then
    throw "autonomous selection requires pi/worker-v1 or claude without telemetry"
  if s.selected.candidateIndex ≥ 8 ∨
      s.fallback.length ≠ s.selected.candidateIndex then
    throw "candidate index/count exceeds profile bound"
  s.fallback.zipIdx.forM (fun entry =>
    validateSkipped s.interaction entry.2 entry.1)

end AgentSelection

end Taskfleet
