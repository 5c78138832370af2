import Taskfleet.Disk
import Taskfleet.Fallible

/-
  Readers of the payload fields shared by the reducer arms.
  Each returns the typed value or the error the arm reports.

  The text that the JSON library renders after a failed
  typed read is not part of the model's reasons.

  Main declarations:
    * `Event.corrupt`, `Event.wantStr`, `Event.optionalI32`
    * `Event.tmuxIdentityFromData`
    * `Event.workerEvidenceFromSpawnData`
-/

------------------------------------------------------------
-- Errors of an Event
------------------------------------------------------------

namespace Taskfleet

open Fallible

def corruptLog (reason : String) : Error :=
  .corruptEventLog .events reason

namespace Event

/- An error that names the event by sequence and kind. -/
def corrupt (ev : Event) (what : String) : Error :=
  corruptLog s!"event seq={ev.seq} kind={ev.kind.name} {what}"

/- An error that names the event by sequence only. -/
def corruptAt (ev : Event) (what : String) : Error :=
  corruptLog s!"event seq={ev.seq} {what}"

def corruptId (ev : Event) (e : IdValidationError) : Error :=
  corruptLog
    s!"event seq={ev.seq} kind={ev.kind.name}: {e.message}"

end Event

------------------------------------------------------------
-- Scalar Fields
------------------------------------------------------------

namespace Event

/- An optional identifier: missing and null are absence. -/
def optId
    {α : Type}
    (ev : Event)
    (parse : String → Except IdValidationError α)
    (field : String) : Except Error (Option α) :=
  match ev.data.get field with
  | none | some .null => .ok none
  | some (.str s) =>
      match parse s with
      | .ok id => .ok (some id)
      | .error e => .error (ev.corruptId e)
  | some _ =>
      .error (ev.corrupt
        s!"`{field}` must be a JSON string or null")

def optRunId (ev : Event) (field : String) :
    Except Error (Option RunId) :=
  ev.optId RunId.parseStr field

def optNodeId (ev : Event) (field : String) :
    Except Error (Option NodeId) :=
  ev.optId NodeId.parseStr field

/- A creatable kind: the read-only catch-all is refused. -/
def dataKind (v : Json) : Option Kind :=
  v.asKind.filter (fun k => k ≠ .unknown)

def dataStatus (v : Json) : Option Status :=
  v.asStatus

def requireStatus (ev : Event) : Except Error Status :=
  orError
    (corruptLog s!"{ev.kind.name} missing/invalid `status`")
    (dataStatus ((ev.data.get "status").getD .null))

def wantStr (ev : Event) (field : String) :
    Except Error String :=
  orError (ev.corrupt s!"missing `{field}` string field")
    (ev.data.getStr field)

def optionalBool (ev : Event) (field : String) :
    Except Error (Option Bool) :=
  match ev.data.get field with
  | none | some .null => .ok none
  | some (.bool b) => .ok (some b)
  | some _ =>
      .error (ev.corrupt
        s!"`{field}` must be a JSON boolean or null")

def optionalI32 (ev : Event) (field : String) :
    Except Error (Option Int) :=
  match ev.data.get field with
  | none | some .null => .ok none
  | some v =>
      match v.asI64 with
      | none =>
          .error (ev.corrupt s!"`{field}` must be integer")
      | some raw =>
          if -(2 ^ 31) ≤ raw ∧ raw < 2 ^ 31 then
            .ok (some raw)
          else
            .error (ev.corrupt
              s!"`{field}` out of i32 range: {raw}")

def optionalTs
    (env : RunEnv)
    (ev : Event)
    (field : String) : Except Error (Option Time) :=
  match ev.data.get field with
  | none | some .null => .ok none
  | some (.str s) =>
      match env.parseRfc3339 s with
      | some t => .ok (some t)
      | none => .error (ev.corrupt s!"`{field}` not RFC3339")
  | some _ =>
      .error (ev.corrupt
        s!"`{field}` must be RFC3339 string or null")

def requireEnvelopeNodeId (ev : Event) :
    Except Error NodeId :=
  orError (ev.corrupt "missing top-level `node_id`")
    ev.nodeId

/- The worker attempt a node fact is about. -/
def evidenceAttempt (ev : Event) : Except Error Nat :=
  orError (ev.corruptAt "attempt must be a u32")
    ((ev.data.get "attempt").bind Json.asU32)

/- A non-empty string member, read leniently. -/
def nonemptyStr (ev : Event) (field : String) :
    Option String :=
  (ev.data.getStr field).filter (fun s => !s.isEmpty)

------------------------------------------------------------
-- Spawn Metadata
------------------------------------------------------------

/-
  The qualified tmux identity. It needs a session and a
  window; the other parts are optional.
-/
def tmuxIdentityFromData (ev : Event) :
    Option TmuxIdentity := do
  let nonempty := fun key =>
    ((ev.data.getStr key).map Text.trim).filter
      (fun s => !s.isEmpty)
  let session ← nonempty "tmux_session"
  let windowId ← nonempty "tmux_window_id"
  return {
    socket := nonempty "tmux_socket"
    session
    windowId
    paneId := nonempty "tmux_pane_id"
    serverPid :=
      (ev.data.get "tmux_server_pid").bind Json.asU32
    serverPidStartSecs :=
      (ev.data.get "tmux_server_pid_start_secs").bind
        Json.asU64
    serverMarker := nonempty "tmux_server_marker" }

def startIdentityFromData (ev : Event) : Option String :=
  ev.nonemptyStr "agent_pid_start_identity"

/- The state-relative path of a worker's session file. -/
def liveSessionPath (ev : Event) (sessionId : String) :
    String :=
  ".creating/pi-sessions/" ++ ev.runId.val ++
    "/pi-session-" ++ sessionId ++ ".jsonl"

/- The attempt of spawn metadata; absence is the first. -/
def spawnAttempt (ev : Event) : Except Error Nat :=
  match ev.data.get "attempt" with
  | none | some .null => .ok 0
  | some v =>
      orError (ev.corruptAt "attempt must be a u32") v.asU32

/- A present member that is not null. -/
def hasValue (ev : Event) (field : String) : Bool :=
  (ev.data.get field).any (fun v => !v.isNull)

/- The recorded session of a worker, all fields or none. -/
def workerEvidenceFromSpawnData (ev : Event) :
    Except Error (Option WorkerEvidence) :=
  let partialFields :=
    ev.corruptAt "Pi evidence fields must be all-or-none"
  match ev.data.get "pi_session_id" with
  | none =>
      if (ev.data.get "pi_session_path").isSome ||
          (ev.data.get "pi_session_cwd").isSome then
        .error partialFields
      else .ok none
  | some .null =>
      if ev.hasValue "pi_session_path" ||
          ev.hasValue "pi_session_cwd" then
        .error partialFields
      else .ok none
  | some raw => do
      let sessionId ←
        orError
          (ev.corruptAt
            "pi_session_id must be a non-empty string")
          (raw.asStr.filter (fun s => !s.isEmpty))
      refuseIf (¬ Text.uuidShape Text.isHex sessionId)
        (ev.corruptAt "pi_session_id must be a UUID")
      let originalCwd ← ev.wantStr "pi_session_cwd"
      let livePath ← ev.wantStr "pi_session_path"
      refuseIf (livePath ≠ ev.liveSessionPath sessionId)
        (ev.corruptAt
          "pi_session_path is not the canonical state-relative path")
      let attempt ← ev.spawnAttempt
      return some {
        attempt
        sessionId
        originalCwd
        liveSessionPath := livePath
        status := .pending
        transcriptPath := none
        resumePath := none
        panePath := none
        reportPath := none
        transcriptSha256 := none
        error := none }

/- A launcher-assigned session id, a lowercase UUID. -/
def claudeSessionFromData (ev : Event) :
    Except Error (Option String) :=
  match ev.data.get "claude_session_id" with
  | none | some .null => .ok none
  | some raw =>
      let id := raw.asStr.getD ""
      if Text.uuidShape Text.isLowerHex id then
        .ok (some id)
      else
        .error (ev.corruptAt
          "claude_session_id must be a lowercase hyphenated UUID")

------------------------------------------------------------
-- Run Policies
------------------------------------------------------------

def retentionPolicyFromData (ev : Event) :
    Except Error (Option TmuxRetentionPolicy) :=
  match ev.data.get "tmux_retention" with
  | none => .ok none
  | some v => do
      let policy ←
        orError
          (corruptLog "run.created invalid `tmux_retention`")
          v.asTmuxRetentionPolicy
      refuseIf
        (¬ policy.persistent ∨
          policy.completedWindowTtlSecs = 0 ∨
          policy.completedWindowMax = 0)
        (corruptLog
          "run.created tmux_retention must be persistent with positive ttl/max")
      return some policy

end Event

namespace ResidentPolicy

def maxNameLen : Nat := 48

def validateName (name : String) : Except String Unit :=
  if Text.isSlug maxNameLen name then .ok ()
  else
    .error
      s!"resident name must match [a-z][a-z0-9-]* (at most {maxNameLen} bytes, no trailing or doubled hyphen)"

end ResidentPolicy

namespace Event

def residentPolicyFromData (ev : Event) :
    Except Error (Option ResidentPolicy) :=
  match ev.data.get "resident" with
  | none | some .null => .ok none
  | some raw => do
      let policy ←
        orError
          (ev.corruptAt "run.created invalid `resident`")
          raw.asResidentPolicy
      (ResidentPolicy.validateName policy.name).mapError
        (fun reason =>
          ev.corruptAt
            s!"run.created invalid `resident`: {reason}")
      refuseIf (policy.idleExpirySecs = 0)
        (ev.corruptAt
          "run.created `resident.idle_expiry_secs` must be positive")
      return some policy

end Event

end Taskfleet
