import Taskfleet.Disk
import Taskfleet.Fallible

/-
  The advisory samples beside the event-sourced state: one
  file a node, replaced under the run lock by an update that
  names the node's current attempt, and classified on read.

  The sizes of serialized requests and samples and the last
  instant that the calendar library represents are
  parameters. Link checks and other failures of the file
  system are left out.

  Main declarations:
    * `TelemetryUpdate`, `StoredTelemetrySample`
    * `updateTelemetryWithClock`
    * `readTelemetryLocked`, `readTelemetryWithClock`
    * `updateTelemetry_attempt`, `readTelemetry_attempt`
-/

------------------------------------------------------------
-- Samples
------------------------------------------------------------

namespace Taskfleet

open Fallible

def telemetrySchemaVersion : Nat := 1
def telemetryProtocolVersion : Nat := 1
def telemetryMaxBytes : Nat := 4 * 1024

/- How long a sample stays current, in nanoseconds. -/
def telemetryFreshness : Time := 90 * 10 ^ 9

inductive TelemetryState where
| agentActive
| toolRunning
| settled
| shutdown
deriving DecidableEq, Repr

structure TelemetryUpdate where
  schemaVersion : Nat
  protocolVersion : Nat
  runId : RunId
  nodeId : NodeId
  attempt : Nat
  state : TelemetryState
  activeToolCount : Option Nat
  toolName : Option String
deriving DecidableEq, Repr

structure StoredTelemetrySample where
  schemaVersion : Nat
  protocolVersion : Nat
  runId : RunId
  nodeId : NodeId
  attempt : Nat
  state : TelemetryState
  activeToolCount : Option Nat
  toolName : Option String
  stateSince : Time
  receivedAt : Time
  expiresAt : Time
deriving DecidableEq, Repr

structure TelemetryAccepted where
  accepted : Bool
  runId : RunId
  nodeId : NodeId
  attempt : Nat
  receivedAt : Time
  expiresAt : Time
deriving DecidableEq, Repr

inductive TelemetryError where
| core (e : Error)
| tooLarge (what : String) (bytes : Nat)
| unsupportedSchema (found : Nat)
| unsupportedProtocol (found : Nat)
| invalidMetadata (reason : String)
| runMismatch (expected found : RunId)
| runStateNotCurrent
| nodeNotFound (nodeId : NodeId)
| terminalNode (nodeId : NodeId) (status : Status)
| attemptMismatch (expected found : Nat)
| clockOverflow
deriving DecidableEq, Repr

/- What the file of a node holds. -/
inductive StoredRead where
| absent
| corrupt
| valid (sample : StoredTelemetrySample)
deriving DecidableEq, Repr

/- The sample files of a run. -/
abbrev TelemetryDir := NodeId → StoredRead

/- Serialized sizes, and the end of the calendar. -/
structure TelemetryEnv where
  requestBytes : TelemetryUpdate → Nat
  sampleBytes : StoredTelemetrySample → Nat
  maxTime : Time

------------------------------------------------------------
-- Validation
------------------------------------------------------------

def validToolName (name : String) : Bool :=
  1 ≤ name.utf8ByteSize && name.utf8ByteSize ≤ 64 &&
    name.toList.all (fun c =>
      c.isAlphanum || c == '_' || c == '.' || c == ':' ||
        c == '-')

def validateMetadata
    (state : TelemetryState)
    (count : Option Nat)
    (name : Option String) : Except TelemetryError Unit := do
  refuseIf
    (state ≠ .toolRunning ∧ (count.isSome ∨ name.isSome))
    (.invalidMetadata
      "tool metadata is allowed only for tool_running")
  refuseIf (count.any (fun c => ¬ (1 ≤ c ∧ c ≤ 32)))
    (.invalidMetadata
      "active_tool_count must be between 1 and 32")
  match name with
  | none => return ()
  | some name =>
      refuseIf (count ≠ some 1)
        (.invalidMetadata
          "tool_name requires active_tool_count=1")
      refuseIf (¬ validToolName name)
        (.invalidMetadata
          "tool_name must match ^[A-Za-z0-9_.:-]\x7b1,64\x7d$")

def validateUpdateShape (update : TelemetryUpdate) :
    Except TelemetryError Unit := do
  refuseIf (update.schemaVersion ≠ telemetrySchemaVersion)
    (.unsupportedSchema update.schemaVersion)
  refuseIf (update.protocolVersion ≠ telemetryProtocolVersion)
    (.unsupportedProtocol update.protocolVersion)
  validateMetadata update.state update.activeToolCount
    update.toolName

def ensureSize (what : String) (bytes : Nat) :
    Except TelemetryError Unit :=
  refuseIf (¬ bytes ≤ telemetryMaxBytes)
    (.tooLarge what bytes)

/- The end of freshness, where the calendar has it. -/
def TelemetryEnv.expiry (tenv : TelemetryEnv) (t : Time) :
    Option Time :=
  if t + telemetryFreshness ≤ tenv.maxTime then
    some (t + telemetryFreshness)
  else none

def validStoredShape
    (tenv : TelemetryEnv)
    (env : RunEnv)
    (id : NodeId)
    (sample : StoredTelemetrySample) : Bool :=
  sample.schemaVersion == telemetrySchemaVersion &&
    sample.protocolVersion == telemetryProtocolVersion &&
    sample.runId == env.runId &&
    sample.nodeId == id &&
    tenv.expiry sample.receivedAt == some sample.expiresAt &&
    (validateMetadata sample.state sample.activeToolCount
      sample.toolName).isOk

/- The watermark has reached the end of the log. -/
def canonicalProjectionsCurrent (env : RunEnv) (d : Disk) :
    Except Error Bool := do
  match ← readManifestOpt env d with
  | none => return false
  | some m =>
      return m.appliedSeq = (← recoverLastSeq d.lines)

------------------------------------------------------------
-- Update
------------------------------------------------------------

/- The start of the told state, kept while it is repeated. -/
def stateSince
    (tenv : TelemetryEnv)
    (env : RunEnv)
    (update : TelemetryUpdate)
    (now : Time) : StoredRead → Time
| .valid sample =>
    if validStoredShape tenv env update.nodeId sample ∧
        sample.attempt = update.attempt ∧
        sample.state = update.state then
      sample.stateSince
    else now
| .absent | .corrupt => now

/- The sample an accepted update stores. -/
def TelemetryUpdate.sample
    (update : TelemetryUpdate)
    (since now expiresAt : Time) : StoredTelemetrySample where
  schemaVersion := telemetrySchemaVersion
  protocolVersion := telemetryProtocolVersion
  runId := update.runId
  nodeId := update.nodeId
  attempt := update.attempt
  state := update.state
  activeToolCount := update.activeToolCount
  toolName := update.toolName
  stateSince := since
  receivedAt := now
  expiresAt := expiresAt

/-
  Replace the sample of a live node in its current attempt.
  The event log and the projections are only read.
-/
def updateTelemetryWithClock
    (tenv : TelemetryEnv)
    (env : RunEnv)
    (d : Disk)
    (dir : TelemetryDir)
    (update : TelemetryUpdate)
    (now : Time) :
    Except TelemetryError
      (TelemetryAccepted × TelemetryDir) := do
  validateUpdateShape update
  ensureSize "normalized request" (tenv.requestBytes update)
  refuseIf (update.runId ≠ env.runId)
    (.runMismatch env.runId update.runId)
  let current ←
    (canonicalProjectionsCurrent env d).mapError .core
  refuseIf (¬ current) .runStateNotCurrent
  let n ←
    orError (.nodeNotFound update.nodeId)
      (← (readNodeOpt env d update.nodeId).mapError .core)
  refuseIf n.status.isTerminal
    (.terminalNode n.nodeId n.status)
  refuseIf (update.attempt ≠ n.retryAttempts)
    (.attemptMismatch n.retryAttempts update.attempt)
  let expiresAt ← orError .clockOverflow (tenv.expiry now)
  let since :=
    stateSince tenv env update now (dir update.nodeId)
  let sample := update.sample since now expiresAt
  ensureSize "stored sample" (tenv.sampleBytes sample)
  return ({
      accepted := true
      runId := update.runId
      nodeId := update.nodeId
      attempt := update.attempt
      receivedAt := now
      expiresAt },
    Function.update dir update.nodeId (.valid sample))

------------------------------------------------------------
-- Read
------------------------------------------------------------

inductive TelemetrySampleStatus where
| absent
| current
| stale
| clockUnreliable
| invalid
deriving DecidableEq, Repr

structure TelemetryView where
  sample : TelemetrySampleStatus
  state : Option TelemetryState
  ageMs : Option Int
  stateElapsedMs : Option Int
  attempt : Option Nat
  activeToolCount : Option Nat
  toolName : Option String
deriving DecidableEq, Repr

def TelemetryView.bare (sample : TelemetrySampleStatus) :
    TelemetryView :=
  ⟨sample, none, none, none, none, none, none⟩

def numMilliseconds (t : Time) : Int := t.tdiv (10 ^ 6)

def readNode (env : RunEnv) (d : Disk) (id : NodeId) :
    Except Error Node := do
  orError (.missingFile (.node id)) (← readNodeOpt env d id)

/- The view of a sample of the current attempt. -/
def StoredTelemetrySample.view
    (sample : StoredTelemetrySample) (now : Time) :
    TelemetryView :=
  let clockBad :=
    now < sample.receivedAt ∨ now < sample.stateSince
  { sample :=
      if clockBad then .clockUnreliable
      else if sample.expiresAt ≤ now then .stale
      else .current
    state := some sample.state
    ageMs :=
      if clockBad then none
      else some (numMilliseconds (now - sample.receivedAt))
    stateElapsedMs :=
      if clockBad then none
      else some (numMilliseconds (now - sample.stateSince))
    attempt := some sample.attempt
    activeToolCount := sample.activeToolCount
    toolName := sample.toolName }

/- A sample of another attempt reads as absent. -/
def readTelemetryLocked
    (tenv : TelemetryEnv)
    (env : RunEnv)
    (d : Disk)
    (dir : TelemetryDir)
    (id : NodeId)
    (now : Time) : Except Error TelemetryView := do
  let n ← readNode env d id
  match dir id with
  | .absent => return .bare .absent
  | .corrupt => return .bare .invalid
  | .valid sample =>
      if ¬ validStoredShape tenv env id sample then
        return .bare .invalid
      else if sample.attempt ≠ n.retryAttempts then
        return .bare .absent
      else return sample.view now

def readTelemetryWithClock
    (tenv : TelemetryEnv)
    (env : RunEnv)
    (d : Disk)
    (dir : TelemetryDir)
    (id : NodeId)
    (now : Time) : Except TelemetryError TelemetryView := do
  let current ←
    (canonicalProjectionsCurrent env d).mapError .core
  refuseIf (¬ current) .runStateNotCurrent
  (readTelemetryLocked tenv env d dir id now).mapError .core

------------------------------------------------------------
-- Attempts
------------------------------------------------------------

section Attempts

variable {tenv : TelemetryEnv} {env : RunEnv} {d : Disk}
variable {dir dir' : TelemetryDir} {now : Time}

/-
  An accepted update names the current attempt of a live
  node, and leaves the samples of all other nodes.
-/
theorem updateTelemetry_attempt
    {update : TelemetryUpdate}
    {accepted : TelemetryAccepted}
    (hRun : updateTelemetryWithClock tenv env d dir update
      now = .ok (accepted, dir')) :
    ∃ n, d.nodes.lookup update.nodeId = some n ∧
      n.status.isTerminal = false ∧
      update.attempt = n.retryAttempts ∧
      ∀ id, id ≠ update.nodeId → dir' id = dir id := by
  unfold updateTelemetryWithClock at hRun
  simp only [bind_eq_ok, refuseIf_eq_ok, orError_eq_ok,
    mapError_eq_ok, pure_eq, Except.ok.injEq,
    Prod.mk.injEq] at hRun
  rcases hRun with
    ⟨_, _, _, _, _, _, _, _, _, _, read, hRead, n, hNode, _,
      hLive, _, hAttempt, _, _, _, _, _, hDir⟩
  rw [hNode] at hRead
  have hLookup : d.nodes.lookup update.nodeId = some n := by
    unfold readNodeOpt at hRead
    split at hRead
    · cases hRead
    next n' hSome =>
      simp only [bind_eq_ok, pure_eq, Except.ok.injEq,
        Option.some.injEq] at hRead
      rcases hRead with ⟨_, _, _, _, _, _, hSame⟩
      rw [hSome, hSame]
  apply Exists.intro n
  apply And.intro hLookup
  apply And.intro (by simpa using hLive)
  apply And.intro (by simpa using hAttempt)
  intro id hOther
  rw [← hDir, Function.update_of_ne hOther]

/- What is shown of a sample is of the current attempt. -/
theorem readTelemetry_attempt
    {id : NodeId}
    {n : Node}
    {view : TelemetryView}
    (hLookup : d.nodes.lookup id = some n)
    (hRead : readTelemetryLocked tenv env d dir id now =
      .ok view) :
    view.attempt = some n.retryAttempts ∨
      ∃ status, view = .bare status := by
  have hNode : ∀ n', readNode env d id = .ok n' → n' = n := by
    intro n' hFound
    simp only [readNode, readNodeOpt, hLookup, bind_eq_ok,
      orError_eq_ok, pure_eq, Except.ok.injEq] at hFound
    rcases hFound with ⟨_, ⟨_, _, _, _, _, _, hSome⟩, hSame⟩
    rw [← hSome, Option.some.injEq] at hSame
    exact hSame.symm
  unfold readTelemetryLocked at hRead
  simp only [bind_eq_ok] at hRead
  rcases hRead with ⟨n', hFound, hRest⟩
  rw [hNode n' hFound] at hRest
  split at hRest
  · cases hRest
    exact .inr ⟨_, rfl⟩
  · cases hRest
    exact .inr ⟨_, rfl⟩
  split at hRest
  · cases hRest
    exact .inr ⟨_, rfl⟩
  split at hRest
  · cases hRest
    exact .inr ⟨_, rfl⟩
  next hAttempt =>
    cases hRest
    rw [not_not] at hAttempt
    exact .inl (congrArg some hAttempt)

end Attempts

end Taskfleet
