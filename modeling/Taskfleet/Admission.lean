import Taskfleet.Reservation
import Taskfleet.Durable
import Taskfleet.Disk
import Taskfleet.Reducer.Plan

/-
  The admission gate of a state root: what an upgrade looks
  at before it changes anything, what it then does up to the
  start of the activation, and how it ends.

  The survey and the acceptance only read. An upgrade that
  they refuse has written nothing.

  Main declarations:
    * `StateRoot`, `survey`, `UpgradeArgs.accept`
    * `ensureNotInhibited`, `examine`, `commit`, `prepare`
    * `clearInhibit`, `conclude`
    * `refused_unchanged`, `keeps_prepare`, `prepare_marker`
-/

------------------------------------------------------------
-- The State Root
------------------------------------------------------------

namespace Taskfleet

open Fallible

/- The inhibit marker as lstat shows it. -/
structure MarkerFile where
  regular : Bool
  length : Nat
deriving DecidableEq, Repr

/- The marker that an upgrade writes. -/
def MarkerFile.own : MarkerFile where
  regular := true
  length := 0

inductive LockProbe where
| free
| busy
| failed (detail : String)
deriving DecidableEq, Repr

/- What a pid file holds. -/
inductive PidFile where
| unreadable
| record (pid : Nat) (start : Option Time)
    (identity : Option String)
deriving DecidableEq, Repr

/- Whether a process with a start is alive. -/
def LiveProbe : Type :=
  Nat → Option Time → Option String → Bool

def PidFile.live (probe : LiveProbe) : PidFile → Bool
| .unreadable => false
| .record pid start identity => probe pid start identity

def Node.agentLive (probe : LiveProbe) (n : Node) : Bool :=
  n.agentPid.any (fun pid =>
    0 ≤ pid ∧ pid < 2 ^ 32 ∧
      probe pid.toNat n.agentPidStartTime
        n.agentPidStartIdentity = true)

/-
  An entry of `runs`. A launcher script has its name and the
  executable it names, if it names one.
-/
structure RunEntry where
  name : String
  isDir : Bool
  lock : LockProbe
  disk : Disk
  pidFile : Option PidFile
  launchers : List (String × Option String)

/- A worker handshake file, if it can be read. -/
structure HandshakeFile where
  name : String
  content : Option (Nat × Time × String)

/- A directory of `.creating/runs`. -/
structure StagedRun where
  name : Option String
  isDir : Bool
  lock : Option LockProbe
  pidFile : Option PidFile
  nodeFiles : List String
  disk : Disk
  handshakes : List HandshakeFile

/- What a connection to a message socket shows. -/
inductive SocketProbe where
| listens
| refuses
| failed (detail : String)
deriving DecidableEq, Repr

/- An entry of `.creating`. -/
structure StagingEntry where
  name : Option String
  isDir : Bool
  runs : List StagedRun
  hasChildren : Bool
  socket : SocketProbe

structure StateRoot where
  runs : List RunEntry
  staging : List StagingEntry
  leases : String → Option LeaseLiveness
  abandoned : List String
  receipts : List (String × String)

------------------------------------------------------------
-- The Survey
------------------------------------------------------------

structure LiveRun where
  runId : String
  reasons : List String
  stateSchemas : List Nat
  executables : List String

/- An unpublished creation, by its directory and its files. -/
structure CreationState where
  stagingDir : Option StagedRun
  controlFiles : List (String × SocketProbe)

structure Survey where
  checkedRuns : Nat
  live : List LiveRun
  unverifiableRuns : List String
  creations : List (String × CreationState)

def unverifiable (message : String) : CliError :=
  .system "upgrade_state_unverifiable" message none

def admissionIo (path detail : String) : CliError :=
  .system "admission_lock_io" s!"{path}: {detail}" none

def pad4 (n : Nat) : String :=
  let digits := toString n
  String.ofList (List.replicate (4 - digits.length) '0') ++
    digits

/- The nodes of a run, each read in turn. -/
def surveyNodes (env : RunEnv) (d : Disk) :
    List Nat → Except CliError (List Node)
| [] => .ok []
| index :: rest => do
    let id ←
      match NodeId.parseStr ("n-" ++ pad4 index) with
      | .ok id => .ok id
      | .error e =>
          .error (unverifiable
            s!"run {env.runId.val} node index {index}: {e.message}")
    let n ←
      match readNodeOpt env d id with
      | .error e => .error (.core e)
      | .ok none =>
          .error (unverifiable
            s!"missing {id.val} in run {env.runId.val}")
      | .ok (some n) => .ok n
    let others ← surveyNodes env d rest
    return n :: others

/- The executable of each launcher of a run. -/
def launcherExecutables :
    List (String × Option String) →
      Except CliError (List String)
| [] => .ok []
| (name, found) :: rest => do
    let exe ←
      orError
        (unverifiable
          s!"launcher {name} names no worker-handshake executable")
        found
    let others ← launcherExecutables rest
    return exe :: others

/- Why a run is not quiescent. -/
def liveReasons
    (probe : LiveProbe)
    (m : Manifest)
    (nodes : List Node)
    (pidFile : Option PidFile) : List String :=
  [(!m.status.isTerminal, "not_terminal"),
    (nodes.any (Node.agentLive probe), "agent_live"),
    (nodes.any (fun n => n.pendingMerge.isSome),
      "merge_pending"),
    (pidFile.any (PidFile.live probe), "supervisor_live")].filterMap
      (fun hit => if hit.1 then some hit.2 else none)

/- One run: unclassifiable, live, or neither. -/
def surveyRun
    (h : RunId → RunEnv) (probe : LiveProbe)
    (entry : RunEntry) :
    Except CliError (String × Bool × Option LiveRun) := do
  refuseIf (entry.isDir = false)
    (unverifiable s!"unexpected entry in runs: {entry.name}")
  let id ←
    match RunId.parseStr entry.name with
    | .ok id => .ok id
    | .error e =>
        .error (unverifiable
          s!"invalid run entry {entry.name}: {e.message}")
  match entry.lock with
  | .failed detail => .error (admissionIo entry.name detail)
  | .busy =>
      .error (unverifiable s!"busy run {entry.name}; retry")
  | .free => .ok ()
  let m ←
    match readManifestOpt (h id) entry.disk with
    | .error e => .error (.core e)
    | .ok none =>
        .error (unverifiable
          s!"missing manifest for run {entry.name}")
    | .ok (some m) => .ok m
  let nodes ←
    surveyNodes (h id) entry.disk
      ((List.range m.nodeCount).map (fun i => i + 1))
  if entry.pidFile = some .unreadable then
    return (entry.name, true, none)
  let reasons := liveReasons probe m nodes entry.pidFile
  if reasons = [] then return (entry.name, false, none)
  let executables ← launcherExecutables entry.launchers
  return (entry.name, false, some {
    runId := entry.name
    reasons := reasons
    stateSchemas :=
      (m.schemaVersion :: nodes.map Node.schemaVersion).dedup
    executables := executables.dedup })

def surveyRuns
    (h : RunId → RunEnv) (probe : LiveProbe) :
    List RunEntry →
      Except CliError (List (String × Bool × Option LiveRun))
| [] => .ok []
| entry :: rest => do
    let one ← surveyRun h probe entry
    let others ← surveyRuns h probe rest
    return one :: others

/- The run that a control file of a creation names. -/
def controlFileRunId (name : String) : Option String := do
  let rest ← stripPrefix? "message-" name
  match stripSuffix? ".ts" rest with
  | some id => known id
  | none =>
      let stem ← stripSuffix? ".sock" rest
      let parts := stem.splitOn "-"
      let attempt ← parts.getLast?
      if parts.length < 2 ∨ attempt = "" ∨
          attempt.toList.all Char.isDigit = false then none
      else known ("-".intercalate parts.dropLast)
where
  known (id : String) : Option String :=
    (RunId.parseStr id).toOption.map (fun _ => id)
  stripPrefix? (head s : String) : Option String :=
    if head.toList.isPrefixOf s.toList then
      some (String.ofList (s.toList.drop head.length))
    else none
  stripSuffix? (tail s : String) : Option String :=
    if tail.toList.isSuffixOf s.toList then
      some (String.ofList
        (s.toList.take (s.length - tail.length)))
    else none

def unpublished (path : String) : CliError :=
  unverifiable
    s!"unpublished creation state at {path}; inspect/recover before activation"

/- Change the creation of a run id, in the order of the ids. -/
def editCreation
    (id : String) (edit : CreationState → CreationState) :
    List (String × CreationState) →
      List (String × CreationState)
| [] => [(id, edit ⟨none, []⟩)]
| (k, c) :: rest =>
    if id = k then (k, edit c) :: rest
    else if id < k then (id, edit ⟨none, []⟩) :: (k, c) :: rest
    else (k, c) :: editCreation id edit rest

/- The staged runs of `.creating/runs`. -/
def surveyStagedRuns
    (found : List (String × CreationState)) :
    List StagedRun →
      Except CliError (List (String × CreationState))
| [] => .ok found
| run :: rest =>
    match run.name with
    | none => .error (unpublished ".creating/runs")
    | some id =>
        if run.isDir = true ∧
            (RunId.parseStr id).toOption.isSome = true then
          surveyStagedRuns
            (editCreation id
              (fun c => { c with stagingDir := some run }) found)
            rest
        else .error (unpublished id)

/- What `.creating` has: creations, and control files. -/
def surveyEntries
    (found : List (String × CreationState))
    (control : List (String × String × SocketProbe)) :
    List StagingEntry →
      Except CliError
        (List (String × CreationState) ×
          List (String × String × SocketProbe))
| [] => .ok (found, control)
| entry :: rest =>
    match entry.name with
    | none => .error (unpublished ".creating")
    | some name => do
        if name = "pi-sessions" then
          surveyEntries found control rest
        else if name = "logs" ∧ entry.isDir = true ∧
            entry.hasChildren = false then
          surveyEntries found control rest
        else if name = "runs" ∧ entry.isDir = true then
          let found' ← surveyStagedRuns found entry.runs
          surveyEntries found' control rest
        else
          match controlFileRunId name, entry.isDir with
          | some id, false =>
              surveyEntries found
                (control ++ [(id, name, entry.socket)]) rest
          | _, _ => .error (unpublished name)

/- Control files of published runs are none of a creation. -/
def surveyStaging
    (root : StateRoot) (published : List String) :
    Except CliError (List (String × CreationState)) := do
  let (found, control) ← surveyEntries [] [] root.staging
  return control.foldl
    (fun creations file =>
      if published.contains file.1 then creations
      else
        editCreation file.1
          (fun c =>
            { c with
              controlFiles := c.controlFiles ++ [file.2] })
          creations)
    found

def survey
    (h : RunId → RunEnv) (probe : LiveProbe)
    (root : StateRoot) : Except CliError Survey := do
  let runs ← surveyRuns h probe root.runs
  let creations ←
    surveyStaging root (runs.map (fun run => run.1))
  return {
    checkedRuns := runs.length
    live := runs.filterMap (fun run => run.2.2)
    unverifiableRuns :=
      (runs.filter (fun run => run.2.1)).map (fun run => run.1)
    creations := creations }

------------------------------------------------------------
-- Abandoned Creations
------------------------------------------------------------

def creationLive (id why : String) : CliError :=
  .system "upgrade_creation_live"
    s!"creation {id} is not provably abandoned: {why}; admission was not changed"
    none

/- The nodes of a staged run: none of them has a live agent. -/
def probeNodes
    (env : RunEnv) (probe : LiveProbe) (d : Disk) :
    List String → Except CliError Unit
| [] => .ok ()
| name :: rest => do
    let id ←
      orError (unverifiable s!"unexpected node file {name}")
        ((controlFileRunId.stripSuffix? ".json" name).bind
          (fun stem => (NodeId.parseStr stem).toOption))
    let n ←
      match readNodeOpt env d id with
      | .error e => .error (.core e)
      | .ok none =>
          .error (unverifiable
            s!"vanished node {id.val} in {env.runId.val}")
      | .ok (some n) => .ok n
    refuseIf (n.agentLive probe = true)
      (creationLive env.runId.val s!"agent of {id.val} is live")
    probeNodes env probe d rest

def probeHandshakes
    (probe : LiveProbe) (id : String) :
    List HandshakeFile → Except CliError (List String)
| [] => .ok []
| file :: rest => do
    let (pid, start, identity) ←
      orError
        (unverifiable
          s!"unreadable worker handshake {file.name}")
        file.content
    refuseIf (probe pid (some start) (some identity) = true)
      (creationLive id s!"handshaked worker pid {pid} is live")
    let evidence ← probeHandshakes probe id rest
    return ("handshake_worker_dead:" ++ file.name) :: evidence

/- Nothing recorded in a staged run could still write it. -/
def probeStaging
    (h : RunId → RunEnv) (probe : LiveProbe)
    (id : String) (run : StagedRun) :
    Except CliError (List String) := do
  refuseIf (run.isDir = false)
    (unverifiable s!"staging entry {id} is not a directory")
  let lock ←
    match run.lock with
    | none => .ok []
    | some .free => .ok ["staging_lock_free"]
    | some .busy =>
        .error (creationLive id "its staging lock is held")
    | some (.failed detail) => .error (admissionIo id detail)
  let runId ←
    match RunId.parseStr id with
    | .ok runId => .ok runId
    | .error e =>
        .error (unverifiable
          s!"invalid staging run {id}: {e.message}")
  let supervisor ←
    match run.pidFile with
    | none => .ok []
    | some .unreadable =>
        .error (unverifiable
          s!"unreadable supervisor pid record {id}")
    | some (.record pid start identity) =>
        if probe pid start identity then
          .error (creationLive id s!"supervisor pid {pid} is live")
        else .ok ["supervisor_dead"]
  probeNodes (h runId) probe run.disk run.nodeFiles
  let workers ← probeHandshakes probe id run.handshakes
  return lock ++ supervisor ++
    (if run.nodeFiles = [] then []
      else ["recorded_agents_dead"]) ++ workers

def probeSockets (id : String) :
    List (String × SocketProbe) → Except CliError (List String)
| [] => .ok []
| (name, socket) :: rest =>
    if (controlFileRunId.stripSuffix? ".sock" name).isNone then
      probeSockets id rest
    else
      match socket with
      | .listens =>
          .error (creationLive id
            s!"Pi message socket {name} accepts connections")
      | .failed detail =>
          .error (unverifiable
            s!"probe Pi message socket {name}: {detail}")
      | .refuses => do
          let evidence ← probeSockets id rest
          return ("message_socket_refused:" ++ name) :: evidence

def proveAbandoned
    (h : RunId → RunEnv) (probe : LiveProbe)
    (root : StateRoot) (id : String)
    (creation : CreationState) :
    Except CliError (List String) := do
  let staged ←
    match creation.stagingDir with
    | none => .ok []
    | some run => probeStaging h probe id run
  let lease ←
    match root.leases id with
    | none => .ok []
    | some .dead => .ok ["materializer_lease_released"]
    | some .live =>
        .error (creationLive id "its materializer lease is held")
    | some .unverifiable =>
        .error (unverifiable
          s!"materializer lease {id} cannot be probed")
  let sockets ← probeSockets id creation.controlFiles
  return ["admission_exclusive_held"] ++ staged ++ lease ++
    sockets

def abandonDestination (root : StateRoot) (id : String) :
    Except CliError Unit :=
  refuseIf (root.abandoned.contains id = true)
    (unverifiable
      s!"{id} already exists; inspect the earlier abandonment of {id}")

def proveAll
    (h : RunId → RunEnv) (probe : LiveProbe)
    (root : StateRoot) :
    List (String × CreationState) →
      Except CliError (List (String × CreationState))
| [] => .ok []
| (id, creation) :: rest => do
    let _ ← proveAbandoned h probe root id creation
    abandonDestination root id
    let others ← proveAll h probe root rest
    return (id, creation) :: others

------------------------------------------------------------
-- Acceptance
------------------------------------------------------------

structure UpgradeArgs where
  recover : Bool
  confirmQuiescent : Bool
  allowLiveRuns : Bool
  targetStateSchema : Option Nat
  abandonStaleCreations : Bool
  program : String

def joined (ids : List String) : String :=
  ", ".intercalate ids

/- What the survey allows, decided before any change. -/
def UpgradeArgs.accept
    (h : RunId → RunEnv) (probe : LiveProbe)
    (root : StateRoot) (found : Survey) (args : UpgradeArgs) :
    Except CliError (List (String × CreationState)) := do
  refuseIf
    (found.creations ≠ [] ∧ args.abandonStaleCreations = false)
    (unverifiable
      s!"unpublished creation state (creation {joined (found.creations.map Prod.fst)}); inspect it, or pass --abandon-stale-creations to move provably abandoned creations aside")
  let blockers := found.live.map LiveRun.runId
  let blocking := blockers ++ found.unverifiableRuns
  refuseIf (args.allowLiveRuns = false ∧ blocking ≠ [])
    (.system "upgrade_not_quiescent"
      s!"{blocking.length} live, awaiting-input, or recoverable runs block activation: {joined blocking}; --allow-live-runs --target-state-schema <N> accepts them when the target release keeps this state schema"
      none)
  refuseIf (found.unverifiableRuns ≠ [])
    (unverifiable
      s!"unreadable supervisor pid record in runs {joined found.unverifiableRuns}; no override accepts an unclassifiable run")
  if blockers ≠ [] then
    let target ←
      orError
        (.user "upgrade_target_schema_required"
          "--allow-live-runs requires --target-state-schema"
          none)
        args.targetStateSchema
    let mismatched :=
      (found.live.filter
        (fun run => run.stateSchemas.any (fun v => v ≠ target))
          ).map LiveRun.runId
    refuseIf
      (target ≠ stateSchemaVersion ∨ mismatched ≠ [])
      (.system "upgrade_state_schema_incompatible"
        s!"live runs may only cross an upgrade within one state schema: target {target}, this binary {stateSchemaVersion}, mismatched runs [{joined mismatched}]; settle the live runs first"
        none)
  proveAll h probe root found.creations

------------------------------------------------------------
-- The Upgrade
------------------------------------------------------------

/- What the gate protects, and the marker that closes it. -/
structure GateState where
  marker : Option MarkerFile
  root : StateRoot

/- What an upgrade writes, each write at once. -/
inductive GateWrite where
| inhibited
| abandoning (id : String)
| movedAside (id : String)
| restored (id : String)
| receipted (outcome : String)
| cleared
deriving DecidableEq, Repr

abbrev Gated : Type → Type :=
  Durable GateWrite GateState CliError

def inhibitedError : CliError :=
  .system "upgrade_inhibited"
    "worker admission inhibited; inspect activation and descendants, then use run upgrade-lock --recover --confirm-quiescent with a trusted synchronous reconciliation command"
    none

def ensureNotInhibited :
    Option MarkerFile → Except CliError Unit
| none => .ok ()
| some _ => .error inhibitedError

/- The marker that an upgrade, or a recovery, has to find. -/
def checkMarker
    (args : UpgradeArgs) (marker : Option MarkerFile) :
    Except CliError Unit :=
  if args.recover then do
    refuseIf (args.confirmQuiescent = false)
      (.system "upgrade_recovery_unconfirmed"
        "recovery requires --confirm-quiescent after verifying all previous activation writers have stopped"
        none)
    let file ←
      orError
        (.system "upgrade_recovery_unneeded"
          "no inhibited upgrade to recover" none)
        marker
    refuseIf (file.regular = false ∨ file.length ≠ 0)
      (unverifiable "invalid inhibit marker")
  else ensureNotInhibited marker

/- Everything that is decided before the first write. -/
def examine
    (h : RunId → RunEnv) (probe : LiveProbe)
    (args : UpgradeArgs) :
    Gated (Survey × List (String × CreationState)) := do
  let d ← Durable.read
  Durable.lift (checkMarker args d.marker)
  let found ← Durable.lift (survey h probe d.root)
  let proven ←
    Durable.lift (UpgradeArgs.accept h probe d.root found args)
  return (found, proven)

/- The marker is made where there is none. -/
def inhibit : Gated Unit := do
  let d ← Durable.read
  Durable.lift
    (refuseIf (d.marker.isSome = true)
      (admissionIo ".worker-admission-inhibited"
        "file exists"))
  Durable.write .inhibited
    (fun s => { s with marker := some MarkerFile.own })

/- One write to the state root, next to the marker. -/
def editRoot
    (t : GateWrite) (edit : StateRoot → StateRoot) :
    Gated Unit :=
  Durable.write t (fun s => { s with root := edit s.root })

def StateRoot.dropCreation
    (id : String) (root : StateRoot) : StateRoot :=
  { root with
    staging := root.staging.map (fun entry =>
      { entry with
        runs := entry.runs.filter
          (fun run => run.name ≠ some id) }) }

def StateRoot.dropControlFile
    (name : String) (root : StateRoot) : StateRoot :=
  { root with
    staging := root.staging.filter
      (fun entry => entry.name ≠ some name) }

/-
  Rename the directory of a creation aside. It is looked at
  once more where it is now, and put back if a worker lives.
-/
def moveStaging
    (again : String → Except CliError Unit) (id : String) :
    Option StagedRun → Gated Unit
| none => pure ()
| some _ => do
    let d ← Durable.read
    editRoot (.movedAside id) (StateRoot.dropCreation id)
    match again id with
    | .ok () => pure ()
    | .error e => do
        editRoot (.restored id)
          (fun root => { root with staging := d.root.staging })
        Durable.fail e

def moveControlFiles :
    List (String × SocketProbe) → Gated Unit
| [] => pure ()
| file :: rest => do
    editRoot (.movedAside file.1)
      (StateRoot.dropControlFile file.1)
    moveControlFiles rest

def moveAside
    (again : String → Except CliError Unit)
    (creation : String × CreationState) : Gated Unit := do
  let d ← Durable.read
  Durable.lift (abandonDestination d.root creation.1)
  editRoot (.abandoning creation.1)
    (fun root =>
      { root with abandoned := creation.1 :: root.abandoned })
  moveStaging again creation.1 creation.2.stagingDir
  moveControlFiles creation.2.controlFiles

def writeReceipt (id outcome : String) : Gated Unit :=
  editRoot (.receipted outcome)
    (fun root =>
      { root with
        receipts :=
          (id, outcome) ::
            root.receipts.filter
              (fun receipt => receipt.1 ≠ id) })

def moveAllAside
    (again : String → Except CliError Unit) :
    List (String × CreationState) → Gated Unit
| [] => pure ()
| creation :: rest => do
    moveAside again creation
    moveAllAside again rest

/- A receipt is written only if something was overridden. -/
def recordOverrides
    (again : String → Except CliError Unit)
    (receiptId : String)
    (found : Survey)
    (proven : List (String × CreationState)) :
    Gated (Option String) := do
  moveAllAside again proven
  if found.live = [] ∧ proven = [] then return none
  writeReceipt receiptId "activating"
  return some receiptId

/- The writes up to the start of the activation. -/
def commit
    (again : String → Except CliError Unit)
    (args : UpgradeArgs) (receiptId : String)
    (found : Survey)
    (proven : List (String × CreationState)) :
    Gated (Option String) :=
  if args.recover then
    recordOverrides again receiptId found proven
  else do
    inhibit
    recordOverrides again receiptId found proven

def prepare
    (h : RunId → RunEnv) (probe : LiveProbe)
    (again : String → Except CliError Unit)
    (args : UpgradeArgs) (receiptId : String) :
    Gated (Option String) := do
  let decided ← examine h probe args
  commit again args receiptId decided.1 decided.2

/- The outcome is put in the receipt, if there is one. -/
def writeOutcome (outcome : String) :
    Option String → Gated Unit
| none => pure ()
| some id => writeReceipt id outcome

def markerChanged : CliError :=
  unverifiable
    "inhibit marker changed; admission remains blocked"

/- Only the upgrade's own marker is removed. -/
def clearInhibit : Gated Unit := do
  let d ← Durable.read
  let file ←
    Durable.lift
      (orError
        (admissionIo ".worker-admission-inhibited"
          "no such file")
        d.marker)
  Durable.lift
    (refuseIf (file.regular = false ∨ file.length ≠ 0)
      markerChanged)
  Durable.write .cleared (fun s => { s with marker := none })

/- The end of an activation that reported success. -/
def conclude (receipt : Option String) : Gated Unit := do
  clearInhibit
  writeOutcome "completed" receipt

------------------------------------------------------------
-- Refusals
------------------------------------------------------------

section Refusals

variable {h : RunId → RunEnv} {probe : LiveProbe}
variable {again : String → Except CliError Unit}
variable {args : UpgradeArgs} {receiptId : String}
variable {s : GateState} {e : CliError}

/- What the survey or the acceptance answers with an error. -/
def SurveyRefuses
    (h : RunId → RunEnv) (probe : LiveProbe)
    (args : UpgradeArgs) (root : StateRoot) (e : CliError) :
    Prop :=
  survey h probe root = .error e ∨
    ∃ found, survey h probe root = .ok found ∧
      UpgradeArgs.accept h probe root found args = .error e

/- An upgrade that they refuse writes nothing. -/
theorem wp_refused
    (hMarker : checkMarker args s.marker = .ok ())
    (hRefused : SurveyRefuses h probe args s.root e) :
    (prepare h probe again args receiptId).wp
      (fun _ _ => False) (fun e' s' => e' = e ∧ s' = s)
      (fun _ s' => s' = s) s := by
  simp only [prepare, examine, Durable.wp_bind,
    Durable.wp_read, hMarker, Durable.wp_lift_ok]
  rcases hRefused with hSurvey | ⟨found, hSurvey, hAccept⟩
  · simp [hSurvey]
  · simp [hSurvey, hAccept]

theorem refused_unchanged
    {s' : GateState}
    (hMarker : checkMarker args s.marker = .ok ())
    (hRefused : SurveyRefuses h probe args s.root e)
    (hLeaves :
      (prepare h probe again args receiptId).Leaves s s') :
    s' = s :=
  Durable.wp_leaves
    (I := fun s' => s' = s)
    (Durable.wp_mono (wp_refused hMarker hRefused)
      (fun _ _ => False.elim) (fun _ _ h => h.2)
      (fun _ _ h => h))
    hLeaves

end Refusals

------------------------------------------------------------
-- The Marker
------------------------------------------------------------

/- A marker stands. -/
def GateState.Shut (s : GateState) : Prop :=
  s.marker ≠ none

section Marker

variable {h : RunId → RunEnv} {probe : LiveProbe}
variable {again : String → Except CliError Unit}
variable {args : UpgradeArgs} {receiptId : String}
variable {s : GateState} {receipt : Option String}

open Durable

theorem ensureNotInhibited_shut (hShut : s.Shut) :
    ensureNotInhibited s.marker = .error inhibitedError := by
  cases hMarker : s.marker with
  | none => exact absurd hMarker hShut
  | some file => rfl

theorem keeps_editRoot
    (t : GateWrite) (edit : StateRoot → StateRoot) :
    Keeps GateState.Shut (editRoot t edit) :=
  Keeps.write (fun _ hShut => hShut)

theorem keeps_writeOutcome (outcome : String) :
    Keeps GateState.Shut (writeOutcome outcome receipt) := by
  cases receipt with
  | none => exact Keeps.pure ()
  | some id => exact keeps_editRoot _ _

theorem keeps_moveStaging
    (id : String) (run : Option StagedRun) :
    Keeps GateState.Shut (moveStaging again id run) := by
  cases run with
  | none => exact Keeps.pure ()
  | some run =>
      apply Keeps.read
      intro d _
      apply Keeps.bind (keeps_editRoot _ _)
      intro _
      cases again id with
      | ok _ => exact Keeps.pure ()
      | error e =>
          apply Keeps.bind (keeps_editRoot _ _)
          intro _
          exact Keeps.fail e

theorem keeps_moveControlFiles
    (files : List (String × SocketProbe)) :
    Keeps GateState.Shut (moveControlFiles files) := by
  induction files with
  | nil => exact Keeps.pure ()
  | cons file rest ih =>
      apply Keeps.bind (keeps_editRoot _ _)
      intro _
      exact ih

theorem keeps_moveAllAside
    (proven : List (String × CreationState)) :
    Keeps GateState.Shut (moveAllAside again proven) := by
  induction proven with
  | nil => exact Keeps.pure ()
  | cons creation rest ih =>
      apply Keeps.bind
      · apply Keeps.read
        intro d _
        apply Keeps.bind (Keeps.lift _)
        intro _
        apply Keeps.bind (keeps_editRoot _ _)
        intro _
        apply Keeps.bind (keeps_moveStaging _ _)
        intro _
        exact keeps_moveControlFiles _
      · intro _
        exact ih

theorem keeps_inhibit : Keeps GateState.Shut inhibit := by
  apply Keeps.read
  intro d _
  apply Keeps.bind (Keeps.lift _)
  intro _
  apply Keeps.write
  intro s _ hNone
  cases hNone

theorem keeps_recordOverrides
    (found : Survey) (proven : List (String × CreationState)) :
    Keeps GateState.Shut
      (recordOverrides again receiptId found proven) := by
  apply Keeps.bind (keeps_moveAllAside proven)
  intro _
  apply Keeps.ite
  · intro _
    exact Keeps.pure _
  · intro _
    apply Keeps.bind (keeps_editRoot _ _)
    intro _
    exact Keeps.pure _

theorem keeps_examine :
    Keeps GateState.Shut (examine h probe args) := by
  apply Keeps.read
  intro d _
  apply Keeps.bind (Keeps.lift _)
  intro _
  apply Keeps.bind (Keeps.lift _)
  intro found
  apply Keeps.bind (Keeps.lift _)
  intro proven
  exact Keeps.pure _

/- A marker that stands is left standing. -/
theorem keeps_prepare :
    Keeps GateState.Shut
      (prepare h probe again args receiptId) := by
  apply Keeps.bind keeps_examine
  intro decided
  apply Keeps.ite
  · intro _
    exact keeps_recordOverrides _ _
  · intro _
    apply Keeps.bind keeps_inhibit
    intro _
    exact keeps_recordOverrides _ _

theorem checkMarker_recover
    (hRecover : args.recover = true)
    (hOk : checkMarker args s.marker = .ok ()) : s.Shut := by
  intro hNone
  simp [checkMarker, hRecover, hNone] at hOk

theorem checkMarker_activate
    (hActivate : args.recover = false)
    (hOk : checkMarker args s.marker = .ok ()) :
    s.marker = none := by
  cases hMarker : s.marker with
  | none => rfl
  | some file =>
      simp [checkMarker, hActivate, hMarker,
        ensureNotInhibited] at hOk

/- What is examined is left as it is. -/
theorem wp_examine :
    (examine h probe args).wp
      (fun _ s' =>
        s' = s ∧ checkMarker args s.marker = .ok ())
      (fun _ s' => s' = s) (fun _ s' => s' = s) s := by
  simp only [examine, wp_bind, wp_read]
  cases hMarker : checkMarker args s.marker with
  | error e => simp
  | ok _ =>
      rw [wp_lift_ok, wp_lift]
      split
      · rw [wp_lift]
        split
        · simp
        · rfl
      · rfl

/- The marker is there once it could be made. -/
theorem wp_inhibit :
    inhibit.wp (fun _ s' => s'.Shut) (fun _ _ => True)
      (fun _ _ => True) s := by
  simp only [inhibit, wp_bind, wp_read, wp_write]
  rw [wp_lift]
  split
  · simp [GateState.Shut]
  · trivial

theorem wp_commit
    (found : Survey) (proven : List (String × CreationState))
    (hMarker : args.recover = true → s.Shut) :
    (commit again args receiptId found proven).wp
      (fun _ s' => s'.Shut) (fun _ _ => True)
      (fun _ _ => True) s := by
  have hRest : ∀ s' : GateState, s'.Shut →
      (recordOverrides again receiptId found proven).wp
        (fun _ s' => s'.Shut) (fun _ _ => True)
        (fun _ _ => True) s' := by
    intro s' hShut
    apply wp_mono (keeps_recordOverrides found proven s' hShut)
    · exact fun _ _ h => h
    · exact fun _ _ _ => trivial
    · exact fun _ _ _ => trivial
  unfold commit
  split
  next hRecover => exact hRest s (hMarker hRecover)
  next =>
    rw [wp_bind]
    apply wp_mono wp_inhibit
    · exact fun _ s' hShut => hRest s' hShut
    · exact fun _ _ h => h
    · exact fun _ _ h => h

/-
  An upgrade that may activate has found the marker that it
  has to find, and leaves one.
-/
theorem wp_prepare :
    (prepare h probe again args receiptId).wp
      (fun _ s' =>
        checkMarker args s.marker = .ok () ∧ s'.Shut)
      (fun _ _ => True) (fun _ _ => True) s := by
  rw [prepare, wp_bind]
  apply wp_mono wp_examine
  · rintro decided s' ⟨rfl, hOk⟩
    apply wp_mono
      (wp_commit decided.1 decided.2
        (fun hRecover => checkMarker_recover hRecover hOk))
    · exact fun _ _ hShut => ⟨hOk, hShut⟩
    · exact fun _ _ h => h
    · exact fun _ _ h => h
  · exact fun _ _ _ => trivial
  · exact fun _ _ _ => trivial

theorem prepare_marker
    (hOk : (prepare h probe again args receiptId).result s =
      .ok receipt) :
    checkMarker args s.marker = .ok () ∧
      ((prepare h probe again args receiptId).final s).Shut :=
  wp_ok wp_prepare hOk

theorem wp_writeOutcome (outcome : String) (s : GateState) :
    (writeOutcome outcome receipt).wp (fun _ _ => True)
      (fun _ _ => False) (fun _ _ => True) s := by
  cases receipt with
  | none => simp [writeOutcome]
  | some id => simp [writeOutcome, writeReceipt, editRoot]

/- A conclusion that fails has changed nothing. -/
theorem wp_conclude :
    (conclude receipt).wp (fun _ _ => True)
      (fun _ s' => s' = s) (fun _ _ => True) s := by
  simp only [conclude, clearInhibit, wp_bind, wp_read]
  rw [wp_lift]
  split
  · rw [wp_lift]
    split
    · rw [wp_write]
      apply And.intro trivial
      apply wp_mono (wp_writeOutcome _ _)
      · exact fun _ _ h => h
      · exact fun _ _ => False.elim
      · exact fun _ _ h => h
    · rfl
  · rfl

theorem conclude_error
    {e : CliError}
    (hError : (conclude receipt).result s = .error e) :
    (conclude receipt).final s = s :=
  wp_error wp_conclude hError

end Marker

end Taskfleet
