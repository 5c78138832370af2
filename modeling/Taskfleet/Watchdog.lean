import Taskfleet.Attempts
import Taskfleet.Cleanup
import Taskfleet.PidFile
import Taskfleet.Quarantine
import Taskfleet.Retries
import Taskfleet.Utf8
import Taskfleet.Verdict

/-
  The watchdog of a supervisor: what it makes of the process
  of a worker, and what it records of one that is gone.

  A tick looks at the nodes under a shared lock, asks the
  host about their processes without one, and records what
  it found under the lock again, where it looks once more.

  Main declarations:
    * `Watchdog.checkLiveness`, `Watchdog.dead_iff`
    * `watchdogScan`, `Watchdog.Suspect.judgement`
    * `nodeIsEmptyHanded`, `nodeRecoverability`
    * `synthesizeWorkerExitFailure`
    * `synthesizeCrashBackstopFailure`
    * `terminalizeRespawnFailure`, `recordRetry`
-/

------------------------------------------------------------
-- Windows
------------------------------------------------------------

namespace Taskfleet

open Fallible

namespace Watchdog

inductive TmuxProbe where
| present
| absent
| unknown
deriving DecidableEq, Repr

/- What one tmux server said of its windows. -/
inductive SocketWindows where
| reachable (ids names : List String)
| unreachable
deriving DecidableEq, Repr

inductive ProbeOutcome where
| ok (stdout : Bytes)
| nonZero
| spawnErr
| timedOut

def trimAscii (bs : Bytes) : Bytes :=
  ((bs.dropWhile Physical.isAsciiWhitespace).reverse.dropWhile
    Physical.isAsciiWhitespace).reverse

/- The separator of a window and its name, `|`. -/
def windowBar : UInt8 := 124

/-
  One line of the listing. A line without a separator is a
  window; an empty window is left out, an empty name is not.
-/
def addWindow
    (seen : List String × List String) (line : Bytes) :
    List String × List String :=
  let line := trimAscii line
  if line.isEmpty then seen
  else
    match line.span (fun b => b != windowBar) with
    | (id, _ :: name) =>
        let id := trimAscii id
        let name := Utf8.lossy (trimAscii name)
        if id.isEmpty then (seen.1, name :: seen.2)
        else (Utf8.lossy id :: seen.1, name :: seen.2)
    | (_, []) => (Utf8.lossy line :: seen.1, seen.2)

def probeSocket : ProbeOutcome → SocketWindows
| .ok stdout =>
    let seen :=
      (stdout.splitOn (10 : UInt8)).foldl addWindow ([], [])
    .reachable seen.1 seen.2
| .nonZero | .spawnErr | .timedOut => .unreachable

/- The sockets that a tick has asked, and their answers. -/
abbrev TmuxSnapshot :=
  Option String → Option SocketWindows

namespace TmuxSnapshot

def collect
    (sockets : List (Option String))
    (answers : Option String → ProbeOutcome) : TmuxSnapshot :=
  fun socket =>
    if sockets.contains socket then
      some (Watchdog.probeSocket (answers socket))
    else none

def lookupQualified
    (tmux : TmuxSnapshot) (identity : TmuxIdentity) :
    TmuxProbe :=
  match tmux identity.socket with
  | some (.reachable ids _) =>
      if identity.windowId ∈ ids then .present else .absent
  | some .unreachable | none => .unknown

/- By name, on the default server. -/
def lookupByName
    (tmux : TmuxSnapshot) (window : String) : TmuxProbe :=
  match tmux none with
  | some (.reachable _ names) =>
      if window ∈ names then .present else .absent
  | some .unreachable | none => .unknown

end TmuxSnapshot

------------------------------------------------------------
-- Liveness
------------------------------------------------------------

/- What the host answers when asked about a process. -/
structure Processes where
  present : Nat → Bool
  startIdentity : Nat → Option String
  startTime : Nat → Option Nat

def Processes.pidAlive
    (procs : Processes) (pid : Nat) : Bool :=
  (toPidT pid).any procs.present

/- What a node recorded about its worker. -/
structure AgentProbe where
  pid : Nat
  start : RecordedStart
  tmuxWindow : Option String
  tmuxIdentity : Option TmuxIdentity
  skipTmuxCheck : Bool
deriving DecidableEq

namespace AgentProbe

/- The socket that is asked for the probe, if any. -/
def probeSocket (probe : AgentProbe) :
    Bool × Option String :=
  if probe.skipTmuxCheck then (false, none)
  else
    match probe.tmuxIdentity with
    | some identity => (true, identity.socket)
    | none => (probe.tmuxWindow.isSome, none)

end AgentProbe

def TmuxSnapshot.probeVerdict
    (tmux : TmuxSnapshot) (probe : AgentProbe) :
    Option TmuxProbe :=
  if probe.skipTmuxCheck then none
  else
    match probe.tmuxIdentity with
    | some identity => some (tmux.lookupQualified identity)
    | none => probe.tmuxWindow.map tmux.lookupByName

def checkLiveness
    (procs : Processes)
    (probe : AgentProbe)
    (tmux : TmuxSnapshot) : Liveness :=
  if ¬ procs.pidAlive probe.pid then .dead
  else if
    probe.start.matchesPid (procs.startIdentity probe.pid)
      (procs.startTime probe.pid) = some false then .recycled
  else
    match tmux.probeVerdict probe with
    | some .absent => .tmuxGone
    | some .present | some .unknown | none => .alive

/-
  For an interactive worker the window decides over a process
  that is gone, where there is a window to ask for.
-/
def checkLivenessForLifecycle
    (procs : Processes)
    (probe : AgentProbe)
    (tmux : TmuxSnapshot)
    (interactive : Bool) : Liveness :=
  let verdict := checkLiveness procs probe tmux
  if ¬ interactive ∨ probe.skipTmuxCheck then verdict
  else
    match verdict with
    | .dead | .recycled =>
        match tmux.probeVerdict probe with
        | some .absent => .tmuxGone
        | some .present | some .unknown => .alive
        | none => verdict
    | other => other

/- The process of the probe is not the one recorded. -/
def Processes.Gone
    (procs : Processes) (probe : AgentProbe) : Prop :=
  procs.pidAlive probe.pid = false ∨
    probe.start.matchesPid (procs.startIdentity probe.pid)
      (procs.startTime probe.pid) = some false

def confirmedDead : Liveness → Bool
| .dead | .recycled => true
| .alive | .tmuxGone => false

/- No answer of tmux makes a process dead or keeps it alive. -/
theorem dead_iff
    (procs : Processes)
    (probe : AgentProbe)
    (tmux : TmuxSnapshot) :
    confirmedDead
        (checkLivenessForLifecycle procs probe tmux false) =
          true ↔
      procs.Gone probe := by
  unfold checkLivenessForLifecycle checkLiveness
    Processes.Gone
  rw [if_pos (.inl (by simp))]
  cases hAlive : procs.pidAlive probe.pid with
  | false => simp [confirmedDead]
  | true =>
      rw [if_neg (by simp)]
      split
      next hOther => simp [confirmedDead, hOther]
      next hSame =>
        rw [or_iff_right (by simp)]
        cases tmux.probeVerdict probe with
        | none => simp [confirmedDead, hSame]
        | some answer =>
            cases answer <;> simp [confirmedDead, hSame]

/- The sockets of the probes of a tick. -/
def socketsOf (probes : List AgentProbe) :
    List (Option String) :=
  probes.filterMap (fun probe =>
    if probe.probeSocket.1 then some probe.probeSocket.2
    else none)

/- A probe finds its own socket among those asked. -/
theorem collected
    {probes : List AgentProbe} {probe : AgentProbe}
    (answers : Option String → ProbeOutcome)
    (hMem : probe ∈ probes)
    (hProbes : probe.probeSocket.1 = true) :
    TmuxSnapshot.collect (socketsOf probes) answers
        probe.probeSocket.2 =
      some (probeSocket (answers probe.probeSocket.2)) := by
  unfold TmuxSnapshot.collect
  apply if_pos
  unfold socketsOf
  rw [List.contains_iff_mem, List.mem_filterMap]
  exact ⟨probe, hMem, if_pos hProbes⟩

end Watchdog

def Liveness.reason : Liveness → String
| .alive => "alive"
| .dead => "agent-died"
| .recycled => "agent-pid-recycled"
| .tmuxGone => "agent-tmux-window-gone"

------------------------------------------------------------
-- Settings
------------------------------------------------------------

def second : Int := 1000000000

/- A number of the environment, or else the default. -/
def envNumber
    (bits default : Nat) (v : Option String) : Nat :=
  (v.bind (fun s =>
    Text.parseUnsigned bits (Text.trim s))).getD default

structure WatchdogConfig where
  spawnGrace : Nat
  deathGrace : Nat
  retryMaxAttempts : Nat
  retryBackoff : Nat
  respawnMaxFailures : Nat
deriving DecidableEq

def WatchdogConfig.fromEnv
    (var : String → Option String) : WatchdogConfig where
  spawnGrace :=
    envNumber 64 5 (var "TASKFLEET_WATCHDOG_GRACE_SECS")
  deathGrace :=
    envNumber 64 5 (var "TASKFLEET_DEATH_GRACE_SECS")
  retryMaxAttempts :=
    envNumber 32 3 (var "TASKFLEET_AGENT_RETRY_MAX_ATTEMPTS")
  retryBackoff :=
    envNumber 64 10 (var "TASKFLEET_AGENT_RETRY_BACKOFF_SECS")
  respawnMaxFailures :=
    envNumber 32 3 (var "TASKFLEET_AGENT_RESPAWN_MAX_FAILURES")

def retryMaxBackoff : Nat := 120

/- The wait before a retry, doubled up to five times. -/
def agentRetryBackoff
    (config : WatchdogConfig) (attempt : Nat) : Nat :=
  min (min (config.retryBackoff * 2 ^ min (attempt - 1) 5)
    (2 ^ 64 - 1)) retryMaxBackoff

/- The longest duration of the calendar library. -/
def maxDuration : Int := (2 ^ 63 - 1) * 1000000

/- A clock before the start counts as within the grace. -/
def withinSpawnGrace
    (startedAt : Option Time) (now : Time) (grace : Nat) :
    Bool :=
  match startedAt with
  | none => false
  | some t => now < t ∨ now - t < grace * second

/- The grace counts from the first death that is on record. -/
def deathObservation
    (firstDeathAt : Option Time)
    (now : Time)
    (grace : Nat) : DeathObservation :=
  if min (grace * second) maxDuration ≤
      now - firstDeathAt.getD now then .deadGraceElapsed
  else .deadWithinGrace

------------------------------------------------------------
-- The Scan
------------------------------------------------------------

/- A node as it is read now, if it can be read. -/
def freshNode (env : RunEnv) (d : Disk) (id : NodeId) :
    Option Node :=
  (readNodeOpt env d id).toOption.join

def freshManifest (env : RunEnv) (d : Disk) : Option Manifest :=
  (readManifestOpt env d).toOption.join

theorem freshNode_eq_some
    {env : RunEnv} {d : Disk} {id : NodeId} {n : Node}
    (hFresh : freshNode env d id = some n) :
    d.nodes.lookup id = some n := by
  unfold freshNode at hFresh
  cases hRead : readNodeOpt env d id with
  | error e =>
      rw [hRead] at hFresh
      cases hFresh
  | ok o =>
      rw [hRead] at hFresh
      exact (readNodeOpt_eq_some.mp (hRead.trans
        (congrArg Except.ok hFresh))).1

/- In a run that can be read, what is there is read. -/
theorem freshManifest_of_readable
    {env : RunEnv} {d : Disk} (hReadable : Readable env d) :
    freshManifest env d = d.manifest := by
  unfold freshManifest
  rw [readManifestOpt_of_readable hReadable]
  rfl

theorem freshNode_of_readable
    {env : RunEnv} {d : Disk}
    (hNodes : NodesReadable env d) (id : NodeId) :
    freshNode env d id = d.nodes.lookup id := by
  unfold freshNode
  rw [readNodeOpt_of_readable hNodes]
  rfl

/- The seconds and the identity that a node recorded. -/
def RecordedStart.ofAgent (n : Node) : RecordedStart :=
  .new
    (n.agentPidStartTime.map (fun t => (t / second).toNat))
    n.agentPidStartIdentity

/- A pid is cast to an unsigned number as it is. -/
def Node.agentProbe (n : Node) (pid : Int) :
    Watchdog.AgentProbe where
  pid := (pid % 2 ^ 32).toNat
  start := .ofAgent n
  tmuxWindow := n.tmuxWindow
  tmuxIdentity := n.tmuxIdentity
  skipTmuxCheck := n.tmuxIdentity.isNone && n.tmuxWindow.isNone

/- What a tick does with a node that it sees. -/
inductive WatchdogSight where
| passes
| told (exit : WorkerExit)
| probes (probe : Watchdog.AgentProbe)
deriving DecidableEq

/-
  A reported round and a recorded exit go before everything
  else; a parked node and a young one are left alone.
-/
def Node.watchdogSight
    (n : Node)
    (parked : Bool)
    (now : Time)
    (grace : Nat) : WatchdogSight :=
  if n.status.isTerminal then .passes
  else if
    classifyLiveNodeWithRound n.roundReportedByCurrentAttempt
      n.workerExit .alive = .roundWaiting then .passes
  else
    match n.workerExit with
    | some exit => if exit.isFailure then .told exit else .passes
    | none =>
        if parked ∨ withinSpawnGrace n.startedAt now grace then
          .passes
        else
          match n.agentPid with
          | none => .passes
          | some pid => .probes (n.agentProbe pid)

namespace Watchdog

/- A node that a tick is to judge, as the tick saw it. -/
structure Suspect where
  id : NodeId
  node : Node
  probe : AgentProbe

inductive Judgement where
| leaves
| observes
| fails (v : Liveness)
deriving DecidableEq

/- Only a process that is gone is judged at all. -/
def Suspect.judgement
    (procs : Processes)
    (tmux : TmuxSnapshot)
    (now : Time)
    (grace : Nat)
    (c : Suspect) : Judgement :=
  let v := checkLivenessForLifecycle procs c.probe tmux false
  let death :=
    if confirmedDead v then
      deathObservation c.node.firstDeathAt now grace
    else .alive
  match classifyLiveNode none death with
  | .deferGrace =>
      if c.node.firstDeathAt.isNone then .observes else .leaves
  | .crashBackstopFailed => .fails v
  | .alive | .workerFailed _ | .attentionRequired
  | .roundWaiting => .leaves

end Watchdog

/-
  The nodes to judge and the exits that were told, in the
  order of the directory. An unreadable node is passed over.
-/
def watchdogScan
    (env : RunEnv)
    (d : Disk)
    (order : List NodeId)
    (parked : NodeId → Bool)
    (now : Time)
    (grace : Nat) :
    List Watchdog.Suspect × List (NodeId × WorkerExit) :=
  (order.filterMap (fun id =>
      (freshNode env d id).bind (fun n =>
        match n.watchdogSight (parked id) now grace with
        | .probes probe => some ⟨id, n, probe⟩
        | _ => none)),
    order.filterMap (fun id =>
      (freshNode env d id).bind (fun n =>
        match n.watchdogSight (parked id) now grace with
        | .told exit => some (id, exit)
        | _ => none)))

------------------------------------------------------------
-- Work Left Behind
------------------------------------------------------------

/- What git answers of branches that might still be merged. -/
structure SalvageWorld extends CleanupWorld where
  isAncestor : String → String → String → Bool
  mergeTreeClean : String → String → String → Bool

/- Commits that no source has, and how they might land. -/
structure Recoverability where
  unmergedCommits : Nat
  mergesCleanly : Bool
  branch : String
  worktreePath : Option String
  ahead : 0 < unmergedCommits

namespace Recoverability

def recoverable (r : Recoverability) : Bool :=
  0 < r.unmergedCommits && r.mergesCleanly

def toReportValue (r : Recoverability) : Json :=
  .obj
    [("branch", .str r.branch),
      ("merges_cleanly", .bool r.mergesCleanly),
      ("recoverable", .bool r.recoverable),
      ("unmerged_commits", .int r.unmergedCommits),
      ("worktree_path",
        (r.worktreePath.map Json.str).getD .null)]

end Recoverability

def branchMergesCleanly
    (world : SalvageWorld) (repo source branch : String) :
    Bool :=
  world.isAncestor repo source branch ||
    world.mergeTreeClean repo source branch

/- Branch, source and repository, where all are on record. -/
def branchEndpoints (m : Option Manifest) (n : Node) :
    Option (String × String × String) := do
  let branch ← n.branch.filter (fun s => s ≠ "")
  let source ← manifestSourceBranch m
  let repo ← (manifestSourceRepo m).or n.worktreePath
  return (repo, source, branch)

def nodeRecoverability
    (world : SalvageWorld)
    (m : Option Manifest)
    (n : Node) : Option Recoverability := do
  let (repo, source, branch) ← branchEndpoints m n
  match world.revListCountOf repo source branch with
  | some (ahead + 1) =>
      return {
        unmergedCommits := ahead + 1
        mergesCleanly :=
          branchMergesCleanly world repo source branch
        branch := branch
        worktreePath := n.worktreePath.filter (fun s => s ≠ "")
        ahead := Nat.succ_pos ahead }
  | some 0 | none => none

/- No commit ahead and a clean tree, both known for sure. -/
def nodeIsEmptyHanded
    (world : CleanupWorld)
    (m : Option Manifest)
    (n : Node) : Bool :=
  match branchEndpoints m n with
  | some (repo, source, branch) =>
      world.revListCountOf repo source branch == some 0 &&
        worktreeCleanliness world n.worktreePath == .clean
  | none => false

/- A death is retried or salvaged, never both. -/
theorem recoverability_of_emptyHanded
    {world : SalvageWorld} {m : Option Manifest} {n : Node}
    (hEmpty : nodeIsEmptyHanded world.toCleanupWorld m n = true) :
    nodeRecoverability world m n = none := by
  unfold nodeIsEmptyHanded at hEmpty
  unfold nodeRecoverability
  cases hEnds : branchEndpoints m n with
  | none => rfl
  | some ends =>
      rcases ends with ⟨repo, source, branch⟩
      rw [hEnds] at hEmpty
      simp only [Bool.and_eq_true, beq_iff_eq] at hEmpty
      simp [hEmpty.1]

------------------------------------------------------------
-- What a Tick Records
------------------------------------------------------------

/- The members that every failure of the supervisor has. -/
def supervisorFailure
    (reason summary : String)
    (more : List (String × Json)) : Json :=
  ReportOrigin.supervisor.stamp
    (.obj
      (more.foldl (fun kvs field =>
          Json.insertField field.1 field.2 kvs)
        [("cancelled", .bool false),
          ("discussion_items", .arr []),
          ("failed", .bool true),
          ("reason", .str reason),
          ("spinoff_proposals", .arr []),
          ("success", .bool false),
          ("summary", .str summary),
          ("wrap_up_recommendations", .arr [])]))

def failureRequest
    (now : Time) (id : NodeId) (data : Json) : Request where
  now := now
  kind := .nodeReport
  nodeId := some id
  key := none
  data := data

/- A signal is the cause, where there was one. -/
def WorkerExit.cause (exit : WorkerExit) : String × String :=
  match exit.signal, exit.code with
  | some sig, _ =>
      (workerKilledBySignalReason,
        "worker killed by signal " ++ toString sig)
  | none, some code =>
      (workerExitedNonzeroReason,
        "worker exited with status " ++ toString code)
  | none, none =>
      (workerExitedNonzeroReason, "worker exited abnormally")

/- The time of an exit is printed as the calendar does. -/
def workerExitReport
    (toRfc3339 : Time → String)
    (id : NodeId)
    (exit : WorkerExit) : Json :=
  supervisorFailure exit.cause.1
    ("Node " ++ id.val ++ " " ++ exit.cause.2 ++
      "; supervisor terminalized the run failed (branch preserved).")
    ((exit.code.map (fun code =>
        ("exit_code", Json.int code))).toList ++
      (exit.signal.map (fun sig =>
        ("signal", Json.int sig))).toList ++
      [("worker_exited_at", .str (toRfc3339 exit.exitedAt))])

/- The exit is still the one fact that the node has. -/
def Node.stillExited (n : Node) (exit : WorkerExit) : Bool :=
  !n.status.isTerminal && n.workerExit == some exit &&
    !n.roundReportedByCurrentAttempt

def synthesizeWorkerExitFailure
    (env : RunEnv)
    (toRfc3339 : Time → String)
    (now : Time)
    (id : NodeId)
    (exit : WorkerExit) : Locked Unit := do
  let d ← Durable.read
  if (freshNode env d id).any (fun n =>
      n.stillExited exit) then do
    let _ ← appendAndApplyUnlocked env
      (failureRequest now id
        (workerExitReport toRfc3339 id exit))
    return ()
  else return ()

/-
  A retry that is to be started, kept in memory only. When it
  is due is told by the clock of the process, which the
  calendar does not move.
-/
structure RetryPark where
  attempt : Nat
  retryAt : Time
  reason : String
  spawnFailures : Nat
deriving DecidableEq

def crashReport
    (id : NodeId)
    (v : Liveness)
    (recoverability : Option Recoverability)
    (retried : Nat) : Json :=
  supervisorFailure v.reason
    ("Agent for node " ++ id.val ++ " stopped responding: " ++
      v.reason)
    ((recoverability.map (fun r =>
        ("recoverable_work", r.toReportValue))).toList ++
      if 0 < retried then [("retry_attempts", .int retried)]
      else [])

/-
  Under the lock the node is judged once more. It is parked
  for a retry where it may be, or else its failure is filed,
  with what is left on its branch.
-/
def synthesizeCrashBackstopFailure
    (env : RunEnv)
    (config : WatchdogConfig)
    (world : SalvageWorld)
    (now instant : Time)
    (id : NodeId)
    (v : Liveness)
    (staleAgentPid : Option Int) :
    Locked (Option RetryPark) := do
  let d ← Durable.read
  let manifest := freshManifest env d
  match (freshNode env d id).filter (fun n =>
      n.stillSynthesizable staleAgentPid) with
  | none => return none
  | some n =>
      match parkDecision config.retryMaxAttempts
          (manifest.any (fun m => m.resident.isSome)) v
          staleAgentPid
          (nodeIsEmptyHanded world.toCleanupWorld manifest n)
          n with
      | some attempt =>
          return some {
            attempt := attempt
            retryAt :=
              instant +
                agentRetryBackoff config attempt * second
            reason := v.reason
            spawnFailures := 0 }
      | none => do
          let _ ← appendAndApplyUnlocked env
            (failureRequest now id
              (crashReport id v
                (nodeRecoverability world manifest n)
                n.retryAttempts))
          return none

------------------------------------------------------------
-- What a Retry Records
------------------------------------------------------------

/- A node whose parked retry still applies. -/
def retryableNode
    (env : RunEnv)
    (world : CleanupWorld)
    (d : Disk)
    (id : NodeId) : Option Node :=
  (freshNode env d id).filter (fun n =>
    !n.status.isTerminal && n.retryEligibleKind &&
      nodeIsEmptyHanded world (freshManifest env d) n)

/- The worker that was spawned for a retry. -/
structure RespawnOutcome where
  branch : String
  worktreePath : String
  tmuxWindow : String
  tmuxSocket : Option String
  tmuxSession : Option String
  tmuxWindowId : Option String
  tmuxPaneId : Option String
  tmuxServerPid : Option Nat
  tmuxServerPidStartSecs : Option Nat
  tmuxServerMarker : Option String
  piSessionId : Option String
  piSessionPath : Option String
  piSessionCwd : Option String
  agentPid : Int
  agentPidStartTime : Option String
  agentPidStartIdentity : String

def optStr (o : Option String) : Json :=
  (o.map Json.str).getD .null

def optNat (o : Option Nat) : Json :=
  (o.map (fun n => Json.int n)).getD .null

def retryData
    (attempt : Nat)
    (reason : String)
    (spawn : RespawnOutcome)
    (baseSha : Option String) : Json :=
  .obj
    [("agent_pid", .int spawn.agentPid),
      ("agent_pid_start_identity",
        .str spawn.agentPidStartIdentity),
      ("agent_pid_start_time", optStr spawn.agentPidStartTime),
      ("attempt", .int attempt),
      ("base_sha", optStr baseSha),
      ("branch", .str spawn.branch),
      ("pi_session_cwd", optStr spawn.piSessionCwd),
      ("pi_session_id", optStr spawn.piSessionId),
      ("pi_session_path", optStr spawn.piSessionPath),
      ("reason", .str reason),
      ("tmux_pane_id", optStr spawn.tmuxPaneId),
      ("tmux_server_marker", optStr spawn.tmuxServerMarker),
      ("tmux_server_pid", optNat spawn.tmuxServerPid),
      ("tmux_server_pid_start_secs",
        optNat spawn.tmuxServerPidStartSecs),
      ("tmux_session", optStr spawn.tmuxSession),
      ("tmux_socket", optStr spawn.tmuxSocket),
      ("tmux_window", .str spawn.tmuxWindow),
      ("tmux_window_id", optStr spawn.tmuxWindowId),
      ("worktree_path", .str spawn.worktreePath)]

def retryRequest
    (now : Time) (id : NodeId) (data : Json) : Request where
  now := now
  kind := .nodeRetry
  nodeId := some id
  key := none
  data := data

/-
  Under the lock the node is looked at once more, but not for
  its kind; the answer is whether it was rewired.
-/
def recordRetry
    (env : RunEnv)
    (world : CleanupWorld)
    (now : Time)
    (id : NodeId)
    (data : Json) : Locked Bool := do
  let d ← Durable.read
  if (freshNode env d id).any (fun n =>
      n.stillRetryable
        (nodeIsEmptyHanded world (freshManifest env d) n)) then
    do
      let _ ← appendAndApplyUnlocked env
        (retryRequest now id data)
      return true
  else return false

def respawnFailureReport
    (id : NodeId) (attempt : Nat) (err : String) : Json :=
  supervisorFailure "agent-respawn-failed"
    ("Node " ++ id.val ++
      " died empty-handed; auto-retry re-spawn failed after " ++
      toString attempt ++ " attempt(s): " ++ err)
    [("retry_attempts", .int (attempt - 1 : Nat))]

/- A node that is over, or cannot be read, needs no report. -/
def terminalizeRespawnFailure
    (env : RunEnv)
    (now : Time)
    (id : NodeId)
    (attempt : Nat)
    (err : String) : Locked Unit := do
  let d ← Durable.read
  if (freshNode env d id).any (fun n =>
      !n.status.isTerminal) then do
    let _ ← appendAndApplyUnlocked env
      (failureRequest now id
        (respawnFailureReport id attempt err))
    return ()
  else return ()

end Taskfleet
