import Taskfleet.MergeRecovery
import Taskfleet.NotifyRuns
import Taskfleet.Outcome
import Taskfleet.Reducer.PiSessions
import Taskfleet.Retained

/-
  `run wait`: polls a list of runs until they have settled,
  and then reports what became of each of them.

  A poll decides on one look at a run, and the report is made
  from a later one and from what the poll has latched. Other
  processes change the run in between. Sleeping, the progress
  lines and the evidence of a check-in are left out.

  Main declarations:
    * `currentSettle`, `waitLoop`, `readOutcome`
    * `settledError`, `anySettledError`, `exitCode`
    * `Watched`, `lasting_session`
    * `showsSettled_of_settled`, `agrees_of_reads`
    * `wait_reports_decision`, `run_shows_error`
-/

------------------------------------------------------------
-- Verdicts on One Look
------------------------------------------------------------

namespace Taskfleet

open Checkouts Fallible

namespace CallerPiState

def needsAttention : CallerPiState → Bool
| .reserved | .started => false
| .launchFailed | .exited | .controlUncertain => true

end CallerPiState

namespace Wait

inductive SupervisorState where
| alive
| dead
| notRecorded
| unreadable
| unknown
deriving DecidableEq, Repr

namespace SupervisorState

/- Not known to be gone. -/
def presumedWorking : SupervisorState → Bool
| .dead | .notRecorded => false
| .alive | .unreadable | .unknown => true

end SupervisorState

inductive StallKind where
| stillborn
| orphaned
deriving DecidableEq, Repr

def isStillborn
    (runStatus : Status)
    (supervisorAlive : Bool)
    (nodeCount : Nat)
    (createdAt updatedAt : Time) : Bool :=
  runStatus = .pending ∧ supervisorAlive = false ∧
    nodeCount = 0 ∧ updatedAt = createdAt

/- Fifteen minutes. -/
def orphanGrace : Time := 15 * 60 * 10 ^ 9

def isOrphaned
    (runStatus : Status)
    (supervisorAlive : Bool)
    (nodeCount : Nat)
    (updatedAt now : Time) : Bool :=
  (runStatus = .pending ∨ runStatus = .running) ∧
    supervisorAlive = false ∧ 0 < nodeCount ∧
    orphanGrace < now - updatedAt

def stallKind
    (runStatus : Status)
    (supervisorAlive : Bool)
    (nodeCount : Nat)
    (createdAt updatedAt now : Time) : Option StallKind :=
  if isStillborn runStatus supervisorAlive nodeCount createdAt
      updatedAt then some .stillborn
  else if isOrphaned runStatus supervisorAlive nodeCount
      updatedAt now then some .orphaned
  else none

def stallReason : StallKind → String
| .stillborn =>
    "supervisor died before creating any worker node"
| .orphaned =>
    "supervisor died mid-run; work is stranded and cannot " ++
      "be rolled up"

def residentIdleReason : String :=
  "resident worker passed its idle expiry with unlanded " ++
    "work (preserved, not merged)"

def attentionReason : String :=
  "worker exited cleanly without running `run merge`"

def awaitingInputReason : String :=
  "worker is awaiting a human decision"

def isAttentionRequired
    (nodeStatus : Status)
    (workerExit : Option WorkerExit) : Bool :=
  (nodeStatus = .pending ∨ nodeStatus = .running) ∧
    workerExit.any WorkerExit.isClean

/-
  A round that the current attempt has reported is waited on,
  whatever the exit was, unless its idle expiry found work.
-/
def nodeAttention (n : Node) : Option (String × WorkerExit) :=
  match n.workerExit with
  | none => none
  | some exit =>
      if ¬ (n.status = .pending ∨ n.status = .running) then
        none
      else
        match n.resident with
        | none =>
            if isAttentionRequired n.status (some exit) then
              some (attentionReason, exit)
            else none
        | some state =>
            if state.openRound.any (fun r =>
                r.attempt = n.retryAttempts) then
              if state.expiryAttentionAt.isSome then
                some (residentIdleReason, exit)
              else none
            else if isAttentionRequired n.status
                (some exit) then
              some (attentionReason, exit)
            else none

/- Open for longer than the grace. -/
def isEscalated (grace openedAt now : Time) : Bool :=
  grace < now - openedAt

------------------------------------------------------------
-- Looks
------------------------------------------------------------

/- What a look at a run finds outside the log as well. -/
structure Sighting where
  disk : Disk
  supervisor : SupervisorState
  nodeFiles : List NodeId
  git : GitQueries
  site : Site

structure Settle where
  status : Status
  stall : Option StallKind
  attention : Bool
  attentionReason : Option String
  awaitingInput : Option AwaitingInput
  caller : Option CallerPiLifecycle
  round : Option Nat
deriving DecidableEq, Repr

structure LatchedSettle where
  stall : Option StallKind
  attention : Bool
  attentionReason : Option String
  awaitingInput : Option AwaitingInput
  caller : Option CallerPiLifecycle
  round : Option Nat
deriving DecidableEq, Repr

def Settle.latch (settle : Settle) : LatchedSettle where
  stall := settle.stall
  attention := settle.attention
  attentionReason := settle.attentionReason
  awaitingInput := settle.awaitingInput
  caller := settle.caller
  round := settle.round

/- The session of a run that its caller works on. -/
def callerSession (m : Manifest) (node : Option Node) :
    Option CallerPiLifecycle :=
  if m.agentOwner = .caller then
    node.bind Node.callerPiLifecycle
  else none

/- The round that a node which is not over has reported. -/
def reportedRound (node : Option Node) : Option Nat :=
  ((node.filter (fun n => !n.status.isTerminal)).bind
    Node.resident).bind (fun state =>
      state.openRound.map RoundReport.eventSeq)

/- One consistent look; `none` where there is no manifest. -/
def currentSettle
    (env : RunEnv) (grace now : Time) (seen : Sighting) :
    Except Error (Option Settle) := do
  match ← readManifestOpt env seen.disk with
  | none => return none
  | some m =>
      let node ← readNodeOpt env seen.disk .first
      let reason := (node.bind nodeAttention).map Prod.fst
      return some {
        status := m.status
        -- a clean exit goes before a dead supervisor
        stall :=
          if reason.isSome then none
          else
            stallKind m.status seen.supervisor.presumedWorking
              m.nodeCount m.createdAt m.updatedAt now
        attention := reason.isSome
        attentionReason := reason
        awaitingInput :=
          (node.bind Node.awaitingInput).filter (fun asked =>
            isEscalated grace asked.openedAt now)
        caller := callerSession m node
        round := reportedRound node }

------------------------------------------------------------
-- The Poll Loop
------------------------------------------------------------

inductive Condition where
| all
| any
deriving DecidableEq, Repr

inductive Stop where
| conditionMet
| timedOut
| checkIn
deriving DecidableEq, Repr

structure Args where
  condition : Condition
  timeout : Option Nat
  checkIn : Option Nat
  terminalOnly : Bool
  failOnError : Bool
  grace : Time

/-
  A run on the list and every look at it, one after another.
  Between two looks other processes do what they like.
-/
structure Watched where
  env : RunEnv
  sight : Nat → Sighting
  later : ∀ k,
    ActsFrom env (fun s => s = (sight k).disk)
      (sight (k + 1)).disk

/- The clock at a poll, and the time since the wait began. -/
structure Moment where
  now : Time
  elapsed : Nat

/- A hint that settles a wait, unless only an end does. -/
def LatchedSettle.settled (latched : LatchedSettle) : Bool :=
  latched.stall.isSome || latched.attention ||
    latched.round.isSome || latched.awaitingInput.isSome ||
    latched.caller.any (fun c => c.state.needsAttention)

/- The look settles the wait for its run. -/
def Settle.settled (terminalOnly : Bool) (settle : Settle) :
    Bool :=
  settle.status.isTerminal ||
    (!terminalOnly && settle.latch.settled)

def disappeared (env : RunEnv) : CliError :=
  .system "io_error"
    ("run " ++ env.runId.val ++
      " manifest disappeared while waiting") none

def settleOf
    (args : Args) (now : Time) (k : Nat) (run : Watched) :
    Except CliError Settle := do
  match ← (currentSettle run.env args.grace now
      (run.sight k)).mapError .core with
  | none => throw (disappeared run.env)
  | some settle => return settle

def met
    (condition : Condition) (settled total : Nat) : Bool :=
  match condition with
  | .all => settled = total
  | .any => 1 ≤ settled

/- By the deadlines, not by which check comes first. -/
def deadlineStop
    (timeout checkIn : Option Nat) (elapsed : Nat) :
    Option Stop :=
  if timeout.any (fun t =>
      t ≤ elapsed ∧ checkIn.all (fun c => t ≤ c)) then
    some .timedOut
  else if checkIn.any (fun c => c ≤ elapsed) then
    some .checkIn
  else none

theorem deadlineStop_ne_conditionMet
    {timeout checkIn : Option Nat} {elapsed : Nat} :
    deadlineStop timeout checkIn elapsed ≠
      some .conditionMet := by
  unfold deadlineStop
  split
  · decide
  · split <;> decide

/- Why the loop ended, at which poll, and what it latched. -/
structure Decision where
  stop : Stop
  poll : Nat
  latched : List LatchedSettle
deriving DecidableEq, Repr

/- `none` while the wait goes on. -/
def waitLoop
    (args : Args) (clock : Nat → Moment)
    (runs : List Watched) :
    Nat → Nat → Option (Except CliError Decision)
| 0, _ => none
| fuel + 1, k =>
    match runs.mapM (settleOf args (clock k).now k) with
    | .error e => some (.error e)
    | .ok settles =>
        let latched := settles.map Settle.latch
        if met args.condition
            (settles.countP (Settle.settled args.terminalOnly))
            runs.length then
          some (.ok ⟨.conditionMet, k, latched⟩)
        else
          match
            deadlineStop args.timeout args.checkIn
              (clock k).elapsed with
          | some stop => some (.ok ⟨stop, k, latched⟩)
          | none => waitLoop args clock runs fuel (k + 1)

------------------------------------------------------------
-- Outcomes
------------------------------------------------------------

structure CallerAgentView where
  state : String
  generation : Nat
  piSessionId : String
  sessionPath : Option String
  reason : Option String
  settledGeneration : Option Nat
  settledState : Option String
  currentGeneration : Nat
  control : String
deriving DecidableEq, Repr

def callerStateName : CallerPiState → String
| .reserved => "reserved"
| .started => "started"
| .exited => "stopped-unmerged"
| .launchFailed => "launch-failed"
| .controlUncertain => "control-unknown"

/- The states that the source has no arm for are `none`. -/
def settledStateName : CallerPiState → Option String
| .exited => some "stopped-unmerged"
| .launchFailed => some "launch-failed"
| .controlUncertain => some "control-unknown"
| .started | .reserved => none

def callerView
    (current : CallerPiLifecycle)
    (latched : Option CallerPiLifecycle) : CallerAgentView :=
  let settled :=
    latched.filter (fun c => c.state.needsAttention)
  { state := callerStateName current.state
    generation := current.generation
    piSessionId := current.piSessionId
    sessionPath := current.sessionPath
    reason :=
      (settled.bind CallerPiLifecycle.reason).or
        current.reason
    settledGeneration :=
      settled.map CallerPiLifecycle.generation
    settledState :=
      settled.bind (fun c => settledStateName c.state)
    currentGeneration := current.generation
    control :=
      if current.state = .exited then "stopped"
      else "unknown" }

structure RunOutcome where
  status : String
  merged : Bool
  reportOnly : Bool
  preservedWork : List PreservedWork
  landing : LandingSignal
  stalled : Bool
  attentionRequired : Bool
  awaitingInput : Bool
  settledAwaitingInput : Bool
  summary : Option String
  error : Option String
  recoverableWork : Option Json
  callerAgent : Option CallerAgentView
  roundReported : Bool

def preservedError : String :=
  "done run still owns worktree or branch; inspect " ++
    "preserved_work in run show/wait"

/- A field of the last report that has to be a text. -/
def reportText (report : Option Json) (field : String) :
    Option String :=
  report.bind (fun r => r.getStr field)

/- The block that a failed run may leave in its report. -/
def recoverableWorkOf (report : Option Json) : Option Json :=
  (report.bind (fun r => r.get "recoverable_work")).filter
    (fun v =>
      match v with
      | .obj _ => true
      | _ => false)

/- The outcome of what was read under the lock. -/
def outcomeOf
    (seen : Sighting) (m : Manifest) (node : Option Node)
    (retained : List Node) (latched : LatchedSettle) :
    RunOutcome :=
  let ended := m.status.isTerminal
  let report := node.bind Node.lastReport
  let merged := report.any reportIsConfirmedMerge
  let reportOnly : Bool := m.status = .done ∧ merged = false
  let preserved :=
    (retained.filterMap (fun n =>
      observeTerminal m n seen.site)).map
        RetainedObservation.view
  -- what was latched is dropped once the run is over
  let attentionRequired := !ended && latched.attention
  let stall :=
    if ended || attentionRequired then none
    else latched.stall
  let settledCaller :=
    !ended &&
      latched.caller.any (fun c => c.state.needsAttention)
  let settledAwaiting := !ended && latched.awaitingInput.isSome
  let asked :=
    if ended then none
    else
      latched.awaitingInput.or
        (node.bind Node.awaitingInput)
  { status := m.status.name
    merged := merged
    reportOnly := reportOnly
    preservedWork := preserved
    landing :=
      landingSignal seen.git {
        sourceRepo := m.sourceRepo
        sourceBranch := m.sourceBranch
        worktreePath := node.bind Node.worktreePath
        branch := node.bind Node.branch
        baseSha := node.bind Node.baseSha
        report := report }
    stalled := stall.isSome
    attentionRequired := attentionRequired
    awaitingInput := asked.isSome
    settledAwaitingInput := settledAwaiting
    summary := reportText report "summary"
    error :=
      if reportOnly && !preserved.isEmpty then
        some preservedError
      else if settledCaller then
        latched.caller.bind CallerPiLifecycle.reason
      else if attentionRequired then
        some (latched.attentionReason.getD attentionReason)
      else
        match stall with
        | some kind => some (stallReason kind)
        | none =>
            if settledAwaiting then some awaitingInputReason
            else if m.status = .failed ∨
                m.status = .cancelled then
              reportText report "reason"
            else none
    recoverableWork :=
      if m.status = .failed then recoverableWorkOf report
      else none
    callerAgent :=
      (callerSession m node).map (fun c =>
        callerView c (if ended then none else latched.caller))
    roundReported := !ended && latched.round.isSome }

structure GitInputs where
  manifest : Option Manifest
  node : Option Node
  retainedNodes : List Node

def readRetained
    (env : RunEnv) (seen : Sighting)
    (manifest : Option Manifest) :
    Except Error (List Node) :=
  if manifest.any (fun m => m.status.isTerminal) then
    readNodes env seen.nodeFiles seen.disk
  else .ok []

/- What is read under one lock. -/
def readInputs (env : RunEnv) (seen : Sighting) :
    Except Error GitInputs := do
  let manifest ← readManifestOpt env seen.disk
  let node ← readNodeOpt env seen.disk .first
  let retained ← readRetained env seen manifest
  return ⟨manifest, node, retained⟩

/- One more look at the run, with what was latched. -/
def readOutcome
    (env : RunEnv) (seen : Sighting)
    (latched : LatchedSettle) :
    Except CliError RunOutcome := do
  let inputs ← (readInputs env seen).mapError .core
  match inputs.manifest with
  | none => throw (disappeared env)
  | some m =>
      return outcomeOf seen m inputs.node
        inputs.retainedNodes latched

/- Hints that do not settle a wait for terminal runs only. -/
def LatchedSettle.graded
    (terminalOnly : Bool) (latched : LatchedSettle) :
    LatchedSettle :=
  if terminalOnly then
    { latched with
      awaitingInput := none
      caller := none }
  else latched

/- The look after the poll that ended the wait. -/
def readOutcomes
    (args : Args) (runs : List Watched) (poll : Nat)
    (latched : List LatchedSettle) :
    Except CliError (List RunOutcome) :=
  (runs.zip latched).mapM (fun (run, latched) =>
    readOutcome run.env (run.sight (poll + 1))
      (latched.graded args.terminalOnly))

def terminalNames : List String :=
  ["done", "failed", "cancelled"]

/- The outcome makes the wait end with an error. -/
def settledError (terminalOnly : Bool) (o : RunOutcome) :
    Bool :=
  if terminalOnly && !terminalNames.contains o.status then
    false
  else
    o.status == "failed" || o.status == "cancelled" ||
      o.stalled ||
      o.attentionRequired ||
      o.settledAwaitingInput ||
      o.callerAgent.any (fun view =>
        view.settledGeneration.isSome &&
          !terminalNames.contains o.status) ||
      (o.reportOnly && !o.preservedWork.isEmpty)

def anySettledError
    (outcomes : List RunOutcome) (terminalOnly : Bool) :
    Bool :=
  outcomes.any (settledError terminalOnly)

def exitCode
    (args : Args) (stop : Stop)
    (outcomes : List RunOutcome) : Nat :=
  match stop with
  | .timedOut => 2
  | .checkIn => 4
  | .conditionMet =>
      if args.failOnError &&
          anySettledError outcomes args.terminalOnly then 3
      else 0

/- A run that is not there is refused before any poll. -/
def requireKnown (run : Watched) : Except CliError Unit := do
  match ← (readManifestOpt run.env
      (run.sight 0).disk).mapError .core with
  | none =>
      throw (.user "unknown_run"
        ("no run with id " ++ run.env.runId.val)
        (some run.env.runId.val))
  | some _ => return ()

/- What is printed, and the code to exit with. -/
structure Report where
  outcome : Stop
  runs : List RunOutcome
  exitCode : Nat

/- `none` while the wait goes on. -/
def run
    (args : Args) (clock : Nat → Moment)
    (runs : List Watched) (fuel : Nat) :
    Option (Except CliError Report) :=
  match runs.forM requireKnown with
  | .error e => some (.error e)
  | .ok () =>
      (waitLoop args clock runs fuel 1).map (fun ended => do
        let decision ← ended
        let outcomes ←
          readOutcomes args runs decision.poll
            decision.latched
        return {
          outcome := decision.stop
          runs := outcomes
          exitCode := exitCode args decision.stop outcomes })

------------------------------------------------------------
-- What a Run Keeps between Two Looks
------------------------------------------------------------

section Kept

variable {env : RunEnv} {d d' : Disk}

/- The node of a session keeps having one. -/
theorem lasting_session (env : RunEnv) (id : NodeId) :
    Lasting env (fun s =>
      ∃ n fact, s.nodes.lookup id = some n ∧
        n.callerPiLifecycle = some fact) where
  framed := by
    intro s s' hHere _ hNodes
    rwa [hNodes]
  folded := by
    intro s ev ops j hHere hPlan
    rcases lookup_take_of_plan hPlan j id with hSame | hWhole
    · rwa [hSame]
    rw [hWhole]
    rcases hHere with ⟨n, old, hLookup, hOld⟩
    have hChange := nodeChange_of_reduce hPlan id
    rw [hLookup] at hChange
    generalize (applyOps ops s).nodes.lookup id = after
      at hChange ⊢
    cases hChange with
    | kept => exact ⟨n, old, rfl, hOld⟩
    | rewritten _ n' _ hRewrite =>
        rcases (piMove_of_rewrite hRewrite).later old hOld with
          ⟨fact, hFact, _⟩
        exact ⟨n', fact, rfl, hFact⟩
  advanced := by
    intro s seq hHere
    rwa [Disk.advance_nodes]

/- A run that was read as over is over on a later look. -/
theorem terminal_later
    {m m' : Manifest}
    (hLater : ActsFrom env (fun s => s = d) d')
    (hRead : readManifestOpt env d = .ok (some m))
    (hRead' : readManifestOpt env d' = .ok (some m'))
    (hOver : m.status.isTerminal = true) :
    m'.status.isTerminal = true := by
  have hStill : Generation.finished.Current d' := by
    refine ((lasting_finished env).actsFrom ?_ hLater).2
    intro s hStart
    subst hStart
    exact ⟨readable_of_readManifestOpt hRead, m,
      (readManifestOpt_eq_some.mp hRead).1, hOver⟩
  rcases hStill with ⟨m₀, hSome, hOver'⟩
  rw [(readManifestOpt_eq_some.mp hRead').1,
    Option.some.injEq] at hSome
  rwa [hSome]

theorem callerSession_isSome
    {m : Manifest} {node : Option Node} :
    (callerSession m node).isSome = true ↔
      m.agentOwner = .caller ∧
        ∃ n fact, node = some n ∧
          n.callerPiLifecycle = some fact := by
  unfold callerSession
  by_cases hOwner : m.agentOwner = .caller
  · rw [if_pos hOwner, Option.isSome_iff_exists]
    simp only [Option.bind_eq_some_iff]
    constructor
    · intro hSession
      rcases hSession with ⟨fact, n, hNode, hFact⟩
      exact ⟨hOwner, n, fact, hNode, hFact⟩
    · intro hSession
      rcases hSession with ⟨_, n, fact, hNode, hFact⟩
      exact ⟨fact, n, hNode, hFact⟩
  · rw [if_neg hOwner]
    simp [hOwner]

/- A session of a caller is there on a later look as well. -/
theorem callerSession_later
    {m m' : Manifest}
    {node node' : Option Node}
    (hLater : ActsFrom env (fun s => s = d) d')
    (hRead : readManifestOpt env d = .ok (some m))
    (hRead' : readManifestOpt env d' = .ok (some m'))
    (hNode : readNodeOpt env d .first = .ok node)
    (hNode' : readNodeOpt env d' .first = .ok node')
    (hSession : (callerSession m node).isSome = true) :
    (callerSession m' node').isSome = true := by
  have hReadable : Readable env d :=
    readable_of_readManifestOpt hRead
  rcases callerSession_isSome.mp hSession with
    ⟨hOwner, n, fact, rfl, hFact⟩
  have hOwner' :=
    (lasting_owner env .caller).actsFrom
      (by
        intro s hStart
        subst hStart
        exact ⟨hReadable, m,
          (readManifestOpt_eq_some.mp hRead).1, hOwner⟩)
      hLater
  have hSession' :=
    (lasting_session env .first).actsFrom
      (by
        intro s hStart
        subst hStart
        exact ⟨hReadable, n, fact,
          (readNodeOpt_eq_some.mp hNode).1, hFact⟩)
      hLater
  rcases hOwner'.2 with ⟨m₀, hSome, hOwned⟩
  rw [(readManifestOpt_eq_some.mp hRead').1,
    Option.some.injEq] at hSome
  subst hSome
  rcases hSession'.2 with ⟨n', fact', hLookup, hFact'⟩
  refine callerSession_isSome.mpr ⟨hOwned, n', fact', ?_, hFact'⟩
  cases node' with
  | none =>
      rw [readNodeOpt_eq_none.mp hNode'] at hLookup
      cases hLookup
  | some n₀ =>
      rw [(readNodeOpt_eq_some.mp hNode').1] at hLookup
      exact hLookup

end Kept

------------------------------------------------------------
-- One Run
------------------------------------------------------------

/-
  The outcome shows what settled the wait for its run: the
  status it ended with, or a hint that was latched.
-/
def RunOutcome.showsSettled
    (terminalOnly : Bool) (o : RunOutcome) : Bool :=
  terminalNames.contains o.status ||
    (!terminalOnly &&
      (o.stalled || o.attentionRequired ||
        o.settledAwaitingInput || o.roundReported ||
        o.callerAgent.any (fun view =>
          view.settledGeneration.isSome)))

section OneRun

variable {env : RunEnv} {seen seen' : Sighting}
variable {m : Manifest} {node : Option Node}
variable {retained : List Node} {latched : LatchedSettle}
variable {o : RunOutcome} {terminalOnly : Bool}

theorem terminalNames_contains (st : Status) :
    terminalNames.contains st.name = st.isTerminal := by
  cases st <;> decide

theorem readOutcome_eq_ok
    (hRead : readOutcome env seen latched = .ok o) :
    ∃ m node retained,
      readManifestOpt env seen.disk = .ok (some m) ∧
      readNodeOpt env seen.disk .first = .ok node ∧
      o = outcomeOf seen m node retained latched := by
  unfold readOutcome at hRead
  rw [bind_eq_ok] at hRead
  rcases hRead with ⟨inputs, hInputs, hRead⟩
  simp only [readInputs, mapError_eq_ok, bind_eq_ok, pure_eq,
    Except.ok.injEq] at hInputs
  rcases hInputs with
    ⟨manifest, hManifest, node, hNode, retained, _, rfl⟩
  cases manifest with
  | none => cases hRead
  | some m =>
      cases hRead
      exact ⟨m, node, retained, hManifest, hNode, rfl⟩

/- What a settling look has seen, it has read. -/
theorem currentSettle_eq_some
    {grace now : Time} {settle : Settle}
    (hLook : currentSettle env grace now seen =
      .ok (some settle)) :
    ∃ m node,
      readManifestOpt env seen.disk = .ok (some m) ∧
      readNodeOpt env seen.disk .first = .ok node ∧
      settle.status = m.status ∧
      settle.caller = callerSession m node := by
  unfold currentSettle at hLook
  rw [bind_eq_ok] at hLook
  rcases hLook with ⟨manifest, hManifest, hLook⟩
  cases manifest with
  | none => cases hLook
  | some m =>
      dsimp only at hLook
      rw [bind_eq_ok] at hLook
      rcases hLook with ⟨node, hNode, hLook⟩
      cases hLook
      exact ⟨m, node, hManifest, hNode, rfl, rfl⟩

/- A run that is over shows it. -/
theorem outcomeOf_terminal
    (hOver : m.status.isTerminal = true) :
    (outcomeOf seen m node retained
      latched).showsSettled terminalOnly = true := by
  have hName := terminalNames_contains m.status
  rw [hOver] at hName
  simp only [RunOutcome.showsSettled, outcomeOf, hName,
    Bool.true_or]

/-
  Every error is shown: where nothing is, the status is not
  one of the names that an error goes with, and only a run
  that is done is report-only.
-/
theorem showsSettled_of_error
    (hReportOnly : o.reportOnly = true → o.status = "done")
    (hError : settledError terminalOnly o = true) :
    o.showsSettled terminalOnly = true := by
  cases hOver : terminalNames.contains o.status with
  | true => simp only [RunOutcome.showsSettled, hOver,
      Bool.true_or]
  | false =>
      have hNames : o.status ≠ "done" ∧ o.status ≠ "failed" ∧
          o.status ≠ "cancelled" := by
        simpa [terminalNames] using hOver
      have hMerged : o.reportOnly = false :=
        Bool.eq_false_iff.mpr
          (fun hOnly => hNames.1 (hReportOnly hOnly))
      cases terminalOnly with
      | true =>
          simp only [settledError, hOver, Bool.not_false,
            Bool.true_and, if_true, Bool.false_eq_true]
            at hError
      | false =>
          simp only [settledError, hOver, hMerged,
            beq_eq_false_iff_ne.mpr hNames.2.1,
            beq_eq_false_iff_ne.mpr hNames.2.2,
            Bool.false_and, Bool.false_or, Bool.or_false,
            Bool.not_false, Bool.and_true,
            Bool.false_eq_true, if_false] at hError
          simp only [RunOutcome.showsSettled, Bool.not_false,
            Bool.true_and, Bool.or_eq_true] at hError ⊢
          tauto

theorem outcomeOf_reportOnly
    (hOnly : (outcomeOf seen m node retained
      latched).reportOnly = true) :
    (outcomeOf seen m node retained latched).status =
      "done" := by
  have hDone : m.status = .done := by
    simp only [outcomeOf, decide_eq_true_eq] at hOnly
    exact hOnly.1
  simp only [outcomeOf, hDone, Status.name]

/- What was latched of a run that goes on is shown. -/
theorem outcomeOf_latched
    (hLive : m.status.isTerminal = false)
    (hSession : latched.caller.isSome = true →
      (callerSession m node).isSome = true)
    (hLatched : latched.settled = true) :
    (outcomeOf seen m node retained latched).showsSettled
      false = true := by
  simp only [LatchedSettle.settled, Bool.or_eq_true] at hLatched
  simp only [RunOutcome.showsSettled, outcomeOf, hLive,
    Bool.not_false, Bool.true_and, Bool.false_or,
    Bool.or_eq_true, Bool.false_eq_true, if_false]
  right
  rcases hLatched with
    (((hStall | hAttention) | hRound) | hAwaiting) | hCaller
  · -- a stall is shown, or the attention that hides it
    cases hCase : latched.attention with
    | true => exact .inl (.inl (.inl (.inr rfl)))
    | false =>
        rw [if_neg Bool.false_ne_true]
        exact .inl (.inl (.inl (.inl hStall)))
  · exact .inl (.inl (.inl (.inr hAttention)))
  · exact .inl (.inr hRound)
  · exact .inl (.inl (.inr hAwaiting))
  · right
    cases hLatch : latched.caller with
    | none =>
        rw [hLatch] at hCaller
        cases hCaller
    | some c =>
        rw [hLatch, Option.any_some] at hCaller
        rcases Option.isSome_iff_exists.mp
            (hSession (by rw [hLatch]; rfl)) with
          ⟨current, hCurrent⟩
        simp [hCurrent, callerView, hCaller]

/- A look that settles a wait is shown by a later one. -/
theorem showsSettled_of_settled
    {grace now : Time} {settle : Settle}
    (hLater : ActsFrom env (fun s => s = seen.disk) seen'.disk)
    (hLook : currentSettle env grace now seen =
      .ok (some settle))
    (hSettled : settle.settled terminalOnly = true)
    (hRead : readOutcome env seen'
      (settle.latch.graded terminalOnly) = .ok o) :
    o.showsSettled terminalOnly = true := by
  rcases currentSettle_eq_some hLook with
    ⟨m, node, hManifest, hNode, hStatus, hCaller⟩
  rcases readOutcome_eq_ok hRead with
    ⟨m', node', retained, hManifest', hNode', rfl⟩
  cases hOver' : m'.status.isTerminal with
  | true => exact outcomeOf_terminal hOver'
  | false =>
      have hLive : settle.status.isTerminal = false := by
        apply Bool.eq_false_iff.mpr
        intro hOver
        rw [hStatus] at hOver
        rw [terminal_later hLater hManifest hManifest' hOver]
          at hOver'
        cases hOver'
      simp only [Settle.settled, hLive, Bool.false_or,
        Bool.and_eq_true, Bool.not_eq_true'] at hSettled
      rcases hSettled with ⟨rfl, hLatched⟩
      apply outcomeOf_latched hOver' ?_ hLatched
      intro hSession
      exact callerSession_later hLater hManifest hManifest'
        hNode hNode' (hCaller ▸ hSession)

end OneRun

------------------------------------------------------------
-- All Runs
------------------------------------------------------------

section AllRuns

variable {args : Args} {clock : Nat → Moment}
variable {runs : List Watched} {now : Time} {k : Nat}

theorem settleOf_eq_ok
    {run : Watched} {settle : Settle}
    (hLook : settleOf args now k run = .ok settle) :
    currentSettle run.env args.grace now (run.sight k) =
      .ok (some settle) := by
  unfold settleOf at hLook
  rw [bind_eq_ok] at hLook
  rcases hLook with ⟨found, hFound, hLook⟩
  rw [mapError_eq_ok] at hFound
  cases found with
  | none => cases hLook
  | some s =>
      cases hLook
      exact hFound

/- What an outcome owes to the look that settled its run. -/
structure Agrees
    (terminalOnly : Bool) (settle : Settle) (o : RunOutcome) :
    Prop where
  settled : settle.settled terminalOnly = true →
    o.showsSettled terminalOnly = true
  error : settledError terminalOnly o = true →
    o.showsSettled terminalOnly = true

/- Run by run: what a poll settles, its outcome shows. -/
theorem agrees_of_reads
    {settles : List Settle} {outcomes : List RunOutcome}
    (hSettles :
      runs.mapM (settleOf args now k) = .ok settles)
    (hRead : readOutcomes args runs k
      (settles.map Settle.latch) = .ok outcomes) :
    List.Forall₂ (Agrees args.terminalOnly)
      settles outcomes := by
  have hLooks := forall₂_of_mapM hSettles
  have hReads := forall₂_of_mapM hRead
  clear hSettles hRead
  induction hLooks generalizing outcomes with
  | nil =>
      cases hReads
      exact .nil
  | @cons run settle runs settles hLook _ ih =>
      rw [List.map_cons, List.zip_cons_cons] at hReads
      cases hReads with
      | cons hRead hReads =>
          refine .cons ⟨?_, ?_⟩ (ih hReads)
          · intro hSettled
            exact showsSettled_of_settled (run.later k)
              (settleOf_eq_ok hLook) hSettled hRead
          · intro hError
            rcases readOutcome_eq_ok hRead with
              ⟨m, node, retained, _, _, rfl⟩
            exact showsSettled_of_error outcomeOf_reportOnly
              hError

/- The poll at which the condition was met. -/
theorem waitLoop_met
    {fuel start : Nat} {decision : Decision}
    (hLoop : waitLoop args clock runs fuel start =
      some (.ok decision))
    (hMet : decision.stop = .conditionMet) :
    ∃ settles,
      runs.mapM (settleOf args (clock decision.poll).now
        decision.poll) = .ok settles ∧
      decision.latched = settles.map Settle.latch ∧
      met args.condition
        (settles.countP (Settle.settled args.terminalOnly))
        runs.length = true := by
  induction fuel generalizing start with
  | zero => cases hLoop
  | succ fuel ih =>
      unfold waitLoop at hLoop
      split at hLoop
      next => cases hLoop
      next settles hSettles =>
        dsimp only at hLoop
        split at hLoop
        next hNow =>
          cases hLoop
          exact ⟨settles, hSettles, rfl, hNow⟩
        next =>
          split at hLoop
          next stop hStop =>
            cases hLoop
            dsimp only at hMet
            rw [hMet] at hStop
            exact absurd hStop deadlineStop_ne_conditionMet
          next => exact ih hLoop

/-
  The wait reports what it decided. Whatever other processes
  do between the looks: where the loop returns that the
  condition is met, every outcome (for `any`, some outcome)
  shows what settled its run, and every outcome that counts
  as an error shows it too.
-/
theorem wait_reports_decision
    (args : Args)
    (clock : Nat → Moment)
    (runs : List Watched)
    (fuel start k : Nat)
    (latched : List LatchedSettle)
    (outcomes : List RunOutcome)
    (hLoop : waitLoop args clock runs fuel start =
      some (.ok ⟨.conditionMet, k, latched⟩))
    (hRead : readOutcomes args runs k latched =
      .ok outcomes) :
    outcomes.length = runs.length ∧
    (match args.condition with
      | .all => ∀ o ∈ outcomes,
          o.showsSettled args.terminalOnly = true
      | .any => ∃ o ∈ outcomes,
          o.showsSettled args.terminalOnly = true) ∧
    ∀ o ∈ outcomes,
      o.showsSettled args.terminalOnly = false →
        settledError args.terminalOnly o = false := by
  rcases waitLoop_met hLoop rfl with
    ⟨settles, hSettles, hLatched, hMet⟩
  dsimp only at hSettles hLatched hMet
  subst hLatched
  have hPairs := agrees_of_reads hSettles hRead
  have hLength : runs.length = settles.length :=
    (forall₂_of_mapM hSettles).length_eq
  refine ⟨(hLength.trans hPairs.length_eq).symm, ?_, ?_⟩
  · cases hCondition : args.condition with
    | all =>
        rw [hCondition, hLength] at hMet
        simp only [met, decide_eq_true_eq] at hMet
        have hAll := List.countP_eq_length.mp hMet
        intro o hMem
        rcases exists_of_forall₂ hPairs hMem with
          ⟨settle, hIn, hAgrees⟩
        exact hAgrees.settled (hAll settle hIn)
    | any =>
        rw [hCondition] at hMet
        simp only [met, decide_eq_true_eq] at hMet
        rcases List.countP_pos_iff.mp hMet with
          ⟨settle, hIn, hSettled⟩
        rcases exists_of_forall₂ hPairs.flip hIn with
          ⟨o, hMem, hAgrees⟩
        exact ⟨o, hMem, hAgrees.settled hSettled⟩
  · intro o hMem hShows
    rcases exists_of_forall₂ hPairs hMem with
      ⟨settle, _, hAgrees⟩
    apply Bool.eq_false_iff.mpr
    intro hError
    rw [hAgrees.error hError] at hShows
    cases hShows

/- The code for an error has an outcome that shows it. -/
theorem run_shows_error
    {fuel : Nat} {report : Report}
    (hRun : run args clock runs fuel = some (.ok report))
    (hCode : report.exitCode = 3) :
    ∃ o ∈ report.runs,
      o.showsSettled args.terminalOnly = true ∧
        settledError args.terminalOnly o = true := by
  unfold run at hRun
  split at hRun
  next => cases hRun
  next =>
    rw [Option.map_eq_some_iff] at hRun
    rcases hRun with ⟨ended, hLoop, hReport⟩
    rw [bind_eq_ok] at hReport
    rcases hReport with ⟨decision, rfl, hReport⟩
    rw [bind_eq_ok] at hReport
    rcases hReport with ⟨outcomes, hRead, hReport⟩
    cases hReport
    have hMet : decision.stop = .conditionMet := by
      cases hStop : decision.stop <;>
        simp [exitCode, hStop] at hCode ⊢
    have hError :
        anySettledError outcomes args.terminalOnly = true := by
      simp only [exitCode, hMet] at hCode
      split at hCode
      next hBoth => exact (Bool.and_eq_true_iff.mp hBoth).2
      next => cases hCode
    rcases List.any_eq_true.mp hError with ⟨o, hMem, hHere⟩
    rcases waitLoop_met hLoop hMet with
      ⟨settles, hSettles, hLatched, _⟩
    rw [hLatched] at hRead
    rcases exists_of_forall₂ (agrees_of_reads hSettles hRead)
        hMem with ⟨settle, _, hAgrees⟩
    exact ⟨o, hMem, hAgrees.error hHere, hHere⟩

end AllRuns

end Wait

------------------------------------------------------------
-- A Session Restarted after the Poll
------------------------------------------------------------

namespace Sample

def noGit : GitQueries where
  revParse := fun _ _ => none
  cherry := fun _ _ _ _ => none
  isAncestor := fun _ _ _ => none
  revListCount := fun _ _ _ => none
  worktreeBranches := fun _ => none

def emptySite : Site where
  entries := fun _ => none
  texts := fun _ => none
  resolves := fun _ => none
  common := fun _ => none
  worktrees := fun _ => []
  refs := fun _ _ => none
  symbolic := fun _ _ => none
  trees := fun _ => ⟨false, false, false, none⟩
  ahead := fun _ _ _ => none
  fails := fun _ => false

def sighted (d : Disk) : Wait.Sighting where
  disk := d
  supervisor := .alive
  nodeFiles := [.first]
  git := noGit
  site := emptySite

/- A node whose session has exited. -/
def endedDisk : Disk := foldAll env Disk.empty piEnded

/- The poll sees the exit; then the caller starts again. -/
def restartedLooks : Nat → Disk
| 0 => endedDisk
| _ + 1 => ((Act.fold piRestart).run env).final endedDisk

theorem restartedLooks_later (k : Nat) :
    ActsFrom env (fun s => s = restartedLooks k)
      (restartedLooks (k + 1)) := by
  cases k with
  | zero =>
      exact Durable.Reach.done (Act.fold piRestart)
        (Durable.Reach.start rfl)
  | succ k => exact Durable.Reach.start rfl

def restarted : Wait.Watched where
  env := env
  sight := fun k => sighted (restartedLooks k)
  later := by
    intro k
    dsimp only [sighted]
    exact restartedLooks_later k

def anyArgs : Wait.Args where
  condition := .any
  timeout := none
  checkIn := none
  terminalOnly := false
  failOnError := true
  grace := 0

def endedLatch : Wait.LatchedSettle where
  stall := none
  attention := false
  attentionReason := none
  awaitingInput := none
  caller :=
    some ⟨1, "s", some "/s", .exited, some "done"⟩
  round := none

end Sample

namespace Wait

/- The exit that ended the wait is told next to the restart. -/
theorem wait_reports_ended_session :
    ∃ outcomes,
      readOutcomes Sample.anyArgs [Sample.restarted] 0
        [Sample.endedLatch] = .ok outcomes ∧
      (outcomes.map (fun o =>
        o.callerAgent.map (fun view =>
          (view.state, view.settledGeneration)))) =
            [some ("started", some 1)] ∧
      ∃ o ∈ outcomes, o.showsSettled false = true := by
  have hFacts :
      (readOutcomes Sample.anyArgs [Sample.restarted] 0
        [Sample.endedLatch]).toOption.any (fun outcomes =>
          outcomes.map (fun o =>
            o.callerAgent.map (fun view =>
              (view.state, view.settledGeneration))) =
                [some ("started", some 1)]) = true := by
    decide +kernel
  simp only [Option.any_eq_true, decide_eq_true_eq] at hFacts
  rcases hFacts with ⟨outcomes, hRead, hStates⟩
  have hLoop :
      (waitLoop Sample.anyArgs (fun _ => ⟨0, 0⟩)
        [Sample.restarted] 1 0).bind Except.toOption =
          some ⟨.conditionMet, 0, [Sample.endedLatch]⟩ := by
    decide +kernel
  rw [Option.bind_eq_some_iff] at hLoop
  rcases hLoop with ⟨ended, hLoop, hDecision⟩
  rw [ok_of_toOption hDecision] at hLoop
  exact ⟨outcomes, ok_of_toOption hRead, hStates,
    (wait_reports_decision Sample.anyArgs (fun _ => ⟨0, 0⟩)
      [Sample.restarted] 1 0 0 [Sample.endedLatch] outcomes
      hLoop (ok_of_toOption hRead)).2.1⟩

end Wait

end Taskfleet
