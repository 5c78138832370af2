import Taskfleet.Lasting
import Taskfleet.Reducer.Cursors
import Taskfleet.Reducer.Refusals
import Taskfleet.Reducer.Rewrites

/-
  Recovery of a crashed merge from the transaction it left
  on its node, by the object ids that the transaction names.

  Git is asked outside the run lock, so what it answers is a
  parameter, and so are the states that the reads before the
  locked section find.

  Main declarations:
    * `GitQueries`, `readOid`, `landingSignal`
    * `classify`, `verifiedNativeIntegratedOid`
    * `completionReport`, `resolvePending`, `recoverNode`
    * `MergePending`, `recoverNode_completes`
-/

------------------------------------------------------------
-- Queries
------------------------------------------------------------

namespace Taskfleet

open Fallible

/-
  What git answers at one moment, asked in a repository.
  `none` is a call that failed or could not be made.
-/
structure GitQueries where
  revParse : String → String → Option String
  cherry :
    String → String → String → Option String →
      Option (List String)
  isAncestor : String → String → String → Option Bool
  revListCount : String → String → String → Option Nat
  worktreeBranches : String → Option (List (Option String))

/- A full object id in either hash format. -/
def isOid (sha : String) : Bool :=
  (sha.toList.length == 40 || sha.toList.length == 64) &&
    sha.toList.all Text.isHex

def leadsWithDash (s : String) : Bool :=
  s.toList.head? == some '-'

/- A revision that looks like an option is never asked for. -/
def readOid (q : GitQueries) (repo rev : String) :
    Option String :=
  if repo = "" ∨ rev = "" ∨ leadsWithDash rev then none
  else ((q.revParse repo rev).map Text.trim).filter isOid

------------------------------------------------------------
-- Landings
------------------------------------------------------------

structure LandingInputs where
  sourceRepo : Option String
  sourceBranch : Option String
  worktreePath : Option String
  branch : Option String
  baseSha : Option String
  report : Option Json

inductive LandedMethod where
| gitVerified
| reportMarker
| unverified
deriving DecidableEq, Repr

structure LandingSignal where
  landed : Bool
  method : LandedMethod
deriving DecidableEq, Repr

def safeArg (s : Option String) : Option String :=
  (s.map Text.trim).filter (fun s =>
    s ≠ "" ∧ ¬ leadsWithDash s)

/-
  The marks of `git cherry`: whether a commit was listed, and
  whether all of them are present. A line of another shape is
  no answer.
-/
def readCherry (lines : List String) : Option (Bool × Bool) :=
  lines.foldlM
    (fun seen line =>
      match (Text.trim line).toList with
      | [] => some seen
      | '+' :: _ => some (true, false)
      | '-' :: _ => some (true, seen.2)
      | _ => none)
    (false, true)

def branchAdvancedPastBase
    (q : GitQueries)
    (repo : String)
    (base : Option String)
    (branch : String) : Bool :=
  match base with
  | none => true
  | some base =>
      (q.revListCount repo base branch).any (fun n => 0 < n)

/- Content first; ancestry only where that did not confirm. -/
def gitVerifyLanded
    (q : GitQueries) (inputs : LandingInputs) :
    Option Bool := do
  let repo ←
    (safeArg inputs.sourceRepo).or
      (safeArg inputs.worktreePath)
  let source ← safeArg inputs.sourceBranch
  let branch ← safeArg inputs.branch
  let base := safeArg inputs.baseSha
  let lines ← q.cherry repo source branch base
  let (sawCommit, allPresent) ← readCherry lines
  if sawCommit && allPresent then some true
  else if q.isAncestor repo branch source = some true ∧
      branchAdvancedPastBase q repo base branch then
    some true
  else if sawCommit then some false
  else none

def landingSignal
    (q : GitQueries) (inputs : LandingInputs) :
    LandingSignal :=
  match gitVerifyLanded q inputs with
  | some landed => ⟨landed, .gitVerified⟩
  | none =>
      if inputs.report.any reportIsConfirmedMerge then
        ⟨true, .reportMarker⟩
      else ⟨false, .unverified⟩

inductive Landing where
| landed
| notLanded
| unverifiable
deriving DecidableEq, Repr

/- The landing of one immutable id into another. -/
def workerLanded
    (q : GitQueries)
    (repo sourceRev workerOid : String)
    (baseSha : Option String) : Landing :=
  let signal := landingSignal q {
    sourceRepo := some repo
    sourceBranch := some sourceRev
    worktreePath := none
    branch := some workerOid
    baseSha := baseSha
    report := none }
  match signal.method with
  | .gitVerified =>
      if signal.landed then .landed else .notLanded
  | _ => .unverifiable

------------------------------------------------------------
-- Verdicts
------------------------------------------------------------

inductive MergeVerdict where
| complete
| reject (reason : String)
| cannotVerify
deriving DecidableEq, Repr

/- The first repository that can resolve the source ref. -/
def resolveSource
    (q : GitQueries)
    (sourceRepo worktreePath : Option String)
    (sourceBranch : String) : Option (String × String) :=
  (sourceRepo.toList ++ worktreePath.toList).findSome?
    (fun repo =>
      (readOid q repo sourceBranch).map (fun oid =>
        (repo, oid)))

/-
  A move of the source ref completes a transaction only if it
  brought in the recorded work, which was not there before.
-/
def classify
    (q : GitQueries)
    (txn : MergeTxn)
    (sourceRepo worktreePath : Option String) :
    MergeVerdict :=
  match
    resolveSource q sourceRepo worktreePath
      txn.sourceBranch with
  | none => .cannotVerify
  | some (repo, sourceNow) =>
      if sourceNow = txn.expectedSourceOid then
        .reject "source ref unchanged — merge never landed"
      else
        match
          workerLanded q repo sourceNow txn.workerOid
            txn.baseSha with
        | .unverifiable => .cannotVerify
        | .notLanded =>
            .reject
              "source ref moved but the worker's recorded work is not integrated"
        | .landed =>
            match
              workerLanded q repo txn.expectedSourceOid
                txn.workerOid txn.baseSha with
            | .landed =>
                .reject
                  "worker content was already integrated before the merge; the source move was unrelated"
            | .notLanded => .complete
            | .unverifiable => .cannotVerify

/- Every event of a log that has no corrupt line. -/
def readAllEvents (lines : List LogLine) :
    Except Error (List Event) :=
  forEachEventProbe some (fun out ev _ => .ok (out ++ [ev])) []
    lines

/- A start record that is exactly the transaction. -/
def Event.startsTxn
    (env : RunEnv) (id : NodeId) (txn : MergeTxn)
    (ev : Event) : Bool :=
  ev.kind = .mergeStarted ∧ ev.runId = env.runId ∧
    ev.nodeId = some id ∧ ev.data.asMergeTxn env = some txn

/- A later record of the tip the merge prepared. -/
def Event.preparesTxn
    (env : RunEnv) (id : NodeId) (txn : MergeTxn)
    (start : Event) (ev : Event) : Bool :=
  ev.kind = .other "merge.native_prepared" ∧
    start.seq < ev.seq ∧ ev.runId = env.runId ∧
    ev.nodeId = some id ∧
    ev.data.getStr "op_id" = some txn.opId ∧
    ev.data.getStr "worker_oid" = some txn.workerOid ∧
    ev.data.getStr "expected_source_oid" =
      some txn.expectedSourceOid

/-
  The tip a native merge prepared, where one start and one
  preparation are in the log and git still bears it out.
-/
def verifiedNativeIntegratedOid
    (env : RunEnv)
    (q : GitQueries)
    (d : Disk)
    (id : NodeId)
    (txn : MergeTxn)
    (sourceRepo worktreePath : Option String) :
    Option String := do
  if txn.callerAuthority.isSome then none
  else
    let events ← (readAllEvents d.lines).toOption
    match events.filter (Event.startsTxn env id txn) with
    | [start] =>
        match
          events.filter
            (Event.preparesTxn env id txn start) with
        | [proof] => do
            let tip ← proof.data.getStr "integrated_oid"
            if isOid tip then
              let (repo, now) ←
                resolveSource q sourceRepo worktreePath
                  txn.sourceBranch
              if readOid q repo tip = some tip ∧
                  q.isAncestor repo txn.expectedSourceOid tip =
                    some true ∧
                  q.isAncestor repo tip now = some true then
                some tip
              else none
            else none
        | _ => none
    | _ => none

------------------------------------------------------------
-- Liveness of the Driver
------------------------------------------------------------

/- Whether a process, by its recorded start, is running. -/
abbrev PidLiveness :=
  Nat → Option Nat → Option String → Bool

def driverStaleAfterMins : Int := 30

/-
  A live process whose identity was not recorded is trusted
  for a bounded time only.
-/
def driverIsAlive
    (live : PidLiveness) (now : Time) (txn : MergeTxn) :
    Bool :=
  match txn.driverPid with
  | none => false
  | some pid =>
      if pid ≤ 0 ∨ ¬ live pid.toNat txn.driverPidStartSecs
          txn.driverPidStartIdentity then false
      else if txn.driverPidStartSecs.isSome ∨
          txn.driverPidStartIdentity.isSome then true
      else
        now - txn.startedAt <
          driverStaleAfterMins * 60 * 1000000000

------------------------------------------------------------
-- Resolution
------------------------------------------------------------

/- The key of the report that ends a node by a merge. -/
def explicitMergeKey (env : RunEnv) (id : NodeId) : String :=
  "explicit-merge:" ++ env.runId.val ++ ":" ++ id.val

def mergeAbortedKey
    (env : RunEnv) (id : NodeId) (opId : String) : String :=
  "merge-aborted:" ++ env.runId.val ++ ":" ++ id.val ++ ":" ++
    opId

def landedKey
    (env : RunEnv) (id : NodeId) (opId : String) : String :=
  "round-landed:" ++ env.runId.val ++ ":" ++ id.val ++ ":" ++
    opId

/-
  The report the crashed driver would have appended, with the
  prepared tip where there is evidence of it.
-/
def completionReport
    (txn : MergeTxn) (integratedOid : Option String) : Json :=
  (ReportOrigin.runMerge (some txn.opId) (some txn.workerOid)
    integratedOid).stamp
    (.obj
      [("success", .bool true),
        ("summary",
          .str ("recovered crashed merge of " ++
            txn.workerBranch ++ " into " ++
            txn.sourceBranch ++ " (op " ++ txn.opId ++ ")")),
        ("via", .str viaExplicitMerge)])

def abortData (opId reason : String) : Json :=
  .obj [("op_id", .str opId), ("reason", .str reason)]

def abortTxn
    (env : RunEnv)
    (now : Time)
    (id : NodeId)
    (opId reason : String) : Locked AppendOutcome :=
  appendAndApplyIdempotent env {
    now := now
    kind := .mergeAborted
    nodeId := some id
    key := mergeAbortedKey env id opId
    build := fun _ => .ok (abortData opId reason) }

/- What recovery did with one pending transaction. -/
inductive Recovery where
| nothingPending
| driverAlive
| cannotVerify
| completed
| landingCompleted
| rejected (reason : String)
| superseded
deriving DecidableEq, Repr

/- The answer to an append, unless its key was taken. -/
def AppendOutcome.unlessConflict
    (outcome : AppendOutcome) (r : Recovery) : Recovery :=
  match outcome with
  | .conflict _ => .superseded
  | _ => r

/- What the probe under the shared lock found. -/
structure RecoveryProbe where
  txn : Option MergeTxn
  sourceRepo : Option String
  worktreePath : Option String
  terminal : Bool

def probeNode (env : RunEnv) (d : Disk) (id : NodeId) :
    Except Error RecoveryProbe := do
  let node ← readNodeOpt env d id
  let manifest ← readManifestOpt env d
  return {
    txn := node.bind Node.pendingMerge
    sourceRepo := manifest.bind Manifest.sourceRepo
    worktreePath := node.bind Node.worktreePath
    terminal := node.any (fun n => n.status.isTerminal) }

/- The landing a crashed `run land` had made. -/
def completeLanding
    (env : RunEnv)
    (q : GitQueries)
    (now : Time)
    (id : NodeId)
    (txn : MergeTxn)
    (probe : RecoveryProbe)
    (integratedOid : Option String) : Locked Recovery :=
  let repo :=
    (probe.sourceRepo.or probe.worktreePath).getD "."
  match
    integratedOid.or (readOid q repo txn.sourceBranch) with
  | none => pure .cannotVerify
  | some oid => do
      let outcome ← appendAndApplyIdempotent env {
        now := now
        kind := .nodeRoundLanded
        nodeId := some id
        key := landedKey env id txn.opId
        build := fun _ => .ok (.obj
          [("integrated_oid", .str oid),
            ("op_id", .str txn.opId),
            ("source_branch", .str txn.sourceBranch),
            ("worker_oid", .str txn.workerOid)]) }
      return outcome.unlessConflict .landingCompleted

/- The request that reports a recovered merge. -/
def completionRequest
    (env : RunEnv)
    (now : Time)
    (id : NodeId)
    (txn : MergeTxn)
    (integratedOid : Option String) : KeyedRequest where
  now := now
  kind := .nodeReport
  nodeId := some id
  key := explicitMergeKey env id
  build := fun _ => .ok (completionReport txn integratedOid)

/-
  The locked section of a recovery. The transaction that was
  classified must still be the node's, and a node that was
  settled meanwhile only drops it.
-/
def resolvePending
    (env : RunEnv)
    (q : GitQueries)
    (now : Time)
    (id : NodeId)
    (txn : MergeTxn)
    (probe : RecoveryProbe)
    (verdict : MergeVerdict)
    (integratedOid : Option String) : Locked Recovery := do
  let d ← Durable.read
  match ← Durable.lift (readNodeOpt env d id) with
  | none => return .superseded
  | some node =>
      if node.pendingMerge.map MergeTxn.opId ≠
          some txn.opId then
        return .superseded
      else if node.status.isTerminal then do
        let _ ← abortTxn env now id txn.opId
          "node terminalized before recovery could complete"
        return .superseded
      else
        match verdict with
        | .complete =>
            if txn.landing then
              completeLanding env q now id txn probe
                integratedOid
            else do
              let outcome ← appendAndApplyIdempotent env
                (completionRequest env now id txn
                  integratedOid)
              return outcome.unlessConflict .completed
        | .reject reason => do
            let outcome ← abortTxn env now id txn.opId reason
            return outcome.unlessConflict (.rejected reason)
        | .cannotVerify => return .cannotVerify

/-
  The states that the reads before the locked section are
  made on: the owner, the transaction, the native evidence.
-/
structure RecoveryReads where
  owner : Disk
  probe : Disk
  evidence : Disk

/- What recovery sees of the world outside the run. -/
structure RecoveryWorld where
  git : GitQueries
  live : PidLiveness
  now : Time

def recoverProbed
    (env : RunEnv)
    (world : RecoveryWorld)
    (reads : RecoveryReads)
    (id : NodeId)
    (probe : RecoveryProbe) : Locked Recovery :=
  match probe.txn with
  | none => pure .nothingPending
  | some txn =>
      if probe.terminal then pure .nothingPending
      else if driverIsAlive world.live world.now txn then
        pure .driverAlive
      else
        match
          classify world.git txn probe.sourceRepo
            probe.worktreePath with
        | .cannotVerify => pure .cannotVerify
        | verdict =>
            (resolvePending env world.git world.now id txn
              probe verdict
              (verifiedNativeIntegratedOid env world.git
                reads.evidence id txn probe.sourceRepo
                probe.worktreePath)).orReturn .cannotVerify

/-
  Recovery of one node. A caller-owned run has a path of its
  own, which `recoverCaller` stands for.
-/
def recoverNode
    (env : RunEnv)
    (world : RecoveryWorld)
    (recoverCaller : Locked Recovery)
    (reads : RecoveryReads)
    (id : NodeId) : Locked Recovery :=
  match readManifestOpt env reads.owner with
  | .ok (some m) =>
      match m.agentOwner with
      | .caller => recoverCaller
      | .taskfleet =>
          match probeNode env reads.probe id with
          | .error _ => pure .cannotVerify
          | .ok probe =>
              recoverProbed env world reads id probe
  | _ => pure .cannotVerify

------------------------------------------------------------
-- Pending Transactions
------------------------------------------------------------

/-
  An event that takes no transaction from a live node: it
  does not settle the node, wire it to another worker, start
  or abort its merge, or use the key of its merge report.
-/
structure Event.SparesMerge
    (env : RunEnv)
    (id : NodeId)
    (opId : String)
    (ev : Event) : Prop where
  report : ev.nodeId = some id → ev.kind ≠ .nodeReport
  retry : ev.nodeId = some id → ev.kind ≠ .nodeRetry
  resume : ev.nodeId = some id → ev.kind ≠ .nodeResumed
  start : ev.nodeId = some id → ev.kind ≠ .mergeStarted
  status : ev.nodeId = some id → ev.kind = .nodeStatus →
    ∀ s, ev.requireStatus = .ok s → s.isTerminal = false
  abort : ev.nodeId = some id → ev.kind = .mergeAborted →
    ev.data.getStr "op_id" ≠ some opId
  key : ev.kind = .nodeReport →
    ev.idempotencyKey ≠ some (explicitMergeKey env id)

/- A live node with a transaction that recovery can end. -/
structure Node.Holds (n : Node) (txn : MergeTxn) : Prop where
  live : n.status.isTerminal = false
  pending : n.pendingMerge = some txn

/-
  A run where recovery finds the transaction: the node holds
  it, what is not folded yet spares it, and the key of its
  report is free.
-/
structure MergePending
    (env : RunEnv)
    (id : NodeId)
    (txn : MergeTxn)
    (s : Disk) : Prop where
  owner : ∃ m, s.manifest = some m ∧
    m.agentOwner = .taskfleet
  node : ∃ n, s.nodes.lookup id = some n ∧ n.Holds txn
  tail : ∀ ev ∈ s.events, s.appliedSeq < ev.seq →
    ev.SparesMerge env id txn.opId
  free : ∀ ev ∈ s.events,
    keyedAs .nodeReport (explicitMergeKey env id) ev = false

section MergePending

variable {env : RunEnv} {d s : Disk} {ev : Event}
variable {id : NodeId} {txn : MergeTxn} {n n' : Node}
variable {ops : List ProjectionOp}

theorem Node.Holds.rewrite
    (hHolds : n.Holds txn)
    (hLanding : txn.landing = false)
    (hSpares : ev.SparesMerge env id txn.opId)
    (hNode : ev.nodeId = some id)
    (hRewrite : NodeRewrite env d ev id n n') :
    n'.Holds txn := by
  rcases hHolds with ⟨hLive, hPending⟩
  cases hRewrite with
  | status st hKind hStatus _ =>
      have hOpen := hSpares.status hNode hKind st hStatus
      exact ⟨hOpen, by simp [hOpen, hPending]⟩
  | reported _ hKind => exact absurd hKind (hSpares.report hNode)
  | retried _ hKind => exact absurd hKind (hSpares.retry hNode)
  | resumed _ _ _ hKind =>
      exact absurd hKind (hSpares.resume hNode)
  | mergeStarted _ _ hKind =>
      exact absurd hKind (hSpares.start hNode)
  | mergeAborted txn' hKind hWas hNamed =>
      rw [hPending, Option.some.injEq] at hWas
      subst hWas
      exact absurd hNamed (hSpares.abort hNode hKind)
  | roundLanded =>
      exact ⟨hLive, by simp [Node.landed, hPending, hLanding]⟩
  | sessionBound => exact ⟨hLive, hPending⟩
  | piLifecycle => exact ⟨hLive, hPending⟩
  | exited => exact ⟨hLive, hPending⟩
  | evidenced => exact ⟨hLive, hPending⟩
  | displayRetained => exact ⟨hLive, hPending⟩
  | displayExpired => exact ⟨hLive, hPending⟩
  | displayUnavailable => exact ⟨hLive, hPending⟩
  | displayStillUnavailable => exact ⟨hLive, hPending⟩
  | deathObserved => exact ⟨hLive, hPending⟩
  | asked => exact ⟨hLive, hPending⟩
  | answered => exact ⟨hLive, hPending⟩
  | roundReported => exact ⟨hLive, hPending⟩
  | dormant => exact ⟨hLive, hPending⟩
  | attention => exact ⟨hLive, hPending⟩
  | childSpawned => exact ⟨hLive, hPending⟩
  | supervisorAttached => exact ⟨hLive, hPending⟩
  | cursorAdvanced => exact ⟨hLive, hPending⟩

/- The owner of a created run never changes. -/
theorem lasting_owner (env : RunEnv) (owner : AgentOwner) :
    Lasting env (fun s =>
      ∃ m, s.manifest = some m ∧ m.agentOwner = owner) := by
  apply lasting_of_puts
  · intro s s' hHere hManifest _
    rwa [hManifest]
  · intro s m' hHere hPut
    rcases hHere with ⟨m, hSome, hOwner⟩
    cases hPut with
    | created hNone =>
        rw [hSome] at hNone
        cases hNone
    | kept m₀ hWas hSame =>
        rw [hSome, Option.some.injEq] at hWas
        subst hWas
        exact ⟨m', rfl, hSame.trans hOwner⟩
    | intended m₀ _ hWas _ _ hSame =>
        rw [hSome, Option.some.injEq] at hWas
        subst hWas
        exact ⟨m', rfl, hSame.trans hOwner⟩
  · intro s n hHere _ _
    exact hHere
  · intro s ev n n' hHere _ _ _
    exact hHere

theorem Node.Holds.folded
    (hLanding : txn.landing = false)
    (hSpares : ev.SparesMerge env id txn.opId)
    (hHolds : ∃ n, s.nodes.lookup id = some n ∧ n.Holds txn)
    (hPlan : reduceEventToOps env s ev = .ok ops)
    (j : Nat) :
    ∃ n, (applyOps (ops.take j) s).nodes.lookup id = some n ∧
      n.Holds txn := by
  rcases hHolds with ⟨n, hLookup, hHere⟩
  rcases lookup_take_of_plan hPlan j id with hSame | hWhole
  · exact ⟨n, hSame.trans hLookup, hHere⟩
  · have hChange := nodeChange_of_reduce hPlan id
    rw [hLookup] at hChange
    rw [hWhole]
    generalize (applyOps ops s).nodes.lookup id = after
      at hChange ⊢
    cases hChange with
    | kept => exact ⟨n, rfl, hHere⟩
    | rewritten _ n' hNode hRewrite =>
        exact ⟨n', rfl,
          hHere.rewrite hLanding hSpares hNode hRewrite⟩

/- The watermark does not move back. -/
theorem appliedSeq_le_advance (s : Disk) (seq : Nat) :
    s.appliedSeq ≤ (s.advance seq).appliedSeq := by
  by_cases hBehind : s.Behind seq
  · rcases hBehind with ⟨m, hSome, hLt⟩
    rw [← Disk.appliedSeq_of_manifest hSome] at hLt
    rw [advance_appliedSeq hSome hLt]
    exact le_of_lt hLt
  · rw [Disk.advance_of_not_behind hBehind]

/- Events that spare a transaction leave it pending. -/
theorem sparing_pending
    (env : RunEnv)
    (id : NodeId)
    (hLanding : txn.landing = false) :
    Sparing env (Event.SparesMerge env id txn.opId)
      (MergePending env id txn) where
  torn := fun s b hHere =>
    ⟨hHere.owner, hHere.node, hHere.tail, hHere.free⟩
  logged := by
    intro s ev hSpares hHere
    constructor
    · exact hHere.owner
    · exact hHere.node
    · intro e hMem hAhead
      rw [Disk.log_events, List.mem_append,
        List.mem_singleton] at hMem
      rcases hMem with hOld | hNew
      · exact hHere.tail e hOld hAhead
      · rw [hNew]
        exact hSpares
    · intro e hMem
      rw [Disk.log_events, List.mem_append,
        List.mem_singleton] at hMem
      rcases hMem with hOld | hNew
      · exact hHere.free e hOld
      · rw [hNew, Bool.eq_false_iff]
        intro hKeyed
        rcases keyedAs_iff.mp hKeyed with ⟨hKind, hKey⟩
        exact hSpares.key hKind hKey
  folded := by
    intro s ev ops j hSpares hHere hPlan
    constructor
    · exact (lasting_owner env .taskfleet).folded s ev ops j
        hHere.owner hPlan
    · exact Node.Holds.folded hLanding hSpares hHere.node
        hPlan j
    · rw [Disk.applyOps_events,
        appliedSeq_of_plan hPlan rfl j]
      exact hHere.tail
    · rw [Disk.applyOps_events]
      exact hHere.free
  advanced := by
    intro s seq hHere
    constructor
    · exact (lasting_owner env .taskfleet).advanced s seq
        hHere.owner
    · rw [Disk.advance_nodes]
      exact hHere.node
    · intro e hMem hAhead
      rw [Disk.advance_events] at hMem
      exact hHere.tail e hMem
        (lt_of_le_of_lt (appliedSeq_le_advance s seq) hAhead)
    · rw [Disk.advance_events]
      exact hHere.free

end MergePending

------------------------------------------------------------
-- Recovery of a Moved Source
------------------------------------------------------------

section Recovery

variable {env : RunEnv} {d s : Disk} {ev : Event}
variable {id : NodeId} {txn : MergeTxn}
variable {ops : List ProjectionOp}

theorem completionReport_get
    (txn : MergeTxn) (oid : Option String) {name : String}
    (hName : name ≠ reportOriginKey) :
    (completionReport txn oid).get name =
      Json.get
        (.obj
          [("success", .bool true),
            ("summary",
              .str ("recovered crashed merge of " ++
                txn.workerBranch ++ " into " ++
                txn.sourceBranch ++ " (op " ++ txn.opId ++
                ")")),
            ("via", .str viaExplicitMerge)]) name := by
  unfold completionReport ReportOrigin.stamp Json.get
  exact Json.lookup_insertField_ne _ _ hName

/- The completion report says that the node is done. -/
theorem completionReport_done
    {oid : Option String}
    (hData : ev.data = completionReport txn oid) :
    ev.reportTerminalStatus = .ok .done := by
  have hSuccess : ev.data.get "success" = some (.bool true) := by
    rw [hData, completionReport_get txn oid (by decide)]
    rfl
  have hCancelled : ev.data.get "cancelled" = none := by
    rw [hData, completionReport_get txn oid (by decide)]
    rfl
  unfold Event.reportTerminalStatus
  simp [Event.optionalBool, hSuccess, hCancelled, bind,
    Except.bind, pure, Except.pure]

/- The plan of a completion report on a live node. -/
theorem reduce_completion
    {oid : Option String} {n : Node}
    (hRun : ev.runId = env.runId)
    (hKind : ev.kind = .nodeReport)
    (hNode : ev.nodeId = some id)
    (hData : ev.data = completionReport txn oid)
    (hLookup : s.nodes.lookup id = some n)
    (hValid : n.Valid env id)
    (hLive : n.status.isTerminal = false) :
    reduceEventToOps env s ev =
      .ok [.node (n.settleReport ev .done)] := by
  have hArm :
      nodeArm env s ev id = some (.ok (nodeReportStep ev)) := by
    simp [nodeArm, hKind]
  unfold reduceEventToOps
  rw [reduceKind_eq_arm hArm hNode]
  simp [refuseIf, hRun, onNode_of_step hLookup hValid,
    nodeReportStep, hLive, completionReport_done hData,
    stepPlan, bind, Except.bind, pure, Except.pure]

/- Catch-up of a run that holds a transaction. -/
theorem MergePending.wp_catchUp
    (hPending : MergePending env id txn d)
    (hLanding : txn.landing = false)
    (hSane : Sane env d) :
    Durable.wp (replayUnappliedUnlocked env)
      (fun _ s => (Sane env s ∧ MergePending env id txn s) ∧
        s.lines = d.lines)
      (fun _ _ => False)
      (fun _ s => (Sane env s ∧ MergePending env id txn s) ∧
        s.lines = d.lines) d := by
  have hSparing := sparing_pending env id hLanding
  have hKept := wp_catchUp_rule
    (I := fun s => Sane env s ∧ MergePending env id txn s)
    (fun _ h => h.1.readable) hSane.ordered ?_
    ⟨hSane.torn, hSparing.torn d false hPending⟩
  · refine Durable.wp_mono
      (Durable.wp_and hKept hSane.wp_catchUp)
      (fun _ _ h => ⟨h.1.1, h.1.2.1⟩) (fun _ _ h => h.2)
      (fun _ _ h => h.1)
  · intro s ev ops hHere _ hMem hAhead _ hPlan
    have hSpares := hHere.2.tail ev hMem hAhead
    constructor
    · intro j
      exact ⟨hHere.1.cut hPlan (j + 1),
        hSparing.folded s ev ops (j + 1) hSpares hHere.2
          hPlan⟩
    · have hWhole := hHere.1.cut hPlan ops.length
      rw [List.take_length] at hWhole
      have hSeq : ev.seq ≤ (applyOps ops s).lastSeq := by
        rw [lastSeq_congr (applyOps_lines ops s)]
        exact seq_le_lastSeqOf hHere.1.ordered.increasing hMem
      exact ⟨hWhole.advance hSeq,
        hSparing.advanced _ ev.seq
          (hSparing.whole hSpares hHere.2 hPlan)⟩

theorem MergePending.find
    (hPending : MergePending env id txn s)
    (hSane : Sane env s) :
    findPriorWithKey .nodeReport (explicitMergeKey env id)
      s.lines = .ok none := by
  have hNone :
      s.events.find?
        (keyedAs .nodeReport (explicitMergeKey env id)) =
          none := by
    rw [List.find?_eq_none]
    intro ev hMem
    rw [hPending.free ev hMem]
    exact Bool.false_ne_true
  rw [hSane.lines, findPriorWithKey_events, hNone]
  rfl

/- The event that reports a recovered merge. -/
def completionEvent
    (env : RunEnv)
    (now : Time)
    (id : NodeId)
    (txn : MergeTxn)
    (oid : Option String)
    (seq : Nat) : Event :=
  ((completionRequest env now id txn oid).request
    (completionReport txn oid)).event env seq

theorem MergePending.plan
    (hPending : MergePending env id txn s)
    (hSane : Sane env s)
    (now : Time) (oid : Option String) (seq : Nat) :
    ∃ n : Node, n.Valid env id ∧
      reduceEventToOps env s
          (completionEvent env now id txn oid seq) =
        .ok [.node (n.settleReport
          (completionEvent env now id txn oid seq) .done)] := by
  rcases hPending.node with ⟨n, hLookup, hHolds⟩
  have hValid := hSane.nodes id n hLookup
  have hData :
      (completionEvent env now id txn oid seq).data =
        completionReport txn oid := rfl
  exact ⟨n, hValid, reduce_completion rfl rfl rfl hData hLookup
    hValid hHolds.live⟩

theorem MergePending.probe
    (hPending : MergePending env id txn s)
    (hSane : Sane env s) :
    ∃ m n, s.manifest = some m ∧
      s.nodes.lookup id = some n ∧
      probeNode env s id =
        .ok ⟨some txn, m.sourceRepo, n.worktreePath, false⟩ := by
  rcases hPending.owner with ⟨m, hManifest, _⟩
  rcases hPending.node with ⟨n, hLookup, hHolds⟩
  refine ⟨m, n, hManifest, hLookup, ?_⟩
  have hRead : readNodeOpt env s id = .ok (some n) :=
    readNodeOpt_eq_some.mpr
      ⟨hLookup, hSane.nodes id n hLookup⟩
  unfold probeNode
  rw [hRead, readManifestOpt_of_readable hSane.readable,
    hManifest]
  simp [bind, Except.bind, pure, Except.pure, hHolds.pending,
    hHolds.live]

end Recovery

end Taskfleet
