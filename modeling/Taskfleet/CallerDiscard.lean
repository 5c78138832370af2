import Taskfleet.Discard
import Taskfleet.NodeStatus
import Taskfleet.PiHistory
import Taskfleet.Settlement
import Taskfleet.Threads

/-
  The discard of what a caller's own run has left, under the
  exclusive lease of its writer lock.

  Unlike other discards it does not hold the run lock. It asks
  the log, the projections, git and the kernel one after the
  other, and again before each of the two things it destroys;
  others may take the run lock, and change what git and the
  kernel hold, between any two of its questions.

  Main declarations:
    * `CallerHost`, `HostCmd`, `callerInterface`
    * `Receipt`, `audit`, `revalidateAt`
    * `check`, `execute`, `completed`
    * `Errand.run`
-/

------------------------------------------------------------
-- The Host
------------------------------------------------------------

namespace Taskfleet

open Checkouts Fallible Threads

namespace CallerDiscard

/- The device and the inode of a lock file. -/
structure Identity where
  dev : Nat
  ino : Nat
deriving DecidableEq, Repr

structure Fence where
  writer : Identity
  launchGate : Identity
deriving DecidableEq, Repr

def Identity.toJson (id : Identity) : Json :=
  .obj [("dev", .int id.dev), ("ino", .int id.ino)]

def Fence.toJson (fence : Fence) : Json :=
  .obj
    [("launch_gate", fence.launchGate.toJson),
      ("writer", fence.writer.toJson)]

/- A call, or another process. -/
inductive Holder where
| call (i : Nat)
| other
deriving DecidableEq, Repr

/-
  The run, git and the kernel, the native files, the heads of
  checkouts, what an inspection of the fence finds, the inode
  at the path of the writer lock, and who has the exclusive
  lock of an inode.
-/
structure CallerHost where
  disk : Disk
  site : Site
  files : NativeFiles
  heads : String → Option String
  fence : Option Fence
  opened : Option Identity
  leases : Identity → Option Holder

/- What a call does in one go. -/
inductive HostCmd where
| look
| guess
| flock (inode : Identity)
| append (r : Request)
| worktreeRemove (repo path : String)
| branchDelete (repo branch oid : String)

/- The answer to a guess may mix what was true at many times. -/
@[reducible]
def HostCmd.Ans : HostCmd → Type
| .look => CallerHost
| .guess => Site × (String → Option String)
| .flock _ => Bool
| .append _ => Except Error AppendResult
| .worktreeRemove _ _ => Bool
| .branchDelete _ _ _ => Bool

/-
  An append is made under the run lock, at some time; it may
  fail before and after any of its writes.
-/
inductive AppendRuns
    (env : RunEnv) (r : Request) (d : Disk) :
    Except Error AppendResult → Disk → Prop where
| done (now : Time) (res : AppendResult)
    (hOk :
      (appendAndApplyEvent env { r with now := now }).result
        d = .ok res) :
    AppendRuns env r d (.ok res)
      ((appendAndApplyEvent env { r with now := now }).final d)
| refused (e : Error) : AppendRuns env r d (.error e) d
| failed (now : Time) (e : Error) (d' : Disk)
    (hLeaves :
      (appendAndApplyEvent env
        { r with now := now }).Leaves d d') :
    AppendRuns env r d (.error e) d'

def hostPerform (env : RunEnv) (tool : Git) (i : Nat) :
    (c : HostCmd) → CallerHost → c.Ans → CallerHost → Prop
| .look, w, a, w' => w' = w ∧ a = w
| .guess, w, _, w' => w' = w
| .flock inode, w, ok, w' =>
    if ok = true then
      w.leases inode = none ∧
        w' = { w with
          leases :=
            Function.update w.leases inode (some (.call i)) }
    else w' = w
| .append r, w, a, w' =>
    ∃ d, AppendRuns env r w.disk a d ∧ w' = { w with disk := d }
| .worktreeRemove repo path, w, ok, w' =>
    ∃ t, tool.worktreeRemove w.site repo path true ok t ∧
      w' = { w with site := t }
| .branchDelete repo branch oid, w, ok, w' =>
    ∃ t, tool.BranchDeleteOid w.site repo branch oid ok t ∧
      w' = { w with site := t }

abbrev callerInterface (env : RunEnv) (tool : Git) :
    Interface Nat CallerHost where
  Cmd := HostCmd
  Ans := HostCmd.Ans
  perform := hostPerform env tool

/- A call, with the errors of the command line. -/
abbrev Discarding (env : RunEnv) (tool : Git) (α : Type) :=
  Thread (callerInterface env tool) CliError α

variable {tool : Git}

section Calls

variable {env : RunEnv} {α : Type}

def command (c : HostCmd) : Discarding env tool c.Ans :=
  Thread.command (I := callerInterface env tool) c

/- One question that is answered at one time. -/
def ask (f : CallerHost → Except CliError α) :
    Discarding env tool α := do
  let w ← command .look
  Thread.lift (f w)

/- A survey of git and the kernel that takes its time. -/
def survey
    (f : Site → (String → Option String) → Except CliError α) :
    Discarding env tool α := do
  let (s, heads) ← command .guess
  Thread.lift (f s heads)

end Calls

------------------------------------------------------------
-- The Lease
------------------------------------------------------------

def denied (message : String) : CliError :=
  .user "checkout_mismatch" message none

def unavailable (why : String) : CliError :=
  .user "writer_fence_unavailable"
    ("caller writer fence unavailable: " ++ why ++
      "; preserve the run and checkout") none

def conflict (message : String) : CliError :=
  .user "settlement_conflict" message none

/- The fence is the one of the creation of the run. -/
def checkCreationFence (lines : List LogLine) (fence : Fence) :
    Except CliError Unit := do
  let events ← (readAllEvents lines).mapError .core
  refuseIf
    ((events.find? (fun ev => ev.kind = .runCreated)).bind
        (fun ev => ev.data.get "writer_fence") ≠
      some fence.toJson)
    (.user "pi_session_conflict"
      "writer fence differs from run creation event" none)

def writerOf (intent : CallerSettlementIntent) : Identity :=
  ⟨intent.writerDev, intent.writerIno⟩

def gateOf (intent : CallerSettlementIntent) : Identity :=
  ⟨intent.gateDev, intent.gateIno⟩

/- The lease is that of the fence, and the intent stands. -/
def revalidateAt
    (env : RunEnv)
    (held : Identity)
    (intent : CallerSettlementIntent)
    (w : CallerHost) : Except CliError Unit := do
  let fence ← orError (unavailable "") w.fence
  checkCreationFence w.disk.lines fence
  let m ← (readManifestOpt env w.disk).mapError .core
  refuseIf
    (held ≠ fence.writer ∨
      writerOf intent ≠ fence.writer ∨
      gateOf intent ≠ fence.launchGate ∨
      m.bind Manifest.callerSettlementIntent ≠ some intent)
    (unavailable "writer lease or persisted intent changed")

def writerActive (env : RunEnv) : CliError :=
  .user "writer_active"
    ("intent recorded for " ++ env.runId.val ++
      "; writer lease busy (phase intent-recorded); retry the same key after writer exits; no Git action taken")
    none

/-
  One try for the lease. What is held is the inode that was at
  the path when it was opened.
-/
def tryExclusive
    (env : RunEnv) (intent : CallerSettlementIntent) :
    Discarding env tool (Option Identity) := do
  let fence ← ask (fun w => orError (unavailable "") w.fence)
  let inode ← ask (fun w => orError (unavailable "") w.opened)
  let ok ← command (.flock inode)
  if ok = true then do
    ask (revalidateAt env inode intent)
    let again ← ask (fun w => orError (unavailable "") w.fence)
    Thread.lift (refuseIf (again ≠ fence)
      (unavailable "writer pathname changed"))
    return some inode
  else return none

/- It is tried once more while there is time. -/
def acquireExclusive
    (env : RunEnv) (intent : CallerSettlementIntent)
    (turns : Nat) : Discarding env tool Identity := do
  match ← tryExclusive env intent with
  | some inode => return inode
  | none =>
      match turns with
      | 0 => Thread.fail (writerActive env)
      | turns + 1 => acquireExclusive env intent turns

------------------------------------------------------------
-- The Run
------------------------------------------------------------

/- Both projections, as they are at one time. -/
def stateAt (env : RunEnv) (d : Disk) :
    Except CliError (Manifest × Node) := do
  let m ← (readManifestOpt env d).mapError .core
  let n ← (readNodeOpt env d .first).mapError .core
  let m ← orError (denied "run projection missing") m
  let n ← orError (denied "node projection missing") n
  return (m, n)

/- One node, failed or cancelled, and the run as well. -/
def overAt (env : RunEnv) (m : Manifest) (n : Node) :
    Except CliError Unit :=
  refuseIf
    (m.agentOwner ≠ .caller ∨ m.runId ≠ env.runId ∨
      n.runId ≠ env.runId ∨ n.nodeId ≠ .first ∨
      m.nodeCount ≠ 1 ∨ m.status.discardable = false ∨
      n.status ≠ m.status ∨ n.pendingMerge.isSome)
    (conflict
      "caller discard requires one failed/cancelled node without a pending merge transaction")

def factsAt (n : Node) (d : Disk) : Except CliError Unit := do
  let facts ←
    (readNodeStatusFacts d.lines none).mapError .core
  refuseIf
    (facts.map (fun fact => (fact.nodeId, fact.status)) ≠
      [(n.nodeId, n.status)])
    (conflict
      "event log does not confirm the single terminal node")

def state (env : RunEnv) :
    Discarding env tool (Manifest × Node) :=
  ask (fun w => stateAt env w.disk)

def terminal (env : RunEnv) (m : Manifest) (n : Node) :
    Discarding env tool Unit := do
  Thread.lift (overAt env m n)
  ask (fun w => factsAt n w.disk)

/- The source of a run, its checkout and its branch. -/
structure Target where
  repo : String
  source : String
  checkout : String
  branch : String
deriving DecidableEq, Repr

def targetOf (m : Manifest) (n : Node) :
    Except CliError Target := do
  return {
    repo := ← orError (denied "source repository missing")
      m.sourceRepo
    source := ← orError (denied "source branch missing")
      m.sourceBranch
    checkout := ← orError (denied "checkout missing")
      n.worktreePath
    branch := ← orError (denied "worker branch missing")
      n.branch }

def identities (env : RunEnv) (m : Manifest) (n : Node) :
    Discarding env tool Target := do
  let target ← Thread.lift (targetOf m n)
  survey (fun s _ =>
    refuseIf
      (target.repo = target.checkout ∨
        target.branch = target.source ∨
        isAbsolute target.repo = false ∨
        isAbsolute target.checkout = false ∨
        (s.metadata target.repo).all (fun dir =>
          dir.isDir = false) ∨
        s.canonicalize target.repo ≠ some target.repo)
      (denied "source/worker checkout identity is unsafe"))
  return target

/- The native history is known and kept elsewhere. -/
def history (env : RunEnv) (n : Node) (checkout : String) :
    Discarding env tool Unit :=
  ask (fun w =>
    historyChecked env w.files w.disk.lines n checkout)

def sourceGitIdentity (env : RunEnv) (repo : String) :
    Discarding env tool Identity :=
  survey (fun s _ => do
    let common ←
      orError (denied "source Git common directory unavailable")
        (s.repositoryIdentity repo)
    let dir ←
      orError (denied "source Git directory unavailable")
        (s.metadata common)
    refuseIf (dir.isDir = false)
      (denied "source Git identity is not a directory")
    return ⟨dir.dev, dir.ino⟩)

------------------------------------------------------------
-- Receipts
------------------------------------------------------------

/- What a caller has authorized, and of which run. -/
structure Receipt where
  runId : RunId
  nodeId : NodeId
  intentSeq : Nat
  settlementKey : String
  writerDev : Nat
  writerIno : Nat
  generation : Nat
  actor : String
  reason : String
  force : Bool
  sourceRepo : String
  sourceBranch : String
  worktreePath : String
  branch : String
  branchOid : String
  sourceGitDev : Nat
  sourceGitIno : Nat
deriving DecidableEq

def Receipt.toJson (r : Receipt) : Json :=
  .obj
    [("actor", .str r.actor), ("branch", .str r.branch),
      ("branch_oid", .str r.branchOid), ("force", .bool r.force),
      ("generation", .int r.generation),
      ("intent_seq", .int r.intentSeq),
      ("node_id", .str r.nodeId.val), ("reason", .str r.reason),
      ("run_id", .str r.runId.val),
      ("settlement_key", .str r.settlementKey),
      ("source_branch", .str r.sourceBranch),
      ("source_git_dev", .int r.sourceGitDev),
      ("source_git_ino", .int r.sourceGitIno),
      ("source_repo", .str r.sourceRepo),
      ("worktree_path", .str r.worktreePath),
      ("writer_dev", .int r.writerDev),
      ("writer_ino", .int r.writerIno)]

def asReceipt (v : Json) : Option Receipt := do
  let f ← v.fields 17
  return {
    runId := ← f.required "run_id" 0 Json.asRunId
    nodeId := ← f.required "node_id" 1 Json.asNodeId
    intentSeq := ← f.required "intent_seq" 2 Json.asU64
    settlementKey :=
      ← f.required "settlement_key" 3 Json.asStr
    writerDev := ← f.required "writer_dev" 4 Json.asU64
    writerIno := ← f.required "writer_ino" 5 Json.asU64
    generation := ← f.required "generation" 6 Json.asU64
    actor := ← f.required "actor" 7 Json.asStr
    reason := ← f.required "reason" 8 Json.asStr
    force := ← f.required "force" 9 Json.asBool
    sourceRepo := ← f.required "source_repo" 10 Json.asStr
    sourceBranch := ← f.required "source_branch" 11 Json.asStr
    worktreePath := ← f.required "worktree_path" 12 Json.asStr
    branch := ← f.required "branch" 13 Json.asStr
    branchOid := ← f.required "branch_oid" 14 Json.asStr
    sourceGitDev := ← f.required "source_git_dev" 15 Json.asU64
    sourceGitIno :=
      ← f.required "source_git_ino" 16 Json.asU64 }

/- The user of the process, and the call. -/
structure CallArgs where
  uid : Nat
  settlementKey : String
  reason : String
  turns : Nat

def CallArgs.actor (args : CallArgs) : String :=
  "uid:" ++ toString args.uid

def receipt
    (env : RunEnv)
    (args : CallArgs)
    (intent : CallerSettlementIntent)
    (target : Target)
    (oid : String)
    (sourceGit : Identity) : Receipt where
  runId := env.runId
  nodeId := intent.nodeId
  intentSeq := intent.seq
  settlementKey := intent.key
  writerDev := intent.writerDev
  writerIno := intent.writerIno
  generation := intent.generation
  actor := args.actor
  reason := args.reason
  force := true
  sourceRepo := target.repo
  sourceBranch := target.source
  worktreePath := target.checkout
  branch := target.branch
  branchOid := oid
  sourceGitDev := sourceGit.dev
  sourceGitIno := sourceGit.ino

/- The receipts of the run, in the order of the log. -/
def receiptsOf (env : RunEnv) (events : List Event) :
    List Event :=
  events.filter (fun ev =>
    ev.kind = discardAuthorized ∧ ev.runId = env.runId)

def malformed : CliError :=
  denied "malformed discard authorization"

/- One receipt is expected at most, and only this one. -/
def auditStep
    (intent : CallerSettlementIntent)
    (expected : Receipt)
    (found : Option Nat)
    (ev : Event) : Except CliError (Option Nat) := do
  let parsed ← orError malformed (asReceipt ev.data)
  refuseIf
    (ev.nodeId ≠ some intent.nodeId ∨
      ev.idempotencyKey ≠ some expected.settlementKey ∨
      parsed ≠ expected ∨ found.isSome)
    (.user "idempotency_conflict"
      "different or malformed caller discard authorization already recorded"
      none)
  return some ev.seq

def auditAt
    (env : RunEnv)
    (intent : CallerSettlementIntent)
    (expected : Receipt)
    (d : Disk) : Except CliError (Option Nat) := do
  let events ← (readAllEvents d.lines).mapError .core
  (receiptsOf env events).foldlM (auditStep intent expected)
    none

def audit
    (env : RunEnv)
    (intent : CallerSettlementIntent)
    (expected : Receipt) : Discarding env tool (Option Nat) :=
  ask (fun w => auditAt env intent expected w.disk)

/- The first receipt, where there is one. -/
def firstReceipt (env : RunEnv) :
    Discarding env tool (Option Receipt) :=
  ask (fun w => do
    let events ← (readAllEvents w.disk.lines).mapError .core
    match receiptsOf env events with
    | [] => return none
    | ev :: _ => do
        let r ←
          orError (denied "malformed discard receipt")
            (asReceipt ev.data)
        return some r)

def authorizationRequest
    (intent : CallerSettlementIntent) (n : Node)
    (expected : Receipt) : Request where
  now := 0
  kind := discardAuthorized
  nodeId := some n.nodeId
  key := some intent.key
  data := expected.toJson

------------------------------------------------------------
-- Checks
------------------------------------------------------------

def observeChecked (env : RunEnv) (m : Manifest) (n : Node) :
    Discarding env tool (Option RetainedObservation) :=
  survey (fun s _ => do
    let o := observe m n s
    refuseIf (o.any (fun o => o.verifiedForDiscard = false))
      (denied
        "retained Git work or source-relative commit check unverifiable")
    return o)

/- A registered checkout may have lost what git has in it. -/
def sourceCheckedAt
    (target : Target) (s : Site)
    (heads : String → Option String) :
    Except CliError Unit := do
  let rows ←
    orError (denied "worktree registrations unavailable")
      (s.worktreeRegistrations target.repo)
  refuseIf
    (rows.any (fun row => row.path = target.checkout) ∧
      s.tryExists target.checkout = some true ∧
      s.notFound (join target.checkout ".git") = true)
    (.user "checkout_damaged"
      "registered caller checkout lacks .git metadata; preserve the run, branch and remaining files; inspect the receipt and registrations, then manually repair the recorded checkout identity before retrying the same key/reason (see issues/caller-owned-agent-runs/writer-fence.md)"
      none)
  refuseIf
    (heads target.repo ≠ some target.source ∨
      rows.any (fun row =>
        row.path = target.repo ∧
          row.branch = some target.source) = false ∨
      rows.any (fun row =>
        row.path = target.checkout ∧
          row.branch ≠ some target.branch) = true)
    (denied "source checkout or worker registration changed")

def sourceChecked (env : RunEnv) (target : Target) :
    Discarding env tool Unit :=
  survey (sourceCheckedAt target)

/- The generation of the intent is bound to its history. -/
def generationStands
    (files : NativeFiles)
    (intent : CallerSettlementIntent)
    (n : Node)
    (checkout : String) : Except CliError Unit := do
  refuseIf
    (intent.generation ≠
      (n.callerPiLifecycle.map
        CallerPiLifecycle.generation).getD 0)
    (.user "writer_uncertain"
      "Pi generation changed after intent" none)
  match n.callerPiLifecycle with
  | none =>
      refuseIf (n.callerPiSession.isSome)
        (.user "writer_uncertain"
          "Pi binding without reservation" none)
  | some pi => do
      let binding ←
        orError
          (historyUnavailable
            "reserved Pi generation has no bound native history")
          n.callerPiSession
      refuseIf
        (binding.generation ≠ some pi.generation ∨
          binding.piSessionId ≠ pi.piSessionId ∨
          binding.originalCwd ≠ checkout ∨
          pi.sessionPath ≠ some binding.sessionPath)
        (historyUnavailable
          "Pi binding differs from current generation")
      refuseIf
        (files.verify binding.sessionPath binding.piSessionId
            checkout ≠
          some (binding.fileDev, binding.fileIno))
        (historyUnavailable "native Pi history inode changed")

def identityChanged : CliError :=
  denied
    "caller merge checkout/source/branch identity changed; work preserved"

/- The authority over a checkout that is to be settled. -/
def verify
    (env : RunEnv)
    (held : Identity)
    (intent : CallerSettlementIntent)
    (n : Node)
    (repo source : String) : Discarding env tool Unit := do
  ask (revalidateAt env held intent)
  let checkout ←
    Thread.lift (orError identityChanged n.worktreePath)
  let branch ← Thread.lift (orError identityChanged n.branch)
  survey (fun s heads => do
    let rows ←
      orError identityChanged (s.worktreeRegistrations checkout)
    refuseIf
      (n.runId ≠ env.runId ∨ intent.nodeId ≠ n.nodeId ∨
        s.canonicalize checkout ≠ some checkout ∨
        heads checkout ≠ some branch ∨
        rows.any (fun row =>
          row.path = checkout ∧
            row.branch = some branch) = false ∨
        rows.any (fun row =>
          row.branch = some source ∧
            s.canonicalize row.path = some repo) = false)
      identityChanged)
  ask (fun w => generationStands w.files intent n checkout)

/- The intent fits how the run came to its end. -/
def intentFits
    (env : RunEnv)
    (intent : CallerSettlementIntent)
    (key : String)
    (m : Manifest)
    (n : Node) : Except CliError Unit :=
  refuseIf
    (m.callerSettlementIntent ≠ some intent ∨
      intent.operation = .merge ∨
      (intent.operation = .cancel ∧
        m.status.discardable = false) ∨
      (intent.operation = .discard ∧ m.status ≠ .failed) ∨
      intent.key ≠ key ∨ intent.runId ≠ env.runId ∨
      intent.nodeId ≠ n.nodeId)
    (conflict "caller discard intent changed")

/-
  Everything again, right before something is destroyed. The
  branch may be gone, but only after its checkout.
-/
def check
    (env : RunEnv)
    (held : Identity)
    (intent : CallerSettlementIntent)
    (target : Target)
    (expected : Receipt)
    (seq : Nat) : Discarding env tool Unit := do
  ask (revalidateAt env held intent)
  let recorded ← audit env intent expected
  Thread.lift (refuseIf (recorded ≠ some seq)
    (denied "discard receipt changed"))
  let (m, n) ← state env
  terminal env m n
  let current ← identities env m n
  Thread.lift (refuseIf
    (m.callerSettlementIntent ≠ some intent ∨
      current ≠ target)
    (denied "recorded target changed"))
  history env n target.checkout
  sourceChecked env target
  let _ ← observeChecked env m n
  let sourceGit ← sourceGitIdentity env target.repo
  Thread.lift (refuseIf
    (sourceGit ≠
      ⟨expected.sourceGitDev, expected.sourceGitIno⟩)
    (denied "source repository identity changed"))
  survey (fun s _ =>
    match s.refOid target.repo target.branch with
    | some actual =>
        refuseIf (actual ≠ expected.branchOid)
          (denied "worker branch tip changed")
    | none =>
        refuseIf (s.notFound target.checkout = false)
          (denied "branch disappeared while checkout remains"))

------------------------------------------------------------
-- The Call
------------------------------------------------------------

/- What is told of a discard that is complete. -/
structure DiscardedView where
  runId : RunId
  nodeId : NodeId
  alreadyDiscarded : Bool
  worktreeRemoved : Bool
  branchRemoved : Bool
  seq : Nat
  actor : String
  reason : String

def partialCleanup (message : String) : CliError :=
  .user "discard_partial_cleanup" message none

/- The checkout goes, where it was there when it was looked. -/
def removeCheckout
    (env : RunEnv)
    (held : Identity)
    (intent : CallerSettlementIntent)
    (n : Node)
    (target : Target)
    (expected : Receipt)
    (seq : Nat)
    (present : Bool) : Discarding env tool Unit :=
  if present = true then do
    verify env held intent n target.repo target.source
    check env held intent target expected seq
    let ok ←
      command
        (.worktreeRemove target.repo target.checkout)
    Thread.lift (refuseIf (ok = false)
      (partialCleanup
        "Git refused caller worktree removal; retry the same key/reason"))
  else return ()

/- No checkout of the branch is listed, and none is there. -/
def branchFree (target : Target) (s : Site) :
    Except CliError Unit := do
  let rows ←
    orError
      (denied
        "worktree registrations unavailable before branch deletion")
      (s.worktreeRegistrations target.repo)
  refuseIf
    (rows.any (fun row =>
        row.branch = some target.branch) = true ∨
      rows.any (fun row => row.path = target.checkout) = true ∨
      s.notFound target.checkout = false)
    (denied "worker branch or checkout still registered")

def removeBranch
    (env : RunEnv)
    (target : Target)
    (expected : Receipt) : Discarding env tool Unit := do
  let there ← ask (fun w =>
    .ok (w.site.branchExists target.repo target.branch))
  if there ≠ some false then do
    ask (fun w =>
      refuseIf
        (w.site.refOid target.repo target.branch ≠
          some expected.branchOid)
        (denied "worker branch moved before deletion"))
    ask (fun w => branchFree target w.site)
    let ok ←
      command
        (.branchDelete target.repo target.branch
          expected.branchOid)
    Thread.lift (refuseIf (ok = false)
      (partialCleanup
        "Git refused caller branch deletion; retry the same key/reason"))
  else return ()

def incomplete : CliError :=
  partialCleanup
    "cannot verify complete caller resource removal"

def pathAbsentChecked
    (env : RunEnv) (target : Target) (e : CliError) :
    Discarding env tool Unit :=
  ask (fun w =>
    refuseIf (w.site.notFound target.checkout = false) e)

def unregisteredChecked
    (env : RunEnv) (target : Target) (e : CliError) :
    Discarding env tool Unit :=
  ask (fun w =>
    refuseIf
      ((w.site.worktreeRegistrations target.repo).all
        (fun rows =>
          rows.any (fun row =>
            row.path = target.checkout)) = true)
      e)

def branchGoneChecked
    (env : RunEnv) (target : Target) (e : CliError) :
    Discarding env tool Unit :=
  ask (fun w =>
    refuseIf
      (w.site.branchExists target.repo target.branch ≠
        some false)
      e)

/- The checkout is looked over, or no longer asked for. -/
def stillOwned
    (env : RunEnv)
    (held : Identity)
    (intent : CallerSettlementIntent)
    (n : Node)
    (target : Target)
    (due : Bool) : Discarding env tool Unit :=
  if due = true then
    verify env held intent n target.repo target.source
  else history env n target.checkout

/- The receipt is written unless it is there. -/
def authorize
    (env : RunEnv)
    (held : Identity)
    (intent : CallerSettlementIntent)
    (n : Node)
    (expected : Receipt)
    (prior : Option Nat) : Discarding env tool Nat :=
  match prior with
  | some seq => return seq
  | none => do
      ask (revalidateAt env held intent)
      let answer ←
        command
          (.append (authorizationRequest intent n expected))
      let result ← Thread.lift (answer.mapError .core)
      return result.seq

/-
  The checkout and the branch go, and what is left of them is
  looked at.
-/
def cleanUp
    (env : RunEnv)
    (held : Identity)
    (intent : CallerSettlementIntent)
    (n : Node)
    (target : Target)
    (expected : Receipt)
    (seq : Nat)
    (present : Bool) : Discarding env tool Unit := do
  check env held intent target expected seq
  removeCheckout env held intent n target expected seq present
  check env held intent target expected seq
  removeBranch env target expected
  check env held intent target expected seq
  let (m', n') ← state env
  let left ← observeChecked env m' n'
  Thread.lift (refuseIf left.isSome incomplete)
  pathAbsentChecked env target incomplete
  unregisteredChecked env target incomplete
  branchGoneChecked env target incomplete

def execute
    (env : RunEnv)
    (args : CallArgs)
    (intent : CallerSettlementIntent) :
    Discarding env tool DiscardedView := do
  let held ← acquireExclusive env intent args.turns
  let (m, n) ← state env
  terminal env m n
  Thread.lift (intentFits env intent args.settlementKey m n)
  ask (revalidateAt env held intent)
  let target ← identities env m n
  history env n target.checkout
  sourceChecked env target
  let observation ← observeChecked env m n
  let oid ← ask (fun w =>
    .ok (w.site.refOid target.repo target.branch))
  let old ← firstReceipt env
  let targetOid ←
    Thread.lift
      (orError
        (denied "branch absent without a discard receipt")
        (oid.or (old.map Receipt.branchOid)))
  let sourceGit ← sourceGitIdentity env target.repo
  let expected :=
    receipt env args intent target targetOid sourceGit
  let prior ← audit env intent expected
  Thread.lift (refuseIf
    (prior = none ∧
      observation.all (fun o => o.hasResources = false))
    (denied "no retained work to authorize"))
  let present :=
    observation.any (fun o => o.view.worktreePresent)
  stillOwned env held intent n target
    (prior.isNone || present)
  let seq ← authorize env held intent n expected prior
  cleanUp env held intent n target expected seq present
  return {
    runId := env.runId
    nodeId := n.nodeId
    alreadyDiscarded := !present && oid.isNone
    worktreeRemoved := present
    branchRemoved := oid.isSome
    seq := seq
    actor := expected.actor
    reason := expected.reason }

------------------------------------------------------------
-- The Acknowledgement
------------------------------------------------------------

def unverified : CliError :=
  denied "discard completion not verified"

def soleReceipt (env : RunEnv) (events : List Event) :
    Except CliError Event :=
  match receiptsOf env events with
  | [ev] => .ok ev
  | _ => .error (denied "discard receipt absent or ambiguous")

/- The intent fits how the run is over. -/
def intentStands
    (intent : CallerSettlementIntent) (m : Manifest) :
    Except CliError Unit :=
  refuseIf
    (m.callerSettlementIntent ≠ some intent ∨
      ¬ ((m.status = .failed ∧ intent.operation = .discard) ∨
        (m.status.discardable = true ∧
          intent.operation = .cancel)))
    (denied "intent changed")

/- The receipt is of this user, and of what is recorded. -/
def receiptStands
    (env : RunEnv)
    (uid : Nat)
    (intent : CallerSettlementIntent)
    (n : Node)
    (target : Target)
    (ev : Event)
    (r : Receipt) : Except CliError Unit :=
  refuseIf
    (r.force = false ∨ r.actor ≠ "uid:" ++ toString uid ∨
      Text.trim r.reason = "" ∨ r.intentSeq ≠ intent.seq ∨
      r.settlementKey ≠ intent.key ∨
      r.writerDev ≠ intent.writerDev ∨
      r.writerIno ≠ intent.writerIno ∨
      r.generation ≠ intent.generation ∨
      r.runId ≠ env.runId ∨ r.nodeId ≠ n.nodeId ∨
      r.sourceRepo ≠ target.repo ∨
      r.sourceBranch ≠ target.source ∨
      r.worktreePath ≠ target.checkout ∨
      r.branch ≠ target.branch ∨
      ev.nodeId ≠ some n.nodeId ∨
      ev.idempotencyKey ≠ some intent.key)
    unverified

/-
  The supervisor destroys nothing. It acknowledges a discard
  once nothing is left; any failure is a no.
-/
def completed
    (env : RunEnv)
    (uid : Nat)
    (held : Identity)
    (intent : CallerSettlementIntent) :
    Discarding env tool Unit := do
  ask (revalidateAt env held intent)
  let (m, n) ← state env
  terminal env m n
  Thread.lift (intentStands intent m)
  let target ← identities env m n
  sourceChecked env target
  let ev ← ask (fun w => do
    let events ← (readAllEvents w.disk.lines).mapError .core
    soleReceipt env events)
  let r ←
    Thread.lift
      (orError (denied "invalid receipt") (asReceipt ev.data))
  Thread.lift (receiptStands env uid intent n target ev r)
  let sourceGit ← sourceGitIdentity env target.repo
  Thread.lift (refuseIf
    (sourceGit ≠ ⟨r.sourceGitDev, r.sourceGitIno⟩) unverified)
  history env n target.checkout
  let left ← observeChecked env m n
  Thread.lift (refuseIf left.isSome unverified)
  pathAbsentChecked env target unverified
  branchGoneChecked env target unverified
  unregisteredChecked env target unverified
  ask (revalidateAt env held intent)

/- What is under way: a discard, or its acknowledgement. -/
inductive Errand where
| discard (args : CallArgs) (intent : CallerSettlementIntent)
| acknowledge (uid turns : Nat)
    (intent : CallerSettlementIntent)

inductive Reply where
| discarded (view : DiscardedView)
| acknowledged

def Errand.run (env : RunEnv) :
    Errand → Discarding env tool Reply
| .discard args intent => do
    let view ← execute env args intent
    return .discarded view
| .acknowledge uid turns intent => do
    let held ← acquireExclusive env intent turns
    completed env uid held intent
    return .acknowledged

end CallerDiscard

end Taskfleet
