import Taskfleet.KeyedReplay
import Taskfleet.MergeDriver
import Taskfleet.Retained

/-
  `run discard`, up to the first thing that it destroys: which
  node is meant, what was authorized for it before, and
  whether what is left may be destroyed now.

  The kernel and git are asked in a `Site`; what is asked of
  processes is a parameter.

  Main declarations:
    * `Authorization` and its JSON text
    * `classifyWorker`, `selectCandidate`
    * `verifyRegistered`, `verifyOrphan`
    * `DiscardPlan`, `surveyDiscard`
-/

------------------------------------------------------------
-- Calls
------------------------------------------------------------

namespace Taskfleet

open Checkouts Fallible

structure DiscardArgs where
  settlementKey : Option String
  node : Option String
  reason : String
  force : Bool
  dryRun : Bool

inductive SupervisorLiveness where
| alive
| dead
| notRecorded
| unreadable
| unknown
deriving DecidableEq, Repr

/-
  Who calls, the texts of the kernel's errors, and what is
  known of the processes.
-/
structure Operator where
  uid : Nat
  osError : String → String
  supervisor : SupervisorLiveness
  alive : Nat → Bool
  sameProcess : Node → Nat → Option Bool

def Operator.actor (op : Operator) : String :=
  "uid:" ++ toString op.uid

inductive WorkerState where
| exited
| noPid
| gone
| live (pid : Nat)
| unverifiable (pid : Nat)
deriving DecidableEq, Repr

/-
  A live process that is the recorded one comes before an
  exit that was told. Without either, a process whose start
  cannot be read is in doubt.
-/
def classifyWorker (op : Operator) (n : Node) : WorkerState :=
  let told (otherwise : WorkerState) : WorkerState :=
    if n.workerExit.isSome then .exited else otherwise
  match n.agentPid with
  | none => told .noPid
  | some pid =>
      if pid ≤ 0 then told .noPid
      else if ¬ op.alive pid.toNat then told .gone
      else
        match op.sameProcess n pid.toNat with
        | some true => .live pid.toNat
        | some false => told .gone
        | none => told (.unverifiable pid.toNat)

------------------------------------------------------------
-- Authorizations
------------------------------------------------------------

/- What is known of the directory and of the source. -/
structure TargetIdentity where
  directoryDev : Nat
  directoryIno : Nat
  directoryCreatedNs : Nat
  sourceGitDev : Nat
  sourceGitIno : Nat
  branchOid : Option String
deriving DecidableEq, Repr

structure Authorization where
  actor : String
  reason : String
  force : Bool
  worktreePath : Option String
  branch : Option String
  cleanliness : String
  unmergedCommits : Option Nat
  identity : Option TargetIdentity
  branchOid : Option String
deriving DecidableEq, Repr

namespace TargetIdentity

def toJson (t : TargetIdentity) : Json :=
  .obj
    [("branch_oid", .ofOption .str t.branchOid),
      ("directory_created_ns", .int t.directoryCreatedNs),
      ("directory_dev", .int t.directoryDev),
      ("directory_ino", .int t.directoryIno),
      ("source_git_dev", .int t.sourceGitDev),
      ("source_git_ino", .int t.sourceGitIno)]

/- Numbers of more than 64 bits have no JSON text. -/
def Fits (t : TargetIdentity) : Prop :=
  t.directoryCreatedNs < 2 ^ 64 ∧ t.directoryDev < 2 ^ 64 ∧
    t.directoryIno < 2 ^ 64 ∧ t.sourceGitDev < 2 ^ 64 ∧
    t.sourceGitIno < 2 ^ 64

end TargetIdentity

namespace Authorization

def toJson (a : Authorization) : Json :=
  .obj
    [("actor", .str a.actor), ("branch", .ofOption .str a.branch),
      ("branch_oid", .ofOption .str a.branchOid),
      ("cleanliness", .str a.cleanliness),
      ("force", .bool a.force),
      ("identity",
        .ofOption TargetIdentity.toJson a.identity),
      ("reason", .str a.reason),
      ("unmerged_commits",
        .ofOption (fun n : Nat => .int n) a.unmergedCommits),
      ("worktree_path", .ofOption .str a.worktreePath)]

def Fits (a : Authorization) : Prop :=
  (∀ t, a.identity = some t → t.Fits) ∧
    ∀ n, a.unmergedCommits = some n → n < 2 ^ 64

/- The commit that the branch may be deleted at. -/
def auditedOid (a : Authorization) : Option String :=
  a.branchOid.or (a.identity.bind TargetIdentity.branchOid)

end Authorization

namespace Json

def asTargetIdentity (v : Json) : Option TargetIdentity := do
  let f ← v.fields 6
  return {
    directoryDev := ← f.required "directory_dev" 0 asU64
    directoryIno := ← f.required "directory_ino" 1 asU64
    directoryCreatedNs :=
      ← f.required "directory_created_ns" 2 asU64
    sourceGitDev := ← f.required "source_git_dev" 3 asU64
    sourceGitIno := ← f.required "source_git_ino" 4 asU64
    branchOid := ← f.optional "branch_oid" 5 asStr }

def asAuthorization (v : Json) : Option Authorization := do
  let f ← v.fields 9
  return {
    actor := ← f.required "actor" 0 asStr
    reason := ← f.required "reason" 1 asStr
    force := ← f.required "force" 2 asBool
    worktreePath := ← f.optional "worktree_path" 3 asStr
    branch := ← f.optional "branch" 4 asStr
    cleanliness := ← f.required "cleanliness" 5 asStr
    unmergedCommits := ← f.optional "unmerged_commits" 6 asU64
    identity :=
      ← f.defaulted "identity" 7 none (option asTargetIdentity)
    branchOid :=
      ← f.defaulted "branch_oid" 8 none (option asStr) }

end Json

def discardAuthorized : EventKind :=
  .other "cleanup.discard_authorized"

def discardForceAuthorized : EventKind :=
  .other "cleanup.discard_force_authorized"

def authorizationKey (env : RunEnv) (id : NodeId) : String :=
  "discard-authorized:" ++ env.runId.val ++ ":" ++ id.val

def forceUpgradeKey (env : RunEnv) (id : NodeId) : String :=
  "discard-force:" ++ env.runId.val ++ ":" ++ id.val

/- What an upgrade to force says of the authorization. -/
def forceUpgradeData
    (op : Operator) (seq : Nat) (reason : String) : Json :=
  .obj
    [("actor", .str op.actor), ("authorization_seq", .int seq),
      ("reason", .str reason)]

------------------------------------------------------------
-- Checks of the Target
------------------------------------------------------------

def workUnverifiable (message : String) : CliError :=
  .system "preserved_work_unverifiable" message none

def createdNs (stat : Stat) : Except CliError Nat :=
  orError
    (workUnverifiable
      "checkout creation time unavailable; cannot prove orphan identity")
    stat.created

/- The common directory of the source, as it is now. -/
def sourceGit (s : Site) (repo : String) : Option Stat :=
  (s.commonDir repo).bind s.metadata

/-
  The branch exists exactly if it had a tip when it was
  audited, and is at that tip.
-/
def branchPinned
    (s : Site) (repo : String) (id : TargetIdentity)
    (branch : Option String) : Bool :=
  branch.all (fun branch =>
    s.branchExists repo branch = some id.branchOid.isSome ∧
      id.branchOid.all (fun oid =>
        s.refOid repo branch = some oid))

/- The directory is the one that was audited. -/
def directoryPinned
    (id : TargetIdentity) (dir source : Stat) : Bool :=
  dir.isDir ∧ ¬ dir.isSymlink ∧ dir.dev = id.directoryDev ∧
    dir.ino = id.directoryIno ∧
    dir.created = some id.directoryCreatedNs ∧
    source.dev = id.sourceGitDev ∧ source.ino = id.sourceGitIno

/- A checkout that git lists under the recorded branch. -/
def registeredStands
    (a : Authorization) (m : Manifest) (n : Node) (s : Site) :
    Option Bool := do
  let id ← a.identity
  let path ← a.worktreePath
  let repo ← m.sourceRepo
  let dir ← s.symlinkMetadata path
  let source ← sourceGit s repo
  let rows ← s.worktreeRegistrations repo
  return n.worktreePath = some path ∧ n.branch = a.branch ∧
    directoryPinned id dir source ∧
    rows.any (fun row =>
      s.pathsEquivalent row.path path &&
        row.branch.all (fun b => some b = a.branch)) ∧
    branchPinned s repo id a.branch

def verifyRegistered
    (a : Authorization) (m : Manifest) (n : Node) (s : Site) :
    Except CliError Unit :=
  refuseIf (registeredStands a m n s ≠ some true)
    (workUnverifiable
      "registered checkout or branch no longer matches discard authorization")

/-
  The link to the repository is gone, or leads to an entry of
  this repository that is no longer there.
-/
def staleOwnMarker (s : Site) (path common : String) : Bool :=
  let marker := join path ".git"
  if s.notFound marker then true
  else
    match s.symlinkMetadata marker with
    | none => false
    | some stat =>
        if stat.isDir ∨ stat.isSymlink ∨ 4096 < stat.len then
          false
        else
          match s.readToString marker with
          | none => false
          | some text =>
              let text := String.ofList
                (text.toList.reverse.dropWhile
                  (· = '\n')).reverse
              let mark := "gitdir: "
              if ¬ mark.toList.isPrefixOf text.toList then
                false
              else
                let gitdir := String.ofList
                  (text.toList.drop mark.toList.length)
                isAbsolute gitdir ∧
                  s.tryExists gitdir ≠ some true ∧
                  (parent gitdir).any (fun dir =>
                    fileName dir = some "worktrees" ∧
                      (parent dir).bind s.canonicalize =
                        some common)

/- A directory that git left behind, and nothing else. -/
def orphanStands
    (a : Authorization) (m : Manifest) (n : Node) (s : Site) :
    Option Bool := do
  let id ← a.identity
  let path ← a.worktreePath
  let repo ← m.sourceRepo
  let dir ← s.symlinkMetadata path
  let common ← s.commonDir repo
  let source ← s.metadata common
  let rows ← s.worktreeRegistrations repo
  return n.worktreePath = some path ∧ n.branch = a.branch ∧
    directoryPinned id dir source ∧
    ¬ rows.any (fun row =>
      s.pathsEquivalent row.path path ||
        a.branch.any (fun b => row.branch = some b)) ∧
    staleOwnMarker s path common ∧
    branchPinned s repo id a.branch

def verifyOrphan
    (a : Authorization) (m : Manifest) (n : Node) (s : Site) :
    Except CliError Unit :=
  refuseIf (orphanStands a m n s ≠ some true)
    (workUnverifiable
      "orphaned directory identity, source repository, or branch changed; preserve for manual recovery")

/- The source is the repository that was audited. -/
def verifySourceIdentity
    (a : Authorization) (m : Manifest) (s : Site) :
    Except CliError Unit :=
  let stands : Option Bool := do
    let id ← a.identity
    let repo ← m.sourceRepo
    let source ← sourceGit s repo
    return source.isDir ∧ source.dev = id.sourceGitDev ∧
      source.ino = id.sourceGitIno
  refuseIf (stands ≠ some true)
    (workUnverifiable
      "source Git directory no longer matches discard authorization")

------------------------------------------------------------
-- Selection
------------------------------------------------------------

/- A node with something left, or with an authorization. -/
structure Candidate where
  node : Node
  observation : Option RetainedObservation
  prior : Option PriorEvent

def Candidate.current (c : Candidate) : Bool :=
  c.observation.any RetainedObservation.hasResources

def candidateOf
    (env : RunEnv) (m : Manifest) (d : Disk) (s : Site)
    (n : Node) : Except CliError (Option Candidate) := do
  if ¬ n.status.discardable then return none
  let prior ←
    (findPriorWithKey discardAuthorized
      (authorizationKey env n.nodeId) d.lines).mapError .core
  let observation := observe m n s
  if observation.isSome ∨ prior.isSome then
    return some ⟨n, observation, prior⟩
  else return none

/- The last of those with the greatest number. -/
def latest : List Candidate → Option Candidate
| [] => none
| c :: rest =>
    let seq (c : Candidate) : Nat :=
      (c.prior.map PriorEvent.seq).getD 0
    match latest rest with
    | none => some c
    | some best => if seq best < seq c then some c else best

/-
  The named node, or the only one with something left, or the
  one that was authorized last.
-/
def selectCandidate
    (env : RunEnv) (wanted : Option NodeId)
    (cs : List Candidate) : Except CliError Candidate :=
  let none' (message : String) (value : Option String) :
      CliError := .user "preserved_work_not_found" message value
  match wanted with
  | some id =>
      orError
        (none'
          ("node " ++ id.val ++
            " has no retained or previously-discarded work")
          (some id.val))
        (cs.find? (fun c => c.node.nodeId = id))
  | none =>
      match cs.filter Candidate.current with
      | [c] => .ok c
      | [] =>
          orError
            (none'
              ("run " ++ env.runId.val ++
                " has no retained work and no discard authorization")
              none)
            (latest cs)
      | many =>
          .error (.user "ambiguous_preserved_work"
            ("run " ++ env.runId.val ++ " has " ++
              toString many.length ++
              " retained nodes; pass --node <id>")
            none)

------------------------------------------------------------
-- Decisions
------------------------------------------------------------

def forceUpgradeConflict : CliError :=
  .user "idempotency_conflict"
    "force upgrade does not match recorded discard" none

/- The upgrade of one authorization, by the same operator. -/
def forceUpgradeRecorded
    (env : RunEnv) (op : Operator) (d : Disk) (id : NodeId)
    (seq : Nat) (reason : String) : Except CliError Bool := do
  let prior ←
    (findPriorWithKey discardForceAuthorized
      (forceUpgradeKey env id) d.lines).mapError .core
  match prior with
  | none => return false
  | some ev =>
      refuseIf
        (ev.nodeId ≠ some id ∨
          ev.data ≠ forceUpgradeData op seq reason)
        forceUpgradeConflict
      return true

/-
  Force may be added where git stopped half-way, or where a
  clean checkout turned out to hold submodules.
-/
def forceRetryAllowed
    (a : Authorization) (o : Option RetainedObservation)
    (force populated : Bool) : Bool :=
  force ∧ ¬ a.force ∧ a.identity.isSome ∧
    o.any (fun o =>
      o.view.worktreePresent ∧
        (¬ o.verifiedForDiscard ∨
          (populated ∧ o.view.cleanliness = "clean")))

def targetIdentity
    (op : Operator) (s : Site) (path repo : String)
    (branchOid : Option String) :
    Except CliError TargetIdentity := do
  let dir ←
    orError (workUnverifiable (op.osError path))
      (s.symlinkMetadata path)
  let common ←
    orError (workUnverifiable "source Git directory unavailable")
      (s.commonDir repo)
  let source ←
    orError (workUnverifiable (op.osError common))
      (s.metadata common)
  refuseIf (¬ dir.isDir ∨ ¬ source.isDir)
    (workUnverifiable
      "checkout or source Git identity is not a directory")
  return {
    directoryDev := dir.dev
    directoryIno := dir.ino
    directoryCreatedNs := ← createdNs dir
    sourceGitDev := source.dev
    sourceGitIno := source.ino
    branchOid := branchOid }

/- Only a checkout that is there can be identified. -/
def presentIdentity
    (op : Operator) (o : RetainedObservation) (m : Manifest)
    (s : Site) (branchOid : Option String) :
    Except CliError (Option TargetIdentity) :=
  match o.view.worktreePresent, o.view.worktreePath,
      m.sourceRepo with
  | true, some path, some repo =>
      (targetIdentity op s path repo branchOid).map some
  | _, _, _ => .ok none

/- What a first call records of the target it has found. -/
def authorization
    (op : Operator) (args : DiscardArgs)
    (o : RetainedObservation) (m : Manifest) (s : Site) :
    Except CliError Authorization := do
  let branchOid :=
    if o.view.branchPresent then
      o.view.branch.bind (fun branch =>
        m.sourceRepo.bind (fun repo => s.refOid repo branch))
    else none
  refuseIf (o.view.branchPresent ∧ branchOid = none)
    (workUnverifiable "branch tip unavailable")
  let identity ← presentIdentity op o m s branchOid
  return {
    actor := op.actor
    reason := args.reason
    force := args.force
    worktreePath := o.view.worktreePath
    branch := o.view.branch
    cleanliness := o.view.cleanliness
    unmergedCommits := o.view.unmergedCommits
    identity := identity
    branchOid := branchOid }

structure AuditView where
  seq : Nat
  actor : String
  reason : String
deriving DecidableEq, Repr

structure DiscardPayload where
  nodeId : NodeId
  discarded : Bool
  alreadyDiscarded : Bool
  removedWorktree : Bool
  removedBranch : Bool
  forceRequired : Bool
  worktreePath : Option String
  branch : Option String
  cleanliness : String
  unmergedCommits : Option Nat
  auditEvent : Option AuditView
  dryRun : Bool
deriving DecidableEq, Repr

/- What a call that goes ahead works with. -/
structure DiscardPlan where
  args : DiscardArgs
  manifest : Manifest
  node : Node
  observation : RetainedObservation
  prior : Option Nat
  auth : Authorization
  orphan : Bool
  forceRequired : Bool

inductive DiscardDecision where
| emit (payload : DiscardPayload)
| proceed (plan : DiscardPlan)

def discardConflict (id : NodeId) : CliError :=
  .user "idempotency_conflict"
    ("node " ++ id.val ++
      " has an incomplete discard authorization with different reason/force inputs")
    none

/- Only of a checkout that is there and that git knows. -/
def populatedSubmodules
    (o : Option RetainedObservation) (s : Site) :
    Except CliError Bool :=
  match o.filter (fun o =>
    o.view.worktreePresent && o.verifiedForDiscard) with
  | none => .ok false
  | some o =>
      orError
        (workUnverifiable
          "could not inspect worktree submodules; refusing discard")
        (o.view.worktreePath.bind
          s.worktreeHasPopulatedSubmodules)

/- Asked only where force is what the record lacks. -/
def upgradedBefore
    (env : RunEnv) (op : Operator) (args : DiscardArgs)
    (d : Disk) (id : NodeId) (seq : Nat)
    (recorded : Authorization) : Except CliError Bool :=
  if ¬ recorded.force ∧ args.force then
    forceUpgradeRecorded env op d id seq recorded.reason
  else .ok false

/-
  A recorded authorization binds its inputs. The answer is
  whether the directory is one that git left behind.
-/
def checkRecorded
    (env : RunEnv) (op : Operator) (args : DiscardArgs)
    (m : Manifest) (c : Candidate) (seq : Nat)
    (recorded : Authorization) (populated : Bool)
    (d : Disk) (s : Site) : Except CliError Bool := do
  let id := c.node.nodeId
  let upgraded ←
    upgradedBefore env op args d id seq recorded
  refuseIf
    (recorded.reason ≠ args.reason ∨
      (recorded.force ≠ args.force ∧ ¬ upgraded ∧
        ¬ forceRetryAllowed recorded c.observation args.force
          populated))
    (discardConflict id)
  let orphan := c.observation.any (fun o =>
    o.view.worktreePresent && !o.verifiedForDiscard)
  checkWhen (orphan = true) (verifyOrphan recorded m c.node s)
  refuseIf
    (c.observation.any (fun o =>
      o.hasResources ∧
        (recorded.worktreePath ≠ o.view.worktreePath ∨
          recorded.branch ≠ o.view.branch)))
    (discardConflict id)
  return orphan

/- Neither the supervisor nor the worker may be running. -/
def refuseRunning
    (env : RunEnv) (op : Operator) (n : Node) :
    Except CliError Unit := do
  match op.supervisor with
  | .alive =>
      .error (.user "supervisor_live"
        ("run " ++ env.runId.val ++
          "'s supervisor is still alive; refusing discard")
        none)
  | .unreadable | .unknown =>
      .error (.system "supervisor_unverifiable"
        ("run " ++ env.runId.val ++
          "'s supervisor identity is unverifiable; refusing discard")
        none)
  | .dead | .notRecorded => pure ()
  match classifyWorker op n with
  | .exited | .noPid | .gone => pure ()
  | .live pid =>
      .error (.user "worker_live"
        ("node " ++ n.nodeId.val ++ "'s original worker pid " ++
          toString pid ++ " is still alive; refusing discard")
        none)
  | .unverifiable pid =>
      .error (.system "worker_unverifiable"
        ("node " ++ n.nodeId.val ++ "'s worker pid " ++
          toString pid ++
          " is alive but its identity is unverifiable; refusing discard")
        none)

/- Something is left, and git could tell what. -/
def requireVerified
    (id : NodeId) (orphan : Bool)
    (o : Option RetainedObservation) :
    Except CliError RetainedObservation := do
  let o ←
    orError
      (.user "preserved_work_not_found"
        ("node " ++ id.val ++ " has no current retained resources")
        none)
      o
  refuseIf (¬ o.hasResources)
    (workUnverifiable
      ("node " ++ id.val ++
        "'s retained resource existence is unverifiable"))
  refuseIf (¬ orphan ∧ ¬ o.verifiedForDiscard)
    (workUnverifiable
      ("node " ++ id.val ++
        "'s repository, worktree registration, branch binding, " ++
        "cleanliness, or commit state could not be verified; refusing discard"))
  return o

/- The pins of an authorization that has them. -/
def checkPins
    (a : Option Authorization) (o : RetainedObservation)
    (m : Manifest) (n : Node) (s : Site) :
    Except CliError Unit :=
  match a.filter (fun a => a.identity.isSome) with
  | none => .ok ()
  | some a =>
      if o.view.worktreePresent then verifyRegistered a m n s
      else verifySourceIdentity a m s

def recordedOr
    (recorded : Option (Nat × Authorization))
    (fresh : Except CliError Authorization) :
    Except CliError Authorization :=
  match recorded with
  | some (_, a) => .ok a
  | none => fresh

/-
  With an observation in hand: the last refusals, and the
  authorization that the call goes by.
-/
def goAhead
    (env : RunEnv) (op : Operator) (args : DiscardArgs)
    (m : Manifest) (n : Node) (o : RetainedObservation)
    (recorded : Option (Nat × Authorization))
    (populated orphan : Bool) (s : Site) :
    Except CliError DiscardDecision := do
  refuseRunning env op n
  checkWhen (orphan = false)
    (checkPins (recorded.map Prod.snd) o m n s)
  let forceRequired : Bool :=
    populated ∨ o.view.cleanliness = "dirty" ∨
      (orphan ∧ ¬ (recorded.any (fun r => r.2.force)))
  if args.dryRun then
    return .emit {
      nodeId := n.nodeId
      discarded := false
      alreadyDiscarded := false
      removedWorktree := false
      removedBranch := false
      forceRequired := forceRequired
      worktreePath := o.view.worktreePath
      branch := o.view.branch
      cleanliness := o.view.cleanliness
      unmergedCommits := o.view.unmergedCommits
      auditEvent := none
      dryRun := true }
  else do
    refuseIf (forceRequired ∧ ¬ args.force)
      (.user "force_required"
        ("node " ++ n.nodeId.val ++
          "'s worktree is dirty, has populated submodules, or is partially removed; " ++
          "--force explicitly authorizes deletion of remaining files (retry with the same reason)")
        none)
    let auth ← recordedOr recorded (authorization op args o m s)
    checkWhen
      (orphan = false ∧ o.view.worktreePresent = true ∧
        auth.identity.isSome = true)
      (verifyRegistered auth m n s)
    return .proceed {
      args := args
      manifest := m
      node := n
      observation := o
      prior := recorded.map Prod.fst
      auth := auth
      orphan := orphan
      forceRequired := forceRequired }

/- The authorization in the log; a malformed one is refused. -/
def readRecorded (prior : Option PriorEvent) :
    Except CliError (Option (Nat × Authorization)) :=
  match prior with
  | none => .ok none
  | some prior =>
      match Json.asAuthorization prior.data with
      | some a => .ok (some (prior.seq, a))
      | none =>
          .error (.system "discard_authorization_invalid"
            ("discard authorization event " ++
              toString prior.seq ++ " is malformed")
            none)

/- Without an authorization there is no orphan to remove. -/
def recognizeOrphan
    (env : RunEnv) (op : Operator) (args : DiscardArgs)
    (m : Manifest) (c : Candidate)
    (recorded : Option (Nat × Authorization))
    (populated : Bool) (d : Disk) (s : Site) :
    Except CliError Bool :=
  match recorded with
  | none => .ok false
  | some (seq, a) =>
      checkRecorded env op args m c seq a populated d s

/-
  What to do about one candidate. Without anything left, an
  authorized discard was completed before.
-/
def decideCandidate
    (env : RunEnv) (op : Operator) (args : DiscardArgs)
    (m : Manifest) (c : Candidate) (d : Disk) (s : Site) :
    Except CliError DiscardDecision := do
  let id := c.node.nodeId
  let recorded ← readRecorded c.prior
  let populated ← populatedSubmodules c.observation s
  let orphan ←
    recognizeOrphan env op args m c recorded populated d s
  match c.observation, recorded with
  | none, some (seq, a) =>
      return .emit {
        nodeId := id
        discarded := false
        alreadyDiscarded := true
        removedWorktree := false
        removedBranch := false
        forceRequired := false
        worktreePath := a.worktreePath
        branch := a.branch
        cleanliness := a.cleanliness
        unmergedCommits := a.unmergedCommits
        auditEvent := some ⟨seq, a.actor, a.reason⟩
        dryRun := args.dryRun }
  | observation, recorded =>
      let o ← requireVerified id orphan observation
      goAhead env op args m c.node o recorded populated orphan s

/- The checks before the lock is taken. -/
def admitDiscard (args : DiscardArgs) :
    Except CliError (Option NodeId) := do
  refuseIf (args.reason.toList.all Text.isWhitespace = true)
    (.user "invalid_reason"
      "--reason must contain non-whitespace text"
      (some args.reason))
  match args.node with
  | none => return none
  | some raw =>
      match NodeId.parseStr raw with
      | .ok id => return some id
      | .error _ =>
          throw (.user "invalid_node_id"
            ("invalid node id " ++ raw.quote) (some raw))

/- A run whose manifest is behind its log is not previewed. -/
def refuseStale (env : RunEnv) (m : Manifest) (d : Disk) :
    Except CliError Unit := do
  let last ← (readAllEvents d.lines).mapError .core
  let lastSeq := (last.getLast?.map Event.seq).getD 0
  refuseIf (m.appliedSeq < lastSeq)
    (.system "projection_stale"
      ("run " ++ env.runId.val ++
        " projections are behind the event log (applied " ++
        toString m.appliedSeq ++ ", last " ++ toString lastSeq ++
        "); dry-run refuses rather than mutate replay state")
      none)

/-
  A run that a discard may look at, before it is replayed. A
  run that its caller owns is settled in another way.
-/
def openDiscard
    (env : RunEnv) (args : DiscardArgs) (d : Disk) :
    Except CliError Manifest := do
  let found ← (readManifestOpt env d).mapError .core
  refuseIf
    (¬ found.any (fun m => m.agentOwner = .caller) ∧
      args.settlementKey.isSome)
    (.user "invalid_settlement_key"
      "--settlement-key is only for caller-owned runs" none)
  let m ←
    orError
      (.user "run_not_found"
        ("no run with id " ++ env.runId.val) none)
      found
  rejectLegacyKind env m.kind
  requireWriterFence m
  checkWhen (args.dryRun = true) (refuseStale env m d)
  return m

/- The manifest once the log is replayed. -/
def reopenDiscard
    (env : RunEnv) (args : DiscardArgs) (initial : Manifest)
    (d : Disk) : Except CliError Manifest := do
  if args.dryRun then return initial
  let found ← (readManifestOpt env d).mapError .core
  orError
    (.user "run_not_found" ("no run with id " ++ env.runId.val)
      none)
    found

/-
  From the replayed state to the decision. The site is what
  the call sees of git while it looks.
-/
def surveyDiscard
    (env : RunEnv) (op : Operator) (args : DiscardArgs)
    (wanted : Option NodeId) (initial : Manifest)
    (files : List NodeId) (d : Disk) (s : Site) :
    Except CliError DiscardDecision := do
  let m ← reopenDiscard env args initial d
  refuseIf (¬ m.status.discardable)
    (.user "run_not_discardable"
      ("run " ++ env.runId.val ++ " is " ++ m.status.name ++
        "; discard requires a failed or cancelled run")
      none)
  let nodes ← (readNodes env files d).mapError .core
  let cs ← nodes.mapM (candidateOf env m d s)
  let c ← selectCandidate env wanted (cs.filterMap id)
  decideCandidate env op args m c d s

------------------------------------------------------------
-- Destruction
------------------------------------------------------------

def partialCleanup (message : String) : CliError :=
  .system "discard_partial_cleanup" message none

/- The last look before the checkout is removed. -/
def DiscardPlan.checkRemoval (plan : DiscardPlan) (s : Site) :
    Except CliError Unit :=
  if plan.orphan then
    (verifyOrphan plan.auth plan.manifest plan.node s).mapError
      (fun _ =>
        partialCleanup
          "worktree was not removed: orphaned directory removal failed")
  else if plan.auth.identity.isSome then
    verifyRegistered plan.auth plan.manifest plan.node s
  else .ok ()

def pathAbsent (s : Site) (path : Option String) : Bool :=
  path.all s.notFound

/-
  The last look before the branch is deleted: its checkout is
  neither there nor listed, no checkout is on it, and there is
  a commit that it was audited at.
-/
def DiscardPlan.checkDeletion
    (plan : DiscardPlan) (repo branch : String) (s : Site) :
    Except CliError String := do
  checkWhen (plan.auth.identity.isSome = true)
    (verifySourceIdentity plan.auth plan.manifest s)
  refuseIf
    (¬ pathAbsent s plan.auth.worktreePath ∨
      (s.worktreeRegistrations repo).all (fun rows =>
        rows.any (fun row =>
          plan.auth.worktreePath.any (fun path =>
            s.pathsEquivalent row.path path) ||
          decide (row.branch = some branch))))
    (partialCleanup
      "checkout still present or registered; branch preserved")
  orError
    (workUnverifiable
      "older discard receipt has no branch OID; preserving branch for manual recovery")
    plan.auth.auditedOid

def DiscardPlan.authorizationRequest
    (env : RunEnv) (now : Time) (plan : DiscardPlan) :
    Request where
  now := now
  kind := discardAuthorized
  nodeId := some plan.node.nodeId
  key := some (authorizationKey env plan.node.nodeId)
  data := plan.auth.toJson

/- Force that the authorization itself does not have. -/
def DiscardPlan.upgradeDue (plan : DiscardPlan) : Bool :=
  plan.args.force ∧ ¬ plan.auth.force

def DiscardPlan.upgradeRequest
    (env : RunEnv) (op : Operator) (now : Time)
    (plan : DiscardPlan) (seq : Nat) : Request where
  now := now
  kind := discardForceAuthorized
  nodeId := some plan.node.nodeId
  key := some (forceUpgradeKey env plan.node.nodeId)
  data := forceUpgradeData op seq plan.auth.reason

------------------------------------------------------------
-- What Is Written Is Read
------------------------------------------------------------

section Decoding

variable {kvs : List (String × Json)} {name : String} {i : Nat}

theorem optional_ofOption
    {α : Type} {f : α → Json} {decode : Json → Option α}
    {v : Option α}
    (hLookup : kvs.lookup name = some (.ofOption f v))
    (hDecode : ∀ a, v = some a → f a ≠ .null ∧
      decode (f a) = some a) :
    (Json.Fields.named kvs).optional name i decode = some v := by
  unfold Json.Fields.optional
  rw [show (Json.Fields.named kvs).raw name i =
    some (.ofOption f v) from hLookup]
  exact option_ofOption hDecode

theorem optional_str
    {v : Option String}
    (hLookup : kvs.lookup name = some (.ofOption .str v)) :
    (Json.Fields.named kvs).optional name i Json.asStr =
      some v :=
  optional_ofOption hLookup (by
    intro t _
    exact ⟨Json.noConfusion, rfl⟩)

theorem asTargetIdentity_toJson
    {t : TargetIdentity} (hFits : t.Fits) :
    t.toJson.asTargetIdentity = some t := by
  rcases hFits with ⟨hCreated, hDev, hIno, hGitDev, hGitIno⟩
  have hOid :=
    @optional_str _ "branch_oid" 5 t.branchOid
      (show t.toJson.get "branch_oid" = _ from rfl)
  have hRead {name : String} {i n : Nat}
      (hLookup : t.toJson.get name = some (.int n))
      (hBound : n < 2 ^ 64) :
      (Json.Fields.named _).required name i Json.asU64 =
        some n :=
    (Json.Fields.required_named hLookup).trans
      (Json.asU64_natCast hBound)
  unfold Json.asTargetIdentity
  refine Option.bind_eq_some_iff.mpr ⟨_, rfl, ?_⟩
  refine Option.bind_eq_some_iff.mpr ⟨_, hRead rfl hDev, ?_⟩
  refine Option.bind_eq_some_iff.mpr ⟨_, hRead rfl hIno, ?_⟩
  refine Option.bind_eq_some_iff.mpr
    ⟨_, hRead rfl hCreated, ?_⟩
  refine Option.bind_eq_some_iff.mpr
    ⟨_, hRead rfl hGitDev, ?_⟩
  refine Option.bind_eq_some_iff.mpr
    ⟨_, hRead rfl hGitIno, ?_⟩
  exact Option.bind_eq_some_iff.mpr ⟨_, hOid, rfl⟩

/- An authorization is read back as it was written. -/
theorem asAuthorization_toJson
    {a : Authorization} (hFits : a.Fits) :
    a.toJson.asAuthorization = some a := by
  have hText {name : String} {i : Nat} {v : Option String}
      (hLookup : a.toJson.get name = some (.ofOption .str v)) :
      (Json.Fields.named _).optional name i Json.asStr =
        some v :=
    optional_str hLookup
  have hIdentity :
      Json.option Json.asTargetIdentity
          (.ofOption TargetIdentity.toJson a.identity) =
        some a.identity :=
    option_ofOption (fun t hSome =>
      ⟨Json.noConfusion,
        asTargetIdentity_toJson (hFits.1 t hSome)⟩)
  have hCommits :
      (Json.Fields.named _).optional "unmerged_commits" 6
          Json.asU64 = some a.unmergedCommits :=
    optional_ofOption
      (show a.toJson.get "unmerged_commits" = _ from rfl)
      (fun n hSome => ⟨Json.noConfusion,
        Json.asU64_natCast (hFits.2 n hSome)⟩)
  have hOid :
      Json.option Json.asStr (.ofOption .str a.branchOid) =
        some a.branchOid :=
    option_ofOption (fun t _ => ⟨Json.noConfusion, rfl⟩)
  unfold Json.asAuthorization
  refine Option.bind_eq_some_iff.mpr ⟨_, rfl, ?_⟩
  refine Option.bind_eq_some_iff.mpr
    ⟨_, Json.Fields.required_str rfl, ?_⟩
  refine Option.bind_eq_some_iff.mpr
    ⟨_, Json.Fields.required_str rfl, ?_⟩
  refine Option.bind_eq_some_iff.mpr
    ⟨_, (Json.Fields.required_named rfl).trans rfl, ?_⟩
  refine Option.bind_eq_some_iff.mpr ⟨_, hText rfl, ?_⟩
  refine Option.bind_eq_some_iff.mpr ⟨_, hText rfl, ?_⟩
  refine Option.bind_eq_some_iff.mpr
    ⟨_, Json.Fields.required_str rfl, ?_⟩
  refine Option.bind_eq_some_iff.mpr ⟨_, hCommits, ?_⟩
  refine Option.bind_eq_some_iff.mpr
    ⟨_, Json.Fields.defaulted_named rfl hIdentity, ?_⟩
  exact Option.bind_eq_some_iff.mpr
    ⟨_, Json.Fields.defaulted_named rfl hOid, rfl⟩

end Decoding

------------------------------------------------------------
-- What a Plan Is Based On
------------------------------------------------------------

/- The log has an authorization for the node. -/
def Authorized
    (env : RunEnv) (id : NodeId) (a : Authorization)
    (seq : Nat) (d : Disk) : Prop :=
  ∃ ev ∈ d.events,
    keyedAs discardAuthorized (authorizationKey env id) ev =
      true ∧
    ev.seq = seq ∧ ev.data.asAuthorization = some a

/- By the authorization itself, or by an upgrade of it. -/
def Forced
    (env : RunEnv) (op : Operator) (id : NodeId)
    (a : Authorization) (seq : Nat) (d : Disk) : Prop :=
  a.force = true ∨
    ∃ ev ∈ d.events,
      keyedAs discardForceAuthorized (forceUpgradeKey env id)
        ev = true ∧
      ev.nodeId = some id ∧
      ev.data = forceUpgradeData op seq a.reason

/- The plan of a call with these arguments on this run. -/
structure DiscardPlan.Based
    (env : RunEnv) (plan : DiscardPlan) (call : DiscardArgs)
    (d : Disk) : Prop where
  args : plan.args = call
  node : d.nodes.lookup plan.node.nodeId = some plan.node
  path :
    plan.observation.view.worktreePath = plan.node.worktreePath
  branch :
    plan.observation.view.branch =
      plan.node.branch.filter (fun b => b ≠ "")
  repo :
    plan.observation.sourceRepo = plan.manifest.sourceRepo
  reason : plan.auth.reason = call.reason
  audited :
    plan.auth.worktreePath =
        plan.observation.view.worktreePath ∧
      plan.auth.branch = plan.observation.view.branch
  orphan : plan.orphan = true → call.force = true
  prior : ∀ seq, plan.prior = some seq →
    Authorized env plan.node.nodeId plan.auth seq d

section Plans

variable {env : RunEnv} {op : Operator} {args : DiscardArgs}
variable {m : Manifest} {n : Node} {d : Disk} {s : Site}
variable {c : Candidate} {cs : List Candidate}
variable {plan : DiscardPlan}

theorem Authorized.mono
    {id : NodeId} {a : Authorization} {seq : Nat} {d' : Disk}
    (hAuthorized : Authorized env id a seq d)
    (hEvents : d.events ⊆ d'.events) :
    Authorized env id a seq d' := by
  rcases hAuthorized with ⟨ev, hMem, hSpec⟩
  exact ⟨ev, hEvents hMem, hSpec⟩

/- A plan stays based where the log only grows. -/
theorem DiscardPlan.Based.mono
    {d' : Disk}
    (hBased : plan.Based env args d)
    (hNodes : d'.nodes = d.nodes)
    (hEvents : d.events ⊆ d'.events) :
    plan.Based env args d' where
  args := hBased.args
  node := by
    rw [hNodes]
    exact hBased.node
  path := hBased.path
  branch := hBased.branch
  repo := hBased.repo
  reason := hBased.reason
  audited := hBased.audited
  orphan := hBased.orphan
  prior := fun seq hPrior => (hBased.prior seq hPrior).mono hEvents

theorem latest_mem
    (hLatest : latest cs = some c) : c ∈ cs := by
  induction cs generalizing c with
  | nil => cases hLatest
  | cons c' rest ih =>
      rw [latest] at hLatest
      split at hLatest
      next =>
        cases hLatest
        exact List.mem_cons_self
      next best hBest =>
        split at hLatest
        · cases hLatest
          exact List.mem_cons_self
        · cases hLatest
          exact List.mem_cons_of_mem _ (ih hBest)

theorem selectCandidate_mem
    {wanted : Option NodeId}
    (hSelect : selectCandidate env wanted cs = .ok c) :
    c ∈ cs := by
  unfold selectCandidate at hSelect
  cases wanted with
  | some id =>
      rw [orError_eq_ok] at hSelect
      exact List.mem_of_find?_eq_some hSelect
  | none =>
      dsimp only at hSelect
      split at hSelect
      next c' hOnly =>
        cases hSelect
        have hMem : c ∈ cs.filter Candidate.current := by
          rw [hOnly]
          exact List.mem_singleton_self c
        exact (List.mem_filter.mp hMem).1
      next =>
        rw [orError_eq_ok] at hSelect
        exact latest_mem hSelect
      next => cases hSelect

/- A candidate is what the log and git have on its node. -/
theorem candidateOf_some
    (hCandidate : candidateOf env m d s n = .ok (some c)) :
    c.node = n ∧ c.observation = observe m n s ∧
      findPriorWithKey discardAuthorized
        (authorizationKey env n.nodeId) d.lines =
          .ok c.prior := by
  unfold candidateOf at hCandidate
  split at hCandidate
  next => cases hCandidate
  next =>
    simp only [bind_eq_ok, mapError_eq_ok, pure_eq]
      at hCandidate
    rcases hCandidate with ⟨prior, hPrior, hCandidate⟩
    split at hCandidate
    next =>
      cases hCandidate
      exact ⟨rfl, rfl, hPrior⟩
    next => cases hCandidate

/- A projection under its own name. -/
theorem readNodes_mem
    {files : List NodeId} {nodes : List Node}
    (hRead : readNodes env files d = .ok nodes)
    (hMem : n ∈ nodes) : d.nodes.lookup n.nodeId = some n := by
  simp only [readNodes, bind_eq_ok, pure_eq,
    Except.ok.injEq] at hRead
  rcases hRead with ⟨found, hFound, rfl⟩
  rw [List.mem_insertionSort, List.mem_filterMap] at hMem
  rcases hMem with ⟨entry, hIn, hEntry⟩
  rcases mem_of_mapM hFound hIn with ⟨id, _, hNode⟩
  rw [id_eq] at hEntry
  rw [hEntry] at hNode
  rcases readNodeOpt_eq_some.mp hNode with ⟨hLookup, hReadable⟩
  rw [hReadable.nodeId]
  exact hLookup

theorem readRecorded_some
    {prior : Option PriorEvent}
    {recorded : Option (Nat × Authorization)}
    (hRead : readRecorded prior = .ok recorded) :
    ∀ seq a, recorded = some (seq, a) →
      ∃ ev, prior = some ev ∧ ev.seq = seq ∧
        ev.data.asAuthorization = some a := by
  intro seq a hSome
  unfold readRecorded at hRead
  split at hRead
  next =>
    cases hRead
    cases hSome
  next ev =>
    split at hRead
    next a' hData =>
      cases hRead
      cases hSome
      exact ⟨ev, rfl, rfl, hData⟩
    next => cases hRead

/- The reason binds, and so do the target and the force. -/
theorem checkRecorded_ok
    {seq : Nat} {a : Authorization} {populated orphan : Bool}
    (hCheck :
      checkRecorded env op args m c seq a populated d s =
        .ok orphan) :
    a.reason = args.reason ∧
      (args.force = false → a.force = false) ∧
      (∀ o, c.observation = some o → o.hasResources = true →
        a.worktreePath = o.view.worktreePath ∧
          a.branch = o.view.branch) ∧
      orphan = c.observation.any (fun o =>
        o.view.worktreePresent && !o.verifiedForDiscard) := by
  simp only [checkRecorded, bind_eq_ok, refuseIf_eq_ok,
    checkWhen_eq_ok, pure_eq, not_or, not_and, not_not,
    exists_and_left] at hCheck
  rcases hCheck with
    ⟨upgraded, hUpgraded, ⟨hReason, hForce⟩, _, _, _, hInputs,
      _, hOrphan⟩
  refine ⟨hReason, ?_, ?_, ?_⟩
  · intro hPlain
    by_contra hForced
    have hNot : upgraded = false := by
      simpa [upgradedBefore, hPlain] using hUpgraded.symm
    have hRetry := hForce (by simp [hPlain, hForced])
      (by simp [hNot])
    simp [forceRetryAllowed, hPlain] at hRetry
  · intro o hSome hHas
    simpa [hSome, hHas] using hInputs
  · exact (Except.ok.inj hOrphan).symm

/- A plan has the target of the observation it was made of. -/
theorem authorization_ok
    {o : RetainedObservation} {a : Authorization}
    (hAuth : authorization op args o m s = .ok a) :
    a.reason = args.reason ∧
      a.worktreePath = o.view.worktreePath ∧
      a.branch = o.view.branch := by
  simp only [authorization, bind_eq_ok, refuseIf_eq_ok,
    pure_eq, Except.ok.injEq] at hAuth
  rcases hAuth with ⟨_, _, identity, _, rfl⟩
  exact ⟨rfl, rfl, rfl⟩

/- The call goes ahead by what was recorded, or records. -/
theorem goAhead_proceed
    {o : RetainedObservation}
    {recorded : Option (Nat × Authorization)}
    {populated orphan : Bool}
    (hGo :
      goAhead env op args m n o recorded populated orphan s =
        .ok (.proceed plan)) :
    plan.args = args ∧ plan.manifest = m ∧ plan.node = n ∧
      plan.observation = o ∧ plan.orphan = orphan ∧
      plan.prior = recorded.map Prod.fst ∧
      ((∃ seq, recorded = some (seq, plan.auth)) ∨
        (recorded = none ∧
          authorization op args o m s = .ok plan.auth)) ∧
      (args.force = false →
        orphan = true →
          recorded.any (fun r => r.2.force) = true) := by
  simp only [goAhead, bind_eq_ok] at hGo
  rcases hGo with ⟨_, _, _, _, hGo⟩
  split at hGo
  next => cases hGo
  next =>
    simp only [bind_eq_ok, refuseIf_eq_ok, pure_eq,
      Except.ok.injEq, exists_and_left] at hGo
    rcases hGo with ⟨hForce, _, auth, hAuth, _, _, hPlan⟩
    cases hPlan
    refine ⟨rfl, rfl, rfl, rfl, rfl, rfl, ?_, ?_⟩
    · cases recorded with
      | none => exact .inr ⟨rfl, hAuth⟩
      | some r =>
          cases hAuth
          exact .inl ⟨r.1, rfl⟩
    · intro hPlain hOrphan
      by_contra hNot
      apply hForce
      simp [hPlain, hOrphan, hNot]

theorem requireVerified_ok
    {id : NodeId} {orphan : Bool} {found : Option RetainedObservation}
    {o : RetainedObservation}
    (hVerified : requireVerified id orphan found = .ok o) :
    found = some o ∧ o.hasResources = true := by
  simp only [requireVerified, bind_eq_ok, orError_eq_ok,
    refuseIf_eq_ok, pure_eq, Except.ok.injEq, not_not,
    exists_and_left] at hVerified
  rcases hVerified with ⟨o', hFound, hHas, _, _, _, rfl⟩
  exact ⟨hFound, hHas⟩

/- A plan is based on the state that it was made on. -/
theorem decideCandidate_based
    (hNode : d.nodes.lookup c.node.nodeId = some c.node)
    (hSeen : c.observation = observe m c.node s)
    (hPrior : findPriorWithKey discardAuthorized
      (authorizationKey env c.node.nodeId) d.lines =
        .ok c.prior)
    (hDecide : decideCandidate env op args m c d s =
      .ok (.proceed plan)) : plan.Based env args d := by
  simp only [decideCandidate, bind_eq_ok] at hDecide
  rcases hDecide with
    ⟨recorded, hRecorded, populated, _, orphan, hOrphan,
      hDecide⟩
  split at hDecide
  next => cases hDecide
  next =>
    rw [bind_eq_ok] at hDecide
    rcases hDecide with ⟨o, hVerified, hGo⟩
    rcases requireVerified_ok hVerified with ⟨hFound, hHas⟩
    rcases goAhead_proceed hGo with
      ⟨hArgs, hManifest, hSame, rfl, rfl, hSeq, hAuth, hForce⟩
    rw [← hSame] at hNode hSeen hPrior
    rcases observe_view (hSeen.symm.trans hFound) with
      ⟨hPath, hBranch, hRepo⟩
    have hBound : plan.auth.reason = args.reason ∧
        (plan.auth.worktreePath =
            plan.observation.view.worktreePath ∧
          plan.auth.branch = plan.observation.view.branch) ∧
        (plan.orphan = true → args.force = true) ∧
        ∀ seq, plan.prior = some seq →
          Authorized env plan.node.nodeId plan.auth seq d := by
      rcases hAuth with ⟨seq, rfl⟩ | ⟨rfl, hFresh⟩
      · rcases checkRecorded_ok hOrphan with
          ⟨hReason, hPlain, hTarget, _⟩
        rcases readRecorded_some hRecorded seq _ rfl with
          ⟨prior, hSome, rfl, hData⟩
        rw [hSome] at hPrior
        rcases priorEvent_mem hPrior with
          ⟨ev, hMem, hKind, hKey, rfl⟩
        refine ⟨hReason, hTarget _ hFound hHas, ?_, ?_⟩
        · intro hLeft
          by_contra hNot
          have hNo : args.force = false := by simpa using hNot
          have hHad := hForce hNo hLeft
          rw [Option.any_some, hPlain hNo] at hHad
          cases hHad
        · intro seq hThere
          rw [hSeq] at hThere
          cases hThere
          exact ⟨ev, Disk.mem_events.mpr hMem,
            keyedAs_iff.mpr ⟨hKind, hKey⟩, rfl, hData⟩
      · rcases authorization_ok hFresh with
          ⟨hReason, hTarget⟩
        refine ⟨hReason, hTarget, ?_, ?_⟩
        · intro hLeft
          rw [hLeft] at hOrphan
          cases hOrphan
        · intro seq hThere
          rw [hSeq] at hThere
          cases hThere
    exact ⟨hArgs, hNode, hPath, hBranch,
      hRepo.trans (congrArg _ hManifest.symm), hBound.1,
      hBound.2.1, hBound.2.2.1, hBound.2.2.2⟩

/- The call's candidate is what log and git have on it. -/
theorem selected_spec
    {wanted : Option NodeId} {files : List NodeId}
    {nodes : List Node} {found : List (Option Candidate)}
    (hNodes : readNodes env files d = .ok nodes)
    (hFound : nodes.mapM (candidateOf env m d s) = .ok found)
    (hSelect :
      selectCandidate env wanted (found.filterMap id) =
        .ok c) :
    d.nodes.lookup c.node.nodeId = some c.node ∧
      c.observation = observe m c.node s ∧
      findPriorWithKey discardAuthorized
        (authorizationKey env c.node.nodeId) d.lines =
          .ok c.prior := by
  have hMem := selectCandidate_mem hSelect
  rw [List.mem_filterMap] at hMem
  rcases hMem with ⟨entry, hIn, hEntry⟩
  rcases mem_of_mapM hFound hIn with ⟨n, hNode, hHere⟩
  rw [id_eq] at hEntry
  rw [hEntry] at hHere
  rcases candidateOf_some hHere with ⟨rfl, hSeen, hPrior⟩
  exact ⟨readNodes_mem hNodes hNode, hSeen, hPrior⟩

theorem surveyDiscard_based
    {wanted : Option NodeId} {initial : Manifest}
    {files : List NodeId}
    (hSurvey :
      surveyDiscard env op args wanted initial files d s =
        .ok (.proceed plan)) : plan.Based env args d := by
  simp only [surveyDiscard, bind_eq_ok, mapError_eq_ok]
    at hSurvey
  rcases hSurvey with
    ⟨m, _, _, _, nodes, hNodes, found, hFound, c, hSelect,
      hDecide⟩
  rcases selected_spec hNodes hFound hSelect with
    ⟨hNode, hSeen, hPrior⟩
  exact decideCandidate_based hNode hSeen hPrior hDecide

end Plans

end Taskfleet
