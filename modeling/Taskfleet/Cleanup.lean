import Taskfleet.CommitGraph
import Taskfleet.Outcome

/-
  Teardown of a node: what `cleanup_node_after_evidence` and
  the expiry of a resident worker remove, and what they keep
  and say why.

  Git is a parameter: what it answers or fails to answer, and
  what its removals do. The closing of displays is left out.

  Main declarations:
    * `CleanupWorld`, `headTeardownSafety`
    * `sourceRelativeGuard`, `cleanupNodeAfterEvidence`
    * `residentGuard`, `removeLandedResidentWorktree`
-/

------------------------------------------------------------
-- What Cleanup Asks
------------------------------------------------------------

namespace Taskfleet

open CommitGraph Fallible

/-
  What `git worktree remove` did: its exit, whether it dropped
  the registration, and whether it deleted the directory.
-/
structure Removal where
  ok : Bool
  drops : Bool
  deletes : Bool
deriving DecidableEq, Repr

inductive Retention where
| retained
| notApplicable
| unavailable
| retry
deriving DecidableEq, Repr

/-
  The answers of git and of the file system in one call, the
  repository or directory first. `none` is a query that
  failed; `branchDelete` answers with what went wrong.
-/
structure CleanupWorld where
  mainWorktree : String → Option String
  revListCount : String → String → String → Option Nat
  pathExists : String → Bool
  statusClean : String → Option Bool
  headOid : String → Option String
  headBranch : String → Option String
  removal : String → String → Bool → Removal
  branchDelete : String → String → Bool → Option String
  orphanIdentified : String → String → Bool
  orphanRemoved : String → String → Bool
  retention : Retention
  rebaseInProgress : String → Bool
  paneSaved : Bool

/- An empty endpoint is refused before git sees it. -/
def CleanupWorld.revListCountOf
    (world : CleanupWorld)
    (repo lower upper : String) : Option Nat :=
  if lower = "" ∨ upper = "" then none
  else world.revListCount repo lower upper

/- Whether the path is there after an attempt to remove it. -/
def CleanupWorld.remains
    (world : CleanupWorld) (r : Removal) (path : String) :
    Bool :=
  world.pathExists path && !r.deletes

def manifestSourceRepo (m : Option Manifest) : Option String :=
  (m.bind Manifest.sourceRepo).filter (fun s => s ≠ "")

def manifestSourceBranch (m : Option Manifest) :
    Option String :=
  (m.bind Manifest.sourceBranch).filter (fun s => s ≠ "")

------------------------------------------------------------
-- Guards
------------------------------------------------------------

inductive UnmergedCheck where
| hasUnmerged
| unverifiable
| noUnmerged
deriving DecidableEq, Repr

def branchUnmergedVsSource
    (world : CleanupWorld)
    (repo source branch : String) : UnmergedCheck :=
  match world.revListCountOf repo source branch with
  | some count => if 0 < count then .hasUnmerged else .noUnmerged
  | none => .unverifiable

inductive WorktreeCleanliness where
| clean
| dirty
| unverifiable
deriving DecidableEq, Repr

/- A path that is not there has nothing to lose. -/
def worktreeCleanliness
    (world : CleanupWorld) (path : Option String) :
    WorktreeCleanliness :=
  match path.filter (fun s => s ≠ "") with
  | none => .clean
  | some path =>
      if ¬ world.pathExists path then .clean
      else
        match world.statusClean path with
        | some true => .clean
        | some false => .dirty
        | none => .unverifiable

inductive HeadTeardown where
| deferToBranch
| safe
| preserve (reason : String)
deriving DecidableEq, Repr

inductive HeadReach where
| inSource
| notInSource
| unverifiable
| noSource
deriving DecidableEq, Repr

def headReachFromSource
    (world : CleanupWorld)
    (repo : String)
    (source : Option String)
    (headOid : String) : HeadReach :=
  match source with
  | none => .noSource
  | some source =>
      match world.revListCountOf repo source headOid with
      | some 0 => .inSource
      | some _ => .notInSource
      | none => .unverifiable

/- The three texts of a head that cannot be let go. -/
def HeadReach.teardown
    (notInSource unverifiable noSource : String) :
    HeadReach → HeadTeardown
| .inSource => .safe
| .notInSource => .preserve notInSource
| .unverifiable => .preserve unverifiable
| .noSource => .preserve noSource

/-
  The head of the checkout itself. On the recorded branch the
  branch checks decide; otherwise its commit must be in the
  source.
-/
def headTeardownSafety
    (world : CleanupWorld)
    (repo path : String)
    (recorded source : Option String) : HeadTeardown :=
  match world.headOid path with
  | none =>
      .preserve "worktree HEAD unreadable (git error; preserving)"
  | some oid =>
      match world.headBranch path with
      | some b =>
          if recorded = some b then .deferToBranch
          else
            (headReachFromSource world repo source oid).teardown
              "HEAD on a non-recorded branch has commits not in source (no explicit merge)"
              "HEAD-branch unmerged-commit check unavailable (git error; preserving)"
              "HEAD on a branch other than the recorded one, no recorded source to verify against (preserving)"
      | none =>
          (headReachFromSource world repo source oid).teardown
            "detached HEAD has commits not in source (no explicit merge)"
            "detached HEAD unmerged-commit check unavailable (git error; preserving)"
            "detached HEAD with no recorded source to verify against (preserving)"

/- The branch against the source, where both are recorded. -/
def branchGuard
    (world : CleanupWorld)
    (repo : String)
    (branch source : Option String) : Option String :=
  match branch, source with
  | some branch, some source =>
      match branchUnmergedVsSource world repo source branch with
      | .hasUnmerged =>
          some "unmerged commits vs source (no explicit merge)"
      | .unverifiable =>
          some "unmerged-commit check unavailable (git error; preserving)"
      | .noUnmerged => none
  | _, _ => none

def treeGuard (world : CleanupWorld) (path : String) :
    Option String :=
  match worktreeCleanliness world (some path) with
  | .clean => none
  | .dirty =>
      some "uncommitted changes in worktree (no explicit merge)"
  | .unverifiable =>
      some "worktree cleanliness unavailable (git error; preserving)"

/- A directory that is gone is not asked for its head. -/
def headGuard
    (world : CleanupWorld)
    (repo path : String)
    (branch source : Option String) : Option String :=
  if world.pathExists path then
    match
      headTeardownSafety world repo path
        (branch.filter (fun s => s ≠ "")) source with
    | .preserve reason => some reason
    | .safe | .deferToBranch => none
  else none

/- Why a teardown without a merge keeps everything. -/
def sourceRelativeGuard
    (world : CleanupWorld)
    (repo path : String)
    (branch source : Option String) : Option String :=
  ((branchGuard world repo branch source).or
    (treeGuard world path)).or
    (headGuard world repo path branch source)

------------------------------------------------------------
-- Audits
------------------------------------------------------------

/- The audit of one step, once for a run and a node. -/
def auditRequest
    (env : RunEnv)
    (now : Time)
    (n : Node)
    (kind : String)
    (data : List (String × Json)) : Request where
  now := now
  kind := .other kind
  nodeId := some n.nodeId
  key := some (kind ++ ":" ++ env.runId.val ++ ":" ++
    n.nodeId.val)
  data := .obj data

def textOrNull : Option String → Json
| none => .null
| some s => .str s

def recordBranchPreserved
    (env : RunEnv) (now : Time) (n : Node)
    (path reason : String) : Request :=
  auditRequest env now n "cleanup.branch_preserved"
    [("branch", textOrNull n.branch),
      ("node_id", .str n.nodeId.val), ("reason", .str reason),
      ("worktree_path", .str path)]

def recordWorktreeMissing
    (env : RunEnv) (now : Time) (n : Node) (path : String) :
    Request :=
  auditRequest env now n "cleanup.worktree_missing"
    [("branch", textOrNull n.branch),
      ("node_id", .str n.nodeId.val),
      ("worktree_path", .str path)]

def recordWorktreeRemoveFailed
    (env : RunEnv) (now : Time) (n : Node) (path : String) :
    Request :=
  auditRequest env now n "cleanup.worktree_remove_failed"
    [("branch", textOrNull n.branch),
      ("worktree_path", .str path)]

def recordBranchRemoveFailed
    (env : RunEnv) (now : Time) (n : Node)
    (branch detail : String) : Request :=
  auditRequest env now n "cleanup.branch_remove_failed"
    [("branch", .str branch), ("error", .str detail),
      ("node_id", .str n.nodeId.val)]

def preserveReason : Option TerminalOutcome → String
| some .failed => "failed (branch preserved)"
| _ => "blocked report"

------------------------------------------------------------
-- Teardown
------------------------------------------------------------

section Teardown

variable {C : Type}

/- What an attempt to remove a checkout leaves. -/
def Removal.apply
    (r : Removal) (path : String) (g : Repo C) : Repo C :=
  let g := if r.drops then g.dropCheckout path else g
  if r.deletes then g.removeTree path else g

def deleteBranch
    (env : RunEnv)
    (world : CleanupWorld)
    (now : Time)
    (n : Node)
    (repo : String)
    (merged : Bool)
    (g : Repo C) : Repo C × List Request :=
  match n.branch with
  | none => (g, [])
  | some branch =>
      match world.branchDelete repo branch merged with
      | none => (g.deleteRef (branchRef branch), [])
      | some detail =>
          (g, [recordBranchRemoveFailed env now n branch detail])

/-
  The removal and what follows it. A merge may retry where git
  left an unregistered directory; otherwise a directory that
  is still there keeps its branch.
-/
def removeCheckout
    (env : RunEnv)
    (world : CleanupWorld)
    (now : Time)
    (n : Node)
    (repo path : String)
    (merged : Bool)
    (g : Repo C) : Repo C × List Request :=
  let identified := world.orphanIdentified repo path
  let r := world.removal repo path merged
  let g := r.apply path g
  if merged ∧ ¬ r.ok ∧ world.remains r path then
    if identified ∧ world.orphanRemoved repo path then
      deleteBranch env world now n repo merged
        (g.removeTree path)
    else (g, [recordWorktreeRemoveFailed env now n path])
  else if ¬ r.ok ∧ world.remains r path then
    (g, [recordBranchPreserved env now n path
      "worktree not cleanly removable (dirty/locked; preserved for retry)"])
  else
    let audits :=
      if r.ok then []
      else [recordWorktreeMissing env now n path]
    let (g, more) := deleteBranch env world now n repo merged g
    (g, audits ++ more)

/- A display that must be retained first puts all of it off. -/
def retentionVetoes
    (world : CleanupWorld) (m : Option Manifest) : Bool :=
  (m.bind Manifest.tmuxRetention).any
      TmuxRetentionPolicy.persistent &&
    world.retention == .retry

def teardownOf (n : Node) : Teardown :=
  ((TerminalOutcome.classify n).map
    TerminalOutcome.teardown).getD .sourceRelative

/- Where the commands are run. -/
def cleanupRepo
    (world : CleanupWorld)
    (m : Option Manifest)
    (path : String) : String :=
  ((world.mainWorktree path).or (manifestSourceRepo m)).getD
    path

def cleanupNodeAfterEvidence
    (env : RunEnv)
    (world : CleanupWorld)
    (now : Time)
    (m : Option Manifest)
    (n : Node)
    (g : Repo C) : Repo C × List Request :=
  if retentionVetoes world m then (g, [])
  else
    match n.worktreePath with
    | none => (g, [])
    | some path =>
        let outcome := TerminalOutcome.classify n
        if teardownOf n = .preserveWork then
          (g, [recordBranchPreserved env now n path
            (preserveReason outcome)])
        else
          let repo := cleanupRepo world m path
          let merged :=
            outcome.any TerminalOutcome.isExplicitMerge
          if merged then
            removeCheckout env world now n repo path true g
          else
            match
              sourceRelativeGuard world repo path n.branch
                (manifestSourceBranch m) with
            | some reason =>
                (g, [recordBranchPreserved env now n path
                  reason])
            | none =>
                removeCheckout env world now n repo path false g

def UnmergedCheck.refuse : UnmergedCheck → Except String Unit
| .noUnmerged => .ok ()
| .hasUnmerged => .error "unlanded commits vs source"
| .unverifiable => .error "unlanded-commit check unavailable"

def WorktreeCleanliness.refuse :
    WorktreeCleanliness → Except String Unit
| .clean => .ok ()
| .dirty => .error "uncommitted or untracked changes in worktree"
| .unverifiable => .error "worktree cleanliness unavailable"

def HeadTeardown.refuse : HeadTeardown → Except String Unit
| .preserve reason => .error reason
| .safe | .deferToBranch => .ok ()

/-
  The guards of the expiry of a resident worker, for a
  directory that is there: the repository and the path to
  remove, or why not.
-/
def residentGuard
    (world : CleanupWorld)
    (m : Option Manifest)
    (n : Node) : Except String (String × String) := do
  let path ← orError "no recorded worktree" n.worktreePath
  refuseIf (¬ world.pathExists path)
    "worktree already missing (not recorded as removed by expiry)"
  let branch ←
    orError "no recorded branch"
      (n.branch.filter (fun s => s ≠ ""))
  let source ←
    orError "no recorded source branch" (manifestSourceBranch m)
  let repo ←
    orError "source repository unavailable"
      ((world.mainWorktree path).or (manifestSourceRepo m))
  refuseIf (world.rebaseInProgress path)
    "rebase in progress in the worktree"
  (branchUnmergedVsSource world repo source branch).refuse
  (worktreeCleanliness world (some path)).refuse
  (headTeardownSafety world repo path (some branch)
    (some source)).refuse
  refuseIf (¬ world.paneSaved)
    "pane history could not be saved before releasing the display"
  return (repo, path)

/- The branch of a resident worker is never deleted. -/
def removeLandedResidentWorktree
    (world : CleanupWorld)
    (m : Option Manifest)
    (n : Node)
    (g : Repo C) : Repo C × Except String Unit :=
  match residentGuard world m n with
  | .error reason => (g, .error reason)
  | .ok (repo, path) =>
      let r := world.removal repo path false
      (r.apply path g,
        if r.ok then .ok ()
        else .error "worktree not cleanly removable (dirty/locked)")

end Teardown

end Taskfleet
