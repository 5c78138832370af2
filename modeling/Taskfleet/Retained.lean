import Mathlib.Data.List.Sort
import Taskfleet.Checkouts
import Taskfleet.Disk

/-
  What is left of a node that is over: its checkout and its
  branch, and whether git could tell enough about them. The
  observation is shared by the ways to discard them.

  Main declarations:
    * `RetainedObservation`, `observeTerminal`, `observe`
    * `readNodes`
-/

------------------------------------------------------------
-- Observations
------------------------------------------------------------

namespace Taskfleet

open Checkouts

structure PreservedWork where
  nodeId : NodeId
  worktreePath : Option String
  worktreePresent : Bool
  branch : Option String
  branchPresent : Bool
  cleanliness : String
  unmergedCommits : Option Nat
  verification : String
  reason : String
deriving DecidableEq, Repr

structure RetainedObservation where
  view : PreservedWork
  sourceRepo : Option String
  verified : Bool
deriving DecidableEq, Repr

namespace RetainedObservation

def verifiedForDiscard (o : RetainedObservation) : Bool :=
  o.verified

def hasResources (o : RetainedObservation) : Bool :=
  o.view.worktreePresent || o.view.branchPresent

end RetainedObservation

/- Paths that are spelled alike or lead to one place. -/
def retainedPathsEquivalent
    (s : Site) (left right : String) : Bool :=
  samePath left right || s.pathsEquivalent left right

/- Whether the path is there; a doubt counts as a yes. -/
def worktreePresence (s : Site) (path : Option String) :
    Bool × Bool :=
  match path with
  | none => (false, true)
  | some path =>
      match s.tryExists path with
      | some present => (present, true)
      | none => (true, false)

/- The row of a checkout on the list of the source. -/
def registeredRow
    (s : Site) (rows : Option (List Registration))
    (path : Option String) : Option Registration :=
  path.bind (fun path =>
    rows.bind (fun rows =>
      rows.find? (fun row =>
        retainedPathsEquivalent s row.path path)))

/- The directory belongs to the repository of the source. -/
def presentIdentityMatches
    (s : Site) (path : Option String)
    (source : Option String) : Bool :=
  (path.bind s.repositoryIdentity).isSome ∧
    path.bind s.repositoryIdentity = source

/- The checkout is detached or on the recorded branch. -/
def branchBindingVerified
    (row : Option Registration) (branch : Option String) :
    Bool :=
  match row, branch with
  | some row, some expected => row.branch.all (· == expected)
  | _, _ => false

def branchProbe
    (s : Site) (repo branch : Option String) : Option Bool :=
  match repo, branch with
  | some repo, some branch => s.branchExists repo branch
  | _, none => some false
  | none, some _ => none

/-
  What is left of a terminal node, where anything is or may
  be. What git could not tell makes it unverified.
-/
def observeTerminal
    (m : Manifest) (n : Node) (s : Site) :
    Option RetainedObservation :=
  if ¬ (m.status.isTerminal = true ∧
      n.status.isTerminal = true) then none
  else
    let branch := n.branch.filter (fun b => b ≠ "")
    if n.worktreePath = none ∧ branch = none then none
    else
      let (present, pathVerified) :=
        worktreePresence s n.worktreePath
      let rows := m.sourceRepo.bind s.worktreeRegistrations
      let source := m.sourceRepo.bind s.repositoryIdentity
      let row := registeredRow s rows n.worktreePath
      let probe := branchProbe s m.sourceRepo branch
      if present = false ∧ probe = some false then none
      else
        let clean : Option Bool :=
          if present = true ∧ row.isSome = true then
            n.worktreePath.bind s.worktreeStatusClean
          else if present = true then none
          else some true
        let target :=
          if present = true then
            n.worktreePath.bind s.headOid
          else if probe = some true then branch
          else none
        let unmerged :=
          match m.sourceRepo, m.sourceBranch, target with
          | some repo, some upstream, some target =>
              s.revListCount repo upstream target
          | _, _, _ =>
              if probe = some false ∧ present = false then
                some 0
              else none
        let verified : Bool :=
          (rows.isSome && source.isSome) &&
            (!present ||
              (row.isSome &&
                presentIdentityMatches s n.worktreePath
                  source)) &&
            (!present || branchBindingVerified row branch) &&
            probe.isSome && pathVerified && clean.isSome &&
            unmerged.isSome
        some {
          view := {
            nodeId := n.nodeId
            worktreePath := n.worktreePath
            worktreePresent := present
            branch := branch
            branchPresent := probe = some true
            cleanliness :=
              match clean with
              | some true =>
                  if present = true then "clean"
                  else "not-applicable"
              | some false => "dirty"
              | none => "unverifiable"
            unmergedCommits := unmerged
            verification :=
              if verified then "verified" else "unverifiable"
            reason :=
              if m.status = .done then
                if unmerged.any (fun count => 0 < count) then
                  "done-with-unmerged-work"
                else if !verified then
                  "done-with-unverifiable-retained-work"
                else "done-with-retained-resources"
              else "terminal-work-preserved" }
          sourceRepo := m.sourceRepo
          verified := verified }

/- Failed or cancelled: what a discard is for. -/
def Status.discardable (status : Status) : Bool :=
  status = .failed ∨ status = .cancelled

/- Only what failed or was cancelled can be discarded. -/
def observe
    (m : Manifest) (n : Node) (s : Site) :
    Option RetainedObservation :=
  if m.status.discardable = true ∧
      n.status.discardable = true then
    observeTerminal m n s
  else none

------------------------------------------------------------
-- Nodes
------------------------------------------------------------

/-
  The projections of the directory, by name. The directory
  lists its files in an order of its own.
-/
def readNodes
    (env : RunEnv) (files : List NodeId) (d : Disk) :
    Except Error (List Node) := do
  let nodes ← files.mapM (readNodeOpt env d)
  return (nodes.filterMap id).insertionSort
    (fun n n' => n.nodeId.val ≤ n'.nodeId.val)

------------------------------------------------------------
-- What an Observation Says
------------------------------------------------------------

section Observe

variable {m : Manifest} {n : Node} {s : Site}
variable {o : RetainedObservation}

theorem observeTerminal_view
    (hSome : observeTerminal m n s = some o) :
    o.view.worktreePath = n.worktreePath ∧
      o.view.branch = n.branch.filter (fun b => b ≠ "") ∧
      o.sourceRepo = m.sourceRepo := by
  unfold observeTerminal at hSome
  split at hSome
  next => cases hSome
  next =>
    dsimp only at hSome
    split at hSome
    next => cases hSome
    next =>
      split at hSome
      next => cases hSome
      next =>
        cases hSome
        exact ⟨rfl, rfl, rfl⟩

/- It names the recorded paths, also where they are gone. -/
theorem observe_view
    (hSome : observe m n s = some o) :
    o.view.worktreePath = n.worktreePath ∧
      o.view.branch = n.branch.filter (fun b => b ≠ "") ∧
      o.sourceRepo = m.sourceRepo := by
  unfold observe at hSome
  split at hSome
  next => exact observeTerminal_view hSome
  next => cases hSome

/-
  A checkout that git could tell about is clean or dirty;
  without a checkout there is nothing to be either.
-/
theorem observeTerminal_cleanliness
    (hSome : observeTerminal m n s = some o) :
    (o.view.worktreePresent = false →
      o.view.cleanliness = "not-applicable") ∧
    (o.view.worktreePresent = true → o.verified = true →
      o.view.cleanliness = "clean" ∨
        o.view.cleanliness = "dirty") := by
  unfold observeTerminal at hSome
  split at hSome
  next => cases hSome
  next =>
    dsimp only at hSome
    split at hSome
    next => cases hSome
    next =>
      split at hSome
      next => cases hSome
      next =>
        cases hSome
        constructor
        · intro hGone
          dsimp only at hGone ⊢
          simp [hGone]
        · intro hPresent hVerified
          dsimp only at hPresent hVerified ⊢
          simp only [Bool.and_eq_true,
            Option.isSome_iff_exists] at hVerified
          rcases hVerified.1.2 with ⟨clean, hClean⟩
          rw [hClean]
          cases clean with
          | true => exact .inl (if_pos hPresent)
          | false => exact .inr rfl

theorem observe_cleanliness
    (hSome : observe m n s = some o) :
    (o.view.worktreePresent = false →
      o.view.cleanliness = "not-applicable") ∧
    (o.view.worktreePresent = true → o.verified = true →
      o.view.cleanliness = "clean" ∨
        o.view.cleanliness = "dirty") := by
  unfold observe at hSome
  split at hSome
  next => exact observeTerminal_cleanliness hSome
  next => cases hSome

end Observe

end Taskfleet
