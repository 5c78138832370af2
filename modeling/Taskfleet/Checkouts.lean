import Mathlib.Data.List.Basic

/-
  A file system with git repositories in it, as a program
  sees them that asks the kernel and git one question at a
  time, and the three commands that destroy something there.

  Any question may fail, and a command that fails may have
  done a part of its work. What the two commands of git do is
  a parameter, with what git documents of them as hypotheses.
  Two of its ways matter to a caller: a ref is deleted where
  a symbolic one leads, and a removal without force refuses
  only the changes that a plain `git status` shows.

  Main declarations:
    * `Site` and its questions
    * `Site.RemoveDirAll`
    * `Git`, `Git.Documented`, `Git.BranchDeleteOid`
    * `Git.direct`
-/

------------------------------------------------------------
-- Paths
------------------------------------------------------------

namespace Checkouts

/- The names along a path, with the dot it may start with. -/
def components (path : String) : List String :=
  let named := fun cs : List String =>
    cs.filter (fun c => c ≠ "" ∧ c ≠ ".")
  match (path.toList.splitOn '/').map String.ofList with
  | "." :: rest => "." :: named rest
  | all => named all

def isAbsolute (path : String) : Bool :=
  path.toList.head? = some '/'

/- Two spellings of one path. -/
def samePath (left right : String) : Bool :=
  isAbsolute left = isAbsolute right ∧
    components left = components right

def fileName (path : String) : Option String :=
  (components path).getLast?.filter (fun c => c ≠ "..")

/- The directory that holds an absolute path. -/
def parent (path : String) : Option String :=
  if components path = [] then none
  else some ("/" ++ "/".intercalate (components path).dropLast)

def join (path name : String) : String :=
  if path.toList.getLast? = some '/' then path ++ name
  else path ++ "/" ++ name

/- The path itself, or what lies below it. -/
def Within (path q : String) : Prop :=
  q = path ∨ (path ++ "/").toList <+: q.toList

instance (path q : String) : Decidable (Within path q) :=
  inferInstanceAs (Decidable (_ ∨ _))

def branchRef (branch : String) : String :=
  "refs/heads/" ++ branch

/- The text of a commit: forty or sixty-four hex digits. -/
def isOid (oid : String) : Bool :=
  (oid.length = 40 ∨ oid.length = 64) ∧
    oid.toList.all (fun c =>
      c.isDigit || ('a' ≤ c && c ≤ 'f') ||
        ('A' ≤ c && c ≤ 'F'))

------------------------------------------------------------
-- Sites
------------------------------------------------------------

/- What the kernel tells of one entry. -/
structure Stat where
  isDir : Bool
  isSymlink : Bool
  len : Nat
  dev : Nat
  ino : Nat
  created : Option Nat
deriving DecidableEq, Repr

/- A checkout that git has on its list. -/
structure Registration where
  path : String
  branch : Option String
deriving DecidableEq, Repr

/-
  What a checkout holds: changes that are not committed,
  whether a plain `git status` shows none of them, as it may
  be told of untracked files, submodules with content, and
  the commit it is on.
-/
structure Tree where
  dirty : Bool
  hidden : Bool
  submodules : Bool
  head : Option String
deriving DecidableEq, Repr

inductive Probe where
| entry (path : String)
| resolve (path : String)
| text (path : String)
| commonDir (dir : String)
| identity (dir : String)
| worktrees (repo : String)
| branch (repo branch : String)
| tip (repo branch : String)
| headBranch (dir : String)
| status (dir : String)
| submodules (dir : String)
| head (dir : String)
| count (repo lower upper : String)
deriving DecidableEq, Repr

/-
  Entries, the texts of files and where paths lead; the
  common directory of the repository at a path, its checkouts
  and refs, and the ref that a symbolic one leads to; what
  checkouts hold; how many commits one name has over another;
  and which questions fail. A ref is read where it leads.
-/
structure Site where
  entries : String → Option Stat
  texts : String → Option String
  resolves : String → Option String
  common : String → Option String
  worktrees : String → List Registration
  refs : String → String → Option String
  symbolic : String → String → Option String
  trees : String → Tree
  ahead : String → String → String → Option Nat
  fails : Probe → Bool

namespace Site

variable {α : Type}

/- A question to git, in a directory that must be there. -/
def ask
    (s : Site) (dir : String) (probe : Probe)
    (truth : Option α) : Option α :=
  if (s.resolves dir).isSome && !s.fails probe then truth
  else none

------------------------------------------------------------
-- Questions to the Kernel
------------------------------------------------------------

/- `none` where it cannot be told. -/
def tryExists (s : Site) (path : String) : Option Bool :=
  if s.fails (.resolve path) then none
  else some (s.resolves path).isSome

def canonicalize (s : Site) (path : String) : Option String :=
  if s.fails (.resolve path) then none else s.resolves path

/- Links are not followed. -/
def symlinkMetadata (s : Site) (path : String) :
    Option Stat :=
  if s.fails (.entry path) then none else s.entries path

def metadata (s : Site) (path : String) : Option Stat :=
  (s.canonicalize path).bind s.symlinkMetadata

/- Known to be absent. -/
def notFound (s : Site) (path : String) : Bool :=
  !s.fails (.entry path) && (s.entries path).isNone

def readToString (s : Site) (path : String) : Option String :=
  if s.fails (.text path) then none else s.texts path

/- One path, or two that lead to one place. -/
def pathsEquivalent (s : Site) (left right : String) : Bool :=
  left = right ∨
    ((s.canonicalize left).isSome ∧
      s.canonicalize left = s.canonicalize right)

------------------------------------------------------------
-- Questions to Git
------------------------------------------------------------

def commonDir (s : Site) (dir : String) : Option String :=
  s.ask dir (.commonDir dir) (s.common dir)

def repositoryIdentity (s : Site) (dir : String) :
    Option String :=
  if dir = "" then none
  else s.ask dir (.identity dir) (s.common dir)

/- Git lists at least the main checkout. -/
def worktreeRegistrations (s : Site) (repo : String) :
    Option (List Registration) :=
  s.ask repo (.worktrees repo)
    ((some (s.worktrees repo)).filter (fun rows => rows ≠ []))

def branchExists (s : Site) (repo branch : String) :
    Option Bool :=
  if branch = "" then none
  else
    s.ask repo (.branch repo branch)
      (some (s.refs repo (branchRef branch)).isSome)

def refOid (s : Site) (repo branch : String) : Option String :=
  s.ask repo (.tip repo branch)
    ((s.refs repo (branchRef branch)).filter isOid)

def worktreeStatusClean (s : Site) (dir : String) :
    Option Bool :=
  s.ask dir (.status dir) (some (!(s.trees dir).dirty))

def worktreeHasPopulatedSubmodules (s : Site) (dir : String) :
    Option Bool :=
  s.ask dir (.submodules dir) (some (s.trees dir).submodules)

def headOid (s : Site) (dir : String) : Option String :=
  s.ask dir (.head dir) (s.trees dir).head

/- An empty end is refused before git sees it. -/
def revListCount (s : Site) (repo lower upper : String) :
    Option Nat :=
  if lower = "" ∨ upper = "" then none
  else
    s.ask repo (.count repo lower upper)
      (s.ahead repo lower upper)

------------------------------------------------------------
-- Commands
------------------------------------------------------------

/- What git itself sees of that, and holds on to. -/
def ShowsContent (s : Site) (path : String) : Prop :=
  ((s.trees path).dirty = true ∧
      (s.trees path).hidden = false) ∨
    (s.trees path).submodules = true

instance (s : Site) (path : String) :
    Decidable (s.ShowsContent path) :=
  inferInstanceAs (Decidable (_ ∨ _))

/- The place is the directory or below it, by any spelling. -/
def LeadsInto (s : Site) (path q : String) : Prop :=
  Within path q ∨
    ∃ place target, s.resolves path = some place ∧
      s.resolves q = some target ∧ Within place target

/- The place is one of git's own, in some repository. -/
def InGitDir (s : Site) (q : String) : Prop :=
  ∃ dir common, s.common dir = some common ∧
    s.LeadsInto common q

/-
  A command worked in one directory: refs and what is outside
  are as they were, git's own files apart, and no checkout is
  listed that was not.
-/
structure OnlyAt (s : Site) (path : String) (t : Site) :
    Prop where
  refs : t.refs = s.refs
  entries : ∀ q, ¬ s.LeadsInto path q → ¬ s.InGitDir q →
    t.entries q = s.entries q
  texts : ∀ q, ¬ s.LeadsInto path q → ¬ s.InGitDir q →
    t.texts q = s.texts q
  rows : ∀ repo row, row ∈ t.worktrees repo →
    row ∈ s.worktrees repo

/-
  A ref is gone. Refs of other repositories are as they were,
  and in its own those that do not lead to it; so are all
  files but git's own, and the list of checkouts.
-/
structure RefGone (s : Site) (repo ref : String) (t : Site) :
    Prop where
  gone : t.refs repo ref = none
  others : ∀ r name, s.common r ≠ s.common repo ∨
      (name ≠ ref ∧ s.symbolic r name ≠ some ref) →
    t.refs r name = s.refs r name
  entries : ∀ q, ¬ s.InGitDir q → t.entries q = s.entries q
  texts : ∀ q, ¬ s.InGitDir q → t.texts q = s.texts q
  rows : ∀ r row, row ∈ t.worktrees r → row ∈ s.worktrees r

/- The removal of a directory, whatever is in it. -/
inductive RemoveDirAll (s : Site) (path : String) :
    Bool → Site → Prop where
| done (t : Site) (hOnly : s.OnlyAt path t)
    (hGone : t.entries path = none) :
    RemoveDirAll s path true t
| failed (t : Site) (hOnly : s.OnlyAt path t) :
    RemoveDirAll s path false t

variable {s t : Site} {repo path branch oid : String}
variable {force ok : Bool}

theorem ask_eq_some
    {α : Type} {dir : String} {probe : Probe}
    {truth : Option α} {a : α}
    (hAsk : s.ask dir probe truth = some a) :
    truth = some a := by
  unfold ask at hAsk
  split at hAsk
  · exact hAsk
  · cases hAsk

theorem worktreeRegistrations_some
    {rows : List Registration}
    (hRows : s.worktreeRegistrations repo = some rows) :
    rows = s.worktrees repo := by
  have hTruth := ask_eq_some hRows
  rw [Option.filter_eq_some_iff] at hTruth
  exact (Option.some.inj hTruth.1).symm

theorem entries_of_notFound
    (hAbsent : s.notFound path = true) :
    s.entries path = none := by
  rw [notFound, Bool.and_eq_true, Option.isNone_iff_eq_none]
    at hAbsent
  exact hAbsent.2

theorem OnlyAt.refl (s : Site) (path : String) :
    s.OnlyAt path s :=
  ⟨rfl, fun _ _ _ => rfl, fun _ _ _ => rfl, fun _ _ h => h⟩

end Site

------------------------------------------------------------
-- Git
------------------------------------------------------------

/-
  The commands of git that destroy, asked in a repository:
  `git worktree remove`, with force or without, and
  `git update-ref -d` for a ref at a commit. Each has answers
  and the states it may leave with them.
-/
structure Git where
  worktreeRemove (s : Site) (repo path : String)
    (force ok : Bool) (t : Site) : Prop
  updateRefDelete (s : Site) (repo ref oid : String)
    (ok : Bool) (t : Site) : Prop

namespace Git

/-
  A removal works in its directory. Without force it refuses
  the content that it sees. A ref goes from the commit that
  was named, and a symbolic one is followed.
-/
structure Documented (tool : Git) : Prop where
  removes : ∀ s repo path force ok t,
    tool.worktreeRemove s repo path force ok t →
    s.OnlyAt path t
  refuses : ∀ s repo path ok t,
    tool.worktreeRemove s repo path false ok t →
    s.ShowsContent path → t = s
  deletes : ∀ s repo ref oid ok t,
    tool.updateRefDelete s repo ref oid ok t → t ≠ s →
    s.refs repo ref = some oid ∧
      s.RefGone repo ((s.symbolic repo ref).getD ref) t

/-
  The deletion of a branch at a commit. Anything but the full
  name of a branch and the text of a commit is not handed to
  git.
-/
inductive BranchDeleteOid
    (tool : Git) (s : Site) (repo branch oid : String) :
    Bool → Site → Prop where
| asked (ok : Bool) (t : Site)
    (hName : branch ≠ "")
    (hOid : isOid oid = true)
    (hGit :
      tool.updateRefDelete s repo (branchRef branch) oid ok t) :
    BranchDeleteOid tool s repo branch oid ok t
| invalid
    (hInvalid : branch = "" ∨ isOid oid = false) :
    BranchDeleteOid tool s repo branch oid false s

section Commands

variable {tool : Git} {s t : Site}
variable {repo path branch oid : String} {force ok : Bool}

/- A branch that is no symbolic ref goes itself. -/
theorem Documented.swapped
    (hTool : tool.Documented)
    (hDelete : tool.BranchDeleteOid s repo branch oid ok t)
    (hChanged : t ≠ s)
    (hDirect : s.symbolic repo (branchRef branch) = none) :
    s.refs repo (branchRef branch) = some oid ∧
      s.RefGone repo (branchRef branch) t := by
  cases hDelete with
  | asked _ _ hName hOid hGit =>
      have hGone := hTool.deletes _ _ _ _ _ _ hGit hChanged
      rwa [hDirect] at hGone
  | invalid => exact absurd rfl hChanged

end Commands

end Git

------------------------------------------------------------
-- A Git That Does All or Nothing
------------------------------------------------------------

namespace Site

/- A checkout gone, and off the list of its repository. -/
def withoutCheckout (s : Site) (repo path : String) : Site :=
  { s with
    entries := fun q =>
      if Within path q then none else s.entries q
    texts := fun q => if Within path q then none else s.texts q
    resolves := fun q =>
      if Within path q then none
      else
        (s.resolves q).filter (fun target =>
          ¬ Within ((s.resolves path).getD path) target)
    trees := fun q =>
      if Within path q then ⟨false, false, false, none⟩
      else s.trees q
    worktrees := fun r =>
      if r = repo then
        (s.worktrees repo).filter (fun row =>
          !s.pathsEquivalent row.path path)
      else s.worktrees r }

/- A ref gone, with those that lead to it. -/
def withoutRef (s : Site) (repo ref : String) : Site :=
  { s with
    refs := fun r name =>
      if s.common r = s.common repo ∧
          (name = ref ∨ s.symbolic r name = some ref) then none
      else s.refs r name }

theorem onlyAt_withoutCheckout
    (s : Site) (repo path : String) :
    s.OnlyAt path (s.withoutCheckout repo path) where
  refs := rfl
  entries := fun _ hOutside _ =>
    if_neg (fun hWithin => hOutside (.inl hWithin))
  texts := fun _ hOutside _ =>
    if_neg (fun hWithin => hOutside (.inl hWithin))
  rows := by
    intro r row hMem
    unfold withoutCheckout at hMem
    dsimp only at hMem
    split at hMem
    next hSame =>
      rw [hSame]
      exact List.mem_of_mem_filter hMem
    next => exact hMem

theorem refGone_withoutRef (s : Site) (repo ref : String) :
    s.RefGone repo ref (s.withoutRef repo ref) where
  gone := if_pos ⟨rfl, .inl rfl⟩
  others := by
    intro r name hOther
    apply if_neg
    rintro ⟨hRepo, hName⟩
    rcases hOther with hElsewhere | ⟨hNot, hStray⟩
    · exact hElsewhere hRepo
    · exact hName.elim hNot hStray
  entries := fun _ _ => rfl
  texts := fun _ _ => rfl
  rows := fun _ _ hMem => hMem

end Site

namespace Git

/- Each command does all of its work, or leaves all alone. -/
def direct : Git where
  worktreeRemove s repo path force ok t :=
    if ok = true then
      (force = true ∨ ¬ s.ShowsContent path) ∧
        t = s.withoutCheckout repo path
    else t = s
  updateRefDelete s repo ref oid ok t :=
    if ok = true then
      s.refs repo ref = some oid ∧
        t = s.withoutRef repo ((s.symbolic repo ref).getD ref)
    else t = s

theorem direct_removes
    {s : Site} {repo path : String} {force : Bool}
    (hFree : force = true ∨ ¬ s.ShowsContent path) :
    direct.worktreeRemove s repo path force true
      (s.withoutCheckout repo path) := by
  simp [direct, hFree]

theorem direct_deletes
    {s : Site} {repo ref oid : String}
    (hAt : s.refs repo ref = some oid) :
    direct.updateRefDelete s repo ref oid true
      (s.withoutRef repo
        ((s.symbolic repo ref).getD ref)) := by
  simp [direct, hAt]

theorem documented_direct : direct.Documented where
  removes := by
    intro s repo path force ok t hRemove
    unfold direct at hRemove
    dsimp only at hRemove
    split at hRemove
    next =>
      rw [hRemove.2]
      exact s.onlyAt_withoutCheckout repo path
    next =>
      rw [hRemove]
      exact .refl s path
  refuses := by
    intro s repo path ok t hRemove hShows
    unfold direct at hRemove
    dsimp only at hRemove
    split at hRemove
    next =>
      rcases hRemove.1 with hForce | hFree
      · cases hForce
      · exact absurd hShows hFree
    next => exact hRemove
  deletes := by
    intro s repo ref oid ok t hDelete hChanged
    unfold direct at hDelete
    dsimp only at hDelete
    split at hDelete
    next =>
      rw [hDelete.2]
      exact ⟨hDelete.1, s.refGone_withoutRef repo _⟩
    next => exact absurd hDelete hChanged

end Git

end Checkouts
