import Taskfleet.Boot
import Taskfleet.Cleanup

/-
  Which commits a repository loses by the teardown of a node.

  The guards look at a checkout through its directory. A head
  that is found is let go only if the recorded source reaches
  it; a head whose directory is gone is not looked at.

  Main declarations:
    * `CleanupWorld.Faithful`, `LosesNothing`, `TeardownKeeps`
    * `CleanupStrands`, `ResidentStrands`
    * `cleanup_cases`, `teardown_keeps_iff`
    * `not_teardown_keeps`
-/

------------------------------------------------------------
-- What Git Promises
------------------------------------------------------------

namespace Taskfleet

open CommitGraph Fallible

section Loss

variable {C : Type} {world : CleanupWorld}
variable {m : Option Manifest} {n : Node}
variable {g : Repo C} {named : String → Option C}
variable {repo path : String} {h : C}

/-
  What the answers of git mean, where it answers. A revision
  names a commit through `named`; a removal without force
  refuses a dirty tree, and a deletion without force a branch
  that nothing else reaches.
-/
structure CleanupWorld.Faithful
    (world : CleanupWorld)
    (n : Node)
    (g : Repo C)
    (named : String → Option C) : Prop where
  count : ∀ repo lower upper k,
    world.revListCount repo lower upper = some k →
    ∃ a b, named lower = some a ∧ named upper = some b ∧
      (g.ahead a b).encard = k
  headOid : ∀ path head oid,
    g.checkouts path = some head →
    world.headOid path = some oid →
    ∃ c, g.headCommit head = some c ∧ named oid = some c
  headBranch : ∀ path head branch,
    g.checkouts path = some head →
    world.headBranch path = some branch →
    head = .on branch
  refusesDirty : ∀ repo path,
    (world.removal repo path false).drops = true ∨
      (world.removal repo path false).deletes = true →
    g.trees path ≠ some false
  refusesUnmerged : ∀ repo path branch,
    n.worktreePath = some path →
    world.branchDelete repo branch false = none →
    ((world.removal repo path false).apply path g).Mergeable
      branch

/- The commits of a node: those of its branch and its head. -/
inductive NodeCommit (n : Node) (g : Repo C) (c : C) : Prop where
| branch (branch : String) (tip : C)
    (hBranch : n.branch = some branch)
    (hTip : g.refs (branchRef branch) = some tip)
    (hReaches : g.Reaches tip c) : NodeCommit n g c
| head (path : String) (head : Head C) (tip : C)
    (hPath : n.worktreePath = some path)
    (hHead : g.checkouts path = some head)
    (hTip : g.headCommit head = some tip)
    (hReaches : g.Reaches tip c) : NodeCommit n g c

def LosesNothing (n : Node) (g g' : Repo C) : Prop :=
  ∀ c, NodeCommit n g c → g'.Held c

/-
  What a teardown without a merge promises: no dirty tree is
  removed, no commit of the node is lost, and work that is to
  be preserved is left alone.
-/
structure TeardownKeeps (n : Node) (g g' : Repo C) : Prop where
  clean : ∀ path, n.worktreePath = some path →
    g'.checkouts path ≠ g.checkouts path ∨
      g'.trees path ≠ g.trees path →
    g.trees path ≠ some false
  commits : LosesNothing n g g'
  preserved : teardownOf n = .preserveWork → g' = g

/- The recorded source reaches a commit. -/
def InSource
    (m : Option Manifest)
    (named : String → Option C)
    (g : Repo C)
    (c : C) : Prop :=
  ∃ source s, manifestSourceBranch m = some source ∧
    named source = some s ∧ g.Reaches s c

/- A teardown that comes to the removal. -/
structure CleanupRemoves
    (world : CleanupWorld)
    (m : Option Manifest)
    (n : Node)
    (path : String) : Prop where
  recorded : n.worktreePath = some path
  display : retentionVetoes world m = false
  policy : teardownOf n = .sourceRelative
  branch :
    branchGuard world (cleanupRepo world m path) n.branch
      (manifestSourceBranch m) = none
  tree : treeGuard world path = none
  head :
    headGuard world (cleanupRepo world m path) path n.branch
      (manifestSourceBranch m) = none

/-
  A removal that loses a detached head which nothing else
  holds: its directory is gone and it is not asked for, or it
  is in a source that nothing holds either.
-/
structure CleanupStrands
    (world : CleanupWorld)
    (m : Option Manifest)
    (n : Node)
    (g : Repo C)
    (named : String → Option C)
    (path : String)
    (h : C) : Prop where
  removes : CleanupRemoves world m n path
  drops :
    (world.removal (cleanupRepo world m path) path
      false).drops = true
  alone : g.Alone path h
  unseen : world.pathExists path = false ∨ InSource m named g h

structure ResidentStrands
    (world : CleanupWorld)
    (m : Option Manifest)
    (n : Node)
    (g : Repo C)
    (named : String → Option C)
    (repo path : String)
    (h : C) : Prop where
  guard : residentGuard world m n = .ok (repo, path)
  drops : (world.removal repo path false).drops = true
  alone : g.Alone path h
  covered : InSource m named g h

------------------------------------------------------------
-- Guards and Heads
------------------------------------------------------------

theorem HeadReach.teardown_kept
    {reach : HeadReach} {a b c : String}
    (hKept : ∀ reason, reach.teardown a b c ≠ .preserve reason) :
    reach = .inSource := by
  cases reach with
  | inSource => rfl
  | notInSource => exact absurd rfl (hKept a)
  | unverifiable => exact absurd rfl (hKept b)
  | noSource => exact absurd rfl (hKept c)

/- A head found in the source is reached by it. -/
theorem reaches_of_inSource
    {source : Option String} {oid : String}
    (hFaithful : world.Faithful n g named)
    (hNamed : named oid = some h)
    (hReach :
      headReachFromSource world repo source oid = .inSource) :
    ∃ src s, source = some src ∧ named src = some s ∧
      g.Reaches s h := by
  unfold headReachFromSource at hReach
  cases source with
  | none => cases hReach
  | some src =>
      dsimp only at hReach
      split at hReach
      next hCount =>
        unfold CleanupWorld.revListCountOf at hCount
        split at hCount
        · cases hCount
        rcases hFaithful.count _ _ _ _ hCount with
          ⟨a, b, hSource, hUpper, hEmpty⟩
        rw [hNamed, Option.some.injEq] at hUpper
        subst hUpper
        exact ⟨src, a, rfl, hSource,
          Repo.reaches_of_ahead_empty hEmpty⟩
      · cases hReach
      · cases hReach

/- A detached head that is let go is in the source. -/
theorem inSource_of_safe
    {recorded source : Option String}
    (hFaithful : world.Faithful n g named)
    (hHead : g.checkouts path = some (.detached h))
    (hSafe : ∀ reason,
      headTeardownSafety world repo path recorded source ≠
        .preserve reason) :
    ∃ src s, source = some src ∧ named src = some s ∧
      g.Reaches s h := by
  unfold headTeardownSafety at hSafe
  cases hOid : world.headOid path with
  | none =>
      rw [hOid] at hSafe
      exact absurd rfl (hSafe _)
  | some oid =>
      rw [hOid] at hSafe
      dsimp only at hSafe
      rcases hFaithful.headOid path _ oid hHead hOid with
        ⟨c, hCommit, hNamed⟩
      obtain rfl : h = c := Option.some.inj hCommit
      cases hBranch : world.headBranch path with
      | some b =>
          cases hFaithful.headBranch path _ b hHead hBranch
      | none =>
          rw [hBranch] at hSafe
          exact reaches_of_inSource hFaithful hNamed
            (HeadReach.teardown_kept hSafe)

theorem safe_of_headGuard
    {branch source : Option String}
    (hExists : world.pathExists path = true)
    (hGuard : headGuard world repo path branch source = none)
    (reason : String) :
    headTeardownSafety world repo path
      (branch.filter (fun s => s ≠ "")) source ≠
        .preserve reason := by
  intro hPreserve
  unfold headGuard at hGuard
  rw [if_pos hExists, hPreserve] at hGuard
  cases hGuard

/- What comes to the removal is unseen or in the source. -/
theorem CleanupRemoves.unseen
    (hFaithful : world.Faithful n g named)
    (hRemoves : CleanupRemoves world m n path)
    (hHead : g.checkouts path = some (.detached h)) :
    world.pathExists path = false ∨ InSource m named g h := by
  cases hExists : world.pathExists path with
  | false => exact .inl rfl
  | true =>
      exact .inr
        (inSource_of_safe hFaithful hHead
          (safe_of_headGuard hExists hRemoves.head))

theorem HeadTeardown.refuse_ok
    {head : HeadTeardown} {reason : String}
    (hOk : head.refuse = .ok ()) : head ≠ .preserve reason := by
  intro hPreserve
  rw [hPreserve] at hOk
  cases hOk

theorem residentGuard_path
    (hGuard : residentGuard world m n = .ok (repo, path)) :
    n.worktreePath = some path := by
  simp only [residentGuard, bind_eq_ok, orError_eq_ok, pure_eq,
    Except.ok.injEq, Prod.mk.injEq] at hGuard
  rcases hGuard with
    ⟨p, hPath, _, _, _, _, _, _, _, _, _, _, _, _, _, _, _, _,
      _, _, _, rfl⟩
  exact hPath

theorem residentGuard_inSource
    (hFaithful : world.Faithful n g named)
    (hGuard : residentGuard world m n = .ok (repo, path))
    (hHead : g.checkouts path = some (.detached h)) :
    InSource m named g h := by
  simp only [residentGuard, bind_eq_ok, orError_eq_ok, pure_eq,
    Except.ok.injEq, Prod.mk.injEq] at hGuard
  rcases hGuard with
    ⟨p, _, _, _, branch, _, source, hSource, r, _, _, _, _, _,
      _, _, _, hSafe, _, _, rfl, rfl⟩
  rcases inSource_of_safe hFaithful hHead
    (fun _ => HeadTeardown.refuse_ok hSafe) with
    ⟨src, s, hSrc, hNamed, hReaches⟩
  rw [Option.some.injEq] at hSrc
  subst hSrc
  exact ⟨source, s, hSource, hNamed, hReaches⟩

------------------------------------------------------------
-- Losses
------------------------------------------------------------

theorem Removal.apply_refs
    (r : Removal) (path : String) (g : Repo C) :
    (r.apply path g).refs = g.refs := by
  unfold Removal.apply
  dsimp only
  split <;> split <;> rfl

theorem Removal.apply_reaches
    (r : Removal) (path : String) (g : Repo C) :
    (r.apply path g).Reaches = g.Reaches := by
  unfold Removal.apply
  dsimp only
  split <;> split <;> rfl

/- A removal keeps what is held without the checkout. -/
theorem Removal.held_apply
    {r : Removal} {c : C}
    (hHeld : (g.dropCheckout path).Held c) :
    (r.apply path g).Held c := by
  have hDropped :
      (if r.drops then g.dropCheckout path else g).Held c := by
    split
    · exact hHeld
    · exact Repo.held_of_dropCheckout hHeld
  unfold Removal.apply
  dsimp only
  split
  · exact Repo.held_removeTree.mpr hDropped
  · exact hDropped

theorem Removal.held_of_apply
    {r : Removal} {c : C}
    (hDrops : r.drops = true)
    (hHeld : (r.apply path g).Held c) :
    (g.dropCheckout path).Held c := by
  unfold Removal.apply at hHeld
  rw [hDrops] at hHeld
  dsimp only at hHeld
  split at hHeld
  · exact Repo.held_removeTree.mp hHeld
  · exact hHeld

theorem Removal.held_kept
    {r : Removal} {c : C}
    (hKeeps : r.drops = false)
    (hHeld : g.Held c) : (r.apply path g).Held c := by
  unfold Removal.apply
  rw [hKeeps]
  dsimp only
  split
  · exact Repo.held_removeTree.mpr hHeld
  · exact hHeld

/- A removal loses a commit of the node only as its head. -/
theorem Removal.losesNothing
    {r : Removal}
    (hPath : n.worktreePath = some path)
    (hHead : ∀ h, r.drops = true → ¬ g.Alone path h) :
    LosesNothing n g (r.apply path g) := by
  intro c hCommit
  have hReaches := r.apply_reaches path g
  have hRefs : ∀ ref tip, g.refs ref = some tip →
      g.Reaches tip c → (r.apply path g).Held c := by
    intro ref tip hRef hTip
    apply Repo.Held.ref ref tip
    · rw [r.apply_refs path g]
      exact hRef
    · rw [hReaches]
      exact hTip
  cases hCommit with
  | branch branch tip _ hTip hDown =>
      exact hRefs _ tip hTip hDown
  | head path' head tip hPath' hCheckout hTip hDown =>
      obtain rfl : path = path' := by
        rw [hPath] at hPath'
        exact Option.some.inj hPath'
      cases head with
      | on branch => exact hRefs _ tip hTip hDown
      | unreadable => cases hTip
      | detached h =>
          obtain rfl : h = tip := Option.some.inj hTip
          cases hDrops : r.drops with
          | false =>
              exact Removal.held_kept hDrops
                (.head path _ h hCheckout rfl hDown)
          | true =>
              have hElse : (g.dropCheckout path).Held h := by
                by_contra hAlone
                exact hHead h hDrops ⟨hCheckout, hAlone⟩
              exact Removal.held_apply (hElse.down hDown)

/- What a removal without force leaves, with the branch. -/
inductive Removed
    (world : CleanupWorld)
    (n : Node)
    (repo path : String)
    (g : Repo C) : Repo C → Prop where
| kept :
    Removed world n repo path g
      ((world.removal repo path false).apply path g)
| deleted (branch : String)
    (hBranch : n.branch = some branch)
    (hDeleted : world.branchDelete repo branch false = none) :
    Removed world n repo path g
      (((world.removal repo path false).apply path g).deleteRef
        (branchRef branch))

theorem removed_of_removeCheckout
    (env : RunEnv) (world : CleanupWorld) (now : Time)
    (n : Node) (repo path : String) (g : Repo C) :
    Removed world n repo path g
      (removeCheckout env world now n repo path false g).1 := by
  unfold removeCheckout
  dsimp only
  rw [if_neg (by simp)]
  split
  · exact .kept
  unfold deleteBranch
  cases hBranch : n.branch with
  | none => exact .kept
  | some branch =>
      dsimp only
      cases hDeleted : world.branchDelete repo branch false with
      | none => exact .deleted branch hBranch hDeleted
      | some detail => exact .kept

theorem sourceRelativeGuard_eq_none
    {branch source : Option String} :
    sourceRelativeGuard world repo path branch source = none ↔
      (branchGuard world repo branch source = none ∧
        treeGuard world path = none) ∧
      headGuard world repo path branch source = none := by
  unfold sourceRelativeGuard
  rw [Option.or_eq_none_iff, Option.or_eq_none_iff]

theorem teardownOf_ne_full
    (hNotMerge : TerminalOutcome.classify n ≠ some .merged) :
    teardownOf n ≠ .full := by
  unfold teardownOf
  cases hOutcome : TerminalOutcome.classify n with
  | none => simp
  | some outcome =>
      intro hFull
      have hMerged := teardown_eq_full.mp hFull
      rw [hMerged] at hOutcome
      exact hNotMerge hOutcome

/- A teardown without a merge keeps all or comes to remove. -/
theorem cleanup_cases
    (env : RunEnv) (now : Time) (g : Repo C)
    (hNotMerge : TerminalOutcome.classify n ≠ some .merged) :
    ((∀ path, ¬ CleanupRemoves world m n path) ∧
        (cleanupNodeAfterEvidence env world now m n g).1 = g) ∨
      ∃ path, CleanupRemoves world m n path ∧
        Removed world n (cleanupRepo world m path) path g
          (cleanupNodeAfterEvidence env world now m n g).1 := by
  have hOther :
      ¬ (TerminalOutcome.classify n).any
        TerminalOutcome.isExplicitMerge = true := by
    intro hMerge
    cases hOutcome : TerminalOutcome.classify n with
    | none =>
        rw [hOutcome] at hMerge
        cases hMerge
    | some outcome =>
        rw [hOutcome] at hMerge hNotMerge
        cases outcome with
        | merged => exact hNotMerge rfl
        | blocked => cases hMerge
        | failed => cases hMerge
        | cancelled => cases hMerge
        | plainSuccess => cases hMerge
  unfold cleanupNodeAfterEvidence
  cases hVeto : retentionVetoes world m with
  | true =>
      left
      constructor
      · intro path hRemoves
        rw [hRemoves.display] at hVeto
        cases hVeto
      · rfl
  | false =>
      cases hPath : n.worktreePath with
      | none =>
          left
          constructor
          · intro path hRemoves
            rw [hRemoves.recorded] at hPath
            cases hPath
          · rfl
      | some path =>
          dsimp only
          rw [if_neg (by simp)]
          by_cases hPreserve : teardownOf n = .preserveWork
          · rw [if_pos hPreserve]
            left
            constructor
            · intro path hRemoves
              rw [hRemoves.policy] at hPreserve
              cases hPreserve
            · rfl
          · have hPolicy : teardownOf n = .sourceRelative := by
              cases hTeardown : teardownOf n with
              | full =>
                  exact absurd hTeardown
                    (teardownOf_ne_full hNotMerge)
              | preserveWork => exact absurd hTeardown hPreserve
              | sourceRelative => rfl
            rw [if_neg hPreserve, if_neg hOther]
            cases hGuard :
                sourceRelativeGuard world
                  (cleanupRepo world m path) path n.branch
                  (manifestSourceBranch m) with
            | some reason =>
                left
                constructor
                · intro path' hRemoves
                  obtain rfl : path = path' := by
                    have hSame := hRemoves.recorded
                    rw [hPath] at hSame
                    exact Option.some.inj hSame
                  have hNone :=
                    sourceRelativeGuard_eq_none.mpr
                      ⟨⟨hRemoves.branch, hRemoves.tree⟩,
                        hRemoves.head⟩
                  rw [hGuard] at hNone
                  cases hNone
                · rfl
            | none =>
                rcases sourceRelativeGuard_eq_none.mp hGuard with
                  ⟨⟨hBranch, hTree⟩, hHead⟩
                right
                exact ⟨path,
                  ⟨hPath, hVeto, hPolicy, hBranch, hTree, hHead⟩,
                  removed_of_removeCheckout env world now n _
                    path g⟩

theorem held_of_nodeCommit
    {c : C} (hCommit : NodeCommit n g c) : g.Held c := by
  cases hCommit with
  | branch branch tip _ hTip hDown =>
      exact .ref _ tip hTip hDown
  | head path head tip _ hHead hTip hDown =>
      exact .head path head tip hHead hTip hDown

theorem Removed.losesNothing
    {g' : Repo C}
    (hFaithful : world.Faithful n g named)
    (hRemoved : Removed world n repo path g g')
    (hPath : n.worktreePath = some path)
    (hHead : ∀ h,
      (world.removal repo path false).drops = true →
      ¬ g.Alone path h) :
    LosesNothing n g g' := by
  have hRemoval := Removal.losesNothing hPath hHead
  cases hRemoved with
  | kept => exact hRemoval
  | deleted branch _ hDeleted =>
      intro c hCommit
      exact (hRemoval c hCommit).deleteRef
        (hFaithful.refusesUnmerged repo path branch hPath
          hDeleted)

theorem Removed.loses
    {g' : Repo C}
    (hRemoved : Removed world n repo path g g')
    (hPath : n.worktreePath = some path)
    (hDrops : (world.removal repo path false).drops = true)
    (hAlone : g.Alone path h) :
    ¬ LosesNothing n g g' := by
  intro hKept
  have hHeld : g'.Held h :=
    hKept h (.head path _ h hPath hAlone.1 rfl .refl)
  apply hAlone.2
  apply Removal.held_of_apply hDrops
  cases hRemoved with
  | kept => exact hHeld
  | deleted branch _ _ => exact Repo.held_of_deleteRef hHeld

/- Only a tree that is not dirty is removed. -/
theorem Removed.clean
    {g' : Repo C}
    (hFaithful : world.Faithful n g named)
    (hRemoved : Removed world n repo path g g')
    (hChanged : g'.checkouts path ≠ g.checkouts path ∨
      g'.trees path ≠ g.trees path) :
    g.trees path ≠ some false := by
  apply hFaithful.refusesDirty repo path
  generalize hRemoval : world.removal repo path false = r
    at hRemoved
  have hSame : ∀ g₁ : Repo C,
      g₁.checkouts = (r.apply path g).checkouts →
      g₁.trees = (r.apply path g).trees →
      g₁.checkouts path ≠ g.checkouts path ∨
        g₁.trees path ≠ g.trees path →
      r.drops = true ∨ r.deletes = true := by
    intro g₁ hCheckouts hTrees hDiffers
    by_contra hNone
    rw [not_or, Bool.not_eq_true, Bool.not_eq_true] at hNone
    have hStill : r.apply path g = g := by
      unfold Removal.apply
      rw [hNone.1, hNone.2]
      rfl
    rw [hCheckouts, hTrees, hStill] at hDiffers
    rcases hDiffers with hDiffers | hDiffers
    · exact hDiffers rfl
    · exact hDiffers rfl
  cases hRemoved with
  | kept =>
      rw [hRemoval] at hChanged
      exact hSame _ rfl rfl hChanged
  | deleted branch _ _ =>
      rw [hRemoval] at hChanged
      exact hSame _ rfl rfl hChanged

theorem cleanup_keeps_iff
    (env : RunEnv) (now : Time)
    (hFaithful : world.Faithful n g named)
    (hNotMerge : TerminalOutcome.classify n ≠ some .merged) :
    TeardownKeeps n g
        (cleanupNodeAfterEvidence env world now m n g).1 ↔
      ∀ path h, ¬ CleanupStrands world m n g named path h := by
  rcases cleanup_cases env now g hNotMerge with
    ⟨hNever, hSame⟩ | ⟨path, hRemoves, hRemoved⟩
  · rw [hSame]
    constructor
    · intro _ path h hStrands
      exact hNever path hStrands.removes
    · intro _
      constructor
      · intro path _ hChanged
        rcases hChanged with hChanged | hChanged
        · exact absurd rfl hChanged
        · exact absurd rfl hChanged
      · intro c hCommit
        exact held_of_nodeCommit hCommit
      · intro _
        rfl
  · constructor
    · intro hKeeps path' h hStrands
      obtain rfl : path = path' := by
        have hOther := hStrands.removes.recorded
        rw [hRemoves.recorded] at hOther
        exact Option.some.inj hOther
      exact hRemoved.loses hRemoves.recorded hStrands.drops
        hStrands.alone hKeeps.commits
    · intro hNever
      constructor
      · intro path' hPath hChanged
        obtain rfl : path = path' := by
          rw [hRemoves.recorded] at hPath
          exact Option.some.inj hPath
        exact hRemoved.clean hFaithful hChanged
      · apply hRemoved.losesNothing hFaithful hRemoves.recorded
        intro h hDrops hAlone
        exact hNever path h
          ⟨hRemoves, hDrops, hAlone,
            hRemoves.unseen hFaithful hAlone.1⟩
      · intro hPreserve
        rw [hRemoves.policy] at hPreserve
        cases hPreserve

theorem resident_keeps_iff
    (hFaithful : world.Faithful n g named) :
    LosesNothing n g (removeLandedResidentWorktree world m n g).1 ↔
      ∀ repo path h,
        ¬ ResidentStrands world m n g named repo path h := by
  unfold removeLandedResidentWorktree
  cases hGuard : residentGuard world m n with
  | error reason =>
      constructor
      · intro _ repo path h hStrands
        rw [hStrands.guard] at hGuard
        cases hGuard
      · intro _ c hCommit
        exact held_of_nodeCommit hCommit
  | ok found =>
      rcases found with ⟨repo, path⟩
      have hPath := residentGuard_path hGuard
      have hRemoved :
          Removed world n repo path g
            ((world.removal repo path false).apply path g) :=
        .kept
      constructor
      · intro hKept repo' path' h hStrands
        have hSame := hStrands.guard
        rw [hGuard, Except.ok.injEq, Prod.mk.injEq] at hSame
        rcases hSame with ⟨rfl, rfl⟩
        exact hRemoved.loses hPath hStrands.drops
          hStrands.alone hKept
      · intro hNever
        apply hRemoved.losesNothing hFaithful hPath
        intro h hDrops hAlone
        exact hNever repo path h
          ⟨hGuard, hDrops, hAlone,
            residentGuard_inSource hFaithful hGuard hAlone.1⟩

/- A source that is held strands only what is not seen. -/
theorem CleanupStrands.vanished
    (hStrands : CleanupStrands world m n g named path h)
    (hSource : ∀ source s, manifestSourceBranch m = some source →
      named source = some s → (g.dropCheckout path).Held s) :
    world.pathExists path = false := by
  rcases hStrands.unseen with hGone | ⟨source, s, hRecorded,
    hNamed, hReaches⟩
  · exact hGone
  · have hHeld :=
      (hSource source s hRecorded hNamed).down hReaches
    exact absurd hHeld hStrands.alone.2

/-
  A teardown without a merge loses nothing, and neither does
  the expiry of a resident, except where they strand a head.
-/
theorem teardown_keeps_iff
    (env : RunEnv) (world : CleanupWorld) (now : Time)
    (m : Option Manifest) (n : Node) (g : Repo C)
    (named : String → Option C)
    (hFaithful : world.Faithful n g named)
    (hNotMerge : TerminalOutcome.classify n ≠ some .merged) :
    TeardownKeeps n g
          (cleanupNodeAfterEvidence env world now m n g).1 ∧
        LosesNothing n g
          (removeLandedResidentWorktree world m n g).1 ↔
      (∀ path h, ¬ CleanupStrands world m n g named path h) ∧
        ∀ repo path h,
          ¬ ResidentStrands world m n g named repo path h := by
  rw [cleanup_keeps_iff env now hFaithful hNotMerge,
    resident_keeps_iff hFaithful]

end Loss

namespace Sample

/- A cancelled node with a checkout. -/
def cancelledRun : Disk :=
  after
    [.append (request .runCreated none
        (.obj
          [("kind", .str "spinoff"),
            ("lifecycle", .str "autonomous"),
            ("source_branch", .str "main"),
            ("source_repo", .str "/r"), ("title", .str "t")])),
      .append (request .nodeCreated (some .first)
        (.obj
          [("branch", .str "work"), ("kind", .str "spinoff"),
            ("worktree_path", .str "/w")])),
      .append (request .nodeReport (some .first)
        (.obj
          [("cancelled", .bool true),
            ("success", .bool false)]))]

/-
  Two commits, the second on the first. Both branches are at
  the first one; the node's checkout and directory are given.
-/
def twoCommits (head : Head Nat) (tree : Option Bool) :
    Repo Nat where
  parents := fun c => if c = 1 then [0] else []
  refs := fun r =>
    if r = branchRef "main" ∨ r = branchRef "work" then some 0
    else none
  checkouts := fun path =>
    if path = "/r" then some (.on "main")
    else if path = "/w" then some head
    else none
  trees := fun path =>
    if path = "/w" then tree else some true

def revisions (rev : String) : Option Nat :=
  if rev = "main" ∨ rev = "work" ∨ rev = "0" then some 0
  else none

/- Git, with the directory of the checkout there or gone. -/
def teardownWorld (seen : Bool) : CleanupWorld where
  mainWorktree := fun _ => none
  revListCount := fun _ lower upper =>
    if lower = "main" ∧ upper = "work" then some 0 else none
  pathExists := fun _ => seen
  statusClean := fun _ => if seen then some true else none
  headOid := fun path =>
    if seen ∧ path = "/w" then some "0" else none
  headBranch := fun path =>
    if seen ∧ path = "/w" then some "work" else none
  removal := fun _ path _ =>
    if path = "/w" then ⟨true, true, true⟩
    else ⟨false, false, false⟩
  branchDelete := fun _ branch _ =>
    if branch = "work" then none else some "error"
  orphanIdentified := fun _ _ => false
  orphanRemoved := fun _ _ => false
  retention := .notApplicable
  rebaseInProgress := fun _ => false
  paneSaved := true

theorem ahead_self (g : Repo Nat) (c : Nat) :
    (g.ahead c c).encard = (0 : Nat) := by
  have hEmpty : g.ahead c c = ∅ := by
    ext d
    constructor
    · intro hMem
      exact absurd hMem.1 hMem.2
    · intro hMem
      cases hMem
  rw [hEmpty, Set.encard_empty]
  rfl

theorem faithful_teardownWorld
    {n : Node} {seen : Bool} {head : Head Nat}
    {tree : Option Bool}
    (hPath : n.worktreePath = some "/w")
    (hSeen : seen = true → head = .on "work")
    (hTree : tree ≠ some false) :
    (teardownWorld seen).Faithful n (twoCommits head tree)
      revisions := by
  constructor
  · intro repo lower upper k hCount
    simp only [teardownWorld, Option.ite_none_right_eq_some,
      Option.some.injEq] at hCount
    rcases hCount with ⟨⟨rfl, rfl⟩, rfl⟩
    exact ⟨0, 0, rfl, rfl, ahead_self _ 0⟩
  · intro path head' oid hHead hOid
    simp only [teardownWorld, Option.ite_none_right_eq_some,
      Option.some.injEq] at hOid
    rcases hOid with ⟨⟨hTrue, rfl⟩, rfl⟩
    obtain rfl : head = head' := Option.some.inj hHead
    rw [hSeen hTrue]
    exact ⟨0, rfl, rfl⟩
  · intro path head' branch hHead hBranch
    simp only [teardownWorld, Option.ite_none_right_eq_some,
      Option.some.injEq] at hBranch
    rcases hBranch with ⟨⟨hTrue, rfl⟩, rfl⟩
    obtain rfl : head = head' := Option.some.inj hHead
    exact hSeen hTrue
  · intro repo path _
    simp only [twoCommits]
    split
    · exact hTree
    · simp
  · intro repo path branch hRecorded hDeleted
    obtain rfl : "/w" = path := by
      rw [hPath] at hRecorded
      exact Option.some.inj hRecorded
    simp only [teardownWorld, ite_eq_left_iff, reduceCtorEq,
      imp_false, not_not] at hDeleted
    subst hDeleted
    constructor
    · intro p hOn
      change ((twoCommits head tree).dropCheckout
        "/w").checkouts p = _ at hOn
      rw [Repo.dropCheckout_checkouts] at hOn
      simp only [twoCommits] at hOn
      split at hOn
      · cases hOn
      split at hOn
      · simp at hOn
      · simp at hOn
    · exact ⟨0, rfl, .inl ⟨branchRef "main", 0, by decide, rfl,
        .refl⟩⟩

theorem reaches_first
    {g : Repo Nat} {c : Nat}
    (hRoot : g.parents 0 = [])
    (hReaches : g.Reaches 0 c) : c = 0 := by
  rcases Relation.ReflTransGen.cases_head hReaches with
    hSame | ⟨p, hParent, _⟩
  · exact hSame.symm
  · rw [hRoot] at hParent
    cases hParent

/- Only the checkout holds the second commit. -/
theorem alone_second :
    (twoCommits (.detached 1) none).Alone "/w" 1 := by
  have hRefs : ∀ r tip,
      (twoCommits (.detached 1) none).refs r = some tip →
      tip = 0 := by
    intro r tip hRef
    simp only [twoCommits, Option.ite_none_right_eq_some,
      Option.some.injEq] at hRef
    exact hRef.2.symm
  constructor
  · rfl
  intro hHeld
  cases hHeld with
  | ref r tip hRef hReaches =>
      obtain rfl := hRefs r tip hRef
      cases reaches_first rfl hReaches
  | head path head tip hCheckout hTip hReaches =>
      rw [Repo.dropCheckout_checkouts] at hCheckout
      split at hCheckout
      · cases hCheckout
      next hOther =>
        simp only [twoCommits, hOther, if_false] at hCheckout
        split at hCheckout
        · obtain rfl := Option.some.inj hCheckout
          obtain rfl := hRefs (branchRef "main") tip hTip
          cases reaches_first rfl hReaches
        · cases hCheckout

/- The node and the manifest of the cancelled run. -/
theorem exists_cancelled :
    ∃ m n, cancelledRun.manifest = some m ∧
      cancelledRun.nodes.lookup .first = some n ∧
      n.worktreePath = some "/w" ∧ n.branch = some "work" ∧
      TerminalOutcome.classify n = some .cancelled ∧
      retentionVetoes (teardownWorld false) (some m) = false ∧
      cleanupRepo (teardownWorld false) (some m) "/w" = "/r" ∧
      manifestSourceBranch (some m) = some "main" := by
  have hNode :
      (cancelledRun.nodes.lookup .first).map (fun n =>
          (n.worktreePath, n.branch,
            TerminalOutcome.classify n)) =
        some (some "/w", some "work", some .cancelled) := by
    decide +kernel
  have hManifest :
      cancelledRun.manifest.map (fun m =>
          (retentionVetoes (teardownWorld false) (some m),
            cleanupRepo (teardownWorld false) (some m) "/w",
            manifestSourceBranch (some m))) =
        some (false, "/r", some "main") := by
    decide +kernel
  rw [Option.map_eq_some_iff] at hNode hManifest
  rcases hNode with ⟨n, hLookup, hNode⟩
  rcases hManifest with ⟨m, hSome, hManifest⟩
  simp only [Prod.mk.injEq] at hNode hManifest
  exact ⟨m, n, hSome, hLookup, hNode.1, hNode.2.1, hNode.2.2,
    hManifest⟩

end Sample

/- A checkout on its branch is torn down without a loss. -/
theorem cancelled_teardown_keeps :
    ∃ m n, Sample.cancelledRun.manifest = some m ∧
      Sample.cancelledRun.nodes.lookup .first = some n ∧
      TeardownKeeps n (Sample.twoCommits (.on "work") (some true))
        (cleanupNodeAfterEvidence Sample.env
          (Sample.teardownWorld true) 0 (some m) n
          (Sample.twoCommits (.on "work") (some true))).1 ∧
      LosesNothing n (Sample.twoCommits (.on "work") (some true))
        (removeLandedResidentWorktree (Sample.teardownWorld true)
          (some m) n
          (Sample.twoCommits (.on "work") (some true))).1 := by
  rcases Sample.exists_cancelled with
    ⟨m, n, hManifest, hLookup, hPath, _, hOutcome, _⟩
  refine ⟨m, n, hManifest, hLookup, ?_⟩
  have hFaithful :
      (Sample.teardownWorld true).Faithful n
        (Sample.twoCommits (.on "work") (some true))
        Sample.revisions :=
    Sample.faithful_teardownWorld hPath (fun _ => rfl) (by simp)
  have hNotAlone : ∀ h,
      ¬ (Sample.twoCommits (.on "work") (some true)).Alone "/w"
        h := by
    intro h hAlone
    cases hAlone.1
  apply (teardown_keeps_iff Sample.env
    (Sample.teardownWorld true) 0 (some m) n _ _ hFaithful
    (by rw [hOutcome]; simp)).mpr
  constructor
  · intro path h hStrands
    have hSame := hStrands.removes.recorded
    rw [hPath, Option.some.injEq] at hSame
    subst hSame
    exact hNotAlone h hStrands.alone
  · intro repo path h hStrands
    have hSame := residentGuard_path hStrands.guard
    rw [hPath, Option.some.injEq] at hSame
    subst hSame
    exact hNotAlone h hStrands.alone

/- A detached head whose directory is gone is lost. -/
theorem not_teardown_keeps :
    ¬ ∀ (C : Type) (env : RunEnv) (world : CleanupWorld)
        (now : Time) (m : Option Manifest) (n : Node)
        (g : Repo C) (named : String → Option C),
      world.Faithful n g named →
        TerminalOutcome.classify n ≠ some .merged →
        TeardownKeeps n g
          (cleanupNodeAfterEvidence env world now m n g).1 := by
  intro hAlways
  rcases Sample.exists_cancelled with
    ⟨m, n, _, _, hPath, hBranch, hOutcome, hDisplay, hRepo,
      hSource⟩
  have hFaithful :
      (Sample.teardownWorld false).Faithful n
        (Sample.twoCommits (.detached 1) none)
        Sample.revisions :=
    Sample.faithful_teardownWorld hPath (by simp) (by simp)
  have hNotMerge :
      TerminalOutcome.classify n ≠ some .merged := by
    rw [hOutcome]
    simp
  have hKeeps :=
    hAlways Nat Sample.env (Sample.teardownWorld false) 0
      (some m) n _ _ hFaithful hNotMerge
  apply (cleanup_keeps_iff Sample.env 0 hFaithful
    hNotMerge).mp hKeeps "/w" 1
  refine ⟨⟨hPath, hDisplay, ?_, ?_, rfl, rfl⟩, rfl,
    Sample.alone_second, .inl rfl⟩
  · rw [teardownOf, hOutcome]
    rfl
  · rw [hRepo, hBranch, hSource]
    decide

end Taskfleet
