import Taskfleet.TeardownLoss

/-
  What the teardown of a merged node drops.

  The report of a merge is all that is asked for. The removal
  is forced and so is the deletion of the branch, whatever
  the branch and the checkout have come to carry since.

  Main declarations:
    * `MergedWork`, `DropsOnlyMerged`, `MergeDrops`
    * `cleanup_merged`, `drops_only_merged_iff`
    * `merged_teardown`, `not_drops_only_merged`
-/

------------------------------------------------------------
-- Merged Work
------------------------------------------------------------

namespace Taskfleet

open CommitGraph

section Merged

variable {C P : Type} {world : CleanupWorld}
variable {m : Option Manifest} {n : Node}
variable {g g' : Repo C} {merged : C → Prop}
variable {repo path : String}

/- The worker commit that the report of a merge names. -/
def mergedWorker (n : Node) : Option String :=
  match n.lastReport.bind ReportOrigin.fromReport with
  | some (.runMerge _ workerOid _) => workerOid
  | _ => none

/-
  What a merge has brought in: the commits under the worker
  commit of the report, and those whose patch is that of a
  commit of the source.
-/
inductive MergedWork
    (m : Option Manifest)
    (n : Node)
    (named : String → Option C)
    (patchId : C → P)
    (g : Repo C)
    (c : C) : Prop where
| worker (oid : String) (w : C)
    (hWorker : mergedWorker n = some oid)
    (hNamed : named oid = some w)
    (hReaches : g.Reaches w c) : MergedWork m n named patchId g c
| integrated (d : C)
    (hSource : InSource m named g d)
    (hPatch : patchId d = patchId c) :
    MergedWork m n named patchId g c

def BranchCommit (n : Node) (g : Repo C) (c : C) : Prop :=
  ∃ branch tip, n.branch = some branch ∧
    g.refs (branchRef branch) = some tip ∧ g.Reaches tip c

/-
  The branch goes only where all of its commits are merged;
  where one is not, branch and checkout both survive.
-/
structure DropsOnlyMerged
    (n : Node) (merged : C → Prop) (g g' : Repo C) : Prop where
  deleted : ∀ branch, n.branch = some branch →
    g'.refs (branchRef branch) ≠ g.refs (branchRef branch) →
    ∀ c, BranchCommit n g c → merged c
  survives : ∀ c, BranchCommit n g c → ¬ merged c →
    (∀ branch, n.branch = some branch →
      g'.refs (branchRef branch) = g.refs (branchRef branch)) ∧
    ∀ path, n.worktreePath = some path →
      g'.checkouts path = g.checkouts path ∧
        g'.trees path = g.trees path

------------------------------------------------------------
-- Forced Removal
------------------------------------------------------------

/- What the removal leaves is removed as an orphan. -/
def sweepsOrphan
    (world : CleanupWorld) (repo path : String) : Bool :=
  let r := world.removal repo path true
  !r.ok && world.remains r path &&
    world.orphanIdentified repo path &&
    world.orphanRemoved repo path

/- Nothing remains that would keep the branch. -/
def cleared
    (world : CleanupWorld) (repo path : String) : Bool :=
  let r := world.removal repo path true
  r.ok || !world.remains r path || sweepsOrphan world repo path

def takesTree
    (world : CleanupWorld) (repo path : String) : Bool :=
  (world.removal repo path true).deletes ||
    sweepsOrphan world repo path

/- The branch that the teardown has git delete by force. -/
def branchTaken
    (world : CleanupWorld)
    (n : Node)
    (repo path : String) : Option String :=
  n.branch.filter (fun branch =>
    cleared world repo path &&
      (world.branchDelete repo branch true).isNone)

/-
  A teardown that comes to the removal and takes something:
  the registration, the directory or the branch.
-/
def MergeDrops
    (world : CleanupWorld)
    (m : Option Manifest)
    (n : Node)
    (g : Repo C) : Prop :=
  ∃ path, n.worktreePath = some path ∧
    retentionVetoes world m = false ∧
    ((world.removal (cleanupRepo world m path) path
          true).drops = true ∧
        g.checkouts path ≠ none ∨
      takesTree world (cleanupRepo world m path) path = true ∧
        g.trees path ≠ none ∨
      ∃ branch,
        branchTaken world n (cleanupRepo world m path) path =
          some branch ∧
        g.refs (branchRef branch) ≠ none)

/- The repository after the teardown of a merged node. -/
structure MergeRemoved
    (world : CleanupWorld)
    (n : Node)
    (repo path : String)
    (g g' : Repo C) : Prop where
  parents : g'.parents = g.parents
  refs : ∀ r, g'.refs r =
    if (branchTaken world n repo path).map branchRef = some r
      then none
    else g.refs r
  checkouts : ∀ p, g'.checkouts p =
    if (world.removal repo path true).drops = true ∧ p = path
      then none
    else g.checkouts p
  trees : ∀ p, g'.trees p =
    if takesTree world repo path = true ∧ p = path then none
    else g.trees p

theorem branchTaken_eq_some {branch : String} :
    branchTaken world n repo path = some branch ↔
      n.branch = some branch ∧
        cleared world repo path = true ∧
        world.branchDelete repo branch true = none := by
  unfold branchTaken
  rw [Option.filter_eq_some_iff, Bool.and_eq_true,
    Option.isNone_iff_eq_none]

theorem Removal.apply_parents
    (r : Removal) (path : String) (g : Repo C) :
    (r.apply path g).parents = g.parents := by
  unfold Removal.apply
  dsimp only
  split <;> split <;> rfl

theorem Removal.apply_checkouts
    (r : Removal) (path : String) (g : Repo C) (p : String) :
    (r.apply path g).checkouts p =
      if r.drops = true ∧ p = path then none
      else g.checkouts p := by
  have hKept :
      (r.apply path g).checkouts =
        (if r.drops then g.dropCheckout path else g).checkouts := by
    unfold Removal.apply
    dsimp only
    split <;> split <;> rfl
  rw [hKept]
  cases r.drops with
  | false => simp
  | true => simp [Repo.dropCheckout_checkouts]

theorem Removal.apply_trees
    (r : Removal) (path : String) (g : Repo C) (p : String) :
    (r.apply path g).trees p =
      if r.deletes = true ∧ p = path then none
      else g.trees p := by
  have hDropped :
      (if r.drops then g.dropCheckout path else g).trees =
        g.trees := by
    split <;> rfl
  unfold Removal.apply
  dsimp only
  cases r.deletes with
  | false => simp [hDropped]
  | true =>
      simp [Repo.removeTree_trees, hDropped]

/- A branch is deleted where git does not say what is wrong. -/
theorem deleteBranch_merged
    (env : RunEnv) (now : Time) (g : Repo C)
    (hCleared : cleared world repo path = true) :
    (deleteBranch env world now n repo true g).1 =
      match branchTaken world n repo path with
      | none => g
      | some branch => g.deleteRef (branchRef branch) := by
  unfold deleteBranch branchTaken
  rw [hCleared]
  cases n.branch with
  | none => rfl
  | some branch =>
      dsimp only
      cases hDelete : world.branchDelete repo branch true with
      | none => simp [Option.filter, hDelete]
      | some detail => simp [Option.filter, hDelete]

theorem Removal.apply_merged
    (hSweeps : sweepsOrphan world repo path = false)
    (p : String) :
    ((world.removal repo path true).apply path g).trees p =
      if takesTree world repo path = true ∧ p = path then none
      else g.trees p := by
  rw [Removal.apply_trees, takesTree, hSweeps, Bool.or_false]

/- The deletion of the branch after a cleared checkout. -/
theorem mergeRemoved_of_cleared
    {g₁ : Repo C}
    (env : RunEnv) (now : Time)
    (hCleared : cleared world repo path = true)
    (hParents : g₁.parents = g.parents)
    (hRefs : g₁.refs = g.refs)
    (hCheckouts : ∀ p, g₁.checkouts p =
      if (world.removal repo path true).drops = true ∧ p = path
        then none
      else g.checkouts p)
    (hTrees : ∀ p, g₁.trees p =
      if takesTree world repo path = true ∧ p = path then none
      else g.trees p) :
    MergeRemoved world n repo path g
      (deleteBranch env world now n repo true g₁).1 := by
  rw [deleteBranch_merged env now g₁ hCleared]
  cases hTaken : branchTaken world n repo path with
  | none =>
      constructor
      · exact hParents
      · intro r
        simp [hTaken, hRefs]
      · exact hCheckouts
      · exact hTrees
  | some branch =>
      constructor
      · exact hParents
      · intro r
        simp only [hTaken, Option.map_some, Option.some.injEq,
          Repo.deleteRef_refs, hRefs, eq_comm]
      · exact hCheckouts
      · exact hTrees

/- What the teardown of a merged checkout leaves. -/
theorem removeCheckout_merged
    (env : RunEnv) (world : CleanupWorld) (now : Time)
    (n : Node) (repo path : String) (g : Repo C) :
    MergeRemoved world n repo path g
      (removeCheckout env world now n repo path true g).1 := by
  unfold removeCheckout
  dsimp only
  split
  next hRemains =>
    rcases hRemains with ⟨_, hFailed, hRemains⟩
    rw [Bool.not_eq_true] at hFailed
    split
    next hOrphan =>
      have hSweeps : sweepsOrphan world repo path = true := by
        simp [sweepsOrphan, hFailed, hRemains, hOrphan]
      apply mergeRemoved_of_cleared
      · simp [cleared, hSweeps]
      · exact Removal.apply_parents _ path g
      · exact Removal.apply_refs _ path g
      · exact Removal.apply_checkouts _ path g
      · intro p
        rw [takesTree, hSweeps, Bool.or_true]
        rw [Repo.removeTree_trees, Removal.apply_trees]
        by_cases hSame : p = path
        · simp [hSame]
        · simp [hSame]
    next hOrphan =>
      have hSweeps : sweepsOrphan world repo path = false := by
        unfold sweepsOrphan
        rw [Bool.and_assoc, Bool.and_eq_false_iff]
        right
        rw [Bool.eq_false_iff]
        intro hBoth
        exact hOrphan (Bool.and_eq_true_iff.mp hBoth)
      have hKept : branchTaken world n repo path = none := by
        have hStays : cleared world repo path = false := by
          simp [cleared, hFailed, hRemains, hSweeps]
        simp [branchTaken, hStays]
      constructor
      · exact Removal.apply_parents _ path g
      · intro r
        simp [hKept, Removal.apply_refs]
      · exact Removal.apply_checkouts _ path g
      · exact Removal.apply_merged hSweeps
  next hGone =>
    have hNone :
        ¬ (¬ (world.removal repo path true).ok = true ∧
          world.remains (world.removal repo path true) path =
            true) := by
      intro hRemains
      exact hGone ⟨rfl, hRemains⟩
    rw [if_neg hNone]
    have hSweeps : sweepsOrphan world repo path = false := by
      unfold sweepsOrphan
      simp only [not_and, Bool.not_eq_true] at hNone
      cases hOk : (world.removal repo path true).ok with
      | true => simp [hOk]
      | false => simp [hOk, hNone hOk]
    apply mergeRemoved_of_cleared
    · unfold cleared
      simp only [not_and, Bool.not_eq_true] at hNone
      cases hOk : (world.removal repo path true).ok with
      | true => simp [hOk]
      | false => simp [hOk, hNone hOk]
    · exact Removal.apply_parents _ path g
    · exact Removal.apply_refs _ path g
    · exact Removal.apply_checkouts _ path g
    · exact Removal.apply_merged hSweeps

------------------------------------------------------------
-- Teardown of a Merged Node
------------------------------------------------------------

/- A merged node is left alone or comes to the removal. -/
theorem cleanup_merged
    (env : RunEnv) (now : Time) (g : Repo C)
    (hMerged : TerminalOutcome.classify n = some .merged) :
    ((∀ path, n.worktreePath = some path →
          retentionVetoes world m = true) ∧
        (cleanupNodeAfterEvidence env world now m n g).1 = g) ∨
      ∃ path, n.worktreePath = some path ∧
        retentionVetoes world m = false ∧
        MergeRemoved world n (cleanupRepo world m path) path g
          (cleanupNodeAfterEvidence env world now m n g).1 := by
  have hFull : teardownOf n ≠ .preserveWork := by
    rw [teardownOf, hMerged]
    simp [TerminalOutcome.teardown]
  unfold cleanupNodeAfterEvidence
  cases hVeto : retentionVetoes world m with
  | true => exact .inl ⟨fun _ _ => rfl, rfl⟩
  | false =>
      rw [if_neg (by simp)]
      cases hPath : n.worktreePath with
      | none =>
          left
          constructor
          · intro path hRecorded
            cases hRecorded
          · rfl
      | some path =>
          right
          refine ⟨path, rfl, rfl, ?_⟩
          dsimp only
          rw [if_neg hFull, hMerged]
          exact removeCheckout_merged env world now n _ path g

theorem DropsOnlyMerged.refl (n : Node) (g : Repo C) :
    DropsOnlyMerged n merged g g := by
  constructor
  · intro branch _ hChanged
    exact absurd rfl hChanged
  · intro c _ _
    constructor
    · intro branch _
      rfl
    · intro path _
      exact ⟨rfl, rfl⟩

/- What is all merged may be dropped. -/
theorem DropsOnlyMerged.of_merged
    (hMerged : ∀ c, BranchCommit n g c → merged c) :
    DropsOnlyMerged n merged g g' := by
  constructor
  · intro branch _ _ c hCommit
    exact hMerged c hCommit
  · intro c hCommit hNot
    exact absurd (hMerged c hCommit) hNot

/- A removal that takes nothing that is there. -/
theorem MergeRemoved.survives
    (hRemoved : MergeRemoved world n (cleanupRepo world m path)
      path g g')
    (hPath : n.worktreePath = some path)
    (hDisplay : retentionVetoes world m = false)
    (hKeeps : ¬ MergeDrops world m n g) :
    DropsOnlyMerged n merged g g' := by
  have hRefs : ∀ branch, n.branch = some branch →
      g'.refs (branchRef branch) = g.refs (branchRef branch) := by
    intro branch _
    rw [hRemoved.refs]
    split
    next hTaken =>
      rw [Option.map_eq_some_iff] at hTaken
      rcases hTaken with ⟨taken, hTaken, hSame⟩
      rw [← hSame]
      by_contra hThere
      exact hKeeps ⟨path, hPath, hDisplay,
        .inr (.inr ⟨taken, hTaken,
          fun hNone => hThere hNone.symm⟩)⟩
    · rfl
  constructor
  · intro branch hBranch hChanged
    exact absurd (hRefs branch hBranch) hChanged
  · intro c _ _
    constructor
    · exact hRefs
    · intro path' hPath'
      obtain rfl : path = path' := by
        rw [hPath] at hPath'
        exact Option.some.inj hPath'
      constructor
      · rw [hRemoved.checkouts]
        split
        next hDrops =>
          by_contra hThere
          exact hKeeps ⟨path, hPath, hDisplay,
            .inl ⟨hDrops.1, fun hNone => hThere hNone.symm⟩⟩
        · rfl
      · rw [hRemoved.trees]
        split
        next hTakes =>
          by_contra hThere
          exact hKeeps ⟨path, hPath, hDisplay,
            .inr (.inl ⟨hTakes.1,
              fun hNone => hThere hNone.symm⟩)⟩
        · rfl

/- A removal that takes something goes with unmerged work. -/
theorem MergeRemoved.drops
    {c : C}
    (hRemoved : MergeRemoved world n (cleanupRepo world m path)
      path g g')
    (hPath : n.worktreePath = some path)
    (hDrops : MergeDrops world m n g)
    (hCommit : BranchCommit n g c)
    (hNot : ¬ merged c) :
    ¬ DropsOnlyMerged n merged g g' := by
  intro hKept
  rcases hKept.survives c hCommit hNot with ⟨hRefs, hCheckout⟩
  rcases hCheckout path hPath with ⟨hHead, hTree⟩
  rcases hDrops with ⟨path', hPath', _, hDrops⟩
  obtain rfl : path = path' := by
    rw [hPath] at hPath'
    exact Option.some.inj hPath'
  rcases hDrops with ⟨hTaken, hThere⟩ | ⟨hTaken, hThere⟩ |
    ⟨branch, hTaken, hThere⟩
  · rw [hRemoved.checkouts, if_pos ⟨hTaken, rfl⟩] at hHead
    exact hThere hHead.symm
  · rw [hRemoved.trees, if_pos ⟨hTaken, rfl⟩] at hTree
    exact hThere hTree.symm
  · have hRef :=
      hRefs branch (branchTaken_eq_some.mp hTaken).1
    rw [hRemoved.refs, hTaken, Option.map_some, if_pos rfl]
      at hRef
    exact hThere hRef.symm

theorem drops_only_merged_iff
    (env : RunEnv) (now : Time) (g : Repo C)
    (hMerged : TerminalOutcome.classify n = some .merged) :
    DropsOnlyMerged n merged g
        (cleanupNodeAfterEvidence env world now m n g).1 ↔
      (∀ c, BranchCommit n g c → merged c) ∨
        ¬ MergeDrops world m n g := by
  rcases cleanup_merged env now g hMerged with
    ⟨hVeto, hSame⟩ | ⟨path, hPath, hDisplay, hRemoved⟩
  · rw [hSame]
    constructor
    · intro _
      right
      intro hDrops
      rcases hDrops with ⟨path, hPath, hDisplay, _⟩
      rw [hVeto path hPath] at hDisplay
      cases hDisplay
    · intro _
      exact .refl n g
  · constructor
    · intro hKept
      by_contra hNone
      rw [not_or, not_not] at hNone
      rcases hNone with ⟨hUnmerged, hDrops⟩
      apply hUnmerged
      intro c hCommit
      by_contra hNot
      exact hRemoved.drops hPath hDrops hCommit hNot hKept
    · intro hWhen
      rcases hWhen with hAll | hKeeps
      · exact .of_merged hAll
      · exact hRemoved.survives hPath hDisplay hKeeps

/- A commit that is let go was the branch's or the head's. -/
theorem MergeRemoved.nodeCommit
    {c : C}
    (hRemoved : MergeRemoved world n repo path g g')
    (hPath : n.worktreePath = some path)
    (hHeld : g.Held c)
    (hGone : ¬ g'.Held c) : NodeCommit n g c := by
  have hReaches : g'.Reaches = g.Reaches := by
    unfold Repo.Reaches
    rw [hRemoved.parents]
  have hByRef : ∀ r tip, g.refs r = some tip →
      g.Reaches tip c → NodeCommit n g c := by
    intro r tip hRef hTip
    by_contra hNot
    apply hGone
    apply Repo.Held.ref r tip
    · rw [hRemoved.refs, if_neg]
      · exact hRef
      intro hTaken
      rw [Option.map_eq_some_iff] at hTaken
      rcases hTaken with ⟨branch, hTaken, rfl⟩
      exact hNot (.branch branch tip
        (branchTaken_eq_some.mp hTaken).1 hRef hTip)
    · rw [hReaches]
      exact hTip
  cases hHeld with
  | ref r tip hRef hTip => exact hByRef r tip hRef hTip
  | head p head tip hCheckout hCommit hTip =>
      cases head with
      | on branch => exact hByRef _ tip hCommit hTip
      | unreadable => cases hCommit
      | detached h =>
          by_cases hSame : p = path
          · subst hSame
            exact .head p _ tip hPath hCheckout hCommit hTip
          · exfalso
            apply hGone
            apply Repo.Held.head p (.detached h) tip
            · rw [hRemoved.checkouts, if_neg]
              · exact hCheckout
              intro hBoth
              exact hSame hBoth.2
            · exact hCommit
            · rw [hReaches]
              exact hTip

/-
  The teardown of a merged node goes by its report. It spares
  unmerged work of the branch exactly where it drops nothing.
  The branch goes only once nothing is left of its checkout,
  and only commits of the branch and of the head are let go.
-/
theorem merged_teardown
    (env : RunEnv) (world : CleanupWorld) (now : Time)
    (m : Option Manifest) (n : Node) (g : Repo C)
    (named : String → Option C) (patchId : C → P)
    (hMerged : TerminalOutcome.classify n = some .merged) :
    (DropsOnlyMerged n (MergedWork m n named patchId g) g
          (cleanupNodeAfterEvidence env world now m n g).1 ↔
        (∀ c, BranchCommit n g c →
            MergedWork m n named patchId g c) ∨
          ¬ MergeDrops world m n g) ∧
      (∀ branch, n.branch = some branch →
        (cleanupNodeAfterEvidence env world now m n g).1.refs
            (branchRef branch) ≠ g.refs (branchRef branch) →
        ∃ path, n.worktreePath = some path ∧
          cleared world (cleanupRepo world m path) path =
            true) ∧
      ∀ c, g.Held c →
        ¬ (cleanupNodeAfterEvidence env world now m n g).1.Held
          c →
        NodeCommit n g c := by
  refine ⟨drops_only_merged_iff env now g hMerged, ?_⟩
  rcases cleanup_merged env now g hMerged with
    ⟨_, hSame⟩ | ⟨path, hPath, _, hRemoved⟩
  · rw [hSame]
    constructor
    · intro branch _ hChanged
      exact absurd rfl hChanged
    · intro c hHeld hGone
      exact absurd hHeld hGone
  · constructor
    · intro branch _ hChanged
      rw [hRemoved.refs] at hChanged
      split at hChanged
      next hTaken =>
        rw [Option.map_eq_some_iff] at hTaken
        rcases hTaken with ⟨taken, hTaken, _⟩
        exact ⟨path, hPath,
          (branchTaken_eq_some.mp hTaken).2.1⟩
      · exact absurd rfl hChanged
    · intro c hHeld hGone
      exact hRemoved.nodeCommit hPath hHeld hGone

end Merged

namespace Sample

/- A merged node with a checkout; the worker stood at `w`. -/
def mergedRun : Disk :=
  after
    [.append (request .runCreated none
        (.obj
          [("kind", .str "spinoff"),
            ("lifecycle", .str "autonomous"),
            ("source_branch", .str "main"),
            ("source_repo", .str "/r"), ("title", .str "t")])),
      .append (request .nodeCreated (some .first)
        (.obj
          [("branch", .str "work"), ("kind", .str "spinoff"),
            ("worktree_path", .str "/w")])),
      .append (request .nodeReport (some .first)
        (.obj
          [("origin",
              (ReportOrigin.runMerge (some "op") (some "w")
                none).toJson),
            ("success", .bool true)]))]

/- A commit was added to the branch after the merge. -/
def lateCommit : Repo Nat where
  parents := fun c => if c = 1 then [0] else []
  refs := fun r =>
    if r = branchRef "main" then some 0
    else if r = branchRef "work" then some 1
    else none
  checkouts := fun path =>
    if path = "/r" then some (.on "main")
    else if path = "/w" then some (.on "work")
    else none
  trees := fun _ => some true

def lateRevisions (rev : String) : Option Nat :=
  if rev = "main" ∨ rev = "w" then some 0
  else if rev = "work" ∨ rev = "1" then some 1
  else none

/- Git over that repository; without force it refuses. -/
def lateWorld : CleanupWorld where
  mainWorktree := fun _ => some "/r"
  revListCount := fun _ lower upper =>
    if lower = "main" ∧ upper = "work" then some 1 else none
  pathExists := fun _ => true
  statusClean := fun _ => some true
  headOid := fun path => if path = "/w" then some "1" else none
  headBranch := fun path =>
    if path = "/w" then some "work" else none
  removal := fun _ path _ =>
    if path = "/w" then ⟨true, true, true⟩
    else ⟨false, false, false⟩
  branchDelete := fun _ branch force =>
    if branch = "work" ∧ force = true then none
    else some "error: the branch is not fully merged"
  orphanIdentified := fun _ _ => false
  orphanRemoved := fun _ _ => false
  retention := .notApplicable
  rebaseInProgress := fun _ => false
  paneSaved := true

theorem late_ahead :
    (lateCommit.ahead 0 1).encard = (1 : Nat) := by
  have hOnly : lateCommit.ahead 0 1 = {1} := by
    ext c
    constructor
    · intro hMem
      rcases Relation.ReflTransGen.cases_head hMem.1 with
        hSame | ⟨p, hParent, hDown⟩
      · exact hSame.symm
      · have hRoot : p = 0 := by
          simpa [lateCommit] using hParent
        subst hRoot
        exact absurd hDown hMem.2
    · intro hMem
      obtain rfl : c = 1 := hMem
      constructor
      · exact .refl
      · intro hReaches
        cases reaches_first rfl hReaches
  rw [hOnly, Set.encard_singleton]
  rfl

theorem faithful_lateWorld {n : Node} :
    lateWorld.Faithful n lateCommit lateRevisions := by
  constructor
  · intro repo lower upper k hCount
    simp only [lateWorld, Option.ite_none_right_eq_some,
      Option.some.injEq] at hCount
    rcases hCount with ⟨⟨rfl, rfl⟩, rfl⟩
    exact ⟨0, 1, rfl, rfl, late_ahead⟩
  · intro path head oid hHead hOid
    simp only [lateWorld, Option.ite_none_right_eq_some,
      Option.some.injEq] at hOid
    rcases hOid with ⟨rfl, rfl⟩
    obtain rfl : .on "work" = head := Option.some.inj hHead
    exact ⟨1, rfl, rfl⟩
  · intro path head branch hHead hBranch
    simp only [lateWorld, Option.ite_none_right_eq_some,
      Option.some.injEq] at hBranch
    rcases hBranch with ⟨rfl, rfl⟩
    exact (Option.some.inj hHead).symm
  · intro repo path _
    simp [lateCommit]
  · intro repo path branch _ hDeleted
    simp [lateWorld] at hDeleted

/- The node and the manifest of the merged run. -/
theorem exists_merged :
    ∃ m n, mergedRun.manifest = some m ∧
      mergedRun.nodes.lookup .first = some n ∧
      n.worktreePath = some "/w" ∧ n.branch = some "work" ∧
      TerminalOutcome.classify n = some .merged ∧
      mergedWorker n = some "w" ∧
      manifestSourceBranch (some m) = some "main" ∧
      retentionVetoes lateWorld (some m) = false := by
  have hNode :
      (mergedRun.nodes.lookup .first).map (fun n =>
          (n.worktreePath, n.branch, TerminalOutcome.classify n,
            mergedWorker n)) =
        some (some "/w", some "work", some .merged,
          some "w") := by
    decide +kernel
  have hManifest :
      mergedRun.manifest.map (fun m =>
          (manifestSourceBranch (some m),
            retentionVetoes lateWorld (some m))) =
        some (some "main", false) := by
    decide +kernel
  rw [Option.map_eq_some_iff] at hNode hManifest
  rcases hNode with ⟨n, hLookup, hNode⟩
  rcases hManifest with ⟨m, hSome, hManifest⟩
  simp only [Prod.mk.injEq] at hNode hManifest
  exact ⟨m, n, hSome, hLookup, hNode.1, hNode.2.1, hNode.2.2.1,
    hNode.2.2.2, hManifest⟩

end Sample

/- A branch still at the worker commit drops merged work. -/
theorem settled_merge_drops_only_merged :
    ∃ m n, Sample.mergedRun.manifest = some m ∧
      Sample.mergedRun.nodes.lookup .first = some n ∧
      DropsOnlyMerged n
        (MergedWork (some m) n Sample.lateRevisions id
          (Sample.twoCommits (.on "work") (some true)))
        (Sample.twoCommits (.on "work") (some true))
        (cleanupNodeAfterEvidence Sample.env
          (Sample.teardownWorld true) 0 (some m) n
          (Sample.twoCommits (.on "work") (some true))).1 := by
  rcases Sample.exists_merged with
    ⟨m, n, hManifest, hLookup, _, hBranch, hMerged, hWorker, _⟩
  refine ⟨m, n, hManifest, hLookup, ?_⟩
  apply (merged_teardown Sample.env (Sample.teardownWorld true)
    0 (some m) n _ Sample.lateRevisions id hMerged).1.mpr
  left
  intro c hCommit
  rcases hCommit with ⟨branch, tip, hSame, hTip, hReaches⟩
  rw [hBranch, Option.some.injEq] at hSame
  subst hSame
  obtain rfl : 0 = tip := Option.some.inj hTip
  exact .worker "w" 0 hWorker rfl hReaches

/- A commit added after the merge goes with its branch. -/
theorem not_drops_only_merged :
    ¬ ∀ (C P : Type) (env : RunEnv) (world : CleanupWorld)
        (now : Time) (m : Option Manifest) (n : Node)
        (g : Repo C) (named : String → Option C)
        (patchId : C → P),
      world.Faithful n g named →
        TerminalOutcome.classify n = some .merged →
        DropsOnlyMerged n (MergedWork m n named patchId g) g
          (cleanupNodeAfterEvidence env world now m n g).1 := by
  intro hAlways
  rcases Sample.exists_merged with
    ⟨m, n, _, _, hPath, hBranch, hMerged, hWorker, hSource,
      hDisplay⟩
  have hDropped :=
    hAlways Nat Nat Sample.env Sample.lateWorld 0 (some m) n
      Sample.lateCommit Sample.lateRevisions id
      Sample.faithful_lateWorld hMerged
  rw [drops_only_merged_iff Sample.env 0 Sample.lateCommit
    hMerged] at hDropped
  rcases hDropped with hAll | hKeeps
  · have hWork :=
      hAll 1 ⟨"work", 1, hBranch, rfl, .refl⟩
    cases hWork with
    | worker oid w hNames hNamed hReaches =>
        rw [hWorker, Option.some.injEq] at hNames
        subst hNames
        obtain rfl : 0 = w := Option.some.inj hNamed
        cases Sample.reaches_first rfl hReaches
    | integrated d hIn hPatch =>
        rcases hIn with ⟨source, s, hRecorded, hNamed, hReaches⟩
        rw [hSource, Option.some.injEq] at hRecorded
        subst hRecorded
        obtain rfl : 0 = s := Option.some.inj hNamed
        obtain rfl := Sample.reaches_first rfl hReaches
        cases hPatch
  · apply hKeeps
    refine ⟨"/w", hPath, hDisplay, .inl ⟨rfl, ?_⟩⟩
    simp [Sample.lateCommit]

end Taskfleet
