import Mathlib.Data.Set.Card
import Mathlib.Logic.Relation

/-
  Repositories as graphs of commits with refs and checkouts.

  A commit is held while a ref or the head of a checkout
  reaches it. Dropping a checkout or deleting a ref can only
  let commits go, and lets go of none that something else
  still reaches.

  Main declarations:
    * `Repo`, `Repo.Reaches`, `Repo.Held`
    * `Repo.dropCheckout`, `Repo.deleteRef`, `Repo.Alone`
    * `Repo.Mergeable`, `Repo.Held.deleteRef`
-/

------------------------------------------------------------
-- Repositories
------------------------------------------------------------

namespace CommitGraph

/- What a checkout is on. -/
inductive Head (C : Type) where
| on (branch : String)
| detached (c : C)
| unreadable

/-
  Commits with their parents, refs by full name, checkouts by
  path, and what is in their directories: nothing, a clean
  tree or a dirty one.
-/
structure Repo (C : Type) where
  parents : C → List C
  refs : String → Option C
  checkouts : String → Option (Head C)
  trees : String → Option Bool

def branchRef (branch : String) : String :=
  "refs/heads/" ++ branch

namespace Repo

variable {C : Type}

def Reaches (g : Repo C) : C → C → Prop :=
  Relation.ReflTransGen (fun c p => p ∈ g.parents c)

/- The commits of `b` that are not in `a`. -/
def ahead (g : Repo C) (a b : C) : Set C :=
  { c | g.Reaches b c ∧ ¬ g.Reaches a c }

def headCommit (g : Repo C) : Head C → Option C
| .on branch => g.refs (branchRef branch)
| .detached c => some c
| .unreadable => none

/- A commit that a ref or a checkout keeps. -/
inductive Held (g : Repo C) (c : C) : Prop where
| ref (r : String) (tip : C)
    (hRef : g.refs r = some tip)
    (hReaches : g.Reaches tip c) : Held g c
| head (path : String) (head : Head C) (tip : C)
    (hCheckout : g.checkouts path = some head)
    (hTip : g.headCommit head = some tip)
    (hReaches : g.Reaches tip c) : Held g c

def dropCheckout (g : Repo C) (path : String) : Repo C :=
  { g with checkouts := Function.update g.checkouts path none }

def removeTree (g : Repo C) (path : String) : Repo C :=
  { g with trees := Function.update g.trees path none }

def deleteRef (g : Repo C) (r : String) : Repo C :=
  { g with refs := Function.update g.refs r none }

/- A detached head that only its own checkout holds. -/
def Alone (g : Repo C) (path : String) (c : C) : Prop :=
  g.checkouts path = some (.detached c) ∧
    ¬ (g.dropCheckout path).Held c

/-
  A branch that may be deleted without force: no checkout is
  on it, and another ref or a checkout reaches its tip.
-/
structure Mergeable (g : Repo C) (branch : String) : Prop where
  free : ∀ path, g.checkouts path ≠ some (.on branch)
  merged : ∃ tip, g.refs (branchRef branch) = some tip ∧
    ((∃ r t, r ≠ branchRef branch ∧ g.refs r = some t ∧
        g.Reaches t tip) ∨
      ∃ path head t, g.checkouts path = some head ∧
        g.headCommit head = some t ∧ g.Reaches t tip)

end Repo

------------------------------------------------------------
-- What Is Held
------------------------------------------------------------

namespace Repo

variable {C : Type} {g : Repo C} {a b c d : C}
variable {r path branch : String}

theorem dropCheckout_checkouts (g : Repo C) (path p : String) :
    (g.dropCheckout path).checkouts p =
      if p = path then none else g.checkouts p :=
  Function.update_apply _ _ _ _

theorem removeTree_trees (g : Repo C) (path p : String) :
    (g.removeTree path).trees p =
      if p = path then none else g.trees p :=
  Function.update_apply _ _ _ _

theorem deleteRef_refs (g : Repo C) (r r' : String) :
    (g.deleteRef r).refs r' =
      if r' = r then none else g.refs r' :=
  Function.update_apply _ _ _ _

theorem reaches_of_ahead_empty
    (hEmpty : (g.ahead a b).encard = 0) : g.Reaches a b := by
  rw [Set.encard_eq_zero] at hEmpty
  by_contra hApart
  have hMem : b ∈ g.ahead a b := ⟨.refl, hApart⟩
  rw [hEmpty] at hMem
  exact hMem

theorem Held.down (hHeld : g.Held c) (hReaches : g.Reaches c d) :
    g.Held d := by
  cases hHeld with
  | ref r tip hRef hTip =>
      exact .ref r tip hRef (hTip.trans hReaches)
  | head path head tip hCheckout hCommit hTip =>
      exact .head path head tip hCheckout hCommit
        (hTip.trans hReaches)

theorem held_removeTree {p : String} :
    (g.removeTree p).Held c ↔ g.Held c := by
  constructor
  · intro hHeld
    cases hHeld with
    | ref r tip hRef hTip => exact .ref r tip hRef hTip
    | head path head tip hCheckout hCommit hTip =>
        exact .head path head tip hCheckout
          (by cases head <;> exact hCommit) hTip
  · intro hHeld
    cases hHeld with
    | ref r tip hRef hTip => exact .ref r tip hRef hTip
    | head path head tip hCheckout hCommit hTip =>
        exact .head path head tip hCheckout
          (by cases head <;> exact hCommit) hTip

theorem held_of_dropCheckout
    (hHeld : (g.dropCheckout path).Held c) : g.Held c := by
  cases hHeld with
  | ref r tip hRef hTip => exact .ref r tip hRef hTip
  | head path' head tip hCheckout hCommit hTip =>
      rw [dropCheckout_checkouts] at hCheckout
      split at hCheckout
      · cases hCheckout
      · exact .head path' head tip hCheckout hCommit hTip

theorem held_of_deleteRef
    (hHeld : (g.deleteRef r).Held c) : g.Held c := by
  have hRefs : ∀ r' tip, (g.deleteRef r).refs r' = some tip →
      g.refs r' = some tip := by
    intro r' tip hRef
    rw [deleteRef_refs] at hRef
    split at hRef
    · cases hRef
    · exact hRef
  cases hHeld with
  | ref r' tip hRef hTip => exact .ref r' tip (hRefs _ _ hRef) hTip
  | head path head tip hCheckout hCommit hTip =>
      cases head with
      | on branch =>
          exact .ref _ tip (hRefs _ _ hCommit) hTip
      | detached c' =>
          exact .head path (.detached c') tip hCheckout hCommit
            hTip
      | unreadable => cases hCommit

/- Deleting a merged branch lets go of nothing. -/
theorem Held.deleteRef
    (hHeld : g.Held c)
    (hMergeable : g.Mergeable branch) :
    (g.deleteRef (branchRef branch)).Held c := by
  have hRefs : ∀ r t, r ≠ branchRef branch →
      g.refs r = some t →
      (g.deleteRef (branchRef branch)).refs r = some t := by
    intro r t hOther hRef
    rw [deleteRef_refs, if_neg hOther]
    exact hRef
  have hHeads : ∀ path head t, g.checkouts path = some head →
      g.headCommit head = some t →
      (g.deleteRef (branchRef branch)).headCommit head =
        some t := by
    intro path head t hCheckout hCommit
    cases head with
    | on b =>
        apply hRefs _ t _ hCommit
        intro hSame
        have hBranch : b = branch := by
          simpa [branchRef] using hSame
        rw [hBranch] at hCheckout
        exact hMergeable.free path hCheckout
    | detached c' => exact hCommit
    | unreadable => cases hCommit
  rcases hMergeable.merged with ⟨tip, hTip, hKept⟩
  have hTipHeld :
      (g.deleteRef (branchRef branch)).Held tip := by
    rcases hKept with
      ⟨r, t, hOther, hRef, hReaches⟩ |
        ⟨path, head, t, hCheckout, hCommit, hReaches⟩
    · exact .ref r t (hRefs r t hOther hRef) hReaches
    · exact .head path head t hCheckout
        (hHeads path head t hCheckout hCommit) hReaches
  cases hHeld with
  | ref r t hRef hReaches =>
      by_cases hSame : r = branchRef branch
      · rw [hSame, hTip, Option.some.injEq] at hRef
        subst hRef
        exact hTipHeld.down hReaches
      · exact .ref r t (hRefs r t hSame hRef) hReaches
  | head path head t hCheckout hCommit hReaches =>
      exact .head path head t hCheckout
        (hHeads path head t hCheckout hCommit) hReaches

end Repo

end CommitGraph
