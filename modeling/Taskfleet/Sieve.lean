import Mathlib.Data.List.Basic
import Taskfleet.Fallible

/-
  Lists whose elements are checked one after the other, each
  with its position: strictly, up to the first that fails, or
  leniently, by dropping those that fail.

  Main declarations:
    * `Sieve.checkFrom`, `Sieve.sieveFrom`
    * `Sieve.Splits`, `Sieve.splits_sieve`
    * `Sieve.check_iff_sieve`, `Sieve.check_kept`
-/

------------------------------------------------------------
-- Traversals
------------------------------------------------------------

namespace Sieve

open Fallible

variable {α ε : Type}

/- The first failure, of positions that start at `i`. -/
def checkFrom (check : α → Nat → Except ε Unit) :
    Nat → List α → Except ε Unit
| _, [] => .ok ()
| i, x :: xs => do
    check x i
    checkFrom check (i + 1) xs

/- The elements that pass, and the failures in their order. -/
def sieveFrom (check : α → Nat → Except ε Unit) :
    Nat → List α → List α × List (Nat × ε)
| _, [] => ([], [])
| i, x :: xs =>
    let rest := sieveFrom check (i + 1) xs
    match check x i with
    | .ok () => (x :: rest.1, rest.2)
    | .error e => (rest.1, (i, e) :: rest.2)

/- Whether an element passes does not depend on its place. -/
def Placeless (check : α → Nat → Except ε Unit) : Prop :=
  ∀ x i j, check x i = .ok () → check x j = .ok ()

/- The elements at the places `ks` are gone, the rest is left. -/
structure Splits
    (i : Nat) (xs kept : List α) (ks : List Nat) : Prop where
  kept :
    kept = ((xs.zipIdx i).filter (fun p => p.2 ∉ ks)).map
      Prod.fst
  ordered : ks.Pairwise (· < ·)
  within : ∀ k ∈ ks, i ≤ k ∧ k < i + xs.length

------------------------------------------------------------
-- Splits
------------------------------------------------------------

section Splits

variable {i : Nat} {x : α} {xs kept : List α} {ks : List Nat}

theorem Splits.nil : Splits i ([] : List α) [] [] where
  kept := rfl
  ordered := List.Pairwise.nil
  within := by simp

/- Later places do not matter to the elements after them. -/
theorem Splits.cons_kept
    (hSplits : Splits (i + 1) xs kept ks) :
    Splits i (x :: xs) (x :: kept) ks where
  kept := by
    have hHere : i ∉ ks := by
      intro hMem
      have hLater := (hSplits.within i hMem).1
      omega
    rw [List.zipIdx_cons, List.filter_cons_of_pos (by simpa),
      List.map_cons, ← hSplits.kept]
  ordered := hSplits.ordered
  within := by
    intro k hMem
    have hRange := hSplits.within k hMem
    rw [List.length_cons]
    omega

theorem Splits.cons_dropped
    (hSplits : Splits (i + 1) xs kept ks) :
    Splits i (x :: xs) kept (i :: ks) where
  kept := by
    rw [List.zipIdx_cons, List.filter_cons_of_neg (by simp),
      hSplits.kept]
    congr 1
    apply List.filter_congr
    intro p hMem
    have hLater := List.le_snd_of_mem_zipIdx hMem
    have hOther : p.2 ≠ i := by omega
    simp [hOther]
  ordered := by
    apply List.Pairwise.cons _ hSplits.ordered
    intro k hMem
    have hLater := (hSplits.within k hMem).1
    omega
  within := by
    intro k hMem
    rw [List.length_cons]
    rcases List.mem_cons.mp hMem with rfl | hMem
    · omega
    · have hRange := hSplits.within k hMem
      omega

end Splits

------------------------------------------------------------
-- Both Traversals
------------------------------------------------------------

section Traversals

variable {check : α → Nat → Except ε Unit}

theorem sieveFrom_ok
    {i : Nat} {x : α} {xs : List α}
    (hPasses : check x i = .ok ()) :
    sieveFrom check i (x :: xs) =
      (x :: (sieveFrom check (i + 1) xs).1,
        (sieveFrom check (i + 1) xs).2) := by
  simp only [sieveFrom, hPasses]

theorem sieveFrom_error
    {i : Nat} {x : α} {xs : List α} {e : ε}
    (hFails : check x i = .error e) :
    sieveFrom check i (x :: xs) =
      ((sieveFrom check (i + 1) xs).1,
        (i, e) :: (sieveFrom check (i + 1) xs).2) := by
  simp only [sieveFrom, hFails]

/- What is dropped is at the places of the failures. -/
theorem splits_sieve
    (check : α → Nat → Except ε Unit)
    (i : Nat)
    (xs : List α) :
    Splits i xs (sieveFrom check i xs).1
      ((sieveFrom check i xs).2.map Prod.fst) := by
  induction xs generalizing i with
  | nil => exact Splits.nil
  | cons x rest ih =>
      cases hCheck : check x i with
      | ok =>
          rw [sieveFrom_ok hCheck]
          exact (ih (i + 1)).cons_kept
      | error e =>
          rw [sieveFrom_error hCheck]
          exact (ih (i + 1)).cons_dropped

/- Each failure is that of the element at its place. -/
theorem failure_of_sieve
    {i k : Nat} {xs : List α} {e : ε}
    (hMem : (k, e) ∈ (sieveFrom check i xs).2) :
    ∃ x, xs[k - i]? = some x ∧ i ≤ k ∧
      check x k = .error e := by
  induction xs generalizing i with
  | nil => cases hMem
  | cons x rest ih =>
      have hLater :
          (k, e) ∈ (sieveFrom check (i + 1) rest).2 →
          ∃ x', (x :: rest)[k - i]? = some x' ∧ i ≤ k ∧
            check x' k = .error e := by
        intro hThere
        rcases ih hThere with ⟨x', hAt, hLe, hFails⟩
        have hPlace : k - i = k - (i + 1) + 1 := by omega
        refine ⟨x', ?_, by omega, hFails⟩
        rw [hPlace, List.getElem?_cons_succ]
        exact hAt
      cases hCheck : check x i with
      | ok =>
          rw [sieveFrom_ok hCheck] at hMem
          exact hLater hMem
      | error e' =>
          rw [sieveFrom_error hCheck] at hMem
          rcases List.mem_cons.mp hMem with hHere | hThere
          · cases hHere
            exact ⟨x, by simp, Nat.le_refl _, hCheck⟩
          · exact hLater hThere

/- Nothing fails strictly exactly if nothing is dropped. -/
theorem check_iff_sieve
    {i : Nat} {xs : List α} :
    checkFrom check i xs = .ok () ↔
      sieveFrom check i xs = (xs, []) := by
  induction xs generalizing i with
  | nil => exact iff_of_true rfl rfl
  | cons x rest ih =>
      rw [checkFrom, bind_eq_ok]
      cases hCheck : check x i with
      | ok =>
          rw [sieveFrom_ok hCheck]
          simp [ih, Prod.ext_iff]
      | error e =>
          rw [sieveFrom_error hCheck]
          simp

/- What is left passes, wherever it stands. -/
theorem check_kept
    (hPlaceless : Placeless check)
    (i j : Nat)
    (xs : List α) :
    checkFrom check j (sieveFrom check i xs).1 = .ok () := by
  induction xs generalizing i j with
  | nil => rfl
  | cons x rest ih =>
      cases hCheck : check x i with
      | ok =>
          rw [sieveFrom_ok hCheck, checkFrom, bind_eq_ok]
          exact ⟨(), hPlaceless x i j hCheck,
            ih (i + 1) (j + 1)⟩
      | error e =>
          rw [sieveFrom_error hCheck]
          exact ih (i + 1) j

end Traversals

end Sieve
