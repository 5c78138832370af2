import Mathlib.Data.List.Basic
import Mathlib.Logic.Basic

/-
  Validators as sequences of guards over `Except`, and what
  the success of such a sequence establishes.

  Main declarations:
    * `Fallible.orError`, `Fallible.refuseIf`
    * `Fallible.checkWhen`, `Fallible.forall₂_of_mapM`
    * `Fallible.bind_eq_ok`, `Fallible.refuseIf_eq_ok`
    * `Fallible.Yields`, `Fallible.Refuses` and their rules
-/

------------------------------------------------------------
-- Guards
------------------------------------------------------------

namespace Fallible

variable {ε α β : Type}

/- The value of an option, or an error. -/
def orError (e : ε) : Option α → Except ε α
| some a => .ok a
| none => .error e

/- Stop with an error where a condition holds. -/
def refuseIf (p : Prop) [Decidable p] (e : ε) :
    Except ε Unit :=
  if p then .error e else .ok ()

/- A check that is made only where a condition holds. -/
def checkWhen (p : Prop) [Decidable p] (x : Except ε Unit) :
    Except ε Unit :=
  if p then x else .ok ()

/- A value that is there is a success. -/
theorem exists_ok
    {x : Except ε α} (hSome : x.toOption.isSome = true) :
    ∃ a, x = .ok a := by
  cases x with
  | ok a => exact ⟨a, rfl⟩
  | error e => cases hSome

theorem ok_of_toOption
    {x : Except ε α} {a : α} (hSome : x.toOption = some a) :
    x = .ok a := by
  cases x with
  | ok b =>
      cases hSome
      rfl
  | error e => cases hSome

------------------------------------------------------------
-- Successful Sequences
------------------------------------------------------------

/- A sequence succeeds exactly when each step does. -/
@[simp] theorem bind_eq_ok
    {x : Except ε α}
    {f : α → Except ε β}
    {b : β} :
    x >>= f = .ok b ↔ ∃ a, x = .ok a ∧ f a = .ok b := by
  cases x <;> simp [bind, Except.bind]

@[simp] theorem ok_bind (a : α) (f : α → Except ε β) :
    (Except.ok a >>= f : Except ε β) = f a := rfl

@[simp] theorem error_bind (e : ε) (f : α → Except ε β) :
    (Except.error e >>= f : Except ε β) = .error e := rfl

@[simp] theorem pure_eq (a : α) :
    (pure a : Except ε α) = .ok a := rfl

@[simp] theorem throw_eq (e : ε) :
    (throw e : Except ε α) = .error e := rfl

@[simp] theorem orError_some (e : ε) (a : α) :
    orError e (some a) = .ok a := rfl

@[simp] theorem orError_none (e : ε) :
    orError e (none : Option α) = .error e := rfl

@[simp] theorem orError_eq_ok
    {e : ε} {x : Option α} {a : α} :
    orError e x = .ok a ↔ x = some a := by
  cases x <;> simp [orError]

@[simp] theorem refuseIf_eq_ok
    {p : Prop} [Decidable p] {e : ε} {u : Unit} :
    refuseIf p e = .ok u ↔ ¬ p := by
  by_cases hP : p <;> simp [refuseIf, hP]

@[simp] theorem checkWhen_eq_ok
    {p : Prop} [Decidable p] {x : Except ε Unit} {u : Unit} :
    checkWhen p x = .ok u ↔ (p → x = .ok u) := by
  by_cases hP : p <;> simp [checkWhen, hP]

/- A traversal returns what it has computed, in order. -/
theorem forall₂_of_mapM
    {f : α → Except ε β} {xs : List α} {ys : List β}
    (hRun : xs.mapM f = .ok ys) :
    List.Forall₂ (fun a b => f a = .ok b) xs ys := by
  induction xs generalizing ys with
  | nil =>
      cases hRun
      exact .nil
  | cons a rest ih =>
      rw [List.mapM_cons, bind_eq_ok] at hRun
      rcases hRun with ⟨b, hHere, hRun⟩
      rw [bind_eq_ok] at hRun
      rcases hRun with ⟨ys', hRest, hRun⟩
      cases hRun
      exact .cons hHere (ih hRest)

/- Each member on the right has a partner on the left. -/
theorem exists_of_forall₂
    {R : α → β → Prop} {xs : List α} {ys : List β} {b : β}
    (hPairs : List.Forall₂ R xs ys)
    (hMem : b ∈ ys) : ∃ a ∈ xs, R a b := by
  induction hPairs with
  | nil => cases hMem
  | cons hHere _ ih =>
      rcases List.mem_cons.mp hMem with rfl | hMem
      · exact ⟨_, List.mem_cons_self, hHere⟩
      · rcases ih hMem with ⟨a, hIn, hThere⟩
        exact ⟨a, List.mem_cons_of_mem _ hIn, hThere⟩

/- What a traversal returns, it has computed from a member. -/
theorem mem_of_mapM
    {f : α → Except ε β} {xs : List α} {ys : List β} {b : β}
    (hRun : xs.mapM f = .ok ys)
    (hMem : b ∈ ys) : ∃ a ∈ xs, f a = .ok b :=
  exists_of_forall₂ (R := fun a b => f a = .ok b)
    (forall₂_of_mapM hRun) hMem

/- A check of every member succeeds where each of them does. -/
theorem forM_eq_ok
    {xs : List α} {f : α → Except ε Unit} {u : Unit} :
    xs.forM f = .ok u ↔ ∀ x ∈ xs, f x = .ok () := by
  induction xs with
  | nil => simp [pure, Except.pure]
  | cons x rest ih =>
      change (f x >>= fun _ => rest.forM f) = .ok u ↔ _
      rw [bind_eq_ok, List.forall_mem_cons]
      constructor
      · intro hRun
        rcases hRun with ⟨_, hHere, hRest⟩
        exact ⟨hHere, ih.mp hRest⟩
      · intro hAll
        exact ⟨(), hAll.1, ih.mpr hAll.2⟩

@[simp] theorem mapError_eq_ok
    {δ : Type} {x : Except ε α} {f : ε → δ} {a : α} :
    x.mapError f = .ok a ↔ x = .ok a := by
  cases x with
  | error e =>
      constructor
      · rintro ⟨⟩
      · rintro ⟨⟩
  | ok b =>
      constructor
      · rintro ⟨⟩
        rfl
      · rintro ⟨⟩
        rfl

------------------------------------------------------------
-- Partial Correctness
------------------------------------------------------------

/- Every value a computation returns has a property. -/
def Yields (x : Except ε α) (P : α → Prop) : Prop :=
  ∀ a, x = .ok a → P a

namespace Yields

variable {P : α → Prop} {Q : β → Prop}

theorem bind
    {x : Except ε α}
    {f : α → Except ε β}
    (hNext : ∀ a, x = .ok a → Yields (f a) Q) :
    Yields (x >>= f) Q := by
  intro b hRun
  rcases bind_eq_ok.mp hRun with ⟨a, hFirst, hRest⟩
  exact hNext a hFirst b hRest

theorem pure {a : α} (hValue : P a) :
    Yields (pure a : Except ε α) P := by
  rintro b ⟨⟩
  exact hValue

theorem ok {a : α} (hValue : P a) :
    Yields (.ok a : Except ε α) P := by
  rintro b ⟨⟩
  exact hValue

theorem error {e : ε} :
    Yields (.error e : Except ε α) P := by
  rintro b ⟨⟩

theorem ite
    {c : Prop} [Decidable c]
    {x y : Except ε α}
    (hThen : c → Yields x P)
    (hElse : ¬ c → Yields y P) :
    Yields (if c then x else y) P := by
  by_cases hC : c
  · simpa [hC] using hThen hC
  · simpa [hC] using hElse hC

end Yields

------------------------------------------------------------
-- Refusals
------------------------------------------------------------

/- Every error a computation ends with has a property. -/
def Refuses (x : Except ε α) (P : ε → Prop) : Prop :=
  ∀ e, x = .error e → P e

section Refuses

variable {P : ε → Prop}

@[simp] theorem refuses_ok (a : α) :
    Refuses (.ok a : Except ε α) P := by
  intro e hError
  cases hError

@[simp] theorem refuses_error {e : ε} :
    Refuses (.error e : Except ε α) P ↔ P e := by
  constructor
  · intro hAll
    exact hAll e rfl
  · intro hHere e' hError
    cases hError
    exact hHere

@[simp] theorem refuses_orError {e : ε} {x : Option α} :
    Refuses (orError e x) P ↔ (x = none → P e) := by
  cases x <;> simp

@[simp] theorem refuses_refuseIf
    {p : Prop} [Decidable p] {e : ε} :
    Refuses (refuseIf p e) P ↔ (p → P e) := by
  by_cases hP : p <;> simp [refuseIf, hP]

/- A sequence ends with an error of one of its steps. -/
theorem Refuses.bind
    {x : Except ε α}
    {f : α → Except ε β}
    (hFirst : Refuses x P)
    (hNext : ∀ a, x = .ok a → Refuses (f a) P) :
    Refuses (x >>= f) P := by
  cases x with
  | error e =>
      rw [error_bind, refuses_error]
      exact refuses_error.mp hFirst
  | ok a => exact hNext a rfl

theorem Refuses.mapError
    {δ : Type} {x : Except δ α} {f : δ → ε}
    (hAll : ∀ e, P (f e)) :
    Refuses (x.mapError f) P := by
  intro e hError
  cases x with
  | ok a => cases hError
  | error e' =>
      cases hError
      exact hAll e'

theorem Refuses.ite
    {c : Prop} [Decidable c]
    {x y : Except ε α}
    (hThen : Refuses x P)
    (hElse : Refuses y P) :
    Refuses (if c then x else y) P := by
  by_cases hC : c
  · simpa [hC] using hThen
  · simpa [hC] using hElse

theorem Refuses.forM
    {f : α → Except ε PUnit} {xs : List α}
    (hEach : ∀ a ∈ xs, Refuses (f a) P) :
    Refuses (xs.forM f) P := by
  induction xs with
  | nil => simp
  | cons a rest ih =>
      apply Refuses.bind (hEach a List.mem_cons_self)
      intro _ _
      exact ih (fun b hMem =>
        hEach b (List.mem_cons_of_mem _ hMem))

end Refuses

end Fallible
