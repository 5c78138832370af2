import Taskfleet.Fallible

/-
  Computations that fail together. Two of them either both
  end with an error, whatever it says, or both return values
  that are related.

  Main declarations:
    * `Fallible.Together` and its rules
-/

------------------------------------------------------------
-- Failing Together
------------------------------------------------------------

namespace Fallible

variable {ε α β γ δ : Type}

inductive Together (R : α → β → Prop) :
    Except ε α → Except ε β → Prop where
| ok {a : α} {b : β} (hRelated : R a b) :
    Together R (.ok a) (.ok b)
| error (e e' : ε) : Together R (.error e) (.error e')

namespace Together

variable {R : α → β → Prop} {S : γ → δ → Prop}

theorem refl (x : Except ε α) : Together Eq x x := by
  cases x with
  | ok a => exact .ok rfl
  | error e => exact .error e e

theorem bind
    {x : Except ε α} {y : Except ε β}
    {f : α → Except ε γ} {g : β → Except ε δ}
    (hFirst : Together R x y)
    (hNext : ∀ a b, R a b → Together S (f a) (g b)) :
    Together S (x >>= f) (y >>= g) := by
  cases hFirst with
  | ok hRelated => exact hNext _ _ hRelated
  | error e e' => exact .error e e'

/- A first step with one value on both sides. -/
theorem bind_eq
    {x y : Except ε α}
    {f : α → Except ε γ} {g : α → Except ε δ}
    (hFirst : Together Eq x y)
    (hNext : ∀ a, Together S (f a) (g a)) :
    Together S (x >>= f) (y >>= g) := by
  apply hFirst.bind
  intro a b hSame
  subst hSame
  exact hNext a

theorem orError (e e' : ε) (x : Option α) :
    Together Eq (orError e x) (orError e' x) := by
  cases x with
  | none => exact .error e e'
  | some a => exact .ok rfl

theorem refuseIf (p : Prop) [Decidable p] (e e' : ε) :
    Together Eq (refuseIf p e) (refuseIf p e') := by
  unfold Fallible.refuseIf
  split
  · exact .error e e'
  · exact .ok rfl

theorem mapError (x : Except δ α) (f g : δ → ε) :
    Together Eq (x.mapError f) (x.mapError g) := by
  cases x with
  | ok a => exact .ok rfl
  | error e => exact .error _ _

theorem ite
    {c : Prop} [Decidable c]
    {x x' : Except ε α} {y y' : Except ε β}
    (hThen : c → Together R x y)
    (hElse : ¬ c → Together R x' y') :
    Together R (if c then x else x') (if c then y else y') := by
  split
  next hC => exact hThen hC
  next hC => exact hElse hC

/- A choice between values. -/
theorem ite_ok
    {c : Prop} [Decidable c] {a a' : α} {b b' : β}
    (hThen : R a b)
    (hElse : R a' b') :
    Together R
      (if c then .ok a else .ok a' : Except ε α)
      (if c then .ok b else .ok b') := by
  apply ite
  · intro _
    exact .ok hThen
  · intro _
    exact .ok hElse

/- A value where a condition holds, and a refusal elsewhere. -/
theorem ite_error
    {c : Prop} [Decidable c] {a : α} {b : β} {e e' : ε}
    (hThen : R a b) :
    Together R
      (if c then .ok a else .error e)
      (if c then .ok b else .error e') := by
  apply ite
  · intro _
    exact .ok hThen
  · intro _
    exact .error e e'

theorem forM
    {f g : α → Except ε PUnit} {xs : List α}
    (hEach : ∀ a ∈ xs, Together Eq (f a) (g a)) :
    Together Eq (xs.forM f) (xs.forM g) := by
  induction xs with
  | nil => exact .ok rfl
  | cons a rest ih =>
      apply bind_eq (hEach a List.mem_cons_self)
      intro _
      apply ih
      intro b hMem
      exact hEach b (List.mem_cons_of_mem _ hMem)

/- Two that agree on their values return the same one. -/
theorem ok_iff
    {x y : Except ε α} {a : α}
    (hTogether : Together Eq x y) :
    x = .ok a ↔ y = .ok a := by
  cases hTogether with
  | ok hRelated => rw [hRelated]
  | error e e' => simp

/- One of two that return together returns with the other. -/
theorem exists_ok
    {y : Except ε β} {a : α}
    (hTogether : Together R (.ok a) y) :
    ∃ b, y = .ok b ∧ R a b := by
  cases hTogether with
  | ok hRelated => exact ⟨_, rfl, hRelated⟩

/- One of two that fail together fails with the other. -/
theorem error_iff
    {x : Except ε α} {y : Except ε β}
    (hTogether : Together R x y) :
    (∃ e, x = .error e) ↔ ∃ e, y = .error e := by
  cases hTogether with
  | ok hRelated => simp
  | error e e' => simp

end Together

end Fallible
