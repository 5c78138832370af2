import Mathlib.Logic.Relation

/-
  Runs of a labelled step relation, and of the steps that
  meet a condition on their label and the state before them.

  Main declarations:
    * `Steps.RunWhen`, `Steps.Run`
    * `Steps.RunWhen.invariant`, `Steps.Run.invariant`
-/

------------------------------------------------------------
-- Runs
------------------------------------------------------------

namespace Steps

variable {σ α : Type}
variable {step : α → σ → σ → Prop} {met : α → σ → Prop}
variable {s s' s'' : σ}

/- What steps lead to, each of which meets the condition. -/
def RunWhen
    (step : α → σ → σ → Prop) (met : α → σ → Prop) :
    σ → σ → Prop :=
  Relation.ReflTransGen (fun s s' => ∃ a, met a s ∧ step a s s')

/- What steps lead to. -/
def Run (step : α → σ → σ → Prop) : σ → σ → Prop :=
  RunWhen step (fun _ _ => True)

theorem RunWhen.refl : RunWhen step met s s :=
  Relation.ReflTransGen.refl

theorem RunWhen.next
    {a : α}
    (hRun : RunWhen step met s s')
    (hMet : met a s')
    (hStep : step a s' s'') : RunWhen step met s s'' :=
  Relation.ReflTransGen.tail hRun ⟨a, hMet, hStep⟩

theorem RunWhen.trans
    (hFirst : RunWhen step met s s')
    (hSecond : RunWhen step met s' s'') :
    RunWhen step met s s'' :=
  Relation.ReflTransGen.trans hFirst hSecond

theorem Run.next
    {a : α}
    (hRun : Run step s s')
    (hStep : step a s' s'') : Run step s s'' :=
  RunWhen.next hRun trivial hStep

/- What each step keeps holds wherever a run leads. -/
theorem RunWhen.invariant
    {I : σ → Prop}
    (hStep : ∀ a s s', met a s → step a s s' → I s → I s')
    (hRun : RunWhen step met s s')
    (hStart : I s) : I s' := by
  induction hRun with
  | refl => exact hStart
  | tail _ hNext ih =>
      rcases hNext with ⟨a, hMet, hOne⟩
      exact hStep a _ _ hMet hOne ih

theorem Run.invariant
    {I : σ → Prop}
    (hStep : ∀ a s s', step a s s' → I s → I s')
    (hRun : Run step s s')
    (hStart : I s) : I s' :=
  RunWhen.invariant (fun a s s' _ => hStep a s s') hRun hStart

end Steps
