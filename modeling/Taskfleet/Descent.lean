import Mathlib.Data.List.Pairwise

/-
  Loops that end because their state gets smaller with every
  turn, with the states they go through.

  Main declarations:
    * `Descent.Loop`, `Descent.Loop.run`
    * `Descent.Loop.visited`
    * `Descent.Loop.induct`, `Descent.Loop.rule`
    * `Descent.Loop.pairwise_visited`
-/

------------------------------------------------------------
-- Loops
------------------------------------------------------------

namespace Descent

/- How one turn of a loop ends. -/
inductive Turn (σ ρ : Type) where
| done (r : ρ)
| again (s : σ)

/- The body of a loop, and what gets smaller with it. -/
structure Loop (σ ρ : Type) where
  turn : σ → Turn σ ρ
  size : σ → Nat
  descends : ∀ {s s' : σ},
    turn s = .again s' → size s' < size s

namespace Loop

variable {σ ρ : Type}

/- What the loop returns. -/
def run (l : Loop σ ρ) (s : σ) : ρ :=
  match _hTurn : l.turn s with
  | .done r => r
  | .again s' => l.run s'
termination_by l.size s
decreasing_by exact l.descends _hTurn

/- The states at the beginnings of its turns. -/
def visited (l : Loop σ ρ) (s : σ) : List σ :=
  match _hTurn : l.turn s with
  | .done _ => [s]
  | .again s' => s :: l.visited s'
termination_by l.size s
decreasing_by exact l.descends _hTurn

section Equations

variable {l : Loop σ ρ} {s s' : σ} {r : ρ}

theorem run_done (hTurn : l.turn s = .done r) :
    l.run s = r := by
  rw [run]
  split
  next found hFound =>
    rw [hTurn] at hFound
    cases hFound
    rfl
  next found hFound =>
    rw [hTurn] at hFound
    cases hFound

theorem run_again (hTurn : l.turn s = .again s') :
    l.run s = l.run s' := by
  rw [run]
  split
  next found hFound =>
    rw [hTurn] at hFound
    cases hFound
  next found hFound =>
    rw [hTurn] at hFound
    cases hFound
    rfl

theorem visited_done (hTurn : l.turn s = .done r) :
    l.visited s = [s] := by
  rw [visited]
  split
  next found hFound => rfl
  next found hFound =>
    rw [hTurn] at hFound
    cases hFound

theorem visited_again (hTurn : l.turn s = .again s') :
    l.visited s = s :: l.visited s' := by
  rw [visited]
  split
  next found hFound =>
    rw [hTurn] at hFound
    cases hFound
  next found hFound =>
    rw [hTurn] at hFound
    cases hFound
    rfl

end Equations

------------------------------------------------------------
-- Rules
------------------------------------------------------------

/- Induction along the turns that a loop makes. -/
theorem induct
    (l : Loop σ ρ)
    {P : σ → Prop}
    (hDone : ∀ s r, l.turn s = .done r → P s)
    (hAgain : ∀ s s', l.turn s = .again s' → P s' → P s)
    (s : σ) : P s := by
  induction hSize : l.size s using Nat.strongRecOn
    generalizing s with
  | ind n ih =>
      cases hTurn : l.turn s with
      | done r => exact hDone s r hTurn
      | again s' =>
          have hSmaller := l.descends hTurn
          rw [hSize] at hSmaller
          exact hAgain s s' hTurn (ih _ hSmaller s' rfl)

/- What every turn keeps holds when the loop returns. -/
theorem rule
    (l : Loop σ ρ)
    {P : σ → Prop} {Q : ρ → Prop}
    (hDone : ∀ s r, P s → l.turn s = .done r → Q r)
    (hAgain :
      ∀ s s', P s → l.turn s = .again s' → P s')
    {s : σ} (hStart : P s) : Q (l.run s) := by
  induction s using l.induct with
  | hDone s r hTurn =>
      rw [run_done hTurn]
      exact hDone s r hStart hTurn
  | hAgain s s' hTurn ih =>
      rw [run_again hTurn]
      exact ih (hAgain s s' hStart hTurn)

/- What every turn keeps holds wherever the loop comes. -/
theorem visited_keeps
    (l : Loop σ ρ)
    {P : σ → Prop}
    (hAgain :
      ∀ s s', P s → l.turn s = .again s' → P s')
    {s s' : σ} (hStart : P s)
    (hVisited : s' ∈ l.visited s) : P s' := by
  induction s using l.induct with
  | hDone s r hTurn =>
      rw [visited_done hTurn, List.mem_singleton] at hVisited
      rw [hVisited]
      exact hStart
  | hAgain s next hTurn ih =>
      rw [visited_again hTurn, List.mem_cons] at hVisited
      rcases hVisited with hHere | hLater
      · rw [hHere]
        exact hStart
      · exact ih (hAgain s next hStart hTurn) hLater

/-
  A transitive relation between one state and the next holds
  between each state and all later ones.
-/
theorem pairwise_visited
    (l : Loop σ ρ)
    {R : σ → σ → Prop}
    (hTrans : ∀ {a b c}, R a b → R b c → R a c)
    (hAgain : ∀ s s', l.turn s = .again s' → R s s')
    (s : σ) : (l.visited s).Pairwise R := by
  induction s using l.induct with
  | hDone s r hTurn =>
      rw [visited_done hTurn]
      exact List.pairwise_singleton R s
  | hAgain s next hTurn ih =>
      rw [visited_again hTurn, List.pairwise_cons]
      refine ⟨?_, ih⟩
      intro later hLater
      have hNext := hAgain s next hTurn
      have hFirst : next = later ∨ R next later := by
        apply l.visited_keeps
          (P := fun t => next = t ∨ R next t) ?_ (.inl rfl)
          hLater
        intro t t' hT hTurnT
        rcases hT with rfl | hT
        · exact .inr (hAgain _ t' hTurnT)
        · exact .inr (hTrans hT (hAgain t t' hTurnT))
      rcases hFirst with rfl | hFirst
      · exact hNext
      · exact hTrans hNext hFirst

end Loop

end Descent
