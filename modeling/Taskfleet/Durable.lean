import Mathlib.Logic.Function.Basic

/-
  Programs that change a durable state by a sequence of
  atomic writes and may be cut between any two of them.

  A program run from a state yields its trail, the list of
  labelled states it leaves on stable storage, and either a
  value or an error. A crash leaves one state of the trail.
  The calculus below carries, besides the postconditions of
  a normal and of a failed return, a crash condition that
  holds at every state of the trail.

  Main declarations:
    * `Durable`, `Durable.settle`, `Durable.final`
    * `Durable.wp` and its rules, `Durable.Keeps`
    * `Durable.Reach`, `Durable.Reach.invariant`
    * `Durable.ReachWhen`, `Durable.Leaves`
    * `Durable.cutAt`, `Durable.attempt`
    * `Durable.view`, `Durable.Reach.of_view`
-/

------------------------------------------------------------
-- Programs and Their Trails
------------------------------------------------------------

/-
  A program over durable states `σ` with write labels `τ`,
  errors `ε` and results `α`.
-/
def Durable (τ σ ε α : Type) : Type :=
  σ → List (τ × σ) × Except ε α

namespace Durable

variable {τ σ ε α β : Type}

/- The state a trail leaves behind when it starts at `s`. -/
def settle (s : σ) : List (τ × σ) → σ
| [] => s
| (_, s') :: rest => settle s' rest

@[simp] theorem settle_nil (s : σ) :
    settle s ([] : List (τ × σ)) = s := rfl

@[simp] theorem settle_cons
    (s s' : σ)
    (t : τ)
    (rest : List (τ × σ)) :
    settle s ((t, s') :: rest) = settle s' rest := rfl

@[simp] theorem settle_append
    (s : σ)
    (first second : List (τ × σ)) :
    settle s (first ++ second) =
      settle (settle s first) second := by
  induction first generalizing s with
  | nil => rfl
  | cons entry rest ih =>
      rcases entry with ⟨t, s'⟩
      exact ih s'

/- Return a value without writing. -/
def ret (a : α) : Durable τ σ ε α :=
  fun _ => ([], .ok a)

/- Fail without writing. -/
def fail (e : ε) : Durable τ σ ε α :=
  fun _ => ([], .error e)

/- Read the durable state. -/
def read : Durable τ σ ε σ :=
  fun s => ([], .ok s)

/- Return the value of a pure computation that may fail. -/
def lift (x : Except ε α) : Durable τ σ ε α :=
  fun _ => ([], x)

/- Perform one atomic labelled write. -/
def write (t : τ) (f : σ → σ) : Durable τ σ ε Unit :=
  fun s => ([(t, f s)], .ok ())

/- Run a program, then another one that sees its result. -/
def andThen
    (x : Durable τ σ ε α)
    (f : α → Durable τ σ ε β) :
    Durable τ σ ε β :=
  fun s =>
    match x s with
    | (trail, .error e) => (trail, .error e)
    | (trail, .ok a) =>
        (trail ++ (f a (settle s trail)).1,
          (f a (settle s trail)).2)

/- Run a program and answer a failure with a value. -/
def orReturn (a : α) (x : Durable τ σ ε α) :
    Durable τ σ ε α :=
  fun s =>
    match x s with
    | (trail, .error _) => (trail, .ok a)
    | (trail, .ok b) => (trail, .ok b)

instance : Monad (Durable τ σ ε) where
  pure := ret
  bind := andThen

/- The state a program leaves when it is not interrupted. -/
def final (x : Durable τ σ ε α) (s : σ) : σ :=
  settle s (x s).1

/- The value or error of an uninterrupted run. -/
def result (x : Durable τ σ ε α) (s : σ) : Except ε α :=
  (x s).2

------------------------------------------------------------
-- Crash-Aware Weakest Preconditions
------------------------------------------------------------

/-
  The run of `x` from `s` meets the crash condition `C` at
  every state of its trail, and the postcondition `Q` or the
  error condition `E` where it ends.
-/
def wp
    (x : Durable τ σ ε α)
    (Q : α → σ → Prop)
    (E : ε → σ → Prop)
    (C : τ → σ → Prop)
    (s : σ) : Prop :=
  (∀ entry ∈ (x s).1, C entry.1 entry.2) ∧
    match (x s).2 with
    | .ok a => Q a (settle s (x s).1)
    | .error e => E e (settle s (x s).1)

variable {Q Q' : α → σ → Prop} {R : β → σ → Prop}
variable {E E' : ε → σ → Prop} {C C' : τ → σ → Prop}
variable {s : σ}

@[simp] theorem wp_ret (a : α) :
    wp (ret a : Durable τ σ ε α) Q E C s ↔ Q a s := by
  simp [wp, ret]

@[simp] theorem wp_pure (a : α) :
    wp (pure a : Durable τ σ ε α) Q E C s ↔ Q a s :=
  wp_ret a

@[simp] theorem wp_fail (e : ε) :
    wp (fail e : Durable τ σ ε α) Q E C s ↔ E e s := by
  simp [wp, fail]

@[simp] theorem wp_read
    {Q : σ → σ → Prop} :
    wp (read : Durable τ σ ε σ) Q E C s ↔ Q s s := by
  simp [wp, read]

theorem wp_lift (x : Except ε α) :
    wp (lift x : Durable τ σ ε α) Q E C s ↔
      match x with
      | .ok a => Q a s
      | .error e => E e s := by
  cases x <;> simp [wp, lift]

@[simp] theorem wp_lift_ok (a : α) :
    wp (lift (.ok a) : Durable τ σ ε α) Q E C s ↔
      Q a s := by
  simp [wp_lift]

@[simp] theorem wp_lift_error (e : ε) :
    wp (lift (.error e) : Durable τ σ ε α) Q E C s ↔
      E e s := by
  simp [wp_lift]

@[simp] theorem wp_write
    {Q : Unit → σ → Prop}
    (t : τ)
    (f : σ → σ) :
    wp (write t f : Durable τ σ ε Unit) Q E C s ↔
      C t (f s) ∧ Q () (f s) := by
  simp [wp, write]

/- Sequencing: the first program ends where the second starts. -/
@[simp] theorem wp_bind
    (x : Durable τ σ ε α)
    (f : α → Durable τ σ ε β) :
    wp (x >>= f) R E C s ↔
      wp x (fun a s' => wp (f a) R E C s') E C s := by
  change wp (andThen x f) R E C s ↔ _
  rcases hRun : x s with ⟨trail, value⟩
  cases value with
  | error e => simp [wp, andThen, hRun]
  | ok a =>
      simp only [wp, andThen, hRun, List.mem_append,
        settle_append]
      constructor
      · rintro ⟨hCrash, hEnd⟩
        exact
          ⟨fun entry hEntry => hCrash entry (.inl hEntry),
            fun entry hEntry => hCrash entry (.inr hEntry),
            hEnd⟩
      · rintro ⟨hFirst, hSecond, hEnd⟩
        refine ⟨?_, hEnd⟩
        rintro entry (hEntry | hEntry)
        · exact hFirst entry hEntry
        · exact hSecond entry hEntry

theorem wp_orReturn {x : Durable τ σ ε α} (a : α) :
    wp (x.orReturn a) Q E C s ↔
      wp x Q (fun _ => Q a) C s := by
  unfold wp orReturn
  rcases hRun : x s with ⟨trail, result⟩
  cases result with
  | error e => rfl
  | ok b => rfl

theorem wp_mono
    {x : Durable τ σ ε α}
    (hRun : wp x Q E C s)
    (hQ : ∀ a s', Q a s' → Q' a s')
    (hE : ∀ e s', E e s' → E' e s')
    (hC : ∀ t s', C t s' → C' t s') :
    wp x Q' E' C' s := by
  refine ⟨fun entry hEntry => hC _ _ (hRun.1 entry hEntry), ?_⟩
  have hEnd := hRun.2
  cases hValue : (x s).2 with
  | ok a =>
      simp only [hValue] at hEnd ⊢
      exact hQ _ _ hEnd
  | error e =>
      simp only [hValue] at hEnd ⊢
      exact hE _ _ hEnd

/- Every program meets conditions that ask nothing. -/
theorem wp_trivial (x : Durable τ σ ε α) (s : σ) :
    wp x (fun _ _ => True) (fun _ _ => True)
      (fun _ _ => True) s := by
  refine ⟨fun _ _ => trivial, ?_⟩
  cases (x s).2 <;> trivial

/- Two accounts of one run hold together. -/
theorem wp_and
    {x : Durable τ σ ε α}
    (hFirst : wp x Q E C s)
    (hSecond : wp x Q' E' C' s) :
    wp x (fun a s' => Q a s' ∧ Q' a s')
      (fun e s' => E e s' ∧ E' e s')
      (fun t s' => C t s' ∧ C' t s') s := by
  refine ⟨fun entry hEntry =>
    ⟨hFirst.1 entry hEntry, hSecond.1 entry hEntry⟩, ?_⟩
  have hEnd := hFirst.2
  have hEnd' := hSecond.2
  cases hValue : (x s).2 with
  | ok a =>
      simp only [hValue] at hEnd hEnd' ⊢
      exact ⟨hEnd, hEnd'⟩
  | error e =>
      simp only [hValue] at hEnd hEnd' ⊢
      exact ⟨hEnd, hEnd'⟩

/- A program that succeeds reaches its postcondition. -/
theorem wp_ok
    {x : Durable τ σ ε α}
    {a : α}
    (hRun : wp x Q E C s)
    (hOk : x.result s = .ok a) :
    Q a (x.final s) := by
  have hEnd := hRun.2
  rw [show (x s).2 = .ok a from hOk] at hEnd
  exact hEnd

/- A program that cannot fail returns, in its postcondition. -/
theorem wp_total
    {x : Durable τ σ ε α}
    (hRun : wp x Q (fun _ _ => False) C s) :
    ∃ a, x.result s = .ok a ∧ Q a (x.final s) := by
  have hEnd := hRun.2
  unfold result final
  cases hValue : (x s).2 with
  | ok a => exact ⟨a, rfl, by simpa [hValue] using hEnd⟩
  | error e => simp [hValue] at hEnd

/- A program that cannot return fails as it must. -/
theorem wp_fails
    {x : Durable τ σ ε α}
    (hRun : wp x (fun _ _ => False) E C s) :
    ∃ e, x.result s = .error e ∧ E e (x.final s) := by
  have hEnd := hRun.2
  unfold result final
  cases hValue : (x s).2 with
  | ok a => simp [hValue] at hEnd
  | error e => exact ⟨e, rfl, by simpa [hValue] using hEnd⟩

/- A condition on both ends holds of the final state. -/
theorem wp_final
    {x : Durable τ σ ε α}
    {I : σ → Prop}
    (hRun : wp x (fun _ => I) (fun _ => I) C s) :
    I (x.final s) := by
  have hEnd := hRun.2
  unfold final
  cases hValue : (x s).2 <;> simpa [hValue] using hEnd

/- A program ends in its final state. -/
theorem wp_ended
    {x : Durable τ σ ε α}
    (hRun : wp x Q E C s) :
    wp x (fun a s' => s' = x.final s ∧ Q a s')
      (fun e s' => s' = x.final s ∧ E e s') C s := by
  refine ⟨hRun.1, ?_⟩
  have hEnd := hRun.2
  unfold final
  cases hValue : (x s).2 <;>
    exact ⟨rfl, by simpa [hValue] using hEnd⟩

/- A program known to return leaves its value and state. -/
theorem wp_returned
    {x : Durable τ σ ε α}
    {a : α}
    (hOk : x.result s = .ok a) :
    wp x (fun b s' => b = a ∧ s' = x.final s)
      (fun _ _ => False) (fun _ _ => True) s := by
  refine ⟨fun _ _ => trivial, ?_⟩
  rw [show (x s).2 = .ok a from hOk]
  exact ⟨rfl, rfl⟩

/- A program that fails meets its error condition. -/
theorem wp_error
    {x : Durable τ σ ε α}
    {e : ε}
    (hRun : wp x Q E C s)
    (hError : x.result s = .error e) :
    E e (x.final s) := by
  have hEnd := hRun.2
  rw [show (x s).2 = .error e from hError] at hEnd
  exact hEnd

------------------------------------------------------------
-- Kept Properties
------------------------------------------------------------

/- A property that a program keeps at its ends and cuts. -/
def Keeps (I : σ → Prop) (x : Durable τ σ ε α) : Prop :=
  ∀ s, I s → wp x (fun _ => I) (fun _ => I) (fun _ => I) s

namespace Keeps

variable {I : σ → Prop}

theorem pure (a : α) :
    Keeps I (Pure.pure a : Durable τ σ ε α) :=
  fun _ hI => wp_pure a |>.mpr hI

theorem fail (e : ε) :
    Keeps I (Durable.fail e : Durable τ σ ε α) :=
  fun _ hI => wp_fail e |>.mpr hI

theorem lift (x : Except ε α) :
    Keeps I (Durable.lift x : Durable τ σ ε α) := by
  intro s hI
  rw [wp_lift]
  split <;> exact hI

theorem bind
    {x : Durable τ σ ε α} {f : α → Durable τ σ ε β}
    (hFirst : Keeps I x)
    (hRest : ∀ a, Keeps I (f a)) :
    Keeps I (x >>= f) := by
  intro s hI
  rw [wp_bind]
  exact wp_mono (hFirst s hI) (fun a s' hI' => hRest a s' hI')
    (fun _ _ h => h) (fun _ _ h => h)

/- What is read is any state with the property. -/
theorem read
    {f : σ → Durable τ σ ε β}
    (hRest : ∀ s, I s → Keeps I (f s)) :
    Keeps I (Durable.read >>= f) := by
  intro s hI
  rw [wp_bind, wp_read]
  exact hRest s hI s hI

theorem write
    {t : τ} {f : σ → σ}
    (hWrite : ∀ s, I s → I (f s)) :
    Keeps I (Durable.write t f : Durable τ σ ε Unit) := by
  intro s hI
  rw [wp_write]
  exact ⟨hWrite s hI, hWrite s hI⟩

theorem ite
    {p : Prop} [Decidable p] {x y : Durable τ σ ε α}
    (hThen : p → Keeps I x)
    (hElse : ¬ p → Keeps I y) :
    Keeps I (if p then x else y) := by
  split
  next hp => exact hThen hp
  next hp => exact hElse hp

end Keeps

/- The trail of a sequence: the first part, then the rest. -/
theorem mem_bind_left
    {x : Durable τ σ ε α} {f : α → Durable τ σ ε β}
    {entry : τ × σ}
    (hEntry : entry ∈ (x s).1) :
    entry ∈ ((x >>= f) s).1 := by
  change entry ∈ (andThen x f s).1
  unfold andThen
  split
  next hRun =>
    rw [hRun] at hEntry
    exact hEntry
  next hRun =>
    rw [hRun] at hEntry
    exact List.mem_append_left _ hEntry

/- Labels alone, as a crash condition. -/
theorem wp_labels
    {x : Durable τ σ ε α} {A : τ → Prop} :
    wp x (fun _ _ => True) (fun _ _ => True) (fun t _ => A t)
        s ↔
      ∀ entry ∈ (x s).1, A entry.1 := by
  constructor
  · intro hRun
    exact hRun.1
  · intro hAll
    apply And.intro hAll
    split <;> trivial

theorem mem_bind_right
    {x : Durable τ σ ε α} {f : α → Durable τ σ ε β}
    {a : α} {entry : τ × σ}
    (hOk : x.result s = .ok a)
    (hEntry : entry ∈ (f a (x.final s)).1) :
    entry ∈ ((x >>= f) s).1 := by
  change entry ∈ (andThen x f s).1
  unfold andThen
  unfold result at hOk
  unfold final at hEntry
  split
  next hRun =>
    rw [hRun] at hOk
    cases hOk
  next hRun =>
    rw [hRun] at hOk hEntry
    cases hOk
    exact List.mem_append_right _ hEntry

/-
  A property that a program keeps in the runs whose writes
  all have allowed labels. What a label tells of its write is
  then known wherever the write is looked at.
-/
def KeepsWhen
    (A : τ → Prop) (I : σ → Prop) (x : Durable τ σ ε α) :
    Prop :=
  ∀ s, I s → (∀ entry ∈ (x s).1, A entry.1) →
    wp x (fun _ => I) (fun _ => I) (fun _ => I) s

namespace KeepsWhen

variable {A : τ → Prop} {I : σ → Prop}

theorem keeps
    {x : Durable τ σ ε α}
    (hKeeps : KeepsWhen A I x)
    (hAll : ∀ t, A t) : Keeps I x :=
  fun s hI => hKeeps s hI (fun entry _ => hAll entry.1)

theorem pure (a : α) :
    KeepsWhen A I (Pure.pure a : Durable τ σ ε α) :=
  fun s hI _ => Keeps.pure a s hI

theorem fail (e : ε) :
    KeepsWhen A I (Durable.fail e : Durable τ σ ε α) :=
  fun s hI _ => Keeps.fail e s hI

theorem lift (x : Except ε α) :
    KeepsWhen A I (Durable.lift x : Durable τ σ ε α) :=
  fun s hI _ => Keeps.lift x s hI

theorem bind
    {x : Durable τ σ ε α} {f : α → Durable τ σ ε β}
    (hFirst : KeepsWhen A I x)
    (hRest : ∀ a, KeepsWhen A I (f a)) :
    KeepsWhen A I (x >>= f) := by
  intro s hI hAll
  have hRun :=
    hFirst s hI (fun entry h => hAll entry (mem_bind_left h))
  rw [wp_bind]
  apply And.intro hRun.1
  have hEnd := hRun.2
  cases hOk : (x s).2 with
  | error e =>
      rw [hOk] at hEnd
      exact hEnd
  | ok a =>
      rw [hOk] at hEnd
      exact hRest a _ hEnd
        (fun entry h => hAll entry (mem_bind_right hOk h))

/- What is read is any state with the property. -/
theorem read
    {f : σ → Durable τ σ ε β}
    (hRest : ∀ s, I s → KeepsWhen A I (f s)) :
    KeepsWhen A I (Durable.read >>= f) := by
  intro s hI hAll
  rw [wp_bind, wp_read]
  exact hRest s hI s hI
    (fun entry h => hAll entry (mem_bind_right rfl h))

theorem write
    {t : τ} {f : σ → σ}
    (hWrite : ∀ s, A t → I s → I (f s)) :
    KeepsWhen A I (Durable.write t f : Durable τ σ ε Unit) := by
  intro s hI hAll
  have hAllowed : A t := hAll (t, f s) (by simp [Durable.write])
  rw [wp_write]
  exact ⟨hWrite s hAllowed hI, hWrite s hAllowed hI⟩

theorem ite
    {p : Prop} [Decidable p] {x y : Durable τ σ ε α}
    (hThen : p → KeepsWhen A I x)
    (hElse : ¬ p → KeepsWhen A I y) :
    KeepsWhen A I (if p then x else y) := by
  split
  next hp => exact hThen hp
  next hp => exact hElse hp

end KeepsWhen

------------------------------------------------------------
-- Interrupted Runs
------------------------------------------------------------

/-
  The states left by a sequence of programs, each of which
  either runs to its end or is cut after one of its writes.
  `Cut i s t` says that program `i`, started at `s`, may be
  cut after a write labelled `t`.
-/
inductive Reach
    {ι : Type}
    (program : ι → Durable τ σ ε α)
    (Init : σ → Prop)
    (Cut : ι → σ → τ → Prop) : σ → Prop where
| start {s : σ} (hInit : Init s) :
    Reach program Init Cut s
| done {s : σ} (i : ι)
    (hReach : Reach program Init Cut s) :
    Reach program Init Cut ((program i).final s)
| cut {s s' : σ} {t : τ} (i : ι)
    (hReach : Reach program Init Cut s)
    (hEntry : (t, s') ∈ (program i s).1)
    (hCut : Cut i s t) :
    Reach program Init Cut s'

/-
  A property that the first states have, and that every
  program keeps both at its end and at each allowed cut,
  holds of every state reached.
-/
theorem Reach.invariant
    {ι : Type}
    {program : ι → Durable τ σ ε α}
    {Init : σ → Prop}
    {Cut : ι → σ → τ → Prop}
    {I : σ → Prop}
    (hInit : ∀ s, Init s → I s)
    (hStep :
      ∀ i s, I s →
        wp (program i) (fun _ => I) (fun _ => I)
          (fun t s' => Cut i s t → I s') s)
    {s : σ}
    (hReach : Reach program Init Cut s) :
    I s := by
  induction hReach with
  | start hStart => exact hInit _ hStart
  | done i _ ih => exact wp_final (hStep i _ ih)
  | cut i _ hEntry hCut ih =>
      exact (hStep i _ ih).1 _ hEntry hCut

/-
  As `Reach`, for runs in which a program starts only where
  it is allowed to.
-/
inductive ReachWhen
    {ι : Type}
    (program : ι → Durable τ σ ε α)
    (Init : σ → Prop)
    (Allowed : ι → σ → Prop) : σ → Prop where
| start {s : σ} (hInit : Init s) :
    ReachWhen program Init Allowed s
| done {s : σ} (i : ι)
    (hReach : ReachWhen program Init Allowed s)
    (hAllowed : Allowed i s) :
    ReachWhen program Init Allowed ((program i).final s)
| cut {s s' : σ} {t : τ} (i : ι)
    (hReach : ReachWhen program Init Allowed s)
    (hAllowed : Allowed i s)
    (hEntry : (t, s') ∈ (program i s).1) :
    ReachWhen program Init Allowed s'

theorem ReachWhen.invariant
    {ι : Type}
    {program : ι → Durable τ σ ε α}
    {Init : σ → Prop}
    {Allowed : ι → σ → Prop}
    {I : σ → Prop}
    (hInit : ∀ s, Init s → I s)
    (hStep :
      ∀ i s, I s → Allowed i s →
        wp (program i) (fun _ => I) (fun _ => I)
          (fun _ => I) s)
    {s : σ}
    (hReach : ReachWhen program Init Allowed s) :
    I s := by
  induction hReach with
  | start hStart => exact hInit _ hStart
  | done i _ hAllowed ih =>
      exact wp_final (hStep i _ ih hAllowed)
  | cut i _ hAllowed hEntry ih =>
      exact (hStep i _ ih hAllowed).1 _ hEntry

/- The states a program may leave, cut or not. -/
def Leaves (x : Durable τ σ ε α) (s s' : σ) : Prop :=
  s' = x.final s ∨ ∃ t, (t, s') ∈ (x s).1

theorem wp_leaves
    {x : Durable τ σ ε α}
    {I : σ → Prop}
    {s' : σ}
    (hRun : wp x (fun _ => I) (fun _ => I) (fun _ => I) s)
    (hLeaves : x.Leaves s s') : I s' := by
  rcases hLeaves with rfl | ⟨t, hEntry⟩
  · exact wp_final hRun
  · exact hRun.1 _ hEntry

theorem KeepsWhen.leaves
    {x : Durable τ σ ε α}
    {A : τ → Prop}
    {I : σ → Prop}
    {s' : σ}
    (hKeeps : KeepsWhen A I x)
    (hI : I s)
    (hAll : ∀ entry ∈ (x s).1, A entry.1)
    (hLeaves : x.Leaves s s') : I s' :=
  wp_leaves (hKeeps s hI hAll) hLeaves

/- The state a program leaves when cut after write `n`. -/
def cutAt
    (n : Nat) (x : Durable τ σ ε α) (s : σ) : σ :=
  (((x s).1[n]?).map Prod.snd).getD s

/- A run to the end, or one that fails after write `n`. -/
def attempt
    (cut : Option Nat) (x : Durable τ σ ε α) (s : σ) :
    σ × Option α :=
  match cut with
  | none => (x.final s, (x.result s).toOption)
  | some n => (x.cutAt n s, none)

theorem leaves_cutAt
    {x : Durable τ σ ε α}
    {n : Nat}
    (hWithin : n < (x s).1.length) :
    x.Leaves s (x.cutAt n s) := by
  unfold cutAt
  rw [List.getElem?_eq_getElem hWithin]
  exact .inr ⟨_, List.getElem_mem hWithin⟩

theorem wp_cutAt
    {x : Durable τ σ ε α}
    {I : σ → Prop}
    {n : Nat}
    (hRun : wp x Q E C s)
    (hHere : I s)
    (hCut : ∀ entry, (x s).1[n]? = some entry →
      C entry.1 entry.2 → I entry.2) :
    I (x.cutAt n s) := by
  unfold cutAt
  cases hEntry : (x s).1[n]? with
  | none => exact hHere
  | some entry =>
      exact hCut entry hEntry
        (hRun.1 entry (List.mem_of_getElem? hEntry))

theorem Keeps.attempt
    {x : Durable τ σ ε α}
    {I : σ → Prop}
    (hKeeps : Keeps I x)
    (hHere : I s)
    (cut : Option Nat) :
    I (x.attempt cut s).1 := by
  have hRun := hKeeps s hHere
  cases cut with
  | none => exact wp_final hRun
  | some n => exact wp_cutAt hRun hHere (fun _ _ h => h)

/- A cut by position, its label tested. -/
theorem Reach.cutAt
    {ι : Type}
    {program : ι → Durable τ σ ε α}
    {Init : σ → Prop}
    {Cut : ι → σ → τ → Prop}
    {s : σ}
    (i : ι)
    (n : Nat)
    (allowed : τ → Bool)
    (hAllowed : ∀ t, allowed t = true → Cut i s t)
    (hReach : Reach program Init Cut s)
    (hLabel :
      ((program i s).1[n]?).any
        (fun entry => allowed entry.1) = true) :
    Reach program Init Cut (Durable.cutAt n (program i) s) := by
  unfold Durable.cutAt
  cases hEntry : (program i s).1[n]? with
  | none => exact hReach
  | some entry =>
      rw [hEntry] at hLabel
      exact .cut i hReach (List.mem_of_getElem? hEntry)
        (hAllowed _ hLabel)

/- Allowing more cuts reaches more states. -/
theorem Reach.mono
    {ι : Type}
    {program : ι → Durable τ σ ε α}
    {Init : σ → Prop}
    {Cut Cut' : ι → σ → τ → Prop}
    (hCut : ∀ i s t, Cut i s t → Cut' i s t)
    {s : σ}
    (hReach : Reach program Init Cut s) :
    Reach program Init Cut' s := by
  induction hReach with
  | start hInit => exact .start hInit
  | done i _ ih => exact .done i ih
  | cut i _ hEntry hAllowed ih =>
      exact .cut i ih hEntry (hCut _ _ _ hAllowed)

/- Programs among others reach what the others reach. -/
theorem Reach.among
    {ι κ : Type}
    {program : ι → Durable τ σ ε α}
    {program' : κ → Durable τ σ ε α}
    {Init : σ → Prop}
    {Cut : ι → σ → τ → Prop}
    {Cut' : κ → σ → τ → Prop}
    (hAmong : ∀ i, ∃ k, program i = program' k ∧
      ∀ s t, Cut i s t → Cut' k s t)
    {s : σ}
    (hReach : Reach program Init Cut s) :
    Reach program' Init Cut' s := by
  induction hReach with
  | start hInit => exact .start hInit
  | done i _ ih =>
      rcases hAmong i with ⟨k, hSame, _⟩
      rw [hSame]
      exact .done k ih
  | cut i _ hEntry hCut ih =>
      rcases hAmong i with ⟨k, hSame, hCuts⟩
      rw [hSame] at hEntry
      exact .cut k ih hEntry (hCuts _ _ hCut)

------------------------------------------------------------
-- Views
------------------------------------------------------------

/-
  The program whose writes leave what `f` makes of the state:
  storage that is read in another form than it was written
  in. The program itself sees its own writes as it made them.
-/
def view (f : σ → σ) (x : Durable τ σ ε α) :
    Durable τ σ ε α :=
  fun s =>
    ((x s).1.map (fun entry => (entry.1, f entry.2)), (x s).2)

@[simp] theorem result_view
    (f : σ → σ) (x : Durable τ σ ε α) (s : σ) :
    (x.view f).result s = x.result s := rfl

theorem settle_map
    (f : σ → σ) (s : σ) (trail : List (τ × σ)) :
    settle (f s) (trail.map (fun entry => (entry.1, f entry.2))) =
      f (settle s trail) := by
  induction trail generalizing s with
  | nil => rfl
  | cons entry rest ih => exact ih entry.2

/- What a viewed program leaves is nothing new, or a view. -/
theorem leaves_view
    {f : σ → σ} {x : Durable τ σ ε α} {s' : σ}
    (hLeaves : (x.view f).Leaves s s') :
    s' = s ∨ ∃ left, x.Leaves s left ∧ s' = f left := by
  rcases hLeaves with rfl | ⟨t, hEntry⟩
  · cases hTrail : (x s).1 with
    | nil =>
        left
        simp [final, view, hTrail]
    | cons entry rest =>
        refine .inr ⟨x.final s, .inl rfl, ?_⟩
        simp only [final, view, hTrail, List.map_cons,
          settle_cons]
        exact settle_map f entry.2 rest
  · rcases List.mem_map.mp hEntry with ⟨entry, hMem, hSame⟩
    cases hSame
    exact .inr ⟨entry.2, .inr ⟨_, hMem⟩, rfl⟩

/- A view that leaves every state alone is none. -/
theorem view_of_fixed
    {f : σ → σ} {x : Durable τ σ ε α}
    (hFixed : ∀ entry ∈ (x s).1, f entry.2 = entry.2) :
    x.view f s = x s := by
  have hTrail :
      (x s).1.map (fun entry => (entry.1, f entry.2)) =
        (x s).1.map id := by
    apply List.map_congr_left
    intro entry hEntry
    rw [hFixed entry hEntry]
    rfl
  rw [List.map_id] at hTrail
  unfold view
  rw [hTrail]

/-
  Runs seen through a view are runs, where the programs keep
  a property whose states the view leaves alone.
-/
theorem Reach.of_view
    {ι : Type}
    {program : ι → Durable τ σ ε α}
    {Init : σ → Prop}
    {Cut : ι → σ → τ → Prop}
    {I : σ → Prop}
    {f : σ → σ}
    (hFixed : ∀ s, I s → f s = s)
    (hInit : ∀ s, Init s → I s)
    (hStep : ∀ i s, Reach program Init Cut s → I s →
      wp (program i) (fun _ => I) (fun _ => I) (fun _ => I) s)
    {s : σ}
    (hReach : Reach (fun i => (program i).view f) Init Cut s) :
    Reach program Init Cut s ∧ I s := by
  induction hReach with
  | start hStart => exact ⟨.start hStart, hInit _ hStart⟩
  | @done s i _ ih =>
      have hRun := hStep i s ih.1 ih.2
      have hSame : (program i).view f s = program i s :=
        view_of_fixed
          (fun entry h => hFixed _ (hRun.1 entry h))
      unfold final
      rw [hSame]
      exact ⟨.done i ih.1, wp_final hRun⟩
  | @cut s s' t i _ hEntry hCut ih =>
      have hRun := hStep i s ih.1 ih.2
      have hSame : (program i).view f s = program i s :=
        view_of_fixed
          (fun entry h => hFixed _ (hRun.1 entry h))
      rw [hSame] at hEntry
      exact ⟨.cut i ih.1 hEntry hCut, hRun.1 _ hEntry⟩

end Durable
