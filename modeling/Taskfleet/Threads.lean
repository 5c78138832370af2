import Mathlib.Logic.Function.Basic
import Taskfleet.Steps

/-
  Programs that ask a shared world one thing at a time, while
  others change it between any two of their commands.

  A program is a tree of commands with a branch for each
  answer. A contract says what the program relies on others
  for, and what it guarantees of each of its own commands.
  Programs run side by side where each guarantees what the
  others rely on, and each may stop at any of its commands.

  Main declarations:
    * `Interface`, `Thread`
    * `Contract`, `Thread.wp` and its rules
    * `Crowd`, `CrowdStep`
    * `Compatible`, `Crowd.Sound.guarantees`
    * `Thread.play`
-/

------------------------------------------------------------
-- Programs
------------------------------------------------------------

namespace Threads

/-
  Commands, their answers, and what the world is like after
  one of them, by who performed it and what was answered.
-/
structure Interface (ι σ : Type) where
  Cmd : Type
  Ans : Cmd → Type
  perform : ι → (c : Cmd) → σ → Ans c → σ → Prop

variable {ι σ ε α β : Type} {I : Interface ι σ}

inductive Thread (I : Interface ι σ) (ε α : Type) where
| ret (a : α)
| fail (e : ε)
| call (c : I.Cmd) (k : I.Ans c → Thread I ε α)

namespace Thread

/- Run a program, then another one that sees its result. -/
def andThen
    (x : Thread I ε α) (f : α → Thread I ε β) :
    Thread I ε β :=
  match x with
  | .ret a => f a
  | .fail e => .fail e
  | .call c k => .call c (fun a => (k a).andThen f)

instance : Monad (Thread I ε) where
  pure := ret
  bind := andThen

/- One command, and its answer. -/
def command (c : I.Cmd) : Thread I ε (I.Ans c) :=
  .call c .ret

/- The value of a computation that asks nothing. -/
def lift : Except ε α → Thread I ε α
| .ok a => .ret a
| .error e => .fail e

end Thread

------------------------------------------------------------
-- Contracts
------------------------------------------------------------

/-
  What one relies on and guarantees. What others do at once
  they may do in many turns, or in none.
-/
structure Contract (I : Interface ι σ) where
  who : ι
  rely : σ → σ → Prop
  guar : I.Cmd → σ → σ → Prop
  refl : ∀ s, rely s s
  trans : ∀ {s s' s''}, rely s s' → rely s' s'' → rely s s''

/- What others leave as it is. -/
def Contract.Stable (K : Contract I) (P : σ → Prop) : Prop :=
  ∀ s s', K.rely s s' → P s → P s'

/- Commands that leave the world alone, all of them. -/
def Contract.Idles (K : Contract I) (S : I.Cmd → Prop) :
    Prop :=
  ∀ c, S c → ∀ s a s', I.perform K.who c s a s' →
    s' = s ∧ K.guar c s s

namespace Thread

/-
  Each command keeps the guarantee wherever others have taken
  the world before it. The program ends in its postcondition,
  or in its error condition, whatever they do after it.
-/
def wp
    (K : Contract I) (Q : α → σ → Prop) (E : ε → σ → Prop) :
    Thread I ε α → σ → Prop
| .ret a, s => ∀ s', K.rely s s' → Q a s'
| .fail e, s => ∀ s', K.rely s s' → E e s'
| .call c k, s =>
    ∀ s' a s'', K.rely s s' → I.perform K.who c s' a s'' →
      K.guar c s' s'' ∧ (k a).wp K Q E s''

variable {K : Contract I} {P : σ → Prop}
variable {Q Q' : α → σ → Prop} {R : β → σ → Prop}
variable {E E' : ε → σ → Prop} {s s' : σ}

theorem wp_rely
    {x : Thread I ε α}
    (hRun : x.wp K Q E s)
    (hRely : K.rely s s') : x.wp K Q E s' := by
  cases x with
  | ret a => exact fun t hNext => hRun t (K.trans hRely hNext)
  | fail e => exact fun t hNext => hRun t (K.trans hRely hNext)
  | call c k =>
      exact fun t a t' hNext hPerform =>
        hRun t a t' (K.trans hRely hNext) hPerform

theorem wp_mono
    {x : Thread I ε α}
    (hRun : x.wp K Q E s)
    (hPost : ∀ a s, Q a s → Q' a s)
    (hError : ∀ e s, E e s → E' e s) : x.wp K Q' E' s := by
  induction x generalizing s with
  | ret a => exact fun t hRely => hPost a t (hRun t hRely)
  | fail e => exact fun t hRely => hError e t (hRun t hRely)
  | call c k ih =>
      intro t a t' hRely hPerform
      have hNext := hRun t a t' hRely hPerform
      exact ⟨hNext.1, ih a hNext.2⟩

theorem bind_assoc
    {γ : Type}
    (x : Thread I ε α) (f : α → Thread I ε β)
    (g : β → Thread I ε γ) :
    (x >>= f) >>= g = x >>= fun a => f a >>= g := by
  induction x with
  | ret a => rfl
  | fail e => rfl
  | call c k ih => exact congrArg (Thread.call c) (funext ih)

theorem wp_bind
    {x : Thread I ε α} {f : α → Thread I ε β}
    (hRun : x.wp K (fun a => (f a).wp K R E) E s) :
    (x >>= f).wp K R E s := by
  induction x generalizing s with
  | ret a => exact hRun s (K.refl s)
  | fail e => exact hRun
  | call c k ih =>
      intro t a t' hRely hPerform
      have hNext := hRun t a t' hRely hPerform
      exact ⟨hNext.1, ih a hNext.2⟩

theorem wp_ret
    {a : α}
    (hStable : K.Stable (Q a))
    (hHere : Q a s) :
    (Pure.pure a : Thread I ε α).wp K Q E s :=
  fun t hRely => hStable s t hRely hHere

/- Any error will do where none is told apart. -/
theorem wp_fail (e : ε) :
    (Thread.fail e : Thread I ε α).wp K Q
      (fun _ _ => True) s :=
  fun _ _ => trivial

/- One goes on with the value of a computation, if any. -/
theorem wp_lift_bind
    {x : Except ε α} {f : α → Thread I ε β}
    (hRun : ∀ a, x = .ok a →
      (f a).wp K R (fun _ _ => True) s) :
    (lift x >>= f).wp K R (fun _ _ => True) s := by
  cases x with
  | ok a => exact hRun a rfl
  | error e => exact wp_fail e

/- A command from where something stable holds. -/
theorem wp_command_bind
    {c : I.Cmd} {f : I.Ans c → Thread I ε β}
    (hStable : K.Stable P)
    (hHere : P s)
    (hRun : ∀ s' a s'', P s' →
      I.perform K.who c s' a s'' →
      K.guar c s' s'' ∧ (f a).wp K R E s'') :
    (command c >>= f).wp K R E s :=
  fun s' a s'' hRely hPerform =>
    hRun s' a s'' (hStable s s' hRely hHere) hPerform

/- Every command of the program is of this kind. -/
def Only (S : I.Cmd → Prop) : Thread I ε α → Prop
| .ret _ | .fail _ => True
| .call c k => S c ∧ ∀ a, (k a).Only S

theorem Only.bind
    {S : I.Cmd → Prop}
    {x : Thread I ε α} {f : α → Thread I ε β}
    (hLeft : x.Only S)
    (hRight : ∀ a, (f a).Only S) : (x >>= f).Only S := by
  induction x with
  | ret a => exact hRight a
  | fail e => trivial
  | call c k ih => exact ⟨hLeft.1, fun a => ih a (hLeft.2 a)⟩

theorem Only.lift
    {S : I.Cmd → Prop} (x : Except ε α) :
    (lift x : Thread I ε α).Only S := by
  cases x with
  | ok a => trivial
  | error e => trivial

/- Whatever such a program returns, what is stable holds. -/
theorem wp_idle
    {S : I.Cmd → Prop} {x : Thread I ε α}
    (hOnly : x.Only S)
    (hIdles : K.Idles S)
    (hStable : K.Stable P)
    (hHere : P s) :
    x.wp K (fun _ => P) (fun _ _ => True) s := by
  induction x generalizing s with
  | ret a => exact fun t hRely => hStable s t hRely hHere
  | fail e => exact fun _ _ => trivial
  | call c k ih =>
      intro t a t' hRely hPerform
      rcases hIdles c hOnly.1 t a t' hPerform with
        ⟨rfl, hGuar⟩
      exact ⟨hGuar,
        ih a (hOnly.2 a) (hStable s t' hRely hHere)⟩

theorem wp_idle_bind
    {S : I.Cmd → Prop}
    {x : Thread I ε α} {f : α → Thread I ε β}
    (hOnly : x.Only S)
    (hIdles : K.Idles S)
    (hStable : K.Stable P)
    (hHere : P s)
    (hRun : ∀ a s, P s →
      (f a).wp K R (fun _ _ => True) s) :
    (x >>= f).wp K R (fun _ _ => True) s :=
  wp_bind (wp_mono (wp_idle hOnly hIdles hStable hHere)
    (fun a s hP => hRun a s hP) (fun _ _ _ => trivial))

end Thread

namespace Contract

variable {K : Contract I} {P P' : σ → Prop}

theorem Stable.and
    (hLeft : K.Stable P) (hRight : K.Stable P') :
    K.Stable (fun s => P s ∧ P' s) :=
  fun s s' hRely hBoth =>
    ⟨hLeft s s' hRely hBoth.1, hRight s s' hRely hBoth.2⟩

end Contract

------------------------------------------------------------
-- Programs Side by Side
------------------------------------------------------------

/- A world, and the programs that are under way in it. -/
structure Crowd (I : Interface ι σ) (ε α : Type) where
  world : σ
  threads : ι → Option (Thread I ε α)

/-
  What goes on: what happens to the world by itself, which
  programs start, and what an end does to the world, be it a
  return, a failure or a crash.
-/
structure Setting (I : Interface ι σ) (ε α : Type) where
  moves : σ → σ → Prop
  starts : ι → Thread I ε α → Prop
  ends : ι → σ → σ → Prop

inductive CrowdAct (I : Interface ι σ) where
| moves
| starts (i : ι)
| calls (i : ι) (c : I.Cmd)
| ends (i : ι)

/- Every program is where its contract wants it. -/
structure Crowd.Sound
    (C : Crowd I ε α) (K : ι → Contract I)
    (Inv : σ → Prop) (Q : ι → α → σ → Prop) : Prop where
  inv : Inv C.world
  threads : ∀ i x, C.threads i = some x →
    x.wp (K i) (Q i) (fun _ _ => True) C.world

section Crowds

variable {K : ι → Contract I} {Inv : σ → Prop}
variable {Q : ι → α → σ → Prop}
variable {C C' : Crowd I ε α} {act : CrowdAct I} {s : σ}

/- Before anything starts, the invariant is all there is. -/
theorem Crowd.sound_of_empty
    (hInv : Inv C.world)
    (hEmpty : ∀ i, C.threads i = none) : C.Sound K Inv Q := by
  refine ⟨hInv, ?_⟩
  intro i x hHere
  rw [hEmpty i] at hHere
  cases hHere

theorem Crowd.Sound.returns
    {i : ι} {a : α}
    (hSound : C.Sound K Inv Q)
    (hHere : C.threads i = some (.ret a)) : Q i a C.world :=
  hSound.threads i _ hHere _ ((K i).refl _)

variable [DecidableEq ι]

inductive CrowdStep (X : Setting I ε α) :
    CrowdAct I → Crowd I ε α → Crowd I ε α → Prop where
| moves (C : Crowd I ε α) (s : σ)
    (hMoves : X.moves C.world s) :
    CrowdStep X .moves C { C with world := s }
| starts (C : Crowd I ε α) (i : ι) (x : Thread I ε α)
    (hFree : C.threads i = none)
    (hStarts : X.starts i x) :
    CrowdStep X (.starts i) C
      { C with
        threads := Function.update C.threads i (some x) }
| calls (C : Crowd I ε α) (i : ι) (c : I.Cmd)
    (k : I.Ans c → Thread I ε α) (a : I.Ans c) (s : σ)
    (hHere : C.threads i = some (.call c k))
    (hPerform : I.perform i c C.world a s) :
    CrowdStep X (.calls i c) C
      { world := s
        threads := Function.update C.threads i (some (k a)) }
| ends (C : Crowd I ε α) (i : ι) (x : Thread I ε α) (s : σ)
    (hHere : C.threads i = some x)
    (hEnds : X.ends i C.world s) :
    CrowdStep X (.ends i) C
      { world := s
        threads := Function.update C.threads i none }

/-
  Each may rely on what goes on beside it, programs meet
  their contracts from where the invariant holds, and nothing
  breaks it.
-/
structure Compatible
    (X : Setting I ε α) (K : ι → Contract I)
    (Inv : σ → Prop) (Q : ι → α → σ → Prop) : Prop where
  who : ∀ i, (K i).who = i
  moves : ∀ i s s', X.moves s s' → (K i).rely s s'
  guar : ∀ i j c s s', i ≠ j → (K i).guar c s s' →
    (K j).rely s s'
  ends : ∀ i j s s', i ≠ j → X.ends i s s' → (K j).rely s s'
  starts : ∀ i x s, X.starts i x → Inv s →
    x.wp (K i) (Q i) (fun _ _ => True) s
  keptMoves : ∀ s s', X.moves s s' → Inv s → Inv s'
  keptGuar : ∀ i c s s', (K i).guar c s s' → Inv s → Inv s'
  keptEnds : ∀ i s s', X.ends i s s' → Inv s → Inv s'

variable {X : Setting I ε α}

/- The program that has its turn is dealt with by itself. -/
theorem Crowd.Sound.update
    {i : ι} {o : Option (Thread I ε α)}
    (hSound : C.Sound K Inv Q)
    (hInv : Inv s)
    (hOthers : ∀ j, i ≠ j → (K j).rely C.world s)
    (hOwn : ∀ x, o = some x →
      x.wp (K i) (Q i) (fun _ _ => True) s) :
    Crowd.Sound
      { world := s, threads := Function.update C.threads i o }
      K Inv Q := by
  refine ⟨hInv, ?_⟩
  intro j x hHere
  dsimp only at hHere
  by_cases hSame : j = i
  · subst hSame
    rw [Function.update_self] at hHere
    exact hOwn x hHere
  · rw [Function.update_of_ne hSame] at hHere
    exact Thread.wp_rely (hSound.threads j x hHere)
      (hOthers j (Ne.symm hSame))

theorem Crowd.Sound.step
    (hCompatible : Compatible X K Inv Q)
    (hSound : C.Sound K Inv Q)
    (hStep : CrowdStep X act C C') : C'.Sound K Inv Q := by
  cases hStep with
  | moves _ s hMoves =>
      refine ⟨hCompatible.keptMoves _ _ hMoves hSound.inv, ?_⟩
      intro i x hHere
      exact Thread.wp_rely (hSound.threads i x hHere)
        (hCompatible.moves i _ _ hMoves)
  | starts _ i x hFree hStarts =>
      apply hSound.update hSound.inv
      · exact fun j _ => (K j).refl _
      · rintro _ ⟨⟩
        exact hCompatible.starts i x _ hStarts hSound.inv
  | calls _ i c k a s hHere hPerform =>
      have hRun := hSound.threads i _ hHere _ a s
        ((K i).refl _) (by rwa [hCompatible.who i])
      apply hSound.update
        (hCompatible.keptGuar i c _ _ hRun.1 hSound.inv)
      · exact fun j hOther =>
          hCompatible.guar i j c _ _ hOther hRun.1
      · rintro _ ⟨⟩
        exact hRun.2
  | ends _ i x s hHere hEnds =>
      apply hSound.update
        (hCompatible.keptEnds i _ _ hEnds hSound.inv)
      · exact fun j hOther =>
          hCompatible.ends i j _ _ hOther hEnds
      · rintro _ ⟨⟩

theorem Crowd.Sound.run
    (hCompatible : Compatible X K Inv Q)
    (hRun : Steps.Run (CrowdStep X) C C')
    (hSound : C.Sound K Inv Q) : C'.Sound K Inv Q :=
  Steps.Run.invariant (I := fun C => C.Sound K Inv Q)
    (fun _ _ _ hStep hHere => hHere.step hCompatible hStep)
    hRun hSound

/- A command of a program in the crowd keeps its contract. -/
theorem Crowd.Sound.guarantees
    {i : ι} {c : I.Cmd}
    (hCompatible : Compatible X K Inv Q)
    (hSound : C.Sound K Inv Q)
    (hStep : CrowdStep X (.calls i c) C C') :
    (K i).guar c C.world C'.world := by
  cases hStep with
  | calls _ _ _ k a s hHere hPerform =>
      exact (hSound.threads i _ hHere _ a s ((K i).refl _)
        (by rwa [hCompatible.who i])).1

------------------------------------------------------------
-- One Program Alone
------------------------------------------------------------

/- A program with its answers, for some of its commands. -/
def Thread.play
    (answer : (c : I.Cmd) → σ → Option (I.Ans c × σ)) :
    Nat → Thread I ε α → σ → Thread I ε α × σ
| 0, x, s => (x, s)
| n + 1, x, s =>
    match x with
    | .ret a => (.ret a, s)
    | .fail e => (.fail e, s)
    | .call c k =>
        match answer c s with
        | some (a, s') => (k a).play answer n s'
        | none => (.call c k, s)

/- What each answer keeps is kept. -/
omit [DecidableEq ι] in
theorem Thread.play_keeps
    {answer : (c : I.Cmd) → σ → Option (I.Ans c × σ)}
    {P : σ → Prop} {x : Thread I ε α} {s : σ}
    (hAnswer : ∀ c s a s', answer c s = some (a, s') →
      P s → P s')
    (n : Nat)
    (hHere : P s) : P (x.play answer n s).2 := by
  induction n generalizing x s with
  | zero => exact hHere
  | succ n ih =>
      unfold Thread.play
      cases x with
      | ret a => exact hHere
      | fail e => exact hHere
      | call c k =>
          dsimp only
          cases hFound : answer c s with
          | none => exact hHere
          | some found => exact ih (hAnswer c s _ _ hFound hHere)

/- It may do so in a crowd, with none of the others moving. -/
theorem CrowdStep.play
    {answer : (c : I.Cmd) → σ → Option (I.Ans c × σ)}
    {i : ι} {x : Thread I ε α}
    (hAnswer : ∀ c s a s', answer c s = some (a, s') →
      I.perform i c s a s')
    (n : Nat)
    (hHere : C.threads i = some x) :
    Steps.Run (CrowdStep X) C
      { world := (x.play answer n C.world).2
        threads :=
          Function.update C.threads i
            (some (x.play answer n C.world).1) } := by
  induction n generalizing x C with
  | zero =>
      unfold Thread.play
      rw [← hHere, Function.update_eq_self]
      exact .refl
  | succ n ih =>
      have hRest :
          Steps.Run (CrowdStep X) C
            { world := C.world
              threads :=
                Function.update C.threads i (some x) } := by
        rw [← hHere, Function.update_eq_self]
        exact .refl
      unfold Thread.play
      cases x with
      | ret a => exact hRest
      | fail e => exact hRest
      | call c k =>
          dsimp only
          cases hFound : answer c C.world with
          | none => exact hRest
          | some found =>
              have hOne : CrowdStep X (.calls i c) C _ :=
                .calls C i c k found.1 found.2 hHere
                  (hAnswer c C.world _ _ hFound)
              have hNow :
                  Function.update C.threads i
                    (some (k found.1)) i = some (k found.1) :=
                Function.update_self _ _ _
              have hMore := ih
                (C :=
                  { world := found.2
                    threads :=
                      Function.update C.threads i
                        (some (k found.1)) })
                hNow
              rw [Function.update_idem] at hMore
              exact Steps.RunWhen.trans
                (Steps.Run.next .refl hOne) hMore

end Crowds

end Threads
