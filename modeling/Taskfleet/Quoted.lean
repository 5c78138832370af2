import Mathlib.Data.List.Basic
import Taskfleet.Descent
import Taskfleet.Lines

/-
  Words in single quotes, as a shell has them. There are no
  escapes inside the quotes: a quote of the word itself ends
  the quotes, follows a backslash, and begins them again.

  Main declarations:
    * `Quoted.Signs`, `Quoted.body`, `Quoted.literal`
    * `Quoted.unquote`, `Quoted.run_unquote`
    * `Quoted.readLiteral`, `Quoted.readLiteral_eq_some`
-/

------------------------------------------------------------
-- Quoting
------------------------------------------------------------

namespace Quoted

open Descent (Turn Loop)

/- The two signs of an alphabet that quoting is about. -/
structure Signs (α : Type) where
  quote : α
  backslash : α

variable {α : Type} [DecidableEq α]

/- What begins a quoted word again after a quote ended it. -/
def Signs.resume (q : Signs α) : List α :=
  [q.backslash, q.quote, q.quote]

/- A word between its quotes. -/
def body (q : Signs α) (w : List α) : List α :=
  w.flatMap (fun a =>
    if a = q.quote then q.quote :: q.resume else [a])

def literal (q : Signs α) (w : List α) : List α :=
  q.quote :: (body q w ++ [q.quote])

section Bodies

variable {q : Signs α} {w v : List α}

@[simp] theorem body_nil : body q [] = [] := rfl

theorem body_append :
    body q (w ++ v) = body q w ++ body q v :=
  List.flatMap_append

theorem body_quote :
    body q (q.quote :: w) =
      q.quote :: (q.resume ++ body q w) := by
  unfold body
  rw [List.flatMap_cons, if_pos rfl, List.cons_append]

theorem body_of_notMem (hPlain : q.quote ∉ w) :
    body q w = w := by
  induction w with
  | nil => rfl
  | cons a w ih =>
      rw [List.mem_cons, not_or] at hPlain
      unfold body at ih ⊢
      rw [List.flatMap_cons, if_neg (Ne.symm hPlain.1),
        ih hPlain.2, List.singleton_append]

theorem mem_body {a : α} (hMem : a ∈ body q w) :
    a ∈ w ∨ a = q.quote ∨ a = q.backslash := by
  rcases List.mem_flatMap.mp hMem with ⟨b, hHere, hSign⟩
  by_cases hQuote : b = q.quote
  · rw [if_pos hQuote] at hSign
    simp only [Signs.resume, List.mem_cons, List.not_mem_nil,
      or_false] at hSign
    right
    rcases hSign with rfl | rfl | rfl | rfl
    · exact .inl rfl
    · exact .inr rfl
    · exact .inl rfl
    · exact .inl rfl
  · rw [if_neg hQuote, List.mem_singleton] at hSign
    rw [hSign]
    exact .inl hHere

/- A literal has the signs of its word and those of quoting. -/
theorem mem_literal {a : α} (hMem : a ∈ literal q w) :
    a ∈ w ∨ a = q.quote ∨ a = q.backslash := by
  rw [literal, List.mem_cons, List.mem_append,
    List.mem_singleton] at hMem
  rcases hMem with hOpen | hBody | hClose
  · exact .inr (.inl hOpen)
  · exact mem_body hBody
  · exact .inr (.inl hClose)

/- A word has no quote in it, or a first one. -/
theorem body_cases (q : Signs α) (w : List α) :
    (q.quote ∉ w ∧ body q w = w) ∨
      ∃ plain more, w = plain ++ q.quote :: more ∧
        q.quote ∉ plain ∧
        body q w =
          plain ++ q.quote :: (q.resume ++ body q more) := by
  by_cases hQuote : q.quote ∈ w
  · rcases List.eq_append_cons_of_mem hQuote with
      ⟨plain, more, rfl, hPlain⟩
    refine .inr ⟨plain, more, rfl, hPlain, ?_⟩
    rw [body_append, body_of_notMem hPlain, body_quote]
  · exact .inl ⟨hQuote, body_of_notMem hQuote⟩

end Bodies

------------------------------------------------------------
-- Unquoting
------------------------------------------------------------

/- One turn: up to the next quote, and what it stands for. -/
def unquoteTurn (q : Signs α) (s : List α × List α) :
    Turn (List α × List α) (Option (List α × List α)) :=
  match s.2.idxOf? q.quote with
  | none => .done none
  | some stop =>
      let word := s.1 ++ s.2.take stop
      let rest := s.2.drop (stop + 1)
      match rest.dropPrefix? q.resume with
      | some next => .again (word ++ [q.quote], next)
      | none => .done (some (word, rest))

section Turns

variable {q : Signs α} {word rest plain after next : List α}

theorem unquoteTurn_none (hPlain : q.quote ∉ rest) :
    unquoteTurn q (word, rest) = .done none := by
  unfold unquoteTurn
  rw [List.idxOf?_eq_none_iff.mpr hPlain]

/- A text is cut in one way at its first quote. -/
theorem first_quote_inj
    (hPlain : q.quote ∉ plain) (hWord : q.quote ∉ word)
    (hSame :
      plain ++ q.quote :: after = word ++ q.quote :: rest) :
    plain = word ∧ after = rest := by
  have hIndex := congrArg (List.idxOf? q.quote) hSame
  rw [Lines.idxOf?_line hPlain, Lines.idxOf?_line hWord,
    Option.some.injEq] at hIndex
  have hParts := List.append_inj hSame hIndex
  exact ⟨hParts.1, (List.cons.inj hParts.2).2⟩

theorem unquoteTurn_quote (hPlain : q.quote ∉ plain) :
    unquoteTurn q (word, plain ++ q.quote :: after) =
      match after.dropPrefix? q.resume with
      | some next => .again (word ++ plain ++ [q.quote], next)
      | none => .done (some (word ++ plain, after)) := by
  have hTake :
      (plain ++ q.quote :: after).take plain.length = plain :=
    List.take_left
  have hDrop :
      (plain ++ q.quote :: after).drop (plain.length + 1) =
        after := by
    rw [List.drop_length_add_append]
    rfl
  unfold unquoteTurn
  rw [Lines.idxOf?_line hPlain]
  dsimp only
  rw [hTake, hDrop]

theorem dropPrefix?_resume :
    after.dropPrefix? q.resume = some next ↔
      after = q.resume ++ next := by
  rw [List.dropPrefix?_eq_some_iff]
  constructor
  · intro hDrop
    rcases hDrop with ⟨front, rfl, hFront⟩
    rw [beq_iff_eq.mp hFront]
  · intro hSame
    exact ⟨q.resume, hSame, beq_self_eq_true _⟩

end Turns

/- Read a quoted word that has begun, up to its end. -/
def unquote (q : Signs α) :
    Loop (List α × List α) (Option (List α × List α)) where
  turn := unquoteTurn q
  size := fun s => s.2.length
  descends := by
    intro s s' hTurn
    rcases s with ⟨word, rest⟩
    by_cases hQuote : q.quote ∈ rest
    · rcases List.eq_append_cons_of_mem hQuote with
        ⟨plain, after, rfl, hPlain⟩
      rw [unquoteTurn_quote hPlain] at hTurn
      split at hTurn
      next next hNext =>
        rw [dropPrefix?_resume] at hNext
        cases hTurn
        rw [hNext]
        simp only [List.length_append, List.length_cons]
        omega
      next => cases hTurn
    · rw [unquoteTurn_none hQuote] at hTurn
      cases hTurn

section Reading

variable {q : Signs α} {word rest w tail plain after : List α}

/-
  What is read of a quoted word: the rest of the word, up to
  a closing quote that nothing resumes.
-/
def Closes
    (q : Signs α) (word rest w tail : List α) : Prop :=
  ∃ more, w = word ++ more ∧
    rest = body q more ++ q.quote :: tail ∧
    ¬ q.resume <+: tail

theorem not_closes_of_notMem (hPlain : q.quote ∉ rest) :
    ¬ Closes q word rest w tail := by
  intro hCloses
  rcases hCloses with ⟨more, -, rfl, -⟩
  exact hPlain (by simp)

/- The first quote closes the word, or a quote is in it. -/
theorem closes_quote (hPlain : q.quote ∉ plain) :
    Closes q word (plain ++ q.quote :: after) w tail ↔
      (w = word ++ plain ∧ tail = after ∧
        ¬ q.resume <+: after) ∨
      ∃ next, after = q.resume ++ next ∧
        Closes q (word ++ plain ++ [q.quote]) next w tail := by
  constructor
  · intro hCloses
    rcases hCloses with ⟨more, rfl, hRest, hEnd⟩
    rcases body_cases q more with
      ⟨hMore, hBody⟩ | ⟨first, others, rfl, hFirst, hBody⟩
    · rw [hBody] at hRest
      rcases first_quote_inj hPlain hMore hRest with ⟨rfl, rfl⟩
      exact .inl ⟨rfl, rfl, hEnd⟩
    · rw [hBody, List.append_assoc, List.cons_append] at hRest
      rcases first_quote_inj hPlain hFirst hRest with
        ⟨rfl, rfl⟩
      exact .inr ⟨body q others ++ q.quote :: tail, by simp,
        others, by simp, rfl, hEnd⟩
  · intro hCases
    rcases hCases with
      ⟨rfl, rfl, hEnd⟩ | ⟨next, rfl, more, rfl, rfl, hEnd⟩
    · refine ⟨plain, rfl, ?_, hEnd⟩
      rw [body_of_notMem hPlain]
    · refine ⟨plain ++ q.quote :: more, by simp, ?_, hEnd⟩
      rw [body_append, body_of_notMem hPlain, body_quote]
      simp

/- The loop returns what is there to be read. -/
theorem run_unquote :
    (unquote q).run (word, rest) = some (w, tail) ↔
      Closes q word rest w tail := by
  suffices hAll : ∀ s : List α × List α,
      (unquote q).run s = some (w, tail) ↔
        Closes q s.1 s.2 w tail from hAll (word, rest)
  intro s
  induction s using (unquote q).induct with
  | hDone s r hTurn =>
      rw [Loop.run_done hTurn]
      change unquoteTurn q s = .done r at hTurn
      rcases s with ⟨word, rest⟩
      by_cases hQuote : q.quote ∈ rest
      · rcases List.eq_append_cons_of_mem hQuote with
          ⟨plain, after, rfl, hPlain⟩
        rw [unquoteTurn_quote hPlain] at hTurn
        split at hTurn
        next => cases hTurn
        next hNext =>
          cases hTurn
          have hEnd : ¬ q.resume <+: after := by
            intro hPrefix
            rcases hPrefix with ⟨next, hResume⟩
            rw [dropPrefix?_resume.mpr hResume.symm] at hNext
            cases hNext
          rw [closes_quote hPlain, Option.some.injEq,
            Prod.mk.injEq]
          constructor
          · intro hSame
            exact .inl ⟨hSame.1.symm, hSame.2.symm, hEnd⟩
          · intro hCases
            rcases hCases with ⟨rfl, rfl, -⟩ | ⟨next, rfl, -⟩
            · exact ⟨rfl, rfl⟩
            · exact absurd (List.prefix_append _ _) hEnd
      · rw [unquoteTurn_none hQuote] at hTurn
        cases hTurn
        simp [not_closes_of_notMem hQuote]
  | hAgain s s' hTurn ih =>
      rw [Loop.run_again hTurn, ih]
      change unquoteTurn q s = .again s' at hTurn
      rcases s with ⟨word, rest⟩
      by_cases hQuote : q.quote ∈ rest
      · rcases List.eq_append_cons_of_mem hQuote with
          ⟨plain, after, rfl, hPlain⟩
        rw [unquoteTurn_quote hPlain] at hTurn
        split at hTurn
        next next hNext =>
          rw [dropPrefix?_resume] at hNext
          cases hTurn
          rw [closes_quote hPlain, hNext]
          constructor
          · intro hCloses
            exact .inr ⟨next, rfl, hCloses⟩
          · intro hCases
            rcases hCases with ⟨-, -, hEnd⟩ | ⟨other, hSame, hCloses⟩
            · exact absurd (List.prefix_append _ _) hEnd
            · rw [List.append_cancel_left hSame]
              exact hCloses
        next => cases hTurn
      · rw [unquoteTurn_none hQuote] at hTurn
        cases hTurn

end Reading

/- Read the quoted word that a text begins with. -/
def readLiteral (q : Signs α) (text : List α) :
    Option (List α × List α) := do
  let rest ← text.dropPrefix? [q.quote]
  (unquote q).run ([], rest)

theorem readLiteral_eq_some
    {q : Signs α} {text w tail : List α} :
    readLiteral q text = some (w, tail) ↔
      text = literal q w ++ tail ∧ ¬ q.resume <+: tail := by
  unfold readLiteral
  rw [Option.bind_eq_bind, Option.bind_eq_some_iff]
  constructor
  · intro hRead
    rcases hRead with ⟨rest, hOpen, hRun⟩
    rw [List.dropPrefix?_eq_some_iff] at hOpen
    rcases hOpen with ⟨front, rfl, hFront⟩
    rw [run_unquote] at hRun
    rcases hRun with ⟨more, rfl, rfl, hEnd⟩
    refine ⟨?_, hEnd⟩
    rw [beq_iff_eq.mp hFront]
    simp [literal]
  · intro hLiteral
    rcases hLiteral with ⟨rfl, hEnd⟩
    refine ⟨body q w ++ q.quote :: tail, ?_, ?_⟩
    · rw [List.dropPrefix?_eq_some_iff]
      exact ⟨[q.quote], by simp [literal], beq_self_eq_true _⟩
    · rw [run_unquote]
      exact ⟨w, rfl, rfl, hEnd⟩

end Quoted
