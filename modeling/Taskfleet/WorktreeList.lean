import Taskfleet.Checkouts
import Taskfleet.Physical
import Taskfleet.Utf8

/-
  The list of worktrees that git prints, with a NUL after
  every field and another after every row, and its parser.

  Main declarations:
    * `Text.stripPrefix`, `Porcelain.fields`
    * `Porcelain.parseWorktreeRegistrations`
    * `Porcelain.WorktreeRow`, `Porcelain.listed`
    * `Porcelain.InRow`, `Porcelain.Spoils`
    * `Porcelain.parse_eq_none`, `Porcelain.parse_listed`
    * `Porcelain.worktree_list_round_trip`
-/

------------------------------------------------------------
-- Prefixes
------------------------------------------------------------

namespace Taskfleet

namespace Text

/- `str::strip_prefix` -/
def stripPrefix (head s : String) : Option String :=
  (s.toList.dropPrefix? head.toList).map String.ofList

theorem stripPrefix_eq_some {head s rest : String} :
    stripPrefix head s = some rest ↔ s = head ++ rest := by
  unfold stripPrefix
  rw [Option.map_eq_some_iff]
  constructor
  · intro hStrip
    rcases hStrip with ⟨cs, hDrop, rfl⟩
    rw [List.dropPrefix?_eq_some_iff] at hDrop
    rcases hDrop with ⟨front, hText, hFront⟩
    rw [beq_iff_eq] at hFront
    apply String.toList_injective
    rw [String.toList_append, String.toList_ofList, hText,
      hFront]
  · intro hText
    refine ⟨rest.toList, ?_, String.ofList_toList⟩
    rw [List.dropPrefix?_eq_some_iff]
    refine ⟨head.toList, ?_, beq_self_eq_true _⟩
    rw [hText, String.toList_append]

theorem stripPrefix_eq_none {head s : String} :
    stripPrefix head s = none ↔ ∀ rest, s ≠ head ++ rest := by
  rw [Option.eq_none_iff_forall_ne_some]
  constructor
  · intro hNone rest hText
    exact hNone rest (stripPrefix_eq_some.mpr hText)
  · intro hText rest hSome
    exact hText rest (stripPrefix_eq_some.mp hSome)

end Text

------------------------------------------------------------
-- The Parser
------------------------------------------------------------

namespace Porcelain

open Checkouts (Registration)

def nul : UInt8 := 0

/- What stands between the NUL bytes. -/
def fields (bytes : Bytes) : List Bytes :=
  (Lines.split nul bytes).1 ++ [(Lines.split nul bytes).2]

/- The rows that are complete, and the one that is not. -/
structure Reading where
  rows : List Registration
  current : Option Registration
deriving DecidableEq, Repr

/- The row that is not complete is taken as it is. -/
def Reading.all (r : Reading) : List Registration :=
  r.rows ++ r.current.toList

def readField (r : Reading) (field : Bytes) : Option Reading :=
  if field = [] then some ⟨r.all, none⟩
  else do
    let text ← Utf8.fromUtf8 field
    match Text.stripPrefix "worktree " text with
    | some path =>
        if r.current.isSome ∨ path = "" then none
        else some { r with current := some ⟨path, none⟩ }
    | none =>
        match Text.stripPrefix "branch refs/heads/" text with
        | some branch => do
            let row ← r.current
            if branch = "" then none
            else
              some { r with
                current := some { row with branch := some branch } }
        | none => some r

def readFields (fs : List Bytes) : Option Reading :=
  fs.foldlM readField ⟨[], none⟩

def parseWorktreeRegistrations (bytes : Bytes) :
    Option (List Registration) := do
  let r ← readFields (fields bytes)
  if r.all = [] then none else some r.all

------------------------------------------------------------
-- What the Parser Refuses
------------------------------------------------------------

def worktreeField (path : String) : Bytes :=
  Utf8.bytes ("worktree " ++ path)

def branchField (branch : String) : Bytes :=
  Utf8.bytes ("branch refs/heads/" ++ branch)

/- A row has begun in these fields and has not ended. -/
def InRow (before : List Bytes) : Prop :=
  ∃ earlier path since,
    before = earlier ++ worktreeField path :: since ∧
      [] ∉ since

/- A field that makes the list unreadable where it stands. -/
inductive Spoils (before : List Bytes) : Bytes → Prop where
| notText {field : Bytes} (hText : Utf8.isText field = false) :
    Spoils before field
| emptyPath : Spoils before (worktreeField "")
| emptyBranch : Spoils before (branchField "")
| secondWorktree {path : String} (hInside : InRow before) :
    Spoils before (worktreeField path)
| strayBranch {branch : String} (hOutside : ¬ InRow before) :
    Spoils before (branchField branch)

section Fields

variable {before : List Bytes} {r r' : Reading}
variable {path branch text : String} {field : Bytes}

theorem worktreeField_ne_nil : worktreeField path ≠ [] := by
  unfold worktreeField
  rw [Utf8.bytes_append]
  exact List.append_ne_nil_of_left_ne_nil (by decide) _

theorem branchField_ne_nil : branchField branch ≠ [] := by
  unfold branchField
  rw [Utf8.bytes_append]
  exact List.append_ne_nil_of_left_ne_nil (by decide) _

theorem branchField_ne_worktreeField :
    branchField branch ≠ worktreeField path := by
  intro hSame
  have hText := congrArg String.toList
    (Utf8.bytes_injective hSame)
  rw [String.toList_append, String.toList_append] at hText
  have hFirst := congrArg List.head? hText
  rw [List.head?_append_of_ne_nil _ (by decide),
    List.head?_append_of_ne_nil _ (by decide)] at hFirst
  exact absurd hFirst (by decide)

theorem stripPrefix_branch :
    Text.stripPrefix "worktree "
      ("branch refs/heads/" ++ branch) = none := by
  rw [Text.stripPrefix_eq_none]
  intro path hSame
  exact branchField_ne_worktreeField (congrArg Utf8.bytes hSame)

theorem readField_close :
    readField r [] = some ⟨r.all, none⟩ :=
  if_pos rfl

theorem readField_worktree :
    readField r (worktreeField path) =
      if r.current.isSome ∨ path = "" then none
      else some { r with current := some ⟨path, none⟩ } := by
  have hStrip :
      Text.stripPrefix "worktree " ("worktree " ++ path) =
        some path :=
    Text.stripPrefix_eq_some.mpr rfl
  unfold readField
  rw [if_neg worktreeField_ne_nil, worktreeField,
    Utf8.fromUtf8_bytes, Option.bind_eq_bind, Option.bind_some,
    hStrip]

theorem readField_branch :
    readField r (branchField branch) =
      r.current.bind (fun row =>
        if branch = "" then none
        else
          some { r with
            current :=
              some { row with branch := some branch } }) := by
  have hStrip :
      Text.stripPrefix "branch refs/heads/"
          ("branch refs/heads/" ++ branch) = some branch :=
    Text.stripPrefix_eq_some.mpr rfl
  unfold readField
  rw [if_neg branchField_ne_nil, branchField,
    Utf8.fromUtf8_bytes, Option.bind_eq_bind, Option.bind_some,
    stripPrefix_branch]
  dsimp only
  rw [hStrip]
  rfl

/- A text that is neither changes nothing. -/
theorem readField_attribute
    (hSome : text ≠ "")
    (hWorktree : ∀ path, text ≠ "worktree " ++ path)
    (hBranch : ∀ branch, text ≠ "branch refs/heads/" ++ branch) :
    readField r (Utf8.bytes text) = some r := by
  have hBytes : Utf8.bytes text ≠ [] := by
    intro hEmpty
    exact hSome (Utf8.bytes_injective hEmpty)
  unfold readField
  rw [if_neg hBytes, Utf8.fromUtf8_bytes, Option.bind_eq_bind,
    Option.bind_some, Text.stripPrefix_eq_none.mpr hWorktree]
  dsimp only
  rw [Text.stripPrefix_eq_none.mpr hBranch]

/- The kinds of fields, by what they say. -/
inductive FieldKind : Bytes → Prop where
| close : FieldKind []
| notText {field : Bytes} (hText : Utf8.isText field = false) :
    FieldKind field
| worktree (path : String) : FieldKind (worktreeField path)
| branch (branch : String) : FieldKind (branchField branch)
| other {text : String}
    (hSome : text ≠ "")
    (hWorktree : ∀ path, text ≠ "worktree " ++ path)
    (hBranch :
      ∀ branch, text ≠ "branch refs/heads/" ++ branch) :
    FieldKind (Utf8.bytes text)

theorem fieldKind (field : Bytes) : FieldKind field := by
  by_cases hSome : field = []
  · rw [hSome]
    exact .close
  cases hText : Utf8.fromUtf8 field with
  | none => exact .notText (Utf8.fromUtf8_eq_none.mp hText)
  | some text =>
      rw [Utf8.fromUtf8_eq_some] at hText
      subst hText
      by_cases hWorktree : ∃ path, text = "worktree " ++ path
      · rcases hWorktree with ⟨path, rfl⟩
        exact .worktree path
      by_cases hBranch :
          ∃ branch, text = "branch refs/heads/" ++ branch
      · rcases hBranch with ⟨branch, rfl⟩
        exact .branch branch
      · apply FieldKind.other
        · intro hEmpty
          rw [hEmpty] at hSome
          exact hSome rfl
        · exact not_exists.mp hWorktree
        · exact not_exists.mp hBranch

end Fields

------------------------------------------------------------
-- What Has Been Read
------------------------------------------------------------

section Tracking

variable {before fs : List Bytes} {r r' : Reading}
variable {path branch text : String} {field : Bytes}

theorem worktreeField_inj {other : String} :
    worktreeField path = worktreeField other ↔ path = other := by
  unfold worktreeField
  rw [Utf8.bytes_append, Utf8.bytes_append,
    List.append_cancel_left_eq, Utf8.bytes_injective.eq_iff]

theorem branchField_inj {other : String} :
    branchField branch = branchField other ↔ branch = other := by
  unfold branchField
  rw [Utf8.bytes_append, Utf8.bytes_append,
    List.append_cancel_left_eq, Utf8.bytes_injective.eq_iff]

theorem spoils_iff :
    Spoils before field ↔
      Utf8.isText field = false ∨
      (∃ path, field = worktreeField path ∧
        (path = "" ∨ InRow before)) ∨
      ∃ branch, field = branchField branch ∧
        (branch = "" ∨ ¬ InRow before) := by
  constructor
  · intro hSpoils
    cases hSpoils with
    | notText hText => exact .inl hText
    | emptyPath => exact .inr (.inl ⟨_, rfl, .inl rfl⟩)
    | emptyBranch => exact .inr (.inr ⟨_, rfl, .inl rfl⟩)
    | secondWorktree hInside =>
        exact .inr (.inl ⟨_, rfl, .inr hInside⟩)
    | strayBranch hOutside =>
        exact .inr (.inr ⟨_, rfl, .inr hOutside⟩)
  · intro hCases
    rcases hCases with hText | hWorktree | hBranch
    · exact .notText hText
    · rcases hWorktree with ⟨path, rfl, rfl | hInside⟩
      · exact .emptyPath
      · exact .secondWorktree hInside
    · rcases hBranch with ⟨branch, rfl, rfl | hOutside⟩
      · exact .emptyBranch
      · exact .strayBranch hOutside

theorem spoils_worktree :
    Spoils before (worktreeField path) ↔
      path = "" ∨ InRow before := by
  rw [spoils_iff]
  constructor
  · intro hCases
    rcases hCases with hText | hWorktree | hBranch
    · rw [worktreeField, Utf8.isText_bytes] at hText
      cases hText
    · rcases hWorktree with ⟨other, hSame, hSpoils⟩
      rw [worktreeField_inj] at hSame
      rw [hSame]
      exact hSpoils
    · rcases hBranch with ⟨branch, hSame, -⟩
      exact absurd hSame.symm branchField_ne_worktreeField
  · intro hSpoils
    exact .inr (.inl ⟨path, rfl, hSpoils⟩)

theorem spoils_branch :
    Spoils before (branchField branch) ↔
      branch = "" ∨ ¬ InRow before := by
  rw [spoils_iff]
  constructor
  · intro hCases
    rcases hCases with hText | hWorktree | hBranch
    · rw [branchField, Utf8.isText_bytes] at hText
      cases hText
    · rcases hWorktree with ⟨path, hSame, -⟩
      exact absurd hSame branchField_ne_worktreeField
    · rcases hBranch with ⟨other, hSame, hSpoils⟩
      rw [branchField_inj] at hSame
      rw [hSame]
      exact hSpoils
  · intro hSpoils
    exact .inr (.inr ⟨branch, rfl, hSpoils⟩)

/- A text that is neither field spoils nothing. -/
theorem not_spoils_text
    (hWorktree : ∀ path, text ≠ "worktree " ++ path)
    (hBranch : ∀ branch, text ≠ "branch refs/heads/" ++ branch) :
    ¬ Spoils before (Utf8.bytes text) := by
  rw [spoils_iff, Utf8.isText_bytes]
  intro hCases
  rcases hCases with hText | ⟨path, hSame, -⟩ | ⟨branch, hSame, -⟩
  · cases hText
  · exact hWorktree path (Utf8.bytes_injective hSame)
  · exact hBranch branch (Utf8.bytes_injective hSame)

theorem not_spoils_close : ¬ Spoils before [] := by
  have hText : Utf8.bytes "" = [] := rfl
  rw [← hText]
  apply not_spoils_text
  · intro path hSame
    exact worktreeField_ne_nil (congrArg Utf8.bytes hSame).symm
  · intro branch hSame
    exact branchField_ne_nil (congrArg Utf8.bytes hSame).symm

/- A row goes on until the empty field. -/
theorem inRow_concat :
    InRow (before ++ [field]) ↔
      (∃ path, field = worktreeField path) ∨
        field ≠ [] ∧ InRow before := by
  constructor
  · intro hInside
    rcases hInside with ⟨earlier, path, since, hFields, hSince⟩
    rcases List.eq_nil_or_concat since with
      rfl | ⟨since', last, rfl⟩
    · have hLast := List.append_inj_right' hFields rfl
      exact .inl ⟨path, List.singleton_inj.mp hLast⟩
    · rw [List.concat_eq_append] at hFields hSince
      rw [← List.cons_append, ← List.append_assoc] at hFields
      rw [List.mem_append, not_or, List.mem_singleton] at hSince
      have hLast := List.append_inj_right' hFields rfl
      rw [List.singleton_inj] at hLast
      refine .inr ⟨?_, earlier, path, since', ?_, hSince.1⟩
      · rw [hLast]
        exact Ne.symm hSince.2
      · exact List.append_inj_left' hFields rfl
  · intro hCases
    rcases hCases with ⟨path, rfl⟩ | ⟨hSome, hInside⟩
    · exact ⟨before, path, [], rfl, List.not_mem_nil⟩
    · rcases hInside with ⟨earlier, path, since, rfl, hSince⟩
      refine ⟨earlier, path, since ++ [field], by simp, ?_⟩
      rw [List.mem_append, not_or, List.mem_singleton]
      exact ⟨hSince, Ne.symm hSome⟩

/- What is held after some fields says what stood in them. -/
structure Reading.Tracks
    (before : List Bytes) (r : Reading) : Prop where
  inside : r.current.isSome = true ↔ InRow before
  begun : r.all = [] ↔ ∀ path, worktreeField path ∉ before

theorem readField_notText
    (hText : Utf8.isText field = false) :
    readField r field = none := by
  have hSome : field ≠ [] := by
    intro hEmpty
    rw [hEmpty] at hText
    cases hText
  unfold readField
  rw [if_neg hSome, Utf8.fromUtf8_eq_none.mpr hText]
  rfl

theorem readField_eq_none (hTracks : r.Tracks before) :
    readField r field = none ↔ Spoils before field := by
  cases fieldKind field with
  | close =>
      rw [readField_close]
      simp [not_spoils_close]
  | notText hText =>
      rw [readField_notText hText]
      simp [Spoils.notText hText]
  | worktree path =>
      rw [readField_worktree, spoils_worktree,
        ← hTracks.inside]
      by_cases hRefused : r.current.isSome = true ∨ path = ""
      · simp [hRefused, hRefused.symm]
      · simp [hRefused, Or.comm.not.mp hRefused]
  | branch branch =>
      rw [readField_branch, spoils_branch, ← hTracks.inside]
      cases r.current with
      | none => simp
      | some row => by_cases hName : branch = "" <;> simp [hName]
  | other hSome hWorktree hBranch =>
      rw [readField_attribute hSome hWorktree hBranch]
      simp [not_spoils_text hWorktree hBranch]

/- A field that begins no row and ends none. -/
theorem Reading.Tracks.keep
    (hTracks : r.Tracks before)
    (hCurrent : r'.current.isSome = r.current.isSome)
    (hAll : r'.all = [] ↔ r.all = [])
    (hSome : field ≠ [])
    (hOther : ∀ path, field ≠ worktreeField path) :
    r'.Tracks (before ++ [field]) where
  inside := by
    rw [hCurrent, hTracks.inside, inRow_concat]
    constructor
    · intro hInside
      exact .inr ⟨hSome, hInside⟩
    · intro hCases
      rcases hCases with ⟨path, hSame⟩ | ⟨-, hInside⟩
      · exact absurd hSame (hOther path)
      · exact hInside
  begun := by
    rw [hAll, hTracks.begun]
    apply forall_congr'
    intro path
    rw [List.mem_append, List.mem_singleton, not_or]
    constructor
    · intro hBefore
      exact ⟨hBefore, Ne.symm (hOther path)⟩
    · intro hBoth
      exact hBoth.1

theorem Reading.Tracks.step
    (hTracks : r.Tracks before)
    (hRead : readField r field = some r') :
    r'.Tracks (before ++ [field]) := by
  cases fieldKind field with
  | close =>
      rw [readField_close, Option.some.injEq] at hRead
      subst hRead
      constructor
      · rw [inRow_concat]
        constructor
        · intro hCurrent
          cases hCurrent
        · intro hCases
          rcases hCases with ⟨path, hSame⟩ | ⟨hSome, -⟩
          · exact absurd hSame.symm worktreeField_ne_nil
          · exact absurd rfl hSome
      · have hAll : (Reading.mk r.all none).all = r.all :=
          List.append_nil r.all
        rw [hAll, hTracks.begun]
        simp [worktreeField_ne_nil]
  | notText hText =>
      rw [readField_notText hText] at hRead
      cases hRead
  | worktree path =>
      rw [readField_worktree] at hRead
      split at hRead
      next => cases hRead
      next =>
        rw [Option.some.injEq] at hRead
        subst hRead
        constructor
        · rw [inRow_concat]
          simp
        · simp only [Reading.all, Option.toList_some,
            List.append_eq_nil_iff, List.cons_ne_nil, and_false,
            false_iff]
          intro hNone
          exact hNone path (by simp)
  | branch branch =>
      rw [readField_branch, Option.bind_eq_some_iff] at hRead
      rcases hRead with ⟨row, hCurrent, hRow⟩
      split at hRow
      next => cases hRow
      next =>
        rw [Option.some.injEq] at hRow
        subst hRow
        apply hTracks.keep
        · rw [hCurrent]
          rfl
        · simp [Reading.all, hCurrent]
        · exact branchField_ne_nil
        · intro path
          exact branchField_ne_worktreeField
  | other hSome hWorktree hBranch =>
      rw [readField_attribute hSome hWorktree hBranch,
        Option.some.injEq] at hRead
      subst hRead
      apply hTracks.keep rfl Iff.rfl
      · intro hEmpty
        exact hSome (Utf8.bytes_injective hEmpty)
      · intro path hSame
        exact hWorktree path (Utf8.bytes_injective hSame)

theorem readFields_concat :
    readFields (before ++ [field]) =
      (readFields before).bind (fun r => readField r field) := by
  unfold readFields
  rw [List.foldlM_append]
  simp

theorem readFields_tracks
    (hRead : readFields before = some r) :
    r.Tracks before := by
  induction before using List.reverseRecOn generalizing r with
  | nil =>
      cases hRead
      constructor
      · constructor
        · intro hCurrent
          cases hCurrent
        · intro hInside
          rcases hInside with ⟨earlier, path, since, hFields, -⟩
          simp at hFields
      · simp [Reading.all]
  | append_singleton before field ih =>
      rw [readFields_concat, Option.bind_eq_some_iff] at hRead
      rcases hRead with ⟨earlier, hEarlier, hField⟩
      exact (ih hEarlier).step hField

/- Reading stops at the first field that spoils the list. -/
theorem readFields_eq_none :
    readFields fs = none ↔
      ∃ before field after,
        fs = before ++ field :: after ∧ Spoils before field := by
  induction fs using List.reverseRecOn with
  | nil =>
      constructor
      · intro hNone
        cases hNone
      · intro hSpoiled
        rcases hSpoiled with ⟨before, field, after, hFields, -⟩
        simp at hFields
  | append_singleton fs last ih =>
      rw [readFields_concat, Option.bind_eq_none_iff]
      constructor
      · intro hNone
        cases hRead : readFields fs with
        | none =>
            rcases ih.mp hRead with
              ⟨before, field, after, rfl, hSpoils⟩
            exact ⟨before, field, after ++ [last], by simp,
              hSpoils⟩
        | some r =>
            have hLast := hNone r hRead
            rw [readField_eq_none (readFields_tracks hRead)]
              at hLast
            exact ⟨fs, last, [], rfl, hLast⟩
      · intro hSpoiled r hRead
        rcases hSpoiled with
          ⟨before, field, after, hFields, hSpoils⟩
        rcases List.eq_nil_or_concat after with
          rfl | ⟨after', final, rfl⟩
        · have hLast := List.append_inj_right' hFields rfl
          rw [List.singleton_inj] at hLast
          have hBefore := List.append_inj_left' hFields rfl
          rw [readField_eq_none (readFields_tracks hRead),
            hLast, hBefore]
          exact hSpoils
        · rw [List.concat_eq_append, ← List.cons_append,
            ← List.append_assoc] at hFields
          have hEarlier := List.append_inj_left' hFields rfl
          have hNone :=
            ih.mpr ⟨before, field, after', hEarlier, hSpoils⟩
          rw [hRead] at hNone
          cases hNone

end Tracking

/- Exactly these lists are refused. -/
theorem parse_eq_none {bytes : Bytes} :
    parseWorktreeRegistrations bytes = none ↔
      (∃ before field after,
        fields bytes = before ++ field :: after ∧
          Spoils before field) ∨
      ∀ path, worktreeField path ∉ fields bytes := by
  rw [← readFields_eq_none]
  unfold parseWorktreeRegistrations
  cases hRead : readFields (fields bytes) with
  | none => simp
  | some r =>
      rw [← (readFields_tracks hRead).begun]
      by_cases hAll : r.all = [] <;> simp [hAll]

------------------------------------------------------------
-- The List as Git Prints It
------------------------------------------------------------

/- A field of a row: an empty one would end the row. -/
structure RowText where
  text : String
  filled : text ≠ ""
  whole : '\x00' ∉ text.toList

structure Attribute extends RowText where
  noWorktree : ∀ path, text ≠ "worktree " ++ path
  noBranch : ∀ branch, text ≠ "branch refs/heads/" ++ branch

/- A worktree with its attributes around its branch. -/
structure WorktreeRow where
  path : RowText
  before : List Attribute
  branch : Option RowText
  after : List Attribute

def WorktreeRow.fields (row : WorktreeRow) : List String :=
  ("worktree " ++ row.path.text) ::
    (row.before.map (fun a => a.text) ++
      row.branch.toList.map (fun branch =>
        "branch refs/heads/" ++ branch.text) ++
      row.after.map (fun a => a.text))

def WorktreeRow.registration (row : WorktreeRow) :
    Registration where
  path := row.path.text
  branch := row.branch.map (fun branch => branch.text)

/- Every field has a NUL after it, and so has the row. -/
def listRow (fs : List String) : Bytes :=
  Lines.join nul (fs.map Utf8.bytes) ++ [nul]

def listed (rows : List WorktreeRow) : Bytes :=
  rows.flatMap (fun row => listRow row.fields)

/- The fields of a row that was parsed. -/
def rowFields (row : Registration) : List String :=
  ("worktree " ++ row.path) ::
    row.branch.toList.map (fun branch =>
      "branch refs/heads/" ++ branch)

def relisted (rows : List Registration) : Bytes :=
  rows.flatMap (fun row => listRow (rowFields row))

section Listing

theorem nul_notMem_bytes {s : String} :
    nul ∉ Utf8.bytes s ↔ '\x00' ∉ s.toList := by
  rw [not_iff_not]
  exact Utf8.mem_bytes_iff (by decide) rfl

theorem listRow_eq (fs : List String) :
    listRow fs =
      Lines.join nul (fs.map Utf8.bytes ++ [[]]) := by
  rw [Lines.join_append]
  rfl

theorem fields_listRows
    {rows : List (List String)}
    (hWhole : ∀ fs ∈ rows, ∀ s ∈ fs, '\x00' ∉ s.toList) :
    fields (rows.flatMap listRow) =
      rows.flatMap (fun fs => fs.map Utf8.bytes ++ [[]]) ++
        [[]] := by
  have hJoin :
      rows.flatMap listRow =
        Lines.join nul
          (rows.flatMap (fun fs =>
            fs.map Utf8.bytes ++ [[]])) ++ [] := by
    rw [List.append_nil]
    induction rows with
    | nil => rfl
    | cons fs rest ih =>
        rw [List.flatMap_cons, List.flatMap_cons,
          Lines.join_append, listRow_eq,
          ih (fun fs hMem =>
            hWhole fs (List.mem_cons_of_mem _ hMem))]
  have hFiled :
      Lines.Filed nul
        (rows.flatMap (fun fs => fs.map Utf8.bytes ++ [[]]))
        [] := by
    constructor
    · intro body hBody
      simp only [List.mem_flatMap, List.mem_append,
        List.mem_map, List.mem_singleton] at hBody
      rcases hBody with ⟨fs, hRow, ⟨s, hText, rfl⟩ | rfl⟩
      · exact nul_notMem_bytes.mpr (hWhole fs hRow s hText)
      · exact List.not_mem_nil
    · exact List.not_mem_nil
  unfold fields
  rw [hJoin, Lines.split_join hFiled]

theorem WorktreeRow.whole
    {row : WorktreeRow} {s : String} (hMem : s ∈ row.fields) :
    '\x00' ∉ s.toList := by
  simp only [WorktreeRow.fields, List.mem_cons, List.mem_append,
    List.mem_map, Option.mem_toList] at hMem
  rcases hMem with rfl | (⟨a, _, rfl⟩ | ⟨b, _, rfl⟩) | ⟨a, _, rfl⟩
  · rw [String.toList_append, List.mem_append, not_or]
    exact ⟨by decide, row.path.whole⟩
  · exact a.whole
  · rw [String.toList_append, List.mem_append, not_or]
    exact ⟨by decide, b.whole⟩
  · exact a.whole

/- Attributes are passed over. -/
theorem foldlM_attributes
    (r : Reading) (attributes : List Attribute) :
    (attributes.map (fun a => Utf8.bytes a.text)).foldlM
      readField r = some r := by
  induction attributes with
  | nil => rfl
  | cons a rest ih =>
      rw [List.map_cons, List.foldlM_cons,
        readField_attribute a.filled a.noWorktree a.noBranch]
      exact ih

/- A row is read from its worktree to its empty field. -/
theorem foldlM_row
    (rows : List Registration) (row : WorktreeRow) :
    (row.fields.map Utf8.bytes ++ [[]]).foldlM readField
        ⟨rows, none⟩ =
      some ⟨rows ++ [row.registration], none⟩ := by
  have hFields :
      row.fields.map Utf8.bytes ++ [[]] =
        worktreeField row.path.text ::
          (row.before.map (fun a => Utf8.bytes a.text) ++
            (row.branch.toList.map (fun branch =>
                branchField branch.text) ++
              (row.after.map (fun a => Utf8.bytes a.text) ++
                [[]]))) := by
    simp [WorktreeRow.fields, worktreeField, branchField,
      Function.comp_def]
  have hWorktree :
      readField ⟨rows, none⟩ (worktreeField row.path.text) =
        some ⟨rows, some ⟨row.path.text, none⟩⟩ := by
    rw [readField_worktree, if_neg (by simp [row.path.filled])]
  have hBranch :
      (row.branch.toList.map (fun branch =>
          branchField branch.text)).foldlM readField
          ⟨rows, some ⟨row.path.text, none⟩⟩ =
        some ⟨rows, some row.registration⟩ := by
    unfold WorktreeRow.registration
    cases row.branch with
    | none => rfl
    | some branch =>
        simp [readField_branch, branch.filled]
  have hClose :
      readField ⟨rows, some row.registration⟩ [] =
        some ⟨rows ++ [row.registration], none⟩ :=
    readField_close
  rw [hFields, List.foldlM_cons, hWorktree,
    Option.bind_eq_bind, Option.bind_some, List.foldlM_append,
    foldlM_attributes, Option.bind_eq_bind, Option.bind_some,
    List.foldlM_append, hBranch, Option.bind_eq_bind,
    Option.bind_some, List.foldlM_append, foldlM_attributes,
    Option.bind_eq_bind, Option.bind_some, List.foldlM_cons,
    hClose]
  rfl

theorem foldlM_rows
    (done : List Registration) (rows : List WorktreeRow) :
    (rows.flatMap (fun row =>
        row.fields.map Utf8.bytes ++ [[]])).foldlM readField
        ⟨done, none⟩ =
      some ⟨done ++ rows.map WorktreeRow.registration,
        none⟩ := by
  induction rows generalizing done with
  | nil =>
      rw [List.map_nil, List.append_nil]
      rfl
  | cons row rest ih =>
      rw [List.flatMap_cons, List.foldlM_append, foldlM_row,
        Option.bind_eq_bind, Option.bind_some, ih,
        List.map_cons, List.append_assoc, List.singleton_append]

/- What git prints is read as what it has. -/
theorem parse_listed
    {rows : List WorktreeRow} (hSome : rows ≠ []) :
    parseWorktreeRegistrations (listed rows) =
      some (rows.map WorktreeRow.registration) := by
  have hListed :
      listed rows =
        (rows.map WorktreeRow.fields).flatMap listRow := by
    unfold listed
    rw [List.flatMap_map]
  have hFields :
      fields (listed rows) =
        rows.flatMap (fun row =>
          row.fields.map Utf8.bytes ++ [[]]) ++ [[]] := by
    rw [hListed, fields_listRows, List.flatMap_map]
    intro fs hRow s hText
    rcases List.mem_map.mp hRow with ⟨row, -, rfl⟩
    exact row.whole hText
  have hRead :
      readFields (fields (listed rows)) =
        some ⟨rows.map WorktreeRow.registration, none⟩ := by
    unfold readFields
    rw [hFields, List.foldlM_append, foldlM_rows,
      Option.bind_eq_bind, Option.bind_some, List.foldlM_cons,
      readField_close]
    simp [Reading.all]
  unfold parseWorktreeRegistrations
  rw [hRead, Option.bind_eq_bind, Option.bind_some, if_neg]
  · simp [Reading.all]
  · simpa [Reading.all] using hSome

end Listing

------------------------------------------------------------
-- Parsed Rows
------------------------------------------------------------

/- A row that can be printed as it is. -/
structure Listable (row : Registration) : Prop where
  path : row.path ≠ "" ∧ '\x00' ∉ row.path.toList
  branch : ∀ branch ∈ row.branch,
    branch ≠ "" ∧ '\x00' ∉ branch.toList

/- The row without any attributes. -/
def plainRow (row : Registration) (hRow : Listable row) :
    WorktreeRow where
  path := ⟨row.path, hRow.path.1, hRow.path.2⟩
  before := []
  branch := row.branch.pmap (fun branch hBranch =>
    ⟨branch, hBranch.1, hBranch.2⟩) hRow.branch
  after := []

section Parsed

variable {row : Registration} {rows : List Registration}
variable {r r' : Reading} {field bytes : Bytes}

theorem plainRow_fields (hRow : Listable row) :
    (plainRow row hRow).fields = rowFields row := by
  rcases row with ⟨path, branch⟩
  cases branch <;> simp [plainRow, WorktreeRow.fields, rowFields]

theorem plainRow_registration (hRow : Listable row) :
    (plainRow row hRow).registration = row := by
  rcases row with ⟨path, branch⟩
  cases branch <;> simp [plainRow, WorktreeRow.registration]

theorem listed_plain (hRows : ∀ row ∈ rows, Listable row) :
    listed (rows.pmap plainRow hRows) = relisted rows := by
  induction rows with
  | nil => rfl
  | cons row rest ih =>
      change listRow (plainRow row _).fields ++ listed _ =
        listRow (rowFields row) ++ relisted rest
      rw [plainRow_fields, ih]

/- The empty list is read as no list at all. -/
theorem parse_relisted (hRows : ∀ row ∈ rows, Listable row) :
    parseWorktreeRegistrations (relisted rows) =
      (some rows).filter (fun rows => rows ≠ []) := by
  by_cases hSome : rows = []
  · rw [hSome]
    rfl
  · have hPlain : rows.pmap plainRow hRows ≠ [] := by
      simpa using hSome
    have hRegistrations :
        (rows.pmap plainRow hRows).map
          WorktreeRow.registration = rows := by
      simp [List.map_pmap, plainRow_registration]
    rw [← listed_plain hRows, parse_listed hPlain,
      hRegistrations, Option.filter_some]
    simp [hSome]

theorem whole_of_field
    {head text : String}
    (hWhole : nul ∉ Utf8.bytes (head ++ text)) :
    '\x00' ∉ text.toList := by
  rw [nul_notMem_bytes, String.toList_append, List.mem_append,
    not_or] at hWhole
  exact hWhole.2

theorem listable_step
    (hRows : ∀ row ∈ r.all, Listable row)
    (hWhole : nul ∉ field)
    (hRead : readField r field = some r') :
    ∀ row ∈ r'.all, Listable row := by
  cases fieldKind field with
  | close =>
      rw [readField_close, Option.some.injEq] at hRead
      subst hRead
      simpa [Reading.all] using hRows
  | notText hText =>
      rw [readField_notText hText] at hRead
      cases hRead
  | worktree path =>
      rw [readField_worktree] at hRead
      split at hRead
      next => cases hRead
      next hFine =>
        rw [not_or] at hFine
        rw [Option.some.injEq] at hRead
        subst hRead
        intro row hRow
        rw [Reading.all, Option.toList_some, List.mem_append,
          List.mem_singleton] at hRow
        rcases hRow with hDone | rfl
        · exact hRows row (List.mem_append_left _ hDone)
        · constructor
          · exact ⟨hFine.2, whole_of_field hWhole⟩
          · intro branch hBranch
            cases hBranch
  | branch branch =>
      rw [readField_branch, Option.bind_eq_some_iff] at hRead
      rcases hRead with ⟨row, hCurrent, hBranch⟩
      split at hBranch
      next => cases hBranch
      next hSome =>
        rw [Option.some.injEq] at hBranch
        subst hBranch
        have hHere : Listable row :=
          hRows row (by simp [Reading.all, hCurrent])
        intro other hOther
        rw [Reading.all, Option.toList_some, List.mem_append,
          List.mem_singleton] at hOther
        rcases hOther with hDone | rfl
        · exact hRows other (List.mem_append_left _ hDone)
        · constructor
          · exact hHere.path
          · intro name hName
            cases hName
            exact ⟨hSome, whole_of_field hWhole⟩
  | other hSome hWorktree hBranch =>
      rw [readField_attribute hSome hWorktree hBranch,
        Option.some.injEq] at hRead
      rw [← hRead]
      exact hRows

theorem listable_of_readFields
    {fs : List Bytes}
    (hWhole : ∀ field ∈ fs, nul ∉ field)
    (hRead : readFields fs = some r) :
    ∀ row ∈ r.all, Listable row := by
  induction fs using List.reverseRecOn generalizing r with
  | nil =>
      cases hRead
      intro row hRow
      cases hRow
  | append_singleton fs last ih =>
      rw [readFields_concat, Option.bind_eq_some_iff] at hRead
      rcases hRead with ⟨earlier, hEarlier, hLast⟩
      apply listable_step ?_ (hWhole last (by simp)) hLast
      apply ih ?_ hEarlier
      intro field hField
      exact hWhole field (List.mem_append_left _ hField)

theorem whole_fields
    (hField : field ∈ fields bytes) : nul ∉ field := by
  have hFiled :
      Lines.Filed nul (Lines.split nul bytes).1
        (Lines.split nul bytes).2 :=
    Lines.filed_split bytes
  rw [fields, List.mem_append, List.mem_singleton] at hField
  rcases hField with hBody | rfl
  · exact hFiled.bodies field hBody
  · exact hFiled.torn

/- Whatever is read can be printed. -/
theorem listable_of_parse
    (hParse : parseWorktreeRegistrations bytes = some rows) :
    rows ≠ [] ∧ ∀ row ∈ rows, Listable row := by
  unfold parseWorktreeRegistrations at hParse
  rw [Option.bind_eq_bind, Option.bind_eq_some_iff] at hParse
  rcases hParse with ⟨r, hRead, hAll⟩
  split at hAll
  next => cases hAll
  next hSome =>
    cases hAll
    exact ⟨hSome,
      listable_of_readFields (fun _ => whole_fields) hRead⟩

end Parsed

/- Where every row can be printed, git's list is the parsed
   one. -/
theorem worktreeRegistrations_parsed
    {site : Checkouts.Site} {repo : String}
    (hRows : ∀ row ∈ site.worktrees repo, Listable row) :
    site.worktreeRegistrations repo =
      site.ask repo (.worktrees repo)
        (parseWorktreeRegistrations
          (relisted (site.worktrees repo))) := by
  rw [parse_relisted hRows]
  rfl

------------------------------------------------------------
-- Main Theorem
------------------------------------------------------------

/-
  The parser returns the rows that git has printed, what it
  returns it would read again, and it refuses a list exactly
  where a field spoils it or no row begins.
-/
theorem worktree_list_round_trip :
    (∀ rows : List WorktreeRow, rows ≠ [] →
      parseWorktreeRegistrations (listed rows) =
        some (rows.map WorktreeRow.registration)) ∧
    (∀ bytes rows,
      parseWorktreeRegistrations bytes = some rows →
        parseWorktreeRegistrations (relisted rows) =
          some rows) ∧
    ∀ bytes,
      parseWorktreeRegistrations bytes = none ↔
        (∃ before field after,
          fields bytes = before ++ field :: after ∧
            Spoils before field) ∨
        ∀ path, worktreeField path ∉ fields bytes := by
  refine ⟨?_, ?_, ?_⟩
  · intro rows hSome
    exact parse_listed hSome
  · intro bytes rows hParse
    have hRows := listable_of_parse hParse
    rw [parse_relisted hRows.2, Option.filter_some]
    simp [hRows.1]
  · intro bytes
    exact parse_eq_none

/- A row with a path that ends in white space. -/
def trailingRow : WorktreeRow where
  path := ⟨"/tmp/trailing ", by decide, by decide⟩
  before :=
    [{ text := "HEAD abc"
       filled := by decide
       whole := by decide
       noWorktree := Text.stripPrefix_eq_none.mp (by decide)
       noBranch := Text.stripPrefix_eq_none.mp (by decide) }]
  branch := some ⟨"wt/test", by decide, by decide⟩
  after := []

example :
    listed [trailingRow] =
      Utf8.bytes
        ("worktree /tmp/trailing \x00HEAD abc\x00" ++
          "branch refs/heads/wt/test\x00\x00") := by
  decide

theorem worktree_list_round_trip_trailing :
    parseWorktreeRegistrations (listed [trailingRow]) =
      some [⟨"/tmp/trailing ", some "wt/test"⟩] ∧
    parseWorktreeRegistrations
        (relisted [⟨"/tmp/trailing ", some "wt/test"⟩]) =
      some [⟨"/tmp/trailing ", some "wt/test"⟩] := by
  have hParse :=
    worktree_list_round_trip.1 [trailingRow]
      (List.cons_ne_nil _ _)
  exact ⟨hParse, worktree_list_round_trip.2.1 _ _ hParse⟩

end Porcelain

end Taskfleet
