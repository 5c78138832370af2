import Taskfleet.Schema
import Taskfleet.Sieve

/-
  The shape of a terminal report: its strict validator, and
  the sanitizer that drops what is malformed in the advisory
  fields instead of refusing the report.

  Main declarations:
    * `ReportValidationError`, `AdvisoryWarning`
    * `validateReportPayload`, `sanitizeReportAdvisory`
    * `RequiredSound`, `sanitize_exact`
-/

------------------------------------------------------------
-- Errors and Warnings
------------------------------------------------------------

namespace Taskfleet

open Fallible

namespace Kind

def wireName : Kind → String
| .spinoff => "spinoff"
| .research => "research"
| .technicalDecision => "technical-decision"
| .fanOut => "fan-out"
| .unknown => "unknown"

/- The kinds that can be created. -/
def wireNames : List String :=
  [spinoff, research, technicalDecision, fanOut].map wireName

end Kind

/- A report failed structural validation. -/
inductive ReportValidationError where
| notObject
| missingSuccess
| successNotBoolean
| summaryNotString
| cancelledNotBoolean
| reasonNotString
| cancelledRequiresSuccessFalse
| cancelledRequiresReason
| discussionItemsNotArray
| discussionItemNotObject (index : Nat)
| discussionItemTopicMissing (index : Nat)
| discussionItemSeverityNotString (index : Nat)
| spinoffProposalsNotArray
| spinoffProposalNotObject (index : Nat)
| spinoffProposalTitleMissing (index : Nat)
| spinoffProposalKindNotString (index : Nat)
| spinoffProposalKindUnknown (index : Nat) (kind : String)
| spinoffProposalRationaleNotString (index : Nat)
| fieldNotArray (field : String)
| fieldElementNotString (field : String) (index : Nat)
| pathNotArray (path : String)
| pathElementNotString (path : String) (index : Nat)
deriving DecidableEq, Repr

namespace ReportValidationError

def message : ReportValidationError → String
| .notObject => "report payload must be a JSON object"
| .missingSuccess =>
    "report payload missing required field `success`"
| .successNotBoolean => "field `success` must be a boolean"
| .summaryNotString => "field `summary` must be a string"
| .cancelledNotBoolean => "field `cancelled` must be a boolean"
| .reasonNotString => "field `reason` must be a string"
| .cancelledRequiresSuccessFalse =>
    "`cancelled: true` requires `success: false`"
| .cancelledRequiresReason =>
    "`cancelled: true` requires a non-empty `reason` string"
| .discussionItemsNotArray =>
    "field `discussion_items` must be an array"
| .discussionItemNotObject index =>
    s!"discussion_items[{index}] must be a JSON object"
| .discussionItemTopicMissing index =>
    s!"discussion_items[{index}].topic must be a non-empty string"
| .discussionItemSeverityNotString index =>
    s!"discussion_items[{index}].severity must be a string"
| .spinoffProposalsNotArray =>
    "field `spinoff_proposals` must be an array"
| .spinoffProposalNotObject index =>
    s!"spinoff_proposals[{index}] must be a JSON object"
| .spinoffProposalTitleMissing index =>
    s!"spinoff_proposals[{index}].proposed_title " ++
      "must be a non-empty string"
| .spinoffProposalKindNotString index =>
    s!"spinoff_proposals[{index}].proposed_kind must be a string"
| .spinoffProposalKindUnknown index kind =>
    s!"spinoff_proposals[{index}].proposed_kind `{kind}` " ++
      "is not a known kind"
| .spinoffProposalRationaleNotString index =>
    s!"spinoff_proposals[{index}].rationale must be a string"
| .fieldNotArray field => s!"field `{field}` must be an array"
| .fieldElementNotString field index =>
    s!"{field}[{index}] must be a string"
| .pathNotArray path => s!"{path} must be an array"
| .pathElementNotString path index =>
    s!"{path}[{index}] must be a string"

end ReportValidationError

/- A field, or one of its elements, that was dropped. -/
structure AdvisoryWarning where
  field : String
  index : Option Nat
  reason : String
deriving DecidableEq, Repr

------------------------------------------------------------
-- Validation
------------------------------------------------------------

/- An optional field that has to hold an array. -/
def validateArray
    (notArray : ReportValidationError)
    (check : Json → Nat → Except ReportValidationError Unit) :
    Option Json → Except ReportValidationError Unit
| some (.arr xs) => Sieve.checkFrom check 0 xs
| some _ => .error notArray
| none => .ok ()

def requireString
    (error : Nat → ReportValidationError)
    (item : Json)
    (index : Nat) : Except ReportValidationError Unit :=
  refuseIf (item.asStr.isNone) (error index)

/- A nested array of strings, named by its path. -/
def validateStringArrayAt (v : Json) (path : String) :
    Except ReportValidationError Unit :=
  validateArray (.pathNotArray path)
    (requireString (.pathElementNotString path)) (some v)

def validateStringArray (v : Option Json) (field : String) :
    Except ReportValidationError Unit :=
  validateArray (.fieldNotArray field)
    (requireString (.fieldElementNotString field)) v

def Json.asObject : Json → Option (List (String × Json))
| .obj kvs => some kvs
| _ => none

/- A string that is not blank. -/
def Json.isText (v : Json) : Bool :=
  v.asStr.any (fun s => !Text.isBlank s)

def Json.isStringOrNull (v : Json) : Bool :=
  v.asStr.isSome || v.isNull

/- The checks of one discussion item. -/
def validateDiscussionItem (item : Json) (index : Nat) :
    Except ReportValidationError Unit := do
  let obj ← orError (.discussionItemNotObject index)
    item.asObject
  refuseIf (¬ (obj.lookup "topic").any Json.isText)
    (.discussionItemTopicMissing index)
  refuseIf
    ((obj.lookup "severity").any (fun v => v.asStr.isNone))
    (.discussionItemSeverityNotString index)
  match obj.lookup "options" with
  | some opts =>
      validateStringArrayAt opts
        s!"discussion_items[{index}].options"
  | none => .ok ()

def validateDiscussionItems (v : Option Json) :
    Except ReportValidationError Unit :=
  validateArray .discussionItemsNotArray
    validateDiscussionItem v

/- The checks of one spin-off proposal. -/
def validateSpinoffProposal (item : Json) (index : Nat) :
    Except ReportValidationError Unit := do
  let obj ← orError (.spinoffProposalNotObject index)
    item.asObject
  refuseIf (¬ (obj.lookup "proposed_title").any Json.isText)
    (.spinoffProposalTitleMissing index)
  let kind ← orError (.spinoffProposalKindNotString index)
    ((obj.lookup "proposed_kind").bind Json.asStr)
  refuseIf (kind ∉ Kind.wireNames)
    (.spinoffProposalKindUnknown index kind)
  refuseIf
    ((obj.lookup "rationale").any (fun v => !v.isStringOrNull))
    (.spinoffProposalRationaleNotString index)

def validateSpinoffProposals (v : Option Json) :
    Except ReportValidationError Unit :=
  validateArray .spinoffProposalsNotArray
    validateSpinoffProposal v

/- An optional member that null leaves out, too. -/
def validateOptional
    {α : Type}
    (error : ReportValidationError)
    (decode : Json → Option α) :
    Option Json → Except ReportValidationError (Option α)
| none | some .null => .ok none
| some v => (orError error (decode v)).map some

/- The fields that both modes are strict about. -/
def validateRequiredFields (obj : List (String × Json)) :
    Except ReportValidationError Unit := do
  let success ← orError .missingSuccess (obj.lookup "success")
  refuseIf (success.asBool.isNone) .successNotBoolean
  let cancelled ←
    validateOptional .cancelledNotBoolean Json.asBool
      (obj.lookup "cancelled")
  let reason ←
    validateOptional .reasonNotString Json.asStr
      (obj.lookup "reason")
  checkWhen (cancelled = some true) (do
    refuseIf (success.asBool = some true)
      .cancelledRequiresSuccessFalse
    refuseIf (reason.all Text.isBlank) .cancelledRequiresReason)

def validateSummary (v : Option Json) :
    Except ReportValidationError Unit :=
  refuseIf (v.any (fun v => !v.isStringOrNull))
    .summaryNotString

def validateReportPayload (data : Json) :
    Except ReportValidationError Unit := do
  let obj ← orError .notObject data.asObject
  validateRequiredFields obj
  validateSummary (obj.lookup "summary")
  validateDiscussionItems (obj.lookup "discussion_items")
  validateSpinoffProposals (obj.lookup "spinoff_proposals")
  validateStringArray (obj.lookup "wrap_up_recommendations")
    "wrap_up_recommendations"

------------------------------------------------------------
-- Sanitizing
------------------------------------------------------------

/- The members of an object, and the warnings so far. -/
structure Sanitizing where
  obj : List (String × Json)
  warnings : List AdvisoryWarning
deriving DecidableEq, Repr

structure SanitizedReport where
  report : Json
  warnings : List AdvisoryWarning
deriving DecidableEq, Repr

namespace Json

def removeField (key : String) (kvs : List (String × Json)) :
    List (String × Json) :=
  kvs.filter (fun p => p.1 ≠ key)

/- Insert under a key that is there, replacing its value. -/
def replaceField (key : String) (value : Json) :
    List (String × Json) → List (String × Json)
| [] => []
| (k, v) :: rest =>
    if k = key then (key, value) :: rest
    else (k, v) :: replaceField key value rest

end Json

/- The field is dropped as a whole. -/
def Sanitizing.drop
    (s : Sanitizing)
    (field : String)
    (error : ReportValidationError) : Sanitizing where
  obj := Json.removeField field s.obj
  warnings := s.warnings ++ [⟨field, none, error.message⟩]

def sanitizeSummary (s : Sanitizing) : Sanitizing :=
  if (s.obj.lookup "summary").any
      (fun v => !v.isStringOrNull) then
    s.drop "summary" .summaryNotString
  else s

/-
  A field that holds no array is dropped, and of an array the
  elements that fail, each with its original position.
-/
def sanitizeElementArray
    (field : String)
    (notArray : ReportValidationError)
    (validate : Json → Nat → Except ReportValidationError Unit)
    (s : Sanitizing) : Sanitizing :=
  match s.obj.lookup field with
  | none => s
  | some (.arr xs) =>
      let kept := Sieve.sieveFrom validate 0 xs
      { obj := Json.replaceField field (.arr kept.1) s.obj
        warnings := s.warnings ++
          kept.2.map (fun p =>
            ⟨field, some p.1, p.2.message⟩) }
  | some _ => s.drop field notArray

def sanitizeStringArrayField
    (field : String) (s : Sanitizing) : Sanitizing :=
  sanitizeElementArray field (.fieldNotArray field)
    (requireString (.fieldElementNotString field)) s

/- The advisory fields, one after the other. -/
def sanitizeAdvisoryFields (s : Sanitizing) : Sanitizing :=
  let s := sanitizeSummary s
  let s := sanitizeElementArray "discussion_items"
    .discussionItemsNotArray validateDiscussionItem s
  let s := sanitizeElementArray "spinoff_proposals"
    .spinoffProposalsNotArray validateSpinoffProposal s
  sanitizeStringArrayField "wrap_up_recommendations" s

def sanitizeReportAdvisory (data : Json) :
    Except ReportValidationError SanitizedReport := do
  let obj ← orError .notObject data.asObject
  validateRequiredFields obj
  let s := sanitizeAdvisoryFields ⟨obj, []⟩
  return ⟨.obj s.obj, s.warnings⟩

------------------------------------------------------------
-- Members
------------------------------------------------------------

namespace Json

variable {key other : String} {value v : Json}

theorem lookup_removeField_self
    (key : String)
    (kvs : List (String × Json)) :
    (removeField key kvs).lookup key = none := by
  rw [List.lookup_eq_none_iff]
  intro p hMem
  have hOther : p.1 ≠ key := by
    simpa [removeField] using (List.mem_filter.mp hMem).2
  simpa using hOther.symm

theorem lookup_removeField_of_ne
    (hOther : other ≠ key)
    (kvs : List (String × Json)) :
    (removeField key kvs).lookup other = kvs.lookup other := by
  induction kvs with
  | nil => rfl
  | cons p rest ih =>
      rcases p with ⟨k, w⟩
      unfold removeField at ih ⊢
      by_cases hKey : k = key
      · subst hKey
        have hSkip : (other == k) = false := by
          simpa using hOther
        rw [List.filter_cons_of_neg (by simp), ih,
          List.lookup_cons, hSkip]
      · rw [List.filter_cons_of_pos (by simpa using hKey),
          List.lookup_cons, List.lookup_cons, ih]

theorem lookup_replaceField_self
    {kvs : List (String × Json)}
    (value : Json)
    (hThere : kvs.lookup key = some v) :
    (replaceField key value kvs).lookup key = some value := by
  induction kvs with
  | nil => cases hThere
  | cons p rest ih =>
      rcases p with ⟨k, w⟩
      unfold replaceField
      by_cases hKey : k = key
      · rw [if_pos hKey, List.lookup_cons_self]
      · have hSkip : (key == k) = false := by
          simpa using Ne.symm hKey
        rw [List.lookup_cons, hSkip] at hThere
        rw [if_neg hKey, List.lookup_cons, hSkip]
        exact ih hThere

theorem lookup_replaceField_of_ne
    (hOther : other ≠ key)
    (kvs : List (String × Json)) :
    (replaceField key value kvs).lookup other =
      kvs.lookup other := by
  induction kvs with
  | nil => rfl
  | cons p rest ih =>
      rcases p with ⟨k, w⟩
      unfold replaceField
      by_cases hKey : k = key
      · subst hKey
        have hSkip : (other == k) = false := by
          simpa using hOther
        rw [if_pos rfl, List.lookup_cons, List.lookup_cons,
          hSkip]
      · rw [if_neg hKey, List.lookup_cons, List.lookup_cons, ih]

/- Nothing changes where the value is the one there. -/
theorem replaceField_same
    {kvs : List (String × Json)}
    (hThere : kvs.lookup key = some v) :
    replaceField key v kvs = kvs := by
  induction kvs with
  | nil => rfl
  | cons p rest ih =>
      rcases p with ⟨k, w⟩
      unfold replaceField
      by_cases hKey : k = key
      · subst hKey
        rw [List.lookup_cons_self, Option.some.injEq] at hThere
        rw [if_pos rfl, hThere]
      · have hSkip : (key == k) = false := by
          simpa using Ne.symm hKey
        rw [List.lookup_cons, hSkip] at hThere
        rw [if_neg hKey, ih hThere]

end Json

------------------------------------------------------------
-- One Step
------------------------------------------------------------

/- The warnings about a field. -/
def Sanitizing.about (s : Sanitizing) (field : String) :
    List AdvisoryWarning :=
  s.warnings.filter (fun w => w.field = field)

/-
  A step that makes the fields pass a strict check of them,
  does nothing where they pass, and leaves the others alone.
-/
structure Sanitizes
    (fields : List String)
    (strict :
      List (String × Json) → Except ReportValidationError Unit)
    (step : Sanitizing → Sanitizing) : Prop where
  frame : ∀ s other, other ∉ fields →
    (step s).obj.lookup other = s.obj.lookup other ∧
      (step s).about other = s.about other
  passes : ∀ s, strict (step s).obj = .ok ()
  same : ∀ s, strict s.obj = .ok () → step s = s
  congr : ∀ o o' : List (String × Json),
    (∀ f ∈ fields, o.lookup f = o'.lookup f) →
    strict o = strict o'

section Steps

variable {fs₁ fs₂ : List String}
variable {c₁ c₂ :
  List (String × Json) → Except ReportValidationError Unit}
variable {t₁ t₂ : Sanitizing → Sanitizing}
variable {field : String} {s : Sanitizing}

/- Steps on different fields, one after the other. -/
theorem Sanitizes.comp
    (hFirst : Sanitizes fs₁ c₁ t₁)
    (hSecond : Sanitizes fs₂ c₂ t₂)
    (hDisjoint : ∀ f ∈ fs₁, f ∉ fs₂) :
    Sanitizes (fs₁ ++ fs₂) (fun o => do c₁ o; c₂ o)
      (fun s => t₂ (t₁ s)) where
  frame := by
    intro s other hOther
    rw [List.mem_append, not_or] at hOther
    have hOne := hFirst.frame s other hOther.1
    have hTwo := hSecond.frame (t₁ s) other hOther.2
    exact ⟨hTwo.1.trans hOne.1, hTwo.2.trans hOne.2⟩
  passes := by
    intro s
    have hKept : c₁ (t₂ (t₁ s)).obj = c₁ (t₁ s).obj := by
      apply hFirst.congr
      intro f hMem
      exact (hSecond.frame _ f (hDisjoint f hMem)).1
    rw [bind_eq_ok]
    exact ⟨(), hKept.trans (hFirst.passes s),
      hSecond.passes _⟩
  same := by
    intro s hPasses
    rw [bind_eq_ok] at hPasses
    rcases hPasses with ⟨_, hOne, hTwo⟩
    rw [hFirst.same s hOne]
    exact hSecond.same s hTwo
  congr := by
    intro o o' hSame
    rw [hFirst.congr o o' (fun f hMem =>
        hSame f (List.mem_append_left _ hMem)),
      hSecond.congr o o' (fun f hMem =>
        hSame f (List.mem_append_right _ hMem))]

theorem lookup_drop_self
    (s : Sanitizing)
    (field : String)
    (error : ReportValidationError) :
    (s.drop field error).obj.lookup field = none :=
  Json.lookup_removeField_self field s.obj

theorem frame_drop
    {other : String}
    (hOther : other ≠ field)
    (error : ReportValidationError) :
    (s.drop field error).obj.lookup other =
        s.obj.lookup other ∧
      (s.drop field error).about other = s.about other := by
  refine ⟨Json.lookup_removeField_of_ne hOther _, ?_⟩
  simp [Sanitizing.about, Sanitizing.drop, hOther.symm]

theorem sanitizes_summary :
    Sanitizes ["summary"]
      (fun o => validateSummary (o.lookup "summary"))
      sanitizeSummary where
  frame := by
    intro s other hOther
    rw [List.mem_singleton] at hOther
    unfold sanitizeSummary
    split
    · exact frame_drop hOther _
    · exact ⟨rfl, rfl⟩
  passes := by
    intro s
    unfold sanitizeSummary validateSummary
    split
    · rw [refuseIf_eq_ok, lookup_drop_self]
      simp
    next hSound => rwa [refuseIf_eq_ok]
  same := by
    intro s hPasses
    unfold validateSummary at hPasses
    rw [refuseIf_eq_ok] at hPasses
    unfold sanitizeSummary
    rw [if_neg hPasses]
  congr := by
    intro o o' hSame
    exact congrArg validateSummary (hSame "summary" (by simp))

end Steps

------------------------------------------------------------
-- Arrays
------------------------------------------------------------

/-
  What became of an advisory array: nothing was there, or no
  array, which is gone, or its elements are left in their
  order but for those with a warning, which fail the check.
-/
inductive Reports
    (validate : Json → Nat → Except ReportValidationError Unit)
    (field : String) :
    Option Json → Option Json → List AdvisoryWarning → Prop
| absent : Reports validate field none none []
| notArray (v : Json) (reason : String)
    (hOther : v.asArray = none) :
    Reports validate field (some v) none
      [⟨field, none, reason⟩]
| sieved (xs kept : List Json) (ks : List Nat)
    (warnings : List AdvisoryWarning)
    (hSplits : Sieve.Splits 0 xs kept ks)
    (hPlaces : warnings.map AdvisoryWarning.index =
      ks.map some)
    (hFails : ∀ w ∈ warnings, ∃ k x e,
      w = ⟨field, some k, e.message⟩ ∧ xs[k]? = some x ∧
        validate x k = .error e) :
    Reports validate field (some (.arr xs)) (some (.arr kept))
      warnings

/- The step tells what became of the array. -/
def Tells
    (validate : Json → Nat → Except ReportValidationError Unit)
    (field : String)
    (step : Sanitizing → Sanitizing) : Prop :=
  ∀ s, s.about field = [] →
    Reports validate field (s.obj.lookup field)
      ((step s).obj.lookup field) ((step s).about field)

section Arrays

variable {field : String} {notArray : ReportValidationError}
variable {validate :
  Json → Nat → Except ReportValidationError Unit}
variable {s : Sanitizing} {fields : List String}
variable {strict :
  List (String × Json) → Except ReportValidationError Unit}
variable {t₁ t₂ : Sanitizing → Sanitizing}

theorem Tells.before
    (hTells : Tells validate field t₁)
    (hOther : Sanitizes fields strict t₂)
    (hNotIn : field ∉ fields) :
    Tells validate field (fun s => t₂ (t₁ s)) := by
  intro s hNone
  have hKept := hOther.frame (t₁ s) field hNotIn
  rw [hKept.1, hKept.2]
  exact hTells s hNone

theorem Tells.after
    (hTells : Tells validate field t₂)
    (hOther : Sanitizes fields strict t₁)
    (hNotIn : field ∉ fields) :
    Tells validate field (fun s => t₂ (t₁ s)) := by
  intro s hNone
  have hKept := hOther.frame s field hNotIn
  rw [← hKept.1]
  rw [← hKept.2] at hNone
  exact hTells (t₁ s) hNone

/- The elements that pass, and a warning for each other. -/
def Sanitizing.sieve
    (s : Sanitizing)
    (field : String)
    (validate : Json → Nat → Except ReportValidationError Unit)
    (xs : List Json) : Sanitizing where
  obj :=
    Json.replaceField field
      (.arr (Sieve.sieveFrom validate 0 xs).1) s.obj
  warnings :=
    s.warnings ++
      (Sieve.sieveFrom validate 0 xs).2.map
        (fun p => ⟨field, some p.1, p.2.message⟩)

theorem sanitizeElementArray_cases
    (field : String)
    (notArray : ReportValidationError)
    (validate : Json → Nat → Except ReportValidationError Unit)
    (s : Sanitizing) :
    (s.obj.lookup field = none ∧
        sanitizeElementArray field notArray validate s = s) ∨
      (∃ xs, s.obj.lookup field = some (.arr xs) ∧
        sanitizeElementArray field notArray validate s =
          s.sieve field validate xs) ∨
      (∃ v, s.obj.lookup field = some v ∧ v.asArray = none ∧
        (∀ xs, v ≠ .arr xs) ∧
        sanitizeElementArray field notArray validate s =
          s.drop field notArray) := by
  unfold sanitizeElementArray
  cases hField : s.obj.lookup field with
  | none => exact .inl ⟨rfl, rfl⟩
  | some v =>
      cases v with
      | arr xs => exact .inr (.inl ⟨xs, rfl, rfl⟩)
      | _ =>
          exact .inr (.inr ⟨_, rfl, rfl, by simp, rfl⟩)

theorem frame_elementArray
    {other : String} (hOther : other ≠ field) :
    (sanitizeElementArray field notArray validate s).obj.lookup
          other = s.obj.lookup other ∧
      (sanitizeElementArray field notArray validate s).about
          other = s.about other := by
  rcases sanitizeElementArray_cases field notArray validate s
    with ⟨_, hStep⟩ | ⟨xs, _, hStep⟩ | ⟨v, _, _, _, hStep⟩
  · rw [hStep]
    exact ⟨rfl, rfl⟩
  · rw [hStep]
    refine ⟨Json.lookup_replaceField_of_ne hOther _, ?_⟩
    have hNew :
        ((Sieve.sieveFrom validate 0 xs).2.map
          (fun p => (⟨field, some p.1, p.2.message⟩ :
            AdvisoryWarning))).filter
          (fun w => w.field = other) = [] := by
      rw [List.filter_eq_nil_iff]
      intro w hMem
      rw [List.mem_map] at hMem
      rcases hMem with ⟨p, _, rfl⟩
      simpa using hOther.symm
    unfold Sanitizing.about
    rw [Sanitizing.sieve, List.filter_append, hNew,
      List.append_nil]
  · rw [hStep]
    exact frame_drop hOther _

theorem sanitizes_elementArray
    (field : String)
    (notArray : ReportValidationError)
    (hPlaceless : Sieve.Placeless validate) :
    Sanitizes [field]
      (fun o => validateArray notArray validate
        (o.lookup field))
      (sanitizeElementArray field notArray validate) where
  frame := by
    intro s other hOther
    rw [List.mem_singleton] at hOther
    exact frame_elementArray hOther
  passes := by
    intro s
    rcases sanitizeElementArray_cases field notArray validate s
      with ⟨hNone, hStep⟩ | ⟨xs, hArray, hStep⟩ |
        ⟨v, _, _, _, hStep⟩
    · rw [hStep, hNone]
      rfl
    · have hLeft := Json.lookup_replaceField_self
        (.arr (Sieve.sieveFrom validate 0 xs).1) hArray
      rw [hStep]
      dsimp only [Sanitizing.sieve]
      rw [hLeft]
      exact Sieve.check_kept hPlaceless 0 0 xs
    · rw [hStep, lookup_drop_self]
      rfl
  same := by
    intro s hPasses
    rcases sanitizeElementArray_cases field notArray validate s
      with ⟨_, hStep⟩ | ⟨xs, hArray, hStep⟩ |
        ⟨v, hValue, _, hNot, _⟩
    · exact hStep
    · rw [hArray] at hPasses
      have hAll := Sieve.check_iff_sieve.mp hPasses
      rw [hStep, Sanitizing.sieve, hAll,
        Json.replaceField_same hArray]
      simp
    · rw [hValue] at hPasses
      unfold validateArray at hPasses
      split at hPasses
      next xs hSome =>
        exact absurd (Option.some.inj hSome) (hNot xs)
      · cases hPasses
      next hNone => cases hNone
  congr := by
    intro o o' hSame
    exact congrArg (validateArray notArray validate)
      (hSame field (by simp))

theorem tells_elementArray
    (field : String)
    (notArray : ReportValidationError)
    (validate :
      Json → Nat → Except ReportValidationError Unit) :
    Tells validate field
      (sanitizeElementArray field notArray validate) := by
  intro s hNone
  rcases sanitizeElementArray_cases field notArray validate s
    with ⟨hAbsent, hStep⟩ | ⟨xs, hArray, hStep⟩ |
      ⟨v, hValue, hOther, _, hStep⟩
  · rw [hStep, hAbsent, hNone]
    exact .absent
  · have hLeft := Json.lookup_replaceField_self
      (.arr (Sieve.sieveFrom validate 0 xs).1) hArray
    have hAbout :
        (s.sieve field validate xs).about field =
          (Sieve.sieveFrom validate 0 xs).2.map
            (fun p => ⟨field, some p.1, p.2.message⟩) := by
      unfold Sanitizing.about at hNone ⊢
      rw [Sanitizing.sieve, List.filter_append, hNone,
        List.nil_append, List.filter_eq_self]
      intro w hMem
      rw [List.mem_map] at hMem
      rcases hMem with ⟨p, _, rfl⟩
      simp
    rw [hStep, hArray, hAbout]
    dsimp only [Sanitizing.sieve]
    rw [hLeft]
    apply Reports.sieved _ _ _ _ (Sieve.splits_sieve _ _ _)
    · simp
    · intro w hMem
      rw [List.mem_map] at hMem
      rcases hMem with ⟨⟨k, e⟩, hFailed, rfl⟩
      rcases Sieve.failure_of_sieve hFailed with
        ⟨x, hAt, _, hFails⟩
      exact ⟨k, x, e, rfl, hAt, hFails⟩
  · have hAbout :
        (s.drop field notArray).about field =
          [⟨field, none, notArray.message⟩] := by
      unfold Sanitizing.about at hNone ⊢
      rw [Sanitizing.drop, List.filter_append, hNone,
        List.nil_append]
      simp
    rw [hStep, hValue, lookup_drop_self, hAbout]
    exact .notArray v _ hOther

theorem tells_stringArrayField (field : String) :
    Tells (requireString (.fieldElementNotString field)) field
      (sanitizeStringArrayField field) :=
  tells_elementArray _ _ _

end Arrays

------------------------------------------------------------
-- Elements
------------------------------------------------------------

/- Whether a value is a string does not depend on its place. -/
theorem requireString_placeless
    (error : Nat → ReportValidationError) :
    Sieve.Placeless (requireString error) := by
  intro x i j hPasses
  unfold requireString at hPasses ⊢
  rw [refuseIf_eq_ok] at hPasses ⊢
  exact hPasses

theorem requireString_all
    {error error' : Nat → ReportValidationError}
    {xs : List Json} {i j : Nat}
    (hPasses : Sieve.checkFrom (requireString error) i xs =
      .ok ()) :
    Sieve.checkFrom (requireString error') j xs = .ok () := by
  induction xs generalizing i j with
  | nil => rfl
  | cons x rest ih =>
      rw [Sieve.checkFrom, bind_eq_ok] at hPasses ⊢
      rcases hPasses with ⟨_, hHere, hRest⟩
      refine ⟨(), ?_, ih hRest⟩
      unfold requireString at hHere ⊢
      rw [refuseIf_eq_ok] at hHere ⊢
      exact hHere

theorem validateStringArrayAt_placeless
    {v : Json} {path path' : String}
    (hPasses : validateStringArrayAt v path = .ok ()) :
    validateStringArrayAt v path' = .ok () := by
  unfold validateStringArrayAt validateArray at hPasses ⊢
  cases v with
  | arr xs => exact requireString_all hPasses
  | _ => cases hPasses

theorem validateDiscussionItem_placeless :
    Sieve.Placeless validateDiscussionItem := by
  intro x i j hPasses
  unfold validateDiscussionItem at hPasses ⊢
  simp only [bind_eq_ok, orError_eq_ok, refuseIf_eq_ok]
    at hPasses ⊢
  rcases hPasses with
    ⟨obj, hObj, u, hTopic, u', hSeverity, hOptions⟩
  refine ⟨obj, hObj, u, hTopic, u', hSeverity, ?_⟩
  cases hOpts : obj.lookup "options" with
  | none => rfl
  | some opts =>
      rw [hOpts] at hOptions
      exact validateStringArrayAt_placeless hOptions

theorem validateSpinoffProposal_placeless :
    Sieve.Placeless validateSpinoffProposal := by
  intro x i j hPasses
  unfold validateSpinoffProposal at hPasses ⊢
  simp only [bind_eq_ok, orError_eq_ok, refuseIf_eq_ok]
    at hPasses ⊢
  exact hPasses

------------------------------------------------------------
-- Required Fields
------------------------------------------------------------

/-
  What the required fields have to be: a success flag, and a
  cancellation only of a failure and with a reason.
-/
structure RequiredSound (data : Json) : Prop where
  success : ∃ b, data.get "success" = some (.bool b)
  cancelled :
    data.get "cancelled" = none ∨
      data.get "cancelled" = some .null ∨
      ∃ b, data.get "cancelled" = some (.bool b)
  reason :
    data.get "reason" = none ∨
      data.get "reason" = some .null ∨
      ∃ s, data.get "reason" = some (.str s)
  told :
    data.get "cancelled" = some (.bool true) →
      data.get "success" = some (.bool false) ∧
        ∃ s, data.get "reason" = some (.str s) ∧
          Text.isBlank s = false

section Required

variable {obj obj' : List (String × Json)} {data : Json}

theorem validateRequiredFields_congr
    (hSame : ∀ f ∈ ["success", "cancelled", "reason"],
      obj.lookup f = obj'.lookup f) :
    validateRequiredFields obj = validateRequiredFields obj' := by
  unfold validateRequiredFields
  rw [hSame "success" (by simp), hSame "cancelled" (by simp),
    hSame "reason" (by simp)]

/- Left out, or a value that decodes. -/
theorem validateOptional_eq_ok
    {α : Type} {error : ReportValidationError}
    {v : Option Json} {a : Option α}
    (decode : Json → Option α)
    (hNull : decode .null = none) :
    validateOptional error decode v = .ok a ↔
      ((v = none ∨ v = some .null) ∧ a = none) ∨
        ∃ w b, v = some w ∧ decode w = some b ∧
          a = some b := by
  unfold validateOptional
  split
  · constructor
    · intro hPasses
      cases hPasses
      exact .inl ⟨.inl rfl, rfl⟩
    · rintro (⟨_, rfl⟩ | ⟨w, b, hSome, _⟩)
      · rfl
      · cases hSome
  · constructor
    · intro hPasses
      cases hPasses
      exact .inl ⟨.inr rfl, rfl⟩
    · rintro (⟨_, rfl⟩ | ⟨w, b, hSome, hDecodes, _⟩)
      · rfl
      · cases hSome
        rw [hNull] at hDecodes
        cases hDecodes
  next w hNotNull =>
    cases hDecodes : decode w with
    | none =>
        constructor
        · intro hPasses
          cases hPasses
        · rintro (⟨hOut, _⟩ | ⟨w', b, hSome, hDecodes', _⟩)
          · rcases hOut with hOut | hOut
            · cases hOut
            · exact absurd (Option.some.inj hOut) hNotNull
          · cases hSome
            rw [hDecodes] at hDecodes'
            cases hDecodes'
    | some b =>
        constructor
        · intro hPasses
          cases hPasses
          exact .inr ⟨w, b, rfl, hDecodes, rfl⟩
        · rintro (⟨hOut, _⟩ | ⟨w', b', hSome, hDecodes', rfl⟩)
          · rcases hOut with hOut | hOut
            · cases hOut
            · exact absurd (Option.some.inj hOut) hNotNull
          · cases hSome
            rw [hDecodes] at hDecodes'
            cases hDecodes'
            rfl

theorem validateRequiredFields_eq_ok
    {u : Unit} :
    validateRequiredFields obj = .ok u ↔
      RequiredSound (.obj obj) := by
  simp only [validateRequiredFields, bind_eq_ok, orError_eq_ok,
    refuseIf_eq_ok, checkWhen_eq_ok,
    validateOptional_eq_ok Json.asBool rfl,
    validateOptional_eq_ok Json.asStr rfl,
    Json.asBool_eq_some, Json.asStr_eq_some]
  constructor
  · rintro ⟨success, hSuccess, _, hBool, cancelled, hCancelled,
      reason, hReason, hTold⟩
    cases hFlag : success.asBool with
    | none => simp [hFlag] at hBool
    | some b =>
        rw [Json.asBool_eq_some] at hFlag
        subst hFlag
        constructor
        · exact ⟨b, hSuccess⟩
        · rcases hCancelled with ⟨hOut, _⟩ | ⟨w, c, hSome, rfl, _⟩
          · rcases hOut with hOut | hOut
            · exact .inl hOut
            · exact .inr (.inl hOut)
          · exact .inr (.inr ⟨c, hSome⟩)
        · rcases hReason with ⟨hOut, _⟩ | ⟨w, t, hSome, rfl, _⟩
          · rcases hOut with hOut | hOut
            · exact .inl hOut
            · exact .inr (.inl hOut)
          · exact .inr (.inr ⟨t, hSome⟩)
        · intro hCancel
          have hCancel' : obj.lookup "cancelled" =
              some (.bool true) := hCancel
          rcases hCancelled with ⟨hOut, _⟩ | ⟨w, c, hSome, rfl, rfl⟩
          · rw [hCancel'] at hOut
            simp at hOut
          · rw [hCancel', Option.some.injEq] at hSome
            cases hSome
            rcases hTold rfl with ⟨_, hFailure, hText⟩
            constructor
            · cases b with
              | false => exact hSuccess
              | true => exact absurd rfl hFailure
            · rcases hReason with ⟨_, rfl⟩ | ⟨w, t, hSome, rfl, rfl⟩
              · simp at hText
              · exact ⟨t, hSome, by simpa using hText⟩
  · rintro ⟨⟨b, hSuccess⟩, hCancelled, hReason, hTold⟩
    have hFlag : ∃ c : Option Bool,
        ((obj.lookup "cancelled" = none ∨
          obj.lookup "cancelled" = some .null) ∧ c = none) ∨
        ∃ w c', obj.lookup "cancelled" = some w ∧
          w = .bool c' ∧ c = some c' := by
      rcases hCancelled with hOut | hOut | ⟨c, hSome⟩
      · exact ⟨none, .inl ⟨.inl hOut, rfl⟩⟩
      · exact ⟨none, .inl ⟨.inr hOut, rfl⟩⟩
      · exact ⟨some c, .inr ⟨_, c, hSome, rfl, rfl⟩⟩
    have hText : ∃ r : Option String,
        ((obj.lookup "reason" = none ∨
          obj.lookup "reason" = some .null) ∧ r = none) ∨
        ∃ w t, obj.lookup "reason" = some w ∧
          w = .str t ∧ r = some t := by
      rcases hReason with hOut | hOut | ⟨t, hSome⟩
      · exact ⟨none, .inl ⟨.inl hOut, rfl⟩⟩
      · exact ⟨none, .inl ⟨.inr hOut, rfl⟩⟩
      · exact ⟨some t, .inr ⟨_, t, hSome, rfl, rfl⟩⟩
    rcases hFlag with ⟨c, hFlag⟩
    rcases hText with ⟨r, hText⟩
    refine ⟨.bool b, hSuccess, (), by simp [Json.asBool], c,
      hFlag, r, hText, ?_⟩
    rintro rfl
    rcases hFlag with ⟨_, hNone⟩ | ⟨w, c', hSome, rfl, hTrue⟩
    · cases hNone
    · cases hTrue
      rcases hTold hSome with ⟨hFailure, t, hWhy, hBlank⟩
      have hSame := hSuccess.symm.trans hFailure
      simp only [Option.some.injEq, Json.bool.injEq] at hSame
      subst hSame
      have hWhy' : obj.lookup "reason" = some (.str t) := hWhy
      rcases hText with ⟨hOut, _⟩ | ⟨w, t', hSome', rfl, rfl⟩
      · rw [hWhy'] at hOut
        simp at hOut
      · rw [hWhy', Option.some.injEq, Json.str.injEq] at hSome'
        subst hSome'
        exact ⟨(), by simp, by simp [hBlank]⟩

end Required

------------------------------------------------------------
-- Exactness
------------------------------------------------------------

/- The advisory fields that hold arrays, with their checks. -/
inductive AdvisoryArray :
    String → (Json → Nat → Except ReportValidationError Unit) →
    Prop where
| discussionItems :
    AdvisoryArray "discussion_items" validateDiscussionItem
| spinoffProposals :
    AdvisoryArray "spinoff_proposals" validateSpinoffProposal
| wrapUpRecommendations :
    AdvisoryArray "wrap_up_recommendations"
      (requireString
        (.fieldElementNotString "wrap_up_recommendations"))

def advisoryFields : List String :=
  ["summary", "discussion_items", "spinoff_proposals",
    "wrap_up_recommendations"]

def validateAdvisoryFields (obj : List (String × Json)) :
    Except ReportValidationError Unit := do
  validateSummary (obj.lookup "summary")
  validateDiscussionItems (obj.lookup "discussion_items")
  validateSpinoffProposals (obj.lookup "spinoff_proposals")
  validateStringArray (obj.lookup "wrap_up_recommendations")
    "wrap_up_recommendations"

theorem sanitizes_discussionItems :
    Sanitizes ["discussion_items"]
      (fun o => validateDiscussionItems
        (o.lookup "discussion_items"))
      (sanitizeElementArray "discussion_items"
        .discussionItemsNotArray validateDiscussionItem) :=
  sanitizes_elementArray _ _ validateDiscussionItem_placeless

theorem sanitizes_spinoffProposals :
    Sanitizes ["spinoff_proposals"]
      (fun o => validateSpinoffProposals
        (o.lookup "spinoff_proposals"))
      (sanitizeElementArray "spinoff_proposals"
        .spinoffProposalsNotArray validateSpinoffProposal) :=
  sanitizes_elementArray _ _ validateSpinoffProposal_placeless

theorem sanitizes_wrapUp :
    Sanitizes ["wrap_up_recommendations"]
      (fun o => validateStringArray
        (o.lookup "wrap_up_recommendations")
        "wrap_up_recommendations")
      (sanitizeStringArrayField "wrap_up_recommendations") :=
  sanitizes_elementArray _ _ (requireString_placeless _)

theorem sanitizes_proposals :
    Sanitizes ["spinoff_proposals", "wrap_up_recommendations"]
      (fun o => do
        validateSpinoffProposals (o.lookup "spinoff_proposals")
        validateStringArray (o.lookup "wrap_up_recommendations")
          "wrap_up_recommendations")
      (fun s => sanitizeStringArrayField
        "wrap_up_recommendations"
        (sanitizeElementArray "spinoff_proposals"
          .spinoffProposalsNotArray validateSpinoffProposal s)) :=
  sanitizes_spinoffProposals.comp sanitizes_wrapUp (by decide)

theorem sanitizes_advisoryFields :
    Sanitizes advisoryFields validateAdvisoryFields
      sanitizeAdvisoryFields :=
  sanitizes_summary.comp
    (sanitizes_discussionItems.comp sanitizes_proposals
      (by decide))
    (by decide)

theorem tells_advisoryFields
    {field : String}
    {validate : Json → Nat → Except ReportValidationError Unit}
    (hArray : AdvisoryArray field validate) :
    Tells validate field sanitizeAdvisoryFields := by
  cases hArray with
  | discussionItems =>
      have hRest := (tells_elementArray "discussion_items"
        .discussionItemsNotArray validateDiscussionItem).before
        sanitizes_proposals (by decide)
      exact hRest.after sanitizes_summary (by decide)
  | spinoffProposals =>
      have hRest := (tells_elementArray "spinoff_proposals"
        .spinoffProposalsNotArray validateSpinoffProposal).before
        sanitizes_wrapUp (by decide)
      have hLater := hRest.after sanitizes_discussionItems
        (by decide)
      exact hLater.after sanitizes_summary (by decide)
  | wrapUpRecommendations =>
      have hRest := (tells_stringArrayField
        "wrap_up_recommendations").after
        sanitizes_spinoffProposals (by decide)
      have hLater := hRest.after sanitizes_discussionItems
        (by decide)
      exact hLater.after sanitizes_summary (by decide)

section Exactness

variable {data : Json} {out : SanitizedReport}
variable {obj : List (String × Json)}

theorem validateReportPayload_obj :
    validateReportPayload (.obj obj) =
      (do
        validateRequiredFields obj
        validateAdvisoryFields obj) := rfl

theorem sanitizeReportAdvisory_eq_ok :
    sanitizeReportAdvisory data = .ok out ↔
      ∃ obj, data = .obj obj ∧ RequiredSound (.obj obj) ∧
        out = ⟨.obj (sanitizeAdvisoryFields ⟨obj, []⟩).obj,
          (sanitizeAdvisoryFields ⟨obj, []⟩).warnings⟩ := by
  unfold sanitizeReportAdvisory
  simp only [bind_eq_ok, orError_eq_ok,
    validateRequiredFields_eq_ok]
  constructor
  · rintro ⟨obj, hObj, _, hSound, hOut⟩
    cases data <;> cases hObj
    cases hOut
    exact ⟨obj, rfl, hSound, rfl⟩
  · rintro ⟨obj, rfl, hSound, rfl⟩
    exact ⟨obj, rfl, (), hSound, rfl⟩

theorem validateReportPayload_eq_ok :
    validateReportPayload data = .ok () ↔
      ∃ obj, data = .obj obj ∧ RequiredSound (.obj obj) ∧
        validateAdvisoryFields obj = .ok () := by
  constructor
  · intro hPasses
    cases data with
    | obj obj =>
        rw [validateReportPayload_obj, bind_eq_ok] at hPasses
        rcases hPasses with ⟨_, hRequired, hAdvisory⟩
        exact ⟨obj, rfl,
          validateRequiredFields_eq_ok.mp hRequired, hAdvisory⟩
    | _ => cases hPasses
  · rintro ⟨obj, rfl, hSound, hAdvisory⟩
    rw [validateReportPayload_obj, bind_eq_ok]
    exact ⟨(), validateRequiredFields_eq_ok.mpr hSound,
      hAdvisory⟩

/- What is sanitized passes the strict validator. -/
theorem validate_of_sanitize
    (hSanitized : sanitizeReportAdvisory data = .ok out) :
    validateReportPayload out.report = .ok () := by
  rcases sanitizeReportAdvisory_eq_ok.mp hSanitized with
    ⟨obj, rfl, hSound, rfl⟩
  rw [validateReportPayload_eq_ok]
  refine ⟨_, rfl, ?_, sanitizes_advisoryFields.passes _⟩
  rw [← validateRequiredFields_eq_ok (u := ())] at hSound ⊢
  rw [← hSound]
  apply validateRequiredFields_congr
  intro f hMem
  have hOther : f ∉ advisoryFields := by
    revert f
    decide
  exact (sanitizes_advisoryFields.frame ⟨obj, []⟩ f hOther).1

/- It is left alone exactly if the strict validator accepts. -/
theorem sanitize_same_iff :
    sanitizeReportAdvisory data = .ok ⟨data, []⟩ ↔
      validateReportPayload data = .ok () := by
  constructor
  · intro hSame
    exact validate_of_sanitize hSame
  · intro hPasses
    rcases validateReportPayload_eq_ok.mp hPasses with
      ⟨obj, rfl, hSound, hAdvisory⟩
    rw [sanitizeReportAdvisory_eq_ok]
    refine ⟨obj, rfl, hSound, ?_⟩
    rw [sanitizes_advisoryFields.same ⟨obj, []⟩ hAdvisory]

/- It is refused exactly where a required field is not sound. -/
theorem sanitize_error_iff :
    (∃ e, sanitizeReportAdvisory data = .error e) ↔
      ¬ RequiredSound data := by
  constructor
  · rintro ⟨e, hError⟩ hSound
    rcases hSound.success with ⟨b, hSuccess⟩
    cases data with
    | obj obj =>
        rw [sanitizeReportAdvisory_eq_ok.mpr
          ⟨obj, rfl, hSound, rfl⟩] at hError
        cases hError
    | _ => cases hSuccess
  · intro hNot
    cases hRun : sanitizeReportAdvisory data with
    | error e => exact ⟨e, rfl⟩
    | ok out =>
        rcases sanitizeReportAdvisory_eq_ok.mp hRun with
          ⟨obj, rfl, hSound, _⟩
        exact absurd hSound hNot

end Exactness

/-
  The sanitizer refuses where the required fields are unsound,
  and else its output passes the strict validator, comes out
  of it again unchanged, and differs from the report in the
  advisory fields only, where each element that is left keeps
  its place and each one dropped has its warning. The report
  is left alone exactly if the strict validator accepts it.
-/
theorem sanitize_exact (data : Json) :
    ((∃ e, sanitizeReportAdvisory data = .error e) ↔
        ¬ RequiredSound data) ∧
      (sanitizeReportAdvisory data = .ok ⟨data, []⟩ ↔
        validateReportPayload data = .ok ()) ∧
      ∀ out, sanitizeReportAdvisory data = .ok out →
        validateReportPayload out.report = .ok () ∧
        sanitizeReportAdvisory out.report =
          .ok ⟨out.report, []⟩ ∧
        (∀ field, field ∉ advisoryFields →
          out.report.get field = data.get field) ∧
        ∀ field validate, AdvisoryArray field validate →
          Reports validate field (data.get field)
            (out.report.get field)
            (out.warnings.filter (fun w => w.field = field)) := by
  refine ⟨sanitize_error_iff, sanitize_same_iff, ?_⟩
  intro out hSanitized
  have hPasses := validate_of_sanitize hSanitized
  rcases sanitizeReportAdvisory_eq_ok.mp hSanitized with
    ⟨obj, rfl, hSound, rfl⟩
  refine ⟨hPasses, sanitize_same_iff.mpr hPasses, ?_, ?_⟩
  · intro field hOther
    exact (sanitizes_advisoryFields.frame _ field hOther).1
  · intro field validate hArray
    exact tells_advisoryFields hArray ⟨obj, []⟩ rfl

end Taskfleet
