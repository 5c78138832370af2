import Taskfleet.Outcome
import Taskfleet.RunRecovery

/-
  Which report payloads are taken for a merge.

  Three readers decide it: the supervisor's classifier, the
  reducer and the status fold of the log. The first two go
  by the one predicate on the payload. The third skims the
  line into a record, which an array also fills, by position.

  Main declarations:
    * `ClassifiedMerged`, `AdoptedMerged`, `OverridesFailed`
    * `MergeAuthority`, `Json.MergesByPosition`
    * `mergeAuthority_iff`
-/

------------------------------------------------------------
-- The Three Readers
------------------------------------------------------------

namespace Taskfleet

/- The supervisor would tear the node down in full. -/
def ClassifiedMerged (report : Json) : Prop :=
  ∃ n outcome, n.lastReport = some report ∧
    TerminalOutcome.classify n = some outcome ∧
    outcome.teardown = .full

/- The reducer corrects a failed node to done by it. -/
def AdoptedMerged (report : Json) : Prop :=
  ∃ env d ev ops id n n', ev.kind = .nodeReport ∧
    ev.data = report ∧
    reduceEventToOps env d ev = .ok ops ∧
    d.nodes.lookup id = some n ∧ n.status = .failed ∧
    (applyOps ops d).nodes.lookup id = some n' ∧
    n'.status = .done

/- The status fold of the log turns a failed node by it. -/
def OverridesFailed (report : Json) : Prop :=
  ∃ acc ev id, ev.kind = .nodeReport ∧ ev.data = report ∧
    NodeStatusAcc.status acc id = some .failed ∧
    (acc.step ev).status id ≠ some .failed

def TreatedAsMerged (report : Json) : Prop :=
  ClassifiedMerged report ∨ AdoptedMerged report ∨
    OverridesFailed report

/- An origin that is the stamp of a run merge. -/
def Json.IsMergeStamp (origin : Json) : Prop :=
  ∃ stamp, ReportOrigin.decode origin = some stamp ∧
    stamp.isRunMerge = true

/-
  Only a confirmed merge is treated as one, and never a
  payload with any other origin than the stamp.
-/
structure MergeAuthority (report : Json) : Prop where
  confirmed : TreatedAsMerged report →
    reportIsConfirmedMerge report = true
  unforged : ∀ origin,
    report.get reportOriginKey = some origin →
    ¬ origin.IsMergeStamp → ¬ TreatedAsMerged report

/- An array that skims, by position, to a merge. -/
def Json.MergesByPosition : Json → Prop
| .arr items =>
    items.length ≤ 5 ∧ items[1]? = some (.bool true) ∧
      (items[2]? = none ∨ items[2]? = some .null ∨
        items[2]? = some (.bool false)) ∧
      ((∃ origin, items[4]? = some origin ∧
          origin.IsMergeStamp) ∨
        (items[4]? = none ∧
          items[3]? = some (.str viaExplicitMerge)))
| _ => False

------------------------------------------------------------
-- Confirmed Merges
------------------------------------------------------------

section Readers

variable {report : Json} {p : CancelProbeData}

theorem confirmed_iff :
    reportIsConfirmedMerge report = true ↔
      report.get "success" = some (.bool true) ∧
        (report.get "cancelled" = none ∨
          report.get "cancelled" = some .null ∨
          report.get "cancelled" = some (.bool false)) ∧
        ((∃ origin, report.get reportOriginKey = some origin ∧
            origin.IsMergeStamp) ∨
          (report.get reportOriginKey = none ∧
            report.getStr "via" = some viaExplicitMerge)) := by
  have hStamp :
      (ReportOrigin.fromReport report).any
          ReportOrigin.isRunMerge = true ↔
        ∃ origin, report.get reportOriginKey = some origin ∧
          origin.IsMergeStamp := by
    unfold ReportOrigin.fromReport Json.IsMergeStamp
    rw [Option.any_eq_true]
    constructor
    · rintro ⟨stamp, hDecode, hMerge⟩
      rw [Option.bind_eq_some_iff] at hDecode
      rcases hDecode with ⟨origin, hGet, hDecode⟩
      exact ⟨origin, hGet, stamp, hDecode, hMerge⟩
    · rintro ⟨origin, hGet, stamp, hDecode, hMerge⟩
      refine ⟨stamp, ?_, hMerge⟩
      rw [Option.bind_eq_some_iff]
      exact ⟨origin, hGet, hDecode⟩
  constructor
  · intro hMerge
    refine ⟨success_of_confirmedMerge hMerge,
      cancelled_of_confirmedMerge hMerge, ?_⟩
    simp only [reportIsConfirmedMerge, Bool.and_eq_true,
      Bool.or_eq_true] at hMerge
    rcases hMerge.2 with hOrigin | hVia
    · exact .inl (hStamp.mp hOrigin)
    · rw [Option.isNone_iff_eq_none, beq_iff_eq] at hVia
      exact .inr hVia
  · rintro ⟨hSuccess, hCancelled, hAuthor⟩
    unfold reportIsConfirmedMerge
    simp only [Bool.and_eq_true, Bool.or_eq_true, beq_iff_eq,
      Option.isNone_iff_eq_none]
    refine ⟨⟨hSuccess, ?_⟩, ?_⟩
    · rcases hCancelled with h | h | h <;> rw [h]
    · rcases hAuthor with hOrigin | hVia
      · exact .inl (hStamp.mpr hOrigin)
      · exact .inr hVia

theorem confirmed_of_classified
    (hMerged : ClassifiedMerged report) :
    reportIsConfirmedMerge report = true := by
  rcases hMerged with ⟨n, outcome, hReport, hClass, hFull⟩
  rw [teardown_eq_full.mp hFull, classify_eq_merged] at hClass
  rcases hClass with ⟨report', hReport', hConfirmed⟩
  rw [hReport, Option.some.injEq] at hReport'
  exact hReport' ▸ hConfirmed

theorem confirmed_of_adopted
    (hMerged : AdoptedMerged report) :
    reportIsConfirmedMerge report = true := by
  rcases hMerged with
    ⟨env, d, ev, ops, id, n, n', _, rfl, hPlan, hLookup,
      hFailed, hLookup', hDone⟩
  have hAccepts : Accepts env d ev (applyOps ops d) :=
    ⟨ops, hPlan, rfl, rfl⟩
  rcases node_frozen_step hAccepts hLookup
    (by rw [hFailed]; rfl) with ⟨n'', hSame, hFrozen⟩
  rw [hLookup', Option.some.injEq] at hSame
  subst hSame
  rw [hFailed, hDone] at hFrozen
  rcases hFrozen with hStays | ⟨_, _, e, hMem, _, _, hMerge⟩
  · cases hStays
  · rw [List.mem_singleton] at hMem
    exact hMem ▸ hMerge

/- The fold turns a failed node by what it has skimmed. -/
theorem skimmed_of_overrides
    (hMerged : OverridesFailed report) :
    ∃ p, CancelProbeData.decode report = some p ∧
      reportIsConfirmedMerge p.reportValue = true := by
  rcases hMerged with
    ⟨acc, ev, id, hKind, rfl, hFailed, hTurned⟩
  cases hSkim : CancelProbeData.decode ev.data with
  | none =>
      rw [NodeStatusAcc.step, CancelProbe.decode, hSkim]
        at hTurned
      exact absurd hFailed hTurned
  | some p =>
      refine ⟨p, rfl, ?_⟩
      by_contra hNot
      rw [step_of_skimmed hSkim] at hTurned
      unfold NodeStatusAcc.observe at hTurned
      rw [hKind] at hTurned
      cases hNode : ev.nodeId with
      | none =>
          rw [hNode] at hTurned
          exact hTurned hFailed
      | some i =>
          rw [hNode] at hTurned
          dsimp only at hTurned
          unfold NodeStatusAcc.observeReport at hTurned
          by_cases hHere : i = id
          · subst hHere
            rw [hFailed] at hTurned
            dsimp only at hTurned
            rw [if_pos (by rfl),
              if_neg (by
                simp [permitsTerminalMergeRecovery, hNot])]
              at hTurned
            exact hTurned hFailed
          · refine hTurned ?_
            rw [← hFailed]
            split
            · rfl
            dsimp only
            split
            · split
              · exact Function.update_of_ne (Ne.symm hHere) _ _
              · rfl
            split
            · rfl
            split
            · exact Function.update_of_ne (Ne.symm hHere) _ _
            · exact Function.update_of_ne (Ne.symm hHere) _ _

end Readers

------------------------------------------------------------
-- Skimmed Payloads
------------------------------------------------------------

section Skim

variable {report : Json} {items : List Json}
variable {p : CancelProbeData}

theorem defaulted_position (name : String) (i : Nat) :
    (Json.Fields.positional items).defaulted name i none
        (Json.option some) =
      some (Json.present items[i]?) := by
  simp only [Json.Fields.defaulted, Json.Fields.raw,
    Json.present]
  rcases items[i]? with _ | v
  · rfl
  · cases v <;> rfl

/- Of an array, the skim is its elements by position. -/
theorem decode_array
    (hWidth : items.length ≤ 5) :
    CancelProbeData.decode (.arr items) =
      some {
        status := Json.present items[0]?
        success := Json.present items[1]?
        cancelled := Json.present items[2]?
        via := Json.present items[3]?
        origin := items[4]? } := by
  unfold CancelProbeData.decode
  simp only [Json.fields, if_pos hWidth, Option.bind_eq_bind,
    Option.bind_some, defaulted_position]
  simp only [Json.Fields.defaulted, Json.Fields.raw]
  cases items[4]? <;> rfl

theorem present_eq_some {v : Option Json} {j : Json} :
    Json.present v = some j ↔ v = some j ∧ j.isNull = false := by
  unfold Json.present
  rw [Option.filter_eq_some_iff]
  simp

theorem present_eq_none {v : Option Json} :
    Json.present v = none ↔ v = none ∨ v = some .null := by
  unfold Json.present
  cases v with
  | none => simp
  | some j => cases j <;> simp [Json.isNull]

/- An array is confirmed by what stands at its positions. -/
theorem confirmed_array
    (hWidth : items.length ≤ 5)
    (hSkim : CancelProbeData.decode (.arr items) = some p) :
    reportIsConfirmedMerge p.reportValue = true ↔
      (Json.arr items).MergesByPosition := by
  rw [decode_array hWidth, Option.some.injEq] at hSkim
  subst hSkim
  rw [confirmed_iff, Json.getStr, reportValue_get.1,
    reportValue_get.2.1, reportValue_get.2.2.1,
    reportValue_get.2.2.2]
  have hSuccess : Json.present items[1]? = some (.bool true) ↔
      items[1]? = some (.bool true) := by
    rw [present_eq_some]
    simp [Json.isNull]
  have hCancelled :
      (Json.present items[2]? = none ∨
          Json.present items[2]? = some .null ∨
          Json.present items[2]? = some (.bool false)) ↔
        (items[2]? = none ∨ items[2]? = some .null ∨
          items[2]? = some (.bool false)) := by
    rw [present_eq_none, present_eq_some, present_eq_some]
    simp [Json.isNull, or_assoc]
  have hVia :
      (Json.present items[3]?).bind Json.asStr =
          some viaExplicitMerge ↔
        items[3]? = some (.str viaExplicitMerge) := by
    rw [Option.bind_eq_some_iff]
    constructor
    · rintro ⟨j, hPresent, hStr⟩
      rw [present_eq_some] at hPresent
      rw [hPresent.1, Json.asStr_eq_some.mp hStr]
    · intro hThere
      exact ⟨.str viaExplicitMerge,
        present_eq_some.mpr ⟨hThere, rfl⟩, rfl⟩
  rw [hSuccess, hCancelled, hVia]
  unfold Json.MergesByPosition
  simp only [hWidth, true_and]

/- What the skim of a payload confirms. -/
theorem confirmed_skim
    (hSkim : CancelProbeData.decode report = some p)
    (hMerge : reportIsConfirmedMerge p.reportValue = true) :
    reportIsConfirmedMerge report = true ∨
      report.MergesByPosition := by
  cases report with
  | obj kvs =>
      left
      let ev : Event := { Sample.runCreated with data := .obj kvs }
      have hSame :
          reportIsConfirmedMerge p.reportValue =
            reportIsConfirmedMerge ev.data :=
        reportIsConfirmedMerge_skim rfl hSkim
      exact hSame.symm.trans hMerge
  | arr items =>
      right
      by_cases hWidth : items.length ≤ 5
      · exact (confirmed_array hWidth hSkim).mp hMerge
      · simp only [CancelProbeData.decode, Json.fields,
          if_neg hWidth] at hSkim
        cases hSkim
  | null => cases hSkim
  | bool _ => cases hSkim
  | int _ => cases hSkim
  | float _ => cases hSkim
  | str _ => cases hSkim

theorem not_confirmed_array :
    reportIsConfirmedMerge (.arr items) = false := by
  cases hMerge : reportIsConfirmedMerge (.arr items) with
  | false => rfl
  | true => cases success_of_confirmedMerge hMerge

/- A merge by position turns a failed node in the fold. -/
theorem overrides_of_position
    (hPosition : report.MergesByPosition) :
    OverridesFailed report := by
  cases report with
  | arr items =>
      have hSkim := decode_array hPosition.1
      have hMerge := (confirmed_array hPosition.1 hSkim).mpr
        hPosition
      refine ⟨
        { order := [.first]
          status := fun _ => some .failed
          confirmedMergeSeq := fun _ => none },
        { Sample.nodeCreated with
          kind := .nodeReport
          data := .arr items }, .first, rfl, rfl, rfl, ?_⟩
      rw [step_of_skimmed hSkim]
      unfold NodeStatusAcc.observe NodeStatusAcc.observeReport
      dsimp only [Sample.nodeCreated, Sample.event]
      rw [if_pos (by rfl),
        if_pos (by
          unfold permitsTerminalMergeRecovery
          rw [hMerge]
          rfl)]
      change
        Function.update (fun _ => some Status.failed)
          NodeId.first (some Status.done) NodeId.first ≠ _
      rw [Function.update_self]
      simp
  | _ => exact hPosition.elim

end Skim

------------------------------------------------------------
-- Merge Authority
------------------------------------------------------------

/- No authority stands behind a merge by position. -/
theorem not_authority_of_position
    {report : Json} (hPosition : report.MergesByPosition) :
    ¬ MergeAuthority report := by
  intro hAuthority
  have hConfirmed :=
    hAuthority.confirmed
      (.inr (.inr (overrides_of_position hPosition)))
  cases report with
  | arr items =>
      rw [not_confirmed_array] at hConfirmed
      cases hConfirmed
  | _ => exact hPosition

/-
  A payload is treated as a merge only by authority, unless
  it is an array that the log's fold reads by position.
-/
theorem mergeAuthority_iff (report : Json) :
    MergeAuthority report ↔ ¬ report.MergesByPosition := by
  constructor
  · intro hAuthority hPosition
    exact not_authority_of_position hPosition hAuthority
  · intro hNot
    have hConfirmed : TreatedAsMerged report →
        reportIsConfirmedMerge report = true := by
      rintro (hClassified | hAdopted | hOverrides)
      · exact confirmed_of_classified hClassified
      · exact confirmed_of_adopted hAdopted
      · rcases skimmed_of_overrides hOverrides with
          ⟨p, hSkim, hMerge⟩
        rcases confirmed_skim hSkim hMerge with h | h
        · exact h
        · exact absurd h hNot
    refine ⟨hConfirmed, ?_⟩
    intro origin hOrigin hForged hTreated
    have hMerge := confirmed_iff.mp (hConfirmed hTreated)
    rcases hMerge.2.2 with ⟨origin', hSame, hStamp⟩ | ⟨hNone, _⟩
    · rw [hOrigin, Option.some.injEq] at hSame
      exact hForged (hSame ▸ hStamp)
    · rw [hOrigin] at hNone
      cases hNone

/- Four elements of an array are enough. -/
theorem not_mergeAuthority :
    ¬ ∀ report, MergeAuthority report := by
  intro hAlways
  have hPosition :
      Sample.positionalReport.MergesByPosition :=
    ⟨by decide, rfl, .inr (.inr rfl), .inr ⟨rfl, rfl⟩⟩
  exact not_authority_of_position hPosition
    (hAlways Sample.positionalReport)

end Taskfleet
