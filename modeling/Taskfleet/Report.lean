import Taskfleet.Decode

/-
  The authorship of a terminal node report and the predicate
  that decides whether a report confirms a merge.

  Main declarations:
    * `ReportOrigin`, `ReportOrigin.fromReport`
    * `reportIsConfirmedMerge`
    * `permitsTerminalMergeRecovery`
-/

------------------------------------------------------------
-- Report Origin
------------------------------------------------------------

namespace Taskfleet

def reportOriginKey : String := "origin"

def viaExplicitMerge : String := "explicit-merge"

/- Who authored a report. -/
inductive ReportOrigin where
| agent
| supervisor
| runMerge (opId workerOid integratedOid : Option String)
deriving DecidableEq, Repr

namespace ReportOrigin

/- The transaction ids of a merge origin, after its tag. -/
def decodeRunMerge (f : Json.Fields) :
    Option ReportOrigin := do
  return .runMerge
    (← f.defaulted "op_id" 0 none (Json.option Json.asStr))
    (← f.defaulted "worker_oid" 1 none
      (Json.option Json.asStr))
    (← f.defaulted "integrated_oid" 2 none
      (Json.option Json.asStr))

/-
  An internally tagged origin: an object with a `kind`
  member, or an array that starts with the tag.
-/
def decode : Json → Option ReportOrigin
| .obj kvs =>
    match kvs.lookup "kind" with
    | some (.str "agent") => some .agent
    | some (.str "supervisor") => some .supervisor
    | some (.str "run-merge") => decodeRunMerge (.named kvs)
    | _ => none
| .arr [.str "agent"] => some .agent
| .arr [.str "supervisor"] => some .supervisor
| .arr (.str "run-merge" :: rest) =>
    if rest.length ≤ 3 then
      decodeRunMerge (.positional rest)
    else none
| _ => none

/- The typed origin of a report payload. -/
def fromReport (report : Json) : Option ReportOrigin :=
  (report.get reportOriginKey).bind decode

def isRunMerge : ReportOrigin → Bool
| .runMerge _ _ _ => true
| _ => false

/- An absent id is left out of a serialized origin. -/
def member (name : String) (v : Option String) :
    List (String × Json) :=
  (v.map (fun s => (name, Json.str s))).toList

def toJson : ReportOrigin → Json
| .agent => .obj [("kind", .str "agent")]
| .supervisor => .obj [("kind", .str "supervisor")]
| .runMerge opId workerOid integratedOid =>
    .obj
      (member "integrated_oid" integratedOid ++
        [("kind", .str "run-merge")] ++ member "op_id" opId ++
        member "worker_oid" workerOid)

/- Write the origin into a report that is an object. -/
def stamp (origin : ReportOrigin) : Json → Json
| .obj kvs =>
    .obj (Json.insertField reportOriginKey origin.toJson kvs)
| report => report

end ReportOrigin

------------------------------------------------------------
-- Confirmed Merges
------------------------------------------------------------

/-
  A successful, uncancelled report authored by a run merge.
  The legacy `via` marker counts only where the payload has
  no origin member at all.
-/
def reportIsConfirmedMerge (report : Json) : Bool :=
  let success := report.get "success" == some (.bool true)
  let notCancelled :=
    match report.get "cancelled" with
    | none | some .null | some (.bool false) => true
    | _ => false
  let originMerge :=
    (ReportOrigin.fromReport report).any
      ReportOrigin.isRunMerge
  let legacyMerge :=
    (report.get reportOriginKey).isNone &&
      report.getStr "via" == some viaExplicitMerge
  success && notCancelled && (originMerge || legacyMerge)

/- Whether a report may replace a settled outcome. -/
def permitsTerminalMergeRecovery
    (status : Status)
    (report : Json) : Bool :=
  (status == .failed || status == .done) &&
    reportIsConfirmedMerge report

theorem success_of_confirmedMerge
    {report : Json}
    (hMerge : reportIsConfirmedMerge report = true) :
    report.get "success" = some (.bool true) := by
  simp only [reportIsConfirmedMerge, Bool.and_eq_true,
    beq_iff_eq] at hMerge
  exact hMerge.1.1

/- A confirmed merge is not a cancellation. -/
theorem cancelled_of_confirmedMerge
    {report : Json}
    (hMerge : reportIsConfirmedMerge report = true) :
    report.get "cancelled" = none ∨
      report.get "cancelled" = some .null ∨
      report.get "cancelled" = some (.bool false) := by
  simp only [reportIsConfirmedMerge, Bool.and_eq_true]
    at hMerge
  have hCancelled := hMerge.1.2
  split at hCancelled
  · exact .inl ‹_›
  · exact .inr (.inl ‹_›)
  · exact .inr (.inr ‹_›)
  · cases hCancelled

end Taskfleet
