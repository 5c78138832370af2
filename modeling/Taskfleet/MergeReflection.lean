import Taskfleet.Answers
import Taskfleet.MergeAuthority
import Taskfleet.MergeRuns
import Taskfleet.Reducer.Inputs
import Taskfleet.ReportFolds

/-
  Merges that a driver reports, and what the run says of them
  afterwards.

  The driver looks at the status of the run when it starts
  and at the status of the node never. The append of its
  report succeeds on a cancelled node as on any other, but
  the reducer adopts it there no more, and a report that is
  in the log under the merge's key is not appended again.

  Main declarations:
    * `buildReport`, `terminalReport`
    * `Disk.Reflects`, `Adoptable`
    * `merges_reflected`, `not_merges_reflected`
-/

------------------------------------------------------------
-- The Report of a Merge
------------------------------------------------------------

namespace Taskfleet

open Fallible

inductive MergeReportRefusal where
| cli (e : CliError)
| schema (e : ReportValidationError)

def mergeSummary (branch : String) : Option String → String
| none => "merged " ++ branch ++ " via run merge"
| some source =>
    "merged " ++ branch ++ " into " ++ source ++
      " via run merge"

/- Neither a failure nor a cancellation is claimed. -/
def claimsMerge (obj : List (String × Json)) : Bool :=
  ((obj.lookup "success").all (fun v =>
      v.asBool == some true)) &&
    !((obj.lookup "cancelled").any (fun v =>
      v.asBool == some true))

/- The payload of a file that was read, or the driver's own. -/
def givenReport
    (file : Option (Except CliError Json))
    (branch : String)
    (source : Option String) :
    Except MergeReportRefusal Json :=
  match file with
  | some read => read.mapError .cli
  | none =>
      .ok (.obj
        [("success", .bool true),
          ("summary", .str (mergeSummary branch source))])

/-
  The report with the marker of a merge, and advisory fields
  that are sound.
-/
def buildReport
    (file : Option (Except CliError Json))
    (branch : String)
    (source : Option String) :
    Except MergeReportRefusal SanitizedReport := do
  let report ← givenReport file branch source
  let obj ←
    orError
      (.cli (.user "report_not_object"
        "--report-file payload must be a JSON object" none))
      report.asObject
  refuseIf (¬ claimsMerge obj)
    (.cli (.user "invalid_merge_report"
      ("--report-file for `run merge` must set `success: true` (a merge is a success) " ++
        "and must not set `cancelled: true`")
      none))
  (sanitizeReportAdvisory
    (.obj
      (Json.insertField "via" (.str viaExplicitMerge)
        obj))).mapError .schema

/- What is appended once the source ref has moved. -/
def terminalReport
    (txn : MergeTxn)
    (integratedOid : Option String)
    (report : Json) : Json :=
  (ReportOrigin.runMerge (some txn.opId) (some txn.workerOid)
    integratedOid).stamp report

section Reports

variable {file : Option (Except CliError Json)}
variable {branch : String} {source : Option String}
variable {out : SanitizedReport} {txn : MergeTxn}

theorem buildReport_eq_ok
    (hBuilt : buildReport file branch source = .ok out) :
    ∃ obj, claimsMerge obj = true ∧
      sanitizeReportAdvisory
        (.obj (Json.insertField "via" (.str viaExplicitMerge)
          obj)) = .ok out := by
  simp only [buildReport, bind_eq_ok, orError_eq_ok,
    refuseIf_eq_ok, mapError_eq_ok, not_not] at hBuilt
  rcases hBuilt with ⟨_, _, obj, _, _, hClaims, hSanitized⟩
  exact ⟨obj, hClaims, hSanitized⟩

theorem isMergeStamp_runMerge
    (opId workerOid integratedOid : Option String) :
    (ReportOrigin.runMerge opId workerOid
      integratedOid).toJson.IsMergeStamp := by
  refine ⟨.runMerge opId workerOid integratedOid, ?_, rfl⟩
  cases opId <;> cases workerOid <;> cases integratedOid <;> rfl

/- What the driver appends confirms the merge. -/
theorem confirmed_terminalReport
    (hBuilt : buildReport file branch source = .ok out)
    (integratedOid : Option String) :
    reportIsConfirmedMerge
      (terminalReport txn integratedOid out.report) = true := by
  rcases buildReport_eq_ok hBuilt with ⟨obj, hClaims, hClean⟩
  have hKept : ∀ field, field ∉ advisoryFields →
      field ≠ "via" → field ≠ reportOriginKey →
      (terminalReport txn integratedOid out.report).get field =
        obj.lookup field := by
    intro field hStrict hVia hOrigin
    unfold terminalReport
    rw [stamp_get _ _ hOrigin,
      ((sanitize_exact _).2.2 out hClean).2.2.1 field hStrict]
    exact Json.lookup_insertField_ne _ _ hVia
  rcases sanitizeReportAdvisory_eq_ok.mp hClean with
    ⟨_, hObj, hSound, hOut⟩
  cases hObj
  have hMarked : ∀ field, field ≠ "via" →
      (Json.obj (Json.insertField "via"
        (.str viaExplicitMerge) obj)).get field =
          obj.lookup field :=
    fun field hVia => Json.lookup_insertField_ne _ _ hVia
  have hSuccess := hSound.success
  have hCancelled := hSound.cancelled
  rw [hMarked "success" (by decide)] at hSuccess
  rw [hMarked "cancelled" (by decide)] at hCancelled
  rw [claimsMerge, Bool.and_eq_true] at hClaims
  rw [confirmed_iff, hKept "success" (by decide) (by decide)
    (by decide), hKept "cancelled" (by decide) (by decide)
    (by decide)]
  refine ⟨?_, ?_, .inl ?_⟩
  · rcases hSuccess with ⟨b, hFlag⟩
    have hTrue := hClaims.1
    rw [hFlag] at hTrue ⊢
    cases b with
    | true => rfl
    | false => cases hTrue
  · rcases hCancelled with hNone | hNull | ⟨b, hFlag⟩
    · exact .inl hNone
    · exact .inr (.inl hNull)
    · have hFalse := hClaims.2
      rw [hFlag] at hFalse ⊢
      cases b with
      | true => cases hFalse
      | false => exact .inr (.inr rfl)
  · subst hOut
    exact ⟨_, Json.lookup_insertField_self _ _ _,
      isMergeStamp_runMerge _ _ _⟩

end Reports

------------------------------------------------------------
-- Reflection
------------------------------------------------------------

/- The node is done by a confirmed merge. -/
def Disk.Reflects (id : NodeId) (d : Disk) : Prop :=
  ∃ n report, d.nodes.lookup id = some n ∧
    n.status = .done ∧ n.lastReport = some report ∧
    reportIsConfirmedMerge report = true

/-
  Where a report of the merge gets through: the node is done
  by a merge as it is, or no report is under the merge's key
  and the node, the log folded, was not cancelled.
-/
def Adoptable (env : RunEnv) (id : NodeId) (d : Disk) : Prop :=
  (catchUp env d).Reflects id ∨
    ¬ d.Recorded .nodeReport (explicitMergeKey env id) ∧
      ∃ n, (catchUp env d).nodes.lookup id = some n ∧
        n.status ≠ .cancelled

section Reflection

variable {env : RunEnv} {d s : Disk} {ev : Event}
variable {id : NodeId} {n : Node}

theorem reflects_settled
    (hMerge : reportIsConfirmedMerge ev.data = true)
    (hLookup :
      s.nodes.lookup id = some (n.settleReport ev .done)) :
    s.Reflects id :=
  ⟨_, ev.data, hLookup, rfl, rfl, hMerge⟩

/- The outcome of a confirmed merge, by the node's status. -/
theorem nodeReportStep_confirmed
    {o : Option Node}
    (hMerge : reportIsConfirmedMerge ev.data = true)
    (hStep : nodeReportStep ev n = .ok o) :
    (n.status = .cancelled ∧ o = none) ∨
      (n.status = .done ∧ n.lastReport = some ev.data ∧
        o = none) ∨
      n.status ≠ .cancelled ∧
        o = some (n.settleReport ev .done) := by
  unfold nodeReportStep at hStep
  rw [reportTerminalStatus_of_confirmedMerge hMerge] at hStep
  unfold permitsTerminalMergeRecovery at hStep
  rw [hMerge] at hStep
  cases hStatus : n.status with
  | cancelled =>
      simp only [hStatus, Status.isTerminal, if_true] at hStep
      exact .inl ⟨rfl, (Except.ok.inj hStep).symm⟩
  | done =>
      simp only [hStatus, Status.isTerminal, if_true,
        beq_self_eq_true, Bool.or_true, Bool.true_and,
        and_true] at hStep
      split at hStep
      next hSame =>
        exact .inr (.inl ⟨rfl, hSame, (Except.ok.inj hStep).symm⟩)
      next =>
        exact .inr (.inr ⟨by simp, (Except.ok.inj hStep).symm⟩)
  | failed =>
      simp [hStatus, Status.isTerminal] at hStep
      exact .inr (.inr ⟨by simp, hStep.symm⟩)
  | pending | running | blocked =>
      simp [hStatus, Status.isTerminal] at hStep
      exact .inr (.inr ⟨by simp, hStep.symm⟩)

/- A report of a merge gets through unless cancelled. -/
theorem reflects_of_accepts
    (hAccepts : Accepts env d ev s)
    (hKind : ev.kind = .nodeReport)
    (hNode : ev.nodeId = some id)
    (hMerge : reportIsConfirmedMerge ev.data = true) :
    s.Reflects id ↔
      ∃ n, d.nodes.lookup id = some n ∧
        n.status ≠ .cancelled := by
  cases hLookup : d.nodes.lookup id with
  | none =>
      have hChange := nodeChange_of_accepts hAccepts id
      rw [hLookup] at hChange
      have hAfter : s.nodes.lookup id = none := by
        generalize s.nodes.lookup id = after at hChange
        cases hChange with
        | kept => rfl
        | created n hCreated =>
            rw [hKind] at hCreated
            cases hCreated
      simp [Disk.Reflects, hAfter]
  | some n =>
      have hArm : nodeArm env d ev id =
          some (.ok (nodeReportStep ev)) := by
        simp [nodeArm, hKind]
      rcases stepped_of_accepts hAccepts hNode hArm hLookup with
        ⟨step, o, hOk, hStep, hAfter⟩
      cases hOk
      have hLive : (∃ n', some n = some n' ∧
          n'.status ≠ .cancelled) ↔ n.status ≠ .cancelled := by
        simp
      rw [hLive]
      rcases nodeReportStep_confirmed hMerge hStep with
        ⟨hCancelled, rfl⟩ | ⟨hDone, hReport, rfl⟩ |
          ⟨hOpen, rfl⟩
      · constructor
        · rintro ⟨n', _, hLookup', hDone, _⟩
          rw [hAfter] at hLookup'
          cases hLookup'
          rw [Option.getD_none, hCancelled] at hDone
          cases hDone
        · exact fun hOpen => absurd hCancelled hOpen
      · constructor
        · intro _ hCancelled
          rw [hDone] at hCancelled
          cases hCancelled
        · exact fun _ => ⟨n, _, hAfter, hDone, hReport, hMerge⟩
      · exact ⟨fun _ => hOpen,
          fun _ => reflects_settled hMerge hAfter⟩

/- The driver's append, by what it answers. -/
theorem reflects_iff_adoptable
    {r : Request} {answer : AppendResult}
    (hKind : r.kind = .nodeReport)
    (hNode : r.nodeId = some id)
    (hKey : r.key = some (explicitMergeKey env id))
    (hMerge : reportIsConfirmedMerge r.data = true)
    (hAnswered : Answered env d r answer s) :
    s.Reflects id ↔ Adoptable env id d := by
  unfold Adoptable
  cases hAnswered with
  | replayed key prior hSame hRecorded =>
      rw [hKey, Option.some.injEq] at hSame
      rw [← hSame, hKind] at hRecorded
      simp [hRecorded]
  | accepted seq applied _ hNew hAccepts hLines =>
      have hFree := hNew _ hKey
      rw [hKind] at hFree
      rw [reflects_of_accepts hAccepts hKind hNode hMerge]
      constructor
      · exact fun hOpen => .inr ⟨hFree, hOpen⟩
      · rintro (⟨n, _, hLookup, hDone, _⟩ | ⟨_, hOpen⟩)
        · exact ⟨n, hLookup, by simp [hDone]⟩
        · exact hOpen

/- A pending transaction gets its report through. -/
theorem MergePending.adoptable
    {txn : MergeTxn}
    (hPending : MergePending env id txn d)
    (hLanding : txn.landing = false)
    (hSane : Sane env d) :
    Adoptable env id d := by
  have hHere : MergePending env id txn (catchUp env d) := by
    rcases Durable.wp_total (hPending.wp_catchUp hLanding hSane)
      with ⟨_, _, hEnd⟩
    exact hEnd.1.2
  right
  constructor
  · rintro ⟨ev, hMem, hKeyed⟩
    rw [hPending.free ev hMem] at hKeyed
    cases hKeyed
  · rcases hHere.node with ⟨n, hLookup, hHolds⟩
    refine ⟨n, hLookup, ?_⟩
    intro hCancelled
    have hLive := hHolds.live
    rw [hCancelled] at hLive
    cases hLive

end Reflection

/-
  The report of a driver that moved the source ref, in any
  run among any other sections: it is on the node afterwards
  exactly where it was adoptable. Among sections that spare
  the transaction it always is.
-/
theorem merges_reflected
    (env : RunEnv)
    (args : MergeArgs)
    (start : Disk)
    (file : Option (Except CliError Json))
    (branch : String)
    (source : Option String)
    (out : SanitizedReport)
    (hWritten : WriterRun env start)
    (hBuilt : buildReport file branch source = .ok out) :
    ∀ txn integratedOid now d answer,
      let r :=
        reportRequest env now args.nodeId
          (terminalReport txn integratedOid out.report)
      (appendAndApplyEvent env r).result d = .ok answer →
      (MergeRun env args (fun _ _ => True) ⟨start, .idle⟩
          ⟨d, .moved txn⟩ →
        (((appendAndApplyEvent env r).final d).Reflects
            args.nodeId ↔
          Adoptable env args.nodeId d)) ∧
      (MergeRun env args (MergeAct.Safe env args)
          ⟨start, .idle⟩ ⟨d, .moved txn⟩ →
        ((appendAndApplyEvent env r).final d).Reflects
          args.nodeId) := by
  intro txn integratedOid now d answer r hReported
  have hMerge :
      reportIsConfirmedMerge
        (terminalReport txn integratedOid out.report) = true :=
    confirmed_terminalReport hBuilt integratedOid
  have hExact : Sane env d →
      (((appendAndApplyEvent env r).final d).Reflects
          args.nodeId ↔
        Adoptable env args.nodeId d) := by
    intro hSane
    exact reflects_iff_adoptable rfl rfl rfl hMerge
      (Durable.wp_ok (wp_event_answered r hSane.ordered)
        hReported)
  constructor
  · intro hRun
    have hStart : MergeState.Prepared env ⟨start, .idle⟩ :=
      ⟨hWritten.backed, trivial⟩
    exact hExact (hStart.run hRun).backed.toSane
  · intro hRun
    have hStart : MergeState.Sound env args ⟨start, .idle⟩ :=
      ⟨hWritten.backed, trivial⟩
    have hSound := hStart.run hRun
    have hSane := hSound.backed.toSane
    rw [hExact hSane]
    exact hSound.driver.2.adoptable hSound.driver.1 hSane

------------------------------------------------------------
-- A Cancelled Node of a Live Run
------------------------------------------------------------

namespace Sample

def cancelClock : CancelClock where
  node := fun _ => 0
  run := 0

def createOther : Call :=
  .append
    (request .nodeCreated (some sibling)
      (.obj [("kind", .str "spinoff")]))

def cancelWriter : Writer := .cancelNode cancelClock .first none

/- Two nodes, the first of them cancelled on its own. -/
def cancelledCheckout : Disk :=
  (cancelWriter.run clockEnv).final
    (written [createCheckout, createOther])

/- The driver's own report. -/
def mergedReport : SanitizedReport where
  report := .obj
    [("success", .bool true),
      ("summary", .str "merged work into main via run merge"),
      ("via", .str "explicit-merge")]
  warnings := []

def mergedRequest : Request :=
  reportRequest clockEnv 0 .first
    (terminalReport txn (some newTip) mergedReport.report)

theorem buildReport_mergedReport :
    buildReport none "work" (some "main") =
      .ok mergedReport := by
  rfl

theorem writerRun_cancelledCheckout :
    WriterRun clockEnv cancelledCheckout := by
  unfold cancelledCheckout
  exact .done cancelWriter (writerRun_written _)

/- The driver goes on to the move of the source ref. -/
theorem run_moved
    {d : Disk} {a : AppendResult}
    (hDrives : drives d = true)
    (hFresh :
      ((catchUp clockEnv d).nodes.lookup .first).map
        Node.pendingMerge = some none)
    (hOk :
      ((appendAndApplyEvent clockEnv
        (startRequest 0 stamp .first txn)).result d).toOption =
          some a) :
    MergeRun clockEnv mergeArgs (fun _ _ => True) ⟨d, .idle⟩
      ⟨startedOn d, .moved txn⟩ := by
  rcases run_ready hDrives with ⟨call, hTxn, hReady⟩
  have hRecord := steps_record hTxn hFresh hOk
  exact .step .move
    (.step .start (.step _ hReady.mono trivial hRecord) trivial
      (.start _ _))
    trivial (.move _ _)

end Sample

/- The report of a live node's merge is on the node. -/
theorem checkout_merge_reflected :
    ∃ answer,
      (appendAndApplyEvent Sample.clockEnv
        Sample.mergedRequest).result
          (Sample.startedOn Sample.liveCheckout) =
            .ok answer ∧
      ((appendAndApplyEvent Sample.clockEnv
        Sample.mergedRequest).final
          (Sample.startedOn Sample.liveCheckout)).Reflects
            .first := by
  have hRun := Sample.run_moved (d := Sample.liveCheckout)
    (a := ⟨3, false, true, none⟩) (by decide +kernel)
    (by decide +kernel) (by decide +kernel)
  have hReported :
      ((appendAndApplyEvent Sample.clockEnv
        Sample.mergedRequest).result
          (Sample.startedOn Sample.liveCheckout)).toOption =
        some ⟨4, false, true, none⟩ := by
    decide +kernel
  have hExact :=
    (merges_reflected Sample.clockEnv Sample.mergeArgs
      Sample.liveCheckout none "work" (some "main")
      Sample.mergedReport (Sample.writerRun_written _)
      Sample.buildReport_mergedReport Sample.txn
      (some Sample.newTip) 0 _ _
      (Fallible.ok_of_toOption hReported)).1 hRun
  refine ⟨_, Fallible.ok_of_toOption hReported, ?_⟩
  apply hExact.mpr
  right
  have hNode :
      ((catchUp Sample.clockEnv
        (Sample.startedOn Sample.liveCheckout)).nodes.lookup
          .first).map Node.status = some .pending := by
    decide +kernel
  rw [Option.map_eq_some_iff] at hNode
  rcases hNode with ⟨n, hLookup, hStatus⟩
  constructor
  · decide +kernel
  · exact ⟨n, hLookup, by simp [hStatus]⟩

/-
  The reported merge of a node that was cancelled on its own
  in a live run, before the driver looked at the run.
-/
theorem not_merges_reflected :
    ¬ ∀ (env : RunEnv) (args : MergeArgs) (start : Disk)
        (file : Option (Except CliError Json))
        (branch : String) (source : Option String)
        (out : SanitizedReport) (txn : MergeTxn)
        (integratedOid : Option String) (now : Time)
        (d : Disk) (answer : AppendResult),
      WriterRun env start →
      buildReport file branch source = .ok out →
      MergeRun env args (fun _ _ => True) ⟨start, .idle⟩
        ⟨d, .moved txn⟩ →
      (appendAndApplyEvent env
        (reportRequest env now args.nodeId
          (terminalReport txn integratedOid
            out.report))).result d = .ok answer →
      ((appendAndApplyEvent env
        (reportRequest env now args.nodeId
          (terminalReport txn integratedOid
            out.report))).final d).Reflects args.nodeId := by
  intro hAlways
  have hRun := Sample.run_moved (d := Sample.cancelledCheckout)
    (a := ⟨5, false, false, none⟩) (by decide +kernel)
    (by decide +kernel) (by decide +kernel)
  have hReported :
      ((appendAndApplyEvent Sample.clockEnv
        Sample.mergedRequest).result
          (Sample.startedOn Sample.cancelledCheckout)).toOption =
        some ⟨6, false, false, none⟩ := by
    decide +kernel
  have hStatus :
      (((appendAndApplyEvent Sample.clockEnv
        Sample.mergedRequest).final
          (Sample.startedOn
            Sample.cancelledCheckout)).nodes.lookup
              .first).map Node.status = some .cancelled := by
    decide +kernel
  have hReflects := hAlways Sample.clockEnv Sample.mergeArgs
    Sample.cancelledCheckout none "work" (some "main")
    Sample.mergedReport Sample.txn (some Sample.newTip) 0 _ _
    Sample.writerRun_cancelledCheckout
    Sample.buildReport_mergedReport hRun
    (Fallible.ok_of_toOption hReported)
  rcases hReflects with ⟨n, _, hLookup, hDone, _⟩
  change ((appendAndApplyEvent Sample.clockEnv
    Sample.mergedRequest).final
      (Sample.startedOn Sample.cancelledCheckout)).nodes.lookup
        .first = some n at hLookup
  rw [hLookup, Option.map_some, hDone] at hStatus
  cases hStatus

end Taskfleet
