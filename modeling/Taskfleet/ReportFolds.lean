import Taskfleet.ExactlyOnce
import Taskfleet.Reducer.Rewrites
import Taskfleet.Report
import Taskfleet.ReportSchema

/-
  Reports that the validator accepts fold: the reducer reads
  the outcome that the required fields tell.

  Main declarations:
    * `normalizeAgentOrigin`, `Stamped`
    * `reportedStatus`, `reportTerminalStatus_of_sound`
    * `validated_folds`
-/

------------------------------------------------------------
-- Stamps
------------------------------------------------------------

namespace Taskfleet

open Fallible

/-
  The origin of a report that an agent submits itself, which
  may not carry the retired marker of a merge.
-/
def normalizeAgentOrigin (data : Json) : Json :=
  ReportOrigin.agent.stamp
    (match data with
    | .obj kvs =>
        .obj
          (if (kvs.lookup "via").bind Json.asStr =
              some viaExplicitMerge then
            Json.removeField "via" kvs
          else kvs)
    | v => v)

/- What is appended for a report that was validated. -/
inductive Stamped (data : Json) : Json → Prop
| bare : Stamped data data
| stamp (origin : ReportOrigin) :
    Stamped data (origin.stamp data)
| normalized : Stamped data (normalizeAgentOrigin data)

section Stamps

variable {data stamped : Json} {field : String}

theorem stamp_get
    (origin : ReportOrigin)
    (data : Json)
    (hField : field ≠ reportOriginKey) :
    (origin.stamp data).get field = data.get field := by
  cases data with
  | obj kvs => exact Json.lookup_insertField_ne _ _ hField
  | _ => rfl

/- Stamps leave the fields of the outcome alone. -/
theorem Stamped.get
    (hStamped : Stamped data stamped)
    (field : String)
    (hField : field ≠ reportOriginKey)
    (hVia : field ≠ "via") :
    stamped.get field = data.get field := by
  cases hStamped with
  | bare => rfl
  | stamp origin => exact stamp_get origin data hField
  | normalized =>
      unfold normalizeAgentOrigin
      rw [stamp_get _ _ hField]
      cases data with
      | obj kvs =>
          dsimp only
          split
          · exact Json.lookup_removeField_of_ne hVia kvs
          · rfl
      | _ => rfl

end Stamps

------------------------------------------------------------
-- Outcomes
------------------------------------------------------------

/- The outcome that sound required fields tell. -/
def reportedStatus (data : Json) : Status :=
  if data.get "cancelled" = some (.bool true) then .cancelled
  else if data.get "success" = some (.bool true) then .done
  else .failed

section Outcomes

variable {env : RunEnv} {d d' : Disk} {ev : Event}
variable {data : Json} {id : NodeId} {n : Node} {s : Status}

/- Sound required fields are an outcome to the reducer. -/
theorem reportTerminalStatus_of_sound
    (hSound : RequiredSound data)
    (hSuccess : ev.data.get "success" = data.get "success")
    (hCancelled :
      ev.data.get "cancelled" = data.get "cancelled") :
    ev.reportTerminalStatus = .ok (reportedStatus data) := by
  rcases hSound.success with ⟨b, hFlag⟩
  unfold Event.reportTerminalStatus Event.optionalBool
    reportedStatus
  rw [hSuccess, hCancelled, hFlag]
  rcases hSound.cancelled with hOut | hOut | ⟨c, hOut⟩
  · rw [hOut]
    cases b <;> rfl
  · rw [hOut]
    cases b <;> rfl
  · rw [hOut]
    cases c with
    | false => cases b <;> rfl
    | true =>
        have hFailure := (hSound.told hOut).1
        rw [hFlag] at hFailure
        cases hFailure
        rfl

theorem reduce_live_report
    (hRun : ev.runId = env.runId)
    (hKind : ev.kind = .nodeReport)
    (hNode : ev.nodeId = some id)
    (hStatus : ev.reportTerminalStatus = .ok s)
    (hLookup : d.nodes.lookup id = some n)
    (hValid : n.Valid env id)
    (hLive : n.status.isTerminal = false) :
    reduceEventToOps env d ev =
      .ok [.node (n.settleReport ev s)] := by
  have hArm :
      nodeArm env d ev id = some (.ok (nodeReportStep ev)) := by
    simp [nodeArm, hKind]
  unfold reduceEventToOps
  rw [reduceKind_eq_arm hArm hNode]
  simp [refuseIf, hRun, onNode_of_step hLookup hValid,
    nodeReportStep, hLive, hStatus, stepPlan]

/- A report with an outcome is never refused. -/
theorem reduce_report
    (hRun : ev.runId = env.runId)
    (hKind : ev.kind = .nodeReport)
    (hNode : ev.nodeId = some id)
    (hStatus : ev.reportTerminalStatus = .ok s)
    (hNodes : NodesReadable env d) :
    ∃ ops, reduceEventToOps env d ev = .ok ops := by
  have hArm :
      nodeArm env d ev id = some (.ok (nodeReportStep ev)) := by
    simp [nodeArm, hKind]
  cases hLookup : d.nodes.lookup id with
  | none =>
      refine ⟨[], ?_⟩
      unfold reduceEventToOps
      rw [reduceKind_eq_arm hArm hNode]
      simp [refuseIf, hRun, onNode, hLookup, missingNode, hKind,
        readNodeOpt_of_readable hNodes id]
  | some n =>
      have hValid := hNodes id n hLookup
      cases hLive : n.status.isTerminal with
      | false =>
          exact ⟨_, reduce_live_report hRun hKind hNode hStatus
            hLookup hValid hLive⟩
      | true =>
          have hStep : ∃ o, nodeReportStep ev n = .ok o := by
            unfold nodeReportStep
            rw [if_pos hLive]
            split
            · split
              · exact ⟨_, rfl⟩
              · exact ⟨_, rfl⟩
            · exact ⟨_, rfl⟩
          rcases hStep with ⟨o, hStep⟩
          refine ⟨stepPlan o, ?_⟩
          unfold reduceEventToOps
          rw [reduceKind_eq_arm hArm hNode]
          simp [refuseIf, hRun, onNode_of_step hLookup hValid,
            hStep]

theorem nodesReadable_of_run
    {evs : List Event}
    (hRun : AcceptedRun env d evs d')
    (hNodes : NodesReadable env d) : NodesReadable env d' := by
  induction hRun with
  | nil d => exact hNodes
  | cons hFirst _ ih =>
      apply ih
      rcases hFirst with ⟨ops, hPlan, hSame, _⟩
      have hOps := writable_of_planned (planned_of_reduce hPlan).2
      intro id n hLookup
      rw [hSame] at hLookup
      exact nodesReadable_applyOps hNodes hOps id n hLookup

end Outcomes

/- A planned event folds from its line, read again. -/
theorem replay_reread
    {text : JsonText} {env : RunEnv} {d : Disk} {ev : Event}
    {ops : List ProjectionOp} {w : Nat}
    (hBack : text.ReadsBack ev.data)
    (hReadable : Readable env d)
    (hAhead : w < ev.seq)
    (hPlan : reduceEventToOps env d ev = .ok ops) :
    (replayLines env w [(LogLine.event ev).reread text]).result
          d = .ok () ∧
      (replayLines env w [(LogLine.event ev).reread text]).final
          d = (applyOps ops d).advance ev.seq := by
  have hFold :
      Durable.wp
        (replayLines env w [(LogLine.event ev).reread text])
        (fun _ s => s = (applyOps ops d).advance ev.seq)
        (fun _ _ => False) (fun _ _ => True) d := by
    rw [reread_event hBack, replayLines,
      if_neg (not_le.mpr hAhead), Durable.wp_bind,
      wp_replayEvent hReadable, hPlan]
    exact ⟨fun _ _ => trivial, fun _ => trivial,
      Durable.wp_pure _ |>.mpr rfl⟩
  rcases Durable.wp_total hFold with ⟨_, hOk, hEnd⟩
  exact ⟨hOk, hEnd⟩

/-
  What the validator accepts, bare or stamped, has an outcome
  that every live node takes, and no state of a run, folded
  from its log or left by a crash, refuses it. Where what was
  stamped reads back from its line, a replay folds the line
  in every state that a crash may leave on file.
-/
theorem validated_folds
    (env : RunEnv)
    (data : Json)
    (ev : Event)
    (id : NodeId)
    (hValid : validateReportPayload data = .ok ())
    (hStamped : Stamped data ev.data)
    (hRun : ev.runId = env.runId)
    (hKind : ev.kind = .nodeReport)
    (hNode : ev.nodeId = some id) :
    ev.reportTerminalStatus = .ok (reportedStatus data) ∧
      { ev with data := data }.reportTerminalStatus =
        .ok (reportedStatus data) ∧
      (∀ d n, d.nodes.lookup id = some n → n.Valid env id →
        n.status.isTerminal = false →
        reduceEventToOps env d ev =
          .ok [.node (n.settleReport ev (reportedStatus data))]) ∧
      (∀ evs d, AcceptedRun env Disk.empty evs d →
        ∃ ops, reduceEventToOps env d ev = .ok ops) ∧
      (∀ d, KeyedRun env d →
        ∃ ops, reduceEventToOps env d ev = .ok ops) ∧
      ∀ text : JsonText, text.ReadsBack ev.data →
        ∀ d w, KeyedFileRun text env d → w < ev.seq →
          ∃ ops, reduceEventToOps env d ev = .ok ops ∧
            (replayLines env w
                [(LogLine.event ev).reread text]).result d =
              .ok () ∧
            (replayLines env w
                [(LogLine.event ev).reread text]).final d =
              (applyOps ops d).advance ev.seq := by
  rcases validateReportPayload_eq_ok.mp hValid with
    ⟨obj, rfl, hSound, _⟩
  have hStatus := reportTerminalStatus_of_sound hSound
    (hStamped.get "success" (by decide) (by decide))
    (hStamped.get "cancelled" (by decide) (by decide))
  have hKeyedPlan : ∀ d, KeyedRun env d →
      ∃ ops, reduceEventToOps env d ev = .ok ops :=
    fun d hKeyed =>
      reduce_report hRun hKind hNode hStatus
        (once_of_keyedRun hKeyed).nodes
  refine ⟨hStatus, ?_, ?_, ?_, hKeyedPlan, ?_⟩
  · exact reportTerminalStatus_of_sound hSound rfl rfl
  · intro d n hLookup hReads hLive
    exact reduce_live_report hRun hKind hNode hStatus hLookup
      hReads hLive
  · intro evs d hAccepted
    apply reduce_report hRun hKind hNode hStatus
    apply nodesReadable_of_run hAccepted
    intro id n hLookup
    cases hLookup
  · intro text hBack d w hFile hAhead
    have hKeyed := hFile.keyedRun.1
    rcases hKeyedPlan d hKeyed with ⟨ops, hPlan⟩
    exact ⟨ops, hPlan,
      replay_reread hBack (once_of_keyedRun hKeyed).readable
        hAhead hPlan⟩

namespace Sample

/- A cancellation with its reason. -/
def cancelledReport : Json :=
  .obj
    [("cancelled", .bool true), ("reason", .str "stopped"),
      ("success", .bool false)]

def stampedReport : Event :=
  event 3 .nodeReport (some .first)
    (ReportOrigin.supervisor.stamp cancelledReport)

end Sample

/-
  A stamped cancellation folds on the first node, and its
  line is replayed where the creation of the run was cut.
-/
theorem stampedReport_folds :
    (∃ ops, reduceEventToOps Sample.env
        (foldAll Sample.env Disk.empty
          [Sample.runCreated, Sample.nodeCreated])
        Sample.stampedReport = .ok ops) ∧
      (replayLines Sample.clockEnv 1
        [(LogLine.event Sample.stampedReport).reread
          Sample.jsonText]).result Sample.onceCut = .ok () := by
  have hRun :
      AcceptedRun Sample.env Disk.empty
        [Sample.runCreated, Sample.nodeCreated]
        (foldAll Sample.env Disk.empty
          [Sample.runCreated, Sample.nodeCreated]) :=
    acceptedRun_foldAll (by decide +kernel)
  have hFolds := fun env hSame =>
    validated_folds env Sample.cancelledReport
      Sample.stampedReport .first (by rfl) (.stamp .supervisor)
      hSame rfl rfl
  refine ⟨(hFolds Sample.env rfl).2.2.2.1 _ _ hRun, ?_⟩
  rcases (hFolds Sample.clockEnv rfl).2.2.2.2.2
      Sample.jsonText (by decide +kernel) Sample.onceCut 1
      Sample.keyedFileRun_onceCut (by decide) with
    ⟨_, _, hOk, _⟩
  exact hOk

end Taskfleet
