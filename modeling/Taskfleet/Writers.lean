import Taskfleet.Backed
import Taskfleet.Supervise

/-
  The writers that settle nodes and close runs, step by step.

  Each critical section is taken apart into folds of logged
  events and appends, for any property that these keep. All
  of them keep a run backed.

  Main declarations:
    * `wp_settleNode`, `wp_settleNodes`, `wp_closeRun`
    * `wp_cancelRunUnlocked`, `wp_cancelNodeUnlocked`
    * `Writer`, `WriterRun`
-/

------------------------------------------------------------
-- Settling Nodes
------------------------------------------------------------

namespace Taskfleet

open Fallible

/- The report a cancellation appends for a node. -/
def nodeCancelRequest
    (env : RunEnv)
    (now : Time)
    (reason summary : String)
    (id : NodeId) : Request where
  now := now
  kind := .nodeReport
  nodeId := some id
  key := some (nodeCancelKey env id)
  data := cancelReport reason summary

/- What settling one node did, and whether it was live. -/
inductive Settling
    (env : RunEnv)
    (ledger : CancelLedger)
    (req : Request)
    (id : NodeId)
    (logStatus : Status)
    (d : Disk) : Bool → Disk → Prop where
| passed (prior : Event)
    (hPrior : ledger.prior .nodeReport (nodeCancelKey env id) =
      some prior)
    (hSettled : (d.verdict id).rank = 2) :
    Settling env ledger req id logStatus d false d
| refolded (prior : Event) (ops : List ProjectionOp)
    (hPrior : ledger.prior .nodeReport (nodeCancelKey env id) =
      some prior)
    (hPlan : reduceEventToOps env d prior = .ok ops) :
    Settling env ledger req id logStatus d true
      (applyOps ops d)
| finished
    (hPrior : ledger.prior .nodeReport (nodeCancelKey env id) =
      none)
    (hTerminal : logStatus.isTerminal = true) :
    Settling env ledger req id logStatus d false d
| appended (s : Disk)
    (hPrior : ledger.prior .nodeReport (nodeCancelKey env id) =
      none)
    (hLive : logStatus.isTerminal = false)
    (hAbreast : Abreast s)
    (hLines : s.lines = d.lines ++ [d.next env req]) :
    Settling env ledger req id logStatus d true s

section Settling

variable {env : RunEnv} {d : Disk} {I : Disk → Prop}
variable {now : Time} {reason summary : String}
variable {ledger : CancelLedger} {id : NodeId}
variable {logStatus : Status}

/- Settling one node, by what the ledger has of it. -/
theorem wp_settleNode_cases
    {Q : Bool → Disk → Prop}
    {E : Error → Disk → Prop}
    {C : Boundary → Disk → Prop}
    (hBacked : Backed env d)
    (hPassed : ∀ prior,
      ledger.prior .nodeReport (nodeCancelKey env id) =
        some prior →
      (d.verdict id).rank = 2 → Q false d)
    (hRefold : ∀ prior,
      ledger.prior .nodeReport (nodeCancelKey env id) =
        some prior →
      Durable.wp (applyEvent env prior) (fun _ => Q true) E C d)
    (hFinished :
      ledger.prior .nodeReport (nodeCancelKey env id) = none →
      logStatus.isTerminal = true → Q false d)
    (hAppend :
      ledger.prior .nodeReport (nodeCancelKey env id) = none →
      logStatus.isTerminal = false →
      Durable.wp
        (appendAndApplyUnlocked env
          (nodeCancelRequest env now reason summary id))
        (fun _ => Q true) E C d) :
    Durable.wp
      (settleNode env now reason summary ledger id logStatus)
      Q E C d := by
  unfold settleNode
  cases hFound :
      ledger.prior .nodeReport (nodeCancelKey env id) with
  | some prior =>
      dsimp only
      rw [Durable.wp_bind, Durable.wp_read, Durable.wp_bind,
        readNodeOpt_of_readable hBacked.nodes,
        Durable.wp_lift_ok]
      split
      next hTerminal =>
        rw [Durable.wp_pure]
        rw [Option.any_eq_true_iff_get] at hTerminal
        rcases hTerminal with ⟨hSome, hTerminal⟩
        have hVerdict := verdict_of_lookup
          (Option.some_get hSome).symm
        apply hPassed prior hFound
        rw [hVerdict, rank_status, hTerminal, if_pos rfl]
      next =>
        rw [Durable.wp_bind]
        refine Durable.wp_mono (hRefold prior hFound) ?_
          (fun _ _ h => h) (fun _ _ h => h)
        intro _ s hQ
        rwa [Durable.wp_pure]
  | none =>
      dsimp only
      cases hTerminal : logStatus.isTerminal with
      | true =>
          rw [if_pos rfl, Durable.wp_pure]
          exact hFinished hFound hTerminal
      | false =>
          rw [if_neg (by simp), Durable.wp_bind]
          refine Durable.wp_mono (hAppend hFound hTerminal) ?_
            (fun _ _ h => h) (fun _ _ h => h)
          intro _ s hQ
          rwa [Durable.wp_pure]

theorem wp_settleNode
    (hKept : Kept env I)
    (hPrior : ∀ prior,
      ledger.prior .nodeReport (nodeCancelKey env id) =
        some prior →
      prior ∈ d.events ∧ prior.kind = .nodeReport)
    (hLog : ∀ s ops,
      ledger.prior .nodeReport (nodeCancelKey env id) = none →
      logStatus.isTerminal = false →
      I s → s.lines = d.lines → Abreast s →
      reduceEventToOps env s
          ((nodeCancelRequest env now reason summary id).event
            env (s.lastSeq + 1)) = .ok ops →
      I (s.log
        ((nodeCancelRequest env now reason summary id).event
          env (s.lastSeq + 1))))
    (hStart : I d) :
    Durable.wp
      (settleNode env now reason summary ledger id logStatus)
      (fun live s => I s ∧
        Settling env ledger
          (nodeCancelRequest env now reason summary id) id
          logStatus d live s)
      (fun _ s => I s ∧ s.lines = d.lines)
      (fun _ s => I s ∧ (s.lines = d.lines ∨
        (ledger.prior .nodeReport (nodeCancelKey env id) =
            none ∧
          s.lines = d.lines ++
            [d.next env
              (nodeCancelRequest env now reason summary id)])))
      d := by
  apply wp_settleNode_cases (hKept.backed d hStart)
  · intro prior hFound hSettled
    exact ⟨hStart, .passed prior hFound hSettled⟩
  · intro prior hFound
    rcases hPrior prior hFound with ⟨hMem, hKind⟩
    refine Durable.wp_mono
      (hKept.wp_refold hMem (.inl hKind) hStart) ?_
      (fun _ _ h => h) (fun _ _ h => ⟨h.1, .inl h.2⟩)
    rintro _ s ⟨hI, _, ops, hPlan, rfl⟩
    exact ⟨hI, .refolded prior ops hFound hPlan⟩
  · intro hFound hTerminal
    exact ⟨hStart, .finished hFound hTerminal⟩
  · intro hFound hLive
    refine Durable.wp_mono
      (hKept.wp_append
        (fun s ops => hLog s ops hFound hLive) hStart)
      ?_ (fun _ _ h => h) (fun _ _ h => ?_)
    · rintro _ s ⟨hI, hAbreast, hLines⟩
      exact ⟨hI, .appended s hFound hLive hAbreast hLines⟩
    · exact ⟨h.1, h.2.imp (fun hSame => hSame)
        (fun hGrown => ⟨hFound, hGrown⟩)⟩

/-
  The nodes of the ledger in turn: `J rest s` is what holds
  before the entries `rest` are settled.
-/
theorem wp_settleNodes
    {clock : CancelClock}
    {J : List (NodeId × Status) → Disk → Prop}
    {E : Error → Disk → Prop}
    {C : Boundary → Disk → Prop}
    (hStep : ∀ id st rest s, J ((id, st) :: rest) s →
      Durable.wp
        (settleNode env (clock.node id) reason
          "Run cancelled before agent reported." ledger id st)
        (fun _ s' => J rest s') E C s)
    {entries : List (NodeId × Status)}
    (hStart : J entries d) :
    Durable.wp (settleNodes env clock reason ledger entries)
      (fun _ s => J [] s) E C d := by
  induction entries generalizing d with
  | nil =>
      rw [settleNodes, Durable.wp_pure]
      exact hStart
  | cons entry rest ih =>
      rcases entry with ⟨id, st⟩
      rw [settleNodes, Durable.wp_bind]
      refine Durable.wp_mono (hStep id st rest d hStart) ?_
        (fun _ _ h => h) (fun _ _ h => h)
      intro live s hNext
      rw [Durable.wp_bind]
      refine Durable.wp_mono (ih hNext) ?_ (fun _ _ h => h)
        (fun _ _ h => h)
      rintro ⟨cancelled, terminal⟩ s' hEnd
      dsimp only
      split <;> exact Durable.wp_pure _ |>.mpr hEnd

end Settling

------------------------------------------------------------
-- Closing a Run
------------------------------------------------------------

/- The close that a cancellation appends. -/
def runCancelRequest
    (env : RunEnv) (now : Time) (data : Json) : Request where
  now := now
  kind := .runStatus
  nodeId := none
  key := some (runStatusCancelKey env)
  data := data

/- What closing the run did. -/
inductive Closing
    (env : RunEnv)
    (ledger : CancelLedger)
    (req : Request)
    (d : Disk) : Disk → Prop where
| refolded (prior : Event) (ops : List ProjectionOp)
    (hPrior : ledger.prior .runStatus (runStatusCancelKey env) =
      some prior)
    (hPlan : reduceEventToOps env d prior = .ok ops) :
    Closing env ledger req d (applyOps ops d)
| appended (s : Disk)
    (hPrior : ledger.prior .runStatus (runStatusCancelKey env) =
      none)
    (hAbreast : Abreast s)
    (hLines : s.lines = d.lines ++ [d.next env req]) :
    Closing env ledger req d s

section Closing

variable {env : RunEnv} {d : Disk} {I : Disk → Prop}
variable {now : Time} {ledger : CancelLedger} {data : Json}

/- Closing the run, by what the ledger has of it. -/
theorem wp_closeRun_cases
    {Q : Disk → Prop}
    {E : Error → Disk → Prop}
    {C : Boundary → Disk → Prop}
    (hRefold : ∀ prior,
      ledger.prior .runStatus (runStatusCancelKey env) =
        some prior →
      Durable.wp (applyEvent env prior) (fun _ => Q) E C d)
    (hAppend :
      ledger.prior .runStatus (runStatusCancelKey env) = none →
      Durable.wp
        (appendAndApplyUnlocked env
          (runCancelRequest env now data))
        (fun _ => Q) E C d) :
    Durable.wp (closeRun env now ledger data) (fun _ => Q) E C
      d := by
  unfold closeRun
  cases hFound :
      ledger.prior .runStatus (runStatusCancelKey env) with
  | some prior => exact hRefold prior hFound
  | none =>
      dsimp only
      rw [Durable.wp_bind]
      refine Durable.wp_mono (hAppend hFound) ?_
        (fun _ _ h => h) (fun _ _ h => h)
      intro _ s hQ
      rwa [Durable.wp_pure]

theorem wp_closeRun
    (hKept : Kept env I)
    (hPrior : ∀ prior,
      ledger.prior .runStatus (runStatusCancelKey env) =
        some prior →
      prior ∈ d.events ∧ prior.kind = .runStatus)
    (hLog : ∀ s ops,
      ledger.prior .runStatus (runStatusCancelKey env) = none →
      I s → s.lines = d.lines → Abreast s →
      reduceEventToOps env s
          ((runCancelRequest env now data).event env
            (s.lastSeq + 1)) = .ok ops →
      I (s.log
        ((runCancelRequest env now data).event env
          (s.lastSeq + 1))))
    (hStart : I d) :
    Durable.wp (closeRun env now ledger data)
      (fun _ s => I s ∧
        Closing env ledger (runCancelRequest env now data) d s)
      (fun _ s => I s ∧ s.lines = d.lines)
      (fun _ s => I s ∧ (s.lines = d.lines ∨
        (ledger.prior .runStatus (runStatusCancelKey env) =
            none ∧
          s.lines = d.lines ++
            [d.next env (runCancelRequest env now data)])))
      d := by
  apply wp_closeRun_cases
  · intro prior hFound
    rcases hPrior prior hFound with ⟨hMem, hKind⟩
    refine Durable.wp_mono
      (hKept.wp_refold hMem (.inr hKind) hStart) ?_
      (fun _ _ h => h) (fun _ _ h => ⟨h.1, .inl h.2⟩)
    rintro _ s ⟨hI, _, ops, hPlan, rfl⟩
    exact ⟨hI, .refolded prior ops hFound hPlan⟩
  · intro hFound
    refine Durable.wp_mono
      (hKept.wp_append (fun s ops => hLog s ops hFound) hStart)
      ?_ (fun _ _ h => h) (fun _ _ h => ?_)
    · rintro _ s ⟨hI, hAbreast, hLines⟩
      exact ⟨hI, .appended s hFound hAbreast hLines⟩
    · exact ⟨h.1, h.2.imp (fun hSame => hSame)
        (fun hGrown => ⟨hFound, hGrown⟩)⟩

end Closing

------------------------------------------------------------
-- The Cancel Calls
------------------------------------------------------------

/- A cancel call that is not refused, with what it read. -/
structure Opened
    (env : RunEnv)
    (d : Disk)
    (m : Manifest)
    (ledger : CancelLedger) : Prop where
  manifest : d.manifest = some m
  status : m.status.isTerminal = true → m.status = .cancelled
  reads : ledger.Reads env d.events

section Calls

variable {env : RunEnv} {d : Disk} {clock : CancelClock}
variable {note : Option String} {id : NodeId}
variable {E : Error → Disk → Prop}
variable {C : Boundary → Disk → Prop}

theorem Opened.nodePrior
    {m : Manifest} {ledger : CancelLedger}
    (hOpened : Opened env d m ledger) (id : NodeId) :
    ledger.prior .nodeReport (nodeCancelKey env id) =
      d.events.find?
        (keyedAs .nodeReport (nodeCancelKey env id)) :=
  hOpened.reads.prior _ _ (nodeCancelKey_inSpace id)

theorem Opened.runPrior
    {m : Manifest} {ledger : CancelLedger}
    (hOpened : Opened env d m ledger) :
    ledger.prior .runStatus (runStatusCancelKey env) =
      d.events.find?
        (keyedAs .runStatus (runStatusCancelKey env)) :=
  hOpened.reads.prior _ _ runStatusCancelKey_inSpace

theorem readManifest_of_sane
    {m : Manifest}
    (hSane : Sane env d)
    (hManifest : d.manifest = some m) :
    readManifest env d = .ok m := by
  unfold readManifest
  rw [readManifestOpt_of_readable hSane.readable, hManifest]
  rfl

/- The preamble both cancel calls share. -/
theorem wp_opened
    {α : Type}
    {Q : α → Disk → Prop}
    {body : Manifest → CancelLedger → Locked α}
    (hSane : Sane env d)
    (hRefused : ∀ e, E e d)
    (hBody : ∀ m ledger, Opened env d m ledger →
      Durable.wp (body m ledger) Q E C d) :
    Durable.wp
      (do
        let d ← Durable.read
        let m ← Durable.lift (readManifest env d)
        if m.status.isTerminal ∧ m.status ≠ .cancelled then
          Durable.fail (.runAlreadyTerminal m.status)
        else do
          let ledger ← Durable.lift (readCancelLedger env d.lines)
          body m ledger)
      Q E C d := by
  rcases Option.ne_none_iff_exists'.mp hSane.manifest with
    ⟨m, hManifest⟩
  rw [Durable.wp_bind, Durable.wp_read, Durable.wp_bind,
    readManifest_of_sane hSane hManifest, Durable.wp_lift_ok]
  split
  · rw [Durable.wp_fail]
    exact hRefused _
  next hOpen =>
    rw [Durable.wp_bind]
    cases hRead : readCancelLedger env d.lines with
    | error e =>
        rw [Durable.wp_lift_error]
        exact hRefused e
    | ok ledger =>
        rw [Durable.wp_lift_ok]
        rw [hSane.lines] at hRead
        refine hBody m ledger ⟨hManifest, ?_,
          readCancelLedger_events hRead⟩
        intro hTerminal
        by_contra hOther
        exact hOpen ⟨hTerminal, hOther⟩

theorem wp_cancelRunUnlocked
    {Q : CancelOutcome → Disk → Prop}
    (hSane : Sane env d)
    (hRefused : ∀ e, E e d)
    (hBody : ∀ m ledger, Opened env d m ledger →
      Durable.wp
        (settleNodes env clock (normalizeCancelReason note)
          ledger ledger.nodeStatus)
        (fun split s =>
          Durable.wp
            (if m.status = .cancelled then pure ()
              else closeRun env clock.run ledger
                (cancelStatus note))
            (fun _ => Q {
              runWasAlreadyCancelled := m.status == .cancelled
              nodesCancelled := split.1
              nodesAlreadyTerminal := split.2 }) E C s)
        E C d) :
    Durable.wp (cancelRunUnlocked env clock note) Q E C d := by
  refine wp_opened hSane hRefused (fun m ledger hOpened => ?_)
  rw [Durable.wp_bind]
  refine Durable.wp_mono (hBody m ledger hOpened) ?_
    (fun _ _ h => h) (fun _ _ h => h)
  rintro ⟨cancelled, terminal⟩ s hEnd
  dsimp only at hEnd ⊢
  by_cases hCancelled : m.status = .cancelled
  · rw [if_pos hCancelled, Durable.wp_pure] at hEnd ⊢
    exact hEnd
  · rw [if_neg hCancelled] at hEnd ⊢
    rw [Durable.wp_bind]
    refine Durable.wp_mono hEnd ?_ (fun _ _ h => h)
      (fun _ _ h => h)
    intro _ s' hQ
    exact Durable.wp_pure _ |>.mpr hQ

/- The statuses a roll-up of one cancelled node looks at. -/
def rollUpStatuses
    (ledger : CancelLedger)
    (target : NodeId)
    (effective : Status) : List Status :=
  ledger.nodeStatus.map (fun entry =>
    if entry.1 = target then effective else entry.2)

theorem wp_maybeRollUpRun
    {now : Time} {st logStatus : Status} {cancelled : Bool}
    {ledger : CancelLedger}
    {Q : Option Status → Disk → Prop}
    (hNone : Q none d)
    (hClose : ∀ agg, st.isTerminal = false →
      aggregateTerminalStatus
          (rollUpStatuses ledger id
            (if cancelled then .cancelled else logStatus)) =
        some agg →
      Durable.wp
        (closeRun env now ledger
          (.obj [("status", .str agg.name)]))
        (fun _ => Q (some agg)) E C d) :
    Durable.wp
      (maybeRollUpRun env now st ledger id cancelled logStatus)
      Q E C d := by
  unfold maybeRollUpRun
  split
  · exact Durable.wp_pure _ |>.mpr hNone
  next hLive =>
    dsimp only
    split
    · exact Durable.wp_pure _ |>.mpr hNone
    next agg hAgg =>
      rw [Durable.wp_bind]
      refine Durable.wp_mono
        (hClose agg (by simpa using hLive) hAgg) ?_
        (fun _ _ h => h) (fun _ _ h => h)
      intro _ s hQ
      exact Durable.wp_pure _ |>.mpr hQ

theorem wp_cancelNodeUnlocked
    {Q : NodeCancelOutcome → Disk → Prop}
    (hSane : Sane env d)
    (hRefused : ∀ e, E e d)
    (hBody : ∀ m ledger logStatus, Opened env d m ledger →
      ledger.nodeStatus.lookup id = some logStatus →
      Durable.wp
        (settleNode env (clock.node id)
          (normalizeCancelReason note)
          "Node cancelled before agent reported." ledger id
          logStatus)
        (fun cancelled s =>
          Durable.wp
            (maybeRollUpRun env clock.run m.status ledger id
              cancelled logStatus)
            (fun rolledUp => Q {
              nodeId := id
              cancelled
              alreadyTerminal := !cancelled
              rolledUp }) E C s)
        E C d) :
    Durable.wp (cancelNodeUnlocked env clock id note) Q E C
      d := by
  refine wp_opened hSane hRefused (fun m ledger hOpened => ?_)
  cases hLookup : ledger.nodeStatus.lookup id with
  | none =>
      dsimp only
      rw [Durable.wp_fail]
      exact hRefused _
  | some logStatus =>
      dsimp only
      rw [Durable.wp_bind]
      refine Durable.wp_mono
        (hBody m ledger logStatus hOpened hLookup) ?_
        (fun _ _ h => h) (fun _ _ h => h)
      intro cancelled s hEnd
      rw [Durable.wp_bind]
      refine Durable.wp_mono hEnd ?_ (fun _ _ h => h)
        (fun _ _ h => h)
      intro rolledUp s' hQ
      exact Durable.wp_pure _ |>.mpr hQ

end Calls

------------------------------------------------------------
-- The Log Across a Loop
------------------------------------------------------------

theorem events_next
    {env : RunEnv} {d s : Disk} {r : Request}
    (hLines : s.lines = d.lines ++ [d.next env r]) :
    s.events = d.events ++ [r.event env (d.lastSeq + 1)] := by
  unfold Disk.events
  rw [hLines, List.filterMap_append]
  rfl

/- The log grew by node reports alone. -/
def Reported (d s : Disk) : Prop :=
  ∃ added, s.events = d.events ++ added ∧
    ∀ ev ∈ added, ev.kind = .nodeReport

/- A cancel key in the log is that of a node settled there. -/
def Honoured
    (env : RunEnv) (events : List Event) (id : NodeId) : Prop :=
  ∀ prior,
    events.find? (keyedAs .nodeReport (nodeCancelKey env id)) =
      some prior →
    (logAcc events).Settles id

section Loop

variable {env : RunEnv} {d s s' : Disk} {id : NodeId}
variable {ledger : CancelLedger} {m : Manifest}
variable {now : Time} {reason summary : String}
variable {logStatus : Status} {live : Bool}

theorem Reported.refl (d : Disk) : Reported d d :=
  ⟨[], by simp, by simp⟩

theorem Reported.trans
    (hFirst : Reported d s) (hSecond : Reported s s') :
    Reported d s' := by
  rcases hFirst with ⟨added, hEvents, hKinds⟩
  rcases hSecond with ⟨added', hEvents', hKinds'⟩
  refine ⟨added ++ added', by simp [hEvents', hEvents], ?_⟩
  intro ev hMem
  rcases List.mem_append.mp hMem with hOld | hNew
  · exact hKinds ev hOld
  · exact hKinds' ev hNew

theorem Reported.settles
    (hReported : Reported d s)
    (hSettles : (logAcc d.events).Settles id) :
    (logAcc s.events).Settles id := by
  rcases hReported with ⟨added, hEvents, _⟩
  rw [hEvents]
  exact logAcc_settled hSettles

/- Reports bring in no node and lose none. -/
theorem Reported.status_eq_none
    (hReported : Reported d s) :
    (logAcc s.events).status id = none ↔
      (logAcc d.events).status id = none := by
  rcases hReported with ⟨added, hEvents, hKinds⟩
  rw [hEvents]
  clear hEvents
  induction added using List.reverseRecOn with
  | nil => simp
  | append_singleton added ev ih =>
      have hHere := ih (fun e hMem => hKinds e (by simp [hMem]))
      have hKind : ev.kind ≠ .nodeCreated := by
        rw [hKinds ev (by simp)]
        simp
      rw [← List.append_assoc, logAcc_concat, ← hHere]
      constructor
      · intro hNone
        by_contra hThere
        exact step_present hThere hNone
      · exact step_absent hKind

theorem settling_reported
    (hSettling : Settling env ledger
      (nodeCancelRequest env now reason summary id) id
      logStatus s live s') :
    Reported s s' := by
  cases hSettling with
  | passed => exact .refl _
  | refolded _ ops =>
      exact ⟨[], by simp [Disk.applyOps_events], by simp⟩
  | finished => exact .refl _
  | appended _ _ _ _ hLines =>
      refine ⟨[_], events_next hLines, ?_⟩
      simp [nodeCancelRequest, Request.event]

/- A node of the ledger is settled in the log by its turn. -/
theorem settling_settles
    (hOpened : Opened env d m ledger)
    (hReported : Reported d s)
    (hStatus : (logAcc d.events).status id = some logStatus)
    (hHonoured : Honoured env d.events id)
    (hSettling : Settling env ledger
      (nodeCancelRequest env now reason summary id) id
      logStatus s live s') :
    (logAcc s'.events).Settles id := by
  have hLater := hReported.trans (settling_reported hSettling)
  cases hSettling with
  | passed prior hPrior =>
      rw [hOpened.nodePrior] at hPrior
      exact hLater.settles (hHonoured prior hPrior)
  | refolded prior ops hPrior =>
      rw [hOpened.nodePrior] at hPrior
      exact hLater.settles (hHonoured prior hPrior)
  | finished _ hTerminal =>
      exact hLater.settles ⟨logStatus, hStatus, hTerminal⟩
  | appended _ _ _ _ hLines =>
      rw [events_next hLines, logAcc_concat]
      refine step_reported rfl rfl (cancelReport_status rfl) ?_
      rw [ne_eq, hReported.status_eq_none, hStatus]
      simp

/- The log has an outcome or a cancel event for the node. -/
def Handled (env : RunEnv) (s : Disk) (id : NodeId) : Prop :=
  (logAcc s.events).Settles id ∨
    s.events.find? (keyedAs .nodeReport (nodeCancelKey env id)) ≠
      none

theorem Handled.reported
    (hReported : Reported s s')
    (hHandled : Handled env s id) : Handled env s' id := by
  rcases hHandled with hSettles | hKeyed
  · exact .inl (hReported.settles hSettles)
  · right
    rcases hReported with ⟨added, hEvents, _⟩
    rw [hEvents]
    exact find_keyed_append hKeyed

theorem settling_handled
    (hOpened : Opened env d m ledger)
    (hReported : Reported d s)
    (hStatus : (logAcc d.events).status id = some logStatus)
    (hSettling : Settling env ledger
      (nodeCancelRequest env now reason summary id) id
      logStatus s live s') :
    Handled env s' id := by
  have hLater := hReported.trans (settling_reported hSettling)
  have hKeyed : ∀ prior,
      ledger.prior .nodeReport (nodeCancelKey env id) =
        some prior → Handled env d id := by
    intro prior hPrior
    rw [hOpened.nodePrior] at hPrior
    exact .inr (by simp [hPrior])
  cases hSettling with
  | passed prior hPrior =>
      exact (hKeyed prior hPrior).reported hLater
  | refolded prior ops hPrior =>
      exact (hKeyed prior hPrior).reported hLater
  | finished _ hTerminal =>
      exact .inl (hLater.settles ⟨logStatus, hStatus, hTerminal⟩)
  | appended _ _ _ _ hLines =>
      right
      rw [events_next hLines]
      exact find_keyed_concat rfl rfl

/- Where the loop over the ledger of `d` stands. -/
structure Looping
    (env : RunEnv)
    (d : Disk)
    (ledger : CancelLedger)
    (rest : List (NodeId × Status))
    (s : Disk) : Prop where
  reported : Reported d s
  later : ∀ entry ∈ rest, entry ∈ ledger.nodeStatus
  settled : ∀ entry ∈ ledger.nodeStatus,
    entry ∈ rest ∨
      (Honoured env d.events entry.1 →
        (logAcc s.events).Settles entry.1)
  handled : ∀ entry ∈ ledger.nodeStatus,
    entry ∈ rest ∨ Handled env s entry.1

theorem looping_start :
    Looping env d ledger ledger.nodeStatus d :=
  ⟨.refl d, fun _ h => h, fun _ h => .inl h, fun _ h => .inl h⟩

theorem Opened.mem
    (hOpened : Opened env d m ledger) :
    (id, logStatus) ∈ ledger.nodeStatus ↔
      (logAcc d.events).status id = some logStatus := by
  rw [hOpened.reads.nodeStatus]
  exact mem_finish (tidy_logAcc _)

theorem Looping.step
    {rest : List (NodeId × Status)}
    (hOpened : Opened env d m ledger)
    (hLooping :
      Looping env d ledger ((id, logStatus) :: rest) s)
    (hSettling : Settling env ledger
      (nodeCancelRequest env now reason summary id) id
      logStatus s live s') :
    Looping env d ledger rest s' := by
  have hStep := settling_reported hSettling
  have hStatus := hOpened.mem.mp
    (hLooping.later (id, logStatus) List.mem_cons_self)
  refine ⟨hLooping.reported.trans hStep,
    fun entry hMem =>
      hLooping.later entry (List.mem_cons_of_mem _ hMem),
    ?_, ?_⟩
  · intro entry hMem
    rcases hLooping.settled entry hMem with hRest | hDone
    · rcases List.mem_cons.mp hRest with rfl | hRest
      · exact .inr (fun hHonoured =>
          settling_settles hOpened hLooping.reported hStatus
            hHonoured hSettling)
      · exact .inl hRest
    · exact .inr (fun hHonoured =>
        hStep.settles (hDone hHonoured))
  · intro entry hMem
    rcases hLooping.handled entry hMem with hRest | hDone
    · rcases List.mem_cons.mp hRest with rfl | hRest
      · exact .inr (settling_handled hOpened hLooping.reported
          hStatus hSettling)
      · exact .inl hRest
    · exact .inr (hDone.reported hStep)

/- A log in which every node of the ledger is settled. -/
theorem Opened.allSettled
    (hOpened : Opened env d m ledger)
    (hReported : Reported d s)
    (hAll : ∀ entry ∈ ledger.nodeStatus,
      (logAcc s.events).Settles entry.1) :
    AllSettled s.events := by
  intro ev hMem hKind id hNode
  have hOld : ev ∈ d.events := by
    rcases hReported with ⟨added, hEvents, hKinds⟩
    rw [hEvents, List.mem_append] at hMem
    rcases hMem with hOld | hNew
    · exact hOld
    · rw [hKinds ev hNew] at hKind
      cases hKind
  rcases Option.ne_none_iff_exists'.mp
    (created_present hOpened.reads.skimmed hOld hKind hNode)
    with ⟨st, hStatus⟩
  exact hAll (id, st) (hOpened.mem.mpr hStatus)

end Loop

------------------------------------------------------------
-- Writers
------------------------------------------------------------

/- The critical sections that write to a run. -/
inductive Writer where
| call (c : Call)
| cancelRun (clock : CancelClock) (note : Option String)
| cancelNode
    (clock : CancelClock) (id : NodeId) (note : Option String)
| rollUp (now : Time) (view : SupervisorView)
| noWorker (now : Time) (view : SupervisorView)

namespace Writer

/- A critical section with its answer dropped. -/
def run (env : RunEnv) : Writer → Locked Unit
| .call c => c.run env
| .cancelRun clock note => do
    let _ ← cancelRunUnlocked env clock note
    pure ()
| .cancelNode clock id note => do
    let _ ← cancelNodeUnlocked env clock id note
    pure ()
| .rollUp now view => do
    let _ ← Taskfleet.rollUp env now view
    pure ()
| .noWorker now view => do
    let _ ← noWorkerGuard env now view
    pure ()

end Writer

/- Created runs under any writers, cut anywhere. -/
def WriterRun (env : RunEnv) : Disk → Prop :=
  Durable.Reach (Writer.run env) (Booted env)
    (fun _ _ _ => True)

theorem BootedRun.writerRun
    {env : RunEnv} {Cut : Boundary → Prop} {d : Disk}
    (hRun : BootedRun env Cut d) : WriterRun env d := by
  induction hRun with
  | start hInit => exact .start hInit
  | done call _ ih => exact .done (.call call) ih
  | cut call _ hEntry _ ih =>
      exact .cut (.call call) ih hEntry trivial

/- The requests that a writer may hand to the gate. -/
def Writer.Asks : Writer → Request → Prop
| .call c, r => c.Asks r
| _, r => r.kind = .nodeReport ∨ r.kind = .runStatus

/- A run status that closes the run. -/
def Event.Closes (ev : Event) : Prop :=
  ev.kind = .runStatus ∧
    ∃ st, ev.requireStatus = .ok st ∧ st.isTerminal = true

/-
  What a section that may close a run must find: the cancel
  keys in the log are those of settled nodes, and no creation
  is past the watermark when the node count is looked at.
-/
def Writer.Safe
    (env : RunEnv) (d : Disk) : Writer → Prop
| .call c => ∀ r seq, c.Asks r → ¬ (r.event env seq).Closes
| .cancelRun _ _ =>
    ∀ id, (logAcc d.events).status id ≠ none →
      Honoured env d.events id
| .cancelNode _ id _ => Honoured env d.events id
| .rollUp _ _ => True
| .noWorker _ _ =>
    ∀ ev ∈ d.events, ev.kind = .nodeCreated →
      ev.seq ≤ d.appliedSeq

section Writers

variable {env : RunEnv} {d : Disk} {I : Disk → Prop}

/- What `I` must take: what `w` asks, closing where safe. -/
def Logs
    (env : RunEnv)
    (I : Disk → Prop)
    (d : Disk)
    (w : Writer) : Prop :=
  ∀ (s : Disk) (r : Request) (ops : List ProjectionOp),
    w.Asks r → I s → Abreast s →
    ((r.event env (s.lastSeq + 1)).Closes → w.Safe env d →
      AllSettled s.events) →
    reduceEventToOps env s (r.event env (s.lastSeq + 1)) =
      .ok ops →
    I (s.log (r.event env (s.lastSeq + 1)))

theorem find_mem
    {kind : EventKind} {key : String} {events : List Event}
    {ev : Event}
    (hFound : events.find? (keyedAs kind key) = some ev) :
    ev ∈ events ∧ ev.kind = kind :=
  ⟨List.mem_of_find?_eq_some hFound,
    (keyedAs_iff.mp (List.find?_some hFound)).1⟩

/- A cancel event of the ledger may be folded again. -/
theorem Opened.nodeRefolds
    {s : Disk} {m : Manifest} {ledger : CancelLedger}
    (hOpened : Opened env d m ledger)
    (hReported : Reported d s)
    {id : NodeId} {prior : Event}
    (hPrior :
      ledger.prior .nodeReport (nodeCancelKey env id) =
        some prior) :
    prior ∈ s.events ∧ prior.kind = .nodeReport := by
  rw [hOpened.nodePrior] at hPrior
  rcases find_mem hPrior with ⟨hMem, hKind⟩
  rcases hReported with ⟨added, hEvents, _⟩
  exact ⟨by simp [hEvents, hMem], hKind⟩

theorem Opened.runRefolds
    {s : Disk} {m : Manifest} {ledger : CancelLedger}
    (hOpened : Opened env d m ledger)
    (hReported : Reported d s)
    {prior : Event}
    (hPrior :
      ledger.prior .runStatus (runStatusCancelKey env) =
        some prior) :
    prior ∈ s.events ∧ prior.kind = .runStatus := by
  rw [hOpened.runPrior] at hPrior
  rcases find_mem hPrior with ⟨hMem, hKind⟩
  rcases hReported with ⟨added, hEvents, _⟩
  exact ⟨by simp [hEvents, hMem], hKind⟩

theorem Kept.wp_settling
    {now : Time} {reason summary : String} {id : NodeId}
    {logStatus : Status} {s : Disk} {m : Manifest}
    {ledger : CancelLedger} {w : Writer}
    (hKept : Kept env I)
    (hLog : Logs env I d w)
    (hSettles : ∀ r : Request,
      r.kind = .nodeReport ∨ r.kind = .runStatus → w.Asks r)
    (hOpened : Opened env d m ledger)
    (hReported : Reported d s)
    (hStart : I s) :
    Durable.wp
      (settleNode env now reason summary ledger id logStatus)
      (fun live s' => I s' ∧
        Settling env ledger
          (nodeCancelRequest env now reason summary id) id
          logStatus s live s')
      (fun _ => I) (fun _ => I) s := by
  refine Durable.wp_mono
    (wp_settleNode hKept ?_ ?_ hStart)
    (fun _ _ h => h) (fun _ _ h => h.1) (fun _ _ h => h.1)
  · exact fun _ => hOpened.nodeRefolds hReported
  · intro s' ops _ _ hI _ hAbreast hPlan
    refine hLog s' _ ops (hSettles _ (.inl rfl)) hI hAbreast ?_
      hPlan
    rintro ⟨hKind, _⟩
    cases hKind

theorem Kept.wp_closing
    {now : Time} {data : Json} {s : Disk} {m : Manifest}
    {ledger : CancelLedger} {w : Writer}
    (hKept : Kept env I)
    (hLog : Logs env I d w)
    (hSettles : ∀ r : Request,
      r.kind = .nodeReport ∨ r.kind = .runStatus → w.Asks r)
    (hOpened : Opened env d m ledger)
    (hReported : Reported d s)
    (hSettled : w.Safe env d → AllSettled s.events)
    (hStart : I s) :
    Durable.wp (closeRun env now ledger data)
      (fun _ s' => I s' ∧
        Closing env ledger (runCancelRequest env now data) s s')
      (fun _ => I) (fun _ => I) s := by
  refine Durable.wp_mono (wp_closeRun hKept ?_ ?_ hStart)
    (fun _ _ h => h) (fun _ _ h => h.1) (fun _ _ h => h.1)
  · exact fun _ => hOpened.runRefolds hReported
  · intro s' ops _ hI hLines hAbreast hPlan
    refine hLog s' _ ops (hSettles _ (.inr rfl)) hI hAbreast
      (fun _ hSafe => ?_) hPlan
    rw [Disk.events_congr hLines]
    exact hSettled hSafe

theorem Kept.wp_cancelRun
    {clock : CancelClock} {note : Option String}
    (hKept : Kept env I)
    (hLog : Logs env I d (.cancelRun clock note))
    (hStart : I d) :
    Durable.wp (cancelRunUnlocked env clock note) (fun _ => I)
      (fun _ => I) (fun _ => I) d := by
  refine wp_cancelRunUnlocked (hKept.backed d hStart).toSane
    (fun _ => hStart) (fun m ledger hOpened => ?_)
  refine Durable.wp_mono
    (wp_settleNodes
      (J := fun rest s => I s ∧ Looping env d ledger rest s)
      ?_ ⟨hStart, looping_start⟩)
    ?_ (fun _ _ h => h) (fun _ _ h => h)
  · rintro id st rest s ⟨hI, hLooping⟩
    exact Durable.wp_mono
      (hKept.wp_settling hLog (fun _ h => h) hOpened
        hLooping.reported hI)
      (fun _ _ h => ⟨h.1, hLooping.step hOpened h.2⟩)
      (fun _ _ h => h) (fun _ _ h => h)
  · rintro _ s ⟨hI, hLooping⟩
    split
    · exact Durable.wp_pure _ |>.mpr hI
    · refine Durable.wp_mono
        (hKept.wp_closing hLog (fun _ h => h) hOpened
          hLooping.reported ?_ hI)
        (fun _ _ h => h.1) (fun _ _ h => h) (fun _ _ h => h)
      intro hSafe
      refine hOpened.allSettled hLooping.reported ?_
      rintro ⟨id, st⟩ hMem
      rcases hLooping.settled _ hMem with hNil | hDone
      · cases hNil
      · refine hDone (hSafe id ?_)
        rw [hOpened.mem.mp hMem]
        simp

theorem Kept.wp_cancelNode
    {clock : CancelClock} {id : NodeId} {note : Option String}
    (hKept : Kept env I)
    (hLog : Logs env I d (.cancelNode clock id note))
    (hStart : I d) :
    Durable.wp (cancelNodeUnlocked env clock id note)
      (fun _ => I) (fun _ => I) (fun _ => I) d := by
  refine wp_cancelNodeUnlocked (hKept.backed d hStart).toSane
    (fun _ => hStart) ?_
  intro m ledger logStatus hOpened hLookup
  have hStatus :
      (logAcc d.events).status id = some logStatus := by
    rcases List.lookup_eq_some_iff.mp hLookup with
      ⟨_, _, hSplit, _⟩
    exact hOpened.mem.mp (by simp [hSplit])
  refine Durable.wp_mono
    (hKept.wp_settling hLog (fun _ h => h) hOpened (.refl d)
      hStart) ?_
    (fun _ _ h => h) (fun _ _ h => h)
  rintro cancelled s ⟨hI, hSettling⟩
  refine wp_maybeRollUpRun hI ?_
  intro agg _ hAgg
  refine Durable.wp_mono
    (hKept.wp_closing hLog (fun _ h => h) hOpened
      (settling_reported hSettling) ?_ hI)
    (fun _ _ h => h.1) (fun _ _ h => h) (fun _ _ h => h)
  intro hHonoured
  have hReported := settling_reported hSettling
  refine hOpened.allSettled hReported ?_
  rintro ⟨i, st⟩ hMem
  by_cases hHere : i = id
  · subst hHere
    exact settling_settles hOpened (.refl d) hStatus hHonoured
      hSettling
  · -- the others are finished, or there were no roll-up
    refine hReported.settles ⟨st, hOpened.mem.mp hMem, ?_⟩
    refine (terminal_of_aggregate hAgg).2 st ?_
    unfold rollUpStatuses
    rw [List.mem_map]
    exact ⟨(i, st), hMem, if_neg hHere⟩

/- The facts a roll-up reads are those of the whole log. -/
theorem facts_of_read
    {s : Disk} {facts : List NodeStatusFact}
    (hSane : Sane env s)
    (hRead : readNodeStatusFacts s.lines none = .ok facts) :
    facts = (logAcc s.events).finishFacts ∧
      ∀ ev ∈ s.events,
        ∃ p, CancelProbeData.decode ev.data = some p := by
  rw [readNodeStatusFacts_eq, hSane.lines, bind_eq_ok] at hRead
  rcases hRead with ⟨acc, hFold, hFacts⟩
  rcases statusAcc_read (fun _ _ => rfl) hFold with
    ⟨rfl, hSkimmed⟩
  rw [Except.ok.injEq] at hFacts
  exact ⟨hFacts.symm, hSkimmed⟩

theorem allSettled_of_facts
    {s : Disk} {facts : List NodeStatusFact} {agg : Status}
    (hSane : Sane env s)
    (hRead : readNodeStatusFacts s.lines none = .ok facts)
    (hAgg :
      aggregateTerminalStatus
        (facts.map NodeStatusFact.status) = some agg) :
    AllSettled s.events := by
  rcases facts_of_read hSane hRead with ⟨rfl, hSkimmed⟩
  refine allSettled_of_statuses hSkimmed ?_
  intro id st hStatus
  refine (terminal_of_aggregate hAgg).2 st ?_
  have hTidy := tidy_logAcc s.events
  refine List.mem_map.mpr
    ⟨⟨id, st, (logAcc s.events).confirmedMergeSeq id⟩, ?_, rfl⟩
  rw [mem_finishFacts]
  exact ⟨(hTidy.mem id).mpr (by simp [hStatus]),
    by simp [hStatus], rfl⟩

/- What a roll-up decision has read. -/
structure Decided
    (env : RunEnv)
    (s : Disk)
    (childrenSuccessful : Bool)
    (m : Manifest)
    (facts : List NodeStatusFact)
    (agg : Status)
    (decision : RollupDecision) : Prop where
  manifest : s.manifest = some m
  read : readNodeStatusFacts s.lines none = .ok facts
  aggregate :
    aggregateTerminalStatus (facts.map NodeStatusFact.status) =
      some agg
  live : m.status ≠ .done ∧ m.status ≠ .cancelled
  decided :
    (m.status ≠ .failed ∧ decision = ⟨agg, none⟩) ∨
      (m.status = .failed ∧ agg = .done ∧
        childrenSuccessful = true ∧
        ∃ seq,
          (facts.filterMap
            NodeStatusFact.confirmedMergeSeq).max? = some seq ∧
          decision = ⟨.done, some seq⟩)

theorem decided_of_some
    {s : Disk} {terminal successful : Bool}
    {decision : RollupDecision}
    (hSome :
      rollupDecision env s terminal successful = some decision) :
    ∃ m facts agg,
      Decided env s successful m facts agg decision := by
  unfold rollupDecision at hSome
  simp only [Option.bind_eq_bind, Option.bind_eq_some_iff,
    Option.join_eq_some_iff] at hSome
  rcases hSome with ⟨m, hRead, hRest⟩
  have hManifest : s.manifest = some m := by
    cases hOpt : readManifestOpt env s with
    | error e =>
        rw [hOpt] at hRead
        cases hRead
    | ok o =>
        rw [hOpt] at hRead
        cases hRead
        exact (readManifestOpt_eq_some.mp hOpt).1
  split at hRest
  · cases hRest
  next hOpen =>
  split at hRest
  · cases hRest
  simp only [Option.bind_eq_some_iff] at hRest
  rcases hRest with ⟨facts, hFacts, agg, hAgg, hLast⟩
  have hOk : readNodeStatusFacts s.lines none = .ok facts := by
    cases hCase : readNodeStatusFacts s.lines none with
    | error e =>
        rw [hCase] at hFacts
        cases hFacts
    | ok fs =>
        rw [hCase] at hFacts
        cases hFacts
        rfl
  refine ⟨m, facts, agg, hManifest, hOk, hAgg,
    ⟨fun h => hOpen (.inl h), fun h => hOpen (.inr h)⟩, ?_⟩
  split at hLast
  next hFailed =>
    split at hLast
    · cases hLast
    next hGood =>
      simp only [not_or, not_not, Bool.not_eq_true',
        Bool.not_eq_false] at hGood
      simp only [Option.bind_eq_some_iff, Option.pure_def,
        Option.some.injEq] at hLast
      rcases hLast with ⟨seq, hMax, rfl⟩
      exact .inr ⟨hFailed, hGood.1, hGood.2, seq, hMax, rfl⟩
  next hOther =>
    rw [Option.pure_def, Option.some.injEq] at hLast
    exact .inl ⟨hOther, hLast.symm⟩

theorem Kept.wp_rollUp
    {now : Time} {view : SupervisorView}
    (hKept : Kept env I)
    (hLog : Logs env I d (.rollUp now view))
    (hStart : I d) :
    Durable.wp (rollUp env now view) (fun _ => I) (fun _ => I)
      (fun _ => I) d := by
  unfold rollUp
  rw [Durable.wp_bind]
  refine Durable.wp_mono (hKept.wp_catchUp hStart) ?_
    (fun _ _ h => h.1) (fun _ _ h => h.1)
  rintro _ s ⟨hI, _, _⟩
  rw [Durable.wp_bind, Durable.wp_read, Durable.wp_bind,
    Durable.wp_lift]
  split
  swap
  · exact hI
  dsimp only
  split
  · exact Durable.wp_pure _ |>.mpr hI
  next decision hSome =>
    rcases decided_of_some hSome with ⟨m, facts, agg, hDecided⟩
    have hSane := (hKept.backed s hI).toSane
    rw [Durable.wp_bind]
    refine Durable.wp_mono (hKept.wp_append ?_ hI) ?_
      (fun _ _ h => h.1) (fun _ _ h => h.1)
    · intro s' ops hI' hLines hAbreast hPlan
      have hKind :
          (decision.request env now).kind = .runStatus := by
        unfold RollupDecision.request
        split
        · rfl
        · rfl
      refine hLog s' _ ops (.inr hKind) hI' hAbreast
        (fun _ _ => ?_) hPlan
      rw [Disk.events_congr hLines]
      exact allSettled_of_facts hSane hDecided.read
        hDecided.aggregate
    · rintro _ s' ⟨hI', _⟩
      exact Durable.wp_pure _ |>.mpr hI'

/- A counter at zero, with no creation left to fold. -/
theorem allSettled_of_noWorker
    {view : SupervisorView}
    (hBacked : Backed env d)
    (hStill : stillNoWorker env d view = true)
    (hFolded : ∀ ev ∈ d.events, ev.kind = .nodeCreated →
      ev.seq ≤ d.appliedSeq) :
    AllSettled d.events := by
  intro ev hMem hKind id _
  rcases (hBacked.counted ev hMem hKind
    (hFolded ev hMem hKind)).2 with ⟨m, hManifest, hCount⟩
  unfold stillNoWorker at hStill
  rw [readManifestOpt_of_readable hBacked.readable,
    hManifest] at hStill
  simp only [Except.toOption, Option.join_some, Option.any_some,
    Bool.and_eq_true, beq_iff_eq] at hStill
  exact absurd hStill.1.1.2 hCount

theorem Kept.wp_noWorker
    {now : Time} {view : SupervisorView}
    (hKept : Kept env I)
    (hLog : Logs env I d (.noWorker now view))
    (hStart : I d) :
    Durable.wp (noWorkerGuard env now view) (fun _ => I)
      (fun _ => I) (fun _ => I) d := by
  unfold noWorkerGuard
  rw [Durable.wp_bind, Durable.wp_read]
  split
  swap
  · exact Durable.wp_pure _ |>.mpr hStart
  next hStill =>
    rw [Durable.wp_bind]
    refine Durable.wp_mono (hKept.wp_append ?_ hStart) ?_
      (fun _ _ h => h.1) (fun _ _ h => h.1)
    · intro s ops hI hLines hAbreast hPlan
      refine hLog s _ ops (.inr rfl) hI hAbreast
        (fun _ hSafe => ?_) hPlan
      rw [Disk.events_congr hLines]
      exact allSettled_of_noWorker (hKept.backed d hStart)
        hStill hSafe
    · rintro _ s ⟨hI, _⟩
      exact Durable.wp_pure _ |>.mpr hI

/- Every critical section keeps what its appends keep. -/
theorem Kept.wp_writer
    (hKept : Kept env I)
    (w : Writer)
    (hLog : Logs env I d w)
    (hStart : I d) :
    Durable.wp (w.run env) (fun _ => I) (fun _ => I)
      (fun _ => I) d := by
  cases w with
  | call c =>
      refine hKept.wp_call ?_ hStart
      intro s r ops hAsks hI hAbreast hPlan
      refine hLog s r ops hAsks hI hAbreast
        (fun hCloses hSafe => ?_) hPlan
      exact absurd hCloses (hSafe r _ hAsks)
  | cancelRun clock note =>
      simp only [Writer.run, Durable.wp_bind, Durable.wp_pure]
      exact hKept.wp_cancelRun hLog hStart
  | cancelNode clock id note =>
      simp only [Writer.run, Durable.wp_bind, Durable.wp_pure]
      exact hKept.wp_cancelNode hLog hStart
  | rollUp now view =>
      simp only [Writer.run, Durable.wp_bind, Durable.wp_pure]
      exact hKept.wp_rollUp hLog hStart
  | noWorker now view =>
      simp only [Writer.run, Durable.wp_bind, Durable.wp_pure]
      exact hKept.wp_noWorker hLog hStart

theorem Backed.keeps_call (env : RunEnv) (call : Call) :
    Durable.Keeps (Backed env) (call.run env) := by
  intro s hBacked
  apply (kept_backed env).wp_call ?_ hBacked
  intro s' r ops _ hHere hAbreast hPlan
  exact hHere.log hAbreast.1 hAbreast.2 rfl hPlan

theorem Backed.keeps_writer (env : RunEnv) (w : Writer) :
    Durable.Keeps (Backed env) (w.run env) := by
  intro s hBacked
  apply (kept_backed env).wp_writer w ?_ hBacked
  intro s' r ops _ hHere hAbreast _ hPlan
  exact hHere.log hAbreast.1 hAbreast.2 rfl hPlan

theorem Backed.keeps_event (env : RunEnv) (r : Request) :
    Durable.Keeps (Backed env) (appendAndApplyEvent env r) := by
  intro s hBacked
  have hCall := Backed.keeps_call env (.event r) s hBacked
  simpa only [Call.run, Durable.wp_bind, Durable.wp_pure]
    using hCall

theorem Backed.keeps_idempotent
    (env : RunEnv) (r : KeyedRequest) :
    Durable.Keeps (Backed env)
      (appendAndApplyIdempotent env r) := by
  intro s hBacked
  have hCall := Backed.keeps_call env (.keyed r) s hBacked
  simpa only [Call.run, Durable.wp_bind, Durable.wp_pure]
    using hCall

/- Along every run of writers, the projections back the log. -/
theorem WriterRun.backed (hRun : WriterRun env d) :
    Backed env d := by
  refine Durable.Reach.invariant (I := Backed env)
    (fun _ hBooted => hBooted.backed) ?_ hRun
  intro w s hBacked
  exact Durable.wp_mono (Backed.keeps_writer env w s hBacked)
    (fun _ _ h => h) (fun _ _ h => h) (fun _ _ h _ => h)

end Writers

end Taskfleet
