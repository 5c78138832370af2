import Taskfleet.Agreement
import Taskfleet.Cancel

/-
  What the cancel ledger says about a log of events: the
  nodes and statuses of the fold, and the first event under
  each cancel key.

  Main declarations:
    * `keyedAs`, `keyedCount`
    * `readCancelLedger_events`
    * `step_settled`, `step_absent`
-/

------------------------------------------------------------
-- Keyed Events
------------------------------------------------------------

namespace Taskfleet

open Fallible

/- An event of a kind under an idempotency key. -/
def keyedAs (kind : EventKind) (key : String) (ev : Event) :
    Bool :=
  ev.kind == kind && ev.idempotencyKey == some key

theorem keyedAs_iff
    {kind : EventKind} {key : String} {ev : Event} :
    keyedAs kind key ev = true ↔
      ev.kind = kind ∧ ev.idempotencyKey = some key := by
  simp [keyedAs]

/- The answer that a prior event is. -/
def Event.asPrior (ev : Event) : PriorEvent :=
  ⟨ev.seq, ev.nodeId, ev.data⟩

/- The lookup over a log of events. -/
theorem findPriorWithKey_events
    {kind : EventKind} {key : String} (events : List Event) :
    findPriorWithKey kind key (events.map .event) =
      .ok ((events.find? (keyedAs kind key)).map
        Event.asPrior) := by
  induction events with
  | nil => rfl
  | cons ev rest ih =>
      rw [List.map_cons, findPriorWithKey]
      by_cases hHere : keyedAs kind key ev = true
      · rw [if_pos (keyedAs_iff.mp hHere)]
        simp [hHere, Event.asPrior]
      · rw [if_neg (fun h => hHere (keyedAs_iff.mpr h)), ih]
        simp [hHere]

/- How many events of a log are of a kind and a key. -/
def keyedCount
    (kind : EventKind) (key : String) (events : List Event) :
    Nat :=
  events.countP (keyedAs kind key)

theorem keyedCount_concat
    (kind : EventKind) (key : String)
    (events : List Event) (ev : Event) :
    keyedCount kind key (events ++ [ev]) =
      keyedCount kind key events +
        if keyedAs kind key ev then 1 else 0 := by
  unfold keyedCount
  rw [List.countP_append, List.countP_singleton]

theorem keyedCount_eq_zero
    {kind : EventKind} {key : String} {events : List Event} :
    keyedCount kind key events = 0 ↔
      events.find? (keyedAs kind key) = none := by
  unfold keyedCount
  rw [List.countP_eq_zero, List.find?_eq_none]

/- Once a key is in a log it stays. -/
theorem find_keyed_append
    {kind : EventKind} {key : String}
    {events added : List Event}
    (hKeyed : events.find? (keyedAs kind key) ≠ none) :
    (events ++ added).find? (keyedAs kind key) ≠ none := by
  rw [List.find?_append]
  intro hNone
  rw [Option.or_eq_none_iff] at hNone
  exact hKeyed hNone.1

theorem find_keyed_concat
    {kind : EventKind} {key : String} {events : List Event}
    {ev : Event}
    (hKind : ev.kind = kind)
    (hKey : ev.idempotencyKey = some key) :
    (events ++ [ev]).find? (keyedAs kind key) ≠ none := by
  have hHere := keyedAs_iff.mpr ⟨hKind, hKey⟩
  intro hNone
  rw [List.find?_eq_none] at hNone
  exact hNone ev (by simp) hHere

section Keys

variable {env : RunEnv}

theorem nodeCancelKey_injective
    {id id' : NodeId}
    (hSame : nodeCancelKey env id = nodeCancelKey env id') :
    id = id' := by
  have hLists := congrArg String.toList hSame
  simp only [nodeCancelKey, String.toList_append] at hLists
  have hVal := List.append_cancel_left hLists
  rcases id with ⟨v, _⟩
  rcases id' with ⟨v', _⟩
  have hEq : v = v' := String.toList_injective hVal
  subst hEq
  rfl

theorem nodeCancelKey_inSpace (id : NodeId) :
    inCancelKeySpace env (nodeCancelKey env id) = true := by
  unfold inCancelKeySpace
  rw [List.isPrefixOf_iff_prefix]
  refine ⟨("node:" ++ id.val).toList, ?_⟩
  simp [cancelKeySpace, nodeCancelKey, String.toList_append]

theorem runStatusCancelKey_inSpace :
    inCancelKeySpace env (runStatusCancelKey env) = true := by
  unfold inCancelKeySpace
  rw [List.isPrefixOf_iff_prefix]
  refine ⟨"run-status".toList, ?_⟩
  simp [cancelKeySpace, runStatusCancelKey,
    String.toList_append]

end Keys

------------------------------------------------------------
-- The Ledger of a Log
------------------------------------------------------------

section Ledger

variable {env : RunEnv} {events : List Event}

/- What was captured is the first event of each cancel key. -/
structure LedgerAcc.Reads
    (env : RunEnv)
    (events : List Event)
    (ledger : LedgerAcc) : Prop where
  acc : ledger.acc = logAcc events
  skimmed : ∀ ev ∈ events,
    ∃ p, CancelProbeData.decode ev.data = some p
  prior : ∀ kind key, inCancelKeySpace env key = true →
    ledger.priorCancel.lookup (kind, key) =
      events.find? (keyedAs kind key)

theorem LedgerAcc.lookup_capture
    (ledger : LedgerAcc)
    (kind kind' : EventKind)
    (key key' : String)
    (ev : Event) :
    (ledger.capture kind key ev).lookup (kind', key') =
      (ledger.priorCancel.lookup (kind', key')).or
        (if kind' = kind ∧ key' = key then some ev
          else none) := by
  unfold LedgerAcc.capture
  by_cases hHere : kind' = kind ∧ key' = key
  · rcases hHere with ⟨rfl, rfl⟩
    rw [if_pos ⟨rfl, rfl⟩]
    cases hFound :
        ledger.priorCancel.lookup (kind', key') with
    | some e => simp [hFound]
    | none => simp [hFound, List.lookup_append]
  · rw [if_neg hHere, Option.or_none]
    split
    · rfl
    · rw [List.lookup_append, List.lookup_cons]
      have hNe : ((kind', key') == (kind, key)) = false := by
        simpa using fun hKind hKey => hHere ⟨hKind, hKey⟩
      rw [hNe]
      simp

theorem LedgerAcc.Reads.visit
    {ledger : LedgerAcc} {ev : Event} {probe : CancelProbe}
    {next : LedgerAcc}
    (hReads : ledger.Reads env events)
    (hProbe : CancelProbe.decode ev = some probe)
    (hVisit : ledger.visit env probe ev = .ok next) :
    next.Reads env (events ++ [ev]) := by
  cases hVisit
  have hStep : (logAcc events).step ev =
      (logAcc events).observe probe := by
    unfold NodeStatusAcc.step
    rw [hProbe]
  simp only [CancelProbe.decode, Option.bind_eq_bind,
    Option.pure_def, Option.bind_eq_some_iff,
    Option.some.injEq] at hProbe
  rcases hProbe with ⟨p, hSkim, rfl⟩
  refine ⟨?_, ?_, ?_⟩
  · rw [logAcc_concat, hStep, hReads.acc]
  · intro e hMem
    rw [List.mem_append, List.mem_singleton] at hMem
    rcases hMem with hOld | rfl
    · exact hReads.skimmed e hOld
    · exact ⟨p, hSkim⟩
  · intro kind key hSpace
    rw [List.find?_append, List.find?_singleton,
      ← hReads.prior kind key hSpace]
    dsimp only
    cases hKey : ev.idempotencyKey with
    | none => simp [keyedAs, hKey]
    | some found =>
        by_cases hIn : inCancelKeySpace env found = true
        · rw [Option.filter_some_pos hIn]
          dsimp only
          rw [LedgerAcc.lookup_capture]
          congr 1
          have hIff : keyedAs kind key ev = true ↔
              kind = ev.kind ∧ key = found := by
            rw [keyedAs_iff, hKey, Option.some.injEq,
              eq_comm (a := ev.kind), eq_comm (a := found)]
          by_cases hHere : kind = ev.kind ∧ key = found
          · rw [if_pos hHere, if_pos (hIff.mpr hHere)]
          · rw [if_neg hHere, if_neg (fun h => hHere (hIff.mp h))]
        · rw [Option.filter_some_neg (by simpa using hIn)]
          have hOther : keyedAs kind key ev = false := by
            by_contra hKeyed
            rw [Bool.not_eq_false, keyedAs_iff, hKey,
              Option.some.injEq] at hKeyed
            exact hIn (hKeyed.2 ▸ hSpace)
          simp [hOther]

theorem ledgerFold_reads
    {ledger : LedgerAcc}
    (hFold :
      forEachEventProbe CancelProbe.decode
          (LedgerAcc.visit env) LedgerAcc.empty
          (events.map .event) = .ok ledger) :
    ledger.Reads env events := by
  induction events using List.reverseRecOn generalizing ledger
    with
  | nil =>
      cases hFold
      exact ⟨rfl, by simp, fun _ _ _ => rfl⟩
  | append_singleton events ev ih =>
      rw [List.map_append] at hFold
      change
        forEachEventProbe _ _ _
          (events.map .event ++ [.event ev]) = _ at hFold
      rw [forEachEventProbe_concat, bind_eq_ok] at hFold
      rcases hFold with ⟨before, hRest, hLast⟩
      cases hProbe : CancelProbe.decode ev with
      | none =>
          rw [hProbe] at hLast
          cases hLast
      | some probe =>
          rw [hProbe] at hLast
          exact (ih hRest).visit hProbe hLast

/- The ledger of a log of events, whenever it can be read. -/
structure CancelLedger.Reads
    (env : RunEnv)
    (events : List Event)
    (ledger : CancelLedger) : Prop where
  nodeStatus : ledger.nodeStatus = (logAcc events).finish
  skimmed : ∀ ev ∈ events,
    ∃ p, CancelProbeData.decode ev.data = some p
  prior : ∀ kind key, inCancelKeySpace env key = true →
    ledger.prior kind key = events.find? (keyedAs kind key)

theorem readCancelLedger_events
    {ledger : CancelLedger}
    (hRead :
      readCancelLedger env (events.map .event) = .ok ledger) :
    ledger.Reads env events := by
  unfold readCancelLedger at hRead
  simp only [bind_eq_ok, pure_eq, Except.ok.injEq] at hRead
  rcases hRead with ⟨acc, hFold, rfl⟩
  have hReads := ledgerFold_reads hFold
  refine ⟨?_, hReads.skimmed, hReads.prior⟩
  dsimp only
  rw [hReads.acc]

end Ledger

------------------------------------------------------------
-- How the Fold Moves On
------------------------------------------------------------

section Fold

variable {acc : NodeStatusAcc} {ev : Event} {id : NodeId}

/- One line changes the status of its own node, if any. -/
inductive StatusStep
    (acc acc' : NodeStatusAcc)
    (kind : EventKind)
    (nodeId : Option NodeId)
    (id : NodeId) : Prop where
| kept (hSame : acc'.status id = acc.status id)
| created
    (hNode : nodeId = some id)
    (hKind : kind = .nodeCreated)
    (hAbsent : acc.status id = none)
| moved (cur s : Status)
    (hNode : nodeId = some id)
    (hOld : acc.status id = some cur)
    (hNew : acc'.status id = some s)
    (hFrozen : cur.isTerminal = true → s = .done)

theorem setStatus_status (i : NodeId) (s : Status) :
    (acc.setStatus i s).status id =
      if id = i then some s else acc.status id := by
  simp only [NodeStatusAcc.setStatus, Function.update_apply]

theorem statusStep_set
    {acc' : NodeStatusAcc} {kind : EventKind}
    {i : NodeId} {cur s : Status}
    (hOld : acc.status i = some cur)
    (hFrozen : cur.isTerminal = true → s = .done)
    (hNew : ∀ id, acc'.status id =
      if id = i then some s else acc.status id) :
    StatusStep acc acc' kind (some i) id := by
  by_cases hHere : id = i
  · subst hHere
    exact .moved cur s rfl hOld (by rw [hNew, if_pos rfl])
      hFrozen
  · exact .kept (by rw [hNew, if_neg hHere])

theorem observe_statusStep
    (acc : NodeStatusAcc) (probe : CancelProbe) (id : NodeId) :
    StatusStep acc (acc.observe probe) probe.kind probe.nodeId
      id := by
  unfold NodeStatusAcc.observe
  cases hNode : probe.nodeId with
  | none => exact .kept rfl
  | some i => ?_
  dsimp only
  cases hKind : probe.kind <;> dsimp only <;>
    try exact .kept rfl
  case nodeCreated =>
    unfold NodeStatusAcc.observeCreated
    cases hStatus : acc.status i with
    | some s => exact .kept rfl
    | none =>
        by_cases hHere : id = i
        · subst hHere
          exact .created rfl rfl hStatus
        · refine .kept ?_
          rw [setStatus_status, if_neg hHere]
  case nodeStatus =>
    unfold NodeStatusAcc.observeStatus
    cases hStatus : acc.status i with
    | none => exact .kept rfl
    | some cur =>
        dsimp only
        split
        · exact .kept rfl
        next hLive =>
        split
        · exact statusStep_set hStatus
            (fun hTerminal => absurd hTerminal hLive)
            (fun _ => setStatus_status _ _)
        · exact .kept rfl
  case nodeReport =>
    unfold NodeStatusAcc.observeReport
    cases hStatus : acc.status i with
    | none => exact .kept rfl
    | some cur =>
        dsimp only
        split
        · split
          · exact statusStep_set hStatus (fun _ => rfl)
              (fun _ => setStatus_status _ _)
          · exact .kept rfl
        next hLive =>
        split
        · exact .kept rfl
        split
        · exact statusStep_set hStatus
            (fun hTerminal => absurd hTerminal hLive)
            (fun _ => setStatus_status _ _)
        · exact statusStep_set hStatus
            (fun hTerminal => absurd hTerminal hLive)
            (fun _ => setStatus_status _ _)

theorem step_statusStep
    (acc : NodeStatusAcc) (ev : Event) (id : NodeId) :
    StatusStep acc (acc.step ev) ev.kind ev.nodeId id := by
  unfold NodeStatusAcc.step
  cases hProbe : CancelProbe.decode ev with
  | none => exact .kept rfl
  | some probe =>
      have hStep := observe_statusStep acc probe id
      simp only [CancelProbe.decode, Option.bind_eq_bind,
        Option.pure_def, Option.bind_eq_some_iff,
        Option.some.injEq] at hProbe
      rcases hProbe with ⟨p, _, rfl⟩
      exact hStep

/- The log has an outcome for the node. -/
def NodeStatusAcc.Settles
    (acc : NodeStatusAcc) (id : NodeId) : Prop :=
  ∃ s, acc.status id = some s ∧ s.isTerminal = true

/- An outcome is never taken back. -/
theorem step_settled
    (hSettled : acc.Settles id) : (acc.step ev).Settles id := by
  rcases hSettled with ⟨cur, hStatus, hTerminal⟩
  cases step_statusStep acc ev id with
  | kept hSame => exact ⟨cur, hSame.trans hStatus, hTerminal⟩
  | created _ _ hAbsent =>
      rw [hStatus] at hAbsent
      cases hAbsent
  | moved cur' s _ hOld hNew hFrozen =>
      rw [hStatus, Option.some.injEq] at hOld
      have hDone := hFrozen (hOld ▸ hTerminal)
      exact ⟨s, hNew, by rw [hDone]; rfl⟩

theorem logAcc_settled
    {earlier later : List Event}
    (hSettled : (logAcc earlier).Settles id) :
    (logAcc (earlier ++ later)).Settles id := by
  induction later using List.reverseRecOn with
  | nil => simpa using hSettled
  | append_singleton later ev ih =>
      rw [← List.append_assoc, logAcc_concat]
      exact step_settled ih

/- Only a creation brings a node into the fold. -/
theorem step_absent
    (hKind : ev.kind ≠ .nodeCreated)
    (hAbsent : acc.status id = none) :
    (acc.step ev).status id = none := by
  cases step_statusStep acc ev id with
  | kept hSame => exact hSame.trans hAbsent
  | created _ hCreated => exact absurd hCreated hKind
  | moved _ _ _ hOld =>
      rw [hAbsent] at hOld
      cases hOld

theorem step_other
    (hOther : ev.nodeId ≠ some id) :
    (acc.step ev).status id = acc.status id := by
  cases step_statusStep acc ev id with
  | kept hSame => exact hSame
  | created hNode => exact absurd hNode hOther
  | moved _ _ hNode => exact absurd hNode hOther

theorem settles_iff_verdict :
    acc.Settles id ↔ ∃ s, acc.verdict id = .settled s := by
  constructor
  · rintro ⟨s, hStatus, hTerminal⟩
    exact ⟨s, (accVerdict_of_status hStatus).trans
      (Status.verdict_settled hTerminal)⟩
  · rintro ⟨s, hVerdict⟩
    cases hStatus : acc.status id with
    | none =>
        rw [accVerdict_of_none hStatus] at hVerdict
        cases hVerdict
    | some cur =>
        rw [accVerdict_of_status hStatus] at hVerdict
        refine ⟨cur, hStatus, ?_⟩
        by_contra hLive
        rw [Status.verdict_live (by simpa using hLive)]
          at hVerdict
        cases hVerdict

/- The entries of the ledger are the statuses of the fold. -/
theorem mem_finish
    {s : Status} (hTidy : Tidy acc) :
    (id, s) ∈ acc.finish ↔ acc.status id = some s := by
  unfold NodeStatusAcc.finish
  rw [List.mem_map]
  constructor
  · rintro ⟨fact, hMem, hPair⟩
    cases hPair
    rcases mem_finishFacts.mp hMem with ⟨hOrder, hStatus, _⟩
    rcases Option.ne_none_iff_exists'.mp
      ((hTidy.mem _).mp hOrder) with ⟨s, hSome⟩
    rw [hStatus, hSome]
    rfl
  · intro hStatus
    refine ⟨⟨id, s, acc.confirmedMergeSeq id⟩, ?_, rfl⟩
    rw [mem_finishFacts]
    refine ⟨(hTidy.mem id).mpr (by simp [hStatus]), ?_, rfl⟩
    simp [hStatus]

theorem finish_nodup (hTidy : Tidy acc) :
    (acc.finish.map Prod.fst).Nodup := by
  have hIds :
      acc.finish.map Prod.fst =
        acc.order.insertionSort
          (fun a b => a.number ≤ b.number) := by
    simp [NodeStatusAcc.finish, NodeStatusAcc.finishFacts,
      Function.comp_def]
  rw [hIds]
  exact (List.perm_insertionSort _ _).nodup_iff.mpr hTidy.nodup

/- A node once in the fold stays in it. -/
theorem step_present
    (hThere : acc.status id ≠ none) :
    (acc.step ev).status id ≠ none := by
  cases step_statusStep acc ev id with
  | kept hSame => rwa [hSame]
  | created _ _ hAbsent => exact absurd hAbsent hThere
  | moved _ _ _ _ hNew => simp [hNew]

theorem created_present
    {events : List Event}
    (hSkimmed : ∀ ev ∈ events,
      ∃ p, CancelProbeData.decode ev.data = some p)
    (hMem : ev ∈ events)
    (hKind : ev.kind = .nodeCreated)
    (hNode : ev.nodeId = some id) :
    (logAcc events).status id ≠ none := by
  induction events using List.reverseRecOn with
  | nil => cases hMem
  | append_singleton events e ih =>
      rw [logAcc_concat]
      rw [List.mem_append, List.mem_singleton] at hMem
      rcases hMem with hEarlier | rfl
      · exact step_present
          (ih (fun e hIn => hSkimmed e (by simp [hIn])) hEarlier)
      · rcases hSkimmed ev (by simp) with ⟨p, hSkim⟩
        rw [step_of_skimmed hSkim]
        unfold NodeStatusAcc.observe
        rw [hNode, hKind]
        dsimp only
        unfold NodeStatusAcc.observeCreated
        split
        next hSome => simp [hSome]
        · rw [setStatus_status, if_pos rfl]
          simp

/- A report that can be read settles the node it is on. -/
theorem step_reported
    {s : Status}
    (hKind : ev.kind = .nodeReport)
    (hNode : ev.nodeId = some id)
    (hRead : ev.reportTerminalStatus = .ok s)
    (hThere : acc.status id ≠ none) :
    (acc.step ev).Settles id := by
  rcases Option.ne_none_iff_exists'.mp hThere with
    ⟨cur, hStatus⟩
  cases hTerminal : cur.isTerminal with
  | true => exact step_settled ⟨cur, hStatus, hTerminal⟩
  | false =>
      rcases object_of_reportTerminalStatus hRead with
        ⟨kvs, hData⟩
      have hSkim :
          CancelProbeData.decode (.obj kvs) = some _ :=
        decode_object
      rw [← hData] at hSkim
      have hOutcome := reportTerminalStatus_skim hRead hSkim
      refine ⟨s, ?_, reportTerminalStatus_isTerminal ev s hRead⟩
      rw [step_of_skimmed hSkim]
      unfold NodeStatusAcc.observe
      rw [hNode, hKind]
      dsimp only
      unfold NodeStatusAcc.observeReport
      rw [hStatus]
      dsimp only
      rw [if_neg (by simp [hTerminal]), hOutcome]
      dsimp only
      split <;> exact (setStatus_status _ _).trans (if_pos rfl)

theorem cancelReport_status
    {reason summary : String}
    (hData : ev.data = cancelReport reason summary) :
    ev.reportTerminalStatus = .ok .cancelled := by
  simp [Event.reportTerminalStatus, Event.optionalBool, hData,
    cancelReport, Json.get, List.lookup_cons]

/- The log has an outcome for every node it created. -/
def AllSettled (events : List Event) : Prop :=
  ∀ ev ∈ events, ev.kind = .nodeCreated →
    ∀ id, ev.nodeId = some id → (logAcc events).Settles id

theorem allSettled_of_statuses
    {events : List Event}
    (hSkimmed : ∀ ev ∈ events,
      ∃ p, CancelProbeData.decode ev.data = some p)
    (hAll : ∀ id s, (logAcc events).status id = some s →
      s.isTerminal = true) :
    AllSettled events := by
  intro ev hMem hKind id hNode
  rcases Option.ne_none_iff_exists'.mp
    (created_present hSkimmed hMem hKind hNode) with
    ⟨s, hStatus⟩
  exact ⟨s, hStatus, hAll id s hStatus⟩

end Fold

end Taskfleet
