import Taskfleet.Supervise

/-
  The supervisor's outcome tables.

  A terminal report is classified into one typed outcome,
  which fixes the teardown it authorizes. A live node is
  classified from what its worker told and, only where it
  told nothing, from what was seen of its process.

  Main declarations:
    * `Teardown`, `TerminalOutcome.classify`
    * `LiveVerdict`, `classifyLiveNode`
-/

------------------------------------------------------------
-- Terminal Outcomes
------------------------------------------------------------

namespace Taskfleet

/- What a terminal outcome allows to be torn down. -/
inductive Teardown where
| full
| preserveWork
| sourceRelative
deriving DecidableEq, Repr

inductive TerminalOutcome where
| merged
| blocked
| failed
| cancelled
| plainSuccess
deriving DecidableEq, Repr

def workerExitedNonzeroReason : String :=
  "worker-exited-nonzero"

def workerKilledBySignalReason : String :=
  "worker-killed-by-signal"

/- The reasons of the crash backstop all start like this. -/
def agentDiedReasonPrefix : String := "agent-"

/-
  Whether the supervisor wrote a negative report. The reason
  is looked at only where the report has no origin.
-/
def isSupervisorFailure
    (report : Json)
    (originPresent : Bool)
    (origin : Option ReportOrigin) : Bool :=
  match origin with
  | some .supervisor => true
  | some .agent | some (.runMerge _ _ _) => false
  | none =>
      if originPresent then false
      else
        match report.getStr "reason" with
        | none => false
        | some reason =>
            reason == workerExitedNonzeroReason ||
              reason == workerKilledBySignalReason ||
              reason == noWorkerReason ||
              agentDiedReasonPrefix.toList.isPrefixOf
                reason.toList

namespace TerminalOutcome

/-
  A cancellation comes before everything, then a confirmed
  merge, then the outcome the report names.
-/
def classify (n : Node) : Option TerminalOutcome := do
  let report ← n.lastReport
  let success := (report.get "success").bind Json.asBool
  let cancelled :=
    (report.get "cancelled").bind Json.asBool == some true
  let originPresent := (report.get reportOriginKey).isSome
  let origin := ReportOrigin.fromReport report
  if cancelled then return .cancelled
  else if reportIsConfirmedMerge report then return .merged
  else
    match success with
    | some false =>
        return if isSupervisorFailure report originPresent origin
          then .failed
          else .blocked
    | some true => return .plainSuccess
    | none => return .blocked

def teardown : TerminalOutcome → Teardown
| .merged => .full
| .blocked | .failed => .preserveWork
| .cancelled | .plainSuccess => .sourceRelative

def isExplicitMerge (outcome : TerminalOutcome) : Bool :=
  outcome == .merged

end TerminalOutcome

/- Only a merge may tear everything down. -/
theorem teardown_eq_full {outcome : TerminalOutcome} :
    outcome.teardown = .full ↔ outcome = .merged := by
  cases outcome <;> decide

/- The classifier reads a merge where the report has one. -/
theorem classify_eq_merged {n : Node} :
    TerminalOutcome.classify n = some .merged ↔
      ∃ report, n.lastReport = some report ∧
        reportIsConfirmedMerge report = true := by
  unfold TerminalOutcome.classify
  cases hReport : n.lastReport with
  | none => simp
  | some report =>
      simp only [Option.bind_eq_bind, Option.bind_some,
        Option.some.injEq, exists_eq_left']
      constructor
      · intro hMerged
        split at hMerged
        · cases hMerged
        split at hMerged
        next hConfirmed => exact hConfirmed
        split at hMerged
        · split at hMerged <;> cases hMerged
        · cases hMerged
        · cases hMerged
      · intro hConfirmed
        have hNot :
            ¬ ((report.get "cancelled").bind Json.asBool ==
              some true) = true := by
          rcases cancelled_of_confirmedMerge hConfirmed with
            h | h | h <;> rw [h] <;> decide
        rw [if_neg hNot, if_pos hConfirmed]
        rfl

------------------------------------------------------------
-- Live Nodes
------------------------------------------------------------

namespace WorkerExit

/- Not signalled, and a zero return code. -/
def isClean (exit : WorkerExit) : Bool :=
  exit.signal.isNone && exit.code == some 0

def isFailure (exit : WorkerExit) : Bool :=
  !exit.isClean

end WorkerExit

/- What the watchdog has seen of a worker's process. -/
inductive DeathObservation where
| alive
| deadWithinGrace
| deadGraceElapsed
deriving DecidableEq, Repr

inductive LiveVerdict where
| workerFailed (exit : WorkerExit)
| attentionRequired
| crashBackstopFailed
| deferGrace
| alive
| roundWaiting
deriving DecidableEq, Repr

/- A recorded exit goes before any observation. -/
def classifyLiveNode
    (workerExit : Option WorkerExit)
    (death : DeathObservation) : LiveVerdict :=
  match workerExit with
  | some exit =>
      if exit.isFailure then .workerFailed exit
      else .attentionRequired
  | none =>
      match death with
      | .alive => .alive
      | .deadWithinGrace => .deferGrace
      | .deadGraceElapsed => .crashBackstopFailed

/- A round reported by the current attempt goes before both. -/
def classifyLiveNodeWithRound
    (roundReported : Bool)
    (workerExit : Option WorkerExit)
    (death : DeathObservation) : LiveVerdict :=
  if roundReported then .roundWaiting
  else classifyLiveNode workerExit death

end Taskfleet
