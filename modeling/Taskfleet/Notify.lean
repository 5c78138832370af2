import Taskfleet.Creation
import Taskfleet.Writers

/-
  The notification hooks of a run: what is due when a
  supervisor looks under the run lock, the process it then
  starts, and the marker it records afterwards.

  Main declarations:
    * `Generation`, `Generation.key`, `Generation.Current`
    * `dueFinished`, `dueAwaitingInput`, `dueRoundReported`
    * `due_current`, `due_unmarked`
-/

------------------------------------------------------------
-- Generations
------------------------------------------------------------

namespace Taskfleet

open Fallible

/- What a hook is told of, once each. -/
inductive Generation where
| finished
| awaiting (eventSeq : Nat)
| round (eventSeq : Nat)
deriving DecidableEq, Repr

namespace Generation

def marker : Generation → EventKind
| .finished => .other "run.notified"
| .awaiting _ => .other "run.awaiting_input_notified"
| .round _ => .other "run.round_notified"

def key (env : RunEnv) : Generation → String
| .finished => "supervisor-notify:" ++ env.runId.val
| .awaiting eventSeq =>
    "supervisor-awaiting-input:" ++ env.runId.val ++ ":" ++
      toString eventSeq
| .round eventSeq =>
    "supervisor-round-reported:" ++ env.runId.val ++ ":" ++
      toString eventSeq

/- The projections still have what the hook tells of. -/
def Current (d : Disk) : Generation → Prop
| .finished =>
    ∃ m, d.manifest = some m ∧ m.status.isTerminal = true
| .awaiting eventSeq =>
    (∃ m, d.manifest = some m ∧
      m.status.isTerminal = false) ∧
    ∃ n question, d.nodes.lookup .first = some n ∧
      n.status.isTerminal = false ∧
      n.awaitingInput = some question ∧
      question.eventSeq = eventSeq
| .round eventSeq =>
    ∃ n round, d.nodes.lookup .first = some n ∧
      n.status.isTerminal = false ∧
      n.resident.bind ResidentState.openRound = some round ∧
      round.eventSeq = eventSeq

/- The marker of the generation is in the log. -/
def Marked (env : RunEnv) (g : Generation) (d : Disk) : Prop :=
  ∃ ev ∈ d.events, keyedAs g.marker (g.key env) ev = true

end Generation

def EventKind.isMarker (kind : EventKind) : Bool :=
  kind = .other "run.notified" ∨
    kind = .other "run.awaiting_input_notified" ∨
    kind = .other "run.round_notified"

/- A process `sh -c command`, and what it finds set. -/
structure Hook where
  command : String
  vars : List (String × String)
deriving DecidableEq, Repr

/- What is due: the process, and the marker to record. -/
structure Notice where
  generation : Generation
  hook : Hook
  data : Json

def Notice.request
    (env : RunEnv) (now : Time) (notice : Notice) :
    Request where
  now := now
  kind := notice.generation.marker
  nodeId := none
  key := some (notice.generation.key env)
  data := notice.data

/- What a supervisor knows besides the state of the run. -/
structure Notifier where
  env : RunEnv
  command : Option String
  kind : Kind
  title : String
  grace : Time
  itemsText : List Json → String

------------------------------------------------------------
-- What Is Due
------------------------------------------------------------

def summaryMaxChars : Nat := 4096

def titleMaxChars : Nat := 512

/- No null character, and a bounded length. -/
def envSafe (s : String) (maxChars : Nat) : String :=
  let filtered :=
    s.toList.filter (fun c => c ≠ Char.ofNat 0)
  if maxChars < filtered.length then
    String.ofList
      (filtered.take maxChars ++ [Char.ofNat 8230])
  else String.ofList filtered

/- Settled, to be tried again, or to be fired now. -/
inductive Due where
| settled
| retry
| fire (notice : Notice)

/- Fire unless the marker is there or cannot be looked for. -/
def Notice.unlessMarked
    (env : RunEnv) (d : Disk) (notice : Notice) : Due :=
  match findPriorWithKey notice.generation.marker
    (notice.generation.key env) d.lines with
  | .ok (some _) => .settled
  | .ok none => .fire notice
  | .error _ => .retry

def readSummary (env : RunEnv) (d : Disk) : Option String :=
  ((readNodeOpt env d .first).toOption.join.bind
    Node.lastReport).bind (fun report => report.getStr "summary")

/-
  The end of a run. Its status was read before the lock was
  taken, and so was the summary, in the state `before`.
-/
def dueFinished
    (who : Notifier) (status : Status) (before d : Disk) :
    Due :=
  match who.command with
  | none => .settled
  | some command =>
      if status.isTerminal = false then .settled
      else
        Notice.unlessMarked who.env d {
          generation := .finished
          hook := {
            command := command
            vars :=
              [("TASKFLEET_RUN_ID", who.env.runId.val),
                ("TASKFLEET_STATUS", status.name),
                ("TASKFLEET_SUMMARY",
                  envSafe
                    ((readSummary who.env before).getD "")
                    summaryMaxChars),
                ("TASKFLEET_RUN_KIND", kindKebab who.kind),
                ("TASKFLEET_RUN_TITLE",
                  envSafe who.title titleMaxChars)] }
          data := .obj [("status", .str status.name)] }

/- Open for longer than the grace. -/
def isEscalated
    (who : Notifier) (openedAt now : Time) : Bool :=
  who.grace < now - openedAt

def awaitingHook
    (who : Notifier) (command : String)
    (fresh : AwaitingInput) : Hook where
  command := command
  vars :=
    [("TASKFLEET_RUN_ID", who.env.runId.val),
      ("TASKFLEET_STATUS", "awaiting-input"),
      ("TASKFLEET_SUMMARY",
        envSafe
          ((fresh.discussionItems.head?.bind
            (fun item => item.getStr "topic")).getD
              "human decision required")
          summaryMaxChars),
      ("TASKFLEET_RUN_KIND", kindKebab who.kind),
      ("TASKFLEET_RUN_TITLE", envSafe who.title titleMaxChars),
      ("TASKFLEET_AWAITING_INPUT", "1"),
      ("TASKFLEET_AWAITING_INPUT_JSON",
        who.itemsText fresh.discussionItems)]

/- The open question of a worker that goes on. -/
def freshQuestion (env : RunEnv) (d : Disk) :
    Except Error (Option AwaitingInput) := do
  match ← readManifestOpt env d with
  | none => return none
  | some m =>
      if m.status.isTerminal = true then return none
      match ← readNodeOpt env d .first with
      | none => return none
      | some n =>
          if n.status.isTerminal = false ∧
              n.workerExit = none then
            return n.awaitingInput
          else return none

/- A question that is as open as it was when it was found. -/
def dueAwaitingInput
    (who : Notifier) (candidate : AwaitingInput)
    (now again : Time) (d : Disk) : Due :=
  match who.command with
  | none => .settled
  | some command =>
      if isEscalated who candidate.openedAt now = false then
        .retry
      else
        match freshQuestion who.env d with
        | .error _ => .retry
        | .ok none => .settled
        | .ok (some fresh) =>
            if fresh.eventSeq ≠ candidate.eventSeq then .settled
            else if isEscalated who fresh.openedAt again = false
              then .settled
            else
              Notice.unlessMarked who.env d {
                generation := .awaiting fresh.eventSeq
                hook := awaitingHook who command fresh
                data := .obj
                  [("event_seq", .int fresh.eventSeq)] }

def roundHook
    (who : Notifier) (command : String)
    (round : RoundReport) : Hook where
  command := command
  vars :=
    [("TASKFLEET_RUN_ID", who.env.runId.val),
      ("TASKFLEET_STATUS", "round-reported"),
      ("TASKFLEET_SUMMARY",
        envSafe round.summary summaryMaxChars),
      ("TASKFLEET_RUN_KIND", kindKebab who.kind),
      ("TASKFLEET_RUN_TITLE", envSafe who.title titleMaxChars),
      ("TASKFLEET_ROUND", toString round.round)]

/- The open round of a worker that goes on. -/
def freshRound (env : RunEnv) (d : Disk) :
    Except Error (Option RoundReport) := do
  match ← readNodeOpt env d .first with
  | none => return none
  | some n =>
      if n.status.isTerminal = true then return none
      else return n.resident.bind ResidentState.openRound

/- A round that is open still. -/
def dueRoundReported
    (who : Notifier) (roundSeq : Nat) (d : Disk) : Due :=
  match who.command with
  | none => .settled
  | some command =>
      match freshRound who.env d with
      | .error _ => .retry
      | .ok none => .settled
      | .ok (some round) =>
          if round.eventSeq ≠ roundSeq then .settled
          else
            Notice.unlessMarked who.env d {
              generation := .round roundSeq
              hook := roundHook who command round
              data := .obj
                [("event_seq", .int roundSeq),
                  ("round", .int round.round)] }

/- What a tick asks for, with what it read before the lock. -/
inductive NotifyCall where
| finished (status : Status) (before : Disk)
| awaiting (candidate : AwaitingInput) (now again : Time)
| round (roundSeq : Nat)

def NotifyCall.due
    (who : Notifier) (d : Disk) : NotifyCall → Due
| .finished status before => dueFinished who status before d
| .awaiting candidate now again =>
    dueAwaitingInput who candidate now again d
| .round roundSeq => dueRoundReported who roundSeq d

------------------------------------------------------------
-- What Is Due Is Current
------------------------------------------------------------

section Due

variable {env : RunEnv} {who : Notifier} {d : Disk}
variable {notice : Notice}

/- The scan has read every line, and found no marker. -/
theorem not_marked_of_scan
    {kind : EventKind} {key : String} {lines : List LogLine}
    (hScan : findPriorWithKey kind key lines = .ok none) :
    ∀ ev ∈ lines.filterMap LogLine.event?,
      keyedAs kind key ev = false := by
  induction lines with
  | nil => simp
  | cons line rest ih =>
      cases line with
      | event ev =>
          rw [findPriorWithKey] at hScan
          split at hScan
          next => cases hScan
          next hOther =>
            intro e hMem
            rcases List.mem_cons.mp hMem with rfl | hMem
            · rw [← keyedAs_iff] at hOther
              simpa using hOther
            · exact ih hScan e hMem
      | header => exact ih (findPriorWithKey_header hScan)
      | blank => exact ih hScan
      | space => cases hScan
      | junk => cases hScan

theorem Notice.unlessMarked_fire
    {notice' : Notice}
    (hFire : notice.unlessMarked env d = .fire notice') :
    notice' = notice ∧ ¬ notice.generation.Marked env d := by
  unfold Notice.unlessMarked at hFire
  split at hFire
  next => cases hFire
  next hScan =>
    cases hFire
    apply And.intro rfl
    rintro ⟨ev, hMem, hKeyed⟩
    rw [not_marked_of_scan hScan ev hMem] at hKeyed
    cases hKeyed
  next => cases hFire

theorem freshQuestion_current
    {question : AwaitingInput}
    (hFresh : freshQuestion env d = .ok (some question)) :
    (Generation.awaiting question.eventSeq).Current d := by
  unfold freshQuestion at hFresh
  rw [bind_eq_ok] at hFresh
  rcases hFresh with ⟨found, hManifest, hFresh⟩
  cases found with
  | none => cases hFresh
  | some m =>
      dsimp only at hFresh
      split at hFresh
      next => cases hFresh
      next hOpen =>
        rw [bind_eq_ok] at hFresh
        rcases hFresh with ⟨found, hNode, hFresh⟩
        cases found with
        | none => cases hFresh
        | some n =>
            dsimp only at hFresh
            split at hFresh
            next hGoes =>
              refine
                ⟨⟨m, (readManifestOpt_eq_some.mp hManifest).1,
                  by simpa using hOpen⟩,
                  n, question, ?_, hGoes.1, ?_, rfl⟩
              · exact (readNodeOpt_eq_some.mp hNode).1
              · simpa using hFresh
            next => cases hFresh

theorem freshRound_current
    {round : RoundReport}
    (hFresh : freshRound env d = .ok (some round)) :
    (Generation.round round.eventSeq).Current d := by
  unfold freshRound at hFresh
  rw [bind_eq_ok] at hFresh
  rcases hFresh with ⟨found, hNode, hFresh⟩
  cases found with
  | none => cases hFresh
  | some n =>
      dsimp only at hFresh
      split at hFresh
      next => cases hFresh
      next hGoes =>
        refine ⟨n, round, (readNodeOpt_eq_some.mp hNode).1,
          by simpa using hGoes, ?_, rfl⟩
        simpa using hFresh

/-
  What may be due: the end of a run, by a status that was
  read before, or something the projections show.
-/
theorem due_offered
    {call : NotifyCall}
    (hDue : call.due who d = .fire notice) :
    ∃ offered : Notice,
      offered.unlessMarked who.env d = .fire notice ∧
      (offered.generation.Current d ∨
        ∃ status before, call = .finished status before ∧
          status.isTerminal = true ∧
          offered.generation = .finished) := by
  cases call with
  | finished status before =>
      simp only [NotifyCall.due, dueFinished] at hDue
      split at hDue
      next => cases hDue
      next command =>
        split at hDue
        next => cases hDue
        next hTerminal =>
          exact ⟨_, hDue, .inr ⟨status, before, rfl,
            by simpa using hTerminal, rfl⟩⟩
  | awaiting candidate now again =>
      simp only [NotifyCall.due, dueAwaitingInput] at hDue
      split at hDue
      next => cases hDue
      next command =>
        split at hDue
        next => cases hDue
        next =>
          split at hDue
          next => cases hDue
          next => cases hDue
          next fresh hFresh =>
            split at hDue
            next => cases hDue
            next =>
              split at hDue
              next => cases hDue
              next =>
                exact ⟨_, hDue,
                  .inl (freshQuestion_current hFresh)⟩
  | round roundSeq =>
      simp only [NotifyCall.due, dueRoundReported] at hDue
      split at hDue
      next => cases hDue
      next command =>
        split at hDue
        next => cases hDue
        next => cases hDue
        next round hFresh =>
          split at hDue
          next => cases hDue
          next hSame =>
            have hCurrent := freshRound_current hFresh
            rw [not_not.mp hSame] at hCurrent
            exact ⟨_, hDue, .inl hCurrent⟩

/- It is current, where a status read as terminal still is. -/
theorem due_current
    {call : NotifyCall}
    (hTold : ∀ status before, call = .finished status before →
      status.isTerminal = true →
      Generation.finished.Current d)
    (hDue : call.due who d = .fire notice) :
    notice.generation.Current d := by
  rcases due_offered hDue with ⟨offered, hFire, hWhy⟩
  rw [(Notice.unlessMarked_fire hFire).1]
  rcases hWhy with hCurrent | ⟨status, before, hCall, hEnd, hIs⟩
  · exact hCurrent
  · rw [hIs]
    exact hTold status before hCall hEnd

theorem due_unmarked
    {call : NotifyCall}
    (hDue : call.due who d = .fire notice) :
    ¬ notice.generation.Marked who.env d := by
  rcases due_offered hDue with ⟨offered, hFire, _⟩
  rcases Notice.unlessMarked_fire hFire with ⟨rfl, hFree⟩
  exact hFree

end Due

------------------------------------------------------------
-- Markers
------------------------------------------------------------

section Markers

variable {env : RunEnv} {g g' : Generation}

theorem toString_injective
    {m n : Nat} (hSame : toString m = toString n) : m = n := by
  have hDigits : m.repr.toList = n.repr.toList :=
    congrArg String.toList hSame
  rw [Nat.toList_repr, Nat.toList_repr] at hDigits
  have hBack := congrArg
    (fun digits => Nat.ofDigitChars 10 digits 0) hDigits
  simpa using hBack

/- Two strings with one start have one rest. -/
theorem append_left_cancel
    {start s s' : String} (hSame : start ++ s = start ++ s') :
    s = s' := by
  have hLists := congrArg String.toList hSame
  rw [String.toList_append, String.toList_append] at hLists
  exact String.toList_injective
    (List.append_cancel_left hLists)

/- A marker is that of one generation. -/
theorem Generation.key_injective
    (hMarker : g.marker = g'.marker)
    (hKey : g.key env = g'.key env) : g = g' := by
  cases g with
  | finished =>
      cases g' with
      | finished => rfl
      | awaiting eventSeq => simp [marker] at hMarker
      | round eventSeq => simp [marker] at hMarker
  | awaiting eventSeq =>
      cases g' with
      | finished => simp [marker] at hMarker
      | awaiting eventSeq' =>
          rw [toString_injective (append_left_cancel hKey)]
      | round eventSeq' => simp [marker] at hMarker
  | round eventSeq =>
      cases g' with
      | finished => simp [marker] at hMarker
      | awaiting eventSeq' => simp [marker] at hMarker
      | round eventSeq' =>
          rw [toString_injective (append_left_cancel hKey)]

theorem Generation.enduring_marked
    (env : RunEnv) (g : Generation) :
    Enduring env (g.Marked env) where
  logged := by
    rintro s s' ⟨ev, hMem, hKeyed⟩ _ _ hEvents
    exact ⟨ev, hEvents hMem, hKeyed⟩
  folded := by
    intro s ev ops j hHere _
    unfold Generation.Marked
    rwa [Disk.applyOps_events]
  advanced := by
    intro s seq hHere
    unfold Generation.Marked
    rwa [Disk.advance_events]

end Markers

end Taskfleet
