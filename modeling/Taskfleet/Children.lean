import Taskfleet.Lasting
import Taskfleet.Reducer.Cursors
import Taskfleet.Tailing

/-
  A parent supervisor and the child runs it follows: the
  consumption of a child's reports, the loop over the events
  of a child's log, and the restarts in between.

  The supervisor keeps its cursors in memory and saves them
  to its state file once per tick. The cursor of a report is
  also recorded on the parent's node, by an event in the
  parent's own log.

  Main declarations:
    * `SupervisorState`, `ChildTracking`, `Supervisor`
    * `processNodeReport`, `handleEvent`, `allWorkDone`
    * `Parent`, `ParentAct`, `Fostered`
-/

------------------------------------------------------------
-- Supervisor State
------------------------------------------------------------

namespace Taskfleet

open Physical

/-
  The part of the state file that is about children: the
  last event seen and the last report consumed of each.
-/
structure SupervisorState where
  lastSeqByChild : Finmap (fun _ : RunId => Nat)
  lastProcessedReportSeqByChild :
    Finmap (fun _ : RunId => Nat)

namespace SupervisorState

/- The state of a supervisor without a state file. -/
def default : SupervisorState where
  lastSeqByChild := ∅
  lastProcessedReportSeqByChild := ∅

def cursor (state : SupervisorState) (child : RunId) :
    Option Nat :=
  state.lastProcessedReportSeqByChild.lookup child

def see (state : SupervisorState) (child : RunId) (seq : Nat) :
    SupervisorState :=
  { state with
    lastSeqByChild := state.lastSeqByChild.insert child seq }

def consume
    (state : SupervisorState) (child : RunId) (seq : Nat) :
    SupervisorState :=
  { state with
    lastProcessedReportSeqByChild :=
      state.lastProcessedReportSeqByChild.insert child seq }

/- The replay guard. -/
def alreadyProcessed
    (state : SupervisorState)
    (child : RunId)
    (reportSeq : Nat) : Bool :=
  (state.cursor child).any (fun prev => reportSeq ≤ prev)

@[simp] theorem cursor_see
    (state : SupervisorState)
    (child other : RunId)
    (seq : Nat) :
    (state.see child seq).cursor other = state.cursor other :=
  rfl

@[simp] theorem cursor_consume
    (state : SupervisorState)
    (child : RunId)
    (seq : Nat) :
    (state.consume child seq).cursor child = some seq :=
  Finmap.lookup_insert _

theorem cursor_consume_ne
    {child other : RunId}
    (state : SupervisorState)
    (seq : Nat)
    (hNe : other ≠ child) :
    (state.consume child seq).cursor other =
      state.cursor other :=
  Finmap.lookup_insert_of_ne _ hNe

end SupervisorState

structure ChildTracking where
  parentNodeId : NodeId
  tail : EventTail
  terminal : Bool

/-
  A running supervisor: its state, its tails, and the child
  whose polled events it is working on with those still to
  handle. Besides, for the statements, the reports it has
  consumed, the latest first.
-/
structure Supervisor where
  state : SupervisorState
  childTails : Finmap (fun _ : RunId => ChildTracking)
  working : Option (RunId × List Event)
  consumed : List (RunId × Nat)

------------------------------------------------------------
-- Report Consumption
------------------------------------------------------------

/- What became of a report: `Ok(Some)`, `Ok(None)` or `Err`. -/
inductive Consumption where
| consumed
| replayed
| failed
deriving DecidableEq, Repr

def cursorAdvancedData (child : RunId) (reportSeq : Nat) :
    Json :=
  .obj
    [("child_run_id", .str child.val),
      ("report_seq", .int reportSeq)]

def cursorAdvanced
    (now : Time)
    (parentNodeId : NodeId)
    (child : RunId)
    (reportSeq : Nat) : Request where
  now := now
  kind := .supervisorCursorAdvanced
  nodeId := some parentNodeId
  key := none
  data := cursorAdvancedData child reportSeq

/-
  Record a child's report on the parent's node, then move the
  cursor in memory. The ids are valid by their types. With a
  `cut`, the write fails after that many of its steps.
-/
def processNodeReport
    (env : RunEnv)
    (now : Time)
    (cut : Option Nat)
    (parentNodeId : NodeId)
    (child : RunId)
    (reportSeq : Nat)
    (state : SupervisorState)
    (d : Disk) : Consumption × SupervisorState × Disk :=
  if state.alreadyProcessed child reportSeq then
    (.replayed, state, d)
  else
    let written :=
      Durable.attempt cut
        (appendAndApplyUnlocked env
          (cursorAdvanced now parentNodeId child reportSeq)) d
    match written.2 with
    | none => (.failed, state, written.1)
    | some _ =>
        (.consumed, state.consume child reportSeq, written.1)

------------------------------------------------------------
-- The Child Loop
------------------------------------------------------------

/- A `run.status` that ends the child. -/
def Event.endsRun (ev : Event) : Bool :=
  ev.kind = .runStatus ∧
    ev.data.getStr "status" ∈
      [some "done", some "failed", some "cancelled"]

namespace Supervisor

def start (state : SupervisorState) : Supervisor where
  state := state
  childTails := ∅
  working := none
  consumed := []

def track
    (sup : Supervisor)
    (child : RunId)
    (tracking : ChildTracking) : Supervisor :=
  { sup with
    childTails := sup.childTails.insert child tracking }

/-
  Open a tail on a child that has none, from the cursor on.
  At boot this is done for every child that the projections
  link, and later for every child that is spawned.
-/
def follow
    (sup : Supervisor)
    (child : RunId)
    (parentNodeId : NodeId) : Supervisor :=
  match sup.childTails.lookup child with
  | some _ => sup
  | none =>
      sup.track child
        { parentNodeId := parentNodeId
          tail := .new ((sup.state.cursor child).getD 0)
          terminal := false }

/- Read a child's log, unless the child is done with. -/
def poll
    (codec : TailCodec)
    (log : Option Bytes)
    (child : RunId)
    (sup : Supervisor) : Supervisor :=
  match sup.working, sup.childTails.lookup child with
  | none, some tracking =>
      if tracking.terminal then sup
      else
        let polled := tracking.tail.poll codec log
        { sup.track child { tracking with tail := polled.2 } with
          working := some (child, polled.1) }
  | _, _ => sup

/-
  Handle one polled event. A report that could not be
  consumed is polled again, with all that follow it.
-/
def handleEvent
    (env : RunEnv)
    (now : Time)
    (cut : Option Nat)
    (child : RunId)
    (tracking : ChildTracking)
    (ev : Event)
    (rest : List Event)
    (sup : Supervisor)
    (d : Disk) : Supervisor × Disk :=
  let sup :=
    { sup with
      state := sup.state.see child ev.seq
      working := some (child, rest) }
  let done := { tracking with terminal := true }
  match ev.kind with
  | .nodeReport =>
      match processNodeReport env now cut tracking.parentNodeId
          child ev.seq sup.state d with
      | (.consumed, state, d') =>
          ({ sup.track child done with
              state := state
              consumed := (child, ev.seq) :: sup.consumed },
            d')
      | (.replayed, _, d') => (sup.track child done, d')
      | (.failed, state, d') =>
          let rewindTo := ev.seq - 1
          ({ sup.track child
              { tracking with
                tail := .new rewindTo
                terminal := false } with
              state := state.see child rewindTo
              working := some (child, []) },
            d')
  | _ =>
      if ev.endsRun then (sup.track child done, d) else (sup, d)

def handle
    (env : RunEnv)
    (now : Time)
    (cut : Option Nat)
    (sup : Supervisor)
    (d : Disk) : Supervisor × Disk :=
  match sup.working with
  | some (child, ev :: rest) =>
      match sup.childTails.lookup child with
      | some tracking =>
          sup.handleEvent env now cut child tracking ev rest d
      | none => (sup, d)
  | _ => (sup, d)

/-
  Leave a child whose events are all handled. If its tail is
  parked at a corrupt line, step over the line, or take it
  out of the log and read the log again.
-/
def finish
    (codec : TailCodec)
    (quarantine : Bool)
    (logs : Finmap (fun _ : RunId => Bytes))
    (sup : Supervisor) :
    Supervisor × Finmap (fun _ : RunId => Bytes) :=
  match sup.working with
  | some (child, []) =>
      let sup := { sup with working := none }
      match sup.childTails.lookup child with
      | none => (sup, logs)
      | some tracking =>
          let taken := tracking.tail.takeNewCorrupt codec
          let skipped :=
            sup.track child { tracking with tail := taken.2 }
          match taken.1, logs.lookup child with
          | some _, some raw =>
              if quarantine &&
                  (lines raw).any
                    (isCorruptLine codec.toLineCodec) then
                (sup.track child
                    { tracking with tail := taken.2.restart },
                  logs.insert child
                    (recovered codec.toLineCodec raw))
              else (skipped, logs)
          | _, _ => (skipped, logs)
  | _ => (sup, logs)

end Supervisor

/-
  The run is closed and every child is done with. The
  supervisor stays up until then.
-/
def allWorkDone
    (env : RunEnv)
    (d : Disk)
    (childTails : Finmap (fun _ : RunId => ChildTracking)) :
    Bool :=
  match readManifestOpt env d with
  | .ok (some m) =>
      m.status.isTerminal &&
        childTails.all (fun _ tracking => tracking.terminal)
  | _ => false

------------------------------------------------------------
-- A Parent and Its Children
------------------------------------------------------------

/-
  The parent's run directory and state file, the logs of the
  children, and the supervisor while one runs.
-/
structure Parent where
  disk : Disk
  saved : SupervisorState
  logs : Finmap (fun _ : RunId => Bytes)
  live : Option Supervisor

/-
  What happens around a parent supervisor. A child's log
  grows by lines and torn lines, other processes change the
  parent's run, and the supervisor starts, ends, follows a
  child, polls one, handles an event, leaves the child, or
  saves its state. A write may be cut.
-/
inductive ParentAct where
| append (child : RunId) (body : Bytes)
| tear (child : RunId) (part : Bytes)
| other (act : Act) (cut : Option Nat)
| boot
| exit
| follow (child : RunId) (parentNodeId : NodeId)
| poll (child : RunId)
| handle (now : Time) (cut : Option Nat)
| finish (quarantine : Bool)
| save

namespace Parent

def start : Parent where
  disk := .empty
  saved := .default
  logs := ∅
  live := none

def log (w : Parent) (child : RunId) : Bytes :=
  (w.logs.lookup child).getD []

/- The valid events of a child's log. -/
def events
    (codec : TailCodec) (w : Parent) (child : RunId) :
    List Event :=
  eventsOf codec.toLineCodec (lines (w.log child))

def handle
    (env : RunEnv) (now : Time) (cut : Option Nat) (w : Parent) :
    Parent :=
  match w.live with
  | none => w
  | some sup =>
      let handled := sup.handle env now cut w.disk
      { w with live := some handled.1, disk := handled.2 }

def finish
    (codec : TailCodec) (quarantine : Bool) (w : Parent) :
    Parent :=
  match w.live with
  | none => w
  | some sup =>
      let finished := sup.finish codec quarantine w.logs
      { w with live := some finished.1, logs := finished.2 }

/- Save the state between two children or ticks. -/
def save (w : Parent) : Parent :=
  match w.live with
  | none => w
  | some sup =>
      if sup.working.isSome then w
      else { w with saved := sup.state }

end Parent

def Boundary.isRenamed : Boundary → Bool
| .renamed => true
| _ => false

namespace ParentAct

/-
  An appended event carries the next number. A quarantine of
  the parent's own log runs to its end.
-/
def Enabled
    (codec : TailCodec)
    (env : RunEnv)
    (w : Parent) : ParentAct → Prop
| .append child body =>
    newline ∉ body ∧
      ∀ ev ∈ lineEvent? codec.toLineCodec body,
        ev.seq = lastSeqOf (w.events codec child) + 1
| .tear _ part => newline ∉ part
| .other act cut =>
    ∀ n ∈ cut, ((act.run env w.disk).1[n]?).any
      (fun entry => entry.1.isRenamed) = false
| _ => True

def perform
    (codec : TailCodec)
    (env : RunEnv)
    (w : Parent) : ParentAct → Parent
| .append child body =>
    { w with
      logs := w.logs.insert child
        (Physical.truncateTornTail (w.log child) ++
          (body ++ [newline])) }
| .tear child part =>
    { w with
      logs := w.logs.insert child
        (Physical.truncateTornTail (w.log child) ++ part) }
| .other act cut =>
    { w with disk := (Durable.attempt cut (act.run env) w.disk).1 }
| .boot => { w with live := some (.start w.saved) }
| .exit => { w with live := none }
| .follow child parentNodeId =>
    { w with
      live := w.live.map
        (fun sup => sup.follow child parentNodeId) }
| .poll child =>
    { w with
      live := w.live.map
        (Supervisor.poll codec (w.logs.lookup child) child) }
| .handle now cut => w.handle env now cut
| .finish quarantine => w.finish codec quarantine
| .save => w.save

end ParentAct

/- A parent reaches another by acts that `Ok` allows. -/
inductive Fostered
    (codec : TailCodec)
    (env : RunEnv)
    (Ok : Parent → ParentAct → Prop)
    (w : Parent) : Parent → Prop where
| start : Fostered codec env Ok w w
| next
    {w' : Parent}
    (act : ParentAct)
    (hRun : Fostered codec env Ok w w')
    (hEnabled : act.Enabled codec env w')
    (hOk : Ok w' act) :
    Fostered codec env Ok w (act.perform codec env w')

instance
    (codec : TailCodec)
    (env : RunEnv)
    (w : Parent)
    (act : ParentAct) : Decidable (act.Enabled codec env w) :=
  match act with
  | .append _ _ => inferInstanceAs (Decidable (_ ∧ _))
  | .tear _ part =>
      inferInstanceAs (Decidable (newline ∉ part))
  | .other _ cut =>
      inferInstanceAs (Decidable (∀ n ∈ cut, _ = _))
  | .boot | .exit | .follow _ _ | .poll _ | .handle _ _
  | .finish _ | .save => inferInstanceAs (Decidable True)

namespace Parent

/- The parent after acts, one after the other. -/
def run (codec : TailCodec) (env : RunEnv) (w : Parent) :
    List ParentAct → Parent
| [] => w
| act :: rest => run codec env (act.perform codec env w) rest

def AllEnabled
    (codec : TailCodec)
    (env : RunEnv)
    (Ok : Parent → ParentAct → Prop)
    (w : Parent) : List ParentAct → Prop
| [] => True
| act :: rest =>
    (act.Enabled codec env w ∧ Ok w act) ∧
      AllEnabled codec env Ok (act.perform codec env w) rest

instance instDecidableAllEnabled
    (codec : TailCodec)
    (env : RunEnv)
    (Ok : Parent → ParentAct → Prop)
    [∀ w act, Decidable (Ok w act)] :
    ∀ w acts, Decidable (AllEnabled codec env Ok w acts)
| _, [] => inferInstanceAs (Decidable True)
| w, act :: rest =>
    haveI := instDecidableAllEnabled codec env Ok
      (act.perform codec env w) rest
    inferInstanceAs (Decidable (_ ∧ _))

theorem fostered_run
    {codec : TailCodec} {env : RunEnv}
    {Ok : Parent → ParentAct → Prop} {first w : Parent}
    (hRun : Fostered codec env Ok first w)
    (acts : List ParentAct)
    (hEnabled : AllEnabled codec env Ok w acts) :
    Fostered codec env Ok first (run codec env w acts) := by
  induction acts generalizing w with
  | nil => exact hRun
  | cons act rest ih =>
      exact ih (.next act hRun hEnabled.1.1 hEnabled.1.2)
        hEnabled.2

end Parent

end Taskfleet
