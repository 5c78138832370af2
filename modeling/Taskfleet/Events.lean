import Taskfleet.Reducer.Plan

/-
  The locked operations on the event log: torn-tail
  truncation, catch-up replay, the append gate with its
  keyed variants, and the quarantine of corrupt lines.

  Main declarations:
    * `truncateTornTail`, `replayUnapplied`
    * `appendAndApplyReporting`
    * `appendAndApplyEvent`, `appendAndApplyIdempotent`
    * `quarantineCorruptLines`
-/

------------------------------------------------------------
-- Catch-Up
------------------------------------------------------------

namespace Taskfleet

open Fallible

/- Cut a final line without newline off the log. -/
def truncateTornTail : Locked Unit := do
  let d ← Durable.read
  if d.torn then
    Durable.write .truncated (fun d => { d with torn := false })
  else pure ()

/-
  Move the watermark forward, deriving the node counter from
  the projection files at the same time.
-/
def advanceAppliedSeq (env : RunEnv) (seq : Nat) :
    Locked Unit := do
  let d ← Durable.read
  match ← Durable.lift (readManifestOpt env d) with
  | none => pure ()
  | some m =>
      if m.appliedSeq < seq then
        writeManifest env (.applied seq) { m with
          nodeCount := d.countNodeFiles
          appliedSeq := seq }
      else pure ()

/-
  Fold one event of the log. A refused event is skipped and
  the watermark does not move for it.
-/
def replayEvent (env : RunEnv) (ev : Event) : Locked Unit := do
  let d ← Durable.read
  match reduceEventToOps env d ev with
  | .ok ops => do
      commitOps env d ev ops
      advanceAppliedSeq env ev.seq
  | .error (.corruptEventLog _ _) => pure ()
  | .error e => Durable.fail e

/- Fold the events past the watermark, in file order. -/
def replayLines (env : RunEnv) (applied : Nat) :
    List LogLine → Locked Unit
| [] => pure ()
| .event ev :: rest =>
    if ev.seq ≤ applied then replayLines env applied rest
    else do
      replayEvent env ev
      replayLines env applied rest
| _ :: rest => replayLines env applied rest

/- Without a manifest there is no watermark to catch up to. -/
def replayUnapplied (env : RunEnv) : Locked Unit := do
  let d ← Durable.read
  match ← Durable.lift (readManifestOpt env d) with
  | none => pure ()
  | some m =>
      let last ← Durable.lift (recoverLastSeq d.lines)
      if last ≤ m.appliedSeq then pure ()
      else replayLines env m.appliedSeq d.lines

def replayUnappliedUnlocked (env : RunEnv) : Locked Unit := do
  truncateTornTail
  replayUnapplied env

------------------------------------------------------------
-- Append
------------------------------------------------------------

/- What a caller asks to append. -/
structure Request where
  now : Time
  kind : EventKind
  nodeId : Option NodeId
  key : Option String
  data : Json

namespace Request

/- The envelope of a request under a sequence number. -/
def event (env : RunEnv) (r : Request) (seq : Nat) : Event where
  ts := r.now
  seq := seq
  kind := r.kind
  runId := env.runId
  nodeId := r.nodeId
  idempotencyKey := r.key
  data := r.data

end Request

/-
  Write one line durably. An interrupted write leaves a torn
  tail, which is not part of the log.
-/
def writeLine (ev : Event) : Locked Unit := do
  Durable.write .torn (fun d => { d with torn := true })
  Durable.write (.logged ev) (fun d =>
    { d with lines := d.lines ++ [.event ev], torn := false })

/-
  The gate: plan the event on caught-up projections, append
  its line, commit the plan, move the watermark. The flag
  says whether the plan had any write.
-/
def appendAndApplyReporting (env : RunEnv) (r : Request) :
    Locked (Nat × Bool) := do
  replayUnappliedUnlocked env
  let d ← Durable.read
  let last ← Durable.lift (recoverLastSeq d.lines)
  let ev := r.event env (last + 1)
  let ops ← Durable.lift (reduceEventToOps env d ev)
  writeLine ev
  commitOps env d ev ops
  advanceAppliedSeq env ev.seq
  return (ev.seq, !ops.isEmpty)

def appendAndApplyUnlocked (env : RunEnv) (r : Request) :
    Locked Nat := do
  return (← appendAndApplyReporting env r).1

structure AppendResult where
  seq : Nat
  idempotentReplay : Bool
  applied : Bool
  prior : Option PriorEvent
deriving DecidableEq, Repr

/- The prior event of a request's kind and key, if keyed. -/
def findPrior (r : Request) : Locked (Option PriorEvent) := do
  match r.key with
  | none => return none
  | some key => do
      let d ← Durable.read
      Durable.lift (findPriorWithKey r.kind key d.lines)

/- The canonical mutation entry point. -/
def appendAndApplyEvent (env : RunEnv) (r : Request) :
    Locked AppendResult := do
  replayUnappliedUnlocked env
  match ← findPrior r with
  | some prior =>
      return {
        seq := prior.seq
        idempotentReplay := true
        applied := false
        prior := some prior }
  | none => do
      let (seq, applied) ← appendAndApplyReporting env r
      return {
        seq
        idempotentReplay := false
        applied
        prior := none }

inductive AppendOutcome where
| appended (seq : Nat)
| idempotentReplay (prior : PriorEvent)
| conflict (prior : PriorEvent)
deriving DecidableEq, Repr

/- What a caller asks to append under a key. -/
structure KeyedRequest where
  now : Time
  kind : EventKind
  nodeId : Option NodeId
  key : String
  build : Nat → Except Error Json

namespace KeyedRequest

def request (r : KeyedRequest) (data : Json) : Request where
  now := r.now
  kind := r.kind
  nodeId := r.nodeId
  key := some r.key
  data := data

end KeyedRequest

/-
  Append under a non-empty key. A prior event with the key
  is a replay where node and payload agree, else a conflict.
-/
def appendAndApplyIdempotent
    (env : RunEnv) (r : KeyedRequest) :
    Locked AppendOutcome := do
  if r.key = "" then Durable.fail .emptyIdempotencyKey
  else do
    replayUnappliedUnlocked env
    let d ← Durable.read
    let last ← Durable.lift (recoverLastSeq d.lines)
    let data ← Durable.lift (r.build (last + 1))
    match ←
        Durable.lift (findPriorWithKey r.kind r.key d.lines)
      with
    | some prior =>
        if prior.nodeId = r.nodeId ∧ prior.data = data then
          return .idempotentReplay prior
        else return .conflict prior
    | none => do
        let seq ← appendAndApplyUnlocked env (r.request data)
        return .appended seq

------------------------------------------------------------
-- Quarantine
------------------------------------------------------------

namespace LogLine

/- A non-empty complete line that is not an event. -/
def isCorrupt : LogLine → Bool
| .header _ _ | .space | .junk => true
| .event _ | .blank => false

@[simp] theorem isCorrupt_event (ev : Event) :
    (LogLine.event ev).isCorrupt = false := rfl

@[simp] theorem isCorrupt_header
    (seq : Nat)
    (probe : Option (EventKind × Option String)) :
    (LogLine.header seq probe).isCorrupt = true := rfl

@[simp] theorem isCorrupt_blank :
    LogLine.blank.isCorrupt = false := rfl

@[simp] theorem isCorrupt_space :
    LogLine.space.isCorrupt = true := rfl

@[simp] theorem isCorrupt_junk :
    LogLine.junk.isCorrupt = true := rfl

end LogLine

/- The stamp of the backup and the numbers of excised lines. -/
structure Quarantine where
  backupTs : String
  removedLines : List Nat
deriving DecidableEq, Repr

def corruptLineNumbers (lines : List LogLine) : List Nat :=
  (lines.zipIdx.filter (fun entry => entry.1.isCorrupt)).map
    (fun entry => entry.2 + 1)

/-
  Move a poisoned log aside, then put the recovered one in
  its place. Between the two the run has no log.
-/
def quarantineCorruptLines (backupTs : String) :
    Locked (Option Quarantine) := do
  let d ← Durable.read
  if corruptLineNumbers d.lines = [] then return none
  else do
    Durable.write .renamed
      (fun d => { d with lines := [], torn := false })
    Durable.write .rewritten (fun now => { now with
      lines := d.lines.filter (fun line => !line.isCorrupt)
      torn := d.torn })
    return some ⟨backupTs, corruptLineNumbers d.lines⟩

end Taskfleet
