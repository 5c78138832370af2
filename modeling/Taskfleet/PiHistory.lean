import Taskfleet.MergeRecovery
import Taskfleet.Reducer.PiSessions

/-
  The session history that a discard by the caller works out
  again from the log, beside what the reducer has folded.

  The second reading keeps its own generation and its own
  rule for a repeated binding. On a binding that is repeated
  while its generation may still be bound the two agree, and
  the check is then decided by the native file alone.

  Main declarations:
    * `historyStep`, `piHistory`, `historyChecked`
    * `callerHistoryRetained`
    * `RepeatsInTime`
    * `piHistory_of_acceptedRun`
-/

------------------------------------------------------------
-- Retained History
------------------------------------------------------------

namespace Taskfleet

open Fallible

/-
  The native session files outside of every checkout: the
  device and the inode of a file at a path that is that of a
  session and a checkout, where it passes for one.
-/
structure NativeFiles where
  verify :
    (path piSessionId checkout : String) → Option (Nat × Nat)

/- The history of a node that nothing needs any more. -/
def callerHistoryRetained
    (files : NativeFiles)
    (n : Node)
    (checkout : String) : Bool :=
  match n.callerPiLifecycle, n.callerPiSession with
  | none, session => session.isNone
  | some _, none => false
  | some pi, some binding =>
      pi.sessionPath = some binding.sessionPath ∧
        pi.piSessionId = binding.piSessionId ∧
        binding.generation = some pi.generation ∧
        binding.originalCwd = checkout ∧
        files.verify binding.sessionPath binding.piSessionId
          checkout = some (binding.fileDev, binding.fileIno)

------------------------------------------------------------
-- History in the Log
------------------------------------------------------------

/- What is known of the sessions of a node. -/
structure PiHistory where
  lifecycle : Option CallerPiLifecycle
  binding : Option CallerPiSession
deriving DecidableEq, Repr

namespace PiHistory

def empty : PiHistory := ⟨none, none⟩

/- Whether the reservation, if any, is the binding's. -/
def admits (h : PiHistory) (bound : CallerPiSession) : Bool :=
  match h.lifecycle with
  | none => bound.generation.isNone
  | some reserved => reserved.admits bound

/- The binding is recorded, and so is its path. -/
def bind (h : PiHistory) (bound : CallerPiSession) :
    PiHistory where
  lifecycle :=
    h.lifecycle.map (fun current =>
      { current with sessionPath := some bound.sessionPath })
  binding := some bound

end PiHistory

def historyUnavailable (message : String) : CliError :=
  .user "history_unavailable" message none

def bindingMismatch : CliError :=
  historyUnavailable "Pi binding does not match reservation"

/- One event of the node, in the second reading. -/
def historyStep
    (env : RunEnv)
    (checkout : String)
    (h : PiHistory)
    (ev : Event) : Except CliError PiHistory := do
  refuseIf (ev.runId ≠ env.runId)
    (historyUnavailable "foreign run identity in Pi event log")
  match ev.kind with
  | .callerPiLifecycle => do
      let fact ←
        orError
          (historyUnavailable
            "invalid Pi generation in event log")
          ev.data.asCallerPiLifecycle
      return { h with lifecycle := some fact }
  | .callerPiSessionBound => do
      let bound ←
        orError
          (historyUnavailable "invalid Pi binding in event log")
          ev.data.asCallerPiSession
      refuseIf
        (h.binding.any (fun old => old ≠ bound) ∨
          bound.originalCwd ≠ checkout ∨
          bound.originalCwd.isEmpty ∨
          bound.piSessionId.isEmpty ∨
          bound.sessionPath.isEmpty ∨
          h.lifecycle.any (fun reserved =>
            !reserved.admits bound) ∨
          (bound.generation.isSome ∧ h.lifecycle.isNone))
        bindingMismatch
      return h.bind bound
  | _ => return h

/- The session history that the log tells of a node. -/
def piHistory
    (env : RunEnv)
    (id : NodeId)
    (checkout : String)
    (events : List Event) : Except CliError PiHistory :=
  (events.filter (fun ev => ev.nodeId = some id)).foldlM
    (historyStep env checkout) .empty

def historyChecked
    (env : RunEnv)
    (files : NativeFiles)
    (lines : List LogLine)
    (n : Node)
    (checkout : String) : Except CliError Unit := do
  let events ← (readAllEvents lines).mapError .core
  let h ← piHistory env n.nodeId checkout events
  refuseIf
    (h.lifecycle ≠ n.callerPiLifecycle ∨
      h.binding ≠ n.callerPiSession ∨
      ¬ callerHistoryRetained files n checkout)
    (historyUnavailable
      "native Pi history, generation or no-reservation proof unavailable; preserve checkout")

------------------------------------------------------------
-- Repeated Bindings
------------------------------------------------------------

/- The event tells a session fact of the node. -/
def Event.tells
    (id : NodeId) (kind : EventKind) (ev : Event) : Bool :=
  ev.nodeId = some id ∧ ev.kind = kind

/- The last lifecycle fact that a log tells of a node. -/
def lastPiFact (id : NodeId) (events : List Event) :
    Option CallerPiLifecycle :=
  (events.filter
    (Event.tells id .callerPiLifecycle)).getLast?.bind
      (fun ev => ev.data.asCallerPiLifecycle)

/- A binding that a reservation may still take. -/
def CallerPiSession.inTime
    (bound : CallerPiSession) :
    Option CallerPiLifecycle → Bool
| none => bound.generation.isNone
| some fact =>
    some fact.generation = bound.generation ∧
      (fact.state = .reserved ∨ fact.state = .started)

/- The event repeats no binding, or repeats it in time. -/
def Event.repeatsInTime
    (id : NodeId) (before : List Event) (ev : Event) : Bool :=
  ev.tells id .callerPiSessionBound = true →
    before.any (Event.tells id .callerPiSessionBound) = true →
    ev.data.asCallerPiSession.all (fun bound =>
      bound.inTime (lastPiFact id before)) = true

/- A log that repeats a binding only while it may be bound. -/
def RepeatsInTime (id : NodeId) (events : List Event) : Prop :=
  ∀ i (ev : Event), events[i]? = some ev →
    ev.repeatsInTime id (events.take i) = true

instance (id : NodeId) (events : List Event) :
    Decidable (RepeatsInTime id events) :=
  decidable_of_iff
    (∀ i : Fin events.length,
      (events.get i).repeatsInTime id (events.take i) = true)
    (by
      simp only [RepeatsInTime, List.getElem?_eq_some_iff,
        Fin.forall_iff, List.get_eq_getElem]
      grind)

theorem RepeatsInTime.concat
    {id : NodeId} {events : List Event} {ev : Event}
    (hAll : RepeatsInTime id (events ++ [ev])) :
    RepeatsInTime id events ∧
      ev.repeatsInTime id events = true := by
  constructor
  · intro i e hAt
    have hBound : i < events.length := by
      exact (List.getElem?_eq_some_iff.mp hAt).1
    have hHere := hAll i e
      (by rw [List.getElem?_append_left hBound, hAt])
    rwa [List.take_append_of_le_length (Nat.le_of_lt hBound)]
      at hHere
  · have hHere := hAll events.length ev (by simp)
    simpa using hHere

------------------------------------------------------------
-- What the Reducer Folds
------------------------------------------------------------

/- The sessions of a projection. -/
def Node.piHistory (n : Node) : PiHistory :=
  ⟨n.callerPiLifecycle, n.callerPiSession⟩

/- The sessions of a node on disk; none where it is missing. -/
def Disk.piHistory (d : Disk) (id : NodeId) : PiHistory :=
  ((d.nodes.lookup id).map Node.piHistory).getD .empty

/- A binding that names its checkout and its session. -/
def CallerPiSession.Named (bound : CallerPiSession) : Prop :=
  bound.originalCwd.isEmpty = false ∧
    bound.piSessionId.isEmpty = false ∧
    bound.sessionPath.isEmpty = false

/-
  What an accepted event does to the sessions of a node: a
  binding is made once and may be repeated, and a fact
  agrees with the binding that is there.
-/
inductive PiStep (id : NodeId) (ev : Event) (h : PiHistory) :
    PiHistory → Prop where
| untold
    (hBound : ev.tells id .callerPiSessionBound = false)
    (hFact : ev.tells id .callerPiLifecycle = false) :
    PiStep id ev h h
| repeated (bound : CallerPiSession)
    (hTells : ev.tells id .callerPiSessionBound = true)
    (hData : ev.data.asCallerPiSession = some bound)
    (hNamed : bound.Named)
    (hHas : h.binding = some bound) :
    PiStep id ev h h
| bound (bound : CallerPiSession)
    (hTells : ev.tells id .callerPiSessionBound = true)
    (hData : ev.data.asCallerPiSession = some bound)
    (hNamed : bound.Named)
    (hNone : h.binding = none)
    (hAdmits : h.admits bound = true) :
    PiStep id ev h (h.bind bound)
| told (fact : CallerPiLifecycle)
    (hTells : ev.tells id .callerPiLifecycle = true)
    (hData : ev.data.asCallerPiLifecycle = some fact)
    (hBound : fact.matchesBinding h.binding = true) :
    PiStep id ev h { h with lifecycle := some fact }

section Steps

variable {env : RunEnv} {d d' : Disk} {ev : Event} {id : NodeId}

theorem Event.tells_iff {kind : EventKind} :
    ev.tells id kind = true ↔
      ev.nodeId = some id ∧ ev.kind = kind := by
  simp [Event.tells]

theorem piStep_of_binding
    {n : Node} {out : Option Node}
    (hTells : ev.tells id .callerPiSessionBound = true)
    (hStep : callerPiSessionBoundStep ev n = .ok out) :
    PiStep id ev n.piHistory (out.getD n).piHistory := by
  unfold callerPiSessionBoundStep at hStep
  simp only [bind_eq_ok, orError_eq_ok, refuseIf_eq_ok] at hStep
  rcases hStep with ⟨bound, hData, _, hNames, hRest⟩
  have hNamed : bound.Named := by
    simp only [not_or, ne_eq, not_not, Bool.not_eq_true] at hNames
    exact hNames.2
  split at hRest
  next existing hHas =>
    split at hRest
    next hSame =>
      cases hRest
      subst hSame
      exact .repeated existing hTells hData hNamed hHas
    · cases hRest
  next hNone =>
    simp only [bind_eq_ok, refuseIf_eq_ok, pure_eq,
      Except.ok.injEq] at hRest
    rcases hRest with ⟨_, hAdmits, _, hReserved, rfl⟩
    apply PiStep.bound bound hTells hData hNamed hNone
    cases hLifecycle : n.callerPiLifecycle with
    | none =>
        simpa [PiHistory.admits, Node.piHistory, hLifecycle]
          using hReserved
    | some reserved =>
        simpa [PiHistory.admits, Node.piHistory, hLifecycle]
          using hAdmits

theorem piStep_of_fact
    {m : Manifest} {n : Node} {out : Option Node}
    (hTells : ev.tells id .callerPiLifecycle = true)
    (hStep : callerPiLifecycleStep ev m n = .ok out) :
    PiStep id ev n.piHistory (out.getD n).piHistory := by
  unfold callerPiLifecycleStep at hStep
  simp only [bind_eq_ok, orError_eq_ok, refuseIf_eq_ok] at hStep
  rcases hStep with ⟨fact, hData, _, hFormed, hRest⟩
  have hMatches :
      fact.matchesBinding n.callerPiSession = true := by
    simp only [not_not, CallerPiLifecycle.wellFormed,
      Bool.decide_and, Bool.and_eq_true] at hFormed
    simpa using hFormed.2.1
  have hTold := PiStep.told fact (h := n.piHistory) hTells hData
    hMatches
  split at hRest
  next hSame =>
    cases hRest
    rw [show { n.piHistory with lifecycle := some fact } =
      n.piHistory by rw [← hSame]; rfl] at hTold
    exact hTold
  · simp only [bind_eq_ok, refuseIf_eq_ok, pure_eq,
      Except.ok.injEq] at hRest
    rcases hRest with ⟨_, _, _, _, rfl⟩
    exact hTold

theorem Disk.piHistory_of_lookup
    {n : Node} (hLookup : d.nodes.lookup id = some n) :
    d.piHistory id = n.piHistory := by
  simp [Disk.piHistory, hLookup]

/- A session fact is accepted on a node that is there. -/
theorem accepted_piStep
    (arm : Except Error NodeStep)
    (hAccepts : Accepts env d ev d')
    (hNode : ev.nodeId = some id)
    (hArm : nodeArm env d ev id = some arm)
    (hMissing : missingNode ev = .error (ev.bad "missing node")) :
    ∃ step n out, arm = .ok step ∧ step n = .ok out ∧
      d.piHistory id = n.piHistory ∧
      d'.piHistory id = (out.getD n).piHistory := by
  rcases hAccepts with ⟨ops, hPlan, hNodes, _⟩
  have hKind := (reduce_eq_ok.mp hPlan).2
  rw [reduceKind_eq_arm hArm hNode, bind_eq_ok] at hKind
  rcases hKind with ⟨step, rfl, hRun⟩
  rcases onNode_eq_ok hRun with
    ⟨_, hGone⟩ | ⟨n, hLookup, hValid, hCase⟩
  · rw [hMissing] at hGone
    cases hGone
  · have hBefore := Disk.piHistory_of_lookup hLookup
    rcases hCase with ⟨hStep, rfl⟩ | ⟨n', hStep, rfl⟩
    · refine ⟨step, n, none, rfl, hStep, hBefore, ?_⟩
      apply Disk.piHistory_of_lookup
      rw [hNodes]
      exact hLookup
    · refine ⟨step, n, some n', rfl, hStep, hBefore, ?_⟩
      apply Disk.piHistory_of_lookup
      have hSame := (nodeArm_move hArm hStep).1
      have hId := (hSame.valid hValid).nodeId
      rw [hNodes, ← hId]
      exact Finmap.lookup_insert _

theorem piHistory_framed
    (hAccepts : Accepts env d ev d')
    (hBound : ev.tells id .callerPiSessionBound = false)
    (hFact : ev.tells id .callerPiLifecycle = false) :
    d'.piHistory id = d.piHistory id := by
  have hChange := nodeChange_of_accepts hAccepts id
  unfold Disk.piHistory
  generalize d.nodes.lookup id = before at hChange
  generalize d'.nodes.lookup id = after at hChange
  cases hChange with
  | kept => rfl
  | created n _ _ hNew =>
      have hFresh := newNode_fresh hNew
      simp [Node.piHistory, hFresh.callerPiSession,
        hFresh.callerPiLifecycle, PiHistory.empty]
  | rewritten n n' hNode hRewrite =>
      have hFrame :=
        (piMove_of_rewrite hRewrite).framed (by
          cases hKind : ev.kind <;>
            simp_all [EventKind.isPiFact, Event.tells])
      simp [Node.piHistory, hFrame.1, hFrame.2]

theorem piStep_of_accepts
    (hAccepts : Accepts env d ev d') :
    PiStep id ev (d.piHistory id) (d'.piHistory id) := by
  cases hBound : ev.tells id .callerPiSessionBound with
  | true =>
      rcases Event.tells_iff.mp hBound with ⟨hNode, hKind⟩
      rcases accepted_piStep (callerPiSessionBoundArm env d ev)
        hAccepts hNode (by simp [nodeArm, hKind])
        (by simp [missingNode, hKind]) with
        ⟨step, n, out, hArm, hStep, hBefore, hAfter⟩
      simp only [callerPiSessionBoundArm, bind_eq_ok, pure_eq,
        Except.ok.injEq] at hArm
      rcases hArm with ⟨_, _, rfl⟩
      rw [hBefore, hAfter]
      exact piStep_of_binding hBound hStep
  | false =>
      cases hFact : ev.tells id .callerPiLifecycle with
      | false =>
          rw [piHistory_framed hAccepts hBound hFact]
          exact .untold hBound hFact
      | true =>
          rcases Event.tells_iff.mp hFact with ⟨hNode, hKind⟩
          rcases accepted_piStep (callerPiLifecycleArm env d ev)
            hAccepts hNode (by simp [nodeArm, hKind])
            (by simp [missingNode, hKind]) with
            ⟨step, n, out, hArm, hStep, hBefore, hAfter⟩
          simp only [callerPiLifecycleArm, bind_eq_ok, pure_eq,
            Except.ok.injEq] at hArm
          rcases hArm with ⟨m, _, rfl⟩
          rw [hBefore, hAfter]
          exact piStep_of_fact hFact hStep

end Steps

------------------------------------------------------------
-- One Event Read Again
------------------------------------------------------------

/-
  The sessions of a node and the log that told them: a
  binding was told, the last fact is the lifecycle but for
  the path the binding added, and the two are of one session.
-/
structure PiHistory.Told
    (id : NodeId) (events : List Event) (h : PiHistory) :
    Prop where
  binding : h.binding.isSome = true →
    events.any (Event.tells id .callerPiSessionBound) = true
  fact :
    h.lifecycle.map (fun l => (l.generation, l.state)) =
      (lastPiFact id events).map
        (fun l => (l.generation, l.state))
  oneSession : ∀ fact, h.lifecycle = some fact →
    fact.matchesBinding h.binding = true

section Reading

variable {env : RunEnv} {ev : Event} {id : NodeId}
variable {checkout : String} {events : List Event}
variable {h h' : PiHistory}

theorem lastPiFact_concat_of_untold
    (hFact : ev.tells id .callerPiLifecycle = false) :
    lastPiFact id (events ++ [ev]) = lastPiFact id events := by
  simp [lastPiFact, hFact]

theorem lastPiFact_concat_of_told
    (hFact : ev.tells id .callerPiLifecycle = true) :
    lastPiFact id (events ++ [ev]) =
      ev.data.asCallerPiLifecycle := by
  simp [lastPiFact, hFact]

/- A binding event is no lifecycle fact. -/
theorem untold_of_binding
    (hTells : ev.tells id .callerPiSessionBound = true) :
    ev.tells id .callerPiLifecycle = false := by
  have hKind := (Event.tells_iff.mp hTells).2
  simp [Event.tells, hKind]

theorem PiStep.keeps_told
    (hStep : PiStep id ev h h')
    (hTold : h.Told id events) :
    h'.Told id (events ++ [ev]) := by
  cases hStep with
  | untold hBound hFact =>
      constructor
      · intro hSome
        simp [hTold.binding hSome]
      · rw [lastPiFact_concat_of_untold hFact]
        exact hTold.fact
      · exact hTold.oneSession
  | repeated bound hTells _ _ _ =>
      constructor
      · intro _
        simp [hTells]
      · rw [lastPiFact_concat_of_untold
          (untold_of_binding hTells)]
        exact hTold.fact
      · exact hTold.oneSession
  | bound bound hTells _ _ _ hAdmits =>
      constructor
      · intro _
        simp [hTells]
      · rw [lastPiFact_concat_of_untold
          (untold_of_binding hTells), ← hTold.fact]
        cases hLifecycle : h.lifecycle <;>
          simp [PiHistory.bind, hLifecycle]
      · intro fact hFact
        cases hLifecycle : h.lifecycle with
        | none => simp [PiHistory.bind, hLifecycle] at hFact
        | some reserved =>
            simp only [PiHistory.bind, hLifecycle,
              Option.map_some, Option.some.injEq] at hFact
            subst hFact
            simp only [PiHistory.admits, hLifecycle,
              CallerPiLifecycle.admits, Bool.decide_and,
              Bool.and_eq_true, decide_eq_true_eq] at hAdmits
            simp [CallerPiLifecycle.matchesBinding,
              PiHistory.bind, hAdmits.1]
  | told fact hTells hData hBound =>
      constructor
      · intro hSome
        simp [hTold.binding hSome]
      · rw [lastPiFact_concat_of_told hTells, hData]
      · intro fact' hFact
        cases hFact
        exact hBound

/- A repeated binding in time finds its reservation. -/
theorem admits_of_repeat
    {bound : CallerPiSession}
    (hTold : h.Told id events)
    (hTells : ev.tells id .callerPiSessionBound = true)
    (hData : ev.data.asCallerPiSession = some bound)
    (hHas : h.binding = some bound)
    (hInTime : ev.repeatsInTime id events = true) :
    h.admits bound = true := by
  have hEarlier := hTold.binding (by rw [hHas]; rfl)
  have hTime :
      bound.inTime (lastPiFact id events) = true := by
    simpa [Event.repeatsInTime, hTells, hEarlier, hData]
      using hInTime
  have hFact := hTold.fact
  cases hLifecycle : h.lifecycle with
  | none =>
      cases hLast : lastPiFact id events with
      | none =>
          simpa [PiHistory.admits, hLifecycle, hLast,
            CallerPiSession.inTime] using hTime
      | some fact =>
          rw [hLifecycle, hLast] at hFact
          cases hFact
  | some reserved =>
      cases hLast : lastPiFact id events with
      | none =>
          rw [hLifecycle, hLast] at hFact
          cases hFact
      | some fact =>
          rw [hLifecycle, hLast] at hFact
          simp only [Option.map_some, Option.some.injEq,
            Prod.mk.injEq] at hFact
          have hSession := hTold.oneSession reserved hLifecycle
          simp only [CallerPiLifecycle.matchesBinding, hHas,
            Option.all_some, decide_eq_true_eq] at hSession
          simp only [hLast, CallerPiSession.inTime,
            decide_eq_true_eq, ← hFact.1, ← hFact.2] at hTime
          simp [PiHistory.admits, hLifecycle,
            CallerPiLifecycle.admits, hSession, hTime]

/- Recording a binding once more changes nothing. -/
theorem bind_of_repeat
    {bound : CallerPiSession}
    (hTold : h.Told id events)
    (hHas : h.binding = some bound) :
    h.bind bound = h := by
  cases h with
  | mk lifecycle binding =>
      cases hHas
      cases lifecycle with
      | none => rfl
      | some reserved =>
          have hSession := hTold.oneSession reserved rfl
          simp only [CallerPiLifecycle.matchesBinding,
            Option.all_some, decide_eq_true_eq] at hSession
          cases reserved
          simp_all [PiHistory.bind]

theorem historyStep_binding
    {bound : CallerPiSession}
    (hRun : ev.runId = env.runId)
    (hTells : ev.tells id .callerPiSessionBound = true)
    (hData : ev.data.asCallerPiSession = some bound)
    (hNamed : bound.Named)
    (hSame : h.binding.all (fun old => old = bound) = true)
    (hAdmits : h.admits bound = true) :
    historyStep env checkout h ev =
      if bound.originalCwd = checkout then .ok (h.bind bound)
      else .error bindingMismatch := by
  have hKind := (Event.tells_iff.mp hTells).2
  rcases hNamed with ⟨hCwd, hId, hPath⟩
  have hOld : ¬ h.binding.any (fun old => old ≠ bound) = true := by
    cases hBinding : h.binding <;> simp_all
  have hReserved :
      ¬ h.lifecycle.any (fun r => !r.admits bound) = true ∧
        ¬ (bound.generation.isSome = true ∧
          h.lifecycle.isNone = true) := by
    cases hLifecycle : h.lifecycle <;>
      simp_all [PiHistory.admits]
  simp only [historyStep, hRun, hKind, hData, ne_eq,
    not_true_eq_false, refuseIf, if_false, ok_bind, orError_some,
    hCwd, hId, hPath, hOld, hReserved.1, hReserved.2,
    Bool.false_eq_true, or_false, false_or]
  split <;> simp_all

theorem historyStep_fact
    {fact : CallerPiLifecycle}
    (hRun : ev.runId = env.runId)
    (hTells : ev.tells id .callerPiLifecycle = true)
    (hData : ev.data.asCallerPiLifecycle = some fact) :
    historyStep env checkout h ev =
      .ok { h with lifecycle := some fact } := by
  have hKind := (Event.tells_iff.mp hTells).2
  simp [historyStep, hRun, hKind, hData, refuseIf]

theorem historyStep_untold
    (hRun : ev.runId = env.runId)
    (hNode : ev.nodeId = some id)
    (hBound : ev.tells id .callerPiSessionBound = false)
    (hFact : ev.tells id .callerPiLifecycle = false) :
    historyStep env checkout h ev = .ok h := by
  have hKinds :
      ev.kind ≠ .callerPiSessionBound ∧
        ev.kind ≠ .callerPiLifecycle := by
    simpa [Event.tells, hNode] using And.intro hBound hFact
  simp only [historyStep, hRun, refuseIf]
  split <;> simp_all

/- The history is that of the checkout, where it has a place. -/
def PiHistory.isAt (checkout : String) (h : PiHistory) : Bool :=
  h.binding.all (fun b => b.originalCwd = checkout)

/-
  The second reading of one event, in step with the first.
  It stops at a binding that was made for another checkout.
-/
theorem historyStep_of_piStep
    (hRun : ev.runId = env.runId)
    (hNode : ev.nodeId = some id)
    (hStep : PiStep id ev h h')
    (hTold : h.Told id events)
    (hHere : h.isAt checkout = true)
    (hInTime : ev.repeatsInTime id events = true) :
    historyStep env checkout h ev =
      if h'.isAt checkout then .ok h'
      else .error bindingMismatch := by
  cases hStep with
  | untold hBound hFact =>
      rw [historyStep_untold hRun hNode hBound hFact, if_pos hHere]
  | repeated bound hTells hData hNamed hHas =>
      have hAdmits :=
        admits_of_repeat hTold hTells hData hHas hInTime
      rw [historyStep_binding hRun hTells hData hNamed
        (by simp [hHas]) hAdmits, bind_of_repeat hTold hHas]
      simp [PiHistory.isAt, hHas]
  | bound bound hTells hData hNamed hNone hAdmits =>
      rw [historyStep_binding hRun hTells hData hNamed
        (by simp [hNone]) hAdmits]
      simp [PiHistory.isAt, PiHistory.bind]
  | told fact hTells hData _ =>
      rw [historyStep_fact hRun hTells hData]
      exact (if_pos hHere).symm

end Reading

------------------------------------------------------------
-- Runs
------------------------------------------------------------

theorem AcceptedRun.unconcat
    {env : RunEnv} {d d' : Disk} {evs : List Event} {ev : Event}
    (hRun : AcceptedRun env d (evs ++ [ev]) d') :
    ∃ mid, AcceptedRun env d evs mid ∧
      Accepts env mid ev d' := by
  induction evs generalizing d with
  | nil => exact ⟨d, .nil d, hRun.accepts⟩
  | cons first rest ih =>
      cases hRun with
      | cons hFirst hLater =>
          rcases ih hLater with ⟨mid, hBefore, hLast⟩
          exact ⟨mid, .cons hFirst hBefore, hLast⟩

section Runs

variable {env : RunEnv} {evs : List Event} {d : Disk}
variable {id : NodeId}

theorem told_of_acceptedRun
    (hRun : AcceptedRun env Disk.empty evs d) :
    (d.piHistory id).Told id evs := by
  induction evs using List.reverseRecOn generalizing d with
  | nil =>
      cases hRun
      constructor
      · intro hSome
        simp [Disk.piHistory, Disk.empty, PiHistory.empty]
          at hSome
      · rfl
      · intro fact hFact
        simp [Disk.piHistory, Disk.empty, PiHistory.empty]
          at hFact
  | append_singleton evs ev ih =>
      rcases hRun.unconcat with ⟨mid, hBefore, hLast⟩
      exact (piStep_of_accepts hLast).keeps_told (ih hBefore)

/- A binding that is there stays, and so does its checkout. -/
theorem PiStep.isAt_mono
    {ev : Event} {h h' : PiHistory} {checkout : String}
    (hStep : PiStep id ev h h')
    (hAway : h.isAt checkout = false) :
    h'.isAt checkout = false := by
  cases hStep with
  | untold => exact hAway
  | repeated => exact hAway
  | bound _ _ _ _ hNone _ =>
      simp [PiHistory.isAt, hNone] at hAway
  | told => exact hAway

/-
  The history worked out from the log of accepted events is
  the projection's. It stops where the session was bound in
  another checkout than the one that is asked about.
-/
theorem piHistory_of_run
    (checkout : String)
    (hRun : AcceptedRun env Disk.empty evs d)
    (hRepeats : RepeatsInTime id evs) :
    piHistory env id checkout evs =
      if (d.piHistory id).isAt checkout then
        .ok (d.piHistory id)
      else .error bindingMismatch := by
  induction evs using List.reverseRecOn generalizing d with
  | nil =>
      cases hRun
      rfl
  | append_singleton evs ev ih =>
      rcases hRun.unconcat with ⟨mid, hBefore, hLast⟩
      rcases hRepeats.concat with ⟨hEarlier, hInTime⟩
      have hRead := ih hBefore hEarlier
      have hStep :
          PiStep id ev (mid.piHistory id) (d.piHistory id) :=
        piStep_of_accepts hLast
      unfold piHistory at hRead ⊢
      rw [List.filter_append, List.foldlM_append, hRead]
      cases hHere : (mid.piHistory id).isAt checkout with
      | false =>
          rw [hStep.isAt_mono hHere]
          rfl
      | true =>
          by_cases hNode : ev.nodeId = some id
          · have hRunId : ev.runId = env.runId := by
              rcases hLast with ⟨ops, hPlan, _⟩
              exact (planned_of_reduce hPlan).1
            have hAgain :=
              historyStep_of_piStep hRunId hNode hStep
                (told_of_acceptedRun hBefore) hHere hInTime
            simp only [List.filter_singleton, hNode, decide_true,
              cond_true, if_true, ok_bind, List.foldlM_cons,
              List.foldlM_nil, hAgain]
            split <;> rfl
          · have hUntold : ∀ kind, ev.tells id kind = false := by
              simp [Event.tells, hNode]
            rw [piHistory_framed hLast (hUntold _) (hUntold _),
              hHere]
            simp [hNode]

end Runs

/- A session of another checkout is not retained for this one. -/
theorem not_retained_of_away
    (files : NativeFiles)
    {n : Node} {checkout : String}
    (hAway : n.piHistory.isAt checkout = false) :
    callerHistoryRetained files n checkout = false := by
  cases hSession : n.callerPiSession with
  | none =>
      simp [PiHistory.isAt, Node.piHistory, hSession] at hAway
  | some bound =>
      have hOther : bound.originalCwd ≠ checkout := by
        simpa [PiHistory.isAt, Node.piHistory, hSession]
          using hAway
      cases hLifecycle : n.callerPiLifecycle <;>
        simp [callerHistoryRetained, hSession, hLifecycle, hOther]

theorem retained_of_checked
    {env : RunEnv} {files : NativeFiles}
    {lines : List LogLine} {n : Node} {checkout : String}
    (hChecked :
      historyChecked env files lines n checkout = .ok ()) :
    callerHistoryRetained files n checkout = true := by
  simp only [historyChecked, bind_eq_ok, refuseIf_eq_ok]
    at hChecked
  rcases hChecked with ⟨_, _, _, _, hRest⟩
  simp only [not_or, not_not] at hRest
  exact hRest.2.2

theorem checked_of_retained
    {env : RunEnv} {files : NativeFiles} {evs : List Event}
    {lines : List LogLine} {n : Node} {checkout : String}
    (hLog : readAllEvents lines = .ok evs)
    (hHistory :
      piHistory env n.nodeId checkout evs = .ok n.piHistory)
    (hRetained : callerHistoryRetained files n checkout = true) :
    historyChecked env files lines n checkout = .ok () := by
  simp only [historyChecked, bind_eq_ok, mapError_eq_ok,
    refuseIf_eq_ok]
  refine ⟨evs, hLog, n.piHistory, hHistory, ?_⟩
  simp [Node.piHistory, hRetained]

/-
  On every sequence of accepted events that repeats a session
  binding only while it may still be bound, the history the
  log tells is the one the reducer has folded, and the check
  succeeds exactly when that history is retained.
-/
theorem piHistory_of_acceptedRun
    (env : RunEnv)
    (files : NativeFiles)
    (evs : List Event)
    (lines : List LogLine)
    (d : Disk)
    (id : NodeId)
    (n : Node)
    (checkout : String)
    (hRun : AcceptedRun env Disk.empty evs d)
    (hLog : readAllEvents lines = .ok evs)
    (hNode : readNodeOpt env d id = .ok (some n))
    (hRepeats : RepeatsInTime id evs) :
    piHistory env n.nodeId checkout evs =
        (if n.callerPiSession.all (fun b =>
            b.originalCwd = checkout) then
          .ok ⟨n.callerPiLifecycle, n.callerPiSession⟩
        else .error bindingMismatch) ∧
      (historyChecked env files lines n checkout = .ok () ↔
        callerHistoryRetained files n checkout = true) := by
  rcases readNodeOpt_eq_some.mp hNode with ⟨hLookup, hValid⟩
  have hHistory := piHistory_of_run checkout hRun hRepeats
  rw [Disk.piHistory_of_lookup hLookup, ← hValid.nodeId]
    at hHistory
  constructor
  · exact hHistory
  · constructor
    · exact retained_of_checked
    · intro hRetained
      apply checked_of_retained hLog _ hRetained
      rw [hHistory]
      apply if_pos
      by_contra hAway
      rw [Bool.not_eq_true] at hAway
      rw [not_retained_of_away files hAway] at hRetained
      cases hRetained

namespace Sample

def piPath : String := "/h/.pi/agent/sessions/t_s.jsonl"

/- A fact about the session that is bound to the node. -/
def piBoundFact
    (seq generation : Nat)
    (state : String)
    (rest : List (String × Json)) : Event :=
  piFact seq generation state
    (rest ++ [("session_path", .str piPath)])

def piBinding (seq : Nat) : Event :=
  event seq .callerPiSessionBound (some .first)
    (.obj
      [("file_dev", .int 1), ("file_ino", .int 2),
        ("generation", .int 1),
        ("original_cwd", .str "/w"),
        ("pi_session_id", .str "s"),
        ("session_path", .str piPath)])

/- A caller-owned node with a reserved session. -/
def piReserved : List Event := piEnded.take 3

/- The binding is told twice before the session starts. -/
def piRepeated : List Event :=
  piReserved ++
    [piBinding 4, piBinding 5, piBoundFact 6 1 "started" [],
      piBoundFact 7 1 "exited" [("reason", .str "done")]]

/- The binding is told again after the session has ended. -/
def piLate : List Event :=
  piReserved ++
    [piBinding 4, piBoundFact 5 1 "started" [],
      piBoundFact 6 1 "exited" [("reason", .str "done")],
      piBinding 7]

/- The launch failed and nothing was bound. -/
def piUnbound : List Event :=
  piReserved ++
    [piFact 4 1 "launch-failed" [("reason", .str "no host")]]

/- The native file of the sample session. -/
def piFiles : NativeFiles where
  verify := fun path id checkout =>
    if path = piPath ∧ id = "s" ∧ checkout = "/w" then
      some (1, 2)
    else none

/- The sample node after some events, if a test holds of it. -/
def piNode (evs : List Event) (test : Node → Bool) : Bool :=
  match readNodeOpt env (foldAll env Disk.empty evs) .first with
  | .ok (some n) => test n
  | _ => false

theorem node_of_piNode
    {evs : List Event} {test : Node → Bool}
    (hTest : piNode evs test = true) :
    ∃ n,
      readNodeOpt env (foldAll env Disk.empty evs) .first =
        .ok (some n) ∧ test n = true := by
  unfold piNode at hTest
  split at hTest
  next n hRead => exact ⟨n, hRead, hTest⟩
  · cases hTest

end Sample

/- A binding told twice in time; the ended session is kept. -/
theorem piHistory_of_repeat :
    ∃ d n,
      AcceptedRun Sample.env Disk.empty Sample.piRepeated d ∧
        readNodeOpt Sample.env d .first = .ok (some n) ∧
        historyChecked Sample.env Sample.piFiles
          (Sample.piRepeated.map .event) n "/w" = .ok () := by
  have hRun :
      AcceptedRun Sample.env Disk.empty Sample.piRepeated
        (foldAll Sample.env Disk.empty Sample.piRepeated) :=
    acceptedRun_foldAll (by decide +kernel)
  have hLog :
      readAllEvents (Sample.piRepeated.map .event) =
        .ok Sample.piRepeated := by
    rfl
  have hTest :
      Sample.piNode Sample.piRepeated (fun n =>
        callerHistoryRetained Sample.piFiles n "/w") = true := by
    decide +kernel
  rcases Sample.node_of_piNode hTest with ⟨n, hNode, hRetained⟩
  have hAgrees :=
    piHistory_of_acceptedRun Sample.env Sample.piFiles
      Sample.piRepeated (Sample.piRepeated.map .event) _ .first n
      "/w" hRun hLog hNode (by decide +kernel)
  exact ⟨_, n, hRun, hNode, hAgrees.2.mpr hRetained⟩

/-
  Accepted logs that the check refuses whatever files there
  are. A generation that was reserved and never bound has no
  history to keep. A binding that is told again after its
  session has ended is refused though its history is there.
-/
theorem piHistory_refused :
    (∃ d n,
      AcceptedRun Sample.env Disk.empty Sample.piUnbound d ∧
        readNodeOpt Sample.env d .first = .ok (some n) ∧
        n.worktreePath = some "/w" ∧
        ∀ files, historyChecked Sample.env files
          (Sample.piUnbound.map .event) n "/w" ≠ .ok ()) ∧
      (∃ d n,
        AcceptedRun Sample.env Disk.empty Sample.piLate d ∧
          readNodeOpt Sample.env d .first = .ok (some n) ∧
          n.worktreePath = some "/w" ∧
          callerHistoryRetained Sample.piFiles n "/w" = true ∧
          ∀ files, historyChecked Sample.env files
            (Sample.piLate.map .event) n "/w" ≠ .ok ()) := by
  constructor
  · have hTest :
        Sample.piNode Sample.piUnbound (fun n =>
          n.worktreePath = some "/w" ∧
            n.callerPiLifecycle.isSome ∧
            n.callerPiSession = none) = true := by
      decide +kernel
    rcases Sample.node_of_piNode hTest with ⟨n, hNode, hFacts⟩
    rw [decide_eq_true_eq] at hFacts
    rcases hFacts with ⟨hPath, hReserved, hUnbound⟩
    refine ⟨_, n, acceptedRun_foldAll (by decide +kernel), hNode,
      hPath, fun files hChecked => ?_⟩
    have hRetained := retained_of_checked hChecked
    rcases Option.isSome_iff_exists.mp hReserved with ⟨pi, hPi⟩
    simp [callerHistoryRetained, hPi, hUnbound] at hRetained
  · have hTest :
        Sample.piNode Sample.piLate (fun n =>
          n.worktreePath = some "/w" ∧
            callerHistoryRetained Sample.piFiles n "/w" = true ∧
            (piHistory Sample.env n.nodeId "/w"
              Sample.piLate).isOk = false) = true := by
      decide +kernel
    rcases Sample.node_of_piNode hTest with ⟨n, hNode, hFacts⟩
    rw [decide_eq_true_eq] at hFacts
    rcases hFacts with ⟨hPath, hRetained, hStops⟩
    refine ⟨_, n, acceptedRun_foldAll (by decide +kernel), hNode,
      hPath, hRetained, fun files hChecked => ?_⟩
    simp only [historyChecked, bind_eq_ok, mapError_eq_ok]
      at hChecked
    rcases hChecked with ⟨evs, hLog, h, hHistory, _⟩
    have hEvents :
        readAllEvents (Sample.piLate.map .event) =
          .ok Sample.piLate := by
      rfl
    rw [hEvents, Except.ok.injEq] at hLog
    subst hLog
    rw [hHistory] at hStops
    cases hStops

end Taskfleet
