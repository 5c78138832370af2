import Taskfleet.Cleanup
import Taskfleet.Answers
import Taskfleet.Reducer.Rounds
import Taskfleet.Reducer.Inputs

/-
  The tick of a supervisor over a resident worker: the idle
  expiry of the open round.

  The clock, git and the resident lock are parameters. The
  notification of a round is left out, and no other writer
  comes between the reads of a tick and its append.

  Attention is recorded under a key that names the report of
  the open round. A landing takes the flag down and leaves
  the round open, so that a later tick finds its key in the
  log and the flag stays down.

  Main declarations:
    * `Resident.idleDeadline`, `Resident.tick`
    * `Resident.Expires`, `Resident.wp_tick`
    * `Resident.attention_raised_iff`
-/

------------------------------------------------------------
-- The Deadline
------------------------------------------------------------

namespace Taskfleet

open CommitGraph Fallible

namespace Resident

/- A longer duration in seconds cannot be built. -/
def maxSeconds : Nat := (2 ^ 63 - 1) / 1000

inductive Panic where
| durationOutOfBounds
deriving DecidableEq, Repr

/-
  When idle expiry may act: the time of the open report plus
  the policy, once the worker has exited.
-/
def idleDeadline
    (maxTime : Time) (policy : ResidentPolicy) (n : Node) :
    Except Panic (Option Time) :=
  match n.resident with
  | none => .ok none
  | some state =>
      if state.dormantSince.isSome ∨ n.workerExit = none then
        .ok none
      else
        match state.openRound with
        | none => .ok none
        | some round =>
            let secs := min policy.idleExpirySecs (2 ^ 63 - 1)
            let deadline := round.reportedAt + secs * 10 ^ 9
            if maxSeconds < secs then
              .error .durationOutOfBounds
            else if deadline ≤ maxTime then .ok (some deadline)
            else .ok none

/- What one tick meets outside the run directory. -/
structure TickWorld where
  now : Time
  again : Time
  stamp : Time
  maxTime : Time
  lockFree : Bool
  cleanup : CleanupWorld

def TickWorld.overdue
    (world : TickWorld)
    (now : Time)
    (policy : ResidentPolicy)
    (n : Node) : Except Panic Bool := do
  match ← idleDeadline world.maxTime policy n with
  | none => return false
  | some deadline => return decide (deadline ≤ now)

------------------------------------------------------------
-- The Tick
------------------------------------------------------------

/- A live resident run between rounds, as a tick reads it. -/
structure Waiting where
  manifest : Manifest
  policy : ResidentPolicy
  node : Node
  state : ResidentState
  round : RoundReport

def readManifestAnyway (env : RunEnv) (d : Disk) :
    Option Manifest :=
  (readManifestOpt env d).toOption.join

def readFirstNode (env : RunEnv) (d : Disk) : Option Node :=
  (readNodeOpt env d .first).toOption.join

def waiting (env : RunEnv) (d : Disk) : Option Waiting := do
  let manifest ← readManifestAnyway env d
  let node ← readFirstNode env d
  let policy ← manifest.resident
  if manifest.status.isTerminal || node.status.isTerminal then
    none
  else do
    let state ← node.resident
    let round ← state.openRound
    return ⟨manifest, policy, node, state, round⟩

/- Neither asleep nor flagged. -/
def unattended (state : ResidentState) : Bool :=
  state.dormantSince.isNone && state.expiryAttentionAt.isNone

/- The second look, at a node read under the resident lock. -/
def TickWorld.stillDue
    (world : TickWorld) (seen : Waiting) (n : Node) :
    Except Panic Bool :=
  if !n.status.isTerminal &&
      n.resident.any (fun state =>
        unattended state &&
          state.openRound.any (fun round =>
            round.eventSeq == seen.round.eventSeq)) then
    world.overdue world.again seen.policy n
  else .ok false

def expiryKey (env : RunEnv) (round : RoundReport) : String :=
  "resident-expiry:" ++ env.runId.val ++ ":" ++
    toString round.eventSeq

/- What a tick records of the removal that it tried. -/
def expiryRequest
    (env : RunEnv)
    (world : TickWorld)
    (round : RoundReport)
    (n : Node) : Except String Unit → Request
| .ok () => {
    now := world.stamp
    kind := .nodeResidentDormant
    nodeId := some .first
    key := some (expiryKey env round)
    data := .obj
      [("reason", .str "idle-expired"),
        ("round", .int round.round),
        ("worktree_path", textOrNull n.worktreePath)] }
| .error reason => {
    now := world.stamp
    kind := .nodeResidentAttention
    nodeId := some .first
    key := some (expiryKey env round)
    data := .obj
      [("reason", .str reason), ("round", .int round.round)] }

inductive Ticked where
| quiet
| busy
| panicked
| unrecorded (kind : EventKind)
| recorded (kind : EventKind) (result : AppendResult)
deriving DecidableEq, Repr

section Ticks

variable {C : Type}

/- The removal and its record, the resident lock held. -/
def expire
    (env : RunEnv)
    (world : TickWorld)
    (seen : Waiting)
    (n : Node)
    (m : Option Manifest)
    (g : Repo C) : Locked (Ticked × Repo C) :=
  let removed :=
    removeLandedResidentWorktree world.cleanup m n g
  let r := expiryRequest env world seen.round n removed.2
  Durable.orReturn (.unrecorded r.kind, removed.1) (do
    let result ← appendAndApplyEvent env r
    return (.recorded r.kind result, removed.1))

/- The part of a tick that holds the resident lock. -/
def tickLocked
    (env : RunEnv)
    (world : TickWorld)
    (seen : Waiting)
    (g : Repo C) : Locked (Ticked × Repo C) := do
  let d ← Durable.read
  match readFirstNode env d with
  | none => return (.quiet, g)
  | some n =>
      match world.stillDue seen n with
      | .error .durationOutOfBounds => return (.panicked, g)
      | .ok false => return (.quiet, g)
      | .ok true =>
          expire env world seen n (readManifestAnyway env d) g

def tick (env : RunEnv) (world : TickWorld) (g : Repo C) :
    Locked (Ticked × Repo C) := do
  let d ← Durable.read
  match waiting env d with
  | none => return (.quiet, g)
  | some seen =>
      if !unattended seen.state then return (.quiet, g)
      else
        match
          world.overdue world.now seen.policy seen.node with
        | .error .durationOutOfBounds => return (.panicked, g)
        | .ok false => return (.quiet, g)
        | .ok true =>
            if world.lockFree then tickLocked env world seen g
            else return (.busy, g)

end Ticks

------------------------------------------------------------
-- When a Tick Acts
------------------------------------------------------------

/- Every look at an unattended resident finds it overdue. -/
structure Due
    (env : RunEnv)
    (world : TickWorld)
    (d : Disk)
    (seen : Waiting) : Prop where
  found : waiting env d = some seen
  unattended : unattended seen.state = true
  first :
    world.overdue world.now seen.policy seen.node = .ok true
  again :
    world.overdue world.again seen.policy seen.node = .ok true

section Cases

variable {env : RunEnv} {world : TickWorld} {d : Disk}
variable {seen : Waiting}

theorem waiting_eq_some :
    waiting env d = some seen ↔
      readManifestAnyway env d = some seen.manifest ∧
        readFirstNode env d = some seen.node ∧
        seen.manifest.resident = some seen.policy ∧
        seen.manifest.status.isTerminal = false ∧
        seen.node.status.isTerminal = false ∧
        seen.node.resident = some seen.state ∧
        seen.state.openRound = some seen.round := by
  rcases seen with ⟨manifest, policy, node, state, round⟩
  simp only [waiting, Option.bind_eq_bind, Option.pure_def,
    Option.bind_eq_some_iff, Option.ite_none_left_eq_some,
    Bool.or_eq_true, not_or, Bool.not_eq_true, Option.some.injEq,
    Waiting.mk.injEq]
  constructor
  · rintro ⟨_, hManifest, _, hNode, _, hPolicy, ⟨hRun, hLive⟩,
      _, hState, _, hRound, rfl, rfl, rfl, rfl, rfl⟩
    exact ⟨hManifest, hNode, hPolicy, hRun, hLive, hState,
      hRound⟩
  · rintro ⟨hManifest, hNode, hPolicy, hRun, hLive, hState,
      hRound⟩
    exact ⟨manifest, hManifest, node, hNode, policy, hPolicy,
      ⟨hRun, hLive⟩, state, hState, round, hRound, rfl, rfl,
      rfl, rfl, rfl⟩

/- On the same node the second look asks the clock alone. -/
theorem stillDue_seen
    (hSeen : waiting env d = some seen)
    (hUnattended : unattended seen.state = true) :
    world.stillDue seen seen.node =
      world.overdue world.again seen.policy seen.node := by
  rcases waiting_eq_some.mp hSeen with
    ⟨_, _, _, _, hLive, hState, hRound⟩
  simp [TickWorld.stillDue, hLive, hState, hRound, hUnattended]

section Rule

variable {C : Type} {g : Repo C}
variable {Q : Ticked × Repo C → Disk → Prop}
variable {E : Error → Disk → Prop}
variable {B : Boundary → Disk → Prop}

theorem wp_tickLocked
    (hFound : waiting env d = some seen)
    (hUnattended : unattended seen.state = true)
    (hQuiet :
      world.overdue world.again seen.policy seen.node =
        .ok false →
      Q (.quiet, g) d)
    (hPanic : Q (.panicked, g) d)
    (hActs :
      world.overdue world.again seen.policy seen.node =
        .ok true →
      Durable.wp
        (expire env world seen seen.node (some seen.manifest) g)
        Q E B d) :
    Durable.wp (tickLocked env world seen g) Q E B d := by
  have hRead := waiting_eq_some.mp hFound
  unfold tickLocked
  rw [Durable.wp_bind, Durable.wp_read, hRead.2.1]
  dsimp only
  rw [stillDue_seen hFound hUnattended, hRead.1]
  cases hAgain :
      world.overdue world.again seen.policy seen.node with
  | error panic =>
      cases panic
      exact (Durable.wp_pure _).mpr hPanic
  | ok due =>
      cases due with
      | false => exact (Durable.wp_pure _).mpr (hQuiet hAgain)
      | true => exact hActs hAgain

/-
  A tick gives up and leaves everything as it is, quietly
  only where nothing is due, or it comes to the removal.
-/
theorem wp_tick
    (hQuiet : (∀ seen, ¬ Due env world d seen) →
      Q (.quiet, g) d)
    (hBusy : Q (.busy, g) d)
    (hPanic : Q (.panicked, g) d)
    (hActs : ∀ seen, Due env world d seen →
      Durable.wp
        (expire env world seen seen.node (some seen.manifest) g)
        Q E B d) :
    Durable.wp (tick env world g) Q E B d := by
  unfold tick
  rw [Durable.wp_bind, Durable.wp_read]
  cases hFound : waiting env d with
  | none =>
      refine (Durable.wp_pure _).mpr (hQuiet ?_)
      intro seen hDue
      rw [hDue.found] at hFound
      cases hFound
  | some seen =>
      have hQuietly :
          ¬ Due env world d seen → Q (.quiet, g) d := by
        intro hNot
        apply hQuiet
        intro other hDue
        have hSame := hDue.found.symm.trans hFound
        rw [Option.some.injEq] at hSame
        exact hNot (hSame ▸ hDue)
      dsimp only
      cases hUnattended : unattended seen.state with
      | false =>
          refine (Durable.wp_pure _).mpr (hQuietly ?_)
          intro hDue
          simp [hDue.unattended] at hUnattended
      | true =>
          rw [Bool.not_true, if_neg Bool.false_ne_true]
          cases hFirst :
              world.overdue world.now seen.policy seen.node with
          | error panic =>
              cases panic
              exact (Durable.wp_pure _).mpr hPanic
          | ok due =>
              cases due with
              | false =>
                  refine (Durable.wp_pure _).mpr (hQuietly ?_)
                  intro hDue
                  simp [hDue.first] at hFirst
              | true =>
                  dsimp only
                  split
                  · apply wp_tickLocked hFound hUnattended
                    · intro hAgain
                      apply hQuietly
                      intro hDue
                      simp [hDue.again] at hAgain
                    · exact hPanic
                    · intro hAgain
                      exact hActs seen
                        ⟨hFound, hUnattended, hFirst, hAgain⟩
                  · exact (Durable.wp_pure _).mpr hBusy

end Rule

/- What the tick of a due resident records. -/
def recordOf
    {C : Type} (env : RunEnv) (world : TickWorld)
    (seen : Waiting) (g : Repo C) : Request :=
  expiryRequest env world seen.round seen.node
    (removeLandedResidentWorktree world.cleanup
      (some seen.manifest) seen.node g).2

/- How a tick ends: idle, or with a record or without. -/
inductive Outcome
    {C : Type} (env : RunEnv) (world : TickWorld)
    (g : Repo C) (d : Disk) :
    Ticked × Repo C → Disk → Prop where
| quiet (hNot : ∀ seen, ¬ Due env world d seen) :
    Outcome env world g d (.quiet, g) d
| busy : Outcome env world g d (.busy, g) d
| panicked : Outcome env world g d (.panicked, g) d
| unrecorded (seen : Waiting) (kind : EventKind) (g' : Repo C)
    (hDue : Due env world d seen) :
    Outcome env world g d (.unrecorded kind, g')
      (catchUp env d)
| recorded (seen : Waiting) (result : AppendResult)
    (g' : Repo C) (s : Disk)
    (hDue : Due env world d seen)
    (hAnswered :
      Answered env d (recordOf env world seen g) result s) :
    Outcome env world g d
      (.recorded (recordOf env world seen g).kind result, g') s

theorem wp_tick_outcome
    {C : Type}
    (world : TickWorld)
    (g : Repo C)
    (hOrdered : d.Ordered) :
    Durable.wp (tick env world g) (Outcome env world g d)
      (fun _ _ => False) (fun _ _ => True) d := by
  apply wp_tick
  · exact .quiet
  · exact .busy
  · exact .panicked
  · intro seen hDue
    unfold expire
    dsimp only
    rw [Durable.wp_orReturn, Durable.wp_bind]
    refine Durable.wp_mono
      (wp_event_answered (recordOf env world seen g) hOrdered)
      ?_ ?_ (fun _ _ h => h)
    · intro result s hAnswered
      exact (Durable.wp_pure _).mpr
        (.recorded seen result _ s hDue hAnswered)
    · rintro _ s rfl
      exact .unrecorded seen _ _ hDue

end Cases

------------------------------------------------------------
-- Attention
------------------------------------------------------------

/- The flag on the first node. -/
def attention (d : Disk) : Option Time :=
  (d.nodes.lookup .first).bind (fun n =>
    n.residentState.expiryAttentionAt)

/- The first node is live and its round is open. -/
def Between (d : Disk) : Prop :=
  ∃ n, d.nodes.lookup .first = some n ∧
    n.status.isTerminal = false ∧
    n.residentState.openRound ≠ none

section Attention

variable {env : RunEnv} {world : TickWorld} {d s : Disk}
variable {seen : Waiting} {ev : Event}

/- An attention event raises the flag between rounds alone. -/
theorem attention_of_accepts
    (hAccepts : Accepts env d ev s)
    (hKind : ev.kind = .nodeResidentAttention)
    (hNode : ev.nodeId = some .first) :
    (attention s).isSome = true ↔
      (attention d).isSome = true ∨ Between d := by
  unfold attention Between
  cases hLookup : d.nodes.lookup .first with
  | none =>
      have hChange := nodeChange_of_accepts hAccepts .first
      rw [hLookup] at hChange
      generalize s.nodes.lookup .first = after at hChange
      cases hChange with
      | kept => simp
      | created n hCreated =>
          rw [hKind] at hCreated
          cases hCreated
  | some n =>
      have hArm : nodeArm env d ev .first =
          some (nodeResidentAttentionArm env d ev) := by
        simp [nodeArm, hKind]
      rcases stepped_of_accepts hAccepts hNode hArm hLookup with
        ⟨step, o, hOk, hStep, hAfter⟩
      simp only [nodeResidentAttentionArm, bind_eq_ok, pure_eq,
        Except.ok.injEq] at hOk
      rcases hOk with ⟨_, _, _, _, rfl⟩
      rw [hAfter]
      simp only [Option.bind_some, Option.some.injEq,
        exists_eq_left']
      cases hLive : n.status.isTerminal with
      | true =>
          simp only [hLive, if_true, Except.ok.injEq] at hStep
          simp [← hStep]
      | false =>
          simp only [hLive, Bool.false_eq_true, if_false]
            at hStep
          split at hStep
          next hIdle =>
            cases hStep
            rcases hIdle with hClosed | hFlagged
            · simp [hClosed]
            · simp [hFlagged]
          next hOpen =>
            cases hStep
            rw [not_or] at hOpen
            constructor
            · exact fun _ => .inr ⟨rfl, hOpen.1⟩
            · exact fun _ => rfl

/- A tick that recorded what it found, or found nothing. -/
def Ticked.succeeds : Ticked → Bool
| .quiet | .recorded _ _ => true
| .busy | .panicked | .unrecorded _ => false

/- The work that is there keeps the checkout. -/
def Holds
    {C : Type} (world : TickWorld) (seen : Waiting)
    (g : Repo C) : Prop :=
  ∃ reason,
    (removeLandedResidentWorktree world.cleanup
      (some seen.manifest) seen.node g).2 = .error reason

/-
  Where attention gets through: the flag is up already, or it
  was never raised for this report and the round is open. The
  append sees the run with its log folded.
-/
def GetsThrough
    (env : RunEnv) (d : Disk) (round : RoundReport) : Prop :=
  (attention d).isSome = true ∨
    (attention (catchUp env d)).isSome = true ∨
    ¬ d.Recorded .nodeResidentAttention
        (expiryKey env round) ∧
      Between (catchUp env d)

theorem attention_of_waiting
    (hFound : waiting env d = some seen) :
    attention d = seen.state.expiryAttentionAt := by
  rcases waiting_eq_some.mp hFound with
    ⟨_, hNode, _, _, _, hState, _⟩
  unfold readFirstNode at hNode
  rw [Option.join_eq_some_iff] at hNode
  have hLookup :=
    (readNodeOpt_eq_some.mp (ok_of_toOption hNode)).1
  simp [attention, hLookup, Node.residentState, hState]

/- A deadline is for a worker that is not asleep. -/
theorem awake_of_deadline
    {maxTime deadline : Time} {policy : ResidentPolicy}
    {n : Node} {state : ResidentState}
    (hState : n.resident = some state)
    (hDeadline :
      idleDeadline maxTime policy n = .ok (some deadline)) :
    state.dormantSince = none := by
  unfold idleDeadline at hDeadline
  rw [hState] at hDeadline
  dsimp only at hDeadline
  cases hDormant : state.dormantSince with
  | none => rfl
  | some t => simp [hDormant] at hDeadline

theorem overdue_of_deadline
    {now deadline : Time} {policy : ResidentPolicy} {n : Node}
    (hDeadline :
      idleDeadline world.maxTime policy n =
        .ok (some deadline))
    (hPassed : deadline ≤ now) :
    world.overdue now policy n = .ok true := by
  simp [TickWorld.overdue, hDeadline, hPassed]

theorem flag_of_unattended
    {state : ResidentState}
    (hUnattended : unattended state = true) :
    state.expiryAttentionAt = none := by
  rw [unattended, Bool.and_eq_true] at hUnattended
  exact Option.isNone_iff_eq_none.mp hUnattended.2

theorem attention_raised_iff
    {C : Type} {g g' : Repo C} {deadline : Time}
    {o : Ticked}
    (hOutcome : Outcome env world g d (o, g') s)
    (hFound : waiting env d = some seen)
    (hDeadline :
      idleDeadline world.maxTime seen.policy seen.node =
        .ok (some deadline))
    (hNow : deadline ≤ world.now)
    (hAgain : deadline ≤ world.again)
    (hHolds : Holds world seen g)
    (hSucceeds : o.succeeds = true) :
    (attention s).isSome = true ↔
      GetsThrough env d seen.round := by
  have hState := (waiting_eq_some.mp hFound).2.2.2.2.2.1
  have hAwake := awake_of_deadline hState hDeadline
  have hFlag := attention_of_waiting hFound
  have hDueHere : attention d = none →
      Due env world d seen := by
    intro hDown
    refine ⟨hFound, ?_, overdue_of_deadline hDeadline hNow,
      overdue_of_deadline hDeadline hAgain⟩
    rw [hFlag] at hDown
    simp [unattended, hAwake, hDown]
  unfold GetsThrough
  cases hOutcome with
  | quiet hNot =>
      have hUp : (attention d).isSome = true := by
        rw [Option.isSome_iff_ne_none]
        exact fun hDown => hNot seen (hDueHere hDown)
      simp [hUp]
  | busy => exact absurd hSucceeds Bool.false_ne_true
  | panicked => exact absurd hSucceeds Bool.false_ne_true
  | unrecorded => exact absurd hSucceeds Bool.false_ne_true
  | recorded other result _ _ hDue hAnswered =>
      have hSame := hDue.found.symm.trans hFound
      rw [Option.some.injEq] at hSame
      subst hSame
      have hDown : attention d = none := by
        rw [hFlag]
        exact flag_of_unattended hDue.unattended
      rcases hHolds with ⟨reason, hReason⟩
      rw [recordOf, hReason] at hAnswered
      rw [hDown]
      cases hAnswered with
      | replayed key prior hKey hRecorded =>
          cases hKey
          have hSaid : d.Recorded .nodeResidentAttention
              (expiryKey env other.round) := hRecorded
          simp [hSaid]
      | accepted seq applied _ hNew hAccepts hLines =>
          have hUnsaid : ¬ d.Recorded .nodeResidentAttention
              (expiryKey env other.round) := hNew _ rfl
          rw [attention_of_accepts hAccepts rfl rfl]
          simp [hUnsaid]

/- Nothing is due, or what is found is in the log already. -/
def NothingNew
    {C : Type} (env : RunEnv) (world : TickWorld)
    (g : Repo C) (d : Disk) : Prop :=
  ∀ seen, Due env world d seen →
    d.Recorded (recordOf env world seen g).kind
      (expiryKey env seen.round)

theorem recordOf_key
    {C : Type} (g : Repo C) :
    (recordOf env world seen g).key =
      some (expiryKey env seen.round) := by
  unfold recordOf
  generalize
    (removeLandedResidentWorktree world.cleanup
      (some seen.manifest) seen.node g).2 = removed
  cases removed <;> rfl

theorem silent_of_nothingNew
    {C : Type} {g : Repo C} {out : Ticked × Repo C}
    (hOutcome : Outcome env world g d out s)
    (hOrdered : d.Ordered)
    (hNothing : NothingNew env world g d) :
    s.events = d.events := by
  have hCaughtUp : (catchUp env d).events = d.events := by
    have hLines : (catchUp env d).lines = d.lines :=
      Durable.wp_final
        (Durable.wp_mono (wp_catchUp hOrdered)
          (fun _ _ h => h.2.1) (fun _ _ h => h.2)
          (fun _ _ h => h))
    simp only [Disk.events, hLines]
  cases hOutcome with
  | quiet => rfl
  | busy => rfl
  | panicked => rfl
  | unrecorded => exact hCaughtUp
  | recorded seen result _ _ hDue hAnswered =>
      cases hAnswered with
      | replayed => exact hCaughtUp
      | accepted seq applied _ hNew =>
          exact absurd (hNothing seen hDue)
            (hNew _ (recordOf_key g))

end Attention

------------------------------------------------------------
-- Runs
------------------------------------------------------------

/-
  The runs of calls and of ticks, each with a world of its
  own, from the empty run and cut anywhere.
-/
inductive ResidentRun (env : RunEnv) : Disk → Prop where
| empty : ResidentRun env Disk.empty
| call {d d' : Disk} (call : Call)
    (hRun : ResidentRun env d)
    (hLeaves : (call.run env).Leaves d d') :
    ResidentRun env d'
| tick {C : Type} {d d' : Disk}
    (world : TickWorld) (g : Repo C)
    (hRun : ResidentRun env d)
    (hLeaves : (tick env world g).Leaves d d') :
    ResidentRun env d'

section Runs

variable {env : RunEnv} {d : Disk}

theorem CrashRun.wp_call (hRun : CrashRun env d) (call : Call) :
    Durable.wp (call.run env) (fun _ => CrashRun env)
      (fun _ => CrashRun env) (fun _ => CrashRun env) d := by
  have hFinal := Durable.Reach.done call hRun
  refine ⟨fun entry hEntry => .cut call hRun hEntry trivial, ?_⟩
  unfold Durable.final at hFinal
  cases hValue : (call.run env d).2 <;> exact hFinal

/- A tick takes the log no further than a call does. -/
theorem CrashRun.wp_tick
    {C : Type}
    (hRun : CrashRun env d)
    (world : TickWorld)
    (g : Repo C) :
    Durable.wp (tick env world g) (fun _ => CrashRun env)
      (fun _ => CrashRun env) (fun _ => CrashRun env) d := by
  apply Resident.wp_tick
  · exact fun _ => hRun
  · exact hRun
  · exact hRun
  · intro seen _
    have hCall :=
      CrashRun.wp_call hRun (.event (recordOf env world seen g))
    simp only [Call.run, Durable.wp_bind, Durable.wp_pure]
      at hCall
    unfold expire
    dsimp only
    rw [Durable.wp_orReturn, Durable.wp_bind]
    exact Durable.wp_mono hCall
      (fun _ _ h => (Durable.wp_pure _).mpr h) (fun _ _ h => h)
      (fun _ _ h => h)

theorem crashRun_of_residentRun
    (hRun : ResidentRun env d) : CrashRun env d := by
  induction hRun with
  | empty => exact .start rfl
  | call call _ hLeaves ih =>
      exact Durable.wp_leaves (CrashRun.wp_call ih call) hLeaves
  | tick world g _ hLeaves ih =>
      exact
        Durable.wp_leaves (CrashRun.wp_tick ih world g) hLeaves

end Runs

end Resident

------------------------------------------------------------
-- Landed and Left Behind
------------------------------------------------------------

namespace Sample

open Resident

/- A resident worker that reported its round and exited. -/
def restingCalls : List Call :=
  [.append
      (request .runCreated none
        (.obj
          [("kind", .str "spinoff"),
            ("lifecycle", .str "autonomous"),
            ("resident",
              .obj
                [("idle_expiry_secs", .int 60),
                  ("name", .str "r")]),
            ("source_branch", .str "main"),
            ("source_repo", .str "/r"), ("title", .str "t")])),
    .append
      (request .nodeCreated (some .first)
        (.obj
          [("branch", .str "work"), ("kind", .str "spinoff"),
            ("worktree_path", .str "/w")])),
    .append
      (request .nodeRoundReported (some .first)
        (roundReport 3 0).data),
    .append
      (request .workerExited (some .first)
        (.obj [("exit_code", .int 0)]))]

/- The landing of its commits. -/
def landCall : Call :=
  .append
    (request .nodeRoundLanded (some .first)
      (.obj
        [("integrated_oid",
            .str (String.ofList (List.replicate 40 'a'))),
          ("op_id", .str "o"),
          ("source_branch", .str "main")]))

/-
  A tick long after the deadline, with so many commits of the
  worker not in the source and a checkout with changes.
-/
def dirtyTick (unlanded : Nat) : TickWorld where
  now := 10 ^ 12
  again := 10 ^ 12
  stamp := 10 ^ 12
  maxTime := 10 ^ 18
  lockFree := true
  cleanup := {
    mainWorktree := fun _ => some "/r"
    revListCount := fun _ _ _ => some unlanded
    pathExists := fun _ => true
    statusClean := fun _ => some false
    headOid := fun _ => some "0"
    headBranch := fun _ => some "work"
    removal := fun _ _ _ => ⟨false, false, false⟩
    branchDelete := fun _ _ _ => none
    orphanIdentified := fun _ _ => false
    orphanRemoved := fun _ _ => false
    retention := .notApplicable
    rebaseInProgress := fun _ => false
    paneSaved := true }

/- No repository is needed where nothing is removed. -/
def noRepo : Repo Unit where
  parents := fun _ => []
  refs := fun _ => none
  checkouts := fun _ => none
  trees := fun _ => none

def restingDisk : Disk := after restingCalls

/- Attention was raised, and the commits were landed. -/
def landedDisk : Disk :=
  (landCall.run env).final
    ((tick env (dirtyTick 1) noRepo).final restingDisk)

theorem residentRun_after (calls : List Call) :
    ResidentRun env (after calls) := by
  induction calls using List.reverseRecOn with
  | nil => exact .empty
  | append_singleton calls call ih =>
      rw [after_concat]
      exact .call call ih (.inl rfl)

theorem residentRun_landedDisk : ResidentRun env landedDisk :=
  .call landCall
    (.tick (dirtyTick 1) noRepo (residentRun_after restingCalls)
      (.inl rfl))
    (.inl rfl)

end Sample

------------------------------------------------------------
-- Attention at the Deadline
------------------------------------------------------------

namespace Resident

/-
  Over every run of calls and ticks: where the deadline has
  passed on work that stays, a tick that succeeds leaves the
  flag up exactly where attention gets through. A tick with
  nothing new to say appends no event.
-/
theorem expiry_raises_attention
    {C : Type}
    (env : RunEnv)
    (world : TickWorld)
    (g : Repo C)
    (d : Disk)
    (hRun : ResidentRun env d) :
    (∀ seen deadline o g',
      waiting env d = some seen →
      idleDeadline world.maxTime seen.policy seen.node =
        .ok (some deadline) →
      deadline ≤ world.now →
      deadline ≤ world.again →
      Holds world seen g →
      (tick env world g).result d = .ok (o, g') →
      o.succeeds = true →
      ((attention ((tick env world g).final d)).isSome = true ↔
        GetsThrough env d seen.round)) ∧
    (NothingNew env world g d →
      ((tick env world g).final d).events = d.events) := by
  have hOrdered :=
    ordered_of_crashRun (crashRun_of_residentRun hRun)
  have hTick :
      Durable.wp (tick env world g) (Outcome env world g d)
        (fun _ _ => False) (fun _ _ => True) d :=
    wp_tick_outcome world g hOrdered
  constructor
  · intro seen deadline o g' hFound hDeadline hNow hAgain
      hHolds hResult hSucceeds
    exact attention_raised_iff (Durable.wp_ok hTick hResult)
      hFound hDeadline hNow hAgain hHolds hSucceeds
  · intro hNothing
    rcases Durable.wp_total hTick with ⟨out, _, hOutcome⟩
    exact silent_of_nothingNew hOutcome hOrdered hNothing

/- The first tick after the deadline raises the flag. -/
theorem restingDisk_raises_attention :
    let after :=
      (tick Sample.env (Sample.dirtyTick 1) Sample.noRepo).final
        Sample.restingDisk
    ∃ seen,
      waiting Sample.env Sample.restingDisk = some seen ∧
      (attention after).isSome = true ∧
      ((attention after).isSome = true ↔
        GetsThrough Sample.env Sample.restingDisk
          seen.round) := by
  intro after
  have hFacts :
      (waiting Sample.env Sample.restingDisk).any (fun seen =>
        idleDeadline (Sample.dirtyTick 1).maxTime seen.policy
            seen.node == .ok (some (60 * 10 ^ 9)) &&
          (removeLandedResidentWorktree
            (Sample.dirtyTick 1).cleanup (some seen.manifest)
            seen.node Sample.noRepo).2 ==
              .error "unlanded commits vs source") = true := by
    decide +kernel
  have hTold :
      ((tick Sample.env (Sample.dirtyTick 1)
        Sample.noRepo).result
          Sample.restingDisk).toOption.any (fun out =>
            out.1 == .recorded .nodeResidentAttention
              ⟨5, false, true, none⟩) = true := by
    decide +kernel
  simp only [Option.any_eq_true, Bool.and_eq_true, beq_iff_eq]
    at hFacts hTold
  rcases hFacts with ⟨seen, hFound, hDeadline, hHolds⟩
  rcases hTold with ⟨⟨o, g'⟩, hResult, rfl⟩
  refine ⟨seen, hFound, by decide +kernel, ?_⟩
  exact (expiry_raises_attention Sample.env (Sample.dirtyTick 1)
    Sample.noRepo Sample.restingDisk
    (Sample.residentRun_after _)).1 seen _ _ g' hFound hDeadline
      (by decide) (by decide) ⟨_, hHolds⟩
      (ok_of_toOption hResult) rfl

/-
  A landing takes the flag down while the checkout still has
  changes. The next tick finds its key and says nothing.
-/
theorem landed_loses_attention :
    ¬ ∀ (C : Type) (env : RunEnv) (world : TickWorld)
        (g : Repo C) (d : Disk),
      ResidentRun env d →
      (∀ seen deadline o g',
        waiting env d = some seen →
        idleDeadline world.maxTime seen.policy seen.node =
          .ok (some deadline) →
        deadline ≤ world.now →
        deadline ≤ world.again →
        Holds world seen g →
        (tick env world g).result d = .ok (o, g') →
        o.succeeds = true →
        (attention ((tick env world g).final d)).isSome =
          true) ∧
      (NothingNew env world g d →
        ((tick env world g).final d).events = d.events) := by
  intro hAlways
  have hFacts :
      (waiting Sample.env Sample.landedDisk).any (fun seen =>
        idleDeadline (Sample.dirtyTick 0).maxTime seen.policy
            seen.node == .ok (some (60 * 10 ^ 9)) &&
          (removeLandedResidentWorktree
            (Sample.dirtyTick 0).cleanup (some seen.manifest)
            seen.node Sample.noRepo).2 ==
              .error
                "uncommitted or untracked changes in worktree") =
        true := by
    decide +kernel
  have hTold :
      ((tick Sample.env (Sample.dirtyTick 0)
        Sample.noRepo).result
          Sample.landedDisk).toOption.any (fun out =>
            out.1.succeeds) = true := by
    decide +kernel
  have hDown :
      (attention
        ((tick Sample.env (Sample.dirtyTick 0)
          Sample.noRepo).final Sample.landedDisk)).isSome =
        false := by
    decide +kernel
  simp only [Option.any_eq_true, Bool.and_eq_true, beq_iff_eq]
    at hFacts hTold
  rcases hFacts with ⟨seen, hFound, hDeadline, hHolds⟩
  rcases hTold with ⟨⟨o, g'⟩, hResult, hSucceeds⟩
  have hUp := (hAlways Unit Sample.env (Sample.dirtyTick 0)
    Sample.noRepo Sample.landedDisk
    Sample.residentRun_landedDisk).1 seen _ o g' hFound
      hDeadline (by decide) (by decide) ⟨_, hHolds⟩
      (ok_of_toOption hResult) hSucceeds
  rw [hDown] at hUp
  cases hUp

end Resident

end Taskfleet
