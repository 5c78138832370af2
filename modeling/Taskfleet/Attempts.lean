import Taskfleet.Events
import Taskfleet.Reducer.Rounds
import Taskfleet.Telemetry

/-
  The facts of a node about one worker attempt.

  Exit, display and round facts of another attempt fold to
  nothing, and an evidence fact reaches no record but that
  of the attempt and session it names. The first exit and
  the first death observed stay until the node is rewired,
  and a retry starts without any of them. Two things are
  kept apart by other means: a death observation names no
  attempt, so its writer compares the process it saw with
  the node under the lock, and the last round outlives a
  retry under the number of the attempt that reported it.

  Main declarations:
    * `Event.namedAttempt`, `Node.Scoped`
    * `recordDeathObserved`
    * `Node.roundReportedByCurrentAttempt`
    * `WiredRun`, `Renewed`
    * `attempts_isolated`
    * `death_and_round_cross_attempts`
-/

------------------------------------------------------------
-- Facts of Another Attempt
------------------------------------------------------------

namespace Taskfleet

open Fallible

/- The attempt that an attempt-scoped event names. -/
def Event.namedAttempt (env : RunEnv) (ev : Event) :
    Option Nat :=
  match ev.kind with
  | .workerExited => ev.exitAttempt.toOption
  | .workerDisplayRetained =>
      (ev.data.asRetainedDisplay env).map
        RetainedDisplay.attempt
  | .workerEvidenceArchived | .workerEvidenceFailed
  | .workerDisplayExpired | .workerDisplayUnavailable
  | .nodeRoundReported => ev.evidenceAttempt.toOption
  | _ => none

/- The retained display is one of the current attempt. -/
def Node.Scoped (n : Node) : Prop :=
  ∀ display, n.retainedDisplay = some display →
    display.attempt = n.retryAttempts

theorem scoped_invariant (env : RunEnv) :
    NodeInvariant env Node.Scoped := by
  constructor
  · intro ev id n hNew display hSome
    rw [(newNode_fresh hNew).retainedDisplay] at hSome
    cases hSome
  · intro d ev id n n' hRewrite hBefore
    cases hRewrite with
    | retried =>
        intro display hSome
        cases hSome
    | resumed =>
        intro display hSome
        cases hSome
    | displayRetained display hKind hData hAttempt =>
        intro _ hSome
        cases hSome
        exact hAttempt
    | displayExpired display hKind hWas =>
        intro _ hSome
        cases hSome
        exact hBefore display hWas
    | _ => exact hBefore

/-
  The one change a fact of another attempt can make: the
  evidence record of the attempt it names.
-/
structure EvidenceOnly
    (ev : Event) (attempt : Nat) (n n' : Node) : Prop where
  kind : ev.kind = .workerEvidenceArchived ∨
    ev.kind = .workerEvidenceFailed
  record : ∃ e e', n.evidence = some e ∧
    e.attempt = attempt ∧ e'.attempt = attempt ∧
    n' = { n with evidence := some e', updatedAt := ev.ts }

theorem toOption_of_ok
    {α : Type} {x : Except Error α} {a b : α}
    (hOk : x = .ok a)
    (hSome : x.toOption = some b) :
    a = b := by
  rw [hOk] at hSome
  exact Option.some.inj hSome

/- A fact of another attempt rewrites its own evidence only. -/
theorem rewrite_of_other_attempt
    {env : RunEnv} {d : Disk} {ev : Event} {id : NodeId}
    {n n' : Node} {attempt : Nat}
    (hRewrite : NodeRewrite env d ev id n n')
    (hScoped : n.Scoped)
    (hNamed : ev.namedAttempt env = some attempt)
    (hOther : attempt ≠ n.retryAttempts) :
    n' = n ∨ EvidenceOnly ev attempt n n' := by
  unfold Event.namedAttempt at hNamed
  cases hRewrite with
  | displayStillUnavailable => exact .inl rfl
  | exited code signal hKind hAttempt =>
      rw [hKind] at hNamed
      exact absurd (toOption_of_ok hAttempt hNamed).symm hOther
  | displayRetained display hKind hData hAttempt =>
      rw [hKind] at hNamed
      dsimp only at hNamed
      rw [hData, Option.map_some, Option.some.injEq] at hNamed
      exact absurd (hNamed.symm.trans hAttempt) hOther
  | displayExpired display hKind hWas hAttempt =>
      rw [hKind] at hNamed
      have hSame := toOption_of_ok hAttempt hNamed
      exact absurd (hSame.symm.trans (hScoped display hWas))
        hOther
  | displayUnavailable reason hKind hAttempt =>
      rw [hKind] at hNamed
      exact absurd (toOption_of_ok hAttempt hNamed).symm hOther
  | roundReported summary hKind hAttempt =>
      rw [hKind] at hNamed
      exact absurd (toOption_of_ok hAttempt hNamed).symm hOther
  | evidenced e e' hKind hWas hAttempt hSession hOpen hSame =>
      have hAttempt' : e.attempt = attempt := by
        rcases hKind with hKind | hKind
        · rw [hKind] at hNamed
          exact toOption_of_ok hAttempt hNamed
        · rw [hKind] at hNamed
          exact toOption_of_ok hAttempt hNamed
      right
      apply EvidenceOnly.mk hKind
      exact ⟨e, e', hWas, hAttempt', hSame.trans hAttempt', rfl⟩
  | _ => simp_all

------------------------------------------------------------
-- First Facts
------------------------------------------------------------

/-
  The events that wire a live node to another worker: a
  retry, and a resume under a later attempt.
-/
structure Event.Rewires
    (ev : Event) (id : NodeId) (n : Node) : Prop where
  node : ev.nodeId = some id
  live : n.status.isTerminal = false
  rewires : ev.kind = .nodeRetry ∨ ev.ResumesRound n

/- A run of accepted events that leaves a node its worker. -/
inductive WiredRun (env : RunEnv) (id : NodeId) :
    Disk → List Event → Disk → Prop where
| nil (d : Disk) : WiredRun env id d [] d
| cons {d d' d'' : Disk} {ev : Event} {later : List Event}
    (hFirst : Accepts env d ev d')
    (hStays : ∀ n, d.nodes.lookup id = some n →
      ¬ ev.Rewires id n)
    (hLater : WiredRun env id d' later d'') :
    WiredRun env id d (ev :: later) d''

/- The exit and the death on record are still there. -/
structure FirstFactsKept (n n' : Node) : Prop where
  workerExit : ∀ exit, n.workerExit = some exit →
    n'.workerExit = some exit
  firstDeathAt : ∀ t, n.firstDeathAt = some t →
    n'.firstDeathAt = some t

theorem FirstFactsKept.trans
    {n₁ n₂ n₃ : Node}
    (hFirst : FirstFactsKept n₁ n₂)
    (hSecond : FirstFactsKept n₂ n₃) :
    FirstFactsKept n₁ n₃ where
  workerExit := fun exit hSome =>
    hSecond.workerExit exit (hFirst.workerExit exit hSome)
  firstDeathAt := fun t hSome =>
    hSecond.firstDeathAt t (hFirst.firstDeathAt t hSome)

theorem firstFactsKept_of_same
    {n n' : Node}
    (hExit : n'.workerExit = n.workerExit)
    (hDeath : n'.firstDeathAt = n.firstDeathAt) :
    FirstFactsKept n n' where
  workerExit := fun _ hSome => hExit.trans hSome
  firstDeathAt := fun _ hSome => hDeath.trans hSome

theorem firstFactsKept_of_rewrite
    {env : RunEnv} {d : Disk} {ev : Event} {id : NodeId}
    {n n' : Node}
    (hRewrite : NodeRewrite env d ev id n n')
    (hNode : ev.nodeId = some id)
    (hStays : ¬ ev.Rewires id n) :
    FirstFactsKept n n' := by
  cases hRewrite with
  | retried facts hKind hLive =>
      exact absurd ⟨hNode, hLive, .inl hKind⟩ hStays
  | resumed attempt messageId facts hKind hAttempt hLater
      hLive =>
      exact absurd
        ⟨hNode, hLive, .inr ⟨hKind, attempt, hAttempt, hLater⟩⟩
        hStays
  | exited code signal hKind hAttempt hFirst =>
      constructor
      · intro exit hSome
        rw [hFirst] at hSome
        cases hSome
      · intro t hSome
        exact hSome
  | deathObserved hKind hFirst =>
      constructor
      · intro exit hSome
        exact hSome
      · intro t hSome
        rw [hFirst] at hSome
        cases hSome
  | _ => exact firstFactsKept_of_same rfl rfl

theorem firstFactsKept_of_wiredRun
    {env : RunEnv} {d d' : Disk} {later : List Event}
    {id : NodeId}
    (hRun : WiredRun env id d later d') :
    ∀ n, d.nodes.lookup id = some n →
      ∃ n', d'.nodes.lookup id = some n' ∧
        FirstFactsKept n n' := by
  induction hRun with
  | nil =>
      intro n hLookup
      exact ⟨n, hLookup, firstFactsKept_of_same rfl rfl⟩
  | cons hFirst hStays _ ih =>
      intro n hLookup
      rcases node_of_accepts hFirst hLookup with
        ⟨n₁, hLookup₁, hSame | ⟨hNode, hRewrite⟩⟩
      · subst hSame
        exact ih n₁ hLookup₁
      · rcases ih n₁ hLookup₁ with ⟨n', hLookup', hKept⟩
        have hStep := firstFactsKept_of_rewrite hRewrite hNode
          (hStays n hLookup)
        exact ⟨n', hLookup', hStep.trans hKept⟩

------------------------------------------------------------
-- Retries
------------------------------------------------------------

/- Nothing of a worker is on record yet. -/
structure Node.Cleared (n : Node) : Prop where
  status : n.status = .pending
  lastReport : n.lastReport = none
  workerExit : n.workerExit = none
  firstDeathAt : n.firstDeathAt = none
  awaitingInput : n.awaitingInput = none
  pendingMerge : n.pendingMerge = none
  retainedDisplay : n.retainedDisplay = none
  retentionUnavailable : n.retentionUnavailable = none

/- The resident's worker reported the round it is in. -/
def Node.roundReportedByCurrentAttempt (n : Node) : Bool :=
  (n.resident.bind ResidentState.openRound).any (fun r =>
    r.attempt = n.retryAttempts)

/-
  What outlives the worker attempts of a node: what the node
  is, its caller's session, its children and its rounds.
-/
structure Node.Outlived (n n' : Node) : Prop
    extends n.SameIdentity n' where
  parentNodeId : n'.parentNodeId = n.parentNodeId
  kind : n'.kind = n.kind
  task : n'.task = n.task
  callerPiSession : n'.callerPiSession = n.callerPiSession
  callerPiLifecycle :
    n'.callerPiLifecycle = n.callerPiLifecycle
  supervisorPid : n'.supervisorPid = n.supervisorPid
  children : n'.children = n.children
  lastProcessedReportSeqByChild :
    n'.lastProcessedReportSeqByChild =
      n.lastProcessedReportSeqByChild
  resident : n'.resident = n.resident

/-
  A node as a retry leaves it. Every other field is cleared
  or has what the retry's own payload says, and the rounds
  count only for the attempt that they name.
-/
structure Renewed
    (env : RunEnv) (ev : Event) (n n' : Node) : Prop where
  cleared : n'.Cleared
  outlived : n.Outlived n'
  branch : n'.branch = ev.data.getStr "branch"
  baseSha : n'.baseSha = ev.nonemptyStr "base_sha"
  worktreePath :
    n'.worktreePath = ev.data.getStr "worktree_path"
  tmuxWindow : n'.tmuxWindow = ev.data.getStr "tmux_window"
  tmuxIdentity : n'.tmuxIdentity = ev.tmuxIdentityFromData
  evidence :
    ev.workerEvidenceFromSpawnData = .ok n'.evidence
  claudeSessionId :
    ev.claudeSessionFromData = .ok n'.claudeSessionId
  agentPid : ev.optionalI32 "agent_pid" = .ok n'.agentPid
  agentPidStartTime :
    ev.optionalTs env "agent_pid_start_time" =
      .ok n'.agentPidStartTime
  agentPidStartIdentity :
    n'.agentPidStartIdentity = ev.startIdentityFromData
  startedAt : n'.startedAt = some ev.ts
  updatedAt : n'.updatedAt = ev.ts
  retryAttempts :
    n'.retryAttempts = ev.retryAttempts n.retryAttempts
  unreported : ∀ r, n.resident.bind ResidentState.openRound =
      some r → r.attempt ≠ n'.retryAttempts →
    n'.roundReportedByCurrentAttempt = false

theorem outlived_retried
    {ev : Event} {facts : SpawnFacts}
    (n : Node) :
    n.Outlived (n.retried ev facts) := by
  constructor
  · constructor <;> rfl
  all_goals rfl

theorem renewed_retried
    {env : RunEnv} {ev : Event} {facts : SpawnFacts}
    (n : Node)
    (hFacts : facts.ReadFrom env ev) :
    Renewed env ev n (n.retried ev facts) where
  cleared := by constructor <;> rfl
  outlived := outlived_retried n
  branch := rfl
  baseSha := rfl
  worktreePath := rfl
  tmuxWindow := rfl
  tmuxIdentity := rfl
  evidence := hFacts.evidence
  claudeSessionId := hFacts.claudeSessionId
  agentPid := hFacts.agentPid
  agentPidStartTime := hFacts.agentPidStartTime
  agentPidStartIdentity := rfl
  startedAt := rfl
  updatedAt := rfl
  retryAttempts := rfl
  unreported := by
    intro r hOpen hOther
    have hSame : (n.retried ev facts).resident = n.resident :=
      rfl
    unfold Node.roundReportedByCurrentAttempt
    rw [hSame, hOpen]
    simpa using hOther

/- An accepted retry of a live node renews it. -/
theorem renewed_of_accepts
    {env : RunEnv} {d d' : Disk} {ev : Event} {id : NodeId}
    {n : Node}
    (hAccepts : Accepts env d ev d')
    (hKind : ev.kind = .nodeRetry)
    (hNode : ev.nodeId = some id)
    (hLookup : d.nodes.lookup id = some n)
    (hLive : n.status.isTerminal = false) :
    ∃ n', d'.nodes.lookup id = some n' ∧
      Renewed env ev n n' := by
  have hArm : nodeArm env d ev id =
      some (.ok (nodeRetryStep env ev)) := by
    unfold nodeArm
    rw [hKind]
  rcases step_of_accepts hAccepts hNode hArm hLookup with
    ⟨step, hStepOf, hCase⟩
  cases hStepOf
  rcases hCase with ⟨hSkip, _⟩ | ⟨n', hStep, hLookup'⟩
  · unfold nodeRetryStep at hSkip
    rw [hLive, if_neg Bool.false_ne_true] at hSkip
    simp at hSkip
  · rcases nodeRetryStep_retried hStep with
      ⟨facts, hFacts, hRetried⟩
    rw [hRetried] at hLookup'
    exact ⟨_, hLookup', renewed_retried n hFacts⟩

------------------------------------------------------------
-- Death Observations
------------------------------------------------------------

/-
  The supervisor saw the worker of a node dead, outside the
  lock. Under the lock it records the death only while the
  node has that worker and no better fact. The error of a
  failed append is logged, and the next tick tries again.
-/
def recordDeathObserved
    (env : RunEnv)
    (now : Time)
    (id : NodeId)
    (staleAgentPid : Option Int) : Locked Unit := do
  let d ← Durable.read
  let fresh := (readNodeOpt env d id).toOption.join
  if fresh.any (fun f =>
      f.firstDeathAt.isNone ∧ f.workerExit.isNone ∧
        f.lastReport.isNone ∧ f.pendingMerge.isNone ∧
        f.agentPid = staleAgentPid ∧
        ¬ f.status.isTerminal) then do
    let _ ← appendAndApplyUnlocked env
      { now := now
        kind := .nodeDeathObserved
        nodeId := some id
        key := none
        data := .obj [] }
    return ()
  else return ()

theorem recordDeathObserved_of_other_worker
    {env : RunEnv} {d : Disk} {now : Time} {id : NodeId}
    {n : Node} {staleAgentPid : Option Int}
    (hLookup : d.nodes.lookup id = some n)
    (hOther : n.agentPid ≠ staleAgentPid) :
    (recordDeathObserved env now id staleAgentPid).final d =
      d := by
  have hFresh : ∀ f,
      (readNodeOpt env d id).toOption.join = some f →
      f = n := by
    intro f hSome
    cases hRead : readNodeOpt env d id with
    | error e =>
        rw [hRead] at hSome
        cases hSome
    | ok read =>
        rw [hRead] at hSome
        cases hSome
        rcases readNodeOpt_eq_some.mp hRead with ⟨hFound, _⟩
        rw [hLookup, Option.some.injEq] at hFound
        exact hFound.symm
  apply Durable.wp_final (C := fun _ _ => True) (I := (· = d))
  unfold recordDeathObserved
  rw [Durable.wp_bind, Durable.wp_read]
  dsimp only
  split
  next hRecord =>
    rw [Option.any_eq_true] at hRecord
    rcases hRecord with ⟨f, hSome, hGuard⟩
    rw [hFresh f hSome] at hGuard
    simp [hOther] at hGuard
  next =>
    rw [Durable.wp_pure]

------------------------------------------------------------
-- Isolation
------------------------------------------------------------

/-
  In every state reached by accepted events:
  a fact of another attempt changes nothing but the evidence
  record of the attempt it names; an exit and a death on
  record stay until the node is rewired; a retry of a live
  node takes every fact of its worker from its own payload
  or clears it; the writer of a death
  leaves a node alone that has another worker; and an
  accepted sample names the current attempt, as does every
  sample shown.
-/
theorem attempts_isolated
    (env : RunEnv)
    (evs : List Event)
    (d : Disk)
    (hRun : AcceptedRun env Disk.empty evs d) :
    (∀ ev d' id n attempt, Accepts env d ev d' →
        d.nodes.lookup id = some n →
        ev.namedAttempt env = some attempt →
        attempt ≠ n.retryAttempts →
        ∃ n', d'.nodes.lookup id = some n' ∧
          (n' = n ∨ EvidenceOnly ev attempt n n')) ∧
      (∀ later d' id n, WiredRun env id d later d' →
        d.nodes.lookup id = some n →
        ∃ n', d'.nodes.lookup id = some n' ∧
          FirstFactsKept n n') ∧
      (∀ ev d' id n, Accepts env d ev d' →
        ev.kind = .nodeRetry → ev.nodeId = some id →
        d.nodes.lookup id = some n →
        n.status.isTerminal = false →
        ∃ n', d'.nodes.lookup id = some n' ∧
          Renewed env ev n n') ∧
      (∀ now id n staleAgentPid,
        d.nodes.lookup id = some n →
        n.agentPid ≠ staleAgentPid →
        (recordDeathObserved env now id staleAgentPid).final
          d = d) ∧
      (∀ tenv dir update now accepted dir',
        updateTelemetryWithClock tenv env d dir update now =
          .ok (accepted, dir') →
        ∃ n, d.nodes.lookup update.nodeId = some n ∧
          update.attempt = n.retryAttempts) ∧
      (∀ tenv dir id n now view,
        d.nodes.lookup id = some n →
        readTelemetryLocked tenv env d dir id now = .ok view →
        view.attempt = some n.retryAttempts ∨
          ∃ status, view = .bare status) := by
  have hScoped := hRun.holds_of_empty (scoped_invariant env)
  constructor
  · intro ev d' id n attempt hAccepts hLookup hNamed hOther
    rcases node_of_accepts hAccepts hLookup with
      ⟨n', hLookup', hSame | ⟨_, hRewrite⟩⟩
    · exact ⟨n', hLookup', .inl hSame⟩
    · exact ⟨n', hLookup',
        rewrite_of_other_attempt hRewrite
          (hScoped id n hLookup) hNamed hOther⟩
  constructor
  · intro later d' id n hLater hLookup
    exact firstFactsKept_of_wiredRun hLater n hLookup
  constructor
  · intro ev d' id n hAccepts hKind hNode hLookup hLive
    exact renewed_of_accepts hAccepts hKind hNode hLookup hLive
  constructor
  · intro now id n staleAgentPid hLookup hOther
    exact recordDeathObserved_of_other_worker hLookup hOther
  constructor
  · intro tenv dir update now accepted dir' hUpdate
    rcases updateTelemetry_attempt hUpdate with
      ⟨n, hLookup, _, hAttempt, _⟩
    exact ⟨n, hLookup, hAttempt⟩
  · intro tenv dir id n now view hLookup hRead
    exact readTelemetry_attempt hLookup hRead

namespace Sample

/- An exit fact of the sample node. -/
def exitFact (seq attempt : Nat) : Event :=
  event seq .workerExited (some .first)
    (.obj [("attempt", .int attempt), ("exit_code", .int 1)])

/- A death observed, with the attempt it was seen in. -/
def deathFact (seq attempt : Nat) : Event :=
  event seq .nodeDeathObserved (some .first)
    (.obj [("attempt", .int attempt)])

end Sample

/- The late exit of a replaced worker changes nothing. -/
theorem attempts_isolated_after_retry :
    let d := foldAll Sample.env Disk.empty Sample.retriedRound
    let d' := foldAll Sample.env d [Sample.exitFact 5 0]
    (d.nodes.lookup .first).map Node.retryAttempts = some 1 ∧
      ∃ n, d.nodes.lookup .first = some n ∧
        d'.nodes.lookup .first = some n := by
  intro d d'
  have hRun :
      AcceptedRun Sample.env Disk.empty Sample.retriedRound d :=
    acceptedRun_foldAll (by decide +kernel)
  have hNext :
      AcceptedRun Sample.env d [Sample.exitFact 5 0] d' :=
    acceptedRun_foldAll (by decide +kernel)
  have hAttempt :
      (d.nodes.lookup .first).map Node.retryAttempts =
        some 1 := by
    decide +kernel
  have hFound := hAttempt
  rw [Option.map_eq_some_iff] at hFound
  rcases hFound with ⟨n, hLookup, hSecond⟩
  have hOther : 0 ≠ n.retryAttempts := by
    rw [hSecond]
    decide
  have hNamed :
      (Sample.exitFact 5 0).namedAttempt Sample.env =
        some 0 := by
    decide +kernel
  rcases (attempts_isolated Sample.env Sample.retriedRound d
      hRun).1 (Sample.exitFact 5 0) d' .first n 0
      hNext.accepts hLookup hNamed hOther with
    ⟨n', hLookup', hSame | hEvidence⟩
  · rw [hSame] at hLookup'
    exact ⟨hAttempt, n, hLookup, hLookup'⟩
  · rcases hEvidence.kind with hKind | hKind <;> cases hKind

/-
  A death that names an earlier attempt is recorded on the
  current one, and the open round of an earlier attempt is
  still there after a retry.
-/
theorem death_and_round_cross_attempts :
    ¬ (∀ (env : RunEnv) (evs : List Event) (d d' : Disk)
        (ev : Event) (id : NodeId) (n n' : Node)
        (attempt : Nat),
        AcceptedRun env Disk.empty evs d →
        Accepts env d ev d' →
        d.nodes.lookup id = some n →
        d'.nodes.lookup id = some n' →
        ev.kind = .nodeDeathObserved →
        (ev.data.get "attempt").bind Json.asU32 =
          some attempt →
        attempt ≠ n.retryAttempts →
        n'.firstDeathAt = n.firstDeathAt) ∧
      ¬ (∀ (env : RunEnv) (evs : List Event) (d : Disk)
        (id : NodeId) (n : Node) (r : RoundReport),
        AcceptedRun env Disk.empty evs d →
        d.nodes.lookup id = some n →
        n.residentState.openRound = some r →
        r.attempt = n.retryAttempts) := by
  have hRun :
      AcceptedRun Sample.env Disk.empty Sample.retriedRound
        (foldAll Sample.env Disk.empty Sample.retriedRound) :=
    acceptedRun_foldAll (by decide +kernel)
  have hNext :
      AcceptedRun Sample.env
        (foldAll Sample.env Disk.empty Sample.retriedRound)
        [Sample.deathFact 5 0]
        (foldAll Sample.env
          (foldAll Sample.env Disk.empty Sample.retriedRound)
          [Sample.deathFact 5 0]) :=
    acceptedRun_foldAll (by decide +kernel)
  generalize hReached :
    foldAll Sample.env Disk.empty Sample.retriedRound = d
    at hRun hNext
  generalize hDied :
    foldAll Sample.env d [Sample.deathFact 5 0] = d' at hNext
  have hBefore :
      (d.nodes.lookup .first).map (fun n =>
        (n.retryAttempts, n.firstDeathAt,
          n.residentState.openRound.map
            RoundReport.attempt)) =
        some (1, none, some 0) := by
    rw [← hReached]
    decide +kernel
  have hAfter :
      (d'.nodes.lookup .first).map Node.firstDeathAt =
        some (some 5) := by
    rw [← hDied, ← hReached]
    decide +kernel
  rw [Option.map_eq_some_iff] at hBefore hAfter
  rcases hBefore with ⟨n, hLookup, hFacts⟩
  rcases hAfter with ⟨n', hLookup', hDeath⟩
  simp only [Prod.mk.injEq, Option.map_eq_some_iff] at hFacts
  rcases hFacts with ⟨hSecond, hNoDeath, r, hOpen, hRound⟩
  constructor
  · intro hIsolated
    have hSame :=
      hIsolated Sample.env Sample.retriedRound d d'
        (Sample.deathFact 5 0) .first n n' 0 hRun
        hNext.accepts hLookup hLookup' rfl
        (by decide +kernel) (by rw [hSecond]; decide)
    rw [hDeath, hNoDeath] at hSame
    cases hSame
  · intro hCurrent
    have hSame :=
      hCurrent Sample.env Sample.retriedRound d .first n r hRun
        hLookup hOpen
    rw [hSecond, hRound] at hSame
    cases hSame

end Taskfleet
