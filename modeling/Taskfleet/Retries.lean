import Mathlib.Order.Interval.Finset.Nat
import Taskfleet.Reducer.Inputs
import Taskfleet.Steps

/-
  The attempts of a worker and the retries of a supervisor.

  A retry event names its attempt, which is stored as it is,
  whatever the node had before. Where every retry names a
  later attempt that fits the counter, the counter only grows
  and a supervisor stays within its budget.

  Main declarations:
    * `Event.Advances`, `retry_advances_iff`
    * `parkDecision`, `RetryStep`
    * `Retrying.Sound`, `retries_grow`
-/

------------------------------------------------------------
-- One Retry
------------------------------------------------------------

namespace Taskfleet

open Fallible

/- The attempt of a payload, where that is an integer. -/
def Event.askedAttempt (ev : Event) : Option Int :=
  match ev.data.get "attempt" with
  | some (.int a) => some a
  | _ => none

def attemptLimit : Nat := 2 ^ 32

/- A retry to a later attempt than the `k`-th that fits. -/
def Event.Advances (ev : Event) (k : Nat) : Prop :=
  match ev.askedAttempt with
  | some a => (k : Int) < a ∧ a < attemptLimit
  | none => k + 1 < attemptLimit

/- A retry to the attempt that the node is in. -/
def Event.Restates (ev : Event) (k : Nat) : Prop :=
  ev.askedAttempt = some (k : Int) ∧ k < attemptLimit

/- The attempts after the retry are more, and as named. -/
def Event.Raises (ev : Event) (k k' : Nat) : Prop :=
  k < k' ∧ ∀ a, ev.askedAttempt = some a → (k' : Int) = a

section Attempts

variable {env : RunEnv} {d d' : Disk} {ev : Event}
variable {id : NodeId} {n n' : Node} {k : Nat}

/- What is stored, by the attempt that the payload names. -/
theorem retryAttempts_cases (ev : Event) (k : Nat) :
    (∃ a : Nat, ev.askedAttempt = some (a : Int) ∧
        a < 2 ^ 64 ∧
        ev.retryAttempts k = a % attemptLimit) ∨
      ((∀ a, ev.askedAttempt = some a → a < 0 ∨ 2 ^ 64 ≤ a) ∧
        ev.retryAttempts k = min (k + 1) (attemptLimit - 1)) := by
  unfold Event.retryAttempts Event.askedAttempt
  cases ev.data.get "attempt" with
  | none => exact .inr ⟨by simp, rfl⟩
  | some v =>
      cases v with
      | int a =>
          by_cases hFits : 0 ≤ a ∧ a < 2 ^ 64
          · left
            refine ⟨a.toNat, ?_, by omega, ?_⟩
            · rw [Int.toNat_of_nonneg hFits.1]
            · rw [Option.bind_some, Json.asU64, if_pos hFits]
              rfl
          · right
            constructor
            · rintro _ ⟨⟩
              omega
            · rw [Option.bind_some, Json.asU64, if_neg hFits]
              rfl
      | _ => exact .inr ⟨by simp, rfl⟩

theorem raises_iff :
    ev.Raises k (ev.retryAttempts k) ↔ ev.Advances k := by
  unfold Event.Raises Event.Advances
  rcases retryAttempts_cases ev k with
    ⟨a, hNamed, hFits, hStored⟩ | ⟨hOut, hStored⟩
  · rw [hStored, hNamed]
    simp only [Option.some.injEq, forall_eq']
    unfold attemptLimit
    omega
  · cases hNamed : ev.askedAttempt with
    | none =>
        rw [hStored]
        simp only [reduceCtorEq, false_implies, implies_true,
          and_true]
        unfold attemptLimit
        omega
    | some a =>
        have hRange := hOut a hNamed
        rw [hStored]
        simp only [Option.some.injEq, forall_eq']
        unfold attemptLimit
        omega

theorem restated
    (hRestates : ev.Restates k) : ev.retryAttempts k = k := by
  rcases retryAttempts_cases ev k with
    ⟨a, hNamed, hFits, hStored⟩ | ⟨hOut, hStored⟩
  · rw [hRestates.1, Option.some.injEq] at hNamed
    have hSame : k = a := by omega
    rw [hStored, ← hSame]
    exact Nat.mod_eq_of_lt hRestates.2
  · have hRange := hOut _ hRestates.1
    have hSmall := hRestates.2
    unfold attemptLimit at hSmall
    omega

/- A retry of a live node stores its attempt. -/
theorem attempts_of_retry
    (hAccepts : Accepts env d ev d')
    (hKind : ev.kind = .nodeRetry)
    (hNode : ev.nodeId = some id)
    (hLookup : d.nodes.lookup id = some n)
    (hLive : n.status.isTerminal = false) :
    ∃ n', d'.nodes.lookup id = some n' ∧
      n'.retryAttempts = ev.retryAttempts n.retryAttempts := by
  have hArm : nodeArm env d ev id =
      some (.ok (nodeRetryStep env ev)) := by
    simp [nodeArm, hKind]
  rcases stepped_of_accepts hAccepts hNode hArm hLookup with
    ⟨step, o, hOk, hStep, hLookup'⟩
  cases hOk
  cases o with
  | none =>
      unfold nodeRetryStep at hStep
      rw [if_neg (by simp [hLive])] at hStep
      simp [bind_eq_ok] at hStep
  | some n' =>
      exact ⟨n', hLookup', (nodeRetryStep_spec hStep).2.2.2.2.1⟩

/- No other event takes attempts back. -/
theorem attempts_of_other
    (hAccepts : Accepts env d ev d')
    (hOther : ¬ (ev.kind = .nodeRetry ∧ ev.nodeId = some id ∧
      n.status.isTerminal = false))
    (hLookup : d.nodes.lookup id = some n) :
    ∃ n', d'.nodes.lookup id = some n' ∧
      n.retryAttempts ≤ n'.retryAttempts := by
  rcases node_of_accepts hAccepts hLookup with
    ⟨n', hLookup', hSame | ⟨hNode, hRewrite⟩⟩
  · exact ⟨n', hLookup', by rw [hSame]⟩
  · refine ⟨n', hLookup', ?_⟩
    cases hRewrite with
    | retried facts hKind hLive =>
        exact absurd ⟨hKind, hNode, hLive⟩ hOther
    | resumed attempt messageId facts _ _ hLater =>
        exact le_of_lt hLater
    | _ => exact le_refl _

/-
  A retry of a live node raises its attempts to the one that
  it names, exactly if that is a later one that fits.
-/
theorem retry_advances_iff
    (hAccepts : Accepts env d ev d')
    (hKind : ev.kind = .nodeRetry)
    (hNode : ev.nodeId = some id)
    (hLookup : d.nodes.lookup id = some n)
    (hLive : n.status.isTerminal = false) :
    ∃ n', d'.nodes.lookup id = some n' ∧
      (ev.Raises n.retryAttempts n'.retryAttempts ↔
        ev.Advances n.retryAttempts) := by
  rcases attempts_of_retry hAccepts hKind hNode hLookup hLive
    with ⟨n', hLookup', hStored⟩
  refine ⟨n', hLookup', ?_⟩
  rw [hStored]
  exact raises_iff

end Attempts

------------------------------------------------------------
-- The Supervisor
------------------------------------------------------------

/- What the watchdog makes of a worker process. -/
inductive Liveness where
| alive
| dead
| recycled
| tmuxGone
deriving DecidableEq, Repr

def Kind.isAutonomousSingleNodeWorker : Kind → Bool
| .spinoff | .research | .technicalDecision => true
| .fanOut | .unknown => false

def Node.retryEligibleKind (n : Node) : Bool :=
  n.kind.isAutonomousSingleNodeWorker && n.parentNodeId.isNone

/- No outcome or new worker overtook the verdict. -/
def Node.stillSynthesizable
    (n : Node) (staleAgentPid : Option Int) : Bool :=
  n.lastReport.isNone && n.workerExit.isNone &&
    n.pendingMerge.isNone && n.agentPid == staleAgentPid &&
    !n.status.isTerminal

/-
  The attempt that a dead worker is parked for: the next one,
  while the budget lasts. Otherwise its failure is recorded.
-/
def parkDecision
    (max : Nat)
    (resident : Bool)
    (verdict : Liveness)
    (staleAgentPid : Option Int)
    (emptyHanded : Bool)
    (n : Node) : Option Nat :=
  if n.stillSynthesizable staleAgentPid ∧ verdict = .dead ∧
      ¬ resident ∧ n.retryEligibleKind ∧ emptyHanded ∧
      n.retryAttempts < max then
    some (n.retryAttempts + 1)
  else none

/- The node may still be rewired to a fresh worker. -/
def Node.stillRetryable (n : Node) (emptyHanded : Bool) : Bool :=
  !n.status.isTerminal && emptyHanded

/-
  A run under a supervisor: its disk, the parked attempts,
  and what has happened, that is the events so far and the
  retries the supervisor has started on each node.
-/
structure Retrying where
  disk : Disk
  retryStates : NodeId → Option Nat
  history : List Event
  started : NodeId → List Nat

inductive RetryAct where
| event (ev : Event)
| restart
| park
    (id : NodeId) (resident : Bool) (verdict : Liveness)
    (staleAgentPid : Option Int) (emptyHanded : Bool)
| drop (id : NodeId)
| retry (id : NodeId) (emptyHanded : Bool) (ev : Event)

/- The retry that the supervisor records for a park. -/
structure Event.RecordsRetry
    (ev : Event) (id : NodeId) (attempt : Nat) : Prop where
  kind : ev.kind = .nodeRetry
  nodeId : ev.nodeId = some id
  attempt : ev.data.get "attempt" = some (.int attempt)

/-
  The steps: an event of any writer, a new supervisor, and
  for a node its parking, the end of its park and its retry.
-/
inductive RetryStep (env : RunEnv) (max : Nat) :
    RetryAct → Retrying → Retrying → Prop where
| event {S : Retrying} (ev : Event) (d' : Disk)
    (hAccepts : Accepts env S.disk ev d') :
    RetryStep env max (.event ev) S { S with
      disk := d'
      history := S.history ++ [ev] }
| restart {S : Retrying} :
    RetryStep env max .restart S { S with
      retryStates := fun _ => none }
| park {S : Retrying} (id : NodeId) (resident : Bool)
    (verdict : Liveness) (staleAgentPid : Option Int)
    (emptyHanded : Bool) (n : Node) (attempt : Nat)
    (hLookup : S.disk.nodes.lookup id = some n)
    (hParks : parkDecision max resident verdict staleAgentPid
      emptyHanded n = some attempt) :
    RetryStep env max
      (.park id resident verdict staleAgentPid emptyHanded) S
      { S with
        retryStates :=
          Function.update S.retryStates id (some attempt) }
| drop {S : Retrying} (id : NodeId) :
    RetryStep env max (.drop id) S { S with
      retryStates := Function.update S.retryStates id none }
| retry {S : Retrying} (id : NodeId) (emptyHanded : Bool)
    (ev : Event) (n : Node) (attempt : Nat) (d' : Disk)
    (hPark : S.retryStates id = some attempt)
    (hLookup : S.disk.nodes.lookup id = some n)
    (hStill : n.stillRetryable emptyHanded = true)
    (hRecords : ev.RecordsRetry id attempt)
    (hAccepts : Accepts env S.disk ev d') :
    RetryStep env max (.retry id emptyHanded ev) S
      { S with
        disk := d'
        retryStates := Function.update S.retryStates id none
        history := S.history ++ [ev]
        started :=
          Function.update S.started id
            (S.started id ++ [attempt]) }

/-
  The event retries no live node, or one to a later attempt,
  or it is an earlier event that states the node's attempt.
-/
def Event.KeepsCount (ev : Event) (S : Retrying) : Prop :=
  ∀ id n, ev.kind = .nodeRetry → ev.nodeId = some id →
    S.disk.nodes.lookup id = some n →
    n.status.isTerminal = false →
    ev.Advances n.retryAttempts ∨
      ev ∈ S.history ∧ ev.Restates n.retryAttempts

/- The condition on a step: its event keeps the count. -/
def RetryAct.Counts (act : RetryAct) (S : Retrying) : Prop :=
  match act with
  | .event ev => ev.KeepsCount S
  | .retry id _ ev =>
      ∀ n, S.disk.nodes.lookup id = some n →
        ev.Advances n.retryAttempts
  | _ => True

/- A run at its start, with no parks and no retries. -/
def Retrying.fresh (d : Disk) : Retrying where
  disk := d
  retryStates := fun _ => none
  history := []
  started := fun _ => []

/-
  The retries of each node are to later and later attempts,
  none of them past the budget or past the node's own.
-/
structure Retrying.Sound (max : Nat) (S : Retrying) : Prop where
  parked : ∀ id a, S.retryStates id = some a →
    1 ≤ a ∧ a ≤ max
  ordered : ∀ id, (S.started id).Pairwise (· < ·)
  bounded : ∀ id, ∀ a ∈ S.started id, 1 ≤ a ∧ a ≤ max
  reached : ∀ id, ∀ a ∈ S.started id, ∃ n,
    S.disk.nodes.lookup id = some n ∧ a ≤ n.retryAttempts

section Supervisor

variable {env : RunEnv} {max : Nat} {S S' : Retrying}
variable {act : RetryAct} {d' : Disk} {ev : Event}
variable {id : NodeId} {n : Node}

theorem parkDecision_le
    {resident : Bool} {verdict : Liveness}
    {staleAgentPid : Option Int} {emptyHanded : Bool}
    {attempt : Nat}
    (hParks : parkDecision max resident verdict staleAgentPid
      emptyHanded n = some attempt) :
    1 ≤ attempt ∧ attempt ≤ max := by
  unfold parkDecision at hParks
  split at hParks
  next hGoes =>
    cases hParks
    exact ⟨Nat.succ_pos _, hGoes.2.2.2.2.2⟩
  · cases hParks

/- Attempts never fall over an event that keeps the count. -/
theorem attempts_of_keeps
    (hAccepts : Accepts env S.disk ev d')
    (hKeeps : ev.KeepsCount S)
    (hLookup : S.disk.nodes.lookup id = some n) :
    ∃ n', d'.nodes.lookup id = some n' ∧
      n.retryAttempts ≤ n'.retryAttempts := by
  by_cases hRetry : ev.kind = .nodeRetry ∧
      ev.nodeId = some id ∧ n.status.isTerminal = false
  · rcases hRetry with ⟨hKind, hNode, hLive⟩
    rcases attempts_of_retry hAccepts hKind hNode hLookup hLive
      with ⟨n', hLookup', hStored⟩
    refine ⟨n', hLookup', ?_⟩
    rw [hStored]
    rcases hKeeps id n hKind hNode hLookup hLive with
      hAdvances | ⟨_, hRestates⟩
    · exact le_of_lt (raises_iff.mpr hAdvances).1
    · exact le_of_eq (restated hRestates).symm
  · exact attempts_of_other hAccepts hRetry hLookup

/- The supervisor's own retry keeps the count if it counts. -/
theorem keepsCount_of_counts
    {attempt : Nat} {emptyHanded : Bool}
    (hRecords : ev.RecordsRetry id attempt)
    (hCounts : (RetryAct.retry id emptyHanded ev).Counts S) :
    ev.KeepsCount S := by
  intro id' n' _ hNode hLookup _
  rw [hRecords.nodeId, Option.some.injEq] at hNode
  subst hNode
  exact .inl (hCounts n' hLookup)

/- A step that counts takes no attempts back. -/
theorem attempts_of_step
    (hCounts : act.Counts S)
    (hStep : RetryStep env max act S S')
    (hLookup : S.disk.nodes.lookup id = some n) :
    ∃ n', S'.disk.nodes.lookup id = some n' ∧
      n.retryAttempts ≤ n'.retryAttempts := by
  cases hStep with
  | event ev d' hAccepts =>
      exact attempts_of_keeps hAccepts hCounts hLookup
  | retry id' emptyHanded ev n' a d' _ _ _ hRecords hAccepts =>
      exact attempts_of_keeps hAccepts
        (keepsCount_of_counts hRecords hCounts) hLookup
  | restart => exact ⟨n, hLookup, le_refl _⟩
  | park => exact ⟨n, hLookup, le_refl _⟩
  | drop => exact ⟨n, hLookup, le_refl _⟩

/- The attempts started stay reached. -/
theorem Retrying.Sound.reached_of_step
    (hSound : S.Sound max)
    (hCounts : act.Counts S)
    (hStep : RetryStep env max act S S') :
    ∀ id, ∀ a ∈ S.started id, ∃ n,
      S'.disk.nodes.lookup id = some n ∧
        a ≤ n.retryAttempts := by
  intro id a hMem
  rcases hSound.reached id a hMem with ⟨n, hLookup, hLe⟩
  rcases attempts_of_step hCounts hStep hLookup with
    ⟨n', hLookup', hMore⟩
  exact ⟨n', hLookup', le_trans hLe hMore⟩

/- The supervisor's retry stores the attempt of the park. -/
theorem attempts_of_park
    {attempt : Nat}
    (hAccepts : Accepts env S.disk ev d')
    (hRecords : ev.RecordsRetry id attempt)
    (hLookup : S.disk.nodes.lookup id = some n)
    (hLive : n.status.isTerminal = false)
    (hAdvances : ev.Advances n.retryAttempts) :
    n.retryAttempts < attempt ∧
      ∃ n', d'.nodes.lookup id = some n' ∧
        n'.retryAttempts = attempt := by
  have hNamed : ev.askedAttempt = some (attempt : Int) := by
    unfold Event.askedAttempt
    rw [hRecords.attempt]
  rcases attempts_of_retry hAccepts hRecords.kind
    hRecords.nodeId hLookup hLive with ⟨n', hLookup', hStored⟩
  rcases raises_iff.mpr hAdvances with ⟨hMore, hSame⟩
  have hAttempt := hSame _ hNamed
  constructor
  · omega
  · refine ⟨n', hLookup', ?_⟩
    omega

theorem Retrying.Sound.step
    (hSound : S.Sound max)
    (hCounts : act.Counts S)
    (hStep : RetryStep env max act S S') : S'.Sound max := by
  have hReached := hSound.reached_of_step hCounts hStep
  cases hStep with
  | event ev d' hAccepts =>
      exact { hSound with reached := hReached }
  | restart =>
      exact { hSound with
        parked := by
          intro id a hPark
          cases hPark }
  | park id resident verdict staleAgentPid emptyHanded n a
      hLookup hParks =>
      refine { hSound with parked := ?_ }
      intro id' a' hPark
      dsimp only at hPark
      rw [Function.update_apply] at hPark
      split at hPark
      · cases hPark
        exact parkDecision_le hParks
      · exact hSound.parked id' a' hPark
  | drop id =>
      refine { hSound with parked := ?_ }
      intro id' a' hPark
      dsimp only at hPark
      rw [Function.update_apply] at hPark
      split at hPark
      · cases hPark
      · exact hSound.parked id' a' hPark
  | retry id emptyHanded ev n a d' hPark hLookup hStill hRecords
      hAccepts =>
      have hLive : n.status.isTerminal = false := by
        unfold Node.stillRetryable at hStill
        simp only [Bool.and_eq_true, Bool.not_eq_true'] at hStill
        exact hStill.1
      rcases attempts_of_park hAccepts hRecords hLookup hLive
        (hCounts n hLookup) with
        ⟨hMore, n', hLookup', hStored⟩
      constructor
      · intro id' a' hPark'
        dsimp only at hPark'
        rw [Function.update_apply] at hPark'
        split at hPark'
        · cases hPark'
        · exact hSound.parked id' a' hPark'
      · intro id'
        dsimp only
        rw [Function.update_apply]
        split
        · rw [List.pairwise_append]
          refine ⟨hSound.ordered id, List.pairwise_singleton _ _,
            ?_⟩
          intro a₁ hMem a₂ hLast
          rw [List.mem_singleton] at hLast
          rcases hSound.reached id a₁ hMem with
            ⟨n₀, hHere, hLe⟩
          rw [hLookup, Option.some.injEq] at hHere
          subst hHere
          omega
        · exact hSound.ordered id'
      · intro id' a' hMem
        dsimp only at hMem
        rw [Function.update_apply] at hMem
        split at hMem
        · rw [List.mem_append, List.mem_singleton] at hMem
          rcases hMem with hMem | rfl
          · exact hSound.bounded id a' hMem
          · exact hSound.parked id a' hPark
        · exact hSound.bounded id' a' hMem
      · intro id' a' hMem
        dsimp only at hMem
        rw [Function.update_apply] at hMem
        split at hMem
        next hId =>
          subst hId
          rw [List.mem_append, List.mem_singleton] at hMem
          rcases hMem with hMem | rfl
          · exact hReached id' a' hMem
          · exact ⟨n', hLookup', le_of_eq hStored.symm⟩
        · exact hReached id' a' hMem

theorem Retrying.Sound.fresh (max : Nat) (d : Disk) :
    (Retrying.fresh d).Sound max where
  parked := by
    intro id a hPark
    cases hPark
  ordered := fun _ => List.Pairwise.nil
  bounded := by
    intro id a hMem
    cases hMem
  reached := by
    intro id a hMem
    cases hMem

theorem Retrying.Sound.run
    (hRun : Steps.RunWhen (RetryStep env max) RetryAct.Counts
      S S')
    (hSound : S.Sound max) : S'.Sound max :=
  hRun.invariant
    (fun _ _ _ hCounts hStep hHere => hHere.step hCounts hStep)
    hSound

/- Later and later attempts within the budget are few. -/
theorem Retrying.Sound.length_le
    (hSound : S.Sound max) (id : NodeId) :
    (S.started id).length ≤ max := by
  have hNodup : (S.started id).Nodup :=
    (hSound.ordered id).imp Nat.ne_of_lt
  have hSub : (S.started id).toFinset ⊆ Finset.Icc 1 max := by
    intro a hMem
    rw [List.mem_toFinset] at hMem
    rw [Finset.mem_Icc]
    exact hSound.bounded id a hMem
  have hCard := Finset.card_le_card hSub
  rw [List.toFinset_card_of_nodup hNodup, Nat.card_Icc,
    Nat.add_sub_cancel] at hCard
  exact hCard

/- Attempts never fall over a run that keeps the count. -/
theorem attempts_of_run
    (hRun : Steps.RunWhen (RetryStep env max) RetryAct.Counts
      S S')
    (hLookup : S.disk.nodes.lookup id = some n) :
    ∃ n', S'.disk.nodes.lookup id = some n' ∧
      n.retryAttempts ≤ n'.retryAttempts := by
  apply hRun.invariant (I := fun S' => ∃ n',
    S'.disk.nodes.lookup id = some n' ∧
      n.retryAttempts ≤ n'.retryAttempts)
  · intro act S₁ S₂ hCounts hStep hHere
    rcases hHere with ⟨n₁, hLookup₁, hLe⟩
    rcases attempts_of_step hCounts hStep hLookup₁ with
      ⟨n₂, hLookup₂, hMore⟩
    exact ⟨n₂, hLookup₂, le_trans hLe hMore⟩
  · exact ⟨n, hLookup, le_refl _⟩

/- A retry that is no re-fold raises to what it asks for. -/
theorem raises_of_keeps
    (hAccepts : Accepts env S.disk ev d')
    (hKeeps : ev.KeepsCount S)
    (hNew : ev ∉ S.history)
    (hKind : ev.kind = .nodeRetry)
    (hNode : ev.nodeId = some id)
    (hLookup : S.disk.nodes.lookup id = some n)
    (hLive : n.status.isTerminal = false) :
    ∃ n', d'.nodes.lookup id = some n' ∧
      ev.Raises n.retryAttempts n'.retryAttempts := by
  rcases hKeeps id n hKind hNode hLookup hLive with
    hAdvances | ⟨hOld, _⟩
  · rcases retry_advances_iff hAccepts hKind hNode hLookup hLive
      with ⟨n', hLookup', hIff⟩
    exact ⟨n', hLookup', hIff.mpr hAdvances⟩
  · exact absurd hOld hNew

end Supervisor

/-
  Where each event keeps the count, attempts never fall, each
  new retry of a live node raises them to what it asks for,
  and a supervisor starts at most its budget of retries. A
  retry raises them exactly if it asks for a later attempt
  that fits.
-/
theorem retries_grow
    (env : RunEnv)
    (max : Nat)
    (d : Disk)
    (S : Retrying)
    (hRun : Steps.RunWhen (RetryStep env max) RetryAct.Counts
      (Retrying.fresh d) S) :
    (∀ S', Steps.RunWhen (RetryStep env max) RetryAct.Counts
        S S' →
      ∀ id n, S.disk.nodes.lookup id = some n →
      ∃ n', S'.disk.nodes.lookup id = some n' ∧
        n.retryAttempts ≤ n'.retryAttempts) ∧
      (∀ ev d', Accepts env S.disk ev d' →
        ev.KeepsCount S → ev ∉ S.history →
        ev.kind = .nodeRetry →
        ∀ id n, ev.nodeId = some id →
        S.disk.nodes.lookup id = some n →
        n.status.isTerminal = false →
        ∃ n', d'.nodes.lookup id = some n' ∧
          ev.Raises n.retryAttempts n'.retryAttempts) ∧
      (∀ ev d', Accepts env S.disk ev d' →
        ev.kind = .nodeRetry →
        ∀ id n, ev.nodeId = some id →
        S.disk.nodes.lookup id = some n →
        n.status.isTerminal = false →
        ∃ n', d'.nodes.lookup id = some n' ∧
          (ev.Raises n.retryAttempts n'.retryAttempts ↔
            ev.Advances n.retryAttempts)) ∧
      ∀ id, (S.started id).length ≤ max := by
  constructor
  · intro S' hLater id n hLookup
    exact attempts_of_run hLater hLookup
  constructor
  · intro ev d' hAccepts hKeeps hNew hKind id n hNode hLookup
      hLive
    exact raises_of_keeps hAccepts hKeeps hNew hKind hNode
      hLookup hLive
  constructor
  · intro ev d' hAccepts hKind id n hNode hLookup hLive
    exact retry_advances_iff hAccepts hKind hNode hLookup hLive
  · intro id
    exact ((Retrying.Sound.fresh max d).run hRun).length_le id

namespace Sample

/- A retry of the sample node to an attempt. -/
def retryTo (seq attempt : Nat) : Event :=
  event seq .nodeRetry (some .first)
    (.obj [("attempt", .int attempt)])

/- The attempts of the sample node. -/
def attemptsOf (d : Disk) : Option Nat :=
  (d.nodes.lookup .first).map Node.retryAttempts

/- The sample node, on which nothing happened yet. -/
def calmNode : List Event := [runCreated, nodeCreated]

end Sample

/- A worker that died is parked and retried once. -/
theorem calmNode_retries_grow :
    ∃ S : Retrying, S.started .first = [1] ∧
      (S.started .first).length ≤ 1 := by
  have hRun :
      AcceptedRun Sample.env Disk.empty Sample.calmNode
        (foldAll Sample.env Disk.empty Sample.calmNode) :=
    acceptedRun_foldAll (by decide +kernel)
  have hRetry :
      AcceptedRun Sample.env
        (foldAll Sample.env Disk.empty Sample.calmNode)
        [Sample.retryTo 3 1]
        (foldAll Sample.env
          (foldAll Sample.env Disk.empty Sample.calmNode)
          [Sample.retryTo 3 1]) :=
    acceptedRun_foldAll (by decide +kernel)
  have hNode :
      ((foldAll Sample.env Disk.empty
        Sample.calmNode).nodes.lookup .first).map
        (fun n => (n.retryAttempts, n.stillRetryable true,
          parkDecision 1 false .dead n.agentPid true n)) =
        some (0, true, some 1) := by
    decide +kernel
  generalize foldAll Sample.env
    (foldAll Sample.env Disk.empty Sample.calmNode)
    [Sample.retryTo 3 1] = d' at hRetry
  generalize foldAll Sample.env Disk.empty Sample.calmNode = d
    at hRun hRetry hNode
  rw [Option.map_eq_some_iff] at hNode
  rcases hNode with ⟨n, hLookup, hFacts⟩
  simp only [Prod.mk.injEq] at hFacts
  rcases hFacts with ⟨hZero, hStill, hParks⟩
  let parked : Retrying := { Retrying.fresh d with
    retryStates := Function.update (fun _ => none) .first
      (some 1) }
  have hParked :
      RetryStep Sample.env 1
        (.park .first false .dead n.agentPid true)
        (Retrying.fresh d) parked :=
    .park .first false .dead n.agentPid true n 1 hLookup hParks
  have hPark : parked.retryStates .first = some 1 := by
    simp [parked]
  let retried : Retrying := { parked with
    disk := d'
    retryStates :=
      Function.update parked.retryStates .first none
    history := [Sample.retryTo 3 1]
    started := Function.update (fun _ => []) .first [1] }
  have hRetried :
      RetryStep Sample.env 1
        (.retry .first true (Sample.retryTo 3 1)) parked
        retried :=
    .retry .first true (Sample.retryTo 3 1) n 1 d' hPark
      hLookup hStill ⟨rfl, rfl, rfl⟩ hRetry.accepts
  have hStarted : retried.started .first = [1] := by
    simp [retried]
  refine ⟨retried, hStarted,
    (retries_grow Sample.env 1 d _ ?_).2.2.2 .first⟩
  apply (Steps.RunWhen.refl.next trivial hParked).next _ hRetried
  intro n' hLookup'
  have hSame : n = n' := Option.some.inj (hLookup ▸ hLookup')
  rw [← hSame, hZero]
  change ((0 : Nat) : Int) < 1 ∧ (1 : Int) < attemptLimit
  decide

/-
  Retries to a third and then to the first attempt, and one to
  an attempt that does not fit the counter.
-/
theorem retries_shrink :
    (∃ d d' n n',
      AcceptedRun Sample.env Disk.empty
        (Sample.calmNode ++ [Sample.retryTo 3 3]) d ∧
      Accepts Sample.env d (Sample.retryTo 4 1) d' ∧
      d.nodes.lookup .first = some n ∧
      d'.nodes.lookup .first = some n' ∧
      n.status.isTerminal = false ∧
      n'.retryAttempts < n.retryAttempts) ∧
      ∃ d d' n',
        AcceptedRun Sample.env Disk.empty Sample.calmNode d ∧
        Accepts Sample.env d (Sample.retryTo 3 (2 ^ 32)) d' ∧
        d'.nodes.lookup .first = some n' ∧
        (Sample.retryTo 3 (2 ^ 32)).askedAttempt =
          some (2 ^ 32) ∧
        n'.retryAttempts = 0 := by
  constructor
  · have hRun :
        AcceptedRun Sample.env Disk.empty
          (Sample.calmNode ++ [Sample.retryTo 3 3])
          (foldAll Sample.env Disk.empty
            (Sample.calmNode ++ [Sample.retryTo 3 3])) :=
      acceptedRun_foldAll (by decide +kernel)
    have hNext :
        AcceptedRun Sample.env
          (foldAll Sample.env Disk.empty
            (Sample.calmNode ++ [Sample.retryTo 3 3]))
          [Sample.retryTo 4 1]
          (foldAll Sample.env
            (foldAll Sample.env Disk.empty
              (Sample.calmNode ++ [Sample.retryTo 3 3]))
            [Sample.retryTo 4 1]) :=
      acceptedRun_foldAll (by decide +kernel)
    have hBefore :
        ((foldAll Sample.env Disk.empty
          (Sample.calmNode ++ [Sample.retryTo 3 3])
          ).nodes.lookup .first).map (fun n =>
            (n.retryAttempts, n.status.isTerminal)) =
          some (3, false) := by
      decide +kernel
    have hAfter :
        Sample.attemptsOf
          (foldAll Sample.env
            (foldAll Sample.env Disk.empty
              (Sample.calmNode ++ [Sample.retryTo 3 3]))
            [Sample.retryTo 4 1]) = some 1 := by
      decide +kernel
    unfold Sample.attemptsOf at hAfter
    rw [Option.map_eq_some_iff] at hBefore hAfter
    rcases hBefore with ⟨n, hLookup, hFacts⟩
    rcases hAfter with ⟨n', hLookup', hOne⟩
    simp only [Prod.mk.injEq] at hFacts
    refine ⟨_, _, n, n', hRun, hNext.accepts, hLookup, hLookup',
      hFacts.2, ?_⟩
    rw [hOne, hFacts.1]
    decide
  · have hRun :
        AcceptedRun Sample.env Disk.empty Sample.calmNode
          (foldAll Sample.env Disk.empty Sample.calmNode) :=
      acceptedRun_foldAll (by decide +kernel)
    have hNext :
        AcceptedRun Sample.env
          (foldAll Sample.env Disk.empty Sample.calmNode)
          [Sample.retryTo 3 (2 ^ 32)]
          (foldAll Sample.env
            (foldAll Sample.env Disk.empty Sample.calmNode)
            [Sample.retryTo 3 (2 ^ 32)]) :=
      acceptedRun_foldAll (by decide +kernel)
    have hAfter :
        Sample.attemptsOf
          (foldAll Sample.env
            (foldAll Sample.env Disk.empty Sample.calmNode)
            [Sample.retryTo 3 (2 ^ 32)]) = some 0 := by
      decide +kernel
    unfold Sample.attemptsOf at hAfter
    rw [Option.map_eq_some_iff] at hAfter
    rcases hAfter with ⟨n', hLookup', hZero⟩
    exact ⟨_, _, n', hRun, hNext.accepts, hLookup', rfl, hZero⟩

end Taskfleet
