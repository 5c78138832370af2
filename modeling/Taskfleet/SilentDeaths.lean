import Taskfleet.WatchdogTicks

/-
  Workers that die without a word.

  One tick notes such a death. A tick after the grace fails
  the node, or parks it for a retry, which may be due at once.
  A supervisor that starts again in between takes up where the
  other one was.

  Main declarations:
    * `Silent`, `adjudicated_silent`
    * `Tended`, `retried_parked`, `tick_silent`
    * `silent_death_settled`
-/

------------------------------------------------------------
-- Silent Nodes
------------------------------------------------------------

namespace Taskfleet

open Fallible Watchdog

/- Nothing on the disk tells what became of the worker. -/
structure Node.Untold (n : Node) : Prop where
  live : n.status.isTerminal = false
  unreported : n.lastReport = none
  running : n.workerExit = none
  unmerging : n.pendingMerge = none
  round : n.roundReportedByCurrentAttempt = false

/- The worker of the node is gone, and the node is to judge. -/
structure Silent
    (W : Watcher) (host : TickHost) (id : NodeId) (pid : Int)
    (n : Node) : Prop
    extends n.Untold where
  worker : n.agentPid = some pid
  gone : (host.procs id).Gone (n.agentProbe pid)
  grown : withinSpawnGrace n.startedAt host.now
    W.config.spawnGrace = false

def Failed (id : NodeId) (S : Watching) : Prop :=
  ∃ n, S.disk.nodes.lookup id = some n ∧ n.status = .failed

def Parked (id : NodeId) (S : Watching) : Prop :=
  ∃ park, S.parks id = some park

/- A verdict fails the node, or parks it as it is. -/
def Filed (id : NodeId) (n : Node) (S : Watching) : Prop :=
  Failed id S ∨ S.disk.nodes.lookup id = some n ∧ Parked id S

/- The grace has run out on the deaths of the node. -/
def Node.Overdue
    (W : Watcher) (n : Node) (now : Time) : Prop :=
  min (W.config.deathGrace * second) maxDuration ≤
    now - n.firstDeathAt.getD now

/- The node with a death on record, which is the first. -/
def Node.mourned (n : Node) (t : Time) : Node :=
  if n.firstDeathAt.isSome then n
  else
    { n with
      firstDeathAt := some t
      updatedAt := t }

section Mourning

variable {W : Watcher} {host : TickHost} {id : NodeId}
variable {n : Node} {pid : Int} {now later : Time}

theorem Node.Untold.synthesizable
    (hUntold : n.Untold) :
    n.stillSynthesizable n.agentPid = true := by
  simp [Node.stillSynthesizable, hUntold.live,
    hUntold.unreported, hUntold.running, hUntold.unmerging]

theorem Node.mourned_firstDeathAt (n : Node) (t : Time) :
    (n.mourned t).firstDeathAt =
      some (n.firstDeathAt.getD t) := by
  unfold Node.mourned
  split
  next hSome =>
    rw [Option.isSome_iff_exists] at hSome
    rcases hSome with ⟨t', hDeath⟩
    rw [hDeath]
    rfl
  next hNone =>
    rw [Bool.not_eq_true, Option.isSome_eq_false_iff,
      Option.isNone_iff_eq_none] at hNone
    rw [hNone]
    rfl

theorem Silent.mourned
    (hSilent : Silent W host id pid n) (t : Time) :
    Silent W host id pid (n.mourned t) := by
  unfold Node.mourned
  split
  · exact hSilent
  · exact ⟨⟨hSilent.live, hSilent.unreported, hSilent.running,
      hSilent.unmerging, hSilent.round⟩, hSilent.worker,
      hSilent.gone, hSilent.grown⟩

theorem Node.over_of_failed
    (hFailed : n.status = .failed) :
    n.status.isTerminal = true := by
  rw [hFailed]
  rfl

/- The grace counts from the death on record, once it is. -/
theorem Node.overdue_later
    (hSeen : n.firstDeathAt ≠ none ∨ n.Overdue W now)
    (hGrace : ∀ t, n.firstDeathAt = some t →
      min (W.config.deathGrace * second) maxDuration ≤
        later - t) : n.Overdue W later := by
  cases hFirst : n.firstDeathAt with
  | none =>
      have hNow := hSeen.resolve_left (not_not_intro hFirst)
      unfold Node.Overdue at hNow ⊢
      rw [hFirst, Option.getD_none, sub_self] at hNow
      rw [hFirst, Option.getD_none, sub_self]
      exact hNow
  | some t =>
      unfold Node.Overdue
      rw [hFirst, Option.getD_some]
      exact hGrace t hFirst

theorem Silent.sight
    (hSilent : Silent W host id pid n) (parked : Bool) :
    n.watchdogSight parked host.now W.config.spawnGrace =
      if parked then .passes
      else .probes (n.agentProbe pid) := by
  unfold Node.watchdogSight
  simp [hSilent.live, hSilent.round, hSilent.running,
    hSilent.grown, hSilent.worker, classifyLiveNodeWithRound,
    classifyLiveNode]

end Mourning

------------------------------------------------------------
-- The Verdict
------------------------------------------------------------

section Verdict

variable {W : Watcher} {host : TickHost} {S : Watching}
variable {id : NodeId} {n : Node} {pid : Int}

theorem judgement_of_gone
    {c : Suspect}
    (hGone : (host.procs c.id).Gone c.probe)
    (tmux : TmuxSnapshot) :
    (c.node.Overdue W host.now →
      ∃ v, c.judgement (host.procs c.id) tmux host.now
        W.config.deathGrace = .fails v) ∧
      (¬ c.node.Overdue W host.now →
        c.judgement (host.procs c.id) tmux host.now
            W.config.deathGrace =
          if c.node.firstDeathAt.isNone then .observes
          else .leaves) := by
  rw [← dead_iff (host.procs c.id) c.probe tmux] at hGone
  unfold Suspect.judgement deathObservation Node.Overdue
  simp only [hGone, if_true]
  constructor
  · intro hOverdue
    rw [if_pos hOverdue]
    exact ⟨_, rfl⟩
  · intro hEarly
    rw [if_neg hEarly]
    rfl

/- A node whose grace has run out is failed or parked. -/
theorem filed_of_crashed
    (host : TickHost)
    (v : Liveness)
    (hRest : Resting W.env S.disk)
    (hLookup : S.disk.nodes.lookup id = some n)
    (hUntold : n.Untold) :
    Filed id n
      { S with
        disk :=
          ((synthesizeCrashBackstopFailure W.env W.config
            (host.salvage id) (host.clock .judges id)
            host.instant id v n.agentPid).attempt none
              S.disk).1
        parks := S.parked id
          ((synthesizeCrashBackstopFailure W.env W.config
            (host.salvage id) (host.clock .judges id)
            host.instant id v n.agentPid).attempt none
              S.disk).2 } := by
  have hFresh : (freshNode W.env S.disk id).filter
      (fun n' => n'.stillSynthesizable n.agentPid) =
        some n := by
    rw [freshNode_of_readable hRest.nodes, hLookup,
      Option.filter_some, if_pos hUntold.synthesizable]
  unfold synthesizeCrashBackstopFailure
  rw [Durable.attempt_read]
  dsimp only
  rw [hFresh]
  dsimp only
  split
  next attempt hParks =>
    right
    exact ⟨hLookup, _, Function.update_self _ _ _⟩
  next hParks =>
    left
    dsimp only [Durable.attempt]
    rw [Durable.final_return]
    exact hRest.append_report rfl rfl (crashReport_status rfl)
      hLookup hUntold.live

theorem reduce_death
    {env : RunEnv} {d : Disk} {ev : Event}
    (hRun : ev.runId = env.runId)
    (hKind : ev.kind = .nodeDeathObserved)
    (hNode : ev.nodeId = some id)
    (hLookup : d.nodes.lookup id = some n)
    (hValid : n.Valid env id)
    (hUntold : n.Untold)
    (hFirst : n.firstDeathAt = none) :
    reduceEventToOps env d ev =
      .ok [.node (n.mourned ev.ts)] := by
  have hArm :
      nodeArm env d ev id =
        some (.ok (nodeDeathObservedStep ev)) := by
    simp [nodeArm, hKind]
  unfold reduceEventToOps
  rw [reduceKind_eq_arm hArm hNode]
  simp [refuseIf, hRun, onNode_of_step hLookup hValid,
    nodeDeathObservedStep, hFirst, hUntold.live,
    hUntold.running, hUntold.unreported, hUntold.unmerging,
    stepPlan, Node.mourned]

/- A death that nobody noted yet is noted now. -/
theorem mourned_of_observed
    (now : Time)
    (hRest : Resting W.env S.disk)
    (hLookup : S.disk.nodes.lookup id = some n)
    (hUntold : n.Untold)
    (hFirst : n.firstDeathAt = none) :
    ((recordDeathObserved W.env now id n.agentPid).attempt
        none S.disk).1.nodes.lookup id =
      some (n.mourned now) := by
  have hValid := hRest.nodes id n hLookup
  have hFresh : (readNodeOpt W.env S.disk id).toOption.join =
      some n := by
    have hRead := freshNode_of_readable hRest.nodes id
    rwa [hLookup] at hRead
  unfold recordDeathObserved
  rw [Durable.attempt_read]
  dsimp only
  rw [hFresh, if_pos (by simp [hFirst, hUntold.live,
    hUntold.running, hUntold.unreported, hUntold.unmerging])]
  dsimp only [Durable.attempt]
  rw [Durable.final_return]
  exact hRest.append_node
    (reduce_death rfl rfl rfl hLookup hValid hUntold hFirst)
    (by simp [Node.mourned, hFirst, hValid.nodeId])

theorem judge_overdue
    (tmux : TmuxSnapshot)
    (hRest : Resting W.env S.disk)
    (hTick : S.tickAt = host.now)
    (hLookup : S.disk.nodes.lookup id = some n)
    (hSilent : Silent W host id pid n)
    (hOverdue : n.Overdue W host.now) :
    Filed id n
      (S.judge W host tmux ⟨id, n, n.agentProbe pid⟩) := by
  have hJudged :=
    (judgement_of_gone (W := W)
      (c := ⟨id, n, n.agentProbe pid⟩) hSilent.gone tmux).1
      hOverdue
  rcases hJudged with ⟨v, hFails⟩
  unfold Watching.judge
  rw [hTick, hFails]
  exact filed_of_crashed host v hRest hLookup hSilent.toUntold

/- Before that its death is noted, and no more. -/
theorem judge_early
    (tmux : TmuxSnapshot)
    (hRest : Resting W.env S.disk)
    (hTick : S.tickAt = host.now)
    (hLookup : S.disk.nodes.lookup id = some n)
    (hSilent : Silent W host id pid n)
    (hEarly : ¬ n.Overdue W host.now) :
    (S.judge W host tmux
        ⟨id, n, n.agentProbe pid⟩).disk.nodes.lookup id =
      some (n.mourned (host.clock .judges id)) ∧
    (S.judge W host tmux ⟨id, n, n.agentProbe pid⟩).parks =
      S.parks := by
  have hJudged :=
    (judgement_of_gone (W := W)
      (c := ⟨id, n, n.agentProbe pid⟩) hSilent.gone tmux).2
      hEarly
  unfold Watching.judge
  rw [hTick, hJudged]
  cases hFirst : n.firstDeathAt with
  | none =>
      simp only [Option.isNone_none, if_true]
      exact ⟨mourned_of_observed _ hRest hLookup
        hSilent.toUntold hFirst, trivial⟩
  | some t =>
      simp only [Option.isNone_some, Bool.false_eq_true,
        if_false]
      rw [hLookup]
      simp [Node.mourned, hFirst]

end Verdict

------------------------------------------------------------
-- The Node Among the Others
------------------------------------------------------------

section Among

variable {W : Watcher} {host : TickHost} {S : Watching}
variable {id : NodeId} {n : Node} {pid : Int}

/- A candidate is a node that the tick is to probe. -/
theorem mem_scan_fst
    {c : Suspect}
    (hMem : c ∈ (S.scan W host).1) :
    freshNode W.env S.disk c.id = some c.node ∧
      c.node.watchdogSight (S.parks c.id).isSome host.now
        W.config.spawnGrace = .probes c.probe := by
  unfold Watching.scan watchdogScan at hMem
  rw [List.mem_filterMap] at hMem
  rcases hMem with ⟨i, _, hSees⟩
  rw [Option.bind_eq_some_iff] at hSees
  rcases hSees with ⟨n, hFresh, hSees⟩
  split at hSees
  next probe hSight =>
    cases hSees
    exact ⟨hFresh, hSight⟩
  · cases hSees

theorem mem_scan_snd
    {t : NodeId × WorkerExit}
    (hMem : t ∈ (S.scan W host).2) :
    ∃ n, freshNode W.env S.disk t.1 = some n ∧
      n.watchdogSight (S.parks t.1).isSome host.now
        W.config.spawnGrace = .told t.2 := by
  unfold Watching.scan watchdogScan at hMem
  rw [List.mem_filterMap] at hMem
  rcases hMem with ⟨i, _, hSees⟩
  rw [Option.bind_eq_some_iff] at hSees
  rcases hSees with ⟨n, hFresh, hSees⟩
  split at hSees
  next exit hSight =>
    cases hSees
    exact ⟨n, hFresh, hSight⟩
  · cases hSees

/- A node that the scan passes over is left alone. -/
theorem adjudicated_passes
    (host : TickHost)
    (hRest : Resting W.env S.disk)
    (hLookup : S.disk.nodes.lookup id = some n)
    (hPasses : n.watchdogSight (S.parks id).isSome host.now
      W.config.spawnGrace = .passes) :
    Beside W id (S.seen W host) (S.adjudicated W host) := by
  have hFresh : freshNode W.env S.disk id = some n :=
    (freshNode_of_readable hRest.nodes id).trans hLookup
  have hJudges : ∀ c ∈ (S.scan W host).1, c.id ≠ id := by
    rintro c hMem rfl
    have hSees := mem_scan_fst hMem
    rw [hFresh, Option.some.injEq] at hSees
    rw [← hSees.1, hPasses] at hSees
    cases hSees.2
  have hTells : ∀ t ∈ (S.scan W host).2, t.1 ≠ id := by
    rintro t hMem rfl
    rcases mem_scan_snd hMem with ⟨n', hFresh', hSees⟩
    rw [hFresh, Option.some.injEq] at hFresh'
    rw [← hFresh', hPasses] at hSees
    cases hSees
  have hFirst := (Beside.foldl (S := S.seen W host)
    (judge_beside host
      (Watching.snapshot host (S.scan W host).1)) hRest
    hJudges).onto (S.judged W host) rfl rfl rfl
  have hSecond := (Beside.foldl (S := S.judged W host)
    (tell_beside host) hFirst.resting hTells).onto
      (S.adjudicated W host) rfl rfl rfl
  exact hFirst.trans hSecond

/- The candidates of a part of the directory are in it. -/
theorem scan_split
    {probe : AgentProbe} {front back : List NodeId}
    (host : TickHost)
    (hLookup : freshNode W.env S.disk id = some n)
    (hProbes : n.watchdogSight (S.parks id).isSome host.now
      W.config.spawnGrace = .probes probe)
    (hOrder : host.order = front ++ id :: back) :
    ∃ before after,
      (S.scan W host).1 = before ++ ⟨id, n, probe⟩ :: after ∧
        (∀ c ∈ before, c.id ∈ front) ∧
        ∀ c ∈ after, c.id ∈ back := by
  unfold Watching.scan watchdogScan
  rw [hOrder, List.filterMap_append, List.filterMap_cons,
    hLookup, Option.bind_some, hProbes]
  refine ⟨_, _, rfl, ?_, ?_⟩
  all_goals
    intro c hMem
    rw [List.mem_filterMap] at hMem
    rcases hMem with ⟨i, hHere, hSees⟩
    rw [Option.bind_eq_some_iff] at hSees
    rcases hSees with ⟨n', _, hSees⟩
    split at hSees
    · cases hSees
      exact hHere
    · cases hSees

/- A tick comes to the node after some and before others. -/
theorem adjudicated_judges
    {probe : AgentProbe}
    (hRest : Resting W.env S.disk)
    (hLookup : S.disk.nodes.lookup id = some n)
    (hProbes : n.watchdogSight (S.parks id).isSome host.now
      W.config.spawnGrace = .probes probe)
    (hListed : id ∈ host.order) :
    ∃ S₁ tmux, Beside W id (S.seen W host) S₁ ∧
      Beside W id (S₁.judge W host tmux ⟨id, n, probe⟩)
        (S.adjudicated W host) := by
  have hFresh : freshNode W.env S.disk id = some n :=
    (freshNode_of_readable hRest.nodes id).trans hLookup
  have hOnce := host.listed
  rcases List.append_of_mem hListed with ⟨front, back, hOrder⟩
  rw [hOrder, List.nodup_middle, List.nodup_cons,
    List.mem_append, not_or] at hOnce
  rcases scan_split host hFresh hProbes hOrder with
    ⟨before, after, hScan, hBefore, hAfter⟩
  have hTells : ∀ t ∈ (S.scan W host).2, t.1 ≠ id := by
    rintro t hMem rfl
    rcases mem_scan_snd hMem with ⟨n', hFresh', hSees⟩
    rw [hFresh, Option.some.injEq] at hFresh'
    rw [← hFresh', hProbes] at hSees
    cases hSees
  let tmux := Watching.snapshot host (S.scan W host).1
  have hNotBefore : ∀ c ∈ before, c.id ≠ id := by
    rintro c hMem rfl
    exact hOnce.1.1 (hBefore c hMem)
  have hNotAfter : ∀ c ∈ after, c.id ≠ id := by
    rintro c hMem rfl
    exact hOnce.1.2 (hAfter c hMem)
  rcases Beside.foldl_once (S := S.seen W host)
    (judge_beside host tmux)
    (fun _ hHere => (judge_touches _).grown hHere) hScan hRest
    hNotBefore hNotAfter with ⟨S₁, hFirst, hSecond⟩
  have hJudged := hSecond.onto (S.judged W host) rfl rfl rfl
  have hThird := (Beside.foldl (S := S.judged W host)
    (tell_beside host) hJudged.resting hTells).onto
      (S.adjudicated W host) rfl rfl rfl
  exact ⟨S₁, tmux, hFirst, hJudged.trans hThird⟩

/- The node is failed or parked, or its death is noted. -/
theorem adjudicated_silent
    (hRest : Resting W.env S.disk)
    (hLookup : S.disk.nodes.lookup id = some n)
    (hUnparked : S.parks id = none)
    (hSilent : Silent W host id pid n)
    (hListed : id ∈ host.order) :
    (n.Overdue W host.now →
      Filed id n (S.adjudicated W host)) ∧
    (¬ n.Overdue W host.now →
      (S.adjudicated W host).disk.nodes.lookup id =
          some (n.mourned (host.clock .judges id)) ∧
        (S.adjudicated W host).parks id = none) := by
  have hSight := hSilent.sight (S.parks id).isSome
  rw [hUnparked, Option.isSome_none, if_neg (by simp),
    ← Option.isSome_none, ← hUnparked] at hSight
  rcases adjudicated_judges hRest hLookup hSight hListed with
    ⟨S₁, tmux, hFirst, hSecond⟩
  have hTick : S₁.tickAt = host.now := hFirst.tickAt
  have hHere : S₁.disk.nodes.lookup id = some n :=
    hFirst.node.trans hLookup
  constructor
  · intro hOverdue
    have hFiled := judge_overdue tmux hFirst.resting hTick
      hHere hSilent hOverdue
    unfold Filed Failed Parked
    rw [hSecond.node, hSecond.park]
    exact hFiled
  · intro hEarly
    have hNoted := judge_early tmux hFirst.resting hTick
      hHere hSilent hEarly
    refine ⟨hSecond.node.trans hNoted.1, ?_⟩
    rw [hSecond.park, hNoted.2]
    exact hFirst.park.trans hUnparked

end Among

------------------------------------------------------------
-- A Parked Node
------------------------------------------------------------

/- A retry of the node was logged since. -/
def Respawned (id : NodeId) (since d : Disk) : Prop :=
  ∃ ev ∈ d.events, ev ∉ since.events ∧
    ev.kind = .nodeRetry ∧ ev.nodeId = some id

/-
  At one of its two looks a retry is not told for sure that
  the node has left nothing.
-/
def TickHost.Doubts
    (host : TickHost)
    (id : NodeId)
    (m : Option Manifest)
    (n : Node) : Prop :=
  nodeIsEmptyHanded (host.look id) m n = false ∨
    nodeIsEmptyHanded (host.recheck id) m n = false

/- What a tick makes of a silent node whose grace is over. -/
inductive Tended
    (host : TickHost) (m : Option Manifest) (n : Node)
    (since : Disk) (id : NodeId) (S : Watching) : Prop where
| failed
    (hFailed : Failed id S)
| parked
    (hSame : S.disk.nodes.lookup id = some n)
    (hPark : Parked id S)
| respawned
    (hRetry : Respawned id since S.disk)
| dropped
    (hSame : S.disk.nodes.lookup id = some n)
    (hFree : S.parks id = none)
    (hDoubts : host.Doubts id m n)

theorem enduring_respawned
    (env : RunEnv) (id : NodeId) (since : Disk) :
    Enduring env (Respawned id since) where
  logged := by
    rintro s s' ⟨ev, hMem, hNew⟩ _ _ hEvents
    exact ⟨ev, hEvents hMem, hNew⟩
  folded := by
    intro s ev ops j hHere _
    unfold Respawned
    rwa [Disk.applyOps_events]
  advanced := by
    intro s seq hHere
    unfold Respawned
    rwa [Disk.advance_events]

theorem enduring_logged
    (env : RunEnv) (events : List Event) :
    Enduring env (fun d => events ⊆ d.events) where
  logged := fun _ _ hHere _ _ hEvents =>
    List.Subset.trans hHere hEvents
  folded := by
    intro s ev ops j hHere _
    rwa [Disk.applyOps_events]
  advanced := by
    intro s seq hHere
    rwa [Disk.advance_events]

theorem Respawned.earlier
    {id : NodeId} {since before d : Disk}
    (hRetry : Respawned id since d)
    (hEvents : before.events ⊆ since.events) :
    Respawned id before d := by
  rcases hRetry with ⟨ev, hMem, hNew, hHere⟩
  exact ⟨ev, hMem, fun hOld => hNew (hEvents hOld), hHere⟩

section Parked

variable {W : Watcher} {host : TickHost} {S S' : Watching}
variable {id : NodeId} {n : Node} {m : Option Manifest}
variable {since before : Disk} {park : RetryPark}

theorem Tended.earlier
    (hTended : Tended host m n since id S)
    (hEvents : before.events ⊆ since.events) :
    Tended host m n before id S := by
  cases hTended with
  | failed hFailed => exact .failed hFailed
  | parked hSame hPark => exact .parked hSame hPark
  | respawned hRetry =>
      exact .respawned (hRetry.earlier hEvents)
  | dropped hSame hFree hDoubts =>
      exact .dropped hSame hFree hDoubts

theorem Failed.beside
    (hFailed : Failed id S)
    (hBeside : Beside W id S S') : Failed id S' := by
  rcases hFailed with ⟨n, hLookup, hStatus⟩
  exact ⟨n, hBeside.node.trans hLookup, hStatus⟩

theorem Tended.beside
    (hTended : Tended host m n since id S)
    (hBeside : Beside W id S S') :
    Tended host m n since id S' := by
  cases hTended with
  | failed hFailed => exact .failed (hFailed.beside hBeside)
  | parked hSame hPark =>
      rcases hPark with ⟨park, hPark⟩
      exact .parked (hBeside.node.trans hSame)
        ⟨park, hBeside.park.trans hPark⟩
  | respawned hRetry =>
      rcases hRetry with ⟨ev, hMem, hNew⟩
      exact .respawned ⟨ev, hBeside.logged hMem, hNew⟩
  | dropped hSame hFree hDoubts =>
      exact .dropped (hBeside.node.trans hSame)
        (hBeside.park.trans hFree) hDoubts

/- A retry is logged, unless there is a doubt again. -/
theorem wp_recordRetry
    {env : RunEnv} {d : Disk}
    (world : CleanupWorld) (now : Time) (data : Json)
    (hRest : Resting env d)
    (hLookup : d.nodes.lookup id = some n)
    (hLive : n.status.isTerminal = false) :
    Durable.wp (recordRetry env world now id data)
      (fun _ s => Respawned id d s ∨
        s.nodes.lookup id = some n ∧
          nodeIsEmptyHanded world d.manifest n = false)
      (fun _ s => s.nodes.lookup id = some n)
      (fun _ _ => True) d := by
  unfold recordRetry
  rw [Durable.wp_bind, Durable.wp_read,
    freshNode_of_readable hRest.nodes,
    freshManifest_of_readable hRest.readable, hLookup,
    Option.any_some]
  cases hEmpty : nodeIsEmptyHanded world d.manifest n with
  | false =>
      rw [if_neg (by simp [Node.stillRetryable]),
        Durable.wp_pure]
      exact .inr ⟨hLookup, rfl⟩
  | true =>
      rw [if_pos (by simp [Node.stillRetryable, hLive]),
        Durable.wp_bind]
      apply Durable.wp_mono (hRest.wp_append _)
      · rintro _ s ⟨_, hEvents, _⟩
        rw [Durable.wp_pure]
        have hMem : (retryRequest now id data).event env
            (d.lastSeq + 1) ∈ s.events := by
          rw [hEvents]
          exact List.mem_append_right _ List.mem_cons_self
        exact .inl ⟨_, hMem, hRest.next_notMem _, rfl, rfl⟩
      · rintro e s ⟨_, hNodes, _⟩
        rw [hNodes]
        exact hLookup
      · exact fun _ _ _ => trivial

theorem respawnFailureReport_status
    {ev : Event} {attempt : Nat} {err : String}
    (hData : ev.data = respawnFailureReport id attempt err) :
    ev.reportTerminalStatus = .ok .failed := by
  apply supervisorFailure_status hData
  intro f hMem
  rw [List.mem_singleton] at hMem
  simp [hMem]

/- Without a worker the node stays parked, or is failed. -/
theorem tended_of_unspawned
    (err : String)
    (hRest : Resting W.env S.disk)
    (hLookup : S.disk.nodes.lookup id = some n)
    (hLive : n.status.isTerminal = false) :
    Tended host m n since id
      (S.unspawned W host id park err) := by
  unfold Watching.unspawned
  split
  · apply Tended.failed
    unfold terminalizeRespawnFailure
    rw [Durable.attempt_read,
      freshNode_of_readable hRest.nodes, hLookup,
      Option.any_some, if_pos (by simp [hLive])]
    dsimp only [Durable.attempt]
    unfold Failed
    dsimp only
    rw [Durable.final_return]
    exact hRest.append_report rfl rfl
      (respawnFailureReport_status rfl) hLookup hLive
  · exact .parked hLookup ⟨_, Function.update_self _ _ _⟩

theorem tended_of_rewired
    (spawn : RespawnOutcome) (baseSha : Option String)
    (hRest : Resting W.env S.disk)
    (hSource : sourceOf S.disk.manifest = sourceOf m)
    (hLookup : S.disk.nodes.lookup id = some n)
    (hLive : n.status.isTerminal = false)
    (hPark : S.parks id = some park) :
    Tended host m n S.disk id
      (S.rewired W host id park spawn baseSha) := by
  have hWp := wp_recordRetry (host.recheck id)
    (host.clock .retries id)
    (retryData park.attempt park.reason spawn baseSha) hRest
    hLookup hLive
  unfold Watching.rewired Durable.attempt
  dsimp only
  cases hResult :
      (recordRetry W.env (host.recheck id)
        (host.clock .retries id) id
        (retryData park.attempt park.reason spawn
          baseSha)).result S.disk with
  | error e =>
      exact .parked (Durable.wp_error hWp hResult)
        ⟨park, hPark⟩
  | ok told =>
      rcases Durable.wp_ok hWp hResult with
        hRetry | ⟨hSame, hDoubt⟩
      · exact .respawned hRetry
      · refine .dropped hSame (Function.update_self _ _ _)
          (.inr ?_)
        rwa [← nodeIsEmptyHanded_congr hSource]

/- A retry of the node itself, at any point of a tick. -/
theorem tended_of_retry
    (hRest : Resting W.env S.disk)
    (hSource : sourceOf S.disk.manifest = sourceOf m)
    (hLookup : S.disk.nodes.lookup id = some n)
    (hLive : n.status.isTerminal = false)
    (hKind : n.retryEligibleKind = true)
    (hPark : Parked id S) :
    Tended host m n S.disk id (S.retry W host id) := by
  rcases hPark with ⟨park, hPark⟩
  unfold Watching.retry
  rw [hPark]
  dsimp only
  split
  next hLook =>
    refine .dropped hLookup (Function.update_self _ _ _)
      (.inl ?_)
    unfold retryableNode at hLook
    rw [freshNode_of_readable hRest.nodes,
      freshManifest_of_readable hRest.readable, hLookup,
      Option.filter_eq_none_iff] at hLook
    have hNot := hLook n rfl
    rw [← nodeIsEmptyHanded_congr hSource]
    simpa [hLive, hKind] using hNot
  next =>
    split
    · exact .parked hLookup ⟨park, hPark⟩
    split
    · exact tended_of_unspawned _ hRest hLookup hLive
    · exact tended_of_rewired _ _ hRest hSource hLookup hLive
        hPark

/- The retries come to the node once, or not at all. -/
theorem retried_cases
    (host : TickHost) (id : NodeId)
    (hRest : Resting W.env S.disk) :
    Beside W id S (S.retried W host) ∨
      ∃ S₁, Beside W id S S₁ ∧
        Beside W id (S₁.retry W host id)
          (S.retried W host) := by
  have hOnce : (S.due host).Nodup := host.keyed.filter _
  by_cases hDue : id ∈ S.due host
  · right
    rcases List.append_of_mem hDue with ⟨front, back, hSplit⟩
    rw [hSplit, List.nodup_middle, List.nodup_cons,
      List.mem_append, not_or] at hOnce
    apply Beside.foldl_once (retry_beside host)
      (fun _ hHere => (retry_touches id).grown hHere) hSplit
      hRest
    · rintro i hMem rfl
      exact hOnce.1.1 hMem
    · rintro i hMem rfl
      exact hOnce.1.2 hMem
  · left
    apply Beside.foldl (retry_beside host) hRest
    rintro i hMem rfl
    exact hDue hMem

theorem retried_unparked
    (host : TickHost)
    (hRest : Resting W.env S.disk)
    (hFree : S.parks id = none) :
    Beside W id S (S.retried W host) := by
  rcases retried_cases host id hRest with
    hBeside | ⟨S₁, hFirst, hSecond⟩
  · exact hBeside
  · have hNothing : S₁.retry W host id = S₁ := by
      unfold Watching.retry
      rw [hFirst.park.trans hFree]
    rw [hNothing] at hSecond
    exact hFirst.trans hSecond

theorem retried_failed
    (host : TickHost)
    (hRest : Resting W.env S.disk)
    (hFailed : Failed id S) : Failed id (S.retried W host) := by
  rcases retried_cases host id hRest with
    hBeside | ⟨S₁, hFirst, hSecond⟩
  · exact hFailed.beside hBeside
  · rcases hFailed.beside hFirst with ⟨n, hLookup, hStatus⟩
    have hLook : retryableNode W.env (host.look id) S₁.disk
        id = none := by
      unfold retryableNode
      rw [freshNode_of_readable hFirst.resting.nodes, hLookup,
        Option.filter_some,
        if_neg (by simp [Node.over_of_failed hStatus])]
    have hSame : (S₁.retry W host id).disk = S₁.disk := by
      unfold Watching.retry
      rw [hLook]
      split <;> rfl
    refine Failed.beside ⟨n, ?_, hStatus⟩ hSecond
    rwa [hSame]

/- A parked node is settled, whether its time has come or not. -/
theorem retried_parked
    (host : TickHost)
    (hSound : S.Sound W)
    (hRest : Resting W.env S.disk)
    (hSource : sourceOf S.disk.manifest = sourceOf m)
    (hLookup : S.disk.nodes.lookup id = some n)
    (hLive : n.status.isTerminal = false)
    (hPark : Parked id S) :
    Tended host m n S.disk id (S.retried W host) := by
  rcases hPark with ⟨park, hPark⟩
  have hKind : n.retryEligibleKind = true := by
    rcases (hSound.parks id park hPark).eligible with
      ⟨n', hLookup', hKind⟩
    rw [hLookup, Option.some.injEq] at hLookup'
    rwa [hLookup']
  rcases retried_cases host id hRest with
    hBeside | ⟨S₁, hFirst, hSecond⟩
  · exact Tended.beside (.parked hLookup ⟨park, hPark⟩)
      hBeside
  · have hTended :
        Tended host m n S₁.disk id (S₁.retry W host id) :=
      tended_of_retry hFirst.resting
        (hFirst.source.trans hSource)
        (hFirst.node.trans hLookup) hLive hKind
        ⟨park, hFirst.park.trans hPark⟩
    exact (hTended.earlier hFirst.logged).beside hSecond

end Parked

------------------------------------------------------------
-- Two Ticks
------------------------------------------------------------

namespace Watching

/- Between ticks, with nothing of the log left to fold. -/
structure Rests (S : Watching) : Prop where
  scanned : S.Scanned
  idle : S.respawning = none
  folded : S.disk.lastSeq ≤ S.disk.appliedSeq

section Runs

variable {W : Watcher} {S S' : Watching} {act : WatchAct}
variable {P : Disk → Prop}

theorem Sound.lasts
    (hSound : S.Sound W)
    (hEnduring : Enduring W.env P)
    (hStep : WatchdogStep W act S S')
    (hHere : P S.disk) : P S'.disk := by
  by_cases hOwn : act = .other
  · subst hOwn
    cases hStep with
    | other _ w d hLeaves =>
        exact (Durable.wp_leaves
          (hEnduring.keeps_writer w S.disk
            ⟨hSound.backed.readable, hHere⟩) hLeaves).2
  · exact (appends_of_step hSound hStep hOwn).lasts
      hSound.backed hEnduring hHere

theorem enduring_of_run
    (hSound : S.Sound W)
    (hEnduring : Enduring W.env P)
    (hRun : Steps.Run (WatchdogStep W) S S')
    (hHere : P S.disk) : S'.Sound W ∧ P S'.disk :=
  Steps.Run.invariant (I := fun S => S.Sound W ∧ P S.disk)
    (fun _ _ _ hStep hBoth =>
      ⟨hBoth.1.step hStep,
        hBoth.1.lasts hEnduring hStep hBoth.2⟩)
    hRun ⟨hSound, hHere⟩

theorem Sound.resting
    (hSound : S.Sound W)
    (hRests : S.Rests) : Resting W.env S.disk :=
  ⟨hSound.backed, hRests.folded⟩

end Runs

end Watching

section Ticks

variable {W : Watcher} {host : TickHost} {S : Watching}
variable {id : NodeId} {n : Node} {pid : Int}

theorem tick_eq
    (hRest : Resting W.env S.disk)
    (hUnattended : Unattended S.disk) :
    S.tick W host = (S.adjudicated W host).retried W host := by
  rcases hUnattended with ⟨m, hManifest, hLifecycle⟩
  unfold Watching.tick
  rw [freshManifest_of_readable hRest.readable, hManifest]
  dsimp only
  rw [if_neg hLifecycle]

theorem adjudicated_sound
    (host : TickHost)
    (hSound : S.Sound W)
    (hRests : S.Rests)
    (hUnattended : Unattended S.disk) :
    (S.adjudicated W host).Sound W := by
  rcases hUnattended with ⟨m, hManifest, hLifecycle⟩
  have hFresh := freshManifest_of_readable hSound.backed.readable
  exact Steps.Run.invariant (I := fun S => S.Sound W)
    (fun _ _ _ hStep hHere => hHere.step hStep)
    (Watching.adjudicated_run host hRests.scanned hRests.idle
      (hFresh.trans hManifest) hLifecycle) hSound

/- What a tick that finds a node parked makes of it. -/
theorem tended_of_adjudicated
    (hSound : S.Sound W)
    (hRests : S.Rests)
    (hUnattended : Unattended S.disk)
    (hLive : n.status.isTerminal = false)
    (hFiled : Filed id n (S.adjudicated W host)) :
    Tended host S.disk.manifest n S.disk id
      (S.tick W host) := by
  have hRest := hSound.resting hRests
  have hGrown := adjudicated_grown host hRest
  rw [tick_eq hRest hUnattended]
  rcases hFiled with hFailed | ⟨hLookup, hPark⟩
  · exact .failed (retried_failed host hGrown.resting hFailed)
  · exact (retried_parked host
      (adjudicated_sound host hSound hRests hUnattended)
      hGrown.resting hGrown.source hLookup hLive
      hPark).earlier hGrown.logged

theorem tick_silent
    (hSound : S.Sound W)
    (hRests : S.Rests)
    (hUnattended : Unattended S.disk)
    (hLookup : S.disk.nodes.lookup id = some n)
    (hUnparked : S.parks id = none)
    (hSilent : Silent W host id pid n)
    (hListed : id ∈ host.order) :
    (n.Overdue W host.now →
      Tended host S.disk.manifest n S.disk id
        (S.tick W host)) ∧
    (¬ n.Overdue W host.now →
      (S.tick W host).disk.nodes.lookup id =
        some (n.mourned (host.clock .judges id))) := by
  have hRest := hSound.resting hRests
  have hBoth := adjudicated_silent hRest hLookup hUnparked
    hSilent hListed
  constructor
  · intro hOverdue
    exact tended_of_adjudicated hSound hRests hUnattended
      hSilent.live (hBoth.1 hOverdue)
  · intro hEarly
    rcases hBoth.2 hEarly with ⟨hNoted, hFree⟩
    have hBeside := retried_unparked host
      (adjudicated_grown host hRest).resting hFree
    rw [tick_eq hRest hUnattended]
    exact hBeside.node.trans hNoted

theorem tick_parked
    (hSound : S.Sound W)
    (hRests : S.Rests)
    (hUnattended : Unattended S.disk)
    (hLookup : S.disk.nodes.lookup id = some n)
    (hSilent : Silent W host id pid n)
    (hPark : Parked id S) :
    Tended host S.disk.manifest n S.disk id
      (S.tick W host) := by
  rcases hPark with ⟨park, hPark⟩
  have hSight := hSilent.sight (S.parks id).isSome
  rw [hPark, Option.isSome_some, if_pos rfl,
    ← Option.isSome_some, ← hPark] at hSight
  have hBeside := adjudicated_passes host
    (hSound.resting hRests) hLookup hSight
  exact tended_of_adjudicated hSound hRests hUnattended
    hSilent.live
    (.inr ⟨hBeside.node.trans hLookup, park,
      hBeside.park.trans hPark⟩)

theorem tick_failed
    (host : TickHost)
    (hRest : Resting W.env S.disk)
    (hUnattended : Unattended S.disk)
    (hFailed : Failed id S) : Failed id (S.tick W host) := by
  rcases hFailed with ⟨n, hLookup, hStatus⟩
  have hBeside := adjudicated_passes host hRest hLookup
    (by simp [Node.watchdogSight, Node.over_of_failed hStatus])
  rw [tick_eq hRest hUnattended]
  exact retried_failed host hBeside.resting
    ⟨n, hBeside.node.trans hLookup, hStatus⟩

/- What the first tick leaves, a later one can go on with. -/
theorem left_by_tick
    {n' : Node} {later : Time}
    (hSound : S.Sound W)
    (hRests : S.Rests)
    (hUnattended : Unattended S.disk)
    (hLookup : S.disk.nodes.lookup id = some n)
    (hUnparked : S.parks id = none)
    (hSilent : Silent W host id pid n)
    (hListed : id ∈ host.order)
    (hLeft :
      (S.tick W host).disk.nodes.lookup id = some n')
    (hGrace : ∀ t, n'.firstDeathAt = some t →
      min (W.config.deathGrace * second) maxDuration ≤
        later - t) :
    n'.status = .failed ∨
      Respawned id S.disk (S.tick W host).disk ∨
      (n' = n ∨ ∃ t, n' = n.mourned t) ∧
        n'.Overdue W later := by
  have hTick := tick_silent hSound hRests hUnattended hLookup
    hUnparked hSilent hListed
  have hSame : ∀ {n₁ : Node},
      (S.tick W host).disk.nodes.lookup id = some n₁ →
      n' = n₁ := by
    intro n₁ hHere
    rw [hLeft, Option.some.injEq] at hHere
    exact hHere
  by_cases hOverdue : n.Overdue W host.now
  · have hKept : n' = n → n'.Overdue W later := by
      rintro rfl
      exact Node.overdue_later (.inr hOverdue) hGrace
    cases hTick.1 hOverdue with
    | failed hFailed =>
        rcases hFailed with ⟨n₁, hHere, hStatus⟩
        left
        rwa [hSame hHere]
    | respawned hRetry => exact .inr (.inl hRetry)
    | parked hHere =>
        exact .inr (.inr ⟨.inl (hSame hHere),
          hKept (hSame hHere)⟩)
    | dropped hHere =>
        exact .inr (.inr ⟨.inl (hSame hHere),
          hKept (hSame hHere)⟩)
  · have hNoted := hSame (hTick.2 hOverdue)
    have hSeen : n'.firstDeathAt ≠ none ∨
        n'.Overdue W host.now := by
      left
      rw [hNoted, Node.mourned_firstDeathAt]
      simp
    exact .inr (.inr ⟨.inr ⟨_, hNoted⟩,
      Node.overdue_later hSeen hGrace⟩)

end Ticks

/-
  A worker is gone and left no word, and its node is not
  parked. A tick finds it so, and another one starts at least
  the grace after the death that is then on record. Then the
  node is failed, or parked, or has been given another worker,
  or the retry that was due is dropped since its work is in
  doubt. Anything may happen between the ticks, a new
  supervisor too, that leaves the node as the first one left
  it.
-/
theorem silent_death_settled
    (W : Watcher)
    (S₀ S S' : Watching)
    (id : NodeId)
    (n n' : Node)
    (pid : Int)
    (host host' : TickHost)
    (hInitial : S₀.Initial W.env)
    (hRun : Steps.Run (WatchdogStep W) S₀ S)
    (hRests : S.Rests)
    (hUnattended : Unattended S.disk)
    (hUnparked : S.parks id = none)
    (hLookup : S.disk.nodes.lookup id = some n)
    (hSilent : Silent W host id pid n)
    (hAgain : Silent W host' id pid n)
    (hListed : id ∈ host.order)
    (hRelisted : id ∈ host'.order)
    (hLeft :
      (S.tick W host).disk.nodes.lookup id = some n')
    (hBetween :
      Steps.Run (WatchdogStep W) (S.tick W host) S')
    (hRests' : S'.Rests)
    (hSame : S'.disk.nodes.lookup id = some n')
    (hGrace : ∀ t, n'.firstDeathAt = some t →
      min (W.config.deathGrace * second) maxDuration ≤
        host'.now - t) :
    Steps.Run (WatchdogStep W) S₀ (S'.tick W host') ∧
      Tended host' S'.disk.manifest n' S.disk id
        (S'.tick W host') := by
  have hTick := Watching.tick_run (W := W) host
    hRests.scanned hRests.idle
  have hTick' := Watching.tick_run (W := W) host'
    hRests'.scanned hRests'.idle
  refine ⟨(hRun.trans (hTick.trans hBetween)).trans hTick', ?_⟩
  have hSound := Watching.sound_of_run hInitial hRun
  have hBoth := Watching.enduring_of_run hSound
    (lasting_chartered W.env _).enduring (hTick.trans hBetween)
    hUnattended
  have hSound' := hBoth.1
  have hEvents := (Watching.enduring_of_run hSound
    (enduring_logged W.env S.disk.events)
    (hTick.trans hBetween) (List.Subset.refl _)).2
  rcases left_by_tick hSound hRests hUnattended hLookup
      hUnparked hSilent hListed hLeft hGrace with
    hFailed | hRetry | ⟨hNode, hOverdue⟩
  · exact .failed (tick_failed host' (hSound'.resting hRests')
      hBoth.2 ⟨n', hSame, hFailed⟩)
  · have hMiddle := Watching.sound_of_run hInitial
      (hRun.trans hTick)
    exact .respawned (Watching.enduring_of_run hMiddle
      (enduring_respawned W.env id S.disk)
      (hBetween.trans hTick') hRetry).2
  · have hSilent' : Silent W host' id pid n' := by
      rcases hNode with rfl | ⟨t, rfl⟩
      · exact hAgain
      · exact hAgain.mourned t
    have hTended : Tended host' S'.disk.manifest n' S'.disk
        id (S'.tick W host') := by
      by_cases hPark : Parked id S'
      · exact tick_parked hSound' hRests' hBoth.2 hSame hSilent'
          hPark
      · have hUnparked' : S'.parks id = none := by
          by_contra hSome
          exact hPark (Option.ne_none_iff_exists'.mp hSome)
        exact (tick_silent hSound' hRests' hBoth.2 hSame
          hUnparked' hSilent' hRelisted).1 hOverdue
    exact hTended.earlier hEvents

namespace Sample

/- A supervisor that waits for five seconds and retries once. -/
def patient : Watcher :=
  { watcher with
    config :=
      { watcher.config with
        deathGrace := 5
        retryMaxAttempts := 1
        retryBackoff := 0 } }

/- No branch is ahead, and there is no other checkout. -/
def emptyWorld : SalvageWorld :=
  { bareWorld with
    revListCount := fun _ _ _ => some 0 }

def freshWorker : RespawnOutcome where
  branch := "work-r1"
  worktreePath := "/w1"
  tmuxWindow := "w1"
  tmuxSocket := none
  tmuxSession := none
  tmuxWindowId := none
  tmuxPaneId := none
  tmuxServerPid := none
  tmuxServerPidStartSecs := none
  tmuxServerMarker := none
  piSessionId := none
  piSessionPath := none
  piSessionCwd := none
  agentPid := 8
  agentPidStartTime := none
  agentPidStartIdentity := "8"

/- No process runs, but a worker can be spawned. -/
def hostAt (now : Time) : TickHost where
  now := now
  instant := now
  clock := fun _ _ => now
  order := [.first]
  keys := [.first]
  procs := fun _ => nobody
  answers := fun _ => .nonZero
  salvage := fun _ => emptyWorld
  look := fun _ => emptyWorld.toCleanupWorld
  respawn := fun _ => .ok (freshWorker, none)
  recheck := fun _ => emptyWorld.toCleanupWorld
  listed := List.nodup_singleton _
  keyed := List.nodup_singleton _

def createWorking : Call :=
  .append
    (request .nodeCreated (some .first)
      (.obj
        [("agent_pid", .int 7), ("branch", .str "work"),
          ("kind", .str "spinoff")]))

def worker : Watching := watching [createSourced, createWorking]

/- The death is noted, and the supervisor starts again. -/
def mourning : Watching :=
  (worker.tick patient (hostAt 0)).restarted

def restored : Watching :=
  mourning.tick patient (hostAt (5 * second))

theorem worker_silent :
    ∃ n, worker.disk.nodes.lookup .first = some n ∧
      ∀ now, 0 ≤ now →
        Silent patient (hostAt now) .first 7 n := by
  have hNode : (worker.disk.nodes.lookup .first).any
      (fun n => n.status.isTerminal = false ∧
        n.lastReport.isNone ∧ n.workerExit.isNone ∧
        n.pendingMerge.isNone ∧
        n.roundReportedByCurrentAttempt = false ∧
        n.agentPid = some 7 ∧ n.startedAt = some 0) = true := by
    decide +kernel
  rw [Option.any_eq_true] at hNode
  rcases hNode with ⟨n, hLookup, hFacts⟩
  rw [decide_eq_true_eq] at hFacts
  rcases hFacts with ⟨hLive, hReport, hExit, hMerge, hRound,
    hPid, hStart⟩
  refine ⟨n, hLookup, ?_⟩
  intro now hNow
  refine ⟨⟨hLive, by simpa using hReport, by simpa using hExit,
    by simpa using hMerge, hRound⟩, hPid, .inl ?_, ?_⟩
  · simp [Processes.pidAlive, hostAt, nobody]
  · rw [hStart]
    simp [withinSpawnGrace, hostAt, patient, watcher, hNow]

theorem worker_unattended : Unattended worker.disk := by
  have hManifest :
      worker.disk.manifest.map Manifest.lifecycle =
        some .autonomous := by
    decide +kernel
  rw [Option.map_eq_some_iff] at hManifest
  rcases hManifest with ⟨m, hManifest, hAutonomous⟩
  exact ⟨m, hManifest, by rw [hAutonomous]; simp⟩

theorem worker_rests : worker.Rests :=
  ⟨⟨rfl, rfl⟩, rfl, by decide +kernel⟩

theorem initial_sourced :
    (watching [createSourced]).Initial env :=
  ⟨⟨createSourced, rfl, .inl rfl, by decide +kernel⟩,
    rfl, rfl, fun _ => rfl, rfl⟩

theorem run_worker :
    Steps.Run (WatchdogStep patient) (watching [createSourced])
      worker :=
  .next .refl (.other _ (.call createWorking) _ (.inl rfl))

/- The node after the first tick, since when it is dead. -/
theorem mourning_spec :
    ∃ n', mourning.disk.nodes.lookup .first = some n' ∧
      n'.firstDeathAt = some 0 := by
  have hNoted : (mourning.disk.nodes.lookup .first).any
      (fun n => n.firstDeathAt = some 0) = true := by
    decide +kernel
  simpa [Option.any_eq_true] using hNoted

theorem mourning_rests : mourning.Rests := by
  have hSound := Watching.sound_of_run initial_sourced run_worker
  have hGrown := tick_grown (hostAt 0)
    (hSound.resting worker_rests)
  exact ⟨⟨rfl, rfl⟩, rfl, hGrown.resting.covered⟩

theorem restored_retried :
    ∃ ev ∈ restored.disk.events, ev.kind = .nodeRetry := by
  have hRetried : restored.disk.events.any
      (fun ev => ev.kind = .nodeRetry) = true := by
    decide +kernel
  simpa [List.any_eq_true] using hRetried

end Sample

/- A supervisor that starts again replaces the worker. -/
theorem worker_death_settled :
    (∃ n', Tended (Sample.hostAt (5 * second))
      Sample.mourning.disk.manifest n' Sample.worker.disk .first
      Sample.restored) ∧
      ∃ ev ∈ Sample.restored.disk.events,
        ev.kind = .nodeRetry := by
  rcases Sample.worker_silent with ⟨n, hLookup, hSilent⟩
  rcases Sample.mourning_spec with ⟨n', hLeft, hDeath⟩
  have hGrace : ∀ t, n'.firstDeathAt = some t →
      min (Sample.patient.config.deathGrace * second)
          maxDuration ≤
        (Sample.hostAt (5 * second)).now - t := by
    intro t hFirst
    rw [hDeath, Option.some.injEq] at hFirst
    rw [← hFirst]
    decide
  have hTended := silent_death_settled Sample.patient _ _
    Sample.mourning .first n n' 7 (Sample.hostAt 0)
    (Sample.hostAt (5 * second)) Sample.initial_sourced
    Sample.run_worker Sample.worker_rests
    Sample.worker_unattended rfl hLookup
    (hSilent 0 (le_refl 0)) (hSilent _ (by decide))
    (by simp [Sample.hostAt]) (by simp [Sample.hostAt]) hLeft
    (.next .refl (.restarts _)) Sample.mourning_rests hLeft
    hGrace
  exact ⟨⟨n', hTended.2⟩, Sample.restored_retried⟩

end Taskfleet
