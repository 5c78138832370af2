import Taskfleet.Lasting
import Taskfleet.Steps
import Taskfleet.Watchdog

/-
  Ticks of the watchdog among the locked sections of others.

  What a tick saw under the shared lock, and what the host
  told it without one, may be out of date when it comes to
  record a death, a failure or a retry. Each of these takes
  the lock again and looks again. A retry looks at less than
  a failure does: at the status, the branch and the tree of
  the node, but at no exit and no pending merge.

  Main declarations:
    * `Watching`, `WatchdogStep`
    * `Anchored`, `Watching.Sound`
    * `Justified`, `watchdog_lines_justified`
-/

------------------------------------------------------------
-- Ticks
------------------------------------------------------------

namespace Taskfleet

open Fallible Watchdog

/- A supervisor: its run, its settings and its calendar. -/
structure Watcher where
  env : RunEnv
  config : WatchdogConfig
  toRfc3339 : Time → String

/- A retry whose worker is being spawned. -/
structure Respawning where
  id : NodeId
  node : Node
  park : RetryPark

/-
  A run under a watchdog: the disk, the time of the tick, the
  nodes and exits that the tick has yet to go through, the
  parks, and the retry that is under way.
-/
structure Watching where
  disk : Disk
  tickAt : Time
  candidates : List Suspect
  told : List (NodeId × WorkerExit)
  parks : NodeId → Option RetryPark
  respawning : Option Respawning

namespace Watching

/- A created run with a supervisor that has just started. -/
structure Initial (env : RunEnv) (S : Watching) : Prop where
  booted : Booted env S.disk
  candidates : S.candidates = []
  told : S.told = []
  parks : ∀ id, S.parks id = none
  respawning : S.respawning = none

/- The nodes and exits of the tick are all gone through. -/
def Scanned (S : Watching) : Prop :=
  S.candidates = [] ∧ S.told = []

/- The parks after a verdict, where it parks the node. -/
def parked
    (S : Watching)
    (id : NodeId)
    (answer : Option (Option RetryPark)) :
    NodeId → Option RetryPark :=
  match answer.join with
  | some park => Function.update S.parks id (some park)
  | none => S.parks

/- The parks after a section that is done with the node. -/
def unparked
    (S : Watching) (id : NodeId) (done : Bool) :
    NodeId → Option RetryPark :=
  if done then Function.update S.parks id none else S.parks

/- The park of a retry whose worker could not be spawned. -/
def respawnLater
    (config : WatchdogConfig)
    (instant : Time)
    (park : RetryPark) : RetryPark :=
  { park with
    retryAt :=
      instant + agentRetryBackoff config park.attempt * second
    spawnFailures := park.spawnFailures + 1 }

end Watching

inductive WatchAct where
| other
| scans (now : Time) (order : List NodeId)
| judges
    (procs : Processes) (tmux : TmuxSnapshot)
    (world : SalvageWorld) (now : Time)
| tells (now : Time)
| looks (id : NodeId) (world : CleanupWorld) (instant : Time)
| respawnFails (err : String) (now : Time)
| rewires
    (spawn : RespawnOutcome) (baseSha : Option String)
    (world : CleanupWorld) (now : Time)
| abandons
| restarts

/-
  One step. Others take the lock at any time. A section of
  the watchdog may find the lock taken or fail after any of
  its writes; the tick goes on all the same.
-/
inductive WatchdogStep (W : Watcher) :
    WatchAct → Watching → Watching → Prop where
| other (S : Watching) (w : Writer) (d : Disk)
    (hLeaves : (w.run W.env).Leaves S.disk d) :
    WatchdogStep W .other S { S with disk := d }
| scans (S : Watching) (m : Manifest) (now : Time)
    (order : List NodeId)
    (hScanned : S.Scanned)
    (hIdle : S.respawning = none)
    (hManifest : freshManifest W.env S.disk = some m)
    (hAutonomous : m.lifecycle ≠ .interactive) :
    WatchdogStep W (.scans now order) S
      { S with
        tickAt := now
        candidates :=
          (watchdogScan W.env S.disk order
            (fun id => (S.parks id).isSome) now
            W.config.spawnGrace).1
        told :=
          (watchdogScan W.env S.disk order
            (fun id => (S.parks id).isSome) now
            W.config.spawnGrace).2 }
| spares (S : Watching) (c : Suspect)
    (rest : List Suspect) (procs : Processes)
    (tmux : TmuxSnapshot) (world : SalvageWorld) (now : Time)
    (hNext : S.candidates = c :: rest)
    (hJudged : c.judgement procs tmux S.tickAt
      W.config.deathGrace = .leaves) :
    WatchdogStep W (.judges procs tmux world now) S
      { S with candidates := rest }
| observes (S : Watching) (c : Suspect)
    (rest : List Suspect) (procs : Processes)
    (tmux : TmuxSnapshot) (world : SalvageWorld) (now : Time)
    (cut : Option Nat)
    (hNext : S.candidates = c :: rest)
    (hJudged : c.judgement procs tmux S.tickAt
      W.config.deathGrace = .observes) :
    WatchdogStep W (.judges procs tmux world now) S
      { S with
        disk :=
          ((recordDeathObserved W.env now c.id
            c.node.agentPid).attempt cut S.disk).1
        candidates := rest }
| fails (S : Watching) (c : Suspect)
    (rest : List Suspect) (procs : Processes)
    (tmux : TmuxSnapshot) (world : SalvageWorld)
    (now instant : Time) (v : Liveness) (cut : Option Nat)
    (hNext : S.candidates = c :: rest)
    (hJudged : c.judgement procs tmux S.tickAt
      W.config.deathGrace = .fails v) :
    WatchdogStep W (.judges procs tmux world now) S
      { S with
        disk :=
          ((synthesizeCrashBackstopFailure W.env W.config world
            now instant c.id v c.node.agentPid).attempt cut
              S.disk).1
        candidates := rest
        parks := S.parked c.id
          ((synthesizeCrashBackstopFailure W.env W.config world
            now instant c.id v c.node.agentPid).attempt cut
              S.disk).2 }
| tells (S : Watching) (id : NodeId) (exit : WorkerExit)
    (rest : List (NodeId × WorkerExit)) (now : Time)
    (cut : Option Nat)
    (hJudged : S.candidates = [])
    (hNext : S.told = (id, exit) :: rest) :
    WatchdogStep W (.tells now) S
      { S with
        disk :=
          ((synthesizeWorkerExitFailure W.env W.toRfc3339 now id
            exit).attempt cut S.disk).1
        told := rest }
| drops (S : Watching) (id : NodeId) (park : RetryPark)
    (world : CleanupWorld) (instant : Time)
    (hScanned : S.Scanned)
    (hIdle : S.respawning = none)
    (hPark : S.parks id = some park)
    (hDue : park.retryAt ≤ instant)
    (hLook : retryableNode W.env world S.disk id = none) :
    WatchdogStep W (.looks id world instant) S
      { S with parks := S.unparked id true }
| looks (S : Watching) (id : NodeId) (park : RetryPark)
    (n : Node) (world : CleanupWorld) (instant : Time)
    (hScanned : S.Scanned)
    (hIdle : S.respawning = none)
    (hPark : S.parks id = some park)
    (hDue : park.retryAt ≤ instant)
    (hLook : retryableNode W.env world S.disk id = some n) :
    WatchdogStep W (.looks id world instant) S
      { S with respawning := some ⟨id, n, park⟩ }
| reschedules (S : Watching) (r : Respawning) (err : String)
    (now instant : Time)
    (hHere : S.respawning = some r)
    (hBudget : r.park.spawnFailures + 1 <
      W.config.respawnMaxFailures) :
    WatchdogStep W (.respawnFails err now) S
      { S with
        parks := Function.update S.parks r.id
          (some
            (Watching.respawnLater W.config instant r.park))
        respawning := none }
| givesUp (S : Watching) (r : Respawning) (err : String)
    (now : Time) (cut : Option Nat)
    (hHere : S.respawning = some r)
    (hBudget : W.config.respawnMaxFailures ≤
      r.park.spawnFailures + 1) :
    WatchdogStep W (.respawnFails err now) S
      { S with
        disk :=
          ((terminalizeRespawnFailure W.env now r.id
            r.park.attempt err).attempt cut S.disk).1
        parks := S.unparked r.id
          ((terminalizeRespawnFailure W.env now r.id
            r.park.attempt err).attempt cut S.disk).2.isSome
        respawning := none }
| rewires (S : Watching) (r : Respawning)
    (spawn : RespawnOutcome) (baseSha : Option String)
    (world : CleanupWorld) (now : Time) (cut : Option Nat)
    (hHere : S.respawning = some r) :
    WatchdogStep W (.rewires spawn baseSha world now) S
      { S with
        disk :=
          ((recordRetry W.env world now r.id
            (retryData r.park.attempt r.park.reason spawn
              baseSha)).attempt cut S.disk).1
        parks := S.unparked r.id
          ((recordRetry W.env world now r.id
            (retryData r.park.attempt r.park.reason spawn
              baseSha)).attempt cut S.disk).2.isSome
        respawning := none }
| abandons (S : Watching) (r : Respawning)
    (hHere : S.respawning = some r) :
    WatchdogStep W .abandons S { S with respawning := none }
| restarts (S : Watching) :
    WatchdogStep W .restarts S
      { S with
        candidates := []
        told := []
        parks := fun _ => none
        respawning := none }

------------------------------------------------------------
-- What Outlasts a Section
------------------------------------------------------------

/- A death of the node at this time is in the log. -/
def DeathAt (id : NodeId) (t : Time) (s : Disk) : Prop :=
  ∃ ev ∈ s.events, ev.kind = .nodeDeathObserved ∧
    ev.nodeId = some id ∧ ev.ts = t

/- The deaths on record are those of the log. -/
def Anchored (s : Disk) : Prop :=
  ∀ id n t, s.nodes.lookup id = some n →
    n.firstDeathAt = some t → DeathAt id t s

/- The manifest is one of the kind. -/
def Chartered
    (P : Lifecycle → Option ResidentPolicy → Prop) (s : Disk) :
    Prop :=
  ∃ m, s.manifest = some m ∧ P m.lifecycle m.resident

def Unattended : Disk → Prop :=
  Chartered (fun lifecycle _ => lifecycle ≠ .interactive)

def Transient : Disk → Prop :=
  Chartered (fun _ resident => resident = none)

/- The node is of a kind that may be retried. -/
def Eligible (id : NodeId) (s : Disk) : Prop :=
  ∃ n, s.nodes.lookup id = some n ∧ n.retryEligibleKind = true

section Lasting

variable {env : RunEnv} {s s' : Disk} {ev : Event}
variable {ops : List ProjectionOp}

theorem enduring_deathAt
    (env : RunEnv) (id : NodeId) (t : Time) :
    Enduring env (DeathAt id t) where
  logged := by
    rintro s s' ⟨ev, hMem, hDeath⟩ _ _ hEvents
    exact ⟨ev, hEvents hMem, hDeath⟩
  folded := by
    intro s ev ops j hHere _
    unfold DeathAt
    rwa [Disk.applyOps_events]
  advanced := by
    intro s seq hHere
    unfold DeathAt
    rwa [Disk.advance_events]

/-
  No event changes what a run is, once it is created. Its
  source branch may come with its first node.
-/
theorem planned_charter
    {m m' : Manifest}
    (hPlanned : Planned env s ev ops)
    (hManifest : s.manifest = some m)
    (hMem : .manifest m' ∈ ops) :
    m'.lifecycle = m.lifecycle ∧ m'.resident = m.resident ∧
      m'.sourceRepo = m.sourceRepo ∧
      (ev.kind ≠ .nodeCreated →
        m'.sourceBranch = m.sourceBranch) := by
  cases hPlanned with
  | nothing => simp at hMem
  | runCreated _ _ hNone =>
      rw [hNone] at hManifest
      cases hManifest
  | nodeAlone => simp at hMem
  | stepped => simp at hMem
  | runStatus m₀ st hKind hSome =>
      rw [hSome, Option.some.injEq] at hManifest
      subst hManifest
      simp only [List.mem_singleton,
        ProjectionOp.manifest.injEq] at hMem
      subst hMem
      exact ⟨rfl, rfl, rfl, fun _ => rfl⟩
  | nodeCreated id n m₀ hKind _ _ _ hSome =>
      rw [hSome, Option.some.injEq] at hManifest
      subst hManifest
      simp only [List.mem_cons, reduceCtorEq,
        ProjectionOp.manifest.injEq, List.not_mem_nil,
        or_false, false_or] at hMem
      subst hMem
      exact ⟨rfl, rfl, rfl, fun hOther => absurd hKind hOther⟩
  | settlementIntent id n m₀ intent _ _ hSome =>
      rw [hSome, Option.some.injEq] at hManifest
      subst hManifest
      simp only [List.mem_singleton,
        ProjectionOp.manifest.injEq] at hMem
      subst hMem
      exact ⟨rfl, rfl, rfl, fun _ => rfl⟩

theorem lasting_chartered
    (env : RunEnv)
    (P : Lifecycle → Option ResidentPolicy → Prop) :
    Lasting env (Chartered P) := by
  apply lasting_of_manifest
  · intro s ev ops m m' hPlanned hSome hMem hP
    have hSame := planned_charter hPlanned hSome hMem
    rwa [hSame.1, hSame.2.1]
  · exact fun _ _ _ hP => hP

theorem lasting_eligible (env : RunEnv) (id : NodeId) :
    Lasting env (Eligible id) := by
  apply lasting_of_node
  intro s ev n n' hRewrite hKind
  cases hRewrite <;> exact hKind

theorem Anchored.log
    (hAnchored : Anchored s) (ev : Event) :
    Anchored (s.log ev) := by
  intro id n t hLookup hDeath
  rcases hAnchored id n t hLookup hDeath with
    ⟨e, hMem, hHere⟩
  refine ⟨e, ?_, hHere⟩
  rw [Disk.log_events]
  exact List.mem_append_left _ hMem

/- A death that is folded is one of the log. -/
theorem Anchored.cut
    (hAnchored : Anchored s)
    (hMem : ev ∈ s.events)
    (hPlan : reduceEventToOps env s ev = .ok ops)
    (j : Nat) :
    Anchored (applyOps (ops.take j) s) := by
  intro id n t hLookup hDeath
  unfold DeathAt
  rw [Disk.applyOps_events]
  rcases lookup_take_of_plan hPlan j id with hSame | hWhole
  · exact hAnchored id n t (hSame.symm.trans hLookup) hDeath
  rw [hWhole] at hLookup
  have hChange := nodeChange_of_reduce hPlan id
  rw [hLookup] at hChange
  generalize hBefore : s.nodes.lookup id = before at hChange
  cases hChange with
  | kept => exact hAnchored id n t hBefore hDeath
  | created _ hKind hNode hNew =>
      rw [(newNode_fresh hNew).firstDeathAt] at hDeath
      cases hDeath
  | rewritten n₀ _ hNode hRewrite =>
      have hOld : n₀.firstDeathAt = some t →
          DeathAt id t s := hAnchored id n₀ t hBefore
      cases hRewrite with
      | retried => cases hDeath
      | resumed => cases hDeath
      | deathObserved hKind =>
          cases hDeath
          exact ⟨ev, hMem, hKind, hNode, rfl⟩
      | _ => exact hOld hDeath

theorem kept_anchored (env : RunEnv) :
    Kept env (fun s => Backed env s ∧ Anchored s) := by
  apply (kept_backed env).and
  · intro s b hAnchored
    exact hAnchored
  · intro s ev ops k _ hAnchored hMem hPlan
    exact hAnchored.cut hMem hPlan k
  · intro s ev hAnchored _ id n t hLookup hDeath
    rw [Disk.advance_nodes] at hLookup
    exact (enduring_deathAt env id t).advanced s ev.seq
      (hAnchored id n t hLookup hDeath)

theorem keeps_anchored_writer (w : Writer) :
    Durable.Keeps (fun s => Backed env s ∧ Anchored s)
      (w.run env) := by
  intro s hHere
  apply (kept_anchored env).wp_writer w ?_ hHere
  intro s' r ops _ hBoth hAbreast _ hPlan
  exact ⟨hBoth.1.log hAbreast.1 hAbreast.2 rfl hPlan,
    hBoth.2.log _⟩

theorem Watching.Initial.anchored
    {S : Watching} (hInitial : S.Initial env) :
    Anchored S.disk := by
  intro id n t hLookup _
  have hAbsent := hInitial.booted.created.absent id
  rw [verdict_of_lookup hLookup] at hAbsent
  exact absurd hAbsent (Status.verdict_ne_absent _)

end Lasting

------------------------------------------------------------
-- Sections
------------------------------------------------------------

/- A program leaves one of the states that it leaves. -/
theorem Durable.wp_self
    {τ σ ε α : Type} (x : Durable τ σ ε α) (s : σ) :
    Durable.wp x (fun _ => x.Leaves s) (fun _ => x.Leaves s)
      (fun _ => x.Leaves s) s := by
  refine ⟨fun entry hEntry => .inr ⟨entry.1, hEntry⟩, ?_⟩
  cases (x s).2 with
  | ok a => exact .inl rfl
  | error e => exact .inl rfl

/- A section does nothing, or appends what is justified. -/
def Appends
    (env : RunEnv) (J : Request → Prop) (d d' : Disk) : Prop :=
  d' = d ∨
    ∃ r, J r ∧ (appendAndApplyUnlocked env r).Leaves d d'

/- The log has at most one line more, which is justified. -/
def Adds
    (env : RunEnv) (J : Request → Prop) (d d' : Disk) : Prop :=
  d'.lines = d.lines ∨
    ∃ r, J r ∧ d'.lines = d.lines ++ [d.next env r]

section Sections

variable {env : RunEnv} {d d' : Disk} {J : Request → Prop}

theorem wp_appends
    {α : Type} {r : Request} (a : α) (hJust : J r) :
    Durable.wp
      (do
        let _ ← appendAndApplyUnlocked env r
        return a)
      (fun _ => Appends env J d) (fun _ => Appends env J d)
      (fun _ => Appends env J d) d := by
  have hSelf :=
    Durable.wp_self (appendAndApplyUnlocked env r) d
  rw [Durable.wp_bind]
  apply Durable.wp_mono hSelf
  · intro _ s hLeaves
    rw [Durable.wp_pure]
    exact .inr ⟨r, hJust, hLeaves⟩
  · exact fun _ _ hLeaves => .inr ⟨r, hJust, hLeaves⟩
  · exact fun _ _ hLeaves => .inr ⟨r, hJust, hLeaves⟩

theorem Appends.attempt
    {α : Type} {x : Locked α}
    (hSection : Durable.wp x (fun _ => Appends env J d)
      (fun _ => Appends env J d) (fun _ => Appends env J d) d)
    (cut : Option Nat) :
    Appends env J d (x.attempt cut d).1 := by
  cases cut with
  | none => exact Durable.wp_final hSection
  | some n =>
      exact Durable.wp_cutAt hSection (.inl rfl)
        (fun _ _ hHere => hHere)

theorem Appends.adds
    (hAppends : Appends env J d d')
    (hBacked : Backed env d) : Adds env J d d' := by
  rcases hAppends with rfl | ⟨r, hJust, hLeaves⟩
  · exact .inl rfl
  · have hAppend :=
      (kept_backed env).wp_append (r := r)
        (fun s ops hHere _ hAbreast hPlan =>
          hHere.log hAbreast.1 hAbreast.2 rfl hPlan) hBacked
    have hEither := Durable.wp_leaves
      (Durable.wp_mono hAppend
        (fun _ _ h => .inr h.2.2) (fun _ _ h => .inl h.2)
        (fun _ _ h => h.2))
      hLeaves
    exact hEither.imp id (fun hMore => ⟨r, hJust, hMore⟩)

theorem Appends.anchored
    (hAppends : Appends env J d d')
    (hHere : Backed env d ∧ Anchored d) :
    Backed env d' ∧ Anchored d' := by
  rcases hAppends with rfl | ⟨r, _, hLeaves⟩
  · exact hHere
  · have hAppend :=
      (kept_anchored env).wp_append (r := r)
        (fun s ops hBoth _ hAbreast hPlan =>
          ⟨hBoth.1.log hAbreast.1 hAbreast.2 rfl hPlan,
            hBoth.2.log _⟩) hHere
    have hBoth := Durable.wp_mono hAppend
      (fun _ _ h => h.1) (fun _ _ h => h.1) (fun _ _ h => h.1)
    exact Durable.wp_leaves
      (I := fun s => Backed env s ∧ Anchored s) hBoth hLeaves

theorem Appends.lasts
    {P : Disk → Prop}
    (hAppends : Appends env J d d')
    (hBacked : Backed env d)
    (hEnduring : Enduring env P)
    (hHere : P d) : P d' := by
  rcases hAppends with rfl | ⟨r, _, hLeaves⟩
  · exact hHere
  · exact (Durable.wp_leaves
      (hEnduring.keeps_append r d ⟨hBacked.readable, hHere⟩)
      hLeaves).2

end Sections

------------------------------------------------------------
-- What Justifies a Line
------------------------------------------------------------

/-
  The worker that the host says is gone is still the one of
  the node, which is live and has no report, no exit and no
  pending merge; nobody attends the run.
-/
structure Found
    (S : Watching) (procs : Processes) (c : Suspect)
    (n : Node) : Prop where
  node : S.disk.nodes.lookup c.id = some n
  live : n.status.isTerminal = false
  unreported : n.lastReport = none
  running : n.workerExit = none
  unmerging : n.pendingMerge = none
  probe : ∃ pid, n.agentPid = some pid ∧
    c.probe = c.node.agentProbe pid
  gone : procs.Gone c.probe
  unattended : Unattended S.disk

/- A death of the node was on record for the whole grace. -/
def Waited
    (W : Watcher) (S : Watching) (c : Suspect) : Prop :=
  min (W.config.deathGrace * second) maxDuration ≤ 0 ∨
    ∃ t, DeathAt c.id t S.disk ∧
      min (W.config.deathGrace * second) maxDuration ≤
        S.tickAt - t

/- What the watchdog may record, for each of its acts. -/
inductive Justified (W : Watcher) (S : Watching) :
    WatchAct → Request → Prop where
| died (c : Suspect) (rest : List Suspect)
    (procs : Processes) (tmux : TmuxSnapshot)
    (world : SalvageWorld) (now : Time) (n : Node)
    (hNext : S.candidates = c :: rest)
    (hFound : Found S procs c n)
    (hFirst : n.firstDeathAt = none) :
    Justified W S (.judges procs tmux world now)
      { now := now
        kind := .nodeDeathObserved
        nodeId := some c.id
        key := none
        data := .obj [] }
| crashed (c : Suspect) (rest : List Suspect)
    (procs : Processes) (tmux : TmuxSnapshot)
    (world : SalvageWorld) (now : Time) (v : Liveness)
    (n : Node)
    (hNext : S.candidates = c :: rest)
    (hFound : Found S procs c n)
    (hWaited : Waited W S c)
    (hFinal : v = .dead → Transient S.disk →
      n.retryEligibleKind = true →
      nodeIsEmptyHanded world.toCleanupWorld
        (freshManifest W.env S.disk) n = true →
      W.config.retryMaxAttempts ≤ n.retryAttempts) :
    Justified W S (.judges procs tmux world now)
      (failureRequest now c.id
        (crashReport c.id v
          (nodeRecoverability world
            (freshManifest W.env S.disk) n)
          n.retryAttempts))
| exited (id : NodeId) (exit : WorkerExit)
    (rest : List (NodeId × WorkerExit)) (now : Time)
    (n : Node)
    (hNext : S.told = (id, exit) :: rest)
    (hLookup : S.disk.nodes.lookup id = some n)
    (hStill : n.stillExited exit = true)
    (hFails : exit.isFailure = true)
    (hUnattended : Unattended S.disk) :
    Justified W S (.tells now)
      (failureRequest now id
        (workerExitReport W.toRfc3339 id exit))
| unspawned (r : Respawning) (err : String) (now : Time)
    (n : Node)
    (hHere : S.respawning = some r)
    (hBudget : W.config.respawnMaxFailures ≤
      r.park.spawnFailures + 1)
    (hLookup : S.disk.nodes.lookup r.id = some n)
    (hLive : n.status.isTerminal = false)
    (hUnattended : Unattended S.disk) :
    Justified W S (.respawnFails err now)
      (failureRequest now r.id
        (respawnFailureReport r.id r.park.attempt err))
| retried (r : Respawning) (spawn : RespawnOutcome)
    (baseSha : Option String) (world : CleanupWorld)
    (now : Time) (n : Node)
    (hHere : S.respawning = some r)
    (hLookup : S.disk.nodes.lookup r.id = some n)
    (hLive : n.status.isTerminal = false)
    (hKind : n.retryEligibleKind = true)
    (hEmpty : nodeIsEmptyHanded world
      (freshManifest W.env S.disk) n = true)
    (hBudget : 1 ≤ r.park.attempt ∧
      r.park.attempt ≤ W.config.retryMaxAttempts)
    (hUnattended : Unattended S.disk)
    (hTransient : Transient S.disk) :
    Justified W S (.rewires spawn baseSha world now)
      (retryRequest now r.id
        (retryData r.park.attempt r.park.reason spawn
          baseSha))

------------------------------------------------------------
-- What the Watchdog Remembers
------------------------------------------------------------

/- A candidate is as its node was, with the death on record. -/
structure Recalled (c : Suspect) (d : Disk) : Prop where
  probe : ∃ pid, c.node.agentPid = some pid ∧
    c.probe = c.node.agentProbe pid
  death : ∀ t, c.node.firstDeathAt = some t → DeathAt c.id t d
  unattended : Unattended d

/- A park is within the budget, for a node that may have one. -/
structure Allotted
    (W : Watcher) (id : NodeId) (park : RetryPark) (d : Disk) :
    Prop where
  budget : 1 ≤ park.attempt ∧
    park.attempt ≤ W.config.retryMaxAttempts
  eligible : Eligible id d
  unattended : Unattended d
  transient : Transient d

structure Watching.Sound (W : Watcher) (S : Watching) :
    Prop where
  backed : Backed W.env S.disk
  anchored : Anchored S.disk
  candidates : ∀ c ∈ S.candidates, Recalled c S.disk
  told : ∀ t ∈ S.told, t.2.isFailure = true ∧
    Unattended S.disk
  parks : ∀ id park, S.parks id = some park →
    Allotted W id park S.disk
  respawning : ∀ r, S.respawning = some r →
    Allotted W r.id r.park S.disk

section Memory

variable {W : Watcher} {S S' : Watching} {d d' : Disk}
variable {c : Suspect} {id : NodeId} {n : Node}
variable {procs : Processes} {tmux : TmuxSnapshot}
variable {world : SalvageWorld} {now : Time}

theorem Recalled.lasts
    (hRecalled : Recalled c d)
    (hLasts : ∀ P, Enduring W.env P → P d → P d') :
    Recalled c d' where
  probe := hRecalled.probe
  death := fun t hDeath =>
    hLasts _ (enduring_deathAt W.env c.id t)
      (hRecalled.death t hDeath)
  unattended := hLasts _
    (lasting_chartered W.env _).enduring hRecalled.unattended

theorem Allotted.lasts
    {park : RetryPark}
    (hAllotted : Allotted W id park d)
    (hLasts : ∀ P, Enduring W.env P → P d → P d') :
    Allotted W id park d' where
  budget := hAllotted.budget
  eligible := hLasts _ (lasting_eligible W.env id).enduring
    hAllotted.eligible
  unattended := hLasts _
    (lasting_chartered W.env _).enduring hAllotted.unattended
  transient := hLasts _
    (lasting_chartered W.env _).enduring hAllotted.transient

/- What is remembered stays true of the run as it moves on. -/
theorem Watching.Sound.move
    (hSound : S.Sound W)
    (hHere : Backed W.env d' ∧ Anchored d')
    (hLasts : ∀ P, Enduring W.env P → P S.disk → P d') :
    Watching.Sound W { S with disk := d' } where
  backed := hHere.1
  anchored := hHere.2
  candidates := fun c hMem =>
    (hSound.candidates c hMem).lasts hLasts
  told := fun t hMem =>
    ⟨(hSound.told t hMem).1,
      hLasts _ (lasting_chartered W.env _).enduring
        (hSound.told t hMem).2⟩
  parks := fun id park hPark =>
    (hSound.parks id park hPark).lasts hLasts
  respawning := fun r hHere =>
    (hSound.respawning r hHere).lasts hLasts

theorem Watching.Sound.appends
    {J : Request → Prop}
    (hSound : S.Sound W)
    (hAppends : Appends W.env J S.disk d') :
    Watching.Sound W { S with disk := d' } :=
  hSound.move (hAppends.anchored ⟨hSound.backed, hSound.anchored⟩)
    (fun _ hEnduring hHere =>
      hAppends.lasts hSound.backed hEnduring hHere)

theorem Watching.Initial.sound
    (hInitial : S.Initial W.env) : S.Sound W where
  backed := hInitial.booted.backed
  anchored := hInitial.anchored
  candidates := by simp [hInitial.candidates]
  told := by simp [hInitial.told]
  parks := by simp [hInitial.parks]
  respawning := by simp [hInitial.respawning]

/- A node is a candidate with the worker that it records. -/
theorem sight_probes
    {parked : Bool} {grace : Nat} {probe : AgentProbe}
    (hSight : n.watchdogSight parked now grace =
      .probes probe) :
    ∃ pid, n.agentPid = some pid ∧
      probe = n.agentProbe pid := by
  unfold Node.watchdogSight at hSight
  split at hSight
  · cases hSight
  split at hSight
  · cases hSight
  split at hSight
  · split at hSight <;> cases hSight
  split at hSight
  · cases hSight
  split at hSight
  · cases hSight
  next pid hPid =>
    cases hSight
    exact ⟨pid, hPid, rfl⟩

theorem sight_told
    {parked : Bool} {grace : Nat} {exit : WorkerExit}
    (hSight : n.watchdogSight parked now grace = .told exit) :
    exit.isFailure = true := by
  unfold Node.watchdogSight at hSight
  split at hSight
  · cases hSight
  split at hSight
  · cases hSight
  split at hSight
  · split at hSight
    next hFails =>
      cases hSight
      exact hFails
    · cases hSight
  split at hSight
  · cases hSight
  split at hSight <;> cases hSight

theorem recalled_of_scan
    {order : List NodeId} {parked : NodeId → Bool} {grace : Nat}
    (hAnchored : Anchored d)
    (hUnattended : Unattended d)
    (hMem : c ∈ (watchdogScan W.env d order parked now
      grace).1) :
    Recalled c d := by
  unfold watchdogScan at hMem
  rw [List.mem_filterMap] at hMem
  rcases hMem with ⟨id, _, hSees⟩
  rw [Option.bind_eq_some_iff] at hSees
  rcases hSees with ⟨n, hFresh, hSees⟩
  split at hSees
  next probe hSight =>
    cases hSees
    exact ⟨sight_probes hSight,
      fun t hDeath => hAnchored id n t
        (freshNode_eq_some hFresh) hDeath,
      hUnattended⟩
  · cases hSees

theorem fails_of_scan
    {order : List NodeId} {parked : NodeId → Bool} {grace : Nat}
    {t : NodeId × WorkerExit}
    (hMem : t ∈ (watchdogScan W.env d order parked now
      grace).2) :
    t.2.isFailure = true := by
  unfold watchdogScan at hMem
  rw [List.mem_filterMap] at hMem
  rcases hMem with ⟨id, _, hSees⟩
  rw [Option.bind_eq_some_iff] at hSees
  rcases hSees with ⟨n, _, hSees⟩
  split at hSees
  next exit hSight =>
    cases hSees
    exact sight_told hSight
  · cases hSees

/- A candidate that is judged has lost its process. -/
theorem gone_of_judgement
    {grace : Nat}
    (hJudged : c.judgement procs tmux now grace ≠ .leaves) :
    procs.Gone c.probe := by
  rw [← dead_iff procs c.probe tmux]
  by_contra hAlive
  apply hJudged
  unfold Suspect.judgement
  simp [hAlive, classifyLiveNode]

theorem waited_of_judgement
    {grace : Nat} {v : Liveness}
    (hJudged : c.judgement procs tmux now grace = .fails v) :
    min (grace * second) maxDuration ≤
      now - c.node.firstDeathAt.getD now := by
  have hJudges :
      c.judgement procs tmux now grace ≠ .leaves := by
    rw [hJudged]
    simp
  have hGone := gone_of_judgement hJudges
  rw [← dead_iff procs c.probe tmux] at hGone
  unfold Suspect.judgement at hJudged
  simp only [hGone, if_true, deathObservation] at hJudged
  by_contra hEarly
  rw [if_neg hEarly] at hJudged
  simp only [classifyLiveNode] at hJudged
  split at hJudged <;> cases hJudged

end Memory

------------------------------------------------------------
-- One Section After Another
------------------------------------------------------------

section Judging

variable {W : Watcher} {S S' : Watching} {act : WatchAct}
variable {c : Suspect} {rest : List Suspect}
variable {procs : Processes} {tmux : TmuxSnapshot}
variable {world : SalvageWorld} {now instant : Time}
variable {n : Node}

/- A node that may still be failed is the one that was seen. -/
theorem found_of_synthesizable
    (hSound : S.Sound W)
    (hNext : S.candidates = c :: rest)
    (hGone : procs.Gone c.probe)
    (hFresh : freshNode W.env S.disk c.id = some n)
    (hStill : n.stillSynthesizable c.node.agentPid = true) :
    Found S procs c n := by
  have hRecalled := hSound.candidates c (by simp [hNext])
  rcases hRecalled.probe with ⟨pid, hPid, hProbe⟩
  simp only [Node.stillSynthesizable, Bool.and_eq_true,
    Option.isNone_iff_eq_none, beq_iff_eq,
    Bool.not_eq_true'] at hStill
  rcases hStill with
    ⟨⟨⟨⟨hReport, hExit⟩, hMerge⟩, hSame⟩, hLive⟩
  exact ⟨freshNode_eq_some hFresh, hLive, hReport, hExit,
    hMerge, ⟨pid, hSame.trans hPid, hProbe⟩, hGone,
    hRecalled.unattended⟩

theorem appends_died
    (hSound : S.Sound W)
    (hNext : S.candidates = c :: rest)
    (hJudged : c.judgement procs tmux S.tickAt
      W.config.deathGrace = .observes)
    (cut : Option Nat) :
    Appends W.env
      (Justified W S (.judges procs tmux world now)) S.disk
      ((recordDeathObserved W.env now c.id
        c.node.agentPid).attempt cut S.disk).1 := by
  apply Appends.attempt
  unfold recordDeathObserved
  rw [Durable.wp_bind, Durable.wp_read]
  dsimp only
  split
  next hRecord =>
    rw [Option.any_eq_true] at hRecord
    rcases hRecord with ⟨n, hFresh, hGuard⟩
    simp only [Option.isNone_iff_eq_none, Bool.not_eq_true,
      decide_eq_true_eq] at hGuard
    rcases hGuard with
      ⟨hFirst, hExit, hReport, hMerge, hSame, hLive⟩
    apply wp_appends
    refine .died c rest procs tmux world now n hNext ?_ hFirst
    apply found_of_synthesizable hSound hNext
      (gone_of_judgement (by rw [hJudged]; simp)) hFresh
    simp [Node.stillSynthesizable, hExit, hReport, hMerge,
      hSame, hLive]
  next =>
    rw [Durable.wp_pure]
    exact .inl rfl

/- Where nothing may be parked, the failure is filed. -/
theorem crashed_of_unparked
    {v : Liveness}
    (hSound : S.Sound W)
    (hNext : S.candidates = c :: rest)
    (hJudged : c.judgement procs tmux S.tickAt
      W.config.deathGrace = .fails v)
    (hFresh : freshNode W.env S.disk c.id = some n)
    (hStill : n.stillSynthesizable c.node.agentPid = true)
    (hParks : parkDecision W.config.retryMaxAttempts
      ((freshManifest W.env S.disk).any
        (fun m => m.resident.isSome)) v c.node.agentPid
      (nodeIsEmptyHanded world.toCleanupWorld
        (freshManifest W.env S.disk) n) n = none) :
    Justified W S (.judges procs tmux world now)
      (failureRequest now c.id
        (crashReport c.id v
          (nodeRecoverability world
            (freshManifest W.env S.disk) n)
          n.retryAttempts)) := by
  have hRecalled := hSound.candidates c (by simp [hNext])
  apply Justified.crashed c rest procs tmux world now v n hNext
  · exact found_of_synthesizable hSound hNext
      (gone_of_judgement (by rw [hJudged]; simp)) hFresh hStill
  · have hWait := waited_of_judgement hJudged
    cases hDeath : c.node.firstDeathAt with
    | none =>
        rw [hDeath, Option.getD_none, sub_self] at hWait
        exact .inl hWait
    | some t =>
        rw [hDeath, Option.getD_some] at hWait
        exact .inr ⟨t, hRecalled.death t hDeath, hWait⟩
  · rintro rfl ⟨m, hManifest, hTransient⟩ hKind hEmpty
    have hResident :
        (freshManifest W.env S.disk).any
          (fun m => m.resident.isSome) = false := by
      rw [freshManifest_of_readable hSound.backed.readable,
        hManifest, Option.any_some, hTransient,
        Option.isSome_none]
    by_contra hBudget
    unfold parkDecision at hParks
    rw [if_pos ⟨hStill, rfl, by simp [hResident], hKind,
      hEmpty, Nat.lt_of_not_le hBudget⟩] at hParks
    cases hParks

theorem appends_crashed
    {v : Liveness}
    (hSound : S.Sound W)
    (hNext : S.candidates = c :: rest)
    (hJudged : c.judgement procs tmux S.tickAt
      W.config.deathGrace = .fails v)
    (cut : Option Nat) :
    Appends W.env
      (Justified W S (.judges procs tmux world now)) S.disk
      ((synthesizeCrashBackstopFailure W.env W.config world now
        instant c.id v c.node.agentPid).attempt cut
          S.disk).1 := by
  apply Appends.attempt
  unfold synthesizeCrashBackstopFailure
  rw [Durable.wp_bind, Durable.wp_read]
  dsimp only
  split
  next =>
    rw [Durable.wp_pure]
    exact .inl rfl
  next n hFresh =>
    rw [Option.filter_eq_some_iff] at hFresh
    split
    next =>
      rw [Durable.wp_pure]
      exact .inl rfl
    next hParks =>
      apply wp_appends
      exact crashed_of_unparked hSound hNext hJudged hFresh.1
        hFresh.2 hParks

/- The node is parked for its next attempt, if at all. -/
theorem allotted_of_crashed
    {v : Liveness} {park : RetryPark} {cut : Option Nat}
    (hSound : S.Sound W)
    (hNext : S.candidates = c :: rest)
    (hParks :
      ((synthesizeCrashBackstopFailure W.env W.config world now
        instant c.id v c.node.agentPid).attempt cut
          S.disk).2.join =
        some park) :
    Allotted W c.id park S.disk := by
  have hUnattended :=
    (hSound.candidates c (by simp [hNext])).unattended
  have hSection :
      Durable.wp
        (synthesizeCrashBackstopFailure W.env W.config world
          now instant c.id v c.node.agentPid)
        (fun answer _ => ∀ park, answer = some park →
          Allotted W c.id park S.disk)
        (fun _ _ => True) (fun _ _ => True) S.disk := by
    unfold synthesizeCrashBackstopFailure
    rw [Durable.wp_bind, Durable.wp_read]
    dsimp only
    split
    next =>
      rw [Durable.wp_pure]
      rintro park ⟨⟩
    next n hFresh =>
      rw [Option.filter_eq_some_iff] at hFresh
      split
      next attempt hParks =>
        rw [Durable.wp_pure]
        rintro park ⟨⟩
        have hBudget := parkDecision_le hParks
        unfold parkDecision at hParks
        rw [Option.ite_none_right_eq_some] at hParks
        rcases hParks.1 with ⟨_, _, hResident, hKind, _⟩
        refine ⟨hBudget,
          ⟨n, freshNode_eq_some hFresh.1, hKind⟩,
          hUnattended, ?_⟩
        rcases hUnattended with ⟨m, hManifest, _⟩
        rw [freshManifest_of_readable hSound.backed.readable,
          hManifest, Option.any_some] at hResident
        exact ⟨m, hManifest, by simpa using hResident⟩
      next =>
        rw [Durable.wp_bind]
        apply Durable.wp_mono (Durable.wp_trivial _ _)
        · intro _ s _
          rw [Durable.wp_pure]
          rintro park ⟨⟩
        · exact fun _ _ _ => trivial
        · exact fun _ _ _ => trivial
  cases cut with
  | some k => cases hParks
  | none =>
      unfold Durable.attempt at hParks
      dsimp only at hParks
      cases hResult :
          (synthesizeCrashBackstopFailure W.env W.config world
            now instant c.id v c.node.agentPid).result
              S.disk with
      | error e =>
          rw [hResult] at hParks
          cases hParks
      | ok answer =>
          rw [hResult] at hParks
          exact Durable.wp_ok hSection hResult park hParks

theorem appends_exited
    {id : NodeId} {exit : WorkerExit}
    {more : List (NodeId × WorkerExit)}
    (hSound : S.Sound W)
    (hNext : S.told = (id, exit) :: more)
    (cut : Option Nat) :
    Appends W.env (Justified W S (.tells now)) S.disk
      ((synthesizeWorkerExitFailure W.env W.toRfc3339 now id
        exit).attempt cut S.disk).1 := by
  apply Appends.attempt
  unfold synthesizeWorkerExitFailure
  rw [Durable.wp_bind, Durable.wp_read]
  have hTold := hSound.told (id, exit) (by simp [hNext])
  split
  next hRecord =>
    rw [Option.any_eq_true] at hRecord
    rcases hRecord with ⟨n, hFresh, hStill⟩
    apply wp_appends
    exact .exited id exit more now n hNext
      (freshNode_eq_some hFresh) hStill hTold.1 hTold.2
  next =>
    rw [Durable.wp_pure]
    exact .inl rfl

theorem appends_unspawned
    {r : Respawning} {err : String}
    (hSound : S.Sound W)
    (hHere : S.respawning = some r)
    (hBudget : W.config.respawnMaxFailures ≤
      r.park.spawnFailures + 1)
    (cut : Option Nat) :
    Appends W.env (Justified W S (.respawnFails err now))
      S.disk
      ((terminalizeRespawnFailure W.env now r.id
        r.park.attempt err).attempt cut S.disk).1 := by
  apply Appends.attempt
  unfold terminalizeRespawnFailure
  rw [Durable.wp_bind, Durable.wp_read]
  split
  next hRecord =>
    rw [Option.any_eq_true] at hRecord
    rcases hRecord with ⟨n, hFresh, hLive⟩
    apply wp_appends
    exact .unspawned r err now n hHere hBudget
      (freshNode_eq_some hFresh) (by simpa using hLive)
      (hSound.respawning r hHere).unattended
  next =>
    rw [Durable.wp_pure]
    exact .inl rfl

theorem appends_retried
    {r : Respawning} {spawn : RespawnOutcome}
    {baseSha : Option String} {world : CleanupWorld}
    (hSound : S.Sound W)
    (hHere : S.respawning = some r)
    (cut : Option Nat) :
    Appends W.env
      (Justified W S (.rewires spawn baseSha world now)) S.disk
      ((recordRetry W.env world now r.id
        (retryData r.park.attempt r.park.reason spawn
          baseSha)).attempt cut S.disk).1 := by
  apply Appends.attempt
  unfold recordRetry
  rw [Durable.wp_bind, Durable.wp_read]
  split
  next hRecord =>
    rw [Option.any_eq_true] at hRecord
    rcases hRecord with ⟨n, hFresh, hStill⟩
    have hAllotted := hSound.respawning r hHere
    have hLookup := freshNode_eq_some hFresh
    rcases hAllotted.eligible with ⟨n', hLookup', hKind⟩
    rw [hLookup, Option.some.injEq] at hLookup'
    subst hLookup'
    simp only [Node.stillRetryable, Bool.and_eq_true,
      Bool.not_eq_true'] at hStill
    apply wp_appends
    exact .retried r spawn baseSha world now n hHere hLookup
      hStill.1 hKind hStill.2 hAllotted.budget
      hAllotted.unattended hAllotted.transient
  next =>
    rw [Durable.wp_pure]
    exact .inl rfl

/- What an act of the watchdog itself leaves on the disk. -/
theorem appends_of_step
    (hSound : S.Sound W)
    (hStep : WatchdogStep W act S S')
    (hOwn : act ≠ .other) :
    Appends W.env (Justified W S act) S.disk S'.disk := by
  cases hStep with
  | other => exact absurd rfl hOwn
  | scans => exact .inl rfl
  | spares => exact .inl rfl
  | observes _ c rest procs tmux world now cut hNext hJudged =>
      exact appends_died hSound hNext hJudged cut
  | fails _ c rest procs tmux world now instant v cut hNext
      hJudged =>
      exact appends_crashed hSound hNext hJudged cut
  | tells _ id exit rest now cut hJudged hNext =>
      exact appends_exited hSound hNext cut
  | drops => exact .inl rfl
  | looks => exact .inl rfl
  | reschedules => exact .inl rfl
  | givesUp _ r err now cut hHere hBudget =>
      exact appends_unspawned hSound hHere hBudget cut
  | rewires _ r spawn baseSha world now cut hHere =>
      exact appends_retried hSound hHere cut
  | abandons => exact .inl rfl
  | restarts => exact .inl rfl

end Judging

------------------------------------------------------------
-- Whole Runs
------------------------------------------------------------

namespace Watching

section Steps

variable {W : Watcher} {S S' : Watching} {act : WatchAct}
variable {id : NodeId}

theorem allotted_parked
    {answer : Option (Option RetryPark)}
    (hSound : S.Sound W)
    (hAnswer : ∀ park, answer.join = some park →
      Allotted W id park S.disk) :
    ∀ i park, S.parked id answer i = some park →
      Allotted W i park S.disk := by
  intro i park hPark
  unfold parked at hPark
  cases hNew : answer.join with
  | none =>
      rw [hNew] at hPark
      exact hSound.parks i park hPark
  | some new =>
      rw [hNew] at hPark
      dsimp only at hPark
      by_cases hHere : i = id
      · subst hHere
        rw [Function.update_self, Option.some.injEq] at hPark
        rw [← hPark]
        exact hAnswer new hNew
      · rw [Function.update_of_ne hHere] at hPark
        exact hSound.parks i park hPark

theorem allotted_unparked
    (hSound : S.Sound W) (id : NodeId) (done : Bool) :
    ∀ i park, S.unparked id done i = some park →
      Allotted W i park S.disk := by
  intro i park hPark
  unfold unparked at hPark
  split at hPark
  · by_cases hHere : i = id
    · subst hHere
      rw [Function.update_self] at hPark
      cases hPark
    · rw [Function.update_of_ne hHere] at hPark
      exact hSound.parks i park hPark
  · exact hSound.parks i park hPark

/- A failed spawn does not change what is allotted. -/
theorem allotted_respawnLater
    {r : Respawning} {instant : Time}
    (hSound : S.Sound W)
    (hHere : S.respawning = some r) :
    ∀ i park,
      Function.update S.parks r.id
          (some (respawnLater W.config instant r.park)) i =
        some park →
      Allotted W i park S.disk := by
  intro i park hPark
  by_cases hSame : i = r.id
  · subst hSame
    rw [Function.update_self, Option.some.injEq] at hPark
    have hAllotted := hSound.respawning r hHere
    rw [← hPark]
    exact ⟨hAllotted.budget, hAllotted.eligible,
      hAllotted.unattended, hAllotted.transient⟩
  · rw [Function.update_of_ne hSame] at hPark
    exact hSound.parks i park hPark

theorem Sound.step
    (hSound : S.Sound W)
    (hStep : WatchdogStep W act S S') : S'.Sound W := by
  have hBoth := And.intro hSound.backed hSound.anchored
  cases hStep with
  | other _ w d hLeaves =>
      apply hSound.move
      · exact Durable.wp_leaves
          (I := fun s => Backed W.env s ∧ Anchored s)
          (keeps_anchored_writer w S.disk hBoth) hLeaves
      · intro P hEnduring hHere
        exact (Durable.wp_leaves
          (hEnduring.keeps_writer w S.disk
            ⟨hSound.backed.readable, hHere⟩) hLeaves).2
  | scans _ m now order hScanned hIdle hManifest hAutonomous =>
      rw [freshManifest_of_readable hSound.backed.readable]
        at hManifest
      have hUnattended : Unattended S.disk :=
        ⟨m, hManifest, hAutonomous⟩
      exact ⟨hSound.backed, hSound.anchored,
        fun c hMem =>
          recalled_of_scan hSound.anchored hUnattended hMem,
        fun t hMem => ⟨fails_of_scan hMem, hUnattended⟩,
        hSound.parks, hSound.respawning⟩
  | spares _ c rest procs tmux world now hNext hJudged =>
      exact ⟨hSound.backed, hSound.anchored,
        fun c' hMem =>
          hSound.candidates c' (by simp [hNext, hMem]),
        hSound.told, hSound.parks, hSound.respawning⟩
  | observes _ c rest procs tmux world now cut hNext hJudged =>
      have hRest : Sound W { S with candidates := rest } :=
        ⟨hSound.backed, hSound.anchored,
          fun c' hMem =>
            hSound.candidates c' (by simp [hNext, hMem]),
          hSound.told, hSound.parks, hSound.respawning⟩
      exact hRest.appends
        (J := Justified W S (.judges procs tmux world now))
        (appends_died hSound hNext hJudged cut)
  | fails _ c rest procs tmux world now instant v cut hNext
      hJudged =>
      have hRest : Sound W
          { S with
            candidates := rest
            parks := S.parked c.id
              ((synthesizeCrashBackstopFailure W.env W.config
                world now instant c.id v
                c.node.agentPid).attempt cut S.disk).2 } :=
        ⟨hSound.backed, hSound.anchored,
          fun c' hMem =>
            hSound.candidates c' (by simp [hNext, hMem]),
          hSound.told,
          allotted_parked hSound
            (fun _ hParks =>
              allotted_of_crashed hSound hNext hParks),
          hSound.respawning⟩
      exact hRest.appends
        (appends_crashed hSound hNext hJudged cut)
  | tells _ id exit rest now cut hJudged hNext =>
      have hRest : Sound W { S with told := rest } :=
        ⟨hSound.backed, hSound.anchored, hSound.candidates,
          fun t hMem => hSound.told t (by simp [hNext, hMem]),
          hSound.parks, hSound.respawning⟩
      exact hRest.appends (appends_exited hSound hNext cut)
  | drops _ id =>
      exact ⟨hSound.backed, hSound.anchored,
        hSound.candidates, hSound.told,
        allotted_unparked hSound id true, hSound.respawning⟩
  | looks _ id park n world instant hScanned hIdle hPark =>
      refine ⟨hSound.backed, hSound.anchored,
        hSound.candidates, hSound.told, hSound.parks, ?_⟩
      rintro r ⟨⟩
      exact hSound.parks id park hPark
  | reschedules _ r err now instant hHere hBudget =>
      refine ⟨hSound.backed, hSound.anchored,
        hSound.candidates, hSound.told,
        allotted_respawnLater hSound hHere, ?_⟩
      rintro r' ⟨⟩
  | givesUp _ r err now cut hHere hBudget =>
      have hRest : Sound W
          { S with
            parks := S.unparked r.id
              ((terminalizeRespawnFailure W.env now r.id
                r.park.attempt err).attempt cut S.disk).2.isSome
            respawning := none } := by
        refine ⟨hSound.backed, hSound.anchored,
          hSound.candidates, hSound.told,
          allotted_unparked hSound _ _, ?_⟩
        rintro r' ⟨⟩
      exact hRest.appends
        (appends_unspawned hSound hHere hBudget cut)
  | rewires _ r spawn baseSha world now cut hHere =>
      have hRest : Sound W
          { S with
            parks := S.unparked r.id
              ((recordRetry W.env world now r.id
                (retryData r.park.attempt r.park.reason spawn
                  baseSha)).attempt cut S.disk).2.isSome
            respawning := none } := by
        refine ⟨hSound.backed, hSound.anchored,
          hSound.candidates, hSound.told,
          allotted_unparked hSound _ _, ?_⟩
        rintro r' ⟨⟩
      exact hRest.appends (appends_retried hSound hHere cut)
  | abandons =>
      refine ⟨hSound.backed, hSound.anchored,
        hSound.candidates, hSound.told, hSound.parks, ?_⟩
      rintro r' ⟨⟩
  | restarts =>
      constructor
      · exact hSound.backed
      · exact hSound.anchored
      · rintro c ⟨⟩
      · rintro t ⟨⟩
      · rintro id park ⟨⟩
      · rintro r ⟨⟩

theorem sound_of_run
    {S₀ : Watching}
    (hInitial : S₀.Initial W.env)
    (hRun : Steps.Run (WatchdogStep W) S₀ S) : S.Sound W :=
  Steps.Run.invariant (I := fun S => S.Sound W)
    (fun _ _ _ hStep hSound => hSound.step hStep) hRun
    hInitial.sound

end Steps

end Watching

/-
  Whatever others do in between, and however sections fail,
  an act of the watchdog leaves the log as it is or adds one
  line to it, which the state before the act justifies.
-/
theorem watchdog_lines_justified
    (W : Watcher)
    (S₀ S S' : Watching)
    (act : WatchAct)
    (hInitial : S₀.Initial W.env)
    (hRun : Steps.Run (WatchdogStep W) S₀ S)
    (hStep : WatchdogStep W act S S')
    (hOwn : act ≠ .other) :
    Adds W.env (Justified W S act) S.disk S'.disk := by
  have hSound := Watching.sound_of_run hInitial hRun
  exact (appends_of_step hSound hStep hOwn).adds hSound.backed

namespace Sample

/- A repository of which nothing is known. -/
def bareWorld : SalvageWorld where
  mainWorktree := fun _ => none
  revListCount := fun _ _ _ => none
  pathExists := fun _ => false
  statusClean := fun _ => none
  headOid := fun _ => none
  headBranch := fun _ => none
  removal := fun _ _ _ => ⟨false, false, false⟩
  branchDelete := fun _ _ _ => none
  orphanIdentified := fun _ _ => false
  orphanRemoved := fun _ _ => false
  retention := .notApplicable
  rebaseInProgress := fun _ => false
  paneSaved := false
  isAncestor := fun _ _ _ => false
  mergeTreeClean := fun _ _ _ => false

def createWorker : Call :=
  .append
    (request .nodeCreated (some .first)
      (.obj [("agent_pid", .int 7), ("kind", .str "spinoff")]))

/- A supervisor that waits for no grace and retries nothing. -/
def watcher : Watcher where
  env := env
  config :=
    { spawnGrace := 0
      deathGrace := 0
      retryMaxAttempts := 0
      retryBackoff := 10
      respawnMaxFailures := 3 }
  toRfc3339 := fun _ => ""

/- A supervisor that has just started after the calls. -/
def watching (calls : List Call) : Watching where
  disk := after calls
  tickAt := 0
  candidates := []
  told := []
  parks := fun _ => none
  respawning := none

def nobody : Processes where
  present := fun _ => false
  startIdentity := fun _ => none
  startTime := fun _ => none

theorem watching_initial :
    (watching [createRun]).Initial env where
  booted := ⟨createRun, rfl, .inl rfl, by decide +kernel⟩
  candidates := rfl
  told := rfl
  parks := fun _ => rfl
  respawning := rfl

/- What a tick sees once the worker is there. -/
def deserted : Watching :=
  { watching [createRun, createWorker] with
    candidates :=
      (watchdogScan env (after [createRun, createWorker])
        [.first] (fun _ => false) 0 0).1
    told :=
      (watchdogScan env (after [createRun, createWorker])
        [.first] (fun _ => false) 0 0).2 }

end Sample

/- The line that fails a worker that is gone is justified. -/
theorem deserted_line_justified :
    ∃ S', WatchdogStep Sample.watcher
        (.judges Sample.nobody (fun _ => none)
          Sample.bareWorld 0)
        Sample.deserted S' ∧
      Adds Sample.env
        (Justified Sample.watcher Sample.deserted
          (.judges Sample.nobody (fun _ => none)
            Sample.bareWorld 0))
        Sample.deserted.disk S'.disk := by
  have hJudged : Sample.deserted.candidates.map
      (Suspect.judgement Sample.nobody (fun _ => none) 0 0) =
        [.fails .dead] := by
    decide +kernel
  rcases List.map_eq_singleton_iff.mp hJudged with
    ⟨c, hNext, hFails⟩
  have hCreates : WatchdogStep Sample.watcher .other
      (Sample.watching [Sample.createRun])
      (Sample.watching [Sample.createRun, Sample.createWorker]) :=
    .other _ (.call Sample.createWorker) _ (.inl rfl)
  have hManifest :
      (freshManifest Sample.env
        (Sample.after [Sample.createRun, Sample.createWorker])).map
          Manifest.lifecycle =
        some .autonomous := by
    decide +kernel
  rw [Option.map_eq_some_iff] at hManifest
  rcases hManifest with ⟨m, hManifest, hAutonomous⟩
  have hScans : WatchdogStep Sample.watcher (.scans 0 [.first])
      (Sample.watching [Sample.createRun, Sample.createWorker])
      Sample.deserted :=
    .scans _ m 0 [.first] ⟨rfl, rfl⟩ rfl hManifest
      (by rw [hAutonomous]; simp)
  have hFailsStep := WatchdogStep.fails (W := Sample.watcher)
    Sample.deserted c [] Sample.nobody (fun _ => none)
    Sample.bareWorld 0 0 .dead none hNext hFails
  exact ⟨_, hFailsStep,
    watchdog_lines_justified Sample.watcher _ _ _ _
      Sample.watching_initial
      ((Steps.Run.next .refl hCreates).next hScans) hFailsStep
      (by simp)⟩

end Taskfleet
