import Taskfleet.ReportFolds
import Taskfleet.WatchdogRuns

/-
  Ticks that nothing interrupts.

  A tick judges the nodes that it has seen, files the exits
  that were told, and then goes through the retries that are
  due. Each section of it is about one node, and leaves the
  others as they are.

  Main declarations:
    * `TickHost`, `Watching.adjudicated`, `Watching.retry`
    * `Watching.tick`, `tick_run`
    * `Resting`, `Touches`, `Beside`
-/

------------------------------------------------------------
-- A Tick
------------------------------------------------------------

namespace Taskfleet

open Fallible Watchdog

/- The sections of a tick, each about one node. -/
inductive TickPhase where
| judges
| tells
| retries
deriving DecidableEq

/-
  The host in one tick: both clocks at its start, the calendar
  in each of its sections, the nodes of the directory, the
  keys of the parks, and what it is asked and does for a node.
-/
structure TickHost where
  now : Time
  instant : Time
  clock : TickPhase → NodeId → Time
  order : List NodeId
  keys : List NodeId
  procs : NodeId → Processes
  answers : Option String → ProbeOutcome
  salvage : NodeId → SalvageWorld
  look : NodeId → CleanupWorld
  respawn :
    NodeId → Except String (RespawnOutcome × Option String)
  recheck : NodeId → CleanupWorld
  listed : order.Nodup
  keyed : keys.Nodup

namespace Watching

def judge
    (W : Watcher)
    (host : TickHost)
    (tmux : TmuxSnapshot)
    (S : Watching)
    (c : Suspect) : Watching :=
  match c.judgement (host.procs c.id) tmux S.tickAt
      W.config.deathGrace with
  | .leaves => S
  | .observes =>
      { S with
        disk :=
          ((recordDeathObserved W.env (host.clock .judges c.id)
            c.id c.node.agentPid).attempt none S.disk).1 }
  | .fails v =>
      let out :=
        (synthesizeCrashBackstopFailure W.env W.config
          (host.salvage c.id) (host.clock .judges c.id)
          host.instant c.id v c.node.agentPid).attempt none
            S.disk
      { S with
        disk := out.1
        parks := S.parked c.id out.2 }

def tell
    (W : Watcher)
    (host : TickHost)
    (S : Watching)
    (t : NodeId × WorkerExit) : Watching :=
  { S with
    disk :=
      ((synthesizeWorkerExitFailure W.env W.toRfc3339
        (host.clock .tells t.1) t.1 t.2).attempt none
          S.disk).1 }

def scan (W : Watcher) (host : TickHost) (S : Watching) :
    List Suspect × List (NodeId × WorkerExit) :=
  watchdogScan W.env S.disk host.order
    (fun id => (S.parks id).isSome) host.now
    W.config.spawnGrace

def snapshot
    (host : TickHost) (candidates : List Suspect) :
    TmuxSnapshot :=
  .collect (socketsOf (candidates.map Suspect.probe))
    host.answers

/- What the first look of a tick leaves it to go through. -/
def seen (W : Watcher) (host : TickHost) (S : Watching) :
    Watching :=
  { S with
    tickAt := host.now
    candidates := (S.scan W host).1
    told := (S.scan W host).2 }

def judged (W : Watcher) (host : TickHost) (S : Watching) :
    Watching :=
  { (S.scan W host).1.foldl
      (judge W host (snapshot host (S.scan W host).1))
      (S.seen W host) with
    candidates := [] }

/- A tick up to its retries. -/
def adjudicated (W : Watcher) (host : TickHost) (S : Watching) :
    Watching :=
  { (S.scan W host).2.foldl (tell W host) (S.judged W host) with
    told := [] }

/- The parks whose time has come, in the order of the keys. -/
def due (host : TickHost) (S : Watching) : List NodeId :=
  host.keys.filter (fun id =>
    (S.parks id).any (fun park =>
      park.retryAt ≤ host.instant))

/- No worker was spawned. It is tried again, or given up. -/
def unspawned
    (W : Watcher)
    (host : TickHost)
    (S : Watching)
    (id : NodeId)
    (park : RetryPark)
    (err : String) : Watching :=
  if W.config.respawnMaxFailures ≤ park.spawnFailures + 1 then
    let out :=
      (terminalizeRespawnFailure W.env (host.clock .retries id)
        id park.attempt err).attempt none S.disk
    { S with
      disk := out.1
      parks := S.unparked id out.2.isSome }
  else
    { S with
      parks := Function.update S.parks id
        (some (respawnLater W.config host.instant park)) }

/- The node is given the worker that was spawned for it. -/
def rewired
    (W : Watcher)
    (host : TickHost)
    (S : Watching)
    (id : NodeId)
    (park : RetryPark)
    (spawn : RespawnOutcome)
    (baseSha : Option String) : Watching :=
  let out :=
    (recordRetry W.env (host.recheck id)
      (host.clock .retries id) id
      (retryData park.attempt park.reason spawn
        baseSha)).attempt none S.disk
  { S with
    disk := out.1
    parks := S.unparked id out.2.isSome }

/-
  A retry that is due. Its worker is spawned before anything
  of the old one goes.
-/
def retry
    (W : Watcher)
    (host : TickHost)
    (S : Watching)
    (id : NodeId) : Watching :=
  match S.parks id with
  | none => S
  | some park =>
      match retryableNode W.env (host.look id) S.disk id with
      | none => { S with parks := S.unparked id true }
      | some _ =>
          if (freshManifest W.env S.disk).isNone then S
          else
            match host.respawn id with
            | .error err => S.unspawned W host id park err
            | .ok (spawn, baseSha) =>
                S.rewired W host id park spawn baseSha

def retried (W : Watcher) (host : TickHost) (S : Watching) :
    Watching :=
  (S.due host).foldl (retry W host) S

/- A run that is attended, or cannot be read, is left alone. -/
def tick (W : Watcher) (host : TickHost) (S : Watching) :
    Watching :=
  match freshManifest W.env S.disk with
  | none => S
  | some m =>
      if m.lifecycle = .interactive then S
      else (S.adjudicated W host).retried W host

/- A supervisor that starts again has no parks. -/
def restarted (S : Watching) : Watching :=
  { S with
    candidates := []
    told := []
    parks := fun _ => none
    respawning := none }

section Runs

variable {W : Watcher} {S : Watching} {id i : NodeId}

theorem judge_step
    (host : TickHost) (tmux : TmuxSnapshot)
    (c : Suspect) (rest : List Suspect) :
    ∃ act,
      WatchdogStep W act
        { S with candidates := c :: rest }
        { judge W host tmux S c with candidates := rest } := by
  refine ⟨.judges (host.procs c.id) tmux (host.salvage c.id)
    (host.clock .judges c.id), ?_⟩
  unfold judge
  split
  next hJudged =>
    exact .spares { S with candidates := c :: rest } c rest
      _ tmux _ _ rfl hJudged
  next hJudged =>
    exact .observes { S with candidates := c :: rest } c rest
      _ tmux _ _ none rfl hJudged
  next v hJudged =>
    exact .fails { S with candidates := c :: rest } c rest
      _ tmux _ _ host.instant v none rfl hJudged

theorem judges_run
    (host : TickHost) (tmux : TmuxSnapshot)
    (candidates : List Suspect) :
    Steps.Run (WatchdogStep W)
      { S with candidates := candidates }
      { candidates.foldl (judge W host tmux) S with
        candidates := [] } := by
  induction candidates generalizing S with
  | nil => exact .refl
  | cons c rest ih =>
      rcases judge_step (W := W) (S := S) host tmux c rest with
        ⟨act, hStep⟩
      exact (Steps.Run.next .refl hStep).trans ih

theorem tells_run
    (host : TickHost)
    (told : List (NodeId × WorkerExit))
    (hJudged : S.candidates = []) :
    Steps.Run (WatchdogStep W) { S with told := told }
      { told.foldl (tell W host) S with told := [] } := by
  induction told generalizing S with
  | nil => exact .refl
  | cons t rest ih =>
      have hStep :
          WatchdogStep W (.tells (host.clock .tells t.1))
            { S with told := t :: rest }
            { tell W host S t with told := rest } :=
        .tells { S with told := t :: rest } t.1 t.2 rest _ none
          hJudged rfl
      exact (Steps.Run.next .refl hStep).trans (ih hJudged)

/- What a section of the judge does not change. -/
theorem judge_frame
    (host : TickHost) (tmux : TmuxSnapshot) (c : Suspect) :
    (S.judge W host tmux c).told = S.told ∧
      (S.judge W host tmux c).respawning = S.respawning := by
  unfold judge
  split <;> exact ⟨rfl, rfl⟩

theorem judges_frame
    (host : TickHost) (tmux : TmuxSnapshot)
    (candidates : List Suspect) :
    (candidates.foldl (judge W host tmux) S).told = S.told ∧
      (candidates.foldl (judge W host tmux) S).respawning =
        S.respawning := by
  induction candidates generalizing S with
  | nil => exact ⟨rfl, rfl⟩
  | cons c rest ih =>
      have hFirst := judge_frame (W := W) (S := S) host tmux c
      have hRest := ih (S := S.judge W host tmux c)
      exact ⟨hRest.1.trans hFirst.1, hRest.2.trans hFirst.2⟩

theorem tells_frame
    (host : TickHost) (told : List (NodeId × WorkerExit)) :
    (told.foldl (tell W host) S).candidates = S.candidates ∧
      (told.foldl (tell W host) S).parks = S.parks ∧
      (told.foldl (tell W host) S).respawning =
        S.respawning := by
  induction told generalizing S with
  | nil => exact ⟨rfl, rfl, rfl⟩
  | cons t rest ih => exact ih (S := S.tell W host t)

/- A tick is at rest again before it comes to its retries. -/
theorem adjudicated_rests
    (host : TickHost)
    (hIdle : S.respawning = none) :
    (S.adjudicated W host).Scanned ∧
      (S.adjudicated W host).respawning = none := by
  have hTells := tells_frame (W := W) (S := S.judged W host)
    host (S.scan W host).2
  have hJudges := judges_frame (W := W) (S := S.seen W host)
    host (snapshot host (S.scan W host).1) (S.scan W host).1
  exact ⟨⟨hTells.1, rfl⟩,
    hTells.2.2.trans (hJudges.2.trans hIdle)⟩

theorem adjudicated_run
    {m : Manifest}
    (host : TickHost)
    (hScanned : S.Scanned)
    (hIdle : S.respawning = none)
    (hManifest : freshManifest W.env S.disk = some m)
    (hAutonomous : m.lifecycle ≠ .interactive) :
    Steps.Run (WatchdogStep W) S (S.adjudicated W host) := by
  have hSeen : WatchdogStep W (.scans host.now host.order) S
      (S.seen W host) :=
    .scans S m host.now host.order hScanned hIdle hManifest
      hAutonomous
  have hJudges : Steps.Run (WatchdogStep W) (S.seen W host)
      (S.judged W host) :=
    judges_run (W := W) (S := S.seen W host) host _
      (S.scan W host).1
  have hTold : (S.judged W host).told = (S.scan W host).2 :=
    (judges_frame (S := S.seen W host) host _
      (S.scan W host).1).1
  have hTells :=
    tells_run (W := W) (S := S.judged W host) host
      (S.scan W host).2 rfl
  unfold adjudicated
  rw [← hTold] at hTells ⊢
  exact ((Steps.Run.next .refl hSeen).trans hJudges).trans
    hTells

/- A retry changes no park but that of its node. -/
theorem retry_parks
    (host : TickHost) (hOther : i ≠ id) :
    (S.retry W host i).parks id = S.parks id := by
  have hUnparked :
      ∀ done, S.unparked i done id = S.parks id := by
    intro done
    unfold unparked
    split
    · exact Function.update_of_ne hOther.symm _ _
    · rfl
  unfold retry
  split
  · rfl
  split
  · exact hUnparked true
  split
  · rfl
  split
  · unfold unspawned
    split
    · exact hUnparked _
    · exact Function.update_of_ne hOther.symm _ _
  · exact hUnparked _

theorem retry_rests
    (host : TickHost)
    (hRests : S.Scanned ∧ S.respawning = none) :
    (S.retry W host i).Scanned ∧
      (S.retry W host i).respawning = none := by
  unfold retry
  split
  · exact hRests
  split
  · exact hRests
  split
  · exact hRests
  split
  · unfold unspawned
    split <;> exact hRests
  · exact hRests

theorem unspawned_step
    {n : Node} {park : RetryPark}
    (host : TickHost) (err : String)
    (hIdle : S.respawning = none) :
    WatchdogStep W
      (.respawnFails err (host.clock .retries i))
      { S with respawning := some ⟨i, n, park⟩ }
      (S.unspawned W host i park err) := by
  have hEnded : { S with respawning := none } = S := by
    rw [← hIdle]
  unfold unspawned
  split
  next hSpent =>
    have hStep := WatchdogStep.givesUp (W := W)
      { S with respawning := some ⟨i, n, park⟩ }
      ⟨i, n, park⟩ err (host.clock .retries i) none rfl hSpent
    rw [← hEnded]
    exact hStep
  next hLeft =>
    have hStep := WatchdogStep.reschedules (W := W)
      { S with respawning := some ⟨i, n, park⟩ }
      ⟨i, n, park⟩ err (host.clock .retries i) host.instant rfl
      (Nat.lt_of_not_le hLeft)
    rw [← hEnded]
    exact hStep

theorem rewired_step
    {n : Node} {park : RetryPark} {spawn : RespawnOutcome}
    {baseSha : Option String}
    (host : TickHost)
    (hIdle : S.respawning = none) :
    WatchdogStep W
      (.rewires spawn baseSha (host.recheck i)
        (host.clock .retries i))
      { S with respawning := some ⟨i, n, park⟩ }
      (S.rewired W host i park spawn baseSha) := by
  have hEnded : { S with respawning := none } = S := by
    rw [← hIdle]
  have hStep := WatchdogStep.rewires (W := W)
    { S with respawning := some ⟨i, n, park⟩ } ⟨i, n, park⟩
    spawn baseSha (host.recheck i) (host.clock .retries i) none
    rfl
  rw [← hEnded]
  exact hStep

/- A retry looks, and then takes one more step or none. -/
theorem retry_run
    (host : TickHost)
    (hRests : S.Scanned ∧ S.respawning = none)
    (hDue : ∀ park, S.parks i = some park →
      park.retryAt ≤ host.instant) :
    Steps.Run (WatchdogStep W) S (S.retry W host i) := by
  rcases hRests with ⟨hScanned, hIdle⟩
  unfold retry
  split
  · exact .refl
  next park hPark =>
    split
    next hLook =>
      exact .next .refl
        (.drops S i park (host.look i) host.instant hScanned
          hIdle hPark (hDue park hPark) hLook)
    next n hLook =>
      have hLooks : WatchdogStep W
          (.looks i (host.look i) host.instant) S
          { S with respawning := some ⟨i, n, park⟩ } :=
        .looks S i park n (host.look i) host.instant hScanned
          hIdle hPark (hDue park hPark) hLook
      have hBegun := Steps.Run.next .refl hLooks
      split
      · have hStep := WatchdogStep.abandons (W := W)
          { S with respawning := some ⟨i, n, park⟩ }
          ⟨i, n, park⟩ rfl
        have hMore := hBegun.next hStep
        have hEnded : { S with respawning := none } = S := by
          rw [← hIdle]
        rwa [hEnded] at hMore
      split
      next err _ =>
        exact hBegun.next (unspawned_step host err hIdle)
      next =>
        exact hBegun.next (rewired_step host hIdle)

theorem retries_run
    {ids : List NodeId}
    (host : TickHost)
    (hRests : S.Scanned ∧ S.respawning = none)
    (hOnce : ids.Nodup)
    (hDue : ∀ i ∈ ids, ∀ park, S.parks i = some park →
      park.retryAt ≤ host.instant) :
    Steps.Run (WatchdogStep W) S
      (ids.foldl (retry W host) S) := by
  induction ids generalizing S with
  | nil => exact .refl
  | cons i rest ih =>
      rw [List.nodup_cons] at hOnce
      have hFirst := retry_run (W := W) host hRests
        (hDue i List.mem_cons_self)
      refine hFirst.trans
        (ih (retry_rests host hRests) hOnce.2 ?_)
      intro j hMem park hPark
      have hOther : i ≠ j := by
        rintro rfl
        exact hOnce.1 hMem
      rw [retry_parks host hOther] at hPark
      exact hDue j (List.mem_cons_of_mem _ hMem) park hPark

theorem mem_due {host : TickHost} :
    id ∈ S.due host ↔
      id ∈ host.keys ∧ ∃ park, S.parks id = some park ∧
        park.retryAt ≤ host.instant := by
  unfold due
  rw [List.mem_filter, Option.any_eq_true]
  simp

theorem retried_run
    (host : TickHost)
    (hRests : S.Scanned ∧ S.respawning = none) :
    Steps.Run (WatchdogStep W) S (S.retried W host) := by
  apply retries_run host hRests (host.keyed.filter _)
  intro i hMem park hPark
  rcases (mem_due.mp hMem).2 with ⟨other, hOther, hDue⟩
  rw [hPark, Option.some.injEq] at hOther
  rwa [hOther]

/- An uninterrupted tick is a run of the steps. -/
theorem tick_run
    (host : TickHost)
    (hScanned : S.Scanned)
    (hIdle : S.respawning = none) :
    Steps.Run (WatchdogStep W) S (S.tick W host) := by
  unfold tick
  split
  · exact .refl
  next m hManifest =>
    split
    · exact .refl
    next hAutonomous =>
      exact (adjudicated_run host hScanned hIdle hManifest
        hAutonomous).trans
          (retried_run host (adjudicated_rests host hIdle))

end Runs

end Watching

------------------------------------------------------------
-- Runs at Rest
------------------------------------------------------------

/- Nothing of the log is left to fold. -/
structure Resting (env : RunEnv) (d : Disk) : Prop
    extends Backed env d where
  covered : d.lastSeq ≤ d.appliedSeq

section Resting

variable {env : RunEnv} {d : Disk} {r : Request}
variable {id : NodeId} {n : Node}

/- The repository and the branch that a run started from. -/
def sourceOf (m : Option Manifest) :
    Option String × Option String :=
  (manifestSourceRepo m, manifestSourceBranch m)

theorem sourceOf_unstamped (m : Option Manifest) :
    sourceOf m = sourceOf (m.map Manifest.unstamped) := by
  cases m <;> rfl

theorem sourceOf_advance (d : Disk) (seq : Nat) :
    sourceOf (d.advance seq).manifest = sourceOf d.manifest := by
  unfold Disk.advance
  split
  · rfl
  next m hManifest =>
    split
    · rw [hManifest]
      rfl
    · rfl

theorem sourceOf_applyOps
    {ev : Event} {ops : List ProjectionOp}
    (hPlanned : Planned env d ev ops)
    (hKind : ev.kind ≠ .nodeCreated)
    (hManifest : d.manifest ≠ none) :
    sourceOf (applyOps ops d).manifest =
      sourceOf d.manifest := by
  rcases applyOps_manifest_cases ops d with
    hSame | ⟨m', hMem, hAfter⟩
  · rw [hSame]
  rcases Option.ne_none_iff_exists'.mp hManifest with
    ⟨m, hBefore⟩
  have hCharter := planned_charter hPlanned hBefore hMem
  unfold sourceOf manifestSourceRepo manifestSourceBranch
  rw [hAfter, hBefore, Option.bind_some, Option.bind_some,
    Option.bind_some, Option.bind_some, hCharter.2.2.1,
    hCharter.2.2.2 hKind]

/- What git is asked of a node hangs on the source alone. -/
theorem nodeIsEmptyHanded_congr
    {world : CleanupWorld} {m m' : Option Manifest}
    (hSource : sourceOf m = sourceOf m') :
    nodeIsEmptyHanded world m n =
      nodeIsEmptyHanded world m' n := by
  unfold nodeIsEmptyHanded branchEndpoints
  rcases Prod.mk.inj hSource with ⟨hRepo, hBranch⟩
  rw [hRepo, hBranch]

theorem Resting.wp_append
    (hRest : Resting env d) (r : Request) :
    Durable.wp (appendAndApplyUnlocked env r)
      (fun _ s => (∃ ops,
        reduceEventToOps env d (r.event env (d.lastSeq + 1)) =
          .ok ops ∧
        s.nodes = (applyOps ops d).nodes ∧
        sourceOf s.manifest =
          sourceOf (applyOps ops d).manifest) ∧
        s.events =
          d.events ++ [r.event env (d.lastSeq + 1)] ∧
        s.lastSeq ≤ s.appliedSeq)
      (fun _ s => (∃ e,
        reduceEventToOps env d (r.event env (d.lastSeq + 1)) =
          .error e) ∧
        s.nodes = d.nodes ∧ s.manifest = d.manifest ∧
        s.events = d.events ∧ s.lastSeq ≤ s.appliedSeq)
      (fun _ _ => True) d := by
  have hLast : recoverLastSeq d.lines = .ok d.lastSeq := by
    rw [hRest.lines, recoverLastSeq_events]
    rfl
  apply wp_appendAndApplyUnlocked
  refine wp_appendAndApplyReporting
    (R := fun s => s = { d with torn := false }) ?_ ?_ ?_ ?_ ?_
  · exact wp_catchUp_covered hRest.readable hRest.lines
      (fun _ => hRest.covered) trivial rfl
  · rintro s rfl
    exact hRest.readable
  · rintro s e rfl hError
    rw [hLast] at hError
    cases hError
  · rintro s last e rfl hTail hRefused
    rw [hLast, Except.ok.injEq] at hTail
    rw [← hTail] at hRefused
    exact ⟨⟨e, hRefused⟩, rfl, rfl, rfl, hRest.covered⟩
  · rintro s last ops rfl hTail hPlan
    rw [hLast, Except.ok.injEq] at hTail
    subst hTail
    have hSame :
        SameProjections
          (({ d with torn := false } : Disk).log
            (r.event env (d.lastSeq + 1))) d := ⟨rfl, rfl⟩
    refine ⟨trivial, trivial, fun _ _ => trivial,
      fun _ => trivial, ⟨ops, hPlan, ?_, ?_⟩, ?_, ?_⟩
    · rw [Disk.advance_nodes]
      exact (hSame.applyOps ops).nodes
    · rw [sourceOf_advance, sourceOf_unstamped,
        (hSame.applyOps ops).manifest, ← sourceOf_unstamped]
    · rw [Disk.advance_events, Disk.applyOps_events,
        Disk.log_events]
      rfl
    · have hAhead : d.appliedSeq <
          (r.event env (d.lastSeq + 1)).seq :=
        Nat.lt_succ_of_le hRest.behind
      have hMark :=
        appliedSeq_folded
          (s := ({ d with torn := false } : Disk).log
            (r.event env (d.lastSeq + 1)))
          hRest.manifest hAhead
          ((reduce_logged env _ _).trans hPlan)
      rw [lastSeq_folded, hMark, Disk.lastSeq, Disk.log_events,
        lastSeqOf_concat]

theorem Resting.append
    (hRest : Resting env d) (r : Request) :
    Resting env ((appendAndApplyUnlocked env r).final d) := by
  have hKept :=
    (kept_backed env).wp_append (r := r)
      (fun s ops hHere _ hAbreast hPlan =>
        hHere.log hAbreast.1 hAbreast.2 rfl hPlan)
      hRest.toBacked
  have hBoth := Durable.wp_mono
    (Durable.wp_and hKept (hRest.wp_append r))
    (fun _ s h => Resting.mk h.1.1 h.2.2.2)
    (fun _ s h => Resting.mk h.1.1 h.2.2.2.2.2)
    (fun _ _ _ => trivial)
  exact Durable.wp_final (C := fun _ _ => True) hBoth

theorem Resting.append_events
    (hRest : Resting env d) (r : Request) :
    d.events ⊆
      ((appendAndApplyUnlocked env r).final d).events := by
  have hAppend :
      Durable.wp (appendAndApplyUnlocked env r)
        (fun _ s => d.events ⊆ s.events)
        (fun _ s => d.events ⊆ s.events)
        (fun _ _ => True) d := by
    apply Durable.wp_mono (hRest.wp_append r)
    · rintro _ s ⟨_, hEvents, _⟩
      rw [hEvents]
      exact List.subset_append_left _ _
    · rintro _ s ⟨_, _, _, hEvents, _⟩
      rw [hEvents]
      exact List.Subset.refl _
    · exact fun _ _ _ => trivial
  exact Durable.wp_final hAppend

/- An append that creates no node keeps the source. -/
theorem Resting.append_source
    (hRest : Resting env d)
    (hKind : r.kind ≠ .nodeCreated) :
    sourceOf
        ((appendAndApplyUnlocked env r).final d).manifest =
      sourceOf d.manifest := by
  have hAppend :
      Durable.wp (appendAndApplyUnlocked env r)
        (fun _ s => sourceOf s.manifest = sourceOf d.manifest)
        (fun _ s => sourceOf s.manifest = sourceOf d.manifest)
        (fun _ _ => True) d := by
    apply Durable.wp_mono (hRest.wp_append r)
    · rintro _ s ⟨⟨ops, hPlan, _, hSource⟩, _⟩
      rw [hSource]
      exact sourceOf_applyOps (planned_of_reduce hPlan).2 hKind
        hRest.manifest
    · rintro _ s ⟨_, _, hManifest, _⟩
      rw [hManifest]
    · exact fun _ _ _ => trivial
  exact Durable.wp_final hAppend

/- The line that is next is not in the log. -/
theorem Resting.next_notMem
    (hRest : Resting env d) (r : Request) :
    r.event env (d.lastSeq + 1) ∉ d.events := by
  intro hMem
  have hOld := seq_le_lastSeqOf hRest.ordered.increasing hMem
  exact absurd hOld (Nat.not_succ_le_self _)

/- An event that is planned changes the nodes as planned. -/
theorem Resting.append_nodes
    {ops : List ProjectionOp}
    (hRest : Resting env d)
    (hPlan :
      reduceEventToOps env d (r.event env (d.lastSeq + 1)) =
        .ok ops) :
    ((appendAndApplyUnlocked env r).final d).nodes =
      (applyOps ops d).nodes := by
  have hAppend :
      Durable.wp (appendAndApplyUnlocked env r)
        (fun _ s => s.nodes = (applyOps ops d).nodes)
        (fun _ s => s.nodes = (applyOps ops d).nodes)
        (fun _ _ => True) d := by
    apply Durable.wp_mono (hRest.wp_append r)
    · rintro _ s ⟨⟨ops', hPlan', hNodes, _⟩, _⟩
      rw [hPlan, Except.ok.injEq] at hPlan'
      rw [hPlan', hNodes]
    · rintro _ s ⟨⟨e, hError⟩, _⟩
      rw [hPlan] at hError
      cases hError
    · exact fun _ _ _ => trivial
  exact Durable.wp_final hAppend

theorem Resting.append_node
    {n' : Node}
    (hRest : Resting env d)
    (hPlan :
      reduceEventToOps env d (r.event env (d.lastSeq + 1)) =
        .ok [.node n'])
    (hSame : n'.nodeId = id) :
    ((appendAndApplyUnlocked env r).final d).nodes.lookup id =
      some n' := by
  rw [hRest.append_nodes hPlan, ← hSame]
  exact Finmap.lookup_insert _

theorem Resting.append_report
    {s : Status}
    (hRest : Resting env d)
    (hKind : r.kind = .nodeReport)
    (hNode : r.nodeId = some id)
    (hStatus :
      (r.event env (d.lastSeq + 1)).reportTerminalStatus =
        .ok s)
    (hLookup : d.nodes.lookup id = some n)
    (hLive : n.status.isTerminal = false) :
    ∃ n', ((appendAndApplyUnlocked env r).final d).nodes.lookup
        id = some n' ∧
      n'.status = s := by
  have hValid := hRest.nodes id n hLookup
  have hPlan := reduce_live_report rfl hKind hNode hStatus
    hLookup hValid hLive
  exact ⟨_, hRest.append_node hPlan hValid.nodeId, rfl⟩

/- An append on one node leaves the others as they are. -/
theorem Resting.append_beside
    {i : NodeId}
    (hRest : Resting env d)
    (hNode : r.nodeId = some i)
    (hOther : i ≠ id) :
    ((appendAndApplyUnlocked env r).final d).nodes.lookup id =
      d.nodes.lookup id := by
  have hNot : (r.event env (d.lastSeq + 1)).nodeId ≠
      some id := by
    change r.nodeId ≠ some id
    rw [hNode]
    simpa using hOther
  have hAppend :
      Durable.wp (appendAndApplyUnlocked env r)
        (fun _ s => s.nodes.lookup id = d.nodes.lookup id)
        (fun _ s => s.nodes.lookup id = d.nodes.lookup id)
        (fun _ _ => True) d := by
    apply Durable.wp_mono (hRest.wp_append r)
    · rintro _ s ⟨⟨ops, hPlan, hNodes, _⟩, _⟩
      have hChange := nodeChange_of_reduce hPlan id
      rw [hNodes]
      generalize (applyOps ops d).nodes.lookup id = after
        at hChange
      generalize d.nodes.lookup id = before at hChange
      cases hChange with
      | kept => rfl
      | created _ _ hHere => exact absurd hHere hNot
      | rewritten _ _ hHere => exact absurd hHere hNot
    · rintro _ s ⟨_, hNodes, _⟩
      rw [hNodes]
    · exact fun _ _ _ => trivial
  exact Durable.wp_final hAppend

end Resting

------------------------------------------------------------
-- Sections That Nothing Cuts
------------------------------------------------------------

theorem Durable.final_read
    {τ σ ε α : Type} {f : σ → Durable τ σ ε α} {s : σ} :
    (Durable.read >>= f).final s = (f s).final s := rfl

theorem Durable.attempt_read
    {τ σ ε α : Type} {f : σ → Durable τ σ ε α} {s : σ} :
    (Durable.read >>= f).attempt none s =
      (f s).attempt none s := rfl

theorem Durable.final_return
    {τ σ ε α β : Type} {x : Durable τ σ ε α} (b : β) {s : σ} :
    Durable.final (do
        let _ ← x
        return b) s =
      x.final s := by
  change Durable.settle s
    (Durable.andThen x (fun _ => Durable.ret b) s).1 =
      Durable.settle s (x s).1
  unfold Durable.andThen
  rcases x s with ⟨trail, answer⟩
  cases answer with
  | error e => rfl
  | ok a => simp [Durable.ret]

/- The outcome of a failure that the supervisor files. -/
theorem supervisorFailure_get
    {reason summary field : String}
    {more : List (String × Json)}
    (hOrigin : field ≠ reportOriginKey)
    (hMore : ∀ f ∈ more, f.1 ≠ field) :
    (supervisorFailure reason summary more).get field =
      (supervisorFailure reason summary []).get field := by
  unfold supervisorFailure
  rw [stamp_get _ _ hOrigin, stamp_get _ _ hOrigin]
  generalize
    [("cancelled", Json.bool false), ("discussion_items", .arr []),
      ("failed", .bool true), ("reason", .str reason),
      ("spinoff_proposals", .arr []), ("success", .bool false),
      ("summary", .str summary),
      ("wrap_up_recommendations", .arr [])] = kvs
  change (List.foldl _ kvs more).lookup field =
    kvs.lookup field
  induction more generalizing kvs with
  | nil => rfl
  | cons f rest ih =>
      rw [List.foldl_cons, ih (fun g hMem =>
        hMore g (List.mem_cons_of_mem _ hMem))]
      exact Json.lookup_insertField_ne _ _
        (hMore f List.mem_cons_self).symm

theorem supervisorFailure_status
    {ev : Event} {reason summary : String}
    {more : List (String × Json)}
    (hData : ev.data = supervisorFailure reason summary more)
    (hMore : ∀ f ∈ more, f.1 ≠ "success" ∧
      f.1 ≠ "cancelled") :
    ev.reportTerminalStatus = .ok .failed := by
  have hSuccess :
      ev.data.get "success" = some (.bool false) := by
    rw [hData, supervisorFailure_get (by decide)
      (fun f hMem => (hMore f hMem).1)]
    rfl
  have hCancelled :
      ev.data.get "cancelled" = some (.bool false) := by
    rw [hData, supervisorFailure_get (by decide)
      (fun f hMem => (hMore f hMem).2)]
    rfl
  unfold Event.reportTerminalStatus Event.optionalBool
  rw [hSuccess, hCancelled]
  rfl

theorem crashReport_status
    {ev : Event} {id : NodeId} {v : Liveness}
    {recoverability : Option Recoverability} {retried : Nat}
    (hData : ev.data =
      crashReport id v recoverability retried) :
    ev.reportTerminalStatus = .ok .failed := by
  apply supervisorFailure_status hData
  intro f hMem
  rw [List.mem_append] at hMem
  rcases hMem with hMem | hMem
  · rw [Option.mem_toList, Option.map_eq_some_iff] at hMem
    rcases hMem with ⟨r, _, rfl⟩
    simp
  · split at hMem
    · rw [List.mem_singleton] at hMem
      simp [hMem]
    · cases hMem

------------------------------------------------------------
-- One Node in a Tick
------------------------------------------------------------

/- A section appends at most one line, about the node. -/
def Touches
    (env : RunEnv) (id : NodeId) (d d' : Disk) : Prop :=
  d' = d ∨ ∃ r, r.nodeId = some id ∧ r.kind ≠ .nodeCreated ∧
    d' = (appendAndApplyUnlocked env r).final d

section Touches

variable {env : RunEnv} {d d' : Disk} {id i : NodeId}

theorem Touches.resting
    (hTouches : Touches env i d d')
    (hRest : Resting env d) : Resting env d' := by
  rcases hTouches with rfl | ⟨r, _, _, rfl⟩
  · exact hRest
  · exact hRest.append r

theorem Touches.beside
    (hTouches : Touches env i d d')
    (hRest : Resting env d)
    (hOther : i ≠ id) :
    d'.nodes.lookup id = d.nodes.lookup id := by
  rcases hTouches with rfl | ⟨r, hNode, _, rfl⟩
  · rfl
  · exact hRest.append_beside hNode hOther

theorem Touches.logged
    (hTouches : Touches env i d d')
    (hRest : Resting env d) : d.events ⊆ d'.events := by
  rcases hTouches with rfl | ⟨r, _, _, rfl⟩
  · exact List.Subset.refl _
  · exact hRest.append_events r

theorem Touches.source
    (hTouches : Touches env i d d')
    (hRest : Resting env d) :
    sourceOf d'.manifest = sourceOf d.manifest := by
  rcases hTouches with rfl | ⟨r, _, hKind, rfl⟩
  · rfl
  · exact hRest.append_source hKind

theorem observed_touches
    (env : RunEnv) (now : Time) (id : NodeId)
    (staleAgentPid : Option Int) (d : Disk) :
    Touches env id d
      ((recordDeathObserved env now id staleAgentPid).attempt
        none d).1 := by
  unfold Durable.attempt recordDeathObserved
  rw [Durable.final_read]
  dsimp only
  split
  · rw [Durable.final_return]
    exact .inr ⟨_, rfl, by simp, rfl⟩
  · exact .inl rfl

theorem crashed_touches
    (env : RunEnv) (config : WatchdogConfig)
    (world : SalvageWorld) (now instant : Time) (id : NodeId)
    (v : Liveness) (staleAgentPid : Option Int) (d : Disk) :
    Touches env id d
      ((synthesizeCrashBackstopFailure env config world now
        instant id v staleAgentPid).attempt none d).1 := by
  unfold Durable.attempt synthesizeCrashBackstopFailure
  rw [Durable.final_read]
  dsimp only
  split
  · exact .inl rfl
  split
  · exact .inl rfl
  · rw [Durable.final_return]
    exact .inr ⟨_, rfl, by simp [failureRequest], rfl⟩

theorem exited_touches
    (env : RunEnv) (toRfc3339 : Time → String) (now : Time)
    (id : NodeId) (exit : WorkerExit) (d : Disk) :
    Touches env id d
      ((synthesizeWorkerExitFailure env toRfc3339 now id
        exit).attempt none d).1 := by
  unfold Durable.attempt synthesizeWorkerExitFailure
  rw [Durable.final_read]
  dsimp only
  split
  · rw [Durable.final_return]
    exact .inr ⟨_, rfl, by simp [failureRequest], rfl⟩
  · exact .inl rfl

theorem unspawned_touches
    (env : RunEnv) (now : Time) (id : NodeId) (attempt : Nat)
    (err : String) (d : Disk) :
    Touches env id d
      ((terminalizeRespawnFailure env now id attempt
        err).attempt none d).1 := by
  unfold Durable.attempt terminalizeRespawnFailure
  rw [Durable.final_read]
  dsimp only
  split
  · rw [Durable.final_return]
    exact .inr ⟨_, rfl, by simp [failureRequest], rfl⟩
  · exact .inl rfl

theorem rewired_touches
    (env : RunEnv) (world : CleanupWorld) (now : Time)
    (id : NodeId) (data : Json) (d : Disk) :
    Touches env id d
      ((recordRetry env world now id data).attempt none d).1 := by
  unfold Durable.attempt recordRetry
  rw [Durable.final_read]
  dsimp only
  split
  · rw [Durable.final_return]
    exact .inr ⟨_, rfl, by simp [retryRequest], rfl⟩
  · exact .inl rfl

end Touches

/- The run is at rest again, and its log has grown. -/
structure Grown (W : Watcher) (S S' : Watching) : Prop where
  resting : Resting W.env S'.disk
  logged : S.disk.events ⊆ S'.disk.events
  source : sourceOf S'.disk.manifest = sourceOf S.disk.manifest

/- What a tick does beside a node leaves the node alone. -/
structure Beside
    (W : Watcher) (id : NodeId) (S S' : Watching) : Prop
    extends Grown W S S' where
  node : S'.disk.nodes.lookup id = S.disk.nodes.lookup id
  park : S'.parks id = S.parks id
  tickAt : S'.tickAt = S.tickAt

section Sections

variable {β : Type} {W : Watcher} {id i : NodeId}
variable {S S₁ S₂ S₃ : Watching} {key : β → NodeId}
variable {f : Watching → β → Watching} {bs : List β}

theorem Grown.refl
    (hRest : Resting W.env S.disk) : Grown W S S :=
  ⟨hRest, List.Subset.refl _, rfl⟩

theorem Grown.trans
    (hFirst : Grown W S₁ S₂)
    (hSecond : Grown W S₂ S₃) : Grown W S₁ S₃ :=
  ⟨hSecond.resting,
    List.Subset.trans hFirst.logged hSecond.logged,
    hSecond.source.trans hFirst.source⟩

theorem Touches.grown
    (hTouches : Touches W.env i S.disk S₁.disk)
    (hRest : Resting W.env S.disk) : Grown W S S₁ :=
  ⟨hTouches.resting hRest, hTouches.logged hRest,
    hTouches.source hRest⟩

theorem Grown.foldl
    (hOne : ∀ S b, Resting W.env S.disk → Grown W S (f S b))
    (hRest : Resting W.env S.disk)
    (bs : List β) : Grown W S (bs.foldl f S) := by
  induction bs generalizing S with
  | nil => exact .refl hRest
  | cons b rest ih =>
      have hFirst := hOne S b hRest
      exact hFirst.trans (ih hFirst.resting)

theorem Beside.refl
    (hRest : Resting W.env S.disk) : Beside W id S S :=
  ⟨.refl hRest, rfl, rfl, rfl⟩

theorem Beside.trans
    (hFirst : Beside W id S₁ S₂)
    (hSecond : Beside W id S₂ S₃) : Beside W id S₁ S₃ :=
  ⟨hFirst.toGrown.trans hSecond.toGrown,
    hSecond.node.trans hFirst.node,
    hSecond.park.trans hFirst.park,
    hSecond.tickAt.trans hFirst.tickAt⟩

/- What a tick has yet to go through does not count. -/
theorem Beside.onto
    (hBeside : Beside W id S S₁)
    (S' : Watching)
    (hDisk : S'.disk = S₁.disk)
    (hParks : S'.parks = S₁.parks)
    (hTick : S'.tickAt = S₁.tickAt) : Beside W id S S' := by
  rcases hBeside with ⟨⟨hRest, hLogged, hSource⟩, hNode, hPark,
    hTickAt⟩
  constructor
  · constructor
    · rwa [hDisk]
    · rwa [hDisk]
    · rwa [hDisk]
  · rwa [hDisk]
  · rwa [hParks]
  · rwa [hTick]

/- One section for each other node after another. -/
theorem Beside.foldl
    (hOne : ∀ S b, Resting W.env S.disk → key b ≠ id →
      Beside W id S (f S b))
    (hRest : Resting W.env S.disk)
    (hOther : ∀ b ∈ bs, key b ≠ id) :
    Beside W id S (bs.foldl f S) := by
  induction bs generalizing S with
  | nil => exact .refl hRest
  | cons b rest ih =>
      have hFirst := hOne S b hRest (hOther b List.mem_cons_self)
      exact hFirst.trans (ih hFirst.resting
        (fun c hMem => hOther c (List.mem_cons_of_mem _ hMem)))

/- The node has one section, after some and before others. -/
theorem Beside.foldl_once
    {before after : List β} {b : β}
    (hOne : ∀ S b, Resting W.env S.disk → key b ≠ id →
      Beside W id S (f S b))
    (hOwn : ∀ S, Resting W.env S.disk → Grown W S (f S b))
    (hSplit : bs = before ++ b :: after)
    (hRest : Resting W.env S.disk)
    (hBefore : ∀ c ∈ before, key c ≠ id)
    (hAfter : ∀ c ∈ after, key c ≠ id) :
    ∃ S₁, Beside W id S S₁ ∧
      Beside W id (f S₁ b) (bs.foldl f S) := by
  have hFirst := Beside.foldl hOne hRest hBefore
  refine ⟨before.foldl f S, hFirst, ?_⟩
  rw [hSplit, List.foldl_append, List.foldl_cons]
  exact Beside.foldl hOne (hOwn _ hFirst.resting).resting hAfter

end Sections

section Nodes

variable {W : Watcher} {host : TickHost} {S : Watching}
variable {tmux : TmuxSnapshot} {id i : NodeId} {c : Suspect}

theorem judge_touches (c : Suspect) :
    Touches W.env c.id S.disk (S.judge W host tmux c).disk := by
  unfold Watching.judge
  split
  next => exact .inl rfl
  next => exact observed_touches _ _ _ _ _
  next => exact crashed_touches _ _ _ _ _ _ _ _ _

theorem parked_beside
    (answer : Option (Option RetryPark))
    (hOther : i ≠ id) :
    S.parked i answer id = S.parks id := by
  unfold Watching.parked
  cases answer.join with
  | none => rfl
  | some park => exact Function.update_of_ne hOther.symm _ _

/- A park is the one of the node that was judged. -/
theorem judge_park
    (hOther : c.id ≠ id) :
    (S.judge W host tmux c).parks id = S.parks id := by
  unfold Watching.judge
  split
  next => rfl
  next => rfl
  next => exact parked_beside _ hOther

theorem judge_tickAt (c : Suspect) :
    (S.judge W host tmux c).tickAt = S.tickAt := by
  unfold Watching.judge
  split <;> rfl

theorem judge_beside
    (host : TickHost) (tmux : TmuxSnapshot)
    (S : Watching) (c : Suspect)
    (hRest : Resting W.env S.disk)
    (hOther : c.id ≠ id) :
    Beside W id S (S.judge W host tmux c) :=
  ⟨(judge_touches c).grown hRest,
    (judge_touches c).beside hRest hOther,
    judge_park hOther, judge_tickAt c⟩

theorem tell_touches (t : NodeId × WorkerExit) :
    Touches W.env t.1 S.disk (S.tell W host t).disk :=
  exited_touches _ _ _ _ _ _

theorem tell_beside
    (host : TickHost) (S : Watching) (t : NodeId × WorkerExit)
    (hRest : Resting W.env S.disk)
    (hOther : t.1 ≠ id) :
    Beside W id S (S.tell W host t) :=
  ⟨(tell_touches t).grown hRest,
    (tell_touches t).beside hRest hOther, rfl, rfl⟩

theorem retry_touches (i : NodeId) :
    Touches W.env i S.disk (S.retry W host i).disk := by
  unfold Watching.retry
  split
  · exact .inl rfl
  split
  · exact .inl rfl
  split
  · exact .inl rfl
  split
  · unfold Watching.unspawned
    split
    · exact unspawned_touches _ _ _ _ _ _
    · exact .inl rfl
  · exact rewired_touches _ _ _ _ _ _

theorem retry_tickAt (i : NodeId) :
    (S.retry W host i).tickAt = S.tickAt := by
  unfold Watching.retry
  split
  · rfl
  split
  · rfl
  split
  · rfl
  split
  · unfold Watching.unspawned
    split <;> rfl
  · rfl

theorem retry_beside
    (host : TickHost) (S : Watching) (i : NodeId)
    (hRest : Resting W.env S.disk)
    (hOther : i ≠ id) :
    Beside W id S (S.retry W host i) :=
  ⟨(retry_touches i).grown hRest,
    (retry_touches i).beside hRest hOther,
    Watching.retry_parks host hOther, retry_tickAt i⟩

theorem adjudicated_grown
    (host : TickHost)
    (hRest : Resting W.env S.disk) :
    Grown W S (S.adjudicated W host) := by
  have hJudges := Grown.foldl
    (f := Watching.judge W host
      (Watching.snapshot host (S.scan W host).1))
    (S := S.seen W host)
    (fun _ c hHere => (judge_touches c).grown hHere) hRest
    (S.scan W host).1
  have hTells := Grown.foldl (f := Watching.tell W host)
    (S := S.judged W host)
    (fun _ t hHere => (tell_touches t).grown hHere)
    hJudges.resting (S.scan W host).2
  exact ⟨hTells.resting,
    List.Subset.trans hJudges.logged hTells.logged,
    hTells.source.trans hJudges.source⟩

theorem retried_grown
    (host : TickHost)
    (hRest : Resting W.env S.disk) :
    Grown W S (S.retried W host) :=
  Grown.foldl
    (fun _ i hHere => (retry_touches i).grown hHere) hRest _

/- A tick leaves a run at rest. -/
theorem tick_grown
    (host : TickHost)
    (hRest : Resting W.env S.disk) :
    Grown W S (S.tick W host) := by
  unfold Watching.tick
  split
  · exact .refl hRest
  split
  · exact .refl hRest
  · have hFirst := adjudicated_grown host hRest
    exact hFirst.trans (retried_grown host hFirst.resting)

end Nodes

end Taskfleet
