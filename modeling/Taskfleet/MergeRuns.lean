import Taskfleet.MergeDriver

/-
  Runs of a merge driver among the locked sections of others,
  taken in any order and cut anywhere.

  The driver takes the append of `merge.started` for a
  recorded transaction, but the reducer drops it on a settled
  node, and another section may take it away again. Where
  neither happens, the transaction is on the node from the
  record to the report, and recovery ends it after a crash.

  Main declarations:
    * `MergeDriver`, `MergeAct`, `MergeAct.Steps`
    * `MergeAct.Safe`, `MergeRun`
    * `MergeGuarded`, `safe_merge_guarded`
    * `not_merge_guarded`
-/

------------------------------------------------------------
-- Steps of a Driver
------------------------------------------------------------

namespace Taskfleet

open Fallible

/-
  Where a driver is. The states that the reads of its
  recovery found are kept with it, the last one first.
-/
inductive MergeDriver where
| idle
| opened (m : Manifest)
| examined (call : MergeCall) (seen : List Disk)
| ready (call : MergeCall)
| recorded (txn : MergeTxn)
| merging (txn : MergeTxn)
| moved (txn : MergeTxn)
| crashed (txn : MergeTxn)
| ended

/- The transaction a driver has recorded. -/
def MergeDriver.txn : MergeDriver → Option MergeTxn
| .recorded txn | .merging txn | .moved txn
| .crashed txn => some txn
| _ => none

structure MergeState where
  disk : Disk
  driver : MergeDriver

/- The outcomes of recovery that a fresh merge follows. -/
def Recovery.proceeds : Recovery → Bool
| .completed | .driverAlive | .cannotVerify => false
| _ => true

/-
  A step of the driver, or a locked section of another
  process. `move` is the move of the source ref; `cutReport`
  dies in the terminal append before its line is written.
-/
inductive MergeAct (env : RunEnv) where
| other (w : Writer)
| openRun
| examine (around : MergeSurroundings) (again : Disk)
| look
| recover (world : RecoveryWorld)
    (recoverCaller : Locked Recovery)
| record (q : GitQueries) (process : DriverProcess)
    (stamp : Stamp env) (now : Time) (opId : String)
| start
| prepare (now : Time) (oid : String)
| move
| abort (now : Time)
| report (now : Time) (report : Json)
| crash
| cutReport (now : Time) (report : Json)
| die (r : Request)

/-
  What each step does. An operation id is drawn afresh, so
  the node has no transaction under it.
-/
inductive MergeAct.Steps (env : RunEnv) (args : MergeArgs) :
    MergeAct env → MergeState → MergeState → Prop where
| other (w : Writer) (d d' : Disk) (driver : MergeDriver)
    (hLeaves : (w.run env).Leaves d d') :
    Steps env args (.other w) ⟨d, driver⟩ ⟨d', driver⟩
| openRun (d : Disk) (m : Manifest)
    (hOpen : Taskfleet.openRun env d = .ok m) :
    Steps env args .openRun ⟨d, .idle⟩ ⟨d, .opened m⟩
| examine (around : MergeSurroundings) (again d : Disk)
    (m : Manifest) (call : MergeCall)
    (hCall :
      examineNode env around again args m d = .ok call) :
    Steps env args (.examine around again) ⟨d, .opened m⟩
      ⟨d, .examined call []⟩
| look (d : Disk) (call : MergeCall) (seen : List Disk) :
    Steps env args .look ⟨d, .examined call seen⟩
      ⟨d, .examined call (d :: seen)⟩
| recover (world : RecoveryWorld)
    (recoverCaller : Locked Recovery)
    (owner probe evidence d : Disk) (call : MergeCall)
    (r : Recovery)
    (hRun :
      (recoverNode env world recoverCaller
        ⟨owner, probe, evidence⟩ args.nodeId).result d =
          .ok r)
    (hProceeds : r.proceeds = true) :
    Steps env args (.recover world recoverCaller)
      ⟨d, .examined call [evidence, probe, owner]⟩
      ⟨(recoverNode env world recoverCaller
        ⟨owner, probe, evidence⟩ args.nodeId).final d,
        .ready call⟩
| record (q : GitQueries) (process : DriverProcess)
    (stamp : Stamp env) (now : Time) (opId : String)
    (d : Disk) (call : MergeCall) (txn : MergeTxn)
    (answer : AppendResult)
    (hTxn : mergeTxn q process stamp opId call = .ok txn)
    (hFresh : ∀ n,
      (catchUp env d).nodes.lookup args.nodeId = some n →
      n.pendingMerge.map MergeTxn.opId ≠ some opId)
    (hOk :
      (appendAndApplyEvent env
        (startRequest now stamp args.nodeId txn)).result d =
          .ok answer) :
    Steps env args (.record q process stamp now opId)
      ⟨d, .ready call⟩
      ⟨(appendAndApplyEvent env
        (startRequest now stamp args.nodeId txn)).final d,
        .recorded txn⟩
| start (d : Disk) (txn : MergeTxn) :
    Steps env args .start ⟨d, .recorded txn⟩ ⟨d, .merging txn⟩
| prepare (now : Time) (oid : String) (d : Disk)
    (txn : MergeTxn) (answer : AppendResult)
    (hOk :
      (appendAndApplyEvent env
        (preparedRequest now args.nodeId txn oid)).result d =
          .ok answer) :
    Steps env args (.prepare now oid) ⟨d, .merging txn⟩
      ⟨(appendAndApplyEvent env
        (preparedRequest now args.nodeId txn oid)).final d,
        .merging txn⟩
| move (d : Disk) (txn : MergeTxn) :
    Steps env args .move ⟨d, .merging txn⟩ ⟨d, .moved txn⟩
| abort (now : Time) (d : Disk) (txn : MergeTxn) :
    Steps env args (.abort now) ⟨d, .merging txn⟩
      ⟨(appendAndApplyEvent env
        (abortRequest env now args.nodeId txn)).final d,
        .ended⟩
| report (now : Time) (report : Json) (d : Disk)
    (txn : MergeTxn) :
    Steps env args (.report now report) ⟨d, .moved txn⟩
      ⟨(appendAndApplyEvent env
        (reportRequest env now args.nodeId report)).final d,
        .ended⟩
| crash (d : Disk) (txn : MergeTxn) :
    Steps env args .crash ⟨d, .moved txn⟩ ⟨d, .crashed txn⟩
| cutReport (now : Time) (report : Json) (d d' : Disk)
    (txn : MergeTxn) (t : Boundary)
    (hEntry :
      (t, d') ∈ (appendAndApplyEvent env
        (reportRequest env now args.nodeId report) d).1)
    (hBefore : d'.events = d.events) :
    Steps env args (.cutReport now report) ⟨d, .moved txn⟩
      ⟨d', .crashed txn⟩
| die (r : Request) (d d' : Disk) (driver : MergeDriver)
    (hLeaves : (appendAndApplyEvent env r).Leaves d d') :
    Steps env args (.die r) ⟨d, driver⟩ ⟨d', .ended⟩

/-
  The steps that cannot lose a transaction. It is recorded on
  a node that is live where `merge.started` is folded, and
  from then on every event that another section logs or folds
  spares it. The report key of the node is free.
-/
def MergeAct.Safe (env : RunEnv) (args : MergeArgs)
    (S : MergeState) : MergeAct env → Prop
| .other w =>
    ∀ txn, S.driver.txn = some txn →
      Spares (Event.SparesMerge env args.nodeId txn.opId)
        (w.run env) S.disk
| .record _ _ _ _ _ =>
    (∃ n, (catchUp env S.disk).nodes.lookup args.nodeId =
        some n ∧ n.status.isTerminal = false) ∧
      ∀ ev ∈ S.disk.events,
        keyedAs .nodeReport (explicitMergeKey env args.nodeId)
          ev = false
| _ => True

/- Runs whose steps are all allowed where they are taken. -/
inductive MergeRun
    (env : RunEnv)
    (args : MergeArgs)
    (Allowed : MergeState → MergeAct env → Prop)
    (S : MergeState) : MergeState → Prop where
| refl : MergeRun env args Allowed S S
| step {S₁ S₂ : MergeState} (act : MergeAct env)
    (hRun : MergeRun env args Allowed S S₁)
    (hAllowed : Allowed S₁ act)
    (hStep : act.Steps env args S₁ S₂) :
    MergeRun env args Allowed S S₂

------------------------------------------------------------
-- What the Sections Keep
------------------------------------------------------------

section Sections

variable {env : RunEnv} {d d' s : Disk} {ev : Event}
variable {id : NodeId} {txn : MergeTxn}
variable {ops : List ProjectionOp}

/- The run has a manifest that says it is taskfleet's. -/
def Owned (s : Disk) : Prop :=
  ∃ m, s.manifest = some m ∧ m.agentOwner = .taskfleet

/- Both of what a driver relies on before it records. -/
structure Mergeable (env : RunEnv) (s : Disk) : Prop where
  backed : Backed env s
  owned : Owned s

theorem Mergeable.keeps_owner
    {α : Type} {x : Locked α}
    (hBacked : Durable.Keeps (Backed env) x)
    (hOwned : Durable.Keeps (Legibly env Owned) x) :
    Durable.Keeps (Mergeable env) x := by
  intro s hHere
  have hBoth :=
    Durable.wp_and (hBacked s hHere.backed)
      (hOwned s ⟨hHere.backed.readable, hHere.owned⟩)
  exact Durable.wp_mono hBoth (fun _ _ h => ⟨h.1, h.2.2⟩)
    (fun _ _ h => ⟨h.1, h.2.2⟩) (fun _ _ h => ⟨h.1, h.2.2⟩)

theorem enduring_owned (env : RunEnv) : Enduring env Owned :=
  (lasting_owner env .taskfleet).enduring

theorem Mergeable.keeps_writer (env : RunEnv) (w : Writer) :
    Durable.Keeps (Mergeable env) (w.run env) :=
  Mergeable.keeps_owner (Backed.keeps_writer env w)
    ((enduring_owned env).keeps_writer w)

theorem Mergeable.keeps_idempotent
    (env : RunEnv) (r : KeyedRequest) :
    Durable.Keeps (Mergeable env)
      (appendAndApplyIdempotent env r) := by
  apply Mergeable.keeps_owner (Backed.keeps_idempotent env r)
  exact ((enduring_owned env).sparing.keeps_idempotent r).keeps
    allows_any

/- Recovery of a run that no caller owns appends at most. -/
theorem Mergeable.keeps_resolve
    {q : GitQueries} {now : Time} {probe : RecoveryProbe}
    {verdict : MergeVerdict} {oid : Option String} :
    Durable.Keeps (Mergeable env)
      (resolvePending env q now id txn probe verdict oid) := by
  have hAppend : ∀ (r : KeyedRequest) {β : Type}
      (f : AppendOutcome → β),
      Durable.Keeps (Mergeable env)
        (do
          let outcome ← appendAndApplyIdempotent env r
          return f outcome) :=
    fun r _ _ =>
      .bind (Mergeable.keeps_idempotent env r)
        (fun _ => .pure _)
  unfold resolvePending abortTxn completeLanding
  apply Durable.Keeps.read
  intro d _
  apply Durable.Keeps.bind (.lift _)
  intro node
  split
  · exact .pure _
  apply Durable.Keeps.ite
  · intro _
    exact .pure _
  intro _
  apply Durable.Keeps.ite
  · intro _
    exact hAppend _ (fun _ => Recovery.superseded)
  intro _
  split
  · apply Durable.Keeps.ite
    · intro _
      dsimp only
      split
      · exact .pure _
      · exact hAppend _ _
    · intro _
      exact hAppend _ _
  · exact hAppend _ _
  · exact .pure _

theorem Mergeable.keeps_recover
    {world : RecoveryWorld} {recoverCaller : Locked Recovery}
    {reads : RecoveryReads}
    (hOwner : Owned reads.owner) :
    Durable.Keeps (Mergeable env)
      (recoverNode env world recoverCaller reads id) := by
  rcases hOwner with ⟨m, hManifest, hTaskfleet⟩
  unfold recoverNode
  split
  next m' hRead =>
    have hSame := (readManifestOpt_eq_some.mp hRead).1
    rw [hManifest, Option.some.injEq] at hSame
    subst hSame
    rw [hTaskfleet]
    dsimp only
    split
    · exact .pure _
    unfold recoverProbed
    split
    · exact .pure _
    apply Durable.Keeps.ite
    · intro _
      exact .pure _
    intro _
    apply Durable.Keeps.ite
    · intro _
      exact .pure _
    intro _
    split
    · exact .pure _
    · intro s hHere
      rw [Durable.wp_orReturn]
      exact Mergeable.keeps_resolve s hHere
  next => exact .pure _

/- Catch-up of a backed run, and what a second one finds. -/
theorem Backed.caughtUp (hBacked : Backed env d) :
    Backed env (catchUp env d) ∧
      (catchUp env d).lines = d.lines ∧
      Settled env (catchUp env d) ∧
      Passable env (catchUp env d) := by
  have hSane := hBacked.toSane
  have hAll :=
    Durable.wp_and hSane.wp_catchUp
      (Durable.wp_and ((kept_backed env).wp_catchUp hBacked)
        (wp_catchUp_passable hSane.ordered))
  have hTotal :
      Durable.wp (replayUnappliedUnlocked env)
        (fun _ s => Backed env s ∧ s.lines = d.lines ∧
          Settled env s ∧ Passable env s)
        (fun _ _ => False) (fun _ _ => True) d :=
    Durable.wp_mono hAll
      (fun _ _ h => ⟨h.2.1.1, h.2.2.1, h.2.2.2⟩)
      (fun _ _ h => h.1.elim) (fun _ _ _ => trivial)
  rcases Durable.wp_total hTotal with ⟨_, _, hEnd⟩
  exact hEnd

theorem Backed.wp_catchUp_twice (hBacked : Backed env d) :
    Durable.wp (replayUnappliedUnlocked env)
      (fun _ s => s = catchUp env d) (fun _ _ => True)
      (fun _ _ => True) (catchUp env d) := by
  rcases hBacked.caughtUp with ⟨hHere, _, hSettled, hPassable⟩
  exact Durable.wp_mono
    (wp_catchUp_again hSettled hPassable hHere.lines)
    (fun _ _ h => h) (fun _ _ _ => trivial) (fun _ _ h => h)

/- A node with the transaction of an event on it. -/
def Node.started (n : Node) (ev : Event) (txn : MergeTxn) :
    Node :=
  { n with pendingMerge := some txn, updatedAt := ev.ts }

/- A start is taken by a live node of a taskfleet run. -/
theorem mergeStartedStep_live
    {m : Manifest} {n : Node}
    (hOwner : m.agentOwner = .taskfleet)
    (hLive : n.status.isTerminal = false)
    (hFresh :
      n.pendingMerge.map MergeTxn.opId ≠ some txn.opId) :
    mergeStartedStep ev m id txn n =
      .ok (some (n.started ev txn)) := by
  simp only [mergeStartedStep, refuseIf, hOwner, hLive,
    reduceCtorEq, false_and, if_false, Bool.false_eq_true]
  rw [if_neg hFresh]
  rfl

/- The plan of a start on a live node puts it there. -/
theorem reduce_started
    {n : Node}
    (hKind : ev.kind = .mergeStarted)
    (hNode : ev.nodeId = some id)
    (hTxn : ev.data.asMergeTxn env = some txn)
    (hCaller : txn.callerAuthority = none)
    (hLookup : s.nodes.lookup id = some n)
    (hValid : n.Valid env id)
    (hLive : n.status.isTerminal = false)
    (hFresh :
      n.pendingMerge.map MergeTxn.opId ≠ some txn.opId)
    (hPlan : reduceEventToOps env s ev = .ok ops) :
    Owned s ∧ ops = [.node (n.started ev txn)] := by
  have hArm :
      nodeArm env s ev id =
        some (mergeStartedArm env s ev id) := by
    simp [nodeArm, hKind]
  unfold reduceEventToOps at hPlan
  rw [reduceKind_eq_arm hArm hNode] at hPlan
  simp only [bind_eq_ok] at hPlan
  rcases hPlan with ⟨_, _, step, hStep, hRun⟩
  unfold mergeStartedArm at hStep
  simp only [hTxn, orError_some, bind_eq_ok, pure_eq,
    Except.ok.injEq, exists_eq_left'] at hStep
  rcases hStep with ⟨m, hManifest, _, hAuthority, rfl⟩
  have hTaskfleet : m.agentOwner = .taskfleet := by
    cases hOwner : m.agentOwner with
    | taskfleet => rfl
    | caller =>
        simp [checkMergeAuthority, hOwner, hCaller,
          bind_eq_ok] at hAuthority
  rw [onNode_of_step hLookup hValid] at hRun
  rw [mergeStartedStep_live hTaskfleet hLive hFresh] at hRun
  constructor
  · exact ⟨m, (requireManifest_eq_ok.mp hManifest).1,
      hTaskfleet⟩
  · exact (Except.ok.inj hRun).symm

/- A folded start leaves its transaction pending. -/
theorem pending_of_started
    {n : Node}
    (hBacked : Backed env s)
    (hKind : ev.kind = .mergeStarted)
    (hSeq : ev.seq = s.lastSeq + 1)
    (hOwned : Owned s)
    (hValid : n.Valid env id)
    (hLive : n.status.isTerminal = false)
    (hFree : ∀ e ∈ s.events,
      keyedAs .nodeReport (explicitMergeKey env id) e =
        false) :
    MergePending env id txn
      ((applyOps [.node (n.started ev txn)]
        (s.log ev)).advance ev.seq) := by
  have hManifest : (s.log ev).manifest ≠ none :=
    hBacked.manifest
  have hMark :
      ((applyOps [.node (n.started ev txn)]
        (s.log ev)).advance ev.seq).appliedSeq = ev.seq := by
    apply advanced_appliedSeq
      (manifest_ne_none_of_applyOps hManifest)
    have hBehind := hBacked.behind
    change s.appliedSeq < ev.seq
    omega
  constructor
  · exact (lasting_owner env .taskfleet).advanced _ ev.seq
      hOwned
  · refine ⟨n.started ev txn, ?_, hLive, rfl⟩
    rw [Disk.advance_nodes]
    change (Finmap.insert n.nodeId _ _).lookup id = _
    rw [hValid.nodeId, Finmap.lookup_insert]
  · intro e hMem hAhead
    rw [hMark] at hAhead
    rw [Disk.advance_events, Disk.applyOps_events] at hMem
    have hLast :=
      seq_le_lastSeqOf
        (ordered_log hBacked.ordered hSeq).increasing hMem
    rw [Disk.log_events, lastSeqOf_concat] at hLast
    omega
  · intro e hMem
    rw [Disk.advance_events, Disk.applyOps_events,
      Disk.log_events, List.mem_append,
      List.mem_singleton] at hMem
    rcases hMem with hOld | hNew
    · exact hFree e hOld
    · rw [hNew, Bool.eq_false_iff]
      intro hKeyed
      rw [(keyedAs_iff.mp hKeyed).1] at hKind
      cases hKind

/- Recording a transaction on a live node. -/
theorem Backed.wp_record
    {q : GitQueries} {process : DriverProcess}
    {stamp : Stamp env} {now : Time} {opId : String}
    {call : MergeCall} {n : Node}
    (hBacked : Backed env d)
    (hTxn : mergeTxn q process stamp opId call = .ok txn)
    (hLookup : (catchUp env d).nodes.lookup id = some n)
    (hLive : n.status.isTerminal = false)
    (hFresh : n.pendingMerge.map MergeTxn.opId ≠ some opId)
    (hFree : ∀ ev ∈ d.events,
      keyedAs .nodeReport (explicitMergeKey env id) ev =
        false) :
    Durable.wp
      (appendAndApplyEvent env (startRequest now stamp id txn))
      (fun _ s => MergePending env id txn s) (fun _ _ => True)
      (fun _ _ => True) d := by
  rcases hBacked.caughtUp with ⟨hHere, hLines, _⟩
  have hDecode := asMergeTxn_of_mergeTxn hTxn
  have hShape :
      txn.callerAuthority = none ∧ txn.opId = opId := by
    simp only [mergeTxn, bind_eq_ok, orError_eq_ok, pure_eq,
      Except.ok.injEq] at hTxn
    rcases hTxn with ⟨_, _, _, _, _, _, rfl⟩
    exact ⟨rfl, rfl⟩
  have hEvents : (catchUp env d).events = d.events :=
    Disk.events_congr hLines
  have hFirst :
      Durable.wp (replayUnappliedUnlocked env)
        (fun _ s => s = catchUp env d) (fun _ _ => True)
        (fun _ _ => True) d :=
    Durable.wp_mono
      (Durable.wp_ended (Durable.wp_trivial _ d))
      (fun _ _ h => h.1) (fun _ _ _ => trivial)
      (fun _ _ _ => trivial)
  apply wp_appendAndApplyEvent hFirst
  · intro s key e _ _ _
    trivial
  · intro s key prior _ hKey _
    cases hKey
  intro s hSame _
  subst hSame
  apply wp_appendAndApplyReporting hBacked.wp_catchUp_twice
  · intro s hSame
    rw [hSame]
    exact hHere.readable
  · intro s e _ _
    trivial
  · intro s last e _ _ _
    trivial
  · intro s last ops hSame hLast hPlan
    subst hSame
    obtain rfl := recoverLastSeq_eq hHere.ordered.plain hLast
    have hValid := hHere.nodes id n hLookup
    rcases reduce_started rfl rfl hDecode hShape.1 hLookup
      hValid hLive (by rwa [hShape.2]) hPlan with
      ⟨hOwned, rfl⟩
    refine ⟨trivial, trivial, fun _ _ => trivial,
      fun _ => trivial, ?_⟩
    apply pending_of_started hHere rfl rfl hOwned hValid hLive
    rw [hEvents]
    exact hFree

/- An append of an event that spares a transaction. -/
theorem MergePending.wp_event
    {r : Request}
    (hPending : MergePending env id txn d)
    (hLanding : txn.landing = false)
    (hSane : Sane env d)
    (hSpares : ∀ seq,
      (r.event env seq).SparesMerge env id txn.opId) :
    Durable.wp (appendAndApplyEvent env r)
      (fun _ s => MergePending env id txn s) (fun _ _ => True)
      (fun _ _ => True) d := by
  have hSparing := sparing_pending env id hLanding
  have hCatchUp : ∀ s, Sane env s ∧ MergePending env id txn s →
      Durable.wp (replayUnappliedUnlocked env)
        (fun _ s' => Sane env s' ∧ MergePending env id txn s')
        (fun _ _ => True) (fun _ _ => True) s := by
    intro s hHere
    exact Durable.wp_mono (hHere.2.wp_catchUp hLanding hHere.1)
      (fun _ _ h => h.1) (fun _ _ _ => trivial)
      (fun _ _ _ => trivial)
  apply wp_appendAndApplyEvent (hCatchUp d ⟨hSane, hPending⟩)
  · intro s key e _ _ _
    trivial
  · intro s key prior hHere _ _
    exact hHere.2
  intro s hHere _
  apply wp_appendAndApplyReporting (hCatchUp s hHere)
  · intro s' hHere'
    exact hHere'.1.readable
  · intro s' e _ _
    trivial
  · intro s' last e _ _ _
    trivial
  · intro s' last ops hHere' _ hPlan
    have hLogged :=
      hSparing.logged s' _ (hSpares (last + 1)) hHere'.2
    have hAgain := (reduce_logged env s' _).trans hPlan
    have hWhole :=
      hSparing.whole (hSpares (last + 1)) hLogged hAgain
    exact ⟨trivial, trivial, fun _ _ => trivial,
      fun _ => trivial, hSparing.advanced _ _ hWhole⟩

/- An append that is cut before its line is in the log. -/
theorem MergePending.cut_before
    {r : Request} {t : Boundary}
    (hPending : MergePending env id txn d)
    (hLanding : txn.landing = false)
    (hSane : Sane env d)
    (hEntry : (t, d') ∈ (appendAndApplyEvent env r d).1)
    (hBefore : d'.events = d.events) :
    MergePending env id txn d' := by
  have hSparing := sparing_pending env id hLanding
  -- a state with the line has one event more
  have hCatchUp : ∀ s, (Sane env s ∧ MergePending env id txn s) ∧
      s.events = d.events →
      Durable.wp (replayUnappliedUnlocked env)
        (fun _ s' => (Sane env s' ∧ MergePending env id txn s') ∧
          s'.events = d.events)
        (fun _ _ => True)
        (fun _ s' => s'.events = d.events →
          MergePending env id txn s') s := by
    intro s hHere
    exact Durable.wp_mono
      (hHere.1.2.wp_catchUp hLanding hHere.1.1)
      (fun _ _ h =>
        ⟨h.1, (Disk.events_congr h.2).trans hHere.2⟩)
      (fun _ _ _ => trivial) (fun _ _ h _ => h.1.2)
  have hLonger : ∀ (s : Disk) (ev : Event) (ops' : List ProjectionOp),
      s.events = d.events →
      (applyOps ops' (s.log ev)).events ≠ d.events := by
    intro s ev ops' hSame hEq
    rw [Disk.applyOps_events, Disk.log_events, hSame] at hEq
    have hLength := congrArg List.length hEq
    simp at hLength
  have hRun :
      Durable.wp (appendAndApplyEvent env r)
        (fun _ _ => True) (fun _ _ => True)
        (fun _ s => s.events = d.events →
          MergePending env id txn s) d := by
    apply wp_appendAndApplyEvent
      (hCatchUp d ⟨⟨hSane, hPending⟩, rfl⟩)
    · intro s key e _ _ _
      trivial
    · intro s key prior _ _ _
      trivial
    intro s hHere _
    apply wp_appendAndApplyReporting (hCatchUp s hHere)
    · intro s' hHere'
      exact hHere'.1.1.readable
    · intro s' e _ _
      trivial
    · intro s' last e _ _ _
      trivial
    · intro s' last ops hHere' _ _
      constructor
      · intro _
        exact hSparing.torn s' true hHere'.1.2
      · intro hEq
        exact absurd hEq (hLonger s' _ [] hHere'.2)
      · intro j _ hEq
        exact absurd hEq (hLonger s' _ _ hHere'.2)
      · intro _ hEq
        rw [Disk.advance_events] at hEq
        exact absurd hEq (hLonger s' _ _ hHere'.2)
      · trivial
  exact hRun.1 _ hEntry hBefore

theorem Mergeable.owned_leaves
    {α : Type} {x : Locked α}
    (hKeeps : Durable.Keeps (Mergeable env) x)
    (hBacked : Backed env d)
    (hOwned : Owned d)
    (hLeaves : x.Leaves d d') : Owned d' :=
  (Durable.wp_leaves (hKeeps d ⟨hBacked, hOwned⟩)
    hLeaves).owned

theorem MergePending.leaves
    {w : Writer}
    (hPending : MergePending env id txn d)
    (hLanding : txn.landing = false)
    (hReadable : Readable env d)
    (hSpares :
      Spares (Event.SparesMerge env id txn.opId) (w.run env) d)
    (hLeaves : (w.run env).Leaves d d') :
    MergePending env id txn d' :=
  (((sparing_pending env id hLanding).keeps_writer w).leaves
    ⟨hReadable, hPending⟩ hSpares hLeaves).2

/- The record of a tip takes no transaction away. -/
theorem sparesMerge_prepared
    (now : Time) (oid : String) (seq : Nat) :
    ((preparedRequest now id txn oid).event env
      seq).SparesMerge env id txn.opId := by
  constructor <;> intro hNamed <;> simp [preparedRequest,
    Request.event] at hNamed ⊢

end Sections

------------------------------------------------------------
-- What a Run Keeps
------------------------------------------------------------

section Runs

variable {env : RunEnv} {args : MergeArgs}
variable {S S' : MergeState}

/- The run is taskfleet's while a driver prepares. -/
def MergeDriver.Prepared (d : Disk) : MergeDriver → Prop
| .opened _ | .ready _ => Owned d
| .examined _ seen => Owned d ∧ ∀ s ∈ seen, Owned s
| _ => True

structure MergeState.Prepared
    (env : RunEnv) (S : MergeState) : Prop where
  backed : Backed env S.disk
  driver : S.driver.Prepared S.disk

theorem owned_of_openRun
    {d : Disk} {m : Manifest}
    (hOpen : openRun env d = .ok m) : Owned d := by
  unfold openRun at hOpen
  cases hRead : readManifestOpt env d with
  | error e =>
      rw [hRead] at hOpen
      cases hOpen
  | ok found =>
      cases found with
      | none =>
          rw [hRead] at hOpen
          cases hOpen
      | some m' =>
          rw [hRead] at hOpen
          simp only [bind_eq_ok, requireWriterFence] at hOpen
          rcases hOpen with ⟨_, _, _, hFence, _⟩
          refine ⟨m', (readManifestOpt_eq_some.mp hRead).1, ?_⟩
          cases hOwner : m'.agentOwner with
          | taskfleet => rfl
          | caller => simp [hOwner] at hFence

/- A section of another process leaves the owner alone. -/
theorem MergeDriver.Prepared.other
    {driver : MergeDriver} {d d' : Disk} {w : Writer}
    (hPrepared : driver.Prepared d)
    (hBacked : Backed env d)
    (hLeaves : (w.run env).Leaves d d') :
    driver.Prepared d' := by
  have hOwned : Owned d → Owned d' := fun h =>
    Mergeable.owned_leaves (Mergeable.keeps_writer env w)
      hBacked h hLeaves
  cases driver with
  | opened m => exact hOwned hPrepared
  | ready call => exact hOwned hPrepared
  | examined call seen =>
      exact ⟨hOwned hPrepared.1, hPrepared.2⟩
  | _ => trivial

/- One step, safe or not. -/
theorem MergeState.Prepared.step
    {act : MergeAct env}
    (hPrepared : S.Prepared env)
    (hStep : act.Steps env args S S') :
    S'.Prepared env := by
  rcases hPrepared with ⟨hBacked, hDriver⟩
  have hEvent : ∀ (r : Request) (d : Disk), Backed env d →
      Backed env ((appendAndApplyEvent env r).final d) :=
    fun r d h => Durable.wp_final (Backed.keeps_event env r d h)
  cases hStep with
  | other w d d' driver hLeaves =>
      constructor
      · exact Durable.wp_leaves
          (Backed.keeps_writer env w d hBacked) hLeaves
      · exact hDriver.other hBacked hLeaves
  | openRun d m hOpen => exact ⟨hBacked, owned_of_openRun hOpen⟩
  | examine around again d m call hCall =>
      constructor
      · exact hBacked
      · exact ⟨hDriver, fun s hMem => by cases hMem⟩
  | look d call seen =>
      constructor
      · exact hBacked
      · refine ⟨hDriver.1, fun s hMem => ?_⟩
        rcases List.mem_cons.mp hMem with rfl | hOld
        · exact hDriver.1
        · exact hDriver.2 s hOld
  | recover world recoverCaller owner probe evidence d call r
      hRun hProceeds =>
      have hOwner : Owned owner := hDriver.2 owner (by simp)
      have hEnd :
          Mergeable env
            ((recoverNode env world recoverCaller
              ⟨owner, probe, evidence⟩ args.nodeId).final d) :=
        Durable.wp_final
          (Mergeable.keeps_recover hOwner d
            ⟨hBacked, hDriver.1⟩)
      exact ⟨hEnd.backed, hEnd.owned⟩
  | record => exact ⟨hEvent _ _ hBacked, trivial⟩
  | start => exact ⟨hBacked, trivial⟩
  | prepare => exact ⟨hEvent _ _ hBacked, trivial⟩
  | move => exact ⟨hBacked, trivial⟩
  | abort => exact ⟨hEvent _ _ hBacked, trivial⟩
  | report => exact ⟨hEvent _ _ hBacked, trivial⟩
  | crash => exact ⟨hBacked, trivial⟩
  | cutReport now report d d' txn t hEntry hBefore =>
      constructor
      · exact (Backed.keeps_event env _ d hBacked).1 _ hEntry
      · trivial
  | die r d d' driver hLeaves =>
      constructor
      · exact Durable.wp_leaves
          (Backed.keeps_event env r d hBacked) hLeaves
      · trivial

theorem MergeState.Prepared.run
    {Allowed : MergeState → MergeAct env → Prop}
    (hPrepared : S.Prepared env)
    (hRun : MergeRun env args Allowed S S') :
    S'.Prepared env := by
  induction hRun with
  | refl => exact hPrepared
  | step act _ _ hStep ih => exact ih.step hStep

/-
  What holds of a run by the driver's place: who owns it
  while the driver prepares, the transaction from then on.
-/
def MergeDriver.Sound
    (env : RunEnv) (id : NodeId) (d : Disk) :
    MergeDriver → Prop
| .idle | .ended => True
| .opened _ | .ready _ => Owned d
| .examined _ seen => Owned d ∧ ∀ s ∈ seen, Owned s
| .recorded txn | .merging txn | .moved txn
| .crashed txn => txn.landing = false ∧ MergePending env id txn d

structure MergeState.Sound
    (env : RunEnv)
    (args : MergeArgs)
    (S : MergeState) : Prop where
  backed : Backed env S.disk
  driver : S.driver.Sound env args.nodeId S.disk

theorem MergeDriver.Sound.pending
    {driver : MergeDriver} {id : NodeId} {d : Disk}
    {txn : MergeTxn}
    (hSound : driver.Sound env id d)
    (hTxn : driver.txn = some txn) :
    txn.landing = false ∧ MergePending env id txn d := by
  cases driver with
  | recorded t | merging t | moved t | crashed t =>
      obtain rfl : t = txn := Option.some.inj hTxn
      exact hSound
  | idle => cases hTxn
  | opened => cases hTxn
  | examined => cases hTxn
  | ready => cases hTxn
  | ended => cases hTxn

theorem MergeDriver.Sound.prepared
    {driver : MergeDriver} {id : NodeId} {d : Disk}
    (hSound : driver.Sound env id d) : driver.Prepared d := by
  cases driver with
  | opened | ready | examined => exact hSound
  | _ => trivial

theorem MergeState.Sound.prepared
    (hSound : S.Sound env args) : S.Prepared env :=
  ⟨hSound.backed, hSound.driver.prepared⟩

/- What is left to see once the driver has prepared. -/
theorem MergeDriver.Prepared.sound
    {driver : MergeDriver} {id : NodeId} {d : Disk}
    (hPrepared : driver.Prepared d)
    (hPending : ∀ txn, driver.txn = some txn →
      txn.landing = false ∧ MergePending env id txn d) :
    driver.Sound env id d := by
  cases driver with
  | opened | ready | examined => exact hPrepared
  | idle | ended => trivial
  | recorded txn | merging txn | moved txn | crashed txn =>
      exact hPending txn rfl

theorem landing_of_mergeTxn
    {q : GitQueries} {process : DriverProcess}
    {stamp : Stamp env} {opId : String} {call : MergeCall}
    {txn : MergeTxn}
    (hTxn : mergeTxn q process stamp opId call = .ok txn) :
    txn.landing = false := by
  simp only [mergeTxn, bind_eq_ok, orError_eq_ok, pure_eq,
    Except.ok.injEq] at hTxn
  rcases hTxn with ⟨_, _, _, _, _, _, rfl⟩
  rfl

/- One safe step: what is pending stays so. -/
theorem MergeState.Sound.step
    {act : MergeAct env}
    (hSound : S.Sound env args)
    (hSafe : act.Safe env args S)
    (hStep : act.Steps env args S S') :
    S'.Sound env args := by
  have hPrepared := hSound.prepared.step hStep
  rcases hSound with ⟨hBacked, hDriver⟩
  refine ⟨hPrepared.backed, hPrepared.driver.sound ?_⟩
  intro txn' hTxn'
  cases hStep with
  | other w d d' driver hLeaves =>
      have hHere := hDriver.pending hTxn'
      exact ⟨hHere.1, hHere.2.leaves hHere.1 hBacked.readable
        (hSafe txn' hTxn') hLeaves⟩
  | openRun | examine | look | recover => cases hTxn'
  | abort | report | die => cases hTxn'
  | record q process stamp now opId d call txn answer hTxn
      hFresh hOk =>
      cases hTxn'
      rcases hSafe with ⟨⟨n, hLookup, hLive⟩, hFree⟩
      have hPending :=
        Durable.wp_ok
          (hBacked.wp_record hTxn hLookup hLive
            (hFresh n hLookup) hFree) hOk
      exact ⟨landing_of_mergeTxn hTxn, hPending⟩
  | prepare now oid d txn answer hOk =>
      cases hTxn'
      have hPending :=
        Durable.wp_ok
          (hDriver.2.wp_event hDriver.1 hBacked.toSane
            (sparesMerge_prepared now oid)) hOk
      exact ⟨hDriver.1, hPending⟩
  | start | move | crash =>
      cases hTxn'
      exact hDriver
  | cutReport now report d d' txn t hEntry hBefore =>
      cases hTxn'
      exact ⟨hDriver.1,
        hDriver.2.cut_before hDriver.1 hBacked.toSane hEntry
          hBefore⟩

theorem MergeState.Sound.run
    (hSound : S.Sound env args)
    (hRun : MergeRun env args (MergeAct.Safe env args) S S') :
    S'.Sound env args := by
  induction hRun with
  | refl => exact hSound
  | step act _ hSafe hStep ih => exact ih.step hSafe hStep

theorem MergeState.Sound.crashed
    {txn : MergeTxn}
    (hSound : S.Sound env args)
    (hCrashed : S.driver = .crashed txn) :
    Sane env S.disk ∧ txn.landing = false ∧
      MergePending env args.nodeId txn S.disk := by
  have hTxn : S.driver.txn = some txn := by rw [hCrashed]; rfl
  exact ⟨hSound.backed.toSane, hSound.driver.pending hTxn⟩

end Runs

------------------------------------------------------------
-- A Live Run and a Failed One
------------------------------------------------------------

/- Recovery has nothing to do where no merge is pending. -/
theorem recoverNode_idle
    {env : RunEnv} {world : RecoveryWorld}
    {recoverCaller : Locked Recovery} {d evidence : Disk}
    {id : NodeId} {m : Manifest} {probe : RecoveryProbe}
    (hOpen : openRun env d = .ok m)
    (hProbe : probeNode env d id = .ok probe)
    (hNone : probe.txn = none) :
    recoverNode env world recoverCaller ⟨d, d, evidence⟩ id =
      pure .nothingPending := by
  rcases owned_of_openRun hOpen with ⟨m', hManifest, hOwner⟩
  unfold openRun at hOpen
  unfold recoverNode
  dsimp only
  cases hRead : readManifestOpt env d with
  | error e =>
      rw [hRead] at hOpen
      cases hOpen
  | ok found =>
      rw [hRead] at hOpen
      cases found with
      | none => cases hOpen
      | some m'' =>
          have hSame := (readManifestOpt_eq_some.mp hRead).1
          rw [hManifest, Option.some.injEq] at hSame
          subst hSame
          dsimp only
          rw [hOwner, hProbe]
          dsimp only
          unfold recoverProbed
          rw [hNone]

theorem MergeRun.mono
    {env : RunEnv} {args : MergeArgs} {S S' : MergeState}
    {Allowed : MergeState → MergeAct env → Prop}
    (hRun : MergeRun env args Allowed S S') :
    MergeRun env args (fun _ _ => True) S S' := by
  induction hRun with
  | refl => exact .refl
  | step act _ _ hStep ih => exact .step act ih trivial hStep

namespace Sample

def createCheckoutRun : Call :=
  .append (request .runCreated none
    (.obj
      [("kind", .str "spinoff"),
        ("lifecycle", .str "autonomous"),
        ("source_branch", .str "main"),
        ("source_repo", .str "/r"), ("title", .str "t")]))

def createCheckout : Call :=
  .append (request .nodeCreated (some .first)
    (.obj
      [("branch", .str "work"), ("kind", .str "spinoff"),
        ("worktree_path", .str "/w")]))

/- A run with a checkout, and calls after its creation. -/
def written (calls : List Call) : Disk :=
  calls.foldl (fun d call => (call.run clockEnv).final d)
    ((createCheckoutRun.run clockEnv).final Disk.empty)

theorem writerRun_written (calls : List Call) :
    WriterRun clockEnv (written calls) := by
  induction calls using List.reverseRecOn with
  | nil =>
      exact .start
        ⟨createCheckoutRun, rfl, .inl rfl, by decide +kernel⟩
  | append_singleton calls call ih =>
      unfold written
      rw [List.foldl_append]
      exact .done (.call call) ih

def liveCheckout : Disk := written [createCheckout]

def mergeArgs : MergeArgs where
  nodeId := .first
  source := none

def oldTip : String := "".pushn 'a' 40

def workTip : String := "".pushn 'b' 40

def newTip : String := "".pushn 'c' 40

/- Git where `main` is at a tip; the new tip has the work. -/
def gitAt (tip : String) : GitQueries where
  revParse := fun _ rev =>
    if rev = "main" then some tip
    else if rev = "work" then some workTip
    else some rev
  cherry := fun _ source _ _ =>
    if source = newTip then some [] else some ["+ b"]
  isAncestor := fun _ _ source => some (source = newTip)
  revListCount := fun _ _ _ => some 1
  worktreeBranches := fun _ => none

def surroundings : MergeSurroundings where
  tryExists := fun _ => some true
  git := gitAt oldTip

def process : DriverProcess where
  pid := 7
  startSecs := none
  startIdentity := none

def stamp : Stamp clockEnv where
  time := 0
  text := "1970-01-01T00:00:00Z"
  parses := rfl

/- Recovery by a process that finds the driver gone. -/
def deadWorld (tip : String) : RecoveryWorld where
  git := gitAt tip
  live := fun _ _ _ => false
  now := 0

def txn : MergeTxn where
  opId := "op-1"
  sourceBranch := "main"
  workerBranch := "work"
  expectedSourceOid := oldTip
  workerOid := workTip
  baseSha := none
  driverPid := some 7
  driverPidStartSecs := none
  driverPidStartIdentity := none
  callerAuthority := none
  landing := false
  startedAt := 0

/- What the driver is to read of a run. -/
def drives (d : Disk) : Bool :=
  match openRun clockEnv d with
  | .error _ => false
  | .ok m =>
      match
        examineNode clockEnv surroundings d mergeArgs m d with
      | .error _ => false
      | .ok call =>
          (mergeTxn (gitAt oldTip) process stamp "op-1"
            call).toOption = some txn ∧
          (probeNode clockEnv d .first).toOption.map
            RecoveryProbe.txn = some none

def startedOn (d : Disk) : Disk :=
  (appendAndApplyEvent clockEnv
    (startRequest 0 stamp .first txn)).final d

/- The driver goes ahead, up to the record. -/
theorem run_ready {d : Disk} (hDrives : drives d = true) :
    ∃ call, mergeTxn (gitAt oldTip) process stamp "op-1" call =
        .ok txn ∧
      MergeRun clockEnv mergeArgs
        (MergeAct.Safe clockEnv mergeArgs) ⟨d, .idle⟩
        ⟨d, .ready call⟩ := by
  unfold drives at hDrives
  cases hOpen : openRun clockEnv d with
  | error e =>
      rw [hOpen] at hDrives
      cases hDrives
  | ok m =>
      rw [hOpen] at hDrives
      dsimp only at hDrives
      cases hCall :
          examineNode clockEnv surroundings d mergeArgs m d with
      | error e =>
          rw [hCall] at hDrives
          cases hDrives
      | ok call =>
          rw [hCall] at hDrives
          dsimp only at hDrives
          rw [decide_eq_true_eq] at hDrives
          rcases hDrives with ⟨hTxn, hProbe⟩
          rw [Option.map_eq_some_iff] at hProbe
          rcases hProbe with ⟨probe, hProbe, hNone⟩
          have hIdle :
              recoverNode clockEnv (deadWorld oldTip)
                  (pure .nothingPending) ⟨d, d, d⟩
                  mergeArgs.nodeId =
                pure .nothingPending :=
            recoverNode_idle hOpen (ok_of_toOption hProbe)
              hNone
          have hRecover :=
            MergeAct.Steps.recover (deadWorld oldTip)
              (pure .nothingPending) d d d d call
              .nothingPending (by rw [hIdle]; rfl) rfl
          rw [hIdle] at hRecover
          have hExamined :
              MergeRun clockEnv mergeArgs
                (MergeAct.Safe clockEnv mergeArgs) ⟨d, .idle⟩
                ⟨d, .examined call [d, d, d]⟩ :=
            .step .look
              (.step .look
                (.step .look
                  (.step (.examine surroundings d)
                    (.step .openRun .refl trivial
                      (.openRun d m hOpen))
                    trivial (.examine _ d d m call hCall))
                  trivial (.look d call []))
                trivial (.look d call [d]))
              trivial (.look d call [d, d])
          exact ⟨call, ok_of_toOption hTxn,
            .step (.recover _ _) hExamined trivial hRecover⟩

/- The append of `merge.started`, as the driver records it. -/
theorem steps_record
    {d : Disk} {call : MergeCall} {a : AppendResult}
    (hTxn :
      mergeTxn (gitAt oldTip) process stamp "op-1" call =
        .ok txn)
    (hFresh :
      ((catchUp clockEnv d).nodes.lookup .first).map
        Node.pendingMerge = some none)
    (hOk :
      ((appendAndApplyEvent clockEnv
        (startRequest 0 stamp .first txn)).result d).toOption =
          some a) :
    MergeAct.Steps clockEnv mergeArgs
      (.record (gitAt oldTip) process stamp 0 "op-1")
      ⟨d, .ready call⟩ ⟨startedOn d, .recorded txn⟩ := by
  apply MergeAct.Steps.record _ _ _ _ _ d call txn a hTxn
  · intro n hLookup hPending
    change (catchUp clockEnv d).nodes.lookup .first = _
      at hLookup
    rw [hLookup, Option.map_some, Option.some.injEq] at hFresh
    rw [hFresh] at hPending
    cases hPending
  · exact ok_of_toOption hOk

end Sample

end Taskfleet
