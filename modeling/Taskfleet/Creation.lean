import Taskfleet.MergeRecovery
import Taskfleet.Reservation

/-
  `run create`, by any number of processes over one home.

  A creator reserves its key, takes a dead creator's record
  over, builds its run in a staging directory, publishes it
  with one rename, and then writes the edge to the parent. It
  may fail or die at every step. Runs that a caller owns keep
  their record for good and are finished by any retry.

  Main declarations:
    * `CreateArgs`, `Phase`, `Creator`, `Home`
    * `appendChildSpawnedIfMissing`, `parentLink`
    * `CreatorStep`, `HomeStep`, `HomeRun`
-/

------------------------------------------------------------
-- Arguments
------------------------------------------------------------

namespace Taskfleet

open Fallible

/- What is fixed for a home. -/
structure HomeEnv where
  root : String
  parseRfc3339 : String → Option Time
  parseDateTime : String → Option Time

namespace HomeEnv

/- What is fixed for a run of the home. -/
def run (h : HomeEnv) (r : RunId) : RunEnv where
  runId := r
  parseRfc3339 := h.parseRfc3339
  parseDateTime := h.parseDateTime

def recordPath (h : HomeEnv) (file : String) : String :=
  h.root ++ "/idempotency/" ++ file

def leasePath (h : HomeEnv) (runId : String) : String :=
  h.root ++ "/idempotency/materializers/" ++ runId ++ ".lease"

end HomeEnv

def kindKebab : Kind → String
| .spinoff => "spinoff"
| .research => "research"
| .technicalDecision => "technical-decision"
| .fanOut => "fan-out"
| .unknown => "unknown"

def lifecycleKebab : Lifecycle → String
| .autonomous => "autonomous"
| .interactive => "interactive"

/- What a creation records besides the request itself. -/
structure RunDetails where
  materializationRepo : Option String
  managedTmuxSession : Option String
  tmuxRetention : Option Json
  notifyCmd : Option String
  resident : Option Json
  harness : String
  harnessSource : String
  agentSelection : Option Json
  task : Option String
  createdByRunId : Option RunId
  createdBySession : Option Json

/- The arguments of a creation, checked. -/
structure NativeArgs where
  sourceRepo : Option String
  sourceBranch : Option String
  idempotencyKey : Option String
  parent : Option (RunId × NodeId)
  kind : Kind
  lifecycle : Lifecycle
  title : String
  details : RunDetails

/- The arguments of a creation with `--agent-owner caller`. -/
structure CallerArgs where
  repo : String
  source : String
  key : String
  title : String
  task : String
  request : String

inductive CreateArgs where
| native (a : NativeArgs)
| caller (a : CallerArgs)

namespace CreateArgs

/- The file of the key, if there is a key. -/
def file : CreateArgs → Option String
| .native a =>
    a.idempotencyKey.map (keyHash a.sourceRepo a.sourceBranch)
| .caller a =>
    some (keyHash (some a.repo) (some a.source) a.key)

def isNative : CreateArgs → Bool
| .native _ => true
| .caller _ => false

def parent : CreateArgs → Option (RunId × NodeId)
| .native a => a.parent
| .caller _ => none

end CreateArgs

------------------------------------------------------------
-- Events of a Creation
------------------------------------------------------------

/- The members of a creation event, those left out as none. -/
def NativeArgs.createdFields (a : NativeArgs) :
    List (String × Option Json) :=
  let x := a.details
  [("kind", some (.str (kindKebab a.kind))),
    ("lifecycle", some (.str (lifecycleKebab a.lifecycle))),
    ("title", some (.str a.title)),
    ("source_repo", x.materializationRepo.map .str),
    ("source_branch", a.sourceBranch.map .str),
    ("managed_tmux_session", x.managedTmuxSession.map .str),
    ("tmux_retention", x.tmuxRetention),
    ("notify_cmd", x.notifyCmd.map .str),
    ("resident", x.resident),
    ("harness", some (.str x.harness)),
    ("harness_source", some (.str x.harnessSource)),
    ("agent_selection", x.agentSelection),
    ("task", x.task.map .str),
    ("created_by_run_id",
      x.createdByRunId.map (fun r => .str r.val)),
    ("created_by_session", x.createdBySession),
    ("parent_run_id", a.parent.map (fun p => .str p.1.val)),
    ("parent_node_id", a.parent.map (fun p => .str p.2.val))]

/- Insert a member that may be left out. -/
def insertOpt
    (kvs : List (String × Json)) (field : String × Option Json) :
    List (String × Json) :=
  match field.2 with
  | none => kvs
  | some v => Json.insertField field.1 v kvs

/- An object made of members, each inserted in turn. -/
def objectOf (fields : List (String × Option Json)) : Json :=
  .obj (fields.foldl insertOpt [])

def NativeArgs.createdRequest (a : NativeArgs) (now : Time) :
    Request where
  now := now
  kind := .runCreated
  nodeId := none
  key := none
  data := objectOf a.createdFields

/- The first node, with what was found on its launch. -/
def nodeRequest (now : Time) (data : Json) : Request where
  now := now
  kind := .nodeCreated
  nodeId := some .first
  key := none
  data := data

def CallerArgs.createdRequest
    (a : CallerArgs) (now : Time) (fence : Json) :
    Request where
  now := now
  kind := .runCreated
  nodeId := none
  key := none
  data :=
    .obj
      [("agent_owner", .str "caller"), ("kind", .str "spinoff"),
        ("lifecycle", .str "interactive"),
        ("source_branch", .str a.source),
        ("source_repo", .str a.repo), ("task", .str a.task),
        ("title", .str a.title), ("writer_fence", fence)]

def CallerArgs.nodeData (a : CallerArgs) (plan : CallerPlan) :
    Json :=
  .obj
    [("attempt", .int 0), ("base_sha", .str plan.baseSha),
      ("branch", .str plan.branch), ("kind", .str "spinoff"),
      ("source_branch", .str a.source), ("task", .str a.task),
      ("worktree_path", .str plan.checkout)]

------------------------------------------------------------
-- The Parent Edge
------------------------------------------------------------

/- The edge of a child in the log of its parent. -/
def Event.isEdge (child : String) (ev : Event) : Bool :=
  ev.kind = .childSpawned ∧
    ev.data.getStr "child_run_id" = some child

def childSpawnedRequest
    (now : Time)
    (parentNodeId : NodeId)
    (edgeKey : String)
    (data : Json) : Request where
  now := now
  kind := .childSpawned
  nodeId := some parentNodeId
  key := some edgeKey
  data := data

/- Under the lock of the parent: scan, then append. -/
def appendChildSpawnedIfMissing
    (env : RunEnv)
    (now : Time)
    (parentNodeId : NodeId)
    (childRunId edgeKey : String)
    (data : Json) : Locked Unit := do
  let d ← Durable.read
  let events ← Durable.lift (readAllEvents d.lines)
  if events.any (Event.isEdge childRunId) then pure ()
  else do
    let _ ← appendAndApplyUnlocked env
      (childSpawnedRequest now parentNodeId edgeKey data)
    pure ()

def childSpawnedData
    (childRunId : String) (kind : Kind) (title : String) :
    Json :=
  .obj
    [("child_kind", .str (kindKebab kind)),
      ("child_node_id", .str "n-0001"),
      ("child_run_id", .str childRunId),
      ("child_title", .str title)]

/- Where the edge of a child goes, and what it says of it. -/
structure ParentLink where
  parent : RunId
  node : NodeId
  kind : Kind
  title : String

/- The edge that a creation owes for its own run. -/
def NativeArgs.link (a : NativeArgs) : Option ParentLink :=
  a.parent.map (fun p =>
    { parent := p.1
      node := p.2
      kind := a.kind
      title := a.title })

/- The edge that a published run says it owes. -/
def parentLink (env : RunEnv) (d : Disk) :
    Except CliError (Option ParentLink) :=
  match readManifestOpt env d with
  | .error e => .error (.core e)
  | .ok none =>
      .error (.system "run_not_published"
        s!"published run {env.runId.val} has no durable manifest"
        none)
  | .ok (some m) =>
      match m.parentRunId, m.parentNodeId with
      | some parent, some node =>
          .ok (some {
            parent := parent
            node := node
            kind := m.kind
            title := m.title })
      | none, none => .ok none
      | _, _ =>
          .error (.system "child_parent_link_invalid"
            s!"child run {env.runId.val} has an incomplete parent identity"
            none)

def ParentLink.append
    (h : HomeEnv) (now : Time) (child : RunId)
    (link : ParentLink) : Locked Unit :=
  appendChildSpawnedIfMissing (h.run link.parent) now link.node
    child.val ("child-spawned:" ++ child.val)
    (childSpawnedData child.val link.kind link.title)

------------------------------------------------------------
-- Creators
------------------------------------------------------------

/-
  Where a creator is. `rounds` is how often it will still
  look at a reservation; `examining` keeps which runs were
  published when it looked, and `reclaiming` whether the run
  of the record was.
-/
inductive Phase where
| start
| peeking (existing : ReservationRecord)
| resolving
| reserving (rounds : Nat)
| observing (existing : ReservationRecord) (rounds : Nat)
| examining (existing : ReservationRecord)
    (published : RunId → Bool) (rounds : Nat)
| waiting (existing : ReservationRecord) (rounds : Nat)
| condemned (existing : ReservationRecord) (rounds : Nat)
| reclaiming (existing : ReservationRecord)
    (published : Bool) (rounds : Nat)
| cleaning (rest : List String)
| ready
| staged
| created
| built
| published
| replaying (x : RunId)
| linking (x : RunId) (link : ParentLink)
| settling (x : RunId)
| releasing (e : CliError)
| closing (e : CliError)
| callerReserving (plan : CallerPlan)
| callerWaits (record : ReservationRecord)
| callerHolds (record : ReservationRecord)
| callerPublished (record : ReservationRecord)
| done (x : RunId)
| failed (e : CliError)
| crashed

namespace Phase

/- The process has ended. -/
def ended : Phase → Bool
| .done _ | .failed _ | .crashed => true
| _ => false

/- The staging directory may be half written. -/
def building : Phase → Bool
| .staged | .created | .built => true
| _ => false

end Phase

/- What a process knows of itself. -/
structure CreatorProcess where
  pid : Nat
  pidStartSecs : Option Nat
  startedAt : Time

structure Creator where
  args : CreateArgs
  process : CreatorProcess
  runId : Option RunId
  phase : Phase

namespace Creator

/- The record a creator proposes for its run. -/
def proposed (h : HomeEnv) (cr : Creator) (r : RunId) :
    ReservationRecord :=
  .new r.val {
    pid := cr.process.pid
    pidStartSecs := cr.process.pidStartSecs
    startedAt := cr.process.startedAt
    materializerLeasePath := some (h.leasePath r.val) }

/-
  The run whose lease a creator holds. With a key it is its
  own until the process ends; a caller's retry holds that of
  the recorded run instead.
-/
def lease (cr : Creator) : Option String :=
  match cr.phase with
  | .done _ | .failed _ | .crashed | .callerWaits _ => none
  | .callerHolds record | .callerPublished record =>
      some record.runId
  | _ =>
      if cr.args.file.isSome then cr.runId.map RunId.val
      else none

/-
  Where an error takes a creator. The guard releases the key
  once the inherited directories are gone, and before that it
  leaves the record as it is.
-/
def failing (cr : Creator) (e : CliError) : Phase :=
  match cr.args, cr.phase with
  | .caller _, _ => .failed e
  | .native _, .ready | .native _, .staged
  | .native _, .created | .native _, .built =>
      if cr.args.file.isSome then .releasing e else .closing e
  | .native _, _ => .closing e

end Creator

def callerConflict (existing : ReservationRecord) : CliError :=
  .user "idempotency_key_conflict"
    s!"key belongs to caller-owned run {existing.runId}; retry with --agent-owner caller"
    none

/- The fast path: a published run answers, all else goes on. -/
def Phase.afterPeek :
    Except CliError ExistingReservation → Phase
| .ok (.published x) => .replaying x
| .ok _ => .resolving
| .error e => .closing e

/- One look at a reservation that is not the creator's. -/
def Phase.afterLook
    (existing : ReservationRecord)
    (published : RunId → Bool) : Nat → Phase
| 0 =>
    .closing (.system "idempotency_reservation_contended"
      "idempotency reservation changed repeatedly while reclaiming; retry"
      none)
| rounds + 1 =>
    if existing.callerPlan.isSome then
      .closing (callerConflict existing)
    else .examining existing published rounds

def Phase.afterClassify
    (existing : ReservationRecord) (rounds : Nat) :
    Except CliError ExistingReservation → Phase
| .ok (.published x) => .replaying x
| .ok .creatorLive => .waiting existing rounds
| .ok .creatorDead => .condemned existing rounds
| .ok .unverifiable =>
    .closing (.system "idempotency_creator_unverifiable"
      s!"idempotency key points to unpublished run {existing.runId}, but its creator identity cannot be verified; inspect the reservation and staging run before retrying"
      (some existing.runId))
| .error e => .closing e

def Phase.afterReserve (rounds : Nat) : Reservation → Phase
| .reserved => .ready
| .alreadyReserved existing => .observing existing rounds

/- A caller goes on with its own record or a like request. -/
def Phase.afterCallerReserve
    (request : String) (proposed : ReservationRecord) :
    Reservation → Phase
| .reserved => .callerHolds proposed
| .alreadyReserved existing =>
    match existing.callerPlan with
    | none =>
        .failed (.user "idempotency_key_conflict"
          s!"key already belongs to non-caller run {existing.runId}"
          none)
    | some plan =>
        if plan.request ≠ request then
          .failed (.user "idempotency_key_conflict"
            s!"key belongs to run {existing.runId} with different inputs"
            (some existing.runId))
        else .callerWaits existing

def Phase.afterLink
    (x : RunId) : Option ParentLink → Phase
| none => .settling x
| some link => .linking x link

------------------------------------------------------------
-- Homes
------------------------------------------------------------

/-
  A home and its creators. `orphans` are the runs whose lease
  outlives the creator in a process it started. `owed` is not
  on disk: it has, for each file, the run ids taken over whose
  staging directory is not removed yet.
-/
structure Home (ι : Type) where
  records : String → Option RecordFile
  staging : RunId → Option Disk
  runs : RunId → Option Disk
  orphans : String → Bool
  creators : ι → Creator
  owed : String → List String

namespace Home

variable {ι : Type}

def args (S : Home ι) (c : ι) : CreateArgs :=
  (S.creators c).args

def id (S : Home ι) (c : ι) : Option RunId :=
  (S.creators c).runId

def phase (S : Home ι) (c : ι) : Phase :=
  (S.creators c).phase

def file (S : Home ι) (c : ι) : Option String :=
  (S.args c).file

/- The run has a public manifest. -/
def published (S : Home ι) (r : RunId) : Bool :=
  (S.runs r).any (fun d => d.manifest.isSome)

/- Some process has the lease file of a run locked. -/
def Held (h : HomeEnv) (S : Home ι) (path : String) : Prop :=
  (∃ c x, (S.creators c).lease = some x ∧
    h.leasePath x = path) ∨
    ∃ x, S.orphans x = true ∧ h.leasePath x = path

def setRecord
    (S : Home ι) (k : String) (file : Option RecordFile) :
    Home ι :=
  { S with records := Function.update S.records k file }

def setStaging
    (S : Home ι) (r : RunId) (d : Option Disk) : Home ι :=
  { S with staging := Function.update S.staging r d }

def setRun (S : Home ι) (r : RunId) (d : Disk) : Home ι :=
  { S with runs := Function.update S.runs r (some d) }

def setOwed
    (S : Home ι) (k : String) (ids : List String) : Home ι :=
  { S with owed := Function.update S.owed k ids }

def setOrphan (S : Home ι) (x : String) (b : Bool) : Home ι :=
  { S with orphans := Function.update S.orphans x b }

/- The rename of a staging directory. -/
def publish (S : Home ι) (r : RunId) (d : Disk) : Home ι :=
  (S.setStaging r none).setRun r d

/- Nothing on disk, and nobody has begun. -/
structure Fresh (S : Home ι) : Prop where
  records : ∀ k, S.records k = none
  staging : ∀ r, S.staging r = none
  runs : ∀ r, S.runs r = none
  owed : ∀ k, S.owed k = []
  ids : ∀ c, S.id c = none
  phases : ∀ c, S.phase c = .start

variable [DecidableEq ι]

/- Creator `c` goes to a phase. -/
def goto (S : Home ι) (c : ι) (phase : Phase) : Home ι :=
  { S with
    creators := Function.update S.creators c
      { S.creators c with phase := phase } }

/- Creator `c` draws a run id and goes to a phase. -/
def mint (S : Home ι) (c : ι) (r : RunId) (phase : Phase) :
    Home ι :=
  { S with
    creators := Function.update S.creators c
      { S.creators c with runId := some r, phase := phase } }

end Home

------------------------------------------------------------
-- Steps of a Creator
------------------------------------------------------------

variable {ι : Type} [DecidableEq ι]

/-
  One step of creator `c`. Each step reads or changes one
  thing, and others may act between any two. A lease that is
  read as dead is held by nobody; one that is read as live may
  only be locked by somebody who looks. Run ids are drawn
  afresh. A creator that stops may leave anything in its own
  staging directory.
-/
inductive CreatorStep (h : HomeEnv) (c : ι) :
    Home ι → Home ι → Prop where
-- the fast path
| unkeyed (S : Home ι)
    (hPhase : S.phase c = .start)
    (hFile : S.file c = none) :
    CreatorStep h c S (S.goto c .resolving)
| lookup (S : Home ι) (k : String)
    (found : Option ReservationRecord)
    (hPhase : S.phase c = .start)
    (hNative : (S.args c).isNative = true)
    (hFile : S.file c = some k)
    (hRead : readRecord (h.recordPath k) (S.records k) =
      .ok found) :
    CreatorStep h c S
      (S.goto c (found.elim .resolving .peeking))
| peek (S : Home ι) (existing : ReservationRecord)
    (probe : ReservationProbe)
    (hPhase : S.phase c = .peeking existing)
    (hPlan : existing.callerPlan = none)
    (hProbe : probe.published = S.published) :
    CreatorStep h c S
      (S.goto c
        (.afterPeek
          (classifyExistingReservation probe existing)))
| peekConflict (S : Home ι) (existing : ReservationRecord)
    (hPhase : S.phase c = .peeking existing)
    (hPlan : existing.callerPlan ≠ none) :
    CreatorStep h c S
      (S.goto c (.closing (callerConflict existing)))
-- the reservation
| mint (S : Home ι) (r : RunId)
    (hPhase : S.phase c = .resolving)
    (hFresh : ∀ c', S.id c' ≠ some r) :
    CreatorStep h c S
      (S.mint c r
        (if (S.file c).isSome then .reserving 8 else .ready))
| reserve (S : Home ι) (r : RunId) (k : String)
    (rounds : Nat) (answer : Reservation)
    (file : Option RecordFile)
    (hPhase : S.phase c = .reserving rounds)
    (hId : S.id c = some r)
    (hFile : S.file c = some k)
    (hOk :
      reserveIn (h.recordPath k)
        ((S.creators c).proposed h r) (S.records k) =
          .ok (answer, file)) :
    CreatorStep h c S
      ((S.setRecord k file).goto c
        (.afterReserve rounds answer))
| look (S : Home ι) (existing : ReservationRecord)
    (rounds : Nat)
    (hPhase : S.phase c = .observing existing rounds) :
    CreatorStep h c S
      (S.goto c (.afterLook existing S.published rounds))
| classify (S : Home ι) (existing : ReservationRecord)
    (published : RunId → Bool) (rounds : Nat)
    (probe : ReservationProbe)
    (hPhase : S.phase c = .examining existing published rounds)
    (hProbe : probe.published = published)
    (hLease : ∀ path,
      probe.materializerLiveness path = .dead →
      ¬ S.Held h path) :
    CreatorStep h c S
      (S.goto c
        (.afterClassify existing rounds
          (classifyExistingReservation probe existing)))
| wait (S : Home ι) (existing : ReservationRecord)
    (k : String) (rounds : Nat)
    (found : Option ReservationRecord)
    (hPhase : S.phase c = .waiting existing rounds)
    (hFile : S.file c = some k)
    (hRead : readRecord (h.recordPath k) (S.records k) =
      .ok found) :
    CreatorStep h c S
      (S.goto c
        (found.elim (.reserving rounds)
          (fun current => .observing current rounds)))
| recheck (S : Home ι) (existing : ReservationRecord)
    (x : RunId) (rounds : Nat)
    (hPhase : S.phase c = .condemned existing rounds)
    (hParse : parseRunId existing.runId = .ok x) :
    CreatorStep h c S
      (S.goto c (.reclaiming existing (S.published x) rounds))
| reclaim (S : Home ι) (existing : ReservationRecord)
    (published : Bool) (r : RunId) (k : String)
    (rounds : Nat) (file : Option RecordFile)
    (hPhase :
      S.phase c = .reclaiming existing published rounds)
    (hId : S.id c = some r)
    (hFile : S.file c = some k)
    (hOk :
      reclaimIn (h.recordPath k) existing
        (((S.creators c).proposed h r).takeOver existing)
        published (S.records k) = .ok (.reclaimed, file)) :
    CreatorStep h c S
      (((S.setRecord k file).setOwed k
        (existing.runId :: S.owed k)).goto c
        (.cleaning
          (((S.creators c).proposed h r).takeOver
            existing).staleRunIds))
| reclaimLost (S : Home ι) (existing : ReservationRecord)
    (published : Bool) (r : RunId) (k : String)
    (rounds : Nat) (answer : Reclaim)
    (file : Option RecordFile) (next : ReservationRecord)
    (hPhase :
      S.phase c = .reclaiming existing published rounds)
    (hId : S.id c = some r)
    (hFile : S.file c = some k)
    (hOk :
      reclaimIn (h.recordPath k) existing
        (((S.creators c).proposed h r).takeOver existing)
        published (S.records k) = .ok (answer, file))
    (hNext : answer = .changed next ∨
      (answer = .published ∧ next = existing)) :
    CreatorStep h c S (S.goto c (.observing next rounds))
-- inherited directories
| clean (S : Home ι) (stale : String) (r x : RunId)
    (k : String) (rest : List String)
    (hPhase : S.phase c = .cleaning (stale :: rest))
    (hId : S.id c = some r)
    (hFile : S.file c = some k)
    (hParse : parseRunId stale = .ok x) :
    CreatorStep h c S
      (((S.setStaging x none).setOwed k
        ((S.owed k).filter (fun y => y ≠ stale))).goto c
        (.cleaning rest))
| cleanFails (S : Home ι) (stale : String) (x : RunId)
    (rest : List String) (left : Option Disk) (e : CliError)
    (hPhase : S.phase c = .cleaning (stale :: rest))
    (hParse : parseRunId stale = .ok x) :
    CreatorStep h c S
      ((S.setStaging x left).goto c (.closing e))
| finish (S : Home ι) (r : RunId) (k : String)
    (file : Option RecordFile)
    (hPhase : S.phase c = .cleaning [])
    (hId : S.id c = some r)
    (hFile : S.file c = some k)
    (hOk :
      finishStaleCleanup (h.recordPath k) r.val
        (S.records k) = .ok file) :
    CreatorStep h c S ((S.setRecord k file).goto c .ready)
-- the run
| stage (S : Home ι) (r : RunId)
    (hPhase : S.phase c = .ready)
    (hId : S.id c = some r)
    (hParent : ∀ p, (S.args c).parent = some p →
      S.published p.1 = true) :
    CreatorStep h c S
      ((S.setStaging r (some Disk.empty)).goto c .staged)
| create (S : Home ι) (a : NativeArgs) (r : RunId)
    (now : Time) (d : Disk) (answer : AppendResult)
    (hPhase : S.phase c = .staged)
    (hArgs : S.args c = .native a)
    (hId : S.id c = some r)
    (hStaging : S.staging r = some d)
    (hOk :
      (appendAndApplyEvent (h.run r)
        (a.createdRequest now)).result d = .ok answer) :
    CreatorStep h c S
      ((S.setStaging r
        (some ((appendAndApplyEvent (h.run r)
          (a.createdRequest now)).final d))).goto c .created)
| build (S : Home ι) (r : RunId) (now : Time) (data : Json)
    (d : Disk) (answer : AppendResult)
    (hPhase : S.phase c = .created)
    (hId : S.id c = some r)
    (hStaging : S.staging r = some d)
    (hOk :
      (appendAndApplyEvent (h.run r)
        (nodeRequest now data)).result d = .ok answer) :
    CreatorStep h c S
      ((S.setStaging r
        (some ((appendAndApplyEvent (h.run r)
          (nodeRequest now data)).final d))).goto c .built)
| publish (S : Home ι) (r : RunId) (d : Disk)
    (hPhase : S.phase c = .created ∨ S.phase c = .built)
    (hId : S.id c = some r)
    (hStaging : S.staging r = some d)
    (hAbsent : S.runs r = none) :
    CreatorStep h c S ((S.publish r d).goto c .published)
-- the edge
| announce (S : Home ι) (a : NativeArgs) (r : RunId)
    (hPhase : S.phase c = .published)
    (hArgs : S.args c = .native a)
    (hId : S.id c = some r) :
    CreatorStep h c S (S.goto c (.afterLink r a.link))
| replay (S : Home ι) (x : RunId) (d : Disk)
    (link : Option ParentLink)
    (hPhase : S.phase c = .replaying x)
    (hRun : S.runs x = some d)
    (hOk : parentLink (h.run x) d = .ok link) :
    CreatorStep h c S (S.goto c (.afterLink x link))
| link (S : Home ι) (x : RunId) (l : ParentLink)
    (now : Time) (d : Disk)
    (hPhase : S.phase c = .linking x l)
    (hRun : S.runs l.parent = some d)
    (hOk : (l.append h now x).result d = .ok ()) :
    CreatorStep h c S
      ((S.setRun l.parent ((l.append h now x).final d)).goto c
        (.settling x))
| linkStops (S : Home ι) (x : RunId) (l : ParentLink)
    (now : Time) (d d' : Disk) (next : Phase)
    (hPhase : S.phase c = .linking x l)
    (hRun : S.runs l.parent = some d)
    (hLeaves : (l.append h now x).Leaves d d')
    (hNext : next = .crashed ∨ ∃ e, next = .closing e) :
    CreatorStep h c S ((S.setRun l.parent d').goto c next)
| settle (S : Home ι) (x : RunId)
    (hPhase : S.phase c = .settling x)
    (hOwn : S.id c = some x) :
    CreatorStep h c S (S.goto c (.done x))
| settleReplay (S : Home ι) (x : RunId) (d : Disk)
    (m : Manifest)
    (hPhase : S.phase c = .settling x)
    (hRun : S.runs x = some d)
    (hRead : readManifestOpt (h.run x) d = .ok (some m))
    (hOwner : m.agentOwner = .taskfleet) :
    CreatorStep h c S (S.goto c (.done x))
-- the ends
| release (S : Home ι) (r : RunId) (k : String)
    (e : CliError) (file : Option RecordFile)
    (hPhase : S.phase c = .releasing e)
    (hId : S.id c = some r)
    (hFile : S.file c = some k)
    (hOk :
      releaseIn (h.recordPath k) r.val (S.records k) =
        .ok file) :
    CreatorStep h c S ((S.setRecord k file).goto c (.closing e))
| releaseFails (S : Home ι) (e : CliError)
    (hPhase : S.phase c = .releasing e) :
    CreatorStep h c S (S.goto c (.closing e))
| close (S : Home ι) (e : CliError)
    (hPhase : S.phase c = .closing e) :
    CreatorStep h c S (S.goto c (.failed e))
| fail (S : Home ι) (e : CliError)
    (hActs : (S.phase c).ended = false) :
    CreatorStep h c S
      (S.goto c ((S.creators c).failing e))
| failBuilding (S : Home ι) (r : RunId) (e : CliError)
    (left : Option Disk)
    (hBuilding : (S.phase c).building = true)
    (hId : S.id c = some r) :
    CreatorStep h c S
      ((S.setStaging r left).goto c
        ((S.creators c).failing e))
| crash (S : Home ι)
    (hActs : (S.phase c).ended = false) :
    CreatorStep h c S (S.goto c .crashed)
| crashBuilding (S : Home ι) (r : RunId)
    (left : Option Disk)
    (hBuilding : (S.phase c).building = true)
    (hId : S.id c = some r) :
    CreatorStep h c S
      ((S.setStaging r left).goto c .crashed)
| crashOrphan (S : Home ι) (x : String)
    (hActs : (S.phase c).ended = false)
    (hLease : (S.creators c).lease = some x) :
    CreatorStep h c S
      ((S.setOrphan x true).goto c .crashed)
-- runs that a caller owns
| callerMint (S : Home ι) (a : CallerArgs) (r : RunId)
    (plan : CallerPlan)
    (hPhase : S.phase c = .start)
    (hArgs : S.args c = .caller a)
    (hFresh : ∀ c', S.id c' ≠ some r)
    (hRequest : plan.request = a.request)
    (hBranch : plan.branch = "wt/" ++ r.val) :
    CreatorStep h c S (S.mint c r (.callerReserving plan))
| callerReserve (S : Home ι) (a : CallerArgs) (r : RunId)
    (k : String) (plan : CallerPlan) (answer : Reservation)
    (file : Option RecordFile)
    (hPhase : S.phase c = .callerReserving plan)
    (hArgs : S.args c = .caller a)
    (hId : S.id c = some r)
    (hFile : S.file c = some k)
    (hOk :
      reserveIn (h.recordPath k)
        { (S.creators c).proposed h r with
          callerPlan := some plan } (S.records k) =
            .ok (answer, file)) :
    CreatorStep h c S
      ((S.setRecord k file).goto c
        (.afterCallerReserve a.request
          { (S.creators c).proposed h r with
            callerPlan := some plan } answer))
| callerAcquire (S : Home ι) (record : ReservationRecord)
    (hPhase : S.phase c = .callerWaits record)
    (hFree : ¬ S.Held h (h.leasePath record.runId)) :
    CreatorStep h c S (S.goto c (.callerHolds record))
| callerStage (S : Home ι) (record : ReservationRecord)
    (x : RunId)
    (hPhase : S.phase c = .callerHolds record)
    (hParse : RunId.parseStr record.runId = .ok x)
    (hAbsent : S.published x = false)
    (hStaging : S.staging x = none) :
    CreatorStep h c S (S.setStaging x (some Disk.empty))
| callerCreate (S : Home ι) (record : ReservationRecord)
    (a : CallerArgs) (x : RunId) (now : Time) (fence : Json)
    (d : Disk)
    (hPhase : S.phase c = .callerHolds record)
    (hArgs : S.args c = .caller a)
    (hParse : RunId.parseStr record.runId = .ok x)
    (hAbsent : S.published x = false)
    (hStaging : S.staging x = some Disk.empty)
    (hLeaves :
      (appendAndApplyEvent (h.run x)
        (a.createdRequest now fence)).Leaves Disk.empty d) :
    CreatorStep h c S (S.setStaging x (some d))
| callerBuild (S : Home ι) (record : ReservationRecord)
    (a : CallerArgs) (plan : CallerPlan) (x : RunId)
    (now : Time) (d d' : Disk)
    (hPhase : S.phase c = .callerHolds record)
    (hArgs : S.args c = .caller a)
    (hPlan : record.callerPlan = some plan)
    (hParse : RunId.parseStr record.runId = .ok x)
    (hAbsent : S.published x = false)
    (hStaging : S.staging x = some d)
    (hManifest : d.manifest ≠ none)
    (hLeaves :
      (appendAndApplyEvent (h.run x)
        (nodeRequest now (a.nodeData plan))).Leaves d d') :
    CreatorStep h c S (S.setStaging x (some d'))
| callerPublish (S : Home ι) (record : ReservationRecord)
    (x : RunId) (d : Disk)
    (hPhase : S.phase c = .callerHolds record)
    (hParse : RunId.parseStr record.runId = .ok x)
    (hStaging : S.staging x = some d)
    (hManifest : d.manifest ≠ none)
    (hAbsent : S.runs x = none) :
    CreatorStep h c S
      ((S.publish x d).goto c (.callerPublished record))
| callerFound (S : Home ι) (record : ReservationRecord)
    (x : RunId)
    (hPhase : S.phase c = .callerHolds record)
    (hParse : RunId.parseStr record.runId = .ok x)
    (hThere : S.published x = true) :
    CreatorStep h c S (S.goto c (.callerPublished record))
| callerSettle (S : Home ι) (record : ReservationRecord)
    (x : RunId)
    (hPhase : S.phase c = .callerPublished record)
    (hParse : RunId.parseStr record.runId = .ok x) :
    CreatorStep h c S (S.goto c (.done x))

------------------------------------------------------------
-- Runs of a Home
------------------------------------------------------------

/-
  A step of a creator, the end of a process that outlived its
  creator, or a section of another process on a public run.
  The edges of a run are written by creators alone.
-/
inductive HomeStep (h : HomeEnv) :
    Home ι → Home ι → Prop where
| creator {S S' : Home ι} (c : ι)
    (hStep : CreatorStep h c S S') : HomeStep h S S'
| orphanEnds (S : Home ι) (x : String) :
    HomeStep h S (S.setOrphan x false)
| other (S : Home ι) (r : RunId) (w : Writer) (d d' : Disk)
    (hRun : S.runs r = some d)
    (hLeaves : (w.run (h.run r)).Leaves d d')
    (hAsks : ∀ q, w.Asks q → q.kind ≠ .childSpawned) :
    HomeStep h S (S.setRun r d')

/- The homes that steps lead to. -/
inductive HomeRun (h : HomeEnv) (S : Home ι) :
    Home ι → Prop where
| refl : HomeRun h S S
| step {S₁ S₂ : Home ι}
    (hRun : HomeRun h S S₁)
    (hStep : HomeStep h S₁ S₂) : HomeRun h S S₂

end Taskfleet
