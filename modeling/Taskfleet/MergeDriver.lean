import Taskfleet.MergeRecovery

/-
  The driver of `run merge`, up to the transaction it records
  before it touches git: what it reads, why it refuses, and
  the events it appends.

  The text of a transaction is read back as it was written.

  Main declarations:
    * `openRun`, `examineNode`, `MergeCall`
    * `mergeTxn`, `MergeTxn.toJson`, `startRequest`
    * `asMergeTxn_of_mergeTxn`
-/

------------------------------------------------------------
-- Refusals
------------------------------------------------------------

namespace Taskfleet

open Fallible

/- The arguments of `run merge`, parsed. -/
structure MergeArgs where
  nodeId : NodeId
  source : Option String

def rejectLegacyKind (env : RunEnv) (kind : Kind) :
    Except CliError Unit :=
  if kind = .unknown then
    .error (.user "legacy_run_read_only"
      ("run " ++ env.runId.val ++
        " was recorded under a run kind removed in 0.2 and is read-only — " ++
        "inspect it with `run show` / `run list` / `doctor`, but it cannot be mutated " ++
        "(merged, cancelled, or supervised)")
      (some env.runId.val))
  else .ok ()

def requireWriterFence (m : Manifest) : Except CliError Unit :=
  if m.agentOwner = .caller then
    .error (.user "writer_fence_unavailable"
      ("caller-owned run " ++ m.runId.val ++
        " requires a fenced settlement path; preserve its checkout and inspect it manually")
      (some m.runId.val))
  else .ok ()

/- The first read: the manifest, without the run lock. -/
def openRun (env : RunEnv) (d : Disk) :
    Except CliError Manifest := do
  match readManifestOpt env d with
  | .error e => .error (.core e)
  | .ok none =>
      .error (.user "run_not_found"
        ("no run with id " ++ env.runId.val)
        (some env.runId.val))
  | .ok (some m) => do
      rejectLegacyKind env m.kind
      requireWriterFence m
      return m

def branchFor (n : Node) : Option String :=
  n.branch.filter (fun s => s ≠ "")

/- What a driver that goes ahead works with. -/
structure MergeCall where
  node : Node
  worktreePath : String
  branch : String
  source : Option String

/- The files and refs outside the run, as the driver asks. -/
structure MergeSurroundings where
  tryExists : String → Option Bool
  git : GitQueries

/- A main or master checkout, where no target is given. -/
def discoverSource (q : GitQueries) (worktreePath : String) :
    Option String :=
  (q.worktreeBranches worktreePath).bind (fun rows =>
    rows.findSome? (fun row =>
      if row = some "main" ∨ row = some "master" then row
      else none))

/-
  Why a run without a checkout is refused. The status is read
  again, on the state `again`.
-/
def worktreeGone
    (env : RunEnv)
    (again : Disk)
    (m : Manifest)
    (worktreePath : String) : CliError :=
  match readManifestOpt env again with
  | .error e => .core e
  | .ok found =>
      let status := (found.map Manifest.status).getD m.status
      if status.isTerminal then
        let verb :=
          if status = .done then "already done" else "failed"
        .user "run_already_terminal"
          ("run " ++ env.runId.val ++ " is " ++ verb ++
            " and its worktree has been torn down — there is " ++
            "no worktree left to merge. If teardown looks incomplete (tmux window " ++
            "still open, branch still present), run `taskfleet run reattach " ++
            env.runId.val ++ "` to finish it.")
          (some env.runId.val)
      else
        .user "worktree_missing"
          ("worktree " ++ worktreePath ++
            " does not exist — cannot merge. If the run has " ++
            "finished, its supervisor may not have rolled up yet; run " ++
            "`taskfleet run reattach " ++ env.runId.val ++
            "`. Otherwise the worktree was " ++
            "removed out from under a live run.")
          (some env.runId.val)

/-
  The second read: the node. A cancelled run is refused, a
  failed one is not while its checkout is there.
-/
def examineNode
    (env : RunEnv)
    (around : MergeSurroundings)
    (again : Disk)
    (args : MergeArgs)
    (m : Manifest)
    (d : Disk) : Except CliError MergeCall := do
  match readNodeOpt env d args.nodeId with
  | .error e => .error (.core e)
  | .ok none =>
      .error (.user "node_not_found"
        ("no node " ++ args.nodeId.val ++ " in run " ++
          env.runId.val)
        (some args.nodeId.val))
  | .ok (some node) => do
      let worktreePath ←
        orError
          (.user "no_worktree"
            ("node " ++ args.nodeId.val ++
              " has no worktree to merge (driver node?)")
            (some args.nodeId.val))
          node.worktreePath
      let branch ←
        orError
          (.user "no_branch"
            ("node " ++ args.nodeId.val ++
              " has no branch recorded; cannot merge")
            (some args.nodeId.val))
          (branchFor node)
      if m.status = .cancelled then
        .error (.user "run_already_terminal"
          ("run " ++ env.runId.val ++
            " is cancelled — merging is not permitted; a cancelled run " ++
            "never adopts a merge, so `run merge` would do nothing.")
          (some env.runId.val))
      else if around.tryExists worktreePath = some false then
        .error (worktreeGone env again m worktreePath)
      else
        return {
          node := node
          worktreePath := worktreePath
          branch := branch
          source :=
            (args.source.or m.sourceBranch).or
              (discoverSource around.git worktreePath) }

------------------------------------------------------------
-- Transactions
------------------------------------------------------------

/- The driver's own process. -/
structure DriverProcess where
  pid : UInt32
  startSecs : Option UInt64
  startIdentity : Option String

/- A time stamp with the text it is written as. -/
structure Stamp (env : RunEnv) where
  time : Time
  text : String
  parses : env.parseDateTime text = some time

def mergeFailed (branch detail : String) : CliError :=
  .user "merge_failed"
    ("git merge failed merging " ++ branch ++ ": " ++ detail)
    (some branch)

/- The transaction of a merge that no caller owns. -/
def mergeTxn
    {env : RunEnv}
    (q : GitQueries)
    (process : DriverProcess)
    (stamp : Stamp env)
    (opId : String)
    (call : MergeCall) : Except CliError MergeTxn := do
  let sourceBranch ←
    orError
      (mergeFailed call.branch
        "cannot record a merge without a source branch")
      call.source
  let expectedSourceOid ←
    orError
      (mergeFailed call.branch
        "cannot resolve source ref for transaction")
      (readOid q call.worktreePath sourceBranch)
  let workerOid ←
    orError
      (mergeFailed call.branch
        "cannot resolve worker ref for transaction")
      (readOid q call.worktreePath call.branch)
  return {
    opId := opId
    sourceBranch := sourceBranch
    workerBranch := call.branch
    expectedSourceOid := expectedSourceOid
    workerOid := workerOid
    baseSha := call.node.baseSha
    driverPid := some process.pid.toBitVec.toInt
    driverPidStartSecs := process.startSecs.map UInt64.toNat
    driverPidStartIdentity := process.startIdentity
    callerAuthority := none
    landing := false
    startedAt := stamp.time }

namespace Json

def ofOption {α : Type} (f : α → Json) : Option α → Json
| none => .null
| some a => f a

end Json

def CallerMergeLink.toJson (link : CallerMergeLink) : Json :=
  .obj
    [("intent_key", .str link.intentKey),
      ("intent_seq", .int link.intentSeq),
      ("writer_dev", .int link.writerDev),
      ("writer_ino", .int link.writerIno)]

/- A transaction as its event carries it. -/
def MergeTxn.toJson (txn : MergeTxn) (startedAt : String) :
    Json :=
  .obj
    ([("base_sha", .ofOption .str txn.baseSha)] ++
      (txn.callerAuthority.map (fun link =>
        ("caller_authority", link.toJson))).toList ++
      [("driver_pid", .ofOption .int txn.driverPid)] ++
      (txn.driverPidStartIdentity.map (fun s =>
        ("driver_pid_start_identity", Json.str s))).toList ++
      [("driver_pid_start_secs",
          .ofOption (fun n : Nat => .int n)
            txn.driverPidStartSecs),
        ("expected_source_oid", .str txn.expectedSourceOid)] ++
      (if txn.landing then [("landing", .bool true)] else []) ++
      [("op_id", .str txn.opId),
        ("source_branch", .str txn.sourceBranch),
        ("started_at", .str startedAt),
        ("worker_branch", .str txn.workerBranch),
        ("worker_oid", .str txn.workerOid)])

/- The event a driver records its transaction with. -/
def startRequest
    {env : RunEnv}
    (now : Time)
    (stamp : Stamp env)
    (id : NodeId)
    (txn : MergeTxn) : Request where
  now := now
  kind := .mergeStarted
  nodeId := some id
  key := none
  data := txn.toJson stamp.text

/- The tip it is about to move the source ref to. -/
def preparedRequest
    (now : Time)
    (id : NodeId)
    (txn : MergeTxn)
    (oid : String) : Request where
  now := now
  kind := .other "merge.native_prepared"
  nodeId := some id
  key := none
  data := .obj
    [("expected_source_oid", .str txn.expectedSourceOid),
      ("integrated_oid", .str oid),
      ("op_id", .str txn.opId),
      ("worker_oid", .str txn.workerOid)]

def abortRequest
    (env : RunEnv)
    (now : Time)
    (id : NodeId)
    (txn : MergeTxn) : Request where
  now := now
  kind := .mergeAborted
  nodeId := some id
  key := some (mergeAbortedKey env id txn.opId)
  data := abortData txn.opId "merge did not complete"

/- The terminal report of a merge that went through. -/
def reportRequest
    (env : RunEnv)
    (now : Time)
    (id : NodeId)
    (report : Json) : Request where
  now := now
  kind := .nodeReport
  nodeId := some id
  key := some (explicitMergeKey env id)
  data := report

section Decoding

variable {env : RunEnv}

theorem asI32_toInt (b : BitVec 32) :
    Json.asI32 (.int b.toInt) = some b.toInt := by
  have hLow : -(2 ^ 31) ≤ b.toInt := BitVec.le_toInt b
  have hHigh : b.toInt < 2 ^ 31 := BitVec.toInt_lt
  have hWide : Json.asI64 (.int b.toInt) = some b.toInt := by
    unfold Json.asI64
    dsimp only
    rw [if_pos (by omega)]
  unfold Json.asI32
  rw [hWide, Option.filter_some, if_pos]
  simp only [decide_eq_true_eq]
  exact ⟨hLow, hHigh⟩

/- An optional value is read back as it was written. -/
theorem option_ofOption
    {α : Type} {f : α → Json} {decode : Json → Option α}
    {v : Option α}
    (hDecode : ∀ a, v = some a → f a ≠ .null ∧
      decode (f a) = some a) :
    Json.option decode (.ofOption f v) = some v := by
  cases v with
  | none => rfl
  | some a =>
      rcases hDecode a rfl with ⟨hSome, hRead⟩
      unfold Json.ofOption
      dsimp only
      unfold Json.option
      split
      · exact absurd (by assumption) hSome
      · rw [hRead]
        rfl

namespace Json.Fields

variable {α : Type} {kvs : List (String × Json)}
variable {name : String} {i : Nat} {v : Json}

theorem required_named
    {decode : Json → Option α}
    (hLookup : kvs.lookup name = some v) :
    (named kvs).required name i decode = decode v := by
  change (kvs.lookup name).bind decode = _
  rw [hLookup, Option.bind_some]

theorem required_str
    {t : String}
    (hLookup : kvs.lookup name = some (.str t)) :
    (named kvs).required name i Json.asStr = some t :=
  required_named hLookup

theorem defaulted_named
    {default a : α} {decode : Json → Option α}
    (hLookup : kvs.lookup name = some v)
    (hDecode : decode v = some a) :
    (named kvs).defaulted name i default decode = some a := by
  unfold defaulted
  rw [show (named kvs).raw name i = some v from hLookup]
  exact hDecode

theorem defaulted_absent
    {default : α} {decode : Json → Option α}
    (hLookup : kvs.lookup name = none) :
    (named kvs).defaulted name i default decode =
      some default := by
  unfold defaulted
  rw [show (named kvs).raw name i = none from hLookup]

end Json.Fields

/- The members of a transaction that no caller owns. -/
structure TxnMembers
    (env : RunEnv)
    (kvs : List (String × Json))
    (txn : MergeTxn) : Prop where
  opId : kvs.lookup "op_id" = some (.str txn.opId)
  sourceBranch :
    kvs.lookup "source_branch" = some (.str txn.sourceBranch)
  workerBranch :
    kvs.lookup "worker_branch" = some (.str txn.workerBranch)
  expectedSourceOid :
    kvs.lookup "expected_source_oid" =
      some (.str txn.expectedSourceOid)
  workerOid :
    kvs.lookup "worker_oid" = some (.str txn.workerOid)
  baseSha :
    kvs.lookup "base_sha" =
      some (.ofOption .str txn.baseSha)
  driverPid :
    kvs.lookup "driver_pid" =
      some (.ofOption .int txn.driverPid)
  startSecs :
    kvs.lookup "driver_pid_start_secs" =
      some (.ofOption (fun n : Nat => .int n)
        txn.driverPidStartSecs)
  startIdentity :
    kvs.lookup "driver_pid_start_identity" =
      txn.driverPidStartIdentity.map Json.str
  caller : kvs.lookup "caller_authority" = none
  landing : kvs.lookup "landing" = none
  startedAt : ∃ text, kvs.lookup "started_at" =
    some (.str text) ∧ env.parseDateTime text =
      some txn.startedAt

theorem TxnMembers.decode
    {kvs : List (String × Json)} {txn : MergeTxn}
    (hMembers : TxnMembers env kvs txn)
    (hPid : ∀ pid, txn.driverPid = some pid →
      Json.asI32 (.int pid) = some pid)
    (hSecs : ∀ n, txn.driverPidStartSecs = some n →
      Json.asU64 (.int n) = some n)
    (hCaller : txn.callerAuthority = none)
    (hLanding : txn.landing = false) :
    Json.asMergeTxn env (.obj kvs) = some txn := by
  rcases hMembers.startedAt with ⟨text, hText, hParse⟩
  have hBase :
      Json.option Json.asStr (.ofOption .str txn.baseSha) =
        some txn.baseSha :=
    option_ofOption (fun _ _ => ⟨by simp, rfl⟩)
  have hDriver :
      Json.option Json.asI32 (.ofOption .int txn.driverPid) =
        some txn.driverPid :=
    option_ofOption (fun pid hSome =>
      ⟨by simp, hPid pid hSome⟩)
  have hStart :
      Json.option Json.asU64
          (.ofOption (fun n : Nat => .int n)
            txn.driverPidStartSecs) =
        some txn.driverPidStartSecs :=
    option_ofOption (fun n hSome => ⟨by simp, hSecs n hSome⟩)
  have hTime :
      (Json.Fields.named kvs).required "started_at" 11
          (fun t => t.asStr.bind env.parseDateTime) =
        some txn.startedAt := by
    rw [Json.Fields.required_named hText]
    exact hParse
  have hIdentity :
      (Json.Fields.named kvs).defaulted
          "driver_pid_start_identity" 8 none
          (Json.option Json.asStr) =
        some txn.driverPidStartIdentity := by
    cases hSome : txn.driverPidStartIdentity with
    | none =>
        apply Json.Fields.defaulted_absent
        rw [hMembers.startIdentity, hSome]
        rfl
    | some t =>
        apply Json.Fields.defaulted_named (v := .str t)
        · rw [hMembers.startIdentity, hSome]
          rfl
        · rfl
  -- one step for each field, in the order of the decoder
  refine Option.bind_eq_some_iff.mpr
    ⟨_, Json.Fields.required_str hMembers.opId, ?_⟩
  refine Option.bind_eq_some_iff.mpr
    ⟨_, Json.Fields.required_str hMembers.sourceBranch, ?_⟩
  refine Option.bind_eq_some_iff.mpr
    ⟨_, Json.Fields.required_str hMembers.workerBranch, ?_⟩
  refine Option.bind_eq_some_iff.mpr
    ⟨_, Json.Fields.required_str hMembers.expectedSourceOid, ?_⟩
  refine Option.bind_eq_some_iff.mpr
    ⟨_, Json.Fields.required_str hMembers.workerOid, ?_⟩
  refine Option.bind_eq_some_iff.mpr
    ⟨_, Json.Fields.defaulted_named hMembers.baseSha hBase, ?_⟩
  refine Option.bind_eq_some_iff.mpr
    ⟨_, Json.Fields.defaulted_named hMembers.driverPid hDriver, ?_⟩
  refine Option.bind_eq_some_iff.mpr
    ⟨_, Json.Fields.defaulted_named hMembers.startSecs hStart, ?_⟩
  refine Option.bind_eq_some_iff.mpr
    ⟨_, hIdentity, ?_⟩
  refine Option.bind_eq_some_iff.mpr
    ⟨_, Json.Fields.defaulted_absent hMembers.caller, ?_⟩
  refine Option.bind_eq_some_iff.mpr
    ⟨_, Json.Fields.defaulted_absent hMembers.landing, ?_⟩
  refine Option.bind_eq_some_iff.mpr
    ⟨_, hTime, ?_⟩
  rw [Option.pure_def, ← hCaller, ← hLanding]

/- What a driver writes is what the reducer reads. -/
theorem asMergeTxn_of_mergeTxn
    {q : GitQueries} {process : DriverProcess}
    {stamp : Stamp env} {opId : String} {call : MergeCall}
    {txn : MergeTxn}
    (hTxn : mergeTxn q process stamp opId call = .ok txn) :
    (txn.toJson stamp.text).asMergeTxn env = some txn := by
  simp only [mergeTxn, bind_eq_ok, orError_eq_ok, pure_eq,
    Except.ok.injEq] at hTxn
  rcases hTxn with ⟨source, _, expected, _, worker, _, rfl⟩
  rcases process with ⟨pid, secs, identity⟩
  apply TxnMembers.decode
  · constructor
    any_goals cases identity <;> rfl
    · refine ⟨stamp.text, ?_, stamp.parses⟩
      cases identity <;> rfl
  · intro i hPid
    rw [Option.some.injEq] at hPid
    subst hPid
    exact asI32_toInt pid.toBitVec
  · intro n hSecs
    rw [Option.map_eq_some_iff] at hSecs
    rcases hSecs with ⟨u, _, rfl⟩
    exact Json.asU64_natCast u.toNat_lt
  · rfl
  · rfl

end Decoding

end Taskfleet
