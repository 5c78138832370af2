import Taskfleet.Operations
import Taskfleet.Reducer.Rewrites
import Taskfleet.Sparing

/-
  Properties of the projections that outlast every locked
  section of a run, wherever it is cut.

  A section changes projections in two ways only: it writes
  a prefix of what an accepted event plans, or it moves the
  watermark. What both keep holds of every run, from the
  empty directory on.

  Main declarations:
    * `Enduring`, `Lasting`
    * `lasting_of_manifest`, `lasting_of_node`
    * `ManifestPut`, `lasting_of_puts`
    * `Act`, `Enduring.acts`, `Lasting.keeps`
    * `ActRun`, `Lasting.actRun`
-/

------------------------------------------------------------
-- Lasting Properties
------------------------------------------------------------

namespace Taskfleet

open Fallible

/-
  A property of the projections that folding any part of an
  accepted event and moving the watermark keep.
-/
structure Lasting (env : RunEnv) (P : Disk → Prop) : Prop where
  framed : ∀ s s', P s → s'.manifest = s.manifest →
    s'.nodes = s.nodes → P s'
  folded : ∀ s ev ops j, P s →
    reduceEventToOps env s ev = .ok ops →
    P (applyOps (ops.take j) s)
  advanced : ∀ s seq, P s → P (s.advance seq)

/-
  A property that changes of the log which lose no event keep
  as well. It may speak of the events of the log, where a
  lasting one cannot.
-/
structure Enduring (env : RunEnv) (P : Disk → Prop) :
    Prop where
  logged : ∀ s s', P s → s'.manifest = s.manifest →
    s'.nodes = s.nodes → s.events ⊆ s'.events → P s'
  folded : ∀ s ev ops j, P s →
    reduceEventToOps env s ev = .ok ops →
    P (applyOps (ops.take j) s)
  advanced : ∀ s seq, P s → P (s.advance seq)

section Rules

variable {env : RunEnv} {s : Disk} {ev : Event}
variable {ops : List ProjectionOp} {P : Disk → Prop}

theorem Lasting.enduring
    (hLasting : Lasting env P) :
    Enduring env P where
  logged := fun s s' hHere hManifest hNodes _ =>
    hLasting.framed s s' hHere hManifest hNodes
  folded := hLasting.folded
  advanced := hLasting.advanced

theorem lasting_readable (env : RunEnv) :
    Lasting env (Readable env) where
  framed := by
    intro s s' hReadable hManifest _ m hSome
    rw [hManifest] at hSome
    exact hReadable m hSome
  folded := by
    intro s ev ops j hReadable hPlan
    have hOps :=
      writable_of_planned (planned_of_reduce hPlan).2
    exact readable_applyOps hReadable
      (fun op hMem => hOps op (List.mem_of_mem_take hMem))
  advanced := fun _ _ hReadable => readable_advance hReadable

/- What no plan takes from a manifest, nor the watermark. -/
theorem lasting_of_manifest
    {P : Manifest → Prop}
    (hPlanned : ∀ s ev ops m m', Planned env s ev ops →
      s.manifest = some m → .manifest m' ∈ ops → P m → P m')
    (hMark : ∀ m count seq, P m →
      P { m with nodeCount := count, appliedSeq := seq }) :
    Lasting env (fun s => ∃ m, s.manifest = some m ∧ P m) where
  framed := by
    rintro s s' ⟨m, hSome, hP⟩ hManifest _
    exact ⟨m, hManifest.trans hSome, hP⟩
  folded := by
    rintro s ev ops j ⟨m, hSome, hP⟩ hPlan
    rcases applyOps_manifest_cases (ops.take j) s with
      hSame | ⟨m', hMem, hSome'⟩
    · exact ⟨m, hSame.trans hSome, hP⟩
    · exact ⟨m', hSome', hPlanned s ev ops m m'
        (planned_of_reduce hPlan).2 hSome
        (List.mem_of_mem_take hMem) hP⟩
  advanced := by
    rintro s seq ⟨m, hSome, hP⟩
    by_cases hBehind : s.Behind seq
    · rcases hBehind with ⟨m₀, hSome₀, hLt⟩
      rw [hSome, Option.some.injEq] at hSome₀
      subst hSome₀
      rw [Disk.advance_of_behind hSome hLt]
      exact ⟨_, rfl, hMark m _ seq hP⟩
    · rw [Disk.advance_of_not_behind hBehind]
      exact ⟨m, hSome, hP⟩

/- What no rewrite takes from a node. -/
theorem lasting_of_node
    {id : NodeId}
    {P : Node → Prop}
    (hRewrite : ∀ s ev n n', NodeRewrite env s ev id n n' →
      P n → P n') :
    Lasting env
      (fun s => ∃ n, s.nodes.lookup id = some n ∧ P n) where
  framed := by
    rintro s s' ⟨n, hLookup, hP⟩ _ hNodes
    exact ⟨n, by rw [hNodes, hLookup], hP⟩
  folded := by
    rintro s ev ops j ⟨n, hLookup, hP⟩ hPlan
    rcases lookup_take_of_plan hPlan j id with hSame | hWhole
    · exact ⟨n, hSame.trans hLookup, hP⟩
    have hChange := nodeChange_of_reduce hPlan id
    rw [hLookup] at hChange
    rw [hWhole]
    generalize (applyOps ops s).nodes.lookup id = after
      at hChange
    cases hChange with
    | kept => exact ⟨n, rfl, hP⟩
    | rewritten _ n' hNode hStep =>
        exact ⟨n', rfl, hRewrite s ev n n' hStep hP⟩
  advanced := by
    rintro s seq ⟨n, hLookup, hP⟩
    exact ⟨n, by rw [Disk.advance_nodes, hLookup], hP⟩

theorem Enduring.and
    {P' : Disk → Prop}
    (hLeft : Enduring env P)
    (hRight : Enduring env P') :
    Enduring env (fun s => P s ∧ P' s) where
  logged := fun s s' hBoth hManifest hNodes hEvents =>
    ⟨hLeft.logged s s' hBoth.1 hManifest hNodes hEvents,
      hRight.logged s s' hBoth.2 hManifest hNodes hEvents⟩
  folded := fun s ev ops j hBoth hPlan =>
    ⟨hLeft.folded s ev ops j hBoth.1 hPlan,
      hRight.folded s ev ops j hBoth.2 hPlan⟩
  advanced := fun s seq hBoth =>
    ⟨hLeft.advanced s seq hBoth.1,
      hRight.advanced s seq hBoth.2⟩

theorem Enduring.legibly (hEnduring : Enduring env P) :
    Enduring env (Legibly env P) :=
  (lasting_readable env).enduring.and hEnduring

/-
  How one write changes the owner of a run, its parent and
  its settlement intent: a creation, a write that keeps them,
  or the first intent on a node that is there.
-/
inductive ManifestPut (s : Disk) (m' : Manifest) : Prop where
| created
    (hNone : s.manifest = none)
    (hFresh : m'.callerSettlementIntent = none)
| kept (m : Manifest)
    (hWas : s.manifest = some m)
    (hOwner : m'.agentOwner = m.agentOwner)
    (hIntent :
      m'.callerSettlementIntent = m.callerSettlementIntent)
    (hParent : m'.parentRunId = m.parentRunId ∧
      m'.parentNodeId = m.parentNodeId)
| intended (m : Manifest) (intent : CallerSettlementIntent)
    (hWas : s.manifest = some m)
    (hFirst : m.callerSettlementIntent = none)
    (hCaller : m.agentOwner = .caller)
    (hOwner : m'.agentOwner = m.agentOwner)
    (hIntent : m'.callerSettlementIntent = some intent)
    (hNode : s.nodes.lookup intent.nodeId ≠ none)
    (hParent : m'.parentRunId = m.parentRunId ∧
      m'.parentNodeId = m.parentNodeId)

/- A node as its creation leaves it. -/
structure Node.Bare (n : Node) : Prop where
  status : n.status = .pending
  awaitingInput : n.awaitingInput = none
  pendingMerge : n.pendingMerge = none
  workerExit : n.workerExit = none

theorem newNode_bare
    {id : NodeId} {n : Node}
    (hNew : ev.newNode env id = .ok n) :
    n.nodeId = id ∧ n.Bare := by
  have hSpec := newNode_spec env ev id n hNew
  have hYields : Yields (ev.newNode env id) Node.Bare := by
    refine .bind fun _ _ => .bind fun _ _ => .bind fun _ _ =>
      .bind fun _ _ => .bind fun _ _ => .bind fun _ _ =>
      .bind fun _ _ => .pure ?_
    exact ⟨rfl, rfl, rfl, rfl⟩
  exact ⟨hSpec.1.nodeId, hYields n hNew⟩

theorem newManifest_intent
    {m : Manifest}
    (hNew : ev.newManifest env = .ok m) :
    m.callerSettlementIntent = none := by
  have hYields : Yields (ev.newManifest env)
      (fun m => m.callerSettlementIntent = none) := by
    refine .bind fun _ _ => .bind fun _ _ => .bind fun _ _ =>
      .bind fun _ _ => .bind fun _ _ => .bind fun _ _ =>
      .bind fun _ _ => .bind fun _ _ => .bind fun _ _ =>
      .bind fun _ _ => .bind fun _ _ => .pure rfl
  exact hYields m hNew

/- Writes of one file at a time are enough to look at. -/
theorem lasting_of_puts
    (hFramed : ∀ s s', P s → s'.manifest = s.manifest →
      s'.nodes = s.nodes → P s')
    (hManifest : ∀ s m', P s → ManifestPut s m' →
      P (s.putManifest m'))
    (hCreated : ∀ s n, P s →
      s.nodes.lookup n.nodeId = none → n.Bare →
      P (s.putNode n))
    (hStepped : ∀ s ev n n', P s → ev.runId = env.runId →
      s.nodes.lookup n'.nodeId = some n →
      DuesMove env s ev n'.nodeId n n' → P (s.putNode n')) :
    Lasting env P where
  framed := hFramed
  advanced := by
    intro s seq hHere
    by_cases hBehind : s.Behind seq
    · rcases hBehind with ⟨m, hSome, hLt⟩
      rw [Disk.advance_of_behind hSome hLt]
      exact hManifest s _ hHere (.kept m hSome rfl rfl ⟨rfl, rfl⟩)
    · rwa [Disk.advance_of_not_behind hBehind]
  folded := by
    intro s ev ops j hHere hPlan
    have hOne : ∀ op, P (op.put s) →
        P (applyOps ([op].take j) s) := by
      intro op hPut
      cases j with
      | zero => exact hHere
      | succ j =>
          rw [List.take_succ_cons, List.take_nil]
          exact hPut
    cases (planned_of_reduce hPlan).2 with
    | nothing =>
        rw [List.take_nil]
        exact hHere
    | runCreated m _ hNone hNew =>
        exact hOne _ (hManifest s m hHere
          (.created hNone (newManifest_intent hNew)))
    | runStatus m st _ hSome =>
        exact hOne _ (hManifest s _ hHere
          (.kept m hSome rfl rfl ⟨rfl, rfl⟩))
    | nodeAlone id n _ _ hMissing hNew =>
        rcases newNode_bare hNew with ⟨rfl, hBare⟩
        exact hOne _ (hCreated s n hHere hMissing hBare)
    | nodeCreated id n m _ _ hMissing hNew hSome =>
        rcases newNode_bare hNew with ⟨rfl, hBare⟩
        have hNode := hCreated s n hHere hMissing hBare
        rcases j with _ | _ | j
        · exact hHere
        · exact hNode
        · rw [List.take_succ_cons, List.take_succ_cons,
            List.take_nil]
          exact hManifest (s.putNode n) _ hNode
            (.kept m hSome rfl rfl ⟨rfl, rfl⟩)
    | settlementIntent id n m intent _ _ hSome _ hLookup _ _
        hFormed hFirst =>
        unfold CallerSettlementIntent.wellFormed at hFormed
        rw [decide_eq_true_eq] at hFormed
        refine hOne _ (hManifest s _ hHere
          (.intended m { intent with seq := ev.seq } hSome
            hFirst hFormed.1 rfl rfl ?_ ⟨rfl, rfl⟩))
        dsimp only
        rw [hFormed.2.2.1, hLookup]
        exact Option.some_ne_none n
    | stepped id n n' step _ hArm hLookup hValid hStep =>
        have hSame :=
          ((nodeArm_move hArm hStep).1.valid hValid).nodeId
        subst hSame
        exact hOne _ (hStepped s ev n n' hHere
          (planned_of_reduce hPlan).1 hLookup
          (nodeArm_dues hArm n n' hStep))

/- Every event spares what endures. -/
theorem Enduring.sparing (hEnduring : Enduring env P) :
    Sparing env (fun _ => True) P where
  torn := fun s _ hHere =>
    hEnduring.logged s _ hHere rfl rfl (by simp [Disk.events])
  logged := fun s _ _ hHere =>
    hEnduring.logged s _ hHere rfl rfl
      (by simp [Disk.log_events])
  folded := fun s ev ops j _ hHere hPlan =>
    hEnduring.folded s ev ops j hHere hPlan
  advanced := hEnduring.advanced

theorem allows_any (t : Boundary) :
    t.Allows (fun _ => True) := by
  cases t <;> trivial

/- Catch-up folds what it can and moves the watermark. -/
theorem Enduring.keeps_catchUp (hEnduring : Enduring env P) :
    Durable.Keeps (Legibly env P)
      (replayUnappliedUnlocked env) :=
  hEnduring.sparing.keeps_catchUp.keeps allows_any

theorem Enduring.keeps_append
    (hEnduring : Enduring env P) (r : Request) :
    Durable.Keeps (Legibly env P)
      (appendAndApplyUnlocked env r) :=
  (hEnduring.sparing.keeps_append r).keeps allows_any

theorem Enduring.keeps_call
    (hEnduring : Enduring env P) (call : Call) :
    Durable.Keeps (Legibly env P) (call.run env) :=
  (hEnduring.sparing.keeps_call call).keeps allows_any

theorem Enduring.keeps_apply
    (hEnduring : Enduring env P) (ev : Event) :
    Durable.Keeps (Legibly env P) (applyEvent env ev) :=
  (hEnduring.sparing.keeps_apply ev).keeps allows_any

end Rules

------------------------------------------------------------
-- Writers
------------------------------------------------------------

section Writers

variable {env : RunEnv} {P : Disk → Prop}

theorem Enduring.keeps_writer
    (hEnduring : Enduring env P) (w : Writer) :
    Durable.Keeps (Legibly env P) (w.run env) :=
  (hEnduring.sparing.keeps_writer w).keeps allows_any

/- Repairs of the log leave the projections alone. -/
theorem Lasting.keeps_quarantine
    (hLasting : Lasting env P) (backupTs : String) :
    Durable.Keeps (Legibly env P)
      (Op.run env (.quarantine backupTs)) := by
  have hFrame : ∀ s s', Legibly env P s →
      s'.manifest = s.manifest → s'.nodes = s.nodes →
      Legibly env P s' := by
    intro s s' hHere hManifest hNodes
    exact ⟨(lasting_readable env).framed s s' hHere.1 hManifest
      hNodes, hLasting.framed s s' hHere.2 hManifest hNodes⟩
  apply Durable.Keeps.bind ?_ (fun _ => .pure _)
  unfold quarantineCorruptLines
  apply Durable.Keeps.read
  intro d _
  apply Durable.Keeps.ite
  · intro _
    exact .pure _
  intro _
  apply Durable.Keeps.bind
  · exact .write (fun s hHere => hFrame s _ hHere rfl rfl)
  intro _
  apply Durable.Keeps.bind
  · exact .write (fun s hHere => hFrame s _ hHere rfl rfl)
  intro _
  exact .pure _

theorem Enduring.keeps_truncate
    (hEnduring : Enduring env P) :
    Durable.Keeps (Legibly env P) (Op.run env .truncate) := by
  intro s hHere
  have hCut : Legibly env P { s with torn := false } :=
    hEnduring.legibly.logged s _ hHere rfl rfl
      (by simp [Disk.events])
  exact wp_truncateTornTail.mpr ⟨fun _ => hCut, hCut⟩

theorem Enduring.keeps_foreign
    (hEnduring : Enduring env P)
    (pos : Nat) (line : LogLine) :
    Durable.Keeps (Legibly env P)
      (Op.run env (.foreign pos line)) := by
  apply Durable.Keeps.ite
  · intro _
    exact .pure _
  · intro hLine
    apply Durable.Keeps.write
    intro s hHere
    refine hEnduring.legibly.logged s _ hHere rfl rfl ?_
    unfold Disk.events
    rw [Bool.or_eq_true, not_or] at hLine
    rw [events_foreign hLine.1 pos s.lines]
    exact List.Subset.refl _

end Writers

------------------------------------------------------------
-- All Runs
------------------------------------------------------------

/-
  Everything that changes a run: the locked operations, the
  writers, and the bare fold of any event.
-/
inductive Act where
| op (o : Op)
| writer (w : Writer)
| fold (ev : Event)

namespace Act

def run (env : RunEnv) : Act → Locked Unit
| .op o => o.run env
| .writer w => w.run env
| .fold ev => applyEvent env ev

end Act

/- The runs from some states on, each act cut anywhere. -/
def ActsFrom (env : RunEnv) (Init : Disk → Prop) :
    Disk → Prop :=
  Durable.Reach (Act.run env) Init (fun _ _ _ => True)

/- The runs from the empty directory on. -/
def ActRun (env : RunEnv) : Disk → Prop :=
  ActsFrom env (fun s => s = Disk.empty)

section Runs

variable {env : RunEnv} {d : Disk} {P : Disk → Prop}

theorem Lasting.keeps
    (hLasting : Lasting env P) (act : Act) :
    Durable.Keeps (Legibly env P) (act.run env) := by
  have hEnduring := hLasting.enduring
  cases act with
  | writer w => exact hEnduring.keeps_writer w
  | fold ev => exact hEnduring.keeps_apply ev
  | op o =>
      cases o with
      | call c => exact hEnduring.keeps_call c
      | truncate => exact hEnduring.keeps_truncate
      | quarantine backupTs =>
          exact hLasting.keeps_quarantine backupTs
      | foreign pos line =>
          exact hEnduring.keeps_foreign pos line

/-
  A cut between the two writes of a quarantine apart, where
  the run has no log.
-/
theorem Enduring.acts
    {s : Disk}
    (hEnduring : Enduring env P) (act : Act)
    (hHere : Legibly env P s) :
    Durable.wp (act.run env) (fun _ => Legibly env P)
      (fun _ => Legibly env P)
      (fun t s' => t ≠ .renamed → Legibly env P s') s := by
  have hKept {α : Type} {x : Locked α}
      (hKeeps : Durable.Keeps (Legibly env P) x)
      (s : Disk) (hHere : Legibly env P s) :
      Durable.wp x (fun _ => Legibly env P)
        (fun _ => Legibly env P)
        (fun t s' => t ≠ .renamed → Legibly env P s') s :=
    Durable.wp_mono (hKeeps s hHere) (fun _ _ h => h)
      (fun _ _ h => h) (fun _ _ h _ => h)
  cases act with
  | writer w =>
      exact hKept (hEnduring.keeps_writer w) s hHere
  | fold ev => exact hKept (hEnduring.keeps_apply ev) s hHere
  | op o =>
      refine wp_op ?_ ?_ (by simp) o hHere
      · intro s s' hHere hManifest hNodes hEvents _
        apply hEnduring.legibly.logged s s' hHere hManifest
          hNodes
        rw [hEvents]
        exact List.Subset.refl _
      · intro call s hHere
        exact hKept (hEnduring.keeps_call call) s hHere

theorem Lasting.actsFrom
    {Init : Disk → Prop}
    (hLasting : Lasting env P)
    (hInit : ∀ s, Init s → Legibly env P s)
    (hRun : ActsFrom env Init d) :
    Legibly env P d := by
  refine Durable.Reach.invariant hInit ?_ hRun
  intro act s hHere
  exact Durable.wp_mono (hLasting.keeps act s hHere)
    (fun _ _ h => h) (fun _ _ h => h) (fun _ _ h _ => h)

theorem Lasting.actRun
    (hLasting : Lasting env P)
    (hEmpty : P Disk.empty)
    (hRun : ActRun env d) :
    Legibly env P d := by
  refine hLasting.actsFrom ?_ hRun
  rintro s rfl
  exact ⟨readable_empty, hEmpty⟩

end Runs

------------------------------------------------------------
-- Sample Runs
------------------------------------------------------------

namespace Sample

/- A run that can read one time stamp. -/
def clockEnv : RunEnv where
  runId := env.runId
  parseRfc3339 := fun s =>
    if s = "1970-01-01T00:00:00Z" then some 0 else none
  parseDateTime := fun s =>
    if s = "1970-01-01T00:00:00Z" then some 0 else none

/- The state after acts that each run to their end. -/
def acted (acts : List Act) : Disk :=
  acts.foldl (fun d act => (act.run clockEnv).final d)
    Disk.empty

theorem actRun_acted (acts : List Act) :
    ActRun clockEnv (acted acts) := by
  induction acts using List.reverseRecOn with
  | nil => exact .start rfl
  | append_singleton acts act ih =>
      unfold acted
      rw [List.foldl_append]
      exact .done act ih

def appends (r : Request) : Act := .op (.call (.append r))

/- The transaction of a caller's merge. -/
def callerTxnData : Json :=
  .obj
    [("caller_authority",
        .obj
          [("intent_key", .str "k"), ("intent_seq", .int 5),
            ("writer_dev", .int 1), ("writer_ino", .int 1)]),
      ("expected_source_oid", .str "a"),
      ("op_id", .str "op-1"), ("source_branch", .str "main"),
      ("started_at", .str "1970-01-01T00:00:00Z"),
      ("worker_branch", .str "work"),
      ("worker_oid", .str "b")]

/- A failed caller run with the intent to merge its node. -/
def intendedActs : List Act :=
  [appends (request .runCreated none
      (.obj
        [("agent_owner", .str "caller"),
          ("kind", .str "spinoff"),
          ("lifecycle", .str "autonomous"),
          ("source_branch", .str "main"),
          ("title", .str "t")])),
    appends (request .nodeCreated (some .first)
      (.obj
        [("branch", .str "work"), ("kind", .str "spinoff")])),
    appends (request .nodeReport (some .first)
      (.obj [("success", .bool false)])),
    appends (request .runStatus none
      (.obj [("status", .str "failed")])),
    appends
      { now := 0
        kind := .callerSettlementIntent
        nodeId := some .first
        key := some "k"
        data := mergeIntentData }]

/- That run with the merge under way. -/
def mergingActs : List Act :=
  intendedActs ++
    [appends
      (request .mergeStarted (some .first) callerTxnData)]

end Sample

end Taskfleet
