import Taskfleet.Agreement
import Taskfleet.Operations
import Taskfleet.Reducer.Refold

/-
  The node counter of the manifest, the node files and the
  node creations in the log.

  The counter is derived from the files whenever the
  watermark moves. A creation past the watermark is always
  the last event of the log, and no replay refuses it, so
  the next successful call folds it and counts again.

  Main declarations:
    * `Disk.createdNodes`, `Counted`
    * `counted_written`, `Counted.wp_call`
    * `counters_agree`
    * `not_counters_agree`
-/

------------------------------------------------------------
-- Created Nodes
------------------------------------------------------------

namespace Taskfleet

open Fallible

/- The node that an event creates. -/
def Event.createdNode (ev : Event) : Option NodeId :=
  if ev.kind = .nodeCreated then ev.nodeId else none

/- The distinct nodes created in the log. -/
def Disk.createdNodes (d : Disk) : Finset NodeId :=
  (d.events.filterMap Event.createdNode).toFinset

theorem createdNode_eq_some
    {ev : Event} {id : NodeId} :
    ev.createdNode = some id ↔
      ev.kind = .nodeCreated ∧ ev.nodeId = some id := by
  unfold Event.createdNode
  by_cases hKind : ev.kind = .nodeCreated
  · simp [hKind]
  · simp [hKind]

theorem mem_createdNodes
    {d : Disk} {id : NodeId} :
    id ∈ d.createdNodes ↔
      ∃ ev ∈ d.events, ev.createdNode = some id := by
  unfold Disk.createdNodes
  simp

/-
  A creation that the reducer takes: of a node whose file is
  there, or with a payload that describes one.
-/
def Event.Creatable
    (env : RunEnv) (s : Disk) (ev : Event) : Prop :=
  ev.runId = env.runId ∧ ∃ id, ev.nodeId = some id ∧
    (id ∈ s.nodes.keys ∨ ∃ n, ev.newNode env id = .ok n)

theorem accepted_of_creatable
    {env : RunEnv} {s : Disk} {ev : Event}
    (hReadable : Readable env s)
    (hNodes : NodesReadable env s)
    (hKind : ev.kind = .nodeCreated)
    (hCreatable : ev.Creatable env s) :
    ∃ ops, reduceEventToOps env s ev = .ok ops := by
  rcases hCreatable with ⟨hRun, id, hNode, hCase⟩
  have hReduce : reduceEventToOps env s ev =
      reduceNodeCreated env s ev := by
    unfold reduceEventToOps reduceKind
    rw [hKind]
    simp [refuseIf, hRun]
  rw [hReduce]
  unfold reduceNodeCreated
  simp only [Event.requireEnvelopeNodeId, hNode,
    orError_some, ok_bind, readNodeOpt_of_readable hNodes]
  cases hLookup : s.nodes.lookup id with
  | some n => exact ⟨[], rfl⟩
  | none =>
      rcases hCase with hThere | ⟨n, hNew⟩
      · rw [Finmap.mem_keys, Finmap.mem_iff] at hThere
        rcases hThere with ⟨n, hSome⟩
        rw [hLookup] at hSome
        cases hSome
      simp only [hNew, ok_bind,
        readManifestOpt_of_readable hReadable]
      cases hManifest : s.manifest with
      | none => exact ⟨_, rfl⟩
      | some m => exact ⟨_, rfl⟩

------------------------------------------------------------
-- Plans and the Counter
------------------------------------------------------------

section Plans

variable {env : RunEnv} {d s : Disk} {ev : Event}
variable {ops : List ProjectionOp}

theorem mem_putNode
    {n : Node} {id : NodeId} :
    id ∈ (s.putNode n).nodes.keys ↔
      id = n.nodeId ∨ id ∈ s.nodes.keys := by
  rw [Disk.putNode_nodes, Finmap.mem_keys, Finmap.mem_insert,
    Finmap.mem_keys]

theorem keys_of_existing
    {n : Node}
    (hThere : n.nodeId ∈ s.nodes.keys) :
    (s.putNode n).nodes.keys = s.nodes.keys := by
  ext id
  rw [mem_putNode]
  constructor
  · intro hCase
    rcases hCase with hSame | hOld
    · rw [hSame]
      exact hThere
    · exact hOld
  · intro hOld
    exact .inr hOld

/-
  What a part of a plan does to the counter and the files: it
  leaves both alone, or it adds the file of a created node.
-/
structure CountsKept
    (env : RunEnv) (ev : Event) (s s' : Disk) : Prop where
  counter : s'.manifest.map Manifest.nodeCount =
    s.manifest.map Manifest.nodeCount
  files : s'.nodes.keys = s.nodes.keys ∨
    ∃ id, ev.createdNode = some id ∧
      s'.nodes.keys = insert id s.nodes.keys

theorem countsKept_of_plan
    (hManifest : s.manifest ≠ none)
    (hPlan : reduceEventToOps env s ev = .ok ops)
    (k : Nat) :
    CountsKept env ev s (applyOps (ops.take k) s) := by
  cases k with
  | zero => exact ⟨rfl, .inl rfl⟩
  | succ j =>
      cases (planned_of_reduce hPlan).2 with
      | nothing => exact ⟨rfl, .inl rfl⟩
      | runCreated m hKind hNone => exact absurd hNone hManifest
      | nodeAlone id n hKind hNode hMissing hNew hNone =>
          exact absurd hNone hManifest
      | runStatus m s' hKind hSome =>
          constructor
          · simp [ProjectionOp.put, hSome]
          · simp [ProjectionOp.put]
      | settlementIntent id n m intent hKind hNode hSome =>
          constructor
          · simp [ProjectionOp.put, hSome]
          · simp [ProjectionOp.put]
      | stepped id n n' step hNode hArm hLookup hValid hStep =>
          have hSame := (nodeArm_move hArm hStep).1
          have hId := (hSame.valid hValid).nodeId
          constructor
          · simp [ProjectionOp.put]
          · left
            simp only [List.take_succ_cons, List.take_nil,
              applyOps_cons, applyOps_nil, ProjectionOp.put]
            apply keys_of_existing
            rw [hId, Finmap.mem_keys, Finmap.mem_iff]
            exact ⟨n, hLookup⟩
      | nodeCreated id n m hKind hNode hMissing hNew hSome =>
          have hId := (newNode_spec env ev id n hNew).1.nodeId
          have hCreated : ev.createdNode = some id :=
            createdNode_eq_some.mpr ⟨hKind, hNode⟩
          have hKeys :
              (s.putNode n).nodes.keys =
                insert id s.nodes.keys := by
            ext id'
            rw [mem_putNode, hId, Finset.mem_insert]
          constructor
          · cases j with
            | zero => simp [ProjectionOp.put]
            | succ j =>
                simp [ProjectionOp.put, hSome,
                  Manifest.materialize]
          · right
            apply Exists.intro id
            apply And.intro hCreated
            cases j with
            | zero => exact hKeys
            | succ j => simpa [ProjectionOp.put] using hKeys

/- A creation whose whole plan is written has its file. -/
theorem file_of_plan
    {id : NodeId}
    (hPlan : reduceEventToOps env s ev = .ok ops)
    (hCreated : ev.createdNode = some id) :
    id ∈ (applyOps ops s).nodes.keys := by
  rcases createdNode_eq_some.mp hCreated with ⟨hKind, hNode⟩
  have hReduce := (reduce_eq_ok.mp hPlan).2
  unfold reduceKind at hReduce
  rw [hKind] at hReduce
  unfold reduceNodeCreated at hReduce
  simp only [bind_eq_ok, Event.requireEnvelopeNodeId,
    orError_eq_ok] at hReduce
  rcases hReduce with ⟨id', hNode', read, hRead, hRest⟩
  rw [hNode, Option.some.injEq] at hNode'
  subst hNode'
  cases read with
  | some n =>
      cases hRest
      rw [applyOps_nil, Finmap.mem_keys, Finmap.mem_iff]
      exact ⟨n, (readNodeOpt_eq_some.mp hRead).1⟩
  | none =>
      simp only [bind_eq_ok] at hRest
      rcases hRest with ⟨n, hNew, manifest, _, hRest⟩
      have hId := (newNode_spec env ev id n hNew).1.nodeId
      have hPut : id ∈ (s.putNode n).nodes.keys := by
        rw [mem_putNode, hId]
        exact .inl rfl
      cases manifest with
      | none =>
          cases hRest
          exact hPut
      | some m =>
          cases hRest
          exact hPut

/- A creation that is planned can be planned again. -/
theorem creatable_of_plan
    (hKind : ev.kind = .nodeCreated)
    (hPlan : reduceEventToOps env s ev = .ok ops) :
    ev.Creatable env s := by
  rcases reduce_eq_ok.mp hPlan with ⟨hRun, hReduce⟩
  unfold reduceKind at hReduce
  rw [hKind] at hReduce
  unfold reduceNodeCreated at hReduce
  simp only [bind_eq_ok, Event.requireEnvelopeNodeId,
    orError_eq_ok] at hReduce
  rcases hReduce with ⟨id, hNode, read, hRead, hRest⟩
  apply And.intro hRun
  apply Exists.intro id
  apply And.intro hNode
  cases read with
  | some n =>
      left
      rw [Finmap.mem_keys, Finmap.mem_iff]
      exact ⟨n, (readNodeOpt_eq_some.mp hRead).1⟩
  | none =>
      right
      simp only [bind_eq_ok] at hRest
      rcases hRest with ⟨n, hMade, _⟩
      exact ⟨n, hMade⟩

end Plans

------------------------------------------------------------
-- Counted Runs
------------------------------------------------------------

/-
  What every locked operation keeps. A creation past the
  watermark is the last event of the log; once there is
  none, the counter is that of the files.
-/
structure Counted (env : RunEnv) (d : Disk) : Prop where
  manifest : d.manifest ≠ none
  readable : Readable env d
  nodes : NodesReadable env d
  ordered : d.Ordered
  behind : d.appliedSeq ≤ d.lastSeq
  creatable : ∀ ev ∈ d.events, ev.kind = .nodeCreated →
    ev.Creatable env d
  logged : ∀ id ∈ d.nodes.keys, id ∈ d.createdNodes
  folded : ∀ ev ∈ d.events, ev.seq ≤ d.appliedSeq →
    ∀ id, ev.createdNode = some id → id ∈ d.nodes.keys
  ahead : ∀ ev ∈ d.events, ev.kind = .nodeCreated →
    d.appliedSeq < ev.seq → ev.seq = d.lastSeq
  counted :
    (∀ ev ∈ d.events, ev.kind = .nodeCreated →
      ev.seq ≤ d.appliedSeq) →
    ∀ m, d.manifest = some m → m.nodeCount = d.countNodeFiles

/- No creation is past the watermark. -/
def AllFolded (d : Disk) : Prop :=
  ∀ ev ∈ d.events, ev.kind = .nodeCreated →
    ev.seq ≤ d.appliedSeq

section Steps

variable {env : RunEnv} {d s : Disk} {ev : Event}
variable {ops : List ProjectionOp}

theorem Counted.congr
    {d' : Disk}
    (hCounted : Counted env d)
    (hManifest : d'.manifest = d.manifest)
    (hNodes : d'.nodes = d.nodes)
    (hEvents : d'.events = d.events)
    (hPlain : d.Plain → d'.Plain) :
    Counted env d' := by
  have hMark : d'.appliedSeq = d.appliedSeq := by
    unfold Disk.appliedSeq
    rw [hManifest]
  have hLast : d'.lastSeq = d.lastSeq := by
    unfold Disk.lastSeq
    rw [hEvents]
  have hCreated : d'.createdNodes = d.createdNodes := by
    unfold Disk.createdNodes
    rw [hEvents]
  have hFiles : d'.countNodeFiles = d.countNodeFiles := by
    unfold Disk.countNodeFiles
    rw [hNodes]
  constructor
  · rw [hManifest]
    exact hCounted.manifest
  · unfold Readable
    rw [hManifest]
    exact hCounted.readable
  · unfold NodesReadable
    rw [hNodes]
    exact hCounted.nodes
  · exact hCounted.ordered.of_events hEvents hPlain
  · rw [hMark, hLast]
    exact hCounted.behind
  · unfold Event.Creatable
    rw [hEvents, hNodes]
    exact hCounted.creatable
  · rw [hNodes, hCreated]
    exact hCounted.logged
  · rw [hEvents, hNodes, hMark]
    exact hCounted.folded
  · rw [hEvents, hMark, hLast]
    exact hCounted.ahead
  · rw [hEvents, hMark, hManifest, hFiles]
    exact hCounted.counted

theorem CountsKept.mono
    {s' : Disk} {id : NodeId}
    (hKept : CountsKept env ev s s')
    (hThere : id ∈ s.nodes.keys) :
    id ∈ s'.nodes.keys := by
  rcases hKept.files with hSame | ⟨id', _, hInsert⟩
  · rw [hSame]
    exact hThere
  · rw [hInsert]
    exact Finset.mem_insert_of_mem hThere

/-
  Writing a part of the plan of an event past the watermark:
  the counter stays, and the files change only where the
  event is itself a creation not folded yet.
-/
theorem Counted.written
    (hCounted : Counted env s)
    (hMem : ev ∈ s.events)
    (hAhead : s.appliedSeq < ev.seq)
    (hPlan : reduceEventToOps env s ev = .ok ops)
    (k : Nat) :
    Counted env (applyOps (ops.take k) s) := by
  have hKept := countsKept_of_plan hCounted.manifest hPlan k
  have hOps :=
    writable_of_planned (planned_of_reduce hPlan).2
  have hTaken : ∀ op ∈ ops.take k, op.Writable env :=
    fun op hIn => hOps op (List.mem_of_mem_take hIn)
  have hMark := appliedSeq_of_plan hPlan rfl k
  have hLast :
      (applyOps (ops.take k) s).lastSeq = s.lastSeq :=
    lastSeq_congr (applyOps_lines _ s)
  have hCreated :
      (applyOps (ops.take k) s).createdNodes =
        s.createdNodes := by
    unfold Disk.createdNodes
    rw [Disk.applyOps_events]
  constructor
  · exact manifest_ne_none_of_applyOps hCounted.manifest
  · exact readable_applyOps hCounted.readable hTaken
  · exact nodesReadable_applyOps hCounted.nodes hTaken
  · exact hCounted.ordered.congr (applyOps_lines _ s)
  · rw [hMark, hLast]
    exact hCounted.behind
  · rw [Disk.applyOps_events]
    intro e hIn hKind
    rcases hCounted.creatable e hIn hKind with
      ⟨hRun, id, hNode, hThere | hNew⟩
    · exact ⟨hRun, id, hNode, .inl (hKept.mono hThere)⟩
    · exact ⟨hRun, id, hNode, .inr hNew⟩
  · intro id hThere
    rw [hCreated]
    rcases hKept.files with hSame | ⟨id', hNamed, hInsert⟩
    · rw [hSame] at hThere
      exact hCounted.logged id hThere
    · rw [hInsert, Finset.mem_insert] at hThere
      rcases hThere with hNew | hOld
      · rw [mem_createdNodes, hNew]
        exact ⟨ev, hMem, hNamed⟩
      · exact hCounted.logged id hOld
  · rw [Disk.applyOps_events, hMark]
    intro e hIn hSeq id hNamed
    exact hKept.mono (hCounted.folded e hIn hSeq id hNamed)
  · rw [Disk.applyOps_events, hMark, hLast]
    exact hCounted.ahead
  · rw [Disk.applyOps_events, hMark]
    intro hAll m hSome
    rcases Option.ne_none_iff_exists'.mp hCounted.manifest with
      ⟨m₀, hSome₀⟩
    have hCounter := hKept.counter
    rw [hSome, hSome₀, Option.map_some, Option.map_some,
      Option.some.injEq] at hCounter
    rcases hKept.files with hSame | ⟨id, hNamed, _⟩
    · unfold Disk.countNodeFiles
      rw [hSame, hCounter]
      exact hCounted.counted hAll m₀ hSome₀
    · have hKind := (createdNode_eq_some.mp hNamed).1
      have hPast := hAll ev hMem hKind
      omega

/- The watermark moves over a written event and recounts. -/
theorem Counted.advanced
    (hCounted : Counted env s)
    (hMem : ev ∈ s.events)
    (hAhead : s.appliedSeq < ev.seq)
    (hPlan : reduceEventToOps env s ev = .ok ops) :
    Counted env ((applyOps ops s).advance ev.seq) ∧
      ((applyOps ops s).advance ev.seq).appliedSeq =
        ev.seq := by
  have hWritten :=
    hCounted.written hMem hAhead hPlan ops.length
  rw [List.take_length] at hWritten
  have hMark :=
    appliedSeq_folded hCounted.manifest hAhead hPlan
  have hLast := lastSeq_folded ops s ev.seq
  have hEnd : ev.seq ≤ s.lastSeq :=
    seq_le_lastSeqOf hCounted.ordered.increasing hMem
  rcases Option.ne_none_iff_exists'.mp hWritten.manifest with
    ⟨m, hSome⟩
  have hBehind : m.appliedSeq < ev.seq := by
    rw [← Disk.appliedSeq_of_manifest hSome,
      appliedSeq_of_whole hPlan]
    exact hAhead
  apply And.intro _ hMark
  constructor
  · rcases advance_manifest_some ev.seq hSome with
      ⟨m', hSome', _⟩
    simp [hSome']
  · exact readable_advance hWritten.readable
  · unfold NodesReadable
    rw [Disk.advance_nodes]
    exact hWritten.nodes
  · exact hWritten.ordered.congr (Disk.advance_lines _ _)
  · rw [hMark, hLast]
    exact hEnd
  · unfold Event.Creatable
    rw [Disk.advance_events, Disk.advance_nodes]
    exact hWritten.creatable
  · unfold Disk.createdNodes
    rw [Disk.advance_events, Disk.advance_nodes]
    exact hWritten.logged
  · rw [Disk.advance_events, Disk.advance_nodes, hMark]
    intro e hIn hSeq id hNamed
    by_cases hCovered : e.seq ≤ s.appliedSeq
    · exact hWritten.folded e hIn
        (by rw [appliedSeq_of_whole hPlan]; exact hCovered)
        id hNamed
    · -- a creation past the watermark is the last event
      rw [Disk.applyOps_events] at hIn
      have hKind := (createdNode_eq_some.mp hNamed).1
      have hTop :=
        hCounted.ahead e hIn hKind (Nat.lt_of_not_le hCovered)
      have hSame : e = ev :=
        seq_injective hCounted.ordered hIn hMem (by omega)
      rw [hSame] at hNamed
      exact file_of_plan hPlan hNamed
  · rw [Disk.advance_events, hMark, hLast,
      Disk.applyOps_events]
    intro e hIn hKind hPast
    exact hCounted.ahead e hIn hKind (by omega)
  · intro _ m' hSome'
    rw [Disk.advance_of_behind hSome hBehind,
      Disk.putManifest_manifest, Option.some.injEq] at hSome'
    rw [← hSome']
    unfold Disk.countNodeFiles
    rw [Disk.advance_nodes]

/- An appended event is the last one, and not folded yet. -/
theorem Counted.log
    (hCounted : Counted env s)
    (hAll : AllFolded s)
    (hSeq : ev.seq = s.lastSeq + 1)
    (hPlan : reduceEventToOps env s ev = .ok ops) :
    Counted env (s.log ev) := by
  have hBehind := hCounted.behind
  have hMark : (s.log ev).appliedSeq = s.appliedSeq := rfl
  have hLast : (s.log ev).lastSeq = ev.seq := by
    rw [Disk.lastSeq, Disk.log_events, lastSeqOf_concat]
  constructor
  · exact hCounted.manifest
  · exact hCounted.readable
  · exact hCounted.nodes
  · exact ordered_log hCounted.ordered hSeq
  · rw [hMark, hLast]
    omega
  · intro e hIn hKind
    rw [Disk.log_events, List.mem_append,
      List.mem_singleton] at hIn
    rcases hIn with hOld | hNew
    · exact hCounted.creatable e hOld hKind
    · rw [hNew] at hKind ⊢
      exact creatable_of_plan hKind
        ((reduce_logged env s ev).trans hPlan)
  · intro id hThere
    rcases mem_createdNodes.mp (hCounted.logged id hThere) with
      ⟨e, hIn, hNamed⟩
    rw [mem_createdNodes, Disk.log_events]
    exact ⟨e, List.mem_append_left _ hIn, hNamed⟩
  · intro e hIn hCovered
    rw [Disk.log_events, List.mem_append,
      List.mem_singleton] at hIn
    rw [hMark] at hCovered
    rcases hIn with hOld | hNew
    · exact hCounted.folded e hOld hCovered
    · rw [hNew] at hCovered
      omega
  · intro e hIn hKind hAhead
    rw [Disk.log_events, List.mem_append,
      List.mem_singleton] at hIn
    rw [hMark] at hAhead
    rw [hLast]
    rcases hIn with hOld | hNew
    · have hDone := hAll e hOld hKind
      omega
    · rw [hNew]
  · intro _ m hSome
    exact hCounted.counted hAll m hSome

/- What is left after a catch-up holds no creation. -/
theorem Counted.allFolded
    (hCounted : Counted env s)
    (hSettled : Settled env s) :
    AllFolded s := by
  intro ev hMem hKind
  by_contra hPast
  rcases Option.ne_none_iff_exists'.mp hCounted.manifest with
    ⟨m, hSome⟩
  rw [Disk.appliedSeq_of_manifest hSome] at hPast
  rcases hSettled.refused m hSome ev hMem
    (Nat.lt_of_not_le hPast) with ⟨e, hRefused⟩
  rcases accepted_of_creatable hCounted.readable
    hCounted.nodes hKind (hCounted.creatable ev hMem hKind) with
    ⟨ops, hPlan⟩
  rw [hRefused] at hPlan
  cases hPlan

theorem Counted.wp_catchUp (hCounted : Counted env d) :
    Durable.wp (replayUnappliedUnlocked env)
      (fun _ s => Counted env s ∧ AllFolded s)
      (fun _ s => Counted env s) (fun _ s => Counted env s)
      d := by
  apply Durable.wp_mono
    (wp_catchUp_rule (I := Counted env)
      (fun _ hI => hI.readable) hCounted.ordered _
      (hCounted.congr rfl rfl rfl (fun hPlain => hPlain)))
  · intro _ s hEnd
    exact ⟨hEnd.1, hEnd.1.allFolded hEnd.2.2⟩
  · intro _ s hEnd
    exact hEnd.1
  · intro _ s hCut
    exact hCut.1
  · intro s ev ops hI _ hMem hAhead _ hPlan
    constructor
    · intro j
      exact hI.written hMem hAhead hPlan (j + 1)
    · exact (hI.advanced hMem hAhead hPlan).1

theorem Counted.gateWrites
    (hCounted : Counted env s)
    (hAll : AllFolded s)
    (hSeq : ev.seq = s.lastSeq + 1)
    (hPlan : reduceEventToOps env s ev = .ok ops) :
    GateWrites (fun _ s => Counted env s)
      (fun s => Counted env s ∧ AllFolded s) s ev ops := by
  have hBehind := hCounted.behind
  have hLogged := hCounted.log hAll hSeq hPlan
  have hMem : ev ∈ (s.log ev).events := by simp
  have hAhead : (s.log ev).appliedSeq < ev.seq := by
    change s.appliedSeq < ev.seq
    omega
  have hAgain := (reduce_logged env s ev).trans hPlan
  have hDone := hLogged.advanced hMem hAhead hAgain
  constructor
  · exact hCounted.congr rfl rfl rfl (fun hPlain => hPlain)
  · exact hLogged
  · intro j _
    exact hLogged.written hMem hAhead hAgain (j + 1)
  · intro _
    exact hDone.1
  · apply And.intro hDone.1
    intro e hIn _
    rw [hDone.2]
    rw [Disk.advance_events, Disk.applyOps_events] at hIn
    have hEnd :=
      seq_le_lastSeqOf hLogged.ordered.increasing hIn
    rw [Disk.log_events, lastSeqOf_concat] at hEnd
    exact hEnd

theorem Counted.wp_call
    (hCounted : Counted env d) (call : Call) :
    Durable.wp (call.run env)
      (fun _ s => Counted env s ∧ AllFolded s)
      (fun _ s => Counted env s) (fun _ s => Counted env s)
      d := by
  apply Taskfleet.wp_call call
    (R := fun s => Counted env s ∧ AllFolded s)
    (fun _ hI => hI.wp_catchUp) (fun _ hR => hR.1)
    (fun _ hR => hR) (fun _ hR => hR.1.readable) _ hCounted
  intro s last r ops _ hR hLast hPlan
  have hEnd := recoverLastSeq_eq hR.1.ordered.plain hLast
  rw [hEnd] at hPlan ⊢
  exact hR.1.gateWrites hR.2 rfl hPlan

------------------------------------------------------------
-- Runs
------------------------------------------------------------

theorem newManifest_nodeCount
    {m : Manifest}
    (hNew : ev.newManifest env = .ok m) :
    m.nodeCount = 0 := by
  have hYields : Yields (ev.newManifest env)
      (fun m => m.nodeCount = 0) := by
    refine .bind fun _ _ => .bind fun _ _ => .bind fun _ _ =>
      .bind fun _ _ => .bind fun _ _ => .bind fun _ _ =>
      .bind fun _ _ => .bind fun _ _ => .bind fun _ _ =>
      .bind fun _ _ => .bind fun _ _ => .pure rfl
  exact hYields m hNew

/- A run with its creation in the log and no node. -/
theorem counted_created
    {r : Request} {m : Manifest}
    (hKind : r.kind = .runCreated)
    (hNew : (r.event env 1).newManifest env = .ok m) :
    Counted env
      ((Disk.empty.log (r.event env 1)).putManifest m) := by
  have hSpec := newManifest_spec env (r.event env 1) m hNew
  have hOnly : ∀ e ∈ ((Disk.empty.log
      (r.event env 1)).putManifest m).events,
      e.kind ≠ .nodeCreated := by
    intro e hIn
    have hSame : e = r.event env 1 := by
      simpa [Disk.events, Disk.log, Disk.empty] using hIn
    rw [hSame]
    change r.kind ≠ .nodeCreated
    rw [hKind]
    decide
  constructor
  · simp
  · intro m' hSome
    cases hSome
    exact hSpec.1
  · intro id n hLookup
    simp [Disk.log, Disk.empty] at hLookup
  · exact Disk.Ordered.congr
      (d := Disk.empty.log (r.event env 1)) rfl
      (ordered_log ordered_empty rfl)
  · unfold Disk.appliedSeq
    rw [Disk.putManifest_manifest, Option.map_some,
      hSpec.2.2.1]
    exact Nat.zero_le _
  · intro e hIn hCreated
    exact absurd hCreated (hOnly e hIn)
  · intro id hThere
    rw [Finmap.mem_keys] at hThere
    exact absurd hThere Finmap.notMem_empty
  · intro e hIn _ id hNamed
    exact absurd (createdNode_eq_some.mp hNamed).1
      (hOnly e hIn)
  · intro e hIn hCreated
    exact absurd hCreated (hOnly e hIn)
  · intro _ m' hSome
    cases hSome
    rw [newManifest_nodeCount hNew]
    rfl

theorem Booted.counted (hBooted : Booted env d) :
    Counted env d := by
  have hMade : ∀ (r : Request) ops, r.kind = .runCreated →
      reduceEventToOps env Disk.empty (r.event env 1) =
        .ok ops →
      ops = [] ∨ ∃ m,
        (r.event env 1).newManifest env = .ok m ∧
          ops = [.manifest m] := by
    intro r ops hKind hPlan
    have hOther : (r.event env 1).kind = .runCreated := hKind
    cases (planned_of_reduce hPlan).2 with
    | nothing => exact .inl rfl
    | runCreated m _ _ hNew => exact .inr ⟨m, hNew, rfl⟩
    | runStatus m s h => simp [hOther] at h
    | nodeAlone id n h => simp [hOther] at h
    | nodeCreated id n m h => simp [hOther] at h
    | settlementIntent id n m i h => simp [hOther] at h
    | stepped id n n' step hNode hArm hLookup =>
        simp [Disk.empty] at hLookup
  apply hBooted.rule
  · intro r ops j hKind hPlan hManifest
    rcases hMade r ops hKind hPlan with hNil | ⟨m, hNew, hOps⟩
    · rw [hNil] at hManifest
      exact absurd rfl hManifest
    · rw [hOps]
      simpa [ProjectionOp.put] using counted_created hKind hNew
  · intro r ops hKind hPlan hManifest
    rcases hMade r ops hKind hPlan with hNil | ⟨m, hNew, hOps⟩
    · rw [hNil] at hManifest
      exact absurd rfl hManifest
    · have hCounted := counted_created hKind hNew
      have hMark :
          ((Disk.empty.log (r.event env 1)).putManifest
            m).appliedSeq < (r.event env 1).seq := by
        have hSpec := newManifest_spec env (r.event env 1) m hNew
        unfold Disk.appliedSeq
        rw [Disk.putManifest_manifest, Option.map_some,
          hSpec.2.2.1]
        exact Nat.zero_lt_one
      have hIn : r.event env 1 ∈
          ((Disk.empty.log (r.event env 1)).putManifest
            m).events := by
        simp [Disk.events, Disk.log]
      have hAgain :
          reduceEventToOps env
              ((Disk.empty.log (r.event env 1)).putManifest m)
              (r.event env 1) = .ok [] :=
        reduce_created_run rfl hKind
          (Disk.putManifest_manifest m _)
          (newManifest_spec env (r.event env 1) m hNew).1
      rw [hOps]
      exact (hCounted.advanced hIn hMark hAgain).1

theorem Counted.of_opRun
    {Cut : Boundary → Prop}
    (hRenamed : ¬ Cut .renamed)
    (hRun : OpRun env (Booted env) Cut d) :
    Counted env d := by
  apply hRun.invariant (fun _ hBooted => hBooted.counted)
    (fun _ _ hCounted hManifest hNodes hEvents hPlain =>
      hCounted.congr hManifest hNodes hEvents hPlain) _ hRenamed
  intro call s hCounted
  exact Durable.wp_mono (hCounted.wp_call call)
    (fun _ _ hEnd => hEnd.1) (fun _ _ hEnd => hEnd)
    (fun _ _ hCut _ => hCut)

end Steps

/-
  In a created run, whatever it was cut by short of the two
  writes of a quarantine, a call that returns leaves one
  file for each node created in the log, all of them
  readable, and their number in the manifest. The number
  saturates at the largest 32-bit one.
-/
theorem counters_agree
    (env : RunEnv)
    (Cut : Boundary → Prop)
    (d : Disk)
    (call : Call)
    (hRenamed : ¬ Cut .renamed)
    (hRun : OpRun env (Booted env) Cut d)
    (hOk : (call.run env).result d = .ok ()) :
    let d' := (call.run env).final d
    d'.nodes.keys = d'.createdNodes ∧
      NodesReadable env d' ∧
      ∃ m, d'.manifest = some m ∧
        m.nodeCount =
          min d'.createdNodes.card (2 ^ 32 - 1) ∧
        (d'.createdNodes.card < 2 ^ 32 →
          m.nodeCount = d'.nodes.keys.card ∧
            m.nodeCount = d'.createdNodes.card) := by
  intro d'
  have hStart := Counted.of_opRun hRenamed hRun
  have hEnd : Counted env d' ∧ AllFolded d' :=
    Durable.wp_ok (hStart.wp_call call) hOk
  rcases hEnd with ⟨hCounted, hAll⟩
  have hKeys : d'.nodes.keys = d'.createdNodes := by
    ext id
    constructor
    · exact hCounted.logged id
    · intro hCreated
      rcases mem_createdNodes.mp hCreated with
        ⟨ev, hMem, hNamed⟩
      have hKind := (createdNode_eq_some.mp hNamed).1
      exact hCounted.folded ev hMem (hAll ev hMem hKind) id
        hNamed
  apply And.intro hKeys
  apply And.intro hCounted.nodes
  rcases Option.ne_none_iff_exists'.mp hCounted.manifest with
    ⟨m, hSome⟩
  have hCount := hCounted.counted hAll m hSome
  unfold Disk.countNodeFiles at hCount
  rw [hKeys] at hCount
  apply Exists.intro m
  apply And.intro hSome
  apply And.intro hCount
  intro hSmall
  rw [hKeys]
  omega

namespace Sample

/- A creation whose line is logged and whose file is not. -/
def strandedFile : Disk :=
  (createNode.run env).cutAt 1 (after [createRun])

/- The counter, the files and the creations of a run. -/
def countsOf (d : Disk) : Option (Nat × Nat × Nat) :=
  d.manifest.map (fun m =>
    (m.nodeCount, d.nodes.keys.card, d.createdNodes.card))

/-
  A run whose creation was cut before its manifest, then a
  node creation cut before its file, then the creation of
  the run again.
-/
def nodeBeforeRun : Disk :=
  (createNode.run env).cutAt 1
    ((createRun.run env).cutAt 1 Disk.empty)

end Sample

/- A cut before or after a write of the projections. -/
def ProjectionCut : Boundary → Bool
| .logged _ | .projected _ _ _ | .applied _ => true
| _ => false

/- The next replay folds and counts a stranded creation. -/
theorem counters_agree_stranded :
    let d' := (Call.run Sample.env .replay).final
      Sample.strandedFile
    Sample.countsOf Sample.strandedFile = some (0, 0, 1) ∧
      Sample.countsOf d' = some (1, 1, 1) ∧
      d'.nodes.keys = d'.createdNodes := by
  intro d'
  have hRun :
      OpRun Sample.env (Booted Sample.env)
        (fun t => ProjectionCut t = true)
        Sample.strandedFile :=
    Durable.Reach.cutAt (Op.call Sample.createNode) 1
      ProjectionCut (fun _ hCut => hCut)
      (Sample.bootedRun_after _ []).opRun
      (by decide +kernel)
  exact ⟨by decide +kernel, by decide +kernel,
    (counters_agree Sample.env
      (fun t => ProjectionCut t = true) Sample.strandedFile
      .replay (by decide) hRun (by decide +kernel)).1⟩

/-
  Creations logged before the first manifest are passed over:
  the run created again counts no node and has no file of the
  one in its log.
-/
theorem not_counters_agree :
    ¬ ∀ (env : RunEnv) (d : Disk) (call : Call),
      OpRun env (fun s => s = Disk.empty)
          (fun t => ProjectionCut t = true) d →
        (call.run env).result d = .ok () →
        ∀ m, ((call.run env).final d).manifest = some m →
          m.nodeCount =
              ((call.run env).final d).nodes.keys.card ∧
            m.nodeCount =
              ((call.run env).final d).createdNodes.card := by
  intro hAgree
  have hRun :
      OpRun Sample.env (fun s => s = Disk.empty)
        (fun t => ProjectionCut t = true)
        Sample.nodeBeforeRun :=
    Durable.Reach.cutAt (Op.call Sample.createNode) 1
      ProjectionCut (fun _ hCut => hCut)
      (Durable.Reach.cutAt (Op.call Sample.createRun) 1
        ProjectionCut (fun _ hCut => hCut) (.start rfl)
        (by decide +kernel))
      (by decide +kernel)
  have hCounts :
      Sample.countsOf
          ((Sample.createRun.run Sample.env).final
            Sample.nodeBeforeRun) =
        some (0, 0, 1) := by
    decide +kernel
  unfold Sample.countsOf at hCounts
  rw [Option.map_eq_some_iff] at hCounts
  rcases hCounts with ⟨m, hSome, hFigures⟩
  simp only [Prod.mk.injEq] at hFigures
  have hSame :=
    (hAgree Sample.env Sample.nodeBeforeRun Sample.createRun
      hRun (by decide +kernel) m hSome).2
  rw [hFigures.1, hFigures.2.2] at hSame
  cases hSame

end Taskfleet
