import Taskfleet.Admission
import Taskfleet.Counters
import Taskfleet.Grounded
import Taskfleet.PidFile

/-
  What the survey of an upgrade sees of a published run. It
  does not list the nodes of a run: it goes through the ids
  that the counter of the manifest stands for.

  As long as the counter is that of the files, the survey
  sees every node. A crash between the file of a new node and
  the count of it leaves the counter behind, and where the
  run is over by then, nothing else tells of that node.

  Main declarations:
    * `pad4_injective`, `Surveys`, `mem_of_surveyNodes`
    * `RunEntry.Quiescent`, `surveyRun_quiescent`
    * `CountedCut`, `Surveyable`, `OpRun.surveyable`
    * `survey_misses_nothing`, `not_survey_misses_nothing`
-/

------------------------------------------------------------
-- Names of Nodes
------------------------------------------------------------

namespace Taskfleet

open Fallible

/- Leading zeros do not change a number. -/
theorem ofDigitChars_zeros (k : Nat) (digits : List Char) :
    Nat.ofDigitChars 10 (List.replicate k '0' ++ digits) 0 =
      Nat.ofDigitChars 10 digits 0 := by
  induction k with
  | zero => rfl
  | succ k ih =>
      rw [List.replicate_succ, List.cons_append]
      exact ih

theorem ofDigitChars_pad4 (n : Nat) :
    Nat.ofDigitChars 10 (pad4 n).toList 0 = n := by
  unfold pad4
  rw [String.toList_append, String.toList_ofList,
    ofDigitChars_zeros, Text.toList_toString,
    Nat.ofDigitChars_ten_toDigits]

/- Different indices are different nodes. -/
theorem pad4_injective : Function.Injective pad4 := by
  intro a b hSame
  rw [← ofDigitChars_pad4 a, hSame, ofDigitChars_pad4]

theorem nodeId_of_parseStr
    {s : String} {id : NodeId}
    (hParse : NodeId.parseStr s = .ok id) : id.val = s := by
  unfold NodeId.parseStr at hParse
  split at hParse
  · cases hParse
    rfl
  · split at hParse <;> cases hParse

------------------------------------------------------------
-- Nodes of One Run
------------------------------------------------------------

section Nodes

variable {env : RunEnv} {d : Disk} {nodes : List Node}
variable {indices : List Nat}

/- The node of an index, as the directory has it. -/
structure Surveys
    (d : Disk) (index : Nat) (n : Node) : Prop where
  name : n.nodeId.val = "n-" ++ pad4 index
  there : d.nodes.lookup n.nodeId = some n

theorem surveyNodes_reads
    (hSurvey : surveyNodes env d indices = .ok nodes) :
    List.Forall₂ (Surveys d) indices nodes := by
  induction indices generalizing nodes with
  | nil =>
      cases hSurvey
      exact .nil
  | cons index rest ih =>
      simp only [surveyNodes] at hSurvey
      split at hSurvey
      next id hParse =>
        simp only [ok_bind] at hSurvey
        split at hSurvey
        next => cases hSurvey
        next => cases hSurvey
        next n hRead =>
          simp only [bind_eq_ok, pure_eq, Except.ok.injEq]
            at hSurvey
          rcases hSurvey with ⟨others, hOthers, rfl⟩
          rcases readNodeOpt_eq_some.mp hRead with
            ⟨hLookup, hValid⟩
          have hSame := hValid.nodeId
          subst hSame
          exact .cons ⟨nodeId_of_parseStr hParse, hLookup⟩
            (ih hOthers)
      next => cases hSurvey

/- The names of the surveyed nodes are those of the indices. -/
theorem names_of_surveys
    (hReads : List.Forall₂ (Surveys d) indices nodes) :
    nodes.map (fun n => n.nodeId.val) =
      indices.map (fun index => "n-" ++ pad4 index) := by
  induction hReads with
  | nil => rfl
  | cons hHere _ ih =>
      rw [List.map_cons, List.map_cons, ih, hHere.name]

/-
  A survey of as many nodes as there are files has seen every
  one of them: different indices are different files.
-/
theorem mem_of_surveyNodes
    {id : NodeId} {n : Node}
    (hSurvey : surveyNodes env d indices = .ok nodes)
    (hNodup : indices.Nodup)
    (hCount : d.nodes.keys.card = indices.length)
    (hLookup : d.nodes.lookup id = some n) :
    n ∈ nodes := by
  have hReads := surveyNodes_reads hSurvey
  have hLength : nodes.length = indices.length :=
    hReads.length_eq.symm
  have hDistinct : (nodes.map Node.nodeId).Nodup := by
    apply List.Nodup.of_map (fun id : NodeId => id.val)
    rw [List.map_map]
    change (nodes.map (fun n => n.nodeId.val)).Nodup
    rw [names_of_surveys hReads]
    apply hNodup.map
    intro a b hSame
    exact pad4_injective (String.append_right_inj "n-" |>.mp hSame)
  have hThere : (nodes.map Node.nodeId).toFinset ⊆
      d.nodes.keys := by
    intro id hMem
    rw [List.mem_toFinset, List.mem_map] at hMem
    rcases hMem with ⟨n, hIn, rfl⟩
    rcases exists_of_forall₂ hReads hIn with ⟨index, _, hHere⟩
    rw [Finmap.mem_keys, Finmap.mem_iff]
    exact ⟨n, hHere.there⟩
  have hAll : (nodes.map Node.nodeId).toFinset =
      d.nodes.keys := by
    apply Finset.eq_of_subset_of_card_le hThere
    rw [List.toFinset_card_of_nodup hDistinct, List.length_map,
      hLength, hCount]
  have hMem : id ∈ (nodes.map Node.nodeId).toFinset := by
    rw [hAll, Finmap.mem_keys, Finmap.mem_iff]
    exact ⟨n, hLookup⟩
  rw [List.mem_toFinset, List.mem_map] at hMem
  rcases hMem with ⟨n', hIn, rfl⟩
  rcases exists_of_forall₂ hReads hIn with ⟨index, _, hHere⟩
  rw [hHere.there, Option.some.injEq] at hLookup
  exact hLookup ▸ hIn

end Nodes

------------------------------------------------------------
-- One Run
------------------------------------------------------------

/- The manifest says that the run is over. -/
def Disk.Over (s : Disk) : Prop :=
  ∃ m, s.manifest = some m ∧ m.status.isTerminal = true

/- Nothing of the run needs the release that it runs on. -/
structure RunEntry.Quiescent
    (probe : LiveProbe) (entry : RunEntry) : Prop where
  ended : entry.disk.Over
  merges : ∀ id n, entry.disk.nodes.lookup id = some n →
    n.pendingMerge = none
  agents : ∀ id n, entry.disk.nodes.lookup id = some n →
    n.agentLive probe = false
  supervisor : ∀ file, entry.pidFile = some file →
    file.live probe = false

/- The counter of the manifest is that of the files. -/
def Disk.Fresh (s : Disk) : Prop :=
  ∀ m, s.manifest = some m → m.nodeCount = s.countNodeFiles

section OneRun

variable {h : RunId → RunEnv} {probe : LiveProbe}
variable {entry : RunEntry}
variable {row : String × Bool × Option LiveRun}

theorem liveReasons_eq_nil
    {m : Manifest} {nodes : List Node}
    {pidFile : Option PidFile} :
    liveReasons probe m nodes pidFile = [] ↔
      m.status.isTerminal = true ∧
      (∀ n ∈ nodes, n.agentLive probe = false) ∧
      (∀ n ∈ nodes, n.pendingMerge = none) ∧
      ∀ file, pidFile = some file →
        file.live probe = false := by
  unfold liveReasons
  rw [List.filterMap_eq_nil_iff]
  cases pidFile <;> simp

/- A row lists the run, or it has found no reason to. -/
theorem surveyRun_cases
    (hSurvey : surveyRun h probe entry = .ok row) :
    ∃ id m nodes,
      RunId.parseStr entry.name = .ok id ∧
      entry.disk.manifest = some m ∧
      surveyNodes (h id) entry.disk
        ((List.range m.nodeCount).map (fun i => i + 1)) =
          .ok nodes ∧
      (row = (entry.name, true, none) ∨
        (∃ run, row = (entry.name, false, some run) ∧
          run.runId = entry.name) ∨
        liveReasons probe m nodes entry.pidFile = []) := by
  simp only [surveyRun, bind_eq_ok] at hSurvey
  rcases hSurvey with ⟨_, _, hSurvey⟩
  split at hSurvey
  next id hId =>
    simp only [ok_bind] at hSurvey
    split at hSurvey
    next => cases hSurvey
    next => cases hSurvey
    next =>
      split at hSurvey
      next => cases hSurvey
      next => cases hSurvey
      next m hRead =>
        simp only [bind_eq_ok] at hSurvey
        rcases hSurvey with ⟨nodes, hNodes, hSurvey⟩
        refine ⟨id, m, nodes, hId,
          (readManifestOpt_eq_some.mp hRead).1, hNodes, ?_⟩
        split at hSurvey
        next =>
          cases hSurvey
          exact .inl rfl
        next =>
          split at hSurvey
          next hNone => exact .inr (.inr hNone)
          next =>
            rw [bind_eq_ok] at hSurvey
            rcases hSurvey with ⟨executables, _, hSurvey⟩
            cases hSurvey
            exact .inr (.inl ⟨_, rfl, rfl⟩)
  next => cases hSurvey

/-
  A run whose counter is that of its files is listed, or it
  is quiescent.
-/
theorem surveyRun_quiescent
    (hSurvey : surveyRun h probe entry = .ok row)
    (hFresh : entry.disk.Over → entry.disk.Fresh)
    (hSmall : entry.disk.nodes.keys.card < 2 ^ 32)
    (hLive : ∀ run, row.2.2 = some run →
      run.runId ≠ entry.name)
    (hVerifiable : row.2.1 = true → row.1 ≠ entry.name) :
    entry.Quiescent probe := by
  rcases surveyRun_cases hSurvey with
    ⟨id, m, nodes, hId, hSome, hNodes, hCase⟩
  rcases hCase with rfl | ⟨run, rfl, hName⟩ | hNone
  · exact absurd rfl (hVerifiable rfl)
  · exact absurd hName (hLive run rfl)
  rcases liveReasons_eq_nil.mp hNone with
    ⟨hTerminal, hAgents, hMerges, hSupervisor⟩
  have hOver : entry.disk.Over := ⟨m, hSome, hTerminal⟩
  have hCount := hFresh hOver m hSome
  unfold Disk.countNodeFiles at hCount
  have hSeen : ∀ id n,
      entry.disk.nodes.lookup id = some n → n ∈ nodes := by
    intro id n hLookup
    apply mem_of_surveyNodes hNodes ?_ ?_ hLookup
    · apply List.nodup_range.map
      intro a b hSame
      exact Nat.succ_injective hSame
    · rw [List.length_map, List.length_range]
      omega
  exact ⟨hOver,
    fun id n hLookup => hMerges n (hSeen id n hLookup),
    fun id n hLookup => hAgents n (hSeen id n hLookup),
    hSupervisor⟩

end OneRun

------------------------------------------------------------
-- The Counter over Runs
------------------------------------------------------------

/- A status that ends the run. -/
def Event.EndsRun (ev : Event) : Prop :=
  ev.kind = .runStatus ∧
    ∃ st, ev.requireStatus = .ok st ∧ st.isTerminal = true

/-
  Cuts that do not leave a run over and its counter behind:
  none after the file of a new node of a run that is over,
  and none after the last status of a run whose counter was
  behind already. A quarantine is not cut between its writes.
-/
def CountedCut : Boundary → Prop
| .renamed => False
| .projected planned ev _ =>
    (ev.kind = .nodeCreated → ¬ planned.Over) ∧
      (ev.EndsRun → planned.Fresh)
| _ => True

/- What every operation keeps that is not cut elsewhere. -/
structure Surveyable (env : RunEnv) (s : Disk) : Prop where
  readable : Readable env s
  ordered : s.Ordered
  behind : s.appliedSeq ≤ s.lastSeq
  fresh : s.Over → s.Fresh

section Runs

variable {env : RunEnv} {d s : Disk} {ev : Event}
variable {ops : List ProjectionOp}

theorem Surveyable.congr
    {d' : Disk}
    (hHere : Surveyable env d)
    (hManifest : d'.manifest = d.manifest)
    (hNodes : d'.nodes = d.nodes)
    (hEvents : d'.events = d.events)
    (hPlain : d.Plain → d'.Plain) :
    Surveyable env d' where
  readable := by
    unfold Readable
    rw [hManifest]
    exact hHere.readable
  ordered := hHere.ordered.of_events hEvents hPlain
  behind := by
    unfold Disk.appliedSeq Disk.lastSeq
    rw [hManifest, hEvents]
    exact hHere.behind
  fresh := by
    unfold Disk.Over Disk.Fresh Disk.countNodeFiles
    rw [hManifest, hNodes]
    exact hHere.fresh

/- A run without a manifest is not over after one event. -/
theorem not_over_of_none
    (hNone : s.manifest = none)
    (hPlan : reduceEventToOps env s ev = .ok ops)
    (k : Nat) :
    ¬ (applyOps (ops.take k) s).Over := by
  intro hOver
  rcases hOver with ⟨m, hSome, hTerminal⟩
  rcases applyOps_manifest_cases (ops.take k) s with
    hSame | ⟨m', hMem, hPut⟩
  · rw [hSame, hNone] at hSome
    cases hSome
  rw [hPut, Option.some.injEq] at hSome
  subst hSome
  replace hMem := List.mem_of_mem_take hMem
  cases (planned_of_reduce hPlan).2 with
  | runCreated m₀ _ _ hNew =>
      rw [List.mem_singleton, ProjectionOp.manifest.injEq]
        at hMem
      rw [hMem, (newManifest_spec env ev m₀ hNew).2.1]
        at hTerminal
      cases hTerminal
  | nothing => cases hMem
  | nodeAlone => simp at hMem
  | stepped => simp at hMem
  | runStatus m₀ st _ hSome =>
      rw [hNone] at hSome
      cases hSome
  | settlementIntent id n m₀ intent _ _ hSome =>
      rw [hNone] at hSome
      cases hSome
  | nodeCreated id n m₀ _ _ _ _ hSome =>
      rw [hNone] at hSome
      cases hSome

/-
  A write leaves no run over with its counter behind, short
  of the two cuts that are left out.
-/
theorem Surveyable.cut
    {j : Nat}
    (hHere : Surveyable env s)
    (hPlan : reduceEventToOps env s ev = .ok ops)
    (hCut : CountedCut (.projected s ev j))
    (k : Nat)
    (hOver : (applyOps (ops.take k) s).Over) :
    (applyOps (ops.take k) s).Fresh := by
  cases hManifest : s.manifest with
  | none => exact absurd hOver (not_over_of_none hManifest hPlan k)
  | some m =>
      rcases manifestStep_of_cut hPlan hManifest k with
        ⟨m', hSome', hStep⟩
      rcases hOver with ⟨m₁, hSome₁, hTerminal⟩
      rw [hSome', Option.some.injEq] at hSome₁
      subst hSome₁
      have hKept := countsKept_of_plan
        (by rw [hManifest]; exact Option.some_ne_none m) hPlan k
      have hFresh : s.Fresh ∧ ev.kind ≠ .nodeCreated := by
        rcases hStep.status with hSame | ⟨hKind, hStatus, _⟩
        · have hWas : s.Over := ⟨m, hManifest, hSame ▸ hTerminal⟩
          exact ⟨hHere.fresh hWas,
            fun hCreated => hCut.1 hCreated hWas⟩
        · refine ⟨hCut.2 ⟨hKind, _, hStatus, hTerminal⟩, ?_⟩
          rw [hKind]
          decide
      intro m₁ hSome₁
      rw [hSome', Option.some.injEq] at hSome₁
      subst hSome₁
      rcases hKept.files with hFiles | ⟨id, hCreated, _⟩
      · unfold Disk.countNodeFiles
        rw [hFiles, hStep.nodeCount]
        exact hFresh.1 m hManifest
      · exact absurd (createdNode_eq_some.mp hCreated).1 hFresh.2

/- The watermark moves, and the counter with it. -/
theorem fresh_advance
    {seq : Nat} (hAhead : s.appliedSeq < seq) :
    (s.advance seq).Fresh := by
  intro m hSome
  cases hManifest : s.manifest with
  | none =>
      unfold Disk.advance at hSome
      rw [hManifest] at hSome
      dsimp only at hSome
      rw [hManifest] at hSome
      cases hSome
  | some m₀ =>
      rw [Disk.appliedSeq_of_manifest hManifest] at hAhead
      rw [Disk.advance_of_behind hManifest hAhead,
        Disk.putManifest_manifest, Option.some.injEq] at hSome
      rw [← hSome]
      unfold Disk.countNodeFiles
      rw [Disk.advance_nodes]

theorem Surveyable.written
    {j : Nat}
    (hHere : Surveyable env s)
    (hPlan : reduceEventToOps env s ev = .ok ops)
    (hCut : CountedCut (.projected s ev j))
    (k : Nat) :
    Surveyable env (applyOps (ops.take k) s) where
  readable := by
    have hOps :=
      writable_of_planned (planned_of_reduce hPlan).2
    exact readable_applyOps hHere.readable
      (fun op hIn => hOps op (List.mem_of_mem_take hIn))
  ordered := hHere.ordered.congr (applyOps_lines _ s)
  behind := by
    rw [appliedSeq_of_plan hPlan rfl k,
      lastSeq_congr (applyOps_lines _ s)]
    exact hHere.behind
  fresh := hHere.cut hPlan hCut k

theorem Surveyable.advanced
    (hHere : Surveyable env s)
    (hMem : ev ∈ s.events)
    (hAhead : s.appliedSeq < ev.seq)
    (hPlan : reduceEventToOps env s ev = .ok ops) :
    Surveyable env ((applyOps ops s).advance ev.seq) := by
  have hOps :=
    writable_of_planned (planned_of_reduce hPlan).2
  have hMark := appliedSeq_of_whole hPlan
  have hLast : (applyOps ops s).lastSeq = s.lastSeq :=
    lastSeq_congr (applyOps_lines _ s)
  constructor
  · exact readable_advance
      (readable_applyOps hHere.readable hOps)
  · exact (hHere.ordered.congr (applyOps_lines _ s)).congr
      (Disk.advance_lines _ _)
  · rw [lastSeq_congr (Disk.advance_lines _ _)]
    apply advance_appliedSeq_le
    · rw [hMark, hLast]
      exact hHere.behind
    · rw [hLast]
      exact seq_le_lastSeqOf hHere.ordered.increasing hMem
  · intro _
    apply fresh_advance
    rwa [hMark]

/- An event is logged past the watermark. -/
theorem Surveyable.log
    (hHere : Surveyable env s)
    (hSeq : ev.seq = s.lastSeq + 1) :
    Surveyable env (s.log ev) where
  readable := hHere.readable
  ordered := ordered_log hHere.ordered hSeq
  behind := by
    have hBehind := hHere.behind
    have hLast : (s.log ev).lastSeq = ev.seq := by
      rw [Disk.lastSeq, Disk.log_events, lastSeqOf_concat]
    change s.appliedSeq ≤ _
    omega
  fresh := hHere.fresh

theorem Surveyable.wp_catchUp (hHere : Surveyable env d) :
    Durable.wp (replayUnappliedUnlocked env)
      (fun _ s => Surveyable env s)
      (fun _ s => Surveyable env s)
      (fun t s => CountedCut t → Surveyable env s) d := by
  apply Durable.wp_mono
    (wp_catchUp_cuts (I := Surveyable env)
      (C := fun t s => CountedCut t → Surveyable env s)
      (fun _ hI => hI.readable) hHere.ordered
      (fun _ _ hI _ _ => hI) _
      (hHere.congr rfl rfl rfl (fun hPlain => hPlain)))
  · intro _ s hEnd
    exact hEnd.1
  · intro _ s hEnd
    exact hEnd.1
  · intro _ s hCut
    exact hCut.1
  · intro s ev ops hI _ _ hMem hAhead _ hPlan
    constructor
    · intro j hCut
      exact hI.written hPlan hCut (j + 1)
    · exact hI.advanced hMem hAhead hPlan

theorem Surveyable.gateWrites
    (hHere : Surveyable env s)
    (hSeq : ev.seq = s.lastSeq + 1)
    (hPlan : reduceEventToOps env s ev = .ok ops) :
    GateWrites (fun t s => CountedCut t → Surveyable env s)
      (Surveyable env) s ev ops := by
  have hLogged := hHere.log hSeq
  have hAgain := (reduce_logged env s ev).trans hPlan
  have hMem : ev ∈ (s.log ev).events := by simp
  have hBehind := hHere.behind
  have hAhead : (s.log ev).appliedSeq < ev.seq := by
    change s.appliedSeq < ev.seq
    omega
  have hDone := hLogged.advanced hMem hAhead hAgain
  constructor
  · exact fun _ =>
      hHere.congr rfl rfl rfl (fun hPlain => hPlain)
  · exact fun _ => hLogged
  · intro j _ hCut
    exact hLogged.written (j := j) hAgain hCut (j + 1)
  · exact fun _ _ => hDone
  · exact hDone

theorem Surveyable.wp_call
    (hHere : Surveyable env d) (call : Call) :
    Durable.wp (call.run env)
      (fun _ s => Surveyable env s)
      (fun _ s => Surveyable env s)
      (fun t s => CountedCut t → Surveyable env s) d := by
  apply Taskfleet.wp_call call (R := Surveyable env)
    (fun _ hI => hI.wp_catchUp) (fun _ hR => hR)
    (fun _ hR => hR) (fun _ hR => hR.readable) _ hHere
  intro s last r ops _ hR hLast hPlan
  have hEnd := recoverLastSeq_eq hR.ordered.plain hLast
  rw [hEnd] at hPlan ⊢
  exact hR.gateWrites rfl hPlan

theorem surveyable_empty : Surveyable env Disk.empty where
  readable := readable_empty
  ordered := ordered_empty
  behind := Nat.le_refl _
  fresh := by
    intro hOver
    rcases hOver with ⟨m, hSome, _⟩
    cases hSome

theorem OpRun.surveyable
    (hRun : OpRun env (fun s => s = Disk.empty) CountedCut d) :
    Surveyable env d := by
  apply hRun.invariant ?_
    (fun _ _ hHere hManifest hNodes hEvents hPlain =>
      hHere.congr hManifest hNodes hEvents hPlain)
    (fun call _ hHere => hHere.wp_call call) (fun hCut => hCut)
  intro s hStart
  rw [hStart]
  exact surveyable_empty

end Runs

------------------------------------------------------------
-- The Survey of All Runs
------------------------------------------------------------

section AllRuns

variable {h : RunId → RunEnv} {probe : LiveProbe}
variable {entries : List RunEntry}
variable {rows : List (String × Bool × Option LiveRun)}

theorem rows_of_surveyRuns
    (hSurvey : surveyRuns h probe entries = .ok rows) :
    List.Forall₂
      (fun entry row => surveyRun h probe entry = .ok row)
      entries rows := by
  induction entries generalizing rows with
  | nil =>
      cases hSurvey
      exact .nil
  | cons entry rest ih =>
      simp only [surveyRuns, bind_eq_ok, pure_eq,
        Except.ok.injEq] at hSurvey
      rcases hSurvey with ⟨row, hRow, others, hOthers, rfl⟩
      exact .cons hRow (ih hOthers)

/- The runs that the survey lists as live. -/
def listedLive
    (rows : List (String × Bool × Option LiveRun)) :
    List String :=
  (rows.filterMap (fun row => row.2.2)).map LiveRun.runId

/- The runs that it lists as unverifiable. -/
def listedUnverifiable
    (rows : List (String × Bool × Option LiveRun)) :
    List String :=
  (rows.filter (fun row => row.2.1)).map (fun row => row.1)

end AllRuns

/-
  A published run that the survey does not list is over, and
  none of its nodes on disk, whatever its id, has a merge
  pending or a live agent, as long as no crash has left a
  run over with its counter behind.
-/
theorem survey_misses_nothing
    (h : RunId → RunEnv)
    (probe : LiveProbe)
    (entries : List RunEntry)
    (rows : List (String × Bool × Option LiveRun))
    (entry : RunEntry)
    (hRuns : ∀ entry ∈ entries, ∀ id,
      RunId.parseStr entry.name = .ok id →
        OpRun (h id) (fun s => s = Disk.empty) CountedCut
          entry.disk ∧
        entry.disk.nodes.keys.card < 2 ^ 32)
    (hSurvey : surveyRuns h probe entries = .ok rows)
    (hPublished : entry ∈ entries)
    (hLive : entry.name ∉ listedLive rows)
    (hVerifiable : entry.name ∉ listedUnverifiable rows) :
    entry.Quiescent probe := by
  have hRows := rows_of_surveyRuns hSurvey
  rcases exists_of_forall₂ hRows.flip hPublished with
    ⟨row, hMem, hRow⟩
  rcases surveyRun_cases hRow with ⟨id, _, _, hId, _⟩
  rcases hRuns entry hPublished id hId with ⟨hRun, hSmall⟩
  apply surveyRun_quiescent hRow hRun.surveyable.fresh hSmall
  · intro run hListed hName
    apply hLive
    rw [← hName]
    apply List.mem_map_of_mem
    rw [List.mem_filterMap]
    exact ⟨row, hMem, hListed⟩
  · intro hListed hName
    apply hVerifiable
    rw [← hName]
    apply List.mem_map_of_mem
    rw [List.mem_filter]
    exact ⟨hMem, hListed⟩

------------------------------------------------------------
-- A Node behind the Counter
------------------------------------------------------------

namespace Sample

theorem opRun_done
    {Cut : Boundary → Prop} {d : Disk}
    (hRun : OpRun env (fun s => s = Disk.empty) Cut d)
    (call : Call) :
    OpRun env (fun s => s = Disk.empty) Cut
      ((call.run env).final d) :=
  Durable.Reach.done (Op.call call) hRun

theorem opRun_after
    (Cut : Boundary → Prop) (calls : List Call) :
    OpRun env (fun s => s = Disk.empty) Cut (after calls) := by
  induction calls using List.reverseRecOn with
  | nil => exact .start rfl
  | append_singleton calls call ih =>
      rw [after_concat]
      exact opRun_done ih call

def endRun : Call :=
  .append
    (request .runStatus none
      (.obj [("status", .str "cancelled")]))

def lateId : NodeId := sibling

/- A worker that is registered after the run was cancelled. -/
def lateNode : Call :=
  .append
    (request .nodeCreated (some lateId)
      (.obj [("agent_pid", .int 7), ("kind", .str "spinoff")]))

/- The file of that worker is there, and not counted yet. -/
def lateFile : Disk :=
  (lateNode.run env).cutAt 2
    (after [createRun, createNode, endRun])

/- A crash of the same kind before the run was cancelled. -/
def earlyFile : Disk :=
  (endRun.run env).final
    ((createNode.run env).cutAt 2 (after [createRun]))

def published (d : Disk) : RunEntry where
  name := env.runId.val
  isDir := true
  lock := .free
  disk := d
  pidFile := none
  launchers := []

/- Cuts after the file of a new node of a run that goes on. -/
def EarlyCut : Boundary → Bool
| .projected planned ev _ =>
    ev.kind == .nodeCreated &&
      planned.manifest.all (fun m => !m.status.isTerminal)
| _ => false

theorem countedCut_of_early
    (t : Boundary) (hCut : EarlyCut t = true) :
    CountedCut t := by
  cases t with
  | projected planned ev k =>
      simp only [EarlyCut, Bool.and_eq_true, beq_iff_eq]
        at hCut
      constructor
      · intro _ hOver
        rcases hOver with ⟨m, hSome, hTerminal⟩
        have hLive := hCut.2
        rw [hSome, Option.all_some, hTerminal] at hLive
        cases hLive
      · intro hEnds
        rw [hEnds.1] at hCut
        exact absurd hCut.1 (by decide)
  | _ => cases hCut

end Sample

/- A run that was cut before it was cancelled is quiescent. -/
theorem survey_misses_nothing_early :
    (Sample.published Sample.earlyFile).Quiescent
      (fun _ _ _ => true) := by
  have hRun :
      OpRun Sample.env (fun s => s = Disk.empty) CountedCut
        Sample.earlyFile :=
    Sample.opRun_done
      (Durable.Reach.cutAt (Op.call Sample.createNode) 2
        Sample.EarlyCut Sample.countedCut_of_early
        (Sample.opRun_after CountedCut [Sample.createRun])
        (by decide +kernel))
      Sample.endRun
  have hSurvey :
      (surveyRuns (fun _ => Sample.env) (fun _ _ _ => true)
        [Sample.published Sample.earlyFile]).toOption.map
          (fun rows => (rows.length, listedLive rows,
            listedUnverifiable rows)) = some (1, [], []) := by
    decide +kernel
  rw [Option.map_eq_some_iff] at hSurvey
  rcases hSurvey with ⟨rows, hRows, hLists⟩
  simp only [Prod.mk.injEq] at hLists
  apply survey_misses_nothing (fun _ => Sample.env)
    (fun _ _ _ => true) [Sample.published Sample.earlyFile] rows
    (Sample.published Sample.earlyFile) ?_ (ok_of_toOption hRows)
    List.mem_cons_self
  · rw [hLists.2.1]
    exact List.not_mem_nil
  · rw [hLists.2.2]
    exact List.not_mem_nil
  · intro entry hMem id _
    rw [List.mem_singleton.mp hMem]
    exact ⟨hRun, by decide +kernel⟩

/-
  Cancelled, and killed before the late worker was counted:
  its agent is alive, and the survey does not list the run.
-/
theorem not_survey_misses_nothing :
    ¬ ∀ (h : RunId → RunEnv) (probe : LiveProbe)
        (entries : List RunEntry)
        (rows : List (String × Bool × Option LiveRun))
        (entry : RunEntry),
      (∀ entry ∈ entries, ∀ id,
        RunId.parseStr entry.name = .ok id →
          OpRun (h id) (fun s => s = Disk.empty)
            (fun t => ProjectionCut t = true) entry.disk ∧
          entry.disk.nodes.keys.card < 2 ^ 32) →
      surveyRuns h probe entries = .ok rows →
      entry ∈ entries →
      entry.name ∉ listedLive rows →
      entry.name ∉ listedUnverifiable rows →
      entry.Quiescent probe := by
  intro hAlways
  have hRun :
      OpRun Sample.env (fun s => s = Disk.empty)
        (fun t => ProjectionCut t = true) Sample.lateFile :=
    Durable.Reach.cutAt (Op.call Sample.lateNode) 2
      ProjectionCut (fun _ hCut => hCut)
      (Sample.opRun_after _
        [Sample.createRun, Sample.createNode, Sample.endRun])
      (by decide +kernel)
  have hSurvey :
      (surveyRuns (fun _ => Sample.env) (fun _ _ _ => true)
        [Sample.published Sample.lateFile]).toOption.map
          (fun rows => (rows.length, listedLive rows,
            listedUnverifiable rows)) = some (1, [], []) := by
    decide +kernel
  have hAgent :
      ((Sample.published Sample.lateFile).disk.nodes.lookup
          Sample.lateId).any
        (Node.agentLive (fun _ _ _ => true)) = true := by
    decide +kernel
  rw [Option.map_eq_some_iff] at hSurvey
  rcases hSurvey with ⟨rows, hRows, hLists⟩
  simp only [Prod.mk.injEq] at hLists
  rw [Option.any_eq_true] at hAgent
  rcases hAgent with ⟨n, hLookup, hAlive⟩
  have hQuiescent := hAlways (fun _ => Sample.env)
    (fun _ _ _ => true) [Sample.published Sample.lateFile] rows
    (Sample.published Sample.lateFile)
    (by
      intro entry hMem id _
      rw [List.mem_singleton.mp hMem]
      dsimp only [Sample.published]
      exact ⟨hRun, by decide +kernel⟩)
    (ok_of_toOption hRows) List.mem_cons_self
    (by rw [hLists.2.1]; exact List.not_mem_nil)
    (by rw [hLists.2.2]; exact List.not_mem_nil)
  have hGone := hQuiescent.agents Sample.lateId n hLookup
  rw [hAlive] at hGone
  cases hGone

end Taskfleet
