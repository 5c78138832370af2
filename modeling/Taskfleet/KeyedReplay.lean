import Taskfleet.Operations
import Taskfleet.Reducer.Refold

/-
  Answers from a prior event.

  A keyed call that finds its key in the log answers with
  the prior event. In a created run whose cuts leave only
  events that catch-up takes, that event is applied by then.

  Main declarations:
    * `AppliedCut`, `Marked`
    * `priorEvent_mem`
    * `replay_answer_applied`
-/

------------------------------------------------------------
-- Marked Runs
------------------------------------------------------------

namespace Taskfleet

/-
  Cuts after which catch-up takes the event they hit, and no
  cut between the two writes of a quarantine.
-/
def AppliedCut : Boundary → Prop
| .renamed => False
| .projected planned ev _ => Reacceptable planned ev
| _ => True

/-
  At most the last event is past the watermark, and then the
  reducer takes it.
-/
structure Marked (env : RunEnv) (d : Disk) : Prop where
  manifest : d.manifest ≠ none
  readable : Readable env d
  ordered : d.Ordered
  behind : d.appliedSeq ≤ d.lastSeq
  ahead : ∀ ev ∈ d.events, d.appliedSeq < ev.seq →
    ev.seq = d.lastSeq ∧ Accepted env d ev

/- The watermark has passed every event. -/
def Covered (d : Disk) : Prop :=
  ∀ ev ∈ d.events, ev.seq ≤ d.appliedSeq

section Steps

variable {env : RunEnv} {d s : Disk} {ev : Event}
variable {ops : List ProjectionOp}

theorem Marked.congr
    {d' : Disk}
    (hMarked : Marked env d)
    (hManifest : d'.manifest = d.manifest)
    (hNodes : d'.nodes = d.nodes)
    (hEvents : d'.events = d.events)
    (hPlain : d.Plain → d'.Plain) :
    Marked env d' := by
  have hMark : d'.appliedSeq = d.appliedSeq := by
    unfold Disk.appliedSeq
    rw [hManifest]
  have hLast : d'.lastSeq = d.lastSeq := by
    unfold Disk.lastSeq
    rw [hEvents]
  refine ⟨?_, ?_, ?_, ?_, ?_⟩
  · rw [hManifest]
    exact hMarked.manifest
  · unfold Readable
    rw [hManifest]
    exact hMarked.readable
  · exact hMarked.ordered.of_events hEvents hPlain
  · rw [hMark, hLast]
    exact hMarked.behind
  · intro e hMem hAhead
    rw [hEvents] at hMem
    rw [hMark] at hAhead
    rcases hMarked.ahead e hMem hAhead with ⟨hSeq, hAccepted⟩
    refine ⟨hSeq.trans hLast.symm, ?_⟩
    rwa [accepted_congr (b := d)
      ⟨hNodes, by rw [hManifest]⟩]

/-
  Writes of the plan of the last event, and the watermark
  after them.
-/
theorem marked_written
    (hReadable : Readable env s)
    (hOrdered : s.Ordered)
    (hBehind : s.appliedSeq ≤ s.lastSeq)
    (hMem : ev ∈ s.events)
    (hLast : ev.seq = s.lastSeq)
    (hOnly : ∀ e ∈ s.events, s.appliedSeq < e.seq →
      e.seq = s.lastSeq)
    (hPlan : reduceEventToOps env s ev = .ok ops) :
    (∀ j,
        (applyOps (ops.take (j + 1)) s).manifest ≠ none →
        Reacceptable s ev →
        Marked env (applyOps (ops.take (j + 1)) s)) ∧
      ((applyOps ops s).manifest ≠ none →
        Marked env ((applyOps ops s).advance ev.seq) ∧
          Covered ((applyOps ops s).advance ev.seq)) := by
  have hOps :=
    writable_of_planned (planned_of_reduce hPlan).2
  refine ⟨?_, ?_⟩
  · intro j hManifest hSafe
    have hMark :
        (applyOps (ops.take (j + 1)) s).appliedSeq =
          s.appliedSeq := appliedSeq_of_plan hPlan rfl _
    have hTail :
        (applyOps (ops.take (j + 1)) s).lastSeq = s.lastSeq :=
      lastSeq_congr (applyOps_lines _ s)
    refine ⟨hManifest, readable_applyOps hReadable
      (fun op hIn => hOps op (List.mem_of_mem_take hIn)),
      hOrdered.congr (applyOps_lines _ s), ?_, ?_⟩
    · rw [hMark, hTail]
      exact hBehind
    · intro e hIn hAhead
      rw [Disk.applyOps_events] at hIn
      rw [hMark] at hAhead
      have hSeq := hOnly e hIn hAhead
      refine ⟨hSeq.trans hTail.symm, ?_⟩
      rw [seq_injective hOrdered hIn hMem
        (hSeq.trans hLast.symm)]
      exact accepted_of_cut j hPlan hSafe
  · intro hManifest
    have hLines :
        ((applyOps ops s).advance ev.seq).lines = s.lines := by
      simp
    rcases Option.ne_none_iff_exists'.mp hManifest with
      ⟨m, hSome⟩
    rcases advance_manifest_some ev.seq hSome with
      ⟨m', hSome', hCovers⟩
    have hMark :=
      Disk.appliedSeq_of_manifest hSome'
    have hAll :
        Covered ((applyOps ops s).advance ev.seq) := by
      intro e hIn
      rw [Disk.events_congr hLines] at hIn
      have hBound : e.seq ≤ s.lastSeq :=
        seq_le_lastSeqOf hOrdered.increasing hIn
      omega
    refine ⟨⟨by simp [hSome'], readable_advance
      (readable_applyOps hReadable hOps),
      hOrdered.congr hLines, ?_, ?_⟩, hAll⟩
    · rw [lastSeq_congr hLines,
        ← lastSeq_congr (applyOps_lines ops s)]
      have hOld := appliedSeq_of_whole hPlan
      refine advance_appliedSeq_le ?_ ?_
      · rw [hOld, lastSeq_congr (applyOps_lines ops s)]
        exact hBehind
      · rw [lastSeq_congr (applyOps_lines ops s)]
        exact hLast.le
    · intro e hIn hAhead
      exact absurd (hAll e hIn) (not_le.mpr hAhead)

/- A marked run stays one, and is covered once caught up. -/
theorem Marked.wp_catchUp (hMarked : Marked env d) :
    Durable.wp (replayUnappliedUnlocked env)
      (fun _ s => Marked env s ∧ Covered s)
      (fun _ s => Marked env s)
      (fun t s => AppliedCut t → Marked env s) d := by
  have hTruncated : Marked env { d with torn := false } :=
    hMarked.congr rfl rfl rfl (fun hPlain => hPlain)
  have hKept :
      Durable.wp (replayUnappliedUnlocked env)
        (fun _ s => Marked env s) (fun _ s => Marked env s)
        (fun t s => AppliedCut t → Marked env s) d := by
    rw [wp_replayUnappliedUnlocked]
    refine ⟨fun _ _ => hTruncated, ?_⟩
    refine wp_replayUnapplied (fun _ _ => hTruncated)
      (fun _ => hTruncated) (fun _ _ _ _ _ => hTruncated)
      (fun _ _ _ _ _ _ => hTruncated) ?_
    intro m last hManifest _ _ _
    have hSome : d.manifest = some m := hManifest
    refine Durable.wp_mono
      (wp_replayLines (E := fun _ s => Marked env s)
        (L := fun rest s => Marked env s ∧
          s.lines = d.lines ∧ ∀ line ∈ rest, line ∈ d.lines)
        (fun _ _ hLoop => hLoop.1.readable) ?_ ?_ ?_
        ⟨hTruncated, rfl, fun _ h => h⟩)
      (fun _ _ h => h.1) (fun _ _ h => h) (fun _ _ h => h)
    · intro line rest s hLoop _
      exact ⟨hLoop.1, hLoop.2.1, fun l hMem =>
        hLoop.2.2 l (List.mem_cons_of_mem _ hMem)⟩
    · intro ev rest s e hLoop _ _
      exact ⟨fun _ => ⟨hLoop.1, hLoop.2.1, fun l hMem =>
        hLoop.2.2 l (List.mem_cons_of_mem _ hMem)⟩,
        fun _ => hLoop.1⟩
    · intro ev rest s ops hLoop hNew hPlan
      rcases hLoop with ⟨hMark, hLines, hRest⟩
      have hEvents := Disk.events_congr hLines
      have hMem : ev ∈ d.events :=
        Disk.mem_events.mpr (hRest _ List.mem_cons_self)
      have hLast : ev.seq = s.lastSeq := by
        rw [lastSeq_congr hLines]
        refine (hMarked.ahead ev hMem ?_).1
        rwa [Disk.appliedSeq_of_manifest hSome]
      rcases marked_written hMark.readable hMark.ordered
          hMark.behind (hEvents ▸ hMem) hLast
          (fun e hIn hAhead => (hMark.ahead e hIn hAhead).1)
          hPlan with ⟨hCuts, hDone⟩
      have hEnd :=
        hDone (manifest_ne_none_of_applyOps hMark.manifest)
      exact ⟨fun j _ hCut =>
        hCuts j (manifest_ne_none_of_applyOps hMark.manifest)
          hCut, fun _ _ => hEnd.1, hEnd.1, by simp [hLines],
        fun l hIn => hRest l (List.mem_cons_of_mem _ hIn)⟩
  -- what is settled cannot be ahead: it would be accepted
  refine Durable.wp_mono
    (Durable.wp_and hKept (wp_catchUp_settled hMarked.ordered))
    ?_ (fun _ _ h => h.1) (fun _ _ h => h.1)
  rintro _ s ⟨hMark, _, hSettled⟩
  refine ⟨hMark, fun ev hMem => ?_⟩
  by_contra hAhead
  have hLt := not_le.mp hAhead
  rcases Option.ne_none_iff_exists'.mp hMark.manifest with
    ⟨m, hSome⟩
  refine absurd (hMark.ahead ev hMem hLt).2 ?_
  rw [Disk.appliedSeq_of_manifest hSome] at hLt
  exact not_accepted_iff.mpr
    (hSettled.refused m hSome ev hMem hLt)

theorem Marked.logged
    (hMarked : Marked env s)
    (hCovered : Covered s)
    (hSeq : ev.seq = s.lastSeq + 1)
    (hPlan : reduceEventToOps env s ev = .ok ops) :
    Marked env (s.log ev) := by
  have hLast : (s.log ev).lastSeq = ev.seq := by
    rw [Disk.lastSeq, Disk.log_events, lastSeqOf_concat]
  have hBehind := hMarked.behind
  refine ⟨hMarked.manifest, hMarked.readable,
    ordered_log hMarked.ordered hSeq, ?_, ?_⟩
  · change s.appliedSeq ≤ _
    omega
  · intro e hMem hAhead
    rw [Disk.log_events, List.mem_append,
      List.mem_singleton] at hMem
    rcases hMem with hOld | rfl
    · exact absurd (hCovered e hOld) (not_le.mpr hAhead)
    · exact ⟨hLast.symm,
        ⟨ops, (reduce_logged env s _).trans hPlan⟩⟩

theorem Marked.gateWrites
    (hMarked : Marked env s)
    (hCovered : Covered s)
    (hSeq : ev.seq = s.lastSeq + 1)
    (hPlan : reduceEventToOps env s ev = .ok ops) :
    GateWrites (fun t s' => AppliedCut t → Marked env s')
      (fun s' => Marked env s') s ev ops := by
  have hLogged := hMarked.logged hCovered hSeq hPlan
  have hLast : ev.seq = (s.log ev).lastSeq := by
    rw [Disk.lastSeq, Disk.log_events, lastSeqOf_concat]
  rcases marked_written hLogged.readable hLogged.ordered
      hLogged.behind (by simp) hLast
      (fun e hIn hAhead => (hLogged.ahead e hIn hAhead).1)
      ((reduce_logged env s ev).trans hPlan) with
    ⟨hCuts, hDone⟩
  have hManifest : ∀ ops,
      (applyOps ops (s.log ev)).manifest ≠ none :=
    fun _ => manifest_ne_none_of_applyOps hLogged.manifest
  exact ⟨fun _ =>
      hMarked.congr rfl rfl rfl (fun hPlain => hPlain),
    fun _ => hLogged,
    fun j _ hCut => hCuts j (hManifest _) hCut,
    fun _ _ => (hDone (hManifest _)).1,
    (hDone (hManifest _)).1⟩

theorem Marked.wp_call
    (hMarked : Marked env d) (call : Call) :
    Durable.wp (call.run env) (fun _ s => Marked env s)
      (fun _ s => Marked env s)
      (fun t s => AppliedCut t → Marked env s) d := by
  refine Taskfleet.wp_call call
    (R := fun s => Marked env s ∧ Covered s)
    (fun s hI => hI.wp_catchUp) (fun _ hR => hR.1)
    (fun _ hR => hR.1) (fun _ hR => hR.1.readable) ?_ hMarked
  intro s last r ops _ hR hLast hPlan
  obtain rfl := recoverLastSeq_eq hR.1.ordered.plain hLast
  exact hR.1.gateWrites hR.2 rfl hPlan

theorem Booted.marked (hBooted : Booted env d) :
    Marked env d := by
  have hReadable : ∀ r : Request,
      Readable env (Disk.empty.log (r.event env 1)) :=
    fun _ => readable_empty
  have hMem : ∀ r : Request,
      r.event env 1 ∈
        (Disk.empty.log (r.event env 1)).events :=
    fun _ => by simp
  have hOnly : ∀ (r : Request),
      ∀ e ∈ (Disk.empty.log (r.event env 1)).events,
        (Disk.empty.log (r.event env 1)).appliedSeq < e.seq →
        e.seq =
          (Disk.empty.log (r.event env 1)).lastSeq := by
    intro r e hIn _
    rw [Disk.log_events, List.mem_append,
      List.mem_singleton] at hIn
    rcases hIn with hNever | rfl
    · cases hNever
    · rfl
  refine hBooted.rule ?_ ?_
  · intro r ops j hKind hPlan hManifest
    refine (marked_written (hReadable r)
      (ordered_log ordered_empty rfl) (Nat.zero_le _) (hMem r)
      rfl (hOnly r) ((reduce_logged env _ _).trans hPlan)).1 j
      hManifest ?_
    intro id n _ hLookup
    simp [Disk.log, Disk.empty] at hLookup
  · intro r ops _ hPlan hManifest
    exact ((marked_written (hReadable r)
      (ordered_log ordered_empty rfl) (Nat.zero_le _) (hMem r)
      rfl (hOnly r) ((reduce_logged env _ _).trans hPlan)).2
      hManifest).1

theorem Marked.of_opRun
    (hRun : OpRun env (Booted env) AppliedCut d) :
    Marked env d :=
  hRun.invariant (fun _ hBooted => hBooted.marked)
    (fun _ _ hMarked hManifest hNodes hEvents hPlain =>
      hMarked.congr hManifest hNodes hEvents hPlain)
    (fun call _ hMarked => hMarked.wp_call call)
    (fun hNever => hNever)

end Steps

------------------------------------------------------------
-- Answers
------------------------------------------------------------

/- The manifest is there and has passed the number. -/
def AppliedAt (d : Disk) (seq : Nat) : Prop :=
  ∃ m, d.manifest = some m ∧ seq ≤ m.appliedSeq

/- A prior event is one of the log. -/
theorem priorEvent_mem
    {kind : EventKind} {key : String} {lines : List LogLine}
    {prior : PriorEvent}
    (hFound : findPriorWithKey kind key lines =
      .ok (some prior)) :
    ∃ ev, .event ev ∈ lines ∧ ev.kind = kind ∧
      ev.idempotencyKey = some key ∧
      prior = ⟨ev.seq, ev.nodeId, ev.data⟩ := by
  induction lines with
  | nil => cases hFound
  | cons line rest ih =>
      have hTail :
          findPriorWithKey kind key rest = .ok (some prior) →
          ∃ ev, .event ev ∈ line :: rest ∧ ev.kind = kind ∧
            ev.idempotencyKey = some key ∧
            prior = ⟨ev.seq, ev.nodeId, ev.data⟩ := by
        intro hRest
        rcases ih hRest with ⟨ev, hMem, hSpec⟩
        exact ⟨ev, List.mem_cons_of_mem _ hMem, hSpec⟩
      cases line with
      | event ev =>
          rw [findPriorWithKey] at hFound
          split at hFound
          next hHere =>
            cases hFound
            exact ⟨ev, List.mem_cons_self, hHere.1, hHere.2,
              rfl⟩
          next => exact hTail hFound
      | header => exact hTail (findPriorWithKey_header hFound)
      | blank => exact hTail hFound
      | space => cases hFound
      | junk => cases hFound

theorem appliedAt_of_prior
    {env : RunEnv} {s : Disk} {kind : EventKind}
    {key : String} {prior : PriorEvent}
    (hMarked : Marked env s)
    (hCovered : Covered s)
    (hFound : findPriorWithKey kind key s.lines =
      .ok (some prior)) :
    AppliedAt s prior.seq := by
  rcases priorEvent_mem hFound with ⟨ev, hMem, _, _, rfl⟩
  rcases Option.ne_none_iff_exists'.mp hMarked.manifest with
    ⟨m, hSome⟩
  refine ⟨m, hSome, ?_⟩
  rw [← Disk.appliedSeq_of_manifest hSome]
  exact hCovered ev (Disk.mem_events.mpr hMem)

namespace Sample

/- A keyed request at time zero with a fixed payload. -/
def keyed
    (kind : EventKind)
    (nodeId : Option NodeId)
    (data : Json) : KeyedRequest where
  now := 0
  kind := kind
  nodeId := nodeId
  key := "key"
  build := fun _ => .ok data

def keyedRun : KeyedRequest := keyed .runCreated none runData

def keyedNode : KeyedRequest :=
  keyed .nodeCreated (some .first) nodeData

/- A keyed creation cut before its manifest is written. -/
def keyedRunCut : Disk :=
  ((Call.keyed keyedRun).run env).cutAt 1 Disk.empty

/- A keyed node cut before its projection is written. -/
def keyedNodeCut : Disk :=
  ((Call.keyed keyedNode).run env).cutAt 1 (after [createRun])

end Sample

/-
  In a booted run whose cuts hit only events that are taken
  again, an answer from a prior event comes when that event
  is applied.
-/
theorem replay_answer_applied
    (env : RunEnv)
    (d : Disk)
    (hRun : OpRun env (Booted env) AppliedCut d) :
    (∀ (r : Request) result prior,
        (appendAndApplyEvent env r).result d = .ok result →
        result.prior = some prior →
        AppliedAt ((appendAndApplyEvent env r).final d)
          prior.seq) ∧
      ∀ (r : KeyedRequest) prior,
        (appendAndApplyIdempotent env r).result d =
          .ok (.idempotentReplay prior) →
        AppliedAt ((appendAndApplyIdempotent env r).final d)
          prior.seq := by
  have hMarked := Marked.of_opRun hRun
  have hCatchUp :
      Durable.wp (replayUnappliedUnlocked env)
        (fun _ s => Marked env s ∧ Covered s)
        (fun _ _ => True) (fun _ _ => True) d :=
    Durable.wp_mono hMarked.wp_catchUp (fun _ _ h => h)
      (fun _ _ _ => trivial) (fun _ _ _ => trivial)
  refine ⟨?_, ?_⟩
  · intro r result prior hOk hPrior
    refine Durable.wp_ok
      (Q := fun result s => ∀ prior,
        result.prior = some prior → AppliedAt s prior.seq)
      (wp_appendAndApplyEvent hCatchUp
        (fun _ _ _ _ _ _ => trivial) ?_ ?_) hOk prior hPrior
    · rintro s key prior ⟨hMark, hCovered⟩ _ hFound _ ⟨⟩
      exact appliedAt_of_prior hMark hCovered hFound
    · intro s _ _
      refine Durable.wp_mono (Durable.wp_trivial _ s) ?_
        (fun _ _ h => h) (fun _ _ h => h)
      rintro _ _ _ _ ⟨⟩
  · intro r prior hOk
    refine Durable.wp_ok
      (Q := fun outcome s => ∀ prior,
        outcome = .idempotentReplay prior →
          AppliedAt s prior.seq)
      (wp_appendAndApplyIdempotent (fun _ => trivial) hCatchUp
        (fun _ _ _ _ => trivial) ?_ ?_) hOk prior rfl
    · intro s last data prior hR _ _ hFound
      split
      · rintro _ ⟨⟩
        exact appliedAt_of_prior hR.1 hR.2 hFound
      · rintro _ ⟨⟩
    · intro s last data _ _ _ _
      refine Durable.wp_mono (Durable.wp_trivial _ s) ?_
        (fun _ _ h => h) (fun _ _ h => h)
      rintro _ _ _ _ ⟨⟩

/- A keyed node, cut before its projection and asked again. -/
theorem keyedNode_answer_applied :
    ∃ prior,
      (appendAndApplyIdempotent Sample.env
            Sample.keyedNode).result Sample.keyedNodeCut =
          .ok (.idempotentReplay prior) ∧
        prior.seq = 2 ∧ Sample.keyedNodeCut.appliedSeq = 1 ∧
        AppliedAt
          ((appendAndApplyIdempotent Sample.env
            Sample.keyedNode).final Sample.keyedNodeCut) 2 := by
  have hRun :
      OpRun Sample.env (Booted Sample.env) AppliedCut
        Sample.keyedNodeCut :=
    Durable.Reach.cutAt (Op.call (.keyed Sample.keyedNode)) 1
      (fun t =>
        match t with
        | .logged _ => true
        | _ => false)
      (fun t hLogged => by
        cases t with
        | logged => trivial
        | _ => cases hLogged)
      (Sample.bootedRun_after AppliedCut []).opRun
      (by decide +kernel)
  have hAnswer :
      (appendAndApplyIdempotent Sample.env
          Sample.keyedNode).result Sample.keyedNodeCut =
        .ok (.idempotentReplay
          ⟨2, some .first, Sample.nodeData⟩) := by
    decide +kernel
  exact ⟨_, hAnswer, rfl, by decide +kernel,
    (replay_answer_applied Sample.env Sample.keyedNodeCut
      hRun).2 Sample.keyedNode _ hAnswer⟩

/- A keyed creation cut before its manifest answers too soon. -/
theorem not_replay_answer_applied :
    ¬ ∀ (env : RunEnv) (d : Disk),
      OpRun env (fun s => s = Disk.empty) (fun _ => True) d →
        (∀ (r : Request) result prior,
            (appendAndApplyEvent env r).result d = .ok result →
            result.prior = some prior →
            AppliedAt ((appendAndApplyEvent env r).final d)
              prior.seq) ∧
          ∀ (r : KeyedRequest) prior,
            (appendAndApplyIdempotent env r).result d =
              .ok (.idempotentReplay prior) →
            AppliedAt
              ((appendAndApplyIdempotent env r).final d)
              prior.seq := by
  intro hAlways
  have hRun :
      OpRun Sample.env (fun s => s = Disk.empty) (fun _ => True)
        Sample.keyedRunCut :=
    Durable.Reach.cutAt (Op.call (.keyed Sample.keyedRun)) 1
      (fun _ => true) (fun _ _ => trivial) (.start rfl)
      (by decide +kernel)
  have hAnswer :
      (appendAndApplyIdempotent Sample.env
          Sample.keyedRun).result Sample.keyedRunCut =
        .ok (.idempotentReplay ⟨1, none, Sample.runData⟩) := by
    decide +kernel
  rcases (hAlways Sample.env Sample.keyedRunCut hRun).2
    Sample.keyedRun _ hAnswer with ⟨m, hSome, _⟩
  have hNone :
      ((appendAndApplyIdempotent Sample.env
          Sample.keyedRun).final
        Sample.keyedRunCut).manifest.isNone = true := by
    decide +kernel
  rw [hSome] at hNone
  cases hNone

end Taskfleet
