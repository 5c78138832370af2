import Taskfleet.KeyedReplay
import Taskfleet.Lasting
import Taskfleet.Probe
import Taskfleet.Quarantine
import Taskfleet.Reducer.Refusals
import Taskfleet.Reread

/-
  Keyed appends are exactly-once. In every run of locked
  calls, cut anywhere, no two events of the log share a kind
  and a key; a call whose kind and key are taken appends
  nothing and answers with the first event under them.

  The catch-up before the lookup cannot fail on such a run,
  so the answer is given and not only right when given.

  The runs are over files whose lines the JSON library reads
  again. What they append must read back: a keyed event that
  does not is never found as one.

  Main declarations:
    * `KeyedCall`, `KeyedRun`, `KeyedFileRun`
    * `Once`, `Once.wp_catchUp`, `once_of_keyedRun`
    * `keyed_appends_exactly_once`
-/

------------------------------------------------------------
-- Runs of Keyed Calls
------------------------------------------------------------

namespace Taskfleet

open Fallible

/- The locked entry points with a key, and the catch-up. -/
inductive KeyedCall where
| event (r : Request)
| idempotent (r : KeyedRequest)
| replay

def KeyedCall.run (env : RunEnv) : KeyedCall → Locked Unit
| .event r => (Call.event r).run env
| .idempotent r => (Call.keyed r).run env
| .replay => Call.replay.run env

/- Runs from an empty directory, each call cut anywhere. -/
def KeyedRun (env : RunEnv) : Disk → Prop :=
  Durable.Reach (KeyedCall.run env) (· = Disk.empty)
    (fun _ _ _ => True)

/- Every payload the call may append reads back as itself. -/
def KeyedCall.ReadsBack (text : JsonText) : KeyedCall → Prop
| .event r => (Call.event r).ReadsBack text
| .idempotent r => (Call.keyed r).ReadsBack text
| .replay => True

/- Such runs of calls whose payloads read back, on file. -/
def KeyedFileRun (text : JsonText) (env : RunEnv) :
    Disk → Prop :=
  Durable.Reach
    (fun c : { c : KeyedCall // c.ReadsBack text } =>
      (c.1.run env).view (Disk.reread text))
    (· = Disk.empty) (fun _ _ _ => True)

/- Two events under one kind and one key. -/
def Event.Clashes (a b : Event) : Prop :=
  a.kind = b.kind ∧ a.idempotencyKey = b.idempotencyKey ∧
    a.idempotencyKey ≠ none

/-
  A run whose readers accept all they find and whose log has
  one event for each kind and key.
-/
structure Once (env : RunEnv) (d : Disk) : Prop where
  readable : Readable env d
  nodes : NodesReadable env d
  lines : d.lines = d.events.map .event
  ordered : d.Ordered
  unique : d.events.Pairwise (fun a b => ¬ a.Clashes b)

/- An event under a fresh key clashes with none before it. -/
theorem pairwise_concat_of_fresh
    {events : List Event} {ev : Event}
    (hUnique : events.Pairwise (fun a b => ¬ a.Clashes b))
    (hFresh : ∀ key, ev.idempotencyKey = some key →
      events.find? (keyedAs ev.kind key) = none) :
    (events ++ [ev]).Pairwise (fun a b => ¬ a.Clashes b) := by
  rw [List.pairwise_append]
  apply And.intro hUnique
  apply And.intro (List.pairwise_singleton _ _)
  intro a hMem b hLast hClash
  rw [List.mem_singleton] at hLast
  subst hLast
  rcases hClash with ⟨hKind, hSame, hKeyed⟩
  rcases Option.ne_none_iff_exists'.mp hKeyed with
    ⟨key, hKey⟩
  have hNone := hFresh key (hSame ▸ hKey)
  rw [List.find?_eq_none] at hNone
  exact hNone a hMem (keyedAs_iff.mpr ⟨hKind, hKey⟩)

------------------------------------------------------------
-- Catch-Up
------------------------------------------------------------

namespace Once

variable {env : RunEnv} {d s : Disk} {ev : Event}
variable {ops : List ProjectionOp}

theorem congr
    (hOnce : Once env s)
    (hReadable : Readable env d)
    (hNodes : NodesReadable env d)
    (hLines : d.lines = s.lines) : Once env d := by
  have hEvents := Disk.events_congr hLines
  constructor
  · exact hReadable
  · exact hNodes
  · rw [hLines, hEvents]
    exact hOnce.lines
  · exact hOnce.ordered.congr hLines
  · rw [hEvents]
    exact hOnce.unique

theorem empty : Once env Disk.empty := by
  constructor
  · exact readable_empty
  · intro id n hLookup
    simp [Disk.empty] at hLookup
  · rfl
  · exact ordered_empty
  · exact List.Pairwise.nil

theorem torn (hOnce : Once env s) (b : Bool) :
    Once env { s with torn := b } :=
  hOnce.congr hOnce.readable hOnce.nodes rfl

/- Writes of a plan leave the log and stay readable. -/
theorem cut
    (hOnce : Once env s)
    (hPlan : reduceEventToOps env s ev = .ok ops)
    (k : Nat) :
    Once env (applyOps (ops.take k) s) := by
  have hOps : ∀ op ∈ ops.take k, op.Writable env := by
    intro op hMem
    exact writable_of_planned (planned_of_reduce hPlan).2 op
      (List.mem_of_mem_take hMem)
  exact hOnce.congr (readable_applyOps hOnce.readable hOps)
    (nodesReadable_applyOps hOnce.nodes hOps)
    (applyOps_lines _ s)

theorem advance (hOnce : Once env s) (seq : Nat) :
    Once env (s.advance seq) := by
  apply hOnce.congr (readable_advance hOnce.readable) ?_
    (Disk.advance_lines seq s)
  intro id n hLookup
  rw [Disk.advance_nodes] at hLookup
  exact hOnce.nodes id n hLookup

theorem folded
    (hOnce : Once env s)
    (hPlan : reduceEventToOps env s ev = .ok ops) :
    Once env ((applyOps ops s).advance ev.seq) := by
  have hAll := hOnce.cut hPlan ops.length
  rw [List.take_length] at hAll
  exact hAll.advance ev.seq

theorem lastSeq (hOnce : Once env s) :
    recoverLastSeq s.lines = .ok s.lastSeq := by
  rw [hOnce.lines]
  exact recoverLastSeq_events s.events

theorem find (hOnce : Once env s) (kind : EventKind)
    (key : String) :
    findPriorWithKey kind key s.lines =
      .ok ((s.events.find? (keyedAs kind key)).map
        Event.asPrior) := by
  rw [hOnce.lines]
  exact findPriorWithKey_events s.events

/- Catch-up returns, and writes no line. -/
theorem wp_catchUp (hOnce : Once env d) :
    Durable.wp (replayUnappliedUnlocked env)
      (fun _ s => Once env s ∧ s.lines = d.lines)
      (fun _ _ => False)
      (fun _ s => Once env s ∧ s.lines = d.lines) d := by
  apply wp_catchUp_skips (fun _ h => h.readable)
    (fun _ h => h.nodes) hOnce.lines ?_ (hOnce.torn false)
  intro s ev ops hHere hPlan
  constructor
  · intro j
    exact hHere.cut hPlan (j + 1)
  · exact hHere.folded hPlan

------------------------------------------------------------
-- Appends
------------------------------------------------------------

/- The key of a request is not taken in the log. -/
def Fresh (r : Request) (s : Disk) : Prop :=
  ∀ key, r.key = some key →
    s.events.find? (keyedAs r.kind key) = none

theorem log
    (hOnce : Once env s)
    (hSeq : ev.seq = s.lastSeq + 1)
    (hFresh : ∀ key, ev.idempotencyKey = some key →
      s.events.find? (keyedAs ev.kind key) = none) :
    Once env (s.log ev) := by
  constructor
  · exact hOnce.readable
  · exact hOnce.nodes
  · rw [Disk.log_events, List.map_append, ← hOnce.lines]
    rfl
  · exact ordered_log hOnce.ordered hSeq
  · rw [Disk.log_events]
    exact pairwise_concat_of_fresh hOnce.unique hFresh

theorem gateWrites
    (hOnce : Once env s)
    (hSeq : ev.seq = s.lastSeq + 1)
    (hFresh : ∀ key, ev.idempotencyKey = some key →
      s.events.find? (keyedAs ev.kind key) = none)
    (hPlan : reduceEventToOps env s ev = .ok ops) :
    GateWrites (fun _ => Once env) (Once env) s ev ops := by
  have hLogged := hOnce.log hSeq hFresh
  have hAgain :
      reduceEventToOps env (s.log ev) ev = .ok ops :=
    (reduce_logged env s ev).trans hPlan
  constructor
  · exact hOnce.torn true
  · exact hLogged
  · intro j _
    exact hLogged.cut hAgain (j + 1)
  · intro _
    exact hLogged.folded hAgain
  · exact hLogged.folded hAgain

/- The gate on a request whose key is not taken. -/
theorem wp_reporting
    {r : Request}
    (hOnce : Once env s)
    (hFresh : Fresh r s) :
    Durable.wp (appendAndApplyReporting env r)
      (fun _ => Once env) (fun _ => Once env)
      (fun _ => Once env) s := by
  apply wp_appendAndApplyReporting
    (R := fun s' => Once env s' ∧ s'.lines = s.lines)
  · exact Durable.wp_mono hOnce.wp_catchUp (fun _ _ h => h)
      (fun _ _ h => h.elim) (fun _ _ h => h.1)
  · intro s' hR
    exact hR.1.readable
  · intro s' e hR _
    exact hR.1
  · intro s' last e hR _ _
    exact hR.1
  · intro s' last ops hR hLast hPlan
    apply hR.1.gateWrites ?_ ?_ hPlan
    · rw [← recoverLastSeq_eq hR.1.ordered.plain hLast]
      rfl
    · intro key hKey
      rw [Disk.events_congr hR.2]
      exact hFresh key hKey

theorem wp_run
    (call : KeyedCall) (hOnce : Once env d) :
    Durable.wp (call.run env) (fun _ => Once env)
      (fun _ => Once env) (fun _ => Once env) d := by
  have hCatchUp :
      Durable.wp (replayUnappliedUnlocked env)
        (fun _ s => Once env s ∧ s.lines = d.lines)
        (fun _ => Once env) (fun _ => Once env) d :=
    Durable.wp_mono hOnce.wp_catchUp (fun _ _ h => h)
      (fun _ _ h => h.elim) (fun _ _ h => h.1)
  cases call with
  | event r =>
      simp only [KeyedCall.run, Call.run, Durable.wp_bind,
        Durable.wp_pure]
      apply wp_appendAndApplyEvent hCatchUp
      · intro s key e hR _ _
        exact hR.1
      · intro s key prior hR _ _
        exact hR.1
      · intro s hR hNone
        apply hR.1.wp_reporting
        intro key hKey
        have hScan := hNone key hKey
        rw [hR.1.find] at hScan
        simpa using hScan
  | idempotent r =>
      simp only [KeyedCall.run, Call.run, Durable.wp_bind,
        Durable.wp_pure]
      apply wp_appendAndApplyIdempotent (fun _ => hOnce)
        hCatchUp
      · intro s e hR _
        exact hR.1
      · intro s last data prior hR _ _ _
        split <;> exact hR.1
      · intro s last data hR _ _ hNone
        apply wp_appendAndApplyUnlocked
        apply hR.1.wp_reporting
        intro key hKey
        cases hKey
        rw [hR.1.find] at hNone
        have hFree :
            s.events.find? (keyedAs r.kind r.key) = none := by
          simpa using hNone
        exact hFree
  | replay =>
      exact Durable.wp_mono hCatchUp (fun _ _ h => h.1)
        (fun _ _ h => h) (fun _ _ h => h)

end Once

/- Every state of a run has one event for a kind and key. -/
theorem once_of_keyedRun
    {env : RunEnv} {d : Disk} (hRun : KeyedRun env d) :
    Once env d := by
  apply Durable.Reach.invariant ?_ ?_ hRun
  · intro s hStart
    rw [hStart]
    exact .empty
  · intro call s hOnce
    exact Durable.wp_mono (hOnce.wp_run call) (fun _ _ h => h)
      (fun _ _ h => h) (fun _ _ h _ => h)

------------------------------------------------------------
-- Answers
------------------------------------------------------------

section Answers

variable {env : RunEnv} {d : Disk} {first : Event}

/- A taken key is answered with its first event. -/
theorem Once.wp_event_taken
    {r : Request} {key : String}
    (hOnce : Once env d)
    (hKey : r.key = some key)
    (hTaken :
      d.events.find? (keyedAs r.kind key) = some first) :
    Durable.wp (appendAndApplyEvent env r)
      (fun result s =>
        result =
            ⟨first.seq, true, false, some first.asPrior⟩ ∧
          s.lines = d.lines)
      (fun _ _ => False) (fun _ s => s.lines = d.lines) d := by
  have hFound : ∀ s key', Once env s → s.lines = d.lines →
      r.key = some key' →
      findPriorWithKey r.kind key' s.lines =
        .ok (some first.asPrior) := by
    intro s key' hR hLines hKey'
    rw [hKey, Option.some.injEq] at hKey'
    rw [hR.find, Disk.events_congr hLines, ← hKey', hTaken]
    rfl
  apply wp_appendAndApplyEvent
    (R := fun s => Once env s ∧ s.lines = d.lines)
  · exact Durable.wp_mono hOnce.wp_catchUp (fun _ _ h => h)
      (fun _ _ h => h) (fun _ _ h => h.2)
  · intro s key' e hR hKey' hScan
    rw [hFound s key' hR.1 hR.2 hKey'] at hScan
    cases hScan
  · intro s key' prior hR hKey' hScan
    rw [hFound s key' hR.1 hR.2 hKey'] at hScan
    cases hScan
    exact ⟨rfl, hR.2⟩
  · intro s hR hNone
    have hScan := hNone key hKey
    rw [hFound s key hR.1 hR.2 hKey] at hScan
    cases hScan

/- The first event under the key tells replay from conflict. -/
theorem Once.wp_idempotent_taken
    {r : KeyedRequest}
    (hOnce : Once env d)
    (hTaken :
      d.events.find? (keyedAs r.kind r.key) = some first) :
    Durable.wp (appendAndApplyIdempotent env r)
      (fun outcome s => s.lines = d.lines ∧
        ∃ data, r.build (d.lastSeq + 1) = .ok data ∧
          outcome =
            if first.nodeId = r.nodeId ∧ first.data = data
            then .idempotentReplay first.asPrior
            else .conflict first.asPrior)
      (fun e s => s.lines = d.lines ∧
        (r.key = "" ∨ r.build (d.lastSeq + 1) = .error e))
      (fun _ s => s.lines = d.lines) d := by
  have hFound : ∀ s, Once env s → s.lines = d.lines →
      findPriorWithKey r.kind r.key s.lines =
        .ok (some first.asPrior) := by
    intro s hR hLines
    rw [hR.find, Disk.events_congr hLines, hTaken]
    rfl
  have hLast : ∀ (s : Disk) last, s.lines = d.lines →
      recoverLastSeq s.lines = .ok last →
      last = d.lastSeq := by
    intro s last hLines hRead
    have hPlain : s.Plain := hOnce.ordered.plain.congr hLines
    rw [recoverLastSeq_eq hPlain hRead, lastSeq_congr hLines]
  apply wp_appendAndApplyIdempotent
    (R := fun s => Once env s ∧ s.lines = d.lines)
  · intro hEmpty
    exact ⟨rfl, .inl hEmpty⟩
  · exact Durable.wp_mono hOnce.wp_catchUp (fun _ _ h => h)
      (fun _ _ h => h.elim) (fun _ _ h => h.2)
  · intro s e hR hFails
    cases hFails with
    | tail hTail =>
        rw [hR.1.lastSeq] at hTail
        cases hTail
    | build last hRead hBuild =>
        rw [hLast s last hR.2 hRead] at hBuild
        exact ⟨hR.2, .inr hBuild⟩
    | scan hScan =>
        rw [hFound s hR.1 hR.2] at hScan
        cases hScan
  · intro s last data prior hR hRead hBuild hScan
    rw [hFound s hR.1 hR.2] at hScan
    cases hScan
    rw [hLast s last hR.2 hRead] at hBuild
    by_cases hSame :
        first.nodeId = r.nodeId ∧ first.data = data
    · have hPrior :
          first.asPrior.nodeId = r.nodeId ∧
            first.asPrior.data = data := hSame
      rw [if_pos hPrior]
      exact ⟨hR.2, data, hBuild, by rw [if_pos hSame]⟩
    · have hPrior :
          ¬ (first.asPrior.nodeId = r.nodeId ∧
            first.asPrior.data = data) := hSame
      rw [if_neg hPrior]
      exact ⟨hR.2, data, hBuild, by rw [if_neg hSame]⟩
  · intro s last data hR _ _ hNone
    rw [hFound s hR.1 hR.2] at hNone
    cases hNone

end Answers

------------------------------------------------------------
-- Exactly Once
------------------------------------------------------------

section Files

variable {text : JsonText} {env : RunEnv} {d s : Disk}

theorem KeyedCall.wp_readsBack
    {call : KeyedCall}
    (hOrdered : d.Ordered)
    (hBack : d.ReadsBack text)
    (hCall : call.ReadsBack text) :
    Durable.wp (call.run env) (fun _ s => s.ReadsBack text)
      (fun _ s => s.ReadsBack text)
      (fun _ s => s.ReadsBack text) d := by
  cases call with
  | event r =>
      exact Call.wp_readsBack hOrdered hBack hCall
  | idempotent r =>
      exact Call.wp_readsBack hOrdered hBack hCall
  | replay =>
      exact Call.wp_readsBack hOrdered hBack
        (fun _ hNever => hNever.elim)

/- On file such a run is what the calls alone would leave. -/
theorem KeyedFileRun.keyedRun
    (hRun : KeyedFileRun text env d) :
    KeyedRun env d ∧ d.ReadsBack text := by
  have hAmong : ∀ s,
      Durable.Reach
        (fun c : { c : KeyedCall // c.ReadsBack text } =>
          c.1.run env) (· = Disk.empty) (fun _ _ _ => True)
        s →
      KeyedRun env s := by
    intro s hReach
    refine hReach.among ?_
    rintro ⟨call, _⟩
    exact ⟨call, rfl, fun _ _ h => h⟩
  have hBoth := Durable.Reach.of_view
    (I := fun s => s.ReadsBack text)
    (fun _ hBack => Disk.reread_of_readsBack hBack) ?_ ?_ hRun
  · exact ⟨hAmong d hBoth.1, hBoth.2⟩
  · rintro s rfl
    exact nofun
  · intro c s hReach hBack
    exact c.1.wp_readsBack
      (once_of_keyedRun (hAmong s hReach)).ordered hBack c.2

/- The lines stay, also as they are read again. -/
theorem lines_of_leaves_view
    {α : Type} {x : Locked α}
    (hBack : d.ReadsBack text)
    (hKept : ∀ s, x.Leaves d s → s.lines = d.lines)
    (hLeaves : (x.view (Disk.reread text)).Leaves d s) :
    s.lines = d.lines := by
  rcases Durable.leaves_view hLeaves with
    rfl | ⟨left, hLeft, rfl⟩
  · rfl
  · have hLines : left.lines = d.lines := hKept left hLeft
    have hSame :=
      Disk.reread_of_readsBack (hBack.congr hLines)
    rw [hSame, hLines]

end Files

/-
  The log has one event for a kind and key. A call under a
  taken key leaves every line as it was, wherever it is cut,
  and its answer is about the first event under the key. The
  scan of the bytes agrees with the full parse of them.
-/
structure KeysOnce
    (text : JsonText) (env : RunEnv) (d : Disk) : Prop where
  unique : d.events.Pairwise (fun a b => ¬ a.Clashes b)
  event : ∀ (r : Request) (key : String) (first : Event),
    r.key = some key →
    d.events.find? (keyedAs r.kind key) = some first →
    ((appendAndApplyEvent env r).view
          (Disk.reread text)).result d =
        .ok ⟨first.seq, true, false, some first.asPrior⟩ ∧
      ∀ s,
        ((appendAndApplyEvent env r).view
          (Disk.reread text)).Leaves d s →
        s.lines = d.lines
  idempotent : ∀ (r : KeyedRequest) (first : Event),
    d.events.find? (keyedAs r.kind r.key) = some first →
    (∀ s,
        ((appendAndApplyIdempotent env r).view
          (Disk.reread text)).Leaves d s →
        s.lines = d.lines) ∧
      ∀ data, r.key ≠ "" →
        r.build (d.lastSeq + 1) = .ok data →
        ((appendAndApplyIdempotent env r).view
            (Disk.reread text)).result d =
          .ok (if first.nodeId = r.nodeId ∧ first.data = data
            then .idempotentReplay first.asPrior
            else .conflict first.asPrior)
  scan : ∀ (codec : LineText) (raw : Bytes)
      (kind key : String),
    Physical.LogText codec env raw d.events →
    Physical.findPriorWithKey codec kind key (some raw) =
      .ok ((d.events.find?
        (keyedAs (.ofName kind) key)).map Event.prior)

theorem keyed_appends_exactly_once
    (text : JsonText)
    (env : RunEnv)
    (d : Disk)
    (hRun : KeyedFileRun text env d) :
    KeysOnce text env d := by
  rcases hRun.keyedRun with ⟨hKeyed, hBack⟩
  have hOnce := once_of_keyedRun hKeyed
  constructor
  · exact hOnce.unique
  · intro r key first hKey hTaken
    have hCall := hOnce.wp_event_taken hKey hTaken
    constructor
    · rcases Durable.wp_total hCall with ⟨result, hOk, hIs, _⟩
      rw [Durable.result_view, hOk, hIs]
    · intro s hLeaves
      refine lines_of_leaves_view hBack (fun s hLeft => ?_)
        hLeaves
      have hKept :
          Durable.wp (appendAndApplyEvent env r)
            (fun _ s => s.lines = d.lines)
            (fun _ s => s.lines = d.lines)
            (fun _ s => s.lines = d.lines) d :=
        Durable.wp_mono hCall (fun _ _ h => h.2)
          (fun _ _ h => h.elim) (fun _ _ h => h)
      exact Durable.wp_leaves (I := fun s => s.lines = d.lines)
        hKept hLeft
  · intro r first hTaken
    have hCall := hOnce.wp_idempotent_taken hTaken
    constructor
    · intro s hLeaves
      refine lines_of_leaves_view hBack (fun s hLeft => ?_)
        hLeaves
      have hKept :
          Durable.wp (appendAndApplyIdempotent env r)
            (fun _ s => s.lines = d.lines)
            (fun _ s => s.lines = d.lines)
            (fun _ s => s.lines = d.lines) d :=
        Durable.wp_mono hCall (fun _ _ h => h.1)
          (fun _ _ h => h.1) (fun _ _ h => h)
      exact Durable.wp_leaves (I := fun s => s.lines = d.lines)
        hKept hLeft
    · intro data hKey hBuild
      rw [Durable.result_view]
      cases hValue :
          (appendAndApplyIdempotent env r).result d with
      | error e =>
          rcases Durable.wp_error hCall hValue with
            ⟨_, hEmpty | hFailed⟩
          · exact absurd hEmpty hKey
          · rw [hBuild] at hFailed
            cases hFailed
      | ok outcome =>
          rcases Durable.wp_ok hCall hValue with
            ⟨_, data', hBuilt, hIs⟩
          rw [hBuild, Except.ok.injEq] at hBuilt
          subst hBuilt
          rw [hIs]
  · intro codec raw kind key hText
    exact Physical.findPriorWithKey_eq hText kind key

namespace Sample

/- A keyed creation cut when its line is down. -/
def onceCut : Disk :=
  (((KeyedCall.idempotent keyedRun).run clockEnv).view
    (Disk.reread jsonText)).cutAt 1 Disk.empty

theorem keyedFileRun_onceCut :
    KeyedFileRun jsonText clockEnv onceCut := by
  have hBack :
      (KeyedCall.idempotent keyedRun).ReadsBack jsonText := by
    rintro r ⟨seq, data, hBuild, rfl⟩
    cases hBuild
    decide +kernel
  have hLabel :
      (((((KeyedCall.idempotent keyedRun).run clockEnv).view
        (Disk.reread jsonText)) Disk.empty).1[1]?).any
          (fun _ => true) = true := by
    decide +kernel
  exact Durable.Reach.cutAt
    (⟨KeyedCall.idempotent keyedRun, hBack⟩ :
      { c : KeyedCall // c.ReadsBack jsonText }) 1
    (fun _ => true) (fun _ _ => trivial) (.start rfl) hLabel

/- The line of that creation, as the library writes it. -/
def onceText : Bytes :=
  ascii
    ("\x7b\"ts\":\"1970-01-01T00:00:00Z\",\"seq\":1," ++
      "\"kind\":\"run.created\"," ++
      "\"run_id\":\"01jxsnap000000000000000000\"," ++
      "\"idempotency_key\":\"key\"," ++
      "\"data\":\x7b\"kind\":\"spinoff\"," ++
      "\"lifecycle\":\"autonomous\",\"title\":\"t\"\x7d\x7d")

def onceEvent : Event :=
  { runCreated with
    ts := 0
    idempotencyKey := some "key" }

/- The JSON library on that line. -/
def onceCodec : LineText where
  value := fun text =>
    if text = onceText then
      .ok (onceEvent.toJson (fun _ => "1970-01-01T00:00:00Z"))
    else .error "expected value at line 1 column 1"
  mismatch := fun _ => "invalid type"
  escapeLossy := fun text =>
    String.ofList (text.map (fun b => Char.ofNat b.toNat))
  toVec := fun _ => onceText
  formatTs := fun _ => "1970-01-01T00:00:00Z"

theorem onceCodec_renders :
    Physical.Renders onceCodec clockEnv onceEvent := by
  constructor
  · simp [onceCodec]
  · rfl
  · decide +kernel
  · decide +kernel
  · decide +kernel

theorem events_onceCut : onceCut.events = [onceEvent] := by
  rfl

end Sample

/-
  A creation cut before its manifest: its own retry replays
  it, another node under the key conflicts, and the bytes of
  the log tell the same.
-/
theorem onceCut_exactly_once :
    ((appendAndApplyIdempotent Sample.clockEnv
          Sample.keyedRun).view
            (Disk.reread Sample.jsonText)).result
              Sample.onceCut =
        .ok (.idempotentReplay ⟨1, none, Sample.runData⟩) ∧
      ((appendAndApplyIdempotent Sample.clockEnv
          { Sample.keyedRun with nodeId := some .first }).view
            (Disk.reread Sample.jsonText)).result
              Sample.onceCut =
        .ok (.conflict ⟨1, none, Sample.runData⟩) ∧
      ((appendAndApplyEvent Sample.clockEnv
          (Sample.keyedRun.request .null)).view
            (Disk.reread Sample.jsonText)).result
              Sample.onceCut =
        .ok ⟨1, true, false, some ⟨1, none, Sample.runData⟩⟩ ∧
      Physical.findPriorWithKey Sample.onceCodec "run.created"
          "key" (some (Sample.onceText ++ [newline, 123])) =
        .ok (some ⟨1, none, Sample.runData⟩) := by
  have hOnce :=
    keyed_appends_exactly_once Sample.jsonText Sample.clockEnv
      Sample.onceCut Sample.keyedFileRun_onceCut
  have hTaken : ∀ kind key,
      kind = .runCreated → key = "key" →
      Sample.onceCut.events.find? (keyedAs kind key) =
        some Sample.onceEvent := by
    intro kind key hKind hKey
    rw [Sample.events_onceCut, hKind, hKey]
    rfl
  have hText :
      Physical.LogText Sample.onceCodec Sample.clockEnv
        (Sample.onceText ++ [newline, 123])
        Sample.onceCut.events := by
    have hWritten :
        Physical.LogText Sample.onceCodec Sample.clockEnv
          (Lines.join newline
            ([Sample.onceEvent].map Sample.onceCodec.toVec) ++
              [123])
          [Sample.onceEvent] :=
      Physical.logText_written (by decide)
        (by simpa using Sample.onceCodec_renders)
        (by simp [Physical.ProperKind]; decide)
        (by simp [Sample.onceEvent]; decide)
    have hBytes :
        Lines.join newline
            ([Sample.onceEvent].map Sample.onceCodec.toVec) ++
              [123] =
          Sample.onceText ++ [newline, 123] := by
      simp [Sample.onceCodec]
    rw [Sample.events_onceCut, ← hBytes]
    exact hWritten
  apply And.intro
  · exact (hOnce.idempotent Sample.keyedRun Sample.onceEvent
      (hTaken _ _ rfl rfl)).2 Sample.runData (by decide) rfl
  apply And.intro
  · exact (hOnce.idempotent
      { Sample.keyedRun with nodeId := some .first }
      Sample.onceEvent (hTaken _ _ rfl rfl)).2 Sample.runData
        (by decide) rfl
  apply And.intro
  · exact (hOnce.event (Sample.keyedRun.request .null) "key"
      Sample.onceEvent rfl (hTaken _ _ rfl rfl)).1
  · rw [hOnce.scan Sample.onceCodec _ "run.created" "key"
      hText, hTaken _ _ (by decide) rfl]
    rfl

end Taskfleet
