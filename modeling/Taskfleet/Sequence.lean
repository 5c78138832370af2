import Taskfleet.Gate

/-
  Sequence numbers of a log.

  Main declarations:
    * `Disk.lastSeq`, `Disk.Ordered`
    * `recoverLastSeq_eq`
    * `advance_covers`
-/

------------------------------------------------------------
-- The Last Sequence Number
------------------------------------------------------------

namespace Taskfleet

/- The sequence number of the last event, zero without one. -/
def lastSeqOf (events : List Event) : Nat :=
  (events.getLast?.map Event.seq).getD 0

@[simp] theorem lastSeqOf_nil : lastSeqOf [] = 0 := rfl

@[simp] theorem lastSeqOf_concat
    (events : List Event) (ev : Event) :
    lastSeqOf (events ++ [ev]) = ev.seq := by
  simp [lastSeqOf]

namespace Disk

def lastSeq (d : Disk) : Nat := lastSeqOf d.events

/-
  Sequence numbers are positive and strictly increasing, and
  every line that has one is an event.
-/
structure Ordered (d : Disk) : Prop where
  positive : ∀ ev ∈ d.events, 0 < ev.seq
  increasing :
    d.events.Pairwise (fun a b => a.seq < b.seq)
  plain : d.Plain

@[simp] theorem log_events (ev : Event) (d : Disk) :
    (d.log ev).events = d.events ++ [ev] := by
  simp [events, log, LogLine.event?]

theorem events_congr
    {d d' : Disk} (hSame : d'.lines = d.lines) :
    d'.events = d.events := by
  simp [events, hSame]

@[simp] theorem applyOps_events
    (ops : List ProjectionOp) (d : Disk) :
    (applyOps ops d).events = d.events :=
  events_congr (applyOps_lines ops d)

@[simp] theorem advance_events (seq : Nat) (d : Disk) :
    (d.advance seq).events = d.events :=
  events_congr (advance_lines seq d)

theorem Plain.congr
    {d d' : Disk}
    (hSame : d'.lines = d.lines)
    (hPlain : d.Plain) :
    d'.Plain := by
  unfold Plain
  rw [hSame]
  exact hPlain

theorem Plain.log
    {d : Disk}
    (hPlain : d.Plain)
    (ev : Event) :
    (d.log ev).Plain := by
  intro line hMem
  rw [show (d.log ev).lines = d.lines ++ [.event ev] from rfl,
    List.mem_append, List.mem_singleton] at hMem
  rcases hMem with hOld | rfl
  · exact hPlain line hOld
  · rfl

theorem plain_empty : empty.Plain := by
  intro line hMem
  cases hMem

/- The order is a matter of the events and the headers. -/
theorem Ordered.of_events
    {d d' : Disk}
    (hEvents : d'.events = d.events)
    (hPlain : d.Plain → d'.Plain)
    (hOrdered : d.Ordered) :
    d'.Ordered :=
  ⟨hEvents ▸ hOrdered.positive,
    hEvents ▸ hOrdered.increasing, hPlain hOrdered.plain⟩

theorem Ordered.congr
    {d d' : Disk}
    (hSame : d'.lines = d.lines)
    (hOrdered : d.Ordered) :
    d'.Ordered :=
  hOrdered.of_events (events_congr hSame) (Plain.congr hSame)

end Disk

theorem lastSeq_congr
    {a b : Disk} (hLines : a.lines = b.lines) :
    a.lastSeq = b.lastSeq := by
  unfold Disk.lastSeq
  rw [Disk.events_congr hLines]

/- The last event bounds the others of an increasing log. -/
theorem seq_le_lastSeqOf
    {events : List Event}
    (hIncreasing : events.Pairwise (fun a b => a.seq < b.seq))
    {ev : Event}
    (hMem : ev ∈ events) :
    ev.seq ≤ lastSeqOf events := by
  rcases List.eq_nil_or_concat events with rfl | ⟨init, last, rfl⟩
  · cases hMem
  · rw [List.concat_eq_append] at hIncreasing hMem ⊢
    rw [lastSeqOf_concat]
    rw [List.pairwise_append] at hIncreasing
    rcases List.mem_append.mp hMem with hInit | hLast
    · exact (hIncreasing.2.2 ev hInit last (by simp)).le
    · rw [List.mem_singleton.mp hLast]

theorem lastSeqBackward_eq
    {lines : List LogLine}
    {last : Nat}
    (hPlain : ∀ line ∈ lines, line.isHeader = false)
    (hLast : lastSeqBackward lines = .ok last) :
    last = lastSeqOf
      (lines.reverse.filterMap LogLine.event?) := by
  induction lines with
  | nil => cases hLast; rfl
  | cons line rest ih =>
      have hRest : ∀ line ∈ rest, line.isHeader = false :=
        fun l hMem => hPlain l (List.mem_cons_of_mem _ hMem)
      cases line with
      | event ev =>
          cases hLast
          simp [LogLine.event?]
      | header seq probe =>
          cases hPlain _ List.mem_cons_self
      | junk => cases hLast
      | blank => simpa [List.filterMap_cons] using ih hRest hLast
      | space => simpa [List.filterMap_cons] using ih hRest hLast

/- What the tail scan of a plain log recovers. -/
theorem recoverLastSeq_eq
    {d : Disk}
    {last : Nat}
    (hPlain : d.Plain)
    (hLast : recoverLastSeq d.lines = .ok last) :
    last = d.lastSeq := by
  have hScan :=
    lastSeqBackward_eq
      (fun line hMem => hPlain line (List.mem_reverse.mp hMem))
      hLast
  rwa [List.reverse_reverse] at hScan

/- A log of events alone has a readable tail. -/
theorem recoverLastSeq_events (events : List Event) :
    recoverLastSeq (events.map .event) =
      .ok (lastSeqOf events) := by
  rcases List.eq_nil_or_concat events with rfl | ⟨init, last, rfl⟩
  · rfl
  · rw [List.concat_eq_append, List.map_append]
    simp

/- A line's event comes after those of the lines before it. -/
theorem Disk.Ordered.lt_of_split
    {d : Disk}
    {pre rest : List LogLine}
    {ev e : Event}
    (hOrdered : d.Ordered)
    (hSplit : d.lines = pre ++ .event ev :: rest)
    (hMem : .event e ∈ pre) :
    e.seq < ev.seq := by
  have hIncreasing := hOrdered.increasing
  unfold Disk.events at hIncreasing
  rw [hSplit, List.filterMap_append,
    List.pairwise_append] at hIncreasing
  refine hIncreasing.2.2 e ?_ ev ?_
  · exact List.mem_filterMap.mpr ⟨_, hMem, rfl⟩
  · exact List.mem_filterMap.mpr ⟨_, List.mem_cons_self, rfl⟩

theorem Disk.mem_events {d : Disk} {ev : Event} :
    ev ∈ d.events ↔ .event ev ∈ d.lines := by
  unfold Disk.events
  rw [List.mem_filterMap]
  constructor
  · rintro ⟨line, hMem, hEvent⟩
    cases line with
    | event e =>
        rw [LogLine.event?_event, Option.some.injEq] at hEvent
        exact hEvent ▸ hMem
    | header seq probe => cases hEvent
    | blank => cases hEvent
    | space => cases hEvent
    | junk => cases hEvent
  · exact fun hMem => ⟨_, hMem, rfl⟩

/- An ordered log gives no number to two events. -/
theorem seq_injective
    {d : Disk}
    {e e' : Event}
    (hOrdered : d.Ordered)
    (hMem : e ∈ d.events)
    (hMem' : e' ∈ d.events)
    (hSeq : e.seq = e'.seq) :
    e = e' := by
  have hNodup : (d.events.map Event.seq).Nodup :=
    List.pairwise_map.mpr
      (hOrdered.increasing.imp (fun hLt => hLt.ne))
  exact List.inj_on_of_nodup_map hNodup hMem hMem' hSeq

theorem ordered_empty : Disk.empty.Ordered := by
  refine ⟨?_, ?_, Disk.plain_empty⟩
  · intro ev hMem
    cases hMem
  · exact List.Pairwise.nil

/- The gate keeps the log ordered. -/
theorem ordered_log
    {d : Disk}
    {ev : Event}
    (hOrdered : d.Ordered)
    (hSeq : ev.seq = d.lastSeq + 1) :
    (d.log ev).Ordered := by
  refine ⟨?_, ?_, hOrdered.plain.log ev⟩
  · intro e hMem
    rw [Disk.log_events, List.mem_append,
      List.mem_singleton] at hMem
    rcases hMem with hOld | rfl
    · exact hOrdered.positive e hOld
    · omega
  · rw [Disk.log_events, List.pairwise_append]
    refine ⟨hOrdered.increasing, by simp, ?_⟩
    intro e hOld e' hNew
    rw [List.mem_singleton] at hNew
    have hBound : e.seq ≤ d.lastSeq :=
      seq_le_lastSeqOf hOrdered.increasing hOld
    rw [hNew]
    omega

------------------------------------------------------------
-- The Watermark
------------------------------------------------------------

theorem Disk.appliedSeq_of_manifest
    {d : Disk} {m : Manifest}
    (hManifest : d.manifest = some m) :
    d.appliedSeq = m.appliedSeq := by
  simp [Disk.appliedSeq, hManifest]

/- Planned manifests carry the watermark they were given. -/
theorem planned_appliedSeq
    {env : RunEnv} {d : Disk} {ev : Event}
    {ops : List ProjectionOp}
    (hPlanned : Planned env d ev ops)
    {m : Manifest}
    (hMem : .manifest m ∈ ops) :
    m.appliedSeq = d.appliedSeq := by
  cases hPlanned with
  | nothing => simp at hMem
  | runCreated m' _ hNone hNew =>
      simp only [List.mem_singleton,
        ProjectionOp.manifest.injEq] at hMem
      rw [hMem, (newManifest_spec env ev m' hNew).2.2.1]
      simp [Disk.appliedSeq, hNone]
  | runStatus m' s _ hManifest =>
      simp only [List.mem_singleton,
        ProjectionOp.manifest.injEq] at hMem
      rw [hMem, Disk.appliedSeq_of_manifest hManifest]
  | nodeAlone => simp at hMem
  | nodeCreated id n m' _ _ _ _ hManifest =>
      simp only [List.mem_cons, reduceCtorEq,
        ProjectionOp.manifest.injEq, List.not_mem_nil,
        or_false, false_or] at hMem
      rw [hMem, Disk.appliedSeq_of_manifest hManifest]
      rfl
  | settlementIntent id n m' _ _ _ hManifest =>
      simp only [List.mem_singleton,
        ProjectionOp.manifest.injEq] at hMem
      rw [hMem, Disk.appliedSeq_of_manifest hManifest]
  | stepped => simp at hMem

theorem applyOps_appliedSeq
    {d : Disk} {seq : Nat} {ops : List ProjectionOp}
    (hDisk : d.appliedSeq = seq)
    (hOps : ∀ m, .manifest m ∈ ops → m.appliedSeq = seq) :
    (applyOps ops d).appliedSeq = seq := by
  induction ops generalizing d with
  | nil => exact hDisk
  | cons op rest ih =>
      refine ih ?_ (fun m hMem =>
        hOps m (List.mem_cons_of_mem _ hMem))
      cases op with
      | node n => exact hDisk
      | manifest m => exact hOps m List.mem_cons_self

/- No write of a plan moves the watermark. -/
theorem appliedSeq_of_plan
    {env : RunEnv} {d d' : Disk} {ev : Event}
    {ops : List ProjectionOp}
    (hPlan : reduceEventToOps env d ev = .ok ops)
    (hSame : d'.appliedSeq = d.appliedSeq)
    (k : Nat) :
    (applyOps (ops.take k) d').appliedSeq = d.appliedSeq :=
  applyOps_appliedSeq hSame (fun _ hMem =>
    planned_appliedSeq (planned_of_reduce hPlan).2
      (List.mem_of_mem_take hMem))

theorem appliedSeq_of_whole
    {env : RunEnv} {d : Disk} {ev : Event}
    {ops : List ProjectionOp}
    (hPlan : reduceEventToOps env d ev = .ok ops) :
    (applyOps ops d).appliedSeq = d.appliedSeq := by
  have hAll := appliedSeq_of_plan hPlan rfl ops.length
  rwa [List.take_length] at hAll

theorem advance_appliedSeq
    {d : Disk} {seq : Nat} {m : Manifest}
    (hManifest : d.manifest = some m)
    (hBehind : d.appliedSeq < seq) :
    (d.advance seq).appliedSeq = seq := by
  rw [Disk.appliedSeq_of_manifest hManifest] at hBehind
  rw [Disk.advance_of_behind hManifest hBehind]
  rfl

/- After an advance the watermark covers the event. -/
theorem advance_covers
    {d : Disk} {seq : Nat} {m : Manifest}
    (hManifest : (d.advance seq).manifest = some m) :
    seq ≤ m.appliedSeq := by
  by_cases hBehind : d.Behind seq
  · rcases hBehind with ⟨m', hSome, hLt⟩
    rw [Disk.advance_of_behind hSome hLt,
      Disk.putManifest_manifest, Option.some.injEq] at hManifest
    rw [← hManifest]
  · rw [Disk.advance_of_not_behind hBehind] at hManifest
    by_contra hLt
    exact hBehind ⟨m, hManifest, not_le.mp hLt⟩

theorem advance_appliedSeq_le
    {s : Disk} {seq : Nat}
    (hOld : s.appliedSeq ≤ s.lastSeq)
    (hNew : seq ≤ s.lastSeq) :
    (s.advance seq).appliedSeq ≤ s.lastSeq := by
  by_cases hBehind : s.Behind seq
  · rcases hBehind with ⟨m, hManifest, hLt⟩
    rw [Disk.advance_of_behind hManifest hLt]
    exact hNew
  · rwa [Disk.advance_of_not_behind hBehind]

end Taskfleet
