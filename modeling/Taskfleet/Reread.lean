import Taskfleet.Operations

/-
  The log as it is read again. A line is made from a payload
  in memory and read by the JSON library, which refuses a
  payload that is nested too deep for it and may shift the
  last digits of a fraction. Skipping a payload has no such
  limit: the header of a refused line can still be read.

  A locked operation finds the lines that were there when it
  began as the library reads them. The line it writes itself
  is read by the next one. Where every payload reads back as
  itself, the runs are those of the operations alone.

  Main declarations:
    * `JsonText`, `JsonText.ReadsBack`
    * `LogLine.reread`, `Disk.reread`
    * `FileOp`, `FileRun`, `FileRun.opRun`
-/

------------------------------------------------------------
-- Payloads on File
------------------------------------------------------------

namespace Taskfleet

/-
  The JSON library on the payloads of event lines: what one
  reads back as, if the line can be read as an event.
-/
structure JsonText where
  rereads : Json → Option Json

/- The payload reads back as itself. -/
def JsonText.ReadsBack (text : JsonText) (data : Json) : Prop :=
  text.rereads data = some data

instance (text : JsonText) (data : Json) :
    Decidable (text.ReadsBack data) :=
  inferInstanceAs (Decidable (text.rereads data = some data))

/- The line that a written one is read as. -/
def LogLine.reread (text : JsonText) : LogLine → LogLine
| .event ev =>
    match text.rereads ev.data with
    | some data => .event { ev with data := data }
    | none => .header ev.seq (some (ev.kind, ev.idempotencyKey))
| line => line

namespace Disk

def reread (text : JsonText) (d : Disk) : Disk :=
  { d with lines := d.lines.map (LogLine.reread text) }

/- Every payload of the log reads back as itself. -/
def ReadsBack (text : JsonText) (d : Disk) : Prop :=
  ∀ ev ∈ d.events, text.ReadsBack ev.data

instance (text : JsonText) (d : Disk) :
    Decidable (d.ReadsBack text) :=
  inferInstanceAs
    (Decidable (∀ ev ∈ d.events, text.ReadsBack ev.data))

end Disk

section Rereading

variable {text : JsonText} {env : RunEnv} {d s : Disk}

theorem reread_event
    {ev : Event} (hBack : text.ReadsBack ev.data) :
    (LogLine.event ev).reread text = .event ev := by
  unfold JsonText.ReadsBack at hBack
  simp [LogLine.reread, hBack]

/- Nothing changes where all of it reads back. -/
theorem Disk.reread_of_readsBack (hBack : d.ReadsBack text) :
    d.reread text = d := by
  have hLines :
      d.lines.map (LogLine.reread text) = d.lines.map id := by
    apply List.map_congr_left
    intro line hMem
    cases line with
    | event ev =>
        exact reread_event (hBack ev (Disk.mem_events.mpr hMem))
    | _ => rfl
  rw [List.map_id] at hLines
  unfold Disk.reread
  rw [hLines]

theorem Disk.ReadsBack.of_events
    (hEvents : s.events = d.events) (hBack : d.ReadsBack text) :
    s.ReadsBack text := by
  unfold Disk.ReadsBack
  rw [hEvents]
  exact hBack

theorem Disk.ReadsBack.congr
    (hLines : s.lines = d.lines) (hBack : d.ReadsBack text) :
    s.ReadsBack text :=
  hBack.of_events (Disk.events_congr hLines)

theorem Disk.ReadsBack.log
    {ev : Event}
    (hBack : d.ReadsBack text)
    (hNew : text.ReadsBack ev.data) :
    (d.log ev).ReadsBack text := by
  intro e hMem
  rw [Disk.log_events, List.mem_append,
    List.mem_singleton] at hMem
  rcases hMem with hOld | rfl
  · exact hBack e hOld
  · exact hNew

------------------------------------------------------------
-- Calls
------------------------------------------------------------

/- Every payload the call may append reads back as itself. -/
def Call.ReadsBack (text : JsonText) (call : Call) : Prop :=
  ∀ r, call.Asks r → text.ReadsBack r.data

/- Such a call leaves payloads that read back, also cut. -/
theorem Call.wp_readsBack
    {call : Call}
    (hOrdered : d.Ordered)
    (hBack : d.ReadsBack text)
    (hCall : call.ReadsBack text) :
    Durable.wp (call.run env) (fun _ s => s.ReadsBack text)
      (fun _ s => s.ReadsBack text)
      (fun _ s => s.ReadsBack text) d := by
  refine Durable.wp_mono
    (wp_call call
      (I := fun s => s.lines = d.lines)
      (R := fun s => s.lines = d.lines ∧ Readable env s)
      (D := fun s => s.ReadsBack text)
      (C := fun _ s => s.ReadsBack text)
      ?_ (fun _ hR => hR.1) (fun _ hR => hBack.congr hR.1)
      (fun _ hR => hR.2) ?_ rfl)
    (fun _ _ h => h) (fun _ _ hSame => hBack.congr hSame)
    (fun _ _ h => h)
  · intro s hSame
    exact Durable.wp_mono
      (wp_catchUp_settled (hOrdered.congr hSame))
      (fun _ _ h => ⟨h.1.trans hSame, h.2.readable⟩)
      (fun _ _ h => h.trans hSame)
      (fun _ _ h => hBack.congr (h.trans hSame))
  · intro s last r ops hAsks hR _ _
    have hHere : s.ReadsBack text := hBack.congr hR.1
    have hLogged :
        (s.log (r.event env (last + 1))).ReadsBack text :=
      hHere.log (hCall r hAsks)
    exact ⟨hHere.congr rfl, hLogged,
      fun j _ => hLogged.congr (applyOps_lines _ _),
      fun _ => hLogged.congr (by simp),
      hLogged.congr (by simp)⟩

end Rereading

------------------------------------------------------------
-- Operations on Files
------------------------------------------------------------

/-
  The locked operations, and a line from outside of which
  only the header can be read.
-/
inductive FileOp where
| op (o : Op)
| header (pos seq : Nat)
    (probe : Option (EventKind × Option String))

namespace FileOp

/- The operation as it runs, before its lines are reread. -/
def write (env : RunEnv) : FileOp → Locked Unit
| .op o => o.run env
| .header pos seq probe =>
    Durable.write .foreign (fun d => { d with
      lines :=
        d.lines.take pos ++
          .header seq probe :: d.lines.drop pos })

def run (text : JsonText) (env : RunEnv) (o : FileOp) :
    Locked Unit :=
  (o.write env).view (Disk.reread text)

/- What is appended reads back, and no header is put in. -/
def Meets (text : JsonText) : FileOp → Prop
| .op (.call call) => call.ReadsBack text
| .op _ => True
| .header _ _ _ => False

end FileOp

/- Runs of operations that meet a condition. -/
def FileRun
    (text : JsonText)
    (env : RunEnv)
    (Init : Disk → Prop)
    (Met : FileOp → Prop)
    (Cut : Boundary → Prop) : Disk → Prop :=
  Durable.Reach
    (fun o : { o : FileOp // Met o } => o.1.run text env) Init
    (fun _ _ t => Cut t)

section Runs

variable {text : JsonText} {env : RunEnv} {d s : Disk}
variable {Init : Disk → Prop} {Cut : Boundary → Prop}

theorem FileRun.done
    {Met : FileOp → Prop}
    {o : FileOp}
    (hRun : FileRun text env Init Met Cut d)
    (hMet : Met o) :
    FileRun text env Init Met Cut ((o.run text env).final d) :=
  Durable.Reach.done
    (⟨o, hMet⟩ : { o : FileOp // Met o }) hRun

theorem FileRun.cutAt
    {Met : FileOp → Prop}
    {o : FileOp}
    (hRun : FileRun text env Init Met Cut d)
    (hMet : Met o)
    (n : Nat)
    (allowed : Boundary → Bool)
    (hAllowed : ∀ t, allowed t = true → Cut t)
    (hLabel :
      ((o.run text env d).1[n]?).any
        (fun entry => allowed entry.1) = true) :
    FileRun text env Init Met Cut
      (Durable.cutAt n (o.run text env) d) :=
  Durable.Reach.cutAt
    (⟨o, hMet⟩ : { o : FileOp // Met o }) n allowed hAllowed
    hRun hLabel

/- No operation but a call brings an event to the log. -/
theorem Op.wp_readsBack
    {o : Op}
    (hOrdered : d.Ordered)
    (hBack : d.ReadsBack text)
    (hMeets : (FileOp.op o).Meets text) :
    Durable.wp (o.run env) (fun _ s => s.ReadsBack text)
      (fun _ s => s.ReadsBack text)
      (fun _ s => s.ReadsBack text) d := by
  have hSame : ∀ s : Disk, s.events = d.events →
      s.ReadsBack text :=
    fun s hEvents => hBack.of_events hEvents
  cases o with
  | call call => exact call.wp_readsBack hOrdered hBack hMeets
  | truncate =>
      have hTruncated :=
        hSame { d with torn := false } rfl
      exact wp_truncateTornTail.mpr
        ⟨fun _ => hTruncated, hTruncated⟩
  | quarantine backupTs =>
      simp only [Op.run, quarantineCorruptLines,
        Durable.wp_bind, Durable.wp_read, Durable.wp_pure]
      split
      · exact Durable.wp_pure _ |>.mpr hBack
      · rw [Durable.wp_bind, Durable.wp_write,
          Durable.wp_bind, Durable.wp_write, Durable.wp_pure]
        have hRewritten :=
          hSame { d with
            lines :=
              d.lines.filter (fun line => !line.isCorrupt)
            torn := d.torn }
            (events_filter_corrupt d.lines)
        have hRenamed :
            Disk.ReadsBack text
              { d with lines := [], torn := false } :=
          fun _ hMem => absurd hMem List.not_mem_nil
        exact ⟨hRenamed, hRewritten, hRewritten⟩
  | foreign pos line =>
      simp only [Op.run]
      by_cases hLine :
          (line.event?.isSome || line.isHeader) = true
      · rw [if_pos hLine, Durable.wp_pure]
        exact hBack
      · rw [if_neg hLine, Durable.wp_write]
        rw [Bool.or_eq_true, not_or] at hLine
        have hForeign :=
          hSame { d with
            lines :=
              d.lines.take pos ++ line :: d.lines.drop pos }
            (events_foreign hLine.1 pos d.lines)
        exact ⟨hForeign, hForeign⟩

/-
  Where what is appended reads back and no header is put in,
  the file holds what the operations alone would leave.
-/
theorem FileRun.opRun
    (hInit : ∀ s, Init s → s.ReadsBack text)
    (hOrdered : ∀ s, OpRun env Init Cut s → s.Ordered)
    (hRun : FileRun text env Init (FileOp.Meets text) Cut d) :
    OpRun env Init Cut d ∧ d.ReadsBack text := by
  have hAmong : ∀ s,
      Durable.Reach
        (fun o : { o : FileOp // o.Meets text } =>
          o.1.write env) Init (fun _ _ t => Cut t) s →
      OpRun env Init Cut s := by
    intro s hReach
    refine hReach.among ?_
    rintro ⟨o, hMeets⟩
    cases o with
    | op o => exact ⟨o, rfl, fun _ _ hCut => hCut⟩
    | header => exact hMeets.elim
  have hBoth := Durable.Reach.of_view
    (I := fun s => s.ReadsBack text)
    (fun _ hBack => Disk.reread_of_readsBack hBack) hInit ?_
    hRun
  · exact ⟨hAmong d hBoth.1, hBoth.2⟩
  · rintro ⟨o, hMeets⟩ s hReach hBack
    cases o with
    | op o =>
        exact o.wp_readsBack (hOrdered s (hAmong s hReach)) hBack
          hMeets
    | header => exact hMeets.elim

end Runs

------------------------------------------------------------
-- A Library with a Limit
------------------------------------------------------------

namespace Json

mutual

/- How deep containers are nested in a value. -/
def depth : Json → Nat
| .arr vs => depthList vs + 1
| .obj kvs => depthFields kvs + 1
| _ => 0

def depthList : List Json → Nat
| [] => 0
| v :: vs => max v.depth (depthList vs)

def depthFields : List (String × Json) → Nat
| [] => 0
| (_, v) :: kvs => max v.depth (depthFields kvs)

end

/- Nested lists around nothing. -/
def nested : Nat → Json
| 0 => .null
| n + 1 => .arr [nested n]

end Json

namespace Sample

/-
  The library refuses to enter a container inside 127 others,
  and the line of an event is one around its payload.
-/
def jsonText : JsonText where
  rereads := fun data =>
    if data.depth < 127 then some data else none

end Sample

end Taskfleet
