import Taskfleet.Boot

/-
  The locked operations of a run and the rule for what they
  keep. Truncation, quarantine and foreign lines leave the
  projections and the events of the log alone, and bring no
  header line into it.

  Main declarations:
    * `Op`, `OpRun`
    * `OpRun.invariant`
-/

------------------------------------------------------------
-- Locked Operations
------------------------------------------------------------

namespace Taskfleet

/-
  The locked operations on a run. A line that is no event
  comes into the log only from outside; `foreign` puts one
  at a position, so that a quarantine has something to do.
  It puts neither an event nor the header of one.
-/
inductive Op where
| call (c : Call)
| truncate
| quarantine (backupTs : String)
| foreign (pos : Nat) (line : LogLine)

namespace Op

def run (env : RunEnv) : Op → Locked Unit
| .call c => c.run env
| .truncate => truncateTornTail
| .quarantine backupTs => do
    let _ ← quarantineCorruptLines backupTs
    pure ()
| .foreign pos line =>
    if line.event?.isSome || line.isHeader then pure ()
    else
      Durable.write .foreign (fun d => { d with
        lines := d.lines.take pos ++ line :: d.lines.drop pos })

end Op

/- Runs of locked operations, cut where `Cut` allows it. -/
def OpRun
    (env : RunEnv)
    (Init : Disk → Prop)
    (Cut : Boundary → Prop) : Disk → Prop :=
  Durable.Reach (Op.run env) Init (fun _ _ t => Cut t)

theorem BootedRun.opRun
    {env : RunEnv} {Cut : Boundary → Prop} {d : Disk}
    (hRun : BootedRun env Cut d) :
    OpRun env (Booted env) Cut d := by
  induction hRun with
  | start hInit => exact .start hInit
  | done call _ ih => exact .done (.call call) ih
  | cut call _ hEntry hCut ih =>
      exact .cut (.call call) ih hEntry hCut

------------------------------------------------------------
-- The Events of a Repaired Log
------------------------------------------------------------

/- A quarantine excises lines that are no events. -/
theorem events_filter_corrupt (lines : List LogLine) :
    (lines.filter (fun line => !line.isCorrupt)).filterMap
        LogLine.event? =
      lines.filterMap LogLine.event? := by
  induction lines with
  | nil => rfl
  | cons line rest ih =>
      cases line <;>
        simp [List.filterMap_cons, ih]

theorem events_foreign
    {line : LogLine}
    (hLine : ¬ line.event?.isSome)
    (pos : Nat)
    (lines : List LogLine) :
    (lines.take pos ++ line :: lines.drop pos).filterMap
        LogLine.event? =
      lines.filterMap LogLine.event? := by
  have hNone : line.event? = none := by simpa using hLine
  rw [List.filterMap_append, List.filterMap_cons, hNone]
  dsimp only
  rw [← List.filterMap_append, List.take_append_drop]

theorem plain_filter
    {d : Disk}
    (hPlain : d.Plain)
    (keep : LogLine → Bool)
    (torn : Bool) :
    Disk.Plain { d with
      lines := d.lines.filter keep
      torn := torn } :=
  fun line hMem => hPlain line (List.mem_filter.mp hMem).1

theorem plain_foreign
    {d : Disk}
    {line : LogLine}
    (hPlain : d.Plain)
    (hLine : line.isHeader = false)
    (pos : Nat) :
    Disk.Plain { d with
      lines :=
        d.lines.take pos ++ line :: d.lines.drop pos } := by
  intro l hMem
  rcases List.mem_append.mp hMem with hBefore | hAfter
  · exact hPlain l (List.mem_of_mem_take hBefore)
  · rcases List.mem_cons.mp hAfter with rfl | hRest
    · exact hLine
    · exact hPlain l (List.mem_of_mem_drop hRest)

------------------------------------------------------------
-- Invariants
------------------------------------------------------------

section Rule

variable {env : RunEnv} {d : Disk}
variable {I : Disk → Prop} {Cut : Boundary → Prop}

/-
  A property of the projections, the events and plainness
  that calls keep is kept by every locked operation, a
  quarantine cut between its writes apart.
-/
theorem wp_op
    (hFrame : ∀ s s', I s → s'.manifest = s.manifest →
      s'.nodes = s.nodes → s'.events = s.events →
      (s.Plain → s'.Plain) → I s')
    (hCall : ∀ (call : Call) s, I s →
      Durable.wp (call.run env) (fun _ => I) (fun _ => I)
        (fun t s' => Cut t → I s') s)
    (hRenamed : ¬ Cut .renamed)
    (op : Op)
    (hStart : I d) :
    Durable.wp (op.run env) (fun _ => I) (fun _ => I)
      (fun t s' => Cut t → I s') d := by
  cases op with
  | call c => exact hCall c d hStart
  | truncate =>
      have hTruncated : I { d with torn := false } :=
        hFrame d _ hStart rfl rfl rfl (fun hPlain => hPlain)
      exact wp_truncateTornTail.mpr
        ⟨fun _ _ => hTruncated, hTruncated⟩
  | quarantine backupTs =>
      simp only [Op.run, quarantineCorruptLines,
        Durable.wp_bind, Durable.wp_read, Durable.wp_pure]
      split
      · exact Durable.wp_pure _ |>.mpr hStart
      · rw [Durable.wp_bind, Durable.wp_write,
          Durable.wp_bind, Durable.wp_write, Durable.wp_pure]
        have hRewritten :
            I { d with
              lines :=
                d.lines.filter (fun line => !line.isCorrupt)
              torn := d.torn } :=
          hFrame d _ hStart rfl rfl
            (events_filter_corrupt d.lines)
            (fun hPlain => plain_filter hPlain _ _)
        exact ⟨fun hNever => absurd hNever hRenamed,
          fun _ => hRewritten, hRewritten⟩
  | foreign pos line =>
      simp only [Op.run]
      by_cases hLine :
          (line.event?.isSome || line.isHeader) = true
      · rw [if_pos hLine, Durable.wp_pure]
        exact hStart
      · rw [if_neg hLine, Durable.wp_write]
        rw [Bool.or_eq_true, not_or] at hLine
        have hForeign :
            I { d with
              lines :=
                d.lines.take pos ++
                  line :: d.lines.drop pos } :=
          hFrame d _ hStart rfl rfl
            (events_foreign hLine.1 pos d.lines)
            (fun hPlain => plain_foreign hPlain
              (Bool.eq_false_iff.mpr hLine.2) pos)
        exact ⟨fun _ => hForeign, hForeign⟩

theorem OpRun.invariant
    {Init : Disk → Prop}
    (hInit : ∀ s, Init s → I s)
    (hFrame : ∀ s s', I s → s'.manifest = s.manifest →
      s'.nodes = s.nodes → s'.events = s.events →
      (s.Plain → s'.Plain) → I s')
    (hCall : ∀ (call : Call) s, I s →
      Durable.wp (call.run env) (fun _ => I) (fun _ => I)
        (fun t s' => Cut t → I s') s)
    (hRenamed : ¬ Cut .renamed)
    (hRun : OpRun env Init Cut d) :
    I d :=
  Durable.Reach.invariant hInit
    (fun op _ hI => wp_op hFrame hCall hRenamed op hI) hRun

end Rule

end Taskfleet
