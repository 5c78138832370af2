import Taskfleet.Backed

/-
  Records that the reducer does not know. On a run with
  nothing left to fold, the append of one changes the log and
  the watermark and nothing else.

  Main declarations:
    * `reduce_other`, `settled_of_covered`
    * `Audited`, `wp_audit`
-/

------------------------------------------------------------
-- Audit Records
------------------------------------------------------------

namespace Taskfleet

section Audits

variable {env : RunEnv} {d : Disk}

theorem reduce_other
    {ev : Event} {name : String}
    (hRun : ev.runId = env.runId)
    (hKind : ev.kind = .other name) :
    reduceEventToOps env d ev = .ok [] := by
  simp [reduceEventToOps, reduceKind, hKind, hRun,
    Fallible.refuseIf]

/- Nothing is left to fold where the watermark is the last. -/
theorem settled_of_covered
    (hTorn : d.torn = false)
    (hReadable : Readable env d)
    (hOrdered : d.Ordered)
    (hCovered : d.lastSeq ≤ d.appliedSeq) :
    Settled env d := by
  refine ⟨hTorn, hReadable, ?_⟩
  intro m hSome ev hMem hAhead
  have hBound :=
    seq_le_lastSeqOf hOrdered.increasing hMem
  rw [Disk.appliedSeq_of_manifest hSome] at hCovered
  change ev.seq ≤ d.lastSeq at hBound
  omega

/- What such an append leaves once it is answered. -/
structure Audited
    (env : RunEnv) (d : Disk) (r : Request) (seq : Nat)
    (s : Disk) : Prop where
  backed : Backed env s
  settled : Settled env s
  seq : seq = d.lastSeq + 1
  lines : s.lines = d.lines ++ [d.next env r]
  nodes : s.nodes = d.nodes

theorem Audited.event
    {r : Request} {seq : Nat} {s : Disk}
    (hAudited : Audited env d r seq s) :
    r.event env seq ∈ s.events := by
  simp [Disk.events, hAudited.lines, Disk.next,
    LogLine.event?, hAudited.seq]

/- The log only grows. -/
theorem Audited.events_subset
    {r : Request} {seq : Nat} {s : Disk}
    (hAudited : Audited env d r seq s) :
    d.events ⊆ s.events := by
  intro ev hMem
  rw [Disk.events, hAudited.lines, List.filterMap_append,
    List.mem_append]
  exact .inl hMem

theorem wp_audit
    {r : Request} {name : String}
    (hKind : r.kind = .other name)
    (hBacked : Backed env d)
    (hSettled : Settled env d) :
    Durable.wp (appendAndApplyUnlocked env r)
      (Audited env d r) (fun _ => Backed env)
      (fun _ => Backed env) d := by
  have hKept := (kept_backed env).wp_append (r := r)
    (fun s ops hHere _ hAbreast hPlan =>
      hHere.log hAbreast.1 hAbreast.2 rfl hPlan) hBacked
  let ev := r.event env (d.lastSeq + 1)
  have hExact :
      Durable.wp (appendAndApplyUnlocked env r)
        (fun seq s => seq = d.lastSeq + 1 ∧
          s = (d.log ev).advance ev.seq)
        (fun _ _ => True) (fun _ _ => True) d := by
    refine wp_appendAndApplyUnlocked
      (wp_appendAndApplyReporting (R := fun s => s = d)
        ?_ ?_ ?_ ?_ ?_)
    · exact Durable.wp_mono (wp_catchUp_idle hSettled)
        (fun _ _ h => h) (fun _ _ _ => trivial)
        (fun _ _ h => h)
    · rintro s rfl
      exact hSettled.readable
    · exact fun _ _ _ _ => trivial
    · exact fun _ _ _ _ _ _ => trivial
    · rintro s last ops rfl hLast hPlan
      obtain rfl :=
        recoverLastSeq_eq hBacked.ordered.plain hLast
      rw [reduce_other rfl hKind] at hPlan
      cases hPlan
      exact ⟨trivial, trivial, fun _ _ => trivial,
        fun _ => trivial, rfl, rfl⟩
  refine Durable.wp_mono (Durable.wp_and hKept hExact) ?_
    (fun _ _ h => h.1.1) (fun _ _ h => h.1.1)
  rintro seq s ⟨⟨hHere, _, hLines⟩, hSeq, hIs⟩
  have hLog : s.lines = (d.log ev).lines := by
    rw [hIs, Disk.advance_lines]
  refine ⟨hHere, ?_, hSeq, hLines, ?_⟩
  · apply settled_of_covered
    · rw [hIs, Disk.advance_torn]
      rfl
    · exact hHere.readable
    · exact hHere.ordered
    · have hMark :
          ((d.log ev).advance ev.seq).appliedSeq = ev.seq := by
        apply advanced_appliedSeq
        · exact hBacked.manifest
        · change d.appliedSeq < d.lastSeq + 1
          have := hBacked.behind
          omega
      rw [lastSeq_congr hLog, hIs, hMark, Disk.lastSeq,
        Disk.log_events, lastSeqOf_concat]
  · rw [hIs, Disk.advance_nodes]
    rfl

/- Cut or not, such an append leaves a run that is backed. -/
theorem leaves_audit
    {r : Request} {name : String} {d' : Disk}
    (hKind : r.kind = .other name)
    (hBacked : Backed env d)
    (hSettled : Settled env d)
    (hLeaves :
      (appendAndApplyUnlocked env r).Leaves d d') :
    Backed env d' :=
  Durable.wp_leaves
    (Durable.wp_mono (wp_audit hKind hBacked hSettled)
      (fun _ _ h => h.backed) (fun _ _ h => h)
      (fun _ _ h => h)) hLeaves

end Audits

end Taskfleet
