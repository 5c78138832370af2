import Taskfleet.Ledger
import Taskfleet.RunRecovery

/-
  What a keyed append answers: a prior event of its kind and
  key, or an event that the caught-up run accepts.

  Main declarations:
    * `Disk.Recorded`, `Answered`
    * `wp_event_answered`
-/

------------------------------------------------------------
-- Answers
------------------------------------------------------------

namespace Taskfleet

open Fallible

/- An event of a kind under a key is in the log. -/
def Disk.Recorded
    (kind : EventKind) (key : String) (d : Disk) : Prop :=
  ∃ ev ∈ d.events, keyedAs kind key ev = true

instance (kind : EventKind) (key : String) (d : Disk) :
    Decidable (d.Recorded kind key) :=
  inferInstanceAs (Decidable (∃ ev ∈ d.events, _))

/-
  The answer to a request: a prior event under its key, or an
  event that the caught-up run accepts.
-/
inductive Answered (env : RunEnv) (d : Disk) (r : Request) :
    AppendResult → Disk → Prop where
| replayed (key : String) (prior : PriorEvent)
    (hKey : r.key = some key)
    (hRecorded : d.Recorded r.kind key) :
    Answered env d r ⟨prior.seq, true, false, some prior⟩
      (catchUp env d)
| accepted (seq : Nat) (applied : Bool) (s : Disk)
    (hNew : ∀ key, r.key = some key →
      ¬ d.Recorded r.kind key)
    (hAccepts :
      Accepts env (catchUp env d) (r.event env seq) s)
    (hLines :
      s.lines = d.lines ++ [.event (r.event env seq)]) :
    Answered env d r ⟨seq, false, applied, none⟩ s

section Appends

variable {env : RunEnv} {d : Disk}

theorem recorded_iff_of_findPrior
    {kind : EventKind} {key : String} {d : Disk}
    {found : Option PriorEvent}
    (hFound : findPriorWithKey kind key d.lines = .ok found) :
    d.Recorded kind key ↔ found.isSome = true := by
  unfold Disk.Recorded Disk.events
  generalize d.lines = lines at hFound ⊢
  induction lines with
  | nil =>
      cases hFound
      simp
  | cons line rest ih =>
      cases line with
      | event ev =>
          rw [findPriorWithKey] at hFound
          by_cases hHere : keyedAs kind key ev = true
          · rw [if_pos (keyedAs_iff.mp hHere)] at hFound
            cases hFound
            simp [hHere]
          · rw [if_neg (fun h => hHere (keyedAs_iff.mpr h))]
              at hFound
            simpa [hHere] using ih hFound
      | header =>
          simpa using ih (findPriorWithKey_header hFound)
      | blank => simpa using ih hFound
      | space => cases hFound
      | junk => cases hFound

theorem accepts_committed
    {s : Disk} {ev : Event} {ops : List ProjectionOp}
    (hPlan : reduceEventToOps env s ev = .ok ops) :
    Accepts env s ev
      ((applyOps ops (s.log ev)).advance ev.seq) := by
  have hSame := (sameProjections_log ev s).applyOps ops
  refine ⟨ops, hPlan, ?_, ?_⟩
  · rw [Disk.advance_nodes, hSame.nodes]
  · rw [advance_runStatus, hSame.runStatus]

theorem wp_event_answered
    (r : Request) (hOrdered : d.Ordered) :
    Durable.wp (appendAndApplyEvent env r) (Answered env d r)
      (fun _ s => s = catchUp env d) (fun _ _ => True) d := by
  refine wp_appendAndApplyEvent
    (R := fun s => s = catchUp env d ∧ s.lines = d.lines ∧
      Settled env s)
    (Durable.wp_mono (wp_catchUp hOrdered) (fun _ _ h => h)
      (fun _ _ h => h.1) (fun _ _ _ => trivial)) ?_ ?_ ?_
  · exact fun _ _ _ hR _ _ => hR.1
  · rintro s key prior ⟨rfl, hLines, _⟩ hKey hFound
    rw [hLines] at hFound
    exact .replayed key prior hKey
      ((recorded_iff_of_findPrior hFound).mpr rfl)
  · rintro s ⟨rfl, hLines, hSettled⟩ hFree
    refine wp_appendAndApplyReporting
      (R := fun s => s = catchUp env d)
      (wp_catchUp_idle hSettled) ?_ ?_ ?_ ?_
    · rintro _ rfl
      exact hSettled.readable
    · exact fun _ _ hR _ => hR
    · exact fun _ _ _ hR _ _ => hR
    · rintro s last ops rfl hLast hPlan
      refine ⟨trivial, trivial, fun _ _ => trivial,
        fun _ => trivial, ?_⟩
      apply Answered.accepted (last + 1) _ _ ?_
        (accepts_committed hPlan)
      · rw [← hLines]
        exact applyOps_log_lines ops _ _
      · intro key hKey hRecorded
        have hNone := hFree key hKey
        rw [hLines] at hNone
        have hSome :=
          (recorded_iff_of_findPrior hNone).mp hRecorded
        cases hSome

end Appends

end Taskfleet
