import Taskfleet.Rebuild
import Taskfleet.Writers

/-
  Sections that spare something. Each write of a locked
  section says in its label which event it logs or folds, so
  a property that some events keep holds along every section
  that logs and folds none but those.

  Main declarations:
    * `Boundary.Allows`, `Sparing`
    * `Sparing.keeps_catchUp`, `Sparing.keeps_append`
    * `Sparing.keeps_call`, `Sparing.keeps_writer`
-/

------------------------------------------------------------
-- Sparing Events
------------------------------------------------------------

namespace Taskfleet

open Fallible

/- A write that logs or folds no event but those of `S`. -/
def Boundary.Allows (S : Event → Prop) : Boundary → Prop
| .logged ev => S ev
| .projected _ ev _ => S ev
| _ => True

/- A section, run from a state, whose writes are all such. -/
def Spares
    {α : Type}
    (S : Event → Prop) (x : Locked α) (d : Disk) : Prop :=
  ∀ entry ∈ (x d).1, entry.1.Allows S

/-
  A property that logging an event of `S` keeps, folding any
  part of one, and moving the watermark.
-/
structure Sparing
    (env : RunEnv) (S : Event → Prop) (P : Disk → Prop) :
    Prop where
  torn : ∀ s b, P s → P { s with torn := b }
  logged : ∀ s ev, S ev → P s → P (s.log ev)
  folded : ∀ s ev ops j, S ev → P s →
    reduceEventToOps env s ev = .ok ops →
    P (applyOps (ops.take j) s)
  advanced : ∀ s seq, P s → P (s.advance seq)

/- A property besides a manifest that can be read. -/
def Legibly (env : RunEnv) (P : Disk → Prop) (s : Disk) :
    Prop :=
  Readable env s ∧ P s

section Rules

variable {env : RunEnv} {s : Disk} {ev : Event}
variable {ops : List ProjectionOp}
variable {S : Event → Prop} {P : Disk → Prop}

theorem Sparing.legibly (hSparing : Sparing env S P) :
    Sparing env S (Legibly env P) where
  torn := fun s b h => ⟨h.1, hSparing.torn s b h.2⟩
  logged := fun s ev hEv h =>
    ⟨readable_log h.1, hSparing.logged s ev hEv h.2⟩
  folded := by
    intro s ev ops j hEv h hPlan
    have hOps :=
      writable_of_planned (planned_of_reduce hPlan).2
    constructor
    · exact readable_applyOps h.1
        (fun op hMem => hOps op (List.mem_of_mem_take hMem))
    · exact hSparing.folded s ev ops j hEv h.2 hPlan
  advanced := fun s seq h =>
    ⟨readable_advance h.1, hSparing.advanced s seq h.2⟩

theorem Sparing.whole
    (hSparing : Sparing env S P)
    (hEv : S ev)
    (hHere : P s)
    (hPlan : reduceEventToOps env s ev = .ok ops) :
    P (applyOps ops s) := by
  have hAll :=
    hSparing.folded s ev ops ops.length hEv hHere hPlan
  rwa [List.take_length] at hAll

/- A plan with a write has a label that names its event. -/
theorem Sparing.keeps_commit
    {planned : Disk}
    (hSparing : Sparing env S P)
    (hHere : P s)
    (hPlan : reduceEventToOps env s ev = .ok ops)
    (hSpares : Spares S (commitOps env planned ev ops) s) :
    Durable.wp (commitOps env planned ev ops) (fun _ => P)
      (fun _ => P) (fun _ => P) s := by
  have hOps := writable_of_planned (planned_of_reduce hPlan).2
  rw [Spares, ← Durable.wp_labels, wp_commitOps hOps]
    at hSpares
  rw [wp_commitOps hOps]
  constructor
  · intro j hj
    have hEv : S ev := hSpares.1 j hj
    exact hSparing.folded s ev ops (j + 1) hEv hHere hPlan
  · cases ops with
    | nil => exact hHere
    | cons op rest =>
        have hEv : S ev := hSpares.1 0 (by simp)
        exact hSparing.whole hEv hHere hPlan

theorem Sparing.keeps_replayEvent
    (hSparing : Sparing env S P) (ev : Event) :
    Durable.KeepsWhen (Boundary.Allows S) (Legibly env P)
      (replayEvent env ev) := by
  intro s hHere hSpares
  rw [← Durable.wp_labels] at hSpares
  unfold replayEvent at hSpares ⊢
  rw [Durable.wp_bind, Durable.wp_read] at hSpares ⊢
  cases hPlan : reduceEventToOps env s ev with
  | error e => cases e <;> simpa using hHere
  | ok ops =>
      rw [hPlan] at hSpares
      dsimp only at hSpares ⊢
      rw [Durable.wp_labels] at hSpares
      rw [Durable.wp_bind]
      have hOwn : Spares S (commitOps env s ev ops) s :=
        fun entry h => hSpares entry (Durable.mem_bind_left h)
      have hCommit :=
        hSparing.legibly.keeps_commit hHere hPlan hOwn
      refine Durable.wp_mono hCommit ?_ (fun _ _ h => h)
        (fun _ _ h => h)
      intro _ s' hHere'
      have hMoved :=
        hSparing.legibly.advanced s' ev.seq hHere'
      rw [wp_advanceAppliedSeq hHere'.1]
      exact ⟨fun _ => hMoved, hMoved⟩

theorem Sparing.keeps_replayLines
    (hSparing : Sparing env S P)
    (applied : Nat)
    (lines : List LogLine) :
    Durable.KeepsWhen (Boundary.Allows S) (Legibly env P)
      (replayLines env applied lines) := by
  induction lines with
  | nil => exact .pure _
  | cons line rest ih =>
      cases line with
      | event ev =>
          unfold replayLines
          apply Durable.KeepsWhen.ite
          · intro _
            exact ih
          · intro _
            exact .bind (hSparing.keeps_replayEvent ev)
              (fun _ => ih)
      | header => exact ih
      | blank => exact ih
      | space => exact ih
      | junk => exact ih

theorem Sparing.keeps_catchUp (hSparing : Sparing env S P) :
    Durable.KeepsWhen (Boundary.Allows S) (Legibly env P)
      (replayUnappliedUnlocked env) := by
  unfold replayUnappliedUnlocked truncateTornTail
    replayUnapplied
  apply Durable.KeepsWhen.bind
  · apply Durable.KeepsWhen.read
    intro d _
    apply Durable.KeepsWhen.ite
    · intro _
      apply Durable.KeepsWhen.write
      intro s _ hHere
      exact hSparing.legibly.torn s false hHere
    · intro _
      exact .pure _
  intro _
  apply Durable.KeepsWhen.read
  intro d _
  apply Durable.KeepsWhen.bind (.lift _)
  intro m
  split
  · exact .pure _
  · apply Durable.KeepsWhen.bind (.lift _)
    intro last
    apply Durable.KeepsWhen.ite
    · intro _
      exact .pure _
    · intro _
      exact hSparing.keeps_replayLines _ _

/-
  The gate. The line and the plan of one event are written
  here, and the first of them names it.
-/
theorem Sparing.keeps_reporting
    (hSparing : Sparing env S P) (r : Request) :
    Durable.KeepsWhen (Boundary.Allows S) (Legibly env P)
      (appendAndApplyReporting env r) := by
  have hBoth := hSparing.legibly
  unfold appendAndApplyReporting
  apply Durable.KeepsWhen.bind hSparing.keeps_catchUp
  intro _ s hHere hSpares
  rw [← Durable.wp_labels] at hSpares
  rw [Durable.wp_bind, Durable.wp_read, Durable.wp_bind]
    at hSpares ⊢
  cases hLast : recoverLastSeq s.lines with
  | error e =>
      rw [Durable.wp_lift_error]
      exact hHere
  | ok last =>
      rw [hLast] at hSpares
      rw [Durable.wp_lift_ok] at hSpares ⊢
      dsimp only at hSpares ⊢
      rw [Durable.wp_bind] at hSpares ⊢
      cases hPlan :
          reduceEventToOps env s (r.event env (last + 1)) with
      | error e =>
          rw [Durable.wp_lift_error]
          exact hHere
      | ok ops =>
          rw [hPlan] at hSpares
          have hOps :=
            writable_of_planned (planned_of_reduce hPlan).2
          have hAgain :=
            (reduce_logged env s _).trans hPlan
          rw [Durable.wp_lift_ok] at hSpares ⊢
          unfold writeLine at hSpares ⊢
          rw [Durable.wp_bind, Durable.wp_bind,
            Durable.wp_write, Durable.wp_write] at hSpares ⊢
          have hEv : S (r.event env (last + 1)) := hSpares.2.1
          have hLogged := hBoth.logged s _ hEv hHere
          have hWhole := hBoth.whole hEv hLogged hAgain
          have hMoved :=
            hBoth.advanced _ (last + 1) hWhole
          refine ⟨hBoth.torn s true hHere, hLogged, ?_⟩
          rw [Durable.wp_bind, wp_commitOps hOps]
          constructor
          · intro j _
            exact hBoth.folded _ _ ops (j + 1) hEv hLogged
              hAgain
          · rw [Durable.wp_bind, wp_advanceAppliedSeq,
              Durable.wp_pure]
            · exact ⟨fun _ => hMoved, hMoved⟩
            · exact hWhole.1

theorem Sparing.keeps_append
    (hSparing : Sparing env S P) (r : Request) :
    Durable.KeepsWhen (Boundary.Allows S) (Legibly env P)
      (appendAndApplyUnlocked env r) :=
  .bind (hSparing.keeps_reporting r) (fun _ => .pure _)

theorem Sparing.keeps_event
    (hSparing : Sparing env S P) (r : Request) :
    Durable.KeepsWhen (Boundary.Allows S) (Legibly env P)
      (appendAndApplyEvent env r) := by
  unfold appendAndApplyEvent findPrior
  apply Durable.KeepsWhen.bind hSparing.keeps_catchUp
  intro _
  apply Durable.KeepsWhen.bind
  · split
    · exact .pure _
    · apply Durable.KeepsWhen.read
      intro d _
      exact .lift _
  intro prior
  split
  · exact .pure _
  · exact .bind (hSparing.keeps_reporting r) (fun _ => .pure _)

theorem Sparing.keeps_idempotent
    (hSparing : Sparing env S P) (r : KeyedRequest) :
    Durable.KeepsWhen (Boundary.Allows S) (Legibly env P)
      (appendAndApplyIdempotent env r) := by
  unfold appendAndApplyIdempotent
  apply Durable.KeepsWhen.ite
  · intro _
    exact .fail _
  intro _
  apply Durable.KeepsWhen.bind hSparing.keeps_catchUp
  intro _
  apply Durable.KeepsWhen.read
  intro d _
  apply Durable.KeepsWhen.bind (.lift _)
  intro last
  apply Durable.KeepsWhen.bind (.lift _)
  intro data
  apply Durable.KeepsWhen.bind (.lift _)
  intro prior
  split
  · apply Durable.KeepsWhen.ite
    · intro _
      exact .pure _
    · intro _
      exact .pure _
  · exact .bind (hSparing.keeps_append _) (fun _ => .pure _)

theorem Sparing.keeps_call
    (hSparing : Sparing env S P) (call : Call) :
    Durable.KeepsWhen (Boundary.Allows S) (Legibly env P)
      (call.run env) := by
  cases call with
  | append r =>
      exact .bind (hSparing.keeps_append r) (fun _ => .pure _)
  | event r =>
      exact .bind (hSparing.keeps_event r) (fun _ => .pure _)
  | keyed r =>
      exact .bind (hSparing.keeps_idempotent r)
        (fun _ => .pure _)
  | replay => exact hSparing.keeps_catchUp

/- A bare fold, refused or not. -/
theorem Sparing.keeps_apply
    (hSparing : Sparing env S P) (ev : Event) :
    Durable.KeepsWhen (Boundary.Allows S) (Legibly env P)
      (applyEvent env ev) := by
  intro s hHere hSpares
  rw [← Durable.wp_labels] at hSpares
  unfold applyEvent at hSpares ⊢
  rw [Durable.wp_bind, Durable.wp_read, Durable.wp_bind]
    at hSpares ⊢
  cases hPlan : reduceEventToOps env s ev with
  | error e =>
      rw [Durable.wp_lift_error]
      exact hHere
  | ok ops =>
      rw [hPlan, Durable.wp_lift_ok, Durable.wp_labels]
        at hSpares
      rw [Durable.wp_lift_ok]
      exact hSparing.legibly.keeps_commit hHere hPlan hSpares

end Rules

------------------------------------------------------------
-- Writers
------------------------------------------------------------

section Writers

variable {env : RunEnv}
variable {S : Event → Prop} {P : Disk → Prop}

theorem Sparing.keeps_settleNode
    {now : Time} {reason summary : String}
    {ledger : CancelLedger} {id : NodeId} {st : Status}
    (hSparing : Sparing env S P) :
    Durable.KeepsWhen (Boundary.Allows S) (Legibly env P)
      (settleNode env now reason summary ledger id st) := by
  unfold settleNode
  split
  · apply Durable.KeepsWhen.read
    intro d _
    apply Durable.KeepsWhen.bind (.lift _)
    intro n
    apply Durable.KeepsWhen.ite
    · intro _
      exact .pure _
    · intro _
      exact .bind (hSparing.keeps_apply _) (fun _ => .pure _)
  · apply Durable.KeepsWhen.ite
    · intro _
      exact .pure _
    · intro _
      exact .bind (hSparing.keeps_append _) (fun _ => .pure _)

theorem Sparing.keeps_settleNodes
    {clock : CancelClock} {reason : String}
    {ledger : CancelLedger}
    (hSparing : Sparing env S P)
    (entries : List (NodeId × Status)) :
    Durable.KeepsWhen (Boundary.Allows S) (Legibly env P)
      (settleNodes env clock reason ledger entries) := by
  induction entries with
  | nil => exact .pure _
  | cons entry rest ih =>
      unfold settleNodes
      apply Durable.KeepsWhen.bind hSparing.keeps_settleNode
      intro live
      apply Durable.KeepsWhen.bind ih
      intro split
      apply Durable.KeepsWhen.ite
      · intro _
        exact .pure _
      · intro _
        exact .pure _

theorem Sparing.keeps_closeRun
    {now : Time} {ledger : CancelLedger} {data : Json}
    (hSparing : Sparing env S P) :
    Durable.KeepsWhen (Boundary.Allows S) (Legibly env P)
      (closeRun env now ledger data) := by
  unfold closeRun
  split
  · exact hSparing.keeps_apply _
  · exact .bind (hSparing.keeps_append _) (fun _ => .pure _)

theorem Sparing.keeps_cancelRun
    {clock : CancelClock} {note : Option String}
    (hSparing : Sparing env S P) :
    Durable.KeepsWhen (Boundary.Allows S) (Legibly env P)
      (cancelRunUnlocked env clock note) := by
  unfold cancelRunUnlocked
  apply Durable.KeepsWhen.read
  intro d _
  apply Durable.KeepsWhen.bind (.lift _)
  intro m
  apply Durable.KeepsWhen.ite
  · intro _
    exact .fail _
  intro _
  apply Durable.KeepsWhen.bind (.lift _)
  intro ledger
  apply Durable.KeepsWhen.bind (hSparing.keeps_settleNodes _)
  intro split
  apply Durable.KeepsWhen.ite
  · intro _
    exact .pure _
  · intro _
    exact .bind hSparing.keeps_closeRun (fun _ => .pure _)

theorem Sparing.keeps_maybeRollUpRun
    {now : Time} {entry : Status} {ledger : CancelLedger}
    {target : NodeId} {cancelled : Bool} {st : Status}
    (hSparing : Sparing env S P) :
    Durable.KeepsWhen (Boundary.Allows S) (Legibly env P)
      (maybeRollUpRun env now entry ledger target cancelled
        st) := by
  unfold maybeRollUpRun
  apply Durable.KeepsWhen.ite
  · intro _
    exact .pure _
  intro _
  dsimp only
  split
  · exact .pure _
  · exact .bind hSparing.keeps_closeRun (fun _ => .pure _)

theorem Sparing.keeps_cancelNode
    {clock : CancelClock} {id : NodeId} {note : Option String}
    (hSparing : Sparing env S P) :
    Durable.KeepsWhen (Boundary.Allows S) (Legibly env P)
      (cancelNodeUnlocked env clock id note) := by
  unfold cancelNodeUnlocked
  apply Durable.KeepsWhen.read
  intro d _
  apply Durable.KeepsWhen.bind (.lift _)
  intro m
  apply Durable.KeepsWhen.ite
  · intro _
    exact .fail _
  intro _
  apply Durable.KeepsWhen.bind (.lift _)
  intro ledger
  split
  · exact .fail _
  · apply Durable.KeepsWhen.bind hSparing.keeps_settleNode
    intro cancelled
    exact .bind hSparing.keeps_maybeRollUpRun
      (fun _ => .pure _)

theorem Sparing.keeps_rollUp
    {now : Time} {view : SupervisorView}
    (hSparing : Sparing env S P) :
    Durable.KeepsWhen (Boundary.Allows S) (Legibly env P)
      (rollUp env now view) := by
  unfold rollUp
  apply Durable.KeepsWhen.bind hSparing.keeps_catchUp
  intro _
  apply Durable.KeepsWhen.read
  intro d _
  apply Durable.KeepsWhen.bind (.lift _)
  intro linked
  dsimp only
  split
  · exact .pure _
  · exact .bind (hSparing.keeps_append _) (fun _ => .pure _)

theorem Sparing.keeps_noWorker
    {now : Time} {view : SupervisorView}
    (hSparing : Sparing env S P) :
    Durable.KeepsWhen (Boundary.Allows S) (Legibly env P)
      (noWorkerGuard env now view) := by
  unfold noWorkerGuard
  apply Durable.KeepsWhen.read
  intro d _
  apply Durable.KeepsWhen.ite
  · intro _
    exact .bind (hSparing.keeps_append _) (fun _ => .pure _)
  · intro _
    exact .pure _

theorem Sparing.keeps_writer
    (hSparing : Sparing env S P) (w : Writer) :
    Durable.KeepsWhen (Boundary.Allows S) (Legibly env P)
      (w.run env) := by
  cases w with
  | call c => exact hSparing.keeps_call c
  | cancelRun clock note =>
      exact .bind hSparing.keeps_cancelRun (fun _ => .pure _)
  | cancelNode clock id note =>
      exact .bind hSparing.keeps_cancelNode (fun _ => .pure _)
  | rollUp now view =>
      exact .bind hSparing.keeps_rollUp (fun _ => .pure _)
  | noWorker now view =>
      exact .bind hSparing.keeps_noWorker (fun _ => .pure _)

end Writers

end Taskfleet
