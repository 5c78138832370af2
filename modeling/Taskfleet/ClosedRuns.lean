import Taskfleet.Writers

/-
  No section closes a run over live work.

  A section that meets its condition appends a closing run
  status only where the log has settled every node it
  created, whatever was written before it and wherever it is
  cut.

  Main declarations:
    * `ClosedOver`, `SafeRun`
    * `closings_over_settled`
-/

------------------------------------------------------------
-- Closings of a Log
------------------------------------------------------------

namespace Taskfleet

/-
  From position `n` on, every closing of the log comes after
  the settling of all nodes that were created by then.
-/
def ClosedOver (n : Nat) (events : List Event) : Prop :=
  ∀ earlier ev later, events = earlier ++ ev :: later →
    n ≤ earlier.length → ev.Closes → AllSettled earlier

/- Runs all of whose sections meet their conditions. -/
def SafeRun (env : RunEnv) : Disk → Prop :=
  Durable.ReachWhen (Writer.run env) (Booted env)
    (fun w d => w.Safe env d)

section Closings

variable {env : RunEnv} {d : Disk}

theorem closedOver_concat
    {n : Nat} {events : List Event} {ev : Event}
    (hOver : ClosedOver n events)
    (hLast : ev.Closes → AllSettled events) :
    ClosedOver n (events ++ [ev]) := by
  intro earlier e later hSplit hPast hCloses
  rcases List.eq_nil_or_concat later with rfl | ⟨rest, x, rfl⟩
  · rcases List.append_inj' hSplit rfl with ⟨hSame, hEnd⟩
    rw [List.cons.injEq] at hEnd
    subst hSame
    exact hLast (hEnd.1 ▸ hCloses)
  · have hInner :
        events ++ [ev] = (earlier ++ e :: rest) ++ [x] := by
      simpa using hSplit
    rcases List.append_inj' hInner rfl with ⟨hSame, _⟩
    exact hOver earlier e rest hSame hPast hCloses

theorem kept_closedOver (env : RunEnv) (n : Nat) :
    Kept env
      (fun s => Backed env s ∧ ClosedOver n s.events) := by
  refine (kept_backed env).and (fun _ _ h => h) ?_ ?_
  · intro s ev ops k _ hOver _ _
    rwa [Disk.applyOps_events]
  · intro s ev hOver _
    rwa [Disk.advance_events]

/- One section that meets its condition. -/
theorem wp_closedOver
    {n : Nat} {w : Writer}
    (hSafe : w.Safe env d)
    (hBacked : Backed env d)
    (hOver : ClosedOver n d.events) :
    Durable.wp (w.run env)
      (fun _ s => Backed env s ∧ ClosedOver n s.events)
      (fun _ s => Backed env s ∧ ClosedOver n s.events)
      (fun _ s => Backed env s ∧ ClosedOver n s.events) d := by
  refine (kept_closedOver env n).wp_writer w ?_ ⟨hBacked, hOver⟩
  rintro s r ops _ ⟨hHere, hSoFar⟩ hAbreast hSettled hPlan
  refine ⟨hHere.log hAbreast.1 hAbreast.2 rfl hPlan, ?_⟩
  rw [Disk.log_events]
  exact closedOver_concat hSoFar
    (fun hCloses => hSettled hCloses hSafe)

theorem SafeRun.next
    (w : Writer)
    (hRun : SafeRun env d)
    (hSafe : w.Safe env d) :
    SafeRun env ((w.run env).final d) :=
  Durable.ReachWhen.done w hRun hSafe

theorem SafeRun.closedOver (hRun : SafeRun env d) :
    Backed env d ∧ ClosedOver 0 d.events := by
  refine Durable.ReachWhen.invariant
    (I := fun s => Backed env s ∧ ClosedOver 0 s.events)
    ?_ ?_ hRun
  · intro s hBooted
    refine ⟨hBooted.backed, ?_⟩
    intro earlier ev later hSplit _ hCloses
    have hKind : ev.kind = .runCreated :=
      hBooted.created.only (by simp [hSplit])
    rw [hCloses.1] at hKind
    cases hKind
  · rintro w s ⟨hBacked, hOver⟩ hSafe
    exact wp_closedOver hSafe hBacked hOver

end Closings

------------------------------------------------------------
-- Sections and Runs
------------------------------------------------------------

/-
  A section that meets its condition, started anywhere in any
  run of writers and cut anywhere, closes the run only over
  settled nodes. So do whole runs of such sections.
-/
theorem closings_over_settled (env : RunEnv) (d : Disk) :
    (∀ (w : Writer) (s : Disk), WriterRun env d →
        w.Safe env d → (w.run env).Leaves d s →
        ClosedOver d.events.length s.events) ∧
      (SafeRun env d → ClosedOver 0 d.events) := by
  constructor
  · intro w s hRun hSafe hLeaves
    have hOver : ClosedOver d.events.length d.events := by
      intro earlier ev later hSplit hPast _
      rw [hSplit, List.length_append, List.length_cons] at hPast
      omega
    exact (Durable.wp_leaves
      (wp_closedOver hSafe hRun.backed hOver) hLeaves).2
  · intro hRun
    exact hRun.closedOver.2

namespace Sample

/- A supervisor that follows no children. -/
def aloneView : SupervisorView where
  nodeFiles := fun _ => [.first]
  childTails := []
  childStatus := fun _ => none
  spawnedChildren := []

/- The roll-up and the no-worker guard of that supervisor. -/
def rollAlone : Writer := .rollUp 0 aloneView

def guardAlone : Writer := .noWorker 0 aloneView

def reportDone : Call :=
  .append (request .nodeReport (some .first)
    (.obj [("success", .bool true)]))

/- A run whose one node has reported its end. -/
def reportedRun : Disk :=
  after [createRun, createNode, reportDone]

def rolledRun : Disk :=
  (rollAlone.run env).final reportedRun

/- A creation of a node that is logged and no more. -/
def strandedCreation : Disk :=
  (createNode.run env).cutAt 1 (after [createRun])

/- That run after the guard. -/
def closedOverNode : Disk :=
  (guardAlone.run env).final strandedCreation

theorem reportedRun_safe : SafeRun env reportedRun := by
  have hBooted : Booted env (after [createRun]) :=
    ⟨createRun, rfl, .inl rfl, by decide +kernel⟩
  have hCreates :
      SafeRun env (after [createRun, createNode]) := by
    apply SafeRun.next (.call createNode) (.start hBooted)
    rintro r seq rfl ⟨hKind, _⟩
    cases hKind
  apply SafeRun.next (.call reportDone) hCreates
  rintro r seq rfl ⟨hKind, _⟩
  cases hKind

end Sample

/- The roll-up closes a run over its one settled node. -/
theorem closings_over_settled_rollUp :
    Sample.rolledRun.events.map Event.kind =
        [.runCreated, .nodeCreated, .nodeReport, .runStatus] ∧
      ClosedOver 3 Sample.rolledRun.events ∧
      ClosedOver 0 Sample.rolledRun.events := by
  have hLength : Sample.reportedRun.events.length = 3 := by
    decide +kernel
  refine ⟨by decide +kernel, ?_, ?_⟩
  · have hSection :=
      (closings_over_settled Sample.env Sample.reportedRun).1
        Sample.rollAlone Sample.rolledRun
        (Sample.bootedRun_after (fun _ => True) _).writerRun
        trivial (.inl rfl)
    rwa [hLength] at hSection
  · exact (closings_over_settled Sample.env _).2
      (Sample.reportedRun_safe.next Sample.rollAlone trivial)

/- The guard does not see a creation that is not folded. -/
theorem not_closings_over_settled :
    ¬ ∀ (env : RunEnv) (d : Disk) (w : Writer) (s : Disk),
      WriterRun env d → (∀ c, w ≠ .call c) →
        (∀ clock note, w ≠ .cancelRun clock note) →
        (w.run env).Leaves d s →
        ClosedOver d.events.length s.events := by
  intro hAlways
  have hBooted :
      BootedRun Sample.env (fun _ => True)
        Sample.strandedCreation :=
    Durable.Reach.cutAt _ 1 (fun _ => true)
      (fun _ _ => trivial)
      (Sample.bootedRun_after (fun _ => True) [])
      (by decide +kernel)
  have hRun := hBooted.writerRun
  have hOver := hAlways Sample.env Sample.strandedCreation
    Sample.guardAlone Sample.closedOverNode hRun
    (by simp [Sample.guardAlone]) (by simp [Sample.guardAlone])
    (.inl rfl)
  have hClose :
      (Sample.closedOverNode.events.drop 2).head?.any (fun ev =>
        ev.kind == .runStatus &&
          ev.requireStatus.toOption == some .failed) = true := by
    decide +kernel
  cases hRest : Sample.closedOverNode.events.drop 2 with
  | nil =>
      rw [hRest] at hClose
      cases hClose
  | cons ev later =>
      rw [hRest] at hClose
      simp only [List.head?_cons, Option.any_some,
        Bool.and_eq_true, beq_iff_eq] at hClose
      have hCloses : ev.Closes := by
        refine ⟨hClose.1, .failed, ?_, rfl⟩
        cases hRead : ev.requireStatus with
        | error e =>
            rw [hRead] at hClose
            cases hClose.2
        | ok st =>
            rw [hRead] at hClose
            cases hClose.2
            rfl
      have hSplit : Sample.closedOverNode.events =
          Sample.closedOverNode.events.take 2 ++ ev :: later := by
        rw [← hRest, List.take_append_drop]
      have hSettled := hOver _ ev later hSplit
        (by decide +kernel) hCloses
      have hNode :
          ∃ e ∈ Sample.closedOverNode.events.take 2,
            e.kind = .nodeCreated ∧ e.nodeId = some .first := by
        decide +kernel
      rcases hNode with ⟨e, hMem, hKind, hId⟩
      rcases hSettled e hMem hKind .first hId with
        ⟨st, hStatus, hTerminal⟩
      have hPending :
          (logAcc
            (Sample.closedOverNode.events.take 2)).status
            .first = some .pending := by
        decide +kernel
      rw [hPending, Option.some.injEq] at hStatus
      rw [← hStatus] at hTerminal
      cases hTerminal

end Taskfleet
