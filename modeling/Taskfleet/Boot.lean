import Taskfleet.CatchUp

/-
  Runs that were created: the first call asks for the
  creation of the run and reached the write of the manifest.

  Main declarations:
    * `Booted`, `BootedRun`
    * `Booted.rule`
    * `Sample.after`
-/

------------------------------------------------------------
-- Booted Runs
------------------------------------------------------------

namespace Taskfleet

namespace Call

/- The call asks for the creation of the run. -/
def Creates : Call → Prop
| .append r | .event r => r.kind = .runCreated
| .keyed r => r.kind = .runCreated
| .replay => False

theorem Creates.kind
    {call : Call}
    {r : Request}
    (hCreates : call.Creates)
    (hAsks : call.Asks r) :
    r.kind = .runCreated := by
  cases call with
  | append r' => exact hAsks ▸ hCreates
  | event r' => exact hAsks ▸ hCreates
  | keyed r' =>
      rcases hAsks with ⟨_, data, _, rfl⟩
      exact hCreates
  | replay => exact hCreates.elim

end Call

/-
  A run whose first call creates it and reached or passed
  the write of the manifest.
-/
def Booted (env : RunEnv) (d : Disk) : Prop :=
  ∃ call : Call, call.Creates ∧
    (d = (call.run env).final Disk.empty ∨
      ∃ t, (t, d) ∈ (call.run env Disk.empty).1) ∧
    d.manifest ≠ none

/- Runs from a booted one, cut only where `Cut` allows it. -/
def BootedRun (env : RunEnv) (Cut : Boundary → Prop) :
    Disk → Prop :=
  Durable.Reach (Call.run env) (Booted env)
    (fun _ _ t => Cut t)

------------------------------------------------------------
-- What Holds of a Booted Run
------------------------------------------------------------

section Rule

variable {env : RunEnv} {d : Disk} {Inv : Disk → Prop}

theorem manifest_of_advance
    {seq : Nat} (hManifest : (d.advance seq).manifest ≠ none) :
    d.manifest ≠ none := by
  intro hNone
  refine hManifest ?_
  unfold Disk.advance
  rw [hNone]
  exact hNone

theorem readable_empty : Readable env Disk.empty := by
  rintro m ⟨⟩

/-
  A property of the creation event's states that have a
  manifest is one of every booted run.
-/
theorem wp_creates
    (hCut : ∀ (r : Request) ops j, r.kind = .runCreated →
      reduceEventToOps env Disk.empty (r.event env 1) =
        .ok ops →
      (applyOps (ops.take (j + 1))
          (Disk.empty.log (r.event env 1))).manifest ≠ none →
      Inv (applyOps (ops.take (j + 1))
        (Disk.empty.log (r.event env 1))))
    (hDone : ∀ (r : Request) ops, r.kind = .runCreated →
      reduceEventToOps env Disk.empty (r.event env 1) =
        .ok ops →
      (applyOps ops
          (Disk.empty.log (r.event env 1))).manifest ≠ none →
      Inv ((applyOps ops
        (Disk.empty.log (r.event env 1))).advance 1))
    {call : Call}
    (hCreates : call.Creates) :
    Durable.wp (call.run env)
      (fun _ s => s.manifest ≠ none → Inv s)
      (fun _ s => s.manifest ≠ none → Inv s)
      (fun _ s => s.manifest ≠ none → Inv s) Disk.empty := by
  have hEmpty : Disk.empty.manifest ≠ none → Inv Disk.empty :=
    fun hSome => absurd rfl hSome
  refine Durable.wp_mono
    (wp_call call
      (I := fun s => s = Disk.empty)
      (R := fun s => s = Disk.empty)
      (D := fun s => s.manifest ≠ none → Inv s)
      (C := fun _ s => s.manifest ≠ none → Inv s)
      ?_ (fun _ h => h) ?_ ?_ ?_ rfl)
    (fun _ _ h => h) ?_ (fun _ _ h => h)
  · rintro s rfl
    exact wp_catchUp_covered readable_empty rfl
      (fun hSome => absurd rfl hSome) hEmpty rfl
  · rintro s rfl
    exact hEmpty
  · rintro s rfl
    exact readable_empty
  · rintro s last r ops hAsks rfl hLast hPlan
    have hKind := hCreates.kind hAsks
    obtain rfl : last = 0 :=
      recoverLastSeq_eq Disk.plain_empty hLast
    exact ⟨fun hSome => absurd rfl hSome,
      fun hSome => absurd rfl hSome,
      fun j _ hSome => hCut r ops j hKind hPlan hSome,
      fun _ hSome =>
        hDone r ops hKind hPlan (manifest_of_advance hSome),
      fun hSome =>
        hDone r ops hKind hPlan (manifest_of_advance hSome)⟩
  · rintro _ s rfl
    exact hEmpty

theorem Booted.rule
    (hBooted : Booted env d)
    (hCut : ∀ (r : Request) ops j, r.kind = .runCreated →
      reduceEventToOps env Disk.empty (r.event env 1) =
        .ok ops →
      (applyOps (ops.take (j + 1))
          (Disk.empty.log (r.event env 1))).manifest ≠ none →
      Inv (applyOps (ops.take (j + 1))
        (Disk.empty.log (r.event env 1))))
    (hDone : ∀ (r : Request) ops, r.kind = .runCreated →
      reduceEventToOps env Disk.empty (r.event env 1) =
        .ok ops →
      (applyOps ops
          (Disk.empty.log (r.event env 1))).manifest ≠ none →
      Inv ((applyOps ops
        (Disk.empty.log (r.event env 1))).advance 1)) :
    Inv d := by
  rcases hBooted with ⟨call, hCreates, hState, hManifest⟩
  have hRun := wp_creates hCut hDone hCreates
  rcases hState with rfl | ⟨t, hEntry⟩
  · exact Durable.wp_final hRun hManifest
  · exact hRun.1 _ hEntry hManifest

end Rule

------------------------------------------------------------
-- Sample Runs
------------------------------------------------------------

namespace Sample

/- A request without a key at time zero. -/
def request
    (kind : EventKind)
    (nodeId : Option NodeId)
    (data : Json) : Request where
  now := 0
  kind := kind
  nodeId := nodeId
  key := none
  data := data

/- The state after calls that each run to their end. -/
def after (calls : List Call) : Disk :=
  calls.foldl (fun d call => (call.run env).final d) Disk.empty

theorem after_concat (calls : List Call) (call : Call) :
    after (calls ++ [call]) =
      (call.run env).final (after calls) := by
  simp [after]

/- A second node of the sample run. -/
def sibling : NodeId := ⟨"n-0002", by decide⟩

def createRun : Call :=
  .append (request .runCreated none runData)

def createSourced : Call :=
  .append (request .runCreated none
    (.obj
      [("kind", .str "spinoff"),
        ("lifecycle", .str "autonomous"),
        ("source_branch", .str "main"),
        ("source_repo", .str "/r"), ("title", .str "t")]))

def createNode : Call :=
  .append (request .nodeCreated (some .first) nodeData)

def ask : Call :=
  .append
    (request .nodeAwaitingInput (some .first) questionData)

theorem bootedRun_after
    (Cut : Boundary → Prop) (calls : List Call) :
    BootedRun env Cut (after (createRun :: calls)) := by
  induction calls using List.reverseRecOn with
  | nil =>
      exact .start ⟨createRun, rfl, .inl rfl, by decide +kernel⟩
  | append_singleton calls call ih =>
      rw [← List.cons_append, after_concat]
      exact .done call ih

end Sample

end Taskfleet
