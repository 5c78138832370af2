import Taskfleet.Lasting

/-
  Settled nodes owe nothing.

  A node with a terminal status has no open question and no
  merge transaction, but for the merge by which a caller
  settles its own run. A worker that has exited is asked
  nothing, and its exit is a code or a signal.

  Main declarations:
    * `CallerMerges`, `Node.Discharged`, `Discharged`
    * `discharged_of_run`
-/

------------------------------------------------------------
-- Discharged Nodes
------------------------------------------------------------

namespace Taskfleet

/- The caller owns the run and means to merge this node. -/
def CallerMerges (d : Disk) (id : NodeId) : Prop :=
  ∃ m intent, d.manifest = some m ∧ m.agentOwner = .caller ∧
    m.callerSettlementIntent = some intent ∧
    intent.operation = .merge ∧ intent.nodeId = id

/- The obligations of one node, the caller's merge apart. -/
structure Node.Discharged (n : Node) (merges : Prop) :
    Prop where
  asked : n.status.isTerminal = true → n.awaitingInput = none
  merged : n.status.isTerminal = true →
    n.pendingMerge = none ∨ merges
  departed : n.workerExit.isSome → n.awaitingInput = none
  exit : ∀ exit, n.workerExit = some exit →
    exit.code.isSome ≠ exit.signal.isSome

def Discharged (d : Disk) : Prop :=
  ∀ id n, d.nodes.lookup id = some n →
    n.Discharged (CallerMerges d id)

------------------------------------------------------------
-- One Write
------------------------------------------------------------

section Step

variable {env : RunEnv} {s : Disk} {ev : Event}
variable {id : NodeId} {n n' : Node}

theorem Node.Bare.discharged
    {merges : Prop} (hBare : n.Bare) : n.Discharged merges where
  asked := fun _ => hBare.awaitingInput
  merged := fun _ => .inl hBare.pendingMerge
  departed := fun _ => hBare.awaitingInput
  exit := by
    intro exit hExit
    rw [hBare.workerExit] at hExit
    cases hExit

theorem Node.Discharged.mono
    {merges merges' : Prop}
    (hNode : n.Discharged merges)
    (hMerges : merges → merges') :
    n.Discharged merges' where
  asked := hNode.asked
  merged := fun hTerminal =>
    (hNode.merged hTerminal).imp_right hMerges
  departed := hNode.departed
  exit := hNode.exit

/- A failed sole node is merged by its caller. -/
theorem callerMerges_of_recoverable
    {m : Manifest}
    (hManifest : s.manifest = some m)
    (hRecoverable : recoverableMerge m id n = true) :
    CallerMerges s id := by
  unfold recoverableMerge at hRecoverable
  rw [decide_eq_true_eq] at hRecoverable
  rcases hRecoverable with ⟨hOwner, _, _, _, hIntent⟩
  rw [Option.any_eq_true] at hIntent
  rcases hIntent with ⟨intent, hSome, hMerge⟩
  rw [decide_eq_true_eq] at hMerge
  exact ⟨m, intent, hManifest, hOwner, hSome, hMerge.1,
    hMerge.2⟩

theorem Node.Discharged.moved
    (hNode : n.Discharged (CallerMerges s id))
    (hMove : DuesMove env s ev id n n') :
    n'.Discharged (CallerMerges s id) := by
  have hNoExit : n'.workerExit = n.workerExit →
      ∀ exit, n'.workerExit = some exit →
        exit.code.isSome ≠ exit.signal.isSome := by
    intro hSame exit hExit
    exact hNode.exit exit (hSame ▸ hExit)
  cases hMove with
  | kept hSame =>
      refine ⟨?_, ?_, ?_, hNoExit hSame.workerExit⟩
      · rw [hSame.status, hSame.awaitingInput]
        exact hNode.asked
      · rw [hSame.status, hSame.pendingMerge]
        exact hNode.merged
      · rw [hSame.workerExit, hSame.awaitingInput]
        exact hNode.departed
  | moved _ hLive hAsked _ hExit =>
      refine ⟨?_, ?_, ?_, hNoExit hExit⟩
      · intro hTerminal
        rw [hLive] at hTerminal
        cases hTerminal
      · intro hTerminal
        rw [hLive] at hTerminal
        cases hTerminal
      · rw [hExit, hAsked]
        exact hNode.departed
  | settled _ hAsked hMerge hExit =>
      exact ⟨fun _ => hAsked, fun _ => .inl hMerge,
        fun _ => hAsked, hNoExit hExit⟩
  | rewired _ _ hAsked hMerge hExit =>
      refine ⟨fun _ => hAsked, fun _ => .inl hMerge,
        fun _ => hAsked, ?_⟩
      intro exit hSome
      rw [hExit] at hSome
      cases hSome
  | exited x _ hExit hOne hStatus hAsked hMerge =>
      refine ⟨fun _ => hAsked, ?_, fun _ => hAsked, ?_⟩
      · rw [hStatus, hMerge]
        exact hNode.merged
      · intro exit hSome
        rw [hExit, Option.some.injEq] at hSome
        exact hSome ▸ hOne
  | asked hLive hNone hStatus hMerge hExit =>
      refine ⟨?_, ?_, ?_, hNoExit hExit⟩
      · intro hTerminal
        rw [hStatus, hLive] at hTerminal
        cases hTerminal
      · rw [hStatus, hMerge]
        exact hNode.merged
      · intro hSome
        rw [hExit, hNone] at hSome
        cases hSome
  | answered hStatus hAsked hMerge hExit =>
      refine ⟨fun _ => hAsked, ?_, fun _ => hAsked,
        hNoExit hExit⟩
      rw [hStatus, hMerge]
      exact hNode.merged
  | merging m txn _ _ hManifest _ hOpen hStatus hAsked _
      hExit =>
      refine ⟨?_, ?_, ?_, hNoExit hExit⟩
      · rw [hStatus, hAsked]
        exact hNode.asked
      · intro hTerminal
        rw [hStatus] at hTerminal
        exact .inr (callerMerges_of_recoverable hManifest
          (hOpen hTerminal))
      · rw [hExit, hAsked]
        exact hNode.departed
  | unmerged txn _ _ _ hStatus hAsked hMerge hExit =>
      refine ⟨?_, fun _ => .inl hMerge, ?_, hNoExit hExit⟩
      · rw [hStatus, hAsked]
        exact hNode.asked
      · rw [hExit, hAsked]
        exact hNode.departed

/- The caller's intent outlasts every write of a manifest. -/
theorem CallerMerges.put
    {m' : Manifest}
    (hPut : ManifestPut s m')
    (hMerges : CallerMerges s id) :
    CallerMerges (s.putManifest m') id := by
  rcases hMerges with
    ⟨m, intent, hManifest, hOwner, hIntent, hOperation⟩
  cases hPut with
  | created hNone =>
      rw [hNone] at hManifest
      cases hManifest
  | kept m₀ hWas hOwner' hIntent' =>
      rw [hWas, Option.some.injEq] at hManifest
      subst hManifest
      exact ⟨m', intent, rfl, hOwner'.trans hOwner,
        hIntent'.trans hIntent, hOperation⟩
  | intended m₀ _ hWas hFirst =>
      rw [hWas, Option.some.injEq] at hManifest
      subst hManifest
      rw [hFirst] at hIntent
      cases hIntent

theorem lasting_discharged (env : RunEnv) :
    Lasting env Discharged := by
  apply lasting_of_puts
  · intro s s' hHere hManifest hNodes id n hLookup
    rw [hNodes] at hLookup
    refine (hHere id n hLookup).mono ?_
    rintro ⟨m, intent, hSome, hRest⟩
    exact ⟨m, intent, hManifest.trans hSome, hRest⟩
  · intro s m' hHere hPut id n hLookup
    exact (hHere id n hLookup).mono (.put hPut)
  · intro s n hHere _ hBare id n' hLookup
    rw [Disk.putNode_nodes] at hLookup
    by_cases hId : id = n.nodeId
    · subst hId
      rw [Finmap.lookup_insert, Option.some.injEq] at hLookup
      exact hLookup ▸ hBare.discharged
    · rw [Finmap.lookup_insert_of_ne _ hId] at hLookup
      exact hHere id n' hLookup
  · intro s ev n n' hHere _ hWas hMove id k hLookup
    rw [Disk.putNode_nodes] at hLookup
    by_cases hId : id = n'.nodeId
    · subst hId
      rw [Finmap.lookup_insert, Option.some.injEq] at hLookup
      exact hLookup ▸ (hHere _ n hWas).moved hMove
    · rw [Finmap.lookup_insert_of_ne _ hId] at hLookup
      exact hHere id k hLookup

end Step

------------------------------------------------------------
-- All Runs
------------------------------------------------------------

/-
  In every state of every run, cut anywhere, each node is
  discharged.
-/
theorem discharged_of_run
    (env : RunEnv)
    (d : Disk)
    (hRun : ActRun env d) :
    Discharged d := by
  have hEmpty : Discharged Disk.empty := by
    intro id n hLookup
    cases hLookup
  exact ((lasting_discharged env).actRun hEmpty hRun).2

/- The caller's merge is pending on a failed node. -/
theorem discharged_of_callerMerge :
    ((Sample.acted Sample.mergingActs).nodes.lookup .first).any
        (fun n => n.status == .failed &&
          n.pendingMerge.isSome) = true ∧
      Discharged (Sample.acted Sample.mergingActs) :=
  ⟨by decide +kernel,
    discharged_of_run Sample.clockEnv _
      (Sample.actRun_acted Sample.mergingActs)⟩

end Taskfleet
