import Taskfleet.Reducer.Commit

/-
  What a plan depends on: the nodes, the manifest but for
  its clock, and for the recovery of a failed run the part
  of the log before the event.

  Main declarations:
    * `SameProjections`, `reduce_congr`
    * `Accepted`, `accepted_congr`
    * `statusAcc`, `statusAcc_concat`
    * `recoveryEvidence_append`, `reduce_log`
-/

------------------------------------------------------------
-- Projections Up to the Manifest Clock
------------------------------------------------------------

namespace Taskfleet

open Fallible

/- The manifest without the time of its last update. -/
def Manifest.unstamped (m : Manifest) : Manifest :=
  { m with updatedAt := 0 }

/- Equal nodes, and manifests that differ in the clock only. -/
structure SameProjections (a b : Disk) : Prop where
  nodes : a.nodes = b.nodes
  manifest :
    a.manifest.map Manifest.unstamped =
      b.manifest.map Manifest.unstamped

namespace SameProjections

variable {a b c : Disk}

theorem refl (a : Disk) : SameProjections a a := ⟨rfl, rfl⟩

theorem symm (hSame : SameProjections a b) :
    SameProjections b a :=
  ⟨hSame.nodes.symm, hSame.manifest.symm⟩

theorem trans
    (hFirst : SameProjections a b)
    (hSecond : SameProjections b c) :
    SameProjections a c :=
  ⟨hFirst.nodes.trans hSecond.nodes,
    hFirst.manifest.trans hSecond.manifest⟩

/- Neither has a manifest, or one is the other restamped. -/
theorem manifests (hSame : SameProjections a b) :
    (a.manifest = none ∧ b.manifest = none) ∨
      ∃ m t, a.manifest = some m ∧
        b.manifest = some { m with updatedAt := t } := by
  have hManifest := hSame.manifest
  cases hA : a.manifest with
  | none =>
      rw [hA] at hManifest
      cases hB : b.manifest with
      | none => exact .inl ⟨rfl, rfl⟩
      | some m' => simp [hB] at hManifest
  | some m =>
      rw [hA] at hManifest
      cases hB : b.manifest with
      | none => simp [hB] at hManifest
      | some m' =>
          simp only [hB, Option.map_some,
            Option.some.injEq] at hManifest
          refine .inr ⟨m, m'.updatedAt, rfl, ?_⟩
          have hStamped :=
            congrArg
              (fun x : Manifest =>
                { x with updatedAt := m'.updatedAt }) hManifest
          exact congrArg some hStamped.symm

theorem put
    (hSame : SameProjections a b) (op : ProjectionOp) :
    SameProjections (op.put a) (op.put b) := by
  cases op with
  | manifest m => exact ⟨hSame.nodes, rfl⟩
  | node n =>
      refine ⟨?_, hSame.manifest⟩
      simp [ProjectionOp.put, hSame.nodes]

theorem applyOps
    (hSame : SameProjections a b) (ops : List ProjectionOp) :
    SameProjections (applyOps ops a) (applyOps ops b) := by
  induction ops generalizing a b with
  | nil => exact hSame
  | cons op rest ih => exact ih (hSame.put op)

end SameProjections

------------------------------------------------------------
-- Congruence of Plans
------------------------------------------------------------

section Congruence

variable {env : RunEnv} {a b : Disk} {ev : Event}

/- The reader sees the same manifest but for its clock. -/
theorem readManifestOpt_same
    (env : RunEnv) (hSame : SameProjections a b) :
    readManifestOpt env a = readManifestOpt env b ∨
      ∃ m t, readManifestOpt env a = .ok (some m) ∧
        readManifestOpt env b =
          .ok (some { m with updatedAt := t }) := by
  rcases hSame.manifests with ⟨hA, hB⟩ | ⟨m, t, hA, hB⟩
  · left
    rw [readManifestOpt_eq_none.mpr hA,
      readManifestOpt_eq_none.mpr hB]
  · unfold readManifestOpt
    rw [hA, hB]
    dsimp only
    cases hSchema : checkSchema .manifest m.schemaVersion with
    | error e => exact .inl rfl
    | ok _ =>
        cases hRun :
            checkRunId env "manifest_run_id" .manifest
              m.runId with
        | error e => exact .inl rfl
        | ok _ => exact .inr ⟨m, t, rfl, rfl⟩

theorem readNodeOpt_same
    (env : RunEnv) (hSame : SameProjections a b) :
    readNodeOpt env a = readNodeOpt env b := by
  funext id
  exact readNodeOpt_congr (by rw [hSame.nodes])

theorem requireResident_same (hSame : SameProjections a b) :
    requireResident env a ev = requireResident env b ev := by
  unfold requireResident
  rcases readManifestOpt_same env hSame with
    hEq | ⟨m, t, hA, hB⟩
  · rw [hEq]
  · rw [hA, hB]
    rfl

theorem callerPiSessionBoundArm_same
    (hSame : SameProjections a b) :
    callerPiSessionBoundArm env a ev =
      callerPiSessionBoundArm env b ev := by
  unfold callerPiSessionBoundArm requireCallerRun
    requireManifest
  rcases readManifestOpt_same env hSame with
    hEq | ⟨m, t, hA, hB⟩
  · rw [hEq]
  · simp [hA, hB]

theorem callerPiLifecycleArm_same
    (hSame : SameProjections a b) :
    callerPiLifecycleArm env a ev =
      callerPiLifecycleArm env b ev := by
  unfold callerPiLifecycleArm requireCallerRun
    requireManifest
  rcases readManifestOpt_same env hSame with
    hEq | ⟨m, t, hA, hB⟩
  · rw [hEq]
  · simp only [hA, hB, ok_bind, orError_some, bind_assoc,
      pure_bind]
    rfl

theorem mergeStartedArm_same
    {id : NodeId} (hSame : SameProjections a b) :
    mergeStartedArm env a ev id =
      mergeStartedArm env b ev id := by
  unfold mergeStartedArm requireManifest
  rcases readManifestOpt_same env hSame with
    hEq | ⟨m, t, hA, hB⟩
  · rw [hEq]
  · rw [hA, hB]
    rfl

theorem nodeArm_same
    {id : NodeId} (hSame : SameProjections a b) :
    nodeArm env a ev id = nodeArm env b ev id := by
  unfold nodeArm nodeRoundReportedArm nodeResumedArm
    nodeRoundLandedArm nodeResidentDormantArm
    nodeResidentAttentionArm
  rw [requireResident_same hSame,
    callerPiSessionBoundArm_same hSame,
    callerPiLifecycleArm_same hSame,
    mergeStartedArm_same hSame]

theorem reduceRunCreated_same (hSame : SameProjections a b) :
    reduceRunCreated env a ev = reduceRunCreated env b ev := by
  unfold reduceRunCreated
  rcases readManifestOpt_same env hSame with
    hEq | ⟨m, t, hA, hB⟩
  · rw [hEq]
  · rw [hA, hB]
    rfl

theorem reduceRunStatus_same
    (hSame : SameProjections a b)
    (hLog : ∀ wanted,
      recoveryEvidence a.lines ev.seq wanted =
        recoveryEvidence b.lines ev.seq wanted) :
    reduceRunStatus env a ev = reduceRunStatus env b ev := by
  have hAllowed : ∀ current newStatus,
      recoveryAllowed a ev current newStatus =
        recoveryAllowed b ev current newStatus := by
    intro current newStatus
    unfold recoveryAllowed
    rw [funext hLog]
  unfold reduceRunStatus
  simp only [hAllowed]
  rcases readManifestOpt_same env hSame with
    hEq | ⟨m, t, hA, hB⟩
  · rw [hEq]
  · rw [hA, hB]
    rfl

theorem reduceNodeCreated_same (hSame : SameProjections a b) :
    reduceNodeCreated env a ev =
      reduceNodeCreated env b ev := by
  unfold reduceNodeCreated
  rw [readNodeOpt_same env hSame]
  rcases readManifestOpt_same env hSame with
    hEq | ⟨m, t, hA, hB⟩
  · rw [hEq]
  · rw [hA, hB]
    rfl

theorem reduceCallerSettlementIntent_same
    (hSame : SameProjections a b) :
    reduceCallerSettlementIntent env a ev =
      reduceCallerSettlementIntent env b ev := by
  unfold reduceCallerSettlementIntent requireManifest
  rw [readNodeOpt_same env hSame]
  rcases readManifestOpt_same env hSame with
    hEq | ⟨m, t, hA, hB⟩
  · rw [hEq]
  · rw [hA, hB]
    rfl

/- A plan depends on no more than this. -/
theorem reduce_congr
    (hSame : SameProjections a b)
    (hLog : ev.kind = .runStatus → ∀ wanted,
      recoveryEvidence a.lines ev.seq wanted =
        recoveryEvidence b.lines ev.seq wanted) :
    reduceEventToOps env a ev = reduceEventToOps env b ev := by
  unfold reduceEventToOps
  congr 1
  funext _
  cases hKind : ev.kind.isRunKind with
  | true =>
      unfold reduceKind
      cases hCase : ev.kind <;>
        simp only [hCase, EventKind.isRunKind,
          Bool.false_eq_true] at hKind
      · exact reduceRunCreated_same hSame
      · exact reduceRunStatus_same hSame (hLog hCase)
      · exact reduceNodeCreated_same hSame
      · exact reduceCallerSettlementIntent_same hSame
      · rfl
  | false =>
      cases hNode : ev.nodeId with
      | none =>
          rcases reduceKind_without_node env hKind hNode with
            ⟨e, hError⟩
          rw [hError a, hError b]
      | some id =>
          rcases nodeArm_isSome hKind id with ⟨arm, hArm⟩
          have hArm' := (nodeArm_same hSame).symm.trans hArm
          rw [reduceKind_eq_arm hArm hNode,
            reduceKind_eq_arm hArm' hNode]
          unfold onNode
          rw [readNodeOpt_same env hSame]

/- The reducer takes the event on these projections. -/
def Accepted (env : RunEnv) (d : Disk) (ev : Event) : Prop :=
  ∃ ops, reduceEventToOps env d ev = .ok ops

theorem accepted_runStatus
    (hKind : ev.kind = .runStatus) :
    Accepted env a ev ↔
      ev.runId = env.runId ∧
        ∃ o, readManifestOpt env a = .ok o ∧
          (o = none ∨ ∃ s, ev.requireStatus = .ok s) := by
  unfold Accepted
  simp only [reduce_eq_ok, reduceKind, hKind]
  rw [exists_and_left]
  refine and_congr_right (fun _ => ?_)
  unfold reduceRunStatus
  cases readManifestOpt env a with
  | error e => simp
  | ok o =>
      cases o with
      | none => simp
      | some m =>
          cases ev.requireStatus with
          | error e => simp
          | ok s =>
              simp only [ok_bind, Except.ok.injEq,
                exists_eq_left', reduceCtorEq, false_or,
                exists_eq', iff_true]
              split
              · exact ⟨_, rfl⟩
              · split <;> exact ⟨_, rfl⟩

/- Whether an event is taken does not depend on the log. -/
theorem accepted_congr (hSame : SameProjections a b) :
    Accepted env a ev ↔ Accepted env b ev := by
  by_cases hKind : ev.kind = .runStatus
  · rw [accepted_runStatus hKind, accepted_runStatus hKind]
    rcases readManifestOpt_same env hSame with
      hEq | ⟨m, t, hA, hB⟩
    · rw [hEq]
    · simp [hA, hB]
  · unfold Accepted
    rw [reduce_congr hSame (fun hOther => absurd hOther hKind)]

theorem not_accepted_iff :
    ¬ Accepted env a ev ↔
      ∃ e, reduceEventToOps env a ev = .error e := by
  unfold Accepted
  cases reduceEventToOps env a ev <;> simp

end Congruence

------------------------------------------------------------
-- The Log Before an Event
------------------------------------------------------------

/- The walk over one more event. -/
theorem forEachEventProbe_concat
    {π σ : Type}
    (decode : Event → Option π)
    (visit : σ → π → Event → Except Error σ)
    (init : σ)
    (lines : List LogLine)
    (ev : Event) :
    forEachEventProbe decode visit init
        (lines ++ [.event ev]) =
      forEachEventProbe decode visit init lines >>=
        fun acc =>
          match decode ev with
          | some probe => visit acc probe ev
          | none => .error (notAnEvent (lines.length + 1)) := by
  unfold forEachEventProbe
  rw [List.zipIdx_append, List.foldlM_append, Nat.zero_add]
  refine bind_congr (fun acc => ?_)
  rw [List.zipIdx_cons, List.zipIdx_nil, List.foldlM_cons]
  exact bind_pure _

/- The accumulator that a bounded fold of the log ends with. -/
def statusAcc
    (lines : List LogLine)
    (before : Option Nat) : Except Error NodeStatusAcc :=
  forEachEventProbe (fun ev => some ev.seq)
    (foldStatusProbe before) NodeStatusAcc.empty lines

theorem readNodeStatusFacts_eq
    (lines : List LogLine) (before : Option Nat) :
    readNodeStatusFacts lines before =
      statusAcc lines before >>=
        fun acc => .ok acc.finishFacts := rfl

@[simp] theorem statusAcc_nil (before : Option Nat) :
    statusAcc [] before = .ok NodeStatusAcc.empty := rfl

theorem statusAcc_concat
    (lines : List LogLine)
    (before : Option Nat)
    (ev : Event) :
    statusAcc (lines ++ [.event ev]) before =
      statusAcc lines before >>=
        fun acc => foldStatusProbe before acc ev.seq ev := by
  unfold statusAcc
  rw [forEachEventProbe_concat]

/- An event at or past the bound is not looked into. -/
theorem statusAcc_past_bound
    {lines : List LogLine}
    {ev : Event}
    {bound : Nat}
    (hPast : bound ≤ ev.seq) :
    statusAcc (lines ++ [.event ev]) (some bound) =
      statusAcc lines (some bound) := by
  rw [statusAcc_concat]
  have hVisit : ∀ acc,
      foldStatusProbe (some bound) acc ev.seq ev = .ok acc := by
    intro acc
    simp [foldStatusProbe, beforeBound, hPast]
  cases statusAcc lines (some bound) with
  | error e => rfl
  | ok acc => exact hVisit acc

/- Later events change nothing about recovery evidence. -/
theorem recoveryEvidence_past_bound
    {lines : List LogLine}
    {ev : Event}
    {bound : Nat}
    (hPast : bound ≤ ev.seq)
    (wanted : Nat) :
    recoveryEvidence (lines ++ [.event ev]) bound wanted =
      recoveryEvidence lines bound wanted := by
  unfold recoveryEvidence
  rw [readNodeStatusFacts_eq, readNodeStatusFacts_eq,
    statusAcc_past_bound hPast]

theorem recoveryEvidence_append
    {lines : List LogLine}
    {later : List Event}
    {bound : Nat}
    (hPast : ∀ ev ∈ later, bound ≤ ev.seq)
    (wanted : Nat) :
    recoveryEvidence (lines ++ later.map .event) bound wanted =
      recoveryEvidence lines bound wanted := by
  induction later using List.reverseRecOn with
  | nil => simp
  | append_singleton later ev ih =>
      rw [List.map_append, ← List.append_assoc]
      change
        recoveryEvidence
            (lines ++ later.map .event ++ [.event ev]) bound
            wanted = _
      rw [recoveryEvidence_past_bound (hPast ev (by simp))]
      exact ih (fun e hMem => hPast e (by simp [hMem]))

end Taskfleet
