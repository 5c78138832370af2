import Taskfleet.Cancellation
import Taskfleet.Reducer.Rewrites

/-
  Cancelling a node: what an answer says about the log, the
  projections and the run.

  Main declarations:
    * `NoneAhead`, `OnlyCloses`, `KeyHonest`
    * `NodeCancelling`, `wp_cancelNode_rule`
    * `CancelTruthful`
    * `cancelNode_truthful`
-/

------------------------------------------------------------
-- Events Left to Fold
------------------------------------------------------------

namespace Taskfleet

open Fallible

/- No event with the property is past the watermark. -/
def NoneAhead (P : Event → Prop) (s : Disk) : Prop :=
  ∀ ev ∈ s.events, P ev → ev.seq ≤ s.appliedSeq

section NoneAhead

variable {env : RunEnv} {d s : Disk} {ev : Event}
variable {ops : List ProjectionOp} {P : Event → Prop}
variable {X : Disk → Prop}

theorem NoneAhead.congr
    {s' : Disk}
    (hNone : NoneAhead P s)
    (hEvents : s'.events = s.events)
    (hMark : s.appliedSeq ≤ s'.appliedSeq) :
    NoneAhead P s' := by
  intro ev hMem hHere
  rw [hEvents] at hMem
  exact le_trans (hNone ev hMem hHere) hMark

theorem NoneAhead.cut
    (hNone : NoneAhead P s)
    (hPlan : reduceEventToOps env s ev = .ok ops)
    (k : Nat) :
    NoneAhead P (applyOps (ops.take k) s) := by
  apply hNone.congr (Disk.applyOps_events _ _)
  rw [appliedSeq_of_plan hPlan rfl]

theorem NoneAhead.log
    (hNone : NoneAhead P s) (hOther : ¬ P ev) :
    NoneAhead P (s.log ev) := by
  intro e hMem hHere
  rw [Disk.log_events, List.mem_append,
    List.mem_singleton] at hMem
  rcases hMem with hOld | rfl
  · exact hNone e hOld hHere
  · exact absurd hHere hOther

/-
  A property that no event outside `P` takes away is kept by
  a catch-up that has no event of `P` to fold.
-/
theorem keptAhead_noneAhead
    (hTorn : ∀ s b, X s → X { s with torn := b })
    (hCut : ∀ s ev ops k, Backed env s → X s → ¬ P ev →
      reduceEventToOps env s ev = .ok ops →
      X (applyOps (ops.take k) s))
    (hMark : ∀ s seq, X s → X (s.advance seq)) :
    KeptAhead env
      (fun s => Backed env s ∧ NoneAhead P s ∧ X s) where
  backed := fun _ h => h.1
  torn := fun s b h =>
    ⟨h.1.torn, h.2.1.congr rfl (le_refl _), hTorn s b h.2.2⟩
  cut := by
    rintro s ev ops j ⟨hBacked, hNone, hX⟩ hMem hAhead hPlan
    have hOther : ¬ P ev := fun hHere =>
      absurd (hNone ev hMem hHere) (not_le.mpr hAhead)
    exact ⟨hBacked.cut (fun _ => .inl ⟨hMem, hAhead⟩) hPlan j,
      hNone.cut hPlan _, hCut s ev ops _ hBacked hX hOther
        hPlan⟩
  folded := by
    rintro s ev ops ⟨hBacked, hNone, hX⟩ hMem hAhead hPlan
    have hOther : ¬ P ev := fun hHere =>
      absurd (hNone ev hMem hHere) (not_le.mpr hAhead)
    have hAll := hCut s ev ops ops.length hBacked hX hOther
      hPlan
    rw [List.take_length] at hAll
    refine ⟨hBacked.folded hMem hAhead hPlan, ?_,
      hMark _ _ hAll⟩
    apply hNone.congr (by simp)
    rw [appliedSeq_folded hBacked.manifest hAhead hPlan]
    exact le_of_lt hAhead

end NoneAhead

------------------------------------------------------------
-- What an Answered Call Did
------------------------------------------------------------

/- The close that a roll-up of a cancelled node appends. -/
def rollUpRequest
    (env : RunEnv) (now : Time) (agg : Status) : Request :=
  runCancelRequest env now (.obj [("status", .str agg.name)])

/- The run after the node: left alone, or closed. -/
inductive RollingUp
    (env : RunEnv)
    (now : Time)
    (m : Manifest)
    (ledger : CancelLedger)
    (s : Disk) : Option Status → Disk → Prop where
| left : RollingUp env now m ledger s none s
| closed (agg : Status) (s' : Disk)
    (hLive : m.status.isTerminal = false)
    (hAgg : agg.isTerminal = true)
    (hClosing :
      Closing env ledger (rollUpRequest env now agg) s s') :
    RollingUp env now m ledger s (some agg) s'

/- A call from `d` that was answered, by way of `mid`. -/
structure NodeCancelling
    (env : RunEnv)
    (clock : CancelClock)
    (note : Option String)
    (d : Disk)
    (m : Manifest)
    (ledger : CancelLedger)
    (id : NodeId)
    (mid : Disk)
    (out : NodeCancelOutcome)
    (s : Disk) : Prop where
  opened : Opened env d m ledger
  settling : ∃ logStatus,
    (logAcc d.events).status id = some logStatus ∧
      Settling env ledger
        (nodeCancelRequest env (clock.node id)
          (normalizeCancelReason note)
          "Node cancelled before agent reported." id)
        id logStatus d out.cancelled mid
  rolling :
    RollingUp env clock.run m ledger mid out.rolledUp s

section Rule

variable {env : RunEnv} {d : Disk} {id : NodeId}
variable {clock : CancelClock} {note : Option String}
variable {I : Disk → Prop} {J : Status → Disk → Prop}

theorem rollUpRequest_status
    {now : Time} {agg : Status} {seq : Nat} :
    ((rollUpRequest env now agg).event env seq).requireStatus =
      .ok agg := by
  cases agg <;> rfl

/-
  What a call keeps: `I` until the node is settled, and `J`
  of the aggregate while the run is closed.
-/
theorem wp_cancelNode_rule
    (hKept : KeptAhead env I)
    (hCloses : ∀ agg, KeptAhead env (J agg))
    (hRefold : ∀ prior ops,
      d.events.find?
          (keyedAs .nodeReport (nodeCancelKey env id)) =
        some prior →
      reduceEventToOps env d prior = .ok ops →
      I (applyOps ops d))
    (hReport : ∀ s ev ops, I s → Abreast s →
      ev.kind = .nodeReport → ev.nodeId = some id →
      ev.seq = s.lastSeq + 1 →
      reduceEventToOps env s ev = .ok ops → I (s.log ev))
    (hTurn : ∀ agg s,
      Standing (fun st => st.isTerminal = false) d → I s →
      J agg s)
    (hReclose : ∀ agg s prior ops, J agg s →
      d.events.find?
          (keyedAs .runStatus (runStatusCancelKey env)) =
        some prior →
      reduceEventToOps env s prior = .ok ops →
      J agg (applyOps ops s))
    (hClose : ∀ agg s ev ops, J agg s → Abreast s →
      ev.kind = .runStatus → ev.nodeId = none →
      ev.requireStatus = .ok agg → ev.seq = s.lastSeq + 1 →
      reduceEventToOps env s ev = .ok ops → J agg (s.log ev))
    (hStart : I d) :
    Durable.wp (cancelNodeUnlocked env clock id note)
      (fun out s => ∃ m ledger mid, I mid ∧
        NodeCancelling env clock note d m ledger id mid out s ∧
        ∀ agg, out.rolledUp = some agg → J agg s)
      (fun _ _ => True) (fun _ _ => True) d := by
  have hBacked := hKept.backed d hStart
  refine wp_cancelNodeUnlocked hBacked.toSane
    (fun _ => trivial) ?_
  intro m ledger logStatus hOpened hLookup
  have hStatus :
      (logAcc d.events).status id = some logStatus := by
    rcases List.lookup_eq_some_iff.mp hLookup with
      ⟨_, _, hSplit, _⟩
    exact hOpened.mem.mp (by simp [hSplit])
  -- the run, once the node is settled
  have hRun : ∀ cancelled mid, I mid →
      Settling env ledger
        (nodeCancelRequest env (clock.node id)
          (normalizeCancelReason note)
          "Node cancelled before agent reported." id)
        id logStatus d cancelled mid →
      Durable.wp
        (maybeRollUpRun env clock.run m.status ledger id
          cancelled logStatus)
        (fun rolledUp s => ∃ m ledger mid, I mid ∧
          NodeCancelling env clock note d m ledger id mid
            ⟨id, cancelled, !cancelled, rolledUp⟩ s ∧
          ∀ agg, rolledUp = some agg → J agg s)
        (fun _ _ => True) (fun _ _ => True) mid := by
    intro cancelled mid hI hSettling
    apply wp_maybeRollUpRun
    · exact ⟨m, ledger, mid, hI,
        ⟨hOpened, ⟨logStatus, hStatus, hSettling⟩, .left⟩,
        by simp⟩
    · intro agg hLive hAgg
      have hJ := hTurn agg mid ⟨m, hOpened.manifest, hLive⟩ hI
      have hTerminal := (terminal_of_aggregate hAgg).1
      have hDone : ∀ s, J agg s →
          Closing env ledger (rollUpRequest env clock.run agg)
            mid s →
          ∃ m ledger mid, I mid ∧
            NodeCancelling env clock note d m ledger id mid
              ⟨id, cancelled, !cancelled, some agg⟩ s ∧
            ∀ agg', some agg = some agg' → J agg' s := by
        intro s hHere hClosing
        refine ⟨m, ledger, mid, hI,
          ⟨hOpened, ⟨logStatus, hStatus, hSettling⟩,
            .closed agg s hLive hTerminal hClosing⟩, ?_⟩
        intro agg' hSame
        cases hSame
        exact hHere
      apply wp_closeRun_cases
      · intro prior hPrior
        have hFound := hPrior
        rw [hOpened.runPrior] at hFound
        cases hPlan : reduceEventToOps env mid prior with
        | error e =>
            simp only [applyEvent, Durable.wp_bind,
              Durable.wp_read, hPlan, Durable.wp_lift_error]
        | ok ops =>
            rw [wp_applyEvent hPlan]
            exact ⟨fun _ _ => trivial,
              hDone _ (hReclose agg mid prior ops hJ hFound
                hPlan) (.refolded prior ops hPrior hPlan)⟩
      · intro hPrior
        refine Durable.wp_mono
          ((hCloses agg).wp_append ?_ hJ) ?_
          (fun _ _ _ => trivial) (fun _ _ _ => trivial)
        · intro s ops hHere _ hAbreast hPlan
          exact hClose agg s _ ops hHere hAbreast rfl rfl
            rollUpRequest_status rfl hPlan
        · rintro _ s ⟨hHere, hAbreast, hLines⟩
          exact hDone s hHere
            (.appended s hPrior hAbreast hLines)
  apply wp_settleNode_cases hBacked
  · intro prior hPrior hSettled
    exact hRun _ _ hStart (.passed prior hPrior hSettled)
  · intro prior hPrior
    have hFound := hPrior
    rw [hOpened.nodePrior] at hFound
    cases hPlan : reduceEventToOps env d prior with
    | error e =>
        simp only [applyEvent, Durable.wp_bind,
          Durable.wp_read, hPlan, Durable.wp_lift_error]
    | ok ops =>
        rw [wp_applyEvent hPlan]
        exact ⟨fun _ _ => trivial,
          hRun _ _ (hRefold prior ops hFound hPlan)
            (.refolded prior ops hPrior hPlan)⟩
  · intro hPrior hTerminal
    exact hRun _ _ hStart (.finished hPrior hTerminal)
  · intro hPrior hLive
    refine Durable.wp_mono (hKept.wp_append ?_ hStart) ?_
      (fun _ _ _ => trivial) (fun _ _ _ => trivial)
    · intro s ops hI _ hAbreast hPlan
      exact hReport s _ ops hI hAbreast rfl rfl rfl hPlan
    · rintro _ s ⟨hI, hAbreast, hLines⟩
      exact hRun _ _ hI
        (.appended s hPrior hLive hAbreast hLines)

end Rule

------------------------------------------------------------
-- The Status That Is Answered
------------------------------------------------------------

/- A closing of the run by another status. -/
def Event.ClosesOtherwise (st : Status) (ev : Event) : Prop :=
  ev.kind = .runStatus ∧ ∃ st', ev.requireStatus = .ok st' ∧
    st'.isTerminal = true ∧ st' ≠ st

/-
  Each closing that is left to fold names the status, and so
  does the first event under the cancel key of the run.
-/
structure OnlyCloses
    (env : RunEnv) (d : Disk) (st : Status) : Prop where
  ahead : NoneAhead (Event.ClosesOtherwise st) d
  prior : ∀ prior,
    d.events.find?
        (keyedAs .runStatus (runStatusCancelKey env)) =
      some prior →
    prior.requireStatus = .ok st

/- A run that only such events are left to close. -/
def Closable (st : Status) (s : Disk) : Prop :=
  NoneAhead (Event.ClosesOtherwise st) s ∧
    Standing (fun cur => cur.isTerminal = true → cur = st) s

section Rolled

variable {env : RunEnv} {d s : Disk} {ev : Event}
variable {ops : List ProjectionOp} {st : Status}
variable {id : NodeId} {clock : CancelClock}
variable {note : Option String}

theorem standing_unlessOtherwise
    (hOther : ¬ ev.ClosesOtherwise st)
    (hStanding :
      Standing (fun cur => cur.isTerminal = true → cur = st) s)
    (hPlan : reduceEventToOps env s ev = .ok ops)
    (k : Nat) :
    Standing (fun cur => cur.isTerminal = true → cur = st)
      (applyOps (ops.take k) s) := by
  refine standing_cut hStanding hPlan ?_ k
  intro _ st' _ _ hKind hRead _ hTerminal
  by_contra hNot
  exact hOther ⟨hKind, st', hRead, hTerminal, hNot⟩

theorem keptAhead_closable (env : RunEnv) (st : Status) :
    KeptAhead env (fun s => Backed env s ∧ Closable st s) :=
  keptAhead_noneAhead (fun _ _ h => h)
    (fun _ _ _ k _ hStanding hOther hPlan =>
      standing_unlessOtherwise hOther hStanding hPlan k)
    (fun _ _ h => standing_advance h)

/- What is kept where something holds that does not change. -/
theorem keptAhead_given
    {p : Prop} {X : Disk → Prop}
    (hKept : KeptAhead env (fun s => Backed env s ∧ X s)) :
    KeptAhead env (fun s => Backed env s ∧ (p → X s)) := by
  by_cases hHolds : p
  · have hSame : (fun s => Backed env s ∧ (p → X s)) =
        (fun s => Backed env s ∧ X s) := by
      funext s
      simp [hHolds]
    rwa [hSame]
  · have hSame : (fun s => Backed env s ∧ (p → X s)) =
        Backed env := by
      funext s
      simp [hHolds]
    rw [hSame]
    exact (kept_backed env).ahead

theorem Closable.log
    (hClosable : Closable st s)
    (hOther : ¬ ev.ClosesOtherwise st) :
    Closable st (s.log ev) :=
  ⟨hClosable.1.log hOther, hClosable.2⟩

theorem Closable.put
    (hClosable : Closable st s)
    (hOther : ¬ ev.ClosesOtherwise st)
    (hPlan : reduceEventToOps env s ev = .ok ops) :
    Closable st (applyOps ops s) := by
  have hAhead := hClosable.1.cut hPlan ops.length
  have hStanding :=
    standing_unlessOtherwise hOther hClosable.2 hPlan ops.length
  rw [List.take_length] at hAhead hStanding
  exact ⟨hAhead, hStanding⟩

theorem not_closesOtherwise
    (hStatus : ev.requireStatus = .ok st) :
    ¬ ev.ClosesOtherwise st := by
  rintro ⟨_, st', hRead, _, hNot⟩
  rw [hStatus, Except.ok.injEq] at hRead
  exact hNot hRead.symm

/- A run that the roll-up has closed is closed. -/
theorem closed_of_closing
    {now : Time} {m : Manifest} {ledger : CancelLedger}
    {mid : Disk}
    (hOpened : Opened env d m ledger)
    (hOnly : OnlyCloses env d st)
    (hTerminal : st.isTerminal = true)
    (hMid : Backed env mid)
    (hBacked : Backed env s)
    (hClosing :
      Closing env ledger (rollUpRequest env now st) mid s) :
    ∃ m', s.manifest = some m' ∧
      m'.status.isTerminal = true := by
  cases hClosing with
  | refolded prior ops hPrior hPlan =>
      rw [hOpened.runPrior] at hPrior
      rcases Option.ne_none_iff_exists'.mp hMid.manifest with
        ⟨m', hManifest⟩
      exact closed_of_plan (find_mem hPrior).2 hPlan hManifest
        (hMid.readable m' hManifest) (hOnly.prior prior hPrior)
        hTerminal
  | appended _ _ hAbreast hLines =>
      have hMem :
          (rollUpRequest env now st).event env
              (mid.lastSeq + 1) ∈ s.events := by
        simp [events_next hLines]
      exact hBacked.closed _ hMem rfl (hAbreast.2 _ hMem rfl)
        st rollUpRequest_status hTerminal

theorem wp_cancelNode_rolled
    (hBacked : Backed env d)
    (hOnly : OnlyCloses env d st) :
    Durable.wp (cancelNodeUnlocked env clock id note)
      (fun out s => out.rolledUp = some st →
        Standing (fun cur => cur = st) s)
      (fun _ _ => True) (fun _ _ => True) d := by
  have hQuiet : ∀ e : Event, e.kind = .nodeReport →
      ¬ e.ClosesOtherwise st := by
    rintro e hReport ⟨hKind, _⟩
    rw [hReport] at hKind
    cases hKind
  have hStart : Standing (fun cur => cur.isTerminal = false) d →
      Closable st d := by
    rintro ⟨m, hManifest, hLive⟩
    refine ⟨hOnly.ahead, m, hManifest, ?_⟩
    intro hTerminal
    rw [hLive] at hTerminal
    cases hTerminal
  refine Durable.wp_mono
    (wp_cancelNode_rule
      (I := fun s => Backed env s ∧
        (Standing (fun cur => cur.isTerminal = false) d →
          Closable st s))
      (J := fun agg s => Backed env s ∧
        (agg = st → Closable st s))
      (keptAhead_given (keptAhead_closable env st))
      (fun _ => keptAhead_given (keptAhead_closable env st))
      ?_ ?_ ?_ ?_ ?_ ⟨hBacked, hStart⟩)
    ?_ (fun _ _ h => h) (fun _ _ h => h)
  · intro prior ops hFound hPlan
    have hKind := (find_mem hFound).2
    have hCut := hBacked.cut (fun _ => .inr hKind) hPlan
      ops.length
    rw [List.take_of_length_le (Nat.le_succ _)] at hCut
    exact ⟨hCut, fun hLive =>
      (hStart hLive).put (hQuiet prior hKind) hPlan⟩
  · rintro s ev ops ⟨hHere, hClosable⟩ hAbreast hKind _ hSeq
      hPlan
    exact ⟨hHere.log hAbreast.1 hAbreast.2 hSeq hPlan,
      fun hLive => (hClosable hLive).log (hQuiet ev hKind)⟩
  · rintro agg s hLive ⟨hHere, hClosable⟩
    exact ⟨hHere, fun _ => hClosable hLive⟩
  · rintro agg s prior ops ⟨hHere, hClosable⟩ hFound hPlan
    have hFoldable : Foldable s prior := by
      intro hSettles
      rw [(find_mem hFound).2] at hSettles
      cases hSettles
    have hCut := hHere.cut hFoldable hPlan ops.length
    rw [List.take_of_length_le (Nat.le_succ _)] at hCut
    exact ⟨hCut, fun hSame => (hClosable hSame).put
      (not_closesOtherwise (hOnly.prior prior hFound)) hPlan⟩
  · rintro agg s ev ops ⟨hHere, hClosable⟩ hAbreast _ _ hStatus
      hSeq hPlan
    refine ⟨hHere.log hAbreast.1 hAbreast.2 hSeq hPlan, ?_⟩
    rintro rfl
    exact (hClosable rfl).log (not_closesOtherwise hStatus)
  · rintro out s ⟨m, ledger, mid, hI, hDone, hJ⟩ hRolled
    rcases hJ st hRolled with ⟨hHere, hClosable⟩
    have hRolling := hDone.rolling
    rw [hRolled] at hRolling
    cases hRolling with
    | closed _ _ _ hTerminal hClosing =>
        rcases closed_of_closing hDone.opened hOnly hTerminal
          hI.1 hHere hClosing with ⟨m', hManifest, hClosed⟩
        rcases (hClosable rfl).2 with ⟨_, hSome, hStatus⟩
        rw [hManifest, Option.some.injEq] at hSome
        subst hSome
        exact ⟨m', hManifest, hStatus hClosed⟩

end Rolled

------------------------------------------------------------
-- What Is Left Alone
------------------------------------------------------------

/-
  A cancel key of the node in the log is on a report of the
  node, and the log has settled it.
-/
def KeyHonest (env : RunEnv) (d : Disk) (id : NodeId) : Prop :=
  ∀ prior,
    d.events.find?
        (keyedAs .nodeReport (nodeCancelKey env id)) =
      some prior →
    prior.nodeId = some id ∧ (logAcc d.events).Settles id

section Alone

variable {env : RunEnv} {d s s' : Disk} {ev : Event}
variable {ops : List ProjectionOp} {id i : NodeId}
variable {clock : CancelClock} {note : Option String}
variable {m : Manifest} {ledger : CancelLedger}
variable {mid : Disk} {out : NodeCancelOutcome}

theorem runStatus_of_cut
    (hOther : ev.kind ≠ .runStatus)
    (hThere : s.manifest ≠ none)
    (hPlan : reduceEventToOps env s ev = .ok ops)
    (k : Nat) :
    (applyOps (ops.take k) s).runStatus = s.runStatus := by
  rcases Option.ne_none_iff_exists'.mp hThere with
    ⟨m, hManifest⟩
  rcases manifestStep_of_cut hPlan hManifest k with
    ⟨m', hManifest', hStep⟩
  rw [Disk.runStatus, Disk.runStatus, hManifest', hManifest]
  rcases hStep.status with hSame | ⟨hKind, _⟩
  · simp [hSame]
  · exact absurd hKind hOther

/- A status of the run writes no node. -/
theorem nodes_of_runStatus
    (hKind : ev.kind = .runStatus)
    (hPlan : reduceEventToOps env s ev = .ok ops) :
    (applyOps ops s).nodes = s.nodes := by
  cases (planned_of_reduce hPlan).2 with
  | nothing => rfl
  | runCreated => rfl
  | runStatus => rfl
  | settlementIntent => rfl
  | nodeAlone _ _ hOther =>
      rw [hKind] at hOther
      cases hOther
  | nodeCreated _ _ _ hOther =>
      rw [hKind] at hOther
      cases hOther
  | stepped _ _ _ _ _ hArm =>
      simp [nodeArm, hKind] at hArm

/- An event of another node spares a node. -/
theorem lookup_of_other
    (hOther : ev.nodeId ≠ some i)
    (hPlan : reduceEventToOps env s ev = .ok ops) :
    (applyOps ops s).nodes.lookup i = s.nodes.lookup i := by
  have hChange := nodeChange_of_reduce hPlan i
  generalize (applyOps ops s).nodes.lookup i = after
    at hChange ⊢
  generalize s.nodes.lookup i = before at hChange ⊢
  cases hChange with
  | kept => rfl
  | created n hKind hNode => exact absurd hNode hOther
  | rewritten n n' hNode => exact absurd hNode hOther

theorem lookup_cut_of_other
    (hOther : ev.nodeId ≠ some i)
    (hPlan : reduceEventToOps env s ev = .ok ops)
    (k : Nat) :
    (applyOps (ops.take k) s).nodes.lookup i =
      s.nodes.lookup i := by
  rcases lookup_take_of_plan hPlan k i with hSame | hWhole
  · exact hSame
  · rw [hWhole, lookup_of_other hOther hPlan]

/- A settling either appends or is at most a fold. -/
theorem settling_grown
    {req : Request} {logStatus : Status} {live : Bool}
    (hSettling :
      Settling env ledger req id logStatus s live s') :
    (s'.lines = s.lines ∧ (s' = s ∨ ∃ prior ops,
      ledger.prior .nodeReport (nodeCancelKey env id) =
        some prior ∧
      reduceEventToOps env s prior = .ok ops ∧
      s' = applyOps ops s)) ∨
    (Abreast s' ∧ s'.lines = s.lines ++ [s.next env req]) := by
  cases hSettling with
  | passed => exact .inl ⟨rfl, .inl rfl⟩
  | finished => exact .inl ⟨rfl, .inl rfl⟩
  | refolded prior ops hPrior hPlan =>
      exact .inl ⟨applyOps_lines _ _,
        .inr ⟨prior, ops, hPrior, hPlan, rfl⟩⟩
  | appended _ _ _ hAbreast hLines =>
      exact .inr ⟨hAbreast, hLines⟩

/- So does a roll-up. -/
theorem rollingUp_grown
    {now : Time} {rolledUp : Option Status}
    (hRolling : RollingUp env now m ledger s rolledUp s') :
    (s'.lines = s.lines ∧ (s' = s ∨ ∃ prior ops,
      ledger.prior .runStatus (runStatusCancelKey env) =
        some prior ∧
      reduceEventToOps env s prior = .ok ops ∧
      s' = applyOps ops s)) ∨
    (Abreast s' ∧ ∃ agg, s'.lines =
      s.lines ++ [s.next env (rollUpRequest env now agg)]) := by
  cases hRolling with
  | left => exact .inl ⟨rfl, .inl rfl⟩
  | closed agg _ _ _ hClosing =>
      cases hClosing with
      | refolded prior ops hPrior hPlan =>
          exact .inl ⟨applyOps_lines _ _,
            .inr ⟨prior, ops, hPrior, hPlan, rfl⟩⟩
      | appended _ _ hAbreast hLines =>
          exact .inr ⟨hAbreast, agg, hLines⟩

/- A call that left the log as it was appended nowhere. -/
theorem NodeCancelling.unappended
    (hDone :
      NodeCancelling env clock note d m ledger id mid out s)
    (hLines : s.lines = d.lines) :
    mid.lines = d.lines ∧ s.lines = mid.lines := by
  rcases hDone.settling with ⟨_, _, hSettling⟩
  have hLength := congrArg List.length hLines
  rcases settling_grown hSettling with ⟨hSame, _⟩ | ⟨_, hMore⟩
  · exact ⟨hSame, hLines.trans hSame.symm⟩
  · rcases rollingUp_grown hDone.rolling with
      ⟨hSame, _⟩ | ⟨_, _, hMore'⟩
    · rw [hSame, hMore, List.length_append] at hLength
      simp at hLength
    · rw [hMore', hMore, List.length_append,
        List.length_append] at hLength
      simp at hLength
      omega

/- The status of the run, where no roll-up was reported. -/
theorem NodeCancelling.runStatus_same
    (hDone :
      NodeCancelling env clock note d m ledger id mid out s)
    (hLines : mid.lines = d.lines) :
    mid.runStatus = d.runStatus := by
  rcases hDone.settling with ⟨_, _, hSettling⟩
  rcases settling_grown hSettling with
    ⟨_, rfl | ⟨prior, ops, hPrior, hPlan, rfl⟩⟩ | ⟨_, hMore⟩
  · rfl
  · rw [hDone.opened.nodePrior] at hPrior
    have hKind := (find_mem hPrior).2
    have hCut := runStatus_of_cut (by rw [hKind]; simp)
      (by rw [hDone.opened.manifest]; simp) hPlan ops.length
    rwa [List.take_length] at hCut
  · rw [hMore] at hLines
    simp at hLines

/- The other nodes, where nothing was appended. -/
theorem NodeCancelling.lookup_same
    (hDone :
      NodeCancelling env clock note d m ledger id mid out s)
    (hHonest : KeyHonest env d id)
    (hOther : i ≠ id)
    (hLines : s.lines = d.lines) :
    s.nodes.lookup i = d.nodes.lookup i := by
  rcases hDone.unappended hLines with ⟨hFirst, hSecond⟩
  have hMid : mid.nodes.lookup i = d.nodes.lookup i := by
    rcases hDone.settling with ⟨_, _, hSettling⟩
    rcases settling_grown hSettling with
      ⟨_, rfl | ⟨prior, ops, hPrior, hPlan, rfl⟩⟩ | ⟨_, hMore⟩
    · rfl
    · rw [hDone.opened.nodePrior] at hPrior
      apply lookup_of_other _ hPlan
      rw [(hHonest prior hPrior).1]
      simpa using hOther.symm
    · rw [hMore] at hFirst
      simp at hFirst
  rw [← hMid]
  rcases rollingUp_grown hDone.rolling with
    ⟨_, rfl | ⟨prior, ops, hPrior, hPlan, rfl⟩⟩ |
      ⟨_, _, hMore⟩
  · rfl
  · rw [hDone.opened.runPrior] at hPrior
    rw [nodes_of_runStatus (find_mem hPrior).2 hPlan]
  · rw [hMore] at hSecond
    simp at hSecond

end Alone

------------------------------------------------------------
-- The Node
------------------------------------------------------------

section Named

variable {env : RunEnv} {d s : Disk} {id : NodeId}
variable {clock : CancelClock} {note : Option String}
variable {m : Manifest} {ledger : CancelLedger}
variable {mid : Disk} {out : NodeCancelOutcome}

theorem KeyHonest.honoured
    (hHonest : KeyHonest env d id) :
    Honoured env d.events id :=
  fun prior hFound => (hHonest prior hFound).2

/- The log has an outcome of the node. -/
theorem NodeCancelling.settles_mid
    (hDone :
      NodeCancelling env clock note d m ledger id mid out s)
    (hHonest : KeyHonest env d id) :
    (logAcc mid.events).Settles id := by
  rcases hDone.settling with ⟨_, hStatus, hSettling⟩
  exact settling_settles hDone.opened (.refl d) hStatus
    hHonest.honoured hSettling

theorem NodeCancelling.settles
    (hDone :
      NodeCancelling env clock note d m ledger id mid out s)
    (hHonest : KeyHonest env d id) :
    (logAcc s.events).Settles id := by
  have hMid := hDone.settles_mid hHonest
  rcases rollingUp_grown hDone.rolling with
    ⟨hSame, _⟩ | ⟨_, agg, hMore⟩
  · rwa [Disk.events_congr hSame]
  · rw [events_next hMore]
    exact logAcc_settled hMid

/-
  So has the disk, unless the log had one before that has not
  been folded and nothing came after it.
-/
theorem NodeCancelling.rank
    (hDone :
      NodeCancelling env clock note d m ledger id mid out s)
    (hStart : Backed env d)
    (hMid : Backed env mid)
    (hBacked : Backed env s)
    (hHonest : KeyHonest env d id)
    (hReached : s.lines ≠ d.lines ∨
      d.events.find?
          (keyedAs .nodeReport (nodeCancelKey env id)) ≠
        none ∨
      (d.verdict id).rank = 2) :
    (s.verdict id).rank = 2 := by
  rcases rollingUp_grown hDone.rolling with
    ⟨hSame, hFold⟩ | ⟨hAbreast, _⟩
  swap
  · exact rank_of_under (hBacked.agreed hAbreast.1)
      (hDone.settles hHonest)
  have hUp : Under mid.verdict s.verdict := by
    rcases hFold with rfl | ⟨_, _, _, hPlan, rfl⟩
    · exact .refl _
    · exact under_plan hPlan
  apply rank_mono hUp
  have hSettles := hDone.settles_mid hHonest
  rcases hDone.settling with ⟨_, _, hSettling⟩
  generalize out.cancelled = live at hSettling
  cases hSettling with
  | passed _ _ hSettled => exact hSettled
  | refolded prior ops hPrior hPlan =>
      rw [hDone.opened.nodePrior] at hPrior
      rcases hHonest prior hPrior with ⟨hNode, hLogged⟩
      exact rank_refolded hStart (find_mem hPrior).2 hNode
        hLogged hPlan
  | finished hPrior =>
      rw [hDone.opened.nodePrior] at hPrior
      rcases hReached with hMore | hKeyed | hRank
      · exact absurd hSame hMore
      · exact absurd hPrior hKeyed
      · exact hRank
  | appended _ _ _ hAbreast =>
      exact rank_of_under (hMid.agreed hAbreast.1) hSettles

end Named

------------------------------------------------------------
-- Truthful Answers
------------------------------------------------------------

/- The projection of the node has an outcome. -/
def Disk.NodeTerminal (s : Disk) (id : NodeId) : Prop :=
  ∃ n, s.nodes.lookup id = some n ∧ n.status.isTerminal = true

/-
  What an answer says. A status that the run was rolled up to
  is that of the run, where nothing else was left to close
  it. Without one the status of the run is as before, where
  the call appended nothing or no status was left to fold.
  The node has an outcome in the log, and on disk unless the
  log had one that nothing made the call fold. The other
  nodes are as before, but for what was left to fold.
-/
structure CancelTruthful
    (env : RunEnv)
    (d : Disk)
    (id : NodeId)
    (out : NodeCancelOutcome)
    (s : Disk) : Prop where
  rolled : ∀ st, out.rolledUp = some st →
    OnlyCloses env d st → Standing (fun cur => cur = st) s
  stays : out.rolledUp = none →
    s.lines = d.lines ∨
      NoneAhead (fun ev => ev.kind = .runStatus) d →
    s.runStatus = d.runStatus
  log : KeyHonest env d id → (logAcc s.events).Settles id
  disk : KeyHonest env d id →
    s.lines ≠ d.lines ∨
      d.events.find?
          (keyedAs .nodeReport (nodeCancelKey env id)) ≠
        none ∨
      d.NodeTerminal id →
    s.NodeTerminal id
  others : KeyHonest env d id → ∀ i, i ≠ id →
    s.lines = d.lines ∨
      NoneAhead (fun ev => ev.nodeId = some i) d →
    s.nodes.lookup i = d.nodes.lookup i

section Truth

variable {env : RunEnv} {d s : Disk} {id i : NodeId}
variable {clock : CancelClock} {note : Option String}

theorem rank_of_nodeTerminal
    (hTerminal : s.NodeTerminal id) :
    (s.verdict id).rank = 2 := by
  rcases hTerminal with ⟨n, hLookup, hStatus⟩
  rw [verdict_of_lookup hLookup, rank_status, if_pos hStatus]

theorem Backed.refolded
    {ev : Event} {ops : List ProjectionOp}
    (hBacked : Backed env s)
    (hKind : ev.kind = .nodeReport ∨ ev.kind = .runStatus)
    (hPlan : reduceEventToOps env s ev = .ok ops) :
    Backed env (applyOps ops s) := by
  have hFoldable : Foldable s ev := by
    intro hSettles
    rcases hKind with hReport | hStatus
    · exact .inr hReport
    · rw [hStatus] at hSettles
      cases hSettles
  have hCut := hBacked.cut hFoldable hPlan ops.length
  rwa [List.take_of_length_le (Nat.le_succ _)] at hCut

/- The course of a call that was answered. -/
theorem wp_cancelNode_done (hBacked : Backed env d) :
    Durable.wp (cancelNodeUnlocked env clock id note)
      (fun out s => ∃ m ledger mid, Backed env mid ∧
        NodeCancelling env clock note d m ledger id mid out s ∧
        Backed env s)
      (fun _ _ => True) (fun _ _ => True) d := by
  refine Durable.wp_mono
    (wp_cancelNode_rule
      (J := fun _ s => Backed env s)
      (kept_backed env).ahead
      (fun _ => (kept_backed env).ahead)
      ?_ ?_ (fun _ _ _ h => h) ?_ ?_ hBacked)
    ?_ (fun _ _ h => h) (fun _ _ h => h)
  · intro prior ops hFound hPlan
    exact hBacked.refolded (.inl (find_mem hFound).2) hPlan
  · intro s ev ops hHere hAbreast _ _ hSeq hPlan
    exact hHere.log hAbreast.1 hAbreast.2 hSeq hPlan
  · intro _ s prior ops hHere hFound hPlan
    exact hHere.refolded (.inr (find_mem hFound).2) hPlan
  · intro _ s ev ops hHere hAbreast _ _ _ hSeq hPlan
    exact hHere.log hAbreast.1 hAbreast.2 hSeq hPlan
  · rintro out s ⟨m, ledger, mid, hMid, hDone, hClosed⟩
    refine ⟨m, ledger, mid, hMid, hDone, ?_⟩
    have hRolling := hDone.rolling
    generalize hRolled : out.rolledUp = rolledUp
      at hRolling hClosed
    cases hRolling with
    | left => exact hMid
    | closed agg => exact hClosed agg rfl

/- Without a status to fold, only a roll-up changes that. -/
theorem wp_cancelNode_stays
    (hBacked : Backed env d)
    (hNone : NoneAhead (fun ev => ev.kind = .runStatus) d) :
    Durable.wp (cancelNodeUnlocked env clock id note)
      (fun out s => out.rolledUp = none →
        s.runStatus = d.runStatus)
      (fun _ _ => True) (fun _ _ => True) d := by
  have hKept : KeptAhead env (fun s => Backed env s ∧
      NoneAhead (fun ev => ev.kind = .runStatus) s ∧
      s.runStatus = d.runStatus) :=
    keptAhead_noneAhead
      (fun _ _ h => h)
      (fun s ev ops k hHere hSame hOther hPlan =>
        (runStatus_of_cut hOther hHere.manifest hPlan k).trans
          hSame)
      (fun s seq hSame => (advance_runStatus seq).trans hSame)
  refine Durable.wp_mono
    (wp_cancelNode_rule
      (J := fun _ s => Backed env s)
      hKept (fun _ => (kept_backed env).ahead)
      ?_ ?_ (fun _ _ _ h => h.1) ?_ ?_ ⟨hBacked, hNone, rfl⟩)
    ?_ (fun _ _ h => h) (fun _ _ h => h)
  · intro prior ops hFound hPlan
    have hKind := (find_mem hFound).2
    have hOther : prior.kind ≠ .runStatus := by
      rw [hKind]
      simp
    have hSame := runStatus_of_cut hOther hBacked.manifest hPlan
      ops.length
    have hMarks := hNone.cut hPlan ops.length
    rw [List.take_length] at hSame hMarks
    exact ⟨hBacked.refolded (.inl hKind) hPlan, hMarks, hSame⟩
  · rintro s ev ops ⟨hHere, hMarks, hSame⟩ hAbreast hKind _ hSeq
      hPlan
    refine ⟨hHere.log hAbreast.1 hAbreast.2 hSeq hPlan,
      hMarks.log ?_, hSame⟩
    rw [hKind]
    simp
  · intro _ s prior ops hHere hFound hPlan
    exact hHere.refolded (.inr (find_mem hFound).2) hPlan
  · intro _ s ev ops hHere hAbreast _ _ _ hSeq hPlan
    exact hHere.log hAbreast.1 hAbreast.2 hSeq hPlan
  · rintro out s ⟨m, ledger, mid, hMid, hDone, _⟩ hLeft
    have hRolling := hDone.rolling
    rw [hLeft] at hRolling
    cases hRolling with
    | left => exact hMid.2.2

/- Without an event of another node to fold, it is as before. -/
theorem wp_cancelNode_others
    (hBacked : Backed env d)
    (hHonest : KeyHonest env d id)
    (hOther : i ≠ id)
    (hNone : NoneAhead (fun ev => ev.nodeId = some i) d) :
    Durable.wp (cancelNodeUnlocked env clock id note)
      (fun _ s => s.nodes.lookup i = d.nodes.lookup i)
      (fun _ _ => True) (fun _ _ => True) d := by
  have hKept : KeptAhead env (fun s => Backed env s ∧
      NoneAhead (fun ev => ev.nodeId = some i) s ∧
      s.nodes.lookup i = d.nodes.lookup i) :=
    keptAhead_noneAhead
      (fun _ _ h => h)
      (fun s ev ops k _ hSame hNot hPlan =>
        (lookup_cut_of_other hNot hPlan k).trans hSame)
      (fun s seq hSame => by rwa [Disk.advance_nodes])
  refine Durable.wp_mono
    (wp_cancelNode_rule (J := fun _ s => _)
      hKept (fun _ => hKept)
      ?_ ?_ (fun _ _ _ h => h) ?_ ?_ ⟨hBacked, hNone, rfl⟩)
    ?_ (fun _ _ h => h) (fun _ _ h => h)
  · intro prior ops hFound hPlan
    have hNot : prior.nodeId ≠ some i := by
      rw [(hHonest prior hFound).1]
      simpa using hOther.symm
    have hMarks := hNone.cut hPlan ops.length
    rw [List.take_length] at hMarks
    exact ⟨hBacked.refolded (.inl (find_mem hFound).2) hPlan,
      hMarks, lookup_of_other hNot hPlan⟩
  · rintro s ev ops ⟨hHere, hMarks, hSame⟩ hAbreast _ hNode hSeq
      hPlan
    refine ⟨hHere.log hAbreast.1 hAbreast.2 hSeq hPlan,
      hMarks.log ?_, hSame⟩
    rw [hNode]
    simpa using hOther.symm
  · rintro _ s prior ops ⟨hHere, hMarks, hSame⟩ hFound hPlan
    have hKind := (find_mem hFound).2
    have hFolds := hMarks.cut hPlan ops.length
    rw [List.take_length] at hFolds
    refine ⟨hHere.refolded (.inr hKind) hPlan, hFolds, ?_⟩
    rw [nodes_of_runStatus hKind hPlan, hSame]
  · rintro _ s ev ops ⟨hHere, hMarks, hSame⟩ hAbreast _ hNode _
      hSeq hPlan
    refine ⟨hHere.log hAbreast.1 hAbreast.2 hSeq hPlan,
      hMarks.log ?_, hSame⟩
    rw [hNode]
    simp
  · rintro out s ⟨m, ledger, mid, hMid, hDone, hClosed⟩
    have hRolling := hDone.rolling
    generalize hRolled : out.rolledUp = rolledUp
      at hRolling hClosed
    cases hRolling with
    | left => exact hMid.2.2
    | closed agg => exact (hClosed agg rfl).2.2

end Truth

/- From any state of any run of writers. -/
theorem cancelNode_truthful
    (env : RunEnv)
    (d : Disk)
    (hRun : WriterRun env d)
    (clock : CancelClock)
    (id : NodeId)
    (note : Option String)
    (out : NodeCancelOutcome)
    (hOk : (cancelNodeUnlocked env clock id note).result d =
      .ok out) :
    CancelTruthful env d id out
      ((cancelNodeUnlocked env clock id note).final d) := by
  have hBacked := hRun.backed
  rcases Durable.wp_ok (wp_cancelNode_done hBacked) hOk with
    ⟨m, ledger, mid, hMid, hDone, hHere⟩
  constructor
  · intro st hRolled hOnly
    exact Durable.wp_ok (wp_cancelNode_rolled hBacked hOnly) hOk
      hRolled
  · rintro hLeft (hLines | hNone)
    · have hRolling := hDone.rolling
      rw [hLeft] at hRolling
      have hFirst := (hDone.unappended hLines).1
      generalize (cancelNodeUnlocked env clock id note).final d =
        s at hRolling
      cases hRolling with
      | left => exact hDone.runStatus_same hFirst
    · exact Durable.wp_ok (wp_cancelNode_stays hBacked hNone)
        hOk hLeft
  · exact hDone.settles
  · intro hHonest hReached
    apply settled_of_rank
    apply hDone.rank hBacked hMid hHere hHonest
    rcases hReached with hMore | hKeyed | hTerminal
    · exact .inl hMore
    · exact .inr (.inl hKeyed)
    · exact .inr (.inr (rank_of_nodeTerminal hTerminal))
  · rintro hHonest i hOther (hLines | hNone)
    · exact hDone.lookup_same hHonest hOther hLines
    · exact Durable.wp_ok
        (wp_cancelNode_others hBacked hHonest hOther hNone) hOk

theorem WriterRun.cutAt
    {env : RunEnv} {d : Disk}
    (n : Nat) (w : Writer)
    (hRun : WriterRun env d) :
    WriterRun env ((w.run env).cutAt n d) := by
  unfold Durable.cutAt
  cases hEntry : ((w.run env) d).1[n]? with
  | none => exact hRun
  | some entry =>
      exact .cut w hRun (List.mem_of_getElem? hEntry) trivial

namespace Sample

def twoNodes : Disk :=
  after
    [createRun, createNode,
      .append (request .nodeCreated (some sibling) nodeData)]

/- Two nodes, and an append that was cut once it was logged. -/
def twoStranded
    (kind : EventKind)
    (nodeId : Option NodeId)
    (data : Json) : Disk :=
  (((Writer.call (.append (request kind nodeId data))).run
    env).cutAt 1 twoNodes)

def runningData : Json := .obj [("status", .str "running")]

/- A failed node; the cancellation of its run was cut. -/
def failedThenCut : Disk :=
  ((Writer.cancelRun clock none).run env).cutAt 1
    (after
      [createRun, createNode,
        .append
          (request .nodeReport (some .first)
            (.obj [("success", .bool false)]))])

/- The first node cancelled. -/
def cancelFirst (d : Disk) :
    Except Error NodeCancelOutcome × Disk :=
  ((cancelNodeUnlocked env clock .first none).result d,
    (cancelNodeUnlocked env clock .first none).final d)

def rolledUpFirst (d : Disk) : Option (Option Status) :=
  (cancelFirst d).1.toOption.map NodeCancelOutcome.rolledUp

def statusOf (d : Disk) (id : NodeId) : Option Status :=
  (d.nodes.lookup id).map Node.status

theorem twoNodes_writerRun : WriterRun env twoNodes :=
  (bootedRun_after (fun _ => True) [createNode, _]).writerRun

end Sample

/- One of two nodes is cancelled, and the other left alone. -/
theorem twoNodes_cancelNode_truthful :
    ∃ out,
      (Sample.cancelFirst Sample.twoNodes).1 = .ok out ∧
      CancelTruthful Sample.env Sample.twoNodes .first out
        (Sample.cancelFirst Sample.twoNodes).2 := by
  have hOk : (Sample.cancelFirst
      Sample.twoNodes).1.toOption.isSome = true := by
    decide +kernel
  rcases exists_ok hOk with ⟨out, hOut⟩
  exact ⟨out, hOut,
    cancelNode_truthful Sample.env Sample.twoNodes
      Sample.twoNodes_writerRun Sample.clock .first none out
      hOut⟩

/-
  A status of the other node that was left to fold moves that
  node; an unfolded success leaves the node itself as it was
  on disk; a cut cancellation of the run wins over the status
  that is answered; and an unfolded status of the run moves
  the run without an answer.
-/
theorem not_cancelNode_truthful :
    (∃ d, WriterRun Sample.env d ∧
      Sample.rolledUpFirst d = some none ∧
      Sample.statusOf (Sample.cancelFirst d).2 Sample.sibling ≠
        Sample.statusOf d Sample.sibling) ∧
    (∃ d, WriterRun Sample.env d ∧
      Sample.rolledUpFirst d = some none ∧
      Sample.statusOf (Sample.cancelFirst d).2 .first =
        some .pending) ∧
    (∃ d, WriterRun Sample.env d ∧
      Sample.rolledUpFirst d = some (some .failed) ∧
      (Sample.cancelFirst d).2.runStatus = some .cancelled) ∧
    (∃ d, WriterRun Sample.env d ∧
      Sample.rolledUpFirst d = some none ∧
      (Sample.cancelFirst d).2.runStatus ≠ d.runStatus) := by
  refine ⟨?_, ?_, ?_, ?_⟩
  · exact ⟨Sample.twoStranded .nodeStatus (some Sample.sibling)
        Sample.runningData,
      Sample.twoNodes_writerRun.cutAt 1 _, by decide +kernel⟩
  · exact ⟨Sample.twoStranded .nodeReport (some .first)
        (.obj [("success", .bool true)]),
      Sample.twoNodes_writerRun.cutAt 1 _, by decide +kernel⟩
  · have hFailed := (Sample.bootedRun_after (fun _ => True)
      [Sample.createNode, .append
        (Sample.request .nodeReport (some .first)
          (.obj [("success", .bool false)]))]).writerRun
    exact ⟨Sample.failedThenCut, hFailed.cutAt 1 _,
      by decide +kernel⟩
  · exact ⟨Sample.twoStranded .runStatus none
        Sample.runningData,
      Sample.twoNodes_writerRun.cutAt 1 _, by decide +kernel⟩

end Taskfleet
