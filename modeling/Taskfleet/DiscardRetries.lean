import Taskfleet.DiscardRuns

/-
  A second `run discard` after one without force that is on
  record and was not finished: with which choice of the flag
  the call goes on, and where with neither.

  Main declarations:
    * `findTarget`, `surveyDiscard_eq`
    * `TargetStands`, `Resumable`
    * `RetryAccepted`, `RetryBlocked`
    * `discard_retry_goes_on`
    * `not_discard_retry_goes_on`
-/

------------------------------------------------------------
-- Retries
------------------------------------------------------------

namespace Taskfleet

open Checkouts Fallible

/- The same call with the flag chosen. -/
def DiscardArgs.withForce
    (args : DiscardArgs) (force : Bool) : DiscardArgs :=
  { args with force := force }

/- The part of the survey that the flag has no part in. -/
def findTarget
    (env : RunEnv) (args : DiscardArgs)
    (wanted : Option NodeId) (initial : Manifest)
    (files : List NodeId) (d : Disk) (s : Site) :
    Except CliError (Manifest × Candidate) := do
  let m ← reopenDiscard env args initial d
  refuseIf (¬ m.status.discardable)
    (.user "run_not_discardable"
      ("run " ++ env.runId.val ++ " is " ++ m.status.name ++
        "; discard requires a failed or cancelled run")
      none)
  let nodes ← (readNodes env files d).mapError .core
  let cs ← nodes.mapM (candidateOf env m d s)
  let c ← selectCandidate env wanted (cs.filterMap id)
  return (m, c)

/- Its checkout is gone and unlisted, and its tip is known. -/
structure BranchFree
    (a : Authorization) (repo branch : String) (s : Site) :
    Prop where
  absent : pathAbsent s a.worktreePath = true
  unlisted : ∃ rows, s.worktreeRegistrations repo = some rows ∧
    ∀ row ∈ rows, row.branch ≠ some branch ∧
      ∀ path, a.worktreePath = some path →
        s.pathsEquivalent row.path path = false
  audited : a.auditedOid.isSome = true

/-
  What was authorized is still there and is what it was: the
  checkout, what git has left of it, or the branch alone.
-/
inductive TargetStands
    (a : Authorization) (m : Manifest) (n : Node)
    (o : RetainedObservation) (s : Site) : Prop where
| registered
    (hPresent : o.view.worktreePresent = true)
    (hVerified : o.verified = true)
    (hStands : registeredStands a m n s = some true)
| orphaned
    (hPresent : o.view.worktreePresent = true)
    (hVerified : o.verified = false)
    (hStands : orphanStands a m n s = some true)
| branchAlone
    (hGone : o.view.worktreePresent = false)
    (hVerified : o.verified = true)
    (hSource : a.identity.isSome = true →
      verifySourceIdentity a m s = .ok ())
    (hFree : ∀ repo branch, m.sourceRepo = some repo →
      a.branch = some branch → BranchFree a repo branch s)

/-
  An authorization without force, of what is still there,
  with nobody at work on it.
-/
structure Resumable
    (env : RunEnv) (op : Operator) (m : Manifest)
    (c : Candidate) (a : Authorization) (seq : Nat)
    (o : RetainedObservation) (populated : Bool) (s : Site) :
    Prop where
  recorded : readRecorded c.prior = .ok (some (seq, a))
  plain : a.force = false
  observed : c.observation = some o
  resources : o.hasResources = true
  inputs : a.worktreePath = o.view.worktreePath ∧
    a.branch = o.view.branch
  stands : TargetStands a m c.node o s
  submodules : populatedSubmodules c.observation s =
    .ok populated
  quiet : refuseRunning env op c.node = .ok ()

/-
  The last look before the first removal, of the checkout or
  else of the branch, finds nothing amiss.
-/
def DiscardPlan.Clears (plan : DiscardPlan) (s : Site) :
    Prop :=
  (plan.observation.view.worktreePresent = true →
    plan.checkRemoval s = .ok ()) ∧
  (plan.observation.view.worktreePresent = false →
    ∀ repo branch, plan.observation.sourceRepo = some repo →
      plan.observation.view.branch = some branch →
      ∃ oid, plan.checkDeletion repo branch s = .ok oid)

/-
  The call goes by what is on record, and nothing is refused
  before the first removal.
-/
def RetryAccepted
    (env : RunEnv) (op : Operator) (args : DiscardArgs)
    (wanted : Option NodeId) (initial : Manifest)
    (files : List NodeId) (a : Authorization) (seq : Nat)
    (d : Disk) (s : Site) : Prop :=
  ∃ plan,
    surveyDiscard env op args wanted initial files d s =
      .ok (.proceed plan) ∧
    plan.auth = a ∧ plan.prior = some seq ∧
    (plan.upgradeDue = true →
      ∃ known,
        forceUpgradeRecorded env op d plan.node.nodeId seq
          a.reason = .ok known) ∧
    plan.Clears s

------------------------------------------------------------
-- What the Tree Asks For
------------------------------------------------------------

/- A directory that git does not know any more. -/
def RetainedObservation.isOrphan
    (o : RetainedObservation) : Bool :=
  o.view.worktreePresent && !o.verifiedForDiscard

theorem RetainedObservation.isOrphan_iff
    {o : RetainedObservation} :
    o.isOrphan = true ↔
      o.view.worktreePresent = true ∧ o.verified = false := by
  simp [isOrphan, verifiedForDiscard]

/- What is there would not go without force. -/
def ForceNeeded (o : RetainedObservation) (populated : Bool) :
    Prop :=
  populated = true ∨ o.view.cleanliness = "dirty" ∨
    o.isOrphan = true

/- A checkout that git knows, with changes in it. -/
def ChangedCheckout (o : RetainedObservation) : Prop :=
  o.view.worktreePresent = true ∧ o.verified = true ∧
    o.view.cleanliness = "dirty"

/- The first upgrade to force that the log has of a node. -/
def recordedUpgrade (env : RunEnv) (id : NodeId) (d : Disk) :
    Option Event :=
  d.events.find?
    (keyedAs discardForceAuthorized (forceUpgradeKey env id))

/- An upgrade of this authorization by this operator. -/
def UpgradesOwn
    (op : Operator) (id : NodeId) (a : Authorization)
    (seq : Nat) (ev : Event) : Prop :=
  ev.nodeId = some id ∧
    ev.data = forceUpgradeData op seq a.reason

/-
  No upgrade is on record and the checkout has changes, or
  the one on record is another one and force is needed.
-/
def RetryBlocked
    (env : RunEnv) (op : Operator) (id : NodeId)
    (a : Authorization) (seq : Nat)
    (o : RetainedObservation) (populated : Bool) (d : Disk) :
    Prop :=
  match recordedUpgrade env id d with
  | none => ChangedCheckout o
  | some ev =>
      ¬ UpgradesOwn op id a seq ev ∧ ForceNeeded o populated

section Retries

variable {env : RunEnv} {op : Operator} {args : DiscardArgs}
variable {m : Manifest} {c : Candidate} {a : Authorization}
variable {seq : Nat} {o : RetainedObservation}
variable {populated : Bool} {d : Disk} {s : Site}

/- What a log of whole lines says of an upgrade. -/
theorem forceUpgradeRecorded_eq
    {id : NodeId}
    (hLines : d.lines = d.events.map .event) :
    forceUpgradeRecorded env op d id seq a.reason =
      match recordedUpgrade env id d with
      | none => .ok false
      | some ev =>
          refuseIf
            (ev.nodeId ≠ some id ∨
              ev.data ≠ forceUpgradeData op seq a.reason)
            forceUpgradeConflict >>= fun _ => .ok true := by
  unfold forceUpgradeRecorded recordedUpgrade
  rw [hLines, findPriorWithKey_events]
  cases d.events.find? (keyedAs discardForceAuthorized
    (forceUpgradeKey env id)) with
  | none => rfl
  | some ev => rfl

theorem forceUpgradeRecorded_own
    {id : NodeId} {ev : Event}
    (hLines : d.lines = d.events.map .event)
    (hFound : recordedUpgrade env id d = some ev)
    (hOwn : UpgradesOwn op id a seq ev) :
    forceUpgradeRecorded env op d id seq a.reason =
      .ok true := by
  rw [forceUpgradeRecorded_eq hLines, hFound]
  simp [refuseIf, hOwn.1, hOwn.2]

theorem forceUpgradeRecorded_else
    {id : NodeId} {ev : Event}
    (hLines : d.lines = d.events.map .event)
    (hFound : recordedUpgrade env id d = some ev)
    (hElse : ¬ UpgradesOwn op id a seq ev) :
    forceUpgradeRecorded env op d id seq a.reason =
      .error forceUpgradeConflict := by
  rw [forceUpgradeRecorded_eq hLines, hFound]
  have hRefused :
      ev.nodeId ≠ some id ∨
        ev.data ≠ forceUpgradeData op seq a.reason := by
    by_contra hNot
    rw [not_or, not_not, not_not] at hNot
    exact hElse hNot
  simp only [refuseIf, if_pos hRefused, error_bind]

theorem upgradedBefore_plain
    {id : NodeId}
    (hPlain : args.force = false) :
    upgradedBefore env op args d id seq a = .ok false := by
  simp [upgradedBefore, hPlain]

theorem upgradedBefore_forced
    {id : NodeId}
    (hRecorded : a.force = false)
    (hForce : args.force = true) :
    upgradedBefore env op args d id seq a =
      forceUpgradeRecorded env op d id seq a.reason := by
  simp [upgradedBefore, hRecorded, hForce]

------------------------------------------------------------
-- The Target
------------------------------------------------------------

namespace TargetStands

/- A directory that was identified when it was authorized. -/
theorem identity
    {n : Node}
    (hStands : TargetStands a m n o s)
    (hPresent : o.view.worktreePresent = true) :
    a.identity.isSome = true := by
  cases hStands with
  | registered _ _ hStands =>
      rcases Option.bind_eq_some_iff.mp hStands with
        ⟨id, hId, _⟩
      rw [hId, Option.isSome_some]
  | orphaned _ _ hStands =>
      rcases Option.bind_eq_some_iff.mp hStands with
        ⟨id, hId, _⟩
      rw [hId, Option.isSome_some]
  | branchAlone hGone =>
      rw [hGone] at hPresent
      cases hPresent

/- Only a directory that is left behind is checked as one. -/
theorem verifyOrphan_ok
    {n : Node}
    (hStands : TargetStands a m n o s)
    (hLeft : o.isOrphan = true) :
    verifyOrphan a m n s = .ok () := by
  cases hStands with
  | registered _ hVerified =>
      rw [RetainedObservation.isOrphan_iff, hVerified] at hLeft
      cases hLeft.2
  | orphaned _ _ hStands =>
      simp [verifyOrphan, hStands]
  | branchAlone hGone =>
      rw [RetainedObservation.isOrphan_iff, hGone] at hLeft
      cases hLeft.1

/- Any other directory is a checkout that git lists. -/
theorem verifyRegistered_ok
    {n : Node}
    (hStands : TargetStands a m n o s)
    (hKnown : o.isOrphan = false)
    (hPresent : o.view.worktreePresent = true) :
    verifyRegistered a m n s = .ok () := by
  cases hStands with
  | registered _ _ hStands =>
      simp [verifyRegistered, hStands]
  | orphaned _ hVerified =>
      have hLeft :=
        RetainedObservation.isOrphan_iff.mpr
          ⟨hPresent, hVerified⟩
      rw [hKnown] at hLeft
      cases hLeft
  | branchAlone hGone =>
      rw [hGone] at hPresent
      cases hPresent

theorem checkPins_ok
    {n : Node}
    (hStands : TargetStands a m n o s)
    (hKnown : o.isOrphan = false) :
    checkPins (some a) o m n s = .ok () := by
  unfold checkPins
  split
  next => rfl
  next a' hPinned =>
    rw [Option.filter_eq_some_iff] at hPinned
    rcases hPinned with ⟨hSame, hIdentity⟩
    cases hSame
    split
    next hPresent =>
      exact hStands.verifyRegistered_ok hKnown hPresent
    next hGone =>
      cases hStands with
      | registered hPresent => exact absurd hPresent hGone
      | orphaned hPresent => exact absurd hPresent hGone
      | branchAlone _ _ hSource => exact hSource hIdentity

/- It is verified, unless git has left it behind. -/
theorem verified_of_known
    {n : Node}
    (hStands : TargetStands a m n o s)
    (hKnown : o.isOrphan = false) : o.verified = true := by
  cases hStands with
  | registered _ hVerified => exact hVerified
  | branchAlone _ hVerified => exact hVerified
  | orphaned hPresent hVerified =>
      have hLeft :=
        RetainedObservation.isOrphan_iff.mpr
          ⟨hPresent, hVerified⟩
      rw [hKnown] at hLeft
      cases hLeft

end TargetStands

------------------------------------------------------------
-- Permission to Force
------------------------------------------------------------

namespace Resumable

/- Force may be added for all that needs it but changes. -/
theorem forceRetryAllowed_of_needed
    (hResumable : Resumable env op m c a seq o populated s)
    (hSeen : c.observation = observe m c.node s)
    (hNeeded : ForceNeeded o populated)
    (hUnchanged : ¬ ChangedCheckout o) :
    forceRetryAllowed a c.observation true populated =
      true := by
  have hPlain := hResumable.plain
  have hIdentity := hResumable.stands.identity
  have hSubmodules := hResumable.submodules
  rcases observe_cleanliness
    (hSeen.symm.trans hResumable.observed) with
    ⟨hNothing, hTold⟩
  rw [hResumable.observed] at hSubmodules ⊢
  cases hResumable.stands with
  | registered hPresent hVerified =>
      have hClean : o.view.cleanliness = "clean" :=
        (hTold hPresent hVerified).resolve_right
          (fun hDirty =>
            hUnchanged ⟨hPresent, hVerified, hDirty⟩)
      have hPopulated : populated = true := by
        rcases hNeeded with hPopulated | hDirty | hLeft
        · exact hPopulated
        · rw [hClean] at hDirty
          exact absurd hDirty (by decide)
        · rw [RetainedObservation.isOrphan_iff,
            hVerified] at hLeft
          cases hLeft.2
      simp [forceRetryAllowed, hPlain, hIdentity hPresent,
        hPresent, hPopulated, hClean]
  | orphaned hPresent hVerified =>
      simp [forceRetryAllowed, hPlain, hIdentity hPresent,
        hPresent, hVerified,
        RetainedObservation.verifiedForDiscard]
  | branchAlone hGone =>
      have hEmpty : populated = false := by
        simpa [populatedSubmodules, Option.filter, hGone]
          using hSubmodules.symm
      rcases hNeeded with hPopulated | hDirty | hLeft
      · rw [hEmpty] at hPopulated
        cases hPopulated
      · rw [hNothing hGone] at hDirty
        exact absurd hDirty (by decide)
      · rw [RetainedObservation.isOrphan_iff, hGone] at hLeft
        cases hLeft.1

/- Changes in a checkout are not forced after the fact. -/
theorem forceRetryAllowed_of_changed
    (hResumable : Resumable env op m c a seq o populated s)
    (hChanged : ChangedCheckout o) :
    forceRetryAllowed a c.observation true populated =
      false := by
  rcases hChanged with ⟨hPresent, hVerified, hDirty⟩
  simp [forceRetryAllowed, hResumable.observed, hPresent,
    hVerified, hDirty, RetainedObservation.verifiedForDiscard]

------------------------------------------------------------
-- The Recorded Inputs
------------------------------------------------------------

/- The inputs are those on record, and force may be given. -/
theorem checkRecorded_ok
    {upgraded : Bool}
    (hResumable : Resumable env op m c a seq o populated s)
    (hReason : args.reason = a.reason)
    (hUpgraded :
      upgradedBefore env op args d c.node.nodeId seq a =
        .ok upgraded)
    (hMay : args.force = true → upgraded = true ∨
      forceRetryAllowed a c.observation true populated = true) :
    checkRecorded env op args m c seq a populated d s =
      .ok o.isOrphan := by
  have hOrphan : c.observation.any (fun o =>
      o.view.worktreePresent && !o.verifiedForDiscard) =
        o.isOrphan := by
    rw [hResumable.observed]
    rfl
  have hPinned :
      ¬ (a.reason ≠ args.reason ∨
        (a.force ≠ args.force ∧ ¬ upgraded = true ∧
          ¬ forceRetryAllowed a c.observation args.force
            populated = true)) := by
    simp only [hReason, ne_eq, not_true, false_or, not_and,
      not_not]
    intro hDiffers hNot
    rw [hResumable.plain] at hDiffers
    have hForce : args.force = true := by
      cases hFlag : args.force with
      | true => rfl
      | false => exact absurd hFlag.symm hDiffers
    rw [hForce]
    exact (hMay hForce).resolve_left hNot
  have hInputs :
      ¬ c.observation.any (fun o =>
        o.hasResources ∧
          (a.worktreePath ≠ o.view.worktreePath ∨
            a.branch ≠ o.view.branch)) = true := by
    simp [hResumable.observed, hResumable.inputs.1,
      hResumable.inputs.2]
  simp only [checkRecorded, bind_eq_ok, refuseIf_eq_ok,
    checkWhen_eq_ok, pure_eq]
  refine ⟨upgraded, hUpgraded, (), hPinned, (), ?_, (), hInputs,
    congrArg _ hOrphan⟩
  intro hLeft
  rw [hOrphan] at hLeft
  exact hResumable.stands.verifyOrphan_ok hLeft

/- Force that is not on record and may not be added. -/
theorem checkRecorded_conflict
    (hResumable : Resumable env op m c a seq o populated s)
    (hForce : args.force = true)
    (hUpgraded :
      upgradedBefore env op args d c.node.nodeId seq a =
        .ok false)
    (hMayNot :
      forceRetryAllowed a c.observation true populated =
        false) :
    checkRecorded env op args m c seq a populated d s =
      .error (discardConflict c.node.nodeId) := by
  simp [checkRecorded, hUpgraded, hForce, hMayNot,
    hResumable.plain, refuseIf]

theorem checkRecorded_error
    {e : CliError}
    (hUpgraded :
      upgradedBefore env op args d c.node.nodeId seq a =
        .error e) :
    checkRecorded env op args m c seq a populated d s =
      .error e := by
  simp only [checkRecorded, hUpgraded, error_bind]

------------------------------------------------------------
-- The Decision
------------------------------------------------------------

theorem decideCandidate_eq
    (hResumable : Resumable env op m c a seq o populated s) :
    decideCandidate env op args m c d s =
      (checkRecorded env op args m c seq a populated d s >>=
        fun orphan =>
          requireVerified c.node.nodeId orphan (some o) >>=
            fun o =>
              goAhead env op args m c.node o (some (seq, a))
                populated orphan s) := by
  simp only [decideCandidate, hResumable.recorded,
    hResumable.submodules, ok_bind, recognizeOrphan]
  rw [hResumable.observed]

theorem requireVerified_known
    (hResumable : Resumable env op m c a seq o populated s) :
    requireVerified c.node.nodeId o.isOrphan (some o) =
      .ok o := by
  simp only [requireVerified, orError_some, ok_bind,
    bind_eq_ok, refuseIf_eq_ok, pure_eq, not_and, not_not]
  refine ⟨(), hResumable.resources, (), ?_, trivial⟩
  intro hKnown
  exact hResumable.stands.verified_of_known
    (Bool.eq_false_iff.mpr hKnown)

end Resumable

theorem DiscardPlan.checkRemoval_eq_ok
    {plan : DiscardPlan} :
    plan.checkRemoval s = .ok () ↔
      (plan.orphan = true →
        verifyOrphan plan.auth plan.manifest plan.node s =
          .ok ()) ∧
      (plan.orphan = false →
        plan.auth.identity.isSome = true →
        verifyRegistered plan.auth plan.manifest plan.node s =
          .ok ()) := by
  unfold DiscardPlan.checkRemoval
  split
  next hLeft => simp [hLeft]
  next hKnown =>
    rw [Bool.not_eq_true] at hKnown
    split
    next hIdentity => simp [hKnown, hIdentity]
    next hNone => simp [hKnown, hNone]

/- The plan of a retry: what is on record, and what is left. -/
def retryPlan
    (args : DiscardArgs) (m : Manifest) (c : Candidate)
    (a : Authorization) (seq : Nat) (o : RetainedObservation)
    (populated : Bool) : DiscardPlan where
  args := args
  manifest := m
  node := c.node
  observation := o
  prior := some seq
  auth := a
  orphan := o.isOrphan
  forceRequired :=
    populated ∨ o.view.cleanliness = "dirty" ∨
      (o.isOrphan ∧ ¬ a.force)

namespace Resumable

/- Force that is needed is what a call without it lacks. -/
theorem goAhead_forceRequired
    (hResumable : Resumable env op m c a seq o populated s)
    (hReal : args.dryRun = false)
    (hPlain : args.force = false)
    (hNeeded : ForceNeeded o populated) :
    ∃ message,
      goAhead env op args m c.node o (some (seq, a)) populated
        o.isOrphan s =
          .error (.user "force_required" message none) := by
  have hPins := hResumable.stands.checkPins_ok
  have hRequired :
      populated = true ∨ o.view.cleanliness = "dirty" ∨
        (o.isOrphan = true ∧ ¬ a.force = true) := by
    simpa [ForceNeeded, hResumable.plain] using hNeeded
  have hChecked :
      checkWhen (o.isOrphan = false)
        (checkPins (Option.map Prod.snd (some (seq, a))) o m
          c.node s) = .ok () :=
    checkWhen_eq_ok.mpr hPins
  apply Exists.intro
  simp only [goAhead, hResumable.quiet, hChecked, ok_bind]
  rw [if_neg (by simp [hReal]), refuseIf,
    if_pos (by simpa [hPlain] using hRequired), error_bind]

/- With force, or where none is needed, a retry goes ahead. -/
theorem goAhead_proceeds
    (hResumable : Resumable env op m c a seq o populated s)
    (hReal : args.dryRun = false)
    (hForce : ForceNeeded o populated → args.force = true) :
    goAhead env op args m c.node o (some (seq, a)) populated
      o.isOrphan s =
        .ok (.proceed
          (retryPlan args m c a seq o populated)) := by
  have hPins := hResumable.stands.checkPins_ok
  have hMay :
      ¬ ((populated = true ∨ o.view.cleanliness = "dirty" ∨
        (o.isOrphan = true ∧ ¬ a.force = true)) ∧
          ¬ args.force = true) := by
    intro hBoth
    apply hBoth.2
    apply hForce
    simpa [ForceNeeded, hResumable.plain] using hBoth.1
  have hAgain :
      o.isOrphan = false ∧ o.view.worktreePresent = true ∧
          a.identity.isSome = true →
        verifyRegistered a m c.node s = .ok () := by
    intro hAll
    exact hResumable.stands.verifyRegistered_ok hAll.1
      hAll.2.1
  simp only [goAhead, bind_eq_ok, checkWhen_eq_ok]
  refine ⟨(), hResumable.quiet, (), hPins, ?_⟩
  rw [if_neg (by simp [hReal])]
  simp only [recordedOr, bind_eq_ok, refuseIf_eq_ok,
    checkWhen_eq_ok]
  refine ⟨(), ?_, a, rfl, (), hAgain, rfl⟩
  simpa using hMay

/- What the plan removes first has just been verified. -/
theorem clears
    (hResumable : Resumable env op m c a seq o populated s)
    (hSeen : c.observation = observe m c.node s) :
    (retryPlan args m c a seq o populated).Clears s := by
  have hStands := hResumable.stands
  have hRepo :=
    (observe_view (hSeen.symm.trans hResumable.observed)).2.2
  constructor
  · intro hPresent
    change o.view.worktreePresent = true at hPresent
    rw [DiscardPlan.checkRemoval_eq_ok]
    constructor
    · intro hLeft
      exact hStands.verifyOrphan_ok hLeft
    · intro hKnown _
      exact hStands.verifyRegistered_ok hKnown hPresent
  · intro hGone repo branch hSource hBranch
    change o.view.worktreePresent = false at hGone
    change o.sourceRepo = some repo at hSource
    change o.view.branch = some branch at hBranch
    cases hStands with
    | registered hPresent =>
        rw [hGone] at hPresent
        cases hPresent
    | orphaned hPresent =>
        rw [hGone] at hPresent
        cases hPresent
    | branchAlone _ _ hPinned hFree =>
        have hBranchFree := hFree repo branch
          (hRepo.symm.trans hSource)
          (hResumable.inputs.2.trans hBranch)
        rcases hBranchFree.unlisted with
          ⟨rows, hRows, hUnlisted⟩
        rcases Option.isSome_iff_exists.mp
          hBranchFree.audited with ⟨oid, hOid⟩
        refine ⟨oid, ?_⟩
        simp only [DiscardPlan.checkDeletion, bind_eq_ok,
          checkWhen_eq_ok, refuseIf_eq_ok, orError_eq_ok]
        refine ⟨(), hPinned, (), ?_, hOid⟩
        rw [hRows, not_or, not_not]
        refine ⟨hBranchFree.absent, ?_⟩
        simp only [Option.all_some, List.any_eq_true, Bool.or_eq_true,
          decide_eq_true_eq, not_exists, not_and, not_or]
        intro row hMem
        refine ⟨?_, (hUnlisted row hMem).1⟩
        intro hAt
        rw [Option.any_eq_true] at hAt
        rcases hAt with ⟨path, hPath, hSame⟩
        rw [(hUnlisted row hMem).2 path hPath] at hSame
        cases hSame

end Resumable

------------------------------------------------------------
-- Answers
------------------------------------------------------------

theorem surveyDiscard_eq
    (env : RunEnv) (op : Operator) (args : DiscardArgs)
    (wanted : Option NodeId) (initial : Manifest)
    (files : List NodeId) (d : Disk) (s : Site) :
    surveyDiscard env op args wanted initial files d s =
      findTarget env args wanted initial files d s >>=
        fun target =>
          decideCandidate env op args target.1 target.2 d s := by
  simp [surveyDiscard, findTarget]

section Answers

variable {wanted : Option NodeId} {initial : Manifest}
variable {files : List NodeId}

theorem findTarget_spec
    (hFound :
      findTarget env args wanted initial files d s =
        .ok (m, c)) :
    c.observation = observe m c.node s := by
  simp only [findTarget, bind_eq_ok, mapError_eq_ok, pure_eq,
    Except.ok.injEq] at hFound
  rcases hFound with
    ⟨_, _, _, _, nodes, hNodes, found, hFound, c', hSelect,
      hSame⟩
  cases hSame
  exact (selected_spec hNodes hFound hSelect).2.1

/- A flag that is enough, and may be given, is accepted. -/
theorem Resumable.accepted
    {upgraded : Bool}
    (hResumable : Resumable env op m c a seq o populated s)
    (hFound :
      findTarget env args wanted initial files d s =
        .ok (m, c))
    (hReason : args.reason = a.reason)
    (hReal : args.dryRun = false)
    (hUpgraded :
      upgradedBefore env op args d c.node.nodeId seq a =
        .ok upgraded)
    (hMay : args.force = true → upgraded = true ∨
      forceRetryAllowed a c.observation true populated = true)
    (hForce : ForceNeeded o populated → args.force = true) :
    RetryAccepted env op args wanted initial files a seq d s := by
  refine ⟨retryPlan args m c a seq o populated, ?_, rfl, rfl,
    ?_, hResumable.clears (findTarget_spec hFound)⟩
  · rw [surveyDiscard_eq, hFound, ok_bind,
      hResumable.decideCandidate_eq,
      hResumable.checkRecorded_ok hReason hUpgraded hMay,
      ok_bind, hResumable.requireVerified_known, ok_bind,
      hResumable.goAhead_proceeds hReal hForce]
  · intro hDue
    have hBoth : args.force = true ∧ a.force = false := by
      simpa [DiscardPlan.upgradeDue, retryPlan] using hDue
    refine ⟨upgraded, ?_⟩
    rw [upgradedBefore_forced hBoth.2 hBoth.1] at hUpgraded
    exact hUpgraded

/- Where the flag does not get past what is on record. -/
theorem Resumable.survey_error
    {e : CliError}
    (hResumable : Resumable env op m c a seq o populated s)
    (hFound :
      findTarget env args wanted initial files d s =
        .ok (m, c))
    (hCheck :
      checkRecorded env op args m c seq a populated d s =
        .error e) :
    surveyDiscard env op args wanted initial files d s =
      .error e := by
  rw [surveyDiscard_eq, hFound, ok_bind,
    hResumable.decideCandidate_eq, hCheck, error_bind]

theorem Resumable.survey_forceRequired
    (hResumable : Resumable env op m c a seq o populated s)
    (hFound :
      findTarget env args wanted initial files d s =
        .ok (m, c))
    (hReason : args.reason = a.reason)
    (hReal : args.dryRun = false)
    (hPlain : args.force = false)
    (hNeeded : ForceNeeded o populated) :
    ∃ message,
      surveyDiscard env op args wanted initial files d s =
        .error (.user "force_required" message none) := by
  have hMay : args.force = true → false = true ∨
      forceRetryAllowed a c.observation true populated =
        true := by
    intro hForce
    rw [hPlain] at hForce
    cases hForce
  rcases hResumable.goAhead_forceRequired hReal hPlain
    hNeeded with ⟨message, hGo⟩
  refine ⟨message, ?_⟩
  rw [surveyDiscard_eq, hFound, ok_bind,
    hResumable.decideCandidate_eq,
    hResumable.checkRecorded_ok hReason
      (upgradedBefore_plain hPlain) hMay,
    ok_bind, hResumable.requireVerified_known, ok_bind, hGo]

theorem ChangedCheckout.needed
    (hChanged : ChangedCheckout o) :
    ForceNeeded o populated :=
  .inr (.inl hChanged.2.2)

theorem retryBlocked_of_none
    {id : NodeId}
    (hNone : recordedUpgrade env id d = none) :
    RetryBlocked env op id a seq o populated d ↔
      ChangedCheckout o := by
  unfold RetryBlocked
  rw [hNone]

theorem RetryBlocked.needed
    {id : NodeId}
    (hBlocked : RetryBlocked env op id a seq o populated d) :
    ForceNeeded o populated := by
  unfold RetryBlocked at hBlocked
  split at hBlocked
  next => exact hBlocked.needed
  next => exact hBlocked.2

/- A blocked call with force is at odds with the record. -/
theorem RetryBlocked.survey_conflict
    (hBlocked :
      RetryBlocked env op c.node.nodeId a seq o populated d)
    (hLines : d.lines = d.events.map .event)
    (hResumable : Resumable env op m c a seq o populated s)
    (hFound :
      findTarget env args wanted initial files d s =
        .ok (m, c))
    (hForce : args.force = true) :
    ∃ message,
      surveyDiscard env op args wanted initial files d s =
        .error (.user "idempotency_conflict" message
          none) := by
  have hAsked :
      upgradedBefore env op args d c.node.nodeId seq a =
        forceUpgradeRecorded env op d c.node.nodeId seq
          a.reason :=
    upgradedBefore_forced hResumable.plain hForce
  unfold RetryBlocked at hBlocked
  split at hBlocked
  next hNone =>
    have hUpgraded :
        upgradedBefore env op args d c.node.nodeId seq a =
          .ok false := by
      rw [hAsked, forceUpgradeRecorded_eq hLines, hNone]
    exact ⟨_, hResumable.survey_error hFound
      (hResumable.checkRecorded_conflict hForce hUpgraded
        (hResumable.forceRetryAllowed_of_changed hBlocked))⟩
  next ev hSome =>
    have hUpgraded :
        upgradedBefore env op args d c.node.nodeId seq a =
          .error forceUpgradeConflict := by
      rw [hAsked]
      exact forceUpgradeRecorded_else hLines hSome hBlocked.1
    exact ⟨_, hResumable.survey_error hFound
      (Resumable.checkRecorded_error hUpgraded)⟩

/- Where force is needed and nothing blocks, it is accepted. -/
theorem Resumable.accepted_forced
    (hResumable : Resumable env op m c a seq o populated s)
    (hLines : d.lines = d.events.map .event)
    (hFound :
      findTarget env args wanted initial files d s =
        .ok (m, c))
    (hReason : args.reason = a.reason)
    (hReal : args.dryRun = false)
    (hForce : args.force = true)
    (hNeeded : ForceNeeded o populated)
    (hFree :
      ¬ RetryBlocked env op c.node.nodeId a seq o populated
        d) :
    RetryAccepted env op args wanted initial files a seq d s := by
  have hAsked :
      upgradedBefore env op args d c.node.nodeId seq a =
        forceUpgradeRecorded env op d c.node.nodeId seq
          a.reason :=
    upgradedBefore_forced hResumable.plain hForce
  unfold RetryBlocked at hFree
  split at hFree
  next hNone =>
    have hUpgraded :
        upgradedBefore env op args d c.node.nodeId seq a =
          .ok false := by
      rw [hAsked, forceUpgradeRecorded_eq hLines, hNone]
    exact hResumable.accepted hFound hReason hReal hUpgraded
      (fun _ => .inr
        (hResumable.forceRetryAllowed_of_needed
          (findTarget_spec hFound) hNeeded hFree))
      (fun _ => hForce)
  next ev hSome =>
    have hOwn : UpgradesOwn op c.node.nodeId a seq ev := by
      by_contra hElse
      exact hFree ⟨hElse, hNeeded⟩
    have hUpgraded :
        upgradedBefore env op args d c.node.nodeId seq a =
          .ok true := by
      rw [hAsked]
      exact forceUpgradeRecorded_own hLines hSome hOwn
    exact hResumable.accepted hFound hReason hReal hUpgraded
      (fun _ => .inl rfl) (fun _ => hForce)

theorem Resumable.accepted_plain
    (hResumable : Resumable env op m c a seq o populated s)
    (hFound :
      findTarget env args wanted initial files d s =
        .ok (m, c))
    (hReason : args.reason = a.reason)
    (hReal : args.dryRun = false)
    (hPlain : args.force = false)
    (hEnough : ¬ ForceNeeded o populated) :
    RetryAccepted env op args wanted initial files a seq d s := by
  refine hResumable.accepted hFound hReason hReal
    (upgradedBefore_plain hPlain) ?_
    (fun hNeeded => absurd hNeeded hEnough)
  intro hForce
  rw [hPlain] at hForce
  cases hForce

/- What is answered with an error is not accepted. -/
theorem not_retryAccepted_of_error
    {e : CliError}
    (hError :
      surveyDiscard env op args wanted initial files d s =
        .error e) :
    ¬ RetryAccepted env op args wanted initial files a seq d
      s := by
  intro hAccepted
  rcases hAccepted with ⟨plan, hPlan, _⟩
  rw [hError] at hPlan
  cases hPlan

end Answers

end Retries

/-
  What a discard without force has authorized, and what still
  stands as it was, can be discarded with one choice of the
  flag, unless the retry is blocked; then neither will do.
  Wherever force is required, it is accepted exactly if the
  retry is not blocked.
-/
theorem discard_retry_goes_on
    (env : RunEnv)
    (tool : Git)
    (S₀ S : DiscardState)
    (op : Operator)
    (args : DiscardArgs)
    (wanted : Option NodeId)
    (initial : Manifest)
    (files : List NodeId)
    (seen : Site)
    (m : Manifest)
    (c : Candidate)
    (a : Authorization)
    (seq : Nat)
    (o : RetainedObservation)
    (populated : Bool)
    (hInitial : S₀.Initial env)
    (hRun : Steps.Run (DiscardStep env tool) S₀ S)
    (hFound :
      findTarget env args wanted initial files S.disk seen =
        .ok (m, c))
    (hResumable : Resumable env op m c a seq o populated seen)
    (hReason : args.reason = a.reason)
    (hReal : args.dryRun = false) :
    ((∃ force,
      RetryAccepted env op (args.withForce force) wanted
        initial files a seq S.disk seen) ↔
      ¬ RetryBlocked env op c.node.nodeId a seq o populated
        S.disk) ∧
    (∀ message,
      surveyDiscard env op (args.withForce false) wanted
          initial files S.disk seen =
        .error (.user "force_required" message none) →
      (RetryAccepted env op (args.withForce true) wanted
          initial files a seq S.disk seen ↔
        ¬ RetryBlocked env op c.node.nodeId a seq o populated
          S.disk)) ∧
    (RetryBlocked env op c.node.nodeId a seq o populated
        S.disk →
      (∃ message,
        surveyDiscard env op (args.withForce false) wanted
            initial files S.disk seen =
          .error (.user "force_required" message none)) ∧
      ∃ message,
        surveyDiscard env op (args.withForce true) wanted
            initial files S.disk seen =
          .error (.user "idempotency_conflict" message
            none)) := by
  have hSound : S.Sound env := hInitial.sound.run hRun
  have hLines := hSound.backed.lines
  have hFoundBy (force : Bool) :
      findTarget env (args.withForce force) wanted initial files
        S.disk seen = .ok (m, c) := hFound
  have hRefused
      (hBlocked :
        RetryBlocked env op c.node.nodeId a seq o populated
          S.disk) :
      (∃ message,
        surveyDiscard env op (args.withForce false) wanted
            initial files S.disk seen =
          .error (.user "force_required" message none)) ∧
      ∃ message,
        surveyDiscard env op (args.withForce true) wanted
            initial files S.disk seen =
          .error (.user "idempotency_conflict" message
            none) :=
    ⟨hResumable.survey_forceRequired (hFoundBy false) hReason
        hReal rfl hBlocked.needed,
      hBlocked.survey_conflict hLines hResumable
        (hFoundBy true) rfl⟩
  have hNeither
      (hBlocked :
        RetryBlocked env op c.node.nodeId a seq o populated
          S.disk) (force : Bool) :
      ¬ RetryAccepted env op (args.withForce force) wanted
        initial files a seq S.disk seen := by
    rcases hRefused hBlocked with
      ⟨⟨_, hPlain⟩, ⟨_, hForced⟩⟩
    cases force with
    | false => exact not_retryAccepted_of_error hPlain
    | true => exact not_retryAccepted_of_error hForced
  refine ⟨⟨?_, ?_⟩, ?_, hRefused⟩
  · intro hSome hBlocked
    rcases hSome with ⟨force, hAccepted⟩
    exact hNeither hBlocked force hAccepted
  · intro hFree
    by_cases hNeeded : ForceNeeded o populated
    · exact ⟨true, hResumable.accepted_forced hLines
        (hFoundBy true) hReason hReal rfl hNeeded hFree⟩
    · exact ⟨false, hResumable.accepted_plain
        (hFoundBy false) hReason hReal rfl hNeeded⟩
  · intro message hAnswer
    constructor
    · intro hAccepted hBlocked
      exact hNeither hBlocked true hAccepted
    · intro hFree
      have hNeeded : ForceNeeded o populated := by
        by_contra hEnough
        exact not_retryAccepted_of_error hAnswer
          (hResumable.accepted_plain (hFoundBy false) hReason
            hReal rfl hEnough)
      exact hResumable.accepted_forced hLines (hFoundBy true)
        hReason hReal rfl hNeeded hFree

namespace Sample

def createRetained : Call :=
  .append (request .nodeCreated (some .first)
    (.obj
      [("branch", .str "work"), ("kind", .str "spinoff"),
        ("worktree_path", .str "/w")]))

def directory (ino : Nat) : Stat where
  isDir := true
  isSymlink := false
  len := 0
  dev := 1
  ino := ino
  created := some 7

/- A checkout on its branch, and what it holds. -/
def checkoutSite (dirty submodules : Bool) : Site where
  entries := fun path =>
    if path = "/w" then some (directory 2)
    else if path = "/r/.git" then some (directory 3)
    else none
  texts := fun _ => none
  resolves := fun path =>
    if path = "/r" ∨ path = "/r/.git" ∨ path = "/w" then
      some path
    else none
  common := fun path =>
    if path = "/r" ∨ path = "/w" then some "/r/.git" else none
  worktrees := fun _ =>
    [⟨"/r", some "main"⟩, ⟨"/w", some "work"⟩]
  refs := fun _ ref =>
    if ref = branchRef "work" then some branchTip else none
  symbolic := fun _ _ => none
  trees := fun _ =>
    ⟨dirty, false, submodules, some branchTip⟩
  ahead := fun _ _ _ => some 1
  fails := fun _ => false

/- The node has a checkout, and is cancelled with its run. -/
def retainedCalls : List Call :=
  [createRetained, cancelBranched, cancelSourced]

/- The plan of a first call, while the checkout is clean. -/
def firstPlan (d : Disk) : Option (Manifest × DiscardPlan) :=
  match openDiscard env discardCall d with
  | .error _ => none
  | .ok initial =>
      match surveyDiscard env discarder discardCall none initial
        [.first] (replayed d) (checkoutSite false false) with
      | .ok (.proceed plan) => some (initial, plan)
      | _ => none

/- The log has the authorization, and nothing is removed. -/
def interrupted (d : Disk) (plan : DiscardPlan) : Disk :=
  (appendAndApplyUnlocked env
    (plan.authorizationRequest env 0)).final (replayed d)

/- The target of a later call, once the tree has changed. -/
def laterTarget (d : Disk) (s : Site) :
    Option (Manifest × Manifest × Candidate) :=
  match openDiscard env discardCall d with
  | .error _ => none
  | .ok initial =>
      match findTarget env discardCall none initial [.first]
        (replayed d) s with
      | .ok target => some (initial, target)
      | _ => none

/- What the steps of the first call need of its plan. -/
def firstGoes (d : Disk) (plan : DiscardPlan) : Bool :=
  plan.prior.isNone && !plan.upgradeDue && !plan.auth.force &&
    plan.auth.reason == "obsolete" &&
    plan.auth.identity ==
      some ⟨1, 2, 7, 1, 3, some branchTip⟩ &&
    plan.auth.unmergedCommits == some 1 &&
    ((replayUnappliedUnlocked env).result d).toOption ==
      some () &&
    ((appendAndApplyUnlocked env
      (plan.authorizationRequest env 0)).result
        (replayed d)).toOption.isSome

/- What a later call finds of the target. -/
def laterStands
    (a : Authorization) (d : Disk) (s : Site)
    (submodules : Bool) (m : Manifest) (c : Candidate)
    (seq : Nat) (o : RetainedObservation) : Bool :=
  (readRecorded c.prior).toOption == some (some (seq, a)) &&
    c.observation == some o && o.hasResources &&
    a.worktreePath == o.view.worktreePath &&
    a.branch == o.view.branch &&
    o.view.worktreePresent && o.verified &&
    registeredStands a m c.node s == some true &&
    (populatedSubmodules c.observation s).toOption ==
      some submodules &&
    (refuseRunning env discarder c.node).toOption ==
      some () &&
    (recordedUpgrade env c.node.nodeId (replayed d)).isNone &&
    ((replayUnappliedUnlocked env).result d).toOption ==
      some ()

/- A first call is interrupted, and a later one looks. -/
def retryGoes
    (dirty submodules : Bool) (cleanliness : String)
    (d : Disk) : Bool :=
  (firstPlan d).any (fun first =>
    firstGoes d first.2 &&
      (laterTarget (interrupted d first.2)
        (checkoutSite dirty submodules)).any (fun later =>
          ((readRecorded later.2.2.prior).toOption.bind id).any
            (fun recorded =>
              later.2.2.observation.any (fun o =>
                laterStands first.2.auth
                  (interrupted d first.2)
                  (checkoutSite dirty submodules) submodules
                  later.2.1 later.2.2 recorded.1 o &&
                  o.view.cleanliness == cleanliness))))

theorem retryGoes_dirty :
    ∃ d, Steps.Run (DiscardStep env .direct) (sourcedState [])
        ⟨d, branchedSite, .idle⟩ ∧
      retryGoes true false "dirty" d = true :=
  ⟨_, run_sourcedState .direct retainedCalls, by decide +kernel⟩

theorem retryGoes_populated :
    ∃ d, Steps.Run (DiscardStep env .direct) (sourcedState [])
        ⟨d, branchedSite, .idle⟩ ∧
      retryGoes false true "clean" d = true :=
  ⟨_, run_sourcedState .direct retainedCalls, by decide +kernel⟩

theorem firstPlan_spec
    {d : Disk} {initial : Manifest} {plan : DiscardPlan}
    (hFirst : firstPlan d = some (initial, plan)) :
    openDiscard env discardCall d = .ok initial ∧
      surveyDiscard env discarder discardCall none initial
        [.first] (replayed d) (checkoutSite false false) =
          .ok (.proceed plan) := by
  unfold firstPlan at hFirst
  split at hFirst
  next => cases hFirst
  next hOpen =>
    split at hFirst
    next hSurvey =>
      cases hFirst
      exact ⟨hOpen, hSurvey⟩
    next => cases hFirst

theorem laterTarget_spec
    {d : Disk} {s : Site} {initial m : Manifest}
    {c : Candidate}
    (hLater : laterTarget d s = some (initial, m, c)) :
    openDiscard env discardCall d = .ok initial ∧
      findTarget env discardCall none initial [.first]
        (replayed d) s = .ok (m, c) := by
  unfold laterTarget at hLater
  split at hLater
  next => cases hLater
  next hOpen =>
    split at hLater
    next hTarget =>
      cases hLater
      exact ⟨hOpen, hTarget⟩
    next => cases hLater

/- The first call has its authorization written, and stops. -/
theorem run_interrupted
    {d : Disk} {initial : Manifest} {plan : DiscardPlan}
    (hRun :
      Steps.Run (DiscardStep env .direct) (sourcedState [])
        ⟨d, branchedSite, .idle⟩)
    (hFirst : firstPlan d = some (initial, plan))
    (hGoes : firstGoes d plan = true) (s : Site) :
    Steps.Run (DiscardStep env .direct) (sourcedState [])
      ⟨interrupted d plan, s, .idle⟩ := by
  rcases firstPlan_spec hFirst with ⟨hOpen, hSurvey⟩
  simp only [firstGoes, Bool.and_eq_true, Bool.not_eq_true',
    Option.isNone_iff_eq_none, beq_iff_eq] at hGoes
  rcases hGoes with
    ⟨⟨⟨⟨⟨⟨⟨hPrior, hNotDue⟩, _⟩, _⟩, hIdentity⟩, hCount⟩,
      hReplay⟩, hAppend⟩
  have hFits : plan.auth.Fits := by
    constructor
    · intro t hSome
      rw [hIdentity] at hSome
      cases hSome
      unfold TargetIdentity.Fits
      decide
    · intro n hSome
      rw [hCount] at hSome
      cases hSome
      decide
  rcases exists_ok hAppend with ⟨seq, hOk⟩
  have hClean := hRun.next
    (.moves _ (checkoutSite false false))
  have hBegun := hClean.next
    (.begins _ discarder discardCall none initial rfl
      admit_discardCall hOpen rfl (ok_of_toOption hReplay))
  have hLooked := hBegun.next
    (.looks _ discarder discardCall none initial [.first]
      (checkoutSite false false) plan rfl hSurvey)
  have hAuthorized := hLooked.next
    (.authorizes _ discarder plan 0 seq rfl hPrior hFits hOk)
  exact (hAuthorized.next (.stops _)).next (.moves _ s)

/- A reachable state in which a later call has its target. -/
theorem retryGoes_spec
    {dirty submodules : Bool} {cleanliness : String} {d : Disk}
    (hRun :
      Steps.Run (DiscardStep env .direct) (sourcedState [])
        ⟨d, branchedSite, .idle⟩)
    (hGoes : retryGoes dirty submodules cleanliness d = true) :
    ∃ (S : DiscardState) (initial m : Manifest)
        (c : Candidate) (a : Authorization) (seq : Nat)
        (o : RetainedObservation),
      Steps.Run (DiscardStep env .direct) (sourcedState [])
        S ∧
      S.phase = .looking discarder discardCall none initial ∧
      findTarget env discardCall none initial [.first] S.disk
        S.site = .ok (m, c) ∧
      Resumable env discarder m c a seq o submodules S.site ∧
      discardCall.reason = a.reason ∧
      recordedUpgrade env c.node.nodeId S.disk = none ∧
      o.view.worktreePresent = true ∧ o.verified = true ∧
      o.view.cleanliness = cleanliness := by
  unfold retryGoes at hGoes
  rw [Option.any_eq_true] at hGoes
  rcases hGoes with ⟨⟨first, plan⟩, hFirst, hGoes⟩
  rw [Bool.and_eq_true, Option.any_eq_true] at hGoes
  rcases hGoes with ⟨hPlan, ⟨initial, m, c⟩, hLater, hGoes⟩
  rw [Option.any_eq_true] at hGoes
  rcases hGoes with ⟨⟨seq, a⟩, hRecorded, hGoes⟩
  rw [Option.any_eq_true] at hGoes
  rcases hGoes with ⟨o, hSeen, hGoes⟩
  have hStopped := run_interrupted hRun hFirst hPlan
    (checkoutSite dirty submodules)
  rcases laterTarget_spec hLater with ⟨hOpen, hTarget⟩
  simp only [laterStands, Bool.and_eq_true, beq_iff_eq,
    Option.isNone_iff_eq_none] at hGoes
  rcases hGoes with
    ⟨⟨⟨⟨⟨⟨⟨⟨⟨⟨⟨⟨hRead, hObserved⟩, hHas⟩, hPath⟩, hBranch⟩,
      hPresent⟩, hVerified⟩, hStands⟩, hSubmodules⟩, hQuiet⟩,
      hNone⟩, hReplay⟩, hTree⟩
  simp only [firstGoes, Bool.and_eq_true, Bool.not_eq_true',
    beq_iff_eq] at hPlan
  have hBegun := hStopped.next
    (.begins _ discarder discardCall none initial rfl
      admit_discardCall hOpen rfl (ok_of_toOption hReplay))
  refine ⟨_, initial, m, c, plan.auth, seq, o, hBegun, rfl,
    hTarget, ?_, ?_, hNone, hPresent, hVerified, hTree⟩
  · exact
      { recorded := ok_of_toOption hRead
        plain := hPlan.1.1.1.1.1.2
        observed := hObserved
        resources := hHas
        inputs := ⟨hPath, hBranch⟩
        stands := .registered hPresent hVerified hStands
        submodules := ok_of_toOption hSubmodules
        quiet := ok_of_toOption hQuiet }
  · exact hPlan.1.1.1.1.2.symm

end Sample

/-
  A clean checkout was authorized, and git populated its
  submodules since: only with force does the call go on.
-/
theorem retry_with_submodules_goes_on :
    ∃ (S : DiscardState) (initial : Manifest)
        (a : Authorization) (seq : Nat),
      RetryAccepted Sample.env Sample.discarder
        (Sample.discardCall.withForce true) none initial
        [.first] a seq S.disk S.site := by
  rcases Sample.retryGoes_populated with ⟨d, hRun, hGoes⟩
  rcases Sample.retryGoes_spec hRun hGoes with
    ⟨S, initial, m, c, a, seq, o, hReached, _, hFound,
      hResumable, hReason, hNone, _, _, hClean⟩
  have hFree :
      ¬ RetryBlocked Sample.env Sample.discarder c.node.nodeId
        a seq o true S.disk := by
    rw [retryBlocked_of_none hNone]
    intro hChanged
    have hDirty := hClean.symm.trans hChanged.2.2
    exact absurd hDirty (by decide)
  have hRetry := discard_retry_goes_on Sample.env .direct _
    S Sample.discarder Sample.discardCall none initial [.first]
    S.site m c a seq o true Sample.initial_sourcedState
    hReached hFound hResumable hReason rfl
  have hFoundPlain :
      findTarget Sample.env (Sample.discardCall.withForce false)
        none initial [.first] S.disk S.site = .ok (m, c) :=
    hFound
  rcases hResumable.survey_forceRequired hFoundPlain hReason rfl
    rfl (.inl rfl) with ⟨message, hAnswer⟩
  exact ⟨S, initial, a, seq,
    (hRetry.2.1 message hAnswer).mpr hFree⟩

/-
  A clean checkout was authorized, and changed since: neither
  flag is accepted for what still stands as it was.
-/
theorem not_discard_retry_goes_on :
    ¬ ∀ (env : RunEnv) (tool : Git) (S₀ S : DiscardState)
        (op : Operator) (args : DiscardArgs)
        (wanted : Option NodeId) (initial : Manifest)
        (files : List NodeId) (m : Manifest)
        (c : Candidate) (a : Authorization) (seq : Nat)
        (o : RetainedObservation) (populated : Bool),
      tool.Documented → S₀.Initial env →
      Steps.Run (DiscardStep env tool) S₀ S →
      S.phase = .looking op args wanted initial →
      findTarget env args wanted initial files S.disk S.site =
        .ok (m, c) →
      Resumable env op m c a seq o populated S.site →
      args.reason = a.reason →
      args.dryRun = false →
      ∃ force,
        RetryAccepted env op (args.withForce force) wanted
          initial files a seq S.disk S.site := by
  intro hAlways
  rcases Sample.retryGoes_dirty with ⟨d, hRun, hGoes⟩
  rcases Sample.retryGoes_spec hRun hGoes with
    ⟨S, initial, m, c, a, seq, o, hReached, hPhase, hFound,
      hResumable, hReason, hNone, hPresent, hVerified, hDirty⟩
  have hBlocked :
      RetryBlocked Sample.env Sample.discarder c.node.nodeId a
        seq o false S.disk :=
    (retryBlocked_of_none hNone).mpr
      ⟨hPresent, hVerified, hDirty⟩
  have hSound : S.Sound Sample.env :=
    Sample.initial_sourcedState.sound.run hReached
  have hFoundBy (force : Bool) :
      findTarget Sample.env (Sample.discardCall.withForce force)
        none initial [.first] S.disk S.site = .ok (m, c) :=
    hFound
  rcases hAlways Sample.env .direct _ S Sample.discarder
    Sample.discardCall none initial [.first] m c a seq o false
    Git.documented_direct Sample.initial_sourcedState hReached
    hPhase hFound hResumable hReason rfl with
    ⟨force, hAccepted⟩
  cases force with
  | false =>
      rcases hResumable.survey_forceRequired (hFoundBy false)
        hReason rfl rfl hBlocked.needed with ⟨_, hAnswer⟩
      exact not_retryAccepted_of_error hAnswer hAccepted
  | true =>
      rcases hBlocked.survey_conflict hSound.backed.lines
        hResumable (hFoundBy true) rfl with ⟨_, hAnswer⟩
      exact not_retryAccepted_of_error hAnswer hAccepted

end Taskfleet
