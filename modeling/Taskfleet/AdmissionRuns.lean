import Taskfleet.Admission
import Taskfleet.Steps

/-
  Creations and upgrades of one state root. Both take the
  admission lock, a creation shared and an upgrade alone, and
  the process that an upgrade starts inherits it.

  Main declarations:
    * `Gateway`, `GateStep`
    * `Gateway.Guarded`, `Gateway.Barred`
    * `admission_gate`
-/

------------------------------------------------------------
-- Creations and Upgrades
------------------------------------------------------------

namespace Taskfleet

open Fallible

inductive AdmissionPhase where
| idle
| locked
| admitted
| ended
deriving DecidableEq, Repr

/- The lock is held shared. -/
def AdmissionPhase.shares : AdmissionPhase → Bool
| .locked | .admitted => true
| _ => false

/- From `prepared` on, with the receipt of the overrides. -/
inductive UpgradePhase where
| idle
| locked
| prepared (receipt : Option String)
| activating (receipt : Option String)
| settled (receipt : Option String)
| ended
deriving DecidableEq, Repr

namespace UpgradePhase

def owns : UpgradePhase → Bool
| .idle | .ended => false
| _ => true

/- Everything was accepted. -/
def entered : UpgradePhase → Bool
| .prepared _ | .activating _ | .settled _ => true
| _ => false

end UpgradePhase

/-
  One call of the upgrade: whether a process of its activation
  may run, and whether one has the lock.
-/
structure Upgrade where
  args : UpgradeArgs
  receiptId : String
  phase : UpgradePhase
  alive : Bool
  inherited : Bool

/- The lock is held alone. -/
def Upgrade.holds (u : Upgrade) : Bool :=
  u.phase.owns || u.inherited

structure Gateway (κ ι : Type) where
  gate : GateState
  creation : κ → AdmissionPhase
  upgrade : ι → Upgrade

namespace Gateway

variable {κ ι : Type}

/- Nobody has begun. The marker may be there already. -/
structure Initial (S : Gateway κ ι) : Prop where
  creation : ∀ c, S.creation c = .idle
  upgrade : ∀ u, (S.upgrade u).phase = .idle ∧
    (S.upgrade u).alive = false ∧
    (S.upgrade u).inherited = false

def setCreation
    [DecidableEq κ]
    (S : Gateway κ ι) (c : κ) (phase : AdmissionPhase) :
    Gateway κ ι :=
  { S with creation := Function.update S.creation c phase }

/- One call goes on, and leaves the state root as `gate`. -/
def setUpgrade
    [DecidableEq ι]
    (S : Gateway κ ι) (u : ι) (gate : GateState)
    (call : Upgrade) : Gateway κ ι :=
  { S with
    gate := gate
    upgrade := Function.update S.upgrade u call }

end Gateway

inductive GateAct (κ ι : Type) where
| locksShared (c : κ)
| admits (c : κ)
| refuses (c : κ)
| ends (c : κ)
| locks (u : ι)
| prepares (u : ι)
| abandons (u : ι)
| activates (u : ι)
| unstarted (u : ι)
| succeeds (u : ι)
| fails (u : ι)
| clears (u : ι)
| unclearable (u : ι)
| dies (u : ι)
| detaches (u : ι)
| stops (u : ι)
| works
| replaces

/-
  One step of a creation, of an upgrade, of the processes it
  has started, or of anything else that writes below the root.
  Every call may end or die between any two steps.

  A recovery goes on only with the word that no activation is
  running any more, and an activation that succeeds is trusted
  to leave nothing behind.
-/
inductive GateStep
    {κ ι : Type} [DecidableEq κ] [DecidableEq ι]
    (h : RunId → RunEnv) :
    GateAct κ ι → Gateway κ ι → Gateway κ ι → Prop where
| locksShared (S : Gateway κ ι) (c : κ)
    (hPhase : S.creation c = .idle)
    (hFree : ∀ u, (S.upgrade u).holds = false) :
    GateStep h (.locksShared c) S (S.setCreation c .locked)
| admits (S : Gateway κ ι) (c : κ)
    (hPhase : S.creation c = .locked)
    (hOpen : ensureNotInhibited S.gate.marker = .ok ()) :
    GateStep h (.admits c) S (S.setCreation c .admitted)
| refuses (S : Gateway κ ι) (c : κ) (e : CliError)
    (hPhase : S.creation c = .locked)
    (hShut : ensureNotInhibited S.gate.marker = .error e) :
    GateStep h (.refuses c) S (S.setCreation c .ended)
| ends (S : Gateway κ ι) (c : κ) :
    GateStep h (.ends c) S (S.setCreation c .ended)
-- the call of an upgrade
| locks (S : Gateway κ ι) (u : ι)
    (hPhase : (S.upgrade u).phase = .idle)
    (hFree : ∀ v, (S.upgrade v).holds = false)
    (hNone : ∀ c, (S.creation c).shares = false) :
    GateStep h (.locks u) S
      (S.setUpgrade u S.gate
        { S.upgrade u with phase := .locked })
| prepares (S : Gateway κ ι) (u : ι) (probe : LiveProbe)
    (again : String → Except CliError Unit)
    (receipt : Option String)
    (hPhase : (S.upgrade u).phase = .locked)
    (hWord : (S.upgrade u).args.recover = true →
      ∀ v, (S.upgrade v).alive = false)
    (hOk :
      (prepare h probe again (S.upgrade u).args
        (S.upgrade u).receiptId).result S.gate =
          .ok receipt) :
    GateStep h (.prepares u) S
      (S.setUpgrade u
        ((prepare h probe again (S.upgrade u).args
          (S.upgrade u).receiptId).final S.gate)
        { S.upgrade u with phase := .prepared receipt })
| abandons (S : Gateway κ ι) (u : ι) (probe : LiveProbe)
    (again : String → Except CliError Unit) (gate : GateState)
    (hPhase : (S.upgrade u).phase = .locked)
    (hLeaves :
      (prepare h probe again (S.upgrade u).args
        (S.upgrade u).receiptId).Leaves S.gate gate) :
    GateStep h (.abandons u) S
      (S.setUpgrade u gate { S.upgrade u with phase := .ended })
| activates (S : Gateway κ ι) (u : ι) (receipt : Option String)
    (hPhase : (S.upgrade u).phase = .prepared receipt) :
    GateStep h (.activates u) S
      (S.setUpgrade u S.gate
        { S.upgrade u with
          phase := .activating receipt
          alive := true
          inherited := true })
| unstarted (S : Gateway κ ι) (u : ι) (receipt : Option String)
    (gate : GateState)
    (hPhase : (S.upgrade u).phase = .prepared receipt)
    (hLeaves :
      (writeOutcome "spawn_failed" receipt).Leaves S.gate
        gate) :
    GateStep h (.unstarted u) S
      (S.setUpgrade u gate { S.upgrade u with phase := .ended })
| succeeds (S : Gateway κ ι) (u : ι) (receipt : Option String)
    (hPhase : (S.upgrade u).phase = .activating receipt) :
    GateStep h (.succeeds u) S
      (S.setUpgrade u S.gate
        { S.upgrade u with
          phase := .settled receipt
          alive := false
          inherited := false })
| fails (S : Gateway κ ι) (u : ι) (receipt : Option String)
    (outcome : String) (gate : GateState)
    (hPhase : (S.upgrade u).phase = .activating receipt)
    (hLeaves :
      (writeOutcome outcome receipt).Leaves S.gate gate) :
    GateStep h (.fails u) S
      (S.setUpgrade u gate { S.upgrade u with phase := .ended })
| clears (S : Gateway κ ι) (u : ι) (receipt : Option String)
    (gate : GateState)
    (hPhase : (S.upgrade u).phase = .settled receipt)
    (hOk : (conclude receipt).result S.gate = .ok ())
    (hLeaves : (conclude receipt).Leaves S.gate gate) :
    GateStep h (.clears u) S
      (S.setUpgrade u gate { S.upgrade u with phase := .ended })
| unclearable (S : Gateway κ ι) (u : ι)
    (receipt : Option String) (e : CliError)
    (gate : GateState)
    (hPhase : (S.upgrade u).phase = .settled receipt)
    (hError : (conclude receipt).result S.gate = .error e)
    (hLeaves :
      (writeOutcome "marker_unclearable" receipt).Leaves
        ((conclude receipt).final S.gate) gate) :
    GateStep h (.unclearable u) S
      (S.setUpgrade u gate { S.upgrade u with phase := .ended })
| dies (S : Gateway κ ι) (u : ι) :
    GateStep h (.dies u) S
      (S.setUpgrade u S.gate { S.upgrade u with phase := .ended })
-- the processes of an activation
| detaches (S : Gateway κ ι) (u : ι) :
    GateStep h (.detaches u) S
      (S.setUpgrade u S.gate
        { S.upgrade u with inherited := false })
| stops (S : Gateway κ ι) (u : ι) :
    GateStep h (.stops u) S
      (S.setUpgrade u S.gate
        { S.upgrade u with alive := false, inherited := false })
-- everything else
| works (S : Gateway κ ι) (root : StateRoot) :
    GateStep h .works S
      { S with gate := { S.gate with root := root } }
| replaces (S : Gateway κ ι) (file : MarkerFile)
    (hThere : S.gate.Shut) :
    GateStep h .replaces S
      { S with gate := { S.gate with marker := some file } }

------------------------------------------------------------
-- The Invariant
------------------------------------------------------------

namespace Gateway

variable {κ ι : Type}

structure Guarded (S : Gateway κ ι) : Prop where
  alive : ∀ u, (S.upgrade u).alive = true → S.gate.Shut
  entered : ∀ u, (S.upgrade u).phase.entered = true →
    S.gate.Shut
  sole : ∀ u v, (S.upgrade u).holds = true →
    (S.upgrade v).holds = true → u = v
  apart : ∀ c u, (S.creation c).shares = true →
    (S.upgrade u).holds = false
  opened : ∀ c, S.creation c = .admitted → S.gate.marker = none
  quiet : ∀ u v, (S.upgrade u).phase.entered = true →
    (S.upgrade v).alive = true → v = u
  settled : ∀ u receipt,
    (S.upgrade u).phase = .settled receipt →
      (S.upgrade u).alive = false

theorem Initial.guarded
    {S : Gateway κ ι} (hInitial : S.Initial) : S.Guarded := by
  have hIdle := fun u => (hInitial.upgrade u).1
  have hStill := fun u => (hInitial.upgrade u).2.1
  have hFree : ∀ u, (S.upgrade u).holds = false := by
    intro u
    simp [Upgrade.holds, hIdle, (hInitial.upgrade u).2.2,
      UpgradePhase.owns]
  constructor
  · simp [hStill]
  · simp [hIdle, UpgradePhase.entered]
  · simp [hFree]
  · exact fun _ u _ => hFree u
  · simp [hInitial.creation]
  · simp [hStill]
  · exact fun u _ _ => hStill u

/- A creation is admitted only where no activation can run. -/
theorem Guarded.admitted
    {S : Gateway κ ι} {c : κ}
    (hGuarded : S.Guarded)
    (hAdmitted : S.creation c = .admitted) (u : ι) :
    (S.upgrade u).alive = false := by
  by_contra hAlive
  have hShut := hGuarded.alive u (by simpa using hAlive)
  exact hShut (hGuarded.opened c hAdmitted)

/- Who has the lock alone has it alone. -/
theorem Guarded.alone
    {S : Gateway κ ι} {u : ι}
    (hGuarded : S.Guarded)
    (hHolds : (S.upgrade u).holds = true) :
    (∀ v, (S.upgrade v).holds = true → v = u) ∧
      ∀ c, (S.creation c).shares = false := by
  constructor
  · exact fun v hOther => hGuarded.sole v u hOther hHolds
  · intro c
    by_contra hShares
    have hNot := hGuarded.apart c u (by simpa using hShares)
    rw [hHolds] at hNot
    cases hNot

theorem holds_of_owns
    {call : Upgrade} (hOwns : call.phase.owns = true) :
    call.holds = true := by
  simp [Upgrade.holds, hOwns]

theorem owns_of_entered
    {phase : UpgradePhase} (hEntered : phase.entered = true) :
    phase.owns = true := by
  cases phase with
  | idle => cases hEntered
  | locked => cases hEntered
  | ended => cases hEntered
  | _ => rfl

section Calls

variable [DecidableEq ι]
variable {S : Gateway κ ι} {u : ι} {gate : GateState}
variable {call : Upgrade}

@[simp] theorem setUpgrade_gate :
    (S.setUpgrade u gate call).gate = gate := rfl

@[simp] theorem setUpgrade_creation :
    (S.setUpgrade u gate call).creation = S.creation := rfl

@[simp] theorem setUpgrade_self :
    (S.setUpgrade u gate call).upgrade u = call :=
  Function.update_self _ _ _

theorem setUpgrade_other
    {v : ι} (hOther : v ≠ u) :
    (S.setUpgrade u gate call).upgrade v = S.upgrade v :=
  Function.update_of_ne hOther _ _

/- What one call has to keep as it goes on. -/
theorem Guarded.setUpgrade
    (hGuarded : S.Guarded)
    (hShut : S.gate.Shut → gate.Shut)
    (hOpen : gate = S.gate ∨ (S.upgrade u).holds = true)
    (hHolds : call.holds = true →
      (∀ v, (S.upgrade v).holds = true → v = u) ∧
        ∀ c, (S.creation c).shares = false)
    (hEntered : call.phase.entered = true →
      gate.Shut ∧ ∀ v, (S.upgrade v).alive = true → v = u)
    (hAlive : call.alive = true →
      gate.Shut ∧
        ∀ v, (S.upgrade v).phase.entered = true → v = u)
    (hSettled : ∀ receipt,
      call.phase = .settled receipt → call.alive = false) :
    (S.setUpgrade u gate call).Guarded := by
  constructor
  · intro v hHere
    by_cases hSame : v = u
    · subst hSame
      rw [setUpgrade_self] at hHere
      exact (hAlive hHere).1
    · rw [setUpgrade_other hSame] at hHere
      exact hShut (hGuarded.alive v hHere)
  · intro v hHere
    by_cases hSame : v = u
    · subst hSame
      rw [setUpgrade_self] at hHere
      exact (hEntered hHere).1
    · rw [setUpgrade_other hSame] at hHere
      exact hShut (hGuarded.entered v hHere)
  · intro v w hFirst hSecond
    by_cases hSame : v = u
    · subst hSame
      rw [setUpgrade_self] at hFirst
      by_contra hOther
      rw [setUpgrade_other (Ne.symm hOther)] at hSecond
      exact hOther ((hHolds hFirst).1 w hSecond).symm
    · rw [setUpgrade_other hSame] at hFirst
      by_cases hSame' : w = u
      · subst hSame'
        rw [setUpgrade_self] at hSecond
        exact (hHolds hSecond).1 v hFirst
      · rw [setUpgrade_other hSame'] at hSecond
        exact hGuarded.sole v w hFirst hSecond
  · intro c v hShares
    by_cases hSame : v = u
    · subst hSame
      rw [setUpgrade_self]
      by_contra hHere
      have hNot := (hHolds (by simpa using hHere)).2 c
      rw [setUpgrade_creation, hNot] at hShares
      cases hShares
    · rw [setUpgrade_other hSame]
      exact hGuarded.apart c v hShares
  · intro c hAdmitted
    rcases hOpen with rfl | hHere
    · exact hGuarded.opened c hAdmitted
    · have hNot := (hGuarded.alone hHere).2 c
      rw [setUpgrade_creation] at hAdmitted
      rw [hAdmitted] at hNot
      cases hNot
  · intro v w hFirst hSecond
    by_cases hSame : w = u
    · subst hSame
      rw [setUpgrade_self] at hSecond
      by_contra hOther
      rw [setUpgrade_other (Ne.symm hOther)] at hFirst
      exact hOther ((hAlive hSecond).2 v hFirst).symm
    · rw [setUpgrade_other hSame] at hSecond
      by_cases hSame' : v = u
      · subst hSame'
        rw [setUpgrade_self] at hFirst
        exact (hEntered hFirst).2 w hSecond
      · rw [setUpgrade_other hSame'] at hFirst
        exact hGuarded.quiet v w hFirst hSecond
  · intro v receipt hHere
    by_cases hSame : v = u
    · subst hSame
      rw [setUpgrade_self] at hHere ⊢
      exact hSettled receipt hHere
    · rw [setUpgrade_other hSame] at hHere ⊢
      exact hGuarded.settled v receipt hHere

/- A call that gives up, and a process that stops. -/
theorem Guarded.lessens
    (hGuarded : S.Guarded)
    (hShut : S.gate.Shut → gate.Shut)
    (hOpen : gate = S.gate ∨ (S.upgrade u).holds = true)
    (hHolds : call.holds = true → (S.upgrade u).holds = true)
    (hPhase : call.phase = .ended ∨
      call.phase = (S.upgrade u).phase)
    (hAlive : call.alive = true →
      (S.upgrade u).alive = true) :
    (S.setUpgrade u gate call).Guarded := by
  have hEntered : call.phase.entered = true →
      (S.upgrade u).phase.entered = true := by
    rcases hPhase with hOver | hSame
    · rw [hOver]
      intro hHere
      cases hHere
    · rw [hSame]
      exact id
  apply hGuarded.setUpgrade hShut hOpen
  · exact fun hHere => hGuarded.alone (hHolds hHere)
  · intro hHere
    constructor
    · exact hShut (hGuarded.entered u (hEntered hHere))
    · exact fun v => hGuarded.quiet u v (hEntered hHere)
  · intro hHere
    constructor
    · exact hShut (hGuarded.alive u (hAlive hHere))
    · intro v hOther
      exact (hGuarded.quiet v u hOther (hAlive hHere)).symm
  · intro receipt hHere
    rcases hPhase with hOver | hSame
    · rw [hOver] at hHere
      cases hHere
    · have hNot := hGuarded.settled u receipt (hSame ▸ hHere)
      by_contra hStill
      have hYes := hAlive (by simpa using hStill)
      rw [hNot] at hYes
      cases hYes

/- The marker may go once no process is left. -/
theorem Guarded.cleared
    {receipt : Option String}
    (hGuarded : S.Guarded)
    (hPhase : (S.upgrade u).phase = .settled receipt) :
    (S.setUpgrade u gate
      { S.upgrade u with phase := .ended }).Guarded := by
  have hEntered : (S.upgrade u).phase.entered = true := by
    rw [hPhase]
    rfl
  have hHolds : (S.upgrade u).holds = true :=
    holds_of_owns (owns_of_entered hEntered)
  have hOver : (S.setUpgrade u S.gate
      { S.upgrade u with phase := .ended }).Guarded :=
    hGuarded.lessens id (.inl rfl) (fun _ => hHolds)
      (.inl rfl) id
  have hStill : ∀ v, (S.upgrade v).alive = false := by
    intro v
    by_contra hAlive
    have hSame := hGuarded.quiet u v hEntered
      (by simpa using hAlive)
    subst hSame
    exact hAlive (hGuarded.settled v receipt hPhase)
  refine ⟨?_, ?_, hOver.sole, hOver.apart, ?_, hOver.quiet,
    hOver.settled⟩
  · intro v hAlive
    by_cases hSame : v = u
    · subst hSame
      rw [setUpgrade_self, hStill v] at hAlive
      cases hAlive
    · rw [setUpgrade_other hSame, hStill v] at hAlive
      cases hAlive
  · intro v hHere
    by_cases hSame : v = u
    · subst hSame
      rw [setUpgrade_self] at hHere
      cases hHere
    · rw [setUpgrade_other hSame] at hHere
      exact absurd
        ((hGuarded.alone hHolds).1 v
          (holds_of_owns (owns_of_entered hHere))) hSame
  · intro c hAdmitted
    have hNot := (hGuarded.alone hHolds).2 c
    rw [setUpgrade_creation] at hAdmitted
    rw [hAdmitted] at hNot
    cases hNot

end Calls

section Creations

variable [DecidableEq κ]
variable {S : Gateway κ ι} {c : κ} {phase : AdmissionPhase}

/- What one creation has to keep as it goes on. -/
theorem Guarded.setCreation
    (hGuarded : S.Guarded)
    (hShares : phase.shares = true →
      ∀ u, (S.upgrade u).holds = false)
    (hAdmitted : phase = .admitted →
      S.gate.marker = none) :
    (S.setCreation c phase).Guarded := by
  refine ⟨hGuarded.alive, hGuarded.entered, hGuarded.sole,
    ?_, ?_, hGuarded.quiet, hGuarded.settled⟩
  · intro d u hHere
    by_cases hSame : d = c
    · subst hSame
      exact hShares (by simpa [Gateway.setCreation] using hHere)
        u
    · apply hGuarded.apart d u
      simpa [Gateway.setCreation, hSame] using hHere
  · intro d hHere
    by_cases hSame : d = c
    · subst hSame
      exact hAdmitted
        (by simpa [Gateway.setCreation] using hHere)
    · apply hGuarded.opened d
      simpa [Gateway.setCreation, hSame] using hHere

end Creations

section Steps

variable [DecidableEq κ] [DecidableEq ι]
variable {h : RunId → RunEnv} {S S' : Gateway κ ι}
variable {act : GateAct κ ι}

theorem Guarded.step
    (hGuarded : S.Guarded)
    (hStep : GateStep h act S S') : S'.Guarded := by
  -- the end of a call that has the lock
  have hEnds : ∀ u gate,
      (S.upgrade u).phase.owns = true →
      (S.gate.Shut → gate.Shut) →
      (S.setUpgrade u gate
        { S.upgrade u with phase := .ended }).Guarded := by
    intro u gate hOwns hShut
    apply hGuarded.lessens hShut (.inr (holds_of_owns hOwns))
    · intro _
      exact holds_of_owns hOwns
    · exact .inl rfl
    · exact id
  have hOutcome : ∀ (receipt : Option String) outcome s gate,
      (writeOutcome outcome receipt).Leaves s gate →
      s.Shut → gate.Shut :=
    fun _ _ _ _ hLeaves hShut =>
      Durable.wp_leaves (keeps_writeOutcome _ _ hShut) hLeaves
  cases hStep with
  | locksShared _ c hPhase hFree =>
      apply hGuarded.setCreation
      · exact fun _ => hFree
      · intro hHere
        cases hHere
  | admits _ c hPhase hOpen =>
      apply hGuarded.setCreation
      · exact fun _ u => hGuarded.apart c u (by rw [hPhase]; rfl)
      · intro _
        by_contra hShut
        rw [ensureNotInhibited_shut hShut] at hOpen
        cases hOpen
  | refuses _ c e hPhase hShut =>
      apply hGuarded.setCreation
      · intro hHere
        cases hHere
      · intro hHere
        cases hHere
  | ends _ c =>
      apply hGuarded.setCreation
      · intro hHere
        cases hHere
      · intro hHere
        cases hHere
  | locks _ u hPhase hFree hNone =>
      have hAlone : ∀ v, (S.upgrade v).holds = true → v = u := by
        intro v hHere
        rw [hFree v] at hHere
        cases hHere
      apply hGuarded.setUpgrade id (.inl rfl)
      · exact fun _ => ⟨hAlone, hNone⟩
      · intro hHere
        cases hHere
      · intro hHere
        apply And.intro (hGuarded.alive u hHere)
        exact fun v hOther =>
          hAlone v (holds_of_owns (owns_of_entered hOther))
      · intro receipt hHere
        cases hHere
  | prepares _ u probe again receipt hPhase hWord hOk =>
      have hHolds : (S.upgrade u).holds = true :=
        holds_of_owns (by rw [hPhase]; rfl)
      rcases prepare_marker hOk with ⟨hMarker, hShut⟩
      -- by the word of the operator, or as there is no marker
      have hStill : ∀ v, (S.upgrade v).alive = false := by
        cases hRecover : (S.upgrade u).args.recover with
        | true => exact hWord hRecover
        | false =>
            intro v
            by_contra hAlive
            have hThere := hGuarded.alive v
              (by simpa using hAlive)
            exact hThere (checkMarker_activate hRecover hMarker)
      apply hGuarded.setUpgrade (fun _ => hShut) (.inr hHolds)
      · exact fun _ => hGuarded.alone hHolds
      · intro _
        apply And.intro hShut
        intro v hHere
        rw [hStill v] at hHere
        cases hHere
      · intro hHere
        rw [hStill u] at hHere
        cases hHere
      · intro receipt hHere
        cases hHere
  | abandons _ u probe again gate hPhase hLeaves =>
      apply hEnds u gate (by rw [hPhase]; rfl)
      exact fun hShut =>
        Durable.wp_leaves (keeps_prepare _ hShut) hLeaves
  | activates _ u receipt hPhase =>
      have hEntered : (S.upgrade u).phase.entered = true := by
        rw [hPhase]
        rfl
      have hAlone := hGuarded.alone
        (holds_of_owns (owns_of_entered hEntered))
      have hShut := hGuarded.entered u hEntered
      apply hGuarded.setUpgrade id (.inl rfl)
      · exact fun _ => hAlone
      · exact fun _ =>
          ⟨hShut, fun v => hGuarded.quiet u v hEntered⟩
      · intro _
        apply And.intro hShut
        exact fun v hOther =>
          hAlone.1 v (holds_of_owns (owns_of_entered hOther))
      · intro receipt hHere
        cases hHere
  | unstarted _ u receipt gate hPhase hLeaves =>
      exact hEnds u gate (by rw [hPhase]; rfl)
        (hOutcome receipt _ _ gate hLeaves)
  | succeeds _ u receipt hPhase =>
      have hEntered : (S.upgrade u).phase.entered = true := by
        rw [hPhase]
        rfl
      apply hGuarded.setUpgrade id (.inl rfl)
      · exact fun _ => hGuarded.alone
          (holds_of_owns (owns_of_entered hEntered))
      · exact fun _ =>
          ⟨hGuarded.entered u hEntered,
            fun v => hGuarded.quiet u v hEntered⟩
      · intro hHere
        cases hHere
      · exact fun _ _ => rfl
  | fails _ u receipt outcome gate hPhase hLeaves =>
      exact hEnds u gate (by rw [hPhase]; rfl)
        (hOutcome receipt outcome _ gate hLeaves)
  | clears _ u receipt gate hPhase hOk hLeaves =>
      exact hGuarded.cleared hPhase
  | unclearable _ u receipt e gate hPhase hError hLeaves =>
      apply hEnds u gate (by rw [hPhase]; rfl)
      rw [conclude_error hError] at hLeaves
      exact hOutcome receipt _ _ gate hLeaves
  | dies _ u =>
      apply hGuarded.lessens id (.inl rfl)
      · intro hHere
        have hFd : (S.upgrade u).inherited = true := by
          simpa [Upgrade.holds, UpgradePhase.owns] using hHere
        simp [Upgrade.holds, hFd]
      · exact .inl rfl
      · exact id
  | detaches _ u =>
      apply hGuarded.lessens id (.inl rfl)
      · intro hHere
        apply holds_of_owns
        simpa [Upgrade.holds] using hHere
      · exact .inr rfl
      · exact id
  | stops _ u =>
      apply hGuarded.lessens id (.inl rfl)
      · intro hHere
        apply holds_of_owns
        simpa [Upgrade.holds] using hHere
      · exact .inr rfl
      · intro hHere
        cases hHere
  | works _ root =>
      exact ⟨hGuarded.alive, hGuarded.entered, hGuarded.sole,
        hGuarded.apart, hGuarded.opened, hGuarded.quiet,
        hGuarded.settled⟩
  | replaces _ file hThere =>
      refine ⟨?_, ?_, hGuarded.sole, hGuarded.apart, ?_,
        hGuarded.quiet, hGuarded.settled⟩
      · intro u hHere hNone
        cases hNone
      · intro u hHere hNone
        cases hNone
      · intro c hAdmitted
        exact absurd (hGuarded.opened c hAdmitted) hThere

end Steps

------------------------------------------------------------
-- After an Activation Has Started
------------------------------------------------------------

/-
  An activation has started and has not reported success, and
  nobody but a recovery is on its way to clear the marker.
-/
structure Barred (u : ι) (S : Gateway κ ι) : Prop where
  shut : S.gate.Shut
  unsettled : ∀ receipt, (S.upgrade u).phase ≠ .settled receipt
  others : ∀ v, v ≠ u → (S.upgrade v).args.recover = false →
    (S.upgrade v).phase.entered = false

section Barred

variable [DecidableEq ι] {S : Gateway κ ι}

/- What one call has to keep as it goes on. -/
theorem Barred.setUpgrade
    {u v : ι} {gate : GateState} {call : Upgrade}
    (hBarred : S.Barred u)
    (hShut : gate.Shut)
    (hArgs : call.args = (S.upgrade v).args)
    (hUnsettled : v = u → ∀ receipt,
      call.phase ≠ .settled receipt)
    (hEntered : v ≠ u → call.args.recover = false →
      call.phase.entered = true →
        (S.upgrade v).phase.entered = true) :
    (S.setUpgrade v gate call).Barred u := by
  constructor
  · exact hShut
  · intro receipt
    by_cases hSame : u = v
    · subst hSame
      rw [setUpgrade_self]
      exact hUnsettled rfl receipt
    · rw [setUpgrade_other hSame]
      exact hBarred.unsettled receipt
  · intro w hOther hActivates
    by_cases hSame : w = v
    · subst hSame
      rw [setUpgrade_self] at hActivates ⊢
      by_contra hHere
      have hNot := hBarred.others w hOther (hArgs ▸ hActivates)
      rw [hEntered hOther hActivates (by simpa using hHere)]
        at hNot
      cases hNot
    · rw [setUpgrade_other hSame] at hActivates ⊢
      exact hBarred.others w hOther hActivates

end Barred

section Steps

variable [DecidableEq κ] [DecidableEq ι]
variable {h : RunId → RunEnv} {S S' : Gateway κ ι}
variable {act : GateAct κ ι}

/- Its success, or that of a recovery, is yet to come. -/
def Unreported
    (u : ι) (act : GateAct κ ι) (S : Gateway κ ι) : Prop :=
  act ≠ .succeeds u ∧
    ∀ v, act = .clears v → (S.upgrade v).args.recover = false

theorem Guarded.barred
    {u : ι}
    (hGuarded : S.Guarded)
    (hStep : GateStep h (.activates u) S S') :
    S'.Barred u := by
  cases hStep with
  | activates _ _ receipt hPhase =>
      have hEntered : (S.upgrade u).phase.entered = true := by
        rw [hPhase]
        rfl
      constructor
      · exact hGuarded.entered u hEntered
      · intro receipt hHere
        rw [setUpgrade_self] at hHere
        cases hHere
      · intro v hOther _
        rw [setUpgrade_other hOther]
        by_contra hHere
        have hBoth : (S.upgrade v).phase.entered = true := by
          simpa using hHere
        exact hOther
          (hGuarded.sole v u
            (holds_of_owns (owns_of_entered hBoth))
            (holds_of_owns (owns_of_entered hEntered)))

theorem Barred.step
    {u : ι}
    (hBarred : S.Barred u)
    (hMet : Unreported u act S)
    (hStep : GateStep h act S S') : S'.Barred u := by
  -- a call that goes nowhere a marker could be cleared
  have hQuits : ∀ v gate call, gate.Shut →
      call.args = (S.upgrade v).args →
      call.phase.entered = false →
      (S.setUpgrade v gate call).Barred u := by
    intro v gate call hShut hArgs hOut
    apply hBarred.setUpgrade hShut hArgs
    · intro _ receipt hHere
      rw [hHere] at hOut
      cases hOut
    · intro _ _ hHere
      rw [hOut] at hHere
      cases hHere
  have hOutcome : ∀ (receipt : Option String) outcome gate,
      (writeOutcome outcome receipt).Leaves S.gate gate →
      gate.Shut :=
    fun _ _ _ hLeaves =>
      Durable.wp_leaves (keeps_writeOutcome _ _ hBarred.shut)
        hLeaves
  cases hStep with
  | locksShared _ c hPhase hFree =>
      exact ⟨hBarred.shut, hBarred.unsettled, hBarred.others⟩
  | admits _ c hPhase hOpen =>
      exact ⟨hBarred.shut, hBarred.unsettled, hBarred.others⟩
  | refuses _ c e hPhase hShut =>
      exact ⟨hBarred.shut, hBarred.unsettled, hBarred.others⟩
  | ends _ c =>
      exact ⟨hBarred.shut, hBarred.unsettled, hBarred.others⟩
  | locks _ v hPhase hFree hNone =>
      exact hQuits v _ _ hBarred.shut rfl rfl
  | prepares _ v probe again receipt hPhase hWord hOk =>
      rcases prepare_marker hOk with ⟨hMarker, hShut⟩
      apply hBarred.setUpgrade (v := v) hShut
      · rfl
      · rintro rfl receipt' ⟨⟩
      · intro _ hActivates _
        exact absurd (checkMarker_activate hActivates hMarker)
          hBarred.shut
  | abandons _ v probe again gate hPhase hLeaves =>
      exact hQuits v gate _
        (Durable.wp_leaves (keeps_prepare _ hBarred.shut)
          hLeaves) rfl rfl
  | activates _ v receipt hPhase =>
      apply hBarred.setUpgrade (v := v) hBarred.shut
      · rfl
      · rintro rfl receipt' ⟨⟩
      · intro _ _ _
        rw [hPhase]
        rfl
  | unstarted _ v receipt gate hPhase hLeaves =>
      exact hQuits v gate _ (hOutcome receipt _ gate hLeaves)
        rfl rfl
  | succeeds _ v receipt hPhase =>
      apply hBarred.setUpgrade (v := v) hBarred.shut
      · rfl
      · rintro rfl
        exact absurd rfl hMet.1
      · intro _ _ _
        rw [hPhase]
        rfl
  | fails _ v receipt outcome gate hPhase hLeaves =>
      exact hQuits v gate _
        (hOutcome receipt outcome gate hLeaves) rfl rfl
  | clears _ v receipt gate hPhase hOk hLeaves =>
      have hActivates := hMet.2 v rfl
      by_cases hSame : v = u
      · subst hSame
        exact absurd hPhase (hBarred.unsettled receipt)
      · have hNot := hBarred.others v hSame hActivates
        rw [hPhase] at hNot
        cases hNot
  | unclearable _ v receipt e gate hPhase hError hLeaves =>
      rw [conclude_error hError] at hLeaves
      exact hQuits v gate _ (hOutcome receipt _ gate hLeaves)
        rfl rfl
  | dies _ v => exact hQuits v _ _ hBarred.shut rfl rfl
  | detaches _ v =>
      apply hBarred.setUpgrade (v := v) hBarred.shut
      · rfl
      · rintro rfl
        exact hBarred.unsettled
      · exact fun _ _ hHere => hHere
  | stops _ v =>
      apply hBarred.setUpgrade (v := v) hBarred.shut
      · rfl
      · rintro rfl
        exact hBarred.unsettled
      · exact fun _ _ hHere => hHere
  | works _ root =>
      exact ⟨hBarred.shut, hBarred.unsettled, hBarred.others⟩
  | replaces _ file hThere =>
      refine ⟨?_, hBarred.unsettled, hBarred.others⟩
      intro hNone
      cases hNone

end Steps

end Gateway

------------------------------------------------------------
-- The Gate
------------------------------------------------------------

section Gate

variable {κ ι : Type} [DecidableEq κ] [DecidableEq ι]

/-
  In every state that creations and upgrades lead to: while a
  creation is admitted no activation may be running; once an
  activation has started, and until it or a recovery succeeds,
  the next creation is refused; and an upgrade that the survey
  or the acceptance refuses leaves everything as it is.
-/
theorem admission_gate
    (h : RunId → RunEnv)
    (S₀ S : Gateway κ ι)
    (hInitial : S₀.Initial)
    (hRun : Steps.Run (GateStep h) S₀ S) :
    (∀ c, S.creation c = .admitted →
      ∀ u, (S.upgrade u).alive = false) ∧
    (∀ u S₁ S₂, GateStep h (.activates u) S S₁ →
      Steps.RunWhen (GateStep h) (Gateway.Unreported u) S₁
        S₂ →
      ensureNotInhibited S₂.gate.marker =
          .error inhibitedError ∧
        ∀ c S₃, ¬ GateStep h (.admits c) S₂ S₃) ∧
    (∀ u probe again e gate,
      checkMarker (S.upgrade u).args S.gate.marker = .ok () →
      SurveyRefuses h probe (S.upgrade u).args S.gate.root e →
      (prepare h probe again (S.upgrade u).args
        (S.upgrade u).receiptId).result S.gate = .error e ∧
      ((prepare h probe again (S.upgrade u).args
        (S.upgrade u).receiptId).Leaves S.gate gate →
          gate = S.gate)) := by
  have hGuarded : S.Guarded :=
    Steps.Run.invariant
      (fun _ _ _ hStep hHere => hHere.step hStep)
      hRun hInitial.guarded
  refine ⟨?_, ?_, ?_⟩
  · exact fun c hAdmitted u => hGuarded.admitted hAdmitted u
  · intro u S₁ S₂ hStep hLater
    have hBarred : S₂.Barred u :=
      Steps.RunWhen.invariant
        (fun _ _ _ hMet hStep hHere => hHere.step hMet hStep)
        hLater (hGuarded.barred hStep)
    have hRefused := ensureNotInhibited_shut hBarred.shut
    apply And.intro hRefused
    intro c S₃ hAdmits
    cases hAdmits with
    | admits _ _ hPhase hOpen =>
        rw [hRefused] at hOpen
        cases hOpen
  · intro u probe again e gate hMarker hRefused
    constructor
    · rcases Durable.wp_fails (wp_refused hMarker hRefused)
        with ⟨e', hError, rfl, _⟩
      exact hError
    · exact refused_unchanged hMarker hRefused

end Gate

namespace Sample

def upgradeArgs : UpgradeArgs where
  recover := false
  confirmQuiescent := false
  allowLiveRuns := false
  targetStateSchema := none
  abandonStaleCreations := false
  program := "fleet-activate"

def emptyRoot : StateRoot where
  runs := []
  staging := []
  leases := fun _ => none
  abandoned := []
  receipts := []

/- One creation and one upgrade, before they begin. -/
def quietGate : Gateway Unit Unit where
  gate := ⟨none, emptyRoot⟩
  creation := fun _ => .idle
  upgrade := fun _ => {
    args := upgradeArgs
    receiptId := "first"
    phase := .idle
    alive := false
    inherited := false }

end Sample

/-
  An activation that has detached itself, and whose upgrade is
  over, holds no lock. The marker still refuses a creation.
-/
theorem detached_activation_inhibits :
    ∃ S : Gateway Unit Unit,
      (S.upgrade ()).alive = true ∧
      (S.upgrade ()).holds = false ∧
      S.creation () = .locked ∧
      ensureNotInhibited S.gate.marker =
        .error inhibitedError := by
  have hInitial : Sample.quietGate.Initial :=
    ⟨fun _ => rfl, fun _ => ⟨rfl, rfl, rfl⟩⟩
  let h : RunId → RunEnv :=
    fun run => ⟨run, fun _ => none, fun _ => none⟩
  have hStart :
      Steps.Run (GateStep h) Sample.quietGate
        Sample.quietGate := .refl
  have hLocked := hStart.next
    (.locks _ () rfl (fun _ => rfl) (fun _ => rfl))
  have hPrepared := hLocked.next
    (.prepares _ () (fun _ _ _ => false) (fun _ => .ok ()) none
      rfl (by rintro ⟨⟩) rfl)
  have hMet : ∀ (act : GateAct Unit Unit) S,
      act ≠ .succeeds () → act ≠ .clears () →
      Gateway.Unreported () act S :=
    fun _ _ hFirst hSecond =>
      ⟨hFirst, fun _ hHere => absurd hHere hSecond⟩
  have hLater := (admission_gate h _ _ hInitial hPrepared).2.1
    () _ _ (.activates _ () none rfl)
    (((Steps.RunWhen.refl.next
      (hMet (.fails ()) _ (by simp) (by simp))
      (.fails _ () none "timeout" _ rfl (.inl rfl))).next
        (hMet (.detaches ()) _ (by simp) (by simp))
        (.detaches _ ())).next
          (hMet (.locksShared ()) _ (by simp) (by simp))
          (.locksShared _ () rfl (fun _ => rfl)))
  exact ⟨_, rfl, rfl, rfl, hLater.1⟩

end Taskfleet
