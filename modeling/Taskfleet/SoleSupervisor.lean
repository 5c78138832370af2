import Mathlib.Logic.Function.Basic
import Taskfleet.PidFile
import Taskfleet.Steps

/-
  The claims of any number of supervisors on one run.

  A claim is a read and a replace of the pid file under the
  lock of the run; it asks the kernel twice about the recorded
  process, at two moments. A removal is a read and a delete
  without the lock. A supervisor removes only after a claim of
  its own went through. A process may end between any two of
  its steps, and its pid may be given away again. The pid
  file and the kernel's start identities can be read.

  Main declarations:
    * `Kernel`, `Claims`, `ClaimStep`
    * `Claims.Owns`, `Claims.Sound`
    * `one_supervisor`
-/

------------------------------------------------------------
-- Processes
------------------------------------------------------------

namespace Taskfleet

/-
  The processes there ever are. Two of them may have one pid,
  but then not one start identity.
-/
structure Kernel (P : Type) where
  pid : P → Nat
  identity : P → String
  inRange : ∀ p, toPidT (pid p) = some (pid p)
  token : ∀ p, Text.IsToken (identity p)
  unique : ∀ p q,
    pid p = pid q → identity p = identity q → p = q

/- How far a process is. -/
inductive ClaimStage where
| unborn
| idle
| locked
| found (pid : Nat) (start : RecordedStart)
| answered (pid : Nat) (start : RecordedStart)
| vacant
| created (contents : String)
| written (contents : String)
| renamed
| refused
| failed
| owner
| matched
| released
| gone

namespace ClaimStage

def live : ClaimStage → Bool
| .unborn | .gone => false
| _ => true

/- In the section of the lock. -/
def inside : ClaimStage → Bool
| .locked | .found _ _ | .answered _ _ | .vacant | .created _
| .written _ | .renamed | .refused => true
| _ => false

/- Between calls. -/
def resting : ClaimStage → Bool
| .idle | .failed | .released => true
| _ => false

/- A claim went through, and its record is not removed. -/
def holds : ClaimStage → Bool
| .renamed | .owner | .matched => true
| _ => false

/- Where a removal may begin. -/
def removing : ClaimStage → Bool
| .owner | .released => true
| _ => false

end ClaimStage

/- The processes, the lock, the pid file, the temporary files. -/
structure Claims (P : Type) where
  stage : P → ClaimStage
  lock : Option P
  file : Option String
  temps : Nat → Option String

namespace Claims

variable {P : Type}

def initial : Claims P where
  stage := fun _ => .unborn
  lock := none
  file := none
  temps := fun _ => none

def live (s : Claims P) (p : P) : Prop :=
  (s.stage p).live = true

/- A successful claim is held. -/
def Holds (s : Claims P) (p : P) : Prop :=
  (s.stage p).holds = true

def record (s : Claims P) : Option (Nat × RecordedStart) :=
  s.file.bind readPidRecord

/- The record in the file is the one of a process. -/
def Names (k : Kernel P) (s : Claims P) (p : P) : Prop :=
  ∃ start, s.record = some (k.pid p, start) ∧
    start.identity = some (k.identity p)

/- A live process whose record is in the file. -/
def Owns (k : Kernel P) (s : Claims P) (p : P) : Prop :=
  s.live p ∧ s.Names k p

/- What the kernel answers for the identity at a pid. -/
def Reads (k : Kernel P) (s : Claims P) (pid : Nat) :
    Option String → Prop
| some identity =>
    ∃ q, s.live q ∧ k.pid q = pid ∧ k.identity q = identity
| none => ∀ q, s.live q → k.pid q ≠ pid

section Updates

variable [DecidableEq P]

def goto (s : Claims P) (p : P) (stage : ClaimStage) :
    Claims P :=
  { s with stage := Function.update s.stage p stage }

def setTemp (s : Claims P) (pid : Nat) (text : Option String) :
    Claims P :=
  { s with temps := Function.update s.temps pid text }

/- The kernel lets go of the lock of a process that ends. -/
def exit (s : Claims P) (p : P) : Claims P :=
  { s.goto p .gone with
    lock := if s.lock = some p then none else s.lock }

end Updates

end Claims

------------------------------------------------------------
-- Steps
------------------------------------------------------------

/- A process begins, ends, fails in a call, or goes on. -/
inductive ClaimAct (P : Type) where
| born (p : P)
| dies (p : P)
| fails (p : P)
| acts (p : P)

def ClaimAct.process {P : Type} : ClaimAct P → P
| .born p | .dies p | .fails p | .acts p => p

open Claims in
/- One step of one process. -/
inductive ClaimStep {P : Type} [DecidableEq P] (k : Kernel P) :
    ClaimAct P → Claims P → Claims P → Prop
| born (s : Claims P) (p : P)
    (hStage : s.stage p = .unborn)
    (hFree : ∀ q, s.live q → k.pid q ≠ k.pid p) :
    ClaimStep k (.born p) s (s.goto p .idle)
| dies (s : Claims P) (p : P)
    (hLive : s.live p) :
    ClaimStep k (.dies p) s (s.exit p)
| acquire (s : Claims P) (p : P)
    (hStage : (s.stage p).resting = true)
    (hFree : s.lock = none) :
    ClaimStep k (.acts p) s
      { s.goto p .locked with lock := some p }
| acquireFails (s : Claims P) (p : P)
    (hStage : (s.stage p).resting = true) :
    ClaimStep k (.fails p) s (s.goto p .failed)
| readNone (s : Claims P) (p : P)
    (hStage : s.stage p = .locked)
    (hRecord : s.record = none) :
    ClaimStep k (.acts p) s (s.goto p .vacant)
| readSome (s : Claims P) (p : P)
    (pid : Nat) (start : RecordedStart)
    (hStage : s.stage p = .locked)
    (hRecord : s.record = some (pid, start)) :
    ClaimStep k (.acts p) s (s.goto p (.found pid start))
| dead (s : Claims P) (p : P)
    (pid : Nat) (start : RecordedStart)
    (hStage : s.stage p = .found pid start)
    (hDead : ∀ q, s.live q → k.pid q ≠ pid) :
    ClaimStep k (.acts p) s (s.goto p .vacant)
| answers (s : Claims P) (p q : P)
    (start : RecordedStart)
    (hStage : s.stage p = .found (k.pid q) start)
    (hLive : s.live q) :
    ClaimStep k (.acts p) s
      (s.goto p (.answered (k.pid q) start))
| recycled (s : Claims P) (p : P)
    (pid : Nat) (start : RecordedStart)
    (identityNow : Option String) (secsNow : Option Nat)
    (hStage : s.stage p = .answered pid start)
    (hNow : s.Reads k pid identityNow)
    (hOther :
      start.matchesPid identityNow secsNow = some false) :
    ClaimStep k (.acts p) s (s.goto p .vacant)
| same (s : Claims P) (p : P)
    (pid : Nat) (start : RecordedStart)
    (identityNow : Option String) (secsNow : Option Nat)
    (hStage : s.stage p = .answered pid start)
    (hNow : s.Reads k pid identityNow)
    (hSame :
      start.matchesPid identityNow secsNow ≠ some false) :
    ClaimStep k (.acts p) s (s.goto p .refused)
| create (s : Claims P) (p : P) (secs : Option Nat)
    (hStage : s.stage p = .vacant)
    (hSecs : ∀ n, secs = some n → n < 2 ^ 64) :
    ClaimStep k (.acts p) s
      ((s.goto p
        (.created
          (pidContents (k.pid p)
            ⟨secs, some (k.identity p)⟩))).setTemp (k.pid p)
              (some ""))
| write (s : Claims P) (p : P) (contents : String)
    (hStage : s.stage p = .created contents) :
    ClaimStep k (.acts p) s
      ((s.goto p (.written contents)).setTemp (k.pid p)
        (some contents))
| rename (s : Claims P) (p : P) (contents : String)
    (hStage : s.stage p = .written contents) :
    ClaimStep k (.acts p) s
      ({ s.goto p .renamed with
        file := s.temps (k.pid p) }.setTemp (k.pid p) none)
| writeFails (s : Claims P) (p : P)
    (hStage :
      s.stage p = .vacant ∨
        ∃ contents, s.stage p = .created contents ∨
          s.stage p = .written contents) :
    ClaimStep k (.fails p) s (s.goto p .refused)
| succeeds (s : Claims P) (p : P)
    (hStage : s.stage p = .renamed) :
    ClaimStep k (.acts p) s
      { s.goto p .owner with lock := none }
| refuses (s : Claims P) (p : P)
    (hStage : s.stage p = .refused) :
    ClaimStep k (.acts p) s
      { s.goto p .failed with lock := none }
| readsOwn (s : Claims P) (p : P)
    (hStage : (s.stage p).removing = true)
    (hOwn : s.file.bind readPid = some (k.pid p)) :
    ClaimStep k (.acts p) s (s.goto p .matched)
| readsOther (s : Claims P) (p : P)
    (hStage : (s.stage p).removing = true)
    (hOther : s.file.bind readPid ≠ some (k.pid p)) :
    ClaimStep k (.acts p) s (s.goto p .released)
| removes (s : Claims P) (p : P)
    (hStage : s.stage p = .matched) :
    ClaimStep k (.acts p) s
      { s.goto p .released with file := none }
| removeFails (s : Claims P) (p : P)
    (hStage : s.stage p = .matched) :
    ClaimStep k (.fails p) s (s.goto p .released)

------------------------------------------------------------
-- What Holds at Each Stage
------------------------------------------------------------

namespace Claims

variable {P : Type}

/- Text that is read back as the record of a process. -/
def Drafts (k : Kernel P) (p : P) (contents : String) : Prop :=
  ∃ start, readPidRecord contents = some (k.pid p, start) ∧
    start.identity = some (k.identity p)

/- Seconds and identity as they were recorded for someone. -/
def Recorded (k : Kernel P) (pid : Nat) (start : RecordedStart) :
    Prop :=
  ∃ q, k.pid q = pid ∧ start.identity = some (k.identity q)

/-
  What holds while a process is at a stage. An owner that a
  claim has read is the one that it goes on to ask about; a
  claim that found the place vacant has no live owner to fear,
  since only a claim can bring one and the lock is taken.
-/
def Fits (k : Kernel P) (s : Claims P) (p : P) :
    ClaimStage → Prop
| .unborn => ¬ s.Names k p
| .found pid start | .answered pid start =>
    ∀ q, s.Owns k q →
      k.pid q = pid ∧ start.identity = some (k.identity q)
| .vacant => ∀ q, ¬ s.Owns k q
| .created contents =>
    (∀ q, ¬ s.Owns k q) ∧ Drafts k p contents
| .written contents =>
    (∀ q, ¬ s.Owns k q) ∧ Drafts k p contents ∧
      s.temps (k.pid p) = some contents
| .renamed | .owner | .matched => s.Names k p
| .released =>
    ∀ start, s.record = some (k.pid p, start) → s.Names k p
| _ => True

/- Who is in the section is who has the lock. -/
def LockAgrees (s : Claims P) : Prop :=
  ∀ p, (s.stage p).inside = true ↔ s.lock = some p

structure Sound (k : Kernel P) (s : Claims P) : Prop where
  apart : ∀ p q, s.live p → s.live q →
    k.pid p = k.pid q → p = q
  lock : s.LockAgrees
  recorded : ∀ pid start, s.record = some (pid, start) →
    Recorded k pid start
  fits : ∀ p, s.Fits k p (s.stage p)

section Stages

variable {k : Kernel P} {s s' : Claims P} {p q : P}
variable {stage : ClaimStage}

theorem live_of_inside (hInside : stage.inside = true) :
    stage.live = true := by
  cases stage <;> first | rfl | cases hInside

theorem live_of_holds (hHolds : stage.holds = true) :
    stage.live = true := by
  cases stage <;> first | rfl | cases hHolds

theorem live_of_resting (hRests : stage.resting = true) :
    stage.live = true := by
  cases stage <;> first | rfl | cases hRests

theorem outside_of_resting (hRests : stage.resting = true) :
    stage.inside = false := by
  cases stage <;> first | rfl | cases hRests

theorem live_of_removing (hRemoves : stage.removing = true) :
    stage.live = true := by
  cases stage <;> first | rfl | cases hRemoves

theorem outside_of_removing (hRemoves : stage.removing = true) :
    stage.inside = false := by
  cases stage <;> first | rfl | cases hRemoves

/- Who has claimed owns the run. -/
theorem Sound.owns_of_holds
    (hSound : s.Sound k) (hHolds : s.Holds p) :
    s.Owns k p := by
  have hFits := hSound.fits p
  refine ⟨live_of_holds hHolds, ?_⟩
  unfold Holds at hHolds
  cases hStage : s.stage p <;> rw [hStage] at hHolds hFits <;>
    first
    | exact hFits
    | cases hHolds

/- One record names one live process. -/
theorem Sound.owner_unique
    (hSound : s.Sound k)
    (hOwns : s.Owns k p)
    (hOwns' : s.Owns k q) : p = q := by
  rcases hOwns with ⟨hLive, start, hRecord, _⟩
  rcases hOwns' with ⟨hLive', start', hRecord', _⟩
  rw [hRecord, Option.some.injEq, Prod.mk.injEq] at hRecord'
  exact hSound.apart p q hLive hLive' hRecord'.1

theorem names_congr (hFile : s'.file = s.file) :
    s'.Names k p ↔ s.Names k p := by
  unfold Names record
  rw [hFile]

/- What fits at a stage when nothing that it sees is moved. -/
theorem Fits.frame
    (hFits : s.Fits k p stage)
    (hFile : s'.file = s.file)
    (hOwns : ∀ q, s'.Owns k q → s.Owns k q)
    (hTemps : stage.live = true →
      s'.temps (k.pid p) = s.temps (k.pid p)) :
    s'.Fits k p stage := by
  have hRecord : s'.record = s.record := by
    unfold record
    rw [hFile]
  have hNone : (∀ q, ¬ s.Owns k q) → ∀ q, ¬ s'.Owns k q :=
    fun hVacant q hThere => hVacant q (hOwns q hThere)
  cases stage with
  | unborn => exact fun h => hFits ((names_congr hFile).mp h)
  | found => exact fun q h => hFits q (hOwns q h)
  | answered => exact fun q h => hFits q (hOwns q h)
  | vacant => exact hNone hFits
  | created => exact ⟨hNone hFits.1, hFits.2⟩
  | written =>
      exact ⟨hNone hFits.1, hFits.2.1,
        (hTemps rfl).trans hFits.2.2⟩
  | renamed => exact (names_congr hFile).mpr hFits
  | owner => exact (names_congr hFile).mpr hFits
  | matched => exact (names_congr hFile).mpr hFits
  | released =>
      intro start hStart
      rw [hRecord] at hStart
      exact (names_congr hFile).mpr (hFits start hStart)
  | _ => trivial

/- The lock stays where it is. -/
theorem LockAgrees.keep
    (hAgrees : s.LockAgrees)
    (hOthers : ∀ q, q ≠ p → s'.stage q = s.stage q)
    (hLock : s'.lock = s.lock)
    (hInside : (s'.stage p).inside = (s.stage p).inside) :
    s'.LockAgrees := by
  intro q
  by_cases hSame : q = p
  · rw [hSame, hInside, hLock]
    exact hAgrees p
  · rw [hOthers q hSame, hLock]
    exact hAgrees q

/- The lock goes to a process, or from it to no one. -/
theorem LockAgrees.pass
    (hAgrees : s.LockAgrees)
    (hOthers : ∀ q, q ≠ p → s'.stage q = s.stage q)
    (hBefore : ∀ q, s.lock = some q → q = p)
    (hAfter : ∀ q, s'.lock = some q → q = p)
    (hHere : (s'.stage p).inside = true ↔ s'.lock = some p) :
    s'.LockAgrees := by
  intro q
  by_cases hSame : q = p
  · rw [hSame]
    exact hHere
  · rw [hOthers q hSame]
    constructor
    · intro hInside
      exact absurd (hBefore q ((hAgrees q).mp hInside)) hSame
    · intro hLock
      exact absurd (hAfter q hLock) hSame

/- A step of one process that leaves the pid file. -/
theorem Sound.quiet
    (hSound : s.Sound k)
    (hOthers : ∀ q, q ≠ p → s'.stage q = s.stage q)
    (hFile : s'.file = s.file)
    (hLock : s'.LockAgrees)
    (hApart : s'.live p → ∀ q, q ≠ p → s.live q →
      k.pid q ≠ k.pid p)
    (hOwns : s'.Owns k p → s.Owns k p)
    (hTemps : ∀ q, q ≠ p → s.live q →
      s'.temps (k.pid q) = s.temps (k.pid q))
    (hFits : s'.Fits k p (s'.stage p)) :
    s'.Sound k := by
  have hLive : ∀ q, q ≠ p → (s'.live q ↔ s.live q) := by
    intro q hOther
    unfold live
    rw [hOthers q hOther]
  have hOwned : ∀ q, s'.Owns k q → s.Owns k q := by
    intro q hThere
    by_cases hSame : q = p
    · rw [hSame] at hThere ⊢
      exact hOwns hThere
    · exact ⟨(hLive q hSame).mp hThere.1,
        (names_congr hFile).mp hThere.2⟩
  constructor
  · intro q r hQ hR hPid
    by_cases hSame : q = p
    · by_cases hSame' : r = p
      · rw [hSame, hSame']
      · rw [hSame] at hQ hPid
        exact absurd hPid.symm
          (hApart hQ r hSame' ((hLive r hSame').mp hR))
    · by_cases hSame' : r = p
      · rw [hSame'] at hR hPid
        exact absurd hPid
          (hApart hR q hSame ((hLive q hSame).mp hQ))
      · exact hSound.apart q r ((hLive q hSame).mp hQ)
          ((hLive r hSame').mp hR) hPid
  · exact hLock
  · unfold record
    rw [hFile]
    exact hSound.recorded
  · intro q
    by_cases hSame : q = p
    · rw [hSame]
      exact hFits
    · rw [hOthers q hSame]
      apply (hSound.fits q).frame hFile hOwned
      intro hHere
      exact hTemps q hSame hHere

/- No one else has the pid of a live process. -/
theorem Sound.others
    (hSound : s.Sound k)
    (hLive : s.live p)
    (hOther : q ≠ p)
    (hThere : s.live q) : k.pid q ≠ k.pid p := by
  intro hPid
  exact hOther (hSound.apart q p hThere hLive hPid)

theorem live_of_stage
    (hStage : s.stage p = stage)
    (hLive : stage.live = true) : s.live p := by
  unfold live
  rw [hStage]
  exact hLive

/- What a capture of a process writes is read as its own. -/
theorem drafts_pidContents
    {secs : Option Nat}
    (hSecs : ∀ n, secs = some n → n < 2 ^ 64) :
    Drafts k p
      (pidContents (k.pid p) ⟨secs, some (k.identity p)⟩) := by
  refine ⟨⟨secs, some (k.identity p)⟩, ?_, rfl⟩
  apply readPidRecord_pidContents (k.inRange p) hSecs
  intro identity hIdentity
  cases hIdentity
  exact k.token p

/- A record of a process names no other. -/
theorem Names.eq
    (hNames : s.Names k p)
    (hNames' : s.Names k q) : q = p := by
  rcases hNames with ⟨start, hRecord, hIdentity⟩
  rcases hNames' with ⟨start', hRecord', hIdentity'⟩
  rw [hRecord, Option.some.injEq, Prod.mk.injEq] at hRecord'
  rcases hRecord' with ⟨hPid, hStart⟩
  rw [hStart, hIdentity', Option.some.injEq] at hIdentity
  exact k.unique q p hPid.symm hIdentity

/- A record that a process renames into place is its own. -/
theorem names_of_drafts
    {contents : String}
    (hDrafts : Drafts k p contents)
    (hFile : s.file = some contents) : s.Names k p := by
  rcases hDrafts with ⟨start, hRead, hIdentity⟩
  refine ⟨start, ?_, hIdentity⟩
  unfold record
  rw [hFile]
  exact hRead

/- What others see when a record takes a vacant place. -/
theorem Fits.taken
    (hSound : s.Sound k)
    (hVacant : ∀ r, ¬ s.Owns k r)
    (hLive : s.live p)
    (hLock : s.lock = some p)
    (hNames : s'.Names k p)
    (hOther : q ≠ p) :
    s'.Fits k q (s.stage q) := by
  have hFits := hSound.fits q
  have hOutside : (s.stage q).inside = false := by
    rw [Bool.eq_false_iff]
    intro hInside
    have hHas := (hSound.lock q).mp hInside
    rw [hLock, Option.some.injEq] at hHas
    exact hOther hHas.symm
  cases hStage : s.stage q <;> rw [hStage] at hFits hOutside
  case unborn => exact fun h => hOther (hNames.eq h)
  case owner =>
    exact absurd ⟨live_of_stage hStage rfl, hFits⟩ (hVacant q)
  case matched =>
    exact absurd ⟨live_of_stage hStage rfl, hFits⟩ (hVacant q)
  case released =>
    intro start hRecord
    rcases hNames with ⟨start', hRecord', _⟩
    rw [hRecord', Option.some.injEq, Prod.mk.injEq] at hRecord
    exact absurd hRecord.1.symm
      (hSound.others hLive hOther (live_of_stage hStage rfl))
  all_goals trivial

/- The place is taken by the one that found it vacant. -/
theorem Sound.takes
    {contents : String}
    (hSound : s.Sound k)
    (hStage : s.stage p = .written contents)
    (hHere : s'.stage p = .renamed)
    (hOthers : ∀ q, q ≠ p → s'.stage q = s.stage q)
    (hLock : s'.lock = s.lock)
    (hFile : s'.file = some contents) :
    s'.Sound k := by
  have hFits := hSound.fits p
  rw [hStage] at hFits
  rcases hFits with ⟨hVacant, hDrafts, _⟩
  have hNames := names_of_drafts hDrafts hFile
  have hAlive : s.live p := live_of_stage hStage rfl
  have hHas : s.lock = some p := by
    apply (hSound.lock p).mp
    rw [hStage]
    rfl
  have hLive : ∀ q, s'.live q → s.live q := by
    intro q hThere
    by_cases hSame : q = p
    · rw [hSame]
      exact hAlive
    · unfold live at hThere
      rw [hOthers q hSame] at hThere
      exact hThere
  constructor
  · intro q r hQ hR
    exact hSound.apart q r (hLive q hQ) (hLive r hR)
  · apply hSound.lock.keep hOthers hLock
    rw [hStage, hHere]
    rfl
  · intro pid start hRecord
    rcases hNames with ⟨start', hRecord', hIdentity⟩
    rw [hRecord', Option.some.injEq, Prod.mk.injEq] at hRecord
    exact ⟨p, hRecord.1, hRecord.2 ▸ hIdentity⟩
  · intro q
    by_cases hSame : q = p
    · rw [hSame, hHere]
      exact hNames
    · rw [hOthers q hSame]
      exact .taken hSound hVacant hAlive hHas hNames hSame

/- What others see when the only owner takes its record away. -/
theorem Fits.cleared
    (hSound : s.Sound k)
    (hOwns : s.Owns k p)
    (hNone : s'.record = none)
    (hTemps : s'.temps = s.temps)
    (hOther : q ≠ p) :
    s'.Fits k q (s.stage q) := by
  have hFits := hSound.fits q
  have hNameless : ∀ r, ¬ s'.Names k r := by
    intro r hNames
    rcases hNames with ⟨start, hRecord, _⟩
    rw [hNone] at hRecord
    cases hRecord
  have hVacant : ∀ r, ¬ s'.Owns k r :=
    fun r hThere => hNameless r hThere.2
  have hAlone : s.Names k q → ¬ s.live q := fun hNames hLive =>
    hOther (hSound.owner_unique ⟨hLive, hNames⟩ hOwns)
  cases hStage : s.stage q <;> rw [hStage] at hFits
  case unborn => exact hNameless q
  case found => exact fun r h => absurd h (hVacant r)
  case answered => exact fun r h => absurd h (hVacant r)
  case vacant => exact hVacant
  case created => exact ⟨hVacant, hFits.2⟩
  case written =>
    refine ⟨hVacant, hFits.2.1, ?_⟩
    rw [hTemps]
    exact hFits.2.2
  case renamed =>
    exact absurd (live_of_stage hStage rfl) (hAlone hFits)
  case owner =>
    exact absurd (live_of_stage hStage rfl) (hAlone hFits)
  case matched =>
    exact absurd (live_of_stage hStage rfl) (hAlone hFits)
  case released =>
    intro start hRecord
    rw [hNone] at hRecord
    cases hRecord
  all_goals trivial

/- A removal takes the record of the process that removes. -/
theorem Sound.clears
    (hSound : s.Sound k)
    (hStage : s.stage p = .matched)
    (hHere : s'.stage p = .released)
    (hOthers : ∀ q, q ≠ p → s'.stage q = s.stage q)
    (hLock : s'.lock = s.lock)
    (hFile : s'.file = none)
    (hTemps : s'.temps = s.temps) :
    s'.Sound k := by
  have hAlive : s.live p := live_of_stage hStage rfl
  have hOwns : s.Owns k p := by
    have hFits := hSound.fits p
    rw [hStage] at hFits
    exact ⟨hAlive, hFits⟩
  have hNone : s'.record = none := by
    unfold record
    rw [hFile]
    rfl
  have hLive : ∀ q, s'.live q → s.live q := by
    intro q hThere
    by_cases hSame : q = p
    · rw [hSame]
      exact hAlive
    · unfold live at hThere
      rw [hOthers q hSame] at hThere
      exact hThere
  constructor
  · intro q r hQ hR
    exact hSound.apart q r (hLive q hQ) (hLive r hR)
  · apply hSound.lock.keep hOthers hLock
    rw [hStage, hHere]
    rfl
  · intro pid start hRecord
    rw [hNone] at hRecord
    cases hRecord
  · intro q
    by_cases hSame : q = p
    · rw [hSame, hHere]
      intro start hRecord
      rw [hNone] at hRecord
      cases hRecord
    · rw [hOthers q hSame]
      exact .cleared hSound hOwns hNone hTemps hSame

/- An owner that a claim asked about is not one who left. -/
theorem vacant_of_recycled
    {pid : Nat} {start : RecordedStart}
    {identityNow : Option String} {secsNow : Option Nat}
    (hSound : s.Sound k)
    (hAsked : ∀ q, s.Owns k q →
      k.pid q = pid ∧ start.identity = some (k.identity q))
    (hNow : s.Reads k pid identityNow)
    (hOther :
      start.matchesPid identityNow secsNow = some false) :
    ∀ q, ¬ s.Owns k q := by
  intro q hOwns
  rcases hAsked q hOwns with ⟨hPid, hIdentity⟩
  cases identityNow with
  | none => exact hNow q hOwns.1 hPid
  | some identity =>
      rcases hNow with ⟨r, hLive, hSame, hRead⟩
      have hOne : r = q :=
        hSound.apart r q hLive hOwns.1 (hSame.trans hPid.symm)
      rw [hOne] at hRead
      simp [RecordedStart.matchesPid, hIdentity, hRead]
        at hOther

theorem record_of_readPid
    {pid : Nat} (hRead : s.file.bind readPid = some pid) :
    ∃ start, s.record = some (pid, start) := by
  rw [Option.bind_eq_some_iff] at hRead
  rcases hRead with ⟨text, hFile, hPid⟩
  rw [readPid_eq, Option.map_eq_some_iff] at hPid
  rcases hPid with ⟨⟨pid', start⟩, hRecord, hSame⟩
  refine ⟨start, ?_⟩
  unfold record
  rw [hFile, ← hSame]
  exact hRecord

theorem readPid_of_record
    {pid : Nat} {start : RecordedStart}
    (hRecord : s.record = some (pid, start)) :
    s.file.bind readPid = some pid := by
  unfold record at hRecord
  rw [Option.bind_eq_some_iff] at hRecord
  rcases hRecord with ⟨text, hFile, hRead⟩
  rw [hFile, Option.bind_some, readPid_eq, hRead]
  rfl

/- Who may remove and reads its own pid reads its own record. -/
theorem Sound.names_of_reads
    (hSound : s.Sound k)
    (hStage : (s.stage p).removing = true)
    (hOwn : s.file.bind readPid = some (k.pid p)) :
    s.Names k p := by
  have hFits := hSound.fits p
  cases hHere : s.stage p <;> rw [hHere] at hStage hFits
  case owner => exact hFits
  case released =>
    rcases record_of_readPid hOwn with ⟨start, hRecord⟩
    exact hFits start hRecord
  all_goals cases hStage

theorem sound_initial : (initial : Claims P).Sound k where
  apart := by
    intro p _ hLive
    cases hLive
  lock := by
    intro p
    simp [initial, ClaimStage.inside]
  recorded := by
    intro pid start hRecord
    cases hRecord
  fits := by
    intro p hNames
    rcases hNames with ⟨start, hRecord, _⟩
    cases hRecord

/- Who asks for the identity of a live process gets it. -/
theorem reads_live (hLive : s.live q) :
    s.Reads k (k.pid q) (some (k.identity q)) :=
  ⟨q, hLive, rfl, rfl⟩

end Stages

------------------------------------------------------------
-- Every Step Keeps It
------------------------------------------------------------

section Preserved

variable [DecidableEq P]
variable {k : Kernel P} {s s' : Claims P} {p q : P}
variable {stage : ClaimStage}

@[simp] theorem goto_stage_self :
    (s.goto p stage).stage p = stage := by
  simp [goto]

theorem goto_stage_ne (hOther : q ≠ p) :
    (s.goto p stage).stage q = s.stage q := by
  simp [goto, hOther]

@[simp] theorem goto_file : (s.goto p stage).file = s.file := rfl

@[simp] theorem goto_lock : (s.goto p stage).lock = s.lock := rfl

@[simp] theorem goto_temps :
    (s.goto p stage).temps = s.temps := rfl

theorem live_goto
    (hLive : stage.live = (s.stage p).live) :
    (s.goto p stage).live q ↔ s.live q := by
  unfold live
  by_cases hHere : q = p
  · rw [hHere, goto_stage_self, hLive]
  · rw [goto_stage_ne hHere]

/- Owners stay owners where life and file stay. -/
theorem owns_goto
    (hLive : stage.live = (s.stage p).live) :
    (s.goto p stage).Owns k q ↔ s.Owns k q := by
  have hSame : (s.goto p stage).live q ↔ s.live q :=
    live_goto hLive
  unfold Owns
  have hFile : (s.goto p stage).file = s.file := rfl
  rw [hSame, names_congr hFile]

/- A live process goes on and touches its own draft at most. -/
theorem Sound.moves
    {temps : Nat → Option String}
    (hSound : s.Sound k)
    (hLive : s.live p)
    (hInside : stage.inside = (s.stage p).inside)
    (hTemps : ∀ n, n ≠ k.pid p → temps n = s.temps n)
    (hFits :
      { s.goto p stage with temps := temps }.Fits k p stage) :
    { s.goto p stage with temps := temps }.Sound k := by
  apply hSound.quiet (p := p)
  · intro q hOther
    exact goto_stage_ne hOther
  · rfl
  · apply hSound.lock.keep (p := p)
    · intro q hOther
      exact goto_stage_ne hOther
    · rfl
    · rw [← hInside]
      exact congrArg ClaimStage.inside goto_stage_self
  · intro _ q hOther hThere
    exact hSound.others hLive hOther hThere
  · intro hOwns
    exact ⟨hLive, hOwns.2⟩
  · intro q hOther hThere
    exact hTemps _ (hSound.others hLive hOther hThere)
  · have hHere :
        { s.goto p stage with temps := temps }.stage p = stage :=
      goto_stage_self
    rw [hHere]
    exact hFits

/- A live process goes on and touches nothing. -/
theorem Sound.goes
    (hSound : s.Sound k)
    (hLive : s.live p)
    (hInside : stage.inside = (s.stage p).inside)
    (hAlive : stage.live = true)
    (hFits : s.Fits k p stage) :
    (s.goto p stage).Sound k := by
  have hThere : (s.goto p stage).Fits k p stage := by
    refine hFits.frame ?_ ?_ ?_
    · rfl
    · intro q hOwns
      have hSame : stage.live = (s.stage p).live :=
        hAlive.trans hLive.symm
      exact (owns_goto hSame).mp hOwns
    · intro _
      rfl
  exact hSound.moves hLive hInside (fun _ _ => rfl) hThere

/- A process takes the lock, or lets go of it. -/
theorem Sound.passes
    {lock : Option P}
    (hSound : s.Sound k)
    (hLive : s.live p)
    (hAlive : stage.live = true)
    (hBefore : ∀ q, s.lock = some q → q = p)
    (hAfter : ∀ q, lock = some q → q = p)
    (hHere : stage.inside = true ↔ lock = some p)
    (hFits : s.Fits k p stage) :
    { s.goto p stage with lock := lock }.Sound k := by
  have hLife : stage.live = (s.stage p).live :=
    hAlive.trans hLive.symm
  have hThere :
      ({ s.goto p stage with lock := lock } : Claims P).stage p =
        stage := goto_stage_self
  apply hSound.quiet (p := p)
  · intro q hOther
    exact goto_stage_ne hOther
  · rfl
  · apply hSound.lock.pass (p := p)
    · intro q hOther
      exact goto_stage_ne hOther
    · exact hBefore
    · exact hAfter
    · rw [hThere]
      exact hHere
  · intro _ q hOther hThere
    exact hSound.others hLive hOther hThere
  · intro hOwns
    exact (owns_goto hLife).mp hOwns
  · intro q _ _
    rfl
  · rw [hThere]
    refine hFits.frame ?_ ?_ ?_
    · rfl
    · intro q hOwns
      exact (owns_goto hLife).mp hOwns
    · intro _
      rfl

/- A call that ends lets go of the lock. -/
theorem Sound.releases
    (hSound : s.Sound k)
    (hInside : (s.stage p).inside = true)
    (hAlive : stage.live = true)
    (hOutside : stage.inside = false)
    (hFits : s.Fits k p stage) :
    { s.goto p stage with lock := none }.Sound k := by
  apply hSound.passes (live_of_inside hInside) hAlive
  · intro q hLock
    rw [(hSound.lock p).mp hInside, Option.some.injEq] at hLock
    exact hLock.symm
  · intro q hLock
    cases hLock
  · simp [hOutside]
  · exact hFits

theorem Sound.born
    (hSound : s.Sound k)
    (hStage : s.stage p = .unborn)
    (hFree : ∀ q, s.live q → k.pid q ≠ k.pid p) :
    (s.goto p .idle).Sound k := by
  have hUnnamed := hSound.fits p
  rw [hStage] at hUnnamed
  apply hSound.quiet (p := p)
  · intro q hOther
    exact goto_stage_ne hOther
  · rfl
  · apply hSound.lock.keep (p := p)
    · intro q hOther
      exact goto_stage_ne hOther
    · rfl
    · rw [goto_stage_self, hStage]
      rfl
  · intro _ q _ hThere
    exact hFree q hThere
  · intro hOwns
    exact absurd hOwns.2 hUnnamed
  · intro q _ _
    rfl
  · rw [goto_stage_self]
    trivial

theorem Sound.dies
    (hSound : s.Sound k)
    (hLive : s.live p) : (s.exit p).Sound k := by
  have hGone : (s.exit p).stage p = .gone := goto_stage_self
  have hOthers : ∀ q, q ≠ p → (s.exit p).stage q = s.stage q :=
    fun q hOther => goto_stage_ne hOther
  apply hSound.quiet (p := p) hOthers rfl
  · by_cases hHas : s.lock = some p
    · have hNone : (s.exit p).lock = none := by
        simp [exit, hHas]
      apply hSound.lock.pass hOthers
      · intro q hLock
        rw [hHas, Option.some.injEq] at hLock
        exact hLock.symm
      · intro q hLock
        rw [hNone] at hLock
        cases hLock
      · simp [hGone, hNone, ClaimStage.inside]
    · apply hSound.lock.keep hOthers
      · simp [exit, hHas]
      · rw [hGone]
        symm
        change (s.stage p).inside = false
        rw [Bool.eq_false_iff]
        exact fun hInside =>
          hHas ((hSound.lock p).mp hInside)
  · intro hAlive
    unfold live at hAlive
    rw [hGone] at hAlive
    cases hAlive
  · exact fun hOwns => ⟨hLive, hOwns.2⟩
  · intro q _ _
    rfl
  · rw [hGone]
    trivial

end Preserved

section Steps

variable [DecidableEq P]
variable {k : Kernel P} {s s' : Claims P}

theorem Sound.step
    {a : ClaimAct P}
    (hSound : s.Sound k)
    (hStep : ClaimStep k a s s') : s'.Sound k := by
  cases hStep with
  | born _ p hStage hFree => exact hSound.born hStage hFree
  | dies _ p hLive => exact hSound.dies hLive
  | acquire _ p hStage hFree =>
      apply hSound.passes (live_of_resting hStage) rfl
      · intro q hLock
        rw [hFree] at hLock
        cases hLock
      · intro q hLock
        cases hLock
        rfl
      · simp [ClaimStage.inside]
      · trivial
  | acquireFails _ p hStage =>
      apply hSound.goes (live_of_resting hStage)
      · exact (outside_of_resting hStage).symm
      · rfl
      · trivial
  | readNone _ p hStage hRecord =>
      apply hSound.goes (live_of_stage hStage rfl)
      · rw [hStage]
        rfl
      · rfl
      · intro q hOwns
        rcases hOwns.2 with ⟨start, hThere, _⟩
        rw [hRecord] at hThere
        cases hThere
  | readSome _ p pid start hStage hRecord =>
      apply hSound.goes (live_of_stage hStage rfl)
      · rw [hStage]
        rfl
      · rfl
      · intro q hOwns
        rcases hOwns.2 with ⟨start', hThere, hIdentity⟩
        rw [hRecord, Option.some.injEq, Prod.mk.injEq] at hThere
        exact ⟨hThere.1.symm, hThere.2 ▸ hIdentity⟩
  | dead _ p pid start hStage hDead =>
      have hFits := hSound.fits p
      rw [hStage] at hFits
      apply hSound.goes (live_of_stage hStage rfl)
      · rw [hStage]
        rfl
      · rfl
      · intro q hOwns
        exact hDead q hOwns.1 (hFits q hOwns).1
  | answers _ p q start hStage hLive =>
      have hFits := hSound.fits p
      rw [hStage] at hFits
      apply hSound.goes (live_of_stage hStage rfl)
      · rw [hStage]
        rfl
      · rfl
      · exact hFits
  | recycled _ p pid start identityNow secsNow hStage hNow
      hOther =>
      have hFits := hSound.fits p
      rw [hStage] at hFits
      apply hSound.goes (live_of_stage hStage rfl)
      · rw [hStage]
        rfl
      · rfl
      · exact vacant_of_recycled hSound hFits hNow hOther
  | same _ p pid start identityNow secsNow hStage =>
      apply hSound.goes (live_of_stage hStage rfl)
      · rw [hStage]
        rfl
      · rfl
      · trivial
  | create _ p secs hStage hSecs =>
      have hFits := hSound.fits p
      rw [hStage] at hFits
      apply hSound.moves (live_of_stage hStage rfl)
      · rw [hStage]
        rfl
      · intro n hOther
        exact Function.update_of_ne hOther _ _
      · refine ⟨?_, drafts_pidContents hSecs⟩
        intro q hOwns
        apply hFits q
        exact (owns_goto (by rw [hStage]; rfl)).mp hOwns
  | write _ p contents hStage =>
      have hFits := hSound.fits p
      rw [hStage] at hFits
      apply hSound.moves (live_of_stage hStage rfl)
      · rw [hStage]
        rfl
      · intro n hOther
        exact Function.update_of_ne hOther _ _
      · refine ⟨?_, hFits.2, Function.update_self _ _ _⟩
        intro q hOwns
        apply hFits.1 q
        exact (owns_goto (by rw [hStage]; rfl)).mp hOwns
  | rename _ p contents hStage =>
      have hFits := hSound.fits p
      rw [hStage] at hFits
      refine hSound.takes hStage ?_ ?_ ?_ ?_
      · exact goto_stage_self
      · intro q hOther
        exact goto_stage_ne hOther
      · rfl
      · exact hFits.2.2
  | writeFails _ p hStage =>
      have hInside : (s.stage p).inside = true := by
        rcases hStage with hStage | ⟨_, hStage | hStage⟩ <;>
          rw [hStage] <;> rfl
      apply hSound.goes (live_of_inside hInside)
      · exact hInside.symm
      · rfl
      · trivial
  | succeeds _ p hStage =>
      have hFits := hSound.fits p
      rw [hStage] at hFits
      apply hSound.releases (by rw [hStage]; rfl) rfl rfl
      exact hFits
  | refuses _ p hStage =>
      apply hSound.releases (by rw [hStage]; rfl) rfl rfl
      trivial
  | readsOwn _ p hStage hOwn =>
      apply hSound.goes (live_of_removing hStage)
      · exact (outside_of_removing hStage).symm
      · rfl
      · exact hSound.names_of_reads hStage hOwn
  | readsOther _ p hStage hOther =>
      apply hSound.goes (live_of_removing hStage)
      · exact (outside_of_removing hStage).symm
      · rfl
      · intro start hRecord
        exact absurd (readPid_of_record hRecord) hOther
  | removes _ p hStage =>
      refine hSound.clears hStage ?_ ?_ ?_ ?_ ?_
      · exact goto_stage_self
      · intro q hOther
        exact goto_stage_ne hOther
      · rfl
      · rfl
      · rfl
  | removeFails _ p hStage =>
      have hFits := hSound.fits p
      rw [hStage] at hFits
      apply hSound.goes (live_of_stage hStage rfl)
      · rw [hStage]
        rfl
      · rfl
      · intro _ _
        exact hFits

/- What a step of a process does to the pid file. -/
inductive Touches
    (k : Kernel P) (s : Claims P) (p : P) (s' : Claims P) :
    Prop
| keeps
    (hFile : s'.file = s.file)
    (hHolds : s'.Holds p → s.Holds p ∨
      (s.stage p).removing = true ∧
        s.file.bind readPid = some (k.pid p))
| takes (contents : String)
    (hStage : s.stage p = .written contents)
| clears
    (hStage : s.stage p = .matched)

theorem stage_of_step
    {a : ClaimAct P} {q : P}
    (hStep : ClaimStep k a s s')
    (hOther : q ≠ a.process) : s'.stage q = s.stage q := by
  cases hStep <;> exact goto_stage_ne hOther

theorem touches_of_step
    {a : ClaimAct P}
    (hStep : ClaimStep k a s s') :
    Touches k s a.process s' := by
  cases hStep with
  | rename _ p contents hStage => exact .takes contents hStage
  | removes _ p hStage => exact .clears hStage
  | succeeds _ p hStage =>
      refine .keeps rfl fun _ => .inl ?_
      change (s.stage p).holds = true
      rw [hStage]
      rfl
  | readsOwn _ p hStage hOwn =>
      exact .keeps rfl fun _ => .inr ⟨hStage, hOwn⟩
  | _ =>
      refine .keeps rfl fun hHolds => ?_
      simp [Holds, goto, exit, setTemp, ClaimAct.process,
        ClaimStage.holds] at hHolds

/- A step of another process leaves an owner, and no other. -/
theorem Sound.keeps_owner
    {a : ClaimAct P} {q : P}
    (hSound : s.Sound k)
    (hStep : ClaimStep k a s s')
    (hOwns : s.Owns k q)
    (hOther : a.process ≠ q) :
    s'.Owns k q ∧ ∀ r, s'.Holds r → s.Holds r := by
  cases touches_of_step hStep with
  | takes contents hStage =>
      have hFits := hSound.fits a.process
      rw [hStage] at hFits
      exact absurd hOwns (hFits.1 q)
  | clears hStage =>
      have hFits := hSound.fits a.process
      rw [hStage] at hFits
      exact absurd
        (hSound.owner_unique ⟨live_of_stage hStage rfl, hFits⟩
          hOwns) hOther
  | keeps hFile hHolds =>
      constructor
      · constructor
        · unfold live
          rw [stage_of_step hStep (Ne.symm hOther)]
          exact hOwns.1
        · exact (names_congr hFile).mpr hOwns.2
      · intro r hThere
        by_cases hSame : r = a.process
        · rw [hSame] at hThere ⊢
          rcases hHolds hThere with hHeld | ⟨hStage, hOwn⟩
          · exact hHeld
          · have hNames := hSound.names_of_reads hStage hOwn
            exact absurd
              (hSound.owner_unique
                ⟨live_of_removing hStage, hNames⟩ hOwns) hOther
        · unfold Holds at hThere ⊢
          rw [stage_of_step hStep hSame] at hThere
          exact hThere

end Steps

------------------------------------------------------------
-- Claims Go Through
------------------------------------------------------------

section Through

variable [DecidableEq P]
variable {k : Kernel P} {s s' s'' : Claims P} {p q : P}

/- No process begins, ends or fails. -/
def Goes (k : Kernel P) : Claims P → Claims P → Prop :=
  Steps.RunWhen (ClaimStep k) (fun a _ => ∃ q, a = .acts q)

theorem Goes.first
    (hStep : ClaimStep k (.acts p) s s')
    (hRest : Goes k s' s'') : Goes k s s'' :=
  (Steps.RunWhen.refl.next ⟨p, rfl⟩ hStep).trans hRest

/- The process gets its claim through. -/
def Wins (k : Kernel P) (s : Claims P) (p : P) : Prop :=
  ∃ s', Goes k s s' ∧ s'.stage p = .owner

theorem Wins.first
    (hStep : ClaimStep k (.acts q) s s')
    (hWins : s'.Wins k p) : s.Wins k p := by
  rcases hWins with ⟨s'', hRest, hOwner⟩
  exact ⟨s'', hRest.first hStep, hOwner⟩

theorem wins_of_written
    {contents : String} (hStage : s.stage p = .written contents) :
    s.Wins k p := by
  apply Wins.first (.rename s p contents hStage)
  refine Wins.first (.succeeds _ p ?_) ⟨_, .refl, ?_⟩
  · exact goto_stage_self
  · exact goto_stage_self

theorem wins_of_created
    {contents : String} (hStage : s.stage p = .created contents) :
    s.Wins k p := by
  apply Wins.first (.write s p contents hStage)
  exact wins_of_written goto_stage_self

theorem wins_of_vacant (hStage : s.stage p = .vacant) :
    s.Wins k p := by
  apply Wins.first (.create s p none hStage (by simp))
  exact wins_of_created goto_stage_self

/- A process that has the pid of the record and is not its own. -/
theorem wins_of_reused
    {start : RecordedStart}
    (hStage : s.stage p = .found (k.pid q) start)
    (hLive : s.live q)
    (hOther :
      start.matchesPid (some (k.identity q)) none = some false) :
    s.Wins k p := by
  have hLife :
      (ClaimStage.answered (k.pid q) start).live =
        (s.stage p).live := by
    rw [hStage]
    rfl
  apply Wins.first (.answers s p q start hStage hLive)
  apply Wins.first
    (.recycled _ p (k.pid q) start (some (k.identity q)) none
      goto_stage_self (reads_live ((live_goto hLife).mpr hLive))
      hOther)
  exact wins_of_vacant goto_stage_self

/- The recorded process is gone: its pid is free or reused. -/
theorem wins_of_locked
    (hSound : s.Sound k)
    (hNone : ∀ q, ¬ s.Owns k q)
    (hStage : s.stage p = .locked) : s.Wins k p := by
  cases hRecord : s.record with
  | none =>
      apply Wins.first (.readNone s p hStage hRecord)
      exact wins_of_vacant goto_stage_self
  | some found =>
      rcases found with ⟨pid, start⟩
      apply Wins.first (.readSome s p pid start hStage hRecord)
      have hLife :
          (ClaimStage.found pid start).live =
            (s.stage p).live := by
        rw [hStage]
        rfl
      by_cases hReused : ∃ q, s.live q ∧ k.pid q = pid
      · rcases hReused with ⟨q, hLive, rfl⟩
        apply wins_of_reused goto_stage_self
          ((live_goto hLife).mpr hLive)
        rcases hSound.recorded _ _ hRecord with
          ⟨q₀, _, hIdentity⟩
        have hOther : k.identity q ≠ k.identity q₀ := by
          intro hSame
          rw [← hSame] at hIdentity
          exact hNone q ⟨hLive, start, hRecord, hIdentity⟩
        simp [RecordedStart.matchesPid, hIdentity, hOther]
      · refine Wins.first (.dead _ p pid start ?_ ?_) ?_
        · exact goto_stage_self
        · intro q hLive hPid
          exact hReused ⟨q, (live_goto hLife).mp hLive, hPid⟩
        · exact wins_of_vacant goto_stage_self

/- A claim that begins with the lock free goes through. -/
theorem wins_of_resting
    (hSound : s.Sound k)
    (hNone : ∀ q, ¬ s.Owns k q)
    (hRests : (s.stage p).resting = true)
    (hFree : s.lock = none) : s.Wins k p := by
  have hStep := ClaimStep.acquire (k := k) s p hRests hFree
  have hLife :
      ClaimStage.locked.live = (s.stage p).live :=
    (live_of_resting hRests).symm
  refine Wins.first hStep
    (wins_of_locked (hSound.step hStep) ?_ ?_)
  · intro q hOwns
    exact hNone q ((owns_goto hLife).mp hOwns)
  · exact goto_stage_self

/- A refusal lets go of the lock. -/
theorem wins_of_refused
    (hSound : s.Sound k)
    (hNone : ∀ q, ¬ s.Owns k q)
    (hRests : (s.stage p).resting = true)
    (hStage : s.stage q = .refused) : s.Wins k p := by
  have hStep := ClaimStep.refuses (k := k) s q hStage
  have hLife : ClaimStage.failed.live = (s.stage q).live := by
    rw [hStage]
    rfl
  have hOther : p ≠ q := by
    intro hSame
    rw [hSame, hStage] at hRests
    cases hRests
  refine Wins.first hStep
    (wins_of_resting (hSound.step hStep) ?_ ?_ rfl)
  · intro r hOwns
    exact hNone r ((owns_goto hLife).mp hOwns)
  · change ((s.goto q .failed).stage p).resting = true
    rw [goto_stage_ne hOther]
    exact hRests

/- A claim that has its answer goes through or makes way. -/
theorem wins_of_answered
    {pid : Nat} {start : RecordedStart}
    (hSound : s.Sound k)
    (hNone : ∀ q, ¬ s.Owns k q)
    (hRests : (s.stage p).resting = true)
    (hStage : s.stage q = .answered pid start) :
    s.Wins k q ∨ s.Wins k p := by
  have hNow : ∃ identityNow, s.Reads k pid identityNow := by
    by_cases hReused : ∃ r, s.live r ∧ k.pid r = pid
    · rcases hReused with ⟨r, hLive, rfl⟩
      exact ⟨_, reads_live hLive⟩
    · refine ⟨none, ?_⟩
      exact fun r hLive hPid => hReused ⟨r, hLive, hPid⟩
  rcases hNow with ⟨identityNow, hNow⟩
  by_cases hOther :
      start.matchesPid identityNow none = some false
  · left
    apply Wins.first
      (.recycled s q pid start identityNow none hStage hNow hOther)
    exact wins_of_vacant goto_stage_self
  · right
    have hStep :=
      ClaimStep.same s q pid start identityNow none hStage hNow
        hOther
    have hLife : ClaimStage.refused.live = (s.stage q).live := by
      rw [hStage]
      rfl
    have hApart : p ≠ q := by
      intro hSame
      rw [hSame, hStage] at hRests
      cases hRests
    apply Wins.first hStep
    refine wins_of_refused (hSound.step hStep) ?_ ?_
      goto_stage_self
    · intro r hOwns
      exact hNone r ((owns_goto hLife).mp hOwns)
    · rw [goto_stage_ne hApart]
      exact hRests

theorem wins_of_found
    {pid : Nat} {start : RecordedStart}
    (hSound : s.Sound k)
    (hNone : ∀ q, ¬ s.Owns k q)
    (hRests : (s.stage p).resting = true)
    (hStage : s.stage q = .found pid start) :
    s.Wins k q ∨ s.Wins k p := by
  have hApart : p ≠ q := by
    intro hSame
    rw [hSame, hStage] at hRests
    cases hRests
  by_cases hReused : ∃ r, s.live r ∧ k.pid r = pid
  · rcases hReused with ⟨r, hLive, rfl⟩
    have hStep := ClaimStep.answers s q r start hStage hLive
    have hLife :
        (ClaimStage.answered (k.pid r) start).live =
          (s.stage q).live := by
      rw [hStage]
      rfl
    have hLater :
        (s.goto q (.answered (k.pid r) start)).Wins k q ∨
          (s.goto q (.answered (k.pid r) start)).Wins k p := by
      apply wins_of_answered (hSound.step hStep) ?_ ?_
        goto_stage_self
      · intro r' hOwns
        exact hNone r' ((owns_goto hLife).mp hOwns)
      · rw [goto_stage_ne hApart]
        exact hRests
    rcases hLater with hWins | hWins
    · exact .inl (.first hStep hWins)
    · exact .inr (.first hStep hWins)
  · left
    refine Wins.first (.dead s q pid start hStage ?_)
      (wins_of_vacant goto_stage_self)
    exact fun r hLive hPid => hReused ⟨r, hLive, hPid⟩

/- Where no live process owns the run, a claim goes through. -/
theorem Sound.wins
    (hSound : s.Sound k)
    (hNone : ∀ q, ¬ s.Owns k q)
    (hRests : (s.stage p).resting = true) :
    ∃ q, s.Wins k q ∧ (s.lock = none → q = p) := by
  cases hLock : s.lock with
  | none =>
      exact ⟨p, wins_of_resting hSound hNone hRests hLock,
        fun _ => rfl⟩
  | some q =>
      have hInside := (hSound.lock q).mpr hLock
      have hWins : s.Wins k q ∨ s.Wins k p := by
        cases hStage : s.stage q <;> rw [hStage] at hInside
        case locked =>
          exact .inl (wins_of_locked hSound hNone hStage)
        case found =>
          exact wins_of_found hSound hNone hRests hStage
        case answered =>
          exact wins_of_answered hSound hNone hRests hStage
        case vacant => exact .inl (wins_of_vacant hStage)
        case created => exact .inl (wins_of_created hStage)
        case written => exact .inl (wins_of_written hStage)
        case renamed =>
          have hHolds : s.Holds q := by
            unfold Holds
            rw [hStage]
            rfl
          exact absurd (hSound.owns_of_holds hHolds) (hNone q)
        case refused =>
          exact .inr
            (wins_of_refused hSound hNone hRests hStage)
        all_goals cases hInside
      rcases hWins with hWins | hWins
      · exact ⟨q, hWins, fun hFree => by cases hFree⟩
      · exact ⟨p, hWins, fun _ => rfl⟩

end Through

end Claims

------------------------------------------------------------
-- One Supervisor
------------------------------------------------------------

open Claims in
/-
  In every run of claims, removals, ends of processes and pids
  given away again: one live process holds a claim at most; no
  one but the process of the record takes a live one's record
  away, and no claim succeeds beside it; and where no live
  process owns the run, a process between calls gets a claim
  through, or the one that is at it does.
-/
theorem one_supervisor
    {P : Type} [DecidableEq P]
    (k : Kernel P)
    (s : Claims P)
    (hRun : Steps.Run (ClaimStep k) Claims.initial s) :
    (∀ p q, s.Holds p → s.Holds q → p = q) ∧
      (∀ a q s', s.Owns k q → a.process ≠ q →
        ClaimStep k a s s' →
          s'.Owns k q ∧ ∀ r, s'.Holds r → s.Holds r) ∧
      ∀ p, (s.stage p).resting = true →
        (∀ q, ¬ s.Owns k q) →
          ∃ q, s.Wins k q ∧ (s.lock = none → q = p) := by
  have hSound : s.Sound k :=
    Steps.Run.invariant (I := Sound k)
      (fun _ _ _ hStep hHere => hHere.step hStep) hRun
      sound_initial
  refine ⟨?_, ?_, ?_⟩
  · intro p q hHolds hHolds'
    exact hSound.owner_unique (hSound.owns_of_holds hHolds)
      (hSound.owns_of_holds hHolds')
  · intro a q s' hOwns hOther hStep
    exact hSound.keeps_owner hStep hOwns hOther
  · intro p hRests hNone
    exact hSound.wins hNone hRests

namespace Sample

/- Two processes that get one pid after each other. -/
def twoProcesses : Kernel Bool where
  pid := fun _ => 7
  identity := fun second => if second then "linux:2" else "linux:1"
  inRange := fun _ => rfl
  token := by
    intro second
    cases second <;>
      exact Text.isToken_of_all (by decide) rfl
  unique := by
    intro p q _ hIdentity
    revert hIdentity
    revert p q
    decide

/- What the first one records of itself. -/
def firstStart : RecordedStart := ⟨none, some "linux:1"⟩

end Sample

/-
  A supervisor claims and is killed, and its pid goes to the
  next one. The record is found to be of another process.
-/
theorem recycled_pid_claims :
    ∃ s : Claims Bool,
      s.record = some (7, Sample.firstStart) ∧
        s.stage false = .gone ∧ s.stage true = .idle ∧
          s.Wins Sample.twoProcesses true := by
  have h₀ :
      Steps.Run (ClaimStep Sample.twoProcesses)
        Claims.initial Claims.initial := .refl
  have h₁ := h₀.next (.born _ false rfl (fun _ h => by cases h))
  have h₂ := h₁.next (.acquire _ false rfl rfl)
  have h₃ := h₂.next (.readNone _ false rfl rfl)
  have h₄ := h₃.next (.create _ false none rfl (by simp))
  have h₅ := h₄.next (.write _ false _ rfl)
  have h₆ := h₅.next (.rename _ false _ rfl)
  have h₇ := h₆.next (.succeeds _ false rfl)
  have h₈ := h₇.next (.dies _ false rfl)
  have h₉ := h₈.next
    (.born _ true rfl
      (fun q h => by cases q <;> cases h))
  have hRecord :
      readPidRecord (pidContents 7 Sample.firstStart) =
        some (7, Sample.firstStart) := by
    decide +kernel
  rcases (one_supervisor Sample.twoProcesses _ h₉).2.2 true rfl
      (by
        intro q hOwns
        rcases hOwns with ⟨hLive, start, hThere, hIdentity⟩
        have hSame : start = Sample.firstStart :=
          congrArg Prod.snd
            (Option.some.inj (hThere.symm.trans hRecord))
        cases q with
        | false => cases hLive
        | true =>
            rw [hSame] at hIdentity
            exact absurd hIdentity (by decide))
    with ⟨q, hWins, hFree⟩
  have hSecond : q = true := hFree rfl
  subst hSecond
  refine ⟨_, ?_, ?_, ?_, hWins⟩
  · exact hRecord
  · rfl
  · rfl

end Taskfleet
