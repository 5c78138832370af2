import Taskfleet.KeyedCreation
import Taskfleet.Steps

/-
  A run that is built in private by its creator, while the
  launcher shim of its worker waits for the run to appear in
  public.

  The creator publishes with one rename. The shim polls for
  the published node, and records the exit of the worker by
  the generic append, which makes whatever directory is
  missing.

  Main declarations:
    * `RunDir`, `Launch`, `LaunchStep`
    * `Launch.Bounded`, `Launch.Sound`
    * `publication_boundary`, `spawn_failure_publishes`
-/

------------------------------------------------------------
-- Directories
------------------------------------------------------------

namespace Taskfleet

open Fallible

/- A run directory: whether it has a lock file, and the rest. -/
structure RunDir where
  lock : Bool
  disk : Disk

namespace RunDir

def empty : RunDir where
  lock := false
  disk := Disk.empty

/- The manifest and the first node are there. -/
def Whole (dir : RunDir) : Prop :=
  dir.disk.manifest ≠ none ∧
    dir.disk.nodes.lookup .first ≠ none

end RunDir

/- How a process ended. -/
inductive ExitStatus where
| code (n : Int)
| signal (n : Int)

def spawnFailureExitCode : Int := 127

def ExitStatus.data (attempt : Nat) : ExitStatus → Json
| .code n =>
    .obj [("attempt", .int attempt), ("exit_code", .int n)]
| .signal n =>
    .obj [("attempt", .int attempt), ("signal", .int n)]

def exitRequest (now : Time) (data : Json) : Request where
  now := now
  kind := .workerExited
  nodeId := some .first
  key := none
  data := data

------------------------------------------------------------
-- Creator and Shim
------------------------------------------------------------

inductive CreatePhase where
| start
| staged
| created
| launched
| verified
| built
| published
| failed
deriving DecidableEq, Repr

/-
  Where the shim is. Before `waiting` it has no worker, and
  from `recording` on it records the exit.
-/
inductive ShimPhase where
| idle
| starting
| waiting
| running
| recording (data : Json)
| opening (data : Json)
| appending (data : Json)
| ended

namespace ShimPhase

/- The shim has no more to wait for. -/
def past : ShimPhase → Bool
| .running | .recording _ | .opening _ | .appending _ => true
| _ => false

end ShimPhase

/-
  One creation: the staging directory, the public directory,
  both processes, and whether the worker has shown its pid.
-/
structure Launch where
  staging : Option RunDir
  run : Option RunDir
  creator : CreatePhase
  shim : ShimPhase
  handshake : Bool

def Launch.start : Launch where
  staging := none
  run := none
  creator := .start
  shim := .idle
  handshake := false

inductive LaunchAct where
| stage
| create
| launch
| verify
| build
| publish
| publishFails
| creatorStops
| spawnFails
| spawns
| shakes
| givesUp
| sees
| exits
| makesDir
| takesLock
| appends
| shimStops
deriving DecidableEq, Repr

/- The steps of the shim and of its worker. -/
def LaunchAct.isShim : LaunchAct → Bool
| .stage | .create | .launch | .verify | .build | .publish
| .publishFails | .creatorStops => false
| _ => true

/-
  One step of either process. The creator goes on only with a
  worker that has shown its pid; it may fail or die at any
  point before it publishes, and leaves anything in staging.
  A rename onto a directory that is not empty fails.
-/
inductive LaunchStep (env : RunEnv) (a : NativeArgs) :
    LaunchAct → Launch → Launch → Prop where
| stage (S : Launch)
    (hPhase : S.creator = .start) :
    LaunchStep env a .stage S
      { S with
        staging := some RunDir.empty
        creator := .staged }
| create (S : Launch) (dir : RunDir) (now : Time)
    (answer : AppendResult)
    (hPhase : S.creator = .staged)
    (hStaging : S.staging = some dir)
    (hOk :
      (appendAndApplyEvent env (a.createdRequest now)).result
        dir.disk = .ok answer) :
    LaunchStep env a .create S
      { S with
        staging := some {
          lock := true
          disk :=
            (appendAndApplyEvent env
              (a.createdRequest now)).final dir.disk }
        creator := .created }
| launch (S : Launch)
    (hPhase : S.creator = .created) :
    LaunchStep env a .launch S
      { S with creator := .launched, shim := .starting }
| verify (S : Launch)
    (hPhase : S.creator = .launched)
    (hShown : S.handshake = true) :
    LaunchStep env a .verify S { S with creator := .verified }
| build (S : Launch) (dir : RunDir) (now : Time) (data : Json)
    (answer : AppendResult)
    (hPhase : S.creator = .verified)
    (hStaging : S.staging = some dir)
    (hOk :
      (appendAndApplyEvent env (nodeRequest now data)).result
        dir.disk = .ok answer) :
    LaunchStep env a .build S
      { S with
        staging := some {
          lock := true
          disk :=
            (appendAndApplyEvent env
              (nodeRequest now data)).final dir.disk }
        creator := .built }
| publish (S : Launch) (dir : RunDir)
    (hPhase : S.creator = .built)
    (hStaging : S.staging = some dir)
    (hRoom : S.run = none ∨ S.run = some RunDir.empty) :
    LaunchStep env a .publish S
      { S with
        staging := none
        run := some dir
        creator := .published }
| publishFails (S : Launch) (left : Option RunDir)
    (hPhase : S.creator = .built)
    (hRoom : S.run ≠ none) :
    LaunchStep env a .publishFails S
      { S with staging := left, creator := .failed }
| creatorStops (S : Launch) (left : Option RunDir)
    (hPhase : S.creator ≠ .published) :
    LaunchStep env a .creatorStops S
      { S with staging := left, creator := .failed }
-- the shim
| spawnFails (S : Launch)
    (hPhase : S.shim = .starting) :
    LaunchStep env a .spawnFails S
      { S with
        shim := .recording
          ((ExitStatus.code spawnFailureExitCode).data 0) }
| spawns (S : Launch)
    (hPhase : S.shim = .starting) :
    LaunchStep env a .spawns S { S with shim := .waiting }
| shakes (S : Launch)
    (hPhase : S.shim = .waiting) :
    LaunchStep env a .shakes S { S with handshake := true }
| givesUp (S : Launch)
    (hPhase : S.shim = .waiting) :
    LaunchStep env a .givesUp S { S with shim := .ended }
| sees (S : Launch) (dir : RunDir)
    (hPhase : S.shim = .waiting)
    (hRun : S.run = some dir)
    (hWhole : dir.Whole) :
    LaunchStep env a .sees S { S with shim := .running }
| exits (S : Launch) (status : ExitStatus)
    (hPhase : S.shim = .running) :
    LaunchStep env a .exits S
      { S with shim := .recording (status.data 0) }
| makesDir (S : Launch) (data : Json)
    (hPhase : S.shim = .recording data) :
    LaunchStep env a .makesDir S
      { S with
        run := some (S.run.getD RunDir.empty)
        shim := .opening data }
| takesLock (S : Launch) (data : Json) (dir : RunDir)
    (hPhase : S.shim = .opening data)
    (hRun : S.run = some dir) :
    LaunchStep env a .takesLock S
      { S with
        run := some { dir with lock := true }
        shim := .appending data }
| appends (S : Launch) (data : Json) (now : Time)
    (dir : RunDir) (d : Disk)
    (hPhase : S.shim = .appending data)
    (hRun : S.run = some dir)
    (hLeaves :
      (appendAndApplyEvent env (exitRequest now data)).Leaves
        dir.disk d) :
    LaunchStep env a .appends S
      { S with
        run := some { dir with disk := d }
        shim := .ended }
| shimStops (S : Launch)
    (hPhase : S.shim ≠ .idle) :
    LaunchStep env a .shimStops S { S with shim := .ended }

------------------------------------------------------------
-- The Boundary
------------------------------------------------------------

namespace Launch

/-
  What the boundary asks of a step: the public directory
  appears by the rename of a whole staging directory alone,
  the shim does nothing to it before, and nothing is in the
  way of the rename.
-/
structure Bounded
    (act : LaunchAct) (S S' : Launch) : Prop where
  renamed : S.run = none → S'.run ≠ none →
    act = .publish ∧ ∃ dir, S.staging = some dir ∧
      dir.Whole ∧ S'.run = some dir
  shim : act.isShim = true → S.run = none → S'.run = none
  free : S.creator = .built → S.run = none

/- The worker fails to start only once the run is public. -/
def StartsWorker (act : LaunchAct) (S : Launch) : Prop :=
  act = .spawnFails → S.run ≠ none

structure Sound (env : RunEnv) (a : NativeArgs) (S : Launch) :
    Prop where
  shown : S.run ≠ none → S.creator = .published
  past : S.shim.past = true → S.run ≠ none
  staged : S.creator = .staged → S.staging = some RunDir.empty
  created : S.creator = .created ∨ S.creator = .launched ∨
      S.creator = .verified →
    ∃ dir, S.staging = some dir ∧
      Housed env a.parent dir.disk
  built : S.creator = .built →
    ∃ dir, S.staging = some dir ∧ dir.Whole

section Steps

variable {env : RunEnv} {a : NativeArgs} {S S' : Launch}
variable {act : LaunchAct}

theorem Sound.start : Launch.start.Sound env a := by
  constructor
  · intro hSome
    exact absurd rfl hSome
  · intro hPast
    cases hPast
  · intro hPhase
    cases hPhase
  · rintro (hPhase | hPhase | hPhase)
    · cases hPhase
    · cases hPhase
    · cases hPhase
  · intro hPhase
    cases hPhase

/- A creation of the first node leaves it in its file. -/
theorem whole_of_built
    {dir : RunDir} {now : Time} {data : Json}
    {answer : AppendResult}
    (hHoused : Housed env a.parent dir.disk)
    (hOk :
      (appendAndApplyEvent env (nodeRequest now data)).result
        dir.disk = .ok answer) :
    RunDir.Whole {
      lock := true
      disk :=
        (appendAndApplyEvent env
          (nodeRequest now data)).final dir.disk } := by
  have hRun :=
    (kept_backed env).wp_event
      (r := nodeRequest now data) rfl
      (fun s ops hBacked hAbreast hPlan =>
        hBacked.log hAbreast.1 hAbreast.2 rfl hPlan)
      hHoused.backed
  rcases Durable.wp_ok hRun hOk with
    ⟨hBacked, hAbreast, seq, hMem⟩
  have hApplied := hAbreast.2 _ hMem rfl
  rcases hBacked.counted _ hMem rfl hApplied with
    ⟨⟨id, hId, hNode⟩, m, hManifest, _⟩
  cases hId
  refine ⟨?_, hNode⟩
  simp [hManifest]

theorem Sound.step
    (hSound : S.Sound env a)
    (hMet : StartsWorker act S)
    (hStep : LaunchStep env a act S S') : S'.Sound env a := by
  rcases hSound with
    ⟨hShown, hPast, hStaged, hCreated, hBuilt⟩
  -- a creator that has not published has no public run
  have hHidden : S.creator ≠ .published → S.run = none := by
    intro hNot
    by_contra hSome
    exact hNot (hShown hSome)
  cases hStep with
  | stage _ hPhase =>
      have hNone : S.run = none :=
        hHidden (by rw [hPhase]; decide)
      exact ⟨fun hSome => absurd hNone hSome, hPast,
        fun _ => rfl, by simp, by simp⟩
  | create _ dir now answer hPhase hStaging hOk =>
      have hNone : S.run = none :=
        hHidden (by rw [hPhase]; decide)
      have hEmpty := hStaged hPhase
      rw [hStaging, Option.some.injEq] at hEmpty
      subst hEmpty
      exact ⟨fun hSome => absurd hNone hSome, hPast, by simp,
        fun _ => ⟨_, rfl, NativeArgs.housed hOk⟩, by simp⟩
  | launch _ hPhase =>
      have hNone : S.run = none :=
        hHidden (by rw [hPhase]; decide)
      exact ⟨fun hSome => absurd hNone hSome,
        by simp [ShimPhase.past], by simp,
        fun _ => hCreated (.inl hPhase), by simp⟩
  | verify _ hPhase hShownPid =>
      have hNone : S.run = none :=
        hHidden (by rw [hPhase]; decide)
      exact ⟨fun hSome => absurd hNone hSome, hPast, by simp,
        fun _ => hCreated (.inr (.inl hPhase)), by simp⟩
  | build _ dir now data answer hPhase hStaging hOk =>
      have hNone : S.run = none :=
        hHidden (by rw [hPhase]; decide)
      rcases hCreated (.inr (.inr hPhase)) with
        ⟨dir', hStaging', hHoused⟩
      rw [hStaging, Option.some.injEq] at hStaging'
      subst hStaging'
      exact ⟨fun hSome => absurd hNone hSome, hPast, by simp,
        by simp, fun _ => ⟨_, rfl, whole_of_built hHoused hOk⟩⟩
  | publish _ dir hPhase hStaging hRoom =>
      exact ⟨fun _ => rfl, fun _ => by simp, by simp, by simp,
        by simp⟩
  | publishFails _ left hPhase hRoom =>
      have hNone : S.run = none :=
        hHidden (by rw [hPhase]; decide)
      exact absurd hNone hRoom
  | creatorStops _ left hPhase =>
      have hNone := hHidden hPhase
      exact ⟨fun hSome => absurd hNone hSome, hPast, by simp,
        by simp, by simp⟩
  | spawnFails _ hPhase =>
      exact ⟨hShown, fun _ => hMet rfl, hStaged, hCreated,
        hBuilt⟩
  | spawns _ hPhase =>
      exact ⟨hShown, by simp [ShimPhase.past], hStaged,
        hCreated, hBuilt⟩
  | shakes _ hPhase =>
      exact ⟨hShown, hPast, hStaged, hCreated, hBuilt⟩
  | givesUp _ hPhase =>
      exact ⟨hShown, by simp [ShimPhase.past], hStaged,
        hCreated, hBuilt⟩
  | sees _ dir hPhase hRun hWhole =>
      exact ⟨hShown, fun _ => by simp [hRun], hStaged, hCreated,
        hBuilt⟩
  | exits _ status hPhase =>
      have hSome := hPast (by rw [hPhase]; rfl)
      exact ⟨hShown, fun _ => hSome, hStaged, hCreated, hBuilt⟩
  | makesDir _ data hPhase =>
      have hSome := hPast (by rw [hPhase]; rfl)
      exact ⟨fun _ => hShown hSome, fun _ => by simp, hStaged,
        hCreated, hBuilt⟩
  | takesLock _ data dir hPhase hRun =>
      have hSome := hPast (by rw [hPhase]; rfl)
      exact ⟨fun _ => hShown hSome, fun _ => by simp, hStaged,
        hCreated, hBuilt⟩
  | appends _ data now dir d hPhase hRun hLeaves =>
      have hSome := hPast (by rw [hPhase]; rfl)
      exact ⟨fun _ => hShown hSome, fun _ => by simp, hStaged,
        hCreated, hBuilt⟩
  | shimStops _ hPhase =>
      exact ⟨hShown, by simp [ShimPhase.past], hStaged,
        hCreated, hBuilt⟩

/- A step from a sound state respects the boundary. -/
theorem Sound.bounded
    (hSound : S.Sound env a)
    (hStep : LaunchStep env a act S S') :
    Bounded act S S' := by
  have hFree : S.creator = .built → S.run = none := by
    intro hPhase
    by_contra hSome
    have hPublished := hSound.shown hSome
    rw [hPhase] at hPublished
    cases hPublished
  have hSame : S'.run = S.run → Bounded act S S' := by
    intro hRun
    constructor
    · intro hNone hSome
      rw [hRun] at hSome
      exact absurd hNone hSome
    · intro _ hNone
      rw [hRun]
      exact hNone
    · exact hFree
  -- past its wait, the shim has a public run
  have hThere : S.shim.past = true → Bounded act S S' := by
    intro hPast
    have hSome := hSound.past hPast
    constructor
    · intro hNone _
      exact absurd hNone hSome
    · intro _ hNone
      exact absurd hNone hSome
    · exact hFree
  cases hStep with
  | publish _ dir hPhase hStaging hRoom =>
      rcases hSound.built hPhase with ⟨dir', hThere', hWhole⟩
      rw [hStaging, Option.some.injEq] at hThere'
      subst hThere'
      constructor
      · intro _ _
        exact ⟨rfl, dir, hStaging, hWhole, rfl⟩
      · rintro ⟨⟩
      · exact hFree
  | makesDir _ data hPhase =>
      apply hThere
      rw [hPhase]
      rfl
  | takesLock _ data dir hPhase hRun =>
      apply hThere
      rw [hPhase]
      rfl
  | appends _ data now dir d hPhase hRun hLeaves =>
      apply hThere
      rw [hPhase]
      rfl
  | _ => exact hSame rfl

end Steps

end Launch

------------------------------------------------------------
-- Runs of a Creation
------------------------------------------------------------

/-
  As long as a worker fails to start only where its run is
  public already, every step respects the boundary.
-/
theorem publication_boundary
    (env : RunEnv) (a : NativeArgs)
    (act : LaunchAct) (S S' : Launch)
    (hRun :
      Steps.RunWhen (LaunchStep env a) Launch.StartsWorker
        Launch.start S)
    (hStep : LaunchStep env a act S S') :
    Launch.Bounded act S S' := by
  have hSound : S.Sound env a :=
    Steps.RunWhen.invariant
      (fun _ _ _ hMet hStep hHere => hHere.step hMet hStep)
      hRun Launch.Sound.start
  exact hSound.bounded hStep

namespace Sample

def launchEnv : RunEnv := homeEnv.run firstDrawn

/- The staging directory after the creation of the run. -/
def stagedDir : RunDir where
  lock := true
  disk :=
    (appendAndApplyEvent launchEnv
      (keyedArgs.createdRequest 0)).final RunDir.empty.disk

/- That directory with the first node. -/
def builtDir : RunDir where
  lock := true
  disk :=
    (appendAndApplyEvent launchEnv
      (nodeRequest 0 (.obj [("kind", .str "spinoff")]))).final
        stagedDir.disk

theorem staged_launch
    {met : LaunchAct → Launch → Prop}
    (hMet : ∀ act, act ≠ .spawnFails → ∀ S, met act S) :
    Steps.RunWhen (LaunchStep launchEnv keyedArgs) met
      Launch.start
      ⟨some stagedDir, none, .launched, .starting, false⟩ := by
  obtain ⟨answer, hCreated⟩ :
      ∃ answer,
        (appendAndApplyEvent launchEnv
          (keyedArgs.createdRequest 0)).result
            RunDir.empty.disk = .ok answer :=
    exists_ok (by decide +kernel)
  have hStart :
      Steps.RunWhen (LaunchStep launchEnv keyedArgs) met
        Launch.start Launch.start := .refl
  have hStaged := hStart.next (hMet .stage (by decide) _)
    (.stage _ rfl)
  have hMade := hStaged.next (hMet .create (by decide) _)
    (.create _ RunDir.empty 0 answer rfl rfl hCreated)
  exact hMade.next (hMet .launch (by decide) _)
    (.launch _ rfl)

end Sample

/-
  A worker that cannot be started makes the public directory
  of a run that nobody has published.
-/
theorem spawn_failure_publishes :
    ∃ S S' : Launch,
      Steps.Run (LaunchStep Sample.launchEnv Sample.keyedArgs)
        Launch.start S ∧
      LaunchStep Sample.launchEnv Sample.keyedArgs .makesDir S
        S' ∧
      S.creator = .launched ∧ S.run = none ∧
      S'.run = some RunDir.empty ∧
      ¬ Launch.Bounded .makesDir S S' := by
  have hLaunched :
      Steps.Run (LaunchStep Sample.launchEnv Sample.keyedArgs)
        Launch.start _ :=
    Sample.staged_launch (fun _ _ _ => trivial)
  have hFailed := hLaunched.next (.spawnFails _ rfl)
  refine ⟨_, _, hFailed, .makesDir _ _ rfl, rfl, rfl, rfl, ?_⟩
  intro hBounded
  have hHidden := hBounded.shim rfl rfl
  cases hHidden

/- A worker that starts leaves the boundary to the rename. -/
theorem publication_boundary_kept :
    ∃ S S' : Launch,
      S.run = none ∧ S'.run = some Sample.builtDir ∧
      Launch.Bounded .publish S S' := by
  obtain ⟨answer, hBuilt⟩ :
      ∃ answer,
        (appendAndApplyEvent Sample.launchEnv
          (nodeRequest 0
            (.obj [("kind", .str "spinoff")]))).result
              Sample.stagedDir.disk = .ok answer :=
    exists_ok (by decide +kernel)
  have hMet : ∀ act, act ≠ .spawnFails → ∀ S,
      Launch.StartsWorker act S :=
    fun _ hNot _ hFails => absurd hFails hNot
  have hSpawned := (Sample.staged_launch hMet).next
    (hMet .spawns (by decide) _) (.spawns _ rfl)
  have hShaken := hSpawned.next
    (hMet .shakes (by decide) _) (.shakes _ rfl)
  have hVerified := hShaken.next
    (hMet .verify (by decide) _) (.verify _ rfl rfl)
  have hMade := hVerified.next (hMet .build (by decide) _)
    (.build _ Sample.stagedDir 0
      (.obj [("kind", .str "spinoff")]) answer rfl rfl hBuilt)
  exact ⟨_, _, rfl, rfl,
    publication_boundary Sample.launchEnv Sample.keyedArgs
      .publish _ _ hMade
      (.publish _ Sample.builtDir rfl rfl (.inl rfl))⟩

end Taskfleet
