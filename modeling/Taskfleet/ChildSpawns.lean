import Mathlib.Data.Finmap
import Mathlib.Data.Finset.Sort
import Mathlib.Data.String.Basic
import Taskfleet.Schema

/-
  The startup of child supervisors: a child is forked once
  it is discovered, polled for an identity-verified pid, and
  forked again under a bounded backoff until it confirms.

  A supervisor process keeps the children that are starting
  in memory and the confirmed ones in its state file. The
  clock, the pid files and the outcome of a fork are inputs
  of each step. `marks` is a history kept beside the state
  for the statements below; nothing reads it.

  Main declarations:
    * `childSpawnAction`, `childRetryBackoff`
    * `Startup.reconcileChildSpawns`
    * `Startup.discover`, `Startup.boot`
    * `SpawnRun`, `TracksChild`
    * `child_startup_bounded`
-/

------------------------------------------------------------
-- The State Machine of One Child
------------------------------------------------------------

namespace Taskfleet

/- Instants and durations of the monotonic clock, in ns. -/
abbrev Instant := Nat

def secs (n : Nat) : Instant := n * 10 ^ 9

inductive ChildSpawn where
| starting (since : Instant) (attempts : Nat)
| failed (attempts : Nat) (retryAt : Instant)
deriving DecidableEq, Repr

inductive SpawnAction where
| confirm (pid : Nat)
| markFailed
| retry
| wait
deriving DecidableEq, Repr

def childSpawnMaxAttempts : Nat := 5

def childRetryBaseBackoff : Instant := secs 2

def childRetryMaxBackoff : Instant := secs 30

namespace ChildSpawn

/- The attempts of either state. -/
def attempts : ChildSpawn → Nat
| .starting _ attempts => attempts
| .failed attempts _ => attempts

@[simp] theorem attempts_starting (since : Instant) (a : Nat) :
    (ChildSpawn.starting since a).attempts = a := rfl

@[simp] theorem attempts_failed (a : Nat) (at' : Instant) :
    (ChildSpawn.failed a at').attempts = a := rfl

end ChildSpawn

/-
  What to do with a tracked child. A pid always wins, and
  its absence never confirms.
-/
def childSpawnAction
    (st : ChildSpawn)
    (confirmedPid : Option Nat)
    (now deadline : Instant)
    (maxAttempts : Nat) : SpawnAction :=
  match confirmedPid with
  | some pid => .confirm pid
  | none =>
      match st with
      | .starting since _ =>
          if now - since ≥ deadline then .markFailed else .wait
      | .failed attempts retryAt =>
          if attempts ≥ maxAttempts then .wait
          else if now ≥ retryAt then .retry
          else .wait

/- The pause after a number of failed boots. -/
def childRetryBackoff (attempts : Nat) : Instant :=
  let shift := min (attempts - 1) 5
  min (childRetryBaseBackoff * 2 ^ shift) childRetryMaxBackoff

/- Everything an action can be, with what let it through. -/
theorem childSpawnAction_cases
    (st : ChildSpawn)
    (confirmedPid : Option Nat)
    (now deadline : Instant)
    (maxAttempts : Nat) :
    (∃ pid, confirmedPid = some pid ∧
        childSpawnAction st confirmedPid now deadline
          maxAttempts = .confirm pid) ∨
      (∃ since attempts, confirmedPid = none ∧
        st = .starting since attempts ∧
        childSpawnAction st confirmedPid now deadline
          maxAttempts = .markFailed) ∨
      (∃ attempts retryAt, confirmedPid = none ∧
        st = .failed attempts retryAt ∧
        attempts < maxAttempts ∧ retryAt ≤ now ∧
        childSpawnAction st confirmedPid now deadline
          maxAttempts = .retry) ∨
      childSpawnAction st confirmedPid now deadline
        maxAttempts = .wait := by
  cases confirmedPid with
  | some pid => exact .inl ⟨pid, rfl, rfl⟩
  | none =>
      right
      cases st with
      | starting since attempts =>
          unfold childSpawnAction
          dsimp only
          split
          · exact .inl ⟨since, attempts, rfl, rfl, rfl⟩
          · exact .inr (.inr rfl)
      | failed attempts retryAt =>
          unfold childSpawnAction
          dsimp only
          split
          · exact .inr (.inr rfl)
          next hMore =>
          split
          next hDue =>
            exact .inr (.inl ⟨attempts, retryAt, rfl, rfl,
              not_le.mp hMore, hDue, rfl⟩)
          · exact .inr (.inr rfl)

------------------------------------------------------------
-- The Supervisor's Children
------------------------------------------------------------

/- What happened to one child, for the history. -/
inductive Mark where
| forked (attempt : Nat) (at' : Instant)
| failed (attempt : Nat) (at' : Instant)
| confirmed (pid : Nat)
deriving DecidableEq, Repr

def Mark.isFork : Mark → Bool
| .forked _ _ => true
| _ => false

/- An event written to the supervised run or to a child. -/
structure SpawnFact where
  child : Option String
  kind : EventKind
  nodeId : Option NodeId
  data : Json
deriving Repr

structure Startup where
  childSpawns : Finmap (fun _ : String => ChildSpawn)
  spawnedChildren : Finmap (fun _ : String => Nat)
  facts : List SpawnFact
  marks : List (String × Mark)

namespace Startup

def track (s : Startup) (cid : String) (st : ChildSpawn) :
    Startup :=
  { s with childSpawns := s.childSpawns.insert cid st }

def note (s : Startup) (cid : String) (mark : Mark) : Startup :=
  { s with marks := s.marks ++ [(cid, mark)] }

def write (s : Startup) (fact : SpawnFact) : Startup :=
  { s with facts := s.facts ++ [fact] }

/- The attach on the child's log, then on our own. -/
def recordChildAttached
    (s : Startup) (cid : String) (pid : Nat) : Startup :=
  (s.write {
      child := some cid
      kind := .supervisorAttached
      nodeId := some .first
      data := .obj [("pid", .int pid)] }).write {
    child := none
    kind := .other "child.supervisor_attached"
    nodeId := none
    data := .obj
      [("child_run_id", .str cid),
        ("supervisor_pid", .int pid)] }

end Startup

/- What one pass over the children sees of the world. -/
structure Tick where
  now : Instant
  liveRecordedPid : String → Option Nat
  fork : String → Except String Unit

namespace Startup

def noPidReason : String :=
  "no identity-verified pid within CHILD_SPAWN_DEADLINE"

/- One tracked child of a pass. -/
def reconcileChild
    (deadline : Instant)
    (t : Tick)
    (s : Startup)
    (cid : String) : Startup :=
  match s.childSpawns.lookup cid with
  | none => s
  | some st =>
      let attempts := st.attempts
      match childSpawnAction st (t.liveRecordedPid cid) t.now
          deadline childSpawnMaxAttempts with
      | .confirm pid =>
          let s := (s.recordChildAttached cid pid).note cid
            (.confirmed pid)
          { s with
            spawnedChildren := s.spawnedChildren.insert cid pid
            childSpawns := s.childSpawns.erase cid }
      | .markFailed =>
          let exhausted := attempts ≥ childSpawnMaxAttempts
          ((s.write {
              child := none
              kind := .other "child.spawn_failed"
              nodeId := none
              data := .obj
                [("attempts", .int attempts),
                  ("child_run_id", .str cid),
                  ("final", .bool exhausted),
                  ("reason", .str noPidReason)] }).note cid
            (.failed attempts t.now)).track cid
              (.failed attempts
                (t.now + childRetryBackoff attempts))
      | .retry =>
          let next := attempts + 1
          let s := s.note cid (.forked next t.now)
          match t.fork cid with
          | .ok () => s.track cid (.starting t.now next)
          | .error message =>
              ((s.write {
                  child := none
                  kind := .other "child.spawn_failed"
                  nodeId := none
                  data := .obj
                    [("attempts", .int next),
                      ("child_run_id", .str cid),
                      ("reason", .str message)] }).note cid
                (.failed next t.now)).track cid
                  (.failed next
                    (t.now + childRetryBackoff next))
      | .wait => s

/- One pass over the children tracked when it starts. -/
def reconcileChildSpawns
    (deadline : Instant) (t : Tick) (s : Startup) : Startup :=
  (s.childSpawns.keys.sort (· ≤ ·)).foldl
    (reconcileChild deadline t) s

/-
  A `child.spawned` event of the own log: its child and its
  parent node, the outcome of the fork, and the clock after
  it. A child known already is left alone.
-/
structure Discovery where
  childRunId : Option String
  nodeId : Option NodeId
  fork : Except String Unit
  now : Instant

def discover (e : Discovery) (s : Startup) : Startup :=
  match e.childRunId, e.nodeId with
  | some raw, some node =>
      match RunId.parseStr raw with
      | .error _ => s
      | .ok child =>
          let cid := child.val
          if (s.spawnedChildren.lookup cid).isSome ∨
              (s.childSpawns.lookup cid).isSome then s
          else
            let s := s.note cid (.forked 1 e.now)
            match e.fork with
            | .ok () => s.track cid (.starting e.now 1)
            | .error message =>
                ((s.write {
                    child := none
                    kind := .other "child.spawn_failed"
                    nodeId := some node
                    data := .obj
                      [("attempts", .int 1),
                        ("child_run_id", .str cid),
                        ("reason", .str message)] }).note cid
                  (.failed 1 e.now)).track cid
                    (.failed 1 (e.now + childRetryBackoff 1))
  | _, _ => s

------------------------------------------------------------
-- Boot
------------------------------------------------------------

/-
  The in-flight children of a restarted supervisor: those of
  its tails that are neither confirmed nor terminal.
-/
def reseedChildSpawns
    (spawned : Finmap (fun _ : String => Nat))
    (terminal : String → Bool)
    (now : Instant)
    (childIds : List String) :
    Finmap (fun _ : String => ChildSpawn) :=
  childIds.foldl
    (fun out cid =>
      if (spawned.lookup cid).isSome then out
      else if terminal cid then out
      else out.insert cid (.starting now 1))
    ∅

/- The ids of the state file, without corrupt ones and pid 0. -/
def keptChildren
    (persisted : List (String × Nat)) :
    Finmap (fun _ : String => Nat) :=
  persisted.foldl
    (fun out entry =>
      if (RunId.parseStr entry.1).toOption.isNone then out
      else if entry.2 = 0 then out
      else out.insert entry.1 entry.2)
    ∅

/- A supervisor that has just started. -/
def boot
    (persisted : List (String × Nat))
    (terminal : String → Bool)
    (now : Instant)
    (childIds : List String) : Startup where
  childSpawns :=
    reseedChildSpawns (keptChildren persisted) terminal now
      childIds
  spawnedChildren := keptChildren persisted
  facts := []
  marks := []

end Startup

/-
  The states of one supervisor process: it boots, reads its
  own log, and passes over the children, in any order and
  with any clock.
-/
inductive SpawnRun (deadline : Instant) : Startup → Prop where
| boot (persisted : List (String × Nat))
    (terminal : String → Bool)
    (now : Instant)
    (childIds : List String) :
    SpawnRun deadline
      (.boot persisted terminal now childIds)
| discover {s : Startup} (e : Startup.Discovery)
    (hRun : SpawnRun deadline s) :
    SpawnRun deadline (s.discover e)
| tick {s : Startup} (t : Tick)
    (hRun : SpawnRun deadline s) :
    SpawnRun deadline (s.reconcileChildSpawns deadline t)

------------------------------------------------------------
-- The History of One Child
------------------------------------------------------------

/- The marks of one child, oldest first. -/
def Startup.marksOf (s : Startup) (c : String) : List Mark :=
  (s.marks.filter (fun m => m.1 == c)).map Prod.snd

/- The forks a child got from this supervisor process. -/
def Startup.forksOf (s : Startup) (c : String) : Nat :=
  (s.marksOf c).countP Mark.isFork

/-
  Every fork but the first follows the failure of the attempt
  before it, by at least that attempt's backoff.
-/
def Paced (marks : List Mark) : Prop :=
  ∀ earlier attempt at' later,
    marks = earlier ++ .forked attempt at' :: later →
    (attempt = 1 ∧ earlier = []) ∨
      ∃ before failed failedAt,
        earlier = before ++ [.failed failed failedAt] ∧
          attempt = failed + 1 ∧
          failedAt + childRetryBackoff failed ≤ at'

theorem paced_nil : Paced [] := by
  intro earlier attempt at' later hSplit
  simp at hSplit

/- A mark at the end is paced by the marks before it. -/
theorem paced_concat
    {marks : List Mark} {mark : Mark}
    (hPaced : Paced marks)
    (hMark : ∀ attempt at', mark = .forked attempt at' →
      (attempt = 1 ∧ marks = []) ∨
        ∃ before failed failedAt,
          marks = before ++ [.failed failed failedAt] ∧
            attempt = failed + 1 ∧
            failedAt + childRetryBackoff failed ≤ at') :
    Paced (marks ++ [mark]) := by
  intro earlier attempt at' later hSplit
  rcases List.eq_nil_or_concat later with rfl | ⟨init, last, rfl⟩
  · have hEnd := List.append_inj' hSplit rfl
    rw [List.singleton_inj] at hEnd
    rw [← hEnd.1]
    exact hMark attempt at' hEnd.2
  · have hInner :
        marks ++ [mark] =
          (earlier ++ .forked attempt at' :: init) ++ [last] := by
      rw [hSplit]
      simp
    have hEnd := List.append_inj' hInner rfl
    exact hPaced earlier attempt at' init hEnd.1

section Frames

variable {s : Startup} {c cid : String}

theorem marksOf_note (mark : Mark) :
    (s.note cid mark).marksOf c =
      if c = cid then s.marksOf c ++ [mark]
      else s.marksOf c := by
  unfold Startup.marksOf Startup.note
  by_cases hHere : c = cid
  · subst hHere
    simp
  · have hOther : (cid == c) = false := by
      simpa using Ne.symm hHere
    simp [hHere, hOther, List.filter_append]

@[simp] theorem marksOf_write (fact : SpawnFact) :
    (s.write fact).marksOf c = s.marksOf c := rfl

@[simp] theorem marksOf_track (st : ChildSpawn) :
    (s.track cid st).marksOf c = s.marksOf c := rfl

@[simp] theorem marksOf_recordChildAttached (pid : Nat) :
    (s.recordChildAttached cid pid).marksOf c =
      s.marksOf c := rfl

theorem lookup_track (st : ChildSpawn) :
    (s.track cid st).childSpawns.lookup c =
      if c = cid then some st else s.childSpawns.lookup c := by
  by_cases hHere : c = cid
  · subst hHere
    simp [Startup.track]
  · simp [Startup.track, hHere]

end Frames

/-
  What the supervisor knows of a child against its history:
  it is starting or confirmed but not both, the attempts count
  its forks, and a failed one waits out its own backoff.
-/
structure TracksChild (s : Startup) (c : String) : Prop where
  apart : s.spawnedChildren.lookup c ≠ none →
    s.childSpawns.lookup c = none
  counted : ∀ st, s.childSpawns.lookup c = some st →
    1 ≤ st.attempts ∧ st.attempts ≤ childSpawnMaxAttempts ∧
      s.forksOf c ≤ st.attempts
  spent : s.forksOf c ≤ childSpawnMaxAttempts
  fresh : s.childSpawns.lookup c = none →
    s.spawnedChildren.lookup c = none → s.marksOf c = []
  waiting : ∀ attempts retryAt,
    s.childSpawns.lookup c = some (.failed attempts retryAt) →
    ∃ before failedAt,
      s.marksOf c = before ++ [.failed attempts failedAt] ∧
        retryAt = failedAt + childRetryBackoff attempts
  paced : Paced (s.marksOf c)

namespace TracksChild

variable {s s' : Startup} {c cid : String} {at' : Instant}

/- A step that leaves the child alone. -/
theorem frame
    (hTracks : TracksChild s c)
    (hSpawns : s'.childSpawns.lookup c = s.childSpawns.lookup c)
    (hSpawned :
      s'.spawnedChildren.lookup c = s.spawnedChildren.lookup c)
    (hMarks : s'.marksOf c = s.marksOf c) :
    TracksChild s' c := by
  have hForks : s'.forksOf c = s.forksOf c := by
    unfold Startup.forksOf
    rw [hMarks]
  constructor
  · rw [hSpawns, hSpawned]
    exact hTracks.apart
  · rw [hSpawns, hForks]
    exact hTracks.counted
  · rw [hForks]
    exact hTracks.spent
  · rw [hSpawns, hSpawned, hMarks]
    exact hTracks.fresh
  · rw [hSpawns, hMarks]
    exact hTracks.waiting
  · rw [hMarks]
    exact hTracks.paced

/- A child whose pid was seen. -/
theorem confirmed
    {pid : Nat}
    (hTracks : TracksChild s c)
    (hSpawns : s'.childSpawns.lookup c = none)
    (hSpawned : s'.spawnedChildren.lookup c = some pid)
    (hMarks : s'.marksOf c = s.marksOf c ++ [.confirmed pid]) :
    TracksChild s' c := by
  have hForks : s'.forksOf c = s.forksOf c := by
    unfold Startup.forksOf
    rw [hMarks]
    simp [Mark.isFork]
  constructor
  · intro _
    exact hSpawns
  · intro st hSome
    rw [hSpawns] at hSome
    cases hSome
  · rw [hForks]
    exact hTracks.spent
  · intro _ hNone
    rw [hSpawned] at hNone
    cases hNone
  · intro attempts retryAt hSome
    rw [hSpawns] at hSome
    cases hSome
  · rw [hMarks]
    apply paced_concat hTracks.paced
    intro attempt at' hFork
    cases hFork

/- An attempt whose deadline expired. -/
theorem failed
    {st : ChildSpawn}
    (hTracks : TracksChild s c)
    (hStarting : s.childSpawns.lookup c = some st)
    (hSpawns : s'.childSpawns.lookup c =
      some (.failed st.attempts
        (at' + childRetryBackoff st.attempts)))
    (hSpawned :
      s'.spawnedChildren.lookup c = s.spawnedChildren.lookup c)
    (hMarks : s'.marksOf c =
      s.marksOf c ++ [.failed st.attempts at']) :
    TracksChild s' c := by
  have hForks : s'.forksOf c = s.forksOf c := by
    unfold Startup.forksOf
    rw [hMarks]
    simp [Mark.isFork]
  constructor
  · intro hSome
    rw [hSpawned] at hSome
    rw [hTracks.apart hSome] at hStarting
    cases hStarting
  · intro st' hSome
    rw [hSpawns, Option.some.injEq] at hSome
    subst hSome
    rw [hForks]
    exact hTracks.counted st hStarting
  · rw [hForks]
    exact hTracks.spent
  · intro hNone
    rw [hSpawns] at hNone
    cases hNone
  · intro attempts retryAt hSome
    rw [hSpawns] at hSome
    cases hSome
    exact ⟨s.marksOf c, at', hMarks, rfl⟩
  · rw [hMarks]
    apply paced_concat hTracks.paced
    intro attempt at'' hFork
    cases hFork

/-
  The next fork of a child, paced by what came before, and
  the state it leaves the child in.
-/
theorem forked
    {attempt : Nat}
    (hTracks : TracksChild s c)
    (hBound : attempt + 1 ≤ childSpawnMaxAttempts)
    (hForks : s.forksOf c ≤ attempt)
    (hPaced :
      (attempt + 1 = 1 ∧ s.marksOf c = []) ∨
        ∃ before failed failedAt,
          s.marksOf c = before ++ [.failed failed failedAt] ∧
            attempt + 1 = failed + 1 ∧
            failedAt + childRetryBackoff failed ≤ at')
    (hSpawns : s'.childSpawns.lookup c =
      some (.starting at' (attempt + 1)))
    (hSame : s'.spawnedChildren.lookup c = none)
    (hMarks : s'.marksOf c =
      s.marksOf c ++ [.forked (attempt + 1) at']) :
    TracksChild s' c := by
  have hNext : s'.forksOf c = s.forksOf c + 1 := by
    unfold Startup.forksOf
    rw [hMarks]
    simp [Mark.isFork]
  constructor
  · intro hSome
    exact absurd hSame hSome
  · intro st hSome
    rw [hSpawns, Option.some.injEq] at hSome
    subst hSome
    rw [hNext, ChildSpawn.attempts_starting]
    omega
  · omega
  · intro hNone
    rw [hSpawns] at hNone
    cases hNone
  · intro attempts retryAt hSome
    rw [hSpawns] at hSome
    cases hSome
  · rw [hMarks]
    apply paced_concat hTracks.paced
    intro attempt' at'' hFork
    cases hFork
    exact hPaced

end TracksChild

------------------------------------------------------------
-- Steps
------------------------------------------------------------

/- The state of a child just forked, whatever comes of it. -/
def Startup.forkedAs
    (s : Startup) (cid : String) (attempt : Nat)
    (at' : Instant) : Startup :=
  (s.note cid (.forked attempt at')).track cid
    (.starting at' attempt)

/- A fork that failed, from the child just forked. -/
theorem TracksChild.forkFailed
    {s s' : Startup} {c : String}
    {attempt : Nat} {at' : Instant}
    (hForked : TracksChild (s.forkedAs c attempt at') c)
    (hSpawns : s'.childSpawns.lookup c =
      some (.failed attempt (at' + childRetryBackoff attempt)))
    (hSpawned :
      s'.spawnedChildren.lookup c = s.spawnedChildren.lookup c)
    (hMarks : s'.marksOf c =
      s.marksOf c ++ [.forked attempt at'] ++
        [.failed attempt at']) :
    TracksChild s' c := by
  have hStarting :
      (s.forkedAs c attempt at').childSpawns.lookup c =
        some (.starting at' attempt) := by
    simp [Startup.forkedAs, lookup_track]
  apply hForked.failed hStarting
  · exact hSpawns
  · exact hSpawned
  · rw [hMarks]
    simp [Startup.forkedAs, marksOf_note]

section Steps

variable {deadline : Instant} {t : Tick} {s : Startup}
variable {c cid : String}

theorem TracksChild.forkedAs
    {attempt : Nat} {at' : Instant}
    (hTracks : TracksChild s c)
    (hSpawned : s.spawnedChildren.lookup c = none)
    (hBound : attempt + 1 ≤ childSpawnMaxAttempts)
    (hForks : s.forksOf c ≤ attempt)
    (hPaced :
      (attempt + 1 = 1 ∧ s.marksOf c = []) ∨
        ∃ before failed failedAt,
          s.marksOf c = before ++ [.failed failed failedAt] ∧
            attempt + 1 = failed + 1 ∧
            failedAt + childRetryBackoff failed ≤ at') :
    TracksChild (s.forkedAs c (attempt + 1) at') c := by
  apply hTracks.forked hBound hForks hPaced
  · simp [Startup.forkedAs, lookup_track]
  · exact hSpawned
  · simp [Startup.forkedAs, marksOf_note]

/- A pass leaves the other children alone. -/
theorem reconcileChild_other
    (deadline : Instant) (t : Tick) (s : Startup)
    (hOther : c ≠ cid) :
    (s.reconcileChild deadline t cid).childSpawns.lookup c =
        s.childSpawns.lookup c ∧
      (s.reconcileChild deadline t cid).spawnedChildren.lookup
          c = s.spawnedChildren.lookup c ∧
      (s.reconcileChild deadline t cid).marksOf c =
        s.marksOf c := by
  unfold Startup.reconcileChild
  split
  · simp
  dsimp only
  split
  · refine ⟨?_, ?_, ?_⟩
    · exact Finmap.lookup_erase_ne hOther
    · exact Finmap.lookup_insert_of_ne _ hOther
    · change (Startup.note _ cid _).marksOf c = _
      rw [marksOf_note, if_neg hOther,
        marksOf_recordChildAttached]
  · refine ⟨?_, rfl, ?_⟩
    · rw [lookup_track, if_neg hOther]
      rfl
    · rw [marksOf_track, marksOf_note, if_neg hOther,
        marksOf_write]
  · split
    · refine ⟨?_, rfl, ?_⟩
      · rw [lookup_track, if_neg hOther]
        rfl
      · rw [marksOf_track, marksOf_note, if_neg hOther]
    · refine ⟨?_, rfl, ?_⟩
      · rw [lookup_track, if_neg hOther]
        rfl
      · rw [marksOf_track, marksOf_note, if_neg hOther,
          marksOf_write, marksOf_note, if_neg hOther]
  · simp

theorem reconcileChild_tracks
    (hTracks : TracksChild s c) :
    TracksChild (s.reconcileChild deadline t cid) c := by
  by_cases hHere : c = cid
  · subst hHere
    unfold Startup.reconcileChild
    split
    · exact hTracks
    next st hStarting =>
    have hCounted := hTracks.counted st hStarting
    have hUnconfirmed :
        s.spawnedChildren.lookup c = none := by
      by_contra hSome
      rw [hTracks.apart hSome] at hStarting
      cases hStarting
    dsimp only
    rcases childSpawnAction_cases st (t.liveRecordedPid c)
        t.now deadline childSpawnMaxAttempts with
      ⟨pid, _, hAction⟩ | ⟨_, _, _, _, hAction⟩ |
        ⟨attempts, retryAt, _, rfl, hMore, hDue, hAction⟩ |
          hAction
    · rw [hAction]
      apply hTracks.confirmed
      · exact Finmap.lookup_erase c s.childSpawns
      · exact Finmap.lookup_insert s.spawnedChildren
      · change (Startup.note _ c _).marksOf c = _
        rw [marksOf_note, if_pos rfl,
          marksOf_recordChildAttached]
    · rw [hAction]
      apply hTracks.failed hStarting
      · rw [lookup_track, if_pos rfl]
      · rfl
      · rw [marksOf_track, marksOf_note, if_pos rfl,
          marksOf_write]
    · rw [hAction]
      rw [ChildSpawn.attempts_failed] at hCounted
      rcases hTracks.waiting attempts retryAt hStarting with
        ⟨before, failedAt, hMarks, rfl⟩
      have hForked :
          TracksChild (s.forkedAs c (attempts + 1) t.now) c :=
        hTracks.forkedAs hUnconfirmed hMore hCounted.2.2
          (.inr ⟨before, attempts, failedAt, hMarks, rfl,
            hDue⟩)
      dsimp only
      split
      · exact hForked
      · apply hForked.forkFailed
        · rw [lookup_track, if_pos rfl]
          rfl
        · rfl
        · rw [marksOf_track, marksOf_note, if_pos rfl,
            marksOf_write, marksOf_note, if_pos rfl]
          rfl
    · rw [hAction]
      exact hTracks
  · have hFrame := reconcileChild_other deadline t s hHere
    exact hTracks.frame hFrame.1 hFrame.2.1 hFrame.2.2

theorem discover_tracks
    (e : Startup.Discovery) (hTracks : TracksChild s c) :
    TracksChild (s.discover e) c := by
  unfold Startup.discover
  split
  · split
    · exact hTracks
    next child _ =>
    dsimp only
    split
    · exact hTracks
    next hUnknown =>
    rw [not_or, Option.not_isSome_iff_eq_none,
      Option.not_isSome_iff_eq_none] at hUnknown
    by_cases hHere : c = child.val
    · rw [← hHere] at hUnknown ⊢
      have hNew := hTracks.fresh hUnknown.2 hUnknown.1
      have hForks : s.forksOf c ≤ 0 := by
        simp [Startup.forksOf, hNew]
      have hForked :
          TracksChild (s.forkedAs c (0 + 1) e.now) c :=
        hTracks.forkedAs hUnknown.1 (by decide) hForks
          (.inl ⟨rfl, hNew⟩)
      split
      · exact hForked
      · apply hForked.forkFailed
        · rw [lookup_track, if_pos rfl]
        · rfl
        · rw [marksOf_track, marksOf_note, if_pos rfl,
            marksOf_write, marksOf_note, if_pos rfl]
    · split
      · apply hTracks.frame
        · rw [lookup_track, if_neg hHere]
          rfl
        · rfl
        · rw [marksOf_track, marksOf_note, if_neg hHere]
      · apply hTracks.frame
        · rw [lookup_track, if_neg hHere]
          rfl
        · rfl
        · rw [marksOf_track, marksOf_note, if_neg hHere,
            marksOf_write, marksOf_note, if_neg hHere]
  · exact hTracks

theorem reconcile_tracks
    (cids : List String) (hTracks : TracksChild s c) :
    TracksChild (cids.foldl (Startup.reconcileChild deadline t) s)
      c := by
  induction cids generalizing s with
  | nil => exact hTracks
  | cons cid rest ih => exact ih (reconcileChild_tracks hTracks)

end Steps

------------------------------------------------------------
-- Boot
------------------------------------------------------------

section Boot

variable {spawned : Finmap (fun _ : String => Nat)}
variable {terminal : String → Bool} {now : Instant}

/- A reseeded child is unconfirmed and at its first attempt. -/
theorem reseed_lookup
    (childIds : List String)
    {c : String} {st : ChildSpawn}
    (hSeeded :
      (Startup.reseedChildSpawns spawned terminal now
        childIds).lookup c = some st) :
    spawned.lookup c = none ∧ st = .starting now 1 := by
  induction childIds using List.reverseRecOn with
  | nil => simp [Startup.reseedChildSpawns] at hSeeded
  | append_singleton rest cid ih =>
      rw [Startup.reseedChildSpawns, List.foldl_append,
        List.foldl_cons, List.foldl_nil] at hSeeded
      split at hSeeded
      · exact ih hSeeded
      next hUnknown =>
      split at hSeeded
      · exact ih hSeeded
      · by_cases hHere : c = cid
        · subst hHere
          rw [Finmap.lookup_insert, Option.some.injEq] at hSeeded
          exact ⟨by simpa using hUnknown, hSeeded.symm⟩
        · rw [Finmap.lookup_insert_of_ne _ hHere] at hSeeded
          exact ih hSeeded

theorem boot_tracks
    (persisted : List (String × Nat))
    (childIds : List String)
    (c : String) :
    TracksChild (.boot persisted terminal now childIds) c := by
  have hMarks :
      (Startup.boot persisted terminal now childIds).marksOf
        c = [] := rfl
  have hForks :
      (Startup.boot persisted terminal now childIds).forksOf
        c = 0 := rfl
  constructor
  · intro hConfirmed
    by_contra hSome
    rcases Option.ne_none_iff_exists'.mp hSome with
      ⟨st, hSeeded⟩
    exact hConfirmed (reseed_lookup childIds hSeeded).1
  · intro st hSeeded
    rw [(reseed_lookup childIds hSeeded).2, hForks,
      ChildSpawn.attempts_starting]
    exact ⟨le_refl 1, by decide, Nat.zero_le 1⟩
  · rw [hForks]
    exact Nat.zero_le _
  · intro _ _
    exact hMarks
  · intro attempts retryAt hSeeded
    have hFirst := (reseed_lookup childIds hSeeded).2
    cases hFirst
  · rw [hMarks]
    exact paced_nil

end Boot

theorem tracks_of_spawnRun
    {deadline : Instant} {s : Startup}
    (hRun : SpawnRun deadline s) (c : String) :
    TracksChild s c := by
  induction hRun with
  | boot persisted terminal now childIds =>
      exact boot_tracks persisted childIds c
  | discover e _ ih => exact discover_tracks e ih
  | tick t _ ih => exact reconcile_tracks _ ih

------------------------------------------------------------
-- What One Pass Does
------------------------------------------------------------

/- An attach is written for a child whose pid was seen. -/
def SpawnFact.Seen (t : Tick) (fact : SpawnFact) : Prop :=
  (fact.kind = .supervisorAttached →
    ∃ c pid, t.liveRecordedPid c = some pid ∧
      fact.child = some c ∧
      fact.data = .obj [("pid", .int pid)]) ∧
  (fact.kind = .other "child.supervisor_attached" →
    ∃ c pid, t.liveRecordedPid c = some pid ∧
      fact.data = .obj
        [("child_run_id", .str c),
          ("supervisor_pid", .int pid)])

/-
  What a pass over some children adds to the state: forks of
  tracked children without a pid, confirmations of pids seen.
-/
structure PassAdds
    (t : Tick)
    (cids : List String)
    (s s' : Startup)
    (newMarks : List (String × Mark))
    (newFacts : List SpawnFact) : Prop where
  marks : s'.marks = s.marks ++ newMarks
  facts : s'.facts = s.facts ++ newFacts
  forked : ∀ c attempt at',
    (c, Mark.forked attempt at') ∈ newMarks →
    c ∈ cids ∧ t.liveRecordedPid c = none
  seen : ∀ fact ∈ newFacts, fact.Seen t
  spawned : ∀ c pid,
    s'.spawnedChildren.lookup c = some pid →
    s.spawnedChildren.lookup c = some pid ∨
      t.liveRecordedPid c = some pid

section Pass

variable {deadline : Instant} {t : Tick} {s s' s'' : Startup}

theorem passAdds_nothing (cids : List String) :
    PassAdds t cids s s [] [] := by
  constructor
  · simp
  · simp
  · simp
  · simp
  · intro c pid hSome
    exact .inl hSome

theorem reconcileChild_adds (cid : String) :
    ∃ marks facts,
      PassAdds t [cid] s (s.reconcileChild deadline t cid)
        marks facts := by
  unfold Startup.reconcileChild
  split
  · exact ⟨[], [], passAdds_nothing _⟩
  next st _ =>
  dsimp only
  rcases childSpawnAction_cases st (t.liveRecordedPid cid)
      t.now deadline childSpawnMaxAttempts with
    ⟨pid, hPid, hAction⟩ | ⟨_, _, _, _, hAction⟩ |
      ⟨attempts, retryAt, hNone, rfl, _, _, hAction⟩ | hAction
  · rw [hAction]
    refine ⟨[(cid, .confirmed pid)], _, rfl,
      List.append_assoc _ _ _, ?_, ?_, ?_⟩
    · intro c attempt at' hMem
      simp at hMem
    · intro fact hMem
      simp only [List.cons_append, List.nil_append,
        List.mem_cons, List.not_mem_nil, or_false] at hMem
      rcases hMem with rfl | rfl
      · constructor
        · intro _
          exact ⟨cid, pid, hPid, rfl, rfl⟩
        · intro hKind
          cases hKind
      · constructor
        · intro hKind
          cases hKind
        · intro _
          exact ⟨cid, pid, hPid, rfl⟩
    · intro c pid' hSome
      by_cases hHere : c = cid
      · subst hHere
        have hSame : some pid = some pid' := by
          rw [← hSome]
          exact (Finmap.lookup_insert s.spawnedChildren).symm
        exact .inr (hPid.trans hSame)
      · left
        rw [← hSome]
        exact (Finmap.lookup_insert_of_ne s.spawnedChildren
          hHere).symm
  · rw [hAction]
    refine ⟨[(cid, .failed st.attempts t.now)], [_], rfl, rfl,
      ?_, ?_, fun _ _ h => .inl h⟩
    · intro c attempt at' hMem
      simp at hMem
    · intro fact hMem
      rw [List.mem_singleton] at hMem
      subst hMem
      constructor
      · intro hKind
        cases hKind
      · intro hKind
        simp at hKind
  · rw [hAction]
    dsimp only
    cases t.fork cid with
    | ok _ =>
        refine ⟨[(cid, .forked (attempts + 1) t.now)], [], rfl,
          (List.append_nil _).symm, ?_, by simp,
          fun _ _ h => .inl h⟩
        intro c attempt at' hMem
        simp only [List.mem_singleton, Prod.mk.injEq] at hMem
        rw [hMem.1]
        exact ⟨List.mem_singleton_self cid, hNone⟩
    | error message =>
        refine ⟨[(cid, .forked (attempts + 1) t.now),
          (cid, .failed (attempts + 1) t.now)], [_],
          List.append_assoc _ _ _, rfl, ?_, ?_,
          fun _ _ h => .inl h⟩
        · intro c attempt at' hMem
          simp only [List.mem_cons, Prod.mk.injEq,
            List.not_mem_nil, or_false, reduceCtorEq,
            and_false] at hMem
          rw [hMem.1]
          exact ⟨List.mem_singleton_self cid, hNone⟩
        · intro fact hMem
          rw [List.mem_singleton] at hMem
          subst hMem
          constructor
          · intro hKind
            cases hKind
          · intro hKind
            simp at hKind
  · rw [hAction]
    exact ⟨[], [], passAdds_nothing _⟩

theorem PassAdds.trans
    {first rest : List String}
    {marks marks' : List (String × Mark)}
    {facts facts' : List SpawnFact}
    (hFirst : PassAdds t first s s' marks facts)
    (hRest : PassAdds t rest s' s'' marks' facts') :
    PassAdds t (first ++ rest) s s'' (marks ++ marks')
      (facts ++ facts') := by
  constructor
  · rw [hRest.marks, hFirst.marks, List.append_assoc]
  · rw [hRest.facts, hFirst.facts, List.append_assoc]
  · intro c attempt at' hMem
    rcases List.mem_append.mp hMem with hOld | hNew
    · have hHere := hFirst.forked c attempt at' hOld
      exact ⟨List.mem_append_left _ hHere.1, hHere.2⟩
    · have hHere := hRest.forked c attempt at' hNew
      exact ⟨List.mem_append_right _ hHere.1, hHere.2⟩
  · intro fact hMem
    rcases List.mem_append.mp hMem with hOld | hNew
    · exact hFirst.seen fact hOld
    · exact hRest.seen fact hNew
  · intro c pid hSome
    rcases hRest.spawned c pid hSome with hBefore | hPid
    · exact hFirst.spawned c pid hBefore
    · exact .inr hPid

theorem reconcile_adds (cids : List String) (s : Startup) :
    ∃ marks facts,
      PassAdds t cids s
        (cids.foldl (Startup.reconcileChild deadline t) s)
        marks facts := by
  induction cids generalizing s with
  | nil => exact ⟨[], [], passAdds_nothing _⟩
  | cons cid rest ih =>
      rcases reconcileChild_adds (s := s) (t := t)
        cid with ⟨marks, facts, hFirst⟩
      rcases ih (s.reconcileChild deadline t cid) with
        ⟨marks', facts', hRest⟩
      exact ⟨_, _, hFirst.trans hRest⟩

/- A confirmed child is not tracked, so a pass leaves it. -/
theorem reconcile_keeps
    {c : String} {pid : Nat}
    (cids : List String)
    (hOut : c ∉ cids)
    (hConfirmed : s.spawnedChildren.lookup c = some pid) :
    (cids.foldl (Startup.reconcileChild deadline t)
      s).spawnedChildren.lookup c = some pid := by
  induction cids generalizing s with
  | nil => exact hConfirmed
  | cons cid rest ih =>
      rw [List.mem_cons, not_or] at hOut
      apply ih hOut.2
      rw [(reconcileChild_other deadline t s hOut.1).2.1]
      exact hConfirmed

end Pass

------------------------------------------------------------
-- Bounded Startup
------------------------------------------------------------

/-
  The startup of child supervisors from a state of a run: no
  fork of a confirmed child, no confirmation without a pid, a
  bounded number of forks, each after its backoff.
-/
structure StartupBounded
    (deadline : Instant) (s : Startup) : Prop where
  unforked : ∀ (t : Tick) c attempt at',
    (c, .forked attempt at') ∈
      (s.reconcileChildSpawns deadline t).marks.drop
        s.marks.length →
    s.spawnedChildren.lookup c = none ∧
      t.liveRecordedPid c = none
  observed : ∀ (t : Tick) c pid,
    (s.reconcileChildSpawns deadline t).spawnedChildren.lookup
        c = some pid →
    s.spawnedChildren.lookup c = some pid ∨
      t.liveRecordedPid c = some pid
  recorded : ∀ (t : Tick),
    ∀ fact ∈ (s.reconcileChildSpawns deadline t).facts.drop
      s.facts.length, fact.Seen t
  kept : ∀ (t : Tick) c pid,
    s.spawnedChildren.lookup c = some pid →
    (s.reconcileChildSpawns deadline t).spawnedChildren.lookup
      c = some pid
  discovered : ∀ (e : Startup.Discovery) c attempt at',
    (c, .forked attempt at') ∈
      (s.discover e).marks.drop s.marks.length →
    s.spawnedChildren.lookup c = none
  budget : ∀ c, s.forksOf c ≤ childSpawnMaxAttempts
  paced : ∀ c, Paced (s.marksOf c)

/- What is discovered anew is not confirmed. -/
theorem discover_adds (e : Startup.Discovery) (s : Startup) :
    ∃ marks, (s.discover e).marks = s.marks ++ marks ∧
      ∀ m ∈ marks, s.spawnedChildren.lookup m.1 = none := by
  unfold Startup.discover
  split
  · split
    · exact ⟨[], by simp⟩
    next child _ =>
    dsimp only
    split
    · exact ⟨[], by simp⟩
    next hUnknown =>
    rw [not_or, Option.not_isSome_iff_eq_none] at hUnknown
    split
    · refine ⟨[_], rfl, ?_⟩
      intro m hMem
      rw [List.mem_singleton.mp hMem]
      exact hUnknown.1
    · refine ⟨[_, _], List.append_assoc _ _ _, ?_⟩
      intro m hMem
      simp only [List.mem_cons, List.not_mem_nil,
        or_false] at hMem
      rcases hMem with rfl | rfl
      · exact hUnknown.1
      · exact hUnknown.1
  · exact ⟨[], by simp⟩

theorem child_startup_bounded
    (deadline : Instant)
    (s : Startup)
    (hRun : SpawnRun deadline s) :
    StartupBounded deadline s := by
  have hTracks := tracks_of_spawnRun hRun
  -- a tracked child is not a confirmed one
  have hApart : ∀ c,
      c ∈ s.childSpawns.keys.sort (· ≤ ·) →
      s.spawnedChildren.lookup c = none := by
    intro c hMem
    rw [Finset.mem_sort, Finmap.mem_keys,
      ← Finmap.lookup_isSome, Option.isSome_iff_ne_none] at hMem
    by_contra hConfirmed
    exact hMem ((hTracks c).apart hConfirmed)
  constructor
  · intro t c attempt at' hMem
    rcases reconcile_adds (s.childSpawns.keys.sort (· ≤ ·)) s
      with ⟨marks, facts, hAdds⟩
    rw [Startup.reconcileChildSpawns, hAdds.marks,
      List.drop_left] at hMem
    have hFork := hAdds.forked c attempt at' hMem
    exact ⟨hApart c hFork.1, hFork.2⟩
  · intro t c pid hSome
    rcases reconcile_adds (s.childSpawns.keys.sort (· ≤ ·)) s
      with ⟨marks, facts, hAdds⟩
    exact hAdds.spawned c pid hSome
  · intro t fact hMem
    rcases reconcile_adds (s.childSpawns.keys.sort (· ≤ ·)) s
      with ⟨marks, facts, hAdds⟩
    rw [Startup.reconcileChildSpawns, hAdds.facts,
      List.drop_left] at hMem
    exact hAdds.seen fact hMem
  · intro t c pid hConfirmed
    apply reconcile_keeps _ ?_ hConfirmed
    intro hMem
    rw [hApart c hMem] at hConfirmed
    cases hConfirmed
  · intro e c attempt at' hMem
    rcases discover_adds e s with ⟨marks, hMarks, hNew⟩
    rw [hMarks, List.drop_left] at hMem
    exact hNew _ hMem
  · intro c
    exact (hTracks c).spent
  · intro c
    exact (hTracks c).paced

namespace Sample

def childId : String := "01jxsnap000000000000000001"

/- A supervisor that discovers a child it cannot fork. -/
def unforked : Startup :=
  (Startup.boot [] (fun _ => false) 0 []).discover
    { childRunId := some childId
      nodeId := some .first
      fork := .error "child_dir_missing"
      now := secs 1 }

/- A pass at a time, without a pid, whose fork succeeds. -/
def idlePass (now : Instant) : Tick where
  now := now
  liveRecordedPid := fun _ => none
  fork := fun _ => .ok ()

/- That child forked again when its backoff is over. -/
def reforked : Startup :=
  (unforked.reconcileChildSpawns (secs 10)
    (idlePass (secs 2))).reconcileChildSpawns (secs 10)
      (idlePass (secs 3))

end Sample

/- The child waits at two seconds and is forked at three. -/
theorem child_startup_reforked :
    Sample.reforked.marksOf Sample.childId =
        [.forked 1 (secs 1), .failed 1 (secs 1),
          .forked 2 (secs 3)] ∧
      StartupBounded (secs 10) Sample.reforked := by
  constructor
  · decide +kernel
  · apply child_startup_bounded
    unfold Sample.reforked Sample.unforked
    exact .tick _ (.tick _ (.discover _ (.boot _ _ _ _)))

end Taskfleet
