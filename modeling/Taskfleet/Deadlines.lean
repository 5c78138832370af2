import Taskfleet.ResidentExpiry

/-
  When a policy of a run expires: the idle deadline of a
  resident worker and the end of a retained display.

  Both add a number of seconds from `run.created` to a time
  of the log. A duration holds no more milliseconds than a
  signed 64-bit number does, and the policies are only asked
  to be positive.

  Main declarations:
    * `Resident.addSeconds`, `Resident.expiryAt`
    * `Resident.idleDeadline_eq`
    * `Resident.deadlines_total`
-/

------------------------------------------------------------
-- Calendar Times
------------------------------------------------------------

namespace Taskfleet

namespace Resident

/- The first and the last time of the calendar. -/
def minUtc : Time := -8334601315200 * 10 ^ 9

def maxUtc : Time := 8210266876800 * 10 ^ 9 - 1

/- A later time, unless the calendar ends before it. -/
def deadlineAt (maxTime t : Time) (secs : Nat) : Option Time :=
  if t + secs * 10 ^ 9 ≤ maxTime then some (t + secs * 10 ^ 9)
  else none

/- `Duration::seconds`, and the addition that it is for. -/
def addSeconds (maxTime t : Time) (secs : Nat) :
    Except Panic (Option Time) :=
  if maxSeconds < secs then .error .durationOutOfBounds
  else .ok (deadlineAt maxTime t secs)

def expiryAt (maxTime retainedAt : Time) (ttlSecs : Nat) :
    Except Panic (Option Time) :=
  if ttlSecs < 2 ^ 63 then
    addSeconds maxTime retainedAt ttlSecs
  else .ok none

------------------------------------------------------------
-- The Two Deadlines
------------------------------------------------------------

/- The report that an idle deadline counts from. -/
def idleSince (n : Node) : Option Time :=
  match n.resident with
  | none => none
  | some state =>
      if state.dormantSince.isSome ∨ n.workerExit = none then
        none
      else state.openRound.map (fun round => round.reportedAt)

section Deadlines

variable {maxTime t : Time} {secs : Nat}

theorem idleDeadline_eq
    (maxTime : Time) (policy : ResidentPolicy) (n : Node) :
    idleDeadline maxTime policy n =
      match idleSince n with
      | none => .ok none
      | some t =>
          addSeconds maxTime t
            (min policy.idleExpirySecs (2 ^ 63 - 1)) := by
  unfold idleDeadline idleSince
  cases n.resident with
  | none => rfl
  | some state =>
      dsimp only
      split
      · rfl
      · cases state.openRound with
        | none => rfl
        | some round =>
            simp only [Option.map_some, addSeconds, deadlineAt]
            split
            · rfl
            · split
              · rfl
              · rfl

theorem addSeconds_eq_ok {r : Option Time} :
    addSeconds maxTime t secs = .ok r ↔
      secs ≤ maxSeconds ∧ r = deadlineAt maxTime t secs := by
  unfold addSeconds
  by_cases hLong : maxSeconds < secs
  · rw [if_pos hLong]
    simp [hLong]
  · rw [if_neg hLong]
    simp [Nat.not_lt.mp hLong, eq_comm]

theorem idle_total_iff
    (policy : ResidentPolicy) (n : Node) :
    idleDeadline maxTime policy n =
        .ok ((idleSince n).bind (fun t =>
          deadlineAt maxTime t policy.idleExpirySecs)) ↔
      idleSince n = none ∨
        policy.idleExpirySecs ≤ maxSeconds := by
  rw [idleDeadline_eq]
  cases idleSince n with
  | none => simp
  | some t =>
      dsimp only
      rw [addSeconds_eq_ok, Option.bind_some]
      have hMax : maxSeconds < 2 ^ 63 - 1 := by decide
      constructor
      · intro hAdded
        refine .inr ?_
        have hLe := hAdded.1
        omega
      · intro hShort
        have hLe : policy.idleExpirySecs ≤ maxSeconds := by
          simpa using hShort
        rw [Nat.min_eq_left (by omega)]
        exact ⟨hLe, rfl⟩

/- Seconds that fill the signed range lead past any time. -/
theorem deadlineAt_of_huge
    (hRecorded : minUtc ≤ t) (hHuge : 2 ^ 63 ≤ secs) :
    deadlineAt maxUtc t secs = none := by
  have hBound : (-8334601315200 * 10 ^ 9 : Int) ≤ t := hRecorded
  have hLate :
      ¬ (t + secs * 10 ^ 9 ≤
        (8210266876800 * 10 ^ 9 - 1 : Int)) := by
    omega
  exact if_neg hLate

theorem expiry_total_iff
    (hRecorded : minUtc ≤ t) (secs : Nat) :
    expiryAt maxUtc t secs = .ok (deadlineAt maxUtc t secs) ↔
      secs ≤ maxSeconds ∨ 2 ^ 63 ≤ secs := by
  unfold expiryAt
  by_cases hSigned : secs < 2 ^ 63
  · rw [if_pos hSigned, addSeconds_eq_ok]
    constructor
    · intro hAdded
      exact .inl hAdded.1
    · intro hCase
      exact ⟨hCase.resolve_right (Nat.not_le.mpr hSigned), rfl⟩
  · have hHuge : 2 ^ 63 ≤ secs := Nat.not_lt.mp hSigned
    rw [if_neg hSigned, deadlineAt_of_huge hRecorded hHuge]
    exact iff_of_true rfl (.inr hHuge)

/-
  Both deadlines are returned, each right up to the end of
  the calendar, exactly where no duration is built that does
  not fit. An idle expiry counts only where a round is open.
-/
theorem deadlines_total
    (policy : ResidentPolicy)
    (retention : TmuxRetentionPolicy)
    (n : Node)
    (retainedAt : Time)
    (hRecorded : minUtc ≤ retainedAt) :
    (idleDeadline maxUtc policy n =
        .ok ((idleSince n).bind (fun t =>
          deadlineAt maxUtc t policy.idleExpirySecs)) ∧
      expiryAt maxUtc retainedAt
          retention.completedWindowTtlSecs =
        .ok (deadlineAt maxUtc retainedAt
          retention.completedWindowTtlSecs)) ↔
      ((idleSince n = none ∨
          policy.idleExpirySecs ≤ maxSeconds) ∧
        (retention.completedWindowTtlSecs ≤ maxSeconds ∨
          2 ^ 63 ≤ retention.completedWindowTtlSecs)) :=
  and_congr (idle_total_iff policy n)
    (expiry_total_iff hRecorded _)

end Deadlines

end Resident

------------------------------------------------------------
-- A Policy Too Long
------------------------------------------------------------

namespace Sample

/- Positive numbers of seconds, as the reducer asks. -/
def endlessData : Json :=
  .obj
    [("kind", .str "spinoff"),
      ("lifecycle", .str "autonomous"),
      ("resident",
        .obj
          [("idle_expiry_secs", .int (2 ^ 62)),
            ("name", .str "r")]),
      ("title", .str "t"),
      ("tmux_retention",
        .obj
          [("completed_window_max", .int 1),
            ("completed_window_ttl_secs", .int (2 ^ 62)),
            ("persistent", .bool true)])]

/- A worker with such policies waits between its rounds. -/
def endlessDisk : Disk :=
  after
    (.append (request .runCreated none endlessData) ::
      restingCalls.tail)

end Sample

namespace Resident

/- A minute of idleness and a day of display are short. -/
theorem deadlines_of_a_day :
    ∃ seen,
      waiting Sample.env Sample.restingDisk = some seen ∧
      idleDeadline maxUtc seen.policy seen.node =
        .ok ((idleSince seen.node).bind (fun t =>
          deadlineAt maxUtc t seen.policy.idleExpirySecs)) ∧
      expiryAt maxUtc 0 86400 =
        .ok (deadlineAt maxUtc 0 86400) := by
  have hFacts :
      (waiting Sample.env Sample.restingDisk).any (fun seen =>
        seen.policy.idleExpirySecs == 60) = true := by
    decide +kernel
  simp only [Option.any_eq_true, beq_iff_eq] at hFacts
  rcases hFacts with ⟨seen, hFound, hMinute⟩
  have hShort : seen.policy.idleExpirySecs ≤ maxSeconds := by
    rw [hMinute]
    decide
  exact ⟨seen, hFound,
    (deadlines_total seen.policy ⟨true, 86400, 1⟩ seen.node 0
      (by decide)).mpr ⟨.inr hShort, .inl (by decide)⟩⟩

/-
  Policies that `run.created` was accepted with, and a worker
  that waits: neither of the deadlines is returned.
-/
theorem not_deadlines_total :
    ¬ ∀ (env : RunEnv) (d : Disk) (seen : Waiting)
        (retention : TmuxRetentionPolicy) (t : Time),
      ResidentRun env d →
      waiting env d = some seen →
      seen.manifest.tmuxRetention = some retention →
      minUtc ≤ t →
      t ≤ maxUtc →
      (∃ r, idleDeadline maxUtc seen.policy seen.node =
        .ok r) ∧
        ∃ r, expiryAt maxUtc t
          retention.completedWindowTtlSecs = .ok r := by
  intro hAlways
  have hFacts :
      (waiting Sample.env Sample.endlessDisk).any (fun seen =>
        seen.manifest.tmuxRetention ==
            some ⟨true, 2 ^ 62, 1⟩ &&
          idleDeadline maxUtc seen.policy seen.node ==
            .error .durationOutOfBounds) = true := by
    decide +kernel
  simp only [Option.any_eq_true, Bool.and_eq_true, beq_iff_eq]
    at hFacts
  rcases hFacts with ⟨seen, hFound, hPolicy, hPanics⟩
  rcases (hAlways Sample.env Sample.endlessDisk seen _ 0
    (Sample.residentRun_after _) hFound hPolicy (by decide)
    (by decide)).1 with ⟨r, hReturns⟩
  rw [hPanics] at hReturns
  cases hReturns

end Resident

end Taskfleet
