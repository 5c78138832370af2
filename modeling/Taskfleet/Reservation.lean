import Taskfleet.Decode
import Taskfleet.Fallible
import Mathlib.Data.List.Dedup
import Mathlib.Data.List.Sort

/-
  The reservation of an idempotency key: one file for each
  triple of repository, branch and key, which names the run
  that a creator works on under the key.

  Each operation reads and replaces the file under a lock of
  its own, so it is a function of what the file holds.

  Main declarations:
    * `keyHash`, `ReservationRecord`, `RecordFile`
    * `reserveIn`, `reclaimIn`
    * `finishStaleCleanup`, `releaseIn`
    * `classifyExistingReservation`
    * `reserveIn_cases`, `reclaimIn_cases`
    * `finishStaleCleanup_cases`, `releaseIn_cases`
-/

------------------------------------------------------------
-- File Names
------------------------------------------------------------

namespace Taskfleet

def fnvOffsetLow : UInt64 := 0xcbf29ce484222325

def fnvOffsetHigh : UInt64 := 0x84222325cbf29ce4

def fnvPrime : UInt64 := 0x100000001b3

def fnv1a64 (seed : UInt64) (bytes : List UInt8) : UInt64 :=
  bytes.foldl (fun h b => (h ^^^ b.toUInt64) * fnvPrime) seed

/- A length as eight bytes, the lowest first. -/
def lengthBytes (n : Nat) : List UInt8 :=
  (List.range 8).map (fun i => UInt8.ofNat (n / 256 ^ i))

/- A number as sixteen hexadecimal digits. -/
def hex16 (n : UInt64) : String :=
  let digits := Nat.toDigits 16 n.toNat
  String.ofList
    (List.replicate (16 - digits.length) '0' ++ digits)

/-
  The name of a key's file: two passes over the parts, each
  part with its length before it.
-/
def keyHash (repo branch : Option String) (key : String) :
    String :=
  let parts := [repo.getD "", branch.getD "", key]
  let pass := fun seed =>
    parts.foldl
      (fun h part =>
        let bytes := part.toUTF8.data.toList
        fnv1a64 (fnv1a64 h (lengthBytes bytes.length)) bytes)
      seed
  hex16 (pass fnvOffsetHigh) ++ hex16 (pass fnvOffsetLow)

example :
    keyHash (some "repo") (some "main") "key-1" =
      "374d54a7713c5c1529a2efe850ddaf06" := by
  decide +kernel

------------------------------------------------------------
-- Records
------------------------------------------------------------

/- The process that materializes a reserved run. -/
structure CreatorLease where
  pid : Nat
  pidStartSecs : Option Nat
  startedAt : Time
  materializerLeasePath : Option String
deriving DecidableEq, Repr

/- The git plan of a run that a caller owns. -/
structure CallerPlan where
  request : String
  branch : String
  checkout : String
  baseSha : String
deriving DecidableEq, Repr

structure ReservationRecord where
  schemaVersion : Nat
  runId : String
  creator : Option CreatorLease
  staleRunIds : List String
  callerPlan : Option CallerPlan
deriving DecidableEq, Repr

namespace ReservationRecord

def new (runId : String) (creator : CreatorLease) :
    ReservationRecord where
  schemaVersion := 1
  runId := runId
  creator := some creator
  staleRunIds := []
  callerPlan := none

end ReservationRecord

/-
  What a reservation file holds: a record, an object that is
  none, or a bare run id as older versions wrote it.
-/
inductive RecordFile where
| record (record : ReservationRecord)
| invalid (detail : String)
| bare (raw : String)
deriving DecidableEq, Repr

def readRecord (path : String) :
    Option RecordFile →
      Except CliError (Option ReservationRecord)
| none => .ok none
| some (.record record) =>
    if record.schemaVersion ≠ 1 then
      .error (.system "idempotency_record_unsupported"
        s!"reservation {path} has unsupported schema_version {record.schemaVersion} (supported: 1)"
        none)
    else .ok (some record)
| some (.invalid detail) =>
    .error (.system "idempotency_record_invalid"
      s!"parse {path}: {detail}" none)
| some (.bare raw) =>
    .ok (some {
      schemaVersion := 0
      runId := Text.trim raw
      creator := none
      staleRunIds := []
      callerPlan := none })

------------------------------------------------------------
-- Operations on a File
------------------------------------------------------------

/-
  Publish an absent record by a hard link, which fails where
  there is a file.
-/
def writeRecordExclusive
    (record : ReservationRecord) :
    Option RecordFile → Bool × Option RecordFile
| none => (true, some (.record record))
| some file => (false, some file)

inductive Reservation where
| reserved
| alreadyReserved (existing : ReservationRecord)

inductive Reclaim where
| reclaimed
| published
| changed (current : ReservationRecord)

def reserveIn
    (path : String)
    (record : ReservationRecord)
    (file : Option RecordFile) :
    Except CliError (Reservation × Option RecordFile) := do
  match ← readRecord path file with
  | some existing => return (.alreadyReserved existing, file)
  | none =>
      match writeRecordExclusive record file with
      | (true, file') => return (.reserved, file')
      | (false, file') =>
          match ← readRecord path file' with
          | some existing =>
              return (.alreadyReserved existing, file')
          | none =>
              .error (.system "io_error"
                s!"reservation {path} vanished after claim contention"
                none)

/-
  Replace an observed record whose creator was found dead.
  `published` is whether its run has a public manifest.
-/
def reclaimIn
    (path : String)
    (observed replacement : ReservationRecord)
    (published : Bool)
    (file : Option RecordFile) :
    Except CliError (Reclaim × Option RecordFile) := do
  if published then return (.published, file)
  match ← readRecord path file with
  | some current =>
      if current = observed then
        return (.reclaimed, some (.record replacement))
      else return (.changed current, file)
  | none =>
      match writeRecordExclusive replacement file with
      | (true, file') => return (.reclaimed, file')
      | (false, file') =>
          match ← readRecord path file' with
          | some current => return (.changed current, file')
          | none =>
              .error (.system "io_error"
                s!"reservation {path} vanished after reclaim contention"
                none)

/- Clear the obligations of a record that is still the run's. -/
def finishStaleCleanup
    (path runId : String)
    (file : Option RecordFile) :
    Except CliError (Option RecordFile) := do
  match ← readRecord path file with
  | none => return file
  | some record =>
      if record.runId ≠ runId then
        .error (.system "idempotency_owner_changed"
          s!"reservation changed before stale cleanup completed for {runId}"
          none)
      else if record.staleRunIds ≠ [] then
        return some (.record { record with staleRunIds := [] })
      else return file

/- Remove a record that is still the run's. -/
def releaseIn
    (path runId : String)
    (file : Option RecordFile) :
    Except CliError (Option RecordFile) := do
  match ← readRecord path file with
  | none => return file
  | some record =>
      if record.runId ≠ runId then return file else return none

------------------------------------------------------------
-- Classification
------------------------------------------------------------

inductive LeaseLiveness where
| live
| dead
| unverifiable
deriving DecidableEq, Repr

inductive ExistingReservation where
| published (runId : RunId)
| creatorLive
| creatorDead
| unverifiable
deriving DecidableEq, Repr

def creatorWithoutIdentityStaleAfterMins : Int := 30

/- Nanoseconds of a minute. -/
def minute : Int := 60 * 10 ^ 9

def parseRunId (value : String) : Except CliError RunId :=
  match RunId.parseStr value with
  | .ok id => .ok id
  | .error e => .error (.user "invalid_id" e.message (some value))

/-
  What the world says of a record: whether its run has a
  manifest, whether a lease is held, and whether a process
  with a start time is alive.
-/
structure ReservationProbe where
  published : RunId → Bool
  materializerLiveness : String → LeaseLiveness
  ownerLive : Nat → Option Nat → Bool
  now : Time

def classifyExistingReservation
    (probe : ReservationProbe) (record : ReservationRecord) :
    Except CliError ExistingReservation := do
  let runId ← parseRunId record.runId
  if probe.published runId then return .published runId
  match record.creator with
  | none => return .unverifiable
  | some creator =>
      match creator.materializerLeasePath with
      | some path =>
          match probe.materializerLiveness path with
          | .live => return .creatorLive
          | .dead => return .creatorDead
          | .unverifiable => return .unverifiable
      | none =>
          match probe.ownerLive creator.pid
              creator.pidStartSecs, creator.pidStartSecs with
          | false, _ => return .creatorDead
          | true, some _ => return .creatorLive
          | true, none =>
              -- a pid without a start time is not trusted long
              if probe.now - creator.startedAt <
                  creatorWithoutIdentityStaleAfterMins *
                    minute then
                return .creatorLive
              else return .unverifiable

/- The record that takes over one whose creator is dead. -/
def ReservationRecord.takeOver
    (proposed existing : ReservationRecord) :
    ReservationRecord :=
  { proposed with
    staleRunIds :=
      ((existing.staleRunIds ++ [existing.runId]).mergeSort
        (fun a b => decide (a ≤ b))).dedup }

------------------------------------------------------------
-- What the Operations Do
------------------------------------------------------------

open Fallible

section Specs

variable {path runId : String} {file file' : Option RecordFile}
variable {record observed replacement : ReservationRecord}

theorem readRecord_record
    (hVersion : record.schemaVersion = 1) :
    readRecord path (some (.record record)) =
      .ok (some record) := by
  simp [readRecord, hVersion]

theorem readRecord_eq_none
    (hRead : readRecord path file = .ok none) :
    file = none := by
  cases file with
  | none => rfl
  | some f =>
      cases f with
      | record record =>
          simp only [readRecord] at hRead
          split at hRead
          · cases hRead
          · cases hRead
      | invalid detail => cases hRead
      | bare raw => cases hRead

/- A reservation is written where there was no file. -/
theorem reserveIn_cases
    {answer : Reservation}
    (hOk : reserveIn path record file = .ok (answer, file')) :
    (file = none ∧ answer = .reserved ∧
        file' = some (.record record)) ∨
      ∃ existing, readRecord path file = .ok (some existing) ∧
        answer = .alreadyReserved existing ∧ file' = file := by
  unfold reserveIn at hOk
  rw [bind_eq_ok] at hOk
  rcases hOk with ⟨found, hRead, hRest⟩
  cases found with
  | some existing =>
      cases hRest
      exact .inr ⟨existing, hRead, rfl, rfl⟩
  | none =>
      have hNone := readRecord_eq_none hRead
      subst hNone
      cases hRest
      exact .inl ⟨rfl, rfl, rfl⟩

/-
  A takeover replaces the observed record or fills an absent
  one, and only where its run is not published.
-/
theorem reclaimIn_cases
    {answer : Reclaim} {published : Bool}
    (hOk :
      reclaimIn path observed replacement published file =
        .ok (answer, file')) :
    (published = false ∧ answer = .reclaimed ∧
        file' = some (.record replacement) ∧
        (file = none ∨
          readRecord path file = .ok (some observed))) ∨
      (file' = file ∧
        (answer = .published ∨
          ∃ current, readRecord path file = .ok (some current) ∧
            answer = .changed current)) := by
  unfold reclaimIn at hOk
  cases published with
  | true =>
      cases hOk
      exact .inr ⟨rfl, .inl rfl⟩
  | false =>
      simp only [Bool.false_eq_true, if_false] at hOk
      rw [bind_eq_ok] at hOk
      rcases hOk with ⟨found, hRead, hRest⟩
      cases found with
      | none =>
          have hNone := readRecord_eq_none hRead
          subst hNone
          cases hRest
          exact .inl ⟨rfl, rfl, rfl, .inl rfl⟩
      | some current =>
          dsimp only at hRest
          split at hRest
          next hSame =>
            cases hRest
            subst hSame
            exact .inl ⟨rfl, rfl, rfl, .inr hRead⟩
          next =>
            cases hRest
            exact .inr ⟨rfl, .inr ⟨current, hRead, rfl⟩⟩

/- Cleanup rewrites the record of its own run or nothing. -/
theorem finishStaleCleanup_cases
    (hOk : finishStaleCleanup path runId file = .ok file') :
    file' = file ∨
      ∃ record, readRecord path file = .ok (some record) ∧
        record.runId = runId ∧
        file' =
          some (.record { record with staleRunIds := [] }) := by
  unfold finishStaleCleanup at hOk
  rw [bind_eq_ok] at hOk
  rcases hOk with ⟨found, hRead, hRest⟩
  cases found with
  | none =>
      cases hRest
      exact .inl rfl
  | some record =>
      dsimp only at hRest
      split at hRest
      · cases hRest
      next hOwn =>
        split at hRest
        · cases hRest
          exact .inr ⟨record, hRead, not_not.mp hOwn, rfl⟩
        · cases hRest
          exact .inl rfl

/- A release removes the record of its own run or nothing. -/
theorem releaseIn_cases
    (hOk : releaseIn path runId file = .ok file') :
    file' = file ∨
      ∃ record, readRecord path file = .ok (some record) ∧
        record.runId = runId ∧ file' = none := by
  unfold releaseIn at hOk
  rw [bind_eq_ok] at hOk
  rcases hOk with ⟨found, hRead, hRest⟩
  cases found with
  | none =>
      cases hRest
      exact .inl rfl
  | some record =>
      dsimp only at hRest
      split at hRest
      · cases hRest
        exact .inl rfl
      next hOwn =>
        cases hRest
        exact .inr ⟨record, hRead, not_not.mp hOwn, rfl⟩

theorem mem_takeOver (x : String) :
    x ∈ (record.takeOver observed).staleRunIds ↔
      x ∈ observed.staleRunIds ∨ x = observed.runId := by
  simp [ReservationRecord.takeOver, List.mem_mergeSort]

end Specs

end Taskfleet
