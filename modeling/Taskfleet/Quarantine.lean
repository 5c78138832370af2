import Taskfleet.Physical
import Taskfleet.Reducer.Commit

/-
  What a quarantine leaves on disk, at its end and at every
  point where it may be cut.

  Main declarations:
    * `Physical.quarantine_sound`, `quarantine_poisoned`
    * `Physical.original_kept`
    * `Physical.quarantine_refines`
    * `Physical.quarantine_crashSafe_iff`
-/

------------------------------------------------------------
-- Runs of a Quarantine
------------------------------------------------------------

namespace Taskfleet

namespace Physical

/- A complete non-empty line that is not a valid event. -/
def Corrupt (codec : LineCodec) (body : Bytes) : Prop :=
  lineContent body ≠ [] ∧
    ∀ ev, codec.fromSlice (lineContent body) ≠ .ok ev

theorem isCorruptLine_iff (codec : LineCodec) (body : Bytes) :
    isCorruptLine codec body = true ↔ Corrupt codec body := by
  rcases line_cases codec body with
    ⟨hBlank, hFine, -⟩ | ⟨ev, hContent, hParse, hFine, -⟩ |
      ⟨e, hContent, hParse, hCorrupt, -⟩
  · simp [hFine, Corrupt, hBlank]
  · simp [hFine, Corrupt, hParse]
  · simp [hCorrupt, Corrupt, hContent, hParse]

theorem isCorruptLine_eq_false
    (codec : LineCodec) (body : Bytes) :
    isCorruptLine codec body = false ↔
      ¬ Corrupt codec body := by
  rw [← isCorruptLine_iff]
  simp

section Runs

variable {codec : LineCodec}
variable {backupTs : String}
variable {d : LogDir}
variable {raw : Bytes}

theorem quarantine_missing
    (hLog : d.events = none) :
    quarantineCorruptLinesUnlocked codec backupTs d =
      ([], .ok none) := by
  simp [quarantineCorruptLinesUnlocked, bind, Durable.andThen,
    Durable.read, hLog, pure, Durable.ret]

/- A clean log is neither renamed nor rewritten. -/
theorem quarantine_sound
    (hLog : d.events = some raw)
    (hSound :
      ∀ body ∈ lines raw, isCorruptLine codec body = false) :
    quarantineCorruptLinesUnlocked codec backupTs d =
      ([], .ok none) := by
  have hOffsets := (corruptOffsets_eq_nil codec 0 _).mpr hSound
  simp [quarantineCorruptLinesUnlocked, bind, Durable.andThen,
    Durable.read, hLog, excise_raw, hOffsets, pure,
    Durable.ret]

/- The directory once the log is renamed aside. -/
def LogDir.aside (d : LogDir) (backupTs : String) : LogDir :=
  renameAside (backupPathFor backupTs) d

theorem quarantine_poisoned
    (hLog : d.events = some raw)
    (hCorrupt :
      ∃ body ∈ lines raw, isCorruptLine codec body = true) :
    quarantineCorruptLinesUnlocked codec backupTs d =
      ([(.renamed, d.aside backupTs),
        (.tmpCreated,
          { d.aside backupTs with tmp := some [] }),
        (.tmpWritten,
          { d.aside backupTs with
            tmp := some (recovered codec raw) }),
        (.replaced,
          { d.aside backupTs with
            events := some (recovered codec raw)
            tmp := none })],
        .ok (some ⟨backupPathFor backupTs,
          corruptOffsets codec 0 (lines raw)⟩)) := by
  have hOffsets :
      corruptOffsets codec 0 (lines raw) ≠ [] := by
    intro hNil
    have hSound := (corruptOffsets_eq_nil codec 0 _).mp hNil
    rcases hCorrupt with ⟨body, hMem, hBad⟩
    simp [hSound body hMem] at hBad
  simp [quarantineCorruptLinesUnlocked, writeAtomic, bind,
    Durable.andThen, Durable.read, Durable.write, hLog,
    excise_raw, hOffsets, pure, Durable.ret, LogDir.aside]

/-
  The original bytes are never lost: at every point they are
  in the log or in the backup.
-/
theorem original_kept
    (hLog : d.events = some raw)
    (entry : LogStep × LogDir)
    (hEntry :
      entry ∈
        (quarantineCorruptLinesUnlocked codec backupTs d).1) :
    entry.2.backups (backupPathFor backupTs) = some raw := by
  by_cases hSound :
      ∀ body ∈ lines raw, isCorruptLine codec body = false
  · simp [quarantine_sound hLog hSound] at hEntry
  · have hCorrupt :
        ∃ body ∈ lines raw,
          isCorruptLine codec body = true := by
      simpa using hSound
    have hAside :
        (d.aside backupTs).backups (backupPathFor backupTs) =
          some raw := by
      simp [LogDir.aside, renameAside, hLog]
    simp only [quarantine_poisoned hLog hCorrupt,
      List.mem_cons, List.not_mem_nil, or_false] at hEntry
    rcases hEntry with rfl | rfl | rfl | rfl <;> exact hAside

/- The log a finished quarantine leaves. -/
theorem final_events
    (hLog : d.events = some raw) :
    ((quarantineCorruptLinesUnlocked codec backupTs).final
        d).events =
      some (recovered codec raw) := by
  by_cases hSound :
      ∀ body ∈ lines raw, isCorruptLine codec body = false
  · simp [Durable.final, quarantine_sound hLog hSound, hLog,
      recovered_of_sound hSound]
  · have hCorrupt :
        ∃ body ∈ lines raw,
          isCorruptLine codec body = true := by
      simpa using hSound
    simp [Durable.final, quarantine_poisoned hLog hCorrupt]

end Runs

/- Every line a quarantine keeps is sound. -/
theorem recovered_sound
    (codec : LineCodec)
    (raw : Bytes) :
    ∀ body ∈ lines (recovered codec raw),
      isCorruptLine codec body = false := by
  intro body hMem
  simp only [lines_recovered, List.mem_filter] at hMem
  simpa using hMem.2

------------------------------------------------------------
-- Lines and Bytes
------------------------------------------------------------

/- `u8::is_ascii_whitespace`. -/
def isAsciiWhitespace (b : UInt8) : Bool :=
  b == 32 || b == 9 || b == 10 || b == 12 || b == 13

/-
  A complete line as the strict reader sees it. It does not
  tell a line with a header from junk.
-/
def logLine (codec : LineCodec) (body : Bytes) : LogLine :=
  if (lineContent body).isEmpty then .blank
  else
    match codec.fromSlice (lineContent body) with
    | .ok ev => .event ev
    | .error _ =>
        if body.all isAsciiWhitespace then .space else .junk

/- The log as lines; a missing one has none. -/
def logLines (codec : LineCodec) (log : Option Bytes) :
    List LogLine :=
  (log.map lines).getD [] |>.map (logLine codec)

/- Whether bytes follow the last newline. -/
def isTorn (log : Option Bytes) : Bool :=
  !((log.map tornTail).getD []).isEmpty

theorem isCorrupt_logLine (codec : LineCodec) (body : Bytes) :
    (logLine codec body).isCorrupt =
      isCorruptLine codec body := by
  rcases line_cases codec body with
    ⟨hBlank, hFine, -⟩ | ⟨ev, hContent, hParse, hFine, -⟩ |
      ⟨e, hContent, hParse, hCorrupt, -⟩
  · simp [logLine, hBlank, hFine]
  · simp [logLine, hContent, hParse, hFine]
  · simp only [logLine, hContent, hParse, hCorrupt,
      List.isEmpty_iff, if_false]
    split <;> rfl

/- The lines the two levels keep are the same. -/
theorem logLines_recovered (codec : LineCodec) (raw : Bytes) :
    logLines codec (some (recovered codec raw)) =
      (logLines codec (some raw)).filter
        (fun line => !line.isCorrupt) := by
  simp only [logLines, Option.map_some, Option.getD_some,
    lines_recovered, List.filter_map]
  congr 1
  apply List.filter_congr
  intro body hMem
  simp [isCorrupt_logLine]

theorem corruptLineNumbers_eq_nil (log : List LogLine) :
    corruptLineNumbers log = [] ↔
      ∀ line ∈ log, line.isCorrupt = false := by
  simp only [corruptLineNumbers, List.map_eq_nil_iff,
    List.filter_eq_nil_iff, List.mem_zipIdx_iff_getElem?]
  constructor
  · intro hNone line hMem
    rcases List.getElem?_of_mem hMem with ⟨i, hAt⟩
    simpa using hNone (line, i) hAt
  · intro hNone entry hAt
    simp [hNone entry.1 (List.mem_of_getElem? hAt)]

/-
  The quarantine of lines is the quarantine of bytes, seen
  through the readers.
-/
theorem quarantine_refines
    {codec : LineCodec}
    {backupTs : String}
    {d : LogDir}
    {disk : Disk}
    (hLines : disk.lines = logLines codec d.events)
    (hTorn : disk.torn = isTorn d.events) :
    ((quarantineCorruptLines backupTs).final disk).lines =
        logLines codec
          ((quarantineCorruptLinesUnlocked codec
            backupTs).final d).events ∧
      ((quarantineCorruptLines backupTs).final disk).torn =
        isTorn
          ((quarantineCorruptLinesUnlocked codec
            backupTs).final d).events := by
  have hAbove :
      ((quarantineCorruptLines backupTs).final disk).lines =
          disk.lines.filter (fun line => !line.isCorrupt) ∧
        ((quarantineCorruptLines backupTs).final disk).torn =
          disk.torn := by
    by_cases hNone : corruptLineNumbers disk.lines = []
    · have hKept :
          disk.lines.filter (fun line => !line.isCorrupt) =
            disk.lines := by
        apply List.filter_eq_self.mpr
        intro line hMem
        simp [(corruptLineNumbers_eq_nil _).mp hNone line hMem]
      simp [quarantineCorruptLines, Durable.final, bind,
        Durable.andThen, Durable.read, hNone, pure,
        Durable.ret, hKept]
    · simp [quarantineCorruptLines, Durable.final, bind,
        Durable.andThen, Durable.read, hNone, pure,
        Durable.ret, Durable.write]
  rw [hAbove.1, hAbove.2, hLines, hTorn]
  cases hLog : d.events with
  | none =>
      simp [Durable.final, quarantine_missing hLog, hLog,
        logLines]
  | some raw =>
      rw [final_events hLog, logLines_recovered]
      simp [isTorn]

------------------------------------------------------------
-- Exactness and Crash Safety
------------------------------------------------------------

/-
  A quarantine of the log `raw` reports something exactly
  for a corrupt line, removes exactly the corrupt lines, and
  leaves a log that the strict reader accepts and that has
  nothing to quarantine.
-/
structure QuarantineExact
    (codec : LineCodec)
    (backupTs : String)
    (d : LogDir)
    (raw : Bytes) : Prop where
  reported :
    ∃ outcome,
      (quarantineCorruptLinesUnlocked codec backupTs).result
          d = .ok outcome ∧
        (outcome.isSome ↔
          ∃ body ∈ lines raw, Corrupt codec body) ∧
        ∀ q ∈ outcome,
          q.removedByteOffsets =
            corruptOffsets codec 0 (lines raw)
  content :
    ((quarantineCorruptLinesUnlocked codec backupTs).final
      d).events = some (recovered codec raw)
  readable :
    ∃ events,
      readAllEvents codec
        ((quarantineCorruptLinesUnlocked codec
          backupTs).final d).events = .ok events
  settled :
    ∀ againTs,
      (quarantineCorruptLinesUnlocked codec againTs).result
        ((quarantineCorruptLinesUnlocked codec
          backupTs).final d) = .ok none

/-
  Wherever a quarantine is cut, the log is there, with the
  original or with the recovered content.
-/
def CrashSafe
    (codec : LineCodec)
    (backupTs : String)
    (d : LogDir)
    (raw : Bytes) : Prop :=
  ∀ entry ∈ (quarantineCorruptLinesUnlocked codec backupTs d).1,
    entry.2.events = some raw ∨
      entry.2.events = some (recovered codec raw)

theorem quarantineExact
    {codec : LineCodec}
    {backupTs : String}
    {d : LogDir}
    {raw : Bytes}
    (hLog : d.events = some raw) :
    QuarantineExact codec backupTs d raw := by
  have hFinal :
      ((quarantineCorruptLinesUnlocked codec backupTs).final
          d).events = some (recovered codec raw) :=
    final_events hLog
  have hSound := recovered_sound codec raw
  constructor
  · by_cases hClean :
        ∀ body ∈ lines raw, isCorruptLine codec body = false
    · refine ⟨none, ?_, ?_, by simp⟩
      · simp [Durable.result, quarantine_sound hLog hClean]
      · simpa [← isCorruptLine_iff] using hClean
    · have hCorrupt :
          ∃ body ∈ lines raw,
            isCorruptLine codec body = true := by
        simpa using hClean
      refine ⟨some ⟨backupPathFor backupTs,
        corruptOffsets codec 0 (lines raw)⟩, ?_, ?_, ?_⟩
      · simp [Durable.result,
          quarantine_poisoned hLog hCorrupt]
      · simpa [← isCorruptLine_iff] using hCorrupt
      · simp
  · exact hFinal
  · rw [hFinal]
    exact ⟨_, readAllEvents_sound hSound⟩
  · intro againTs
    simp [Durable.result, quarantine_sound hFinal hSound]

/- The rename alone leaves the run without a log. -/
theorem not_crashSafe
    {codec : LineCodec}
    {backupTs : String}
    {d : LogDir}
    {raw : Bytes}
    (hLog : d.events = some raw)
    (hCorrupt : ∃ body ∈ lines raw, Corrupt codec body) :
    ¬ CrashSafe codec backupTs d raw := by
  intro hSafe
  have hBad :
      ∃ body ∈ lines raw, isCorruptLine codec body = true := by
    simpa [isCorruptLine_iff] using hCorrupt
  have hCut := hSafe (.renamed, d.aside backupTs) (by
    simp [quarantine_poisoned hLog hBad])
  simp [LogDir.aside, renameAside] at hCut

end Physical

namespace Sample

def ascii (text : String) : Bytes :=
  text.toList.map (fun c => UInt8.ofNat c.toNat)

/- The log line of the creation of the sample run. -/
def createdText : Bytes :=
  ascii
    ("\x7b\"ts\":\"1970-01-01T00:00:01Z\",\"seq\":1," ++
      "\"kind\":\"run.created\"," ++
      "\"run_id\":\"01jxsnap000000000000000000\"," ++
      "\"data\":\x7b\"kind\":\"spinoff\"," ++
      "\"lifecycle\":\"autonomous\",\"title\":\"t\"\x7d\x7d")

/- The JSON reader on that line and on lines of junk. -/
def textCodec : LineCodec where
  fromSlice := fun text =>
    if text = createdText then .ok runCreated
    else .error "expected value at line 1 column 1"
  escapeLossy := fun text =>
    String.ofList (text.map (fun b => Char.ofNat b.toNat))

/- A log of one event and one line that is not JSON. -/
def poisonedLog : Bytes :=
  Lines.join newline [createdText, ascii "junk"]

def poisonedDir : Physical.LogDir where
  events := some poisonedLog
  backups := fun _ => none
  tmp := none

theorem lines_poisonedLog :
    Physical.lines poisonedLog =
      [createdText, ascii "junk"] := by
  decide +kernel

theorem corrupt_junk :
    Physical.Corrupt textCodec (ascii "junk") := by
  rw [← Physical.isCorruptLine_iff]
  decide +kernel

end Sample

namespace Physical

/-
  A quarantine is exact for every log. It is also safe to
  cut anywhere just for the logs that have nothing to
  quarantine.
-/
theorem quarantine_crashSafe_iff
    (codec : LineCodec)
    (backupTs : String)
    (d : LogDir)
    (raw : Bytes)
    (hLog : d.events = some raw) :
    QuarantineExact codec backupTs d raw ∧
      (QuarantineExact codec backupTs d raw ∧
          CrashSafe codec backupTs d raw ↔
        ∀ body ∈ lines raw, ¬ Corrupt codec body) := by
  have hExact : QuarantineExact codec backupTs d raw :=
    quarantineExact hLog
  refine ⟨hExact, ?_, ?_⟩
  · rintro ⟨-, hSafe⟩ body hMem hCorrupt
    exact not_crashSafe hLog ⟨body, hMem, hCorrupt⟩ hSafe
  · intro hClean
    refine ⟨hExact, ?_⟩
    intro entry hEntry
    have hSound :
        ∀ body ∈ lines raw,
          isCorruptLine codec body = false := by
      intro body hMem
      exact (isCorruptLine_eq_false codec body).mpr
        (hClean body hMem)
    simp [quarantine_sound hLog hSound] at hEntry

theorem quarantine_crashSafe_iff_poisonedLog :
    QuarantineExact Sample.textCodec "20260612T000000Z"
        Sample.poisonedDir Sample.poisonedLog ∧
      ¬ (QuarantineExact Sample.textCodec "20260612T000000Z"
            Sample.poisonedDir Sample.poisonedLog ∧
          CrashSafe Sample.textCodec "20260612T000000Z"
            Sample.poisonedDir Sample.poisonedLog) := by
  have hBoth :=
    quarantine_crashSafe_iff Sample.textCodec
      "20260612T000000Z" Sample.poisonedDir
      Sample.poisonedLog rfl
  refine ⟨hBoth.1, ?_⟩
  rw [hBoth.2]
  intro hClean
  apply hClean (Sample.ascii "junk")
  · simp [Sample.lines_poisonedLog]
  · exact Sample.corrupt_junk

/-
  A crash after the rename: the run has no log, although the
  recovered one would keep its first event.
-/
theorem quarantine_not_crashSafe :
    ¬ ∀ codec backupTs d raw,
      d.events = some raw →
        QuarantineExact codec backupTs d raw ∧
          CrashSafe codec backupTs d raw := by
  intro hAll
  have hSafe :=
    (hAll Sample.textCodec "20260612T000000Z"
      Sample.poisonedDir Sample.poisonedLog rfl).2
  have hMem :
      Sample.ascii "junk" ∈ lines Sample.poisonedLog := by
    simp [Sample.lines_poisonedLog]
  exact not_crashSafe rfl
    ⟨Sample.ascii "junk", hMem, Sample.corrupt_junk⟩ hSafe

end Physical

end Taskfleet
