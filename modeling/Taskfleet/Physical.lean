import Taskfleet.Lines
import Taskfleet.Events

/-
  The event log as bytes: the physical line reader behind
  the strict readers, and the quarantine of corrupt lines
  with its file-system steps.

  A line is read by `serde_json` and shown by the standard
  library's lossy decoder; both are fields of `LineCodec`.

  Main declarations:
    * `PhysicalLineReader.nextLine`
    * `Physical.forEachEventProbe`, `Physical.readAllEvents`
    * `Physical.excise`, `writeAtomic`
    * `Physical.quarantineCorruptLinesUnlocked`
    * `Physical.readAllEvents_ok_iff`
    * `Physical.excise_eq`
-/

------------------------------------------------------------
-- Physical Lines
------------------------------------------------------------

namespace Taskfleet

abbrev Bytes := List UInt8

def newline : UInt8 := 10

def carriageReturn : UInt8 := 13

/-
  `serde_json::from_slice::<Event>`, and the rendering of
  bytes by `String::from_utf8_lossy` and `escape_debug`.
-/
structure LineCodec where
  fromSlice : Bytes → Except String Event
  escapeLossy : Bytes → String

/-
  Strip one trailing newline, and a carriage return that
  stands before it.
-/
def trimLineEnd (buf : Bytes) : Bytes :=
  if buf.getLast? = some newline then
    if buf.dropLast.getLast? = some carriageReturn then
      buf.dropLast.dropLast
    else buf.dropLast
  else buf

def corruptLineExcerptBytes : Nat := 100

/- A bounded, escaped prefix of a malformed line. -/
def LineCodec.excerpt (codec : LineCodec) (line : Bytes) :
    String :=
  codec.escapeLossy (line.take corruptLineExcerptBytes) ++
    (if line.length > corruptLineExcerptBytes then "…" else "")

structure PhysicalLine where
  content : Bytes
  complete : Bool
  lineno : Nat
deriving DecidableEq, Repr

structure PhysicalLineReader where
  rest : Bytes
  lineno : Nat
  done : Bool
deriving DecidableEq, Repr

namespace PhysicalLineReader

def new (bytes : Bytes) : PhysicalLineReader where
  rest := bytes
  lineno := 0
  done := false

/- The next physical line, or `none` at the end of the file. -/
def nextLine (reader : PhysicalLineReader) :
    Option (PhysicalLine × PhysicalLineReader) :=
  if reader.done then none
  else if reader.rest = [] then none
  else
    let buf := (Lines.readUntil newline reader.rest).1
    let complete := buf.getLast? == some newline
    some
      (⟨trimLineEnd buf, complete, reader.lineno + 1⟩,
        ⟨(Lines.readUntil newline reader.rest).2,
          reader.lineno + 1, !complete⟩)

theorem nextLine_lt
    {reader reader' : PhysicalLineReader}
    {line : PhysicalLine}
    (hNext : reader.nextLine = some (line, reader')) :
    reader'.rest.length < reader.rest.length := by
  unfold nextLine at hNext
  split at hNext
  · cases hNext
  · split at hNext
    · cases hNext
    · rename_i hRest
      simp only [Option.some.injEq, Prod.mk.injEq] at hNext
      rw [← hNext.2]
      exact Lines.readUntil_lt hRest

end PhysicalLineReader

namespace Physical

/- The error of a complete line that does not decode. -/
def notAnEvent
    (codec : LineCodec)
    (line : PhysicalLine)
    (e : String) : Error :=
  .corruptEventLog .events
    ("line " ++ toString line.lineno ++
      " is not a valid event: " ++
      codec.excerpt line.content ++ " [" ++ e ++ "]")

/-
  Visit the events of the complete lines in file order. A
  torn final line ends the walk, an empty line is passed.
-/
def forEachEvent
    {σ : Type}
    (codec : LineCodec)
    (visit : σ → Event → Except Error σ)
    (reader : PhysicalLineReader)
    (acc : σ) : Except Error σ :=
  match _hNext : reader.nextLine with
  | none => .ok acc
  | some (line, reader') =>
      if !line.complete then .ok acc
      else if line.content.isEmpty then
        forEachEvent codec visit reader' acc
      else
        match codec.fromSlice line.content with
        | .error e => .error (notAnEvent codec line e)
        | .ok ev =>
            match visit acc ev with
            | .error e => .error e
            | .ok acc' =>
                forEachEvent codec visit reader' acc'
termination_by reader.rest.length
decreasing_by
  all_goals exact PhysicalLineReader.nextLine_lt _hNext

/- A missing log is an empty stream. -/
def readAllEvents (codec : LineCodec) :
    Option Bytes → Except Error (List Event)
| none => .ok []
| some bytes =>
    forEachEvent codec (fun out ev => .ok (out ++ [ev]))
      (.new bytes) []

------------------------------------------------------------
-- Quarantine
------------------------------------------------------------

/-
  Walk the physical lines, keeping the raw bytes of every
  line but the corrupt ones, whose offsets are collected.
-/
def excise
    (codec : LineCodec)
    (raw : Bytes)
    (offset : Nat)
    (recovered : Bytes)
    (removed : List Nat) : Bytes × List Nat :=
  if _hRaw : raw = [] then (recovered, removed)
  else
    let rawLine := (Lines.readUntil newline raw).1
    let complete := rawLine.getLast? == some newline
    let content := trimLineEnd rawLine
    let corrupt :=
      complete && !content.isEmpty &&
        (codec.fromSlice content).toOption.isNone
    if corrupt then
      excise codec (Lines.readUntil newline raw).2
        (offset + rawLine.length) recovered
        (removed ++ [offset])
    else
      excise codec (Lines.readUntil newline raw).2
        (offset + rawLine.length) (recovered ++ rawLine)
        removed
termination_by raw.length
decreasing_by
  all_goals exact Lines.readUntil_lt _hRaw

/-
  The files of a run directory that a quarantine touches:
  the log, the backups by their names, and the temporary
  file of an atomic write.
-/
structure LogDir where
  events : Option Bytes
  backups : String → Option Bytes
  tmp : Option Bytes

/- The file-system steps between which a crash may fall. -/
inductive LogStep where
| renamed
| tmpCreated
| tmpWritten
| replaced
deriving DecidableEq, Repr

structure Quarantine where
  backupPath : String
  removedByteOffsets : List Nat
deriving DecidableEq, Repr

/- Write a temporary file and rename it over the log. -/
def writeAtomic (bytes : Bytes) :
    Durable LogStep LogDir Error Unit := do
  Durable.write .tmpCreated
    (fun d => { d with tmp := some [] })
  Durable.write .tmpWritten
    (fun d => { d with tmp := some bytes })
  Durable.write .replaced
    (fun d => { d with events := d.tmp, tmp := none })

def backupPathFor (ts : String) : String :=
  "events.jsonl" ++ ".corrupt-" ++ ts ++ ".bak"

def renameAside (backupPath : String) (d : LogDir) : LogDir :=
  { d with
    events := none
    backups := Function.update d.backups backupPath d.events }

def quarantineCorruptLinesUnlocked
    (codec : LineCodec)
    (backupTs : String) :
    Durable LogStep LogDir Error (Option Quarantine) := do
  let d ← Durable.read
  match d.events with
  | none => return none
  | some raw =>
      let (recovered, removed) := excise codec raw 0 [] []
      if removed.isEmpty then return none
      else do
        let backupPath := backupPathFor backupTs
        Durable.write .renamed (renameAside backupPath)
        writeAtomic recovered
        return some ⟨backupPath, removed⟩

------------------------------------------------------------
-- What the Walks Compute
------------------------------------------------------------

/- The content of a complete line, by its body. -/
def lineContent (body : Bytes) : Bytes :=
  if body.getLast? = some carriageReturn then body.dropLast
  else body

/- A complete non-empty line that is not a valid event. -/
def isCorruptLine (codec : LineCodec) (body : Bytes) : Bool :=
  !(lineContent body).isEmpty &&
    (codec.fromSlice (lineContent body)).toOption.isNone

/- The event of a complete line, if it holds one. -/
def lineEvent? (codec : LineCodec) (body : Bytes) :
    Option Event :=
  if (lineContent body).isEmpty then none
  else (codec.fromSlice (lineContent body)).toOption

/- The bodies of the complete lines of a log. -/
def lines (raw : Bytes) : List Bytes :=
  (Lines.split newline raw).1

/- The bytes after the last newline of a log. -/
def tornTail (raw : Bytes) : Bytes :=
  (Lines.split newline raw).2

/- A log without its corrupt lines. -/
def recovered (codec : LineCodec) (raw : Bytes) : Bytes :=
  Lines.join newline
      ((lines raw).filter (fun body =>
        !isCorruptLine codec body)) ++
    tornTail raw

/- The offsets at which the corrupt lines start. -/
def corruptOffsets (codec : LineCodec) :
    Nat → List Bytes → List Nat
| _, [] => []
| offset, body :: rest =>
    if isCorruptLine codec body then
      offset ::
        corruptOffsets codec (offset + (body.length + 1)) rest
    else corruptOffsets codec (offset + (body.length + 1)) rest

theorem filed_lines (raw : Bytes) :
    Lines.Filed newline (lines raw) (tornTail raw) :=
  Lines.filed_split raw

theorem join_lines (raw : Bytes) :
    Lines.join newline (lines raw) ++ tornTail raw = raw :=
  Lines.join_split raw

@[simp] theorem trimLineEnd_line (body : Bytes) :
    trimLineEnd (body ++ [newline]) = lineContent body := by
  simp [trimLineEnd, lineContent]

theorem getLast_ne_newline
    {torn : Bytes}
    (hTorn : newline ∉ torn) :
    torn.getLast? ≠ some newline := by
  intro hLast
  exact hTorn (List.mem_of_getLast? hLast)

theorem corruptOffsets_eq_nil
    (codec : LineCodec)
    (offset : Nat)
    (bodies : List Bytes) :
    corruptOffsets codec offset bodies = [] ↔
      ∀ body ∈ bodies, isCorruptLine codec body = false := by
  induction bodies generalizing offset with
  | nil => simp [corruptOffsets]
  | cons body rest ih =>
      cases hCorrupt : isCorruptLine codec body with
      | true => simp [corruptOffsets, hCorrupt]
      | false => simp [corruptOffsets, hCorrupt, ih]

theorem excise_nil
    (codec : LineCodec)
    (offset : Nat)
    (kept : Bytes)
    (removed : List Nat) :
    excise codec [] offset kept removed = (kept, removed) := by
  rw [excise]
  simp

/- The walk keeps a torn tail as it is. -/
theorem excise_torn
    (codec : LineCodec)
    {torn : Bytes}
    (hTorn : newline ∉ torn)
    (offset : Nat)
    (kept : Bytes)
    (removed : List Nat) :
    excise codec torn offset kept removed =
      (kept ++ torn, removed) := by
  by_cases hEmpty : torn = []
  · simp [hEmpty, excise_nil]
  · rw [excise]
    simp [hEmpty, Lines.readUntil_torn hTorn,
      getLast_ne_newline hTorn, excise_nil]

/- One complete line of the walk. -/
theorem excise_line
    (codec : LineCodec)
    {body : Bytes}
    (hBody : newline ∉ body)
    (text : Bytes)
    (offset : Nat)
    (kept : Bytes)
    (removed : List Nat) :
    excise codec (body ++ newline :: text) offset kept removed =
      if isCorruptLine codec body then
        excise codec text (offset + (body.length + 1)) kept
          (removed ++ [offset])
      else
        excise codec text (offset + (body.length + 1))
          (kept ++ (body ++ [newline])) removed := by
  rw [excise]
  simp [Lines.readUntil_line text hBody, isCorruptLine]

/- The walk, over the whole log. -/
theorem excise_eq
    (codec : LineCodec)
    {bodies : List Bytes}
    {torn : Bytes}
    (hFiled : Lines.Filed newline bodies torn)
    (offset : Nat)
    (kept : Bytes)
    (removed : List Nat) :
    excise codec (Lines.join newline bodies ++ torn) offset
        kept removed =
      (kept ++ (Lines.join newline
          (bodies.filter (fun body =>
            !isCorruptLine codec body)) ++ torn),
        removed ++ corruptOffsets codec offset bodies) := by
  induction bodies generalizing offset kept removed with
  | nil =>
      simpa [corruptOffsets] using
        excise_torn codec hFiled.torn offset kept removed
  | cons body rest ih =>
      rw [Lines.join_cons_append,
        excise_line codec hFiled.head]
      cases hCorrupt : isCorruptLine codec body with
      | true =>
          simp [ih hFiled.tail, corruptOffsets, hCorrupt]
      | false =>
          simp [ih hFiled.tail, corruptOffsets, hCorrupt]

theorem excise_raw (codec : LineCodec) (raw : Bytes) :
    excise codec raw 0 [] [] =
      (recovered codec raw,
        corruptOffsets codec 0 (lines raw)) := by
  have hWalk :=
    excise_eq codec (filed_lines raw) 0 [] []
  rw [join_lines] at hWalk
  simpa [recovered] using hWalk

/- The recovered log has the sound lines and the same tail. -/
theorem split_recovered (codec : LineCodec) (raw : Bytes) :
    Lines.split newline (recovered codec raw) =
      ((lines raw).filter (fun body =>
        !isCorruptLine codec body), tornTail raw) := by
  apply Lines.split_join
  constructor
  · intro body hMem
    exact (filed_lines raw).bodies body (List.mem_of_mem_filter hMem)
  · exact (filed_lines raw).torn

@[simp] theorem lines_recovered
    (codec : LineCodec) (raw : Bytes) :
    lines (recovered codec raw) =
      (lines raw).filter (fun body =>
        !isCorruptLine codec body) := by
  simp [lines, split_recovered]

@[simp] theorem tornTail_recovered
    (codec : LineCodec) (raw : Bytes) :
    tornTail (recovered codec raw) = tornTail raw := by
  simp [tornTail, split_recovered]

/- A log without corrupt lines is left as it is. -/
theorem recovered_of_sound
    {codec : LineCodec}
    {raw : Bytes}
    (hSound :
      ∀ body ∈ lines raw, isCorruptLine codec body = false) :
    recovered codec raw = raw := by
  have hKept :
      (lines raw).filter (fun body =>
        !isCorruptLine codec body) = lines raw := by
    apply List.filter_eq_self.mpr
    intro body hMem
    simp [hSound body hMem]
  rw [recovered, hKept, join_lines]

------------------------------------------------------------
-- What the Strict Reader Accepts
------------------------------------------------------------

theorem nextLine_line
    {body : Bytes}
    (hBody : newline ∉ body)
    (text : Bytes)
    (lineno : Nat) :
    (PhysicalLineReader.mk (body ++ newline :: text) lineno
        false).nextLine =
      some (⟨lineContent body, true, lineno + 1⟩,
        ⟨text, lineno + 1, false⟩) := by
  simp [PhysicalLineReader.nextLine,
    Lines.readUntil_line text hBody]

theorem nextLine_torn
    {torn : Bytes}
    (hTorn : newline ∉ torn)
    (lineno : Nat)
    {line : PhysicalLine}
    {reader : PhysicalLineReader}
    (hNext :
      (PhysicalLineReader.mk torn lineno false).nextLine =
        some (line, reader)) :
    line.complete = false := by
  by_cases hEmpty : torn = []
  · simp [PhysicalLineReader.nextLine, hEmpty] at hNext
  · have hLast := getLast_ne_newline hTorn
    simp only [PhysicalLineReader.nextLine,
      Lines.readUntil_torn hTorn, hEmpty] at hNext
    simp only [Bool.false_eq_true, if_false,
      Option.some.injEq, Prod.mk.injEq] at hNext
    rw [← hNext.1]
    simpa using hLast

section Reading

variable {σ : Type}
variable {codec : LineCodec}
variable {visit : σ → Event → Except Error σ}

/- The walk ends at a torn tail, and at the end of the file. -/
theorem forEachEvent_torn
    {torn : Bytes}
    (hTorn : newline ∉ torn)
    (lineno : Nat)
    (acc : σ) :
    forEachEvent codec visit ⟨torn, lineno, false⟩ acc =
      .ok acc := by
  rw [forEachEvent]
  split
  · rfl
  · rename_i line reader hNext
    simp [nextLine_torn hTorn lineno hNext]

theorem forEachEvent_blank
    {body : Bytes}
    (hBody : newline ∉ body)
    (hBlank : lineContent body = [])
    (text : Bytes)
    (lineno : Nat)
    (acc : σ) :
    forEachEvent codec visit
        ⟨body ++ newline :: text, lineno, false⟩ acc =
      forEachEvent codec visit ⟨text, lineno + 1, false⟩
        acc := by
  rw [forEachEvent]
  split
  · rename_i hNext
    simp [nextLine_line hBody] at hNext
  · rename_i line reader hNext
    simp only [nextLine_line hBody, Option.some.injEq,
      Prod.mk.injEq] at hNext
    rcases hNext with ⟨rfl, rfl⟩
    simp [hBlank]

theorem forEachEvent_event
    {body : Bytes}
    {ev : Event}
    {acc acc' : σ}
    (hBody : newline ∉ body)
    (hContent : lineContent body ≠ [])
    (hParse : codec.fromSlice (lineContent body) = .ok ev)
    (hVisit : visit acc ev = .ok acc')
    (text : Bytes)
    (lineno : Nat) :
    forEachEvent codec visit
        ⟨body ++ newline :: text, lineno, false⟩ acc =
      forEachEvent codec visit ⟨text, lineno + 1, false⟩
        acc' := by
  rw [forEachEvent]
  split
  · rename_i hNext
    simp [nextLine_line hBody] at hNext
  · rename_i line reader hNext
    simp only [nextLine_line hBody, Option.some.injEq,
      Prod.mk.injEq] at hNext
    rcases hNext with ⟨rfl, rfl⟩
    simp [hContent, hParse, hVisit]

theorem forEachEvent_corrupt
    {body : Bytes}
    {e : String}
    (hBody : newline ∉ body)
    (hContent : lineContent body ≠ [])
    (hParse : codec.fromSlice (lineContent body) = .error e)
    (text : Bytes)
    (lineno : Nat)
    (acc : σ) :
    forEachEvent codec visit
        ⟨body ++ newline :: text, lineno, false⟩ acc =
      .error (notAnEvent codec
        ⟨lineContent body, true, lineno + 1⟩ e) := by
  rw [forEachEvent]
  split
  · rename_i hNext
    simp [nextLine_line hBody] at hNext
  · rename_i line reader hNext
    simp only [nextLine_line hBody, Option.some.injEq,
      Prod.mk.injEq] at hNext
    rcases hNext with ⟨rfl, rfl⟩
    simp [hContent, hParse]

end Reading

/- A complete line is blank, an event, or corrupt. -/
theorem line_cases (codec : LineCodec) (body : Bytes) :
    lineContent body = [] ∧
        isCorruptLine codec body = false ∧
        lineEvent? codec body = none ∨
      (∃ ev, lineContent body ≠ [] ∧
        codec.fromSlice (lineContent body) = .ok ev ∧
        isCorruptLine codec body = false ∧
        lineEvent? codec body = some ev) ∨
      (∃ e, lineContent body ≠ [] ∧
        codec.fromSlice (lineContent body) = .error e ∧
        isCorruptLine codec body = true ∧
        lineEvent? codec body = none) := by
  by_cases hBlank : lineContent body = []
  · left
    simp [hBlank, isCorruptLine, lineEvent?]
  · right
    cases hParse : codec.fromSlice (lineContent body) with
    | ok ev =>
        left
        exact ⟨ev, by
          simp [hBlank, hParse, isCorruptLine, lineEvent?,
            Except.toOption]⟩
    | error e =>
        right
        exact ⟨e, by
          simp [hBlank, hParse, isCorruptLine, lineEvent?,
            Except.toOption]⟩

/- The events of a sound log are read in file order. -/
theorem readLines_sound
    {codec : LineCodec}
    {bodies : List Bytes}
    {torn : Bytes}
    (hFiled : Lines.Filed newline bodies torn)
    (hSound :
      ∀ body ∈ bodies, isCorruptLine codec body = false)
    (lineno : Nat)
    (out : List Event) :
    forEachEvent codec (fun out ev => .ok (out ++ [ev]))
        ⟨Lines.join newline bodies ++ torn, lineno, false⟩
        out =
      .ok (out ++ bodies.filterMap (lineEvent? codec)) := by
  induction bodies generalizing lineno out with
  | nil =>
      simpa using forEachEvent_torn hFiled.torn lineno out
  | cons body rest ih =>
      have hTail := ih hFiled.tail (fun b hMem =>
        hSound b (by simp [hMem]))
      have hBody := hFiled.head
      rw [Lines.join_cons_append]
      rcases line_cases codec body with
        ⟨hBlank, -, hNone⟩ | ⟨ev, hContent, hParse, -, hEvent⟩ |
          ⟨e, -, -, hCorrupt, -⟩
      · rw [forEachEvent_blank hBody hBlank, hTail]
        simp [hNone]
      · rw [forEachEvent_event hBody hContent hParse rfl,
          hTail]
        simp [hEvent]
      · simp [hSound body (by simp)] at hCorrupt

/- One corrupt line fails the strict reader. -/
theorem readLines_corrupt
    {codec : LineCodec}
    {bodies : List Bytes}
    {torn : Bytes}
    (hFiled : Lines.Filed newline bodies torn)
    (hCorrupt :
      ∃ body ∈ bodies, isCorruptLine codec body = true)
    (lineno : Nat)
    (out : List Event) :
    ∃ e,
      forEachEvent codec (fun out ev => .ok (out ++ [ev]))
          ⟨Lines.join newline bodies ++ torn, lineno, false⟩
          out =
        .error e := by
  induction bodies generalizing lineno out with
  | nil => simp at hCorrupt
  | cons body rest ih =>
      have hBody := hFiled.head
      have hLater :
          isCorruptLine codec body = false →
            ∃ body ∈ rest, isCorruptLine codec body = true := by
        intro hFine
        simpa [hFine] using hCorrupt
      rw [Lines.join_cons_append]
      rcases line_cases codec body with
        ⟨hBlank, hFine, -⟩ | ⟨ev, hContent, hParse, hFine, -⟩ |
          ⟨e, hContent, hParse, -, -⟩
      · rw [forEachEvent_blank hBody hBlank]
        exact ih hFiled.tail (hLater hFine) _ _
      · rw [forEachEvent_event hBody hContent hParse rfl]
        exact ih hFiled.tail (hLater hFine) _ _
      · rw [forEachEvent_corrupt hBody hContent hParse]
        exact ⟨_, rfl⟩

theorem readAllEvents_sound
    {codec : LineCodec}
    {raw : Bytes}
    (hSound :
      ∀ body ∈ lines raw, isCorruptLine codec body = false) :
    readAllEvents codec (some raw) =
      .ok ((lines raw).filterMap (lineEvent? codec)) := by
  have hRead :=
    readLines_sound (filed_lines raw) hSound 0 []
  rw [join_lines] at hRead
  simpa [readAllEvents, PhysicalLineReader.new] using hRead

/- The strict reader accepts the logs without corrupt lines. -/
theorem readAllEvents_ok_iff (codec : LineCodec) (raw : Bytes) :
    (∃ events, readAllEvents codec (some raw) = .ok events) ↔
      ∀ body ∈ lines raw, isCorruptLine codec body = false := by
  constructor
  · rintro ⟨events, hRead⟩ body hMem
    by_contra hCorrupt
    have hFail :=
      readLines_corrupt (filed_lines raw)
        ⟨body, hMem, by simpa using hCorrupt⟩ 0 []
    rw [join_lines] at hFail
    rcases hFail with ⟨e, hFail⟩
    simp [readAllEvents, PhysicalLineReader.new, hFail]
      at hRead
  · intro hSound
    exact ⟨_, readAllEvents_sound hSound⟩

end Physical

end Taskfleet
