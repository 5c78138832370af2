import Taskfleet.Physical
import Taskfleet.PidFile
import Taskfleet.Utf8

/-
  The readiness pipe between a creator and the supervisor
  that it starts: the one frame that the supervisor writes
  and the reader that collects it in pieces.

  A poll of the pipe is a turn of the reader. The deadline
  passes at a turn of its own, or when no turn is left.

  Main declarations:
    * `Readiness`, `parseReadiness`, `awaitReady`
    * `readyFrame`, `errorFrame`, `ReadinessReporter`
    * `Arrives`, `parseReadiness_eq_ready`
    * `readiness_round_trip`
-/

------------------------------------------------------------
-- Frames
------------------------------------------------------------

namespace Taskfleet

/- What the creator makes of the pipe. -/
inductive Readiness where
| ready (pid : Nat)
| died
| error (code message : String)
| malformed (detail : String)
| timeout
deriving DecidableEq, Repr

def maxMsg : Nat := 4096

def tagReady : UInt8 := 82

def tagError : UInt8 := 69

def tab : UInt8 := 9

/- The largest `pid_t`. -/
def pidMax : Nat := 2 ^ 31 - 1

def isAsciiDigit (b : UInt8) : Bool := 48 ≤ b && b ≤ 57

/- Bytes below 128 are a text as they stand. -/
def asciiText (bytes : Bytes) : String :=
  String.ofList (bytes.map (fun b => Char.ofNat b.toNat))

/- A pid that is not empty, all digits, and in range. -/
def parsePid (digits : Bytes) : Option Nat :=
  if digits ≠ [] ∧ digits.all isAsciiDigit then
    (Text.parseUnsigned 32 (asciiText digits)).filter
      (fun pid => pid ≠ 0 ∧ pid ≤ pidMax)
  else none

/- The code up to the first tab, and the message after it. -/
def parseFailure (rest : Bytes) : Readiness :=
  match rest.idxOf? tab with
  | some i =>
      .error (Utf8.lossy (rest.take i))
        (Utf8.lossy (rest.drop (i + 1)))
  | none => .error (Utf8.lossy rest) ""

def parseReadiness (bytes : Bytes) : Readiness :=
  if bytes = [] then .died
  else if bytes.getLast? ≠ some newline then
    .malformed (Utf8.lossy bytes)
  else
    match bytes.dropLast with
    | [] => .malformed (Utf8.lossy bytes)
    | tag :: rest =>
        if tag = tagReady then
          match parsePid rest with
          | some pid => .ready pid
          | none => .malformed (Utf8.lossy bytes)
        else if tag = tagError then parseFailure rest
        else .malformed (Utf8.lossy bytes)

------------------------------------------------------------
-- The Reader
------------------------------------------------------------

/- The bytes of one read, of which there is at least one. -/
structure Chunk where
  bytes : Bytes
  filled : bytes ≠ []
  fits : bytes.length ≤ 128

inductive PipeTurn where
| elapsed
| interrupted
| pollFailed (detail : String)
| readFailed (detail : String)
| closed
| chunk (c : Chunk)

def awaitReady (buf : Bytes) : List PipeTurn → Readiness
| [] => .timeout
| .elapsed :: _ => .timeout
| .interrupted :: rest => awaitReady buf rest
| .pollFailed detail :: _ =>
    .malformed s!"readiness poll failed: {detail}"
| .readFailed detail :: _ =>
    .malformed s!"readiness read failed: {detail}"
| .closed :: _ => parseReadiness buf
| .chunk c :: rest =>
    match (buf ++ c.bytes).idxOf? newline with
    | some pos =>
        parseReadiness ((buf ++ c.bytes).take (pos + 1))
    | none =>
        if maxMsg < (buf ++ c.bytes).length then
          .malformed
            "readiness frame exceeded size limit before a newline"
        else awaitReady (buf ++ c.bytes) rest

------------------------------------------------------------
-- The Reporter
------------------------------------------------------------

/- Newlines and tabs of a message become spaces. -/
def flattened (message : String) : String :=
  String.ofList
    (message.toList.map (fun c =>
      if c = '\n' ∨ c = '\t' then ' ' else c))

def readyFrame (pid : Nat) : Bytes :=
  Utf8.bytes s!"R{pid}\n"

def errorFrame (code message : String) : Bytes :=
  Utf8.bytes s!"E{code}\t{flattened message}\n"

/- Whether the write end is still held. -/
structure ReadinessReporter where
  held : Bool
deriving DecidableEq, Repr

namespace ReadinessReporter

/- What is written; the write end is closed after it. -/
def emit (r : ReadinessReporter) (frame : Bytes) :
    Bytes × ReadinessReporter :=
  (if r.held then frame else [], ⟨false⟩)

def ready (r : ReadinessReporter) (pid : Nat) :
    Bytes × ReadinessReporter :=
  r.emit (readyFrame pid)

def error (r : ReadinessReporter) (code message : String) :
    Bytes × ReadinessReporter :=
  r.emit (errorFrame code message)

end ReadinessReporter

------------------------------------------------------------
-- Parsing
------------------------------------------------------------

/- The number that ASCII digits write. -/
def decimal (digits : Bytes) : Nat :=
  digits.foldl (fun n b => 10 * n + (b.toNat - 48)) 0

section Parsing

variable {bytes digits rest : Bytes} {pid : Nat}

theorem toNat_byteChar (b : UInt8) :
    (Char.ofNat b.toNat).toNat = b.toNat := by
  have hByte : b.toNat < 256 := b.toNat_lt
  have hValid : b.toNat.isValidChar := .inl (by omega)
  unfold Char.ofNat
  rw [dif_pos hValid]
  rfl

theorem toList_asciiText (bytes : Bytes) :
    (asciiText bytes).toList =
      bytes.map (fun b => Char.ofNat b.toNat) := by
  rw [asciiText, String.toList_ofList]

theorem isDigit_byteChar {b : UInt8} :
    (Char.ofNat b.toNat).isDigit = isAsciiDigit b := by
  rw [Bool.eq_iff_iff, Char.isDigit_iff_toNat, toNat_byteChar,
    isAsciiDigit, Bool.and_eq_true, decide_eq_true_eq,
    decide_eq_true_eq, UInt8.le_iff_toNat_le,
    UInt8.le_iff_toNat_le]
  rfl

theorem ofDigitChars_byteChars (digits : Bytes) :
    Nat.ofDigitChars 10
      (digits.map (fun b => Char.ofNat b.toNat)) 0 =
      decimal digits := by
  rw [Nat.ofDigitChars_eq_foldl, List.foldl_map]
  simp only [toNat_byteChar]
  rfl

theorem parsePid_eq_some :
    parsePid digits = some pid ↔
      digits ≠ [] ∧ (∀ b ∈ digits, isAsciiDigit b = true) ∧
        decimal digits = pid ∧ 1 ≤ pid ∧ pid ≤ pidMax := by
  unfold parsePid
  by_cases hDigits : digits ≠ [] ∧ digits.all isAsciiDigit
  · rw [if_pos hDigits]
    have hAll := List.all_eq_true.mp hDigits.2
    have hText := toList_asciiText digits
    rw [Text.parseUnsigned_of_digits
      (by rw [hText]; simpa using hDigits.1)
      (by
        rw [hText]
        intro c hMem
        rcases List.mem_map.mp hMem with ⟨b, hByte, hChar⟩
        rw [← hChar, isDigit_byteChar]
        exact hAll b hByte),
      hText, ofDigitChars_byteChars]
    simp only [Option.filter_eq_some_iff, Option.some.injEq,
      decide_eq_true_eq, hDigits.1, ne_eq, not_false_eq_true,
      true_and]
    constructor
    · intro hParsed
      rcases hParsed with ⟨⟨hValue, _⟩, hZero, hMax⟩
      exact ⟨hAll, hValue, Nat.pos_of_ne_zero hZero, hMax⟩
    · intro hValid
      rcases hValid with ⟨_, hValue, hPos, hMax⟩
      refine ⟨⟨hValue, ?_⟩, Nat.ne_of_gt hPos, hMax⟩
      rw [pidMax] at hMax
      omega
  · rw [if_neg hDigits]
    constructor
    · intro hNone
      cases hNone
    · intro hValid
      exact absurd
        ⟨hValid.1, List.all_eq_true.mpr hValid.2.1⟩ hDigits

theorem parseFailure_ne_ready : parseFailure rest ≠ .ready pid := by
  unfold parseFailure
  cases rest.idxOf? tab with
  | none => exact fun hReady => nomatch hReady
  | some i => exact fun hReady => nomatch hReady

theorem parseReadiness_frame (tag : UInt8) (rest : Bytes) :
    parseReadiness (tag :: rest ++ [newline]) =
      if tag = tagReady then
        match parsePid rest with
        | some pid => .ready pid
        | none =>
            .malformed (Utf8.lossy (tag :: rest ++ [newline]))
      else if tag = tagError then parseFailure rest
      else
        .malformed (Utf8.lossy (tag :: rest ++ [newline])) := by
  unfold parseReadiness
  rw [if_neg (by simp),
    if_neg (not_not_intro List.getLast?_concat),
    List.dropLast_concat]

/- A frame whose last byte stands where it should. -/
theorem frame_of_terminated
    (hSome : bytes ≠ [])
    (hLast : bytes.getLast? = some newline) :
    bytes = bytes.dropLast ++ [newline] := by
  rw [List.getLast?_eq_some_getLast hSome,
    Option.some.injEq] at hLast
  rw [← hLast, List.dropLast_append_getLast]

theorem parseReadiness_eq_ready :
    parseReadiness bytes = .ready pid ↔
      ∃ digits, bytes = tagReady :: digits ++ [newline] ∧
        digits ≠ [] ∧ (∀ b ∈ digits, isAsciiDigit b = true) ∧
        decimal digits = pid ∧ 1 ≤ pid ∧ pid ≤ pidMax := by
  constructor
  · intro hReady
    by_cases hSome : bytes = []
    · simp [parseReadiness, hSome] at hReady
    by_cases hLast : bytes.getLast? = some newline
    · have hFrame := frame_of_terminated hSome hLast
      cases hBody : bytes.dropLast with
      | nil =>
          simp [parseReadiness, hSome, hLast, hBody] at hReady
      | cons tag rest =>
          rw [hBody] at hFrame
          rw [hFrame, parseReadiness_frame] at hReady
          split at hReady
          · rename_i hTag
            cases hPid : parsePid rest with
            | none =>
                rw [hPid] at hReady
                cases hReady
            | some found =>
                rw [hPid, Readiness.ready.injEq] at hReady
                rw [hReady] at hPid
                refine ⟨rest, ?_, parsePid_eq_some.mp hPid⟩
                rw [hFrame, hTag]
          · split at hReady
            · exact absurd hReady parseFailure_ne_ready
            · cases hReady
    · simp [parseReadiness, hSome, hLast] at hReady
  · intro hFrame
    rcases hFrame with ⟨digits, hBytes, hPid⟩
    rw [hBytes, parseReadiness_frame, if_pos rfl,
      parsePid_eq_some.mpr hPid]

end Parsing

------------------------------------------------------------
-- What a Frame Holds
------------------------------------------------------------

section Frames

variable {code message s : String} {pid : Nat}

theorem notMem_bytes
    {c : Char} {b : UInt8}
    (hAscii : b.toNat < 128)
    (hByte : b.toNat = c.toNat)
    (hNot : c ∉ s.toList) :
    b ∉ Utf8.bytes s := by
  rw [Utf8.mem_bytes_iff hAscii hByte]
  exact hNot

theorem readyFrame_eq (pid : Nat) :
    readyFrame pid =
      tagReady :: Utf8.bytes (toString pid) ++ [newline] := by
  unfold readyFrame Utf8.bytes
  simp only [String.toList_append, Utf8.encode_append]
  rfl

theorem errorFrame_eq (code message : String) :
    errorFrame code message =
      tagError ::
          (Utf8.bytes code ++
            tab :: Utf8.bytes (flattened message)) ++
        [newline] := by
  have hTag : Utf8.encode (toString "E").toList = [tagError] := rfl
  have hTab : Utf8.encode (toString "\t").toList = [tab] := rfl
  have hEnd : Utf8.encode (toString "\n").toList = [newline] := rfl
  unfold errorFrame Utf8.bytes
  simp only [String.toList_append, Utf8.encode_append, hTag,
    hTab, hEnd, List.append_assoc, List.cons_append,
    List.nil_append]
  rfl

theorem bytes_toString (pid : Nat) :
    Utf8.bytes (toString pid) =
      (toString pid).toList.map (fun c => UInt8.ofNat c.toNat) := by
  apply Utf8.encode_of_ascii
  intro c hMem
  have hRange : 48 ≤ c.toNat ∧ c.toNat ≤ 57 :=
    Char.isDigit_iff_toNat.mp (Text.isDigit_of_mem_toString hMem)
  omega

theorem asciiText_bytes_toString (pid : Nat) :
    asciiText (Utf8.bytes (toString pid)) = toString pid := by
  rw [bytes_toString]
  apply String.toList_injective
  rw [toList_asciiText, List.map_map]
  conv_rhs => rw [← List.map_id (toString pid).toList]
  apply List.map_congr_left
  intro c hMem
  have hRange : 48 ≤ c.toNat ∧ c.toNat ≤ 57 :=
    Char.isDigit_iff_toNat.mp (Text.isDigit_of_mem_toString hMem)
  have hByte : (UInt8.ofNat c.toNat).toNat = c.toNat := by
    rw [UInt8.toNat_ofNat']
    omega
  simp only [Function.comp_apply, hByte, Char.ofNat_toNat, id]

/- The digits of a pid write that pid. -/
theorem decimal_bytes_toString (pid : Nat) :
    decimal (Utf8.bytes (toString pid)) = pid := by
  rw [← ofDigitChars_byteChars, ← toList_asciiText,
    asciiText_bytes_toString, Text.toList_toString,
    Nat.ofDigitChars_ten_toDigits]

theorem digits_bytes_toString
    {b : UInt8} (hMem : b ∈ Utf8.bytes (toString pid)) :
    isAsciiDigit b = true := by
  have hChar :
      Char.ofNat b.toNat ∈
        (asciiText (Utf8.bytes (toString pid))).toList := by
    rw [toList_asciiText]
    exact List.mem_map_of_mem hMem
  rw [asciiText_bytes_toString] at hChar
  rw [← isDigit_byteChar]
  exact Text.isDigit_of_mem_toString hChar

theorem parseReadiness_readyFrame
    (hPos : 1 ≤ pid) (hMax : pid ≤ pidMax) :
    parseReadiness (readyFrame pid) = .ready pid := by
  rw [parseReadiness_eq_ready]
  refine ⟨Utf8.bytes (toString pid), readyFrame_eq pid, ?_,
    fun b hMem => digits_bytes_toString hMem,
    decimal_bytes_toString pid, hPos, hMax⟩
  intro hEmpty
  have hZero := decimal_bytes_toString pid
  rw [hEmpty] at hZero
  exact absurd hZero (Nat.ne_of_lt hPos)

theorem parseReadiness_errorFrame
    (hCode : '\t' ∉ code.toList) :
    parseReadiness (errorFrame code message) =
      .error code (flattened message) := by
  have hTab : tab ∉ Utf8.bytes code :=
    notMem_bytes (by decide) rfl hCode
  rw [errorFrame_eq, parseReadiness_frame, if_neg (by decide),
    if_pos rfl]
  unfold parseFailure
  rw [Lines.idxOf?_line hTab]
  dsimp only
  rw [List.take_left, ← List.drop_drop, List.drop_left,
    List.drop_one, List.tail_cons, Utf8.lossy_encode,
    Utf8.lossy_encode]

end Frames

------------------------------------------------------------
-- Reading in Pieces
------------------------------------------------------------

/- Turns that bring the given bytes and end nothing. -/
inductive Arrives : List PipeTurn → Bytes → Prop
| none : Arrives [] []
| interrupted {turns : List PipeTurn} {bytes : Bytes}
    (hRest : Arrives turns bytes) :
    Arrives (.interrupted :: turns) bytes
| chunk {turns : List PipeTurn} {bytes : Bytes}
    (c : Chunk)
    (hRest : Arrives turns bytes) :
    Arrives (.chunk c :: turns) (c.bytes ++ bytes)

section Pieces

variable {turns rest : List PipeTurn}
variable {buf bytes line more : Bytes} {pid : Nat}

/- What is in front of a full line is the line or a part. -/
theorem cut_cases
    (hWhole : buf ++ bytes = line ++ newline :: more)
    (hLine : newline ∉ line) :
    (newline ∉ buf ∧ buf.length ≤ line.length) ∨
      ∃ tail, buf = line ++ newline :: tail := by
  rcases List.append_eq_append_iff.mp hWhole with
    ⟨tail, hLeft, _⟩ | ⟨tail, hRight, hMore⟩
  · refine .inl ⟨?_, ?_⟩
    · intro hMem
      apply hLine
      rw [hLeft]
      exact List.mem_append_left _ hMem
    · rw [hLeft, List.length_append]
      omega
  · cases tail with
    | nil =>
        rw [List.append_nil] at hRight
        rw [hRight]
        exact .inl ⟨hLine, Nat.le_refl _⟩
    | cons b tail =>
        rw [List.cons_append, List.cons.injEq] at hMore
        rw [hRight, ← hMore.1]
        exact .inr ⟨tail, rfl⟩

/-
  A full line is parsed, wherever its bytes are cut and
  whatever follows it.
-/
theorem awaitReady_line
    (hArrives : Arrives turns bytes)
    (hWhole : buf ++ bytes = line ++ newline :: more)
    (hLine : newline ∉ line)
    (hLimit : line.length ≤ maxMsg)
    (hBuf : newline ∉ buf) :
    awaitReady buf (turns ++ rest) =
      parseReadiness (line ++ [newline]) := by
  induction hArrives generalizing buf with
  | none =>
      exfalso
      apply hBuf
      rw [List.append_nil] at hWhole
      rw [hWhole]
      exact List.mem_append_right _ List.mem_cons_self
  | interrupted hRest ih => exact ih hWhole hBuf
  | chunk c hRest ih =>
      rw [← List.append_assoc] at hWhole
      rw [List.cons_append, awaitReady]
      rcases cut_cases hWhole hLine with
        ⟨hPart, hShort⟩ | ⟨tail, hFull⟩
      · rw [List.idxOf?_eq_none_iff.mpr hPart]
        dsimp only
        rw [if_neg (by omega)]
        exact ih hWhole hPart
      · rw [hFull, Lines.idxOf?_line hLine]
        dsimp only
        rw [List.take_length_add_append]
        rfl

/- What is parsed when the stream ends is a part of it. -/
theorem awaitReady_closed
    (hArrives : Arrives turns bytes)
    (hReady :
      awaitReady buf (turns ++ .closed :: rest) = .ready pid) :
    ∃ used, used <+: buf ++ bytes ∧
      parseReadiness used = .ready pid := by
  induction hArrives generalizing buf with
  | none =>
      exact ⟨buf, List.prefix_append _ _, hReady⟩
  | interrupted hRest ih => exact ih hReady
  | chunk c hRest ih =>
      rw [← List.append_assoc]
      rw [List.cons_append, awaitReady] at hReady
      cases hFound : (buf ++ c.bytes).idxOf? newline with
      | some pos =>
          rw [hFound] at hReady
          refine ⟨_, ?_, hReady⟩
          exact (List.take_prefix _ _).trans
            (List.prefix_append _ _)
      | none =>
          rw [hFound] at hReady
          dsimp only at hReady
          split at hReady
          · cases hReady
          · exact ih hReady

end Pieces

------------------------------------------------------------
-- The Round Trip
------------------------------------------------------------

/- What the reporter writes, or would. -/
def IsFrame (frame : Bytes) : Prop :=
  (∃ pid, frame = readyFrame pid) ∨
    ∃ code message, frame = errorFrame code message

section RoundTrip

variable {frame part : Bytes} {pid : Nat}
variable {code message : String}

theorem newline_notMem_digits (pid : Nat) :
    newline ∉ tagReady :: Utf8.bytes (toString pid) := by
  intro hMem
  rcases List.mem_cons.mp hMem with hTag | hDigit
  · exact absurd hTag (by decide)
  · exact absurd (digits_bytes_toString hDigit) (by decide)

/- A frame that parses as ready ends a frame. -/
theorem part_eq_of_ready
    (hFrame : IsFrame frame)
    (hPart : part <+: frame)
    (hReady : parseReadiness part = .ready pid) :
    part = frame := by
  rcases parseReadiness_eq_ready.mp hReady with
    ⟨digits, hDigits, _⟩
  rcases hFrame with ⟨p, hFrame⟩ | ⟨code, message, hFrame⟩
  · rw [hFrame, readyFrame_eq] at hPart ⊢
    rcases List.prefix_concat_iff.mp hPart with hSame | hInside
    · exact hSame
    · exfalso
      apply newline_notMem_digits p
      apply hInside.subset
      rw [hDigits]
      exact List.mem_append_right _ List.mem_cons_self
  · exfalso
    rw [hFrame, errorFrame_eq, hDigits, List.cons_append,
      List.cons_append, List.cons_prefix_cons] at hPart
    exact absurd hPart.1 (by decide)

theorem awaitReady_readyFrame
    {turns rest : List PipeTurn} {more : Bytes}
    (hPos : 1 ≤ pid)
    (hMax : pid ≤ pidMax)
    (hArrives : Arrives turns (readyFrame pid ++ more)) :
    awaitReady [] (turns ++ rest) = .ready pid := by
  have hShort :
      (tagReady :: Utf8.bytes (toString pid)).length ≤ maxMsg := by
    have hDigits : (Nat.toDigits 10 pid).length ≤ 10 := by
      rw [Nat.length_toDigits_le_iff (by decide) (by decide)]
      exact Nat.lt_of_le_of_lt hMax (by decide)
    rw [List.length_cons, bytes_toString, List.length_map,
      Text.toList_toString]
    exact Nat.le_trans (Nat.succ_le_succ hDigits) (by decide)
  have hWhole :
      [] ++ (readyFrame pid ++ more) =
        (tagReady :: Utf8.bytes (toString pid)) ++
          newline :: more := by
    rw [readyFrame_eq]
    simp
  rw [awaitReady_line hArrives hWhole
    (newline_notMem_digits pid) hShort List.not_mem_nil,
    ← readyFrame_eq]
  exact parseReadiness_readyFrame hPos hMax

theorem newline_notMem_flattened (message : String) :
    '\n' ∉ (flattened message).toList := by
  intro hMem
  rw [flattened, String.toList_ofList] at hMem
  rcases List.mem_map.mp hMem with ⟨c, _, hChar⟩
  split at hChar
  · exact absurd hChar (by decide)
  · rename_i hOther
    exact hOther (.inl hChar)

theorem newline_notMem_errorFrame
    (hCode : '\n' ∉ code.toList) :
    newline ∉
      tagError :: (Utf8.bytes code ++
        tab :: Utf8.bytes (flattened message)) := by
  intro hMem
  rcases List.mem_cons.mp hMem with hTag | hBody
  · exact absurd hTag (by decide)
  rcases List.mem_append.mp hBody with hInCode | hRest
  · exact notMem_bytes (by decide) rfl hCode hInCode
  rcases List.mem_cons.mp hRest with hTab | hMessage
  · exact absurd hTab (by decide)
  · exact notMem_bytes (by decide) rfl
      (newline_notMem_flattened message) hMessage

theorem awaitReady_errorFrame
    {turns rest : List PipeTurn} {more : Bytes}
    (hTab : '\t' ∉ code.toList)
    (hNewline : '\n' ∉ code.toList)
    (hLimit : (errorFrame code message).length ≤ maxMsg + 1)
    (hArrives : Arrives turns (errorFrame code message ++ more)) :
    awaitReady [] (turns ++ rest) =
      .error code (flattened message) := by
  have hShort :
      (tagError :: (Utf8.bytes code ++
        tab :: Utf8.bytes (flattened message))).length ≤
          maxMsg := by
    rw [errorFrame_eq, List.length_append,
      List.length_singleton] at hLimit
    exact Nat.le_of_succ_le_succ hLimit
  have hWhole :
      [] ++ (errorFrame code message ++ more) =
        (tagError :: (Utf8.bytes code ++
          tab :: Utf8.bytes (flattened message))) ++
            newline :: more := by
    rw [errorFrame_eq]
    simp
  rw [awaitReady_line hArrives hWhole
    (newline_notMem_errorFrame hNewline) hShort
    List.not_mem_nil, ← errorFrame_eq]
  exact parseReadiness_errorFrame hTab

end RoundTrip

/-
  However the reads cut the stream, a reader finds the pid or
  the failure that the reporter wrote, and no pid where the
  frame is cut short. A frame is ready exactly if it is the
  tag, the digits of a pid in range and a newline.
-/
theorem readiness_round_trip :
    (∀ pid turns rest more,
      1 ≤ pid →
      pid ≤ pidMax →
      Arrives turns
        ((ReadinessReporter.ready ⟨true⟩ pid).1 ++ more) →
      awaitReady [] (turns ++ rest) = .ready pid) ∧
    (∀ code message turns rest more,
      '\t' ∉ code.toList →
      '\n' ∉ code.toList →
      (errorFrame code message).length ≤ maxMsg + 1 →
      Arrives turns
        ((ReadinessReporter.error ⟨true⟩ code message).1 ++
          more) →
      awaitReady [] (turns ++ rest) =
        .error code (flattened message)) ∧
    (∀ frame part turns rest pid,
      IsFrame frame →
      part <+: frame →
      part ≠ frame →
      Arrives turns part →
      awaitReady [] (turns ++ .closed :: rest) ≠ .ready pid) ∧
    (∀ bytes pid, parseReadiness bytes = .ready pid ↔
      ∃ digits, bytes = tagReady :: digits ++ [newline] ∧
        digits ≠ [] ∧ (∀ b ∈ digits, isAsciiDigit b = true) ∧
        decimal digits = pid ∧ 1 ≤ pid ∧ pid ≤ pidMax) := by
  refine ⟨?_, ?_, ?_, fun bytes pid => parseReadiness_eq_ready⟩
  · intro pid turns rest more hPos hMax hArrives
    exact awaitReady_readyFrame hPos hMax hArrives
  · intro code message turns rest more hTab hNewline hLimit
      hArrives
    exact awaitReady_errorFrame hTab hNewline hLimit hArrives
  · intro frame part turns rest pid hFrame hPart hProper
      hArrives hReady
    rcases awaitReady_closed hArrives hReady with
      ⟨used, hUsed, hParsed⟩
    have hWhole : used = frame :=
      part_eq_of_ready hFrame (hUsed.trans hPart) hParsed
    rw [hWhole] at hUsed
    exact hProper (hPart.eq_of_length_le hUsed.length_le)

/- A pid that comes in two reads, with a pause between. -/
theorem split_pid_is_ready :
    awaitReady []
      [.chunk ⟨[82, 52], by decide, by decide⟩, .interrupted,
        .chunk ⟨[50, 10], by decide, by decide⟩] =
      .ready 42 := by
  apply readiness_round_trip.1 42
    [.chunk ⟨[82, 52], by decide, by decide⟩, .interrupted,
      .chunk ⟨[50, 10], by decide, by decide⟩] [] []
    (by decide) (by decide)
  exact .chunk ⟨[82, 52], by decide, by decide⟩
    (.interrupted (.chunk ⟨[50, 10], by decide, by decide⟩ .none))

end Taskfleet
