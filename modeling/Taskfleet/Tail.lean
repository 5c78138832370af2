import Taskfleet.Quarantine

/-
  The tail-follow primitive over an event log, and the cut
  of a torn final line.

  Main declarations:
    * `Physical.truncateTornTail`
    * `EventTail.poll`, `EventTail.takeNewCorrupt`,
      `EventTail.restart`
    * `EventTail.scan`, `EventTail.pollLoop_eq_scan`
-/

------------------------------------------------------------
-- Torn Tails
------------------------------------------------------------

namespace Taskfleet

namespace Physical

/- The offset of the last newline. -/
def findPrevNewline : Bytes → Option Nat
| [] => none
| b :: rest =>
    match findPrevNewline rest with
    | some i => some (i + 1)
    | none => if b = newline then some 0 else none

/- Cut a final line without newline off the log. -/
def truncateTornTail (raw : Bytes) : Bytes :=
  if raw.isEmpty then raw
  else if raw.getLast? = some newline then raw
  else
    match findPrevNewline raw with
    | some i => raw.take (i + 1)
    | none => []

theorem findPrevNewline_torn
    {torn : Bytes}
    (hTorn : newline ∉ torn) :
    findPrevNewline torn = none := by
  induction torn with
  | nil => rfl
  | cons b rest ih =>
      have hFresh : b ≠ newline := by
        intro hEq
        simp [hEq] at hTorn
      have hRest : newline ∉ rest := by
        intro hMem
        simp [hMem] at hTorn
      simp [findPrevNewline, ih hRest, hFresh]

theorem findPrevNewline_append
    {torn : Bytes}
    (text : Bytes)
    (hTorn : newline ∉ torn) :
    findPrevNewline (text ++ newline :: torn) =
      some text.length := by
  induction text with
  | nil =>
      simp [findPrevNewline, findPrevNewline_torn hTorn]
  | cons b rest ih => simp [findPrevNewline, ih]

theorem truncateTornTail_torn
    {torn : Bytes}
    (hTorn : newline ∉ torn) :
    truncateTornTail torn = [] := by
  cases torn with
  | nil => rfl
  | cons b rest =>
      simp [truncateTornTail, getLast_ne_newline hTorn,
        findPrevNewline_torn hTorn]

theorem truncateTornTail_line
    {torn : Bytes}
    (text : Bytes)
    (hTorn : newline ∉ torn) :
    truncateTornTail (text ++ newline :: torn) =
      text ++ [newline] := by
  by_cases hEmpty : torn = []
  · simp [truncateTornTail, hEmpty]
  · have hLast :
        (text ++ newline :: torn).getLast? ≠ some newline := by
      intro hEnd
      apply getLast_ne_newline hTorn
      rw [List.getLast?_append_of_ne_nil _ (by simp)] at hEnd
      rwa [List.getLast?_cons_of_ne_nil hEmpty] at hEnd
    have hTake :
        (text ++ newline :: torn).take (text.length + 1) =
          text ++ [newline] := by
      rw [List.take_length_add_append]
      simp
    have hText : (text ++ newline :: torn).isEmpty = false := by
      simp
    simp only [truncateTornTail, hText, hLast,
      findPrevNewline_append text hTorn, hTake, if_false,
      Bool.false_eq_true]

/- What is cut is exactly the torn tail. -/
theorem truncateTornTail_eq (raw : Bytes) :
    truncateTornTail raw =
      Lines.join newline (lines raw) := by
  have hTorn := (filed_lines raw).torn
  have hJoin := join_lines raw
  rcases List.eq_nil_or_concat (lines raw) with
    hNil | ⟨bodies, body, hLast⟩
  · rw [hNil] at hJoin ⊢
    rw [← hJoin]
    exact truncateTornTail_torn hTorn
  · have hText :
        Lines.join newline (lines raw) ++ tornTail raw =
          (Lines.join newline bodies ++ body) ++
            newline :: tornTail raw := by
      simp [hLast]
    have hCut :=
      truncateTornTail_line
        (Lines.join newline bodies ++ body) hTorn
    rw [← hText, hJoin] at hCut
    rw [hCut, hLast]
    simp

end Physical

------------------------------------------------------------
-- The Tail
------------------------------------------------------------

/-
  `DefaultHasher` over an excerpt, besides the codec of the
  lines.
-/
structure TailCodec extends LineCodec where
  excerptHash : String → UInt64

/- A complete line that failed to parse, where a poll parked. -/
structure CorruptLine where
  byteOffset : Nat
  byteLen : Nat
  lineExcerpt : String
deriving DecidableEq, Repr

structure EventTail where
  pos : Nat
  lastSeq : Nat
  corrupt : Option CorruptLine
  reportedCorrupt : List (Nat × UInt64)
deriving DecidableEq, Repr

namespace EventTail

def new (sinceSeq : Nat) : EventTail where
  pos := 0
  lastSeq := sinceSeq
  corrupt := none
  reportedCorrupt := []

/-
  Read complete lines from the rest of the file. A partial
  line is left for the next poll; a line that does not parse
  parks the tail at its start.
-/
def pollLoop
    (codec : TailCodec)
    (t : EventTail)
    (rest : Bytes)
    (consumed : Nat)
    (out : List Event) : List Event × EventTail :=
  if _hRest : rest = [] then
    (out, { t with pos := t.pos + consumed })
  else
    let buf := (Lines.readUntil newline rest).1
    if buf.getLast? ≠ some newline then
      (out, { t with pos := t.pos + consumed })
    else
      let trimmed := trimLineEnd buf
      if trimmed.isEmpty then
        pollLoop codec t (Lines.readUntil newline rest).2
          (consumed + buf.length) out
      else
        match codec.fromSlice trimmed with
        | .error _ =>
            (out, { t with
              pos := t.pos + consumed
              corrupt := some {
                byteOffset := t.pos + consumed
                byteLen := buf.length
                lineExcerpt := codec.excerpt trimmed } })
        | .ok ev =>
            if ev.seq ≤ t.lastSeq then
              pollLoop codec t (Lines.readUntil newline rest).2
                (consumed + buf.length) out
            else
              pollLoop codec { t with lastSeq := ev.seq }
                (Lines.readUntil newline rest).2
                (consumed + buf.length) (out ++ [ev])
termination_by rest.length
decreasing_by
  all_goals exact Lines.readUntil_lt _hRest

/- Start over where the file is shorter than the position. -/
def resetIfShorter (len : Nat) (t : EventTail) : EventTail :=
  if len < t.pos then { t with pos := 0, corrupt := none }
  else t

/- The events appended since the last poll. -/
def poll (codec : TailCodec) :
    Option Bytes → EventTail → List Event × EventTail
| none, t => ([], t)
| some raw, t =>
    let t := t.resetIfShorter raw.length
    if t.corrupt.isSome then ([], t)
    else if raw.length = t.pos then ([], t)
    else pollLoop codec t (raw.drop t.pos) 0 []

/-
  Advance past the parked line, reporting it unless the same
  excerpt was reported at the same offset before.
-/
def takeNewCorrupt (codec : TailCodec) (t : EventTail) :
    Option CorruptLine × EventTail :=
  match t.corrupt with
  | none => (none, t)
  | some c =>
      let entry := (c.byteOffset, codec.excerptHash c.lineExcerpt)
      let t := { t with corrupt := none, pos := t.pos + c.byteLen }
      if entry ∈ t.reportedCorrupt then (none, t)
      else
        (some c,
          { t with reportedCorrupt := entry :: t.reportedCorrupt })

/- Read again from the start, after a rewrite of the log. -/
def restart (t : EventTail) : EventTail :=
  { t with pos := 0, corrupt := none }

------------------------------------------------------------
-- A Poll, Line by Line
------------------------------------------------------------

open Physical

/- The loop of a poll over the bodies of complete lines. -/
def scan (codec : TailCodec) :
    EventTail → List Bytes → List Event × EventTail
| t, [] => ([], t)
| t, body :: rest =>
    if (lineContent body).isEmpty then
      scan codec { t with pos := t.pos + (body.length + 1) } rest
    else
      match codec.fromSlice (lineContent body) with
      | .error _ =>
          ([], { t with
            corrupt := some {
              byteOffset := t.pos
              byteLen := body.length + 1
              lineExcerpt := codec.excerpt (lineContent body) } })
      | .ok ev =>
          if ev.seq ≤ t.lastSeq then
            scan codec { t with pos := t.pos + (body.length + 1) }
              rest
          else
            let next :=
              scan codec { t with
                pos := t.pos + (body.length + 1)
                lastSeq := ev.seq } rest
            (ev :: next.1, next.2)

theorem pollLoop_torn
    (codec : TailCodec)
    (t : EventTail)
    {torn : Bytes}
    (hTorn : newline ∉ torn)
    (consumed : Nat)
    (out : List Event) :
    pollLoop codec t torn consumed out =
      (out, { t with pos := t.pos + consumed }) := by
  rw [pollLoop]
  by_cases hEmpty : torn = []
  · simp [hEmpty]
  · simp [hEmpty, Lines.readUntil_torn hTorn,
      getLast_ne_newline hTorn]

theorem pollLoop_eq_scan
    (codec : TailCodec)
    (t : EventTail)
    {bodies : List Bytes}
    {torn : Bytes}
    (hFiled : Lines.Filed newline bodies torn)
    (consumed : Nat)
    (out : List Event) :
    pollLoop codec t (Lines.join newline bodies ++ torn)
        consumed out =
      (out ++ (scan codec
          { t with pos := t.pos + consumed } bodies).1,
        (scan codec
          { t with pos := t.pos + consumed } bodies).2) := by
  induction bodies generalizing t consumed out with
  | nil =>
      simpa [scan] using
        pollLoop_torn codec t hFiled.torn consumed out
  | cons body rest ih =>
      rw [Lines.join_cons_append, pollLoop]
      by_cases hBlank : lineContent body = []
      · simp [Lines.readUntil_line _ hFiled.head, hBlank,
          scan, ih _ hFiled.tail, Nat.add_assoc]
      · cases hParse : codec.fromSlice (lineContent body) with
        | error e =>
            simp [Lines.readUntil_line _ hFiled.head, hBlank,
              hParse, scan]
        | ok ev =>
            by_cases hOld : ev.seq ≤ t.lastSeq
            · simp [Lines.readUntil_line _ hFiled.head, hBlank,
                hParse, hOld, scan, ih _ hFiled.tail,
                Nat.add_assoc]
            · simp [Lines.readUntil_line _ hFiled.head, hBlank,
                hParse, hOld, scan, ih _ hFiled.tail,
                Nat.add_assoc]

/- A poll scans the complete lines past its position. -/
theorem poll_eq_scan
    (codec : TailCodec)
    (t : EventTail)
    (raw : Bytes) :
    poll codec (some raw) t =
      if (t.resetIfShorter raw.length).corrupt.isSome then
        ([], t.resetIfShorter raw.length)
      else
        scan codec (t.resetIfShorter raw.length)
          (lines (raw.drop (t.resetIfShorter raw.length).pos)) := by
  generalize hReset : t.resetIfShorter raw.length = u
  have hLoop :=
    pollLoop_eq_scan codec u
      (filed_lines (raw.drop u.pos)) 0 []
  rw [join_lines] at hLoop
  simp only [poll, hReset, hLoop]
  by_cases hEnd : raw.length = u.pos
  · have hNone : lines (raw.drop u.pos) = [] := by
      rw [← hEnd, List.drop_length]
      rfl
    simp [hEnd, hNone, scan]
  · simp [hEnd]

end EventTail

end Taskfleet
