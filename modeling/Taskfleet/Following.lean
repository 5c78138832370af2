import Taskfleet.Tailing
import Taskfleet.Utf8

/-
  `event tail --follow`: a reader that polls the log of a run
  while other processes write to it and cut torn lines off.

  A poll is one step. A log that is not there yet is read as
  an empty one, and the signals that end a follower are left
  out.

  Main declarations:
    * `FollowLoop.drain`, `FollowLoop.poll`
    * `Following`, `FollowAct`, `LogFollowed`
    * `InPlace`, `KeepsUp`, `LogFollowed.keeps`
    * `follow_exactlyOnce`
-/

------------------------------------------------------------
-- The Follower
------------------------------------------------------------

namespace Taskfleet

open Physical

namespace FollowLoop

inductive FollowError where
| eventsLogTruncated (position length : Nat)
| readLine
| eventsLogCorrupt (line : Bytes)
deriving DecidableEq, Repr

structure Follower where
  position : Nat
  buf : Bytes
  lastSeenSeq : Option Nat
deriving DecidableEq, Repr

def Follower.new : Follower := ⟨0, [], none⟩

/- What a poll prints, and how it leaves the follower. -/
structure Drained where
  emitted : List Event
  follower : Follower
  failure : Option FollowError

def isBreak (b : UInt8) : Bool :=
  b == newline || b == carriageReturn

/- `trim_end_matches(['\n', '\r'])` -/
def trimBreaks (buf : Bytes) : Bytes :=
  (buf.reverse.dropWhile isBreak).reverse

/- The event is new to the follower. -/
def dedupOk (f : Follower) (ev : Event) : Bool :=
  f.lastSeenSeq.all (fun last => last < ev.seq)

def emits (fromSeq : Nat) (f : Follower) (ev : Event) : Bool :=
  fromSeq ≤ ev.seq && dedupOk f ev

def Follower.seen (f : Follower) (ev : Event) : Follower where
  position := f.position
  buf := []
  lastSeenSeq :=
    if dedupOk f ev then some ev.seq else f.lastSeenSeq

/- A read appends to the buffer; it has to be a text. -/
def Follower.read (f : Follower) (chunk : Bytes) : Follower :=
  { f with
    position := f.position + chunk.length
    buf := f.buf ++ chunk }

/-
  Read every complete line of the rest of the file. What is
  left without a newline stays in the buffer.
-/
def drain (codec : LineCodec) (fromSeq : Nat)
    (f : Follower) (rest : Bytes) : Drained :=
  if _hRest : rest = [] then ⟨[], f, none⟩
  else
    let chunk := (Lines.readUntil newline rest).1
    let next := (Lines.readUntil newline rest).2
    if Utf8.isText chunk = false then ⟨[], f, some .readLine⟩
    else
      let f := f.read chunk
      if f.buf.getLast? ≠ some newline then ⟨[], f, none⟩
      else
        let line := trimBreaks f.buf
        if line = [] then
          drain codec fromSeq { f with buf := [] } next
        else
          match codec.fromSlice line with
          | .error _ => ⟨[], f, some (.eventsLogCorrupt line)⟩
          | .ok ev =>
              let later := drain codec fromSeq (f.seen ev) next
              { later with
                emitted :=
                  if emits fromSeq f ev then ev :: later.emitted
                  else later.emitted }
termination_by rest.length
decreasing_by
  all_goals exact Lines.readUntil_lt _hRest

/- One round of the loop; the first one starts at nothing. -/
def poll (codec : LineCodec) (fromSeq : Nat)
    (f : Follower) (log : Bytes) : Drained :=
  if log.length < f.position then
    ⟨[], f, some (.eventsLogTruncated f.position log.length)⟩
  else drain codec fromSeq f (log.drop f.position)

end FollowLoop

------------------------------------------------------------
-- A Log and Its Follower
------------------------------------------------------------

open FollowLoop

/-
  The log, the follower, what it has printed, and the error
  it has ended with.
-/
structure Following where
  log : Bytes
  follower : Follower
  emitted : List Event
  failure : Option FollowError

/-
  A write that has not come to the end of its line, the write
  of the rest of a line, the recovery of a torn tail, and a
  round of the follower.
-/
inductive FollowAct where
| write (part : Bytes)
| finish (part : Bytes)
| truncateTornTail
| poll

def Following.start : Following := ⟨[], .new, [], none⟩

/- The valid events of the log. -/
def Following.events (codec : LineCodec) (w : Following) :
    List Event :=
  eventsOf codec (lines w.log)

/- A line as `serde_json` writes it for an event. -/
structure WrittenLine
    (codec : LineCodec) (body : Bytes) (ev : Event) : Prop where
  text : Utf8.isText body = true
  oneLine : newline ∉ body
  ending : ∀ b ∈ body.getLast?, isBreak b = false
  nonempty : body ≠ []
  event : codec.fromSlice body = .ok ev

namespace FollowAct

def Enabled (codec : LineCodec) (w : Following) :
    FollowAct → Prop
| .write part => newline ∉ part
| .finish part =>
    ∃ ev, WrittenLine codec (tornTail w.log ++ part) ev ∧
      ev.seq = lastSeqOf (w.events codec) + 1
| .truncateTornTail => True
| .poll => w.failure = none

def perform (codec : LineCodec) (fromSeq : Nat)
    (w : Following) : FollowAct → Following
| .write part => { w with log := w.log ++ part }
| .finish part =>
    { w with log := w.log ++ (part ++ [newline]) }
| .truncateTornTail =>
    { w with log := Physical.truncateTornTail w.log }
| .poll =>
    let drained := FollowLoop.poll codec fromSeq w.follower w.log
    { w with
      follower := drained.follower
      emitted := w.emitted ++ drained.emitted
      failure := drained.failure }

end FollowAct

/- The states of a follower from the start of a log. -/
inductive LogFollowed
    (codec : LineCodec) (fromSeq : Nat)
    (Ok : Following → FollowAct → Prop) : Following → Prop where
| start : LogFollowed codec fromSeq Ok .start
| next
    {w : Following}
    (act : FollowAct)
    (hRun : LogFollowed codec fromSeq Ok w)
    (hEnabled : act.Enabled codec w)
    (hOk : Ok w act) :
    LogFollowed codec fromSeq Ok (act.perform codec fromSeq w)

theorem LogFollowed.mono
    {codec : LineCodec} {fromSeq : Nat}
    {Ok Ok' : Following → FollowAct → Prop} {w : Following}
    (hRun : LogFollowed codec fromSeq Ok w)
    (hOk : ∀ w act, Ok w act → Ok' w act) :
    LogFollowed codec fromSeq Ok' w := by
  induction hRun with
  | start => exact .start
  | next act hRun hEnabled hHere ih =>
      exact .next act ih hEnabled (hOk _ _ hHere)

/-
  A round finds the bytes in the buffer still in front of its
  position, and a torn tail that breaks off after a character.
-/
def InPlace (w : Following) (act : FollowAct) : Prop :=
  act = .poll →
    w.follower.position ≤ w.log.length ∧
      w.follower.buf <:+ w.log.take w.follower.position ∧
      Utf8.isText (tornTail (w.log.drop w.follower.position)) =
        true

------------------------------------------------------------
-- Draining Lines
------------------------------------------------------------

section Draining

variable {codec : LineCodec} {fromSeq : Nat}
variable {f : Follower} {body : Bytes} {ev : Event}

theorem trimBreaks_line
    (hEnding : ∀ b ∈ body.getLast?, isBreak b = false) :
    trimBreaks (body ++ [newline]) = body := by
  unfold trimBreaks
  have hBreak : isBreak newline = true := by decide
  rw [List.reverse_append, List.reverse_singleton,
    List.singleton_append, List.dropWhile_cons_of_pos hBreak]
  cases hBody : body.reverse with
  | nil =>
      rw [List.reverse_eq_nil_iff] at hBody
      rw [hBody]
      rfl
  | cons b rest =>
      have hSame : body = (b :: rest).reverse := by
        rw [← hBody, List.reverse_reverse]
      have hLast : b ∈ body.getLast? := by
        rw [hSame, List.reverse_cons]
        simp
      rw [List.dropWhile_cons_of_neg (by
        rw [hEnding b hLast]
        exact Bool.false_ne_true), hSame]

/- The written event is the one that a line holds. -/
theorem WrittenLine.lineEvent
    (hLine : WrittenLine codec body ev) :
    lineEvent? codec body = some ev := by
  have hContent : lineContent body = body := by
    unfold lineContent
    rw [if_neg]
    intro hLast
    have hEnding := hLine.ending carriageReturn hLast
    revert hEnding
    decide
  unfold lineEvent?
  rw [hContent, if_neg (by
    rw [List.isEmpty_iff]
    exact hLine.nonempty), hLine.event]
  rfl

theorem drain_torn
    {rest : Bytes}
    (hTorn : newline ∉ f.buf ++ rest)
    (hText : Utf8.isText rest = true) :
    drain codec fromSeq f rest = ⟨[], f.read rest, none⟩ := by
  rw [drain]
  by_cases hEmpty : rest = []
  · rw [dif_pos hEmpty, hEmpty]
    simp [Follower.read]
  · have hRest : newline ∉ rest := by
      intro hMem
      exact hTorn (List.mem_append_right _ hMem)
    rw [dif_neg hEmpty, Lines.readUntil_torn hRest]
    have hBuf : (f.read rest).buf = f.buf ++ rest := rfl
    dsimp only
    rw [hText, if_neg (by decide), hBuf,
      if_pos (getLast_ne_newline hTorn)]

theorem drain_line
    {part rest : Bytes}
    (hBody : f.buf ++ part = body)
    (hLine : WrittenLine codec body ev)
    (hText : Utf8.isText f.buf = true) :
    drain codec fromSeq f (part ++ newline :: rest) =
      let later :=
        drain codec fromSeq
          ((f.read (part ++ [newline])).seen ev) rest
      { later with
        emitted :=
          if emits fromSeq f ev then ev :: later.emitted
          else later.emitted } := by
  have hPart : newline ∉ part := by
    intro hMem
    apply hLine.oneLine
    rw [← hBody]
    exact List.mem_append_right _ hMem
  have hPartText : Utf8.isText part = true := by
    apply Utf8.isText_rest hText
    rw [hBody]
    exact hLine.text
  have hChunk : Utf8.isText (part ++ [newline]) = true :=
    Utf8.isText_append hPartText (by decide +kernel)
  rw [drain, dif_neg (by simp), Lines.readUntil_line _ hPart]
  dsimp only
  rw [hChunk, if_neg (by decide)]
  have hBuf :
      (f.read (part ++ [newline])).buf = body ++ [newline] := by
    rw [Follower.read, ← List.append_assoc, hBody]
  rw [hBuf, trimBreaks_line hLine.ending,
    if_neg (by simp), if_neg hLine.nonempty, hLine.event]
  rfl

end Draining

------------------------------------------------------------
-- What a Round KeepsUp
------------------------------------------------------------

/-
  The follower has read some lines and the start of what
  comes after them, and has printed the events of the lines.
-/
structure Reads
    (codec : LineCodec) (f : Follower)
    (read : List Bytes) : Prop where
  position :
    f.position = (Lines.join newline read).length + f.buf.length
  oneLine : newline ∉ f.buf
  text : Utf8.isText f.buf = true
  seen :
    f.lastSeenSeq = (eventsOf codec read).getLast?.map Event.seq

structure KeepsUp
    (codec : LineCodec) (fromSeq : Nat)
    (w : Following) : Prop where
  healthy : w.failure = none
  written :
    ∀ body ∈ lines w.log, ∃ ev, WrittenLine codec body ev
  ascending : Ascending (w.events codec)
  reads :
    ∃ read rest, lines w.log = read ++ rest ∧
      Reads codec w.follower read ∧
      w.emitted =
        (eventsOf codec read).filter
          (fun ev => fromSeq ≤ ev.seq)

section Keeping

variable {codec : LineCodec} {fromSeq : Nat}
variable {f : Follower}

/- Behind the newest event of the lines read, all are new. -/
theorem dedupOk_of_ascending
    {read : List Bytes} {body : Bytes} {rest : List Bytes}
    {ev : Event}
    (hSeen :
      f.lastSeenSeq =
        (eventsOf codec read).getLast?.map Event.seq)
    (hAscending :
      Ascending (eventsOf codec (read ++ body :: rest)))
    (hEvent : lineEvent? codec body = some ev) :
    dedupOk f ev = true := by
  unfold dedupOk
  rw [hSeen]
  cases hLast : (eventsOf codec read).getLast? with
  | none => rfl
  | some last =>
      rw [eventsOf_append, eventsOf_cons, hEvent] at hAscending
      have hOrder :=
        (List.pairwise_append.mp hAscending).2.2 last
          (List.mem_of_getLast? hLast) ev (by simp)
      simpa using hOrder

theorem Reads.line
    {read : List Bytes} {body part : Bytes} {ev : Event}
    (hReads : Reads codec f read)
    (hBody : body = f.buf ++ part)
    (hLine : WrittenLine codec body ev)
    (hFresh : dedupOk f ev = true) :
    Reads codec ((f.read (part ++ [newline])).seen ev)
      (read ++ [body]) := by
  constructor
  · have hLength := congrArg List.length hBody
    rw [List.length_append] at hLength
    simp only [Follower.seen, Follower.read, hReads.position,
      Lines.join_append, Lines.join_cons, Lines.join_nil,
      List.length_append, List.length_cons, List.length_nil]
    omega
  · exact List.not_mem_nil
  · rfl
  · have hSeen :
        ((f.read (part ++ [newline])).seen ev).lastSeenSeq =
          some ev.seq :=
      if_pos hFresh
    rw [hSeen, eventsOf_append, eventsOf_cons, hLine.lineEvent]
    simp

/- A round over written lines prints what they hold. -/
theorem drain_lines
    {read rest : List Bytes} {torn bytes : Bytes}
    (hReads : Reads codec f read)
    (hBytes :
      f.buf ++ bytes = Lines.join newline rest ++ torn)
    (hTorn : newline ∉ torn)
    (hText : Utf8.isText (tornTail bytes) = true)
    (hWritten :
      ∀ body ∈ rest, ∃ ev, WrittenLine codec body ev)
    (hAscending :
      Ascending (eventsOf codec (read ++ rest))) :
    (drain codec fromSeq f bytes).failure = none ∧
      (drain codec fromSeq f bytes).emitted =
        (eventsOf codec rest).filter
          (fun ev => fromSeq ≤ ev.seq) ∧
      Reads codec (drain codec fromSeq f bytes).follower
        (read ++ rest) := by
  induction rest generalizing f read bytes with
  | nil =>
      rw [Lines.join_nil, List.nil_append] at hBytes
      have hNone : newline ∉ f.buf ++ bytes := by
        rw [hBytes]
        exact hTorn
      have hBytesText : Utf8.isText bytes = true := by
        have hTail : tornTail bytes = bytes := by
          rw [tornTail, Lines.split_torn (by
            intro hMem
            exact hNone (List.mem_append_right _ hMem))]
        rw [hTail] at hText
        exact hText
      rw [drain_torn hNone hBytesText, List.append_nil]
      refine ⟨rfl, rfl, ?_, hNone,
        Utf8.isText_append hReads.text hBytesText, hReads.seen⟩
      rw [Follower.read]
      dsimp only
      rw [hReads.position, List.length_append, Nat.add_assoc]
  | cons body rest ih =>
      rw [Lines.join_cons_append] at hBytes
      rcases Lines.append_eq_line hReads.oneLine hBytes with
        ⟨part, hBody, hRest⟩
      rw [List.forall_mem_cons] at hWritten
      rcases hWritten with ⟨⟨ev, hLine⟩, hLater⟩
      have hEvent := hLine.lineEvent
      have hFresh : dedupOk f ev = true :=
        dedupOk_of_ascending hReads.seen hAscending hEvent
      have hPart : newline ∉ part := by
        intro hMem
        apply hLine.oneLine
        rw [hBody]
        exact List.mem_append_right _ hMem
      have hNext := hReads.line hBody hLine hFresh
      have hTail :
          tornTail bytes =
            tornTail (Lines.join newline rest ++ torn) := by
        rw [hRest, tornTail, Lines.split_line _ hPart]
        rfl
      have hEmits :
          emits fromSeq f ev = decide (fromSeq ≤ ev.seq) := by
        rw [emits, hFresh, Bool.and_true]
      rw [hTail] at hText
      have hRound :=
        ih hNext (List.nil_append _) hText hLater
          (by simpa using hAscending)
      rw [List.append_assoc, List.singleton_append] at hRound
      rw [hRest, drain_line hBody.symm hLine hReads.text]
      refine ⟨hRound.1, ?_, hRound.2.2⟩
      rw [eventsOf_cons, hEvent, hEmits]
      dsimp only
      rw [hRound.2.1]
      by_cases hFrom : fromSeq ≤ ev.seq
      · simp [hFrom]
      · simp [hFrom]

end Keeping

------------------------------------------------------------
-- Steps
------------------------------------------------------------

section Steps

variable {codec : LineCodec} {fromSeq : Nat}
variable {w w' : Following}

theorem lines_append (raw text : Bytes) :
    lines (raw ++ text) =
      lines raw ++ lines (tornTail raw ++ text) := by
  have hBodies := (filed_lines raw).bodies
  have hWhole :
      raw ++ text =
        Lines.join newline (lines raw) ++
          (tornTail raw ++ text) := by
    rw [← List.append_assoc, join_lines]
  rw [hWhole, lines, Lines.split_append _ hBodies]
  rfl

/- Bytes without a newline are no line yet. -/
theorem lines_write
    {raw part : Bytes} (hPart : newline ∉ part) :
    lines (raw ++ part) = lines raw := by
  have hTorn : newline ∉ tornTail raw ++ part := by
    rw [List.mem_append, not_or]
    exact ⟨(filed_lines raw).torn, hPart⟩
  rw [lines_append, lines_torn hTorn, List.append_nil]

theorem lines_finish
    {raw part : Bytes}
    (hLine : newline ∉ tornTail raw ++ part) :
    lines (raw ++ (part ++ [newline])) =
      lines raw ++ [tornTail raw ++ part] := by
  rw [lines_append, ← List.append_assoc, lines_line hLine]

/- A step that leaves the lines and the follower. -/
theorem KeepsUp.framed
    (hKeeps : KeepsUp codec fromSeq w)
    (hLines : lines w'.log = lines w.log)
    (hFollower : w'.follower = w.follower)
    (hEmitted : w'.emitted = w.emitted)
    (hFailure : w'.failure = w.failure) :
    KeepsUp codec fromSeq w' := by
  constructor
  · rw [hFailure]
    exact hKeeps.healthy
  · rw [hLines]
    exact hKeeps.written
  · rw [Following.events, hLines]
    exact hKeeps.ascending
  · rw [hLines, hFollower, hEmitted]
    exact hKeeps.reads

theorem KeepsUp.finish
    {part : Bytes}
    (hKeeps : KeepsUp codec fromSeq w)
    (hEnabled : (FollowAct.finish part).Enabled codec w) :
    KeepsUp codec fromSeq
      ((FollowAct.finish part).perform codec fromSeq w) := by
  rcases hEnabled with ⟨ev, hLine, hSeq⟩
  have hLines :
      lines (w.log ++ (part ++ [newline])) =
        lines w.log ++ [tornTail w.log ++ part] :=
    lines_finish hLine.oneLine
  constructor
  · exact hKeeps.healthy
  · intro body hMem
    change body ∈ lines (w.log ++ (part ++ [newline])) at hMem
    rw [hLines, List.mem_append, List.mem_singleton] at hMem
    rcases hMem with hOld | hNew
    · exact hKeeps.written body hOld
    · rw [hNew]
      exact ⟨ev, hLine⟩
  · change Ascending
      (eventsOf codec (lines (w.log ++ (part ++ [newline]))))
    rw [hLines, eventsOf_append, eventsOf_cons, hLine.lineEvent,
      Ascending, List.pairwise_append]
    refine ⟨hKeeps.ascending, by simp, ?_⟩
    intro earlier hEarlier later hLater
    have hLe := seq_le_lastSeqOf hKeeps.ascending hEarlier
    simp only [Option.toList_some, eventsOf_nil,
      List.append_nil, List.mem_singleton] at hLater
    rw [hLater, hSeq]
    exact Nat.lt_succ_of_le hLe
  · rcases hKeeps.reads with ⟨read, rest, hSplit, hRest⟩
    refine ⟨read, rest ++ [tornTail w.log ++ part], ?_, hRest⟩
    change lines (w.log ++ (part ++ [newline])) = _
    rw [hLines, hSplit, List.append_assoc]

/- The buffer and what follows it are the lines not read. -/
theorem unread_eq
    {read rest : List Bytes}
    (hLines : lines w.log = read ++ rest)
    (hReads : Reads codec w.follower read)
    (hLength : w.follower.position ≤ w.log.length)
    (hBuffer :
      w.follower.buf <:+ w.log.take w.follower.position) :
    w.follower.buf ++ w.log.drop w.follower.position =
      Lines.join newline rest ++ tornTail w.log := by
  rcases hBuffer with ⟨before, hBefore⟩
  have hWhole :
      before ++
          (w.follower.buf ++ w.log.drop w.follower.position) =
        Lines.join newline read ++
          (Lines.join newline rest ++ tornTail w.log) := by
    rw [← List.append_assoc, hBefore, List.take_append_drop,
      ← List.append_assoc, ← Lines.join_append, ← hLines,
      join_lines]
  have hBeforeLength := congrArg List.length hBefore
  rw [List.length_append, List.length_take_of_le hLength,
    hReads.position] at hBeforeLength
  exact (List.append_inj hWhole (by omega)).2

/- A round with its bytes in place prints all there is. -/
theorem KeepsUp.poll
    (hKeeps : KeepsUp codec fromSeq w)
    (hPlace : InPlace w .poll) :
    KeepsUp codec fromSeq
        (FollowAct.poll.perform codec fromSeq w) ∧
      (FollowAct.poll.perform codec fromSeq w).emitted =
        (w.events codec).filter
          (fun ev => fromSeq ≤ ev.seq) := by
  rcases hKeeps.reads with
    ⟨read, rest, hLines, hReads, hEmitted⟩
  rcases hPlace rfl with ⟨hLength, hBuffer, hText⟩
  have hUnread := unread_eq hLines hReads hLength hBuffer
  have hAscending := hKeeps.ascending
  rw [Following.events, hLines] at hAscending
  have hWritten := hKeeps.written
  rw [hLines] at hWritten
  have hRound :=
    @drain_lines codec fromSeq w.follower read rest
      (tornTail w.log) (w.log.drop w.follower.position) hReads
      hUnread (filed_lines w.log).torn hText
      (fun body hMem =>
        hWritten body (List.mem_append_right _ hMem))
      hAscending
  have hPoll :
      FollowLoop.poll codec fromSeq w.follower w.log =
        drain codec fromSeq w.follower
          (w.log.drop w.follower.position) :=
    if_neg (by omega)
  have hAll :
      (FollowAct.poll.perform codec fromSeq w).emitted =
        (w.events codec).filter
          (fun ev => fromSeq ≤ ev.seq) := by
    change w.emitted ++
      (FollowLoop.poll codec fromSeq w.follower w.log).emitted = _
    rw [hPoll, hRound.2.1, hEmitted, Following.events, hLines,
      eventsOf_append, List.filter_append]
  refine ⟨?_, hAll⟩
  constructor
  · change (FollowLoop.poll codec fromSeq w.follower
      w.log).failure = none
    rw [hPoll]
    exact hRound.1
  · exact hKeeps.written
  · exact hKeeps.ascending
  · refine ⟨lines w.log, [], (List.append_nil _).symm, ?_, hAll⟩
    change Reads codec (FollowLoop.poll codec fromSeq w.follower
      w.log).follower (lines w.log)
    rw [hPoll, hLines]
    exact hRound.2.2

theorem KeepsUp.step
    {act : FollowAct}
    (hKeeps : KeepsUp codec fromSeq w)
    (hEnabled : act.Enabled codec w)
    (hPlace : InPlace w act) :
    KeepsUp codec fromSeq (act.perform codec fromSeq w) := by
  cases act with
  | write part =>
      exact hKeeps.framed (lines_write hEnabled) rfl rfl rfl
  | finish part => exact hKeeps.finish hEnabled
  | truncateTornTail =>
      exact hKeeps.framed (lines_truncate w.log) rfl rfl rfl
  | poll => exact (hKeeps.poll hPlace).1

theorem keeps_start : KeepsUp codec fromSeq .start := by
  constructor
  · rfl
  · intro body hMem
    cases hMem
  · exact List.Pairwise.nil
  · exact ⟨[], [], rfl, ⟨rfl, List.not_mem_nil, by decide +kernel,
      rfl⟩, rfl⟩

theorem LogFollowed.keeps
    (hRun : LogFollowed codec fromSeq InPlace w) :
    KeepsUp codec fromSeq w := by
  induction hRun with
  | start => exact keeps_start
  | next act hRun hEnabled hOk ih =>
      exact ih.step hEnabled hOk

end Steps

/-
  While each round finds its bytes in place, the follower has
  not failed, has printed events from `fromSeq` on in order
  and once, and by a further round prints all there are.
-/
theorem follow_exactlyOnce
    (codec : LineCodec) (fromSeq : Nat) (w : Following)
    (hRun : LogFollowed codec fromSeq InPlace w) :
    w.failure = none ∧ Ascending w.emitted ∧
      w.emitted <+:
        (w.events codec).filter (fun ev => fromSeq ≤ ev.seq) ∧
      (InPlace w .poll →
        (FollowAct.poll.perform codec fromSeq w).failure = none ∧
          (FollowAct.poll.perform codec fromSeq w).emitted =
            (w.events codec).filter
              (fun ev => fromSeq ≤ ev.seq)) := by
  have hKeeps := hRun.keeps
  rcases hKeeps.reads with ⟨read, rest, hLines, _, hEmitted⟩
  have hPrefix :
      w.emitted <+:
        (w.events codec).filter (fun ev => fromSeq ≤ ev.seq) := by
    rw [hEmitted, Following.events, hLines, eventsOf_append,
      List.filter_append]
    exact List.prefix_append _ _
  refine ⟨hKeeps.healthy, ?_, hPrefix, ?_⟩
  · exact (hKeeps.ascending.filter _).sublist hPrefix.sublist
  · intro hPlace
    have hPoll := hKeeps.poll hPlace
    exact ⟨hPoll.1.healthy, hPoll.2⟩

namespace Sample

theorem created_written :
    WrittenLine tailCodec.toLineCodec createdText runCreated where
  text := by decide +kernel
  oneLine := by decide +kernel
  ending := by decide +kernel
  nonempty := by decide +kernel
  event := by simp only [tailCodec, ↓reduceIte]

def oneLine : Following :=
  (FollowAct.finish createdText).perform tailCodec.toLineCodec 1
    .start

/- A line and the start of another, both read by a round. -/
def halfRead : Following :=
  FollowAct.poll.perform tailCodec.toLineCodec 1
    ((FollowAct.write (nodeCreatedText.take 20)).perform
      tailCodec.toLineCodec 1 oneLine)

theorem followed_halfRead :
    LogFollowed tailCodec.toLineCodec 1 InPlace halfRead := by
  have hFirst :
      (FollowAct.finish createdText).Enabled
        tailCodec.toLineCodec .start := by
    refine ⟨runCreated, ?_, by decide +kernel⟩
    have hTorn : tornTail Following.start.log = [] := rfl
    rw [hTorn, List.nil_append]
    exact created_written
  apply LogFollowed.next .poll
  · apply LogFollowed.next (.write (nodeCreatedText.take 20))
    · apply LogFollowed.next (.finish createdText) .start hFirst
      intro hAct
      cases hAct
    · change newline ∉ nodeCreatedText.take 20
      decide +kernel
    · intro hAct
      cases hAct
  · exact rfl
  · intro _
    decide +kernel

/- The torn tail is cut off before the next round. -/
def cutOff : Following :=
  FollowAct.poll.perform tailCodec.toLineCodec 1
    (FollowAct.truncateTornTail.perform tailCodec.toLineCodec 1
      halfRead)

end Sample

open Sample in
/- A line that is half there does no harm to a round. -/
theorem half_a_line_is_kept :
    halfRead.failure = none ∧
      halfRead.emitted <+:
        (halfRead.events tailCodec.toLineCodec).filter
          (fun ev => 1 ≤ ev.seq) := by
  have hHalf :=
    follow_exactlyOnce tailCodec.toLineCodec 1 halfRead
      followed_halfRead
  exact ⟨hHalf.1, hHalf.2.2.1⟩

open Sample in
/- The sanctioned recovery of a torn tail ends a follower. -/
theorem follow_not_exactlyOnce :
    ¬ ∀ codec fromSeq w,
      LogFollowed codec fromSeq (fun _ _ => True) w →
        w.failure = none ∧ Ascending w.emitted ∧
          w.emitted <+:
            (w.events codec).filter
              (fun ev => fromSeq ≤ ev.seq) := by
  intro hAll
  have hCut :
      ∀ w, LogFollowed tailCodec.toLineCodec 1 InPlace w →
        LogFollowed tailCodec.toLineCodec 1 (fun _ _ => True)
          (FollowAct.poll.perform tailCodec.toLineCodec 1
            (FollowAct.truncateTornTail.perform
              tailCodec.toLineCodec 1 w)) := by
    intro w hRun
    apply LogFollowed.next .poll
    · apply LogFollowed.next .truncateTornTail _ trivial trivial
      exact hRun.mono (fun _ _ _ => trivial)
    · exact hRun.keeps.healthy
    · exact trivial
  have hFailure :
      cutOff.failure = some (.eventsLogTruncated 180 160) := by
    decide +kernel
  rw [(hAll _ _ cutOff (hCut _ followed_halfRead)).1] at hFailure
  cases hFailure

end Taskfleet
