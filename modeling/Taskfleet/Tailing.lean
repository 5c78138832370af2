import Taskfleet.Tail
import Taskfleet.Sequence

/-
  One tail over one log that other processes append to,
  tear, truncate and quarantine.

  Main declarations:
    * `Tailing`, `TailAct`, `Tailed`
    * `EventTail.Scanned`, `EventTail.scan_scanned`
    * `Follows`, `Tailed.follows`
    * `tail_exactlyOnce`
-/

------------------------------------------------------------
-- What a Scan Does
------------------------------------------------------------

namespace Taskfleet

namespace Physical

/- The valid events of complete lines, in file order. -/
def eventsOf (codec : LineCodec) (bodies : List Bytes) :
    List Event :=
  bodies.filterMap (lineEvent? codec)

@[simp] theorem eventsOf_nil (codec : LineCodec) :
    eventsOf codec [] = [] := rfl

@[simp] theorem eventsOf_append
    (codec : LineCodec)
    (first second : List Bytes) :
    eventsOf codec (first ++ second) =
      eventsOf codec first ++ eventsOf codec second := by
  simp [eventsOf]

theorem eventsOf_cons
    (codec : LineCodec)
    (body : Bytes)
    (rest : List Bytes) :
    eventsOf codec (body :: rest) =
      (lineEvent? codec body).toList ++ eventsOf codec rest := by
  cases hLine : lineEvent? codec body <;>
    simp [eventsOf, hLine]

theorem lineEvent?_of_corrupt
    {codec : LineCodec}
    {body : Bytes}
    (hCorrupt : isCorruptLine codec body = true) :
    lineEvent? codec body = none := by
  rcases line_cases codec body with
    ⟨-, -, hNone⟩ | ⟨ev, -, -, hFine, -⟩ | ⟨e, -, -, -, hNone⟩
  · exact hNone
  · simp [hFine] at hCorrupt
  · exact hNone

/- A quarantine keeps the valid events. -/
theorem eventsOf_filter
    (codec : LineCodec)
    (bodies : List Bytes) :
    eventsOf codec
        (bodies.filter (fun body =>
          !isCorruptLine codec body)) =
      eventsOf codec bodies := by
  induction bodies with
  | nil => rfl
  | cons body rest ih =>
      cases hCorrupt : isCorruptLine codec body with
      | true =>
          simp [hCorrupt, ih, eventsOf_cons,
            lineEvent?_of_corrupt hCorrupt]
      | false => simp [hCorrupt, ih, eventsOf_cons]

end Physical

open Physical

/- Sequence numbers strictly increase along a list. -/
def Ascending (events : List Event) : Prop :=
  events.Pairwise (fun first second => first.seq < second.seq)

namespace EventTail

/-
  A scan passed some lines, none of them corrupt, returned
  their new events, and stopped at the end or parked at a
  corrupt line.
-/
structure Scanned
    (codec : LineCodec)
    (t : EventTail)
    (passed left : List Bytes)
    (out : List Event)
    (t' : EventTail) : Prop where
  out :
    out = (eventsOf codec passed).filter
      (fun ev => t.lastSeq < ev.seq)
  pos : t'.pos = t.pos + (Lines.join newline passed).length
  grew : t.lastSeq ≤ t'.lastSeq
  covers : ∀ ev ∈ eventsOf codec passed, ev.seq ≤ t'.lastSeq
  reached :
    t'.lastSeq = t.lastSeq ∨
      ∃ ev ∈ eventsOf codec passed, ev.seq = t'.lastSeq
  stopped :
    left = [] ∧ t'.corrupt = t.corrupt ∨
      ∃ c body rest,
        t'.corrupt = some c ∧ left = body :: rest ∧
          isCorruptLine codec body = true ∧
          c.byteLen = body.length + 1

/- A line that changes nothing but the position. -/
theorem Scanned.skip
    {codec : LineCodec}
    {t t' : EventTail}
    {body : Bytes}
    {passed left : List Bytes}
    {out : List Event}
    (hOld :
      ∀ ev ∈ lineEvent? codec body, ev.seq ≤ t.lastSeq)
    (hScanned :
      Scanned codec
        { t with pos := t.pos + (body.length + 1) }
        passed left out t') :
    Scanned codec t (body :: passed) left out t' := by
  have hEvents :=
    eventsOf_cons codec body passed
  constructor
  · rw [hScanned.out, hEvents, List.filter_append]
    cases hLine : lineEvent? codec body with
    | none => simp
    | some ev =>
        have hSeq := hOld ev hLine
        simp [hSeq]
  · rw [hScanned.pos, Lines.join_cons_length]
    simp only
    omega
  · exact hScanned.grew
  · intro ev hMem
    rw [hEvents, List.mem_append] at hMem
    rcases hMem with hHead | hTail
    · have hSeq := hOld ev (by simpa using hHead)
      have hGrew := hScanned.grew
      simp only at hGrew
      omega
    · exact hScanned.covers ev hTail
  · rcases hScanned.reached with hSame | ⟨ev, hMem, hSeq⟩
    · left
      exact hSame
    · right
      exact ⟨ev, by simp [hEvents, hMem], hSeq⟩
  · exact hScanned.stopped

/- A line with a new event. -/
theorem Scanned.take
    {codec : LineCodec}
    {t t' : EventTail}
    {body : Bytes}
    {ev : Event}
    {passed left : List Bytes}
    {out : List Event}
    (hLine : lineEvent? codec body = some ev)
    (hNew : t.lastSeq < ev.seq)
    (hLater :
      ∀ later ∈ eventsOf codec passed, ev.seq < later.seq)
    (hScanned :
      Scanned codec
        { t with
          pos := t.pos + (body.length + 1)
          lastSeq := ev.seq }
        passed left out t') :
    Scanned codec t (body :: passed) left (ev :: out) t' := by
  have hEvents :
      eventsOf codec (body :: passed) =
        ev :: eventsOf codec passed := by
    simp [eventsOf_cons, hLine]
  have hGrew : ev.seq ≤ t'.lastSeq := hScanned.grew
  constructor
  · rw [hScanned.out, hEvents]
    simp only [List.filter_cons, hNew, decide_true, if_true]
    congr 1
    apply List.filter_congr
    intro later hMem
    have hAfter := hLater later hMem
    simp only [decide_eq_decide]
    omega
  · rw [hScanned.pos, Lines.join_cons_length]
    simp only
    omega
  · omega
  · intro later hMem
    rw [hEvents, List.mem_cons] at hMem
    rcases hMem with rfl | hTail
    · exact hGrew
    · exact hScanned.covers later hTail
  · right
    rcases hScanned.reached with hSame | ⟨later, hMem, hSeq⟩
    · exact ⟨ev, by simp [hEvents], hSame.symm⟩
    · exact ⟨later, by simp [hEvents, hMem], hSeq⟩
  · exact hScanned.stopped

theorem scan_scanned
    (codec : TailCodec)
    (t : EventTail)
    (bodies : List Bytes)
    (hAscending :
      Ascending (eventsOf codec.toLineCodec bodies)) :
    ∃ passed left,
      bodies = passed ++ left ∧
        Scanned codec.toLineCodec t passed left
          (scan codec t bodies).1 (scan codec t bodies).2 := by
  induction bodies generalizing t with
  | nil =>
      refine ⟨[], [], rfl, ?_⟩
      constructor <;> simp [scan]
  | cons body rest ih =>
      have hRest :
          Ascending (eventsOf codec.toLineCodec rest) := by
        rw [eventsOf_cons] at hAscending
        exact (List.pairwise_append.mp hAscending).2.1
      rcases line_cases codec.toLineCodec body with
        ⟨hBlank, -, hNone⟩ | ⟨ev, hContent, hParse, -, hLine⟩ |
          ⟨e, hContent, hParse, hCorrupt, -⟩
      · rcases ih { t with pos := t.pos + (body.length + 1) }
            hRest with
          ⟨passed, left, rfl, hScanned⟩
        refine ⟨body :: passed, left, rfl, ?_⟩
        simp only [scan, hBlank, List.isEmpty_nil, if_true]
        exact hScanned.skip (by simp [hNone])
      · by_cases hOld : ev.seq ≤ t.lastSeq
        · rcases ih { t with pos := t.pos + (body.length + 1) }
              hRest with
            ⟨passed, left, rfl, hScanned⟩
          refine ⟨body :: passed, left, rfl, ?_⟩
          simp only [scan, hParse, hOld, if_true,
            List.isEmpty_iff, hContent, if_false]
          exact hScanned.skip (by simp [hLine, hOld])
        · rcases ih { t with
                pos := t.pos + (body.length + 1)
                lastSeq := ev.seq } hRest with
            ⟨passed, left, rfl, hScanned⟩
          refine ⟨body :: passed, left, rfl, ?_⟩
          simp only [scan, hParse, hOld, List.isEmpty_iff,
            hContent, if_false]
          apply hScanned.take hLine (by omega)
          intro later hMem
          rw [eventsOf_cons, hLine] at hAscending
          exact (List.pairwise_cons.mp hAscending).1 later
            (by simp [hMem])
      · refine ⟨[], body :: rest, rfl, ?_⟩
        simp only [scan, hParse, List.isEmpty_iff, hContent,
          if_false]
        constructor <;> simp [hCorrupt]

end EventTail

------------------------------------------------------------
-- A Log and Its Tail
------------------------------------------------------------

/-
  The log, the recovered content a quarantine has yet to put
  in its place, and the tail. Besides, for the statements:
  the events the polls returned, the valid events appended,
  whether a quarantine moved lines under the position since
  the tail last started over, and whether the last poll read
  all there is.
-/
structure Tailing where
  log : Option Bytes
  aside : Option Bytes
  tail : EventTail
  delivered : List Event
  appended : List Event
  stale : Bool
  drained : Bool

inductive TailAct where
| append (body : Bytes)
| tear (part : Bytes)
| truncate
| rename
| rewrite
| poll
| takeNewCorrupt
| restart
deriving DecidableEq

namespace Tailing

/- A tail opened on a log that does not exist yet. -/
def start (since : Nat) : Tailing where
  log := none
  aside := none
  tail := .new since
  delivered := []
  appended := []
  stale := false
  drained := false

/- The bytes of the log, also while it is being replaced. -/
def content (w : Tailing) : Bytes :=
  (w.log <|> w.aside).getD []

/-
  A quarantine of the log would take away the line the tail
  is parked at, or a line before its position.
-/
def disturbs (codec : LineCodec) (w : Tailing) : Bool :=
  w.tail.corrupt.isSome ||
    (corruptOffsets codec 0 (lines w.content)).any
      (fun offset => offset < w.tail.pos)

/- The poll found the file shorter than its position. -/
def startsOver (w : Tailing) : Bool :=
  w.log.any (fun raw => raw.length < w.tail.pos)

end Tailing

namespace TailAct

/-
  What the processes may do. The lock keeps writers out of a
  quarantine; an appended event carries the next number.
-/
def Enabled (codec : TailCodec) (w : Tailing) : TailAct → Prop
| .append body =>
    w.aside = none ∧ newline ∉ body ∧
      ∀ ev ∈ lineEvent? codec.toLineCodec body,
        ev.seq =
          lastSeqOf
            (eventsOf codec.toLineCodec (lines w.content)) + 1
| .tear part => w.aside = none ∧ newline ∉ part
| .truncate => w.aside = none
| .rename =>
    w.aside = none ∧ w.log ≠ none ∧
      ∃ body ∈ lines w.content,
        isCorruptLine codec.toLineCodec body = true
| .rewrite => w.aside ≠ none
| .poll | .takeNewCorrupt | .restart => True

instance
    (codec : TailCodec)
    (w : Tailing)
    (act : TailAct) : Decidable (act.Enabled codec w) :=
  match act with
  | .append _ => inferInstanceAs (Decidable (_ ∧ _ ∧ _))
  | .tear _ => inferInstanceAs (Decidable (_ ∧ _))
  | .truncate => inferInstanceAs (Decidable (_ = _))
  | .rename => inferInstanceAs (Decidable (_ ∧ _ ∧ _))
  | .rewrite => inferInstanceAs (Decidable (_ ≠ _))
  | .poll => inferInstanceAs (Decidable True)
  | .takeNewCorrupt => inferInstanceAs (Decidable True)
  | .restart => inferInstanceAs (Decidable True)

def perform (codec : TailCodec) (w : Tailing) :
    TailAct → Tailing
| .append body => { w with
    log := some
      (Physical.truncateTornTail w.content ++
        (body ++ [newline]))
    appended :=
      w.appended ++ (lineEvent? codec.toLineCodec body).toList
    drained := false }
| .tear part => { w with
    log := some
      (Physical.truncateTornTail w.content ++ part) }
| .truncate => { w with
    log := w.log.map Physical.truncateTornTail }
| .rename => { w with
    log := none
    aside := w.log.map (recovered codec.toLineCodec)
    stale := w.stale || w.disturbs codec.toLineCodec }
| .rewrite => { w with log := w.aside, aside := none }
| .poll =>
    let polled := w.tail.poll codec w.log
    { w with
      tail := polled.2
      delivered := w.delivered ++ polled.1
      stale := w.stale && !w.startsOver
      drained := w.log.isSome && polled.2.corrupt.isNone }
| .takeNewCorrupt =>
    { w with tail := (w.tail.takeNewCorrupt codec).2 }
| .restart =>
    { w with tail := w.tail.restart, stale := false }

end TailAct

/- The states of a tail opened past `since`. -/
inductive Tailed
    (codec : TailCodec)
    (since : Nat)
    (Ok : Tailing → TailAct → Prop) : Tailing → Prop where
| start : Tailed codec since Ok (.start since)
| next
    {w : Tailing}
    (act : TailAct)
    (hRun : Tailed codec since Ok w)
    (hEnabled : act.Enabled codec w)
    (hOk : Ok w act) :
    Tailed codec since Ok (act.perform codec w)

namespace Tailing

/- The states after a list of acts, one after the other. -/
def run (codec : TailCodec) (w : Tailing) :
    List TailAct → Tailing
| [] => w
| act :: rest => run codec (act.perform codec w) rest

def AllEnabled
    (codec : TailCodec)
    (Ok : Tailing → TailAct → Prop)
    (w : Tailing) : List TailAct → Prop
| [] => True
| act :: rest =>
    (act.Enabled codec w ∧ Ok w act) ∧
      AllEnabled codec Ok (act.perform codec w) rest

instance
    (codec : TailCodec)
    (Ok : Tailing → TailAct → Prop)
    [∀ w act, Decidable (Ok w act)] :
    ∀ w acts, Decidable (AllEnabled codec Ok w acts)
| _, [] => inferInstanceAs (Decidable True)
| w, act :: rest =>
    haveI := instDecidableAllEnabled codec Ok
      (act.perform codec w) rest
    inferInstanceAs (Decidable (_ ∧ _))

theorem tailed_run
    {codec : TailCodec}
    {since : Nat}
    {Ok : Tailing → TailAct → Prop}
    {w : Tailing}
    (hRun : Tailed codec since Ok w)
    (acts : List TailAct)
    (hEnabled : AllEnabled codec Ok w acts) :
    Tailed codec since Ok (run codec w acts) := by
  induction acts generalizing w with
  | nil => exact hRun
  | cons act rest ih =>
      exact ih (.next act hRun hEnabled.1.1 hEnabled.1.2)
        hEnabled.2

end Tailing

/-
  A poll of a tail whose lines have moved finds it parked,
  finds no log, or finds the log shorter than its position.
-/
def Noticed (w : Tailing) (act : TailAct) : Prop :=
  act = .poll → w.stale = true →
    w.tail.corrupt.isSome = true ∨
      ∀ raw ∈ w.log, raw.length < w.tail.pos

instance (w : Tailing) (act : TailAct) :
    Decidable (Noticed w act) :=
  inferInstanceAs (Decidable (_ → _ → _))

/-
  The polls returned valid events past the cursor in order
  and each once, and all of them where the last poll read to
  the end.
-/
structure ExactlyOnce (since : Nat) (w : Tailing) : Prop where
  prefixed :
    w.delivered <+:
      w.appended.filter (fun ev => since < ev.seq)
  ascending : Ascending w.delivered
  complete :
    w.drained = true →
      w.delivered =
        w.appended.filter (fun ev => since < ev.seq)

------------------------------------------------------------
-- The Invariant
------------------------------------------------------------

/-
  The position of a tail is between two lines. The events
  before it are not new, and a parked tail is parked at the
  line that follows.
-/
structure Placed
    (codec : LineCodec)
    (t : EventTail)
    (before after : List Bytes) : Prop where
  pos : t.pos = (Lines.join newline before).length
  old : ∀ ev ∈ eventsOf codec before, ev.seq ≤ t.lastSeq
  parked :
    t.corrupt = none ∨
      ∃ c body rest,
        t.corrupt = some c ∧ after = body :: rest ∧
          isCorruptLine codec body = true ∧
          c.byteLen = body.length + 1

structure Follows
    (codec : LineCodec)
    (since : Nat)
    (w : Tailing) : Prop where
  ascending : Ascending w.appended
  appended :
    w.appended = eventsOf codec (lines w.content)
  exclusive : w.aside ≠ none → w.log = none
  begun : since ≤ w.tail.lastSeq
  reached :
    w.tail.lastSeq = since ∨
      ∃ ev ∈ w.appended, ev.seq = w.tail.lastSeq
  delivered :
    w.delivered = w.appended.filter
      (fun ev => since < ev.seq ∧ ev.seq ≤ w.tail.lastSeq)
  placed :
    w.stale = false →
      ∃ before after,
        lines w.content = before ++ after ∧
          Placed codec w.tail before after
  drained :
    w.drained = true →
      ∀ ev ∈ w.appended, ev.seq ≤ w.tail.lastSeq

theorem Ascending.filter_le_prefix
    {events : List Event}
    (hAscending : Ascending events)
    (last : Nat) :
    events.filter (fun ev => ev.seq ≤ last) <+: events := by
  induction events with
  | nil => simp
  | cons ev rest ih =>
      have hRest := List.pairwise_cons.mp hAscending
      by_cases hOld : ev.seq ≤ last
      · simpa [hOld] using ih hRest.2
      · have hNone :
            rest.filter (fun ev => ev.seq ≤ last) = [] := by
          apply List.filter_eq_nil_iff.mpr
          intro later hMem
          have hAfter := hRest.1 later hMem
          simp only [decide_eq_true_eq]
          omega
        simp [hOld, hNone]

theorem Ascending.filter_le_append
    {events : List Event}
    {first second : Nat}
    (hAscending : Ascending events)
    (hLe : first ≤ second) :
    events.filter (fun ev => ev.seq ≤ second) =
      events.filter (fun ev => ev.seq ≤ first) ++
        events.filter
          (fun ev => first < ev.seq ∧ ev.seq ≤ second) := by
  induction events with
  | nil => rfl
  | cons ev rest ih =>
      have hRest := List.pairwise_cons.mp hAscending
      have hIh := ih hRest.2
      by_cases hFirst : ev.seq ≤ first
      · have hSecond : ev.seq ≤ second := by omega
        have hNot : ¬ first < ev.seq := by omega
        simp [hFirst, hSecond, hNot, hIh]
      · have hNone :
            rest.filter (fun ev => ev.seq ≤ first) = [] := by
          apply List.filter_eq_nil_iff.mpr
          intro later hMem
          have hAfter := hRest.1 later hMem
          simp only [decide_eq_true_eq]
          omega
        have hNew : first < ev.seq := by omega
        rw [hNone, List.nil_append] at hIh
        by_cases hSecond : ev.seq ≤ second
        · simp [hFirst, hSecond, hNew, hNone, hIh]
        · simp [hFirst, hSecond, hNone, hIh]

theorem Follows.exactlyOnce
    {codec : LineCodec}
    {since : Nat}
    {w : Tailing}
    (hFollows : Follows codec since w) :
    ExactlyOnce since w := by
  have hPast :
      Ascending
        (w.appended.filter (fun ev => since < ev.seq)) :=
    hFollows.ascending.filter _
  have hSplit :
      w.delivered =
        (w.appended.filter (fun ev => since < ev.seq)).filter
          (fun ev => ev.seq ≤ w.tail.lastSeq) := by
    rw [hFollows.delivered, List.filter_filter]
    apply List.filter_congr
    intro ev hMem
    simp [and_comm]
  constructor
  · rw [hSplit]
    exact hPast.filter_le_prefix _
  · rw [hSplit]
    exact hPast.filter _
  · intro hDrained
    rw [hSplit]
    apply List.filter_eq_self.mpr
    intro ev hMem
    have hSeq :=
      hFollows.drained hDrained ev (List.mem_of_mem_filter hMem)
    simpa using hSeq

------------------------------------------------------------
-- Polls
------------------------------------------------------------

theorem placed_start
    (codec : LineCodec)
    (t : EventTail)
    (bodies : List Bytes)
    (hPos : t.pos = 0)
    (hCorrupt : t.corrupt = none) :
    Placed codec t [] bodies := by
  constructor
  · simpa using hPos
  · simp
  · left
    exact hCorrupt

/- The lines from a position on are those that follow it. -/
theorem lines_drop
    {raw : Bytes}
    {before after : List Bytes}
    (hLines : lines raw = before ++ after) :
    lines (raw.drop (Lines.join newline before).length) =
      after := by
  have hFiled := filed_lines raw
  have hRaw :
      raw =
        Lines.join newline before ++
          (Lines.join newline after ++ tornTail raw) := by
    rw [← List.append_assoc, ← Lines.join_append, ← hLines,
      join_lines]
  have hAfter :
      Lines.Filed newline after (tornTail raw) := by
    constructor
    · intro body hMem
      exact hFiled.bodies body (by simp [hLines, hMem])
    · exact hFiled.torn
  conv_lhs => rw [hRaw]
  rw [List.drop_left, lines, Lines.split_join hAfter]

theorem join_length_le
    {raw : Bytes}
    {before after : List Bytes}
    (hLines : lines raw = before ++ after) :
    (Lines.join newline before).length ≤ raw.length := by
  have hJoin := congrArg List.length (join_lines raw)
  rw [hLines, Lines.join_append] at hJoin
  simp only [List.length_append] at hJoin
  omega

namespace EventTail

/- A poll of a file that got shorter starts over. -/
theorem poll_shorter
    (codec : TailCodec)
    {t : EventTail}
    {raw : Bytes}
    (hShort : raw.length < t.pos) :
    t.poll codec (some raw) = t.restart.poll codec (some raw) := by
  have hFirst : t.resetIfShorter raw.length = t.restart := by
    simp [resetIfShorter, restart, hShort]
  have hSecond :
      t.restart.resetIfShorter raw.length = t.restart := by
    simp [resetIfShorter, restart]
  simp only [poll, hFirst, hSecond]

theorem poll_parked
    (codec : TailCodec)
    {t : EventTail}
    {raw : Bytes}
    (hLong : ¬ raw.length < t.pos)
    (hParked : t.corrupt.isSome = true) :
    t.poll codec (some raw) = ([], t) := by
  simp [poll, resetIfShorter, hLong, hParked]

/- A poll from between two lines scans what follows. -/
theorem poll_placed
    (codec : TailCodec)
    {t : EventTail}
    {raw : Bytes}
    {before after : List Bytes}
    (hLines : lines raw = before ++ after)
    (hAscending :
      Ascending (eventsOf codec.toLineCodec (lines raw)))
    (hPlaced : Placed codec.toLineCodec t before after)
    (hFree : t.corrupt = none) :
    ∃ passed left,
      after = passed ++ left ∧
        Scanned codec.toLineCodec t passed left
          (t.poll codec (some raw)).1
          (t.poll codec (some raw)).2 := by
  have hLong : ¬ raw.length < t.pos := by
    have hLe := join_length_le hLines
    have hPos := hPlaced.pos
    omega
  have hReset : t.resetIfShorter raw.length = t := by
    simp [resetIfShorter, hLong]
  have hAfter :
      Ascending (eventsOf codec.toLineCodec after) := by
    rw [hLines, eventsOf_append] at hAscending
    exact (List.pairwise_append.mp hAscending).2.1
  rw [poll_eq_scan, hReset, hFree, hPlaced.pos,
    lines_drop hLines]
  exact scan_scanned codec t after hAfter

end EventTail

/- A scan leaves the tail between two lines again. -/
theorem Placed.scanned
    {codec : LineCodec}
    {t t' : EventTail}
    {before passed left : List Bytes}
    {out : List Event}
    (hPlaced : Placed codec t before (passed ++ left))
    (hFree : t.corrupt = none)
    (hScanned : t.Scanned codec passed left out t') :
    Placed codec t' (before ++ passed) left := by
  constructor
  · rw [hScanned.pos, hPlaced.pos]
    simp
  · intro ev hMem
    rw [eventsOf_append, List.mem_append] at hMem
    rcases hMem with hMem | hMem
    · exact (hPlaced.old ev hMem).trans hScanned.grew
    · exact hScanned.covers ev hMem
  · rcases hScanned.stopped with ⟨-, hNone⟩ | hParked
    · left
      rw [hNone, hFree]
    · right
      exact hParked

/- What a scan returns is what its new cursor adds. -/
theorem delivered_scanned
    {codec : LineCodec}
    {since : Nat}
    {t t' : EventTail}
    {before passed left : List Bytes}
    {out : List Event}
    (hBegun : since ≤ t.lastSeq)
    (hAscending :
      Ascending (eventsOf codec (before ++ (passed ++ left))))
    (hOld : ∀ ev ∈ eventsOf codec before, ev.seq ≤ t.lastSeq)
    (hScanned : t.Scanned codec passed left out t') :
    (eventsOf codec (before ++ (passed ++ left))).filter
        (fun ev => since < ev.seq ∧ ev.seq ≤ t'.lastSeq) =
      (eventsOf codec (before ++ (passed ++ left))).filter
          (fun ev => since < ev.seq ∧ ev.seq ≤ t.lastSeq) ++
        out := by
  have hSplit := hAscending.filter_le_append hScanned.grew
  have hCut (last : Nat) (events : List Event) :
      events.filter
          (fun ev => since < ev.seq ∧ ev.seq ≤ last) =
        (events.filter (fun ev => ev.seq ≤ last)).filter
          (fun ev => since < ev.seq) := by
    rw [List.filter_filter]
    apply List.filter_congr
    intro ev hMem
    simp
  have hNew :
      (eventsOf codec (before ++ (passed ++ left))).filter
          (fun ev =>
            t.lastSeq < ev.seq ∧ ev.seq ≤ t'.lastSeq) =
        out := by
    rw [hScanned.out, eventsOf_append, eventsOf_append,
      List.filter_append, List.filter_append]
    have hBefore :
        (eventsOf codec before).filter
            (fun ev =>
              t.lastSeq < ev.seq ∧ ev.seq ≤ t'.lastSeq) =
          [] := by
      apply List.filter_eq_nil_iff.mpr
      intro ev hMem
      have hSeq := hOld ev hMem
      simp only [decide_eq_true_eq]
      omega
    have hPassed :
        (eventsOf codec passed).filter
            (fun ev =>
              t.lastSeq < ev.seq ∧ ev.seq ≤ t'.lastSeq) =
          (eventsOf codec passed).filter
            (fun ev => t.lastSeq < ev.seq) := by
      apply List.filter_congr
      intro ev hMem
      have hSeq := hScanned.covers ev hMem
      simp [hSeq]
    have hLeft :
        (eventsOf codec left).filter
            (fun ev =>
              t.lastSeq < ev.seq ∧ ev.seq ≤ t'.lastSeq) =
          [] := by
      apply List.filter_eq_nil_iff.mpr
      intro ev hMem
      simp only [decide_eq_true_eq]
      rcases hScanned.reached with
        hSame | ⟨reached, hReached, hSeq⟩
      · omega
      · rw [eventsOf_append, eventsOf_append] at hAscending
        have hTail :=
          (List.pairwise_append.mp hAscending).2.1
        have hAfter :=
          (List.pairwise_append.mp hTail).2.2 reached hReached
            ev hMem
        omega
    rw [hBefore, hPassed, hLeft]
    simp
  rw [hCut t'.lastSeq, hSplit, List.filter_append, hNew,
    ← hCut]
  congr 1
  apply List.filter_eq_self.mpr
  intro ev hMem
  rw [hScanned.out] at hMem
  have hSeq := List.of_mem_filter hMem
  simp only [decide_eq_true_eq] at hSeq ⊢
  omega

------------------------------------------------------------
-- Steps
------------------------------------------------------------

section Steps

variable {codec : TailCodec}
variable {since : Nat}
variable {w : Tailing}

/- A poll that reads from between two lines. -/
theorem Follows.polled
    {raw : Bytes}
    {t : EventTail}
    {before after : List Bytes}
    (hFollows : Follows codec.toLineCodec since w)
    (hLog : w.log = some raw)
    (hSame :
      w.tail.poll codec (some raw) = t.poll codec (some raw))
    (hSeq : t.lastSeq = w.tail.lastSeq)
    (hLines : lines raw = before ++ after)
    (hPlaced : Placed codec.toLineCodec t before after)
    (hFree : t.corrupt = none) :
    Follows codec.toLineCodec since
      (TailAct.poll.perform codec w) := by
  have hContent : w.content = raw := by
    simp [Tailing.content, hLog]
  have hAppended :
      w.appended =
        eventsOf codec.toLineCodec (before ++ after) := by
    rw [hFollows.appended, hContent, hLines]
  have hAscending :
      Ascending (eventsOf codec.toLineCodec (lines raw)) := by
    rw [hLines, ← hAppended]
    exact hFollows.ascending
  rcases EventTail.poll_placed codec hLines hAscending hPlaced
      hFree with
    ⟨passed, left, rfl, hScanned⟩
  have hNext := hPlaced.scanned hFree hScanned
  constructor
  · exact hFollows.ascending
  · exact hFollows.appended
  · exact hFollows.exclusive
  · simp only [TailAct.perform, hLog, hSame]
    exact (hSeq ▸ hFollows.begun).trans hScanned.grew
  · simp only [TailAct.perform, hLog, hSame]
    rcases hScanned.reached with hStill | ⟨ev, hMem, hReached⟩
    · rw [hStill, hSeq]
      exact hFollows.reached
    · right
      exact ⟨ev, by simp [hAppended, hMem], hReached⟩
  · have hDelivered :=
      delivered_scanned (hSeq ▸ hFollows.begun)
        (by rw [← hAppended]; exact hFollows.ascending)
        hPlaced.old hScanned
    simp only [TailAct.perform, hLog, hSame]
    rw [hFollows.delivered, hAppended, hDelivered, hSeq]
  · intro _
    refine ⟨before ++ passed, left, ?_, ?_⟩
    · have hKept :
          (TailAct.poll.perform codec w).content = raw :=
        hContent
      rw [hKept, hLines, List.append_assoc]
    · simp only [TailAct.perform, hLog, hSame]
      exact hNext
  · intro hDrained ev hMem
    simp only [TailAct.perform, hLog, hSame] at hDrained hMem ⊢
    rcases hScanned.stopped with ⟨hLeft, -⟩ | hParked
    · apply hNext.old
      simpa [hAppended, hLeft] using hMem
    · rcases hParked with ⟨c, body, rest, hCorrupt, -, -, -⟩
      simp [hCorrupt] at hDrained

/- A poll that finds no log, or a tail still parked. -/
theorem Follows.idle
    (hFollows : Follows codec.toLineCodec since w)
    (hPoll : w.tail.poll codec w.log = ([], w.tail))
    (hStays : w.startsOver = false)
    (hBusy : w.log = none ∨ w.tail.corrupt.isSome = true) :
    Follows codec.toLineCodec since
      (TailAct.poll.perform codec w) := by
  have hContent :
      (TailAct.poll.perform codec w).content = w.content :=
    rfl
  constructor
  · exact hFollows.ascending
  · exact hFollows.appended
  · exact hFollows.exclusive
  · simpa [TailAct.perform, hPoll] using hFollows.begun
  · simpa [TailAct.perform, hPoll] using hFollows.reached
  · simpa [TailAct.perform, hPoll] using hFollows.delivered
  · rw [hContent]
    simpa [TailAct.perform, hPoll, hStays] using
      hFollows.placed
  · intro hDrained
    simp only [TailAct.perform, hPoll, Bool.and_eq_true]
      at hDrained
    rcases hBusy with hNone | hParked
    · simp [hNone] at hDrained
    · rw [Option.isNone_iff_eq_none] at hDrained
      simp [hDrained.2] at hParked

theorem Follows.poll
    (hFollows : Follows codec.toLineCodec since w)
    (hNoticed : Noticed w .poll) :
    Follows codec.toLineCodec since
      (TailAct.poll.perform codec w) := by
  cases hLog : w.log with
  | none =>
      apply hFollows.idle
      · simp [hLog, EventTail.poll]
      · simp [Tailing.startsOver, hLog]
      · left
        exact hLog
  | some raw =>
      have hContent : w.content = raw := by
        simp [Tailing.content, hLog]
      by_cases hShort : raw.length < w.tail.pos
      · have hLines : lines raw = [] ++ lines raw := rfl
        exact hFollows.polled hLog
          (EventTail.poll_shorter codec hShort) rfl hLines
          (placed_start _ _ _ rfl rfl) rfl
      · by_cases hParked : w.tail.corrupt.isSome = true
        · apply hFollows.idle
          · rw [hLog]
            exact EventTail.poll_parked codec hShort hParked
          · simp [Tailing.startsOver, hLog]
            omega
          · right
            exact hParked
        · have hFree : w.tail.corrupt = none := by
            simpa using hParked
          have hFresh : w.stale = false := by
            by_contra hStale
            rcases hNoticed rfl (by simpa using hStale) with
              hSome | hShorter
            · exact hParked hSome
            · exact hShort (hShorter raw hLog)
          rcases hFollows.placed hFresh with
            ⟨before, after, hLines, hPlaced⟩
          rw [hContent] at hLines
          exact hFollows.polled hLog rfl rfl hLines hPlaced
            hFree

/- A step that changes neither the tail nor the lines. -/
theorem Follows.framed
    {w' : Tailing}
    (hFollows : Follows codec.toLineCodec since w)
    (hLines : lines w'.content = lines w.content)
    (hTail : w'.tail = w.tail)
    (hDelivered : w'.delivered = w.delivered)
    (hAppended : w'.appended = w.appended)
    (hStale : w'.stale = w.stale)
    (hDrained : w'.drained = w.drained)
    (hExclusive : w'.aside ≠ none → w'.log = none) :
    Follows codec.toLineCodec since w' := by
  constructor
  · rw [hAppended]
    exact hFollows.ascending
  · rw [hAppended, hLines]
    exact hFollows.appended
  · exact hExclusive
  · rw [hTail]
    exact hFollows.begun
  · rw [hTail, hAppended]
    exact hFollows.reached
  · rw [hDelivered, hAppended, hTail]
    exact hFollows.delivered
  · rw [hStale, hLines, hTail]
    exact hFollows.placed
  · rw [hDrained, hAppended, hTail]
    exact hFollows.drained

theorem lines_truncate_append
    (raw : Bytes)
    (text : Bytes) :
    lines (Physical.truncateTornTail raw ++ text) =
      lines raw ++ lines text := by
  have hBodies := (filed_lines raw).bodies
  rw [truncateTornTail_eq, lines,
    Lines.split_append text hBodies]
  rfl

theorem lines_truncate (raw : Bytes) :
    lines (Physical.truncateTornTail raw) = lines raw := by
  simpa [lines, Lines.split] using
    lines_truncate_append raw []

theorem lines_torn
    {part : Bytes}
    (hPart : newline ∉ part) :
    lines part = [] := by
  simp [lines, Lines.split_torn hPart]

theorem lines_line
    {body : Bytes}
    (hBody : newline ∉ body) :
    lines (body ++ [newline]) = [body] := by
  simp [lines, Lines.split_line [] hBody, Lines.split]

theorem Follows.tear
    {part : Bytes}
    (hFollows : Follows codec.toLineCodec since w)
    (hEnabled : (TailAct.tear part).Enabled codec w) :
    Follows codec.toLineCodec since
      ((TailAct.tear part).perform codec w) := by
  apply hFollows.framed <;> try rfl
  · change
      lines (Physical.truncateTornTail w.content ++ part) =
        lines w.content
    rw [lines_truncate_append, lines_torn hEnabled.2]
    simp
  · intro hAside
    exact absurd hEnabled.1 hAside

theorem Follows.truncate
    (hFollows : Follows codec.toLineCodec since w)
    (hEnabled : TailAct.truncate.Enabled codec w) :
    Follows codec.toLineCodec since
      (TailAct.truncate.perform codec w) := by
  apply hFollows.framed <;> try rfl
  · cases hLog : w.log with
    | none =>
        simp [TailAct.perform, Tailing.content, hLog]
    | some raw =>
        simp [TailAct.perform, Tailing.content, hLog,
          lines_truncate]
  · intro hAside
    exact absurd hEnabled hAside

theorem Follows.rewrite
    (hFollows : Follows codec.toLineCodec since w)
    (hEnabled : TailAct.rewrite.Enabled codec w) :
    Follows codec.toLineCodec since
      (TailAct.rewrite.perform codec w) := by
  have hNone := hFollows.exclusive hEnabled
  apply hFollows.framed <;> try rfl
  · simp [TailAct.perform, Tailing.content, hNone]
  · simp [TailAct.perform]

theorem Follows.append
    {body : Bytes}
    (hFollows : Follows codec.toLineCodec since w)
    (hEnabled : (TailAct.append body).Enabled codec w) :
    Follows codec.toLineCodec since
      ((TailAct.append body).perform codec w) := by
  rcases hEnabled with ⟨hAside, hBody, hNext⟩
  have hLines :
      lines ((TailAct.append body).perform codec w).content =
        lines w.content ++ [body] := by
    change
      lines (Physical.truncateTornTail w.content ++
          (body ++ [newline])) =
        lines w.content ++ [body]
    rw [lines_truncate_append, lines_line hBody]
  -- A new event is past every event of the log.
  have hNew :
      ∀ ev ∈ lineEvent? codec.toLineCodec body,
        ∀ old ∈ w.appended, old.seq < ev.seq := by
    intro ev hEv old hOld
    have hLast :=
      seq_le_lastSeqOf hFollows.ascending hOld
    rw [hFollows.appended] at hLast
    have hSeq := hNext ev hEv
    omega
  constructor
  · apply List.pairwise_append.mpr
    refine ⟨hFollows.ascending, ?_, ?_⟩
    · cases lineEvent? codec.toLineCodec body <;> simp
    · intro old hOld ev hEv
      exact hNew ev (by simpa using hEv) old hOld
  · rw [hLines, eventsOf_append, eventsOf_cons,
      ← hFollows.appended]
    simp [TailAct.perform]
  · intro hSome
    exact absurd hAside hSome
  · exact hFollows.begun
  · rcases hFollows.reached with hSame | ⟨ev, hMem, hSeq⟩
    · left
      exact hSame
    · right
      exact ⟨ev, by simp [TailAct.perform, hMem], hSeq⟩
  · have hNone :
        (lineEvent? codec.toLineCodec body).toList.filter
            (fun ev =>
              since < ev.seq ∧ ev.seq ≤ w.tail.lastSeq) =
          [] := by
      apply List.filter_eq_nil_iff.mpr
      intro ev hEv
      have hAfter := hNew ev (by simpa using hEv)
      simp only [decide_eq_true_eq]
      rcases hFollows.reached with hSame | ⟨old, hMem, hSeq⟩
      · omega
      · have hLater := hAfter old hMem
        omega
    change
      w.delivered =
        (w.appended ++ _).filter
          (fun ev => since < ev.seq ∧ ev.seq ≤ w.tail.lastSeq)
    rw [List.filter_append, hNone, List.append_nil]
    exact hFollows.delivered
  · intro hFresh
    rcases hFollows.placed hFresh with
      ⟨before, after, hCut, hPlaced⟩
    refine ⟨before, after ++ [body], ?_, ?_⟩
    · rw [hLines, hCut, List.append_assoc]
    · constructor
      · exact hPlaced.pos
      · exact hPlaced.old
      · rcases hPlaced.parked with
          hFree | ⟨c, line, rest, hSome, rfl, hCorrupt, hLen⟩
        · left
          exact hFree
        · right
          exact ⟨c, line, rest ++ [body], hSome, rfl, hCorrupt,
            hLen⟩
  · simp [TailAct.perform]

theorem EventTail.takeNewCorrupt_lastSeq
    (codec : TailCodec) (t : EventTail) :
    (t.takeNewCorrupt codec).2.lastSeq = t.lastSeq := by
  cases hParked : t.corrupt with
  | none => simp [EventTail.takeNewCorrupt, hParked]
  | some c =>
      simp only [EventTail.takeNewCorrupt, hParked]
      split <;> rfl

theorem EventTail.takeNewCorrupt_parked
    (codec : TailCodec)
    {t : EventTail}
    {c : CorruptLine}
    (hParked : t.corrupt = some c) :
    (t.takeNewCorrupt codec).2.pos = t.pos + c.byteLen ∧
      (t.takeNewCorrupt codec).2.corrupt = none := by
  simp only [EventTail.takeNewCorrupt, hParked]
  split <;> exact ⟨rfl, rfl⟩

/- Taking the parked line moves the tail past it. -/
theorem Placed.taken
    (codec : TailCodec)
    {t : EventTail}
    {before after : List Bytes}
    (hPlaced : Placed codec.toLineCodec t before after) :
    ∃ taken left,
      after = taken ++ left ∧
        Placed codec.toLineCodec (t.takeNewCorrupt codec).2
          (before ++ taken) left ∧
        (t.takeNewCorrupt codec).2.corrupt = none ∧
        (t.corrupt ≠ none → taken ≠ []) := by
  have hSeq := EventTail.takeNewCorrupt_lastSeq codec t
  rcases hPlaced.parked with
    hFree | ⟨c, line, rest, hSome, rfl, hCorrupt, hLen⟩
  · refine ⟨[], after, rfl, ?_, ?_, ?_⟩
    · simpa [EventTail.takeNewCorrupt, hFree] using hPlaced
    · simp [EventTail.takeNewCorrupt, hFree]
    · intro hParked
      exact absurd hFree hParked
  · have hPos := EventTail.takeNewCorrupt_parked codec hSome
    refine ⟨[line], rest, rfl, ?_, hPos.2, by simp⟩
    constructor
    · simp only [hPos.1, hPlaced.pos, hLen, Lines.join_append,
        List.length_append]
      simp
    · intro ev hMem
      rw [hSeq]
      apply hPlaced.old
      simpa [eventsOf_cons,
        lineEvent?_of_corrupt hCorrupt] using hMem
    · left
      exact hPos.2

theorem Follows.takeNewCorrupt
    (hFollows : Follows codec.toLineCodec since w) :
    Follows codec.toLineCodec since
      (TailAct.takeNewCorrupt.perform codec w) := by
  have hSeq := EventTail.takeNewCorrupt_lastSeq codec w.tail
  constructor
  · exact hFollows.ascending
  · exact hFollows.appended
  · exact hFollows.exclusive
  · simp only [TailAct.perform, hSeq]
    exact hFollows.begun
  · simp only [TailAct.perform, hSeq]
    exact hFollows.reached
  · simp only [TailAct.perform, hSeq]
    exact hFollows.delivered
  · intro hFresh
    rcases hFollows.placed hFresh with
      ⟨before, after, hCut, hPlaced⟩
    rcases hPlaced.taken codec with
      ⟨taken, left, rfl, hNext, -, -⟩
    refine ⟨before ++ taken, left, ?_, hNext⟩
    rw [List.append_assoc]
    exact hCut
  · simp only [TailAct.perform, hSeq]
    exact hFollows.drained

theorem Follows.restart
    (hFollows : Follows codec.toLineCodec since w) :
    Follows codec.toLineCodec since
      (TailAct.restart.perform codec w) := by
  constructor
  · exact hFollows.ascending
  · exact hFollows.appended
  · exact hFollows.exclusive
  · exact hFollows.begun
  · exact hFollows.reached
  · exact hFollows.delivered
  · intro _
    exact ⟨[], lines w.content, rfl,
      placed_start _ _ _ rfl rfl⟩
  · exact hFollows.drained

theorem corruptOffsets_append
    (codec : LineCodec)
    (offset : Nat)
    (before after : List Bytes) :
    corruptOffsets codec offset (before ++ after) =
      corruptOffsets codec offset before ++
        corruptOffsets codec
          (offset + (Lines.join newline before).length)
          after := by
  induction before generalizing offset with
  | nil => simp [corruptOffsets]
  | cons body rest ih =>
      rw [Lines.join_cons_length, ← Nat.add_assoc]
      cases hCorrupt : isCorruptLine codec body with
      | true => simp [corruptOffsets, hCorrupt, ih]
      | false => simp [corruptOffsets, hCorrupt, ih]

theorem corruptOffsets_lt
    (codec : LineCodec)
    (offset : Nat)
    (bodies : List Bytes) :
    ∀ o ∈ corruptOffsets codec offset bodies,
      o < offset + (Lines.join newline bodies).length := by
  induction bodies generalizing offset with
  | nil => simp [corruptOffsets]
  | cons body rest ih =>
      intro o hMem
      rw [Lines.join_cons_length]
      have hRest := ih (offset + (body.length + 1)) o
      cases hCorrupt : isCorruptLine codec body with
      | true =>
          simp only [corruptOffsets, hCorrupt, if_true,
            List.mem_cons] at hMem
          rcases hMem with rfl | hLater
          · omega
          · have hLt := hRest hLater
            omega
      | false =>
          simp only [corruptOffsets, hCorrupt,
            Bool.false_eq_true, if_false] at hMem
          have hLt := hRest hMem
          omega

/- Lines that a quarantine leaves in front of a position. -/
theorem sound_of_undisturbed
    {codec : LineCodec}
    {before after : List Bytes}
    (hNone :
      (corruptOffsets codec 0 (before ++ after)).any
          (fun offset =>
            offset < (Lines.join newline before).length) =
        false) :
    ∀ body ∈ before, isCorruptLine codec body = false := by
  rw [← corruptOffsets_eq_nil codec 0]
  apply List.eq_nil_iff_forall_not_mem.mpr
  intro o hMem
  have hLt := corruptOffsets_lt codec 0 before o hMem
  simp only [List.any_eq_false, corruptOffsets_append,
    List.mem_append, decide_eq_true_eq] at hNone
  apply hNone o (.inl hMem)
  omega

theorem Follows.rename
    (hFollows : Follows codec.toLineCodec since w)
    (hEnabled : TailAct.rename.Enabled codec w) :
    Follows codec.toLineCodec since
      (TailAct.rename.perform codec w) := by
  rcases hEnabled with ⟨hAside, hSome, -⟩
  rcases Option.ne_none_iff_exists'.mp hSome with ⟨raw, hLog⟩
  have hContent : w.content = raw := by
    simp [Tailing.content, hLog]
  have hLines :
      lines (TailAct.rename.perform codec w).content =
        (lines w.content).filter (fun body =>
          !isCorruptLine codec.toLineCodec body) := by
    rw [hContent, ← lines_recovered]
    simp [TailAct.perform, Tailing.content, hLog]
  constructor
  · exact hFollows.ascending
  · rw [hLines, eventsOf_filter]
    exact hFollows.appended
  · intro _
    rfl
  · exact hFollows.begun
  · exact hFollows.reached
  · exact hFollows.delivered
  · intro hFresh
    simp only [TailAct.perform, Tailing.disturbs,
      Bool.or_eq_false_iff] at hFresh
    rcases hFresh with ⟨hStale, hFree, hUndisturbed⟩
    rcases hFollows.placed hStale with
      ⟨before, after, hCut, hPlaced⟩
    rw [hCut, hPlaced.pos] at hUndisturbed
    have hSound := sound_of_undisturbed hUndisturbed
    have hKept :
        before.filter (fun body =>
          !isCorruptLine codec.toLineCodec body) = before := by
      apply List.filter_eq_self.mpr
      intro body hMem
      simp [hSound body hMem]
    refine ⟨before, after.filter (fun body =>
      !isCorruptLine codec.toLineCodec body), ?_, ?_⟩
    · rw [hLines, hCut, List.filter_append, hKept]
    · constructor
      · exact hPlaced.pos
      · exact hPlaced.old
      · left
        exact Option.isSome_eq_false_iff.mp hFree
          |> Option.isNone_iff_eq_none.mp
  · exact hFollows.drained

end Steps

theorem follows_start
    (codec : LineCodec)
    (since : Nat) :
    Follows codec since (.start since) := by
  constructor
  · exact List.Pairwise.nil
  · rfl
  · intro _
    rfl
  · exact le_refl _
  · left
    rfl
  · rfl
  · intro _
    exact ⟨[], [], rfl, placed_start _ _ _ rfl rfl⟩
  · intro hDrained
    simp [Tailing.start] at hDrained

/- The invariant holds along every run. -/
theorem Tailed.follows
    {codec : TailCodec}
    {since : Nat}
    {w : Tailing}
    (hRun : Tailed codec since Noticed w) :
    Follows codec.toLineCodec since w := by
  induction hRun with
  | start => exact follows_start _ since
  | next act hRun hEnabled hOk ih =>
      cases act with
      | append body => exact ih.append hEnabled
      | tear part => exact ih.tear hEnabled
      | truncate => exact ih.truncate hEnabled
      | rename => exact ih.rename hEnabled
      | rewrite => exact ih.rewrite hEnabled
      | poll => exact ih.poll hOk
      | takeNewCorrupt => exact ih.takeNewCorrupt
      | restart => exact ih.restart

------------------------------------------------------------
-- Progress
------------------------------------------------------------

namespace Tailing

/- Rounds of skipping the parked line and polling again. -/
def rounds (codec : TailCodec) : Nat → Tailing → Tailing
| 0, w => w
| n + 1, w =>
    rounds codec n
      (TailAct.poll.perform codec
        (TailAct.takeNewCorrupt.perform codec w))

end Tailing

section Progress

variable {codec : TailCodec}
variable {since : Nat}

/-
  From an unparked tail, a poll and some rounds read the log
  to its end: a poll that parks has one corrupt line less
  to pass.
-/
theorem Follows.rounds_drain
    (left : Nat)
    {w : Tailing}
    {raw : Bytes}
    {before after : List Bytes}
    (hFollows : Follows codec.toLineCodec since w)
    (hLog : w.log = some raw)
    (hFresh : w.stale = false)
    (hLines : lines raw = before ++ after)
    (hPlaced : Placed codec.toLineCodec w.tail before after)
    (hFree : w.tail.corrupt = none)
    (hLeft : after.length < left) :
    ∃ n,
      (Tailing.rounds codec n
        (TailAct.poll.perform codec w)).drained = true := by
  induction left generalizing w before after with
  | zero => omega
  | succ left ih =>
      have hContent : w.content = raw := by
        simp [Tailing.content, hLog]
      have hAscending :
          Ascending
            (eventsOf codec.toLineCodec (lines raw)) := by
        rw [← hContent, ← hFollows.appended]
        exact hFollows.ascending
      have hNoticed : Noticed w .poll := by
        intro _ hStale
        simp [hFresh] at hStale
      rcases EventTail.poll_placed codec hLines hAscending
          hPlaced hFree with
        ⟨passed, rest, rfl, hScanned⟩
      have hNext := hPlaced.scanned hFree hScanned
      rcases hScanned.stopped with ⟨-, hNone⟩ | hParked
      · refine ⟨0, ?_⟩
        simp [Tailing.rounds, TailAct.perform, hLog, hNone,
          hFree]
      · rcases hParked with ⟨c, body, later, hSome, -, -, -⟩
        rcases hNext.taken codec with
          ⟨taken, left', rfl, hTaken, hUnparked, hMoved⟩
        have hPassed : taken ≠ [] := hMoved (by simp [hSome])
        have hShorter : left'.length < left := by
          have hPos := List.length_pos_of_ne_nil hPassed
          simp only [List.length_append] at hLeft
          omega
        have hCut :
            lines raw = ((before ++ passed) ++ taken) ++ left' := by
          rw [hLines]
          simp
        have hFollows' :=
          (hFollows.poll hNoticed).takeNewCorrupt
        have hTail :
            (TailAct.takeNewCorrupt.perform codec
                (TailAct.poll.perform codec w)).tail =
              ((w.tail.poll codec (some raw)).2.takeNewCorrupt
                codec).2 := by
          simp [TailAct.perform, hLog]
        rcases ih hFollows' hLog
            (by simp [TailAct.perform, hFresh]) hCut
            (hTail ▸ hTaken) (hTail ▸ hUnparked) hShorter with
          ⟨n, hDrained⟩
        exact ⟨n + 1, hDrained⟩

/- A tail whose lines have not moved reads the whole log. -/
theorem Follows.drains
    {w : Tailing}
    (hFollows : Follows codec.toLineCodec since w)
    (hLog : w.log ≠ none)
    (hFresh : w.stale = false) :
    ∃ n, (Tailing.rounds codec n w).drained = true := by
  rcases Option.ne_none_iff_exists'.mp hLog with ⟨raw, hRaw⟩
  have hContent : w.content = raw := by
    simp [Tailing.content, hRaw]
  rcases hFollows.placed hFresh with
    ⟨before, after, hCut, hPlaced⟩
  rcases hPlaced.taken codec with
    ⟨taken, left, rfl, hTaken, hUnparked, -⟩
  have hLines : lines raw = (before ++ taken) ++ left := by
    rw [← hContent, hCut, List.append_assoc]
  rcases Follows.rounds_drain (left.length + 1)
      hFollows.takeNewCorrupt hRaw hFresh hLines hTaken
      hUnparked (Nat.lt_succ_self _) with
    ⟨n, hDrained⟩
  exact ⟨n + 1, hDrained⟩

/- Rounds append nothing and keep the invariant. -/
theorem Follows.rounds
    (n : Nat)
    {w : Tailing}
    (hFollows : Follows codec.toLineCodec since w)
    (hFresh : w.stale = false) :
    Follows codec.toLineCodec since
      (Tailing.rounds codec n w) := by
  induction n generalizing w with
  | zero => exact hFollows
  | succ n ih =>
      apply ih
      · apply hFollows.takeNewCorrupt.poll
        intro _ hStale
        simp [TailAct.perform, hFresh] at hStale
      · simp [TailAct.perform, hFresh]

end Progress

theorem rounds_appended
    (codec : TailCodec)
    (n : Nat)
    (w : Tailing) :
    (Tailing.rounds codec n w).appended = w.appended := by
  induction n generalizing w with
  | zero => rfl
  | succ n ih => exact ih _

------------------------------------------------------------
-- Exactly Once
------------------------------------------------------------

/-
  Along every run in which a tail polls only lines that have
  not moved under it, or notices that they have, its polls
  return each valid event past the cursor once, in order.
  Skipping corrupt lines and polling on reads them all.
-/
theorem tail_exactlyOnce
    (codec : TailCodec)
    (since : Nat)
    (w : Tailing)
    (hRun : Tailed codec since Noticed w) :
    ExactlyOnce since w ∧
      (w.log ≠ none → w.stale = false →
        ∃ n,
          (Tailing.rounds codec n w).delivered =
            w.appended.filter (fun ev => since < ev.seq)) := by
  have hFollows := hRun.follows
  refine ⟨hFollows.exactlyOnce, ?_⟩
  intro hLog hFresh
  rcases hFollows.drains hLog hFresh with ⟨n, hDrained⟩
  refine ⟨n, ?_⟩
  rw [((hFollows.rounds n hFresh).exactlyOnce).complete
    hDrained, rounds_appended]

namespace Sample

def nodeCreatedText : Bytes :=
  ascii
    ("\x7b\"ts\":\"1970-01-01T00:00:02Z\",\"seq\":2," ++
      "\"kind\":\"node.created\"," ++
      "\"run_id\":\"01jxsnap000000000000000000\"," ++
      "\"node_id\":\"n-0001\"," ++
      "\"data\":\x7b\"kind\":\"spinoff\"\x7d\x7d")

def tailCodec : TailCodec where
  fromSlice := fun text =>
    if text = createdText then .ok runCreated
    else if text = nodeCreatedText then .ok nodeCreated
    else .error "expected value at line 1 column 1"
  escapeLossy := textCodec.escapeLossy
  excerptHash := fun _ => 0

/- A corrupt line between two events is skipped in memory. -/
def skipping : List TailAct :=
  [.append createdText, .append (ascii "junk"), .poll,
    .takeNewCorrupt, .append nodeCreatedText, .poll]

/-
  Another process takes the skipped line out of the log, and
  the log grows past the saved position before the next poll.
-/
def overtaken : List TailAct :=
  [.append createdText, .append (ascii "junk"), .poll,
    .takeNewCorrupt, .rename, .rewrite,
    .append nodeCreatedText, .poll, .takeNewCorrupt, .poll]

theorem overtaken_loses :
    Tailing.AllEnabled tailCodec (fun _ _ => True) (.start 0)
        overtaken ∧
      (Tailing.run tailCodec (.start 0) overtaken).drained =
        true ∧
      (Tailing.run tailCodec (.start 0)
        overtaken).delivered.map Event.seq = [1] ∧
      (Tailing.run tailCodec (.start 0)
        overtaken).appended.map Event.seq = [1, 2] := by
  decide +kernel

end Sample

theorem tail_exactlyOnce_skipping :
    ExactlyOnce 0
      (Tailing.run Sample.tailCodec (.start 0)
        Sample.skipping) := by
  apply (tail_exactlyOnce Sample.tailCodec 0 _ _).1
  apply Tailing.tailed_run .start
  decide +kernel

/- The event that the tail then steps over is never returned. -/
theorem tail_not_exactlyOnce :
    ¬ ∀ codec since w,
      Tailed codec since (fun _ _ => True) w →
        ExactlyOnce since w := by
  intro hAll
  rcases Sample.overtaken_loses with
    ⟨hEnabled, hDrained, hDelivered, hAppended⟩
  have hRun :=
    Tailing.tailed_run .start Sample.overtaken hEnabled
  generalize
    Tailing.run Sample.tailCodec (.start 0) Sample.overtaken =
      w at hRun hDrained hDelivered hAppended
  have hAllEvents := (hAll _ 0 w hRun).complete hDrained
  have hSeqs := congrArg (List.map Event.seq) hAllEvents
  have hFilter :
      w.appended.filter (fun ev => 0 < ev.seq) =
        w.appended := by
    apply List.filter_eq_self.mpr
    intro ev hMem
    have hSeq := List.mem_map_of_mem (f := Event.seq) hMem
    rw [hAppended] at hSeq
    simp only [List.mem_cons, List.not_mem_nil, or_false]
      at hSeq
    simp only [decide_eq_true_eq]
    omega
  rw [hDelivered, hFilter, hAppended] at hSeqs
  simp at hSeqs

end Taskfleet
