import Mathlib.Order.Bounds.Basic
import Taskfleet.Descent
import Taskfleet.LogReaders

/-
  The backward scan of the event log as it reads the file:
  the offsets of its chunks, the reads that fail where the
  file is too short, and the two loops, one over chunks and
  one over lines.

  Main declarations:
    * `LogFile.findPrevNewline`, `LogFile.recoverLastSeq`
    * `LogFile.findPrevNewline_within`,
      `LogFile.findPrevNewline_past_end`
    * `LogFile.CompleteLine`, `LogFile.linesVisited`
    * `LogFile.recoverLastSeq_refines`
    * `LogFile.backward_scan_exact`
-/

------------------------------------------------------------
-- Reading a File
------------------------------------------------------------

namespace Taskfleet

open Fallible

namespace LogFile

open Physical (lineStart)
open Descent (Turn Loop)

/- Why the last sequence number is not there. -/
inductive ScanError where
| io (file : StateFile) (detail : String)
| core (e : Error)
deriving DecidableEq, Repr

def unexpectedEof : ScanError :=
  .io .events "failed to fill whole buffer"

/- Seek to an offset and fill a buffer from there. -/
def readExact (raw : Bytes) (start len : Nat) :
    Except ScanError Bytes :=
  let buf := (raw.drop start).take len
  if buf.length = len then .ok buf else .error unexpectedEof

theorem readExact_within
    {raw : Bytes} {start len : Nat}
    (hWithin : start + len ≤ raw.length) :
    readExact raw start len =
      .ok ((raw.drop start).take len) := by
  unfold readExact
  apply if_pos
  rw [List.length_take, List.length_drop]
  omega

theorem readExact_past_end
    {raw : Bytes} {start len : Nat}
    (hSome : 0 < len)
    (hPast : raw.length < start + len) :
    readExact raw start len = .error unexpectedEof := by
  unfold readExact
  apply if_neg
  rw [List.length_take, List.length_drop]
  omega

------------------------------------------------------------
-- The Loop over Chunks
------------------------------------------------------------

/- One chunk that ends at an offset, searched backward. -/
def scanTurn (chunk : Nat) (raw : Bytes) (pos : Nat) :
    Turn Nat (Except ScanError (Option Nat)) :=
  let start := pos - chunk
  match readExact raw start (pos - start) with
  | .error e => .done (.error e)
  | .ok buf =>
      match Physical.findPrevNewline buf with
      | some i => .done (.ok (some (start + i)))
      | none =>
          if start = 0 then .done (.ok none)
          else .again start

theorem scanTurn_again
    {chunk : Nat} {raw : Bytes} {pos next : Nat}
    (hTurn : scanTurn chunk raw pos = .again next) :
    next = pos - chunk ∧ next ≠ 0 := by
  unfold scanTurn at hTurn
  dsimp only at hTurn
  split at hTurn
  next => cases hTurn
  next =>
    split at hTurn
    next => cases hTurn
    next =>
      split at hTurn
      next => cases hTurn
      next hStart =>
        cases hTurn
        exact ⟨rfl, hStart⟩

def scan (chunk : Nat) [NeZero chunk] (raw : Bytes) :
    Loop Nat (Except ScanError (Option Nat)) where
  turn := scanTurn chunk raw
  size := id
  descends := by
    intro pos next hTurn
    have hChunk := Nat.pos_of_neZero chunk
    have hNext := scanTurn_again hTurn
    simp only [id]
    omega

/- The last newline before an offset, in chunks of a size. -/
def findPrevNewlineIn
    (chunk : Nat) [NeZero chunk]
    (raw : Bytes)
    (before : Nat) : Except ScanError (Option Nat) :=
  if before = 0 then .ok none
  else (scan chunk raw).run before

def findPrevNewline (raw : Bytes) (before : Nat) :
    Except ScanError (Option Nat) :=
  findPrevNewlineIn Physical.scanChunk raw before

/- Every turn stays before the offset. -/
theorem findPrevNewlineIn_lt
    {chunk : Nat} [NeZero chunk]
    {raw : Bytes} {before i : Nat}
    (hFound :
      findPrevNewlineIn chunk raw before = .ok (some i)) :
    i < before := by
  unfold findPrevNewlineIn at hFound
  split at hFound
  next => cases hFound
  next hSome =>
    apply (scan chunk raw).rule
      (P := fun pos => pos ≤ before ∧ pos ≠ 0)
      (Q := fun r => ∀ i, r = .ok (some i) → i < before)
      ?_ ?_ ⟨Nat.le_refl before, hSome⟩ i hFound
    · intro pos r hPos hTurn i hResult
      change scanTurn chunk raw pos = .done r at hTurn
      unfold scanTurn at hTurn
      dsimp only at hTurn
      split at hTurn
      next e hRead =>
        cases hTurn
        cases hResult
      next buf hRead =>
        split at hTurn
        next j hFirst =>
          cases hTurn
          cases hResult
          have hLess := Physical.findPrevNewline_lt hFirst
          unfold readExact at hRead
          dsimp only at hRead
          split at hRead
          next hLength =>
            cases hRead
            omega
          next => cases hRead
        next =>
          split at hTurn
          next =>
            cases hTurn
            cases hResult
          next => cases hTurn
    · intro pos next hPos hTurn
      have hNext := scanTurn_again hTurn
      omega

------------------------------------------------------------
-- The Loop over Lines
------------------------------------------------------------

/-
  One line that ends at an offset. It bears the sequence
  number, or it is blank and the line before it is next.
-/
def recoverTurn
    (codec : LineText)
    (env : RunEnv)
    (raw : Bytes)
    (stop : Nat) : Turn Nat (Except ScanError Nat) :=
  match findPrevNewline raw stop with
  | .error e => .done (.error e)
  | .ok found =>
      let start := found.elim 0 (fun p => p + 1)
      match readExact raw start (stop - start) with
      | .error e => .done (.error e)
      | .ok line =>
          if line.any (fun b =>
              !Physical.isAsciiWhitespace b) then
            .done ((Physical.parseSeq codec env line).mapError
              ScanError.core)
          else if start = 0 then .done (.ok 0)
          else .again (start - 1)

/- The next line ends at the newline that was found. -/
theorem recoverTurn_again
    {codec : LineText} {env : RunEnv} {raw : Bytes}
    {stop next : Nat}
    (hTurn : recoverTurn codec env raw stop = .again next) :
    findPrevNewline raw stop = .ok (some next) := by
  unfold recoverTurn at hTurn
  split at hTurn
  next => cases hTurn
  next found hFound =>
    dsimp only at hTurn
    split at hTurn
    next => cases hTurn
    next =>
      split at hTurn
      next => cases hTurn
      next =>
        split at hTurn
        next => cases hTurn
        next hStart =>
          cases hTurn
          cases found with
          | none => exact absurd rfl hStart
          | some p => exact hFound

def walk (codec : LineText) (env : RunEnv) (raw : Bytes) :
    Loop Nat (Except ScanError Nat) where
  turn := recoverTurn codec env raw
  size := id
  descends := by
    intro stop next hTurn
    exact findPrevNewlineIn_lt (recoverTurn_again hTurn)

/- The newline of the last complete line. -/
def lastLineEnd (raw : Bytes) :
    Except ScanError (Option Nat) := do
  let tailByte ← readExact raw (raw.length - 1) 1
  if tailByte = [newline] then
    return some (raw.length - 1)
  else findPrevNewline raw raw.length

/- A log that is missing has no sequence number. -/
def recoverLastSeq
    (codec : LineText)
    (env : RunEnv) :
    Option Bytes → Except ScanError Nat
| none => .ok 0
| some raw =>
    if raw.length = 0 then .ok 0
    else do
      match ← lastLineEnd raw with
      | none => .ok 0
      | some stop => (walk codec env raw).run stop

------------------------------------------------------------
-- Where the Newlines Are
------------------------------------------------------------

def newlinesBelow (raw : Bytes) (stop : Nat) : Set Nat :=
  {i | i < stop ∧ raw[i]? = some newline}

theorem notMem_of_findPrevNewline
    {raw : Bytes}
    (hNone : Physical.findPrevNewline raw = none) :
    newline ∉ raw := by
  induction raw with
  | nil => exact List.not_mem_nil
  | cons b rest ih =>
      unfold Physical.findPrevNewline at hNone
      split at hNone
      next => cases hNone
      next hRest =>
        split at hNone
        next => cases hNone
        next hFresh =>
          rw [List.mem_cons, not_or]
          exact ⟨Ne.symm hFresh, ih hRest⟩

theorem findPrevNewline_found
    {raw : Bytes} {i : Nat}
    (hFound : Physical.findPrevNewline raw = some i) :
    IsGreatest {j | raw[j]? = some newline} i := by
  induction raw generalizing i with
  | nil => cases hFound
  | cons b rest ih =>
      unfold Physical.findPrevNewline at hFound
      split at hFound
      next j hRest =>
        cases hFound
        have hGreatest := ih hRest
        constructor
        · exact hGreatest.1
        · intro k hK
          cases k with
          | zero => exact Nat.zero_le _
          | succ k => exact Nat.succ_le_succ (hGreatest.2 hK)
      next hRest =>
        split at hFound
        next hHere =>
          cases hFound
          constructor
          · exact congrArg some hHere
          · intro k hK
            cases k with
            | zero => exact Nat.le_refl 0
            | succ k =>
                have hMem : newline ∈ rest :=
                  List.mem_of_getElem? hK
                exact absurd hMem
                  (notMem_of_findPrevNewline hRest)
        next => cases hFound

theorem findPrevNewline_eq_some
    {raw : Bytes} {i : Nat} :
    Physical.findPrevNewline raw = some i ↔
      IsGreatest {j | raw[j]? = some newline} i := by
  constructor
  · exact findPrevNewline_found
  · intro hGreatest
    cases hFound : Physical.findPrevNewline raw with
    | none =>
        exact absurd (List.mem_of_getElem? hGreatest.1)
          (notMem_of_findPrevNewline hFound)
    | some j =>
        rw [(findPrevNewline_found hFound).unique hGreatest]

theorem findPrevNewline_eq_none {raw : Bytes} :
    Physical.findPrevNewline raw = none ↔
      {j : Nat | raw[j]? = some newline} = ∅ := by
  rw [Set.eq_empty_iff_forall_notMem]
  constructor
  · intro hNone j hNewline
    exact notMem_of_findPrevNewline hNone
      (List.mem_of_getElem? hNewline)
  · intro hEmpty
    cases hFound : Physical.findPrevNewline raw with
    | none => rfl
    | some i =>
        exact absurd (findPrevNewline_found hFound).1 (hEmpty i)

theorem newlines_take (raw : Bytes) (stop : Nat) :
    {j | (raw.take stop)[j]? = some newline} =
      newlinesBelow raw stop := by
  ext j
  by_cases hLess : j < stop
  · simp [newlinesBelow, hLess, List.getElem?_take]
  · simp [newlinesBelow, hLess, List.getElem?_take]

section Chunks

variable {chunk : Nat} {raw : Bytes} {before pos : Nat}

/- Within the file no read of a turn fails. -/
theorem scanTurn_within (hPos : pos ≤ raw.length) :
    scanTurn chunk raw pos =
      match Physical.findPrevNewline
          ((raw.drop (pos - chunk)).take
            (pos - (pos - chunk))) with
      | some i => .done (.ok (some (pos - chunk + i)))
      | none =>
          if pos - chunk = 0 then .done (.ok none)
          else .again (pos - chunk) := by
  unfold scanTurn
  dsimp only
  rw [readExact_within (by omega)]

variable [NeZero chunk]

theorem run_scan_within (hPos : pos ≤ raw.length) :
    (scan chunk raw).run pos =
      .ok (Physical.findPrevNewlineIn chunk raw pos) := by
  induction pos using Nat.strong_induction_on with
  | _ pos ih =>
      have hTurn :
          (scan chunk raw).turn pos = scanTurn chunk raw pos :=
        rfl
      rw [scanTurn_within hPos] at hTurn
      rw [Physical.findPrevNewlineIn]
      cases hFound : Physical.findPrevNewline
          ((raw.drop (pos - chunk)).take
            (pos - (pos - chunk))) with
      | some i =>
          rw [hFound] at hTurn
          exact Loop.run_done hTurn
      | none =>
          rw [hFound] at hTurn
          dsimp only at hTurn
          by_cases hStart : pos - chunk = 0
          · rw [if_pos hStart] at hTurn
            rw [dif_pos hStart]
            exact Loop.run_done hTurn
          · rw [if_neg hStart] at hTurn
            rw [dif_neg hStart, Loop.run_again hTurn]
            have hChunk := Nat.pos_of_neZero chunk
            exact ih _ (by omega) (by omega)

/- The chunks together are searched like the whole file. -/
theorem findPrevNewline_within (hBefore : before ≤ raw.length) :
    findPrevNewlineIn chunk raw before =
      .ok (Physical.findPrevNewline (raw.take before)) := by
  unfold findPrevNewlineIn
  split
  next hZero =>
    rw [hZero]
    rfl
  next =>
    rw [run_scan_within hBefore,
      Physical.findPrevNewlineIn_eq chunk raw before hBefore]

/- The chunk at the offset is the first that is read. -/
theorem findPrevNewline_past_end
    (hPast : raw.length < before) :
    findPrevNewlineIn chunk raw before =
      .error unexpectedEof := by
  have hChunk := Nat.pos_of_neZero chunk
  have hTurn :
      (scan chunk raw).turn before =
        .done (.error unexpectedEof) := by
    change scanTurn chunk raw before = _
    unfold scanTurn
    dsimp only
    rw [readExact_past_end (by omega) (by omega)]
  unfold findPrevNewlineIn
  rw [if_neg (by omega)]
  exact Loop.run_done hTurn

end Chunks

------------------------------------------------------------
-- The Lines That Are Visited
------------------------------------------------------------

/- A line from its first byte up to its newline. -/
structure LogSpan where
  start : Nat
  stop : Nat
deriving DecidableEq, Repr

structure CompleteLine (raw : Bytes) (line : LogSpan) : Prop where
  ordered : line.start ≤ line.stop
  begun :
    line.start = 0 ∨
      ∃ p, line.start = p + 1 ∧ raw[p]? = some newline
  whole : ∀ i, line.start ≤ i → i < line.stop →
    raw[i]? ≠ some newline
  ended : raw[line.stop]? = some newline

def lineEndingAt (raw : Bytes) (stop : Nat) : LogSpan :=
  ⟨lineStart raw stop, stop⟩

/- The line of each turn of the loop over lines. -/
def linesVisited
    (codec : LineText) (env : RunEnv) (raw : Bytes) :
    List LogSpan :=
  match lastLineEnd raw with
  | .ok (some stop) =>
      ((walk codec env raw).visited stop).map
        (lineEndingAt raw)
  | _ => []

section Lines

variable {codec : LineText} {env : RunEnv}
variable {raw : Bytes} {stop next : Nat}

theorem findPrevNewline_eq (hStop : stop ≤ raw.length) :
    findPrevNewline raw stop =
      .ok (Physical.findPrevNewlineBefore raw stop) := by
  unfold findPrevNewline
  rw [findPrevNewline_within hStop,
    Physical.findPrevNewlineBefore_eq hStop]

/- Within the file a turn is about one line of it. -/
theorem recoverTurn_within (hStop : stop ≤ raw.length) :
    recoverTurn codec env raw stop =
      if ((raw.drop (lineStart raw stop)).take
          (stop - lineStart raw stop)).any
            (fun b => !Physical.isAsciiWhitespace b) then
        .done ((Physical.parseSeq codec env
          ((raw.drop (lineStart raw stop)).take
            (stop - lineStart raw stop))).mapError
              ScanError.core)
      else if lineStart raw stop = 0 then .done (.ok 0)
      else .again (lineStart raw stop - 1) := by
  have hStart :
      (Physical.findPrevNewlineBefore raw stop).elim 0
          (fun p => p + 1) = lineStart raw stop := by
    unfold lineStart
    cases Physical.findPrevNewlineBefore raw stop <;> rfl
  have hLess := Physical.lineStart_le raw stop
  unfold recoverTurn
  rw [findPrevNewline_eq hStop]
  dsimp only
  rw [hStart, readExact_within (by omega)]

theorem run_walk_within (hStop : stop ≤ raw.length) :
    (walk codec env raw).run stop =
      (Physical.recoverFrom codec env raw stop).mapError
        ScanError.core := by
  induction stop using Nat.strong_induction_on with
  | _ stop ih =>
      have hTurn :
          (walk codec env raw).turn stop =
            recoverTurn codec env raw stop := rfl
      rw [recoverTurn_within hStop] at hTurn
      rw [Physical.recoverFrom]
      split
      next hInk =>
        rw [if_pos hInk] at hTurn
        exact Loop.run_done hTurn
      next hBlank =>
        rw [if_neg hBlank] at hTurn
        split
        next hStart =>
          rw [if_pos hStart] at hTurn
          exact Loop.run_done hTurn
        next hStart =>
          rw [if_neg hStart] at hTurn
          rw [Loop.run_again hTurn]
          have hLess := Physical.lineStart_le raw stop
          exact ih _ (by omega) (by omega)

theorem lastLineEnd_eq (hSome : raw ≠ []) :
    lastLineEnd raw = .ok (Physical.lastLineEnd raw) := by
  have hLength := List.length_pos_of_ne_nil hSome
  have hTail :
      readExact raw (raw.length - 1) 1 =
        .ok [raw.getLast hSome] := by
    rw [readExact_within (by omega)]
    rw [List.drop_length_sub_one hSome]
    rfl
  unfold lastLineEnd Physical.lastLineEnd
  rw [hTail, ok_bind, List.getLast?_eq_some_getLast hSome]
  by_cases hClosed : raw.getLast hSome = newline
  · simp [hClosed]
  · simp [hClosed, findPrevNewline_eq]

theorem lineStart_of_found
    {p : Nat}
    (hFound : findPrevNewline raw stop = .ok (some p)) :
    stop ≤ raw.length ∧ lineStart raw stop = p + 1 ∧
      p ∈ newlinesBelow raw stop := by
  have hStop : stop ≤ raw.length := by
    by_contra hPast
    unfold findPrevNewline at hFound
    rw [findPrevNewline_past_end (Nat.lt_of_not_le hPast)]
      at hFound
    cases hFound
  rw [findPrevNewline_eq hStop, Except.ok.injEq] at hFound
  refine ⟨hStop, ?_, ?_⟩
  · unfold lineStart
    rw [hFound]
  · rw [Physical.findPrevNewlineBefore_eq hStop,
      findPrevNewline_eq_some, newlines_take] at hFound
    exact hFound.1

theorem lastLineEnd_ended
    (hLast : Physical.lastLineEnd raw = some stop) :
    raw[stop]? = some newline := by
  unfold Physical.lastLineEnd at hLast
  split at hLast
  next hClosed =>
    cases hLast
    rw [← List.getLast?_eq_getElem?]
    exact hClosed
  next =>
    have hFound : findPrevNewline raw raw.length =
        .ok (some stop) := by
      rw [findPrevNewline_eq (Nat.le_refl _), hLast]
    exact (lineStart_of_found hFound).2.2.2

theorem le_length_of_ended
    (hStop : raw[stop]? = some newline) :
    stop ≤ raw.length := by
  rw [List.getElem?_eq_some_iff] at hStop
  rcases hStop with ⟨hLess, -⟩
  exact Nat.le_of_lt hLess

/- Reading the file adds no errors of its own. -/
theorem recoverLastSeq_refines
    (codec : LineText) (env : RunEnv) (raw : Bytes) :
    recoverLastSeq codec env (some raw) =
      (Physical.recoverLastSeq codec env raw).mapError
        ScanError.core := by
  unfold recoverLastSeq Physical.recoverLastSeq
  by_cases hEmpty : raw = []
  · rw [hEmpty]
    rfl
  · dsimp only
    rw [if_neg (by simpa using hEmpty),
      if_neg (by simpa using hEmpty),
      lastLineEnd_eq hEmpty, ok_bind]
    cases hLast : Physical.lastLineEnd raw with
    | none => rfl
    | some stop =>
        exact run_walk_within
          (le_length_of_ended (lastLineEnd_ended hLast))

/- A newline ends a complete line. -/
theorem completeLine_endingAt
    (hEnded : raw[stop]? = some newline) :
    CompleteLine raw (lineEndingAt raw stop) := by
  have hStop := le_length_of_ended hEnded
  have hFound := findPrevNewline_eq hStop
  cases hBefore : Physical.findPrevNewlineBefore raw stop with
  | none =>
      have hStart : lineStart raw stop = 0 := by
        unfold lineStart
        rw [hBefore]
      rw [Physical.findPrevNewlineBefore_eq hStop] at hBefore
      constructor
      · exact Physical.lineStart_le raw stop
      · exact .inl hStart
      · intro i _ hLess hNewline
        apply notMem_of_findPrevNewline hBefore
        apply List.mem_of_getElem? (i := i)
        exact (List.getElem?_take_of_lt hLess).trans hNewline
      · exact hEnded
  | some p =>
      rw [hBefore] at hFound
      have hStart := (lineStart_of_found hFound).2.1
      have hBelow := (lineStart_of_found hFound).2.2
      rw [Physical.findPrevNewlineBefore_eq hStop,
        findPrevNewline_eq_some, newlines_take] at hBefore
      constructor
      · exact Physical.lineStart_le raw stop
      · exact .inr ⟨p, hStart, hBelow.2⟩
      · intro i hFrom hLess hNewline
        have hLe : i ≤ p := hBefore.2 ⟨hLess, hNewline⟩
        change lineStart raw stop ≤ i at hFrom
        omega
      · exact hEnded

/- The lines that are still to come end before this one. -/
theorem visited_before :
    ((walk codec env raw).visited stop).Pairwise
      (fun later earlier => earlier < lineStart raw later) := by
  apply Loop.pairwise_visited
  · intro a b c hFirst hSecond
    have hLess := Physical.lineStart_le raw b
    omega
  · intro later earlier hTurn
    have hStart :=
      (lineStart_of_found (recoverTurn_again hTurn)).2.1
    omega

theorem visited_ended
    (hEnded : raw[stop]? = some newline)
    (hVisited : next ∈ (walk codec env raw).visited stop) :
    raw[next]? = some newline := by
  apply (walk codec env raw).visited_keeps
    (P := fun stop => raw[stop]? = some newline) ?_ hEnded
    hVisited
  intro later earlier _ hTurn
  exact (lineStart_of_found (recoverTurn_again hTurn)).2.2.2

/- There are no more turns than newlines. -/
theorem length_visited_le
    (hEnded : raw[stop]? = some newline) :
    ((walk codec env raw).visited stop).length ≤
      (raw.take (stop + 1)).count newline := by
  induction stop using (walk codec env raw).induct with
  | hDone stop r hTurn =>
      rw [Loop.visited_done hTurn, List.take_add_one, hEnded]
      simp
  | hAgain stop next hTurn ih =>
      have hBelow :=
        (lineStart_of_found (recoverTurn_again hTurn)).2.2
      have hEarlier := ih hBelow.2
      have hLess : (raw.take (next + 1)).count newline ≤
          (raw.take stop).count newline :=
        (List.take_sublist_take_left hBelow.1).count_le newline
      rw [Loop.visited_again hTurn, List.take_add_one, hEnded]
      simp only [List.length_cons, List.count_append,
        Option.toList_some, List.count_singleton_self]
      omega

theorem linesVisited_cases :
    linesVisited codec env raw = [] ∨
      ∃ stop, raw[stop]? = some newline ∧
        linesVisited codec env raw =
          ((walk codec env raw).visited stop).map
            (lineEndingAt raw) := by
  by_cases hEmpty : raw = []
  · rw [hEmpty]
    exact .inl rfl
  · unfold linesVisited
    rw [lastLineEnd_eq hEmpty]
    cases hLast : Physical.lastLineEnd raw with
    | none => exact .inl rfl
    | some stop =>
        exact .inr ⟨stop, lastLineEnd_ended hLast, rfl⟩

end Lines

------------------------------------------------------------
-- Main Theorem
------------------------------------------------------------

/-
  The scan finds the greatest newline below every offset of
  the file, whatever the size of its chunks. The loop over
  lines reads complete lines only, each of them once, and
  what it returns is in the last one that is not blank.
-/
theorem backward_scan_exact
    (codec : LineText) (env : RunEnv) (raw : Bytes) :
    (∀ (chunk : Nat) [NeZero chunk] (stop : Nat),
      stop ≤ raw.length →
        ∃ found,
          findPrevNewlineIn chunk raw stop = .ok found ∧
          (∀ i, found = some i ↔
            IsGreatest (newlinesBelow raw stop) i) ∧
          (found = none ↔ newlinesBelow raw stop = ∅)) ∧
    (∀ (chunk : Nat) [NeZero chunk] (stop : Nat),
      raw.length < stop →
        findPrevNewlineIn chunk raw stop =
          .error unexpectedEof) ∧
    (∀ line ∈ linesVisited codec env raw,
      CompleteLine raw line) ∧
    (linesVisited codec env raw).Pairwise
      (fun later earlier => earlier.stop < later.start) ∧
    (linesVisited codec env raw).length ≤
      raw.count newline ∧
    recoverLastSeq codec env (some raw) =
      (Physical.recoverLines codec env
        (Physical.lines raw).reverse).mapError ScanError.core := by
  refine ⟨?_, ?_, ?_, ?_, ?_, ?_⟩
  · intro chunk _ stop hStop
    refine ⟨_, findPrevNewline_within hStop, ?_, ?_⟩
    · intro i
      rw [findPrevNewline_eq_some, newlines_take]
    · rw [findPrevNewline_eq_none, newlines_take]
  · intro chunk _ stop hPast
    exact findPrevNewline_past_end hPast
  · intro line hLine
    rcases linesVisited_cases with hNone | ⟨stop, hEnded, hSome⟩
    · rw [hNone] at hLine
      cases hLine
    · rw [hSome, List.mem_map] at hLine
      rcases hLine with ⟨next, hVisited, rfl⟩
      exact completeLine_endingAt
        (visited_ended hEnded hVisited)
  · rcases linesVisited_cases with hNone | ⟨stop, hEnded, hSome⟩
    · rw [hNone]
      exact .nil
    · rw [hSome, List.pairwise_map]
      exact visited_before
  · rcases linesVisited_cases with hNone | ⟨stop, hEnded, hSome⟩
    · rw [hNone]
      exact Nat.zero_le _
    · rw [hSome, List.length_map]
      exact Nat.le_trans (length_visited_le hEnded)
        ((List.take_sublist _ raw).count_le newline)
  · rw [recoverLastSeq_refines,
      Physical.recoverLastSeq_lines]

/- A record, a line of white space, and a torn line. -/
def blankTail : Bytes :=
  Sample.logOf Sample.dataText ++ [32, newline, 120]

theorem backward_scan_exact_blankTail :
    (∃ found,
      findPrevNewlineIn 3 blankTail blankTail.length =
          .ok found ∧
        (∀ i, found = some i ↔
          IsGreatest
            (newlinesBelow blankTail blankTail.length) i) ∧
        (found = none ↔
          newlinesBelow blankTail blankTail.length = ∅)) ∧
    findPrevNewlineIn 3 blankTail (blankTail.length + 1) =
      .error unexpectedEof ∧
    recoverLastSeq Sample.readerCodec Sample.epochEnv
      (some blankTail) = .ok 1 := by
  rcases backward_scan_exact Sample.readerCodec Sample.epochEnv
      blankTail with
    ⟨hScan, hPast, _, _, _, hSeq⟩
  have hLines :
      Physical.lines blankTail = [Sample.dataText, [32]] := by
    decide +kernel
  refine ⟨hScan 3 blankTail.length (Nat.le_refl _),
    hPast 3 (blankTail.length + 1) (Nat.lt_add_one _), ?_⟩
  rw [hSeq, hLines]
  decide +kernel

end LogFile

end Taskfleet
