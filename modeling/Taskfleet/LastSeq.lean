import Taskfleet.Probe
import Taskfleet.Tailing

/-
  The backward reader of the last sequence number, and the
  cut of a torn tail, both over a scan by chunks.

  Main declarations:
    * `Physical.findPrevNewlineBefore`,
      `Physical.cutTornTail`
    * `SeqLine`, `Physical.recoverLastSeq`
    * `Physical.recoverLastSeq_lines`
-/

------------------------------------------------------------
-- Backward Scan by Chunks
------------------------------------------------------------

namespace Taskfleet

open Fallible

namespace Physical

def scanChunk : Nat := 64 * 1024

instance : NeZero scanChunk := ⟨by decide⟩

/-
  The offset of the last newline before an offset. The file
  is read backward, one chunk at a time.
-/
def findPrevNewlineIn
    (chunk : Nat) [NeZero chunk]
    (raw : Bytes)
    (pos : Nat) : Option Nat :=
  let start := pos - chunk
  let buf := (raw.drop start).take (pos - start)
  match findPrevNewline buf with
  | some i => some (start + i)
  | none =>
      if _hStart : start = 0 then none
      else findPrevNewlineIn chunk raw start
termination_by pos
decreasing_by
  have hChunk := Nat.pos_of_neZero chunk
  omega

def findPrevNewlineBefore (raw : Bytes) (before : Nat) :
    Option Nat :=
  findPrevNewlineIn scanChunk raw before

/- The cut of a torn tail, with the scan by chunks. -/
def cutTornTail (raw : Bytes) : Bytes :=
  if raw.isEmpty then raw
  else if raw.getLast? = some newline then raw
  else
    match findPrevNewlineBefore raw raw.length with
    | some i => raw.take (i + 1)
    | none => []

theorem findPrevNewline_join (first second : Bytes) :
    findPrevNewline (first ++ second) =
      (findPrevNewline second).elim (findPrevNewline first)
        (fun i => some (first.length + i)) := by
  induction first with
  | nil =>
      cases hSecond : findPrevNewline second <;>
        simp [findPrevNewline, hSecond]
  | cons b rest ih =>
      cases hSecond : findPrevNewline second with
      | none => simp [findPrevNewline, ih, hSecond]
      | some i =>
          simp only [List.cons_append, findPrevNewline, ih,
            hSecond, List.length_cons, Option.elim_some,
            Option.some.injEq]
          omega

/- Chunks do not matter: it is the last newline before. -/
theorem findPrevNewlineIn_eq
    (chunk : Nat) [NeZero chunk]
    (raw : Bytes)
    (pos : Nat)
    (hPos : pos ≤ raw.length) :
    findPrevNewlineIn chunk raw pos =
      findPrevNewline (raw.take pos) := by
  have hChunk := Nat.pos_of_neZero chunk
  induction pos using Nat.strong_induction_on with
  | _ pos ih =>
      have hCut :
          raw.take pos =
            raw.take (pos - chunk) ++
              (raw.drop (pos - chunk)).take
                (pos - (pos - chunk)) := by
        rw [← List.take_add]
        congr 1
        omega
      have hLength :
          (raw.take (pos - chunk)).length = pos - chunk := by
        rw [List.length_take]
        omega
      rw [findPrevNewlineIn, hCut, findPrevNewline_join, hLength]
      cases findPrevNewline
          ((raw.drop (pos - chunk)).take
            (pos - (pos - chunk))) with
      | some i => rfl
      | none =>
          by_cases hStart : pos - chunk = 0
          · simp [hStart, findPrevNewline]
          · simp only [hStart, dif_neg, not_false_iff,
              Option.elim_none]
            exact ih _ (by omega) (by omega)

theorem findPrevNewlineBefore_eq
    {raw : Bytes} {before : Nat}
    (hBefore : before ≤ raw.length) :
    findPrevNewlineBefore raw before =
      findPrevNewline (raw.take before) :=
  findPrevNewlineIn_eq scanChunk raw before hBefore

theorem cutTornTail_eq (raw : Bytes) :
    cutTornTail raw = truncateTornTail raw := by
  have hScan :
      findPrevNewlineBefore raw raw.length =
        findPrevNewline raw := by
    rw [findPrevNewlineBefore_eq (Nat.le_refl _),
      List.take_length]
  unfold cutTornTail truncateTornTail
  cases hNewline : findPrevNewline raw <;>
    simp [hScan, hNewline]

theorem findPrevNewline_lt
    {raw : Bytes} {i : Nat}
    (hFound : findPrevNewline raw = some i) :
    i < raw.length := by
  induction raw generalizing i with
  | nil => cases hFound
  | cons b rest ih =>
      cases hRest : findPrevNewline rest with
      | some j =>
          simp only [findPrevNewline, hRest,
            Option.some.injEq] at hFound
          have hLess := ih hRest
          rw [List.length_cons]
          omega
      | none =>
          simp only [findPrevNewline, hRest] at hFound
          split at hFound
          · cases hFound
            exact Nat.zero_lt_succ _
          · cases hFound

theorem findPrevNewlineIn_lt
    {chunk : Nat} [NeZero chunk]
    {raw : Bytes} {pos i : Nat}
    (hFound : findPrevNewlineIn chunk raw pos = some i) :
    i < pos := by
  have hChunk := Nat.pos_of_neZero chunk
  induction pos using Nat.strong_induction_on with
  | _ pos ih =>
      rw [findPrevNewlineIn] at hFound
      split at hFound
      next j hFirst =>
        have hLess := findPrevNewline_lt hFirst
        rw [List.length_take] at hLess
        cases hFound
        omega
      next hFirst =>
        split at hFound
        · cases hFound
        · have hLess : pos - chunk < pos := by omega
          exact Nat.lt_trans (ih _ hLess hFound) hLess

end Physical

------------------------------------------------------------
-- The Last Sequence Number
------------------------------------------------------------

/- The envelope fields read from the last complete line. -/
structure SeqLine where
  seq : Nat
  ts : Time
  kind : String
  runId : RunId
  nodeId : Option NodeId

def SeqLine.ofJson (env : RunEnv) (v : Json) :
    Option SeqLine := do
  let f ← v.fields 5
  return {
    seq := ← f.required "seq" 0 Json.asU64
    ts := ← f.required "ts" 1 (fun v =>
      v.asStr.bind env.parseDateTime)
    kind := ← f.required "kind" 2 Json.asStr
    runId := ← f.required "run_id" 3 Json.asRunId
    nodeId :=
      ← f.defaulted "node_id" 4 none
        (Json.option Json.asNodeId) }

namespace Physical

def notLastEvent
    (codec : LineText) (line : Bytes) (e : String) : Error :=
  .corruptEventLog .events
    ("last complete line is not a valid event: " ++
      codec.excerpt line ++ " [" ++ e ++ "]")

def parseSeq (codec : LineText) (env : RunEnv) (line : Bytes) :
    Except Error Nat :=
  match codec.fromSlice (SeqLine.ofJson env) line with
  | .ok hdr => .ok hdr.seq
  | .error e => .error (notLastEvent codec line e)

/- Where the line that ends at an offset starts. -/
def lineStart (raw : Bytes) (stop : Nat) : Nat :=
  match findPrevNewlineBefore raw stop with
  | some p => p + 1
  | none => 0

theorem lineStart_le (raw : Bytes) (stop : Nat) :
    lineStart raw stop ≤ stop := by
  unfold lineStart
  split
  next p hFound => exact findPrevNewlineIn_lt hFound
  · exact Nat.zero_le _

/- Walk backward over complete lines of white space. -/
def recoverFrom
    (codec : LineText)
    (env : RunEnv)
    (raw : Bytes)
    (stop : Nat) : Except Error Nat :=
  let start := lineStart raw stop
  let line := (raw.drop start).take (stop - start)
  if line.any (fun b => !isAsciiWhitespace b) then
    parseSeq codec env line
  else if _hStart : start = 0 then .ok 0
  else recoverFrom codec env raw (start - 1)
termination_by stop
decreasing_by
  have := lineStart_le raw stop
  omega

/- The offset of the newline of the last complete line. -/
def lastLineEnd (raw : Bytes) : Option Nat :=
  if raw.getLast? = some newline then some (raw.length - 1)
  else findPrevNewlineBefore raw raw.length

def recoverLastSeq
    (codec : LineText)
    (env : RunEnv)
    (raw : Bytes) : Except Error Nat :=
  if raw.isEmpty then .ok 0
  else
    match lastLineEnd raw with
    | some stop => recoverFrom codec env raw stop
    | none => .ok 0

------------------------------------------------------------
-- The Walk Backward, Line by Line
------------------------------------------------------------

/- The sequence number in the last of some lines, last first. -/
def recoverLines (codec : LineText) (env : RunEnv) :
    List Bytes → Except Error Nat
| [] => .ok 0
| body :: earlier =>
    if body.any (fun b => !isAsciiWhitespace b) then
      parseSeq codec env body
    else recoverLines codec env earlier

section Backward

variable {body rest : Bytes}

theorem join_reverse_cons
    (prev : Bytes) (older : List Bytes) :
    Lines.join newline (prev :: older).reverse =
      Lines.join newline older.reverse ++ prev ++ [newline] := by
  simp

theorem lineStart_join
    {bodies : List Bytes}
    (hBody : newline ∉ body) :
    lineStart
        (Lines.join newline bodies.reverse ++ body ++ rest)
        (Lines.join newline bodies.reverse ++ body).length =
      (Lines.join newline bodies.reverse).length := by
  have hLast :
      findPrevNewline
          (Lines.join newline bodies.reverse ++ body) =
        findPrevNewline (Lines.join newline bodies.reverse) := by
    rw [findPrevNewline_join, findPrevNewline_torn hBody]
    rfl
  unfold lineStart
  rw [findPrevNewlineBefore_eq (by simp), List.take_left, hLast]
  cases bodies with
  | nil => rfl
  | cons prev older =>
      have hFound :=
        findPrevNewline_append
          (Lines.join newline older.reverse ++ prev)
          List.not_mem_nil
      rw [join_reverse_cons, hFound]
      simp only [List.length_append, List.length_singleton]

theorem recoverFrom_join
    (codec : LineText)
    (env : RunEnv)
    (bodies : List Bytes)
    (body rest : Bytes)
    (hBody : newline ∉ body)
    (hBodies : ∀ b ∈ bodies, newline ∉ b) :
    recoverFrom codec env
        (Lines.join newline bodies.reverse ++ body ++ rest)
        (Lines.join newline bodies.reverse ++ body).length =
      recoverLines codec env (body :: bodies) := by
  induction bodies generalizing body rest with
  | nil =>
      rw [recoverFrom, lineStart_join hBody]
      simp [recoverLines]
  | cons prev older ih =>
      have hLine :
          ((Lines.join newline (prev :: older).reverse ++ body ++
                rest).drop
              (Lines.join newline
                (prev :: older).reverse).length).take
            ((Lines.join newline (prev :: older).reverse ++
                  body).length -
              (Lines.join newline
                (prev :: older).reverse).length) = body := by
        rw [List.append_assoc, List.drop_left,
          List.length_append, Nat.add_sub_cancel_left,
          List.take_left]
      have hEarlier :=
        ih prev (newline :: (body ++ rest))
          (hBodies prev (by simp))
          (fun b hMem => hBodies b (by simp [hMem]))
      have hText :
          Lines.join newline (prev :: older).reverse ++ body ++
              rest =
            Lines.join newline older.reverse ++ prev ++
              newline :: (body ++ rest) := by
        simp
      have hStop :
          (Lines.join newline (prev :: older).reverse).length -
              1 =
            (Lines.join newline older.reverse ++
              prev).length := by
        rw [join_reverse_cons]
        simp
      have hInside :
          (Lines.join newline (prev :: older).reverse).length ≠
            0 := by
        rw [join_reverse_cons]
        simp
      rw [recoverFrom, lineStart_join hBody, hLine]
      simp only [hInside, dif_neg, not_false_iff]
      rw [hStop, hText, hEarlier]
      rfl

/- The last newline of a text ends its last complete line. -/
theorem lastLineEnd_line
    {text torn : Bytes}
    (hTorn : newline ∉ torn) :
    lastLineEnd (text ++ newline :: torn) =
      some text.length := by
  unfold lastLineEnd
  split
  next hClosed =>
    have hEmpty : torn = [] := by
      by_contra hMore
      apply getLast_ne_newline hTorn
      rw [List.getLast?_append_of_ne_nil _ (by simp),
        List.getLast?_cons_of_ne_nil hMore] at hClosed
      exact hClosed
    subst hEmpty
    simp
  · rw [findPrevNewlineBefore_eq (Nat.le_refl _),
      List.take_length, findPrevNewline_append text hTorn]

theorem lastLineEnd_torn
    {torn : Bytes}
    (hTorn : newline ∉ torn) :
    lastLineEnd torn = none := by
  unfold lastLineEnd
  rw [if_neg (getLast_ne_newline hTorn),
    findPrevNewlineBefore_eq (Nat.le_refl _),
    List.take_length, findPrevNewline_torn hTorn]

theorem recoverLastSeq_join
    (codec : LineText)
    (env : RunEnv)
    {bodies : List Bytes} {torn : Bytes}
    (hFiled : Lines.Filed newline bodies torn) :
    recoverLastSeq codec env
        (Lines.join newline bodies ++ torn) =
      recoverLines codec env bodies.reverse := by
  unfold recoverLastSeq
  rcases List.eq_nil_or_concat' bodies with
    rfl | ⟨earlier, body, rfl⟩
  · simp [lastLineEnd_torn hFiled.torn, recoverLines]
  · have hText :
        Lines.join newline (earlier ++ [body]) ++ torn =
          (Lines.join newline earlier ++ body) ++
            newline :: torn := by
      simp
    have hLines :=
      recoverFrom_join codec env earlier.reverse body
        (newline :: torn) (hFiled.bodies body (by simp))
        (fun b hMem => hFiled.bodies b (by
          rw [List.mem_reverse] at hMem
          simp [hMem]))
    rw [List.reverse_reverse] at hLines
    rw [hText, lastLineEnd_line hFiled.torn]
    simp only [List.reverse_append, List.reverse_singleton,
      List.singleton_append, ← hLines]
    simp

/- The backward reader sees the complete lines, last first. -/
theorem recoverLastSeq_lines
    (codec : LineText) (env : RunEnv) (raw : Bytes) :
    recoverLastSeq codec env raw =
      recoverLines codec env (lines raw).reverse := by
  have hJoin :=
    recoverLastSeq_join codec env (filed_lines raw)
  rwa [join_lines] at hJoin

end Backward

end Physical

end Taskfleet
