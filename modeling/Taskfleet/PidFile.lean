import Taskfleet.Schema

/-
  The supervisor's pid file: one line with a pid and what was
  recorded about the start of its process.

  Main declarations:
    * `RecordedStart`, `RecordedStart.matchesPid`
    * `pidContents`, `readPidRecord`
    * `readPidRecord_pidContents`
-/

------------------------------------------------------------
-- Tokens
------------------------------------------------------------

namespace Taskfleet

namespace Text

/- The pieces between white space, the empty ones left out. -/
def splitWhitespace (s : String) : List String :=
  ((s.toList.splitOnP isWhitespace).filter
    (fun piece => !piece.isEmpty)).map String.ofList

/- Digits after an optional plus sign, below a power of two. -/
def parseUnsigned (bits : Nat) (s : String) : Option Nat :=
  let digits :=
    match s.toList with
    | '+' :: rest => rest
    | cs => cs
  if digits ≠ [] ∧ digits.all Char.isDigit then
    (some (Nat.ofDigitChars 10 digits 0)).filter
      (fun n => n < 2 ^ bits)
  else none

/- Not empty and without white space. -/
def IsToken (s : String) : Prop :=
  s ≠ "" ∧ ∀ c ∈ s.toList, isWhitespace c = false

section Tokens

variable {s rest : String} {bits n : Nat}

theorem isToken_of_all
    (hText : s ≠ "")
    (hAll : s.toList.all (fun c => !isWhitespace c) = true) :
    IsToken s := by
  refine ⟨hText, ?_⟩
  intro c hMem
  simpa using List.all_eq_true.mp hAll c hMem

theorem IsToken.pieces
    (hToken : IsToken s) (pieces : List (List Char)) :
    (s.toList :: pieces).filter (fun piece => !piece.isEmpty) =
      s.toList :: pieces.filter (fun piece => !piece.isEmpty) := by
  rw [List.filter_cons_of_pos]
  simpa using hToken.1

theorem splitWhitespace_token (hToken : IsToken s) :
    splitWhitespace s = [s] := by
  unfold splitWhitespace
  rw [List.splitOnP_eq_singleton hToken.2, hToken.pieces]
  simp

theorem splitWhitespace_cons (hToken : IsToken s) :
    splitWhitespace (s ++ " " ++ rest) =
      s :: splitWhitespace rest := by
  have hPieces :
      (s ++ " " ++ rest).toList.splitOnP isWhitespace =
        s.toList :: rest.toList.splitOnP isWhitespace := by
    rw [String.toList_append, String.toList_append,
      List.append_assoc]
    exact List.splitOnP_append_cons_of_forall_mem hToken.2 ' '
      (by decide) rest.toList
  unfold splitWhitespace
  rw [hPieces, hToken.pieces]
  simp

theorem toList_toString (n : Nat) :
    (toString n).toList = Nat.toDigits 10 n := by
  simp

theorem isDigit_of_mem_toString
    {c : Char} (hMem : c ∈ (toString n).toList) :
    c.isDigit = true := by
  rw [toList_toString] at hMem
  exact Nat.isDigit_of_mem_toDigits (by decide) (by decide) hMem

/- No digit is white space. -/
theorem isWhitespace_digit
    {c : Char} (hDigit : c.isDigit = true) :
    isWhitespace c = false := by
  have hRange : 48 ≤ c.toNat ∧ c.toNat ≤ 57 :=
    Char.isDigit_iff_toNat.mp hDigit
  simp only [isWhitespace, Bool.or_eq_false_iff,
    Bool.and_eq_false_iff, decide_eq_false_iff_not,
    beq_eq_false_iff_ne]
  omega

theorem isToken_toString (n : Nat) : IsToken (toString n) := by
  constructor
  · intro hEmpty
    have hDigits := congrArg String.toList hEmpty
    rw [toList_toString] at hDigits
    exact Nat.toDigits_ne_nil hDigits
  · intro c hMem
    exact isWhitespace_digit (isDigit_of_mem_toString hMem)

/- Digits alone are read as the number that they write. -/
theorem parseUnsigned_of_digits
    (hSome : s.toList ≠ [])
    (hDigits : ∀ c ∈ s.toList, c.isDigit = true) :
    parseUnsigned bits s =
      (some (Nat.ofDigitChars 10 s.toList 0)).filter
        (fun n => n < 2 ^ bits) := by
  have hSame :
      (match s.toList with
        | '+' :: rest => rest
        | cs => cs) = s.toList := by
    split
    · rename_i rest hPlus
      have hDigit := hDigits '+'
        (by rw [hPlus]; exact List.mem_cons_self)
      exact absurd hDigit (by decide)
    · rfl
  unfold parseUnsigned
  rw [hSame]
  exact if_pos ⟨hSome, List.all_eq_true.mpr hDigits⟩

/- A number is read back from its digits. -/
theorem parseUnsigned_toString (hBound : n < 2 ^ bits) :
    parseUnsigned bits (toString n) = some n := by
  have hSome : (toString n).toList ≠ [] := by
    rw [toList_toString]
    exact Nat.toDigits_ne_nil
  rw [parseUnsigned_of_digits hSome
      (fun c hMem => isDigit_of_mem_toString hMem),
    toList_toString, Nat.ofDigitChars_ten_toDigits,
    Option.filter_some, if_pos (by simpa using hBound)]

end Tokens

end Text

------------------------------------------------------------
-- The Start of a Process
------------------------------------------------------------

/- What was recorded about the start of a process. -/
structure RecordedStart where
  secs : Option Nat
  identity : Option String
deriving DecidableEq

namespace RecordedStart

/- An empty identity counts as absent. -/
def new (secs : Option Nat) (identity : Option String) :
    RecordedStart where
  secs := secs
  identity := identity.filter (fun s => s ≠ "")

def isRecorded (start : RecordedStart) : Bool :=
  start.secs.isSome || start.identity.isSome

/-
  Whether the process at a pid is the recorded one, from what
  can be read of it now. The identity decides where there is
  one; seconds may be off by one.
-/
def matchesPid
    (start : RecordedStart)
    (identityNow : Option String)
    (secsNow : Option Nat) : Option Bool :=
  match start.identity, start.secs with
  | some recorded, _ =>
      identityNow.map (fun actual => actual == recorded)
  | none, none => none
  | none, some recorded =>
      secsNow.map (fun actual =>
        decide (recorded - actual ≤ 1 ∧ actual - recorded ≤ 1))

end RecordedStart

------------------------------------------------------------
-- Records
------------------------------------------------------------

/- A pid that is a process: neither zero nor out of range. -/
def toPidT (pid : Nat) : Option Nat :=
  if pid = 0 ∨ pid > 2 ^ 31 - 1 then none else some pid

/- The line that is written for a process. -/
def pidContents (pid : Nat) (start : RecordedStart) : String :=
  if start.isRecorded then
    let secs := (start.secs.map toString).getD "-"
    match start.identity with
    | some identity =>
        toString pid ++ " " ++ (secs ++ " " ++ identity)
    | none => toString pid ++ " " ++ secs
  else toString pid

/- The tokens after the pid. -/
def parseStart (tokens : List String) : RecordedStart :=
  .new (tokens.head?.bind (Text.parseUnsigned 64))
    tokens.tail.head?

def readPidRecord (text : String) :
    Option (Nat × RecordedStart) := do
  let tokens := Text.splitWhitespace text
  let pid ← tokens.head?.bind (Text.parseUnsigned 32)
  let _ ← toPidT pid
  return (pid, parseStart tokens.tail)

def readPid (text : String) : Option Nat := do
  let tokens := Text.splitWhitespace text
  let pid ← tokens.head?.bind (Text.parseUnsigned 32)
  (toPidT pid).map (fun _ => pid)

/- The pid of a text is that of its record. -/
theorem readPid_eq (text : String) :
    readPid text = (readPidRecord text).map Prod.fst := by
  unfold readPid readPidRecord
  dsimp only
  cases (Text.splitWhitespace text).head?.bind
      (Text.parseUnsigned 32) with
  | none => rfl
  | some pid =>
      cases hRange : toPidT pid with
      | none => simp [hRange]
      | some pid' => simp [hRange]

section RoundTrip

variable {pid : Nat} {start : RecordedStart}

theorem lt_of_toPidT (hPid : toPidT pid = some pid) :
    pid < 2 ^ 32 := by
  unfold toPidT at hPid
  split at hPid
  · cases hPid
  · omega

/- A record is read from the pid and the tokens after it. -/
theorem readPidRecord_tokens
    {text : String} {tokens : List String}
    (hPid : toPidT pid = some pid)
    (hTokens :
      Text.splitWhitespace text = toString pid :: tokens) :
    readPidRecord text = some (pid, parseStart tokens) := by
  unfold readPidRecord
  simp only [hTokens, List.head?_cons, List.tail_cons,
    Option.bind_some,
    Text.parseUnsigned_toString (lt_of_toPidT hPid)]
  simp [hPid]

/- The seconds as they are written, a dash for none. -/
theorem secs_token (secs : Option Nat) :
    Text.IsToken ((secs.map toString).getD "-") := by
  cases secs with
  | none => exact Text.isToken_of_all (by decide) rfl
  | some n => exact Text.isToken_toString n

theorem parse_secs
    {secs : Option Nat}
    (hSecs : ∀ n, secs = some n → n < 2 ^ 64) :
    Text.parseUnsigned 64 ((secs.map toString).getD "-") =
      secs := by
  cases secs with
  | none => decide
  | some n => exact Text.parseUnsigned_toString (hSecs n rfl)

/- What is written for a process is read back. -/
theorem readPidRecord_pidContents
    (hPid : toPidT pid = some pid)
    (hSecs : ∀ n, start.secs = some n → n < 2 ^ 64)
    (hIdentity :
      ∀ identity, start.identity = some identity →
        Text.IsToken identity) :
    readPidRecord (pidContents pid start) =
      some (pid, start) := by
  rcases start with ⟨secs, identity⟩
  have hPidToken := Text.isToken_toString pid
  unfold pidContents
  cases identity with
  | some identity =>
      have hToken := hIdentity identity rfl
      rw [if_pos (by simp [RecordedStart.isRecorded])]
      dsimp only
      rw [readPidRecord_tokens hPid
        (Text.splitWhitespace_cons hPidToken)]
      rw [Text.splitWhitespace_cons (secs_token secs),
        Text.splitWhitespace_token hToken]
      simp [parseStart, RecordedStart.new, parse_secs hSecs,
        hToken.1]
  | none =>
      cases secs with
      | none =>
          rw [if_neg (by simp [RecordedStart.isRecorded])]
          rw [readPidRecord_tokens hPid
            (Text.splitWhitespace_token hPidToken)]
          simp [parseStart, RecordedStart.new]
      | some n =>
          rw [if_pos (by simp [RecordedStart.isRecorded])]
          dsimp only
          rw [readPidRecord_tokens hPid
            (Text.splitWhitespace_cons hPidToken)]
          rw [Text.splitWhitespace_token
            (secs_token (some n))]
          have hRead := parse_secs hSecs
          simp only [parseStart, List.head?_cons,
            Option.bind_some, hRead]
          rfl

end RoundTrip

end Taskfleet
