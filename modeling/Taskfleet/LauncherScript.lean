import Taskfleet.Admission
import Taskfleet.Physical
import Taskfleet.Quoted
import Taskfleet.Utf8

/-
  The script that launches a worker, as far as its line with
  the worker handshake, and the survey that reads from that
  line which executable the script will run.

  Main declarations:
    * `Launcher.shellLiteral`, `Launcher.shellLiteralPath`
    * `Launcher.shellCommand`
    * `Launcher.handshakeExecutable`
    * `Launcher.handshakeExecutable_eq_some`
    * `Launcher.handshake_reads_back`
    * `Launcher.launcherExecutables_scripts`
-/

------------------------------------------------------------
-- Lines of a Text
------------------------------------------------------------

namespace Taskfleet

namespace Text

/- A line without the carriage return before its newline. -/
def trimReturn (line : List Char) : List Char :=
  if line.getLast? = some '\r' then line.dropLast else line

/- `str::lines` -/
def lines (s : String) : List String :=
  let cut := Lines.split '\n' s.toList
  cut.1.map (fun line => String.ofList (trimReturn line)) ++
    if cut.2 = [] then [] else [String.ofList cut.2]

end Text

------------------------------------------------------------
-- The Launcher
------------------------------------------------------------

namespace Launcher

def shellSigns : Quoted.Signs Char where
  quote := '\''
  backslash := '\\'

/- The same signs as bytes. -/
def shellBytes : Quoted.Signs UInt8 where
  quote := 39
  backslash := 92

def shellLiteral (value : String) : String :=
  String.ofList (Quoted.literal shellSigns value.toList)

def shellLiteralPath (path : Bytes) : Bytes :=
  Quoted.literal shellBytes path

def space : UInt8 := 32

/- The word of an argument. The shell fills in its own pid. -/
def argWord (rawPid : Bool) (arg : String) : String :=
  if rawPid ∧ arg = "$$\x7bRAW\x7d" then "\"$$\""
  else shellLiteral arg

def shellCommand
    (exe : Bytes) (args : List String) (rawPid : Bool) :
    Bytes :=
  shellLiteralPath exe ++
    args.flatMap (fun arg =>
      space :: Utf8.bytes (argWord rawPid arg)) ++
    [newline]

------------------------------------------------------------
-- The Survey
------------------------------------------------------------

/- The quoted word of a line, if the handshake follows it. -/
def handshakeExecutable (line : String) : Option String := do
  let opened ← line.toList.dropPrefix? [shellSigns.quote]
  let (word, rest) ←
    (Quoted.unquote shellSigns).run ([], opened)
  if " 'worker-handshake' ".toList.isPrefixOf rest then
    some (String.ofList word)
  else none

/- The first line of a script that names an executable. -/
def launcherExecutable (body : String) : Option String :=
  (Text.lines body).findSome? handshakeExecutable

example :
    shellLiteral "/o'd/taskfleet" = "'/o'\\''d/taskfleet'" := by
  decide

------------------------------------------------------------
-- What the Survey Reads
------------------------------------------------------------

section Reading

variable {line exe : String}

/- The handshake's word between the spaces around it. -/
def handshakeWord : String :=
  " " ++ shellLiteral "worker-handshake" ++ " "

theorem handshakeWord_eq :
    handshakeWord = " 'worker-handshake' " := by
  decide

theorem handshakeExecutable_eq (line : String) :
    handshakeExecutable line =
      (Quoted.readLiteral shellSigns line.toList).bind
        (fun found =>
          if handshakeWord.toList.isPrefixOf found.2 then
            some (String.ofList found.1)
          else none) := by
  rw [handshakeWord_eq]
  exact (Option.bind_assoc _ _ _).symm

theorem toList_shellLiteral (value : String) :
    (shellLiteral value).toList =
      Quoted.literal shellSigns value.toList :=
  String.toList_ofList

/- The space after a literal does not resume it. -/
theorem not_resume_handshakeWord (rest : List Char) :
    ¬ shellSigns.resume <+: handshakeWord.toList ++ rest := by
  intro hPrefix
  rcases hPrefix with ⟨after, hSame⟩
  have hFirst := congrArg List.head? hSame
  rw [handshakeWord_eq,
    List.head?_append_of_ne_nil _ (by decide),
    List.head?_append_of_ne_nil _ (by decide)] at hFirst
  exact absurd hFirst (by decide)

/- A line is read exactly where the handshake's word follows
   a literal. -/
theorem handshakeExecutable_eq_some :
    handshakeExecutable line = some exe ↔
      ∃ rest,
        line = shellLiteral exe ++ handshakeWord ++ rest := by
  rw [handshakeExecutable_eq, Option.bind_eq_some_iff]
  constructor
  · intro hRead
    rcases hRead with ⟨⟨word, rest⟩, hWord, hNext⟩
    split at hNext
    next hPrefix =>
      rw [Option.some.injEq] at hNext
      rw [List.isPrefixOf_iff_prefix] at hPrefix
      rcases hPrefix with ⟨after, hAfter⟩
      dsimp only at hAfter hNext
      rw [Quoted.readLiteral_eq_some] at hWord
      refine ⟨String.ofList after, ?_⟩
      apply String.toList_injective
      rw [String.toList_append, String.toList_append,
        toList_shellLiteral, String.toList_ofList,
        List.append_assoc, hAfter, ← hNext,
        String.toList_ofList]
      exact hWord.1
    next => cases hNext
  · intro hLine
    rcases hLine with ⟨rest, rfl⟩
    refine ⟨(exe.toList, handshakeWord.toList ++ rest.toList),
      ?_, ?_⟩
    · rw [Quoted.readLiteral_eq_some, String.toList_append,
        String.toList_append, toList_shellLiteral,
        List.append_assoc]
      exact ⟨rfl, not_resume_handshakeWord _⟩
    · rw [if_pos, String.ofList_toList]
      rw [List.isPrefixOf_iff_prefix]
      exact List.prefix_append _ _

/- Every other line is refused. -/
theorem handshakeExecutable_eq_none :
    handshakeExecutable line = none ↔
      ∀ exe rest,
        line ≠ shellLiteral exe ++ handshakeWord ++ rest := by
  rw [Option.eq_none_iff_forall_ne_some]
  apply forall_congr'
  intro exe
  rw [Ne, handshakeExecutable_eq_some, not_exists]

end Reading

------------------------------------------------------------
-- What the Launcher Writes
------------------------------------------------------------

section Writing

theorem quote_notMem_encodeChar
    {c : Char} (hPlain : c ≠ shellSigns.quote) :
    shellBytes.quote ∉ String.utf8EncodeChar c := by
  intro hMem
  have hSame :=
    Utf8.mem_encodeChar_of_ascii (by decide) hMem
  exact hPlain (Char.toNat_inj.mp hSame)

theorem encode_body (cs : List Char) :
    Utf8.encode (Quoted.body shellSigns cs) =
      Quoted.body shellBytes (Utf8.encode cs) := by
  induction cs with
  | nil => rfl
  | cons c cs ih =>
      by_cases hQuote : c = shellSigns.quote
      · have hBytes :
            String.utf8EncodeChar shellSigns.quote =
              [shellBytes.quote] := by
          decide
        have hResume :
            Utf8.encode (shellSigns.quote :: shellSigns.resume) =
              shellBytes.quote :: shellBytes.resume := by
          decide
        rw [hQuote, Quoted.body_quote, ← List.cons_append,
          Utf8.encode_append, hResume, ih, Utf8.encode_cons,
          hBytes, List.singleton_append, Quoted.body_quote,
          List.cons_append]
      · have hChar :
            Quoted.body shellSigns (c :: cs) =
              c :: Quoted.body shellSigns cs := by
          rw [← List.singleton_append, Quoted.body_append,
            Quoted.body_of_notMem
              (by simpa using Ne.symm hQuote),
            List.singleton_append]
        rw [hChar, Utf8.encode_cons, ih, Utf8.encode_cons,
          Quoted.body_append,
          Quoted.body_of_notMem
            (quote_notMem_encodeChar hQuote)]

/- Quoting bytes and quoting characters are one. -/
theorem shellLiteralPath_bytes (value : String) :
    shellLiteralPath (Utf8.bytes value) =
      Utf8.bytes (shellLiteral value) := by
  have hQuote :
      String.utf8EncodeChar shellSigns.quote =
        [shellBytes.quote] := by
    decide
  unfold shellLiteralPath Utf8.bytes
  rw [toList_shellLiteral, Quoted.literal, Quoted.literal,
    Utf8.encode_cons, Utf8.encode_append, encode_body,
    Utf8.encode_cons, Utf8.encode_nil, hQuote, List.append_nil,
    List.singleton_append]

/- The text of a command without its newline. -/
def commandLine
    (exe : String) (args : List String) (rawPid : Bool) :
    String :=
  shellLiteral exe ++
    args.foldr (fun arg line =>
      " " ++ argWord rawPid arg ++ line) ""

theorem shellCommand_bytes
    (exe : String) (args : List String) (rawPid : Bool) :
    shellCommand (Utf8.bytes exe) args rawPid =
      Utf8.bytes (commandLine exe args rawPid ++ "\n") := by
  have hArgs :
      args.flatMap (fun arg =>
          space :: Utf8.bytes (argWord rawPid arg)) =
        Utf8.bytes
          (args.foldr (fun arg line =>
            " " ++ argWord rawPid arg ++ line) "") := by
    induction args with
    | nil => rfl
    | cons arg rest ih =>
        rw [List.flatMap_cons, ih, List.foldr_cons,
          Utf8.bytes_append, Utf8.bytes_append]
        rfl
  unfold shellCommand commandLine
  rw [shellLiteralPath_bytes, hArgs, Utf8.bytes_append,
    Utf8.bytes_append]
  rfl

/- The arguments that follow the handshake's word. -/
theorem commandLine_handshake
    (exe arg : String) (args : List String) (rawPid : Bool) :
    ∃ rest,
      commandLine exe ("worker-handshake" :: arg :: args)
          rawPid =
        shellLiteral exe ++ handshakeWord ++ rest := by
  have hWord :
      argWord rawPid "worker-handshake" =
        shellLiteral "worker-handshake" :=
    if_neg (by simp)
  refine ⟨argWord rawPid arg ++
    args.foldr (fun arg line =>
      " " ++ argWord rawPid arg ++ line) "", ?_⟩
  unfold commandLine handshakeWord
  rw [List.foldr_cons, List.foldr_cons, hWord]
  simp only [String.append_assoc]

end Writing

------------------------------------------------------------
-- Lines of a Script
------------------------------------------------------------

section Scripts

variable {head line exe : String}

theorem lines_line
    (hWhole : '\n' ∉ line.toList) (text : String) :
    Text.lines (line ++ "\n" ++ text) =
      String.ofList (Text.trimReturn line.toList) ::
        Text.lines text := by
  have hText :
      (line ++ "\n" ++ text).toList =
        line.toList ++ '\n' :: text.toList := by
    simp
  unfold Text.lines
  rw [hText, Lines.split_line _ hWhole]
  rfl

theorem trimReturn_append
    {before after : List Char}
    (hLast : before.getLast? ≠ some '\r') :
    Text.trimReturn (before ++ after) =
      before ++ Text.trimReturn after := by
  unfold Text.trimReturn
  by_cases hEmpty : after = []
  · rw [hEmpty, List.append_nil, if_neg hLast,
      if_neg (by simp), List.append_nil]
  · rw [List.getLast?_append_of_ne_nil _ hEmpty]
    split
    next => rw [List.dropLast_append_of_ne_nil hEmpty]
    next => rfl

/- What a text begins with, its first line begins with. -/
theorem lines_head
    (hWhole : '\n' ∉ head.toList)
    (hLast : head.toList.getLast? ≠ some '\r')
    (middle text : String) :
    ∃ rest others,
      Text.lines (head ++ middle ++ "\n" ++ text) =
        (head ++ rest) :: others := by
  have hNewline : '\n' ∈ middle.toList ++ '\n' :: text.toList := by
    simp
  rcases List.eq_append_cons_of_mem hNewline with
    ⟨left, right, hCut, hLeft⟩
  have hText :
      (head ++ middle ++ "\n" ++ text).toList =
        (head.toList ++ left) ++ '\n' :: right := by
    rw [List.append_assoc, ← hCut]
    simp
  have hBody : '\n' ∉ head.toList ++ left := by
    rw [List.mem_append, not_or]
    exact ⟨hWhole, hLeft⟩
  have hLine :
      String.ofList (Text.trimReturn (head.toList ++ left)) =
        head ++ String.ofList (Text.trimReturn left) := by
    rw [trimReturn_append hLast]
    apply String.toList_injective
    simp
  unfold Text.lines
  rw [hText, Lines.split_line _ hBody]
  exact ⟨_, _, congrArg₂ _ hLine rfl⟩

/- A line that begins with anything else names nothing. -/
theorem handshakeExecutable_of_plain
    (hPlain : line.toList.head? ≠ some shellSigns.quote) :
    handshakeExecutable line = none := by
  rw [handshakeExecutable_eq_none]
  intro exe rest hLine
  apply hPlain
  rw [hLine, String.toList_append, String.toList_append,
    toList_shellLiteral]
  rfl

theorem newline_notMem_shellLiteral
    (hExe : '\n' ∉ exe.toList) :
    '\n' ∉ (shellLiteral exe).toList := by
  intro hMem
  rw [toList_shellLiteral] at hMem
  rcases Quoted.mem_literal hMem with hWord | hQuote | hBackslash
  · exact hExe hWord
  · exact absurd hQuote (by decide)
  · exact absurd hBackslash (by decide)

theorem getLast?_handshakeWord (front : List Char) :
    (front ++ handshakeWord.toList).getLast? = some ' ' := by
  rw [handshakeWord_eq, List.getLast?_append_of_ne_nil _ (by decide)]
  decide

/- The first line of a command is read, whatever follows. -/
theorem lines_commandLine
    (hExe : '\n' ∉ exe.toList)
    (arg : String) (args : List String) (rawPid : Bool)
    (text : String) :
    ∃ first others,
      Text.lines
          (commandLine exe ("worker-handshake" :: arg :: args)
            rawPid ++ "\n" ++ text) = first :: others ∧
        handshakeExecutable first = some exe := by
  rcases commandLine_handshake exe arg args rawPid with
    ⟨rest, hCommand⟩
  have hWhole :
      '\n' ∉ (shellLiteral exe ++ handshakeWord).toList := by
    rw [String.toList_append, List.mem_append, not_or]
    exact ⟨newline_notMem_shellLiteral hExe, by decide⟩
  have hLast :
      (shellLiteral exe ++ handshakeWord).toList.getLast? ≠
        some '\r' := by
    rw [String.toList_append, getLast?_handshakeWord]
    decide
  rcases lines_head hWhole hLast rest text with
    ⟨left, others, hLines⟩
  rw [hCommand]
  exact ⟨_, others, hLines,
    handshakeExecutable_eq_some.mpr ⟨left, rfl⟩⟩

end Scripts

------------------------------------------------------------
-- Whole Scripts
------------------------------------------------------------

def tokenEnv : String :=
  "TASKFLEET_INTERNAL_WORKER_HANDSHAKE_TOKEN"

/- The lines of a script before its handshake. -/
def scriptHead (token : String) : List String :=
  ["#!/bin/sh", "set -eu", "unset TASKFLEET_CREATOR_SESSION",
    "export " ++ tokenEnv ++ "=" ++ shellLiteral token]

/- What one launcher is written from. -/
structure Script where
  name : String
  token : String
  exe : String
  arg : String
  args : List String
  tail : String
  wholeToken : '\n' ∉ token.toList
  wholeExe : '\n' ∉ exe.toList

def Script.body (script : Script) : String :=
  (scriptHead script.token).foldr
    (fun line text => line ++ "\n" ++ text)
    (commandLine script.exe
        ("worker-handshake" :: script.arg :: script.args)
        true ++ "\n" ++ script.tail)

section Whole

/- The survey passes over lines that begin with no quote. -/
theorem launcherExecutable_skip
    {line : String}
    (hPlain : line.toList.head? ≠ some shellSigns.quote)
    (hWhole : '\n' ∉ line.toList) (text : String) :
    launcherExecutable (line ++ "\n" ++ text) =
      launcherExecutable text := by
  have hTrimmed :
      (String.ofList
        (Text.trimReturn line.toList)).toList.head? ≠
          some shellSigns.quote := by
    rw [String.toList_ofList]
    unfold Text.trimReturn
    split
    next =>
      rw [List.head?_dropLast]
      split
      next => exact hPlain
      next => exact (Option.some_ne_none _).symm
    next => exact hPlain
  unfold launcherExecutable
  rw [lines_line hWhole, List.findSome?_cons,
    handshakeExecutable_of_plain hTrimmed]

/- A script names the executable that it was written with. -/
theorem launcherExecutable_body (script : Script) :
    launcherExecutable script.body = some script.exe := by
  have hExport :
      ("export " ++ tokenEnv ++ "=" ++
          shellLiteral script.token).toList.head? ≠
        some shellSigns.quote := by
    rw [String.toList_append,
      List.head?_append_of_ne_nil _ (by decide)]
    decide
  have hWhole :
      '\n' ∉ ("export " ++ tokenEnv ++ "=" ++
        shellLiteral script.token).toList := by
    rw [String.toList_append, List.mem_append, not_or]
    exact ⟨by decide,
      newline_notMem_shellLiteral script.wholeToken⟩
  rcases lines_commandLine script.wholeExe script.arg
      script.args true script.tail with
    ⟨first, others, hLines, hFirst⟩
  unfold Script.body scriptHead
  simp only [List.foldr_cons, List.foldr_nil]
  rw [launcherExecutable_skip (by decide) (by decide),
    launcherExecutable_skip (by decide) (by decide),
    launcherExecutable_skip (by decide) (by decide),
    launcherExecutable_skip hExport hWhole]
  unfold launcherExecutable
  rw [hLines, List.findSome?_cons, hFirst]

/- The survey of a run lists the executables of its scripts. -/
theorem launcherExecutables_scripts (scripts : List Script) :
    launcherExecutables
        (scripts.map (fun script =>
          (script.name, launcherExecutable script.body))) =
      .ok (scripts.map (fun script => script.exe)) := by
  induction scripts with
  | nil => rfl
  | cons script rest ih =>
      rw [List.map_cons, launcherExecutables,
        launcherExecutable_body, ih]
      rfl

end Whole

------------------------------------------------------------
-- Main Theorem
------------------------------------------------------------

/-
  The survey reads from a command that the launcher has
  written the path that was quoted there, in the command as a
  whole and in its first line. No other line names a path.
-/
theorem handshake_reads_back :
    (∀ (exe arg : String) (args : List String) (rawPid : Bool),
      '\n' ∉ exe.toList →
        ∃ line,
          shellCommand (Utf8.bytes exe)
              ("worker-handshake" :: arg :: args) rawPid =
            Utf8.bytes (line ++ "\n") ∧
          handshakeExecutable line = some exe ∧
          (Text.lines (line ++ "\n")).head?.bind
            handshakeExecutable = some exe) ∧
    ∀ line,
      (∀ exe, handshakeExecutable line = some exe ↔
        ∃ rest,
          line = shellLiteral exe ++ handshakeWord ++ rest) ∧
      (handshakeExecutable line = none ↔
        ∀ exe rest,
          line ≠
            shellLiteral exe ++ handshakeWord ++ rest) := by
  constructor
  · intro exe arg args rawPid hExe
    rcases commandLine_handshake exe arg args rawPid with
      ⟨rest, hCommand⟩
    rcases lines_commandLine hExe arg args rawPid "" with
      ⟨first, others, hLines, hFirst⟩
    refine ⟨commandLine exe ("worker-handshake" :: arg :: args)
      rawPid, shellCommand_bytes exe _ rawPid, ?_, ?_⟩
    · exact handshakeExecutable_eq_some.mpr ⟨rest, hCommand⟩
    · rw [String.append_empty] at hLines
      rw [hLines]
      exact hFirst
  · intro line
    exact ⟨fun exe => handshakeExecutable_eq_some,
      handshakeExecutable_eq_none⟩

/- A path that ends in a backslash and a quote. -/
theorem handshake_reads_back_quotes :
    ∃ line,
      shellCommand (Utf8.bytes "/o'd/task\\'")
          ["worker-handshake", "--pid", "$$\x7bRAW\x7d"] true =
        Utf8.bytes (line ++ "\n") ∧
      handshakeExecutable line = some "/o'd/task\\'" ∧
      (Text.lines (line ++ "\n")).head?.bind
        handshakeExecutable = some "/o'd/task\\'" :=
  handshake_reads_back.1 "/o'd/task\\'" "--pid"
    ["$$\x7bRAW\x7d"] true (by decide)

end Launcher

end Taskfleet
