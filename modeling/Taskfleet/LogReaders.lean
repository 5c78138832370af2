import Mathlib.Data.Fintype.EquivFin
import Mathlib.Data.List.DropRight
import Taskfleet.LastSeq

/-
  The readers of one event log side by side: the forward
  reader of whole events, the backward reader of the last
  sequence number, and the probe for a key, before and after
  a torn tail is cut off.

  The three decode a line into records of their own. On
  lines that are objects the records agree; a record read by
  position from an array, or a line without a payload, tells
  them apart.

  Main declarations:
    * `Physical.scanLines`, `Physical.Scannable`
    * `Physical.ReadersAgree`, `Physical.Replayable`
    * `Physical.readersAgree_iff`
    * `Physical.readers_refine`
-/

------------------------------------------------------------
-- One Line in Three Records
------------------------------------------------------------

namespace Taskfleet

open Fallible

/- The whole-event reader of a text library. -/
def LineText.events (codec : LineText) (env : RunEnv) :
    LineCodec where
  fromSlice := codec.fromSlice (Event.ofJson env)
  escapeLossy := codec.escapeLossy

/- White space around a value, as JSON has it. -/
structure LineText.Spaced (codec : LineText) : Prop where
  closing : ∀ text v, codec.value text = .ok v →
    codec.value (text ++ [carriageReturn]) = .ok v
  inked : ∀ text v, codec.value text = .ok v →
    text.any (fun b => !Physical.isAsciiWhitespace b) = true

section Records

variable {env : RunEnv} {ev : Event} {kvs : List (String × Json)}

theorem seqLine_of_event
    (hRead : Event.ofJson env (.obj kvs) = some ev) :
    ∃ hdr, SeqLine.ofJson env (.obj kvs) = some hdr ∧
      hdr.seq = ev.seq := by
  simp only [Event.ofJson, Json.fields, Option.bind_eq_bind,
    Option.bind_some, Option.pure_def,
    Option.bind_eq_some_iff, Option.some.injEq,
    Json.Fields.required, Json.Fields.raw,
    Json.Fields.defaulted] at hRead
  rcases hRead with
    ⟨ts, hTs, seq, hSeq, kind, ⟨v, hKind, hName⟩, runId, hRunId,
      nodeId, hNode, key, hKey, data, hData, rfl⟩
  rw [Option.map_eq_some_iff] at hName
  rcases hName with ⟨text, hText, rfl⟩
  refine ⟨⟨seq, ts, text, runId, nodeId⟩, ?_, rfl⟩
  simp only [SeqLine.ofJson, Json.fields, Option.bind_eq_bind,
    Option.bind_some, Option.pure_def,
    Option.bind_eq_some_iff, Option.some.injEq,
    Json.Fields.required, Json.Fields.raw,
    Json.Fields.defaulted]
  exact ⟨seq, hSeq, ts, hTs, text, ⟨v, hKind, hText⟩, runId,
    hRunId, nodeId, hNode, rfl⟩

/- An event read by position is no probe. -/
theorem probe_of_positions
    {xs : List Json}
    (hRead : Event.ofJson env (.arr xs) = some ev) :
    ProbeFields.ofJson (.arr xs) = none := by
  simp only [Event.ofJson, Option.bind_eq_bind,
    Option.bind_eq_some_iff, Json.fields] at hRead
  rcases hRead with ⟨f, hFields, ts, hTs, _⟩
  split at hFields
  · cases hFields
    simp only [Json.Fields.required, Json.Fields.raw,
      Option.bind_eq_some_iff] at hTs
    rcases hTs with ⟨v, hFirst, text, hText, _⟩
    have hNumber : Json.option Json.asU64 v = none := by
      cases v <;> simp_all [Json.asStr, Json.option, Json.asU64]
    by_cases hShort : xs.length ≤ 3
    · simp [ProbeFields.ofJson, Json.fields, hShort,
        Json.Fields.defaulted, Json.Fields.raw, hFirst, hNumber]
    · simp [ProbeFields.ofJson, Json.fields, hShort]
  · cases hFields

end Records

namespace Physical

/- The complete line is the text of an object. -/
def ObjectLine
    (codec : LineText)
    (body : Bytes)
    (kvs : List (String × Json)) : Prop :=
  lineContent body ≠ [] ∧
    codec.value (lineContent body) = .ok (.obj kvs)

/- What a line that the whole-event reader accepts holds. -/
inductive EventLine
    (codec : LineText) (env : RunEnv) (body : Bytes) :
    List Event → Prop where
| blank
    (hBlank : lineContent body = []) :
    EventLine codec env body []
| object (kvs : List (String × Json)) (ev : Event)
    (hObject : ObjectLine codec body kvs)
    (hRead : Event.ofJson env (.obj kvs) = some ev) :
    EventLine codec env body [ev]
| positions (xs : List Json) (ev : Event)
    (hContent : lineContent body ≠ [])
    (hValue : codec.value (lineContent body) = .ok (.arr xs))
    (hRead : Event.ofJson env (.arr xs) = some ev) :
    EventLine codec env body [ev]

section Accepted

variable {codec : LineText} {env : RunEnv}
variable {body : Bytes} {evs : List Event}

theorem eventLine_of_accepted
    (hFine : isCorruptLine (codec.events env) body = false) :
    EventLine codec env body
      (lineEvent? (codec.events env) body).toList := by
  rcases line_cases (codec.events env) body with
    ⟨hBlank, _, hNone⟩ | ⟨ev, hContent, hParse, _, hEvent⟩ |
      ⟨_, _, _, hCorrupt, _⟩
  · rw [hNone]
    exact .blank hBlank
  · rw [hEvent]
    simp only [LineText.events, LineText.fromSlice,
      bind_eq_ok, orError_eq_ok] at hParse
    rcases hParse with ⟨v, hValue, hRead⟩
    cases v with
    | obj kvs => exact .object kvs ev ⟨hContent, hValue⟩ hRead
    | arr xs => exact .positions xs ev hContent hValue hRead
    | _ => simp [Event.ofJson, Json.fields] at hRead
  · rw [hFine] at hCorrupt
    cases hCorrupt

/- A body is its content, or that and a carriage return. -/
theorem body_cases (body : Bytes) :
    body = lineContent body ∨
      body = lineContent body ++ [carriageReturn] := by
  unfold lineContent
  split
  next hReturn =>
    right
    rcases List.getLast?_eq_some_iff.mp hReturn with
      ⟨front, rfl⟩
    simp
  · exact .inl rfl

/- The text of a line, carriage return and all, has its value. -/
theorem value_of_body
    (hSpaced : codec.Spaced)
    {v : Json}
    (hValue : codec.value (lineContent body) = .ok v) :
    codec.value body = .ok v := by
  rcases body_cases body with hSame | hClosed
  · rw [hSame]
    exact hValue
  · rw [hClosed]
    exact hSpaced.closing _ v hValue

/- An empty content is white space, whatever ended it. -/
theorem blank_body
    (hBlank : lineContent body = []) :
    body.any (fun b => !isAsciiWhitespace b) = false := by
  rcases body_cases body with hSame | hClosed
  · rw [hSame, hBlank]
    rfl
  · rw [hClosed, hBlank]
    rfl

theorem parseSeq_object
    (hSpaced : codec.Spaced)
    {kvs : List (String × Json)} {ev : Event}
    (hObject : ObjectLine codec body kvs)
    (hRead : Event.ofJson env (.obj kvs) = some ev) :
    body.any (fun b => !isAsciiWhitespace b) = true ∧
      parseSeq codec env body = .ok ev.seq := by
  have hValue := value_of_body hSpaced hObject.2
  rcases seqLine_of_event hRead with ⟨hdr, hHdr, hSeq⟩
  constructor
  · exact hSpaced.inked _ _ hValue
  · simp [parseSeq, LineText.fromSlice, hValue, hHdr, hSeq]

end Accepted

/-
  On a log of objects the backward reader finds the sequence
  number of the last event.
-/
theorem recoverLines_objects
    {codec : LineText} {env : RunEnv} {bodies : List Bytes}
    (hSpaced : codec.Spaced)
    (hFine : ∀ body ∈ bodies,
      isCorruptLine (codec.events env) body = false)
    (hObjects : ∀ body ∈ bodies, lineContent body ≠ [] →
      ∃ kvs, codec.value (lineContent body) = .ok (.obj kvs)) :
    recoverLines codec env bodies.reverse =
      .ok (lastSeqOf (eventsOf (codec.events env) bodies)) := by
  induction bodies using List.reverseRecOn with
  | nil => rfl
  | append_singleton bodies body ih =>
      have hEarlier := ih
        (fun b hMem => hFine b (by simp [hMem]))
        (fun b hMem => hObjects b (by simp [hMem]))
      have hLine := eventLine_of_accepted (hFine body (by simp))
      rw [List.reverse_append, List.reverse_singleton,
        List.singleton_append, recoverLines, eventsOf_append,
        eventsOf_cons, eventsOf_nil, List.append_nil]
      generalize hEvents :
        (lineEvent? (codec.events env) body).toList = evs at hLine
      cases hLine with
      | blank hBlank =>
          rw [blank_body hBlank, List.append_nil]
          exact hEarlier
      | object kvs ev hObject hRead =>
          rcases parseSeq_object hSpaced hObject hRead with
            ⟨hInked, hSeq⟩
          rw [hInked, lastSeqOf_concat]
          exact hSeq
      | positions xs ev hContent hValue _ =>
          rcases hObjects body (by simp) hContent with
            ⟨kvs, hObject⟩
          rw [hValue] at hObject
          cases hObject

------------------------------------------------------------
-- The Probe, Line by Line
------------------------------------------------------------

/- The scan for a key over the bodies of complete lines. -/
def scanLines (codec : LineText) (kind key : String) :
    Nat → Nat → List Bytes → Except Error (Option PriorEvent)
| _, _, [] => .ok none
| lineno, lastGoodSeq, body :: rest =>
    if (lineContent body).isEmpty then
      scanLines codec kind key (lineno + 1) lastGoodSeq rest
    else
      match codec.fromSlice ProbeFields.ofJson
          (lineContent body) with
      | .error e =>
          .error (notAnEnvelope codec
            ⟨lineContent body, true, lineno + 1⟩ lastGoodSeq e)
      | .ok probe =>
          if probe.kind ≠ kind ∨
              probe.idempotencyKey ≠ some key then
            scanLines codec kind key (lineno + 1)
              (probe.seq.getD lastGoodSeq) rest
          else
            match codec.fromSlice FullEventForReplay.ofJson
                (lineContent body) with
            | .error e =>
                .error (notReplayable codec
                  ⟨lineContent body, true, lineno + 1⟩ e)
            | .ok full =>
                .ok (some ⟨full.seq, full.nodeId, full.data⟩)

section Scan

theorem scanForKey_eq_scanLines
    (codec : LineText)
    (kind key : String)
    {bodies : List Bytes} {torn : Bytes}
    (hFiled : Lines.Filed newline bodies torn)
    (lineno lastGoodSeq : Nat) :
    scanForKey codec kind key
        ⟨Lines.join newline bodies ++ torn, lineno, false⟩
        lastGoodSeq =
      scanLines codec kind key lineno lastGoodSeq bodies := by
  induction bodies generalizing lineno lastGoodSeq with
  | nil =>
      simpa [scanLines] using
        scanForKey_torn hFiled.torn lineno lastGoodSeq
  | cons body rest ih =>
      rw [Lines.join_cons_append, scanForKey, scanLines]
      split
      · rename_i hNext
        simp [nextLine_line hFiled.head] at hNext
      · rename_i line reader hNext
        simp only [nextLine_line hFiled.head, Option.some.injEq,
          Prod.mk.injEq] at hNext
        rcases hNext with ⟨rfl, rfl⟩
        simp only [Bool.not_true, Bool.false_eq_true, if_false]
        split
        · exact ih hFiled.tail _ _
        · cases codec.fromSlice ProbeFields.ofJson
              (lineContent body) with
          | error e => rfl
          | ok probe =>
              dsimp only
              split
              · exact ih hFiled.tail _ _
              · rfl

/- The probe, too, sees the complete lines and no more. -/
theorem findPriorWithKey_lines
    (codec : LineText) (kind key : String) (raw : Bytes) :
    findPriorWithKey codec kind key (some raw) =
      scanLines codec kind key 0 0 (lines raw) := by
  have hScan :=
    scanForKey_eq_scanLines codec kind key (filed_lines raw) 0 0
  rwa [join_lines] at hScan

variable {codec : LineText} {env : RunEnv}
variable {kind key : String}

theorem scanLines_blank
    {body : Bytes}
    (hBlank : lineContent body = [])
    (lineno lastGoodSeq : Nat)
    (rest : List Bytes) :
    scanLines codec kind key lineno lastGoodSeq (body :: rest) =
      scanLines codec kind key (lineno + 1) lastGoodSeq rest := by
  rw [scanLines, hBlank]
  rfl

/- An object line is passed, or is the one that is asked for. -/
theorem scanLines_object
    {body : Bytes} {kvs : List (String × Json)} {ev : Event}
    (hObject : ObjectLine codec body kvs)
    (hRead : Event.ofJson env (.obj kvs) = some ev)
    (lineno lastGoodSeq : Nat)
    (rest : List Bytes) :
    scanLines codec kind key lineno lastGoodSeq (body :: rest) =
      if keyedAs (.ofName kind) key ev then
        match FullEventForReplay.ofJson (.obj kvs) with
        | some full =>
            .ok (some ⟨full.seq, full.nodeId, full.data⟩)
        | none =>
            .error (notReplayable codec
              ⟨lineContent body, true, lineno + 1⟩
              (codec.mismatch (lineContent body)))
      else
        scanLines codec kind key (lineno + 1) ev.seq rest := by
  have hEnvelope := Event.envelope_of_ofJson hRead
  have hProbe :
      codec.fromSlice ProbeFields.ofJson (lineContent body) =
        .ok ⟨some ev.seq, ev.kind.name, ev.idempotencyKey⟩ := by
    simp [LineText.fromSlice, hObject.2,
      probe_of_envelope hEnvelope]
  have hMatch :
      keyedAs (.ofName kind) key ev = true ↔
        ev.kind.name = kind ∧ ev.idempotencyKey = some key := by
    rw [keyedAs_iff, hEnvelope.read, EventKind.ofName_inj]
    simp
  rw [scanLines]
  simp only [List.isEmpty_iff, hObject.1, if_false, hProbe,
    Option.getD_some]
  by_cases hKeyed : keyedAs (.ofName kind) key ev = true
  · rcases hMatch.mp hKeyed with ⟨hKind, hKey⟩
    rw [if_pos hKeyed, if_neg (by simp [hKind, hKey])]
    simp only [LineText.fromSlice, hObject.2, ok_bind]
    cases FullEventForReplay.ofJson (.obj kvs) <;> rfl
  · have hPassed :
        ev.kind.name ≠ kind ∨ ev.idempotencyKey ≠ some key := by
      rw [← not_and_or]
      exact fun hBoth => hKeyed (hMatch.mpr hBoth)
    rw [if_neg hKeyed, if_pos hPassed]

/- A line read by position stops the probe. -/
theorem scanLines_positions
    (kind key : String)
    {body : Bytes} {xs : List Json} {ev : Event}
    (hContent : lineContent body ≠ [])
    (hValue : codec.value (lineContent body) = .ok (.arr xs))
    (hRead : Event.ofJson env (.arr xs) = some ev)
    (lineno lastGoodSeq : Nat)
    (rest : List Bytes) :
    ∃ e, scanLines codec kind key lineno lastGoodSeq
      (body :: rest) = .error e := by
  have hProbe :
      codec.fromSlice ProbeFields.ofJson (lineContent body) =
        .error (codec.mismatch (lineContent body)) := by
    simp [LineText.fromSlice, hValue, probe_of_positions hRead]
  rw [scanLines]
  simp only [List.isEmpty_iff, hContent, if_false, hProbe]
  exact ⟨_, rfl⟩

/- A match without a payload cannot be replayed. -/
theorem replay_without_data
    {kvs : List (String × Json)}
    (hNone : kvs.lookup "data" = none) :
    FullEventForReplay.ofJson (.obj kvs) = none := by
  simp [FullEventForReplay.ofJson, Json.fields,
    Json.Fields.required, Json.Fields.raw, hNone]

end Scan

------------------------------------------------------------
-- Where the Probe Comes Through
------------------------------------------------------------

/-
  Up to the first event with the kind and the key, every line
  is an object, and that event has a payload.
-/
def Scannable
    (codec : LineText)
    (env : RunEnv)
    (kind : EventKind)
    (key : String) : List Bytes → Prop
| [] => True
| body :: rest =>
    (lineContent body = [] ∧
      Scannable codec env kind key rest) ∨
    (∃ kvs ev, ObjectLine codec body kvs ∧
      Event.ofJson env (.obj kvs) = some ev ∧
      if keyedAs kind key ev then kvs.lookup "data" ≠ none
      else Scannable codec env kind key rest)

section Scannable

variable {codec : LineText} {env : RunEnv}
variable {kind : EventKind} {key : String}
variable {body : Bytes} {rest : List Bytes}

theorem scannable_blank
    (hBlank : lineContent body = []) :
    Scannable codec env kind key (body :: rest) ↔
      Scannable codec env kind key rest := by
  constructor
  · intro hScan
    rcases hScan with ⟨_, hRest⟩ | ⟨_, _, hObject, _⟩
    · exact hRest
    · exact absurd hBlank hObject.1
  · intro hRest
    exact .inl ⟨hBlank, hRest⟩

theorem scannable_object
    {kvs : List (String × Json)} {ev : Event}
    (hObject : ObjectLine codec body kvs)
    (hRead : Event.ofJson env (.obj kvs) = some ev) :
    Scannable codec env kind key (body :: rest) ↔
      if keyedAs kind key ev then kvs.lookup "data" ≠ none
      else Scannable codec env kind key rest := by
  constructor
  · intro hScan
    rcases hScan with ⟨hBlank, _⟩ |
      ⟨kvs', ev', hObject', hRead', hRest⟩
    · exact absurd hBlank hObject.1
    · have hSame := hObject.2.symm.trans hObject'.2
      cases hSame
      rw [hRead] at hRead'
      cases hRead'
      exact hRest
  · intro hRest
    exact .inr ⟨kvs, ev, hObject, hRead, hRest⟩

theorem not_scannable_positions
    {xs : List Json}
    (hContent : lineContent body ≠ [])
    (hValue : codec.value (lineContent body) = .ok (.arr xs)) :
    ¬ Scannable codec env kind key (body :: rest) := by
  intro hScan
  rcases hScan with ⟨hBlank, _⟩ | ⟨kvs, ev, hObject, _⟩
  · exact hContent hBlank
  · have hSame := hValue.symm.trans hObject.2
    cases hSame

/- The probe answers as the full parse exactly there. -/
theorem scanLines_iff
    {bodies : List Bytes}
    (hFine : ∀ body ∈ bodies,
      isCorruptLine (codec.events env) body = false)
    (name : String)
    (lineno lastGoodSeq : Nat) :
    scanLines codec name key lineno lastGoodSeq bodies =
        .ok (((eventsOf (codec.events env) bodies).find?
          (keyedAs (.ofName name) key)).map Event.prior) ↔
      Scannable codec env (.ofName name) key bodies := by
  induction bodies generalizing lineno lastGoodSeq with
  | nil => simp [scanLines, Scannable]
  | cons body rest ih =>
      have hRest := ih (fun b hMem => hFine b (by simp [hMem]))
      have hLine := eventLine_of_accepted (hFine body (by simp))
      rw [eventsOf_cons]
      generalize (lineEvent? (codec.events env) body).toList =
        evs at hLine
      cases hLine with
      | blank hBlank =>
          rw [scanLines_blank hBlank, scannable_blank hBlank]
          exact hRest _ _
      | object kvs ev hObject hRead =>
          rw [scanLines_object hObject hRead,
            scannable_object hObject hRead]
          by_cases hKeyed : keyedAs (.ofName name) key ev = true
          · simp only [hKeyed, if_true, List.singleton_append,
              List.find?_cons_of_pos, Option.map_some]
            cases hData : kvs.lookup "data" with
            | none => simp [replay_without_data hData]
            | some v =>
                have hFull := replay_of_envelope
                  (Event.envelope_of_ofJson hRead)
                  (by rw [hData]; exact Option.some_ne_none v)
                simp [hFull, Event.prior]
          · simp only [hKeyed, if_false, List.singleton_append,
              List.find?_cons_of_neg, not_false_iff,
              Bool.false_eq_true]
            exact hRest _ _
      | positions xs ev hContent hValue hRead =>
          rcases scanLines_positions name key hContent hValue
            hRead lineno lastGoodSeq rest with ⟨e, hFails⟩
          rw [hFails]
          exact iff_of_false (by simp)
            (not_scannable_positions hContent hValue)

theorem scannable_drop
    {before : List Bytes}
    (hFine : ∀ body ∈ before,
      isCorruptLine (codec.events env) body = false)
    (hFresh : ∀ ev ∈ eventsOf (codec.events env) before,
      keyedAs kind key ev = false) :
    Scannable codec env kind key (before ++ rest) ↔
      (∀ body ∈ before, lineContent body ≠ [] →
        ∃ kvs, ObjectLine codec body kvs) ∧
      Scannable codec env kind key rest := by
  induction before with
  | nil => simp
  | cons body before ih =>
      have hRest := ih (fun b hMem => hFine b (by simp [hMem]))
      have hLine := eventLine_of_accepted (hFine body (by simp))
      rw [eventsOf_cons] at hFresh
      generalize (lineEvent? (codec.events env) body).toList =
        evs at hLine hFresh
      have hLater := hRest (fun ev hMem =>
        hFresh ev (List.mem_append_right _ hMem))
      rw [List.cons_append]
      cases hLine with
      | blank hBlank =>
          rw [scannable_blank hBlank, hLater]
          simp [hBlank]
      | object kvs ev hObject hRead =>
          have hPassed := hFresh ev (by simp)
          rw [scannable_object hObject hRead, hPassed]
          simp only [Bool.false_eq_true, if_false, hLater,
            List.forall_mem_cons]
          have hHere : ∃ kvs, ObjectLine codec body kvs :=
            ⟨kvs, hObject⟩
          simp [hHere]
      | positions xs ev hContent hValue _ =>
          apply iff_of_false
            (not_scannable_positions hContent hValue)
          rintro ⟨hObjects, _⟩
          rcases hObjects body (by simp) hContent with
            ⟨kvs, hObject⟩
          have hSame := hValue.symm.trans hObject.2
          cases hSame

end Scannable

------------------------------------------------------------
-- Agreement
------------------------------------------------------------

/-
  A log on which no reader has more to ask than the reader
  of whole events: its event lines are objects, and the first
  line of a kind and a key has a payload.
-/
structure Replayable
    (codec : LineText) (env : RunEnv) (bodies : List Bytes) :
    Prop where
  objects : ∀ body ∈ bodies, lineContent body ≠ [] →
    ∃ kvs, ObjectLine codec body kvs
  payloads : ∀ before body after kvs ev key,
    bodies = before ++ body :: after →
    ObjectLine codec body kvs →
    Event.ofJson env (.obj kvs) = some ev →
    ev.idempotencyKey = some key →
    (∀ e ∈ eventsOf (codec.events env) before,
      keyedAs ev.kind key e = false) →
    kvs.lookup "data" ≠ none

section Agreement

variable {codec : LineText} {env : RunEnv}
variable {bodies : List Bytes}

/- There are keys that no event of a log has. -/
theorem exists_fresh_key (events : List Event) :
    ∃ key, ∀ kind, ∀ ev ∈ events,
      keyedAs kind key ev = false := by
  rcases Infinite.exists_notMem_finset
    (events.filterMap Event.idempotencyKey).toFinset with
    ⟨key, hFresh⟩
  apply Exists.intro key
  intro kind ev hMem
  rw [← Bool.not_eq_true, keyedAs_iff]
  rintro ⟨_, hKey⟩
  apply hFresh
  rw [List.mem_toFinset, List.mem_filterMap]
  exact ⟨ev, hMem, hKey⟩

theorem Replayable.scannable
    (hFine : ∀ body ∈ bodies,
      isCorruptLine (codec.events env) body = false)
    (hReplay : Replayable codec env bodies)
    (name key : String)
    (before rest : List Bytes)
    (hBodies : bodies = before ++ rest)
    (hFresh : ∀ ev ∈ eventsOf (codec.events env) before,
      keyedAs (.ofName name) key ev = false) :
    Scannable codec env (.ofName name) key rest := by
  induction rest generalizing before with
  | nil => trivial
  | cons body rest ih =>
      have hLine :=
        eventLine_of_accepted (hFine body (by simp [hBodies]))
      have hNext :
          (∀ ev ∈ (lineEvent? (codec.events env) body).toList,
            keyedAs (.ofName name) key ev = false) →
          Scannable codec env (.ofName name) key rest := by
        intro hHere
        apply ih (before ++ [body]) (by simp [hBodies])
        intro ev hMem
        rw [eventsOf_append, List.mem_append, eventsOf_cons,
          eventsOf_nil, List.append_nil] at hMem
        rcases hMem with hMem | hMem
        · exact hFresh ev hMem
        · exact hHere ev hMem
      generalize (lineEvent? (codec.events env) body).toList =
        evs at hLine hNext
      cases hLine with
      | blank hBlank =>
          rw [scannable_blank hBlank]
          exact hNext (by simp)
      | object kvs ev hObject hRead =>
          rw [scannable_object hObject hRead]
          by_cases hKeyed : keyedAs (.ofName name) key ev = true
          · rw [if_pos hKeyed]
            rcases keyedAs_iff.mp hKeyed with ⟨hKind, hKey⟩
            apply hReplay.payloads before body rest kvs ev key
              hBodies hObject hRead hKey
            rw [hKind]
            exact hFresh
          · rw [if_neg hKeyed]
            exact hNext (by simpa using hKeyed)
      | positions xs ev hContent hValue _ =>
          rcases hReplay.objects body (by simp [hBodies])
            hContent with ⟨kvs, hObject⟩
          have hSame := hValue.symm.trans hObject.2
          cases hSame

theorem replayable_of_scannable
    (hFine : ∀ body ∈ bodies,
      isCorruptLine (codec.events env) body = false)
    (hScan : ∀ name key,
      Scannable codec env (.ofName name) key bodies) :
    Replayable codec env bodies := by
  constructor
  · rcases exists_fresh_key
      (eventsOf (codec.events env) bodies) with ⟨key, hFresh⟩
    have hAll := hScan "" key
    rw [← List.append_nil bodies,
      scannable_drop hFine (hFresh _)] at hAll
    exact hAll.1
  · intro before body after kvs ev key hBodies hObject hRead
      hKey hFresh
    have hRead' := (Event.envelope_of_ofJson hRead).read
    have hAll := hScan ev.kind.name key
    rw [← hRead', hBodies,
      scannable_drop
        (fun b hMem => hFine b (by simp [hBodies, hMem]))
        hFresh,
      scannable_object hObject hRead,
      if_pos (keyedAs_iff.mpr ⟨rfl, hKey⟩)] at hAll
    exact hAll.2

end Agreement

/- The backward reader and the probe answer as the full parse. -/
structure ReadersAgree
    (codec : LineText)
    (env : RunEnv)
    (raw : Bytes)
    (events : List Event) : Prop where
  last : recoverLastSeq codec env raw = .ok (lastSeqOf events)
  prior : ∀ kind key,
    findPriorWithKey codec kind key (some raw) =
      .ok ((events.find? (keyedAs (.ofName kind) key)).map
        Event.prior)

/-
  The log with its torn tail cut off is empty or closed, is
  read as before by all three, and takes an appended line as
  a line of its own.
-/
structure CutAgrees
    (codec : LineText)
    (env : RunEnv)
    (raw : Bytes)
    (events : List Event) : Prop where
  closed : cutTornTail raw = [] ∨
    (cutTornTail raw).getLast? = some newline
  all :
    readAllEvents (codec.events env) (some (cutTornTail raw)) =
      .ok events
  last : recoverLastSeq codec env (cutTornTail raw) =
    recoverLastSeq codec env raw
  prior : ∀ kind key,
    findPriorWithKey codec kind key (some (cutTornTail raw)) =
      findPriorWithKey codec kind key (some raw)
  appended : ∀ text, newline ∉ text →
    lines (cutTornTail raw ++ (text ++ [newline])) =
      lines raw ++ [text]

theorem readAllEvents_eq_ok
    {codec : LineCodec} {raw : Bytes} {events : List Event}
    (hRead : readAllEvents codec (some raw) = .ok events) :
    (∀ body ∈ lines raw, isCorruptLine codec body = false) ∧
      events = eventsOf codec (lines raw) := by
  have hFine :=
    (readAllEvents_ok_iff codec raw).mp ⟨events, hRead⟩
  rw [readAllEvents_sound hFine, Except.ok.injEq] at hRead
  exact ⟨hFine, hRead.symm⟩

theorem cutAgrees
    {codec : LineText} {env : RunEnv} {raw : Bytes}
    {events : List Event}
    (hRead :
      readAllEvents (codec.events env) (some raw) = .ok events) :
    CutAgrees codec env raw events := by
  rcases readAllEvents_eq_ok hRead with ⟨hFine, rfl⟩
  have hLines : lines (cutTornTail raw) = lines raw := by
    rw [cutTornTail_eq, lines_truncate]
  constructor
  · rw [cutTornTail_eq, truncateTornTail_eq]
    rcases List.eq_nil_or_concat' (lines raw) with
      hNil | ⟨earlier, body, hLast⟩
    · left
      rw [hNil]
      rfl
    · right
      rw [hLast]
      simp
  · rw [← hLines] at hFine ⊢
    exact readAllEvents_sound hFine
  · rw [recoverLastSeq_lines, recoverLastSeq_lines, hLines]
  · intro kind key
    rw [findPriorWithKey_lines, findPriorWithKey_lines, hLines]
  · intro text hText
    rw [cutTornTail_eq, lines_truncate_append, lines_line hText]

/-
  On every log that the reader of whole events accepts, the
  other readers agree with it, before and after the cut of a
  torn tail, exactly where every event line is an object and
  the first event of a kind and a key has a payload.
-/
theorem readersAgree_iff
    (codec : LineText)
    (env : RunEnv)
    (raw : Bytes)
    (events : List Event)
    (hSpaced : codec.Spaced)
    (hRead :
      readAllEvents (codec.events env) (some raw) = .ok events) :
    (ReadersAgree codec env raw events ∧
        CutAgrees codec env raw events) ↔
      Replayable codec env (lines raw) := by
  have hCut := cutAgrees hRead
  rcases readAllEvents_eq_ok hRead with ⟨hFine, rfl⟩
  constructor
  · rintro ⟨hAgree, _⟩
    apply replayable_of_scannable hFine
    intro name key
    rw [← scanLines_iff hFine name 0 0,
      ← findPriorWithKey_lines]
    exact hAgree.prior name key
  · intro hReplay
    refine ⟨⟨?_, ?_⟩, hCut⟩
    · rw [recoverLastSeq_lines]
      apply recoverLines_objects hSpaced hFine
      intro body hMem hContent
      rcases hReplay.objects body hMem hContent with
        ⟨kvs, hObject⟩
      exact ⟨kvs, hObject.2⟩
    · intro kind key
      rw [findPriorWithKey_lines, scanLines_iff hFine]
      exact hReplay.scannable hFine kind key [] _ rfl (by simp)

------------------------------------------------------------
-- The Readers of Lines
------------------------------------------------------------

section Refinement

variable {codec : LineCodec} {bodies : List Bytes}

/- What the line-level readers see of an accepted line. -/
theorem logLine_accepted
    {body : Bytes}
    (hFine : isCorruptLine codec body = false) :
    (logLine codec body = .blank ∧
        lineEvent? codec body = none) ∨
      ∃ ev, logLine codec body = .event ev ∧
        lineEvent? codec body = some ev := by
  rcases line_cases codec body with
    ⟨hBlank, _, hNone⟩ | ⟨ev, hContent, hParse, _, hEvent⟩ |
      ⟨_, _, _, hCorrupt, _⟩
  · left
    simp [logLine, hBlank, hNone]
  · right
    exact ⟨ev, by simp [logLine, hContent, hParse], hEvent⟩
  · rw [hFine] at hCorrupt
    cases hCorrupt

theorem lineReaders_of_accepted
    (hFine : ∀ body ∈ bodies,
      isCorruptLine codec body = false) :
    Taskfleet.recoverLastSeq (bodies.map (logLine codec)) =
        .ok (lastSeqOf (eventsOf codec bodies)) ∧
      ∀ kind key,
        Taskfleet.findPriorWithKey kind key
            (bodies.map (logLine codec)) =
          .ok (((eventsOf codec bodies).find?
            (keyedAs kind key)).map Event.asPrior) := by
  constructor
  · induction bodies using List.reverseRecOn with
    | nil => rfl
    | append_singleton bodies body ih =>
        have hEarlier :=
          ih (fun b hMem => hFine b (by simp [hMem]))
        rw [List.map_append, List.map_singleton,
          eventsOf_append, eventsOf_cons, eventsOf_nil,
          List.append_nil]
        rcases logLine_accepted (hFine body (by simp)) with
          ⟨hLine, hNone⟩ | ⟨ev, hLine, hEvent⟩
        · rw [hLine, hNone]
          simpa [Taskfleet.recoverLastSeq, lastSeqBackward]
            using hEarlier
        · rw [hLine, hEvent]
          simp
  · intro kind key
    induction bodies with
    | nil => rfl
    | cons body rest ih =>
        have hRest := ih (fun b hMem => hFine b (by simp [hMem]))
        rw [List.map_cons, eventsOf_cons]
        rcases logLine_accepted (hFine body (by simp)) with
          ⟨hLine, hNone⟩ | ⟨ev, hLine, hEvent⟩
        · rw [hLine, hNone]
          exact hRest
        · rw [hLine, hEvent, Taskfleet.findPriorWithKey, hRest]
          by_cases hKeyed : keyedAs kind key ev = true
          · rw [if_pos (keyedAs_iff.mp hKeyed)]
            simp [hKeyed, Event.asPrior]
          · rw [if_neg (fun h => hKeyed (keyedAs_iff.mpr h))]
            simp [hKeyed]

end Refinement

/-
  Where the readers of bytes agree, the readers of lines that
  the rest of the model uses give the same answers.
-/
theorem readers_refine
    {codec : LineText} {env : RunEnv} {raw : Bytes}
    {events : List Event}
    (hRead :
      readAllEvents (codec.events env) (some raw) = .ok events)
    (hAgree : ReadersAgree codec env raw events) :
    Taskfleet.recoverLastSeq
        (logLines (codec.events env) (some raw)) =
        recoverLastSeq codec env raw ∧
      ∀ kind key,
        (Taskfleet.findPriorWithKey (.ofName kind) key
            (logLines (codec.events env) (some raw))).map
          (fun found => found.map (fun prior =>
            (⟨prior.seq, prior.nodeId.map NodeId.val,
              prior.data⟩ : Physical.PriorEvent))) =
          findPriorWithKey codec kind key (some raw) := by
  rcases readAllEvents_eq_ok hRead with ⟨hFine, rfl⟩
  have hLines := lineReaders_of_accepted hFine
  simp only [logLines, Option.map_some, Option.getD_some]
  constructor
  · rw [hLines.1, hAgree.last]
  · intro kind key
    rw [hLines.2, hAgree.prior]
    simp only [Except.map, Option.map_map]
    rfl

end Physical

namespace Sample

def epochText : String := "1970-01-01T00:00:00Z"

def epochEnv : RunEnv :=
  { env with
    parseDateTime := fun s =>
      if s = epochText then some 0 else none }

/- The members of an event under a key, without a payload. -/
def noteMembers : List (String × Json) :=
  [("ts", .str epochText), ("seq", .int 1),
    ("kind", .str "note"), ("run_id", .str env.runId.val),
    ("idempotency_key", .str "k")]

def noteText : Bytes :=
  ascii
    ("\x7b\"ts\":\"1970-01-01T00:00:00Z\",\"seq\":1," ++
      "\"kind\":\"note\"," ++
      "\"run_id\":\"01jxsnap000000000000000000\"," ++
      "\"idempotency_key\":\"k\"\x7d")

def dataText : Bytes :=
  ascii
    ("\x7b\"ts\":\"1970-01-01T00:00:00Z\",\"seq\":1," ++
      "\"kind\":\"note\"," ++
      "\"run_id\":\"01jxsnap000000000000000000\"," ++
      "\"idempotency_key\":\"k\",\"data\":7\x7d")

def rowText : Bytes :=
  ascii
    ("[\"1970-01-01T00:00:00Z\",1,\"note\"," ++
      "\"01jxsnap000000000000000000\"]")

/- The values of the sample texts. -/
def texts : List (Bytes × Json) :=
  [(noteText, .obj noteMembers),
    (dataText, .obj (noteMembers ++ [("data", .int 7)])),
    (rowText,
      .arr [.str epochText, .int 1, .str "note",
        .str env.runId.val])]

def readerCodec : LineText where
  value := fun text =>
    Fallible.orError "expected value at line 1 column 1"
      (texts.lookup
        (text.rdropWhile (fun b => b == carriageReturn)))
  mismatch := fun _ => "invalid type"
  escapeLossy := textCodec.escapeLossy
  toVec := fun _ => dataText
  formatTs := fun _ => epochText

theorem readerCodec_spaced : readerCodec.Spaced := by
  constructor
  · intro text v hValue
    simpa [readerCodec, List.rdropWhile_concat_pos] using hValue
  · intro text v hValue
    simp only [readerCodec, orError_eq_ok] at hValue
    have hInked :
        ∀ entry ∈ texts, entry.1.any (fun b =>
          !Physical.isAsciiWhitespace b) = true := by
      decide +kernel
    rcases List.lookup_eq_some_iff.mp hValue with
      ⟨before, after, hTexts, _⟩
    have hMem :
        (text.rdropWhile (fun b => b == carriageReturn), v) ∈
          texts := by
      rw [hTexts]
      simp
    have hHere := hInked _ hMem
    rw [List.any_eq_true] at hHere ⊢
    rcases hHere with ⟨b, hMem, hByte⟩
    have hPrefix :=
      List.rdropWhile_prefix (fun b => b == carriageReturn)
        (l := text)
    exact ⟨b, hPrefix.subset hMem, hByte⟩

/- A log of one of the sample lines. -/
def logOf (text : Bytes) : Bytes := text ++ [newline]

def bareLog : Bytes := logOf noteText

def rowLog : Bytes := logOf rowText

/- A closed line, and the same line torn. -/
def tornLog : Bytes := logOf dataText ++ dataText

theorem dataLine :
    Physical.ObjectLine readerCodec dataText
      (noteMembers ++ [("data", .int 7)]) :=
  ⟨by decide +kernel, ok_of_toOption (by decide +kernel)⟩

theorem lines_tornLog :
    Physical.lines tornLog = [dataText] := by
  decide +kernel

theorem replayable_tornLog :
    Physical.Replayable readerCodec epochEnv
      (Physical.lines tornLog) := by
  rw [lines_tornLog]
  constructor
  · intro body hMem _
    rw [List.mem_singleton.mp hMem]
    exact ⟨_, dataLine⟩
  · intro before body after kvs ev key hBodies hObject _ _ _
    have hMem : body ∈ [dataText] := by
      rw [hBodies]
      simp
    rw [List.mem_singleton.mp hMem] at hObject
    have hSame := dataLine.2.symm.trans hObject.2
    cases hSame
    decide

end Sample

/- A closed line with a payload, and the same line torn. -/
theorem readersAgree_tornLog :
    ∃ events,
      Physical.readAllEvents
          (Sample.readerCodec.events Sample.epochEnv)
          (some Sample.tornLog) = .ok events ∧
        Physical.ReadersAgree Sample.readerCodec Sample.epochEnv
          Sample.tornLog events ∧
        Physical.CutAgrees Sample.readerCodec Sample.epochEnv
          Sample.tornLog events := by
  have hFine :
      ∀ body ∈ Physical.lines Sample.tornLog,
        Physical.isCorruptLine
          (Sample.readerCodec.events Sample.epochEnv) body =
            false := by
    rw [Sample.lines_tornLog]
    decide +kernel
  have hRead := Physical.readAllEvents_sound hFine
  have hAgree :=
    Physical.readersAgree_iff Sample.readerCodec Sample.epochEnv
      Sample.tornLog _ Sample.readerCodec_spaced hRead
  exact ⟨_, hRead, hAgree.mpr Sample.replayable_tornLog⟩

/-
  Two logs of one line that the reader of whole events takes.
  A keyed event without a payload is not found by its key,
  and an event spelled as an array has no sequence number.
-/
theorem readers_disagree :
    Sample.readerCodec.Spaced ∧
      (∃ events,
        Physical.readAllEvents
            (Sample.readerCodec.events Sample.epochEnv)
            (some Sample.bareLog) = .ok events ∧
          ∀ prior,
            Physical.findPriorWithKey Sample.readerCodec "note"
              "k" (some Sample.bareLog) ≠ .ok prior) ∧
      (∃ events,
        Physical.readAllEvents
            (Sample.readerCodec.events Sample.epochEnv)
            (some Sample.rowLog) = .ok events ∧
          ∀ seq,
            Physical.recoverLastSeq Sample.readerCodec
              Sample.epochEnv Sample.rowLog ≠ .ok seq) := by
  refine ⟨Sample.readerCodec_spaced, ?_, ?_⟩
  · have hLines :
        Physical.lines Sample.bareLog = [Sample.noteText] := by
      decide +kernel
    have hFine :
        ∀ body ∈ Physical.lines Sample.bareLog,
          Physical.isCorruptLine
            (Sample.readerCodec.events Sample.epochEnv) body =
              false := by
      rw [hLines]
      decide +kernel
    have hFails :
        (Physical.scanLines Sample.readerCodec "note" "k" 0 0
          [Sample.noteText]).isOk = false := by
      decide +kernel
    refine ⟨_, Physical.readAllEvents_sound hFine, ?_⟩
    intro prior hFound
    rw [Physical.findPriorWithKey_lines, hLines] at hFound
    rw [hFound] at hFails
    cases hFails
  · have hLines :
        Physical.lines Sample.rowLog = [Sample.rowText] := by
      decide +kernel
    have hFine :
        ∀ body ∈ Physical.lines Sample.rowLog,
          Physical.isCorruptLine
            (Sample.readerCodec.events Sample.epochEnv) body =
              false := by
      rw [hLines]
      decide +kernel
    have hFails :
        (Physical.recoverLines Sample.readerCodec
          Sample.epochEnv [Sample.rowText]).isOk = false := by
      decide +kernel
    refine ⟨_, Physical.readAllEvents_sound hFine, ?_⟩
    intro seq hFound
    rw [Physical.recoverLastSeq_lines, hLines,
      List.reverse_singleton] at hFound
    rw [hFound] at hFails
    cases hFails

end Taskfleet
