import Taskfleet.Physical
import Taskfleet.Ledger

/-
  The idempotency lookup over the bytes of the log. A probe
  of three fields tests every line; only the line that
  matches is read in full.

  The JSON library reads a line into a value and renders an
  event as one line; both are fields of `LineText`. What the
  derived decoders make of a value is part of the model. A
  line whose payload the library skips and cannot keep, being
  nested too deep, has no one value and is left out here.

  Main declarations:
    * `Event.ofJson`, `Event.toJson`
    * `ProbeFields`, `FullEventForReplay`
    * `Physical.findPriorWithKey`
    * `Physical.findPriorWithKey_eq`
    * `Physical.logText_written`
-/

------------------------------------------------------------
-- Envelopes as Values
------------------------------------------------------------

namespace Taskfleet

namespace EventKind

/- The kinds the reducer knows. -/
def known : List EventKind :=
  [.runCreated, .runStatus, .nodeCreated, .nodeStatus,
    .nodeReport, .nodeRetry, .callerPiSessionBound,
    .callerPiLifecycle, .callerSettlementIntent,
    .workerExited, .workerEvidenceArchived,
    .workerEvidenceFailed, .workerDisplayRetained,
    .workerDisplayExpired, .workerDisplayUnavailable,
    .nodeDeathObserved, .nodeAwaitingInput,
    .nodeInputResolved, .nodeRoundReported, .nodeResumed,
    .nodeRoundLanded, .nodeResidentDormant,
    .nodeResidentAttention, .mergeStarted, .mergeAborted,
    .childSpawned, .supervisorAttached,
    .supervisorCursorAdvanced]

/- A kind is its text; the ones unknown stay text. -/
def ofName (text : String) : EventKind :=
  (known.find? (fun k => k.name == text)).getD (.other text)

@[simp] theorem name_ofName (text : String) :
    (ofName text).name = text := by
  unfold ofName
  cases hFound : known.find? (fun k => k.name == text) with
  | none => rfl
  | some k => simpa using List.find?_some hFound

/- Kinds that were read are told apart by their texts. -/
theorem ofName_inj {a b : String} :
    ofName a = ofName b ↔ a = b := by
  constructor
  · intro hSame
    have hNames := congrArg name hSame
    simpa using hNames
  · intro hSame
    rw [hSame]

end EventKind

namespace Event

/- `serde_json::from_slice::<Event>`, past the text. -/
def ofJson (env : RunEnv) (v : Json) : Option Event := do
  let f ← v.fields 7
  return {
    ts := ← f.required "ts" 0 (fun v =>
      v.asStr.bind env.parseDateTime)
    seq := ← f.required "seq" 1 Json.asU64
    kind := ← f.required "kind" 2 (fun v =>
      v.asStr.map EventKind.ofName)
    runId := ← f.required "run_id" 3 Json.asRunId
    nodeId :=
      ← f.defaulted "node_id" 4 none (Json.option Json.asNodeId)
    idempotencyKey :=
      ← f.defaulted "idempotency_key" 5 none
        (Json.option Json.asStr)
    data := ← f.defaulted "data" 6 .null some }

/- The members of a written event: absent ones are left out. -/
def members (formatTs : Time → String) (ev : Event) :
    List (String × Json) :=
  [("data", ev.data)] ++
    (ev.idempotencyKey.map (fun key =>
      ("idempotency_key", Json.str key))).toList ++
    [("kind", .str ev.kind.name)] ++
    (ev.nodeId.map (fun id =>
      ("node_id", Json.str id.val))).toList ++
    [("run_id", .str ev.runId.val), ("seq", .int ev.seq),
      ("ts", .str (formatTs ev.ts))]

/- The value of a written event. -/
def toJson (formatTs : Time → String) (ev : Event) : Json :=
  .obj (ev.members formatTs)

end Event

/- The fields skimmed from every line. -/
structure ProbeFields where
  seq : Option Nat
  kind : String
  idempotencyKey : Option String
deriving DecidableEq, Repr

def ProbeFields.ofJson (v : Json) : Option ProbeFields := do
  let f ← v.fields 3
  return {
    seq := ← f.defaulted "seq" 0 none (Json.option Json.asU64)
    kind := ← f.required "kind" 1 Json.asStr
    idempotencyKey :=
      ← f.optional "idempotency_key" 2 Json.asStr }

/- The fields read from the one line that matches. -/
structure FullEventForReplay where
  seq : Nat
  nodeId : Option String
  data : Json
deriving DecidableEq, Repr

def FullEventForReplay.ofJson (v : Json) :
    Option FullEventForReplay := do
  let f ← v.fields 3
  return {
    seq := ← f.required "seq" 0 Json.asU64
    nodeId := ← f.optional "node_id" 1 Json.asStr
    data := ← f.required "data" 2 some }

------------------------------------------------------------
-- The Scan
------------------------------------------------------------

/-
  The JSON library on lines: the value of a text, its words
  for a text of another shape, and the text of an event with
  the timestamps in it.
-/
structure LineText where
  value : Bytes → Except String Json
  mismatch : Bytes → String
  escapeLossy : Bytes → String
  toVec : Event → Bytes
  formatTs : Time → String

namespace LineText

/- Read a text into a record by its derived decoder. -/
def fromSlice
    {α : Type}
    (codec : LineText)
    (ofJson : Json → Option α)
    (text : Bytes) : Except String α := do
  Fallible.orError (codec.mismatch text)
    (ofJson (← codec.value text))

def excerpt (codec : LineText) (line : Bytes) : String :=
  codec.escapeLossy (line.take corruptLineExcerptBytes) ++
    (if line.length > corruptLineExcerptBytes then "…" else "")

end LineText

namespace Physical

/- A prior event as the scan returns it. -/
structure PriorEvent where
  seq : Nat
  nodeId : Option String
  data : Json
deriving DecidableEq, Repr

def notAnEnvelope
    (codec : LineText)
    (line : PhysicalLine)
    (lastGoodSeq : Nat)
    (e : String) : Error :=
  .corruptEventLog .events
    ("line " ++ toString line.lineno ++
      " is not a valid event envelope (last good seq " ++
      toString lastGoodSeq ++ "): " ++
      codec.excerpt line.content ++ " [" ++ e ++ "]")

def notReplayable
    (codec : LineText)
    (line : PhysicalLine)
    (e : String) : Error :=
  .corruptEventLog .events
    ("line " ++ toString line.lineno ++
      " matched idempotency key but is not a replayable event: "
      ++ codec.excerpt line.content ++ " [" ++ e ++ "]")

/-
  Scan the complete lines for the first event with a kind and
  a key. A final line without newline is never parsed.
-/
def scanForKey
    (codec : LineText)
    (kind key : String)
    (reader : PhysicalLineReader)
    (lastGoodSeq : Nat) : Except Error (Option PriorEvent) :=
  match _hNext : reader.nextLine with
  | none => .ok none
  | some (line, reader') =>
      if !line.complete then .ok none
      else if line.content.isEmpty then
        scanForKey codec kind key reader' lastGoodSeq
      else
        match codec.fromSlice ProbeFields.ofJson line.content with
        | .error e =>
            .error (notAnEnvelope codec line lastGoodSeq e)
        | .ok probe =>
            if probe.kind ≠ kind ∨
                probe.idempotencyKey ≠ some key then
              scanForKey codec kind key reader'
                (probe.seq.getD lastGoodSeq)
            else
              match codec.fromSlice FullEventForReplay.ofJson
                  line.content with
              | .error e => .error (notReplayable codec line e)
              | .ok full =>
                  .ok (some ⟨full.seq, full.nodeId, full.data⟩)
termination_by reader.rest.length
decreasing_by
  all_goals exact PhysicalLineReader.nextLine_lt _hNext

/- A missing log holds no prior event. -/
def findPriorWithKey
    (codec : LineText)
    (kind key : String) :
    Option Bytes → Except Error (Option PriorEvent)
| none => .ok none
| some bytes => scanForKey codec kind key (.new bytes) 0

end Physical

------------------------------------------------------------
-- The Probe against the Full Decoder
------------------------------------------------------------

/- The prior event an event of the log is. -/
def Event.prior (ev : Event) : Physical.PriorEvent where
  seq := ev.seq
  nodeId := ev.nodeId.map NodeId.val
  data := ev.data

section Decoders

variable {env : RunEnv} {kvs : List (String × Json)}
variable {ev : Event}

theorem asStr_of_asNodeId
    {v : Json} {id : NodeId} (hRead : v.asNodeId = some id) :
    v.asStr = some id.val := by
  unfold Json.asNodeId at hRead
  rw [Option.bind_eq_some_iff] at hRead
  rcases hRead with ⟨text, hText, hParse⟩
  rw [hText]
  unfold NodeId.parseStr at hParse
  split at hParse
  · cases hParse
    rfl
  · split at hParse <;> cases hParse

/- A node that was validated is the text it was read from. -/
theorem option_asStr_of_asNodeId
    {v : Json} {found : Option NodeId}
    (hRead : Json.option Json.asNodeId v = some found) :
    Json.option Json.asStr v =
      some (found.map NodeId.val) := by
  cases v with
  | null =>
      cases hRead
      rfl
  | _ =>
      simp only [Json.option, Option.map_eq_some_iff] at hRead
      rcases hRead with ⟨id, hId, rfl⟩
      simp [Json.option, asStr_of_asNodeId hId]

/- What the full decoder tells about the fields it read. -/
structure Event.Envelope
    (kvs : List (String × Json))
    (ev : Event) : Prop where
  seq : (kvs.lookup "seq").bind Json.asU64 = some ev.seq
  kind : (kvs.lookup "kind").bind Json.asStr =
    some ev.kind.name
  read : ev.kind = .ofName ev.kind.name
  nodeId :
    (Json.Fields.named kvs).optional "node_id" 1 Json.asStr =
      some (ev.nodeId.map NodeId.val)
  key :
    (Json.Fields.named kvs).optional "idempotency_key" 2
        Json.asStr =
      some ev.idempotencyKey
  data : ∀ v, kvs.lookup "data" = some v → ev.data = v

theorem Event.envelope_of_ofJson
    (hRead : Event.ofJson env (.obj kvs) = some ev) :
    Event.Envelope kvs ev := by
  simp only [Event.ofJson, Json.fields, Option.bind_eq_bind,
    Option.bind_some, Option.pure_def,
    Option.bind_eq_some_iff, Option.some.injEq,
    Json.Fields.required, Json.Fields.raw] at hRead
  rcases hRead with
    ⟨ts, _, seq, ⟨v₁, hSeq, hSeqRead⟩, kind,
      ⟨v₂, hKind, hKindRead⟩, runId, _, nodeId, hNode, key,
      hKey, data, hData, rfl⟩
  rw [Option.map_eq_some_iff] at hKindRead
  rcases hKindRead with ⟨text, hText, rfl⟩
  constructor
  · simp [hSeq, hSeqRead]
  · simp [hKind, hText]
  · simp
  · simp only [Json.Fields.defaulted, Json.Fields.raw] at hNode
    simp only [Json.Fields.optional, Json.Fields.raw]
    cases hFound : kvs.lookup "node_id" with
    | none =>
        rw [hFound] at hNode
        cases hNode
        rfl
    | some v =>
        rw [hFound] at hNode
        exact option_asStr_of_asNodeId hNode
  · simp only [Json.Fields.defaulted, Json.Fields.raw] at hKey
    simp only [Json.Fields.optional, Json.Fields.raw]
    cases hFound : kvs.lookup "idempotency_key" with
    | none =>
        rw [hFound] at hKey
        cases hKey
        rfl
    | some v =>
        rw [hFound] at hKey
        exact hKey
  · intro v hFound
    simp only [Json.Fields.defaulted, Json.Fields.raw,
      hFound] at hData
    cases hData
    rfl

/- The probe reads what the full decoder reads. -/
theorem probe_of_envelope
    (hEnvelope : Event.Envelope kvs ev) :
    ProbeFields.ofJson (.obj kvs) =
      some ⟨some ev.seq, ev.kind.name, ev.idempotencyKey⟩ := by
  have hSeq := hEnvelope.seq
  rw [Option.bind_eq_some_iff] at hSeq
  rcases hSeq with ⟨v, hFound, hRead⟩
  have hOption : Json.option Json.asU64 v =
      some (some ev.seq) := by
    cases v with
    | null => cases hRead
    | _ => simp [Json.option, hRead]
  simp [ProbeFields.ofJson, Json.fields,
    Json.Fields.required, Json.Fields.defaulted,
    Json.Fields.raw, hFound, hOption, hEnvelope.kind,
    hEnvelope.key]

/- A line with a payload replays as its event. -/
theorem replay_of_envelope
    (hEnvelope : Event.Envelope kvs ev)
    (hData : kvs.lookup "data" ≠ none) :
    FullEventForReplay.ofJson (.obj kvs) =
      some ⟨ev.seq, ev.nodeId.map NodeId.val, ev.data⟩ := by
  rcases Option.ne_none_iff_exists'.mp hData with ⟨v, hFound⟩
  simp [FullEventForReplay.ofJson, Json.fields,
    Json.Fields.required, Json.Fields.raw,
    hEnvelope.seq, hEnvelope.nodeId, hFound,
    hEnvelope.data v hFound]

end Decoders

------------------------------------------------------------
-- Logs of Event Lines
------------------------------------------------------------

namespace Physical

/-
  The body of a complete line is the text of an object that
  the full decoder reads as an event and that has a payload.
-/
def ReadsAs
    (codec : LineText)
    (env : RunEnv)
    (body : Bytes)
    (ev : Event) : Prop :=
  lineContent body ≠ [] ∧
    ∃ kvs, codec.value (lineContent body) = .ok (.obj kvs) ∧
      Event.ofJson env (.obj kvs) = some ev ∧
      kvs.lookup "data" ≠ none

/- The bytes of a log whose full parse is a list of events. -/
structure LogText
    (codec : LineText)
    (env : RunEnv)
    (raw : Bytes)
    (events : List Event) : Prop where
  lines : List.Forall₂ (ReadsAs codec env) (lines raw) events

section Scan

variable {codec : LineText} {env : RunEnv}
variable {kind key : String}

theorem scanForKey_torn
    {torn : Bytes}
    (hTorn : newline ∉ torn)
    (lineno lastGoodSeq : Nat) :
    scanForKey codec kind key ⟨torn, lineno, false⟩
        lastGoodSeq =
      .ok none := by
  rw [scanForKey]
  split
  · rfl
  · rename_i line reader hNext
    simp [nextLine_torn hTorn lineno hNext]

/- One line of the scan: the event matches, or is passed. -/
theorem scanForKey_line
    {body : Bytes} {ev : Event}
    (hBody : newline ∉ body)
    (hReads : ReadsAs codec env body ev)
    (text : Bytes)
    (lineno lastGoodSeq : Nat) :
    scanForKey codec kind key
        ⟨body ++ newline :: text, lineno, false⟩ lastGoodSeq =
      if keyedAs (.ofName kind) key ev then .ok (some ev.prior)
      else
        scanForKey codec kind key ⟨text, lineno + 1, false⟩
          ev.seq := by
  rcases hReads with ⟨hContent, kvs, hValue, hRead, hData⟩
  have hEnvelope := Event.envelope_of_ofJson hRead
  have hProbe :
      codec.fromSlice ProbeFields.ofJson (lineContent body) =
        .ok ⟨some ev.seq, ev.kind.name, ev.idempotencyKey⟩ := by
    simp [LineText.fromSlice, hValue,
      probe_of_envelope hEnvelope]
  have hFull :
      codec.fromSlice FullEventForReplay.ofJson
          (lineContent body) =
        .ok ⟨ev.seq, ev.nodeId.map NodeId.val, ev.data⟩ := by
    simp [LineText.fromSlice, hValue,
      replay_of_envelope hEnvelope hData]
  have hMatch :
      keyedAs (.ofName kind) key ev = true ↔
        ev.kind.name = kind ∧ ev.idempotencyKey = some key := by
    rw [keyedAs_iff, hEnvelope.read, EventKind.ofName_inj]
    simp
  rw [scanForKey]
  split
  · rename_i hNext
    simp [nextLine_line hBody] at hNext
  · rename_i line reader hNext
    simp only [nextLine_line hBody, Option.some.injEq,
      Prod.mk.injEq] at hNext
    rcases hNext with ⟨rfl, rfl⟩
    by_cases hKeyed : keyedAs (.ofName kind) key ev = true
    · rcases hMatch.mp hKeyed with ⟨hKind, hKey⟩
      simp [hContent, hProbe, hFull, hKeyed, hKind, hKey,
        Event.prior]
    · have hPassed :
          ev.kind.name ≠ kind ∨
            ev.idempotencyKey ≠ some key := by
        rw [← not_and_or]
        exact fun hBoth => hKeyed (hMatch.mpr hBoth)
      simp [hContent, hProbe, hKeyed, hPassed]

theorem scanForKey_eq
    {bodies : List Bytes} {torn : Bytes} {events : List Event}
    (hFiled : Lines.Filed newline bodies torn)
    (hLines : List.Forall₂ (ReadsAs codec env) bodies events)
    (lineno lastGoodSeq : Nat) :
    scanForKey codec kind key
        ⟨Lines.join newline bodies ++ torn, lineno, false⟩
        lastGoodSeq =
      .ok ((events.find? (keyedAs (.ofName kind) key)).map
        Event.prior) := by
  induction hLines generalizing lineno lastGoodSeq with
  | nil =>
      simpa using
        scanForKey_torn hFiled.torn lineno lastGoodSeq
  | @cons body ev rest events hReads _ ih =>
      rw [Lines.join_cons_append,
        scanForKey_line hFiled.head hReads]
      by_cases hKeyed : keyedAs (.ofName kind) key ev = true
      · simp [hKeyed]
      · simp [hKeyed, ih hFiled.tail]

/-
  The scan of the bytes finds the first event of the full
  parse with the kind and the key.
-/
theorem findPriorWithKey_eq
    {raw : Bytes} {events : List Event}
    (hText : LogText codec env raw events)
    (kind key : String) :
    findPriorWithKey codec kind key (some raw) =
      .ok ((events.find? (keyedAs (.ofName kind) key)).map
        Event.prior) := by
  have hScan :
      scanForKey codec kind key
          ⟨Lines.join newline (lines raw) ++ tornTail raw, 0,
            false⟩ 0 = _ :=
    scanForKey_eq (filed_lines raw) hText.lines 0 0
  rw [join_lines] at hScan
  exact hScan

end Scan

------------------------------------------------------------
-- Written Lines
------------------------------------------------------------

/- The kind of an event is the one its text is read as. -/
def ProperKind (ev : Event) : Prop :=
  ev.kind = .ofName ev.kind.name

/-
  The library on one event: its text is one line that has
  the value of the event, with a timestamp that is read back.
-/
structure Renders
    (codec : LineText)
    (env : RunEnv)
    (ev : Event) : Prop where
  value :
    codec.value (codec.toVec ev) =
      .ok (ev.toJson codec.formatTs)
  ts : env.parseDateTime (codec.formatTs ev.ts) = some ev.ts
  oneLine : newline ∉ codec.toVec ev
  closed : (codec.toVec ev).getLast? ≠ some carriageReturn
  nonempty : codec.toVec ev ≠ []

theorem asRunId_str (id : RunId) :
    (Json.str id.val).asRunId = some id := by
  simp [Json.asRunId, Json.asStr, RunId.parseStr, id.valid,
    Except.toOption]

theorem asNodeId_str (id : NodeId) :
    (Json.str id.val).asNodeId = some id := by
  simp [Json.asNodeId, Json.asStr, NodeId.parseStr, id.valid,
    Except.toOption]

section Members

variable (formatTs : Time → String) (ev : Event)

theorem lookup_data :
    (ev.members formatTs).lookup "data" = some ev.data := by
  simp [Event.members]

theorem lookup_key :
    (ev.members formatTs).lookup "idempotency_key" =
      ev.idempotencyKey.map Json.str := by
  cases hKey : ev.idempotencyKey <;> cases hNode : ev.nodeId <;>
    simp [Event.members, List.lookup_cons, hKey, hNode]

theorem lookup_kind :
    (ev.members formatTs).lookup "kind" =
      some (.str ev.kind.name) := by
  cases hKey : ev.idempotencyKey <;>
    simp [Event.members, List.lookup_cons, hKey]

theorem lookup_node :
    (ev.members formatTs).lookup "node_id" =
      ev.nodeId.map (fun id => Json.str id.val) := by
  cases hKey : ev.idempotencyKey <;> cases hNode : ev.nodeId <;>
    simp [Event.members, List.lookup_cons, hKey, hNode]

theorem lookup_run :
    (ev.members formatTs).lookup "run_id" =
      some (.str ev.runId.val) := by
  cases hKey : ev.idempotencyKey <;> cases hNode : ev.nodeId <;>
    simp [Event.members, List.lookup_cons, hKey, hNode]

theorem lookup_seq :
    (ev.members formatTs).lookup "seq" =
      some (.int ev.seq) := by
  cases hKey : ev.idempotencyKey <;> cases hNode : ev.nodeId <;>
    simp [Event.members, List.lookup_cons, hKey, hNode]

theorem lookup_ts :
    (ev.members formatTs).lookup "ts" =
      some (.str (formatTs ev.ts)) := by
  cases hKey : ev.idempotencyKey <;> cases hNode : ev.nodeId <;>
    simp [Event.members, List.lookup_cons, hKey, hNode]

theorem defaulted_key :
    (Json.Fields.named (ev.members formatTs)).defaulted
        "idempotency_key" 5 none (Json.option Json.asStr) =
      some ev.idempotencyKey := by
  rw [Json.Fields.defaulted, Json.Fields.raw, lookup_key]
  cases ev.idempotencyKey with
  | none => rfl
  | some key => simp [Json.option, Json.asStr]

theorem defaulted_node :
    (Json.Fields.named (ev.members formatTs)).defaulted
        "node_id" 4 none (Json.option Json.asNodeId) =
      some ev.nodeId := by
  rw [Json.Fields.defaulted, Json.Fields.raw, lookup_node]
  cases ev.nodeId with
  | none => rfl
  | some id => simp [Json.option, asNodeId_str]

theorem defaulted_data :
    (Json.Fields.named (ev.members formatTs)).defaulted
        "data" 6 .null some =
      some ev.data := by
  rw [Json.Fields.defaulted, Json.Fields.raw, lookup_data]

theorem required_kind :
    (Json.Fields.named (ev.members formatTs)).required "kind" 2
        (fun v => v.asStr.map EventKind.ofName) =
      some (EventKind.ofName ev.kind.name) := by
  rw [Json.Fields.required, Json.Fields.raw, lookup_kind,
    Option.bind_some, Json.asStr, Option.map_some]

theorem required_run :
    (Json.Fields.named (ev.members formatTs)).required
        "run_id" 3 Json.asRunId =
      some ev.runId := by
  rw [Json.Fields.required, Json.Fields.raw, lookup_run,
    Option.bind_some, asRunId_str]

theorem required_seq (hSeq : ev.seq < 2 ^ 64) :
    (Json.Fields.named (ev.members formatTs)).required "seq" 1
        Json.asU64 =
      some ev.seq := by
  rw [Json.Fields.required, Json.Fields.raw, lookup_seq,
    Option.bind_some, Json.asU64_natCast hSeq]

theorem required_ts (parse : String → Option Time) :
    (Json.Fields.named (ev.members formatTs)).required "ts" 0
        (fun v => v.asStr.bind parse) =
      parse (formatTs ev.ts) := by
  rw [Json.Fields.required, Json.Fields.raw, lookup_ts,
    Option.bind_some, Json.asStr, Option.bind_some]

end Members

/- What is written reads back as the event. -/
theorem ofJson_toJson
    {env : RunEnv} {formatTs : Time → String} {ev : Event}
    (hTs : env.parseDateTime (formatTs ev.ts) = some ev.ts)
    (hKind : ProperKind ev)
    (hSeq : ev.seq < 2 ^ 64) :
    Event.ofJson env (ev.toJson formatTs) = some ev := by
  have hFields :
      (ev.toJson formatTs).fields 7 =
        some (.named (ev.members formatTs)) := rfl
  unfold Event.ofJson
  rw [hFields, Option.bind_eq_bind, Option.bind_some,
    required_ts, hTs, required_seq formatTs ev hSeq,
    required_kind, required_run, defaulted_node,
    defaulted_key, defaulted_data]
  unfold ProperKind at hKind
  rw [← hKind]
  rfl

theorem readsAs_written
    {codec : LineText} {env : RunEnv} {ev : Event}
    (hRenders : Renders codec env ev)
    (hKind : ProperKind ev)
    (hSeq : ev.seq < 2 ^ 64) :
    ReadsAs codec env (codec.toVec ev) ev := by
  have hContent : lineContent (codec.toVec ev) =
      codec.toVec ev := by
    simp [lineContent, hRenders.closed]
  unfold ReadsAs
  rw [hContent]
  apply And.intro hRenders.nonempty
  refine ⟨_, hRenders.value,
    ofJson_toJson hRenders.ts hKind hSeq, ?_⟩
  simp [lookup_data]

/- The log of a gate that wrote each event as one line. -/
theorem logText_written
    {codec : LineText} {env : RunEnv}
    {events : List Event} {torn : Bytes}
    (hTorn : newline ∉ torn)
    (hRenders : ∀ ev ∈ events, Renders codec env ev)
    (hKinds : ∀ ev ∈ events, ProperKind ev)
    (hSeqs : ∀ ev ∈ events, ev.seq < 2 ^ 64) :
    LogText codec env
      (Lines.join newline (events.map codec.toVec) ++ torn)
      events := by
  have hFiled :
      Lines.Filed newline (events.map codec.toVec) torn := by
    constructor
    · intro body hMem
      rcases List.mem_map.mp hMem with ⟨ev, hIn, rfl⟩
      exact (hRenders ev hIn).oneLine
    · exact hTorn
  constructor
  unfold lines
  rw [Lines.split_join hFiled, List.forall₂_map_left_iff,
    List.forall₂_same]
  intro ev hIn
  exact readsAs_written (hRenders ev hIn) (hKinds ev hIn)
    (hSeqs ev hIn)

end Physical

end Taskfleet
