import Taskfleet.Reducer.Caller

/-
  The reducer arms of open questions and of resident
  workers, which report in rounds and are resumed.

  Main declarations:
    * `nodeAwaitingInputArm`, `nodeInputResolvedArm`
    * `nodeRoundReportedArm`, `nodeResumedArm`
    * `nodeRoundLandedArm`
    * `nodeResidentDormantArm`, `nodeResidentAttentionArm`
-/

------------------------------------------------------------
-- Open Questions
------------------------------------------------------------

namespace Taskfleet

open Fallible

namespace DiscussionItem

def maxItems : Nat := 8
def maxTopicChars : Nat := 512
def maxOptions : Nat := 16
def maxOptionChars : Nat := 256

/- One bounded, non-blank option text. -/
def validOption (v : Json) : Bool :=
  v.asStr.any (fun s =>
    !Text.isBlank s && s.toList.length ≤ maxOptionChars)

def validOptions (default : String) (item : Json) : Bool :=
  ((item.get "options").bind Json.asArray).any (fun values =>
    !values.isEmpty && values.length ≤ maxOptions &&
      values.all validOption &&
      values.any (fun v => v.asStr = some default))

/- A topic, options, and a default that is one of them. -/
def check (ev : Event) (index : Nat) (item : Json) :
    Except Error Unit :=
  match item with
  | .obj _ =>
      let topic := (item.getStr "topic").getD ""
      let default :=
        (item.getStr "recommended_default").getD ""
      refuseIf
        (Text.isBlank topic ∨
          topic.toList.length > maxTopicChars ∨
          Text.isBlank default ∨
          ¬ validOptions default item)
        (ev.corruptAt
          s!"discussion_items[{index}] requires bounded non-empty `topic`, 1..={maxOptions} bounded string `options`, and a `recommended_default` present in options")
  | _ =>
      .error (ev.corruptAt
        s!"discussion_items[{index}] must be an object")

end DiscussionItem

/- The items of a question, each checked at its position. -/
def Event.discussionItems (ev : Event) :
    Except Error (List Json) := do
  let items ←
    orError
      (ev.corruptAt
        s!"kind=node.awaiting_input requires 1..={DiscussionItem.maxItems} `discussion_items`")
      (((ev.data.get "discussion_items").bind
        Json.asArray).filter (fun items =>
          !items.isEmpty &&
            items.length ≤ DiscussionItem.maxItems))
  items.zipIdx.forM (fun entry =>
    DiscussionItem.check ev entry.2 entry.1)
  return items

/-
  A later question joins the open one without moving its
  clock or its sequence number.
-/
def nodeAwaitingInputStep (ev : Event) (items : List Json) :
    NodeStep :=
  fun n =>
    if n.status.isTerminal ∨ n.workerExit.isSome then
      .ok none
    else
      match n.awaitingInput with
      | some opened =>
          if opened.discussionItems.length + items.length >
              DiscussionItem.maxItems then
            .error (ev.corruptAt
              s!"would exceed {DiscussionItem.maxItems} open discussion items")
          else
            .ok (some { n with
              awaitingInput := some { opened with
                discussionItems :=
                  opened.discussionItems ++ items }
              updatedAt := ev.ts })
      | none =>
          .ok (some { n with
            awaitingInput := some ⟨ev.ts, ev.seq, items⟩
            updatedAt := ev.ts })

def nodeAwaitingInputArm (ev : Event) :
    Except Error NodeStep := do
  let items ← ev.discussionItems
  return nodeAwaitingInputStep ev items

/- The resolution names the question the worker observed. -/
def nodeInputResolvedArm (ev : Event) :
    Except Error NodeStep := do
  let seq ←
    orError
      (ev.corruptAt
        "kind=node.input_resolved requires unsigned `event_seq`")
      ((ev.data.get "event_seq").bind Json.asU64)
  return fun n =>
    if n.awaitingInput.map AwaitingInput.eventSeq =
        some seq then
      .ok (some { n with
        awaitingInput := none
        updatedAt := ev.ts })
    else .ok none

------------------------------------------------------------
-- Rounds
------------------------------------------------------------

/- Resident events need a resident run. -/
def requireResident
    (env : RunEnv) (d : Disk) (ev : Event) :
    Except Error ResidentPolicy := do
  orError (ev.corrupt "requires a resident run")
    ((← readManifestOpt env d).bind Manifest.resident)

def maxRoundSummaryBytes : Nat := 16 * 1024

namespace Node

/- The resident state, created on first use. -/
def residentState (n : Node) : ResidentState :=
  n.resident.getD .initial

end Node

namespace ResidentState

/- The next round, opened by a report. -/
def openNext
    (s : ResidentState)
    (ev : Event)
    (attempt : Nat)
    (summary : String) : ResidentState :=
  let round := min (s.roundsReported + 1) (2 ^ 32 - 1)
  { s with
    roundsReported := round
    lastRound := some {
      round := round
      attempt := attempt
      reportedAt := ev.ts
      eventSeq := ev.seq
      summary := summary
      closedAt := none
      closedBy := none }
    expiryAttentionAt := none }

/-
  A report of the same attempt amends the open round; any
  other opens the next one.
-/
def report
    (s : ResidentState)
    (ev : Event)
    (attempt : Nat)
    (summary : String) : ResidentState :=
  match s.lastRound with
  | some r =>
      if r.closedAt = none ∧ r.attempt = attempt then
        { s with
          lastRound := some { r with
            summary := summary
            reportedAt := ev.ts
            eventSeq := ev.seq } }
      else s.openNext ev attempt summary
  | none => s.openNext ev attempt summary

/- A message closes the open round. -/
def resume
    (s : ResidentState)
    (ev : Event)
    (messageId : String) : ResidentState :=
  { s with
    lastRound :=
      s.lastRound.map (fun r =>
        if r.closedAt = none then
          { r with
            closedAt := some ev.ts
            closedBy := some messageId }
        else r)
    dormantSince := none
    expiryAttentionAt := none }

end ResidentState

def nodeRoundReportedArm
    (env : RunEnv) (d : Disk) (ev : Event) :
    Except Error NodeStep := do
  let summary ←
    orError
      (ev.corrupt
        s!"requires a non-blank `summary` of at most {maxRoundSummaryBytes} bytes")
      ((ev.data.getStr "summary").filter (fun s =>
        !Text.isBlank s &&
          s.utf8ByteSize ≤ maxRoundSummaryBytes &&
          !s.toList.contains '\x00'))
  let attempt ← ev.evidenceAttempt
  let _ ← requireResident env d ev
  return fun n =>
    if n.status.isTerminal ∨ attempt ≠ n.retryAttempts then
      .ok none
    else
      .ok (some { n with
        resident :=
          some (n.residentState.report ev attempt summary)
        awaitingInput := none
        updatedAt := ev.ts })

/- The node of a worker resumed under a later attempt. -/
def nodeResumedStep
    (env : RunEnv)
    (ev : Event)
    (attempt : Nat)
    (messageId : String)
    (evidence : Option WorkerEvidence)
    (claudeSessionId : Option String) : NodeStep :=
  fun n =>
    if n.status.isTerminal ∨ attempt ≤ n.retryAttempts then
      .ok none
    else do
      let agentPid ← ev.optionalI32 "agent_pid"
      let agentPidStartTime ←
        ev.optionalTs env "agent_pid_start_time"
      return some { n with
        baseSha := (ev.nonemptyStr "base_sha").or n.baseSha
        tmuxWindow :=
          (ev.data.getStr "tmux_window").or n.tmuxWindow
        tmuxIdentity :=
          ev.tmuxIdentityFromData.or n.tmuxIdentity
        evidence := evidence
        claudeSessionId := claudeSessionId
        agentPid := agentPid
        agentPidStartTime := agentPidStartTime
        agentPidStartIdentity := ev.startIdentityFromData
        status := .pending
        startedAt := some ev.ts
        updatedAt := ev.ts
        workerExit := none
        firstDeathAt := none
        awaitingInput := none
        pendingMerge := none
        retainedDisplay := none
        retentionUnavailable := none
        retryAttempts := attempt
        resident :=
          some (n.residentState.resume ev messageId) }

def nodeResumedArm
    (env : RunEnv) (d : Disk) (ev : Event) :
    Except Error NodeStep := do
  let attempt ← ev.evidenceAttempt
  let messageId ← ev.wantStr "message_id"
  let evidence ← ev.workerEvidenceFromSpawnData
  let claudeSessionId ← ev.claudeSessionFromData
  let _ ← requireResident env d ev
  return nodeResumedStep env ev attempt messageId evidence
    claudeSessionId

/- A full object name in hexadecimal. -/
def isFullOid (s : String) : Bool :=
  s.utf8ByteSize ≥ 40 && s.toList.all Text.isHex

/- Landing clears its own transaction and moves the fork. -/
def nodeRoundLandedArm
    (env : RunEnv) (d : Disk) (ev : Event) :
    Except Error NodeStep := do
  let opId ← ev.wantStr "op_id"
  let sourceBranch ← ev.wantStr "source_branch"
  let integratedOid ← ev.wantStr "integrated_oid"
  refuseIf (¬ isFullOid integratedOid)
    (ev.corrupt "requires a full hex `integrated_oid`")
  let _ ← requireResident env d ev
  return fun n =>
    if n.status.isTerminal then .ok none
    else
      let state := n.residentState
      .ok (some { n with
        pendingMerge :=
          if n.pendingMerge.any (fun txn =>
              txn.landing ∧ txn.opId = opId) then none
          else n.pendingMerge
        baseSha := some integratedOid
        resident := some { state with
          lastLanding := some {
            landedAt := ev.ts
            sourceBranch := sourceBranch
            integratedOid := integratedOid
            round :=
              (state.lastRound.map RoundReport.round).getD 0 }
          expiryAttentionAt := none }
        updatedAt := ev.ts })

/- Idle expiry removed the worktree of an open round. -/
def nodeResidentDormantArm
    (env : RunEnv) (d : Disk) (ev : Event) :
    Except Error NodeStep := do
  let _ ← requireResident env d ev
  return fun n =>
    let state := n.residentState
    if n.status.isTerminal then .ok none
    else if state.openRound = none ∨
        state.dormantSince.isSome then
      .ok none
    else
      .ok (some { n with
        resident := some { state with
          dormantSince := some ev.ts
          expiryAttentionAt := none }
        updatedAt := ev.ts })

/- Idle expiry found unlanded work, once per open round. -/
def nodeResidentAttentionArm
    (env : RunEnv) (d : Disk) (ev : Event) :
    Except Error NodeStep := do
  let _ ← ev.wantStr "reason"
  let _ ← requireResident env d ev
  return fun n =>
    let state := n.residentState
    if n.status.isTerminal then .ok none
    else if state.openRound = none ∨
        state.expiryAttentionAt.isSome then
      .ok none
    else
      .ok (some { n with
        resident := some { state with
          expiryAttentionAt := some ev.ts }
        updatedAt := ev.ts })

end Taskfleet
