import Taskfleet.Reducer.Rewrites

/-
  The rounds of a resident worker.

  A report of the attempt that reported the open round
  amends it; any other report opens the next round, so an
  attempt that a retry started does not answer for the round
  of its predecessor. Rounds are numbered in order, are
  closed by a message alone, and a landing is recorded under
  the number of the round it finds.

  Main declarations:
    * `RoundsAgree`, `Event.MovesRounds`, `RoundMove`
    * `roundMove_of_accepts`
    * `rounds_of_acceptedRun`
    * `retry_leaves_round_open`
-/

------------------------------------------------------------
-- One Event
------------------------------------------------------------

namespace Taskfleet

open Fallible

/- The largest round number. -/
def maxRound : Nat := 2 ^ 32 - 1

/- The counter and the last round tell the same number. -/
structure RoundsAgree (s : ResidentState) : Prop where
  last : ∀ r, s.lastRound = some r →
    r.round = s.roundsReported
  none : s.lastRound = none → s.roundsReported = 0
  bounded : s.roundsReported ≤ maxRound

/- A report joins the open round of its own attempt. -/
def RoundReport.Joins (r : RoundReport) (attempt : Nat) :
    Prop :=
  r.closedAt = none ∧ r.attempt = attempt

/- A report of the attempt that the node is in. -/
def Event.ReportsRound (ev : Event) (n : Node) : Prop :=
  ev.kind = .nodeRoundReported ∧
    ev.evidenceAttempt = .ok n.retryAttempts

/- A resume under a later attempt than the node is in. -/
def Event.ResumesRound (ev : Event) (n : Node) : Prop :=
  ev.kind = .nodeResumed ∧
    ∃ attempt, ev.evidenceAttempt = .ok attempt ∧
      n.retryAttempts < attempt

/- The events that move the rounds of a live node. -/
structure Event.MovesRounds
    (ev : Event) (id : NodeId) (n : Node) : Prop where
  node : ev.nodeId = some id
  live : n.status.isTerminal = false
  moves : ev.ReportsRound n ∨ ev.ResumesRound n ∨
    ev.kind = .nodeRoundLanded

/-
  Every way an accepted event moves the rounds of a node.
  Each event that moves them does what its kind says, and
  no other event moves them.
-/
inductive RoundMove
    (ev : Event) (id : NodeId) (n : Node)
    (s' : ResidentState) : Prop where
| kept
    (hOther : ¬ ev.MovesRounds id n)
    (hRounds : s'.roundsReported =
      n.residentState.roundsReported)
    (hLast : s'.lastRound = n.residentState.lastRound)
    (hLanding : s'.lastLanding = n.residentState.lastLanding)
| amended (r : RoundReport) (summary : String)
    (hReports : ev.ReportsRound n)
    (hSummary : ev.data.getStr "summary" = some summary)
    (hWas : n.residentState.lastRound = some r)
    (hJoins : r.Joins n.retryAttempts)
    (hRounds : s'.roundsReported =
      n.residentState.roundsReported)
    (hLast : s'.lastRound = some { r with
      summary := summary
      reportedAt := ev.ts
      eventSeq := ev.seq })
    (hLanding : s'.lastLanding = n.residentState.lastLanding)
| opened (summary : String)
    (hReports : ev.ReportsRound n)
    (hSummary : ev.data.getStr "summary" = some summary)
    (hFresh : ∀ r, n.residentState.lastRound = some r →
      ¬ r.Joins n.retryAttempts)
    (hRounds : s'.roundsReported =
      min (n.residentState.roundsReported + 1) maxRound)
    (hLast : s'.lastRound = some {
      round := s'.roundsReported
      attempt := n.retryAttempts
      reportedAt := ev.ts
      eventSeq := ev.seq
      summary := summary
      closedAt := none
      closedBy := none })
    (hLanding : s'.lastLanding = n.residentState.lastLanding)
| closed (messageId : String)
    (hResumes : ev.ResumesRound n)
    (hMessage : ev.data.getStr "message_id" = some messageId)
    (hRounds : s'.roundsReported =
      n.residentState.roundsReported)
    (hLast : s'.lastRound =
      n.residentState.lastRound.map (fun r =>
        if r.closedAt = none then
          { r with
            closedAt := some ev.ts
            closedBy := some messageId }
        else r))
    (hLanding : s'.lastLanding = n.residentState.lastLanding)
| landed (sourceBranch integratedOid : String)
    (hKind : ev.kind = .nodeRoundLanded)
    (hBranch :
      ev.data.getStr "source_branch" = some sourceBranch)
    (hOid :
      ev.data.getStr "integrated_oid" = some integratedOid)
    (hRounds : s'.roundsReported =
      n.residentState.roundsReported)
    (hLast : s'.lastRound = n.residentState.lastRound)
    (hLanding : s'.lastLanding = some {
      landedAt := ev.ts
      sourceBranch := sourceBranch
      integratedOid := integratedOid
      round := n.residentState.roundsReported })

theorem report_of_joins
    {s : ResidentState}
    {r : RoundReport}
    {ev : Event}
    {attempt : Nat}
    {summary : String}
    (hWas : s.lastRound = some r)
    (hJoins : r.Joins attempt) :
    s.report ev attempt summary = { s with
      lastRound := some { r with
        summary := summary
        reportedAt := ev.ts
        eventSeq := ev.seq } } := by
  unfold ResidentState.report
  rw [hWas]
  exact if_pos hJoins

theorem report_of_fresh
    {s : ResidentState}
    {ev : Event}
    {attempt : Nat}
    {summary : String}
    (hFresh : ∀ r, s.lastRound = some r →
      ¬ r.Joins attempt) :
    s.report ev attempt summary =
      s.openNext ev attempt summary := by
  unfold ResidentState.report
  split
  next r hWas => exact if_neg (hFresh r hWas)
  · rfl

/- The number a landing records is that of the last round. -/
theorem RoundsAgree.landing_round
    {s : ResidentState}
    (hAgree : RoundsAgree s) :
    (s.lastRound.map RoundReport.round).getD 0 =
      s.roundsReported := by
  cases hLast : s.lastRound with
  | none =>
      rw [hAgree.none hLast]
      rfl
  | some r => exact hAgree.last r hLast

theorem roundMove_report
    {ev : Event} {id : NodeId} {n : Node} {summary : String}
    (hReports : ev.ReportsRound n)
    (hSummary : ev.data.getStr "summary" = some summary) :
    RoundMove ev id n
      (n.residentState.report ev n.retryAttempts summary) := by
  by_cases hFresh : ∀ r, n.residentState.lastRound = some r →
      ¬ r.Joins n.retryAttempts
  · rw [report_of_fresh hFresh]
    exact .opened summary hReports hSummary hFresh rfl rfl rfl
  · simp only [not_forall, not_not] at hFresh
    rcases hFresh with ⟨r, hWas, hJoins⟩
    rw [report_of_joins hWas hJoins]
    exact .amended r summary hReports hSummary hWas hJoins rfl
      rfl rfl

/- An event that moves no rounds leaves them as they are. -/
theorem roundMove_of_other
    {env : RunEnv} {d : Disk} {ev : Event} {id : NodeId}
    {n n' : Node}
    (hRewrite : NodeRewrite env d ev id n n')
    (hNode : ev.nodeId = some id)
    (hOther : ¬ ev.MovesRounds id n) :
    RoundMove ev id n n'.residentState := by
  cases hRewrite with
  | roundReported summary hKind hAttempt hLive =>
      exact absurd ⟨hNode, hLive, .inl ⟨hKind, hAttempt⟩⟩
        hOther
  | resumed attempt messageId facts hKind hAttempt hLater
      hLive =>
      exact absurd
        ⟨hNode, hLive,
          .inr (.inl ⟨hKind, attempt, hAttempt, hLater⟩)⟩
        hOther
  | roundLanded opId branch oid hKind hOp hLive =>
      exact absurd ⟨hNode, hLive, .inr (.inr hKind)⟩ hOther
  | _ => exact .kept hOther rfl rfl rfl

section Moves

variable {env : RunEnv} {d d' : Disk} {ev : Event}
variable {id : NodeId} {n : Node}

theorem roundMove_of_report
    (hAccepts : Accepts env d ev d')
    (hNode : ev.nodeId = some id)
    (hLookup : d.nodes.lookup id = some n)
    (hLive : n.status.isTerminal = false)
    (hReports : ev.ReportsRound n) :
    ∃ n', d'.nodes.lookup id = some n' ∧
      RoundMove ev id n n'.residentState := by
  have hArm : nodeArm env d ev id =
      some (nodeRoundReportedArm env d ev) := by
    unfold nodeArm
    rw [hReports.1]
  rcases step_of_accepts hAccepts hNode hArm hLookup with
    ⟨step, hStepOf, hCase⟩
  unfold nodeRoundReportedArm at hStepOf
  rw [hReports.2] at hStepOf
  simp only [bind_eq_ok, orError_eq_ok, Option.filter_eq_some_iff,
    Except.ok.injEq, pure_eq] at hStepOf
  rcases hStepOf with
    ⟨summary, ⟨hSummary, _⟩, _, rfl, _, _, rfl⟩
  dsimp only at hCase
  rw [if_neg (by simp [hLive])] at hCase
  rcases hCase with ⟨hSkip, _⟩ | ⟨n', hStep, hLookup'⟩
  · cases hSkip
  · rw [Except.ok.injEq, Option.some.injEq] at hStep
    subst hStep
    exact ⟨_, hLookup', roundMove_report hReports hSummary⟩

theorem roundMove_of_resume
    (hAccepts : Accepts env d ev d')
    (hNode : ev.nodeId = some id)
    (hLookup : d.nodes.lookup id = some n)
    (hLive : n.status.isTerminal = false)
    (hResumes : ev.ResumesRound n) :
    ∃ n', d'.nodes.lookup id = some n' ∧
      RoundMove ev id n n'.residentState := by
  rcases hResumes.2 with ⟨attempt, hAttempt, hLater⟩
  have hArm : nodeArm env d ev id =
      some (nodeResumedArm env d ev) := by
    unfold nodeArm
    rw [hResumes.1]
  rcases step_of_accepts hAccepts hNode hArm hLookup with
    ⟨step, hStepOf, hCase⟩
  unfold nodeResumedArm at hStepOf
  rw [hAttempt] at hStepOf
  simp only [bind_eq_ok, Event.wantStr, orError_eq_ok,
    Except.ok.injEq, pure_eq] at hStepOf
  rcases hStepOf with
    ⟨_, rfl, messageId, hMessage, _, _, _, _, _, _, rfl⟩
  unfold nodeResumedStep at hCase
  rw [if_neg (by simp [hLive, hLater])] at hCase
  rcases hCase with ⟨hSkip, _⟩ | ⟨n', hStep, hLookup'⟩
  · simp at hSkip
  · simp only [bind_eq_ok, pure_eq, Except.ok.injEq,
      Option.some.injEq] at hStep
    rcases hStep with ⟨_, _, _, _, rfl⟩
    exact ⟨_, hLookup',
      .closed messageId hResumes hMessage rfl rfl rfl⟩

theorem roundMove_of_landing
    (hAccepts : Accepts env d ev d')
    (hNode : ev.nodeId = some id)
    (hLookup : d.nodes.lookup id = some n)
    (hLive : n.status.isTerminal = false)
    (hKind : ev.kind = .nodeRoundLanded)
    (hAgree : RoundsAgree n.residentState) :
    ∃ n', d'.nodes.lookup id = some n' ∧
      RoundMove ev id n n'.residentState := by
  have hArm : nodeArm env d ev id =
      some (nodeRoundLandedArm env d ev) := by
    unfold nodeArm
    rw [hKind]
  rcases step_of_accepts hAccepts hNode hArm hLookup with
    ⟨step, hStepOf, hCase⟩
  unfold nodeRoundLandedArm at hStepOf
  simp only [bind_eq_ok, Event.wantStr, orError_eq_ok,
    Except.ok.injEq, pure_eq] at hStepOf
  rcases hStepOf with
    ⟨_, _, branch, hBranch, oid, hOid, _, _, _, _, rfl⟩
  dsimp only at hCase
  rw [if_neg (by simp [hLive])] at hCase
  rcases hCase with ⟨hSkip, _⟩ | ⟨n', hStep, hLookup'⟩
  · cases hSkip
  · rw [Except.ok.injEq, Option.some.injEq] at hStep
    subst hStep
    apply Exists.intro _
    apply And.intro hLookup'
    have hRound := hAgree.landing_round
    refine .landed branch oid hKind hBranch hOid rfl rfl ?_
    rw [← hRound]
    rfl

/- An accepted event moves the rounds of a node as it says. -/
theorem roundMove_of_accepts
    (hAccepts : Accepts env d ev d')
    (hLookup : d.nodes.lookup id = some n)
    (hAgree : RoundsAgree n.residentState) :
    ∃ n', d'.nodes.lookup id = some n' ∧
      RoundMove ev id n n'.residentState := by
  by_cases hMoves : ev.MovesRounds id n
  · rcases hMoves with
      ⟨hNode, hLive, hReports | hResumes | hKind⟩
    · exact roundMove_of_report hAccepts hNode hLookup hLive
        hReports
    · exact roundMove_of_resume hAccepts hNode hLookup hLive
        hResumes
    · exact roundMove_of_landing hAccepts hNode hLookup hLive
        hKind hAgree
  · rcases node_of_accepts hAccepts hLookup with
      ⟨n', hLookup', hSame | ⟨hNode, hRewrite⟩⟩
    · rw [hSame] at hLookup'
      exact ⟨n, hLookup', .kept hMoves rfl rfl rfl⟩
    · exact ⟨n', hLookup',
        roundMove_of_other hRewrite hNode hMoves⟩

end Moves

------------------------------------------------------------
-- The Counter
------------------------------------------------------------

theorem RoundsAgree.report
    {s : ResidentState}
    {ev : Event}
    {attempt : Nat}
    {summary : String}
    (hAgree : RoundsAgree s) :
    RoundsAgree (s.report ev attempt summary) := by
  by_cases hFresh : ∀ r, s.lastRound = some r →
      ¬ r.Joins attempt
  · rw [report_of_fresh hFresh]
    constructor
    · intro r hSome
      cases hSome
      rfl
    · intro hNone
      cases hNone
    · exact Nat.min_le_right _ _
  · simp only [not_forall, not_not] at hFresh
    rcases hFresh with ⟨r, hWas, hJoins⟩
    rw [report_of_joins hWas hJoins]
    constructor
    · intro r₁ hSome
      cases hSome
      exact hAgree.last r hWas
    · intro hNone
      cases hNone
    · exact hAgree.bounded

theorem RoundsAgree.resume
    {s : ResidentState}
    {ev : Event}
    {messageId : String}
    (hAgree : RoundsAgree s) :
    RoundsAgree (s.resume ev messageId) := by
  constructor
  · intro r₁ hSome
    unfold ResidentState.resume at hSome
    rw [Option.map_eq_some_iff] at hSome
    rcases hSome with ⟨r, hWas, hClosed⟩
    have hRound : r₁.round = r.round := by
      rw [← hClosed]
      split <;> rfl
    rw [hRound]
    exact hAgree.last r hWas
  · intro hNone
    unfold ResidentState.resume at hNone
    rw [Option.map_eq_none_iff] at hNone
    exact hAgree.none hNone
  · exact hAgree.bounded

theorem roundsAgree_of_rewrite
    {env : RunEnv} {d : Disk} {ev : Event} {id : NodeId}
    {n n' : Node}
    (hRewrite : NodeRewrite env d ev id n n')
    (hAgree : RoundsAgree n.residentState) :
    RoundsAgree n'.residentState := by
  cases hRewrite with
  | roundReported => exact hAgree.report
  | resumed => exact hAgree.resume
  | _ => exact ⟨hAgree.last, hAgree.none, hAgree.bounded⟩

theorem rounds_le_report
    {s : ResidentState}
    {ev : Event}
    {attempt : Nat}
    {summary : String}
    (hAgree : RoundsAgree s) :
    s.roundsReported ≤
      (s.report ev attempt summary).roundsReported := by
  by_cases hFresh : ∀ r, s.lastRound = some r →
      ¬ r.Joins attempt
  · rw [report_of_fresh hFresh]
    exact Nat.le_min.mpr ⟨Nat.le_succ _, hAgree.bounded⟩
  · simp only [not_forall, not_not] at hFresh
    rcases hFresh with ⟨r, hWas, hJoins⟩
    rw [report_of_joins hWas hJoins]

theorem rounds_le_of_rewrite
    {env : RunEnv} {d : Disk} {ev : Event} {id : NodeId}
    {n n' : Node}
    (hRewrite : NodeRewrite env d ev id n n')
    (hAgree : RoundsAgree n.residentState) :
    n.residentState.roundsReported ≤
      n'.residentState.roundsReported := by
  cases hRewrite with
  | roundReported => exact rounds_le_report hAgree
  | _ => exact Nat.le_refl _

------------------------------------------------------------
-- Runs
------------------------------------------------------------

theorem roundsAgree_initial :
    RoundsAgree ResidentState.initial := by
  constructor
  · intro r hSome
    cases hSome
  · intro _
    rfl
  · exact Nat.zero_le _

theorem residentState_of_fresh
    {n : Node}
    (hFresh : n.Fresh) :
    n.residentState = .initial := by
  unfold Node.residentState
  rw [hFresh.resident]
  rfl

/- The rounds of a node agree. -/
def Node.RoundsAgree (n : Node) : Prop :=
  Taskfleet.RoundsAgree n.residentState

theorem roundsAgree_invariant (env : RunEnv) :
    NodeInvariant env Node.RoundsAgree := by
  constructor
  · intro ev id n hNew
    unfold Node.RoundsAgree
    rw [residentState_of_fresh (newNode_fresh hNew)]
    exact roundsAgree_initial
  · intro d ev id n n' hRewrite hBefore
    exact roundsAgree_of_rewrite hRewrite hBefore

/-
  In every state reached by accepted events the number of
  the last round is the counter's, and the counter never
  falls later. A report of the attempt a live node is in
  amends the open round of that attempt and else opens the
  next one, a resume under a later attempt closes the open
  round with its message, a landing is recorded under the
  number of the last round, and no other event touches them.
-/
theorem rounds_of_acceptedRun
    (env : RunEnv)
    (evs : List Event)
    (d : Disk)
    (hRun : AcceptedRun env Disk.empty evs d) :
    (∀ id n, d.nodes.lookup id = some n → n.RoundsAgree) ∧
      (∀ ev d' id n, Accepts env d ev d' →
        d.nodes.lookup id = some n →
        ∃ n', d'.nodes.lookup id = some n' ∧
          RoundMove ev id n n'.residentState) ∧
      (∀ later d' id n, AcceptedRun env d later d' →
        d.nodes.lookup id = some n →
        ∃ n', d'.nodes.lookup id = some n' ∧
          n.residentState.roundsReported ≤
            n'.residentState.roundsReported) := by
  have hAgree :=
    hRun.holds_of_empty (roundsAgree_invariant env)
  constructor
  · exact hAgree
  constructor
  · intro ev d' id n hAccepts hLookup
    exact roundMove_of_accepts hAccepts hLookup
      (hAgree id n hLookup)
  · intro later d' id n hLater hLookup
    exact hLater.relates (roundsAgree_invariant env)
      (R := fun n n' => n.residentState.roundsReported ≤
        n'.residentState.roundsReported)
      (fun _ => Nat.le_refl _)
      (fun _ _ _ => Nat.le_trans)
      (fun _ _ _ _ _ => rounds_le_of_rewrite) id n hLookup
      (hAgree id n hLookup)

namespace Sample

def residentRun : Event :=
  event 1 .runCreated none
    (.obj
      [("kind", .str "spinoff"),
        ("lifecycle", .str "autonomous"),
        ("resident",
          .obj
            [("idle_expiry_secs", .int 60),
              ("name", .str "r")]),
        ("title", .str "t")])

/- A round report of the sample node. -/
def roundReport (seq attempt : Nat) : Event :=
  event seq .nodeRoundReported (some .first)
    (.obj
      [("attempt", .int attempt), ("summary", .str "done")])

/- Two rounds, the first of them amended, and a landing. -/
def landedRounds : List Event :=
  [residentRun, nodeCreated, roundReport 3 0, roundReport 4 0,
    event 5 .nodeResumed (some .first)
      (.obj [("attempt", .int 1), ("message_id", .str "m")]),
    roundReport 6 1,
    event 7 .nodeRoundLanded (some .first)
      (.obj
        [("integrated_oid",
            .str (String.ofList (List.replicate 40 'a'))),
          ("op_id", .str "o"),
          ("source_branch", .str "main")])]

/- The first attempt reported, and a retry replaced it. -/
def retriedRound : List Event :=
  [residentRun, nodeCreated, roundReport 3 0,
    event 4 .nodeRetry (some .first)
      (.obj [("attempt", .int 1)])]

/- The last round on the sample node. -/
def lastRoundOf (d : Disk) : Option RoundReport :=
  (d.nodes.lookup .first).bind
    (fun n => n.residentState.lastRound)

/- The last landing on the sample node. -/
def lastLandingOf (d : Disk) : Option RoundLanding :=
  (d.nodes.lookup .first).bind
    (fun n => n.residentState.lastLanding)

end Sample

/- A landing is recorded under the second round. -/
theorem rounds_of_landed :
    let d :=
      foldAll Sample.env Disk.empty Sample.landedRounds
    (Sample.lastLandingOf d).map RoundLanding.round = some 2 ∧
      (Sample.lastRoundOf d).map RoundReport.round = some 2 ∧
      ∀ id n, d.nodes.lookup id = some n →
        n.RoundsAgree := by
  intro d
  have hRun :
      AcceptedRun Sample.env Disk.empty Sample.landedRounds d :=
    acceptedRun_foldAll (by decide +kernel)
  exact ⟨by decide +kernel, by decide +kernel,
    (rounds_of_acceptedRun Sample.env Sample.landedRounds d
      hRun).1⟩

------------------------------------------------------------
-- A Retry Between Rounds
------------------------------------------------------------

/-
  Not every report amends the open round: that of an attempt
  which a retry started opens the second round over the
  first one, which no message has closed.
-/
theorem retry_leaves_round_open :
    ¬ (∀ (env : RunEnv) (evs : List Event) (d d' : Disk)
        (ev : Event) (id : NodeId) (n n' : Node)
        (r : RoundReport),
        AcceptedRun env Disk.empty evs d →
        Accepts env d ev d' →
        d.nodes.lookup id = some n →
        d'.nodes.lookup id = some n' →
        n.residentState.openRound = some r →
        ev.kind = .nodeRoundReported →
        ∃ r', n'.residentState.lastRound = some r' ∧
          r'.round = r.round) := by
  intro hAmends
  have hRun :
      AcceptedRun Sample.env Disk.empty Sample.retriedRound
        (foldAll Sample.env Disk.empty Sample.retriedRound) :=
    acceptedRun_foldAll (by decide +kernel)
  have hNext :
      AcceptedRun Sample.env
        (foldAll Sample.env Disk.empty Sample.retriedRound)
        [Sample.roundReport 5 1]
        (foldAll Sample.env
          (foldAll Sample.env Disk.empty Sample.retriedRound)
          [Sample.roundReport 5 1]) :=
    acceptedRun_foldAll (by decide +kernel)
  generalize hReached :
    foldAll Sample.env Disk.empty Sample.retriedRound = d
    at hRun hNext
  generalize hReported :
    foldAll Sample.env d [Sample.roundReport 5 1] = d' at hNext
  have hOpen :
      (d.nodes.lookup .first).bind
        (fun n => n.residentState.openRound.map
          RoundReport.round) = some 1 := by
    rw [← hReached]
    decide +kernel
  have hAfter :
      (Sample.lastRoundOf d').map RoundReport.round =
        some 2 := by
    rw [← hReported, ← hReached]
    decide +kernel
  rw [Option.bind_eq_some_iff] at hOpen
  rcases hOpen with ⟨n, hLookup, hRound⟩
  rw [Option.map_eq_some_iff] at hRound
  rcases hRound with ⟨r, hOpenRound, hFirst⟩
  unfold Sample.lastRoundOf at hAfter
  rw [Option.map_eq_some_iff] at hAfter
  rcases hAfter with ⟨r₂, hLast, hSecond⟩
  rw [Option.bind_eq_some_iff] at hLast
  rcases hLast with ⟨n', hLookup', hLast'⟩
  have hKept :=
    hAmends Sample.env Sample.retriedRound d d'
      (Sample.roundReport 5 1) .first n n' r hRun
      hNext.accepts hLookup hLookup' hOpenRound (by decide)
  rcases hKept with ⟨r', hSome, hSame⟩
  rw [hLast', Option.some.injEq] at hSome
  rw [← hSome, hSecond, hFirst] at hSame
  cases hSame

end Taskfleet
