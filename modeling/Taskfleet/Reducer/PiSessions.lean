import Taskfleet.Reducer.Rewrites

/-
  The session facts of a caller-owned node.

  A session runs in generations. A generation is opened by a
  start that follows an exit or a failed launch, and by
  nothing else; the session a node is bound to never changes.

  Main declarations:
    * `CallerPiLifecycle.Restarts`, `PiMove`
    * `piMove_of_rewrite`
    * `piSessions_of_acceptedRun`
-/

------------------------------------------------------------
-- One Event
------------------------------------------------------------

namespace Taskfleet

open Fallible

/- A start fact that follows the end of a session. -/
structure CallerPiLifecycle.Restarts
    (old fact : CallerPiLifecycle) (ev : Event) : Prop where
  kind : ev.kind = .callerPiLifecycle
  data : ev.data.asCallerPiLifecycle = some fact
  ended : old.state = .exited ∨ old.state = .launchFailed
  started : fact.state = .started
  next : fact.generation = old.generation + 1
  inRange : fact.generation < 2 ^ 64

/- The kinds that carry a session fact. -/
def EventKind.isPiFact : EventKind → Bool
| .callerPiSessionBound | .callerPiLifecycle => true
| _ => false

/- What an event may do to the session facts of a node. -/
structure PiMove (ev : Event) (n n' : Node) : Prop where
  bound : ∀ b, n.callerPiSession = some b →
    n'.callerPiSession = some b
  first : n.callerPiLifecycle = none →
    ∀ fact, n'.callerPiLifecycle = some fact →
      fact.generation = 1
  later : ∀ old, n.callerPiLifecycle = some old →
    ∃ fact, n'.callerPiLifecycle = some fact ∧
      (fact.generation = old.generation ∨
        old.Restarts fact ev)
  framed : ev.kind.isPiFact = false →
    n'.callerPiSession = n.callerPiSession ∧
      n'.callerPiLifecycle = n.callerPiLifecycle

theorem piMove_of_same
    {ev : Event}
    {n n' : Node}
    (hSession : n'.callerPiSession = n.callerPiSession)
    (hLifecycle :
      n'.callerPiLifecycle = n.callerPiLifecycle) :
    PiMove ev n n' where
  bound := by
    intro b hBound
    rw [hSession, hBound]
  first := by
    intro hNone fact hSome
    rw [hLifecycle, hNone] at hSome
    cases hSome
  later := by
    intro old hOld
    exact ⟨old, hLifecycle.trans hOld, .inl rfl⟩
  framed := fun _ => ⟨hSession, hLifecycle⟩

/-
  The three ways a fact follows another keep the generation,
  except that a restart opens the next one.
-/
theorem CallerPiLifecycle.generation_of_follows
    {fact old : CallerPiLifecycle}
    {bound : Bool}
    {ev : Event}
    (hKind : ev.kind = .callerPiLifecycle)
    (hData : ev.data.asCallerPiLifecycle = some fact)
    (hFollows : fact.follows bound (some old) = true) :
    fact.generation = old.generation ∨
      old.Restarts fact ev := by
  simp only [CallerPiLifecycle.follows, decide_eq_true_eq,
    Bool.decide_or, Bool.or_eq_true, Bool.decide_and,
    Bool.and_eq_true] at hFollows
  rcases hFollows with hEnds | hLaunches | hRestarts
  · exact .inl hEnds.1.symm
  · exact .inl hLaunches.1.symm
  · rcases hRestarts with ⟨hNext, hRange, hEnded, hStarted⟩
    right
    rw [hNext] at hRange
    exact ⟨hKind, hData, hEnded, hStarted, hNext.symm, hRange⟩

theorem CallerPiLifecycle.generation_of_first
    {fact : CallerPiLifecycle}
    {bound : Bool}
    (hFollows : fact.follows bound none = true) :
    fact.generation = 1 := by
  simp only [CallerPiLifecycle.follows, Bool.decide_and,
    Bool.and_eq_true, decide_eq_true_eq] at hFollows
  exact hFollows.1

theorem piMove_of_rewrite
    {env : RunEnv} {d : Disk} {ev : Event} {id : NodeId}
    {n n' : Node}
    (hRewrite : NodeRewrite env d ev id n n') :
    PiMove ev n n' := by
  cases hRewrite with
  | sessionBound binding hKind hData hFirst hAdmits =>
      constructor
      · intro b hBound
        rw [hFirst] at hBound
        cases hBound
      · intro hNone fact hSome
        rw [hNone] at hSome
        cases hSome
      · intro old hOld
        apply Exists.intro
        apply And.intro
        · rw [hOld]
          exact rfl
        · exact .inl rfl
      · intro hFrame
        rw [hKind] at hFrame
        cases hFrame
  | piLifecycle fact hKind hData hFormed hFollows =>
      constructor
      · intro b hBound
        exact hBound
      · intro hNone _ hSome
        cases hSome
        rw [hNone] at hFollows
        exact CallerPiLifecycle.generation_of_first hFollows
      · intro old hOld
        rw [hOld] at hFollows
        exact ⟨fact, rfl,
          CallerPiLifecycle.generation_of_follows hKind hData
            hFollows⟩
      · intro hFrame
        rw [hKind] at hFrame
        cases hFrame
  | _ => exact piMove_of_same rfl rfl

------------------------------------------------------------
-- Runs
------------------------------------------------------------

/- A generation is a positive 64-bit number. -/
def Node.PiInRange (n : Node) : Prop :=
  ∀ fact, n.callerPiLifecycle = some fact →
    1 ≤ fact.generation ∧ fact.generation < 2 ^ 64

theorem PiMove.inRange
    {ev : Event}
    {n n' : Node}
    (hMove : PiMove ev n n')
    (hBefore : n.PiInRange) :
    n'.PiInRange := by
  intro fact hFact
  cases hOld : n.callerPiLifecycle with
  | none =>
      rw [hMove.first hOld fact hFact]
      omega
  | some old =>
      have hRange := hBefore old hOld
      rcases hMove.later old hOld with ⟨fact', hFact', hCase⟩
      rw [hFact', Option.some.injEq] at hFact
      subst hFact
      rcases hCase with hKept | hRestarts
      · omega
      · have hNext := hRestarts.next
        have hLimit := hRestarts.inRange
        omega

theorem piInRange_invariant (env : RunEnv) :
    NodeInvariant env Node.PiInRange := by
  constructor
  · intro ev id n hNew fact hFact
    rw [(newNode_fresh hNew).callerPiLifecycle] at hFact
    cases hFact
  · intro d ev id n n' hRewrite hBefore
    exact (piMove_of_rewrite hRewrite).inRange hBefore

/- What a node keeps of its session facts for good. -/
structure PiKept (n n' : Node) : Prop where
  bound : ∀ b, n.callerPiSession = some b →
    n'.callerPiSession = some b
  generation : ∀ old, n.callerPiLifecycle = some old →
    ∃ fact, n'.callerPiLifecycle = some fact ∧
      old.generation ≤ fact.generation

theorem PiMove.kept
    {ev : Event}
    {n n' : Node}
    (hMove : PiMove ev n n') :
    PiKept n n' where
  bound := hMove.bound
  generation := by
    intro old hOld
    rcases hMove.later old hOld with ⟨fact, hFact, hCase⟩
    apply Exists.intro fact
    apply And.intro hFact
    rcases hCase with hKept | hRestarts
    · omega
    · have hNext := hRestarts.next
      omega

theorem PiKept.refl (n : Node) : PiKept n n where
  bound := fun _ hBound => hBound
  generation := fun old hOld => ⟨old, hOld, Nat.le_refl _⟩

theorem PiKept.trans
    (n₁ n₂ n₃ : Node)
    (hFirst : PiKept n₁ n₂)
    (hSecond : PiKept n₂ n₃) :
    PiKept n₁ n₃ where
  bound := fun b hBound =>
    hSecond.bound b (hFirst.bound b hBound)
  generation := by
    intro old hOld
    rcases hFirst.generation old hOld with
      ⟨mid, hMid, hLe⟩
    rcases hSecond.generation mid hMid with
      ⟨fact, hFact, hLe'⟩
    exact ⟨fact, hFact, Nat.le_trans hLe hLe'⟩

/-
  Over every sequence of accepted events the generation of a
  session stays in range and never falls, and a binding
  stays. One more event keeps the generation, or is a start
  that follows an exit or a failed launch and adds one.
-/
theorem piSessions_of_acceptedRun
    (env : RunEnv)
    (evs : List Event)
    (d : Disk)
    (hRun : AcceptedRun env Disk.empty evs d) :
    (∀ id n, d.nodes.lookup id = some n → n.PiInRange) ∧
      (∀ ev d' id n, Accepts env d ev d' →
        d.nodes.lookup id = some n →
        ∃ n', d'.nodes.lookup id = some n' ∧
          PiMove ev n n') ∧
      (∀ later d' id n, AcceptedRun env d later d' →
        d.nodes.lookup id = some n →
        ∃ n', d'.nodes.lookup id = some n' ∧
          PiKept n n') := by
  have hInRange :=
    hRun.holds_of_empty (piInRange_invariant env)
  constructor
  · exact hInRange
  constructor
  · intro ev d' id n hAccepts hLookup
    rcases node_of_accepts hAccepts hLookup with
      ⟨n', hLookup', hCase⟩
    apply Exists.intro n'
    apply And.intro hLookup'
    rcases hCase with hSame | ⟨_, hRewrite⟩
    · rw [hSame]
      exact piMove_of_same rfl rfl
    · exact piMove_of_rewrite hRewrite
  · intro later d' id n hLater hLookup
    apply hLater.relates (piInRange_invariant env) PiKept.refl
      PiKept.trans _ id n hLookup (hInRange id n hLookup)
    intro d₁ ev id₁ n₁ n₂ hRewrite _
    exact (piMove_of_rewrite hRewrite).kept

namespace Sample

/- A fact about the session of the sample node. -/
def piFact
    (seq generation : Nat)
    (state : String)
    (rest : List (String × Json)) : Event :=
  event seq .callerPiLifecycle (some .first)
    (.obj
      ([("generation", .int generation),
        ("pi_session_id", .str "s"),
        ("state", .str state)] ++ rest))

/- A caller-owned node whose first session has exited. -/
def piEnded : List Event :=
  [event 1 .runCreated none
      (.obj
        [("agent_owner", .str "caller"),
          ("kind", .str "spinoff"),
          ("lifecycle", .str "interactive"),
          ("title", .str "t")]),
    event 2 .nodeCreated (some .first)
      (.obj
        [("kind", .str "spinoff"),
          ("worktree_path", .str "/w")]),
    piFact 3 1 "reserved" [],
    event 4 .callerPiSessionBound (some .first)
      (.obj
        [("file_dev", .int 1), ("file_ino", .int 2),
          ("generation", .int 1),
          ("original_cwd", .str "/w"),
          ("pi_session_id", .str "s"),
          ("session_path", .str "/s")]),
    piFact 5 1 "started" [("session_path", .str "/s")],
    piFact 6 1 "exited"
      [("reason", .str "done"), ("session_path", .str "/s")]]

def piRestart : Event :=
  piFact 7 2 "started" [("session_path", .str "/s")]

/- The generation of the session on the sample node. -/
def piGenerationOf (d : Disk) : Option Nat :=
  (d.nodes.lookup .first).map Node.piGeneration

end Sample

/- A restart after an exit opens the second generation. -/
theorem piSessions_of_restart :
    let ended := foldAll Sample.env Disk.empty Sample.piEnded
    let again := foldAll Sample.env ended [Sample.piRestart]
    Sample.piGenerationOf ended = some 1 ∧
      Sample.piGenerationOf again = some 2 ∧
      ∃ n n', ended.nodes.lookup .first = some n ∧
        again.nodes.lookup .first = some n' ∧
        PiMove Sample.piRestart n n' ∧ PiKept n n' := by
  intro ended again
  have hRun :
      AcceptedRun Sample.env Disk.empty Sample.piEnded ended :=
    acceptedRun_foldAll (by decide +kernel)
  have hLater :
      AcceptedRun Sample.env ended [Sample.piRestart] again :=
    acceptedRun_foldAll (by decide +kernel)
  have hBefore : Sample.piGenerationOf ended = some 1 := by
    decide +kernel
  have hAfter : Sample.piGenerationOf again = some 2 := by
    decide +kernel
  have hSpec :=
    piSessions_of_acceptedRun Sample.env Sample.piEnded ended hRun
  have hFound := hBefore
  unfold Sample.piGenerationOf at hFound
  rw [Option.map_eq_some_iff] at hFound
  rcases hFound with ⟨n, hLookup, _⟩
  rcases hSpec.2.1 Sample.piRestart again .first n
    hLater.accepts hLookup with ⟨n', hLookup', hMove⟩
  exact ⟨hBefore, hAfter, n, n', hLookup, hLookup', hMove,
    hMove.kept⟩

end Taskfleet
