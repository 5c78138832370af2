import Taskfleet.Reducer.Rewrites

/-
  The open question of a node.

  A question is opened by one event and named by its number.
  Later questions add their items to it, and an answer that
  names another question leaves it alone.

  Main declarations:
    * `Node.InputSound`, `InputMove`
    * `inputMove_of_accepts`
    * `input_fence`
-/

------------------------------------------------------------
-- One Event on a Node
------------------------------------------------------------

namespace Taskfleet

open Fallible

section Steps

variable {env : RunEnv} {d d' : Disk} {ev : Event}
variable {id : NodeId} {n n' : Node}

/- An accepted event on a node is a run of its step. -/
theorem stepped_of_accepts
    {arm : Except Error NodeStep}
    (hAccepts : Accepts env d ev d')
    (hNode : ev.nodeId = some id)
    (hArm : nodeArm env d ev id = some arm)
    (hLookup : d.nodes.lookup id = some n) :
    ∃ step o, arm = .ok step ∧ step n = .ok o ∧
      d'.nodes.lookup id = some (o.getD n) := by
  rcases hAccepts with ⟨ops, hPlan, hNodes, _⟩
  have hKind := (reduce_eq_ok.mp hPlan).2
  rw [reduceKind_eq_arm hArm hNode, bind_eq_ok] at hKind
  rcases hKind with ⟨step, rfl, hRun⟩
  rcases onNode_eq_ok hRun with ⟨hNone, _⟩ | hSome
  · rw [hLookup] at hNone
    cases hNone
  rcases hSome with ⟨n₀, hThere, hValid, hCase⟩
  rw [hLookup, Option.some.injEq] at hThere
  subst hThere
  rw [hNodes]
  rcases hCase with ⟨hStep, rfl⟩ | ⟨n', hStep, rfl⟩
  · exact ⟨step, none, rfl, hStep, hLookup⟩
  · refine ⟨step, some n', rfl, hStep, ?_⟩
    have hSame := (nodeArm_move hArm hStep).1
    have hId := (hSame.valid hValid).nodeId
    rw [applyOps_cons, applyOps_nil, ProjectionOp.put,
      Disk.putNode_nodes, ← hId, Finmap.lookup_insert]
    rfl

end Steps

------------------------------------------------------------
-- Moves of a Question
------------------------------------------------------------

/- A question is open on a live worker, with few items. -/
structure Node.InputSound (n : Node) : Prop where
  live : ∀ q, n.awaitingInput = some q →
    n.status.isTerminal = false ∧ n.workerExit = none
  bounded : ∀ q, n.awaitingInput = some q →
    q.discussionItems.length ≤ DiscussionItem.maxItems

/- A question with further items. -/
def AwaitingInput.extend
    (q : AwaitingInput) (items : List Json) : AwaitingInput :=
  { q with discussionItems := q.discussionItems ++ items }

/- The items that an event asks about on the node. -/
def Event.itemsOn (ev : Event) (id : NodeId) : List Json :=
  if ev.kind = .nodeAwaitingInput ∧ ev.nodeId = some id then
    ev.discussionItems.toOption.getD []
  else []

/- An answer to the question of that number on the node. -/
def Event.Resolves (ev : Event) (id : NodeId) (seq : Nat) :
    Prop :=
  ev.kind = .nodeInputResolved ∧ ev.nodeId = some id ∧
    (ev.data.get "event_seq").bind Json.asU64 = some seq

/- Events after which no question is open. -/
def EventKind.dropsInput : EventKind → Bool
| .nodeStatus | .nodeReport | .workerExited | .nodeRetry
| .nodeResumed | .nodeRoundReported => true
| _ => false

/- An event that closes the question of that number. -/
def Event.ClosesInput (ev : Event) (id : NodeId) (seq : Nat) :
    Prop :=
  ev.Resolves id seq ∨
    ev.nodeId = some id ∧ ev.kind.dropsInput = true

/-
  Every way an event moves the question of a node: it leaves
  or extends the open one, opens one, or closes it.
-/
inductive InputMove
    (ev : Event) (id : NodeId) :
    Option AwaitingInput → Option AwaitingInput → Prop where
| idle : InputMove ev id none none
| opened (items : List Json)
    (hKind : ev.kind = .nodeAwaitingInput)
    (hNode : ev.nodeId = some id)
    (hItems : ev.discussionItems = .ok items) :
    InputMove ev id none (some ⟨ev.ts, ev.seq, items⟩)
| stays (q : AwaitingInput)
    (hOther : ∀ seq, ev.Resolves id seq → seq ≠ q.eventSeq)
    (hRoom : ev.itemsOn id ≠ [] →
      (q.extend (ev.itemsOn id)).discussionItems.length ≤
        DiscussionItem.maxItems) :
    InputMove ev id (some q) (some (q.extend (ev.itemsOn id)))
| closed (q : AwaitingInput)
    (hCloses : ev.ClosesInput id q.eventSeq) :
    InputMove ev id (some q) none

section Moves

variable {env : RunEnv} {d d' : Disk} {ev : Event}
variable {id : NodeId} {n n' : Node} {q : AwaitingInput}

@[simp] theorem AwaitingInput.extend_nil :
    q.extend [] = q := by
  simp [AwaitingInput.extend]

@[simp] theorem AwaitingInput.extend_extend
    {items items' : List Json} :
    (q.extend items).extend items' =
      q.extend (items ++ items') := by
  simp [AwaitingInput.extend]

theorem Event.itemsOn_of_other
    (hOther : ev.kind ≠ .nodeAwaitingInput ∨
      ev.nodeId ≠ some id) :
    ev.itemsOn id = [] := by
  unfold Event.itemsOn
  rw [if_neg]
  rintro ⟨hKind, hNode⟩
  rcases hOther with hNot | hNot
  · exact hNot hKind
  · exact hNot hNode

/- An event that leaves the question moves it nowhere. -/
theorem InputMove.same
    {o : Option AwaitingInput}
    (hAsks : ev.kind ≠ .nodeAwaitingInput ∨
      ev.nodeId ≠ some id)
    (hOther : ∀ q seq, o = some q → ev.Resolves id seq →
      seq ≠ q.eventSeq) :
    InputMove ev id o o := by
  cases o with
  | none => exact .idle
  | some q =>
      have hStays : InputMove ev id (some q)
          (some (q.extend (ev.itemsOn id))) :=
        .stays q (fun seq => hOther q seq rfl)
          (fun hSome =>
            absurd (Event.itemsOn_of_other hAsks) hSome)
      rwa [Event.itemsOn_of_other hAsks,
        AwaitingInput.extend_nil] at hStays

/- A rewrite by any event but a question or an answer. -/
theorem inputMove_of_rewrite
    (hRewrite : NodeRewrite env d ev id n n')
    (hNode : ev.nodeId = some id)
    (hAsks : ev.kind ≠ .nodeAwaitingInput)
    (hAnswers : ev.kind ≠ .nodeInputResolved) :
    InputMove ev id n.awaitingInput n'.awaitingInput := by
  have hSame : ∀ o, InputMove ev id o o := fun o =>
    .same (.inl hAsks)
      (fun _ _ _ hResolves => absurd hResolves.1 hAnswers)
  have hDrops : ev.kind.dropsInput = true →
      InputMove ev id n.awaitingInput none := by
    intro hKind
    cases n.awaitingInput with
    | none => exact .idle
    | some q => exact .closed q (.inr ⟨hNode, hKind⟩)
  cases hRewrite with
  | status s hKind =>
      dsimp only
      split
      · exact hDrops (by rw [hKind]; rfl)
      · exact hSame _
  | reported s hKind => exact hDrops (by rw [hKind]; rfl)
  | retried facts hKind => exact hDrops (by rw [hKind]; rfl)
  | exited code signal hKind =>
      exact hDrops (by rw [hKind]; rfl)
  | roundReported summary hKind =>
      exact hDrops (by rw [hKind]; rfl)
  | resumed attempt messageId facts hKind =>
      exact hDrops (by rw [hKind]; rfl)
  | asked question hKind => exact absurd hKind hAsks
  | answered hKind => exact absurd hKind hAnswers
  | _ => exact hSame _

/- A question joins the open one or opens the next. -/
theorem inputMove_of_question
    (hKind : ev.kind = .nodeAwaitingInput)
    (hNode : ev.nodeId = some id)
    (hSound : n.InputSound)
    {items : List Json} {o : Option Node}
    (hItems : ev.discussionItems = .ok items)
    (hStep : nodeAwaitingInputStep ev items n = .ok o) :
    InputMove ev id n.awaitingInput (o.getD n).awaitingInput := by
  have hHere : ev.itemsOn id = items := by
    unfold Event.itemsOn
    rw [if_pos ⟨hKind, hNode⟩, hItems]
    rfl
  have hOther : ∀ seq q', ev.Resolves id seq →
      seq ≠ AwaitingInput.eventSeq q' := by
    rintro seq q' ⟨hAnswer, _⟩
    rw [hKind] at hAnswer
    cases hAnswer
  cases hOpen : n.awaitingInput with
  | none =>
      unfold nodeAwaitingInputStep at hStep
      rw [hOpen] at hStep
      split at hStep
      · cases hStep
        rw [Option.getD_none, hOpen]
        exact .idle
      · cases hStep
        exact .opened items hKind hNode hItems
  | some q =>
      rcases hSound.live q hOpen with ⟨hLive, hNoExit⟩
      unfold nodeAwaitingInputStep at hStep
      rw [if_neg (by simp [hLive, hNoExit]), hOpen] at hStep
      dsimp only at hStep
      split at hStep
      · cases hStep
      next hRoom =>
        cases hStep
        rw [← hHere] at hRoom ⊢
        refine .stays q (fun seq => hOther seq q) (fun _ => ?_)
        rw [AwaitingInput.extend, List.length_append]
        exact not_lt.mp hRoom

/- An answer closes the question it names, and no other. -/
theorem inputMove_of_answer
    (hKind : ev.kind = .nodeInputResolved)
    (hNode : ev.nodeId = some id)
    {seq : Nat} {o : Option Node}
    (hSeq : (ev.data.get "event_seq").bind Json.asU64 =
      some seq)
    (hStep : (if n.awaitingInput.map AwaitingInput.eventSeq =
          some seq then
        .ok (some { n with
          awaitingInput := none
          updatedAt := ev.ts })
      else .ok none) = (.ok o : Except Error (Option Node))) :
    InputMove ev id n.awaitingInput (o.getD n).awaitingInput := by
  split at hStep
  next hNamed =>
    cases hStep
    rw [Option.map_eq_some_iff] at hNamed
    rcases hNamed with ⟨q, hOpen, rfl⟩
    rw [hOpen]
    exact .closed q (.inl ⟨hKind, hNode, hSeq⟩)
  next hOther =>
    cases hStep
    apply InputMove.same
    · left
      rw [hKind]
      simp
    · rintro q seq' hOpen ⟨_, _, hSeq'⟩ rfl
      rw [hSeq, Option.some.injEq] at hSeq'
      apply hOther
      rw [hOpen, hSeq', Option.map_some]

/- One accepted event, and the question of one node. -/
theorem inputMove_of_accepts
    (hAccepts : Accepts env d ev d')
    (hLookup : d.nodes.lookup id = some n)
    (hSound : n.InputSound) :
    ∃ n', d'.nodes.lookup id = some n' ∧
      InputMove ev id n.awaitingInput n'.awaitingInput := by
  by_cases hNode : ev.nodeId = some id
  · by_cases hAsks : ev.kind = .nodeAwaitingInput
    · have hArm : nodeArm env d ev id =
          some (nodeAwaitingInputArm ev) := by
        simp [nodeArm, hAsks]
      rcases stepped_of_accepts hAccepts hNode hArm hLookup with
        ⟨step, o, hOk, hStep, hLookup'⟩
      rw [nodeAwaitingInputArm, bind_eq_ok] at hOk
      rcases hOk with ⟨items, hItems, hOk⟩
      cases hOk
      exact ⟨_, hLookup', inputMove_of_question hAsks hNode
        hSound hItems hStep⟩
    by_cases hAnswers : ev.kind = .nodeInputResolved
    · have hArm : nodeArm env d ev id =
          some (nodeInputResolvedArm ev) := by
        simp [nodeArm, hAnswers]
      rcases stepped_of_accepts hAccepts hNode hArm hLookup with
        ⟨step, o, hOk, hStep, hLookup'⟩
      rw [nodeInputResolvedArm, bind_eq_ok] at hOk
      rcases hOk with ⟨seq, hSeq, hOk⟩
      rw [orError_eq_ok] at hSeq
      cases hOk
      exact ⟨_, hLookup',
        inputMove_of_answer hAnswers hNode hSeq hStep⟩
    rcases node_of_accepts hAccepts hLookup with
      ⟨n', hLookup', hSame | ⟨_, hRewrite⟩⟩
    · refine ⟨n', hLookup', ?_⟩
      rw [hSame]
      exact .same (.inl hAsks)
        (fun _ _ _ hResolves => absurd hResolves.1 hAnswers)
    · exact ⟨n', hLookup',
        inputMove_of_rewrite hRewrite hNode hAsks hAnswers⟩
  · rcases node_of_accepts hAccepts hLookup with
      ⟨n', hLookup', hSame | ⟨hHere, _⟩⟩
    · refine ⟨n', hLookup', ?_⟩
      rw [hSame]
      exact .same (.inr hNode)
        (fun _ _ _ hResolves => absurd hResolves.2.1 hNode)
    · exact absurd hHere hNode

theorem discussionItems_bounded (ev : Event) :
    Yields ev.discussionItems
      (fun items => items.length ≤ DiscussionItem.maxItems) := by
  refine .bind fun items hItems => .bind fun _ _ => .pure ?_
  rw [orError_eq_ok, Option.filter_eq_some_iff,
    Bool.and_eq_true, decide_eq_true_eq] at hItems
  exact hItems.2.2

theorem InputMove.bounded
    {o o' : Option AwaitingInput}
    (hMove : InputMove ev id o o')
    (hBefore : ∀ q, o = some q →
      q.discussionItems.length ≤ DiscussionItem.maxItems) :
    ∀ q, o' = some q →
      q.discussionItems.length ≤ DiscussionItem.maxItems := by
  intro q' hOpen
  cases hMove with
  | idle => cases hOpen
  | opened items _ _ hItems =>
      cases hOpen
      exact discussionItems_bounded ev items hItems
  | stays q _ hRoom =>
      cases hOpen
      by_cases hNone : ev.itemsOn id = []
      · rw [hNone, AwaitingInput.extend_nil]
        exact hBefore q rfl
      · exact hRoom hNone
  | closed => cases hOpen

end Moves

------------------------------------------------------------
-- Runs
------------------------------------------------------------

/- A node with a question works on it. -/
def Node.AsksLive (n : Node) : Prop :=
  n.awaitingInput ≠ none →
    n.status.isTerminal = false ∧ n.workerExit = none

theorem asksLive_invariant (env : RunEnv) :
    NodeInvariant env Node.AsksLive := by
  constructor
  · intro ev id n hNew hAsks
    exact absurd (newNode_fresh hNew).awaitingInput hAsks
  · intro d ev id n n' hRewrite hBefore hAsks
    cases hRewrite with
    | status s hKind hStatus hLive =>
        dsimp only at hAsks ⊢
        cases hTerminal : s.isTerminal with
        | true => simp [hTerminal] at hAsks
        | false =>
            rw [hTerminal, if_neg (by simp)] at hAsks
            exact ⟨rfl, (hBefore hAsks).2⟩
    | reported => exact absurd rfl hAsks
    | retried => exact absurd rfl hAsks
    | exited => exact absurd rfl hAsks
    | roundReported => exact absurd rfl hAsks
    | resumed => exact absurd rfl hAsks
    | asked question hKind hLive hExit => exact ⟨hLive, hExit⟩
    | answered => exact absurd rfl hAsks
    | _ => exact hBefore hAsks

/- The event that opened a question of the node. -/
def Event.Opens (ev : Event) (id : NodeId) (q : AwaitingInput) :
    Prop :=
  ev.kind = .nodeAwaitingInput ∧ ev.nodeId = some id ∧
    ev.seq = q.eventSeq ∧ ev.ts = q.openedAt

/-
  Every question is sound, and one of the events opened it.
-/
structure InputsSound (evs : List Event) (d : Disk) : Prop where
  sound : ∀ id n, d.nodes.lookup id = some n → n.InputSound
  opened : ∀ id n q, d.nodes.lookup id = some n →
    n.awaitingInput = some q → ∃ ev ∈ evs, ev.Opens id q

/- The items of a sequence of events. -/
def itemsAlong (evs : List Event) (id : NodeId) : List Json :=
  evs.flatMap (fun ev => ev.itemsOn id)

/-
  What becomes of an open question: it is still there with
  the items of all the events, or one of them closed it.
-/
inductive InputCourse
    (env : RunEnv)
    (id : NodeId)
    (q : AwaitingInput)
    (d : Disk)
    (later : List Event)
    (d' : Disk) : Prop where
| still (n' : Node)
    (hLookup : d'.nodes.lookup id = some n')
    (hOpen : n'.awaitingInput =
      some (q.extend (itemsAlong later id)))
| closed (before after : List Event) (ev : Event)
    (d₁ d₂ : Disk) (n₁ n₂ : Node)
    (hSplit : later = before ++ ev :: after)
    (hBefore : AcceptedRun env d before d₁)
    (hLookup : d₁.nodes.lookup id = some n₁)
    (hOpen : n₁.awaitingInput =
      some (q.extend (itemsAlong before id)))
    (hAccepts : Accepts env d₁ ev d₂)
    (hCloses : ev.ClosesInput id q.eventSeq)
    (hLookup' : d₂.nodes.lookup id = some n₂)
    (hNone : n₂.awaitingInput = none)
    (hAfter : AcceptedRun env d₂ after d')

section Runs

variable {env : RunEnv} {d d' : Disk} {ev : Event}
variable {evs later : List Event} {id : NodeId}
variable {n : Node} {q : AwaitingInput}

theorem InputMove.opener
    {o : Option AwaitingInput}
    (hMove : InputMove ev id o (some q)) :
    ev.Opens id q ∨ ∃ q', o = some q' ∧
      q'.eventSeq = q.eventSeq ∧ q'.openedAt = q.openedAt := by
  cases hMove with
  | opened items hKind hNode =>
      exact .inl ⟨hKind, hNode, rfl, rfl⟩
  | stays q' => exact .inr ⟨q', rfl, rfl, rfl⟩

/- A node after an event was created by it or was there. -/
theorem node_before
    (hAccepts : Accepts env d ev d')
    (hLookup : d'.nodes.lookup id = some n) :
    n.Fresh ∨ ∃ n₀, d.nodes.lookup id = some n₀ := by
  have hChange := nodeChange_of_accepts hAccepts id
  rw [hLookup] at hChange
  generalize hBefore : d.nodes.lookup id = before at hChange
  cases hChange with
  | kept => exact .inr ⟨n, rfl⟩
  | created _ _ _ hNew => exact .inl (newNode_fresh hNew)
  | rewritten n₀ => exact .inr ⟨n₀, rfl⟩

theorem InputsSound.step
    (hSound : InputsSound evs d)
    (hAccepts : Accepts env d ev d') :
    InputsSound (evs ++ [ev]) d' := by
  have hLive : ∀ id n, d'.nodes.lookup id = some n →
      n.AsksLive := by
    have hOne : AcceptedRun env d [ev] d' :=
      .cons hAccepts (.nil d')
    apply hOne.holds (asksLive_invariant env)
    intro id n hLookup hAsks
    rcases Option.ne_none_iff_exists'.mp hAsks with ⟨q, hOpen⟩
    exact (hSound.sound id n hLookup).live q hOpen
  constructor
  · intro id n hLookup
    constructor
    · intro q hOpen
      exact hLive id n hLookup (by simp [hOpen])
    · rcases node_before hAccepts hLookup with
        hFresh | ⟨n₀, hBefore⟩
      · intro q hOpen
        rw [hFresh.awaitingInput] at hOpen
        cases hOpen
      · have hHere := hSound.sound id n₀ hBefore
        rcases inputMove_of_accepts hAccepts hBefore hHere with
          ⟨n', hLookup', hMove⟩
        rw [hLookup, Option.some.injEq] at hLookup'
        subst hLookup'
        exact hMove.bounded hHere.bounded
  · intro id n q hLookup hOpen
    rcases node_before hAccepts hLookup with
      hFresh | ⟨n₀, hBefore⟩
    · rw [hFresh.awaitingInput] at hOpen
      cases hOpen
    · rcases inputMove_of_accepts hAccepts hBefore
        (hSound.sound id n₀ hBefore) with ⟨n', hLookup', hMove⟩
      rw [hLookup, Option.some.injEq] at hLookup'
      subst hLookup'
      rw [hOpen] at hMove
      rcases hMove.opener with hOpens | ⟨q', hWas, hSeq, hAt⟩
      · exact ⟨ev, by simp, hOpens⟩
      · rcases hSound.opened id n₀ q' hBefore hWas with
          ⟨e, hMem, hKind, hNode, hSeq', hAt'⟩
        exact ⟨e, by simp [hMem], hKind, hNode,
          hSeq'.trans hSeq, hAt'.trans hAt⟩

theorem InputsSound.run
    (hSound : InputsSound evs d)
    (hRun : AcceptedRun env d later d') :
    InputsSound (evs ++ later) d' := by
  induction hRun generalizing evs with
  | nil => simpa using hSound
  | cons hFirst _ ih =>
      have hLater := ih (hSound.step hFirst)
      rwa [List.append_assoc, List.singleton_append] at hLater

theorem inputsSound_of_run
    (hRun : AcceptedRun env Disk.empty evs d) :
    InputsSound evs d := by
  have hEmpty : InputsSound [] Disk.empty := by
    constructor
    · intro id n hLookup
      simp [Disk.empty] at hLookup
    · intro id n q hLookup
      simp [Disk.empty] at hLookup
  exact hEmpty.run hRun

theorem inputCourse_of_run
    (hSound : InputsSound evs d)
    (hRun : AcceptedRun env d later d')
    (hLookup : d.nodes.lookup id = some n)
    (hOpen : n.awaitingInput = some q) :
    InputCourse env id q d later d' := by
  induction hRun generalizing evs n q with
  | nil =>
      refine .still n hLookup ?_
      rw [hOpen, itemsAlong, List.flatMap_nil,
        AwaitingInput.extend_nil]
  | @cons d d₁ d' ev later hFirst hRest ih =>
      rcases inputMove_of_accepts hFirst hLookup
        (hSound.sound id n hLookup) with ⟨n₁, hLookup₁, hMove⟩
      rw [hOpen] at hMove
      generalize hNext : n₁.awaitingInput = next at hMove
      cases hMove with
      | closed _ hCloses =>
          refine .closed [] later ev d d₁ n n₁ rfl (.nil d)
            hLookup ?_ hFirst hCloses hLookup₁ hNext hRest
          rw [hOpen, itemsAlong, List.flatMap_nil,
            AwaitingInput.extend_nil]
      | stays =>
          cases ih (hSound.step hFirst) hLookup₁ hNext with
          | still n' hLookup' hOpen' =>
              refine .still n' hLookup' ?_
              rw [hOpen', AwaitingInput.extend_extend]
              rfl
          | closed before after e d₂ d₃ n₂ n₃ hSplit hBefore
              hLookup₂ hOpen₂ hAccepts hCloses hLookup₃ hNone
              hAfter =>
              refine .closed (ev :: before) after e d₂ d₃ n₂ n₃
                (by rw [hSplit, List.cons_append])
                (.cons hFirst hBefore) hLookup₂ ?_ hAccepts
                hCloses hLookup₃ hNone hAfter
              rw [hOpen₂, AwaitingInput.extend_extend]
              rfl

/- An answer closes the question exactly if it names it. -/
theorem answer_of_accepts
    (hSound : InputsSound evs d)
    (hAccepts : Accepts env d ev d')
    (hKind : ev.kind = .nodeInputResolved)
    (hLookup : d.nodes.lookup id = some n)
    (hOpen : n.awaitingInput = some q) :
    ∃ n', d'.nodes.lookup id = some n' ∧
      (n'.awaitingInput = none ∧ ev.Resolves id q.eventSeq ∨
        n'.awaitingInput = some q ∧
          ¬ ev.Resolves id q.eventSeq) := by
  rcases inputMove_of_accepts hAccepts hLookup
    (hSound.sound id n hLookup) with ⟨n', hLookup', hMove⟩
  refine ⟨n', hLookup', ?_⟩
  rw [hOpen] at hMove
  generalize n'.awaitingInput = next at hMove ⊢
  cases hMove with
  | closed _ hCloses =>
      rcases hCloses with hResolves | ⟨_, hDrops⟩
      · exact .inl ⟨rfl, hResolves⟩
      · rw [hKind] at hDrops
        cases hDrops
  | stays _ hOther =>
      right
      rw [Event.itemsOn_of_other (.inl (by rw [hKind]; simp)),
        AwaitingInput.extend_nil]
      exact ⟨rfl, fun hResolves => hOther _ hResolves rfl⟩

end Runs

/-
  Any question that is open after accepted events. One of
  them opened it under its own number and time, and it has no
  more items than there may be. An answer closes it if it
  names its number and leaves it as it is otherwise. Through
  all later events it gains the items of the questions on the
  node and nothing else changes, until an event closes it.
-/
theorem input_fence
    (env : RunEnv)
    (evs : List Event)
    (d : Disk)
    (hRun : AcceptedRun env Disk.empty evs d)
    (id : NodeId)
    (n : Node)
    (q : AwaitingInput)
    (hLookup : d.nodes.lookup id = some n)
    (hOpen : n.awaitingInput = some q) :
    q.discussionItems.length ≤ DiscussionItem.maxItems ∧
      (∃ ev ∈ evs, ev.Opens id q) ∧
      (∀ ev d', Accepts env d ev d' →
        ev.kind = .nodeInputResolved →
        ∃ n', d'.nodes.lookup id = some n' ∧
          (n'.awaitingInput = none ∧
              ev.Resolves id q.eventSeq ∨
            n'.awaitingInput = some q ∧
              ¬ ev.Resolves id q.eventSeq)) ∧
      ∀ later d', AcceptedRun env d later d' →
        InputCourse env id q d later d' := by
  have hSound := inputsSound_of_run hRun
  constructor
  · exact (hSound.sound id n hLookup).bounded q hOpen
  constructor
  · exact hSound.opened id n q hLookup hOpen
  constructor
  · intro ev d' hAccepts hKind
    exact answer_of_accepts hSound hAccepts hKind hLookup hOpen
  · intro later d' hLater
    exact inputCourse_of_run hSound hLater hLookup hOpen

namespace Sample

def question (seq : Nat) : Event :=
  event seq .nodeAwaitingInput (some .first) questionData

def answer (seq named : Nat) : Event :=
  event seq .nodeInputResolved (some .first)
    (.obj [("event_seq", .int named)])

/- A question that was answered, and the next one. -/
def askedAgain : List Event :=
  [runCreated, nodeCreated, question 3, answer 4 3, question 5]

end Sample

/- A late answer to the first question spares the second. -/
theorem askedAgain_input_fence :
    ∃ n q n',
      (foldAll Sample.env Disk.empty
        Sample.askedAgain).nodes.lookup .first = some n ∧
      n.awaitingInput = some q ∧ q.eventSeq = 5 ∧
      (foldAll Sample.env
        (foldAll Sample.env Disk.empty Sample.askedAgain)
        [Sample.answer 6 3]).nodes.lookup .first = some n' ∧
      n'.awaitingInput = some q := by
  have hRun :
      AcceptedRun Sample.env Disk.empty Sample.askedAgain
        (foldAll Sample.env Disk.empty Sample.askedAgain) :=
    acceptedRun_foldAll (by decide +kernel)
  have hLate :
      AcceptedRun Sample.env
        (foldAll Sample.env Disk.empty Sample.askedAgain)
        [Sample.answer 6 3]
        (foldAll Sample.env
          (foldAll Sample.env Disk.empty Sample.askedAgain)
          [Sample.answer 6 3]) :=
    acceptedRun_foldAll (by decide +kernel)
  have hSeq :
      (((foldAll Sample.env Disk.empty
        Sample.askedAgain).nodes.lookup .first).bind
        Node.awaitingInput).map AwaitingInput.eventSeq =
        some 5 := by
    decide +kernel
  generalize foldAll Sample.env
    (foldAll Sample.env Disk.empty Sample.askedAgain)
    [Sample.answer 6 3] = d' at hLate ⊢
  generalize foldAll Sample.env Disk.empty Sample.askedAgain = d
    at hRun hLate hSeq ⊢
  rw [Option.map_eq_some_iff] at hSeq
  rcases hSeq with ⟨q, hBound, hFive⟩
  rw [Option.bind_eq_some_iff] at hBound
  rcases hBound with ⟨n, hLookup, hOpen⟩
  have hFence := input_fence Sample.env Sample.askedAgain d hRun
    .first n q hLookup hOpen
  rcases hFence.2.2.1 _ d' hLate.accepts rfl with
    ⟨n', hLookup', ⟨_, hResolves⟩ | ⟨hSame, _⟩⟩
  · have hNamed : some 3 = some q.eventSeq := hResolves.2.2
    rw [hFive] at hNamed
    cases hNamed
  · exact ⟨n, q, n', hLookup, hOpen, hFive, hLookup', hSame⟩

end Taskfleet
