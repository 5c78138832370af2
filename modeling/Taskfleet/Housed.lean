import Taskfleet.Creation

/-
  The directory of a run that was created: its projections
  back its log, its manifest names the parent that the
  creation was asked for, and its log has no second edge of a
  child, whatever is done to it later.

  Main declarations:
    * `Rooted`, `Slim`, `HasEdge`
    * `Housed`, `Housed.keeps_writer`, `Housed.wp_edge`
    * `NativeArgs.housed`, `CallerArgs.housed`
-/

------------------------------------------------------------
-- The Recorded Parent
------------------------------------------------------------

namespace Taskfleet

open Fallible

/- The manifest names this parent. -/
def Rooted (parent : Option (RunId × NodeId)) (s : Disk) :
    Prop :=
  ∃ m, s.manifest = some m ∧
    m.parentRunId = parent.map Prod.fst ∧
    m.parentNodeId = parent.map Prod.snd

theorem lasting_rooted
    (env : RunEnv) (parent : Option (RunId × NodeId)) :
    Lasting env (Rooted parent) := by
  apply lasting_of_puts
  · intro s s' hHere hManifest _
    unfold Rooted
    rwa [hManifest]
  · intro s m' hHere hPut
    rcases hHere with ⟨m, hSome, hRun, hNode⟩
    cases hPut with
    | created hNone =>
        rw [hSome] at hNone
        cases hNone
    | kept m₀ hWas _ _ hParent =>
        rw [hSome, Option.some.injEq] at hWas
        subst hWas
        exact ⟨m', rfl, hParent.1.trans hRun,
          hParent.2.trans hNode⟩
    | intended m₀ _ hWas _ _ _ _ _ hParent =>
        rw [hSome, Option.some.injEq] at hWas
        subst hWas
        exact ⟨m', rfl, hParent.1.trans hRun,
          hParent.2.trans hNode⟩
  · intro s n hHere _ _
    exact hHere
  · intro s ev n n' hHere _ _ _
    exact hHere

------------------------------------------------------------
-- Edges in a Log
------------------------------------------------------------

/- No child has two edges. -/
def Slim (s : Disk) : Prop :=
  ∀ child, s.events.countP (Event.isEdge child) ≤ 1

/- The child has an edge. -/
def HasEdge (child : String) (s : Disk) : Prop :=
  ∃ ev ∈ s.events, ev.isEdge child = true

section Edges

variable {env : RunEnv} {s s' : Disk} {ev : Event}
variable {child : String}

theorem Event.not_isEdge
    (hKind : ev.kind ≠ .childSpawned) :
    ev.isEdge child = false := by
  simp [isEdge, hKind]

theorem Slim.congr
    (hSlim : Slim s) (hEvents : s'.events = s.events) :
    Slim s' := by
  unfold Slim
  rw [hEvents]
  exact hSlim

theorem Slim.log
    (hSlim : Slim s) (hKind : ev.kind ≠ .childSpawned) :
    Slim (s.log ev) := by
  intro child
  rw [Disk.log_events, List.countP_append]
  have hNone : ev.isEdge child = false :=
    Event.not_isEdge hKind
  simpa [hNone] using hSlim child

/- The first edge of a child is logged. -/
theorem Slim.mark
    (hSlim : Slim s)
    (hData : ev.data.getStr "child_run_id" = some child)
    (hNone : ¬ HasEdge child s) :
    Slim (s.log ev) := by
  intro other
  rw [Disk.log_events, List.countP_append,
    List.countP_singleton]
  by_cases hSame : other = child
  · subst hSame
    have hZero :
        s.events.countP (Event.isEdge other) = 0 := by
      apply List.countP_eq_zero.mpr
      intro e hMem hEdge
      exact hNone ⟨e, hMem, hEdge⟩
    rw [hZero]
    split
    · omega
    · omega
  · have hForeign : ev.isEdge other = false := by
      simp [Event.isEdge, hData, Ne.symm hSame]
    simpa [hForeign] using hSlim other

theorem enduring_hasEdge (env : RunEnv) (child : String) :
    Enduring env (HasEdge child) where
  logged := by
    rintro s s' ⟨ev, hMem, hEdge⟩ _ _ hEvents
    exact ⟨ev, hEvents hMem, hEdge⟩
  folded := by
    intro s ev ops j hHere _
    unfold HasEdge
    rwa [Disk.applyOps_events]
  advanced := by
    intro s seq hHere
    unfold HasEdge
    rwa [Disk.advance_events]

/- One edge, neither less nor more. -/
theorem Slim.count_eq_one
    (hSlim : Slim s) (hEdge : HasEdge child s) :
    s.events.countP (Event.isEdge child) = 1 := by
  rcases hEdge with ⟨ev, hMem, hEdge⟩
  have hSome : 0 < s.events.countP (Event.isEdge child) :=
    List.countP_pos_iff.mpr ⟨ev, hMem, hEdge⟩
  have hOnce := hSlim child
  omega

/- One step of reading a log through. -/
def addEvent
    (out : List Event) (entry : LogLine × Nat) :
    Except Error (List Event) :=
  match entry.1 with
  | .blank => .ok out
  | .event ev => .ok (out ++ [ev])
  | _ => .error (notAnEvent (entry.2 + 1))

theorem foldlM_addEvent
    {lines : List LogLine} {n : Nat} {out events : List Event}
    (hRead : (lines.zipIdx n).foldlM addEvent out =
      .ok events) :
    events = out ++ lines.filterMap LogLine.event? := by
  induction lines generalizing n out with
  | nil =>
      cases hRead
      simp
  | cons line rest ih =>
      rw [List.zipIdx_cons, List.foldlM_cons, bind_eq_ok]
        at hRead
      rcases hRead with ⟨acc, hLine, hRest⟩
      have hAcc := ih hRest
      cases line with
      | event ev =>
          cases hLine
          simpa [LogLine.event?] using hAcc
      | blank =>
          cases hLine
          rw [hAcc]
          rfl
      | header => cases hLine
      | space => cases hLine
      | junk => cases hLine

/- A log that can be read through yields its events. -/
theorem readAllEvents_events
    {lines : List LogLine} {events : List Event}
    (hRead : readAllEvents lines = .ok events) :
    events = lines.filterMap LogLine.event? := by
  have hFold :
      (lines.zipIdx 0).foldlM addEvent [] = .ok events :=
    hRead
  exact foldlM_addEvent hFold

end Edges

------------------------------------------------------------
-- Directories of Created Runs
------------------------------------------------------------

structure Housed
    (env : RunEnv)
    (parent : Option (RunId × NodeId))
    (s : Disk) : Prop where
  backed : Backed env s
  rooted : Rooted parent s
  slim : Slim s

section Keeping

variable {env : RunEnv} {parent : Option (RunId × NodeId)}
variable {d : Disk}

/- A run that no edge is logged to twice, while it is folded. -/
theorem kept_slim (env : RunEnv) :
    Kept env (fun s => Backed env s ∧ Slim s) := by
  apply (kept_backed env).and
  · intro s b hSlim
    exact hSlim.congr rfl
  · intro s ev ops k _ hSlim _ _
    exact hSlim.congr (Disk.applyOps_events _ _)
  · intro s ev hSlim _
    exact hSlim.congr (Disk.advance_events _ _)

theorem Housed.manifest (hHoused : Housed env parent d) :
    d.manifest.isSome = true := by
  rcases hHoused.rooted with ⟨m, hSome, _⟩
  rw [hSome]
  rfl

/- Whatever keeps the parts keeps the directory. -/
theorem Housed.keeps
    {α : Type} {x : Locked α}
    (hHoused : Housed env parent d)
    (hBacked :
      Durable.wp x (fun _ s => Backed env s ∧ Slim s)
        (fun _ s => Backed env s ∧ Slim s)
        (fun _ s => Backed env s ∧ Slim s) d)
    (hRooted :
      Durable.Keeps (Legibly env (Rooted parent)) x) :
    Durable.wp x (fun _ => Housed env parent)
      (fun _ => Housed env parent)
      (fun _ => Housed env parent) d := by
  have hBoth :=
    Durable.wp_and hBacked
      (hRooted d ⟨hHoused.backed.readable, hHoused.rooted⟩)
  exact Durable.wp_mono hBoth
    (fun _ _ h => ⟨h.1.1, h.2.2, h.1.2⟩)
    (fun _ _ h => ⟨h.1.1, h.2.2, h.1.2⟩)
    (fun _ _ h => ⟨h.1.1, h.2.2, h.1.2⟩)

theorem Housed.keeps_writer
    {w : Writer}
    (hAsks : ∀ q, w.Asks q → q.kind ≠ .childSpawned) :
    Durable.Keeps (Housed env parent) (w.run env) := by
  intro s hHere
  apply hHere.keeps
  · apply (kept_slim env).wp_writer w
    · intro s' r ops hAsk hBoth hAbreast _ hPlan
      exact ⟨hBoth.1.log hAbreast.1 hAbreast.2 rfl hPlan,
        hBoth.2.log (hAsks r hAsk)⟩
    · exact ⟨hHere.backed, hHere.slim⟩
  · exact (lasting_rooted env parent).enduring.keeps_writer w

theorem Housed.keeps_event
    {r : Request} (hKind : r.kind ≠ .childSpawned) :
    Durable.Keeps (Housed env parent)
      (appendAndApplyEvent env r) := by
  intro s hHere
  have hAsks : ∀ q, (Writer.call (.event r)).Asks q →
      q.kind ≠ .childSpawned := by
    rintro q rfl
    exact hKind
  have hCall : Durable.Keeps (Housed env parent)
      ((Writer.call (.event r)).run env) :=
    Housed.keeps_writer hAsks
  have hHeld := hCall s hHere
  simpa only [Writer.run, Call.run, Durable.wp_bind,
    Durable.wp_pure] using hHeld

/- The first edge of a child is appended. -/
theorem Housed.wp_append_edge
    {now : Time} {node : NodeId} {child key : String}
    {data : Json}
    (hHoused : Housed env parent d)
    (hData : data.getStr "child_run_id" = some child)
    (hNone : ¬ HasEdge child d) :
    Durable.wp
      (appendAndApplyUnlocked env
        (childSpawnedRequest now node key data))
      (fun _ s => Housed env parent s ∧ HasEdge child s)
      (fun _ => Housed env parent)
      (fun _ => Housed env parent) d := by
  have hAppend :=
    (kept_slim env).wp_append
      (r := childSpawnedRequest now node key data)
      (fun s ops hBoth hLines hAbreast hPlan =>
        ⟨hBoth.1.log hAbreast.1 hAbreast.2 rfl hPlan,
          hBoth.2.mark hData (by
            unfold HasEdge
            rw [Disk.events_congr hLines]
            exact hNone)⟩)
      ⟨hHoused.backed, hHoused.slim⟩
  have hRooted :=
    (lasting_rooted env parent).enduring.keeps_append
      (childSpawnedRequest now node key data) d
      ⟨hHoused.backed.readable, hHoused.rooted⟩
  apply Durable.wp_mono (Durable.wp_and hAppend hRooted)
  · rintro _ s ⟨⟨hBoth, _, hLines⟩, _, hHere⟩
    refine ⟨⟨hBoth.1, hHere, hBoth.2⟩,
      (childSpawnedRequest now node key data).event env
        (d.lastSeq + 1), ?_, ?_⟩
    · simp [Disk.events, hLines, Disk.next, LogLine.event?]
    · simpa [Event.isEdge, childSpawnedRequest, Request.event]
        using hData
  · rintro _ s ⟨⟨hBoth, _⟩, _, hHere⟩
    exact ⟨hBoth.1, hHere, hBoth.2⟩
  · rintro _ s ⟨⟨hBoth, _⟩, _, hHere⟩
    exact ⟨hBoth.1, hHere, hBoth.2⟩

/- The first edge of a child, or none if there is one. -/
theorem Housed.wp_edge
    {now : Time} {node : NodeId} {child key : String}
    {data : Json}
    (hHoused : Housed env parent d)
    (hData : data.getStr "child_run_id" = some child) :
    Durable.wp
      (appendChildSpawnedIfMissing env now node child key
        data)
      (fun _ s => Housed env parent s ∧ HasEdge child s)
      (fun _ => Housed env parent)
      (fun _ => Housed env parent) d := by
  unfold appendChildSpawnedIfMissing
  rw [Durable.wp_bind, Durable.wp_read, Durable.wp_bind]
  cases hRead : readAllEvents d.lines with
  | error e =>
      rw [Durable.wp_lift_error]
      exact hHoused
  | ok events =>
      rw [Durable.wp_lift_ok]
      have hEvents : events = d.events :=
        readAllEvents_events hRead
      subst hEvents
      split
      next hAny =>
        rw [Durable.wp_pure]
        exact ⟨hHoused, List.any_eq_true.mp hAny⟩
      next hNot =>
        have hNone : ¬ HasEdge child d := by
          intro hEdge
          exact hNot (List.any_eq_true.mpr hEdge)
        rw [Durable.wp_bind]
        apply Durable.wp_mono
          (hHoused.wp_append_edge hData hNone)
        · intro _ s hDone
          rw [Durable.wp_pure]
          exact hDone
        · exact fun _ _ h => h
        · exact fun _ _ h => h

theorem ParentLink.wp_append
    {h : HomeEnv} {now : Time} {x : RunId} {link : ParentLink}
    (hHoused : Housed (h.run link.parent) parent d) :
    Durable.wp (link.append h now x)
      (fun _ s => Housed (h.run link.parent) parent s ∧
        HasEdge x.val s)
      (fun _ => Housed (h.run link.parent) parent)
      (fun _ => Housed (h.run link.parent) parent) d :=
  hHoused.wp_edge rfl

theorem ParentLink.keeps_append
    (h : HomeEnv) (now : Time) (x : RunId)
    (link : ParentLink) :
    Durable.Keeps (Housed (h.run link.parent) parent)
      (link.append h now x) :=
  fun _ hHoused =>
    Durable.wp_mono (ParentLink.wp_append hHoused)
      (fun _ _ h => h.1) (fun _ _ h => h) (fun _ _ h => h)

/- An edge that is there stays. -/
theorem ParentLink.keeps_hasEdge
    (h : HomeEnv) (now : Time) (x : RunId)
    (link : ParentLink) (child : String) :
    Durable.Keeps
      (Legibly (h.run link.parent) (HasEdge child))
      (link.append h now x) := by
  unfold ParentLink.append appendChildSpawnedIfMissing
  apply Durable.Keeps.read
  intro d _
  apply Durable.Keeps.bind (.lift _)
  intro events
  apply Durable.Keeps.ite
  · intro _
    exact .pure _
  · intro _
    exact .bind ((enduring_hasEdge _ child).keeps_append _)
      (fun _ => .pure _)

end Keeping

------------------------------------------------------------
-- Creation Events
------------------------------------------------------------

section Creation

variable {env : RunEnv} {ev : Event}

theorem lookup_insertOpt_ne
    {name : String} {fields : List (String × Option Json)}
    {kvs : List (String × Json)}
    (hOther : name ∉ fields.map Prod.fst) :
    (fields.foldl insertOpt kvs).lookup name =
      kvs.lookup name := by
  induction fields generalizing kvs with
  | nil => rfl
  | cons field rest ih =>
      rw [List.map_cons, List.mem_cons, not_or] at hOther
      rw [List.foldl_cons, ih hOther.2]
      unfold insertOpt
      split
      · rfl
      · exact Json.lookup_insertField_ne _ _ hOther.1

/- A member that is inserted once is there as inserted. -/
theorem get_objectOf
    {name : String} {v : Option Json}
    {before after : List (String × Option Json)}
    (hBefore : name ∉ before.map Prod.fst)
    (hAfter : name ∉ after.map Prod.fst) :
    (objectOf (before ++ (name, v) :: after)).get name = v := by
  unfold objectOf Json.get
  dsimp only
  rw [List.foldl_append, List.foldl_cons,
    lookup_insertOpt_ne hAfter]
  unfold insertOpt
  dsimp only
  cases v with
  | none => exact lookup_insertOpt_ne hBefore
  | some value => exact Json.lookup_insertField_self _ _ _

theorem NativeArgs.get_parentRun (a : NativeArgs) :
    (objectOf a.createdFields).get "parent_run_id" =
      a.parent.map (fun p => .str p.1.val) := by
  have hSplit : a.createdFields =
      a.createdFields.take 15 ++
        ("parent_run_id",
          a.parent.map (fun p => .str p.1.val)) ::
          a.createdFields.drop 16 := rfl
  rw [hSplit]
  apply get_objectOf
  · simp [createdFields]
  · simp [createdFields]

theorem NativeArgs.get_parentNode (a : NativeArgs) :
    (objectOf a.createdFields).get "parent_node_id" =
      a.parent.map (fun p => .str p.2.val) := by
  have hSplit : a.createdFields =
      a.createdFields.take 16 ++
        ("parent_node_id",
          a.parent.map (fun p => .str p.2.val)) ::
          a.createdFields.drop 17 := rfl
  rw [hSplit]
  apply get_objectOf
  · simp [createdFields]
  · simp [createdFields]

/- The parent of a new manifest is that of its event. -/
theorem newManifest_parent
    {m : Manifest}
    (hNew : ev.newManifest env = .ok m) :
    ev.optRunId "parent_run_id" = .ok m.parentRunId ∧
      ev.optNodeId "parent_node_id" = .ok m.parentNodeId := by
  have hYields : Yields (ev.newManifest env) (fun m =>
      ev.optRunId "parent_run_id" = .ok m.parentRunId ∧
        ev.optNodeId "parent_node_id" =
          .ok m.parentNodeId) := by
    refine .bind fun _ _ => .bind fun _ _ => .bind fun _ _ =>
      .bind fun _ _ => .bind fun _ _ => .bind fun _ _ =>
      .bind fun _ _ => .bind fun _ _ => .bind fun _ hRun =>
      .bind fun _ hNode => .bind fun _ _ => .pure ?_
    exact ⟨hRun, hNode⟩
  exact hYields m hNew

@[simp] theorem RunId.parseStr_val (r : RunId) :
    RunId.parseStr r.val = .ok r := by
  unfold RunId.parseStr
  rw [dif_pos r.valid]

@[simp] theorem NodeId.parseStr_val (id : NodeId) :
    NodeId.parseStr id.val = .ok id := by
  unfold NodeId.parseStr
  rw [dif_pos id.valid]

/- An event that names a parent, or none. -/
def Event.Names
    (parent : Option (RunId × NodeId)) (ev : Event) : Prop :=
  ev.data.get "parent_run_id" =
      parent.map (fun p => .str p.1.val) ∧
    ev.data.get "parent_node_id" =
      parent.map (fun p => .str p.2.val)

theorem rooted_newManifest
    {m : Manifest} {parent : Option (RunId × NodeId)}
    {s : Disk}
    (hNames : ev.Names parent)
    (hNew : ev.newManifest env = .ok m)
    (hManifest : s.manifest = some m) :
    Rooted parent s := by
  rcases newManifest_parent hNew with ⟨hRun, hNode⟩
  refine ⟨m, hManifest, ?_⟩
  unfold Event.optRunId Event.optId at hRun
  unfold Event.optNodeId Event.optId at hNode
  rw [hNames.1] at hRun
  rw [hNames.2] at hNode
  cases parent with
  | none =>
      simp only [Option.map_none, Except.ok.injEq] at hRun hNode
      exact ⟨hRun.symm, hNode.symm⟩
  | some p =>
      simp only [Option.map_some, RunId.parseStr_val,
        NodeId.parseStr_val, Except.ok.injEq] at hRun hNode
      exact ⟨hRun.symm, hNode.symm⟩

/- A creation on an empty directory plans the manifest. -/
theorem reduce_created
    {ops : List ProjectionOp}
    (hKind : ev.kind = .runCreated)
    (hPlan : reduceEventToOps env Disk.empty ev = .ok ops) :
    ∃ m, ev.newManifest env = .ok m ∧ ops = [.manifest m] := by
  unfold reduceEventToOps reduceKind reduceRunCreated at hPlan
  rw [hKind, bind_eq_ok] at hPlan
  rcases hPlan with ⟨_, _, hPlan⟩
  simp only [bind_eq_ok] at hPlan
  rcases hPlan with ⟨found, hRead, hPlan⟩
  cases hRead
  simp only [bind_eq_ok] at hPlan
  rcases hPlan with ⟨m, hNew, hOps⟩
  cases hOps
  exact ⟨m, hNew, rfl⟩

variable {parent : Option (RunId × NodeId)} {r : Request}

/- The first event of a log is its only one. -/
theorem wp_rooted
    (hKind : r.kind = .runCreated)
    (hKey : r.key = none)
    (hNames : ∀ seq, (r.event env seq).Names parent) :
    Durable.wp (appendAndApplyEvent env r)
      (fun _ s => Rooted parent s ∧ Slim s)
      (fun _ s =>
        s.manifest ≠ none → Rooted parent s ∧ Slim s)
      (fun _ s =>
        s.manifest ≠ none → Rooted parent s ∧ Slim s)
      Disk.empty := by
  have hCatchUp :
      Durable.wp (replayUnappliedUnlocked env)
        (fun _ s => s = Disk.empty)
        (fun _ s =>
          s.manifest ≠ none → Rooted parent s ∧ Slim s)
        (fun _ s =>
          s.manifest ≠ none → Rooted parent s ∧ Slim s)
        Disk.empty :=
    wp_catchUp_covered readable_empty rfl
      (fun hSome => absurd rfl hSome)
      (fun hSome => absurd rfl hSome) rfl
  apply wp_appendAndApplyEvent hCatchUp
  · intro s key e _ hSome _
    rw [hKey] at hSome
    cases hSome
  · intro s key prior _ hSome _
    rw [hKey] at hSome
    cases hSome
  · intro s hEmpty _
    subst hEmpty
    apply wp_appendAndApplyReporting hCatchUp
    · rintro s rfl
      exact readable_empty
    · rintro s _ rfl _ hSome
      exact absurd rfl hSome
    · rintro s _ _ rfl _ _ hSome
      exact absurd rfl hSome
    · rintro s last ops rfl hLast hPlan
      rcases reduce_created hKind hPlan with ⟨m, hNew, rfl⟩
      have hSlim :
          Slim (Disk.empty.log (r.event env (last + 1))) := by
        apply Slim.log
        · intro child
          simp [Disk.empty, Disk.events]
        · intro hEdge
          have hCreated : r.kind = .childSpawned := hEdge
          rw [hKind] at hCreated
          cases hCreated
      have hWritten : ∀ s : Disk, s.manifest = some m →
          s.events =
            (Disk.empty.log (r.event env (last + 1))).events →
          Rooted parent s ∧ Slim s :=
        fun s hSome hEvents =>
          ⟨rooted_newManifest (hNames _) hNew hSome,
            hSlim.congr hEvents⟩
      have hPut := hWritten
        (applyOps [.manifest m]
          (Disk.empty.log (r.event env (last + 1)))) rfl
        (Disk.applyOps_events _ _)
      have hWhole :=
        And.intro
          ((lasting_rooted env parent).advanced _ (last + 1)
            hPut.1)
          (hPut.2.congr (Disk.advance_events (last + 1) _))
      constructor
      · exact fun hSome => absurd rfl hSome
      · exact fun hSome => absurd rfl hSome
      · intro j _ _
        rw [List.take_succ_cons, List.take_nil]
        exact hPut
      · exact fun _ _ => hWhole
      · exact hWhole

theorem wp_booted
    {call : Call} (hCreates : call.Creates) :
    Durable.wp (call.run env)
      (fun _ s => s.manifest ≠ none → Backed env s)
      (fun _ s => s.manifest ≠ none → Backed env s)
      (fun _ s => s.manifest ≠ none → Backed env s)
      Disk.empty := by
  constructor
  · intro entry hEntry hManifest
    exact Booted.backed
      ⟨call, hCreates, .inr ⟨entry.1, hEntry⟩, hManifest⟩
  · have hFinal :
        ((call.run env).final Disk.empty).manifest ≠ none →
          Backed env ((call.run env).final Disk.empty) :=
      fun hManifest => Booted.backed
        ⟨call, hCreates, .inl rfl, hManifest⟩
    split
    · exact hFinal
    · exact hFinal

/- A creation that names its parent houses the run. -/
theorem wp_created
    (hKind : r.kind = .runCreated)
    (hKey : r.key = none)
    (hNames : ∀ seq, (r.event env seq).Names parent) :
    Durable.wp (appendAndApplyEvent env r)
      (fun _ s => Housed env parent s)
      (fun _ s => s.manifest ≠ none → Housed env parent s)
      (fun _ s => s.manifest ≠ none → Housed env parent s)
      Disk.empty := by
  have hBooted :
      Durable.wp ((Call.event r).run env)
        (fun _ s => s.manifest ≠ none → Backed env s)
        (fun _ s => s.manifest ≠ none → Backed env s)
        (fun _ s => s.manifest ≠ none → Backed env s)
        Disk.empty := wp_booted hKind
  simp only [Call.run, Durable.wp_bind, Durable.wp_pure]
    at hBooted
  apply Durable.wp_mono
    (Durable.wp_and hBooted (wp_rooted hKind hKey hNames))
  · rintro _ s ⟨hBacked, hRooted, hSlim⟩
    refine ⟨hBacked ?_, hRooted, hSlim⟩
    rcases hRooted with ⟨m, hSome, _⟩
    simp [hSome]
  · rintro _ s ⟨hBacked, hBoth⟩ hSome
    exact ⟨hBacked hSome, (hBoth hSome).1, (hBoth hSome).2⟩
  · rintro _ s ⟨hBacked, hBoth⟩ hSome
    exact ⟨hBacked hSome, (hBoth hSome).1, (hBoth hSome).2⟩

end Creation

------------------------------------------------------------
-- Created Runs
------------------------------------------------------------

section Runs

variable {env : RunEnv} {d : Disk}

theorem NativeArgs.housed
    {a : NativeArgs} {now : Time} {answer : AppendResult}
    (hOk :
      (appendAndApplyEvent env
        (a.createdRequest now)).result Disk.empty =
          .ok answer) :
    Housed env a.parent
      ((appendAndApplyEvent env
        (a.createdRequest now)).final Disk.empty) := by
  have hNames : ∀ seq,
      ((a.createdRequest now).event env seq).Names a.parent :=
    fun _ => ⟨a.get_parentRun, a.get_parentNode⟩
  exact Durable.wp_ok (wp_created rfl rfl hNames) hOk

/- Wherever a caller's creation stops. -/
theorem CallerArgs.housed
    {a : CallerArgs} {now : Time} {fence : Json}
    (hLeaves :
      (appendAndApplyEvent env
        (a.createdRequest now fence)).Leaves Disk.empty d)
    (hManifest : d.manifest ≠ none) :
    Housed env none d := by
  have hNames : ∀ seq,
      ((a.createdRequest now fence).event env seq).Names
        none :=
    fun _ => ⟨rfl, rfl⟩
  have hRun :
      Durable.wp
        (appendAndApplyEvent env (a.createdRequest now fence))
        (fun _ s => s.manifest ≠ none → Housed env none s)
        (fun _ s => s.manifest ≠ none → Housed env none s)
        (fun _ s => s.manifest ≠ none → Housed env none s)
        Disk.empty :=
    Durable.wp_mono (wp_created rfl rfl hNames)
      (fun _ _ hHoused _ => hHoused) (fun _ _ h => h)
      (fun _ _ h => h)
  have hBorn : d.manifest ≠ none → Housed env none d :=
    Durable.wp_leaves hRun hLeaves
  exact hBorn hManifest

end Runs

end Taskfleet
