import Taskfleet.KeyedCreation

/-
  The edge of a child in its parent's log, whoever writes it.

  A creation writes the edge after it published the run, and
  a retry of a published run writes it again from the recorded
  parent. Both look for it first, under the lock of the
  parent. So there is never a second edge, and whoever returns
  a child has left one.

  Main declarations:
    * `CreatorStep.runs_cases`
    * `Home.Edged`, `Home.Tied`
    * `Home.Sound.tied_step`, `Home.Sound.tied_run`
    * `parent_edge_once`
-/

------------------------------------------------------------
-- What a Step Does to the Runs
------------------------------------------------------------

namespace Taskfleet

open Fallible

variable {ι : Type}

section Steps

variable [DecidableEq ι]
variable {h : HomeEnv} {S S' : Home ι} {c : ι}

/- A step publishes a run, writes an edge, or leaves them. -/
theorem CreatorStep.runs_cases
    (hStep : CreatorStep h c S S') :
    S'.runs = S.runs ∨
      (∃ r d, S.runs r = none ∧
        S'.runs = Function.update S.runs r (some d)) ∨
      ∃ (l : ParentLink) (x : RunId) (now : Time)
        (d d' : Disk), S.runs l.parent = some d ∧
        (l.append h now x).Leaves d d' ∧
        S'.runs =
          Function.update S.runs l.parent (some d') := by
  cases hStep with
  | publish r d hPhase hId hStaging hAbsent =>
      exact .inr (.inl ⟨r, d, hAbsent, rfl⟩)
  | callerPublish record x d hPhase hParse hStaging hManifest
      hAbsent =>
      exact .inr (.inl ⟨x, d, hAbsent, rfl⟩)
  | link x l now d hPhase hRun hOk =>
      exact .inr (.inr
        ⟨l, x, now, d, _, hRun, .inl rfl, rfl⟩)
  | linkStops x l now d d' next hPhase hRun hLeaves hNext =>
      exact .inr (.inr
        ⟨l, x, now, d, d', hRun, hLeaves, rfl⟩)
  | _ => exact .inl rfl

theorem CreatorStep.phase_of_ne
    {c' : ι}
    (hStep : CreatorStep h c S S')
    (hOther : c' ≠ c) : S'.phase c' = S.phase c' := by
  unfold Home.phase
  cases hStep with
  | mint r hPhase hFresh =>
      rw [Home.mint_creators_ne hOther]
  | callerMint a r plan hPhase hArgs hFresh _ _ =>
      rw [Home.mint_creators_ne hOther]
  | callerStage | callerCreate | callerBuild => rfl
  | _ =>
      exact congrArg Creator.phase
        (Home.goto_creators_ne _ c _ hOther)

end Steps

------------------------------------------------------------
-- Edges That Stay
------------------------------------------------------------

namespace Home

/- The child has an edge in the log of the parent. -/
def Edged (S : Home ι) (p x : RunId) : Prop :=
  ∃ d, S.runs p = some d ∧ HasEdge x.val d

section Edges

variable {h : HomeEnv} {S S' : Home ι} {c : ι} {p x r : RunId}
variable {d d' : Disk}

/- One run is changed, by a section that keeps its edges. -/
theorem Edged.update
    (hSound : S.Sound h)
    (hEdged : S.Edged p x)
    (hRun : S.runs r = some d)
    (hKeeps : r = p → Legibly (h.run r) (HasEdge x.val) d →
      HasEdge x.val d')
    (hRuns : S'.runs = Function.update S.runs r (some d')) :
    S'.Edged p x := by
  rcases hEdged with ⟨dp, hThere, hHas⟩
  unfold Edged
  rw [hRuns]
  by_cases hSame : p = r
  · subst hSame
    rw [hRun, Option.some.injEq] at hThere
    subst hThere
    rcases hSound.drawn p d hRun with ⟨_, _, hHoused⟩
    refine ⟨d', Function.update_self _ _ _, ?_⟩
    exact hKeeps rfl ⟨hHoused.backed.readable, hHas⟩
  · rw [Function.update_of_ne hSame]
    exact ⟨dp, hThere, hHas⟩

variable [DecidableEq ι]

theorem Edged.creatorStep
    (hSound : S.Sound h)
    (hEdged : S.Edged p x)
    (hStep : CreatorStep h c S S') : S'.Edged p x := by
  rcases hStep.runs_cases with
    hRuns | ⟨r, d, hAbsent, hRuns⟩ |
      ⟨l, y, now, d, d', hRun, hLeaves, hRuns⟩
  · unfold Edged
    rw [hRuns]
    exact hEdged
  · rcases hEdged with ⟨dp, hThere, hHas⟩
    have hOther : p ≠ r := by
      rintro rfl
      rw [hAbsent] at hThere
      cases hThere
    refine ⟨dp, ?_, hHas⟩
    rw [hRuns, Function.update_of_ne hOther]
    exact hThere
  · apply hEdged.update hSound hRun ?_ hRuns
    intro _ hHere
    have hKept :=
      Durable.wp_leaves (l.keeps_hasEdge h now y x.val d hHere)
        hLeaves
    exact hKept.2

theorem Edged.step
    (hSound : S.Sound h)
    (hEdged : S.Edged p x)
    (hStep : HomeStep h S S') : S'.Edged p x := by
  cases hStep with
  | creator c hCreator =>
      exact hEdged.creatorStep hSound hCreator
  | orphanEnds y => exact hEdged
  | other r w d d' hRun hLeaves hAsks =>
      apply hEdged.update hSound hRun ?_ rfl
      intro _ hHere
      have hKeeps :=
        (enduring_hasEdge (h.run r) x.val).keeps_writer w
      exact (Durable.wp_leaves (hKeeps d hHere) hLeaves).2

end Edges

------------------------------------------------------------
-- Creators and Edges
------------------------------------------------------------

/-
  What a creator's phase says of the edge of the run it is
  about to return: to which log it goes, and from then on
  that it is there.
-/
structure Tied (S : Home ι) (ph : Phase) : Prop where
  linking : ∀ x l, ph = .linking x l →
    ∃ c₀ n, S.id c₀ = some x ∧
      (S.args c₀).parent = some (l.parent, n)
  linked : ∀ x, ph = .settling x ∨ ph = .done x →
    ∃ c₀, S.id c₀ = some x ∧
      ∀ p, (S.args c₀).parent = some p → S.Edged p.1 x

end Home

namespace Phase

/- The phases that speak of an edge. -/
def ties : Phase → Bool
| .linking _ _ | .settling _ | .done _ => true
| _ => false

section Untied

variable {existing record : ReservationRecord}
variable {rounds : Nat} {request : String}

theorem ties_afterPeek
    (found : Except CliError ExistingReservation) :
    (afterPeek found).ties = false := by
  unfold afterPeek
  split
  · rfl
  · rfl
  · rfl

theorem ties_afterLook
    (published : RunId → Bool) :
    (afterLook existing published rounds).ties = false := by
  unfold afterLook
  split
  · rfl
  · split
    · rfl
    · rfl

theorem ties_afterClassify
    (found : Except CliError ExistingReservation) :
    (afterClassify existing rounds found).ties = false := by
  unfold afterClassify
  split
  · rfl
  · rfl
  · rfl
  · rfl
  · rfl

theorem ties_afterReserve (answer : Reservation) :
    (afterReserve rounds answer).ties = false := by
  cases answer with
  | reserved => rfl
  | alreadyReserved existing => rfl

theorem ties_afterCallerReserve (answer : Reservation) :
    (afterCallerReserve request record answer).ties =
      false := by
  unfold afterCallerReserve
  split
  · rfl
  · split
    · rfl
    · split
      · rfl
      · rfl

theorem ties_failing (cr : Creator) (e : CliError) :
    (cr.failing e).ties = false := by
  unfold Creator.failing
  split
  · rfl
  · split
    · rfl
    · rfl
  · split
    · rfl
    · rfl
  · split
    · rfl
    · rfl
  · split
    · rfl
    · rfl
  · rfl

end Untied

end Phase

namespace Home

section Ties

variable {h : HomeEnv} {S S' : Home ι} {c : ι} {x : RunId}
variable {ph : Phase}

theorem Tied.untied (hTies : ph.ties = false) :
    S.Tied ph := by
  constructor
  · rintro x l rfl
    cases hTies
  · rintro x (rfl | rfl)
    · cases hTies
    · cases hTies

theorem Tied.grows
    (hTied : S.Tied ph)
    (hGrows : S.Grows S')
    (hEdged : ∀ p x, S.Edged p x → S'.Edged p x) :
    S'.Tied ph := by
  constructor
  · intro x l hPhase
    rcases hTied.linking x l hPhase with ⟨c₀, n, hId, hParent⟩
    refine ⟨c₀, n, hGrows.ids c₀ x hId, ?_⟩
    rw [hGrows.args]
    exact hParent
  · intro x hPhase
    rcases hTied.linked x hPhase with ⟨c₀, hId, hAll⟩
    refine ⟨c₀, hGrows.ids c₀ x hId, ?_⟩
    intro p hParent
    rw [hGrows.args] at hParent
    exact hEdged p.1 x (hAll p hParent)

/- The edge goes where the creation of the run was asked to. -/
theorem Tied.afterLink
    {c₀ : ι} {link : Option ParentLink}
    (hId : S.id c₀ = some x)
    (hLink : link.map (fun l => (l.parent, l.node)) =
      (S.args c₀).parent) :
    S.Tied (.afterLink x link) := by
  cases link with
  | none =>
      constructor
      · rintro _ _ ⟨⟩
      · rintro _ (hPhase | hPhase)
        · cases hPhase
          refine ⟨c₀, hId, ?_⟩
          intro p hParent
          rw [← hLink] at hParent
          cases hParent
        · cases hPhase
  | some l =>
      constructor
      · rintro _ _ ⟨⟩
        exact ⟨c₀, l.node, hId, hLink.symm⟩
      · rintro _ (hPhase | hPhase)
        · cases hPhase
        · cases hPhase

/- A published run records the parent it was created with. -/
theorem parentLink_recorded
    {env : RunEnv} {parent : Option (RunId × NodeId)}
    {d : Disk} {link : Option ParentLink}
    (hHoused : Housed env parent d)
    (hOk : parentLink env d = .ok link) :
    link.map (fun l => (l.parent, l.node)) = parent := by
  rcases hHoused.rooted with ⟨m, hManifest, hRun, hNode⟩
  unfold parentLink at hOk
  rw [readManifestOpt_of_readable hHoused.backed.readable,
    hManifest] at hOk
  dsimp only at hOk
  rw [hRun, hNode] at hOk
  cases parent with
  | none =>
      cases hOk
      rfl
  | some p =>
      cases hOk
      rfl

variable [DecidableEq ι]

/- Where a step takes the creator that makes it. -/
theorem Sound.tied_creator
    (hSound : S.Sound h)
    (hTied : S.Tied (S.phase c))
    (hStep : CreatorStep h c S S') :
    S'.Tied (S'.phase c) := by
  have hGrows := hSound.creator_grows hStep
  have hEdged : ∀ p x, S.Edged p x → S'.Edged p x :=
    fun p x hHere => hHere.creatorStep hSound hStep
  have hLater : ∀ {ph : Phase}, S.Tied ph → S'.Tied ph :=
    fun hHere => hHere.grows hGrows hEdged
  cases hStep with
  | lookup k found hPhase hNative hFile hRead =>
      rw [goto_phase_self]
      apply Tied.untied
      cases found with
      | none => rfl
      | some existing => rfl
  | peek existing probe hPhase hPlan hProbe =>
      rw [goto_phase_self]
      exact .untied (Phase.ties_afterPeek _)
  | mint r hPhase hFresh =>
      rw [mint_phase_self]
      apply Tied.untied
      split
      · rfl
      · rfl
  | callerMint a r plan hPhase hArgs hFresh _ _ =>
      rw [mint_phase_self]
      exact .untied rfl
  | reserve r k rounds answer file hPhase hId hFile hOk =>
      rw [goto_phase_self]
      exact .untied (Phase.ties_afterReserve _)
  | look existing rounds hPhase =>
      rw [goto_phase_self]
      exact .untied (Phase.ties_afterLook _)
  | classify existing published rounds probe hPhase hProbe
      hLease =>
      rw [goto_phase_self]
      exact .untied (Phase.ties_afterClassify _)
  | wait existing k rounds found hPhase hFile hRead =>
      rw [goto_phase_self]
      apply Tied.untied
      cases found with
      | none => rfl
      | some current => rfl
  | announce a r hPhase hArgs hId =>
      rw [goto_phase_self]
      apply hLater
      apply Tied.afterLink hId
      rw [hArgs]
      change a.link.map _ = a.parent
      unfold NativeArgs.link
      cases a.parent with
      | none => rfl
      | some p => rfl
  | replay x d link hPhase hRun hOk =>
      rw [goto_phase_self]
      rcases hSound.drawn x d hRun with ⟨c₀, hId, hHoused⟩
      exact hLater
        (.afterLink hId (parentLink_recorded hHoused hOk))
  | link x l now d hPhase hRun hOk =>
      rw [goto_phase_self]
      rcases hTied.linking x l hPhase with
        ⟨c₀, n, hId, hParent⟩
      rcases hSound.drawn l.parent d hRun with
        ⟨_, _, hHoused⟩
      have hHas : HasEdge x.val
          ((l.append h now x).final d) :=
        (Durable.wp_ok (ParentLink.wp_append hHoused) hOk).2
      constructor
      · rintro _ _ ⟨⟩
      · rintro _ (hNext | hNext)
        · cases hNext
          refine ⟨c₀, hGrows.ids c₀ x hId, ?_⟩
          intro p hAsked
          rw [hGrows.args, hParent, Option.some.injEq]
            at hAsked
          subst hAsked
          exact ⟨_, Function.update_self _ _ _, hHas⟩
        · cases hNext
  | linkStops x l now d d' next hPhase hRun hLeaves hNext =>
      rw [goto_phase_self]
      rcases hNext with rfl | ⟨e, rfl⟩
      · exact .untied rfl
      · exact .untied rfl
  | settle x hPhase hOwn =>
      rw [goto_phase_self]
      apply hLater
      constructor
      · rintro _ _ ⟨⟩
      · rintro _ (hNext | hNext)
        · cases hNext
        · cases hNext
          exact hTied.linked x (.inl hPhase)
  | settleReplay x d m hPhase hRun hRead hOwner =>
      rw [goto_phase_self]
      apply hLater
      constructor
      · rintro _ _ ⟨⟩
      · rintro _ (hNext | hNext)
        · cases hNext
        · cases hNext
          exact hTied.linked x (.inl hPhase)
  | fail e hActing =>
      rw [goto_phase_self]
      exact .untied (Phase.ties_failing _ e)
  | failBuilding r e left hBuilding hId =>
      rw [goto_phase_self]
      exact .untied (Phase.ties_failing _ e)
  | callerReserve a r k plan answer file hPhase hArgs hId hFile
      hOk =>
      rw [goto_phase_self]
      exact .untied (Phase.ties_afterCallerReserve _)
  | callerSettle record x hPhase hParse =>
      rw [goto_phase_self]
      have hAdopted : (S.phase c).adopted = some record := by
        rw [hPhase]
        rfl
      rcases hSound.adopted_author hAdopted hParse with
        ⟨c₀, _, hId, _, _, _, hNone⟩
      apply hLater
      constructor
      · rintro _ _ ⟨⟩
      · rintro _ (hNext | hNext)
        · cases hNext
        · cases hNext
          refine ⟨c₀, hId, ?_⟩
          intro p hParent
          rw [hNone] at hParent
          cases hParent
  | callerStage | callerCreate | callerBuild =>
      exact hLater hTied
  | _ =>
      rw [goto_phase_self]
      exact .untied rfl

theorem Sound.tied_step
    (hSound : S.Sound h)
    (hTied : ∀ c, S.Tied (S.phase c))
    (hStep : HomeStep h S S') :
    ∀ c, S'.Tied (S'.phase c) := by
  have hGrows := hSound.step_grows hStep
  have hLater : ∀ {ph : Phase}, S.Tied ph → S'.Tied ph :=
    fun hHere => hHere.grows hGrows
      (fun p x hEdged => hEdged.step hSound hStep)
  intro c'
  cases hStep with
  | creator c hCreator =>
      by_cases hSame : c' = c
      · subst hSame
        exact hSound.tied_creator (hTied c') hCreator
      · rw [hCreator.phase_of_ne hSame]
        exact hLater (hTied c')
  | orphanEnds x => exact hLater (hTied c')
  | other r w d d' hRun hLeaves hAsks =>
      exact hLater (hTied c')

theorem Sound.tied_run
    (hSound : S.Sound h)
    (hTied : ∀ c, S.Tied (S.phase c))
    (hRun : HomeRun h S S') :
    ∀ c, S'.Tied (S'.phase c) := by
  induction hRun with
  | refl => exact hTied
  | step hRun hStep ih =>
      exact (hSound.run hRun).tied_step ih hStep

end Ties

end Home

------------------------------------------------------------
-- One Edge for Each Child
------------------------------------------------------------

/-
  In every run of a home from nothing no log has two edges of
  a child, and once a creator has returned a run that was
  created with a parent, the parent's log has one.
-/
theorem parent_edge_once
    [DecidableEq ι]
    (h : HomeEnv) (S₀ S : Home ι)
    (hFresh : S₀.Fresh)
    (hRun : HomeRun h S₀ S) :
    (∀ p d child, S.runs p = some d →
      d.events.countP (Event.isEdge child) ≤ 1) ∧
    ∀ c x c₀ p, S.phase c = .done x → S.id c₀ = some x →
      (S.args c₀).parent = some p →
      ∃ d, S.runs p.1 = some d ∧
        d.events.countP (Event.isEdge x.val) = 1 := by
  have hStart : S₀.Sound h := Home.Sound.fresh hFresh
  have hSound : S.Sound h := hStart.run hRun
  have hTied : ∀ c, S.Tied (S.phase c) := by
    apply hStart.tied_run ?_ hRun
    intro c
    rw [hFresh.phases]
    exact .untied rfl
  constructor
  · intro p d child hThere
    rcases hSound.drawn p d hThere with ⟨_, _, hHoused⟩
    exact hHoused.slim child
  · intro c x c₀ p hPhase hId hParent
    rcases (hTied c).linked x (.inr hPhase) with
      ⟨c₁, hId₁, hEdged⟩
    have hSame := hSound.distinct c₁ c₀ x hId₁ hId
    subst hSame
    rcases hEdged p hParent with ⟨d, hThere, hHas⟩
    rcases hSound.drawn p.1 d hThere with ⟨_, _, hHoused⟩
    exact ⟨d, hThere, hHoused.slim.count_eq_one hHas⟩

------------------------------------------------------------
-- A Parent and a Child
------------------------------------------------------------

namespace Sample

open Home

def parentArgs : NativeArgs :=
  { keyedArgs with idempotencyKey := none }

def childArgs : NativeArgs :=
  { parentArgs with parent := some (firstDrawn, .first) }

/- A home where the second creation names the first. -/
def family : Home Bool :=
  { twoCreators with
    creators := fun b => {
      args := .native (if b then childArgs else parentArgs)
      process := ⟨1, none, 0⟩
      runId := none
      phase := .start } }

theorem fresh_family : family.Fresh :=
  ⟨fun _ => rfl, fun _ => rfl, fun _ => rfl, fun _ => rfl,
    fun _ => rfl, fun _ => rfl⟩

/- The log of the parent once it is created. -/
def parentDisk : Disk :=
  (appendAndApplyEvent (homeEnv.run firstDrawn)
    (parentArgs.createdRequest 0)).final Disk.empty

def childLink : ParentLink where
  parent := firstDrawn
  node := .first
  kind := .spinoff
  title := "title"

theorem grows_family
    {S S' : Home Bool}
    (hRun : HomeRun homeEnv family S)
    (c : Bool)
    (hStep : CreatorStep homeEnv c S S') :
    HomeRun homeEnv family S' :=
  .step hRun (.creator c hStep)

theorem child_returned :
    ∃ S, HomeRun homeEnv family S ∧
      S.phase true = .done secondDrawn ∧
      S.id true = some secondDrawn ∧
      (S.args true).parent = some (firstDrawn, .first) := by
  obtain ⟨parent, hParent⟩ :
      ∃ answer,
        (appendAndApplyEvent (homeEnv.run firstDrawn)
          (parentArgs.createdRequest 0)).result Disk.empty =
            .ok answer :=
    exists_ok (by decide +kernel)
  obtain ⟨child, hChild⟩ :
      ∃ answer,
        (appendAndApplyEvent (homeEnv.run secondDrawn)
          (childArgs.createdRequest 0)).result Disk.empty =
            .ok answer :=
    exists_ok (by decide +kernel)
  obtain ⟨edge, hEdge⟩ :
      ∃ answer,
        (childLink.append homeEnv 0 secondDrawn).result
          parentDisk = .ok answer :=
    exists_ok (by decide +kernel)
  have hBorn : ∀ S S' : Home Bool,
      S.runs = (S'.publish firstDrawn parentDisk).runs →
      S.published firstDrawn = true := by
    intro S S' hSame
    have hManifest : parentDisk.manifest.isSome = true :=
      (NativeArgs.housed hParent).manifest
    have hThere :
        (S'.publish firstDrawn parentDisk).published
          firstDrawn = true := by
      rw [publish_published hManifest]
      simp
    unfold Home.published at hThere ⊢
    rw [hSame]
    exact hThere
  have hRuns : ∀ (S S' : Home Bool) (d : Disk),
      S.runs = (S'.publish firstDrawn parentDisk).runs →
      (S.publish secondDrawn d).runs firstDrawn =
        some parentDisk := by
    intro S S' d hSame
    have hOther : firstDrawn ≠ secondDrawn := by decide
    have hKept : (S.publish secondDrawn d).runs firstDrawn =
        S.runs firstDrawn :=
      Function.update_of_ne hOther (some d) S.runs
    rw [hKept, hSame]
    exact Function.update_self firstDrawn (some parentDisk)
      S'.runs
  -- the parent
  have h₁ := grows_family .refl false (.unkeyed _ rfl rfl)
  have h₂ := grows_family h₁ false
    (.mint _ firstDrawn rfl (by decide))
  have h₃ := grows_family h₂ false
    (.stage _ firstDrawn rfl rfl (by rintro _ ⟨⟩))
  have h₄ := grows_family h₃ false
    (.create _ parentArgs firstDrawn 0 Disk.empty parent rfl
      rfl rfl (by rw [goto_staging, setStaging_self]) hParent)
  have h₅ := grows_family h₄ false
    (.publish _ firstDrawn parentDisk (.inl rfl) rfl
      (by
        rw [goto_staging, setStaging_self]
        rfl)
      rfl)
  -- the child
  have h₆ := grows_family h₅ true (.unkeyed _ rfl rfl)
  have h₇ := grows_family h₆ true
    (.mint _ secondDrawn rfl (by decide))
  have h₈ := grows_family h₇ true
    (.stage _ secondDrawn rfl rfl
      (by
        rintro _ ⟨⟩
        exact hBorn _ _ rfl))
  have h₉ := grows_family h₈ true
    (.create _ childArgs secondDrawn 0 Disk.empty child rfl
      rfl rfl (by rw [goto_staging, setStaging_self]) hChild)
  have h₁₀ := grows_family h₉ true
    (.publish _ secondDrawn _ (.inl rfl) rfl
      (by rw [goto_staging, setStaging_self]) rfl)
  have h₁₁ := grows_family h₁₀ true
    (.announce _ childArgs secondDrawn rfl rfl rfl)
  have h₁₂ := grows_family h₁₁ true
    (.link _ secondDrawn childLink 0 parentDisk rfl
      (by
        rw [goto_runs, goto_runs]
        exact hRuns _ _ _ rfl)
      hEdge)
  have h₁₃ := grows_family h₁₂ true
    (.settle _ secondDrawn rfl rfl)
  exact ⟨_, h₁₃, rfl, rfl, rfl⟩

end Sample

/- A returned child has its edge. -/
theorem child_edge_once :
    ∃ (S : Home Bool) (d : Disk),
      S.phase true = .done Sample.secondDrawn ∧
      S.runs Sample.firstDrawn = some d ∧
      d.events.countP
        (Event.isEdge Sample.secondDrawn.val) = 1 := by
  obtain ⟨S, hRun, hPhase, hId, hParent⟩ :=
    Sample.child_returned
  have hOnce := parent_edge_once Sample.homeEnv Sample.family S
    Sample.fresh_family hRun
  rcases hOnce.2 true Sample.secondDrawn true _ hPhase hId
    hParent with ⟨d, hThere, hCount⟩
  exact ⟨S, d, hPhase, hThere, hCount⟩

end Taskfleet
