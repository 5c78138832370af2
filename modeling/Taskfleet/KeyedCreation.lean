import Taskfleet.CreationRuns

/-
  One run for each key, whoever creates, fails or dies.

  The invariant of a home is kept by every step, so a record
  whose run is public is never another's again, and a record
  that was taken over lists what it has to remove until that
  is removed.

  Main declarations:
    * `Home.Sound.step`, `Home.Sound.run`
    * `KeyGuarded`, `create_guards_key`
-/

------------------------------------------------------------
-- Steps That Only Look
------------------------------------------------------------

namespace Taskfleet

open Fallible

namespace Home

variable {ι : Type}

section Views

variable {h : HomeEnv} {S : Home ι} {c : ι}

theorem parseRunId_ok
    {value : String} {x : RunId}
    (hParse : parseRunId value = .ok x) : x.val = value := by
  unfold parseRunId RunId.parseStr at hParse
  split at hParse
  next id hId =>
    cases hParse
    split at hId
    · cases hId
      rfl
    · cases hId
  · cases hParse

theorem parseStr_ok
    {value : String} {x : RunId}
    (hParse : RunId.parseStr value = .ok x) :
    x.val = value := by
  unfold RunId.parseStr at hParse
  split at hParse
  · cases hParse
    rfl
  · cases hParse

/- A creator that has drawn no run id yet. -/
theorem Stands.before
    {ph : Phase}
    (hNative : (S.args c).isNative = true)
    (hNone : S.id c = none)
    (hPhase : ph = .resolving ∨
      ∃ existing k, ph = .peeking existing ∧
        S.file c = some k ∧ S.Wrote h k existing) :
    S.Stands h c ph := by
  have hShape : ph.side = some true ∧ ph.plain = none ∧
      ph.doomed = none ∧ ph.unborn = false ∧
      ph.owns = false ∧ ph.unpaid = [] ∧
      ph.adopted = none := by
    rcases hPhase with rfl | ⟨existing, k, rfl, _⟩
    · exact ⟨rfl, rfl, rfl, rfl, rfl, rfl, rfl⟩
    · exact ⟨rfl, rfl, rfl, rfl, rfl, rfl, rfl⟩
  rcases hShape with
    ⟨hSide, hPlain, hDoomed, hUnborn, hOwns, hUnpaid, hAdopted⟩
  constructor
  · intro b hBoth
    rw [hSide, Option.some.injEq] at hBoth
    exact hNative.trans hBoth
  · exact fun _ => hNone
  · intro seen hSaw
    rcases hPhase with rfl | ⟨existing, k, rfl, hFile, hWrote⟩
    · cases hSaw
    · cases hSaw
      exact ⟨k, hFile, hWrote⟩
  · simp [hPlain]
  · simp [hDoomed]
  · intro existing r hSpared
    rw [Phase.doomed_of_spared hSpared] at hDoomed
    cases hDoomed
  · simp [hUnborn]
  · simp [hOwns]
  · simp [hUnpaid]
  · simp [hAdopted]

/- From one phase of a caller's creator to the next. -/
theorem Stands.adopted_moves
    {ph ph' : Phase} {record : ReservationRecord}
    (hStands : S.Stands h c ph)
    (hAdopted : ph.adopted = some record)
    (hAdopted' : ph'.adopted = some record) :
    S.Stands h c ph' := by
  have hSide : ph.side = some false := by
    cases ph with
    | _ => first | rfl | cases hAdopted
  rcases hStands.adopted record hAdopted with
    ⟨hPlan, k, hFile, hRecord⟩
  exact .adopts hAdopted' (hStands.sided false hSide) hPlan
    hFile hRecord

/- Where an error takes a creator. -/
theorem failing_cases (cr : Creator) (e : CliError) :
    (cr.failing e).free = true ∨
      (cr.phase.owns = true ∧ cr.phase.unpaid = [] ∧
        cr.failing e = .releasing e) := by
  unfold Creator.failing
  split
  · exact .inl rfl
  all_goals try split
  all_goals first
    | exact .inl rfl
    | exact .inr ⟨by simp [*, Phase.owns],
        by simp [*, Phase.unpaid], rfl⟩

theorem failing_building (cr : Creator) (e : CliError) :
    (cr.failing e).building = false := by
  rcases failing_cases cr e with hFree | ⟨_, _, hPhase⟩
  · cases hCase : cr.failing e with
    | _ =>
        rw [hCase] at hFree
        first | rfl | cases hFree
  · rw [hPhase]
    rfl

theorem Stands.failing
    {e : CliError}
    (hStands : S.Stands h c (S.phase c)) :
    S.Stands h c ((S.creators c).failing e) := by
  rcases failing_cases (S.creators c) e with
    hFree | ⟨hOwns, hPaid, hPhase⟩
  · exact .free hFree
  · rw [hPhase]
    exact hStands.keepsOwning hOwns hPaid rfl rfl

/- Of a run id that nobody drew there is nothing on disk. -/
theorem Sound.undrawn
    {r : RunId}
    (hSound : S.Sound h)
    (hFresh : ∀ c', S.id c' ≠ some r) :
    S.runs r = none ∧ S.staging r = none := by
  constructor
  · cases hRun : S.runs r with
    | none => rfl
    | some d =>
        rcases hSound.drawn r d hRun with ⟨c', hId, _⟩
        exact absurd hId (hFresh c')
  · cases hStaging : S.staging r with
    | none => rfl
    | some d =>
        rcases hSound.claimed r d hStaging with ⟨c', hId⟩
        exact absurd hId (hFresh c')

/- Before anybody has begun. -/
theorem Sound.fresh (hFresh : S.Fresh) : S.Sound h := by
  constructor
  · intro c c' r hId
    rw [hFresh.ids] at hId
    cases hId
  · intro k file hFile
    rw [hFresh.records] at hFile
    cases hFile
  · intro r d hRun
    rw [hFresh.runs] at hRun
    cases hRun
  · intro c r k hId
    rw [hFresh.ids] at hId
    cases hId
  · intro k x hMem
    rw [hFresh.owed] at hMem
    cases hMem
  · intro r d hStaging
    rw [hFresh.staging] at hStaging
    cases hStaging
  · intro c r d hId
    rw [hFresh.ids] at hId
    cases hId
  · intro c
    rw [hFresh.phases]
    constructor
    · rintro _ ⟨⟩
    · exact fun _ => hFresh.ids c
    · rintro _ ⟨⟩
    · rintro _ ⟨⟩
    · rintro _ ⟨⟩
    · rintro _ _ ⟨⟩
    · rintro _ ⟨⟩
    · rintro _ _ ⟨⟩
    · rintro _ ⟨⟩
    · rintro _ ⟨⟩

/- Who wrote the record of a caller's run. -/
theorem Sound.adopted_author
    {record : ReservationRecord} {x : RunId}
    (hSound : S.Sound h)
    (hAdopted : (S.phase c).adopted = some record)
    (hParse : RunId.parseStr record.runId = .ok x) :
    ∃ c₁ k, S.id c₁ = some x ∧ S.file c₁ = some k ∧
      S.records k = some (.record record) ∧
      (S.args c₁).isNative = false ∧
      (S.args c₁).parent = none := by
  rcases (hSound.stands c).adopted record hAdopted with
    ⟨hPlan, k, hFile, hRecord⟩
  rcases hSound.author hRecord with
    ⟨c₁, r₁, hId, hFile₁, hRun, hSide, _⟩
  have hSame : r₁ = x :=
    RunId.ext (hRun.symm.trans (parseStr_ok hParse).symm)
  subst hSame
  have hCaller : (S.args c₁).isNative = false := by
    rw [hSide]
    cases hCase : record.callerPlan with
    | none => exact absurd hCase hPlan
    | some plan => rfl
  refine ⟨c₁, k, hId, hFile₁, hRecord, hCaller, ?_⟩
  cases hArgs : S.args c₁ with
  | native a =>
      rw [hArgs] at hCaller
      cases hCaller
  | caller a => rfl

end Views

------------------------------------------------------------
-- Steps That Draw a Run Id
------------------------------------------------------------

section Minting

variable [DecidableEq ι]
variable {h : HomeEnv} {S : Home ι} {c : ι} {r : RunId}
variable {ph : Phase}

theorem mint_creators_ne
    {c' : ι} (hOther : c' ≠ c) :
    (S.mint c r ph).creators c' = S.creators c' :=
  Function.update_of_ne hOther _ _

theorem mint_args (c' : ι) :
    (S.mint c r ph).args c' = S.args c' := by
  unfold args mint
  by_cases hSame : c' = c
  · subst hSame
    simp
  · simp [hSame]

theorem mint_id_self : (S.mint c r ph).id c = some r := by
  simp [id, mint]

theorem mint_id_ne
    {c' : ι} (hOther : c' ≠ c) :
    (S.mint c r ph).id c' = S.id c' := by
  unfold id
  rw [mint_creators_ne hOther]

theorem mint_phase_self : (S.mint c r ph).phase c = ph := by
  simp [phase, mint]

theorem leads_mint
    (hNone : S.id c = none)
    (hActing : (S.phase c).ended = false) :
    S.Leads (S.mint c r ph) := by
  constructor
  · exact mint_args
  · intro c' r' hId
    by_cases hSame : c' = c
    · subst hSame
      rw [hNone] at hId
      cases hId
    · rw [mint_id_ne hSame]
      exact hId
  · intro c' hOver
    by_cases hSame : c' = c
    · subst hSame
      rw [hActing] at hOver
      cases hOver
    · unfold phase
      rw [mint_creators_ne hSame]
      exact hOver

/- A run id that nobody drew before is drawn. -/
theorem Sound.mint
    (hSound : S.Sound h)
    (hPhase : (S.phase c).unminted = true)
    (hFresh : ∀ c', S.id c' ≠ some r)
    (hStands : (S.mint c r ph).Stands h c ph) :
    (S.mint c r ph).Sound h := by
  have hNone := (hSound.stands c).unminted hPhase
  have hActing := Phase.over_of_unminted hPhase
  have hLeads : S.Leads (S.mint c r ph) :=
    leads_mint hNone hActing
  have hActs : S.Acts (S.mint c r ph) c := by
    constructor
    · exact hLeads
    · exact fun c' => mint_creators_ne
    · exact hActing
    · exact fun _ _ _ _ _ hNot => hNot
    · exact fun _ _ _ => .inl ⟨rfl, rfl⟩
  rcases hSound.undrawn hFresh with ⟨hRun, hStaging⟩
  constructor
  · intro c₁ c₂ r' hFirst hSecond
    by_cases hOne : c₁ = c
    · by_cases hTwo : c₂ = c
      · exact hOne.trans hTwo.symm
      · subst hOne
        rw [mint_id_self, Option.some.injEq] at hFirst
        subst hFirst
        rw [mint_id_ne hTwo] at hSecond
        exact absurd hSecond (hFresh c₂)
    · rw [mint_id_ne hOne] at hFirst
      by_cases hTwo : c₂ = c
      · subst hTwo
        rw [mint_id_self, Option.some.injEq] at hSecond
        subst hSecond
        exact absurd hFirst (hFresh c₁)
      · rw [mint_id_ne hTwo] at hSecond
        exact hSound.distinct c₁ c₂ r' hFirst hSecond
  · intro k file hFile
    rcases hSound.filed k file hFile with
      ⟨record, hRecord, hWrote⟩
    exact ⟨record, hRecord, hWrote.leads hLeads⟩
  · intro r' d hThere
    rcases hSound.drawn r' d hThere with ⟨c', hId, hHoused⟩
    refine ⟨c', hLeads.ids c' r' hId, ?_⟩
    rw [hLeads.args]
    exact hHoused
  · intro c' r' k hId hFile hPublished
    by_cases hSame : c' = c
    · subst hSame
      rw [mint_id_self, Option.some.injEq] at hId
      subst hId
      have hAbsent : S.published r = false := by
        unfold Home.published
        rw [hRun]
        rfl
      have hThere : S.published r = true := hPublished
      rw [hAbsent] at hThere
      cases hThere
    · rw [mint_id_ne hSame] at hId
      rw [hLeads.file] at hFile
      exact hSound.kept c' r' k hId hFile hPublished
  · exact hSound.listed
  · intro r' d hThere
    rcases hSound.claimed r' d hThere with ⟨c', hId⟩
    exact ⟨c', hLeads.ids c' r' hId⟩
  · intro c' r' d hId hThere
    by_cases hSame : c' = c
    · subst hSame
      rw [mint_id_self, Option.some.injEq] at hId
      subst hId
      have hSome : S.staging r = some d := hThere
      rw [hStaging] at hSome
      cases hSome
    · rw [mint_id_ne hSame] at hId
      have hHere := hSound.stages c' r' d hId hThere
      rw [hLeads.args]
      unfold phase
      rw [mint_creators_ne hSame]
      exact hHere
  · intro c'
    by_cases hSame : c' = c
    · subst hSame
      rw [mint_phase_self]
      exact hStands
    · exact Stands.other hSound hActs hSame

/- What holds of a creator that has just drawn a run id. -/
theorem Stands.minted
    (hSound : S.Sound h)
    (hFresh : ∀ c', S.id c' ≠ some r)
    (hSided : ∀ b, ph.side = some b →
      (S.args c).isNative = b)
    (hPhase : (∃ rounds, ph = .reserving rounds) ∨
      (ph = .ready ∧ S.file c = none) ∨
      ∃ plan, ph = .callerReserving plan) :
    (S.mint c r ph).Stands h c ph := by
  have hRun := (hSound.undrawn hFresh).1
  have hShape : ph.unminted = false ∧ ph.saw = none ∧
      ph.plain = none ∧ ph.doomed = none ∧
      ph.unpaid = [] ∧ ph.adopted = none ∧
      (ph.owns = true → S.file c = none) := by
    rcases hPhase with ⟨_, rfl⟩ | ⟨rfl, hFile⟩ | ⟨_, rfl⟩
    · refine ⟨rfl, rfl, rfl, rfl, rfl, rfl, ?_⟩
      rintro ⟨⟩
    · exact ⟨rfl, rfl, rfl, rfl, rfl, rfl, fun _ => hFile⟩
    · refine ⟨rfl, rfl, rfl, rfl, rfl, rfl, ?_⟩
      rintro ⟨⟩
  rcases hShape with
    ⟨hMinted, hSaw, hPlain, hDoomed, hUnpaid, hAdopted, hOwns⟩
  constructor
  · intro b hSide
    rw [mint_args]
    exact hSided b hSide
  · simp [hMinted]
  · simp [hSaw]
  · simp [hPlain]
  · simp [hDoomed]
  · intro existing r' hSpared
    rw [Phase.doomed_of_spared hSpared] at hDoomed
    cases hDoomed
  · intro r' _ hId
    rw [mint_id_self, Option.some.injEq] at hId
    subst hId
    change S.published r = false
    unfold Home.published
    rw [hRun]
    rfl
  · intro k r' hOwner hFile
    unfold file at hFile
    rw [mint_args] at hFile
    have hNone := hOwns hOwner
    unfold file at hNone
    rw [hNone] at hFile
    cases hFile
  · simp [hUnpaid]
  · simp [hAdopted]

end Minting

------------------------------------------------------------
-- Steps on Staging Directories
------------------------------------------------------------

section Building

variable [DecidableEq ι]
variable {h : HomeEnv} {S S' : Home ι} {c : ι} {r x : RunId}
variable {ph : Phase} {record : ReservationRecord}

/- An inherited directory is gone. -/
theorem Sound.clean
    {stale k : String} {rest : List String}
    (hSound : S.Sound h)
    (hPhase : S.phase c = .cleaning (stale :: rest))
    (hId : S.id c = some r)
    (hFile : S.file c = some k) :
    (((S.setStaging x none).setOwed k
      ((S.owed k).filter (fun y => y ≠ stale))).goto c
        (.cleaning rest)).Sound h := by
  have hStands := hSound.stands c
  rw [hPhase] at hStands
  have hOwns : (S.phase c).owns = true := by
    rw [hPhase]
    rfl
  have hHere :
      ((S.setStaging x none).setOwed k
        ((S.owed k).filter (fun y => y ≠ stale))).owed k =
          (S.owed k).filter (fun y => y ≠ stale) :=
    Function.update_self _ _ _
  have hOther : ∀ k', k' ≠ k →
      ((S.setStaging x none).setOwed k
        ((S.owed k).filter (fun y => y ≠ stale))).owed k' =
          S.owed k' :=
    fun k' hNe => Function.update_of_ne hNe _ _
  have hStaging : ∀ r' d,
      (S.setStaging x none).staging r' = some d →
      S.staging r' = some d := by
    intro r' d hThere
    by_cases hSame : r' = x
    · subst hSame
      rw [setStaging_self] at hThere
      cases hThere
    · rwa [setStaging_ne S none hSame] at hThere
  have hActs :
      S.Acts
        (((S.setStaging x none).setOwed k
          ((S.owed k).filter (fun y => y ≠ stale))).goto c
            (.cleaning rest)) c := by
    apply acts_goto (Phase.over_of_owns hOwns)
    · rfl
    · exact fun _ _ _ _ _ hNot => hNot
    · intro k' record hRecord
      by_cases hSame : k' = k
      · subst hSame
        rcases hSound.own hOwns hId hFile hRecord with
          ⟨hOwn, hNative, _⟩
        exact .inr ⟨c, r, hId, hOwn, hNative, .inl rfl⟩
      · exact .inl ⟨rfl, hOther k' hSame⟩
  apply hSound.moved hActs rfl
  · intro k' file hThere
    rcases hSound.filed k' file hThere with
      ⟨record, hRecord, hWrote⟩
    exact ⟨record, hRecord, hWrote.leads hActs.leads⟩
  · exact hSound.drawn
  · exact hSound.kept
  · intro k' y hMem
    apply hSound.listed k' y
    by_cases hSame : k' = k
    · subst hSame
      rw [hHere] at hMem
      exact (List.mem_filter.mp hMem).1
    · rwa [hOther k' hSame] at hMem
  · intro r' d hThere
    exact hSound.claimed r' d (hStaging r' d hThere)
  · intro c' r' d hDrawn hThere
    exact hSound.stages_moved rfl rfl hDrawn
      (hStaging r' d hThere)
  · apply hStands.owner rfl rfl hActs.leads
    · exact goto_id _ c _ c
    · rfl
    · intro k' r' hFile' hId'
      rcases hStands.owns k' r' rfl hFile' hId' with
        ⟨hNames, hOwed⟩
      refine ⟨hNames, ?_⟩
      intro y hMem
      rw [hFile, Option.some.injEq] at hFile'
      subst hFile'
      rw [goto_owed, hHere] at hMem
      rcases List.mem_filter.mp hMem with ⟨hOld, hNot⟩
      rcases List.mem_cons.mp (hOwed y hOld) with rfl | hRest
      · simp at hNot
      · exact hRest
    · intro y hMem
      exact hStands.unpaid y (List.mem_cons_of_mem _ hMem)

/- An inherited directory is left half removed. -/
theorem Sound.cleanFails
    {stale : String} {rest : List String}
    {left : Option Disk} {e : CliError}
    (hSound : S.Sound h)
    (hPhase : S.phase c = .cleaning (stale :: rest))
    (hParse : parseRunId stale = .ok x) :
    ((S.setStaging x left).goto c (.closing e)).Sound h := by
  have hStands := hSound.stands c
  rw [hPhase] at hStands
  have hActing : (S.phase c).ended = false := by
    rw [hPhase]
    rfl
  rcases hStands.unpaid stale (List.mem_cons_self ..) with
    ⟨c₀, r₀, hId, hVal, hNative, hOver⟩
  have hSame : r₀ = x :=
    RunId.ext (hVal.trans (parseRunId_ok hParse).symm)
  subst hSame
  apply hSound.restage hActing ⟨c₀, hId⟩
  · intro c' d hDrawn _
    have hSelf := hSound.distinct c₀ c' r₀ hId hDrawn
    subst hSelf
    have hNe : c₀ ≠ c := by
      rintro rfl
      rw [hActing] at hOver
      cases hOver
    have hThere :
        ((S.setStaging r₀ left).goto c (.closing e)).phase
          c₀ = S.phase c₀ := by
      unfold phase
      rw [goto_creators_ne _ c _ hNe]
      rfl
    rw [hThere]
    constructor
    · intro hStaged
      rw [hStaged] at hOver
      cases hOver
    · rintro (hBuilt | hBuilt)
      · rw [hBuilt] at hOver
        cases hOver
      · rw [hBuilt] at hOver
        cases hOver
    · intro hCaller
      rw [hNative] at hCaller
      cases hCaller
  · rintro ⟨⟩
  · exact .free rfl

/- A creation of ours changes its own staging directory. -/
theorem Sound.ownStaging
    {left : Option Disk}
    (hSound : S.Sound h)
    (hActing : (S.phase c).ended = false)
    (hNative : (S.args c).isNative = true)
    (hId : S.id c = some r)
    (hStaged : ph = .staged → left = some Disk.empty)
    (hBuilt : ph = .created ∨ ph = .built →
      ∀ d, left = some d →
        Housed (h.run r) (S.args c).parent d)
    (hStands : S.Stands h c ph) :
    ((S.setStaging r left).goto c ph).Sound h := by
  apply hSound.restage hActing ⟨c, hId⟩
  · intro c' d hDrawn hLeft
    have hSelf := hSound.distinct c' c r hDrawn hId
    subst hSelf
    rw [goto_phase_self]
    constructor
    · intro hPhase
      have hEmpty := hStaged hPhase
      rw [hLeft, Option.some.injEq] at hEmpty
      exact hEmpty
    · intro hPhase
      exact hBuilt hPhase d hLeft
    · intro hCaller
      rw [hNative] at hCaller
      cases hCaller
  · exact fun _ => hId
  · exact hStands

/- A caller's retry changes the staging directory it took on. -/
theorem Sound.takenStaging
    {d : Disk}
    (hSound : S.Sound h)
    (hPhase : S.phase c = .callerHolds record)
    (hParse : RunId.parseStr record.runId = .ok x)
    (hHoused : d.manifest ≠ none →
      (∀ d₀, S.staging x = some d₀ → d₀.manifest ≠ none →
        Housed (h.run x) none d₀) →
      Housed (h.run x) none d) :
    (S.setStaging x (some d)).Sound h := by
  have hStands := hSound.stands c
  have hActing : (S.phase c).ended = false := by
    rw [hPhase]
    rfl
  have hAdopted : (S.phase c).adopted = some record := by
    rw [hPhase]
    rfl
  rcases hSound.adopted_author hAdopted hParse with
    ⟨c₁, k, hId, hFile, hRecord, hCaller, hParent⟩
  have hSelf :
      (S.setStaging x (some d)).goto c (S.phase c) =
        S.setStaging x (some d) :=
    goto_self (S := S.setStaging x (some d)) c
  rw [← hSelf]
  apply hSound.restage hActing ⟨c₁, hId⟩
  · intro c' d' hDrawn hLeft
    have hAuthor := hSound.distinct c₁ c' x hId hDrawn
    subst hAuthor
    rw [Option.some.injEq] at hLeft
    subst hLeft
    rw [hSelf]
    have hPhases : (S.setStaging x (some d)).phase c₁ =
        S.phase c₁ := rfl
    rw [hPhases]
    have hSided := (hSound.stands c₁).sided
    constructor
    · intro hStaged
      rw [hStaged] at hSided
      have hNative := hSided true rfl
      rw [hCaller] at hNative
      cases hNative
    · rintro (hBuilt | hBuilt)
      · rw [hBuilt] at hSided
        have hNative := hSided true rfl
        rw [hCaller] at hNative
        cases hNative
      · rw [hBuilt] at hSided
        have hNative := hSided true rfl
        rw [hCaller] at hNative
        cases hNative
    · intro _ hManifest
      rw [hParent]
      apply hHoused hManifest
      intro d₀ hThere hBorn
      rw [← hParent]
      exact (hSound.stages c₁ x d₀ hId hThere).caller hCaller
        hBorn
  · rw [hPhase]
    rintro ⟨⟩
  · exact hStands

end Building

------------------------------------------------------------
-- Steps on Public Runs
------------------------------------------------------------

section Publishing

variable {h : HomeEnv} {S S' : Home ι} {c : ι} {r x : RunId}

/- What is public changes, but not which runs are. -/
theorem Sound.swap
    (hSound : S.Sound h)
    (hCreators : S'.creators = S.creators)
    (hRecords : S'.records = S.records)
    (hStaging : S'.staging = S.staging)
    (hOwed : S'.owed = S.owed)
    (hPublished : S'.published = S.published)
    (hDrawn : ∀ r d, S'.runs r = some d →
      ∃ c, S.id c = some r ∧
        Housed (h.run r) (S.args c).parent d) :
    S'.Sound h := by
  have hArgs : ∀ c, S'.args c = S.args c := by
    intro c
    unfold args
    rw [hCreators]
  have hIds : ∀ c, S'.id c = S.id c := by
    intro c
    unfold id
    rw [hCreators]
  have hPhases : ∀ c, S'.phase c = S.phase c := by
    intro c
    unfold phase
    rw [hCreators]
  have hLeads : S.Leads S' := by
    constructor
    · exact hArgs
    · intro c r hId
      rw [hIds]
      exact hId
    · intro c hOver
      rw [hPhases]
      exact hOver
  constructor
  · intro c c' r hFirst hSecond
    rw [hIds] at hFirst hSecond
    exact hSound.distinct c c' r hFirst hSecond
  · intro k file hFile
    rw [hRecords] at hFile
    rcases hSound.filed k file hFile with
      ⟨record, hRecord, hWrote⟩
    exact ⟨record, hRecord, hWrote.leads hLeads⟩
  · intro r d hRun
    rcases hDrawn r d hRun with ⟨c, hId, hHoused⟩
    refine ⟨c, hLeads.ids c r hId, ?_⟩
    rw [hArgs]
    exact hHoused
  · intro c r k hId hFile hThere
    rw [hIds] at hId
    rw [hLeads.file] at hFile
    rw [hPublished] at hThere
    unfold Names
    rw [hRecords]
    exact hSound.kept c r k hId hFile hThere
  · rw [hOwed, hRecords]
    exact hSound.listed
  · intro r d hThere
    rw [hStaging] at hThere
    rcases hSound.claimed r d hThere with ⟨c, hId⟩
    exact ⟨c, hLeads.ids c r hId⟩
  · intro c r d hId hThere
    rw [hIds] at hId
    rw [hStaging] at hThere
    rw [hArgs, hPhases]
    exact hSound.stages c r d hId hThere
  · intro c
    rw [hPhases]
    exact (hSound.stands c).same hLeads (hIds c) hPublished
      hRecords hOwed

/- A section on a public run that keeps what houses it. -/
theorem Sound.setRun
    {d d' : Disk}
    (hSound : S.Sound h)
    (hRun : S.runs r = some d)
    (hHoused : ∀ parent, Housed (h.run r) parent d →
      Housed (h.run r) parent d') :
    (S.setRun r d').Sound h := by
  rcases hSound.drawn r d hRun with ⟨c, hId, hHere⟩
  apply hSound.swap
  · rfl
  · rfl
  · rfl
  · rfl
  · funext r'
    unfold Home.published Home.setRun
    dsimp only
    by_cases hSame : r' = r
    · subst hSame
      rw [Function.update_self, hRun]
      dsimp only [Option.any_some]
      rw [hHere.manifest, (hHoused _ hHere).manifest]
    · rw [Function.update_of_ne hSame]
  · intro r' d₁ hThere
    unfold Home.setRun at hThere
    dsimp only at hThere
    by_cases hSame : r' = r
    · subst hSame
      rw [Function.update_self, Option.some.injEq] at hThere
      subst hThere
      exact ⟨c, hId, hHoused _ hHere⟩
    · rw [Function.update_of_ne hSame] at hThere
      exact hSound.drawn r' d₁ hThere

theorem publish_published
    {d : Disk}
    (hManifest : d.manifest.isSome = true) (r' : RunId) :
    (S.publish r d).published r' =
      (decide (r' = r) || S.published r') := by
  unfold Home.published Home.publish Home.setRun setStaging
  dsimp only
  by_cases hSame : r' = r
  · subst hSame
    rw [Function.update_self]
    simpa using hManifest
  · rw [Function.update_of_ne hSame]
    simp [hSame]

theorem publish_staging
    {d d' : Disk}
    (hThere : (S.publish r d).staging x = some d') :
    S.staging x = some d' := by
  have hLeft : (S.setStaging r none).staging x = some d' :=
    hThere
  by_cases hSame : x = r
  · subst hSame
    rw [setStaging_self] at hLeft
    cases hLeft
  · rwa [setStaging_ne S none hSame] at hLeft

variable [DecidableEq ι] {ph : Phase}

/-
  A staging directory becomes public. Its run is the
  creator's own, or one that a caller owns, and the record of
  its key names it.
-/
theorem Sound.publish
    {c₁ : ι} {d : Disk}
    (hSound : S.Sound h)
    (hActing : (S.phase c).ended = false)
    (hId : S.id c₁ = some r)
    (hOwner : c₁ = c ∨ (S.args c₁).isNative = false)
    (hHoused : Housed (h.run r) (S.args c₁).parent d)
    (hNames : ∀ k, S.file c₁ = some k → S.Names k r)
    (hBuilding : ph.building = false)
    (hStands : ((S.publish r d).goto c ph).Stands h c ph) :
    ((S.publish r d).goto c ph).Sound h := by
  have hOthers : ∀ r', r' ≠ r →
      (S.publish r d).published r' = S.published r' := by
    intro r' hNe
    rw [publish_published hHoused.manifest]
    simp [hNe]
  have hActs : S.Acts ((S.publish r d).goto c ph) c := by
    apply acts_goto hActing
    · rfl
    · intro c₀ r₀ hNative hId₀ hNe hNot
      rw [hOthers r₀ ?_]
      · exact hNot
      · rintro rfl
        have hSelf := hSound.distinct c₀ c₁ r₀ hId₀ hId
        subst hSelf
        rcases hOwner with hSelf | hCaller
        · exact hNe hSelf
        · rw [hNative] at hCaller
          cases hCaller
    · exact fun _ _ _ => .inl ⟨rfl, rfl⟩
  apply hSound.moved hActs rfl
  · intro k file hFile
    rcases hSound.filed k file hFile with
      ⟨record, hRecord, hWrote⟩
    exact ⟨record, hRecord, hWrote.leads hActs.leads⟩
  · intro r' d' hThere
    by_cases hSame : r' = r
    · subst hSame
      have hHere : (S.publish r' d).runs r' = some d :=
        Function.update_self _ _ _
      rw [hThere, Option.some.injEq] at hHere
      subst hHere
      exact ⟨c₁, hId, hHoused⟩
    · have hHere : (S.publish r d).runs r' = S.runs r' :=
        Function.update_of_ne hSame _ _
      rw [hHere] at hThere
      exact hSound.drawn r' d' hThere
  · intro c' r' k hId' hFile hThere
    by_cases hSame : r' = r
    · subst hSame
      have hSelf := hSound.distinct c' c₁ r' hId' hId
      subst hSelf
      exact hNames k hFile
    · rw [hOthers r' hSame] at hThere
      exact hSound.kept c' r' k hId' hFile hThere
  · exact hSound.listed
  · intro r' d' hThere
    exact hSound.claimed r' d' (publish_staging hThere)
  · intro c' r' d' hId' hThere
    exact hSound.stages_moved rfl hBuilding hId'
      (publish_staging hThere)
  · exact hStands

/- A creation of ours publishes what it built. -/
theorem Sound.publishOwn
    {d : Disk}
    (hSound : S.Sound h)
    (hPhase : S.phase c = .created ∨ S.phase c = .built)
    (hId : S.id c = some r)
    (hStaging : S.staging r = some d) :
    ((S.publish r d).goto c .published).Sound h := by
  have hOwns : (S.phase c).owns = true := by
    rcases hPhase with hPhase | hPhase
    · rw [hPhase]
      rfl
    · rw [hPhase]
      rfl
  have hStages := hSound.stages c r d hId hStaging
  apply hSound.publish (Phase.over_of_owns hOwns) hId
    (.inl rfl) (hStages.built hPhase)
  · intro k hFile
    exact ((hSound.stands c).owns k r hOwns hFile hId).1
  · rfl
  · exact .free rfl

/- A caller's run is published by whoever holds its lease. -/
theorem Sound.publishTaken
    {record : ReservationRecord} {d : Disk}
    (hSound : S.Sound h)
    (hPhase : S.phase c = .callerHolds record)
    (hParse : RunId.parseStr record.runId = .ok x)
    (hStaging : S.staging x = some d)
    (hManifest : d.manifest ≠ none) :
    ((S.publish x d).goto c (.callerPublished record)).Sound
      h := by
  have hStands := hSound.stands c
  rw [hPhase] at hStands
  have hAdopted : (S.phase c).adopted = some record := by
    rw [hPhase]
    rfl
  rcases hSound.adopted_author hAdopted hParse with
    ⟨c₁, k, hId, hFile₁, hRecord, hCaller, _⟩
  have hStages := hSound.stages c₁ x d hId hStaging
  apply hSound.publish
  · rw [hPhase]
    rfl
  · exact hId
  · exact .inr hCaller
  · exact hStages.caller hCaller hManifest
  · intro k' hFile'
    rw [hFile₁, Option.some.injEq] at hFile'
    subst hFile'
    exact ⟨record, hRecord, (parseStr_ok hParse).symm⟩
  · rfl
  · rcases hStands.adopted record rfl with
      ⟨hPlan, k', hFile, hThere⟩
    have hArgs := hStands.sided false rfl
    apply Stands.adopts (k := k') rfl
    · rw [goto_args]
      exact hArgs
    · exact hPlan
    · rw [goto_file]
      exact hFile
    · exact hThere

end Publishing

------------------------------------------------------------
-- Every Step
------------------------------------------------------------

section Stepping

variable [DecidableEq ι]
variable {h : HomeEnv} {S S' : Home ι} {c : ι}

/- Whatever the creator relies on, it goes on to read or end. -/
theorem Sound.leave
    {ph : Phase}
    (hSound : S.Sound h)
    (hActing : (S.phase c).ended = false)
    (hFree : ph.free = true) :
    (S.goto c ph).Sound h := by
  apply hSound.goto hActing
  · cases ph with
    | _ => first | rfl | cases hFree
  · exact .free hFree

theorem Sound.creatorStep
    (hSound : S.Sound h)
    (hStep : CreatorStep h c S S') :
    S'.Sound h := by
  have hStands := hSound.stands c
  have hActs : ∀ {ph}, S.phase c = ph → ph.ended = false →
      (S.phase c).ended = false := by
    rintro _ rfl hOver
    exact hOver
  cases hStep with
  | unkeyed hPhase hFile =>
      rw [hPhase] at hStands
      apply hSound.goto (hActs hPhase rfl) rfl
      apply Stands.before ?_ (hStands.unminted rfl) (.inl rfl)
      cases hArgs : S.args c with
      | native a => rfl
      | caller a =>
          unfold file at hFile
          rw [hArgs] at hFile
          cases hFile
  | lookup k found hPhase hNative hFile hRead =>
      rw [hPhase] at hStands
      have hNone := hStands.unminted rfl
      cases found with
      | none =>
          apply hSound.goto (hActs hPhase rfl) rfl
          exact .before hNative hNone (.inl rfl)
      | some existing =>
          have hWrote := (hSound.read hRead).2
          apply hSound.goto (hActs hPhase rfl) rfl
          exact .before hNative hNone
            (.inr ⟨existing, k, rfl, hFile, hWrote⟩)
  | peek existing probe hPhase hPlan hProbe =>
      rw [hPhase] at hStands
      have hActing := hActs hPhase rfl
      have hBefore : S.Stands h c .resolving :=
        .before (hStands.sided true rfl)
          (hStands.unminted rfl) (.inl rfl)
      cases classifyExistingReservation probe existing with
      | error e => exact hSound.leave hActing rfl
      | ok answer =>
          cases answer with
          | published x => exact hSound.leave hActing rfl
          | creatorLive =>
              exact hSound.goto hActing rfl hBefore
          | creatorDead =>
              exact hSound.goto hActing rfl hBefore
          | unverifiable =>
              exact hSound.goto hActing rfl hBefore
  | peekConflict existing hPhase hPlan =>
      exact hSound.leave (hActs hPhase rfl) rfl
  | mint r hPhase hFresh =>
      rw [hPhase] at hStands
      have hNative := hStands.sided true rfl
      have hUnminted : (S.phase c).unminted = true := by
        rw [hPhase]
        rfl
      cases hFile : S.file c with
      | none =>
          apply hSound.mint hUnminted hFresh
          apply Stands.minted hSound hFresh
          · rintro _ ⟨⟩
            exact hNative
          · exact .inr (.inl ⟨rfl, hFile⟩)
      | some k =>
          apply hSound.mint hUnminted hFresh
          apply Stands.minted hSound hFresh
          · rintro _ ⟨⟩
            exact hNative
          · exact .inl ⟨8, rfl⟩
  | reserve r k rounds answer file hPhase hId hFile hOk =>
      exact hSound.reserve hPhase hId hFile hOk
  | look existing rounds hPhase =>
      rw [hPhase] at hStands
      have hActing := hActs hPhase rfl
      cases rounds with
      | zero => exact hSound.leave hActing rfl
      | succ rounds =>
          unfold Phase.afterLook
          dsimp only
          split
          · exact hSound.leave hActing rfl
          next hPlan =>
            have hNone : existing.callerPlan = none := by
              simpa using hPlan
            apply hSound.goto hActing rfl
            apply hStands.looking rfl rfl
            · rintro _ ⟨⟩
              exact hStands.saw existing rfl
            · rintro _ ⟨⟩
              exact hNone
            · rintro _ ⟨⟩
            · rintro _ _ ⟨⟩
  | classify existing published rounds probe hPhase hProbe
      hLease =>
      apply hSound.goto (hActs hPhase rfl)
      · cases classifyExistingReservation probe existing with
        | error e => rfl
        | ok answer => cases answer <;> rfl
      · exact hSound.classified hPhase hLease
  | wait existing k rounds found hPhase hFile hRead =>
      rw [hPhase] at hStands
      have hActing := hActs hPhase rfl
      cases found with
      | none =>
          apply hSound.goto hActing rfl
          apply hStands.looking rfl rfl
          · rintro _ ⟨⟩
          · rintro _ ⟨⟩
          · rintro _ ⟨⟩
          · rintro _ _ ⟨⟩
      | some current =>
          have hWrote := (hSound.read hRead).2
          apply hSound.goto hActing rfl
          apply hStands.looking rfl rfl
          · rintro _ ⟨⟩
            exact ⟨k, hFile, hWrote⟩
          · rintro _ ⟨⟩
          · rintro _ ⟨⟩
          · rintro _ _ ⟨⟩
  | recheck existing x rounds hPhase hParse =>
      rw [hPhase] at hStands
      apply hSound.goto (hActs hPhase rfl) rfl
      apply hStands.looking rfl rfl
      · rintro _ ⟨⟩
        exact hStands.saw existing rfl
      · rintro _ ⟨⟩
        exact hStands.plain existing rfl
      · rintro _ ⟨⟩
        exact hStands.doomed existing rfl
      · intro seen r hSpared hVal
        cases hCase : S.published x with
        | true =>
            rw [hCase] at hSpared
            cases hSpared
        | false =>
            rw [hCase] at hSpared
            cases hSpared
            have hSame : r = x := RunId.ext
              (hVal.trans (parseRunId_ok hParse).symm)
            rw [hSame]
            exact hCase
  | reclaim existing published r k rounds file hPhase hId
      hFile hOk =>
      exact hSound.reclaim hPhase hId hFile hOk
  | reclaimLost existing published r k rounds answer file next
      hPhase hId hFile hOk hNext =>
      rw [hPhase] at hStands
      have hSaw : ∃ k, S.file c = some k ∧
          S.Wrote h k next := by
        rcases hNext with rfl | ⟨_, rfl⟩
        · rcases reclaimIn_cases hOk with
            ⟨_, hNot, _⟩ | ⟨_, hNot | ⟨_, hRead, hSame⟩⟩
          · cases hNot
          · cases hNot
          · cases hSame
            exact ⟨k, hFile, (hSound.read hRead).2⟩
        · exact hStands.saw _ rfl
      apply hSound.goto (hActs hPhase rfl) rfl
      apply hStands.looking rfl rfl
      · rintro _ ⟨⟩
        exact hSaw
      · rintro _ ⟨⟩
      · rintro _ ⟨⟩
      · rintro _ _ ⟨⟩
  | clean stale r x k rest hPhase hId hFile hParse =>
      exact hSound.clean hPhase hId hFile
  | cleanFails stale x rest left e hPhase hParse =>
      exact hSound.cleanFails hPhase hParse
  | finish r k file hPhase hId hFile hOk =>
      exact hSound.finish hPhase hId hFile hOk
  | stage r hPhase hId hParent =>
      rw [hPhase] at hStands
      apply hSound.ownStaging (hActs hPhase rfl)
      · exact hStands.sided true rfl
      · exact hId
      · exact fun _ => rfl
      · rintro (hNot | hNot)
        · cases hNot
        · cases hNot
      · exact hStands.keepsOwning rfl rfl rfl rfl
  | create a r now d answer hPhase hArgs hId hStaging hOk =>
      have hStages := hSound.stages c r d hId hStaging
      have hEmpty := hStages.staged hPhase
      subst hEmpty
      rw [hPhase] at hStands
      apply hSound.ownStaging (hActs hPhase rfl)
      · exact hStands.sided true rfl
      · exact hId
      · rintro ⟨⟩
      · rintro _ d' ⟨⟩
        rw [hArgs]
        exact NativeArgs.housed hOk
      · exact hStands.keepsOwning rfl rfl rfl rfl
  | build r now data d answer hPhase hId hStaging hOk =>
      have hStages := hSound.stages c r d hId hStaging
      have hHoused := hStages.built (.inl hPhase)
      rw [hPhase] at hStands
      apply hSound.ownStaging (hActs hPhase rfl)
      · exact hStands.sided true rfl
      · exact hId
      · rintro ⟨⟩
      · rintro _ d' ⟨⟩
        exact Durable.wp_final
          (Housed.keeps_event (by rintro ⟨⟩) d hHoused)
      · exact hStands.keepsOwning rfl rfl rfl rfl
  | publish r d hPhase hId hStaging hAbsent =>
      exact hSound.publishOwn hPhase hId hStaging
  | announce a r hPhase hArgs hId =>
      have hActing := hActs hPhase rfl
      cases a.link with
      | none => exact hSound.leave hActing rfl
      | some link => exact hSound.leave hActing rfl
  | replay x d link hPhase hRun hOk =>
      have hActing := hActs hPhase rfl
      cases link with
      | none => exact hSound.leave hActing rfl
      | some link => exact hSound.leave hActing rfl
  | link x l now d hPhase hRun hOk =>
      have hSet :
          (S.setRun l.parent
            ((l.append h now x).final d)).Sound h := by
        apply hSound.setRun hRun
        intro parent hHoused
        exact Durable.wp_final (l.keeps_append h now x d hHoused)
      exact hSet.leave (hActs hPhase rfl) rfl
  | linkStops x l now d d' next hPhase hRun hLeaves hNext =>
      have hSet : (S.setRun l.parent d').Sound h := by
        apply hSound.setRun hRun
        intro parent hHoused
        exact Durable.wp_leaves (l.keeps_append h now x d hHoused)
          hLeaves
      rcases hNext with rfl | ⟨e, rfl⟩
      · exact hSet.leave (hActs hPhase rfl) rfl
      · exact hSet.leave (hActs hPhase rfl) rfl
  | settle x hPhase hOwn =>
      exact hSound.leave (hActs hPhase rfl) rfl
  | settleReplay x d m hPhase hRun hRead hOwner =>
      exact hSound.leave (hActs hPhase rfl) rfl
  | release r k e file hPhase hId hFile hOk =>
      exact hSound.release hPhase hId hFile hOk
  | releaseFails e hPhase =>
      exact hSound.leave (hActs hPhase rfl) rfl
  | close e hPhase =>
      exact hSound.leave (hActs hPhase rfl) rfl
  | fail e hActing =>
      exact hSound.goto hActing (failing_building _ e)
        hStands.failing
  | failBuilding r e left hBuilding hId =>
      have hOwns := Phase.owns_of_building hBuilding
      have hNative := hStands.sided true
        (Phase.side_of_unborn (Phase.unborn_of_owns hOwns))
      have hActing := Phase.over_of_owns hOwns
      have hNot := failing_building (S.creators c) e
      apply hSound.ownStaging hActing hNative hId
      · intro hPhase
        rw [hPhase] at hNot
        cases hNot
      · rintro (hPhase | hPhase)
        · rw [hPhase] at hNot
          cases hNot
        · rw [hPhase] at hNot
          cases hNot
      · exact hStands.failing
  | crash hActing =>
      exact hSound.leave hActing rfl
  | crashBuilding r left hBuilding hId =>
      have hOwns := Phase.owns_of_building hBuilding
      have hNative := hStands.sided true
        (Phase.side_of_unborn (Phase.unborn_of_owns hOwns))
      have hActing := Phase.over_of_owns hOwns
      apply hSound.ownStaging hActing hNative hId
      · rintro ⟨⟩
      · rintro (hNot | hNot)
        · cases hNot
        · cases hNot
      · exact .free rfl
  | crashOrphan x hActing hLease =>
      have hSet : (S.setOrphan x true).Sound h :=
        hSound.swap rfl rfl rfl rfl rfl hSound.drawn
      exact hSet.leave hActing rfl
  | callerMint a r plan hPhase hArgs hFresh hRequest hBranch =>
      apply hSound.mint ?_ hFresh
      · apply Stands.minted hSound hFresh
        · rintro _ ⟨⟩
          rw [hArgs]
          rfl
        · exact .inr (.inr ⟨plan, rfl⟩)
      · rw [hPhase]
        rfl
  | callerReserve a r k plan answer file hPhase hArgs hId hFile
      hOk =>
      exact hSound.callerReserve hPhase hId hFile hOk
  | callerAcquire record hPhase hFree =>
      rw [hPhase] at hStands
      apply hSound.goto (hActs hPhase rfl) rfl
      exact hStands.adopted_moves rfl rfl
  | callerStage record x hPhase hParse hAbsent hStaging =>
      apply hSound.takenStaging hPhase hParse
      intro hManifest
      exact absurd rfl hManifest
  | callerCreate record a x now fence d hPhase hArgs hParse
      hAbsent hStaging hLeaves =>
      apply hSound.takenStaging hPhase hParse
      intro hManifest _
      exact CallerArgs.housed hLeaves hManifest
  | callerBuild record a plan x now d d' hPhase hArgs hPlan
      hParse hAbsent hStaging hManifest hLeaves =>
      apply hSound.takenStaging hPhase hParse
      intro _ hHoused
      exact Durable.wp_leaves
        (Housed.keeps_event (by rintro ⟨⟩) d
          (hHoused d hStaging hManifest)) hLeaves
  | callerPublish record x d hPhase hParse hStaging hManifest
      hAbsent =>
      exact hSound.publishTaken hPhase hParse hStaging hManifest
  | callerFound record x hPhase hParse hThere =>
      rw [hPhase] at hStands
      apply hSound.goto (hActs hPhase rfl) rfl
      exact hStands.adopted_moves rfl rfl
  | callerSettle record x hPhase hParse =>
      exact hSound.leave (hActs hPhase rfl) rfl

theorem Sound.step
    (hSound : S.Sound h)
    (hStep : HomeStep h S S') : S'.Sound h := by
  cases hStep with
  | creator c hCreator => exact hSound.creatorStep hCreator
  | orphanEnds x =>
      exact hSound.swap rfl rfl rfl rfl rfl hSound.drawn
  | other r w d d' hRun hLeaves hAsks =>
      apply hSound.setRun hRun
      intro parent hHoused
      exact Durable.wp_leaves
        (Housed.keeps_writer hAsks d hHoused) hLeaves

theorem Sound.run
    (hSound : S.Sound h)
    (hRun : HomeRun h S S') : S'.Sound h := by
  induction hRun with
  | refl => exact hSound
  | step _ hStep ih => exact ih.step hStep

end Stepping

------------------------------------------------------------
-- What Lasts
------------------------------------------------------------

/- Requests, run ids and public runs stay. -/
structure Grows (S S' : Home ι) : Prop where
  args : ∀ c, S'.args c = S.args c
  ids : ∀ c r, S.id c = some r → S'.id c = some r
  published : ∀ r, S.published r = true →
    S'.published r = true

section Growing

variable {h : HomeEnv} {S S₁ S' : Home ι} {c : ι} {r : RunId}

theorem Grows.refl : S.Grows S :=
  ⟨fun _ => rfl, fun _ _ hId => hId, fun _ hThere => hThere⟩

theorem Grows.trans
    (hFirst : S.Grows S₁) (hSecond : S₁.Grows S') :
    S.Grows S' := by
  constructor
  · intro c
    exact (hSecond.args c).trans (hFirst.args c)
  · intro c r hId
    exact hSecond.ids c r (hFirst.ids c r hId)
  · intro r hThere
    exact hSecond.published r (hFirst.published r hThere)

theorem Grows.file (hGrows : S.Grows S') (c : ι) :
    S'.file c = S.file c := by
  unfold Home.file
  rw [hGrows.args]

theorem grows_setRun
    {d d' : Disk}
    (hSound : S.Sound h)
    (hRun : S.runs r = some d)
    (hHoused : ∀ parent, Housed (h.run r) parent d →
      Housed (h.run r) parent d') :
    S.Grows (S.setRun r d') := by
  refine ⟨fun _ => rfl, fun _ _ hId => hId, ?_⟩
  intro r' hThere
  rcases hSound.drawn r d hRun with ⟨c, _, hHere⟩
  by_cases hSame : r' = r
  · subst hSame
    unfold Home.published Home.setRun
    dsimp only
    rw [Function.update_self]
    exact (hHoused _ hHere).manifest
  · unfold Home.published Home.setRun
    dsimp only
    rw [Function.update_of_ne hSame]
    exact hThere

theorem grows_publish
    {d : Disk} (hAbsent : S.runs r = none) :
    S.Grows (S.publish r d) := by
  refine ⟨fun _ => rfl, fun _ _ hId => hId, ?_⟩
  intro r' hThere
  by_cases hSame : r' = r
  · subst hSame
    unfold Home.published at hThere
    rw [hAbsent] at hThere
    cases hThere
  · unfold Home.published Home.publish Home.setRun
    dsimp only
    rw [Function.update_of_ne hSame]
    exact hThere

variable [DecidableEq ι]

theorem grows_goto (ph : Phase) : S.Grows (S.goto c ph) := by
  constructor
  · exact goto_args S c ph
  · intro c' r hId
    rw [goto_id]
    exact hId
  · exact fun _ hThere => hThere

theorem grows_mint
    (ph : Phase) (hNone : S.id c = none) :
    S.Grows (S.mint c r ph) := by
  constructor
  · exact mint_args
  · intro c' r' hId
    by_cases hSame : c' = c
    · subst hSame
      rw [hNone] at hId
      cases hId
    · rw [mint_id_ne hSame]
      exact hId
  · exact fun _ hThere => hThere

theorem Sound.creator_grows
    (hSound : S.Sound h)
    (hStep : CreatorStep h c S S') : S.Grows S' := by
  have hUnminted := (hSound.stands c).unminted
  have hQuiet : ∀ {S₁ : Home ι} (ph : Phase),
      S₁.creators = S.creators → S₁.runs = S.runs →
      S.Grows (S₁.goto c ph) := by
    intro S₁ ph hCreators hRuns
    apply Grows.trans ?_ (grows_goto ph)
    constructor
    · intro c'
      unfold args
      rw [hCreators]
    · intro c' r hId
      unfold id
      rw [hCreators]
      exact hId
    · intro r hThere
      unfold Home.published
      rw [hRuns]
      exact hThere
  cases hStep with
  | mint r hPhase hFresh =>
      rw [hPhase] at hUnminted
      exact grows_mint _ (hUnminted rfl)
  | callerMint a r plan hPhase hArgs hFresh _ _ =>
      rw [hPhase] at hUnminted
      exact grows_mint _ (hUnminted rfl)
  | publish r d hPhase hId hStaging hAbsent =>
      exact (grows_publish hAbsent).trans (grows_goto _)
  | callerPublish record x d hPhase hParse hStaging hManifest
      hAbsent =>
      exact (grows_publish hAbsent).trans (grows_goto _)
  | link x l now d hPhase hRun hOk =>
      apply Grows.trans ?_ (grows_goto _)
      apply grows_setRun hSound hRun
      intro parent hHoused
      exact Durable.wp_final (l.keeps_append h now x d hHoused)
  | linkStops x l now d d' next hPhase hRun hLeaves hNext =>
      apply Grows.trans ?_ (grows_goto _)
      apply grows_setRun hSound hRun
      intro parent hHoused
      exact Durable.wp_leaves (l.keeps_append h now x d hHoused)
        hLeaves
  | callerStage | callerCreate | callerBuild =>
      exact ⟨fun _ => rfl, fun _ _ hId => hId,
        fun _ hThere => hThere⟩
  | _ => exact hQuiet _ rfl rfl

theorem Sound.step_grows
    (hSound : S.Sound h)
    (hStep : HomeStep h S S') : S.Grows S' := by
  cases hStep with
  | creator c hCreator => exact hSound.creator_grows hCreator
  | orphanEnds x =>
      exact ⟨fun _ => rfl, fun _ _ hId => hId,
        fun _ hThere => hThere⟩
  | other r w d d' hRun hLeaves hAsks =>
      apply grows_setRun hSound hRun
      intro parent hHoused
      exact Durable.wp_leaves
        (Housed.keeps_writer hAsks d hHoused) hLeaves

theorem Sound.run_grows
    (hSound : S.Sound h)
    (hRun : HomeRun h S S') : S.Grows S' := by
  induction hRun with
  | refl => exact .refl
  | step hRun hStep ih =>
      exact ih.trans ((hSound.run hRun).step_grows hStep)

end Growing

end Home

------------------------------------------------------------
-- One Run for Each Key
------------------------------------------------------------

section Guarding

variable {ι : Type}

/- A run was created with the key of a file. -/
def Home.Under
    (S : Home ι) (k : String) (r : RunId) : Prop :=
  ∃ c, S.file c = some k ∧ S.id c = some r

/-
  How keys are guarded from one home to a later one: what was
  published under a key is all that ever is, its record is
  kept, an operation for a run that the record does not name
  changes nothing, and whoever removes inherited directories
  has the record. What was taken over and is not removed yet
  is listed.
-/
structure KeyGuarded
    (h : HomeEnv) (S S' : Home ι) : Prop where
  once : ∀ k r r', S.Under k r → S.published r = true →
    S'.Under k r' → S'.published r' = true → r' = r
  kept : ∀ k r, S.Under k r → S.published r = true →
    S'.Names k r
  release : ∀ k r file, S'.Under k r → ¬ S'.Names k r →
    releaseIn (h.recordPath k) r.val (S'.records k) =
      .ok file → file = S'.records k
  finish : ∀ k r file, S'.Under k r → ¬ S'.Names k r →
    finishStaleCleanup (h.recordPath k) r.val
      (S'.records k) = .ok file → file = S'.records k
  cleaning : ∀ c rest k r, S'.phase c = .cleaning rest →
    S'.file c = some k → S'.id c = some r → S'.Names k r
  listed : ∀ k x, x ∈ S'.owed k →
    ∃ record, S'.records k = some (.record record) ∧
      x ∈ record.staleRunIds

theorem Home.Sound.read_names
    {h : HomeEnv} {S : Home ι} {k path : String}
    {r : RunId} {record : ReservationRecord}
    (hSound : S.Sound h)
    (hRead : readRecord path (S.records k) =
      .ok (some record))
    (hRun : record.runId = r.val) : S.Names k r :=
  ⟨record, (hSound.read hRead).1, hRun⟩

/- In every run of a home from nothing. -/
theorem create_guards_key
    [DecidableEq ι]
    (h : HomeEnv) (S₀ S S' : Home ι)
    (hFresh : S₀.Fresh)
    (hRun : HomeRun h S₀ S)
    (hOn : HomeRun h S S') :
    KeyGuarded h S S' := by
  have hSound : S.Sound h :=
    (Home.Sound.fresh hFresh).run hRun
  have hLater : S'.Sound h := hSound.run hOn
  have hGrows : S.Grows S' := hSound.run_grows hOn
  have hKept : ∀ k r, S.Under k r → S.published r = true →
      S'.Names k r := by
    rintro k r ⟨c, hFile, hId⟩ hThere
    apply hLater.kept c r k (hGrows.ids c r hId)
    · rw [hGrows.file]
      exact hFile
    · exact hGrows.published r hThere
  constructor
  · rintro k r r' hFirst hThere ⟨c', hFile', hId'⟩ hThere'
    rcases hKept k r hFirst hThere with
      ⟨record, hRecord, hVal⟩
    rcases hLater.kept c' r' k hId' hFile' hThere' with
      ⟨record', hRecord', hVal'⟩
    rw [hRecord, Option.some.injEq, RecordFile.record.injEq]
      at hRecord'
    subst hRecord'
    exact RunId.ext (hVal'.symm.trans hVal)
  · exact hKept
  · intro k r file _ hForeign hOk
    rcases releaseIn_cases hOk with
      hSame | ⟨record, hRead, hVal, _⟩
    · exact hSame
    · exact absurd (hLater.read_names hRead hVal) hForeign
  · intro k r file _ hForeign hOk
    rcases finishStaleCleanup_cases hOk with
      hSame | ⟨record, hRead, hVal, _⟩
    · exact hSame
    · exact absurd (hLater.read_names hRead hVal) hForeign
  · intro c rest k r hPhase hFile hId
    apply ((hLater.stands c).owns k r ?_ hFile hId).1
    rw [hPhase]
    rfl
  · exact hLater.listed

end Guarding

------------------------------------------------------------
-- A Takeover
------------------------------------------------------------

namespace Sample

open Home

def homeEnv : HomeEnv where
  root := "/home"
  parseRfc3339 := fun _ => none
  parseDateTime := fun _ => none

def firstDrawn : RunId :=
  ⟨"01jxa000000000000000000000", by decide⟩

def secondDrawn : RunId :=
  ⟨"01jxb000000000000000000000", by decide⟩

def keyedArgs : NativeArgs where
  sourceRepo := some "repo"
  sourceBranch := some "main"
  idempotencyKey := some "key-1"
  parent := none
  kind := .spinoff
  lifecycle := .interactive
  title := "title"
  details := {
    materializationRepo := some "repo"
    managedTmuxSession := none
    tmuxRetention := none
    notifyCmd := none
    resident := none
    harness := "claude"
    harnessSource := "flag"
    agentSelection := none
    task := none
    createdByRunId := none
    createdBySession := none }

/- A home with two creators that have the same key. -/
def twoCreators : Home Bool where
  records := fun _ => none
  staging := fun _ => none
  runs := fun _ => none
  orphans := fun _ => false
  creators := fun _ => {
    args := .native keyedArgs
    process := ⟨1, none, 0⟩
    runId := none
    phase := .start }
  owed := fun _ => []

theorem fresh_twoCreators : twoCreators.Fresh :=
  ⟨fun _ => rfl, fun _ => rfl, fun _ => rfl, fun _ => rfl,
    fun _ => rfl, fun _ => rfl⟩

def deadRecord : ReservationRecord :=
  (twoCreators.creators false).proposed homeEnv firstDrawn

theorem stale_takeOver :
    (((twoCreators.creators true).proposed homeEnv
      secondDrawn).takeOver deadRecord).staleRunIds =
        [firstDrawn.val] := by
  decide +kernel

theorem secondDrawn_created :
    ∃ answer,
      (appendAndApplyEvent (homeEnv.run secondDrawn)
        (keyedArgs.createdRequest 0)).result Disk.empty =
          .ok answer :=
  exists_ok (by decide +kernel)

section Files

variable {path runId : String} {file : Option RecordFile}
variable {record replacement : ReservationRecord}

theorem reclaimIn_observed
    (hVersion : record.schemaVersion = 1) :
    reclaimIn path record replacement false
        (some (.record record)) =
      .ok (.reclaimed, some (.record replacement)) := by
  simp [reclaimIn, readRecord_record hVersion]

theorem finishStaleCleanup_own
    (hFile : file = some (.record record))
    (hVersion : record.schemaVersion = 1)
    (hRun : record.runId = runId) :
    finishStaleCleanup path runId file =
      .ok (some (.record
        { record with staleRunIds := [] })) := by
  subst hFile
  subst hRun
  unfold finishStaleCleanup
  rw [readRecord_record hVersion]
  cases hStale : record.staleRunIds with
  | nil =>
      have hSame : { record with staleRunIds := [] } =
          record := by
        rw [← hStale]
      rw [hSame]
      simp [bind, Except.bind, pure, Except.pure, hStale]
  | cons y rest =>
      simp [bind, Except.bind, pure, Except.pure, hStale]

end Files

theorem creates
    {S S' : Home Bool}
    (hRun : HomeRun homeEnv twoCreators S)
    (c : Bool)
    (hStep : CreatorStep homeEnv c S S') :
    HomeRun homeEnv twoCreators S' :=
  .step hRun (.creator c hStep)

/-
  The first creator reserves the key and dies. The second
  finds its lease free, takes the record over, cleans up and
  publishes.
-/
theorem taken_over :
    ∃ S, HomeRun homeEnv twoCreators S ∧
      S.published secondDrawn = true := by
  obtain ⟨k, hKey⟩ :
      ∃ k, keyHash (some "repo") (some "main") "key-1" = k :=
    ⟨_, rfl⟩
  have hFile : ∀ (S : Home Bool) (c : Bool),
      S.args c = .native keyedArgs → S.file c = some k := by
    intro S c hArgs
    unfold Home.file
    rw [hArgs, ← hKey]
    rfl
  have hRead : ∀ (S : Home Bool) (x : ReservationRecord),
      (S.setRecord k (some (.record x))).records k =
        some (.record x) :=
    fun _ _ => Function.update_self _ _ _
  -- the second creator looks while there is no record
  have h₁ := creates .refl true
    (.lookup _ k none rfl rfl (hFile _ _ rfl) rfl)
  have h₂ := creates h₁ true
    (.mint _ secondDrawn rfl (by decide))
  -- the first one reserves the key and dies
  have h₃ := creates h₂ false
    (.lookup _ k none rfl rfl (hFile _ _ rfl) rfl)
  have h₄ := creates h₃ false
    (.mint _ firstDrawn rfl (by decide))
  have h₅ := creates h₄ false
    (.reserve _ firstDrawn k 8 .reserved
      (some (.record deadRecord)) rfl rfl (hFile _ _ rfl) rfl)
  have h₆ := creates h₅ false (.crash _ rfl)
  -- the second one finds the record and the lease free
  have h₇ := creates h₆ true
    (.reserve _ secondDrawn k 8 (.alreadyReserved deadRecord)
      (some (.record deadRecord)) rfl rfl (hFile _ _ rfl)
      (by
        rw [goto_records, goto_records, hRead]
        rfl))
  have h₈ := creates h₇ true (.look _ deadRecord 8 rfl)
  have h₉ := creates h₈ true
    (.classify _ deadRecord _ 7
      { published := twoCreators.published
        materializerLiveness := fun path =>
          if path = homeEnv.leasePath firstDrawn.val then .dead
          else .live
        ownerLive := fun _ _ => false
        now := 0 }
      rfl rfl
      (by
        rintro path hDead
          (⟨c, x, hLease, hPath⟩ | ⟨_, hNot, _⟩)
        · have hFirst :
              path = homeEnv.leasePath firstDrawn.val := by
            by_contra hNe
            simp [hNe] at hDead
          rw [hFirst] at hPath
          cases c with
          | false => cases hLease
          | true =>
              cases hLease
              revert hPath
              decide
        · cases hNot))
  have h₁₀ := creates h₉ true
    (.recheck _ deadRecord firstDrawn 7 rfl (by decide))
  have h₁₁ := creates h₁₀ true
    (.reclaim _ deadRecord false secondDrawn k 7 _ rfl rfl
      (hFile _ _ rfl)
      (by
        simp only [goto_records, hRead]
        exact reclaimIn_observed rfl))
  -- it cleans up and goes on
  have h₁₂ := creates h₁₁ true
    (.clean _ firstDrawn.val secondDrawn firstDrawn k []
      (by
        rw [goto_phase_self]
        exact congrArg Phase.cleaning stale_takeOver)
      rfl (hFile _ _ rfl) (by decide))
  have h₁₃ := creates h₁₂ true
    (.finish _ secondDrawn k _ rfl rfl (hFile _ _ rfl)
      (finishStaleCleanup_own (hRead _ _) rfl rfl))
  have h₁₄ := creates h₁₃ true
    (.stage _ secondDrawn rfl rfl (by rintro _ ⟨⟩))
  obtain ⟨answer, hOk⟩ := secondDrawn_created
  have h₁₅ := creates h₁₄ true
    (.create _ keyedArgs secondDrawn 0 Disk.empty answer rfl
      rfl rfl (by rw [goto_staging, setStaging_self]) hOk)
  have h₁₆ := creates h₁₅ true
    (.publish _ secondDrawn _ (.inl rfl) rfl
      (by rw [goto_staging, setStaging_self]) rfl)
  refine ⟨_, h₁₆, ?_⟩
  rw [goto_published, publish_published]
  · simp
  · exact (NativeArgs.housed hOk).manifest

end Sample

/- The key is guarded through the takeover. -/
theorem takeover_guards_key :
    ∃ S, S.published Sample.secondDrawn = true ∧
      KeyGuarded Sample.homeEnv Sample.twoCreators S ∧
      KeyGuarded Sample.homeEnv S S := by
  obtain ⟨S, hRun, hThere⟩ := Sample.taken_over
  refine ⟨S, hThere, ?_, ?_⟩
  · exact create_guards_key Sample.homeEnv Sample.twoCreators
      Sample.twoCreators S Sample.fresh_twoCreators .refl hRun
  · exact create_guards_key Sample.homeEnv Sample.twoCreators
      S S Sample.fresh_twoCreators hRun .refl

end Taskfleet
