import Taskfleet.Housed

/-
  What holds of a home while its creators act.

  A lease is dropped only by a creator that can publish no
  more, so a record is taken over only from a run that stays
  unpublished. Whoever builds a run under a key holds the
  record of the key.

  Main declarations:
    * `Home.Wrote`, `Home.Stands`, `Home.Sound`
    * `Home.Acts`, `Home.Stands.other`, `Home.Sound.moved`
    * `Home.Sound.reclaim`, `Home.Sound.release`
-/

------------------------------------------------------------
-- Phases
------------------------------------------------------------

namespace Taskfleet

open Fallible

namespace Phase

/- The kind of creation that goes through a phase. -/
def side : Phase → Option Bool
| .peeking _ | .resolving | .reserving _ | .observing _ _
| .examining _ _ _ | .waiting _ _ | .condemned _ _
| .reclaiming _ _ _ | .cleaning _ | .ready | .staged
| .created | .built | .releasing _ => some true
| .callerReserving _ | .callerWaits _ | .callerHolds _
| .callerPublished _ => some false
| _ => none

/- No run id is drawn yet. -/
def unminted : Phase → Bool
| .start | .peeking _ | .resolving => true
| _ => false

/- A record that was read and is gone by. -/
def saw : Phase → Option ReservationRecord
| .peeking existing | .observing existing _
| .examining existing _ _ | .waiting existing _
| .condemned existing _ | .reclaiming existing _ _ =>
    some existing
| _ => none

/- A record that was found not to be a caller's. -/
def plain : Phase → Option ReservationRecord
| .examining existing _ _ | .waiting existing _
| .condemned existing _ | .reclaiming existing _ _ =>
    some existing
| _ => none

/- A record whose creator was found dead. -/
def doomed : Phase → Option ReservationRecord
| .condemned existing _ | .reclaiming existing _ _ =>
    some existing
| _ => none

/- A doomed record whose run was then found unpublished. -/
def spared : Phase → Option ReservationRecord
| .reclaiming existing false _ => some existing
| _ => none

/- The creator has a run id, and the run is not public. -/
def unborn : Phase → Bool
| .reserving _ | .observing _ _ | .examining _ _ _
| .waiting _ _ | .condemned _ _ | .reclaiming _ _ _
| .cleaning _ | .ready | .staged | .created | .built
| .releasing _ => true
| _ => false

/- The record of the key, if any, is the creator's. -/
def owns : Phase → Bool
| .cleaning _ | .ready | .staged | .created | .built
| .releasing _ => true
| _ => false

/- The inherited directories that are still to be removed. -/
def unpaid : Phase → List String
| .cleaning rest => rest
| _ => []

/- The record of a caller's run that a creator works on. -/
def adopted : Phase → Option ReservationRecord
| .callerWaits record | .callerHolds record
| .callerPublished record => some record
| _ => none

/- Nothing is relied on: the creator only reads or ends. -/
def free : Phase → Bool
| .published | .replaying _ | .linking _ _ | .settling _
| .closing _ | .done _ | .failed _ | .crashed => true
| _ => false

/- The creator looks at a reservation or waits for it. -/
def looking : Phase → Bool
| .reserving _ | .observing _ _ | .examining _ _ _
| .waiting _ _ | .condemned _ _ | .reclaiming _ _ _ => true
| _ => false

section Relations

variable {ph : Phase} {existing : ReservationRecord}

theorem doomed_of_spared
    (hSpared : ph.spared = some existing) :
    ph.doomed = some existing := by
  cases ph with
  | reclaiming ex published rounds =>
      cases published with
      | true => cases hSpared
      | false => exact hSpared
  | _ => cases hSpared

theorem side_of_unborn (hUnborn : ph.unborn = true) :
    ph.side = some true := by
  cases ph with
  | _ => first | rfl | cases hUnborn

theorem unborn_of_owns (hOwns : ph.owns = true) :
    ph.unborn = true := by
  cases ph with
  | _ => first | rfl | cases hOwns

theorem owns_of_building (hBuilding : ph.building = true) :
    ph.owns = true := by
  cases ph with
  | _ => first | rfl | cases hBuilding

theorem over_of_unminted (hUnminted : ph.unminted = true) :
    ph.ended = false := by
  cases ph with
  | _ => first | rfl | cases hUnminted

theorem over_of_owns (hOwns : ph.owns = true) :
    ph.ended = false := by
  cases ph with
  | _ => first | rfl | cases hOwns

end Relations

end Phase

theorem RunId.ext {r r' : RunId} (hVal : r.val = r'.val) :
    r = r' := by
  cases r
  cases r'
  simpa using hVal

------------------------------------------------------------
-- What Changes
------------------------------------------------------------

namespace Home

variable {ι : Type}

section Updates

variable [DecidableEq ι] (S : Home ι) (c : ι) (ph : Phase)

@[simp] theorem goto_records :
    (S.goto c ph).records = S.records := rfl

@[simp] theorem goto_staging :
    (S.goto c ph).staging = S.staging := rfl

@[simp] theorem goto_runs :
    (S.goto c ph).runs = S.runs := rfl

@[simp] theorem goto_owed :
    (S.goto c ph).owed = S.owed := rfl

@[simp] theorem goto_published :
    (S.goto c ph).published = S.published := rfl

theorem goto_creators_ne
    {c' : ι} (hOther : c' ≠ c) :
    (S.goto c ph).creators c' = S.creators c' :=
  Function.update_of_ne hOther _ _

@[simp] theorem goto_args (c' : ι) :
    (S.goto c ph).args c' = S.args c' := by
  unfold args goto
  by_cases hSame : c' = c
  · subst hSame
    simp
  · simp [hSame]

@[simp] theorem goto_file (c' : ι) :
    (S.goto c ph).file c' = S.file c' := by
  unfold file
  rw [goto_args]

@[simp] theorem goto_id (c' : ι) :
    (S.goto c ph).id c' = S.id c' := by
  unfold id goto
  by_cases hSame : c' = c
  · subst hSame
    simp
  · simp [hSame]

@[simp] theorem goto_phase_self :
    (S.goto c ph).phase c = ph := by
  simp [phase, goto]

end Updates

/-
  One home leads to another: nobody changes the request or
  the run id, and who has ended has ended.
-/
structure Leads (S S' : Home ι) : Prop where
  args : ∀ c, S'.args c = S.args c
  ids : ∀ c r, S.id c = some r → S'.id c = some r
  ended : ∀ c, (S.phase c).ended = true →
    (S'.phase c).ended = true

/- The run of a creation of ours that has ended. -/
def Gone (S : Home ι) (x : String) : Prop :=
  ∃ c r, S.id c = some r ∧ r.val = x ∧
    (S.args c).isNative = true ∧ (S.phase c).ended = true

/-
  A record as some creator with the key wrote it: for its own
  run, with its own lease, and with none but ended creations
  in the list of inherited runs.
-/
structure Wrote
    (h : HomeEnv) (S : Home ι) (k : String)
    (record : ReservationRecord) : Prop where
  version : record.schemaVersion = 1
  author : ∃ c r, S.id c = some r ∧ S.file c = some k ∧
    record.runId = r.val ∧
    (S.args c).isNative = record.callerPlan.isNone ∧
    ∃ lease, record.creator = some lease ∧
      lease.materializerLeasePath = some (h.leasePath r.val)
  stale : ∀ x ∈ record.staleRunIds, S.Gone x

/- The record of a file names a run. -/
def Names (S : Home ι) (k : String) (r : RunId) : Prop :=
  ∃ record, S.records k = some (.record record) ∧
    record.runId = r.val

section Staging

variable (S : Home ι) (left : Option Disk)

theorem setOwed_here (k : String) (ids : List String) :
    (S.setOwed k ids).owed k = ids := by
  simp [setOwed]

theorem setRecord_owed
    (k : String) (file : Option RecordFile) :
    (S.setRecord k file).owed = S.owed := rfl

theorem setOwed_self (k : String) :
    S.setOwed k (S.owed k) = S := by
  unfold setOwed
  rw [Function.update_eq_self]

theorem setRecord_self (k : String) :
    S.setRecord k (S.records k) = S := by
  unfold setRecord
  rw [Function.update_eq_self]

theorem setStaging_self (r : RunId) :
    (S.setStaging r left).staging r = left := by
  simp [setStaging]

theorem setStaging_ne
    {r r' : RunId} (hOther : r' ≠ r) :
    (S.setStaging r left).staging r' = S.staging r' := by
  simp [setStaging, hOther]

end Staging

section Leading

variable {h : HomeEnv} {S S' : Home ι} {c : ι} {k x : String}
variable {record : ReservationRecord}

theorem Leads.file (hLeads : S.Leads S') (c : ι) :
    S'.file c = S.file c := by
  unfold Home.file
  rw [hLeads.args]

theorem Gone.leads
    (hGone : S.Gone x) (hLeads : S.Leads S') : S'.Gone x := by
  rcases hGone with ⟨c, r, hId, hVal, hNative, hOver⟩
  refine ⟨c, r, hLeads.ids c r hId, hVal, ?_,
    hLeads.ended c hOver⟩
  rw [hLeads.args]
  exact hNative

theorem Wrote.leads
    (hWrote : S.Wrote h k record) (hLeads : S.Leads S') :
    S'.Wrote h k record := by
  refine ⟨hWrote.version, ?_,
    fun x hMem => (hWrote.stale x hMem).leads hLeads⟩
  rcases hWrote.author with
    ⟨c, r, hId, hFile, hRun, hSide, hLease⟩
  refine ⟨c, r, hLeads.ids c r hId, ?_, hRun, ?_, hLease⟩
  · rw [hLeads.file]
    exact hFile
  · rw [hLeads.args]
    exact hSide

end Leading

------------------------------------------------------------
-- The Invariant
------------------------------------------------------------

/- What holds of a creator in a phase. -/
structure Stands
    (h : HomeEnv) (S : Home ι) (c : ι) (ph : Phase) :
    Prop where
  sided : ∀ b, ph.side = some b → (S.args c).isNative = b
  unminted : ph.unminted = true → S.id c = none
  saw : ∀ existing, ph.saw = some existing →
    ∃ k, S.file c = some k ∧ S.Wrote h k existing
  plain : ∀ existing, ph.plain = some existing →
    existing.callerPlan = none
  doomed : ∀ existing, ph.doomed = some existing →
    S.Gone existing.runId
  spared : ∀ existing r, ph.spared = some existing →
    r.val = existing.runId → S.published r = false
  unborn : ∀ r, ph.unborn = true → S.id c = some r →
    S.published r = false
  owns : ∀ k r, ph.owns = true → S.file c = some k →
    S.id c = some r →
    S.Names k r ∧ ∀ x ∈ S.owed k, x ∈ ph.unpaid
  unpaid : ∀ x ∈ ph.unpaid, S.Gone x
  adopted : ∀ record, ph.adopted = some record →
    record.callerPlan ≠ none ∧
      ∃ k, S.file c = some k ∧
        S.records k = some (.record record)

/-
  What holds of a staging directory. A creation of ours goes
  on with what it built itself; a caller's run is gone on
  with wherever it stopped, once it has a manifest.
-/
structure Stages
    (h : HomeEnv) (args : CreateArgs) (ph : Phase)
    (r : RunId) (d : Disk) : Prop where
  staged : ph = .staged → d = Disk.empty
  built : ph = .created ∨ ph = .built →
    Housed (h.run r) args.parent d
  caller : args.isNative = false → d.manifest ≠ none →
    Housed (h.run r) args.parent d

/- What holds of a home. -/
structure Sound (h : HomeEnv) (S : Home ι) : Prop where
  distinct : ∀ c c' r, S.id c = some r → S.id c' = some r →
    c = c'
  filed : ∀ k file, S.records k = some file →
    ∃ record, file = .record record ∧ S.Wrote h k record
  drawn : ∀ r d, S.runs r = some d →
    ∃ c, S.id c = some r ∧
      Housed (h.run r) (S.args c).parent d
  kept : ∀ c r k, S.id c = some r → S.file c = some k →
    S.published r = true → S.Names k r
  listed : ∀ k x, x ∈ S.owed k →
    ∃ record, S.records k = some (.record record) ∧
      x ∈ record.staleRunIds
  claimed : ∀ r d, S.staging r = some d →
    ∃ c, S.id c = some r
  stages : ∀ c r d, S.id c = some r → S.staging r = some d →
    Stages h (S.args c) (S.phase c) r d
  stands : ∀ c, S.Stands h c (S.phase c)

------------------------------------------------------------
-- Steps Seen from Outside
------------------------------------------------------------

/-
  What a step of creator `c` does to the others. It publishes
  no run of ours but its own, and it changes only a record
  that is its own or that of a creation which has ended.
-/
structure Acts (S S' : Home ι) (c : ι) : Prop where
  leads : S.Leads S'
  others : ∀ c', c' ≠ c → S'.creators c' = S.creators c'
  acting : (S.phase c).ended = false
  quiet : ∀ c₀ r, (S.args c₀).isNative = true →
    S.id c₀ = some r → c₀ ≠ c → S.published r = false →
    S'.published r = false
  held : ∀ k record, S.records k = some (.record record) →
    (S'.records k = S.records k ∧ S'.owed k = S.owed k) ∨
      ∃ c₀ r, S.id c₀ = some r ∧ record.runId = r.val ∧
        (S.args c₀).isNative = true ∧
        (c₀ = c ∨ (S.phase c₀).ended = true)

section Framing

variable {h : HomeEnv} {S S' : Home ι} {c c' : ι}

theorem Sound.author
    {k : String} {record : ReservationRecord}
    (hSound : S.Sound h)
    (hRecord : S.records k = some (.record record)) :
    ∃ c r, S.id c = some r ∧ S.file c = some k ∧
      record.runId = r.val ∧
      (S.args c).isNative = record.callerPlan.isNone ∧
      ∃ lease, record.creator = some lease ∧
        lease.materializerLeasePath =
          some (h.leasePath r.val) := by
  rcases hSound.filed k _ hRecord with ⟨rec', hFile, hWrote⟩
  cases hFile
  exact hWrote.author

theorem Gone.quiet
    {r : RunId}
    (hActs : S.Acts S' c)
    (hGone : S.Gone r.val)
    (hUnpublished : S.published r = false) :
    S'.published r = false := by
  rcases hGone with ⟨c₀, r₀, hId, hVal, hNative, hOver⟩
  have hSame : r₀ = r := RunId.ext hVal
  subst hSame
  refine hActs.quiet c₀ r₀ hNative hId ?_ hUnpublished
  rintro rfl
  rw [hActs.acting] at hOver
  cases hOver

/- What a step of one creator leaves to another. -/
theorem Stands.other
    (hSound : S.Sound h)
    (hActs : S.Acts S' c)
    (hOther : c' ≠ c) :
    S'.Stands h c' (S'.phase c') := by
  have hStands := hSound.stands c'
  have hLeads := hActs.leads
  have hSame := hActs.others c' hOther
  have hPhase : S'.phase c' = S.phase c' := by
    unfold phase
    rw [hSame]
  have hId : S'.id c' = S.id c' := by
    unfold id
    rw [hSame]
  rw [hPhase]
  constructor
  · intro b hSide
    rw [hLeads.args]
    exact hStands.sided b hSide
  · intro hUnminted
    rw [hId]
    exact hStands.unminted hUnminted
  · intro existing hSaw
    rcases hStands.saw existing hSaw with ⟨k, hFile, hWrote⟩
    exact ⟨k, (hLeads.file c').trans hFile,
      hWrote.leads hLeads⟩
  · exact hStands.plain
  · intro existing hDoomed
    exact (hStands.doomed existing hDoomed).leads hLeads
  · intro existing r hSpared hVal
    have hDoomed : (S.phase c').doomed = some existing :=
      Phase.doomed_of_spared hSpared
    have hGone := hStands.doomed existing hDoomed
    rw [← hVal] at hGone
    exact hGone.quiet hActs
      (hStands.spared existing r hSpared hVal)
  · intro r hUnborn hDrawn
    rw [hId] at hDrawn
    have hNative :=
      hStands.sided true (Phase.side_of_unborn hUnborn)
    exact hActs.quiet c' r hNative hDrawn hOther
      (hStands.unborn r hUnborn hDrawn)
  · intro k r hOwns hFile hDrawn
    rw [hLeads.file] at hFile
    rw [hId] at hDrawn
    rcases hStands.owns k r hOwns hFile hDrawn with
      ⟨⟨record, hRecord, hRun⟩, hOwed⟩
    rcases hActs.held k record hRecord with
      ⟨hKept, hKeptOwed⟩ | ⟨c₀, r₀, hId₀, hRun₀, _, hEnds⟩
    · rw [hKeptOwed]
      refine ⟨⟨record, ?_, hRun⟩, hOwed⟩
      rw [hKept]
      exact hRecord
    · -- the record is this creator's, which has not ended
      have hSameRun : r₀ = r := RunId.ext (hRun₀.symm.trans hRun)
      subst hSameRun
      have hSameCreator := hSound.distinct c₀ c' r₀ hId₀ hDrawn
      subst hSameCreator
      rcases hEnds with hSelf | hOver
      · exact absurd hSelf hOther
      · rw [Phase.over_of_owns hOwns] at hOver
        cases hOver
  · intro x hMem
    exact (hStands.unpaid x hMem).leads hLeads
  · intro record hAdopted
    rcases hStands.adopted record hAdopted with
      ⟨hPlan, k, hFile, hRecord⟩
    refine ⟨hPlan, k, (hLeads.file c').trans hFile, ?_⟩
    rcases hActs.held k record hRecord with
      ⟨hKept, _⟩ | ⟨c₀, r₀, hId₀, hRun₀, hNative, _⟩
    · rw [hKept]
      exact hRecord
    · -- a caller's record is not that of a creation of ours
      rcases hSound.author hRecord with
        ⟨c₁, r₁, hId₁, _, hRun₁, hSide, _⟩
      have hSameRun : r₀ = r₁ :=
        RunId.ext (hRun₀.symm.trans hRun₁)
      subst hSameRun
      have hSameCreator := hSound.distinct c₀ c₁ r₀ hId₀ hId₁
      subst hSameCreator
      rw [hNative] at hSide
      have hNone : record.callerPlan = none := by
        simpa using hSide.symm
      exact absurd hNone hPlan

/- A home with the same records, runs and debts. -/
theorem Stands.same
    {ph : Phase}
    (hStands : S.Stands h c ph)
    (hLeads : S.Leads S')
    (hId : S'.id c = S.id c)
    (hPublished : S'.published = S.published)
    (hRecords : S'.records = S.records)
    (hOwed : S'.owed = S.owed) :
    S'.Stands h c ph := by
  constructor
  · intro b hSide
    rw [hLeads.args]
    exact hStands.sided b hSide
  · intro hUnminted
    rw [hId]
    exact hStands.unminted hUnminted
  · intro existing hSaw
    rcases hStands.saw existing hSaw with ⟨k, hFile, hWrote⟩
    exact ⟨k, (hLeads.file c).trans hFile, hWrote.leads hLeads⟩
  · exact hStands.plain
  · intro existing hDoomed
    exact (hStands.doomed existing hDoomed).leads hLeads
  · rw [hPublished]
    exact hStands.spared
  · rw [hPublished, hId]
    exact hStands.unborn
  · intro k r hOwns hFile hDrawn
    rw [hLeads.file] at hFile
    rw [hId] at hDrawn
    unfold Names
    rw [hRecords, hOwed]
    exact hStands.owns k r hOwns hFile hDrawn
  · intro x hMem
    exact (hStands.unpaid x hMem).leads hLeads
  · intro record hAdopted
    rw [hRecords, hLeads.file]
    exact hStands.adopted record hAdopted

/- A phase that goes by nothing of the home. -/
theorem Stands.free
    {ph : Phase} (hFree : ph.free = true) :
    S.Stands h c ph := by
  have hSide : ph.side = none := by
    cases ph with
    | _ => first | rfl | cases hFree
  have hUnminted : ph.unminted = false := by
    cases ph with
    | _ => first | rfl | cases hFree
  have hSaw : ph.saw = none := by
    cases ph with
    | _ => first | rfl | cases hFree
  have hUnborn : ph.unborn = false := by
    cases ph with
    | _ => first | rfl | cases hFree
  have hUnpaid : ph.unpaid = [] := by
    cases ph with
    | _ => first | rfl | cases hFree
  have hAdopted : ph.adopted = none := by
    cases ph with
    | _ => first | rfl | cases hFree
  have hPlain : ph.plain = none := by
    cases ph with
    | _ => first | rfl | cases hFree
  have hDoomed : ph.doomed = none := by
    cases ph with
    | _ => first | rfl | cases hFree
  have hOwns : ph.owns = false := by
    cases ph with
    | _ => first | rfl | cases hFree
  constructor
  · simp [hSide]
  · simp [hUnminted]
  · simp [hSaw]
  · simp [hPlain]
  · simp [hDoomed]
  · intro existing r hSpared
    rw [Phase.doomed_of_spared hSpared] at hDoomed
    cases hDoomed
  · simp [hUnborn]
  · simp [hOwns]
  · simp [hUnpaid]
  · simp [hAdopted]

theorem Stages.move
    {args : CreateArgs} {ph ph' : Phase} {r : RunId} {d : Disk}
    (hStages : Stages h args ph r d)
    (hBuilding : ph'.building = false) :
    Stages h args ph' r d := by
  constructor
  · rintro rfl
    cases hBuilding
  · rintro (rfl | rfl)
    · cases hBuilding
    · cases hBuilding
  · exact hStages.caller

end Framing

------------------------------------------------------------
-- Kinds of Steps
------------------------------------------------------------

section Moving

variable [DecidableEq ι]
variable {h : HomeEnv} {S S₁ : Home ι} {c : ι} {ph : Phase}

theorem leads_goto
    (hActing : (S.phase c).ended = false)
    (hCreators : S₁.creators = S.creators) :
    S.Leads (S₁.goto c ph) := by
  constructor
  · intro c'
    rw [goto_args]
    unfold args
    rw [hCreators]
  · intro c' r hId
    rw [goto_id]
    unfold id
    rw [hCreators]
    exact hId
  · intro c' hOver
    by_cases hSame : c' = c
    · subst hSame
      rw [hActing] at hOver
      cases hOver
    · unfold phase
      rw [goto_creators_ne S₁ c ph hSame, hCreators]
      exact hOver

theorem acts_goto
    (hActing : (S.phase c).ended = false)
    (hCreators : S₁.creators = S.creators)
    (hQuiet : ∀ c₀ r, (S.args c₀).isNative = true →
      S.id c₀ = some r → c₀ ≠ c → S.published r = false →
      S₁.published r = false)
    (hHeld : ∀ k record,
      S.records k = some (.record record) →
      (S₁.records k = S.records k ∧ S₁.owed k = S.owed k) ∨
        ∃ c₀ r, S.id c₀ = some r ∧ record.runId = r.val ∧
          (S.args c₀).isNative = true ∧
          (c₀ = c ∨ (S.phase c₀).ended = true)) :
    S.Acts (S₁.goto c ph) c where
  leads := leads_goto hActing hCreators
  others := by
    intro c' hOther
    rw [goto_creators_ne S₁ c ph hOther, hCreators]
  acting := hActing
  quiet := hQuiet
  held := hHeld

/- A step that draws no run id, put together. -/
theorem Sound.moved
    (hSound : S.Sound h)
    (hActs : S.Acts (S₁.goto c ph) c)
    (hCreators : S₁.creators = S.creators)
    (hFiled : ∀ k file, S₁.records k = some file →
      ∃ record, file = .record record ∧
        (S₁.goto c ph).Wrote h k record)
    (hDrawn : ∀ r d, S₁.runs r = some d →
      ∃ c', S.id c' = some r ∧
        Housed (h.run r) (S.args c').parent d)
    (hKept : ∀ c' r k, S.id c' = some r →
      S.file c' = some k → S₁.published r = true →
      S₁.Names k r)
    (hListed : ∀ k x, x ∈ S₁.owed k →
      ∃ record, S₁.records k = some (.record record) ∧
        x ∈ record.staleRunIds)
    (hClaimed : ∀ r d, S₁.staging r = some d →
      ∃ c', S.id c' = some r)
    (hStages : ∀ c' r d, S.id c' = some r →
      S₁.staging r = some d →
      Stages h (S.args c') ((S₁.goto c ph).phase c') r d)
    (hStands : (S₁.goto c ph).Stands h c ph) :
    (S₁.goto c ph).Sound h := by
  have hIds : ∀ c', (S₁.goto c ph).id c' = S.id c' := by
    intro c'
    rw [goto_id]
    unfold id
    rw [hCreators]
  constructor
  · intro c₁ c₂ r hFirst hSecond
    rw [hIds] at hFirst hSecond
    exact hSound.distinct c₁ c₂ r hFirst hSecond
  · exact hFiled
  · intro r d hRun
    rcases hDrawn r d hRun with ⟨c', hId, hHoused⟩
    refine ⟨c', ?_, ?_⟩
    · rw [hIds]
      exact hId
    · rw [hActs.leads.args]
      exact hHoused
  · intro c' r k hId hFile
    rw [hIds] at hId
    rw [hActs.leads.file] at hFile
    exact hKept c' r k hId hFile
  · exact hListed
  · intro r d hStaging
    rcases hClaimed r d hStaging with ⟨c', hId⟩
    refine ⟨c', ?_⟩
    rw [hIds]
    exact hId
  · intro c' r d hId hStaging
    rw [hIds] at hId
    rw [hActs.leads.args]
    exact hStages c' r d hId hStaging
  · intro c'
    by_cases hSame : c' = c
    · subst hSame
      rw [goto_phase_self]
      exact hStands
    · exact Stands.other hSound hActs hSame

/- The phases of the others are as they were. -/
theorem Sound.stages_moved
    {c' : ι} {r : RunId} {d : Disk}
    (hSound : S.Sound h)
    (hCreators : S₁.creators = S.creators)
    (hBuilding : ph.building = false)
    (hId : S.id c' = some r)
    (hStaging : S.staging r = some d) :
    Stages h (S.args c') ((S₁.goto c ph).phase c') r d := by
  have hHere := hSound.stages c' r d hId hStaging
  by_cases hSame : c' = c
  · subst hSame
    rw [goto_phase_self]
    exact hHere.move hBuilding
  · unfold phase
    rw [goto_creators_ne S₁ c ph hSame, hCreators]
    exact hHere

/- Nothing changes but where one creator is. -/
theorem Sound.goto
    (hSound : S.Sound h)
    (hActing : (S.phase c).ended = false)
    (hBuilding : ph.building = false)
    (hStands : S.Stands h c ph) :
    (S.goto c ph).Sound h := by
  have hActs : S.Acts (S.goto c ph) c :=
    acts_goto hActing rfl (fun _ _ _ _ _ hNot => hNot)
      (fun _ _ _ => .inl ⟨rfl, rfl⟩)
  apply hSound.moved hActs rfl
  · intro k file hFile
    rcases hSound.filed k file hFile with
      ⟨record, hRecord, hWrote⟩
    exact ⟨record, hRecord, hWrote.leads hActs.leads⟩
  · exact hSound.drawn
  · exact hSound.kept
  · exact hSound.listed
  · exact hSound.claimed
  · intro c' r d hId hStaging
    exact hSound.stages_moved rfl hBuilding hId hStaging
  · exact hStands.same hActs.leads (goto_id S c ph c) rfl rfl
      rfl

/-
  A record is changed: an absent one, the creator's own, or
  that of a creation which has ended. A run that is published
  under the key keeps its name there.
-/
theorem Sound.rewrite
    {k : String} {file : Option RecordFile}
    {owed : List String}
    (hSound : S.Sound h)
    (hActing : (S.phase c).ended = false)
    (hOpen : ∀ record,
      S.records k = some (.record record) →
      ∃ c₀ r, S.id c₀ = some r ∧ record.runId = r.val ∧
        (S.args c₀).isNative = true ∧
        (c₀ = c ∨ (S.phase c₀).ended = true))
    (hNew : ∀ f, file = some f →
      ∃ record, f = .record record ∧ S.Wrote h k record)
    (hKept : ∀ c' r, S.id c' = some r → S.file c' = some k →
      S.published r = true →
      ∃ record, file = some (.record record) ∧
        record.runId = r.val)
    (hOwed : ∀ x ∈ owed,
      ∃ record, file = some (.record record) ∧
        x ∈ record.staleRunIds)
    (hBuilding : ph.building = false)
    (hStands :
      (((S.setRecord k file).setOwed k owed).goto c ph).Stands
        h c ph) :
    (((S.setRecord k file).setOwed k owed).goto c ph).Sound
      h := by
  have hOther : ∀ k', k' ≠ k →
      ((S.setRecord k file).setOwed k owed).records k' =
          S.records k' ∧
        ((S.setRecord k file).setOwed k owed).owed k' =
          S.owed k' := by
    intro k' hNe
    exact ⟨Function.update_of_ne hNe _ _,
      Function.update_of_ne hNe _ _⟩
  have hHere :
      ((S.setRecord k file).setOwed k owed).records k =
          file ∧
        ((S.setRecord k file).setOwed k owed).owed k =
          owed :=
    ⟨Function.update_self _ _ _, Function.update_self _ _ _⟩
  have hActs :
      S.Acts (((S.setRecord k file).setOwed k owed).goto c ph)
        c := by
    apply acts_goto hActing
    · rfl
    · intro _ _ _ _ _ hNot
      exact hNot
    · intro k' record hRecord
      by_cases hSame : k' = k
      · subst hSame
        exact .inr (hOpen record hRecord)
      · exact .inl (hOther k' hSame)
  apply hSound.moved hActs rfl
  · intro k' f hFile
    by_cases hSame : k' = k
    · subst hSame
      rw [hHere.1] at hFile
      rcases hNew f hFile with ⟨record, hRecord, hWrote⟩
      exact ⟨record, hRecord, hWrote.leads hActs.leads⟩
    · rw [(hOther k' hSame).1] at hFile
      rcases hSound.filed k' f hFile with
        ⟨record, hRecord, hWrote⟩
      exact ⟨record, hRecord, hWrote.leads hActs.leads⟩
  · exact hSound.drawn
  · intro c' r k' hId hFile hPublished
    unfold Names
    by_cases hSame : k' = k
    · subst hSame
      rw [hHere.1]
      exact hKept c' r hId hFile hPublished
    · rw [(hOther k' hSame).1]
      exact hSound.kept c' r k' hId hFile hPublished
  · intro k' x hMem
    by_cases hSame : k' = k
    · subst hSame
      rw [hHere.2] at hMem
      rw [hHere.1]
      exact hOwed x hMem
    · rw [(hOther k' hSame).2] at hMem
      rw [(hOther k' hSame).1]
      exact hSound.listed k' x hMem
  · exact hSound.claimed
  · intro c' r d hId hStaging
    exact hSound.stages_moved rfl hBuilding hId hStaging
  · exact hStands

theorem goto_self (c : ι) : S.goto c (S.phase c) = S := by
  unfold goto phase
  rw [Function.update_eq_self]

/- A staging directory is changed. -/
theorem Sound.restage
    {r : RunId} {left : Option Disk}
    (hSound : S.Sound h)
    (hActing : (S.phase c).ended = false)
    (hDrawn : ∃ c', S.id c' = some r)
    (hLeft : ∀ c' d, S.id c' = some r → left = some d →
      Stages h (S.args c')
        (((S.setStaging r left).goto c ph).phase c') r d)
    (hBuilding : ph.building = true → S.id c = some r)
    (hStands : S.Stands h c ph) :
    ((S.setStaging r left).goto c ph).Sound h := by
  have hActs : S.Acts ((S.setStaging r left).goto c ph) c :=
    acts_goto hActing rfl (fun _ _ _ _ _ hNot => hNot)
      (fun _ _ _ => .inl ⟨rfl, rfl⟩)
  apply hSound.moved hActs rfl
  · intro k file hFile
    rcases hSound.filed k file hFile with
      ⟨record, hRecord, hWrote⟩
    exact ⟨record, hRecord, hWrote.leads hActs.leads⟩
  · exact hSound.drawn
  · exact hSound.kept
  · exact hSound.listed
  · intro r' d hStaging
    by_cases hSame : r' = r
    · subst hSame
      exact hDrawn
    · apply hSound.claimed r' d
      rwa [setStaging_ne S left hSame] at hStaging
  · intro c' r' d hId hStaging
    by_cases hSame : r' = r
    · subst hSame
      rw [setStaging_self] at hStaging
      exact hLeft c' d hId hStaging
    · have hThere : S.staging r' = some d := by
        rwa [setStaging_ne S left hSame] at hStaging
      have hHere := hSound.stages c' r' d hId hThere
      by_cases hSelf : c' = c
      · subst hSelf
        rw [goto_phase_self]
        cases hCase : ph.building with
        | false => exact hHere.move hCase
        | true =>
            rw [hBuilding hCase, Option.some.injEq] at hId
            exact absurd hId.symm hSame
      · unfold phase
        rw [goto_creators_ne _ c ph hSelf]
        exact hHere
  · exact hStands.same hActs.leads
      (goto_id (S.setStaging r left) c ph c) rfl rfl rfl

end Moving

------------------------------------------------------------
-- Looking at a Reservation
------------------------------------------------------------

section Looking

variable {h : HomeEnv} {S : Home ι} {c : ι}
variable {k path : String}
variable {existing record : ReservationRecord}

theorem Sound.read
    (hSound : S.Sound h)
    (hRead : readRecord path (S.records k) =
      .ok (some record)) :
    S.records k = some (.record record) ∧
      S.Wrote h k record := by
  cases hFile : S.records k with
  | none =>
      rw [hFile] at hRead
      cases hRead
  | some file =>
      rcases hSound.filed k file hFile with
        ⟨found, rfl, hWrote⟩
      rw [hFile, readRecord_record hWrote.version] at hRead
      cases hRead
      exact ⟨rfl, hWrote⟩

/- From one look at a reservation to the next. -/
theorem Stands.looking
    {ph ph' : Phase}
    (hStands : S.Stands h c ph)
    (hUnborn : ph.unborn = true)
    (hLooking : ph'.looking = true)
    (hSaw : ∀ existing, ph'.saw = some existing →
      ∃ k, S.file c = some k ∧ S.Wrote h k existing)
    (hPlain : ∀ existing, ph'.plain = some existing →
      existing.callerPlan = none)
    (hDoomed : ∀ existing, ph'.doomed = some existing →
      S.Gone existing.runId)
    (hSpared : ∀ existing r, ph'.spared = some existing →
      r.val = existing.runId → S.published r = false) :
    S.Stands h c ph' := by
  have hNative :=
    hStands.sided true (Phase.side_of_unborn hUnborn)
  have hShape : ph'.side = some true ∧
      ph'.unminted = false ∧ ph'.owns = false ∧
      ph'.unpaid = [] ∧ ph'.adopted = none := by
    cases ph' with
    | _ =>
        first
        | exact ⟨rfl, rfl, rfl, rfl, rfl⟩
        | cases hLooking
  rcases hShape with ⟨hSide, hMinted, hOwns, hUnpaid, hAdopted⟩
  constructor
  · intro b hBoth
    rw [hSide, Option.some.injEq] at hBoth
    exact hNative.trans hBoth
  · simp [hMinted]
  · exact hSaw
  · exact hPlain
  · exact hDoomed
  · exact hSpared
  · intro r _ hId
    exact hStands.unborn r hUnborn hId
  · simp [hOwns]
  · simp [hUnpaid]
  · simp [hAdopted]

/- A creation of ours with a key keeps its lease to its end. -/
theorem Stands.lease
    {r : RunId}
    (hStands : S.Stands h c (S.phase c))
    (hNative : (S.args c).isNative = true)
    (hFile : S.file c = some k)
    (hId : S.id c = some r)
    (hActing : (S.phase c).ended = false) :
    (S.creators c).lease = some r.val := by
  have hSided := hStands.sided
  unfold file args at hFile
  unfold id at hId
  unfold phase at hActing hSided
  unfold Creator.lease
  rw [hFile, hId]
  cases hPhase : (S.creators c).phase with
  | done _ | failed _ | crashed =>
      rw [hPhase] at hActing
      cases hActing
  | callerWaits _ | callerHolds _ | callerPublished _ =>
      rw [hPhase] at hSided
      have hCaller := hSided false rfl
      rw [hNative] at hCaller
      cases hCaller
  | _ => rfl

/- A dead creator was found by its lease. -/
theorem classify_dead
    {probe : ReservationProbe} {lease : CreatorLease}
    (hCreator : existing.creator = some lease)
    (hPath : lease.materializerLeasePath = some path)
    (hDead :
      classifyExistingReservation probe existing =
        .ok .creatorDead) :
    probe.materializerLiveness path = .dead := by
  unfold classifyExistingReservation at hDead
  rw [bind_eq_ok] at hDead
  rcases hDead with ⟨x, _, hDead⟩
  rw [hCreator] at hDead
  dsimp only at hDead
  rw [hPath] at hDead
  dsimp only at hDead
  split at hDead
  · cases hDead
  · split at hDead
    · cases hDead
    next hLiveness => exact hLiveness
    · cases hDead

/- A record of ours whose lease nobody holds is of an end. -/
theorem Sound.gone
    (hSound : S.Sound h)
    (hWrote : S.Wrote h k existing)
    (hPlain : existing.callerPlan = none)
    (hDead : ∀ lease path, existing.creator = some lease →
      lease.materializerLeasePath = some path →
      ¬ S.Held h path) :
    S.Gone existing.runId := by
  rcases hWrote.author with
    ⟨c₀, r₀, hId, hFile, hRun, hSide, lease, hCreator, hPath⟩
  have hNative : (S.args c₀).isNative = true := by
    rw [hSide, hPlain]
    rfl
  refine ⟨c₀, r₀, hId, hRun.symm, hNative, ?_⟩
  by_contra hNot
  have hActing : (S.phase c₀).ended = false := by
    simpa using hNot
  have hLease :=
    (hSound.stands c₀).lease hNative hFile hId hActing
  exact hDead lease _ hCreator hPath
    (.inl ⟨c₀, r₀.val, hLease, rfl⟩)

theorem Sound.classified
    {published : RunId → Bool} {rounds : Nat}
    {probe : ReservationProbe}
    (hSound : S.Sound h)
    (hPhase : S.phase c = .examining existing published rounds)
    (hLease : ∀ path,
      probe.materializerLiveness path = .dead →
      ¬ S.Held h path) :
    S.Stands h c
      (.afterClassify existing rounds
        (classifyExistingReservation probe existing)) := by
  have hStands := hSound.stands c
  rw [hPhase] at hStands
  have hSaw := hStands.saw existing rfl
  have hPlain := hStands.plain existing rfl
  cases hAnswer : classifyExistingReservation probe existing with
  | error e => exact .free rfl
  | ok answer =>
      cases answer with
      | published x => exact .free rfl
      | unverifiable => exact .free rfl
      | creatorLive =>
          apply hStands.looking rfl rfl
          · rintro _ ⟨⟩
            exact hSaw
          · rintro _ ⟨⟩
            exact hPlain
          · rintro _ ⟨⟩
          · rintro _ _ ⟨⟩
      | creatorDead =>
          rcases hSaw with ⟨k, hFile, hWrote⟩
          have hGone : S.Gone existing.runId := by
            apply hSound.gone hWrote hPlain
            intro lease path hCreator hPath
            exact hLease path
              (classify_dead hCreator hPath hAnswer)
          apply hStands.looking rfl rfl
          · rintro _ ⟨⟩
            exact ⟨k, hFile, hWrote⟩
          · rintro _ ⟨⟩
            exact hPlain
          · rintro _ ⟨⟩
            exact hGone
          · rintro _ _ ⟨⟩

end Looking

------------------------------------------------------------
-- Owning a Reservation
------------------------------------------------------------

section Owning

variable {h : HomeEnv} {S S' : Home ι} {c : ι}
variable {k path : String} {r : RunId}
variable {existing record : ReservationRecord}

/- The record is the creator's, as are its debts. -/
theorem Stands.owner
    {ph ph' : Phase}
    (hStands : S.Stands h c ph)
    (hUnborn : ph.unborn = true)
    (hOwns : ph'.owns = true)
    (hLeads : S.Leads S')
    (hId : S'.id c = S.id c)
    (hPublished : S'.published = S.published)
    (hNames : ∀ k r, S.file c = some k → S.id c = some r →
      S'.Names k r ∧ ∀ x ∈ S'.owed k, x ∈ ph'.unpaid)
    (hUnpaid : ∀ x ∈ ph'.unpaid, S.Gone x) :
    S'.Stands h c ph' := by
  have hNative :=
    hStands.sided true (Phase.side_of_unborn hUnborn)
  have hShape : ph'.side = some true ∧
      ph'.unminted = false ∧ ph'.saw = none ∧
      ph'.plain = none ∧ ph'.doomed = none ∧
      ph'.adopted = none := by
    cases ph' with
    | _ =>
        first
        | exact ⟨rfl, rfl, rfl, rfl, rfl, rfl⟩
        | cases hOwns
  rcases hShape with
    ⟨hSide, hMinted, hSaw, hPlain, hDoomed, hAdopted⟩
  constructor
  · intro b hBoth
    rw [hSide, Option.some.injEq] at hBoth
    rw [hLeads.args]
    exact hNative.trans hBoth
  · simp [hMinted]
  · simp [hSaw]
  · simp [hPlain]
  · simp [hDoomed]
  · intro existing r hSpared
    rw [Phase.doomed_of_spared hSpared] at hDoomed
    cases hDoomed
  · intro r _ hDrawn
    rw [hId] at hDrawn
    rw [hPublished]
    exact hStands.unborn r hUnborn hDrawn
  · intro k r _ hFile hDrawn
    rw [hLeads.file] at hFile
    rw [hId] at hDrawn
    exact hNames k r hFile hDrawn
  · intro x hMem
    exact (hUnpaid x hMem).leads hLeads
  · simp [hAdopted]

/- From one phase of an owner to the next, debts paid. -/
theorem Stands.keepsOwning
    {ph ph' : Phase}
    (hStands : S.Stands h c ph)
    (hOwns : ph.owns = true)
    (hPaid : ph.unpaid = [])
    (hOwns' : ph'.owns = true)
    (hPaid' : ph'.unpaid = []) :
    S.Stands h c ph' := by
  have hLeads : S.Leads S :=
    ⟨fun _ => rfl, fun _ _ h => h, fun _ h => h⟩
  apply hStands.owner (Phase.unborn_of_owns hOwns) hOwns' hLeads
    rfl rfl
  · intro k r hFile hId
    rw [hPaid', ← hPaid]
    exact hStands.owns k r hOwns hFile hId
  · simp [hPaid']

/- A record that is a caller's stays the record of its key. -/
theorem Stands.adopts
    {ph : Phase}
    (hAdopted : ph.adopted = some record)
    (hCaller : (S.args c).isNative = false)
    (hPlan : record.callerPlan ≠ none)
    (hFile : S.file c = some k)
    (hRecord : S.records k = some (.record record)) :
    S.Stands h c ph := by
  have hShape : ph.side = some false ∧
      ph.unminted = false ∧ ph.saw = none ∧
      ph.plain = none ∧ ph.doomed = none ∧
      ph.unborn = false ∧ ph.owns = false ∧
      ph.unpaid = [] := by
    cases ph with
    | _ =>
        first
        | exact ⟨rfl, rfl, rfl, rfl, rfl, rfl, rfl, rfl⟩
        | cases hAdopted
  rcases hShape with
    ⟨hSide, hMinted, hSaw, hPlain, hDoomed, hUnborn, hOwns,
      hUnpaid⟩
  constructor
  · intro b hBoth
    rw [hSide, Option.some.injEq] at hBoth
    exact hCaller.trans hBoth
  · simp [hMinted]
  · simp [hSaw]
  · simp [hPlain]
  · simp [hDoomed]
  · intro existing r hSpared
    rw [Phase.doomed_of_spared hSpared] at hDoomed
    cases hDoomed
  · simp [hUnborn]
  · simp [hOwns]
  · simp [hUnpaid]
  · intro found hFound
    rw [hAdopted, Option.some.injEq] at hFound
    subst hFound
    exact ⟨hPlan, k, hFile, hRecord⟩

theorem Sound.wrote_proposed
    (hNative : (S.args c).isNative = true)
    (hId : S.id c = some r)
    (hFile : S.file c = some k) :
    S.Wrote h k ((S.creators c).proposed h r) := by
  constructor
  · rfl
  · exact ⟨c, r, hId, hFile, rfl, hNative, _, rfl, rfl⟩
  · rintro x ⟨⟩

theorem Sound.wrote_plan
    {plan : CallerPlan}
    (hCaller : (S.args c).isNative = false)
    (hId : S.id c = some r)
    (hFile : S.file c = some k) :
    S.Wrote h k
      { (S.creators c).proposed h r with
        callerPlan := some plan } := by
  constructor
  · rfl
  · exact ⟨c, r, hId, hFile, rfl, hCaller, _, rfl, rfl⟩
  · rintro x ⟨⟩

theorem Wrote.takeOver
    (hWrote : S.Wrote h k record)
    (hExisting : S.Wrote h k existing)
    (hGone : S.Gone existing.runId) :
    S.Wrote h k (record.takeOver existing) := by
  constructor
  · exact hWrote.version
  · exact hWrote.author
  · intro x hMem
    rcases (mem_takeOver x).mp hMem with hOld | rfl
    · exact hExisting.stale x hOld
    · exact hGone

theorem Wrote.cleared (hWrote : S.Wrote h k record) :
    S.Wrote h k { record with staleRunIds := [] } := by
  constructor
  · exact hWrote.version
  · exact hWrote.author
  · rintro x ⟨⟩

/- An absent record names no published run and owes nothing. -/
theorem Sound.absent
    (hSound : S.Sound h)
    (hNone : S.records k = none) :
    (∀ c' r, S.id c' = some r → S.file c' = some k →
      S.published r = false) ∧ S.owed k = [] := by
  constructor
  · intro c' r hId hFile
    cases hCase : S.published r with
    | false => rfl
    | true =>
        rcases hSound.kept c' r k hId hFile hCase with
          ⟨record, hRecord, _⟩
        rw [hNone] at hRecord
        cases hRecord
  · apply List.eq_nil_iff_forall_not_mem.mpr
    intro x hMem
    rcases hSound.listed k x hMem with ⟨record, hRecord, _⟩
    rw [hNone] at hRecord
    cases hRecord

/- The record of an owner is its own. -/
theorem Sound.own
    (hSound : S.Sound h)
    (hOwns : (S.phase c).owns = true)
    (hId : S.id c = some r)
    (hFile : S.file c = some k)
    (hRecord : S.records k = some (.record record)) :
    record.runId = r.val ∧ (S.args c).isNative = true ∧
      ∀ x ∈ S.owed k, x ∈ (S.phase c).unpaid := by
  have hStands := hSound.stands c
  rcases hStands.owns k r hOwns hFile hId with
    ⟨⟨found, hFound, hRun⟩, hOwed⟩
  rw [hRecord, Option.some.injEq, RecordFile.record.injEq]
    at hFound
  subst hFound
  exact ⟨hRun,
    hStands.sided true
      (Phase.side_of_unborn (Phase.unborn_of_owns hOwns)),
    hOwed⟩

end Owning

------------------------------------------------------------
-- Steps on a Reservation
------------------------------------------------------------

section Records

variable [DecidableEq ι]
variable {h : HomeEnv} {S : Home ι} {c : ι}
variable {k path : String} {r : RunId}
variable {existing record : ReservationRecord}
variable {file : Option RecordFile}

/- An absent record is filled in. -/
theorem Sound.claim
    {ph : Phase}
    (hSound : S.Sound h)
    (hActing : (S.phase c).ended = false)
    (hNone : S.records k = none)
    (hWrote : S.Wrote h k record)
    (hBuilding : ph.building = false)
    (hStands :
      ((S.setRecord k (some (.record record))).goto c ph).Stands
        h c ph) :
    ((S.setRecord k (some (.record record))).goto c ph).Sound
      h := by
  rcases hSound.absent hNone with ⟨hUnpublished, hNothing⟩
  have hSame :
      (S.setRecord k (some (.record record))).setOwed k
          (S.owed k) =
        S.setRecord k (some (.record record)) :=
    setOwed_self _ k
  rw [← hSame] at hStands ⊢
  apply hSound.rewrite hActing
  · intro found hFound
    rw [hNone] at hFound
    cases hFound
  · rintro f ⟨⟩
    exact ⟨record, rfl, hWrote⟩
  · intro c' r hId hFile hPublished
    rw [hUnpublished c' r hId hFile] at hPublished
    cases hPublished
  · simp [hNothing]
  · exact hBuilding
  · exact hStands

theorem Sound.reserve
    {rounds : Nat} {answer : Reservation}
    (hSound : S.Sound h)
    (hPhase : S.phase c = .reserving rounds)
    (hId : S.id c = some r)
    (hFile : S.file c = some k)
    (hOk :
      reserveIn path ((S.creators c).proposed h r)
        (S.records k) = .ok (answer, file)) :
    ((S.setRecord k file).goto c
      (.afterReserve rounds answer)).Sound h := by
  have hStands := hSound.stands c
  rw [hPhase] at hStands
  have hActing : (S.phase c).ended = false := by
    rw [hPhase]
    rfl
  have hNative := hStands.sided true rfl
  rcases reserveIn_cases hOk with
    ⟨hNone, rfl, rfl⟩ | ⟨existing, hRead, rfl, rfl⟩
  · have hWrote : S.Wrote h k ((S.creators c).proposed h r) :=
      Sound.wrote_proposed hNative hId hFile
    apply hSound.claim hActing hNone hWrote rfl
    apply hStands.owner rfl
    · rfl
    · exact leads_goto hActing rfl
    · exact goto_id _ c _ c
    · rfl
    · intro k' r' hFile' hId'
      rw [hFile, Option.some.injEq] at hFile'
      rw [hId, Option.some.injEq] at hId'
      subst hFile'
      subst hId'
      constructor
      · refine ⟨_, Function.update_self _ _ _, rfl⟩
      · intro x hMem
        have hNothing : S.owed k = [] := (hSound.absent hNone).2
        rw [goto_owed, setRecord_owed, hNothing] at hMem
        cases hMem
    · rintro x ⟨⟩
  · rcases hSound.read hRead with ⟨_, hWrote⟩
    rw [setRecord_self]
    apply hSound.goto hActing rfl
    apply hStands.looking rfl rfl
    · rintro _ ⟨⟩
      exact ⟨k, hFile, hWrote⟩
    · rintro _ ⟨⟩
    · rintro _ ⟨⟩
    · rintro _ _ ⟨⟩

/- A record is taken over from a creation that has ended. -/
theorem Sound.reclaim
    {published : Bool} {rounds : Nat}
    (hSound : S.Sound h)
    (hPhase :
      S.phase c = .reclaiming existing published rounds)
    (hId : S.id c = some r)
    (hFile : S.file c = some k)
    (hOk :
      reclaimIn path existing
        (((S.creators c).proposed h r).takeOver existing)
        published (S.records k) = .ok (.reclaimed, file)) :
    (((S.setRecord k file).setOwed k
      (existing.runId :: S.owed k)).goto c
        (.cleaning
          (((S.creators c).proposed h r).takeOver
            existing).staleRunIds)).Sound h := by
  have hStands := hSound.stands c
  rw [hPhase] at hStands
  have hActing : (S.phase c).ended = false := by
    rw [hPhase]
    rfl
  have hNative := hStands.sided true rfl
  have hGone := hStands.doomed existing rfl
  have hWrote : S.Wrote h k existing := by
    rcases hStands.saw existing rfl with ⟨k', hFile', hWrote⟩
    rw [hFile, Option.some.injEq] at hFile'
    subst hFile'
    exact hWrote
  have hMine : S.Wrote h k ((S.creators c).proposed h r) :=
    Sound.wrote_proposed hNative hId hFile
  rcases reclaimIn_cases hOk with
    ⟨rfl, _, rfl, hWas⟩ | ⟨_, hLost | ⟨_, _, hLost⟩⟩
  swap
  · cases hLost
  swap
  · cases hLost
  -- what was there is the record that was found dead
  have hThere : ∀ found,
      S.records k = some (.record found) →
      found = existing := by
    intro found hFound
    rcases hWas with hNone | hRead
    · rw [hNone] at hFound
      cases hFound
    · have hRecord := (hSound.read hRead).1
      rw [hFound, Option.some.injEq, RecordFile.record.injEq]
        at hRecord
      exact hRecord
  have hOwed : ∀ x ∈ existing.runId :: S.owed k,
      x ∈ (((S.creators c).proposed h r).takeOver
        existing).staleRunIds := by
    intro x hMem
    rw [mem_takeOver]
    rcases List.mem_cons.mp hMem with rfl | hOld
    · exact .inr rfl
    · rcases hSound.listed k x hOld with
        ⟨found, hFound, hListed⟩
      rw [hThere found hFound] at hListed
      exact .inl hListed
  apply hSound.rewrite hActing
  · intro found hFound
    rw [hThere found hFound]
    rcases hGone with ⟨c₀, r₀, hId₀, hVal, hNative₀, hOver⟩
    exact ⟨c₀, r₀, hId₀, hVal.symm, hNative₀, .inr hOver⟩
  · rintro f ⟨⟩
    exact ⟨_, rfl, hMine.takeOver hWrote hGone⟩
  · intro c' r' hId' hFile' hPublished
    rcases hSound.kept c' r' k hId' hFile' hPublished with
      ⟨found, hFound, hRun⟩
    rw [hThere found hFound] at hRun
    rw [hStands.spared existing r' rfl hRun.symm] at hPublished
    cases hPublished
  · intro x hMem
    exact ⟨_, rfl, hOwed x hMem⟩
  · rfl
  · apply hStands.owner rfl
    · rfl
    · exact leads_goto hActing rfl
    · exact goto_id _ c _ c
    · rfl
    · intro k' r' hFile' hId'
      rw [hFile, Option.some.injEq] at hFile'
      rw [hId, Option.some.injEq] at hId'
      subst hFile'
      subst hId'
      constructor
      · exact ⟨_, Function.update_self _ _ _, rfl⟩
      · intro x hMem
        apply hOwed x
        rwa [goto_owed, setOwed_here] at hMem
    · exact (hMine.takeOver hWrote hGone).stale

/- The own record is changed, and all debts are paid. -/
theorem Sound.amend
    {ph : Phase}
    (hSound : S.Sound h)
    (hOwns : (S.phase c).owns = true)
    (hPaid : (S.phase c).unpaid = [])
    (hId : S.id c = some r)
    (hFile : S.file c = some k)
    (hNew : ∀ f, file = some f →
      ∃ record, f = .record record ∧ S.Wrote h k record ∧
        record.runId = r.val)
    (hBuilding : ph.building = false)
    (hStands : ((S.setRecord k file).goto c ph).Stands h c ph) :
    ((S.setRecord k file).goto c ph).Sound h := by
  have hMine := hSound.stands c
  have hActing := Phase.over_of_owns hOwns
  have hUnborn :=
    hMine.unborn r (Phase.unborn_of_owns hOwns) hId
  have hNothing : S.owed k = [] := by
    apply List.eq_nil_iff_forall_not_mem.mpr
    intro x hMem
    have hUnpaid := (hMine.owns k r hOwns hFile hId).2 x hMem
    rw [hPaid] at hUnpaid
    cases hUnpaid
  have hSame :
      (S.setRecord k file).setOwed k (S.owed k) =
        S.setRecord k file :=
    setOwed_self _ k
  rw [← hSame] at hStands ⊢
  apply hSound.rewrite hActing
  · intro found hFound
    rcases hSound.own hOwns hId hFile hFound with
      ⟨hRun, hNative, _⟩
    exact ⟨c, r, hId, hRun, hNative, .inl rfl⟩
  · intro f hSome
    rcases hNew f hSome with ⟨record, hRecord, hWrote, _⟩
    exact ⟨record, hRecord, hWrote⟩
  · -- no run is published while its creator owns the record
    intro c' r' hId' hFile' hPublished
    rcases hSound.kept c' r' k hId' hFile' hPublished with
      ⟨found, hFound, hRun⟩
    have hSelf := (hSound.own hOwns hId hFile hFound).1
    have hSameRun : r' = r := RunId.ext (hRun.symm.trans hSelf)
    subst hSameRun
    rw [hUnborn] at hPublished
    cases hPublished
  · simp [hNothing]
  · exact hBuilding
  · exact hStands

theorem Sound.finish
    (hSound : S.Sound h)
    (hPhase : S.phase c = .cleaning [])
    (hId : S.id c = some r)
    (hFile : S.file c = some k)
    (hOk :
      finishStaleCleanup path r.val (S.records k) =
        .ok file) :
    ((S.setRecord k file).goto c .ready).Sound h := by
  have hOwns : (S.phase c).owns = true := by
    rw [hPhase]
    rfl
  have hPaid : (S.phase c).unpaid = [] := by
    rw [hPhase]
    rfl
  have hStands := hSound.stands c
  rcases finishStaleCleanup_cases hOk with
    rfl | ⟨record, hRead, hRun, rfl⟩
  · rw [setRecord_self]
    apply hSound.goto (Phase.over_of_owns hOwns) rfl
    exact hStands.keepsOwning hOwns hPaid rfl rfl
  · rcases hSound.read hRead with ⟨hRecord, hWrote⟩
    have hOwed := (hSound.own hOwns hId hFile hRecord).2.2
    apply hSound.amend hOwns hPaid hId hFile
    · rintro f ⟨⟩
      exact ⟨_, rfl, hWrote.cleared, hRun⟩
    · rfl
    · apply hStands.owner (Phase.unborn_of_owns hOwns)
      · rfl
      · exact leads_goto (Phase.over_of_owns hOwns) rfl
      · exact goto_id _ c _ c
      · rfl
      · intro k' r' hFile' hId'
        rw [hFile, Option.some.injEq] at hFile'
        rw [hId, Option.some.injEq] at hId'
        subst hFile'
        subst hId'
        constructor
        · exact ⟨_, Function.update_self _ _ _, hRun⟩
        · intro x hMem
          rw [goto_owed, setRecord_owed] at hMem
          have hUnpaid := hOwed x hMem
          rw [hPaid] at hUnpaid
          cases hUnpaid
      · rintro x ⟨⟩

theorem Sound.release
    {e : CliError}
    (hSound : S.Sound h)
    (hPhase : S.phase c = .releasing e)
    (hId : S.id c = some r)
    (hFile : S.file c = some k)
    (hOk :
      releaseIn path r.val (S.records k) = .ok file) :
    ((S.setRecord k file).goto c (.closing e)).Sound h := by
  have hOwns : (S.phase c).owns = true := by
    rw [hPhase]
    rfl
  have hPaid : (S.phase c).unpaid = [] := by
    rw [hPhase]
    rfl
  rcases releaseIn_cases hOk with rfl | ⟨_, _, _, rfl⟩
  · rw [setRecord_self]
    apply hSound.goto (Phase.over_of_owns hOwns) rfl
    exact .free rfl
  · apply hSound.amend hOwns hPaid hId hFile
    · rintro f ⟨⟩
    · rfl
    · exact .free rfl

/- A caller's record is written for good. -/
theorem Sound.callerReserve
    {plan : CallerPlan} {request : String}
    {answer : Reservation}
    (hSound : S.Sound h)
    (hPhase : S.phase c = .callerReserving plan)
    (hId : S.id c = some r)
    (hFile : S.file c = some k)
    (hOk :
      reserveIn path
        { (S.creators c).proposed h r with
          callerPlan := some plan } (S.records k) =
            .ok (answer, file)) :
    ((S.setRecord k file).goto c
      (.afterCallerReserve request
        { (S.creators c).proposed h r with
          callerPlan := some plan } answer)).Sound h := by
  have hStands := hSound.stands c
  rw [hPhase] at hStands
  have hActing : (S.phase c).ended = false := by
    rw [hPhase]
    rfl
  have hCaller := hStands.sided false rfl
  rcases reserveIn_cases hOk with
    ⟨hNone, rfl, rfl⟩ | ⟨existing, hRead, rfl, rfl⟩
  · have hWrote :
        S.Wrote h k
          { (S.creators c).proposed h r with
            callerPlan := some plan } :=
      Sound.wrote_plan hCaller hId hFile
    apply hSound.claim hActing hNone hWrote rfl
    apply Stands.adopts rfl
    · rw [goto_args]
      exact hCaller
    · rintro ⟨⟩
    · rw [goto_file]
      exact hFile
    · exact Function.update_self _ _ _
  · have hThere := (hSound.read hRead).1
    rw [setRecord_self]
    unfold Phase.afterCallerReserve
    dsimp only
    split
    · exact hSound.goto hActing rfl (.free rfl)
    next hPlan =>
      split
      · exact hSound.goto hActing rfl (.free rfl)
      · apply hSound.goto hActing rfl
        apply Stands.adopts rfl hCaller ?_ hFile hThere
        rw [hPlan]
        rintro ⟨⟩

end Records

end Home

end Taskfleet
