import Mathlib.Data.Countable.Basic
import Mathlib.Logic.Equiv.List
import Mathlib.Tactic.DeriveCountable
import Taskfleet.Durable
import Taskfleet.Quarantine
import Taskfleet.Reducer.Rewrites
import Taskfleet.Steps
import Taskfleet.Telemetry

/-
  The sample files of a run as bytes, replaced by accepted
  updates while the events of the run go on.

  The serializer and the parser of samples are parameters.

  Main declarations:
    * `TelemetryCodec`, `readStored`
    * `updateTelemetryFile`, `TelemetryStep`
    * `TelemetryWorld.Sound`, `telemetry_consistent`
-/

------------------------------------------------------------
-- Files
------------------------------------------------------------

namespace Taskfleet

open Fallible

/- How requests and samples are written and parsed. -/
structure TelemetryCodec where
  requestBytes : TelemetryUpdate → Nat
  encode : StoredTelemetrySample → Bytes
  decode : Bytes → Option StoredTelemetrySample
  maxTime : Time

namespace TelemetryCodec

def tenv (codec : TelemetryCodec) : TelemetryEnv where
  requestBytes := codec.requestBytes
  sampleBytes := fun sample => (codec.encode sample).length
  maxTime := codec.maxTime

/- What was written parses back. -/
def Faithful (codec : TelemetryCodec) : Prop :=
  ∀ sample, codec.decode (codec.encode sample) = some sample

end TelemetryCodec

/- A file is read up to the first byte past the bound. -/
def readStored (codec : TelemetryCodec) :
    Option Bytes → StoredRead
| none => .absent
| some file =>
    let bytes := file.take (telemetryMaxBytes + 1)
    if telemetryMaxBytes < bytes.length then .corrupt
    else
      match codec.decode bytes with
      | some sample => .valid sample
      | none => .corrupt

/- A run with the sample files beside it. -/
structure TelemetryWorld where
  disk : Disk
  files : NodeId → Option Bytes

namespace TelemetryWorld

/- The sample files as they are parsed. -/
def samples (w : TelemetryWorld) (codec : TelemetryCodec) :
    TelemetryDir :=
  fun id => readStored codec (w.files id)

def writeFile
    (w : TelemetryWorld) (id : NodeId) (bytes : Bytes) :
    TelemetryWorld :=
  { w with files := Function.update w.files id (some bytes) }

/- The file of a node is that of a sample. -/
def Holds
    (w : TelemetryWorld)
    (codec : TelemetryCodec)
    (id : NodeId)
    (sample : StoredTelemetrySample) : Prop :=
  w.files id = some (codec.encode sample)

end TelemetryWorld

/- The only write of an update. -/
inductive TelemetryWrite where
| sample (id : NodeId)

/- The sample that an update writes over what was there. -/
def TelemetryUpdate.sampleOver
    (update : TelemetryUpdate)
    (codec : TelemetryCodec)
    (env : RunEnv)
    (w : TelemetryWorld)
    (now expiresAt : Time) : StoredTelemetrySample :=
  update.sample
    (stateSince codec.tenv env update now
      (w.samples codec update.nodeId)) now expiresAt

/- The checks of an update, and then its one atomic write. -/
def updateTelemetryFile
    (codec : TelemetryCodec)
    (env : RunEnv)
    (update : TelemetryUpdate)
    (now : Time) :
    Durable TelemetryWrite TelemetryWorld TelemetryError
      TelemetryAccepted := do
  let w ← Durable.read
  let checked ← Durable.lift
    (updateTelemetryWithClock codec.tenv env w.disk
      (w.samples codec) update now)
  let sample :=
    update.sampleOver codec env w now checked.1.expiresAt
  Durable.write (.sample update.nodeId)
    (fun w => w.writeFile update.nodeId (codec.encode sample))
  return checked.1

------------------------------------------------------------
-- Accepted Updates
------------------------------------------------------------

section Updates

variable {codec : TelemetryCodec} {env : RunEnv}
variable {w : TelemetryWorld} {update : TelemetryUpdate}
variable {now : Time} {accepted : TelemetryAccepted}
variable {id : NodeId} {sample : StoredTelemetrySample}

theorem readStored_encode
    (hFaithful : codec.Faithful)
    (hSize : (codec.encode sample).length ≤ telemetryMaxBytes) :
    readStored codec (some (codec.encode sample)) =
      .valid sample := by
  have hWhole : (codec.encode sample).take
      (telemetryMaxBytes + 1) = codec.encode sample := by
    apply List.take_of_length_le
    omega
  unfold readStored
  dsimp only
  rw [hWhole, if_neg (by omega), hFaithful sample]

theorem updateTelemetry_spec
    {tenv : TelemetryEnv} {d : Disk} {dir dir' : TelemetryDir}
    (hRun : updateTelemetryWithClock tenv env d dir update
      now = .ok (accepted, dir')) :
    validateUpdateShape update = .ok () ∧
      update.runId = env.runId ∧
      tenv.expiry now = some accepted.expiresAt ∧
      tenv.sampleBytes (update.sample
        (stateSince tenv env update now (dir update.nodeId))
        now accepted.expiresAt) ≤ telemetryMaxBytes := by
  unfold updateTelemetryWithClock ensureSize at hRun
  simp only [bind_eq_ok, refuseIf_eq_ok, orError_eq_ok,
    mapError_eq_ok, pure_eq, Except.ok.injEq,
    Prod.mk.injEq] at hRun
  rcases hRun with
    ⟨_, hShape, _, _, _, hSame, _, _, _, _, _, _, _, _, _, _,
      _, _, expiresAt, hExpiry, _, hSize, rfl, _⟩
  exact ⟨hShape, by simpa using hSame, hExpiry,
    by simpa using hSize⟩

/- What is written has the shape that readers ask for. -/
theorem validStoredShape_sample
    {tenv : TelemetryEnv} {since expiresAt : Time}
    (hShape : validateUpdateShape update = .ok ())
    (hRunId : update.runId = env.runId)
    (hExpiry : tenv.expiry now = some expiresAt) :
    validStoredShape tenv env update.nodeId
      (update.sample since now expiresAt) = true := by
  unfold validateUpdateShape at hShape
  simp only [bind_eq_ok, refuseIf_eq_ok] at hShape
  rcases hShape with ⟨_, _, _, _, hMetadata⟩
  unfold validStoredShape TelemetryUpdate.sample
  simp [hRunId, hExpiry, hMetadata, Except.isOk, Except.toBool]

/- The run of an update from a given state. -/
theorem wp_update
    (Q : TelemetryAccepted → TelemetryWorld → Prop)
    (E : TelemetryError → TelemetryWorld → Prop)
    (C : TelemetryWrite → TelemetryWorld → Prop)
    (hAccepted : ∀ accepted dir',
      updateTelemetryWithClock codec.tenv env w.disk
        (w.samples codec) update now = .ok (accepted, dir') →
      C (.sample update.nodeId)
          (w.writeFile update.nodeId (codec.encode
            (update.sampleOver codec env w now
              accepted.expiresAt))) ∧
        Q accepted
          (w.writeFile update.nodeId (codec.encode
            (update.sampleOver codec env w now
              accepted.expiresAt))))
    (hRejected : ∀ e,
      updateTelemetryWithClock codec.tenv env w.disk
        (w.samples codec) update now = .error e → E e w) :
    Durable.wp (updateTelemetryFile codec env update now)
      Q E C w := by
  unfold updateTelemetryFile
  rw [Durable.wp_bind, Durable.wp_read, Durable.wp_bind]
  cases hRun : updateTelemetryWithClock codec.tenv env w.disk
      (w.samples codec) update now with
  | error e =>
      rw [Durable.wp_lift_error]
      exact hRejected e hRun
  | ok checked =>
      rcases checked with ⟨accepted, dir'⟩
      rw [Durable.wp_lift_ok, Durable.wp_bind,
        Durable.wp_write, Durable.wp_pure]
      exact hAccepted accepted dir' hRun

/- An update that is refused has written nothing. -/
theorem update_rejected
    {e : TelemetryError}
    (hRefused :
      (updateTelemetryFile codec env update now).result w =
        .error e) :
    (updateTelemetryFile codec env update now).final w = w :=
  Durable.wp_error
    (wp_update (fun _ _ => True) (fun _ s => s = w)
      (fun _ _ => True) (fun _ _ _ => ⟨trivial, trivial⟩)
      (fun _ _ => rfl)) hRefused

/- What an accepted update has checked and written. -/
theorem update_accepted
    (hResult :
      (updateTelemetryFile codec env update now).result w =
        .ok accepted) :
    (∃ dir', updateTelemetryWithClock codec.tenv env w.disk
        (w.samples codec) update now = .ok (accepted, dir')) ∧
      (updateTelemetryFile codec env update now).final w =
        w.writeFile update.nodeId (codec.encode
          (update.sampleOver codec env w now
            accepted.expiresAt)) :=
  Durable.wp_ok
    (wp_update
      (fun accepted s =>
        (∃ dir', updateTelemetryWithClock codec.tenv env w.disk
          (w.samples codec) update now =
            .ok (accepted, dir')) ∧
          s = w.writeFile update.nodeId (codec.encode
            (update.sampleOver codec env w now
              accepted.expiresAt)))
      (fun _ _ => True) (fun _ _ => True)
      (fun _ dir' hRun => ⟨trivial, ⟨dir', hRun⟩, rfl⟩)
      (fun _ _ => trivial)) hResult

/- An update that passes its checks is accepted. -/
theorem update_of_checked
    {dir' : TelemetryDir}
    (hChecked :
      updateTelemetryWithClock codec.tenv env w.disk
        (w.samples codec) update now = .ok (accepted, dir')) :
    (updateTelemetryFile codec env update now).result w =
      .ok accepted := by
  have hUpdate :
      Durable.wp (updateTelemetryFile codec env update now)
        (fun answer _ => answer = accepted)
        (fun _ _ => False) (fun _ _ => True) w := by
    apply wp_update
    · intro answer dir hRun
      rw [hChecked, Except.ok.injEq, Prod.mk.injEq] at hRun
      exact ⟨trivial, hRun.1.symm⟩
    · intro e hRun
      rw [hChecked] at hRun
      cases hRun
  rcases Durable.wp_total hUpdate with ⟨answer, hResult, hSame⟩
  rw [hResult, hSame]

end Updates

------------------------------------------------------------
-- Runs
------------------------------------------------------------

inductive TelemetryAct where
| event (ev : Event)
| update (update : TelemetryUpdate) (now : Time)

/- An event of the run, or an update at some clock reading. -/
inductive TelemetryStep
    (codec : TelemetryCodec) (env : RunEnv) :
    TelemetryAct → TelemetryWorld → TelemetryWorld → Prop where
| event {w : TelemetryWorld} (ev : Event) (d' : Disk)
    (hAccepts : Accepts env w.disk ev d') :
    TelemetryStep codec env (.event ev) w { w with disk := d' }
| update {w : TelemetryWorld} (update : TelemetryUpdate)
    (now : Time) :
    TelemetryStep codec env (.update update now) w
      ((updateTelemetryFile codec env update now).final w)

/- A run before any update. -/
def TelemetryWorld.fresh (d : Disk) : TelemetryWorld where
  disk := d
  files := fun _ => none

/- Each file is that of a sound sample, within the bound. -/
def TelemetryWorld.Sound
    (codec : TelemetryCodec) (env : RunEnv)
    (w : TelemetryWorld) : Prop :=
  ∀ id, w.files id = none ∨
    ∃ sample, w.Holds codec id sample ∧
      (codec.encode sample).length ≤ telemetryMaxBytes ∧
      validStoredShape codec.tenv env id sample = true

section Runs

variable {codec : TelemetryCodec} {env : RunEnv}
variable {w w' : TelemetryWorld} {act : TelemetryAct}
variable {update : TelemetryUpdate} {now : Time}
variable {accepted : TelemetryAccepted}
variable {id : NodeId} {sample prior : StoredTelemetrySample}

/- A file is that of one sample only. -/
theorem holds_unique
    {sample' : StoredTelemetrySample}
    (hFaithful : codec.Faithful)
    (hHolds : w.Holds codec id sample)
    (hHolds' : w.Holds codec id sample') : sample' = sample := by
  unfold TelemetryWorld.Holds at hHolds hHolds'
  rw [hHolds, Option.some.injEq] at hHolds'
  have hDecoded := hFaithful sample'
  rw [← hHolds', hFaithful sample,
    Option.some.injEq] at hDecoded
  exact hDecoded.symm

theorem TelemetryWorld.Sound.write
    (hSound : w.Sound codec env)
    (hSize : (codec.encode sample).length ≤ telemetryMaxBytes)
    (hShape : validStoredShape codec.tenv env id sample = true) :
    (w.writeFile id (codec.encode sample)).Sound codec env := by
  intro id'
  by_cases hHere : id' = id
  · subst hHere
    right
    refine ⟨sample, ?_, hSize, hShape⟩
    exact Function.update_self _ _ _
  · have hKept :
        (w.writeFile id (codec.encode sample)).files id' =
          w.files id' :=
      Function.update_of_ne hHere _ _
    unfold Holds
    rw [hKept]
    exact hSound id'

theorem sound_of_accepted
    (hSound : w.Sound codec env)
    (hRun : ∃ dir', updateTelemetryWithClock codec.tenv env
      w.disk (w.samples codec) update now =
        .ok (accepted, dir')) :
    (w.writeFile update.nodeId (codec.encode
      (update.sampleOver codec env w now
        accepted.expiresAt))).Sound codec env := by
  rcases hRun with ⟨dir', hRun⟩
  rcases updateTelemetry_spec hRun with
    ⟨hShape, hRunId, hExpiry, hSize⟩
  exact hSound.write hSize
    (validStoredShape_sample hShape hRunId hExpiry)

theorem TelemetryWorld.Sound.step
    (hStep : TelemetryStep codec env act w w')
    (hSound : w.Sound codec env) : w'.Sound codec env := by
  cases hStep with
  | event ev d' _ => exact hSound
  | update update now =>
      cases hResult :
          (updateTelemetryFile codec env update now).result w
        with
      | error e =>
          rw [update_rejected hResult]
          exact hSound
      | ok accepted =>
          rcases update_accepted hResult with ⟨hRun, hFinal⟩
          rw [hFinal]
          exact sound_of_accepted hSound hRun

theorem sound_of_run
    {d : Disk}
    (hRun : Steps.Run (TelemetryStep codec env)
      (TelemetryWorld.fresh d) w) : w.Sound codec env :=
  hRun.invariant
    (fun _ _ _ hStep hHere => hHere.step hStep)
    (fun _ => .inl rfl)

/- What a sound file holds is what its readers see. -/
theorem TelemetryWorld.Sound.samples
    (hSound : w.Sound codec env)
    (hFaithful : codec.Faithful)
    (hHolds : w.Holds codec id sample) :
    w.samples codec id = .valid sample ∧
      validStoredShape codec.tenv env id sample = true := by
  unfold TelemetryWorld.samples
  rcases hSound id with
    hNone | ⟨sample', hHere, hSize, hShape⟩
  · unfold TelemetryWorld.Holds at hHolds
    rw [hNone] at hHolds
    cases hHolds
  · have hSame := holds_unique hFaithful hHolds hHere
    subst hSame
    unfold TelemetryWorld.Holds at hHere
    rw [hHere]
    exact ⟨readStored_encode hFaithful hSize, hShape⟩

/- The start of a state is kept while the state is repeated. -/
theorem stateSince_of_holds
    (hSound : w.Sound codec env)
    (hFaithful : codec.Faithful)
    (hHolds : w.Holds codec update.nodeId prior) :
    stateSince codec.tenv env update now
        (w.samples codec update.nodeId) =
      if prior.attempt = update.attempt ∧
          prior.state = update.state then prior.stateSince
      else now := by
  rcases hSound.samples hFaithful hHolds with ⟨hSample, hShape⟩
  rw [hSample]
  unfold stateSince
  simp only [hShape, true_and]

theorem stateSince_of_none
    (hNone : w.files update.nodeId = none) :
    stateSince codec.tenv env update now
      (w.samples codec update.nodeId) = now := by
  unfold TelemetryWorld.samples
  rw [hNone]
  rfl

/- A sound sample of the attempt is shown as it is. -/
theorem read_of_holds
    {d : Disk} {n : Node}
    (hSound : w.Sound codec env)
    (hFaithful : codec.Faithful)
    (hHolds : w.Holds codec id sample)
    (hNode : readNode env d id = .ok n)
    (t : Time) :
    readTelemetryLocked codec.tenv env d (w.samples codec) id t =
      .ok (if sample.attempt = n.retryAttempts then
        sample.view t else .bare .absent) := by
  rcases hSound.samples hFaithful hHolds with ⟨hSample, hShape⟩
  unfold readTelemetryLocked
  rw [hNode, ok_bind, hSample]
  simp only [hShape, not_true_eq_false, if_false]
  by_cases hAttempt : sample.attempt = n.retryAttempts
  · rw [if_neg (not_not.mpr hAttempt), if_pos hAttempt]
    rfl
  · rw [if_pos hAttempt, if_neg hAttempt]
    rfl

theorem read_of_none
    {d : Disk} {n : Node}
    (hNone : w.files id = none)
    (hNode : readNode env d id = .ok n)
    (t : Time) :
    readTelemetryLocked codec.tenv env d (w.samples codec) id t =
      .ok (.bare .absent) := by
  unfold readTelemetryLocked TelemetryWorld.samples
  rw [hNode, ok_bind, hNone]
  rfl

end Runs

/-
  Samples stay consistent over every run of events and of
  updates at any clock readings. Each file holds a sound
  sample. An accepted update writes its own, which starts its
  state anew unless the sample before it is of the same
  attempt and state, and which any later read in that attempt
  shows as told. No other attempt's sample is shown, and an
  update leaves the run alone, and the files too if refused.
-/
theorem telemetry_consistent
    (codec : TelemetryCodec)
    (env : RunEnv)
    (hFaithful : codec.Faithful)
    (d : Disk)
    (w : TelemetryWorld)
    (hRun : Steps.Run (TelemetryStep codec env)
      (TelemetryWorld.fresh d) w) :
    w.Sound codec env ∧
      (∀ update now accepted,
        (updateTelemetryFile codec env update now).result w =
          .ok accepted →
        ∃ sample, (updateTelemetryFile codec env update
            now).final w =
              w.writeFile update.nodeId (codec.encode sample) ∧
          sample = update.sample sample.stateSince now
            accepted.expiresAt ∧
          validStoredShape codec.tenv env update.nodeId sample =
            true ∧
          (w.files update.nodeId = none →
            sample.stateSince = now) ∧
          (∀ prior, w.Holds codec update.nodeId prior →
            sample.stateSince =
              if prior.attempt = update.attempt ∧
                  prior.state = update.state then
                prior.stateSince
              else now) ∧
          ∀ d' n t, readNode env d' update.nodeId = .ok n →
            update.attempt = n.retryAttempts →
            readTelemetryLocked codec.tenv env d'
              ((w.writeFile update.nodeId
                (codec.encode sample)).samples codec)
              update.nodeId t = .ok (sample.view t)) ∧
      (∀ update now e,
        (updateTelemetryFile codec env update now).result w =
          .error e →
        (updateTelemetryFile codec env update now).final w =
          w) ∧
      ∀ id n t, readNode env w.disk id = .ok n →
        (∃ sample, w.Holds codec id sample ∧
          sample.attempt = n.retryAttempts ∧
          readTelemetryLocked codec.tenv env w.disk
            (w.samples codec) id t = .ok (sample.view t)) ∨
        (∀ sample, w.Holds codec id sample →
          sample.attempt ≠ n.retryAttempts) ∧
          readTelemetryLocked codec.tenv env w.disk
            (w.samples codec) id t = .ok (.bare .absent) := by
  have hSound := sound_of_run hRun
  refine ⟨hSound, ?_, ?_, ?_⟩
  · intro update now accepted hResult
    rcases update_accepted hResult with ⟨hChecked, hFinal⟩
    have hSound' := sound_of_accepted hSound hChecked
    rcases hChecked with ⟨dir', hChecked⟩
    rcases updateTelemetry_spec hChecked with
      ⟨hShape, hRunId, hExpiry, _⟩
    refine ⟨_, hFinal, rfl,
      validStoredShape_sample hShape hRunId hExpiry, ?_, ?_, ?_⟩
    · intro hNone
      exact stateSince_of_none hNone
    · intro prior hHolds
      exact stateSince_of_holds hSound hFaithful hHolds
    · intro d' n t hNode hAttempt
      rw [read_of_holds hSound' hFaithful
        (Function.update_self _ _ _) hNode t]
      exact congrArg Except.ok (if_pos hAttempt)
  · intro update now e hRefused
    exact update_rejected hRefused
  · intro id n t hNode
    rcases hSound id with hNone | ⟨sample, hHolds, _, _⟩
    · right
      refine ⟨?_, read_of_none hNone hNode t⟩
      intro sample hHolds
      unfold TelemetryWorld.Holds at hHolds
      rw [hNone] at hHolds
      cases hHolds
    · have hRead := read_of_holds hSound hFaithful hHolds hNode t
      by_cases hAttempt : sample.attempt = n.retryAttempts
      · rw [if_pos hAttempt] at hRead
        exact .inl ⟨sample, hHolds, hAttempt, hRead⟩
      · rw [if_neg hAttempt] at hRead
        right
        refine ⟨?_, hRead⟩
        intro sample' hHolds' hSame
        rw [holds_unique hFaithful hHolds hHolds'] at hSame
        exact hAttempt hSame

namespace Sample

def toldUpdate : TelemetryUpdate where
  schemaVersion := 1
  protocolVersion := 1
  runId := env.runId
  nodeId := .first
  attempt := 0
  state := .agentActive
  activeToolCount := none
  toolName := none

/- The first update, three seconds after the epoch. -/
def toldSample : StoredTelemetrySample :=
  toldUpdate.sample (3 * 10 ^ 9) (3 * 10 ^ 9) (93 * 10 ^ 9)

/- The same of the attempt that a retry starts. -/
def retoldUpdate : TelemetryUpdate :=
  { toldUpdate with attempt := 1 }

def retoldSample : StoredTelemetrySample :=
  retoldUpdate.sample (5 * 10 ^ 9) (5 * 10 ^ 9) (95 * 10 ^ 9)

def toldHead (attempt : String) : String :=
  "\x7b\"schema_version\":1,\"protocol_version\":1," ++
    "\"run_id\":\"01jxsnap000000000000000000\"," ++
    "\"node_id\":\"n-0001\",\"attempt\":" ++ attempt ++
    ",\"state\":\"agent_active\""

def toldText : Bytes :=
  ascii
    (toldHead "0" ++
      ",\"state_since\":\"1970-01-01T00:00:03Z\"," ++
      "\"received_at\":\"1970-01-01T00:00:03Z\"," ++
      "\"expires_at\":\"1970-01-01T00:01:33Z\"\x7d")

def retoldText : Bytes :=
  ascii
    (toldHead "1" ++
      ",\"state_since\":\"1970-01-01T00:00:05Z\"," ++
      "\"received_at\":\"1970-01-01T00:00:05Z\"," ++
      "\"expires_at\":\"1970-01-01T00:01:35Z\"\x7d")

section Numbers

instance countableChar : Countable Char :=
  Function.Injective.countable (f := Char.toNat)
    (fun _ _ hSame => Char.toNat_inj.mp hSame)

instance countableString : Countable String :=
  Function.Injective.countable (f := String.toList)
    (fun _ _ hSame => String.toList_inj.mp hSame)

instance : Countable RunId := by
  apply Function.Injective.countable (f := RunId.val)
  rintro ⟨_, _⟩ ⟨_, _⟩ ⟨⟩
  rfl

instance : Countable NodeId := by
  apply Function.Injective.countable (f := NodeId.val)
  rintro ⟨_, _⟩ ⟨_, _⟩ ⟨⟩
  rfl

deriving instance Countable for TelemetryState

deriving instance Countable for StoredTelemetrySample

/- A number for each sample. -/
noncomputable def number : StoredTelemetrySample → Nat :=
  Classical.choose (exists_injective_nat StoredTelemetrySample)

theorem number_injective : Function.Injective number :=
  Classical.choose_spec
    (exists_injective_nat StoredTelemetrySample)

end Numbers

/- The told samples as their texts, others by number. -/
noncomputable def encodeTold (sample : StoredTelemetrySample) :
    Bytes :=
  if sample = toldSample then toldText
  else if sample = retoldSample then retoldText
  else 0 :: List.replicate (number sample) 0

theorem encodeTold_cases (sample : StoredTelemetrySample) :
    sample = toldSample ∧ encodeTold sample = toldText ∨
      sample = retoldSample ∧ encodeTold sample = retoldText ∨
      encodeTold sample =
        0 :: List.replicate (number sample) 0 := by
  unfold encodeTold
  split
  next hTold => exact .inl ⟨hTold, rfl⟩
  · split
    next hRetold => exact .inr (.inl ⟨hRetold, rfl⟩)
    · exact .inr (.inr rfl)

/- No number is written as one of the texts. -/
theorem text_ne_number (n : Nat) :
    toldText ≠ 0 :: List.replicate n 0 ∧
      retoldText ≠ 0 :: List.replicate n 0 := by
  have hTold : toldText.head? = some 123 := by decide +kernel
  have hRetold : retoldText.head? = some 123 := by
    decide +kernel
  constructor
  · intro hSame
    rw [hSame] at hTold
    cases hTold
  · intro hSame
    rw [hSame] at hRetold
    cases hRetold

theorem encodeTold_injective :
    Function.Injective encodeTold := by
  intro a b hSame
  have hTexts : toldText ≠ retoldText := by decide +kernel
  rcases encodeTold_cases a with
    ⟨hA, hText⟩ | ⟨hA, hText⟩ | hNumber
  · rw [hText] at hSame
    rcases encodeTold_cases b with
      ⟨hB, _⟩ | ⟨_, hText'⟩ | hNumber'
    · rw [hA, hB]
    · exact absurd (hSame.trans hText') hTexts
    · exact absurd (hSame.trans hNumber') (text_ne_number _).1
  · rw [hText] at hSame
    rcases encodeTold_cases b with
      ⟨_, hText'⟩ | ⟨hB, _⟩ | hNumber'
    · exact absurd (hSame.trans hText').symm hTexts
    · rw [hA, hB]
    · exact absurd (hSame.trans hNumber') (text_ne_number _).2
  · rw [hNumber] at hSame
    rcases encodeTold_cases b with
      ⟨_, hText'⟩ | ⟨_, hText'⟩ | hNumber'
    · exact absurd (hSame.trans hText').symm
        (text_ne_number _).1
    · exact absurd (hSame.trans hText').symm
        (text_ne_number _).2
    · rw [hNumber'] at hSame
      apply number_injective
      simpa using congrArg List.length hSame

open Classical in
noncomputable def toldCodec : TelemetryCodec where
  requestBytes := fun _ => (ascii (toldHead "0")).length + 1
  encode := encodeTold
  decode := fun bytes =>
    if hSome : ∃ sample, encodeTold sample = bytes then
      some hSome.choose
    else none
  maxTime := 10 ^ 20

theorem toldCodec_faithful : toldCodec.Faithful := by
  intro sample
  have hSome : ∃ sample', encodeTold sample' =
      encodeTold sample := ⟨sample, rfl⟩
  unfold toldCodec
  dsimp only
  rw [dif_pos hSome, Option.some.injEq]
  exact encodeTold_injective hSome.choose_spec

def nodeRetried : Event :=
  event 3 .nodeRetry (some .first) (.obj [("attempt", .int 1)])

/- The run before the retry, and after it. -/
def toldRun : Disk :=
  foldAll env Disk.empty [runCreated, nodeCreated]

def retoldRun : Disk := foldAll env toldRun [nodeRetried]

/- The files that the first update leaves. -/
noncomputable def toldWorld : TelemetryWorld :=
  (TelemetryWorld.fresh toldRun).writeFile .first
    (toldCodec.encode toldSample)

theorem toldWorld_updated :
    (updateTelemetryFile toldCodec env toldUpdate
        (3 * 10 ^ 9)).final (TelemetryWorld.fresh toldRun) =
      toldWorld := by
  have hAccepted :
      ((updateTelemetryFile toldCodec env toldUpdate
        (3 * 10 ^ 9)).result
        (TelemetryWorld.fresh toldRun)).toOption.isSome =
          true := by
    decide +kernel
  have hExpiry : toldCodec.tenv.expiry (3 * 10 ^ 9) =
      some (93 * 10 ^ 9) := by
    decide +kernel
  rcases exists_ok hAccepted with ⟨accepted, hResult⟩
  rcases update_accepted hResult with ⟨⟨_, hChecked⟩, hFinal⟩
  have hExpires := (updateTelemetry_spec hChecked).2.2.1
  rw [hExpiry, Option.some.injEq] at hExpires
  rw [hFinal]
  unfold TelemetryUpdate.sampleOver
  rw [stateSince_of_none rfl, ← hExpires]
  rfl

/- The files after the retry, as the next update sees them. -/
noncomputable def retoldWorld : TelemetryWorld :=
  { toldWorld with disk := retoldRun }

theorem retoldWorld_run :
    Steps.Run (TelemetryStep toldCodec env)
      (TelemetryWorld.fresh toldRun) retoldWorld := by
  have hTold :
      TelemetryStep toldCodec env
        (.update toldUpdate (3 * 10 ^ 9))
        (TelemetryWorld.fresh toldRun) _ :=
    .update toldUpdate (3 * 10 ^ 9)
  rw [toldWorld_updated] at hTold
  have hRetry : AcceptedRun env toldRun [nodeRetried]
      retoldRun :=
    acceptedRun_foldAll (by decide +kernel)
  exact (Steps.Run.next Steps.RunWhen.refl hTold).next
    (.event nodeRetried retoldRun hRetry.accepts)

end Sample

/-
  What was told of the first attempt is not shown after the
  retry, and what is told then starts its state anew.
-/
theorem toldSample_consistent :
    Sample.retoldWorld.Holds Sample.toldCodec .first
        Sample.toldSample ∧
      readTelemetryLocked Sample.toldCodec.tenv Sample.env
        Sample.retoldRun
        (Sample.retoldWorld.samples Sample.toldCodec) .first
        (4 * 10 ^ 9) = .ok (.bare .absent) ∧
      ∃ (w : TelemetryWorld) (sample : StoredTelemetrySample),
        (updateTelemetryFile Sample.toldCodec Sample.env
          Sample.retoldUpdate (5 * 10 ^ 9)).final
          Sample.retoldWorld = w ∧
        sample.stateSince = 5 * 10 ^ 9 ∧
        readTelemetryLocked Sample.toldCodec.tenv Sample.env
          Sample.retoldRun (w.samples Sample.toldCodec) .first
          (6 * 10 ^ 9) = .ok (sample.view (6 * 10 ^ 9)) := by
  have hHolds : Sample.retoldWorld.Holds Sample.toldCodec
      .first Sample.toldSample := by
    have hFile := Function.update_self NodeId.first
      (some (Sample.toldCodec.encode Sample.toldSample))
      (TelemetryWorld.fresh Sample.toldRun).files
    exact hFile
  have hNode :
      (readNode Sample.env Sample.retoldRun
        .first).toOption.map Node.retryAttempts = some 1 := by
    decide +kernel
  rw [Option.map_eq_some_iff] at hNode
  rcases hNode with ⟨n, hNode, hAttempt⟩
  rcases telemetry_consistent Sample.toldCodec Sample.env
      Sample.toldCodec_faithful Sample.toldRun
      Sample.retoldWorld Sample.retoldWorld_run with
    ⟨hSound, hUpdates, _, hReads⟩
  have hSamples : Sample.retoldWorld.samples Sample.toldCodec =
      Function.update (fun _ => .absent) .first
        (.valid Sample.toldSample) := by
    funext id
    by_cases hHere : id = .first
    · rw [hHere, Function.update_self]
      exact (hSound.samples Sample.toldCodec_faithful hHolds).1
    · rw [Function.update_of_ne hHere]
      unfold TelemetryWorld.samples
      rw [show Sample.retoldWorld.files id = none from
        Function.update_of_ne hHere _ _]
      rfl
  have hAccepted :
      (updateTelemetryWithClock Sample.toldCodec.tenv Sample.env
        Sample.retoldRun
        (Function.update (fun _ => .absent) .first
          (.valid Sample.toldSample))
        Sample.retoldUpdate (5 * 10 ^ 9)).toOption.isSome =
          true := by
    decide +kernel
  rcases exists_ok hAccepted with ⟨⟨accepted, dir'⟩, hChecked⟩
  rw [← hSamples] at hChecked
  rcases hUpdates _ _ _ (update_of_checked hChecked) with
    ⟨sample, hFinal, _, _, _, hSince, hShown⟩
  refine ⟨hHolds, ?_, _, sample, hFinal, ?_, ?_⟩
  · rcases hReads .first n (4 * 10 ^ 9)
        (ok_of_toOption hNode) with
      ⟨prior, hPrior, hCurrent, _⟩ | ⟨_, hRead⟩
    · rw [holds_unique Sample.toldCodec_faithful hHolds hPrior,
        hAttempt] at hCurrent
      cases hCurrent
    · exact hRead
  · rw [hSince _ hHolds]
    exact if_neg (by decide)
  · exact hShown Sample.retoldRun n _ (ok_of_toOption hNode)
      hAttempt.symm

end Taskfleet
