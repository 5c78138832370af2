import Taskfleet.Profiles
import Taskfleet.RetryNames

/-
  The choice of a worker's profile at `run create`: the level
  that names one, and the candidate that is taken.

  Whether an executable is there is a parameter.

  Main declarations:
    * `requested`, `skipReason`, `scan`, `resolveWith`
    * `Level`, `deciding`, `requested_eq`
    * `Usable`, `Chosen`, `Fails`
    * `selection_sound`
-/

------------------------------------------------------------
-- Harness Selection
------------------------------------------------------------

namespace Taskfleet

open Fallible

namespace Profiles

/- The layer that supplied a harness. -/
inductive HarnessSource where
| flag
| env
| file
| default
deriving DecidableEq, Repr

def HarnessSource.name : HarnessSource → String
| .flag => "flag"
| .env => "env"
| .file => "file"
| .default => "default"

structure HarnessChoice where
  name : String
  source : HarnessSource
deriving DecidableEq, Repr

inductive HarnessNameError where
| empty
| unknown
deriving DecidableEq, Repr

def validateHarnessName (raw : String) :
    Except HarnessNameError String :=
  if Text.trim raw = "" then .error .empty
  else if Text.trim raw ∈ knownHarnesses then .ok (Text.trim raw)
  else .error .unknown

def finish (raw : String) (source : HarnessSource) :
    Checked HarnessChoice :=
  match validateHarnessName raw with
  | .ok name => .ok ⟨name, source⟩
  | .error .empty =>
      .error ((ConfigError.user "invalid_harness"
        s!"empty harness name (from {source.name}); known harnesses: {commaJoined knownHarnesses}").withExpected
          knownHarnesses)
  | .error .unknown =>
      .error (((ConfigError.user "invalid_harness"
        s!"unknown harness '{Text.trim raw}' (from {source.name}); known harnesses: {commaJoined knownHarnesses}").withInvalidValue
          (Text.trim raw)).withExpected knownHarnesses)

/- A value that is not blank, trimmed. -/
def nonempty (value : Option String) : Option String :=
  (value.map Text.trim).filter (fun v => v ≠ "")

def selectHarness
    (kind : Kind) (flag env : Option String) (config : Config) :
    Checked HarnessChoice :=
  match flag with
  | some raw => finish raw .flag
  | none =>
      match nonempty env with
      | some trimmed => finish trimmed .env
      | none =>
          match config.harness.perKind.get kind.wireName with
          | some raw => finish raw .file
          | none =>
              match config.harness.default with
              | some raw => finish raw .file
              | none => finish defaultHarness .default

------------------------------------------------------------
-- The Request
------------------------------------------------------------

inductive Source where
| cli
| environment
| repositoryPerKind
| userPerKind
| repositoryDefault
| userDefault
deriving DecidableEq, Repr

def Source.name : Source → String
| .cli => "cli"
| .environment => "environment"
| .repositoryPerKind => "repository-per-kind"
| .userPerKind => "user-per-kind"
| .repositoryDefault => "repository-default"
| .userDefault => "user-default"

structure Requested where
  name : String
  harnessAlias : Bool
  source : Source
deriving DecidableEq, Repr

/- What a creation asks for, and its environment. -/
structure Ask where
  kind : Kind
  lifecycle : Lifecycle
  profileFlag : Option String
  harnessFlag : Option String
  profileEnv : Option String
  harnessEnv : Option String
deriving DecidableEq, Repr

def conflicting (level profile harness : String) : ConfigError :=
  .user "conflicting_profile_selection"
    s!"{level} sets both '{profile}' and legacy '{harness}'; set exactly one at this precedence level"

/- The one selector of a level that has any. -/
def pick
    (source : Source)
    (level profileName harnessName : String) :
    Option String → Option String → Checked (Option Requested)
| some _, some _ =>
    .error (conflicting level profileName harnessName)
| some name, none => .ok (some ⟨name, false, source⟩)
| none, some name => .ok (some ⟨name, true, source⟩)
| none, none => .ok none

/- The highest level with a selector decides. -/
def requested
    (ask : Ask) (config : Config) (repo : RepoConfig) :
    Checked (Option Requested) :=
  let profileFlag := nonempty ask.profileFlag
  let harnessFlag := nonempty ask.harnessFlag
  let profileEnv := nonempty ask.profileEnv
  let harnessEnv := nonempty ask.harnessEnv
  let kindName := ask.kind.wireName
  let userProfileKind := config.profile.perKind.get kindName
  let userHarnessKind := config.harness.perKind.get kindName
  if profileFlag.isSome ∨ harnessFlag.isSome then
    pick .cli "CLI" "--profile" "--harness" profileFlag
      harnessFlag
  else if profileEnv.isSome ∨ harnessEnv.isSome then
    pick .environment "environment" "TASKFLEET_PROFILE"
      "TASKFLEET_HARNESS" profileEnv harnessEnv
  else
    match repo.profile.perKind.get kindName with
    | some name => .ok (some ⟨name, false, .repositoryPerKind⟩)
    | none =>
        if userProfileKind.isSome ∨ userHarnessKind.isSome then
          pick .userPerKind "user per-kind config"
            s!"profile.per_kind.{kindName}"
            s!"harness.per_kind.{kindName}" userProfileKind
            userHarnessKind
        else
          match repo.profile.default with
          | some name =>
              .ok (some ⟨name, false, .repositoryDefault⟩)
          | none =>
              pick .userDefault "user default config"
                "profile.default" "harness.default"
                config.profile.default config.harness.default

------------------------------------------------------------
-- Candidates
------------------------------------------------------------

def skipReason
    (lifecycle : Lifecycle) (available : String → Bool)
    (c : AgentCandidate) : Option String :=
  match c.command with
  | [] => some "executable_missing"
  | executable :: _ =>
      if available executable = false then
        some "executable_missing"
      else if lifecycle = .autonomous ∧
          c.harness ≠ "pi" ∧ c.harness ≠ "claude" then
        some "autonomous_harness_unsupported"
      else if lifecycle = .autonomous ∧ c.harness = "pi" ∧
          c.telemetry ≠ some "worker-v1" then
        some "telemetry_unsupported"
      else none

/- An error of the resolver, or an index beyond a byte. -/
inductive Refusal where
| panicked
| refused (e : ConfigError)
deriving DecidableEq, Repr

abbrev Resolving := Except Refusal

def refuse {α : Type} (e : ConfigError) : Resolving α :=
  .error (.refused e)

/- The candidates in turn, from a position on. -/
def scan
    (lifecycle : Lifecycle) (available : String → Bool) :
    Nat → List AgentCandidate →
      Resolving
        (List SkippedAgentCandidate ×
          Option SelectedAgentCandidate)
| _, [] => .ok ([], none)
| index, c :: rest =>
    if 256 ≤ index then .error .panicked
    else
      match skipReason lifecycle available c with
      | some reason => do
          let (skipped, selected) ←
            scan lifecycle available (index + 1) rest
          return (⟨index, c.harness, reason⟩ :: skipped, selected)
      | none =>
          .ok ([],
            some ⟨index, c.harness, c.command, c.telemetry⟩)

------------------------------------------------------------
-- Resolving a Request
------------------------------------------------------------

structure Resolution where
  harness : HarnessChoice
  selection : Option AgentSelection
deriving DecidableEq, Repr

def interactionName : Lifecycle → String
| .autonomous => "autonomous"
| .interactive => "explicit-interactive"

def harnessSourceOf : Source → HarnessSource
| .cli => .flag
| .environment => .env
| .repositoryPerKind | .userPerKind | .repositoryDefault
| .userDefault => .file

/- An alias is the name of a harness. -/
def checkAlias (r : Requested) : Checked Unit :=
  if r.harnessAlias then
    match validateHarnessName r.name with
    | .ok _ => .ok ()
    | .error _ =>
        .error (((ConfigError.user "invalid_harness"
          s!"unknown legacy harness alias '{r.name}'; known harnesses: {commaJoined knownHarnesses}").withInvalidValue
            r.name).withExpected knownHarnesses)
  else .ok ()

/- The user's profile that a request names. -/
def requestedProfile (config : Config) (r : Requested) :
    Checked AgentProfile := do
  checkAlias r
  let profile ←
    orError
      (((ConfigError.user "unknown_profile"
        s!"profile '{r.name}' selected from {r.source.name} is not defined in the user config; repository config and legacy harness aliases may only name user-owned profiles").withInvalidValue
          r.name).withExpected config.profiles.keys)
      (config.profiles.get r.name)
  refuseIf
    (r.harnessAlias = true ∧
      ∃ c ∈ profile.agents, c.harness ≠ r.name)
    ((ConfigError.user "harness_alias_mismatch"
      s!"legacy harness alias '{r.name}' requires every candidate in profile '{r.name}' to use harness '{r.name}'").withInvalidValue
        r.name)
  return profile

def skippedRow (row : SkippedAgentCandidate) : String :=
  s!"{row.candidateIndex}:{row.harness}:{row.reason}"

def skippedText (fallback : List SkippedAgentCandidate) :
    String :=
  commaJoined (fallback.map skippedRow)

def exhausted
    (r : Requested) (lifecycle : Lifecycle)
    (profile : AgentProfile)
    (fallback : List SkippedAgentCandidate) : ConfigError :=
  { (ConfigError.user "profile_candidates_exhausted"
      s!"profile '{r.name}' has no eligible {interactionName lifecycle} candidate; skipped: {skippedText fallback}").withInvalidValue
        r.name with
    details := some {
      schemaVersion := 1
      profile := r.name
      selectionSource := r.source.name
      interaction := interactionName lifecycle
      capability := profile.capability.name
      residency := profile.residency.name
      requestedHarness :=
        if r.harnessAlias then some r.name else none
      fallback := fallback } }

def selectionOf
    (r : Requested) (lifecycle : Lifecycle)
    (profile : AgentProfile)
    (selected : SelectedAgentCandidate)
    (fallback : List SkippedAgentCandidate) :
    AgentSelection where
  schemaVersion := 1
  profile := r.name
  selectionSource := r.source.name
  interaction := interactionName lifecycle
  capability := profile.capability.name
  residency := profile.residency.name
  requestedHarness :=
    if r.harnessAlias then some r.name else none
  selected := selected
  fallback := fallback

/- The first eligible candidate of the requested profile. -/
def resolveRequest
    (lifecycle : Lifecycle) (config : Config)
    (available : String → Bool) (r : Requested) :
    Resolving Resolution := do
  let profile ← (requestedProfile config r).mapError .refused
  let (fallback, selected) ←
    scan lifecycle available 0 profile.agents
  match selected with
  | none => refuse (exhausted r lifecycle profile fallback)
  | some selected =>
      return {
        harness := ⟨selected.harness, harnessSourceOf r.source⟩
        selection :=
          some (selectionOf r lifecycle profile selected
            fallback) }

/- The launcher from before there were profiles. -/
def withoutProfile (choice : Checked HarnessChoice) :
    Resolving Resolution := do
  let harness ← choice.mapError .refused
  return ⟨harness, none⟩

def profileRequired : ConfigError :=
  .user "profile_required"
    "profiles are configured but no profile was selected; pass --profile, set TASKFLEET_PROFILE, or configure profile.default"

def resolveWith
    (ask : Ask) (config : Config) (repo : RepoConfig)
    (available : String → Bool) : Resolving Resolution := do
  match ← (requested ask config repo).mapError .refused with
  | none =>
      if config.profiles.isEmpty then
        withoutProfile (selectHarness ask.kind none none config)
      else refuse profileRequired
  | some r =>
      if config.profiles.isEmpty ∧ r.harnessAlias then
        withoutProfile
          (selectHarness ask.kind (nonempty ask.harnessFlag)
            (nonempty ask.harnessEnv) config)
      else
        resolveRequest ask.lifecycle config available r

------------------------------------------------------------
-- The Deciding Level
------------------------------------------------------------

/- What one level says: a profile, a harness, or both. -/
structure Level where
  source : Source
  profile : Option String
  harness : Option String
deriving DecidableEq, Repr

namespace Level

def speaks (l : Level) : Bool :=
  l.profile.isSome || l.harness.isSome

def request (l : Level) : Option Requested :=
  match l.profile, l.harness with
  | some name, none => some ⟨name, false, l.source⟩
  | none, some name => some ⟨name, true, l.source⟩
  | _, _ => none

def names (kind : Kind) : Source → String × String × String
| .cli => ("CLI", "--profile", "--harness")
| .environment =>
    ("environment", "TASKFLEET_PROFILE", "TASKFLEET_HARNESS")
| .userPerKind =>
    ("user per-kind config",
      s!"profile.per_kind.{kind.wireName}",
      s!"harness.per_kind.{kind.wireName}")
| .userDefault =>
    ("user default config", "profile.default",
      "harness.default")
-- A repository has one selector at each of its levels.
| .repositoryPerKind | .repositoryDefault => ("", "", "")

/- What a level that decides makes of the request. -/
def answer (kind : Kind) (l : Level) :
    Checked (Option Requested) :=
  let (level, profileName, harnessName) := names kind l.source
  pick l.source level profileName harnessName l.profile
    l.harness

/- Whether a level is one of the repository's. -/
def ofRepository (l : Level) : Prop :=
  l.source = .repositoryPerKind ∨ l.source = .repositoryDefault

end Level

/- The levels, the highest first. -/
def levels (ask : Ask) (config : Config) (repo : RepoConfig) :
    List Level :=
  [⟨.cli, nonempty ask.profileFlag, nonempty ask.harnessFlag⟩,
    ⟨.environment, nonempty ask.profileEnv,
      nonempty ask.harnessEnv⟩,
    ⟨.repositoryPerKind,
      repo.profile.perKind.get ask.kind.wireName, none⟩,
    ⟨.userPerKind,
      config.profile.perKind.get ask.kind.wireName,
      config.harness.perKind.get ask.kind.wireName⟩,
    ⟨.repositoryDefault, repo.profile.default, none⟩,
    ⟨.userDefault, config.profile.default,
      config.harness.default⟩]

def deciding (ask : Ask) (config : Config) (repo : RepoConfig) :
    Option Level :=
  (levels ask config repo).find? Level.speaks

section Deciding

variable {ask : Ask} {config : Config} {repo repo' : RepoConfig}
variable {r : Requested} {l : Level}

theorem answer_of_request
    (hRequest : l.request = some r) (kind : Kind) :
    l.answer kind = .ok (some r) := by
  rcases l with ⟨source, profile, harness⟩
  cases profile with
  | none =>
      cases harness with
      | none => cases hRequest
      | some name =>
          cases hRequest
          rfl
  | some name =>
      cases harness with
      | none =>
          cases hRequest
          rfl
      | some other => cases hRequest

/- A level that speaks for no one request sets both. -/
theorem answer_of_both
    (hSpeaks : l.speaks = true)
    (hNone : l.request = none) (kind : Kind) :
    ∃ e, l.answer kind = .error e := by
  rcases l with ⟨source, profile, harness⟩
  cases profile with
  | none =>
      cases harness with
      | none => cases hSpeaks
      | some name => cases hNone
  | some name =>
      cases harness with
      | none => cases hNone
      | some other => exact ⟨_, rfl⟩

theorem request_eq_none
    (hSpeaks : l.speaks = true) :
    l.request = none ↔
      l.profile.isSome = true ∧ l.harness.isSome = true := by
  rcases l with ⟨source, profile, harness⟩
  cases profile with
  | none =>
      cases harness with
      | none => cases hSpeaks
      | some name => simp [Level.request]
  | some name =>
      cases harness with
      | none => simp [Level.request]
      | some other => simp [Level.request]

/- The chain of the code answers for the deciding level. -/
theorem requested_eq
    (ask : Ask) (config : Config) (repo : RepoConfig) :
    requested ask config repo =
      match deciding ask config repo with
      | none => .ok none
      | some l => l.answer ask.kind := by
  unfold deciding levels requested
  dsimp only
  by_cases hCli :
      (Level.mk .cli (nonempty ask.profileFlag)
        (nonempty ask.harnessFlag)).speaks
  · rw [List.find?_cons_of_pos hCli,
      if_pos (by simpa [Level.speaks] using hCli)]
    rfl
  rw [List.find?_cons_of_neg hCli,
    if_neg (by simpa [Level.speaks] using hCli)]
  by_cases hEnv :
      (Level.mk .environment (nonempty ask.profileEnv)
        (nonempty ask.harnessEnv)).speaks
  · rw [List.find?_cons_of_pos hEnv,
      if_pos (by simpa [Level.speaks] using hEnv)]
    rfl
  rw [List.find?_cons_of_neg hEnv,
    if_neg (by simpa [Level.speaks] using hEnv)]
  cases hRepoKind :
      repo.profile.perKind.get ask.kind.wireName with
  | some name =>
      rw [List.find?_cons_of_pos (by rfl)]
      rfl
  | none =>
      rw [List.find?_cons_of_neg (by simp [Level.speaks])]
      dsimp only
      by_cases hUserKind :
          (Level.mk .userPerKind
            (config.profile.perKind.get ask.kind.wireName)
            (config.harness.perKind.get
              ask.kind.wireName)).speaks
      · rw [List.find?_cons_of_pos hUserKind,
          if_pos (by simpa [Level.speaks] using hUserKind)]
        rfl
      rw [List.find?_cons_of_neg hUserKind,
        if_neg (by simpa [Level.speaks] using hUserKind)]
      cases hRepo : repo.profile.default with
      | some name =>
          rw [List.find?_cons_of_pos (by rfl)]
          rfl
      | none =>
          rw [List.find?_cons_of_neg (by simp [Level.speaks])]
          dsimp only
          by_cases hUser :
              (Level.mk .userDefault config.profile.default
                config.harness.default).speaks
          · rw [List.find?_cons_of_pos hUser]
            rfl
          · rw [List.find?_cons_of_neg hUser]
            rw [Level.speaks, Bool.or_eq_true, not_or] at hUser
            simp only [Option.not_isSome_iff_eq_none] at hUser
            rw [hUser.1, hUser.2]
            rfl

theorem speaks_of_deciding
    (hDeciding : deciding ask config repo = some l) :
    l.speaks = true :=
  List.find?_some hDeciding

/- Two searches that differ in marked places only. -/
theorem find?_of_marked
    {α : Type} {p : α → Bool} {xs ys : List α}
    (Marked : α → Prop)
    (hAligned :
      List.Forall₂
        (fun x y => x = y ∨ Marked x ∧ Marked y) xs ys)
    (hFirst : ∀ x, xs.find? p = some x → ¬ Marked x)
    (hSecond : ∀ y, ys.find? p = some y → ¬ Marked y) :
    xs.find? p = ys.find? p := by
  induction hAligned with
  | nil => rfl
  | @cons x y rest rest' hHere hRest ih =>
      rcases hHere with hSame | hMarked
      · subst hSame
        by_cases hFound : p x = true
        · rw [List.find?_cons_of_pos hFound,
            List.find?_cons_of_pos hFound]
        · rw [List.find?_cons_of_neg hFound] at hFirst hSecond ⊢
          rw [List.find?_cons_of_neg hFound]
          exact ih hFirst hSecond
      · have hNot : ¬ p x = true := by
          intro hFound
          exact hFirst x (List.find?_cons_of_pos hFound)
            hMarked.1
        have hNot' : ¬ p y = true := by
          intro hFound
          exact hSecond y (List.find?_cons_of_pos hFound)
            hMarked.2
        rw [List.find?_cons_of_neg hNot] at hFirst ⊢
        rw [List.find?_cons_of_neg hNot'] at hSecond ⊢
        exact ih hFirst hSecond

/- The repository has no say in what is asked for. -/
def Shadowed
    (ask : Ask) (config : Config) (repo : RepoConfig) : Prop :=
  ∀ l, deciding ask config repo = some l → ¬ l.ofRepository

theorem deciding_of_shadowed
    (hFirst : Shadowed ask config repo)
    (hSecond : Shadowed ask config repo') :
    deciding ask config repo = deciding ask config repo' := by
  apply find?_of_marked Level.ofRepository ?_ hFirst hSecond
  have hKind :
      ∀ profile profile',
        Level.ofRepository
            ⟨.repositoryPerKind, profile, none⟩ ∧
          Level.ofRepository
            ⟨.repositoryPerKind, profile', none⟩ := by
    intro profile profile'
    exact ⟨.inl rfl, .inl rfl⟩
  have hDefault :
      ∀ profile profile',
        Level.ofRepository
            ⟨.repositoryDefault, profile, none⟩ ∧
          Level.ofRepository
            ⟨.repositoryDefault, profile', none⟩ := by
    intro profile profile'
    exact ⟨.inr rfl, .inr rfl⟩
  exact
    .cons (.inl rfl) (.cons (.inl rfl)
      (.cons (.inr (hKind _ _)) (.cons (.inl rfl)
        (.cons (.inr (hDefault _ _)) (.cons (.inl rfl)
          .nil)))))

end Deciding

------------------------------------------------------------
-- The Chosen Candidate
------------------------------------------------------------

/- The rows of candidates that were passed, with positions. -/
def SkippedRows
    (lifecycle : Lifecycle) (available : String → Bool)
    (index : Nat) (passed : List AgentCandidate)
    (rows : List SkippedAgentCandidate) : Prop :=
  List.Forall₂
    (fun entry row =>
      skipReason lifecycle available entry.1 =
          some row.reason ∧
        row.candidateIndex = entry.2 ∧
        row.harness = entry.1.harness)
    (passed.zipIdx index) rows

section Scan

variable {lifecycle : Lifecycle} {available : String → Bool}
variable {index : Nat} {agents : List AgentCandidate}

theorem scan_of_skipped
    {c : AgentCandidate} {rest : List AgentCandidate}
    {reason : String}
    (hIndex : index < 256)
    (hReason : skipReason lifecycle available c = some reason) :
    scan lifecycle available index (c :: rest) =
      (scan lifecycle available (index + 1) rest).map
        (fun out =>
          (⟨index, c.harness, reason⟩ :: out.1, out.2)) := by
  rw [scan, if_neg (by omega)]
  simp only [hReason]
  cases scan lifecycle available (index + 1) rest <;> rfl

theorem scan_of_eligible
    {c : AgentCandidate} {rest : List AgentCandidate}
    (hIndex : index < 256)
    (hReason : skipReason lifecycle available c = none) :
    scan lifecycle available index (c :: rest) =
      .ok ([],
        some ⟨index, c.harness, c.command, c.telemetry⟩) := by
  rw [scan, if_neg (by omega)]
  simp only [hReason]

/- A scan has no error but the panic. -/
theorem scan_error
    {e : Refusal}
    (hScan : scan lifecycle available index agents = .error e) :
    e = .panicked := by
  induction agents generalizing index with
  | nil => cases hScan
  | cons c rest ih =>
      by_cases hIndex : index < 256
      · cases hReason : skipReason lifecycle available c with
        | none =>
            rw [scan_of_eligible hIndex hReason] at hScan
            cases hScan
        | some reason =>
            rw [scan_of_skipped hIndex hReason] at hScan
            cases hRest :
                scan lifecycle available (index + 1) rest with
            | ok out =>
                rw [hRest] at hScan
                cases hScan
            | error e' =>
                rw [hRest] at hScan
                cases hScan
                exact ih hRest
      · rw [scan, if_pos (by omega)] at hScan
        cases hScan
        rfl

/- Where the scan ends: past the last, or at the first good. -/
theorem scan_cases
    (hFew : index + agents.length ≤ 256) :
    (∃ rows,
      SkippedRows lifecycle available index agents rows ∧
        scan lifecycle available index agents =
          .ok (rows, none)) ∨
      ∃ before c after rows,
        agents = before ++ c :: after ∧
          SkippedRows lifecycle available index before rows ∧
          skipReason lifecycle available c = none ∧
          scan lifecycle available index agents =
            .ok (rows,
              some ⟨index + before.length, c.harness,
                c.command, c.telemetry⟩) := by
  induction agents generalizing index with
  | nil => exact .inl ⟨[], .nil, rfl⟩
  | cons c rest ih =>
      rw [List.length_cons] at hFew
      have hIndex : index < 256 := by omega
      have hLater : index + 1 + rest.length ≤ 256 := by omega
      cases hReason : skipReason lifecycle available c with
      | none =>
          exact .inr ⟨[], c, rest, [], rfl, .nil, hReason,
            scan_of_eligible hIndex hReason⟩
      | some reason =>
          have hHere :=
            @scan_of_skipped lifecycle available index c rest
              reason hIndex hReason
          rcases ih hLater with hAll | hFound
          · rcases hAll with ⟨rows, hRows, hScan⟩
            rw [hScan] at hHere
            exact .inl ⟨⟨index, c.harness, reason⟩ :: rows,
              .cons ⟨hReason, rfl, rfl⟩ hRows, hHere⟩
          · rcases hFound with
              ⟨before, d, after, rows, hSplit, hRows, hGood,
                hScan⟩
            rw [hScan] at hHere
            refine .inr ⟨c :: before, d, after,
              ⟨index, c.harness, reason⟩ :: rows, ?_,
              .cons ⟨hReason, rfl, rfl⟩ hRows, hGood, ?_⟩
            · rw [hSplit, List.cons_append]
            · rw [hHere, List.length_cons]
              simp only [Except.map, Nat.add_assoc,
                Nat.add_comm 1]

theorem SkippedRows.skipped
    {rows : List SkippedAgentCandidate}
    (hRows :
      SkippedRows lifecycle available index agents rows) :
    ∀ c ∈ agents,
      skipReason lifecycle available c ≠ none := by
  induction agents generalizing index rows with
  | nil =>
      intro c hMem
      exact absurd hMem List.not_mem_nil
  | cons c rest ih =>
      unfold SkippedRows at hRows
      rw [List.zipIdx_cons] at hRows
      cases hRows with
      | cons hHere hRest =>
          rw [List.forall_mem_cons, hHere.1]
          exact ⟨Option.some_ne_none _, ih hRest⟩

end Scan

/- A profile of the user's that a request may use. -/
def Usable
    (config : Config) (r : Requested) (p : AgentProfile) :
    Prop :=
  config.profiles.get r.name = some p ∧
    (r.harnessAlias = true →
      ∀ c ∈ p.agents, c.harness = r.name)

/- A choice: the first eligible candidate, as it is defined. -/
def Chosen
    (ask : Ask)
    (available : String → Bool)
    (r : Requested) (p : AgentProfile)
    (resolution : Resolution) : Prop :=
  ∃ before c after rows,
    p.agents = before ++ c :: after ∧
      SkippedRows ask.lifecycle available 0 before rows ∧
      skipReason ask.lifecycle available c = none ∧
      resolution =
        ⟨⟨c.harness, harnessSourceOf r.source⟩,
          some (selectionOf r ask.lifecycle p
            ⟨before.length, c.harness, c.command, c.telemetry⟩
            rows)⟩

------------------------------------------------------------
-- Soundness of the Selection
------------------------------------------------------------

section Soundness

variable {ask : Ask} {config : Config}
variable {repo repo' : RepoConfig}
variable {available : String → Bool} {r : Requested}
variable {p : AgentProfile} {resolution : Resolution}

theorem knownHarness_valid
    {name : String}
    (hKnown : name ∈ knownHarnesses) :
    ∃ valid, validateHarnessName name = .ok valid := by
  unfold knownHarnesses at hKnown
  rw [List.mem_pair] at hKnown
  rcases hKnown with hName | hName
  · rw [hName]
    exact exists_ok (by decide +kernel)
  · rw [hName]
    exact exists_ok (by decide +kernel)

theorem checkAlias_of_usable
    (hSound : config.Sound)
    (hUsable : Usable config r p) : checkAlias r = .ok () := by
  unfold checkAlias
  split
  · rename_i hAlias
    have hProfile := hSound r.name p hUsable.1
    rcases List.exists_mem_of_ne_nil _ hProfile.some with
      ⟨c, hMem⟩
    have hKnown := (hProfile.agents c hMem).harness
    rw [hUsable.2 hAlias c hMem] at hKnown
    rcases knownHarness_valid hKnown with ⟨valid, hValid⟩
    rw [hValid]
  · rfl

theorem requestedProfile_eq_ok
    (hSound : config.Sound) :
    requestedProfile config r = .ok p ↔ Usable config r p := by
  have hAliased :
      (¬ (r.harnessAlias = true ∧
          ∃ c ∈ p.agents, c.harness ≠ r.name)) ↔
        (r.harnessAlias = true →
          ∀ c ∈ p.agents, c.harness = r.name) := by
    simp only [not_and, not_exists, not_not]
  unfold requestedProfile
  simp only [bind_eq_ok, orError_eq_ok, refuseIf_eq_ok]
  constructor
  · intro hRun
    rcases hRun with ⟨_, _, p', hGet, _, hAlias, hSame⟩
    cases hSame
    exact ⟨hGet, hAliased.mp hAlias⟩
  · intro hUsable
    exact ⟨(), checkAlias_of_usable hSound hUsable, p,
      hUsable.1, (), hAliased.mpr hUsable.2, rfl⟩

/- Nothing comes of a request: no profile, or no candidate. -/
def Hopeless
    (ask : Ask) (config : Config)
    (available : String → Bool) (r : Requested) : Prop :=
  (∀ p, ¬ Usable config r p) ∨
    ∃ p, Usable config r p ∧
      ∀ c ∈ p.agents,
        skipReason ask.lifecycle available c ≠ none

theorem Chosen.not_hopeless
    (hChosen : Chosen ask available r p resolution)
    (hUsable : Usable config r p) :
    ¬ Hopeless ask config available r := by
  rcases hChosen with
    ⟨before, c, after, _, hSplit, _, hGood, _⟩
  intro hHopeless
  rcases hHopeless with hNone | hAll
  · exact hNone p hUsable
  · rcases hAll with ⟨p', hUsable', hSkipped⟩
    have hSame : p' = p :=
      Option.some.inj (hUsable'.1.symm.trans hUsable.1)
    rw [hSame, hSplit] at hSkipped
    exact hSkipped c (by simp) hGood

/- A request is refused, or the choice is made. -/
theorem resolveRequest_cases
    (hSound : config.Sound) :
    (Hopeless ask config available r ∧
      ∃ e, resolveRequest ask.lifecycle config available r =
        .error (.refused e)) ∨
      ∃ p resolution,
        Usable config r p ∧ Chosen ask available r p resolution ∧
          resolveRequest ask.lifecycle config available r =
            .ok resolution := by
  unfold resolveRequest
  cases hProfile : requestedProfile config r with
  | error e =>
      refine .inl ⟨.inl ?_, e, rfl⟩
      intro p hUsable
      rw [(requestedProfile_eq_ok hSound).mpr hUsable] at hProfile
      cases hProfile
  | ok p =>
      have hUsable := (requestedProfile_eq_ok hSound).mp hProfile
      have hFew : 0 + p.agents.length ≤ 256 := by
        have hEight := (hSound r.name p hUsable.1).few
        omega
      simp only [Except.mapError, ok_bind]
      have hScanned :=
        @scan_cases ask.lifecycle available 0 p.agents hFew
      rcases hScanned with hAll | hFound
      · rcases hAll with ⟨rows, hRows, hScan⟩
        rw [hScan]
        exact .inl ⟨.inr ⟨p, hUsable, hRows.skipped⟩, _, rfl⟩
      · rcases hFound with
          ⟨before, c, after, rows, hSplit, hRows, hGood, hScan⟩
        rw [hScan]
        refine .inr ⟨p, _, hUsable,
          ⟨before, c, after, rows, hSplit, hRows, hGood, rfl⟩, ?_⟩
        simp only [ok_bind, Nat.zero_add]
        rfl

/- Of a repository, only the deciding level is read. -/
theorem resolveWith_of_deciding
    (hDeciding :
      deciding ask config repo = deciding ask config repo') :
    resolveWith ask config repo available =
      resolveWith ask config repo' available := by
  unfold resolveWith
  rw [requested_eq, requested_eq, hDeciding]

theorem resolveWith_of_none
    (hProfiles : config.profiles.isEmpty = false)
    (hDeciding : deciding ask config repo = none) :
    resolveWith ask config repo available =
      .error (.refused profileRequired) := by
  unfold resolveWith
  rw [requested_eq, hDeciding, hProfiles]
  rfl

theorem resolveWith_of_both
    {l : Level}
    (hDeciding : deciding ask config repo = some l)
    (hBoth : l.request = none) :
    ∃ e, resolveWith ask config repo available =
      .error (.refused e) := by
  rcases answer_of_both (speaks_of_deciding hDeciding) hBoth
      ask.kind with ⟨e, hAnswer⟩
  refine ⟨e, ?_⟩
  unfold resolveWith
  rw [requested_eq, hDeciding]
  dsimp only
  rw [hAnswer]
  rfl

theorem resolveWith_of_level
    {l : Level}
    (hDeciding : deciding ask config repo = some l)
    (hRequest : l.request = some r) :
    resolveWith ask config repo available =
      if config.profiles.isEmpty ∧ r.harnessAlias then
        withoutProfile
          (selectHarness ask.kind (nonempty ask.harnessFlag)
            (nonempty ask.harnessEnv) config)
      else
        resolveRequest ask.lifecycle config available r := by
  unfold resolveWith
  rw [requested_eq, hDeciding]
  dsimp only
  rw [answer_of_request hRequest]
  rfl

theorem resolveWith_of_request
    {l : Level}
    (hProfiles : config.profiles.isEmpty = false)
    (hDeciding : deciding ask config repo = some l)
    (hRequest : l.request = some r) :
    resolveWith ask config repo available =
      resolveRequest ask.lifecycle config available r := by
  rw [resolveWith_of_level hDeciding hRequest, hProfiles,
    if_neg (by simp)]

/- How a selection can fail, and no other way. -/
def Fails
    (ask : Ask) (config : Config) (repo : RepoConfig)
    (available : String → Bool) : Prop :=
  deciding ask config repo = none ∨
    ∃ l, deciding ask config repo = some l ∧
      (l.profile.isSome = true ∧ l.harness.isSome = true ∨
        ∃ r, l.request = some r ∧
          Hopeless ask config available r)

theorem resolveWith_cases
    (hSound : config.Sound)
    (hProfiles : config.profiles.isEmpty = false) :
    (Fails ask config repo available ∧
      ∃ e, resolveWith ask config repo available =
        .error (.refused e)) ∨
      ∃ l r p resolution,
        deciding ask config repo = some l ∧
          l.request = some r ∧ Usable config r p ∧
          Chosen ask available r p resolution ∧
          resolveWith ask config repo available =
            .ok resolution := by
  cases hDeciding : deciding ask config repo with
  | none =>
      exact .inl ⟨.inl hDeciding, profileRequired,
        resolveWith_of_none hProfiles hDeciding⟩
  | some l =>
      cases hRequest : l.request with
      | none =>
          have hBoth :=
            (request_eq_none (speaks_of_deciding hDeciding)).mp
              hRequest
          exact .inl ⟨.inr ⟨l, hDeciding, .inl hBoth⟩,
            resolveWith_of_both hDeciding hRequest⟩
      | some r =>
          rw [resolveWith_of_request hProfiles hDeciding hRequest]
          rcases resolveRequest_cases hSound with hRefused | hMade
          · exact .inl ⟨.inr ⟨l, hDeciding, .inr ⟨r, hRequest,
              hRefused.1⟩⟩, hRefused.2⟩
          · rcases hMade with
              ⟨p, resolution, hUsable, hChosen, hRun⟩
            exact .inr ⟨l, r, p, resolution, rfl, hRequest,
              hUsable, hChosen, hRun⟩

/- What is chosen excludes every way to fail. -/
theorem not_fails_of_chosen
    {l : Level}
    (hDeciding : deciding ask config repo = some l)
    (hRequest : l.request = some r)
    (hUsable : Usable config r p)
    (hChosen : Chosen ask available r p resolution) :
    ¬ Fails ask config repo available := by
  intro hFails
  rcases hFails with hNone | hLevel
  · rw [hDeciding] at hNone
    cases hNone
  · rcases hLevel with ⟨l', hDeciding', hHow⟩
    rw [hDeciding] at hDeciding'
    cases hDeciding'
    rcases hHow with hBoth | hHopeless
    · rw [(request_eq_none
        (speaks_of_deciding hDeciding)).mpr hBoth] at hRequest
      cases hRequest
    · rcases hHopeless with ⟨r', hRequest', hHopeless⟩
      rw [hRequest] at hRequest'
      cases hRequest'
      exact hChosen.not_hopeless hUsable hHopeless

/-
  A loaded configuration with profiles: the deciding level
  names the profile, its first eligible candidate is taken as
  it stands there, and a repository only ever names.
-/
theorem selection_sound
    {parse : String → Except String Config}
    {parseDuration : String → Except String Nat}
    {path : String} {read : FileText}
    (hLoad :
      Config.loadFrom parse parseDuration path read =
        .ok config)
    (hProfiles : config.profiles.isEmpty = false)
    (ask : Ask) (repo : RepoConfig)
    (available : String → Bool) :
    (∀ resolution,
      resolveWith ask config repo available = .ok resolution →
        ∃ l r p, deciding ask config repo = some l ∧
          l.request = some r ∧ Usable config r p ∧
          Chosen ask available r p resolution) ∧
    ((∃ e, resolveWith ask config repo available = .error e) ↔
      Fails ask config repo available) ∧
    resolveWith ask config repo available ≠ .error .panicked ∧
    (∀ repo',
      (Shadowed ask config repo ∧ Shadowed ask config repo') ∨
        deciding ask config repo = deciding ask config repo' →
      resolveWith ask config repo available =
        resolveWith ask config repo' available) := by
  have hSound := sound_of_loadFrom hLoad
  have hSame :
      ∀ repo',
        (Shadowed ask config repo ∧
            Shadowed ask config repo') ∨
          deciding ask config repo =
            deciding ask config repo' →
        resolveWith ask config repo available =
          resolveWith ask config repo' available := by
    intro repo' hHow
    apply resolveWith_of_deciding
    rcases hHow with hShadowed | hDeciding
    · exact deciding_of_shadowed hShadowed.1 hShadowed.2
    · exact hDeciding
  have hCases :=
    @resolveWith_cases ask config repo available hSound hProfiles
  rcases hCases with hRefused | hMade
  · rcases hRefused with ⟨hFails, e, hRun⟩
    rw [hRun] at hSame ⊢
    refine ⟨?_, ?_, ?_, hSame⟩
    · intro resolution hOk
      cases hOk
    · exact ⟨fun _ => hFails, fun _ => ⟨_, rfl⟩⟩
    · intro hPanic
      cases hPanic
  · rcases hMade with
      ⟨l, r, p, chosen, hDeciding, hRequest, hUsable, hChosen,
        hRun⟩
    have hNot :=
      not_fails_of_chosen hDeciding hRequest hUsable hChosen
    rw [hRun] at hSame ⊢
    refine ⟨?_, ?_, ?_, hSame⟩
    · intro resolution hOk
      cases hOk
      exact ⟨l, r, p, hDeciding, hRequest, hUsable, hChosen⟩
    · constructor
      · intro hError
        rcases hError with ⟨e, hError⟩
        cases hError
      · intro hFails
        exact absurd hFails hNot
    · intro hPanic
      cases hPanic

end Soundness

end Profiles

namespace Sample

open Profiles

/- Pi without telemetry, then pi as an autonomous worker. -/
def piWorker : AgentCandidate :=
  ⟨"pi", ["pi-adapted", "--model", "fictional"],
    some "worker-v1"⟩

def piProfile : AgentProfile where
  description := "General work"
  capability := .capable
  residency := .remote
  agents := [⟨"pi", ["pi"], none⟩, piWorker]

def profiled : Config :=
  { Config.empty with
    profiles := ⟨[("pi", piProfile)], by decide⟩
    profile := ⟨some "pi", .empty⟩ }

def spinoffAsk : Ask where
  kind := .spinoff
  lifecycle := .autonomous
  profileFlag := none
  harnessFlag := none
  profileEnv := none
  harnessEnv := none

/- The file that holds this configuration. -/
def profiledText : String :=
  "[profile]\n" ++
    "default = \"pi\"\n\n" ++
    "[profiles.pi]\n" ++
    "description = \"General work\"\n" ++
    "capability = \"capable\"\n" ++
    "residency = \"remote\"\n\n" ++
    "[[profiles.pi.agents]]\n" ++
    "harness = \"pi\"\n" ++
    "command = [\"pi\"]\n\n" ++
    "[[profiles.pi.agents]]\n" ++
    "harness = \"pi\"\n" ++
    "command = [\"pi-adapted\", \"--model\", \"fictional\"]\n" ++
    "telemetry = \"worker-v1\"\n"

/- A decoder that reads this file and refuses all others. -/
def decodeProfiled (content : String) :
    Except String Config :=
  if content = profiledText then .ok profiled
  else .error "unsupported text"

def loadProfiled (content : String) : Checked Config :=
  Config.loadFrom decodeProfiled
    (fun _ => .error "no duration") "config.toml"
    (.text content)

theorem loadProfiled_eq :
    loadProfiled profiledText = .ok profiled := by
  have hValid :
      profiled.validate (fun _ => .error "no duration")
          "config.toml" =
        .ok () :=
    ok_of_toOption (by decide +kernel)
  unfold loadProfiled Config.loadFrom
  dsimp only
  rw [if_neg (by decide +kernel)]
  simp [decodeProfiled, Except.mapError, hValid]

end Sample

namespace Profiles

open Sample in
/- The repository's choice of name does not change the argv. -/
theorem worker_of_user_profile :
    resolveWith spinoffAsk profiled ⟨⟨some "pi", .empty⟩⟩
        (fun _ => true) ≠ .error .panicked ∧
      ∃ l r p,
        deciding spinoffAsk profiled ⟨⟨some "pi", .empty⟩⟩ = some l ∧
          l.request = some r ∧ Usable profiled r p ∧
          Chosen spinoffAsk (fun _ => true) r p
            ⟨⟨"pi", .file⟩,
              some (selectionOf
                ⟨"pi", false, .repositoryDefault⟩ .autonomous
                piProfile
                ⟨1, "pi", piWorker.command, some "worker-v1"⟩
                [⟨0, "pi", "telemetry_unsupported"⟩])⟩ := by
  have hSound :=
    selection_sound loadProfiled_eq rfl spinoffAsk
      ⟨⟨some "pi", .empty⟩⟩ (fun _ => true)
  exact ⟨hSound.2.2.1, hSound.1 _ (by rfl)⟩

end Profiles

end Taskfleet
