import Taskfleet.Decode
import Taskfleet.ReportSchema
import Taskfleet.Fallible

/-
  The user's `config.toml` and the repository's selection
  file: what a file may hold and what is refused on load.

  Only a user profile holds a command. The TOML decoder and
  the reader of human durations are parameters.

  Main declarations:
    * `NameMap`, `Config`, `RepoConfig`
    * `validateProfiles`, `TmuxConfig.retentionPolicy`
    * `Config.loadFrom`, `RepoConfig.loadText`
    * `Config.Sound`, `sound_of_loadFrom`
-/

------------------------------------------------------------
-- Configuration Values
------------------------------------------------------------

namespace Taskfleet

open Fallible

namespace Profiles

/- A map with its keys in order. -/
structure NameMap (V : Type) where
  entries : List (String × V)
  sorted : (entries.map Prod.fst).Pairwise (fun a b => a < b)

namespace NameMap

variable {V : Type}

def empty : NameMap V := ⟨[], List.Pairwise.nil⟩

def get (m : NameMap V) (key : String) : Option V :=
  m.entries.lookup key

def keys (m : NameMap V) : List String :=
  m.entries.map Prod.fst

def isEmpty (m : NameMap V) : Bool := m.entries.isEmpty

theorem mem_of_get
    {m : NameMap V} {key : String} {v : V}
    (hGet : m.get key = some v) : (key, v) ∈ m.entries := by
  unfold get at hGet
  generalize m.entries = entries at hGet
  induction entries with
  | nil => cases hGet
  | cons entry rest ih =>
      rcases entry with ⟨k, w⟩
      by_cases hKey : key = k
      · rw [hKey, List.lookup_cons_self,
          Option.some.injEq] at hGet
        rw [hKey, hGet]
        exact List.mem_cons_self
      · have hOther : (key == k) = false := by simpa using hKey
        rw [List.lookup_cons, hOther] at hGet
        exact List.mem_cons_of_mem _ (ih hGet)

end NameMap

structure HarnessConfig where
  default : Option String
  perKind : NameMap String

structure ProfileSelectionConfig where
  default : Option String
  perKind : NameMap String

inductive ProfileCapability where
| fast
| capable
| ultraCapable
deriving DecidableEq, Repr

def ProfileCapability.name : ProfileCapability → String
| .fast => "fast"
| .capable => "capable"
| .ultraCapable => "ultra-capable"

inductive ProfileResidency where
| «local»
| remote
deriving DecidableEq, Repr

def ProfileResidency.name : ProfileResidency → String
| .«local» => "local"
| .remote => "remote"

/- One argv; a command is never a shell text. -/
structure AgentCandidate where
  harness : String
  command : List String
  telemetry : Option String
deriving DecidableEq, Repr

structure AgentProfile where
  description : String
  capability : ProfileCapability
  residency : ProfileResidency
  agents : List AgentCandidate
deriving DecidableEq, Repr

structure TmuxConfig where
  defaultSession : Option String
  persistent : Bool
  completedWindowTtl : Option String
  completedWindowMax : Option Nat
deriving DecidableEq, Repr

structure Config where
  harness : HarnessConfig
  profile : ProfileSelectionConfig
  profiles : NameMap AgentProfile
  tmux : TmuxConfig

/- A repository names profiles and holds nothing else. -/
structure RepoConfig where
  profile : ProfileSelectionConfig

def ProfileSelectionConfig.empty : ProfileSelectionConfig where
  default := none
  perKind := .empty

def Config.empty : Config where
  harness := ⟨none, .empty⟩
  profile := .empty
  profiles := .empty
  tmux := ⟨none, false, none, none⟩

def RepoConfig.empty : RepoConfig := ⟨.empty⟩

------------------------------------------------------------
-- Errors
------------------------------------------------------------

/- What a selection without an eligible candidate tells. -/
structure ExhaustedSelection where
  schemaVersion : Nat
  profile : String
  selectionSource : String
  interaction : String
  capability : String
  residency : String
  requestedHarness : Option String
  fallback : List SkippedAgentCandidate
deriving DecidableEq, Repr

structure ConfigError where
  system : Bool
  code : String
  message : String
  invalidValue : Option String
  expected : Option (List String)
  details : Option ExhaustedSelection
deriving DecidableEq, Repr

namespace ConfigError

def user (code message : String) : ConfigError where
  system := false
  code := code
  message := message
  invalidValue := none
  expected := none
  details := none

def withInvalidValue
    (e : ConfigError) (value : String) : ConfigError :=
  { e with invalidValue := some value }

def withExpected
    (e : ConfigError) (values : List String) : ConfigError :=
  { e with expected := some values }

end ConfigError

abbrev Checked := Except ConfigError

------------------------------------------------------------
-- Validation
------------------------------------------------------------

def knownHarnesses : List String := ["claude", "pi"]

def defaultHarness : String := "pi"

def commaJoined (names : List String) : String :=
  ", ".intercalate names

def validateKindKeys
    (path section_ : String) (values : NameMap String) :
    Checked Unit :=
  values.keys.forM (fun key =>
    refuseIf (key ∉ Kind.wireNames)
      ((ConfigError.user "invalid_config"
        s!"config file {path} has an unknown run kind '{key}' in [{section_}]; valid kinds: {commaJoined Kind.wireNames}").withInvalidValue
          key))

/- Lowercase letters, digits and single inner hyphens. -/
def validProfileName (name : String) : Bool :=
  Text.isSlug 63 name

def validateProfileReference
    (path : String) : Option String → Checked Unit
| none => .ok ()
| some name =>
    refuseIf (validProfileName name = false)
      ((ConfigError.user "invalid_profile_name"
        s!"config file {path} has invalid profile name '{name}'; expected lowercase letters/digits with single hyphens, starting with a letter (max 63 characters)").withInvalidValue
          name)

def invalidProfile (message : String) : ConfigError :=
  .user "invalid_profile" message

/- The components of a path, a leading dot among them. -/
def componentCount (path : String) : Nat :=
  let pieces := path.toList.splitOn '/'
  let absolute := path.toList.head? = some '/'
  let named := pieces.filter (fun piece =>
    piece ≠ [] ∧ piece ≠ ['.'])
  let leading :=
    if absolute ∨ pieces.head? = some ['.'] then 1 else 0
  leading + named.length

/- A bare name, or a path from the root. -/
def unambiguous (executable : String) : Bool :=
  componentCount executable ≤ 1 ∨
    executable.toList.head? = some '/'

def validateArg
    (name : String) (index : Nat) (arg : String) :
    Checked Unit :=
  refuseIf
    (arg = "" ∨ arg.utf8ByteSize > 4096 ∨
      arg.toList.contains '\x00' = true)
    (invalidProfile
      s!"profile '{name}' candidate {index} has an empty, oversized, or NUL-containing argv item")

def validateTelemetry
    (name : String) (index : Nat) (c : AgentCandidate) :
    Checked Unit :=
  match c.telemetry with
  | none => .ok ()
  | some value =>
      if c.harness = "pi" then
        refuseIf (value ≠ "worker-v1")
          ((invalidProfile
            s!"profile '{name}' candidate {index} has unknown telemetry '{value}'; expected worker-v1").withInvalidValue
              value)
      else if c.harness = "claude" then
        .error (invalidProfile
          s!"profile '{name}' candidate {index}: telemetry is supported only for pi")
      else
        .error (invalidProfile
          s!"profile '{name}' candidate {index} has an unsupported harness/telemetry combination")

/- One candidate, not among the earlier ones of its profile. -/
def validateCandidate
    (name : String) (seen : List AgentCandidate)
    (index : Nat) (c : AgentCandidate) : Checked Unit := do
  refuseIf (c.harness ∉ knownHarnesses)
    ((invalidProfile
      s!"profile '{name}' candidate {index} has unknown harness '{c.harness}'; expected pi or claude").withInvalidValue
        c.harness)
  refuseIf (c.command = [] ∨ c.command.length > 32)
    (invalidProfile
      s!"profile '{name}' candidate {index} command must contain 1..=32 argv items")
  c.command.forM (validateArg name index)
  refuseIf ((c.command.map String.utf8ByteSize).sum > 16384)
    (invalidProfile
      s!"profile '{name}' candidate {index} command exceeds 16384 bytes")
  let executable := c.command.head?.getD ""
  refuseIf (unambiguous executable = false)
    ((invalidProfile
      s!"profile '{name}' candidate {index} executable must be absolute or a bare PATH name; relative paths with separators are ambiguous").withInvalidValue
        executable)
  validateTelemetry name index c
  refuseIf (c ∈ seen)
    (invalidProfile
      s!"profile '{name}' contains duplicate candidate {index}")

def validateCandidates
    (name : String) (seen : List AgentCandidate) :
    List AgentCandidate → Checked Unit
| [] => .ok ()
| c :: rest => do
    validateCandidate name seen seen.length c
    validateCandidates name (seen ++ [c]) rest

def validateProfile
    (path name : String) (profile : AgentProfile) :
    Checked Unit := do
  validateProfileReference path (some name)
  refuseIf
    (Text.trim profile.description = "" ∨
      profile.description.utf8ByteSize > 512)
    (invalidProfile
      s!"profile '{name}' description must be 1..=512 characters")
  refuseIf (profile.agents = [] ∨ profile.agents.length > 8)
    (invalidProfile
      s!"profile '{name}' agents must contain 1..=8 candidates")
  validateCandidates name [] profile.agents

def validateProfiles
    (path : String) (profiles : NameMap AgentProfile) :
    Checked Unit :=
  profiles.entries.forM (fun entry =>
    validateProfile path entry.1 entry.2)

def validateTmuxSessionName (name : String) : Checked Unit :=
  refuseIf
    (¬ (name ≠ "" ∧ name.utf8ByteSize ≤ 64 ∧
      name.toList.all (fun c =>
        c.isAlphanum || c == '-' || c == '_')))
    ((ConfigError.user "invalid_tmux_session"
      s!"invalid tmux session {name.quote}; expected 1..=64 ASCII letters, digits, '-' or '_'").withInvalidValue
        name)

def maxRetentionSecs : Nat := 365 * 24 * 60 * 60

/-
  The retention that a section asks for. A human duration is
  read in whole seconds.
-/
def TmuxConfig.retentionPolicy
    (parseDuration : String → Except String Nat)
    (tmux : TmuxConfig) :
    Checked (Option TmuxRetentionPolicy) :=
  if tmux.persistent = false then do
    refuseIf
      (tmux.completedWindowTtl.isSome = true ∨
        tmux.completedWindowMax.isSome = true)
      (.user "invalid_config"
        "tmux completed-window limits require tmux.persistent = true")
    return none
  else do
    let session :=
      (tmux.defaultSession.map Text.trim).filter
        (fun v => v ≠ "")
    refuseIf (session = none)
      (.user "invalid_config"
        "tmux.persistent requires a non-empty tmux.default_session")
    let rawTtl ←
      orError
        (.user "invalid_config"
          "tmux.persistent requires tmux.completed_window_ttl")
        tmux.completedWindowTtl
    let ttl ←
      (parseDuration rawTtl).mapError (fun e =>
        .user "invalid_config"
          s!"invalid tmux.completed_window_ttl {rawTtl.quote}: {e}")
    refuseIf (ttl = 0 ∨ ttl > maxRetentionSecs)
      (.user "invalid_config"
        "tmux.completed_window_ttl must be between 1s and 365d")
    let max ←
      orError
        (.user "invalid_config"
          "tmux.completed_window_max must be greater than zero")
        (tmux.completedWindowMax.filter (fun value => 0 < value))
    return some ⟨true, ttl, max⟩

------------------------------------------------------------
-- Loading
------------------------------------------------------------

/- What a read of the file comes to. -/
inductive FileText where
| absent
| unreadable (detail : String)
| text (content : String)

/- The checks on names that both files share. -/
def ProfileSelectionConfig.validate
    (path : String) (selection : ProfileSelectionConfig) :
    Checked Unit := do
  validateProfileReference path selection.default
  selection.perKind.entries.forM (fun entry =>
    validateProfileReference path (some entry.2))

namespace Config

def validate
    (parseDuration : String → Except String Nat)
    (path : String) (config : Config) : Checked Unit := do
  validateKindKeys path "harness.per_kind" config.harness.perKind
  validateKindKeys path "profile.per_kind" config.profile.perKind
  config.profile.validate path
  validateProfiles path config.profiles
  match config.tmux.defaultSession with
  | none => .ok ()
  | some session => validateTmuxSessionName session
  let _ ← config.tmux.retentionPolicy parseDuration
  return ()

def loadFrom
    (parse : String → Except String Config)
    (parseDuration : String → Except String Nat)
    (path : String) : FileText → Checked Config
| .absent => .ok .empty
| .unreadable detail =>
    .error { ConfigError.user "config_unreadable"
      s!"could not read config file {path}: {detail}" with
        system := true }
| .text content =>
    if Text.trim content = "" then .ok .empty
    else do
      let config ←
        (parse content).mapError (fun e =>
          .user "invalid_config"
            s!"config file {path} is not valid: {e}")
      config.validate parseDuration path
      return config

end Config

/- The text of a repository's file; nothing else is opened. -/
def RepoConfig.loadText
    (parse : String → Except String RepoConfig)
    (path content : String) : Checked RepoConfig :=
  if Text.trim content = "" then .ok .empty
  else do
    let config ←
      (parse content).mapError (fun e =>
        .user "invalid_repository_config"
          s!"repository config {path} is selection-only and is not valid: {e}; executable profiles, commands, argv, adapter paths, and residency belong only in the user config")
    validateKindKeys path "profile.per_kind" config.profile.perKind
    config.profile.validate path
    return config

------------------------------------------------------------
-- What a Loaded File Holds
------------------------------------------------------------

/- A candidate as every loaded profile has them. -/
structure SoundCandidate (c : AgentCandidate) : Prop where
  harness : c.harness ∈ knownHarnesses
  command : c.command ≠ []
  short : c.command.length ≤ 32
  args : ∀ arg ∈ c.command,
    arg ≠ "" ∧ arg.utf8ByteSize ≤ 4096 ∧
      arg.toList.contains '\x00' = false
  total : (c.command.map String.utf8ByteSize).sum ≤ 16384
  telemetry : c.telemetry = none ∨
    c.harness = "pi" ∧ c.telemetry = some "worker-v1"

structure SoundProfile
    (name : String) (p : AgentProfile) : Prop where
  name : Text.isSlug 63 name = true
  some : p.agents ≠ []
  few : p.agents.length ≤ 8
  agents : ∀ c ∈ p.agents, SoundCandidate c

def Config.Sound (config : Config) : Prop :=
  ∀ name p, config.profiles.get name = some p →
    SoundProfile name p

section Loaded

variable {path name : String} {c : AgentCandidate}
variable {p : AgentProfile} {config : Config}

theorem telemetry_of_validate
    {index : Nat} {u : Unit}
    (hValid : validateTelemetry name index c = .ok u) :
    c.telemetry = none ∨
      c.harness = "pi" ∧ c.telemetry = some "worker-v1" := by
  unfold validateTelemetry at hValid
  cases hValue : c.telemetry with
  | none => exact .inl rfl
  | some value =>
      rw [hValue] at hValid
      dsimp only at hValid
      split at hValid
      · rename_i hPi
        rw [refuseIf_eq_ok, not_not] at hValid
        rw [hValid]
        exact .inr ⟨hPi, rfl⟩
      · split at hValid
        · cases hValid
        · cases hValid

theorem soundCandidate_of_validate
    {seen : List AgentCandidate} {index : Nat} {u : Unit}
    (hValid : validateCandidate name seen index c = .ok u) :
    SoundCandidate c := by
  unfold validateCandidate at hValid
  simp only [bind_eq_ok, refuseIf_eq_ok, forM_eq_ok] at hValid
  rcases hValid with
    ⟨_, hHarness, _, hCommand, _, hArgs, _, hTotal, _, _,
      _, hTelemetry, _⟩
  rw [not_or] at hCommand
  refine ⟨not_not.mp hHarness, hCommand.1, by omega, ?_,
    by omega, telemetry_of_validate hTelemetry⟩
  intro arg hMem
  have hArg := hArgs arg hMem
  rw [validateArg, refuseIf_eq_ok, not_or, not_or,
    Bool.not_eq_true] at hArg
  exact ⟨hArg.1, by omega, hArg.2.2⟩

theorem soundCandidates_of_validate
    {seen agents : List AgentCandidate} {u : Unit}
    (hValid : validateCandidates name seen agents = .ok u) :
    ∀ c ∈ agents, SoundCandidate c := by
  induction agents generalizing seen with
  | nil =>
      intro c hMem
      exact absurd hMem List.not_mem_nil
  | cons c rest ih =>
      rw [validateCandidates, bind_eq_ok] at hValid
      rcases hValid with ⟨_, hHere, hRest⟩
      rw [List.forall_mem_cons]
      exact ⟨soundCandidate_of_validate hHere, ih hRest⟩

theorem soundProfile_of_validate
    {u : Unit}
    (hValid : validateProfile path name p = .ok u) :
    SoundProfile name p := by
  unfold validateProfile validateProfileReference at hValid
  simp only [bind_eq_ok, refuseIf_eq_ok, not_or] at hValid
  rcases hValid with
    ⟨_, hName, _, _, _, hAgents, hCandidates⟩
  refine ⟨by simpa [validProfileName] using hName, hAgents.1,
    by omega,
    soundCandidates_of_validate hCandidates⟩

theorem sound_of_validate
    {parseDuration : String → Except String Nat} {u : Unit}
    (hValid : config.validate parseDuration path = .ok u) :
    config.Sound := by
  unfold Config.validate at hValid
  simp only [bind_eq_ok] at hValid
  rcases hValid with ⟨_, _, _, _, _, _, _, hProfiles, _⟩
  rw [validateProfiles, forM_eq_ok] at hProfiles
  intro name p hGet
  exact soundProfile_of_validate
    (hProfiles (name, p) (NameMap.mem_of_get hGet))

/- What is loaded is empty or was validated. -/
theorem sound_of_loadFrom
    {parse : String → Except String Config}
    {parseDuration : String → Except String Nat}
    {read : FileText}
    (hLoad :
      Config.loadFrom parse parseDuration path read =
        .ok config) :
    config.Sound := by
  have hEmpty : Config.empty.Sound := by
    intro name p hGet
    cases hGet
  unfold Config.loadFrom at hLoad
  cases read with
  | absent =>
      cases hLoad
      exact hEmpty
  | unreadable detail => cases hLoad
  | text content =>
      dsimp only at hLoad
      split at hLoad
      · cases hLoad
        exact hEmpty
      · simp only [bind_eq_ok] at hLoad
        rcases hLoad with ⟨loaded, _, _, hValid, hSame⟩
        cases hSame
        exact sound_of_validate hValid

end Loaded

end Profiles

end Taskfleet
