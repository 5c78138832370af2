import Taskfleet.Selection

/-
  The entry point in front of the profile resolver, with its
  early exits for a bare harness name.

  The environment and both files are loaded within it; what a
  load comes to is a parameter.

  Main declarations:
    * `World`, `legacyHarness`, `enter`, `resolve`
    * `LegacyDecides`, `enter_of_not_legacy`
    * `entry_agrees_iff`
-/

------------------------------------------------------------
-- The Entry Point
------------------------------------------------------------

namespace Taskfleet

open Fallible

namespace Profiles

/- What the loads come to, and what can be executed. -/
structure World where
  isDir : String → Bool
  profileEnv : Checked (Option String)
  harnessEnv : Checked (Option String)
  config : Checked Config
  repo : Checked RepoConfig
  available : String → Bool

/- The launcher for a harness name, from no configuration. -/
def legacyHarness (kind : Kind) (flag env : Option String) :
    Resolving Resolution :=
  withoutProfile (selectHarness kind flag env .empty)

/- The values of a request, trimmed and without blanks. -/
def Ask.trimmed (ask : Ask) : Ask :=
  { ask with
    profileFlag := nonempty ask.profileFlag
    harnessFlag := nonempty ask.harnessFlag
    profileEnv := nonempty ask.profileEnv
    harnessEnv := nonempty ask.harnessEnv }

/- The repository's file is read if nothing above decides. -/
def resolveLoaded (w : World) (ask : Ask) :
    Resolving Resolution := do
  let config ← w.config.mapError .refused
  let higherLevelSelected :=
    ask.profileFlag.isSome || ask.profileEnv.isSome
  let repo ←
    if higherLevelSelected then .ok .empty
    else w.repo.mapError .refused
  resolveWith ask config repo w.available

/- A request after its environment: the early exits. -/
def enter (w : World) (ask : Ask) : Resolving Resolution :=
  if ask.profileFlag.isSome ∧ ask.harnessFlag.isSome then
    refuse (conflicting "CLI" "--profile" "--harness")
  else if ask.profileFlag = none ∧ ask.harnessFlag.isSome then
    legacyHarness ask.kind ask.harnessFlag none
  else if ask.profileFlag = none ∧
      ask.profileEnv.isSome ∧ ask.harnessEnv.isSome then
    refuse
      (conflicting "environment" "TASKFLEET_PROFILE"
        "TASKFLEET_HARNESS")
  else if ask.profileFlag = none ∧
      ask.profileEnv = none ∧ ask.harnessEnv.isSome then
    legacyHarness ask.kind none ask.harnessEnv
  else resolveLoaded w ask

def resolve
    (w : World) (kind : Kind) (lifecycle : Lifecycle)
    (profileFlag harnessFlag sourceRepo : Option String) :
    Resolving Resolution := do
  match sourceRepo with
  | none => .ok ()
  | some raw =>
      if w.isDir raw then .ok ()
      else
        refuse ((ConfigError.user "invalid_source_repo"
          s!"--source-repo '{raw}' is not an existing directory").withInvalidValue
            raw)
  let profileEnv ← w.profileEnv.mapError .refused
  let harnessEnv ← w.harnessEnv.mapError .refused
  enter w
    (Ask.trimmed
      ⟨kind, lifecycle, profileFlag, harnessFlag, profileEnv,
        harnessEnv⟩)

------------------------------------------------------------
-- Agreement of the Entry Point
------------------------------------------------------------

section Agreement

variable {w : World} {ask : Ask} {config : Config}
variable {repo : RepoConfig} {available : String → Bool}

theorem nonempty_some (v : String) :
    nonempty (some v) =
      if Text.trim v = "" then none else some (Text.trim v) := by
  by_cases hBlank : Text.trim v = ""
  · simp [nonempty, Option.filter, hBlank]
  · simp [nonempty, Option.filter, hBlank]

@[simp] theorem nonempty_nonempty (value : Option String) :
    nonempty (nonempty value) = nonempty value := by
  cases value with
  | none => rfl
  | some v =>
      rw [nonempty_some]
      split
      · rfl
      · rename_i hValue
        rw [nonempty_some, trim_trim, if_neg hValue]

/- The resolver trims once more, to no effect. -/
theorem resolveWith_trimmed :
    resolveWith ask.trimmed config repo available =
      resolveWith ask config repo available := by
  unfold resolveWith requested Ask.trimmed
  simp only [nonempty_nonempty]

def Ask.cliLevel (ask : Ask) : Level :=
  ⟨.cli, nonempty ask.profileFlag, nonempty ask.harnessFlag⟩

def Ask.environmentLevel (ask : Ask) : Level :=
  ⟨.environment, nonempty ask.profileEnv,
    nonempty ask.harnessEnv⟩

theorem deciding_of_cli
    (hCli : ask.cliLevel.speaks = true) :
    deciding ask config repo = some ask.cliLevel :=
  List.find?_cons_of_pos hCli

theorem deciding_of_environment
    (hCli : ask.cliLevel.speaks = false)
    (hEnvironment : ask.environmentLevel.speaks = true) :
    deciding ask config repo = some ask.environmentLevel := by
  unfold deciding levels
  rw [List.find?_cons_of_neg (by
    change ¬ ask.cliLevel.speaks = true
    rw [hCli]
    exact Bool.false_ne_true)]
  exact List.find?_cons_of_pos hEnvironment

theorem resolveRequest_selection
    {r : Requested} {resolution : Resolution}
    (hRun :
      resolveRequest ask.lifecycle config available r =
        .ok resolution) :
    resolution.selection ≠ none := by
  unfold resolveRequest at hRun
  rw [bind_eq_ok] at hRun
  rcases hRun with ⟨p, _, hRun⟩
  rw [bind_eq_ok] at hRun
  rcases hRun with ⟨out, _, hRun⟩
  rcases out with ⟨rows, selected⟩
  cases selected with
  | none => cases hRun
  | some c =>
      cases hRun
      exact Option.some_ne_none _

/- The ninth character of a message that starts with text. -/
theorem ninth_of_append
    {a b : String} (hLong : 8 < a.toList.length) :
    (a ++ b).toList[8]? = a.toList[8]? := by
  rw [String.toList_append, List.getElem?_append_left hLong]

/- How the errors of the two paths are told apart. -/
theorem finish_error
    {raw : String} {source : HarnessSource} {e : ConfigError}
    (hRun : finish raw source = .error e) :
    e.code = "invalid_harness" ∧
      e.message.toList[8]? ≠ some 'l' := by
  unfold finish at hRun
  split at hRun
  · cases hRun
  · cases hRun
    refine ⟨rfl, ?_⟩
    simp only [ConfigError.withExpected, ConfigError.user,
      String.append_assoc]
    rw [ninth_of_append (by decide +kernel)]
    decide +kernel
  · cases hRun
    refine ⟨rfl, ?_⟩
    simp only [ConfigError.withExpected,
      ConfigError.withInvalidValue, ConfigError.user,
      String.append_assoc]
    rw [ninth_of_append (by decide +kernel)]
    decide +kernel

theorem checkAlias_error
    {r : Requested} {e : ConfigError}
    (hRun : checkAlias r = .error e) :
    e.message.toList[8]? = some 'l' := by
  unfold checkAlias at hRun
  split at hRun
  · split at hRun
    · cases hRun
    · cases hRun
      simp only [ConfigError.withExpected,
        ConfigError.withInvalidValue, ConfigError.user,
        String.append_assoc]
      rw [ninth_of_append (by decide +kernel)]
      decide +kernel
  · cases hRun

theorem requestedProfile_error
    {r : Requested} {e : ConfigError}
    (hRun : requestedProfile config r = .error e) :
    e.code ≠ "invalid_harness" ∨
      e.message.toList[8]? = some 'l' := by
  unfold requestedProfile at hRun
  cases hAlias : checkAlias r with
  | error e' =>
      rw [hAlias] at hRun
      cases hRun
      exact .inr (checkAlias_error hAlias)
  | ok u =>
      rw [hAlias, ok_bind] at hRun
      left
      cases hGet : config.profiles.get r.name with
      | none =>
          rw [hGet, orError_none] at hRun
          cases hRun
          exact (by decide : "unknown_profile" ≠ "invalid_harness")
      | some p =>
          rw [hGet, orError_some, ok_bind] at hRun
          unfold refuseIf at hRun
          split at hRun
          · cases hRun
            exact (by decide :
              "harness_alias_mismatch" ≠ "invalid_harness")
          · cases hRun

theorem resolveRequest_error
    {r : Requested} {e : ConfigError}
    (hRun :
      resolveRequest ask.lifecycle config available r =
        .error (.refused e)) :
    e.code ≠ "invalid_harness" ∨
      e.message.toList[8]? = some 'l' := by
  unfold resolveRequest at hRun
  cases hProfile : requestedProfile config r with
  | error e' =>
      rw [hProfile] at hRun
      cases hRun
      exact requestedProfile_error hProfile
  | ok p =>
      rw [hProfile] at hRun
      simp only [Except.mapError, ok_bind] at hRun
      left
      cases hScan :
          scan ask.lifecycle available 0 p.agents with
      | error e' =>
          rw [hScan, scan_error hScan] at hRun
          cases hRun
      | ok out =>
          rcases out with ⟨rows, selected⟩
          rw [hScan, ok_bind] at hRun
          cases selected with
          | none =>
              cases hRun
              exact (by decide :
                "profile_candidates_exhausted" ≠
                  "invalid_harness")
          | some c => cases hRun

/- The launcher without a profile is never a profile's. -/
theorem withoutProfile_ne_resolveRequest
    {raw : String} {source : HarnessSource} {r : Requested} :
    withoutProfile (finish raw source) ≠
      resolveRequest ask.lifecycle config available r := by
  intro hSame
  cases hChoice : finish raw source with
  | ok choice =>
      rw [hChoice] at hSame
      exact resolveRequest_selection hSame.symm rfl
  | error e =>
      rw [hChoice] at hSame
      have hError := finish_error hChoice
      rcases resolveRequest_error hSame.symm with
        hCode | hMessage
      · exact hCode hError.1
      · exact hError.2 hMessage

/-
  A bare harness name decides: by its flag without a profile
  flag, or by its variable with nothing above or beside it.
-/
def LegacyDecides (ask : Ask) : Prop :=
  nonempty ask.profileFlag = none ∧
    ((nonempty ask.harnessFlag).isSome = true ∨
      nonempty ask.profileEnv = none ∧
        (nonempty ask.harnessEnv).isSome = true)

theorem enter_of_flag
    {name : String}
    (hProfile : nonempty ask.profileFlag = none)
    (hHarness : nonempty ask.harnessFlag = some name) :
    enter w ask.trimmed = withoutProfile (finish name .flag) := by
  unfold enter Ask.trimmed
  simp only [hProfile, hHarness]
  rfl

theorem enter_of_variable
    {name : String}
    (hProfile : nonempty ask.profileFlag = none)
    (hFlag : nonempty ask.harnessFlag = none)
    (hVariable : nonempty ask.profileEnv = none)
    (hHarness : nonempty ask.harnessEnv = some name) :
    enter w ask.trimmed = withoutProfile (finish name .env) := by
  have hName : nonempty (some name) = some name := by
    rw [← hHarness]
    exact nonempty_nonempty _
  unfold enter Ask.trimmed legacyHarness selectHarness
  simp [hProfile, hFlag, hVariable, hHarness, hName]

theorem resolveWith_of_flag
    {name : String}
    (hProfile : nonempty ask.profileFlag = none)
    (hHarness : nonempty ask.harnessFlag = some name) :
    resolveWith ask config repo available =
      if config.profiles.isEmpty then
        withoutProfile (finish name .flag)
      else
        resolveRequest ask.lifecycle config available
          ⟨name, true, .cli⟩ := by
  have hSpeaks : ask.cliLevel.speaks = true := by
    rw [Ask.cliLevel, Level.speaks, hHarness, Option.isSome_some,
      Bool.or_true]
  have hRequest :
      ask.cliLevel.request = some ⟨name, true, .cli⟩ := by
    rw [Ask.cliLevel, hProfile, hHarness]
    rfl
  rw [resolveWith_of_level (deciding_of_cli hSpeaks) hRequest,
    hHarness]
  simp only [and_true]
  rfl

theorem resolveWith_of_variable
    {name : String}
    (hProfile : nonempty ask.profileFlag = none)
    (hFlag : nonempty ask.harnessFlag = none)
    (hVariable : nonempty ask.profileEnv = none)
    (hHarness : nonempty ask.harnessEnv = some name) :
    resolveWith ask config repo available =
      if config.profiles.isEmpty then
        withoutProfile (finish name .env)
      else
        resolveRequest ask.lifecycle config available
          ⟨name, true, .environment⟩ := by
  have hSilent : ask.cliLevel.speaks = false := by
    rw [Ask.cliLevel, hProfile, hFlag]
    rfl
  have hSpeaks : ask.environmentLevel.speaks = true := by
    rw [Ask.environmentLevel, Level.speaks, hHarness,
      Option.isSome_some, Bool.or_true]
  have hRequest :
      ask.environmentLevel.request =
        some ⟨name, true, .environment⟩ := by
    rw [Ask.environmentLevel, hVariable, hHarness]
    rfl
  have hName : nonempty (some name) = some name := by
    rw [← hHarness]
    exact nonempty_nonempty _
  rw [resolveWith_of_level
    (deciding_of_environment hSilent hSpeaks) hRequest, hFlag,
    hHarness]
  simp only [and_true]
  unfold selectHarness
  simp only [hName]

/- With a repository's file out of play, it is not read. -/
theorem resolveLoaded_eq
    (hConfig : w.config = .ok config)
    (hRepo : w.repo = .ok repo) :
    resolveLoaded w ask.trimmed =
      resolveWith ask config repo w.available := by
  unfold resolveLoaded
  rw [hConfig, hRepo, ← resolveWith_trimmed]
  by_cases hHigher :
      (ask.trimmed.profileFlag.isSome ||
        ask.trimmed.profileEnv.isSome) = true
  · have hDeciding :
        deciding ask config .empty = deciding ask config repo := by
      by_cases hCli : ask.cliLevel.speaks = true
      · rw [deciding_of_cli hCli, deciding_of_cli hCli]
      · have hSilent : ask.cliLevel.speaks = false := by
          simpa using hCli
        have hSpeaks : ask.environmentLevel.speaks = true := by
          rw [Bool.or_eq_true] at hHigher
          rcases hHigher with hFlag | hVariable
          · exact absurd (by
              rw [Level.speaks, Bool.or_eq_true]
              exact .inl hFlag) hCli
          · rw [Level.speaks, Bool.or_eq_true]
            exact .inl hVariable
        rw [deciding_of_environment hSilent hSpeaks,
          deciding_of_environment hSilent hSpeaks]
    simp only [Except.mapError, ok_bind, if_pos hHigher]
    rw [resolveWith_trimmed, resolveWith_trimmed,
      resolveWith_of_deciding hDeciding]
  · simp only [Except.mapError, ok_bind, if_neg hHigher]

/- Both selectors of one level are refused on each path. -/
theorem resolveWith_of_conflict
    {l : Level}
    (hDeciding : deciding ask config repo = some l)
    (hProfile : l.profile.isSome = true)
    (hHarness : l.harness.isSome = true) :
    resolveWith ask config repo available =
      .error (.refused
        (conflicting (Level.names ask.kind l.source).1
          (Level.names ask.kind l.source).2.1
          (Level.names ask.kind l.source).2.2)) := by
  rcases Option.isSome_iff_exists.mp hProfile with ⟨p, hP⟩
  rcases Option.isSome_iff_exists.mp hHarness with ⟨h, hH⟩
  unfold resolveWith
  rw [requested_eq, hDeciding]
  dsimp only
  rw [Level.answer, hP, hH]
  rfl

/- Where no bare harness decides, the resolver is what runs. -/
theorem enter_of_not_legacy
    (hConfig : w.config = .ok config)
    (hRepo : w.repo = .ok repo)
    (hLegacy : ¬ LegacyDecides ask) :
    enter w ask.trimmed =
      resolveWith ask config repo w.available := by
  have hLoaded := @resolveLoaded_eq w ask config repo hConfig hRepo
  unfold LegacyDecides at hLegacy
  rw [not_and_or, not_or, not_and_or] at hLegacy
  unfold enter
  change ¬ ask.trimmed.profileFlag = none ∨
    ¬ ask.trimmed.harnessFlag.isSome = true ∧
      (¬ ask.trimmed.profileEnv = none ∨
        ¬ ask.trimmed.harnessEnv.isSome = true) at hLegacy
  split
  · rename_i hBoth
    have hSpeaks : ask.cliLevel.speaks = true := by
      rw [Level.speaks, Bool.or_eq_true]
      exact .inl hBoth.1
    exact (resolveWith_of_conflict (deciding_of_cli hSpeaks)
      hBoth.1 hBoth.2).symm
  split
  · rename_i hExit
    rcases hLegacy with hFlag | hSilent
    · exact absurd hExit.1 hFlag
    · exact absurd hExit.2 hSilent.1
  rename_i hNoExit
  split
  · rename_i hBoth
    have hSilent : ask.cliLevel.speaks = false := by
      rw [Level.speaks, Bool.or_eq_false_iff]
      change ask.trimmed.profileFlag.isSome = false ∧
        ask.trimmed.harnessFlag.isSome = false
      constructor
      · rw [hBoth.1]
        rfl
      · rw [← Bool.not_eq_true]
        intro hHarness
        exact hNoExit ⟨hBoth.1, hHarness⟩
    have hSpeaks : ask.environmentLevel.speaks = true := by
      rw [Level.speaks, Bool.or_eq_true]
      exact .inl hBoth.2.1
    exact (resolveWith_of_conflict
      (deciding_of_environment hSilent hSpeaks) hBoth.2.1
      hBoth.2.2).symm
  split
  · rename_i hExit
    rcases hLegacy with hFlag | hSilent
    · exact absurd hExit.1 hFlag
    · rcases hSilent.2 with hVariable | hHarness
      · exact absurd hExit.2.1 hVariable
      · exact absurd hExit.2.2 hHarness
  · exact hLoaded

theorem enter_agrees_iff
    (hConfig : w.config = .ok config)
    (hRepo : w.repo = .ok repo) :
    enter w ask.trimmed =
        resolveWith ask config repo w.available ↔
      config.profiles.isEmpty = true ∨ ¬ LegacyDecides ask := by
  by_cases hLegacy : LegacyDecides ask
  · have hExit :
        ∃ raw source r,
          enter w ask.trimmed = withoutProfile (finish raw source) ∧
            resolveWith ask config repo w.available =
              if config.profiles.isEmpty then
                withoutProfile (finish raw source)
              else
                resolveRequest ask.lifecycle config w.available
                  r := by
      rcases hLegacy with ⟨hProfile, hFlag | hVariable⟩
      · rcases Option.isSome_iff_exists.mp hFlag with ⟨name, hName⟩
        exact ⟨name, .flag, _, enter_of_flag hProfile hName,
          resolveWith_of_flag hProfile hName⟩
      · cases hFlag : nonempty ask.harnessFlag with
        | some name =>
            exact ⟨name, .flag, _, enter_of_flag hProfile hFlag,
              resolveWith_of_flag hProfile hFlag⟩
        | none =>
            rcases Option.isSome_iff_exists.mp hVariable.2 with
              ⟨name, hName⟩
            exact ⟨name, .env, _,
              enter_of_variable hProfile hFlag hVariable.1 hName,
              resolveWith_of_variable hProfile hFlag hVariable.1
                hName⟩
    rcases hExit with ⟨raw, source, r, hEnter, hResolver⟩
    rw [hEnter, hResolver]
    by_cases hProfiles : config.profiles.isEmpty = true
    · rw [if_pos hProfiles]
      exact iff_of_true rfl (.inl hProfiles)
    · rw [if_neg hProfiles]
      apply iff_of_false withoutProfile_ne_resolveRequest
      rw [not_or, not_not]
      exact ⟨hProfiles, hLegacy⟩
  · exact iff_of_true (enter_of_not_legacy hConfig hRepo hLegacy)
      (.inr hLegacy)

/-
  The entry point agrees with the resolver unless profiles
  are configured and a bare harness name decides.
-/
theorem entry_agrees_iff
    (w : World) (kind : Kind) (lifecycle : Lifecycle)
    (profileFlag harnessFlag sourceRepo : Option String)
    (profileEnv harnessEnv : Option String)
    (config : Config) (repo : RepoConfig)
    (hSource : ∀ raw ∈ sourceRepo, w.isDir raw = true)
    (hProfileEnv : w.profileEnv = .ok profileEnv)
    (hHarnessEnv : w.harnessEnv = .ok harnessEnv)
    (hConfig : w.config = .ok config)
    (hRepo : w.repo = .ok repo) :
    resolve w kind lifecycle profileFlag harnessFlag sourceRepo =
        resolveWith
          ⟨kind, lifecycle, profileFlag, harnessFlag, profileEnv,
            harnessEnv⟩
          config repo w.available ↔
      config.profiles.isEmpty = true ∨
        ¬ LegacyDecides
          ⟨kind, lifecycle, profileFlag, harnessFlag, profileEnv,
            harnessEnv⟩ := by
  rw [← enter_agrees_iff hConfig hRepo]
  unfold resolve
  rw [hProfileEnv, hHarnessEnv]
  cases sourceRepo with
  | none => rfl
  | some raw =>
      dsimp only
      rw [if_pos (hSource raw rfl)]
      rfl

end Agreement

end Profiles

namespace Sample

open Profiles

/- Pi profiles, and `--harness pi`. -/
def profiledWorld : World where
  isDir _ := true
  profileEnv := .ok none
  harnessEnv := .ok none
  config := loadProfiled profiledText
  repo := .ok .empty
  available _ := true

end Sample

namespace Profiles

open Sample in
/- Without a bare harness name, the two agree. -/
theorem entry_agrees_on_default :
    resolve profiledWorld .spinoff .autonomous none none none =
      resolveWith spinoffAsk profiled .empty (fun _ => true) := by
  have hConfig : profiledWorld.config = .ok profiled := by
    unfold profiledWorld
    dsimp only
    exact loadProfiled_eq
  apply (entry_agrees_iff profiledWorld .spinoff .autonomous
    none none none none none profiled .empty
    (fun _ hMem => nomatch hMem) rfl rfl hConfig rfl).mpr
  right
  intro hLegacy
  rcases hLegacy.2 with hFlag | hVariable
  · cases hFlag
  · cases hVariable.2

open Sample in
/- `--harness pi` passes by the argv of the profile. -/
theorem harness_flag_bypasses_profile :
    resolve profiledWorld .spinoff .autonomous none
        (some "pi") none =
        .ok ⟨⟨"pi", .flag⟩, none⟩ ∧
      ¬ resolve profiledWorld .spinoff .autonomous none
          (some "pi") none =
        resolveWith { spinoffAsk with harnessFlag := some "pi" }
          profiled .empty (fun _ => true) := by
  have hRun :
      resolve profiledWorld .spinoff .autonomous none
          (some "pi") none =
        .ok ⟨⟨"pi", .flag⟩, none⟩ := by
    decide +kernel
  refine ⟨hRun, ?_⟩
  rw [hRun]
  decide +kernel

end Profiles

end Taskfleet
