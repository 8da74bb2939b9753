import PromptLoop.Proofs.CommandLine.Starting
import PromptLoop.Proofs.Config.Validity
import PromptLoop.Proofs.Log.Failing
import PromptLoop.Proofs.Session.Containment

/-!
# Misuse of the command

The settings of the command are checked before its session, and settings that make no sense are
misuse. But the log is set up before they are looked at, and what it fails with is not misuse: it
ends the command as any failure would.

## Main definitions

* `CommandLine.KnowsLevel`, `CommandLine.LogOpens`: the log of the command can be set up

## Main results

* `CommandLine.levelNumber?_isSome_iff`: a level is unknown only if the environment names it
* `CommandLine.log_of_prepare`: a command that has not failed early has set up its log
* `CommandLine.startWith_eq_misuse_iff`: and is then misused just if its settings make no sense
* `CommandLine.misuse_iff`: which settings are misuse
-/

namespace PromptLoop.CommandLine

/-- The level of the log has a name that is known: where no option gives it, the environment is to
name one, if it says anything of it. -/
def KnowsLevel (env : Environment) (options : Options) : Prop :=
  options.logLevel = none → ∀ name, env.get? Log.levelVariable = some name →
    (Log.levelNumber? name).isSome = true

/-- The file of the log can be opened, if there is to be one. -/
def LogOpens (opens : String → Except Failure Unit) (env : Environment) (options : Options) :
    Prop :=
  ∀ path, Log.filePath env options.logFile = some path → opens path = .ok ()

/-! ## The level of the log -/

theorem levelOf?_mem {text level : String} (h : levelOf? text = some level) : level ∈ logLevels :=
  List.mem_of_find?_eq_some h

/-- Arguments ask for the level that their option names. -/
theorem Raw.options?_logLevel {raw : Raw} {isFile : String → Bool} {options : Options}
    (h : raw.options? isFile = some options) :
    raw.read "--log-level" levelOf? = some options.logLevel := by
  have hvalues : ∀ file : Option String,
      (do
        let indentWidth ← raw.read "--indent-width" Text.integer?
        let maxRetries ← raw.read "--max-retries" Text.integer?
        let logLevel ← raw.read "--log-level" levelOf?
        let logFile ← raw.read "--log-file" some
        return {
          file, maxRetries, logLevel, logFile
          autoIndent := !raw.flags.contains "--no-auto-indent"
          correctIndent := !raw.flags.contains "--no-correct-indent"
          indentWidth := indentWidth.getD 4 } : Option Options) = some options →
        raw.read "--log-level" levelOf? = some options.logLevel := by
    intro file hfile
    simp only [Option.bind_eq_bind, Option.bind_eq_some_iff] at hfile
    obtain ⟨width, -, retries, -, level, hlevel, logFile, -, hoptions⟩ := hfile
    cases hoptions
    exact hlevel
  -- The values do not depend on whether a file is named.
  unfold Raw.options? at h
  split at h
  · exact hvalues _ h
  · split at h
    · exact hvalues _ h
    · cases h
  · cases h

/-- The level that an option gives is one of those that can be asked for. -/
theorem parse_logLevel {isFile : String → Bool} {args : List String} {options : Options}
    (h : parse isFile args = some options) {level : String}
    (hlevel : options.logLevel = some level) : level ∈ logLevels := by
  obtain ⟨raw, -, hraw⟩ := Option.bind_eq_some_iff.mp h
  have hread := Raw.options?_logLevel hraw
  rw [Raw.read] at hread
  split at hread
  · cases (Option.some.inj hread).trans hlevel
  · obtain ⟨named, hnamed, hsome⟩ := Option.map_eq_some_iff.mp hread
    cases hsome.trans hlevel
    exact levelOf?_mem hnamed

/-- The levels that can be asked for are known. -/
theorem levelNumber?_isSome_of_mem {level : String} (h : level ∈ logLevels) (env : Environment) :
    (Log.levelNumber? (Log.levelName env (some level))).isSome = true := by
  have hlevels : ∀ level ∈ logLevels,
      Log.given (some level) = some level ∧ (Log.levelNumber? level).isSome = true := by
    decide +kernel
  obtain ⟨hgiven, hknown⟩ := hlevels level h
  rw [Log.levelName, hgiven]
  exact hknown

/-! ## Before the settings -/

section

variable {opens : String → Except Failure Unit} {inv : Invocation} {options : Options}

/-- **A level is unknown only if the environment names it**: those of an option are known. -/
theorem levelNumber?_isSome_iff (h : inv.options? = some options) :
    (Log.levelNumber? (Log.levelName inv.env options.logLevel)).isSome = true ↔
      KnowsLevel inv.env options := by
  rw [KnowsLevel]
  cases hlevel : options.logLevel with
  | some level =>
    exact ⟨fun _ => nofun, fun _ => levelNumber?_isSome_of_mem (parse_logLevel h hlevel) inv.env⟩
  | none =>
    rw [Log.levelName]
    cases inv.env.get? Log.levelVariable with
    | none => exact ⟨fun _ _ => nofun, fun _ => by decide +kernel⟩
    | some name =>
      refine ⟨fun hname _ other hother => ?_, fun hknown => hknown rfl name rfl⟩
      exact Option.some.inj hother ▸ hname

section

variable (h : inv.options? = some options) (hfile : options.file.any holdsNull = false)
include h hfile

/-- **A level that is unknown ends the command** before its settings are looked at. -/
theorem prepare_of_unknownLevel (hlevel : ¬ KnowsLevel inv.env options) :
    prepare opens inv =
      .error (failedEarly [] (Log.unknownLevel (Log.levelName inv.env options.logLevel))) := by
  have hname : Log.levelNumber? (Log.levelName inv.env options.logLevel) = none := by
    rw [← levelNumber?_isSome_iff h, Bool.not_eq_true, Option.isSome_eq_false_iff,
      Option.isNone_iff_eq_none] at hlevel
    exact hlevel
  rw [prepare_of_options h, startFor, hfile, if_neg Bool.false_ne_true,
    Log.configure_of_unknown hname]

/-- So does a file of the log that cannot be opened. -/
theorem prepare_of_unopened (hlevel : KnowsLevel inv.env options) {path : String} {f : Failure}
    (hpath : Log.filePath inv.env options.logFile = some path) (hf : opens path = .error f) :
    prepare opens inv = .error (failedEarly [] f) := by
  obtain ⟨number, hnumber⟩ := Option.isSome_iff_exists.mp ((levelNumber?_isSome_iff h).mpr hlevel)
  rw [prepare_of_options h, startFor, hfile, if_neg Bool.false_ne_true,
    Log.configure_of_unopened hnumber hpath hf]

/-- Where the log can be set up, the settings are looked at next. -/
theorem prepare_of_log (hlevel : KnowsLevel inv.env options)
    (hlog : LogOpens opens inv.env options) :
    ∃ router written, prepare opens inv = startWith inv options router written := by
  obtain ⟨number, hnumber⟩ := Option.isSome_iff_exists.mp ((levelNumber?_isSome_iff h).mpr hlevel)
  rw [prepare_of_options h, startFor, hfile, if_neg Bool.false_ne_true,
    Log.configure_of_opened hnumber hlog]
  exact ⟨_, _, rfl⟩

end

/-- A command that has not failed early has set up its log. -/
theorem log_of_prepare (h : inv.options? = some options)
    (hprepare : ∀ written f, prepare opens inv ≠ .error (failedEarly written f)) :
    options.file.any holdsNull = false ∧ KnowsLevel inv.env options ∧
      LogOpens opens inv.env options ∧
      ∃ router written, prepare opens inv = startWith inv options router written := by
  have hfile : options.file.any holdsNull = false := by
    refine Bool.eq_false_iff.mpr fun hnull => hprepare [] nullInPath ?_
    rw [prepare_of_options h, startFor, if_pos hnull]
  have hlevel : KnowsLevel inv.env options := by
    refine Classical.byContradiction fun hunknown => ?_
    exact hprepare _ _ (prepare_of_unknownLevel h hfile hunknown)
  have hlog : LogOpens opens inv.env options := by
    intro path hpath
    cases hopens : opens path with
    | error f => exact absurd (prepare_of_unopened h hfile hlevel hpath hopens) (hprepare [] f)
    | ok => rfl
  exact ⟨hfile, hlevel, hlog, prepare_of_log h hfile hlevel hlog⟩

/-! ## The settings -/

/-- A command whose log is set up is misused just if its settings make no sense, and it starts only
where they do. -/
theorem startWith_eq_misuse_iff {router : Log.Router} {written : List Log.Written} :
    startWith inv options router written = .error .misuse ↔
      ¬ (inv.env.Sensible ∧ options.flags.Sensible) := by
  rw [startWith, ← settings_isOk_iff]
  cases settings inv.env options.flags with
  | error fault => exact ⟨fun _ => nofun, fun _ => rfl⟩
  | ok config =>
    dsimp only
    cases startSource inv options with
    | error f => exact ⟨nofun, fun hok => absurd rfl hok⟩
    | ok source => exact ⟨nofun, fun hok => absurd rfl hok⟩

/-- A command that comes to its session is not misused. -/
theorem perform_eq_misuse_iff {π : Type} (runtime : Console.Runtime π) :
    perform runtime opens inv = some .misuse ↔ prepare opens inv = .error .misuse := by
  rw [perform_eq_prepare]
  cases prepare opens inv with
  | error conduct =>
    exact ⟨fun h => congrArg Except.error (Option.some.inj h),
      fun h => congrArg some (Except.error.inj h)⟩
  | ok start =>
    refine ⟨fun h => ?_, nofun⟩
    obtain ⟨performance, -, hconduct⟩ := Option.map_eq_some_iff.mp h
    cases hconduct

/-- **Which settings are misuse.** The log is set up first. Where that goes well, a command is
misused just if its settings make no sense, whatever code it can run and whatever there is to read.
A level that only the environment names, and that is unknown, is not taken for misuse: it ends the
command with a failure, and so does a file of the log that cannot be opened. But settings that make
no sense never come to a session, and neither does an unknown level. -/
theorem misuse_iff {π : Type} (runtime : Console.Runtime π) (h : inv.options? = some options) :
    (perform runtime opens inv = some .misuse ↔
      options.file.any holdsNull = false ∧ KnowsLevel inv.env options ∧
        LogOpens opens inv.env options ∧ ¬ (inv.env.Sensible ∧ options.flags.Sensible)) ∧
    (options.file.any holdsNull = false → ¬ KnowsLevel inv.env options →
      perform runtime opens inv =
        some (failedEarly [] (Log.unknownLevel (Log.levelName inv.env options.logLevel)))) ∧
    (options.file.any holdsNull = false → KnowsLevel inv.env options →
      ∀ path f, Log.filePath inv.env options.logFile = some path → opens path = .error f →
        perform runtime opens inv = some (failedEarly [] f)) ∧
    ∀ start, prepare opens inv = .ok start →
      KnowsLevel inv.env options ∧ inv.env.Sensible ∧ options.flags.Sensible := by
  refine ⟨?_, ?_, ?_, ?_⟩
  · rw [perform_eq_misuse_iff]
    constructor
    · -- Misuse is no failure, so the command has come as far as its settings.
      intro hmisuse
      have hearly : ∀ written f, prepare opens inv ≠ .error (failedEarly written f) := by
        intro written f
        rw [hmisuse]
        exact nofun
      obtain ⟨hfile, hlevel, hlog, router, written, hstart⟩ := log_of_prepare h hearly
      exact ⟨hfile, hlevel, hlog, startWith_eq_misuse_iff.mp (hstart.symm.trans hmisuse)⟩
    · rintro ⟨hfile, hlevel, hlog, hsettings⟩
      obtain ⟨router, written, hstart⟩ := prepare_of_log h hfile hlevel hlog
      exact hstart.trans (startWith_eq_misuse_iff.mpr hsettings)
  · intro hfile hlevel
    rw [perform_eq_prepare, prepare_of_unknownLevel h hfile hlevel]
  · intro hfile hlevel path f hpath hf
    rw [perform_eq_prepare, prepare_of_unopened h hfile hlevel hpath hf]
  · -- A start is no failure either, and it has the settings that were found to make sense.
    intro start hstart
    have hearly : ∀ written f, prepare opens inv ≠ .error (failedEarly written f) := by
      intro written f
      rw [hstart]
      exact nofun
    obtain ⟨-, hlevel, -, router, written, hwith⟩ := log_of_prepare h hearly
    refine ⟨hlevel, Classical.byContradiction fun hsettings => ?_⟩
    cases (hstart.symm.trans hwith).trans (startWith_eq_misuse_iff.mpr hsettings)

end

/-- A command that is to tolerate no read errors. -/
def withoutRetries : Invocation := { args := ["--max-retries", "0"] }

/-- A command for whose log the environment names a level that is unknown. -/
def loudCommand : Invocation := { args := [], env := { bindings := [(Log.levelVariable, "LOUD")] } }

/-- A command that is to tolerate no read errors is misused; one with an unknown level fails. -/
theorem misuse_iff_withoutRetries :
    withoutRetries.options? = some { maxRetries := some 0 } ∧
    perform Session.shallow (fun _ => .ok ()) withoutRetries = some .misuse ∧
    loudCommand.options? = some {} ∧
    perform Session.shallow (fun _ => .ok ()) loudCommand =
      some (failedEarly [] (.saying .value "Unknown log level: LOUD")) := by
  have hretries : withoutRetries.options? = some { maxRetries := some 0 } := by decide +kernel
  have hloud : loudCommand.options? = some {} := by decide +kernel
  refine ⟨hretries, ?_, hloud, ?_⟩
  · refine (misuse_iff Session.shallow hretries).1.mpr ⟨rfl, fun _ => nofun, fun _ => nofun, ?_⟩
    rintro ⟨-, hflags⟩
    exact absurd (hflags.maxRetries 0 rfl) (by decide)
  · refine (misuse_iff Session.shallow hloud).2.1 rfl fun hlevel => ?_
    have hknown : (Log.levelNumber? "LOUD").isSome = true := hlevel rfl "LOUD" rfl
    exact absurd hknown (by decide +kernel)

end PromptLoop.CommandLine
