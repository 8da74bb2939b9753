import PromptLoop.Proofs.Config.Validity

/-!
# Which setting counts

A flag counts before a variable, and a variable before what it goes over. What none of them speaks
of stays as it was.

## Main definitions

* `flagWord?`: what a text says of a flag
* `Environment.overrides`: what the variables say
* `Config.under`: a configuration below settings

## Main results

* `Overrides.ofEnvironment_eq`: an environment that makes sense is read as what it says
* `Config.ofEnvironment_eq_ok_iff`: what an environment makes of a configuration
* `CommandLine.settings_eq_ok_iff`: what flags and an environment make
-/

namespace PromptLoop

open Text

/-! ## What variables say -/

/-- What a text says of a flag; nothing if it is none of the flag words. -/
def flagWord? (text : String) : Option Bool :=
  let word := String.ofList (lowerAscii (trim text.toList))
  if word ∈ trueWords then some true else if word ∈ falseWords then some false else none

namespace Environment

/-- What a variable says of a flag. -/
def flag? (env : Environment) (name : String) : Option Bool := (env.get? name).bind flagWord?

/-- What the variable says of the read errors tolerated per read. -/
def retries? (env : Environment) : Option Int :=
  (env.filled? Overrides.maxReadRetriesVariable).bind integer?

/-- What the variables say. -/
def overrides (env : Environment) : Overrides where
  autoIndent := env.flag? Overrides.autoIndentVariable
  correctIndent := env.flag? Overrides.correctIndentVariable
  maxReadRetries := env.retries?

end Environment

/-- A text that a flag can be set to is read as what it says. -/
theorem flagValue_eq {text : String} (h : IsFlag text) : flagValue text = .ok (flagWord? text) := by
  rw [flagValue, flagWord?]
  by_cases hblank : trim text.toList = []
  · -- A blank text is no flag word.
    rw [hblank]
    rfl
  · rcases List.mem_append.mp (h.resolve_left hblank) with htrue | hfalse
    · simp [hblank, htrue]
    · by_cases htrue : String.ofList (lowerAscii (trim text.toList)) ∈ trueWords
      · simp [hblank, htrue]
      · simp [hblank, htrue, hfalse]

namespace Overrides

theorem flag_eq {env : Environment} {name : String}
    (h : ∀ text, env.get? name = some text → IsFlag text) :
    flag env name = .ok (env.flag? name) := by
  rw [flag, Environment.flag?]
  cases hget : env.get? name with
  | none => rfl
  | some text => simp [flagValue_eq (h text hget)]

theorem retries_eq {env : Environment} (h : env.Sensible) : retries env = .ok env.retries? := by
  rw [retries, Environment.retries?]
  cases hfilled : env.filled? maxReadRetriesVariable with
  | none => rfl
  | some text =>
    obtain ⟨n, hn, -⟩ := h.retries text hfilled
    simp [hn]

/-- **An environment that makes sense is read as what it says.** -/
theorem ofEnvironment_eq {env : Environment} (h : env.Sensible) :
    ofEnvironment env = .ok env.overrides := by
  rw [ofEnvironment, flag_eq h.autoIndent, flag_eq h.correctIndent, retries_eq h]
  rfl

end Overrides

theorem Environment.Sensible.retries_pos {env : Environment} (h : env.Sensible) {n : Int}
    (hn : env.retries? = some n) : 0 < n := by
  obtain ⟨text, hfilled, htext⟩ := Option.bind_eq_some_iff.mp hn
  obtain ⟨m, hm, hpos⟩ := h.retries text hfilled
  obtain rfl := Option.some.inj (hm.symm.trans htext)
  exact hpos

/-! ## What goes over a configuration -/

namespace Config

variable {config result : Config}

/-- A configuration below settings: they count where they say something. -/
def under (config : Config) (overrides : Overrides)
    (h : ∀ n, overrides.maxReadRetries = some n → 0 < n) : Config :=
  { config with
    autoIndent := overrides.autoIndent.getD config.autoIndent
    correctIndent := overrides.correctIndent.getD config.correctIndent
    maxReadRetries := overrides.maxReadRetries.getD config.maxReadRetries
    retries_pos := by
      cases hn : overrides.maxReadRetries with
      | none => exact config.retries_pos
      | some n => exact h n hn }

/-- Settings that say nothing change nothing. -/
theorem under_eq_self (config : Config) {overrides : Overrides} (hempty : overrides = {}) (h) :
    config.under overrides h = config := by
  subst hempty
  rfl

theorem override_eq {overrides : Overrides}
    (h : ∀ n, overrides.maxReadRetries = some n → 0 < n) :
    config.override overrides = .ok (config.under overrides h) :=
  dif_pos (config.under overrides h).retries_pos

theorem ofEnvironment_eq {env : Environment} (h : env.Sensible) :
    config.ofEnvironment env = .ok (config.under env.overrides fun _ => h.retries_pos) := by
  rw [ofEnvironment, Overrides.ofEnvironment_eq h]
  exact override_eq fun _ => h.retries_pos

/-- **What an environment makes of a configuration**: what it says counts. -/
theorem ofEnvironment_eq_ok_iff {env : Environment} :
    config.ofEnvironment env = .ok result ↔
      ∃ h : env.Sensible, result = config.under env.overrides fun _ => h.retries_pos := by
  constructor
  · intro hok
    have h := (config.ofEnvironment_isOk_iff env).mp (by rw [hok]; rfl)
    rw [ofEnvironment_eq h] at hok
    exact ⟨h, (Except.ok.inj hok).symm⟩
  · rintro ⟨h, rfl⟩
    exact ofEnvironment_eq h

end Config

namespace CommandLine

/-- The configuration of the command's console, but for flags and variables. -/
def Flags.base (flags : Flags) (h : 0 < flags.indentWidth) : Config :=
  { Config.standard with indentWidth := flags.indentWidth, rules := .colonBlock, width_pos := h }

theorem Flags.check_draft {flags : Flags} (h : 0 < flags.indentWidth) :
    flags.draft.check = .ok (flags.base h) := by
  have hkinds : Draft.rescuableKinds flags.draft.rescuable =
      .ok ⟨defaultRescuable, Config.standard.rescuable_ordinary⟩ := rfl
  rw [Draft.check, dif_pos (show 0 < flags.draft.maxReadRetries from Config.standard.retries_pos),
    dif_pos (show 0 < flags.draft.indentWidth from h), hkinds]
  rfl

/-- **What flags and an environment make**: the flags count before the environment, and that before
the defaults. -/
theorem settings_eq_ok_iff {env : Environment} {flags : Flags} {result : Config} :
    settings env flags = .ok result ↔
      ∃ (henv : env.Sensible) (hflags : flags.Sensible),
        result = ((flags.base hflags.indentWidth).under env.overrides fun _ =>
          henv.retries_pos).under flags.overrides hflags.maxRetries := by
  have hsettings (henv : env.Sensible) (hflags : flags.Sensible) :
      settings env flags = .ok (((flags.base hflags.indentWidth).under env.overrides fun _ =>
        henv.retries_pos).under flags.overrides hflags.maxRetries) := by
    rw [settings, Flags.check_draft hflags.indentWidth]
    show ((flags.base hflags.indentWidth).ofEnvironment env >>= _) = _
    rw [Config.ofEnvironment_eq henv]
    exact Config.override_eq hflags.maxRetries
  constructor
  · intro hok
    obtain ⟨henv, hflags⟩ := (settings_isOk_iff env flags).mp (by rw [hok]; rfl)
    rw [hsettings henv hflags] at hok
    exact ⟨henv, hflags, (Except.ok.inj hok).symm⟩
  · rintro ⟨henv, hflags, rfl⟩
    exact hsettings henv hflags

end CommandLine

end PromptLoop
