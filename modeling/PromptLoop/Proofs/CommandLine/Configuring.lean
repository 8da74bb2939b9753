import PromptLoop.Proofs.Config.Precedence
import PromptLoop.Proofs.Session.Correction
import PromptLoop.Proofs.Text.Integer

/-!
# The configuration of a command

The flags of a command and its environment make a configuration, or one of them is at fault. A
configuration that is made makes sense, whichever settings count in it, and so does whatever a
session with it does: no line is measured by a width of zero.

## Main results

* `Environment.not_sensible_iff`, `CommandLine.Flags.not_sensible_iff`: what may be at fault
* `Session.correction_of_mem_openedReads`: no session divides by a width of zero
* `CommandLine.settings_configure`: what flags and an environment come to
-/

namespace PromptLoop

open Text

/-- What may be wrong with an environment. -/
theorem Environment.not_sensible_iff {env : Environment} :
    ¬ env.Sensible ↔
      (∃ text, env.get? Overrides.autoIndentVariable = some text ∧ ¬ IsFlag text) ∨
      (∃ text, env.get? Overrides.correctIndentVariable = some text ∧ ¬ IsFlag text) ∨
      ∃ text, env.filled? Overrides.maxReadRetriesVariable = some text ∧
        ¬ ∃ n, Writes text n ∧ 0 < n := by
  have hsensible : env.Sensible ↔
      (∀ text, env.get? Overrides.autoIndentVariable = some text → IsFlag text) ∧
      (∀ text, env.get? Overrides.correctIndentVariable = some text → IsFlag text) ∧
      ∀ text, env.filled? Overrides.maxReadRetriesVariable = some text →
        ∃ n, Writes text n ∧ 0 < n := by
    simp only [← integer?_eq_some_iff]
    exact ⟨fun h => ⟨h.autoIndent, h.correctIndent, h.retries⟩, fun ⟨ha, hc, hr⟩ => ⟨ha, hc, hr⟩⟩
  rw [hsensible]
  simp only [Classical.not_and_iff_not_or_not, Classical.not_forall, exists_prop]

/-- What may be wrong with flags. -/
theorem CommandLine.Flags.not_sensible_iff {flags : Flags} :
    ¬ flags.Sensible ↔ flags.indentWidth ≤ 0 ∨ ∃ n, flags.maxRetries = some n ∧ n ≤ 0 := by
  have hsensible : flags.Sensible ↔
      0 < flags.indentWidth ∧ ∀ n, flags.maxRetries = some n → 0 < n :=
    ⟨fun h => ⟨h.indentWidth, h.maxRetries⟩, fun ⟨hw, hr⟩ => ⟨hw, hr⟩⟩
  rw [hsensible]
  simp only [Classical.not_and_iff_not_or_not, Classical.not_forall, exists_prop, Int.not_lt]

/-- **No line of a session is measured by a width of zero.** -/
theorem Session.correction_of_mem_openedReads {ι δ σ : Type} {setup : Setup ι δ σ} {n : Nat}
    {evaluator : σ} {intake : Intake ι δ} {ρ : Reading ι δ σ}
    (hρ : ρ ∈ openedReads setup n (initial setup evaluator intake)) :
    ρ.start.tracker.width = setup.config.indentWidth ∧
      ∀ text, corrected? setup ρ.start text ≠ .error Tracker.zeroWidth := by
  have hwidth : ρ.start.tracker.width = setup.config.indentWidth := by
    rw [← Tracker.reset_width, start_reset_eq hρ]
    rfl
  refine ⟨hwidth, fun text => ?_⟩
  have hindent := Tracker.indent?_ne_zeroWidth (ε := Event) (t := ρ.start.tracker)
    (by rw [hwidth]; exact Int.ne_of_gt setup.config.width_pos) text.toList
  rw [corrected?]
  split
  · cases hresult : (Tracker.indent? text.toList ρ.start.tracker : Run Event Tracker _).result with
    | error f =>
      rw [hresult] at hindent
      simpa [Except.map] using hindent
    | ok line => simp [Except.map]
  · simp

namespace CommandLine

/-- **What the flags of a command and its environment come to.** One of them is at fault, or else
each setting is what a flag says, or else what a variable says, or else the default. Variables go
over any other configuration in the same way. What is made is a configuration, and every
configuration makes sense: no session with it divides by a width of zero. -/
theorem settings_configure (env : Environment) (flags : Flags) :
    ((∃ fault, settings env flags = .error fault) ↔
      flags.indentWidth ≤ 0 ∨
      (∃ text, env.get? Overrides.autoIndentVariable = some text ∧ ¬ IsFlag text) ∨
      (∃ text, env.get? Overrides.correctIndentVariable = some text ∧ ¬ IsFlag text) ∨
      (∃ text, env.filled? Overrides.maxReadRetriesVariable = some text ∧
        ¬ ∃ n, Writes text n ∧ 0 < n) ∨
      ∃ n, flags.maxRetries = some n ∧ n ≤ 0) ∧
    (∀ fault, settings env flags = .error fault → fault.failure.kind = .value) ∧
    (∀ config, settings env flags = .ok config →
      config.autoIndent = ((if flags.autoIndent then none else some false).or
        (env.flag? Overrides.autoIndentVariable)).getD true ∧
      config.correctIndent = ((if flags.correctIndent then none else some false).or
        (env.flag? Overrides.correctIndentVariable)).getD true ∧
      config.maxReadRetries = (flags.maxRetries.or env.retries?).getD defaultRetries ∧
      config.indentWidth = flags.indentWidth ∧ config.rules = .colonBlock ∧
      config.rescuable = defaultRescuable) ∧
    (∀ base config : Config, base.ofEnvironment env = .ok config →
      config.autoIndent = (env.flag? Overrides.autoIndentVariable).getD base.autoIndent ∧
      config.correctIndent = (env.flag? Overrides.correctIndentVariable).getD base.correctIndent ∧
      config.maxReadRetries = env.retries?.getD base.maxReadRetries ∧
      config.indentWidth = base.indentWidth ∧ config.rules = base.rules ∧
      config.rescuable = base.rescuable ∧ (env.overrides = {} → config = base)) ∧
    ∀ config : Config,
      (0 < config.maxReadRetries ∧ 0 < config.indentWidth ∧
        ∀ kind ∈ config.rescuable, kind.isOrdinary = true) ∧
      ∀ {ι δ σ : Type} (setup : Setup ι δ σ), setup.config = config →
        ∀ n evaluator intake, ∀ ρ ∈ Session.openedReads setup n
            (Session.initial setup evaluator intake),
          ρ.start.tracker.width = config.indentWidth ∧
            ∀ text, Session.corrected? setup ρ.start text ≠ .error Tracker.zeroWidth := by
  refine ⟨?_, fun fault _ => fault.failure_kind, ?_, ?_, ?_⟩
  · have hfails : (∃ fault, settings env flags = .error fault) ↔
        ¬ (env.Sensible ∧ flags.Sensible) := by
      rw [← settings_isOk_iff]
      cases settings env flags with
      | error fault => simp [Except.isOk, Except.toBool]
      | ok config => simp [Except.isOk, Except.toBool]
    rw [hfails, Classical.not_and_iff_not_or_not, Environment.not_sensible_iff,
      Flags.not_sensible_iff, or_left_comm, or_assoc, or_assoc]
  · intro config hok
    obtain ⟨henv, hflags, rfl⟩ := settings_eq_ok_iff.mp hok
    refine ⟨?_, ?_, ?_, rfl, rfl, rfl⟩
    · rw [Option.getD_or]
      rfl
    · rw [Option.getD_or]
      rfl
    · rw [Option.getD_or]
      rfl
  · intro base config hok
    obtain ⟨henv, rfl⟩ := Config.ofEnvironment_eq_ok_iff.mp hok
    refine ⟨rfl, rfl, rfl, rfl, rfl, rfl, fun hempty => ?_⟩
    exact base.under_eq_self hempty _
  · intro config
    refine ⟨⟨config.retries_pos, config.width_pos, config.rescuable_ordinary⟩, ?_⟩
    rintro ι δ σ setup rfl n evaluator intake ρ hρ
    exact Session.correction_of_mem_openedReads hρ

/-- An environment that says something of two settings. -/
def mixedEnvironment : Environment where
  bindings := [("READLOOP_AUTO_INDENT", "\tOff "), ("READLOOP_CORRECT_INDENT", " "),
    ("READLOOP_MAX_READ_RETRIES", " +1_0")]

/-- Two settings are what variables say, one is what a flag says, and one is a default. -/
theorem settings_configure_mixed :
    ∃ config, settings mixedEnvironment { correctIndent := false } = .ok config ∧
      config.autoIndent = false ∧ config.correctIndent = false ∧ config.maxReadRetries = 10 ∧
      config.indentWidth = 4 ∧
      let setup := { Session.blockSetup with config }
      ∀ ρ ∈ Session.openedReads setup 2
          (Session.initial setup ⟨{}, {}⟩ Session.blockSession.intake),
        ρ.start.tracker.width = 4 ∧
          ∀ text, Session.corrected? setup ρ.start text ≠ .error Tracker.zeroWidth := by
  obtain ⟨-, -, hfields, -, hsessions⟩ :=
    settings_configure mixedEnvironment { correctIndent := false }
  have hok : (settings mixedEnvironment { correctIndent := false }).isOk = true := by
    decide +kernel
  cases hsettings : settings mixedEnvironment { correctIndent := false } with
  | error fault =>
    rw [hsettings] at hok
    cases hok
  | ok config =>
    obtain ⟨hauto, hcorrect, hretries, hwidth, -⟩ := hfields config hsettings
    refine ⟨config, rfl, hauto.trans (by decide +kernel), hcorrect.trans (by decide +kernel),
      hretries.trans (by decide +kernel), hwidth, ?_⟩
    intro setup ρ hρ
    obtain ⟨hmeasured, hnever⟩ := (hsessions config).2 setup rfl 2 _ _ ρ hρ
    exact ⟨hmeasured.trans hwidth, hnever⟩

end CommandLine

end PromptLoop
