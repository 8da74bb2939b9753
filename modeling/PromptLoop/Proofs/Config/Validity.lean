import PromptLoop.CommandLine.Settings

/-!
# Which settings make sense

The environment and the flags make sense each on their own: what the one says does not make up for
what is wrong with the other.

## Main definitions

* `IsFlag`: a text that a flag can be set to
* `Environment.Sensible`, `CommandLine.Flags.Sensible`: an environment and flags that make sense

## Main results

* `flagValue_isOk_iff`: the texts that a flag can be set to can be read
* `Config.override_isOk_iff`: what can go over a configuration
* `Config.ofEnvironment_isOk_iff`: the environments that can go over a configuration
* `CommandLine.settings_isOk_iff`: the settings that make a configuration
-/

namespace PromptLoop

open Text

section Except

variable {ε α β : Type} {x : Except ε α} {next : α → Except ε β}

theorem isOk_bind_iff_exists :
    (x >>= next).isOk = true ↔ ∃ a, x = .ok a ∧ (next a).isOk = true := by
  cases x with
  | error e => exact ⟨nofun, nofun⟩
  | ok a => exact ⟨fun h => ⟨a, rfl, h⟩, fun ⟨_, ha, h⟩ => Except.ok.inj ha ▸ h⟩

/-- Checks of which the later does not look at what the earlier has found. -/
theorem isOk_bind_iff {p : Prop} (h : ∀ a, (next a).isOk = true ↔ p) :
    (x >>= next).isOk = true ↔ x.isOk = true ∧ p := by
  cases x with
  | error e => exact ⟨nofun, nofun⟩
  | ok a => exact (h a).trans ⟨fun hp => ⟨rfl, hp⟩, And.right⟩

end Except

/-! ## Variables -/

/-- A text that a flag can be set to: one of its words in any case, with blanks around it, or
nothing but blanks. -/
def IsFlag (text : String) : Prop :=
  trim text.toList = [] ∨
    String.ofList (lowerAscii (trim text.toList)) ∈ trueWords ++ falseWords

theorem flagValue_isOk_iff (text : String) : (flagValue text).isOk = true ↔ IsFlag text := by
  rw [flagValue, IsFlag, List.mem_append]
  by_cases hblank : trim text.toList = []
  · rw [hblank]
    exact ⟨fun _ => .inl rfl, fun _ => rfl⟩
  · rw [if_neg (by simpa using hblank)]
    by_cases htrue : String.ofList (lowerAscii (trim text.toList)) ∈ trueWords
    · rw [if_pos (by simpa using htrue)]
      exact ⟨fun _ => .inr (.inl htrue), fun _ => rfl⟩
    · rw [if_neg (by simpa using htrue)]
      by_cases hfalse : String.ofList (lowerAscii (trim text.toList)) ∈ falseWords
      · rw [if_pos (by simpa using hfalse)]
        exact ⟨fun _ => .inr (.inr hfalse), fun _ => rfl⟩
      · rw [if_neg (by simpa using hfalse)]
        exact ⟨nofun, fun h => absurd h (by simp [hblank, htrue, hfalse])⟩

/-- An environment that makes sense: the variables that are set hold what can be read. -/
structure Environment.Sensible (env : Environment) : Prop where
  autoIndent : ∀ text, env.get? Overrides.autoIndentVariable = some text → IsFlag text
  correctIndent : ∀ text, env.get? Overrides.correctIndentVariable = some text → IsFlag text
  /-- The read errors tolerated per read are a positive number, if the variable holds anything. -/
  retries : ∀ text, env.filled? Overrides.maxReadRetriesVariable = some text →
    ∃ n, integer? text = some n ∧ 0 < n

namespace Overrides

theorem flag_isOk_iff (env : Environment) (name : String) :
    (flag env name).isOk = true ↔ ∀ text, env.get? name = some text → IsFlag text := by
  rw [flag]
  cases env.get? name with
  | none => exact ⟨fun _ => nofun, fun _ => rfl⟩
  | some text =>
    have hread : (∀ t, some text = some t → IsFlag t) ↔ (flagValue text).isOk = true := by
      rw [flagValue_isOk_iff]
      exact ⟨fun h => h text rfl, fun h t ht => Option.some.inj ht ▸ h⟩
    rw [hread]
    dsimp only
    cases flagValue text <;> rfl

/-- What the environment says of the read errors is a positive number, or nothing. -/
theorem retries_pos_iff (env : Environment) :
    (∃ n?, retries env = .ok n? ∧ ∀ n, n? = some n → 0 < n) ↔
      ∀ text, env.filled? maxReadRetriesVariable = some text →
        ∃ n, integer? text = some n ∧ 0 < n := by
  rw [retries]
  cases env.filled? maxReadRetriesVariable with
  | none => exact ⟨fun _ => nofun, fun _ => ⟨none, rfl, nofun⟩⟩
  | some text =>
    dsimp only
    constructor
    · rintro ⟨n?, hretries, hpos⟩ t ht
      obtain rfl := Option.some.inj ht
      cases hn : integer? text with
      | none =>
        rw [hn] at hretries
        cases hretries
      | some n =>
        rw [hn] at hretries
        exact ⟨n, rfl, hpos n (Except.ok.inj hretries).symm⟩
    · intro h
      obtain ⟨n, hn, hpos⟩ := h text rfl
      rw [hn]
      exact ⟨some n, rfl, fun m hm => Option.some.inj hm ▸ hpos⟩

end Overrides

/-! ## Configurations -/

namespace Config

/-- What can go over a configuration: a number of read errors that is positive, or none. -/
theorem override_isOk_iff (config : Config) (overrides : Overrides) :
    (config.override overrides).isOk = true ↔
      ∀ n, overrides.maxReadRetries = some n → 0 < n := by
  rw [override]
  cases overrides.maxReadRetries with
  | none =>
    rw [Option.getD_none, dif_pos config.retries_pos]
    refine ⟨fun _ n hn => ?_, fun _ => rfl⟩
    cases hn
  | some n =>
    rw [Option.getD_some]
    by_cases hpos : 0 < n
    · rw [dif_pos hpos]
      exact ⟨fun _ m hm => Option.some.inj hm ▸ hpos, fun _ => rfl⟩
    · rw [dif_neg hpos]
      refine ⟨fun h => ?_, fun h => absurd (h n rfl) hpos⟩
      cases h

/-- **The environments that can go over a configuration** are those that make sense. -/
theorem ofEnvironment_isOk_iff (config : Config) (env : Environment) :
    (config.ofEnvironment env).isOk = true ↔ env.Sensible := by
  have hretries : ∀ autoIndent correctIndent,
      (do
        let maxReadRetries ← Overrides.retries env
        config.override { autoIndent, correctIndent, maxReadRetries }).isOk = true ↔
      ∀ text, env.filled? Overrides.maxReadRetriesVariable = some text →
        ∃ n, integer? text = some n ∧ 0 < n := by
    intro autoIndent correctIndent
    rw [isOk_bind_iff_exists, ← Overrides.retries_pos_iff]
    simp only [override_isOk_iff]
  -- The variables are read one after another, and none of them is read for the others' sake.
  simp only [ofEnvironment, Overrides.ofEnvironment, bind_assoc, pure_bind]
  rw [isOk_bind_iff fun _ => isOk_bind_iff fun _ => hretries _ _, Overrides.flag_isOk_iff,
    Overrides.flag_isOk_iff]
  exact ⟨fun ⟨hauto, hcorrect, hretries⟩ => ⟨hauto, hcorrect, hretries⟩,
    fun h => ⟨h.autoIndent, h.correctIndent, h.retries⟩⟩

end Config

namespace CommandLine

/-- Flags that make sense. -/
structure Flags.Sensible (flags : Flags) : Prop where
  indentWidth : 0 < flags.indentWidth
  maxRetries : ∀ n, flags.maxRetries = some n → 0 < n

/-- The defaults of the command's console pass, but for a width that flags may give. -/
theorem draft_check_isOk_iff (flags : Flags) :
    flags.draft.check.isOk = true ↔ 0 < flags.indentWidth := by
  have hretries : 0 < flags.draft.maxReadRetries := show 0 < defaultRetries by decide
  have hrescuable : ∀ v ∈ flags.draft.rescuable, (Draft.rescuableKind? v).isSome = true :=
    show ∀ v ∈ defaultRescuable.map Value.failureClass, (Draft.rescuableKind? v).isSome = true by
      decide
  rw [Draft.check_isOk_iff]
  exact ⟨fun h => h.2.1, fun h => ⟨hretries, h, hrescuable⟩⟩

/-- **The settings that make a configuration** are those of an environment and of flags that make
sense. -/
theorem settings_isOk_iff (env : Environment) (flags : Flags) :
    (settings env flags).isOk = true ↔ env.Sensible ∧ flags.Sensible := by
  have hflags : ∀ config : Config, (config.override flags.overrides).isOk = true ↔
      ∀ n, flags.maxRetries = some n → 0 < n := fun config => config.override_isOk_iff _
  -- The flags are checked last, and over whatever the environment has made of the defaults.
  have hover : ∀ config : Config,
      (config.ofEnvironment env >>= fun c => c.override flags.overrides).isOk = true ↔
        env.Sensible ∧ ∀ n, flags.maxRetries = some n → 0 < n := by
    intro config
    rw [isOk_bind_iff hflags, Config.ofEnvironment_isOk_iff]
  rw [settings, isOk_bind_iff hover, draft_check_isOk_iff]
  exact ⟨fun ⟨hwidth, henv, hretries⟩ => ⟨henv, hwidth, hretries⟩,
    fun ⟨henv, hwidth, hretries⟩ => ⟨hwidth, henv, hretries⟩⟩

end CommandLine

end PromptLoop
