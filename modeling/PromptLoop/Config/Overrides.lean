import PromptLoop.Config.Basic
import PromptLoop.Environment
import PromptLoop.Text.Integer

/-!
# Settings from the environment

Three settings can be given by variables. What the environment says goes over a configuration, and
what it leaves out stays.

## Main definitions

* `flagValue`: what the text of a flag says
* `Overrides.ofEnvironment`: the settings that the environment gives
* `Config.override`: a configuration with settings over it
* `Config.ofEnvironment`: a configuration with the settings of the environment over it
-/

namespace PromptLoop

open Text

/-- Texts that switch a flag on. -/
def trueWords : List String := ["1", "true", "yes", "on"]

/-- Texts that switch a flag off. -/
def falseWords : List String := ["0", "false", "no", "off"]

/-- A text in lower case, as far as the words of flags are concerned: their letters are ASCII. -/
def lowerAscii (cs : List Char) : List Char := cs.map Char.toLower

/-- What the text of a flag says: nothing when it is blank, and an error when it is no flag word. -/
def flagValue (text : String) : Except Unit (Option Bool) :=
  let word := trim text.toList
  if word.isEmpty then .ok none
  else if trueWords.contains (String.ofList (lowerAscii word)) then .ok (some true)
  else if falseWords.contains (String.ofList (lowerAscii word)) then .ok (some false)
  else .error ()

/-- Settings that go over a configuration. -/
structure Overrides where
  autoIndent : Option Bool := none
  correctIndent : Option Bool := none
  maxReadRetries : Option Int := none
  deriving DecidableEq, Repr

namespace Overrides

/-- Nothing goes over the configuration. -/
def isEmpty (overrides : Overrides) : Bool := overrides == {}

/-- The variable that switches the indentation of prompts. -/
def autoIndentVariable : String := "READLOOP_AUTO_INDENT"

/-- The variable that switches the repainting of lines. -/
def correctIndentVariable : String := "READLOOP_CORRECT_INDENT"

/-- The variable that holds the read errors tolerated per read. -/
def maxReadRetriesVariable : String := "READLOOP_MAX_READ_RETRIES"

/-- A flag of the environment. -/
def flag (env : Environment) (name : String) : Except Config.Fault (Option Bool) :=
  match env.get? name with
  | none => .ok none
  | some text =>
    match flagValue text with
    | .ok value => .ok value
    | .error () => .error (.badFlag name text)

/-- The read errors tolerated per read, as the environment has them. -/
def retries (env : Environment) : Except Config.Fault (Option Int) :=
  match env.filled? maxReadRetriesVariable with
  | none => .ok none
  | some text =>
    match integer? text with
    | some n => .ok (some n)
    | none => .error (.badRetries maxReadRetriesVariable text)

/-- The settings that the environment gives, or its first fault. -/
def ofEnvironment (env : Environment) : Except Config.Fault Overrides := do
  let autoIndent ← flag env autoIndentVariable
  let correctIndent ← flag env correctIndentVariable
  let maxReadRetries ← retries env
  return { autoIndent, correctIndent, maxReadRetries }

end Overrides

namespace Config

/-- A configuration with settings over it. -/
def override (config : Config) (overrides : Overrides) : Except Fault Config :=
  let retries := overrides.maxReadRetries.getD config.maxReadRetries
  if h : 0 < retries then
    .ok { config with
      autoIndent := overrides.autoIndent.getD config.autoIndent
      correctIndent := overrides.correctIndent.getD config.correctIndent
      maxReadRetries := retries
      retries_pos := h }
  else .error .noRetries

/-- A configuration with the settings of the environment over it. -/
def ofEnvironment (config : Config) (env : Environment) : Except Fault Config := do
  config.override (← Overrides.ofEnvironment env)

/-- Without settings over it a configuration stays as it is. -/
@[simp] theorem override_empty (config : Config) : config.override {} = .ok config := by
  simp [override, config.retries_pos]

end Config

end PromptLoop
