import PromptLoop.Config.Overrides

/-!
# Settings of the command

The command's console indents blocks that colons open. The environment goes over its defaults, and
flags go over the environment; a flag can only switch something off.

## Main definitions

* `CommandLine.Flags`: what the flags say
* `CommandLine.settings`: the configuration that flags and environment make
-/

namespace PromptLoop.CommandLine

/-- What the flags say. -/
structure Flags where
  autoIndent : Bool := true
  correctIndent : Bool := true
  maxRetries : Option Int := none
  indentWidth : Int := 4
  deriving DecidableEq, Repr

/-- The defaults of the command's console. -/
def Flags.draft (flags : Flags) : Draft :=
  { rules := .colonBlock, indentWidth := flags.indentWidth }

/-- What the flags put over the environment. -/
def Flags.overrides (flags : Flags) : Overrides where
  autoIndent := if flags.autoIndent then none else some false
  correctIndent := if flags.correctIndent then none else some false
  maxReadRetries := flags.maxRetries

/-- The configuration that flags and environment make. -/
def settings (env : Environment) (flags : Flags) : Except Config.Fault Config := do
  let config ← flags.draft.check
  let config ← config.ofEnvironment env
  config.override flags.overrides

end PromptLoop.CommandLine
