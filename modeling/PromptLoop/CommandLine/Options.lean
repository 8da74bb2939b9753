import PromptLoop.Text.Integer
import PromptLoop.Text.Blank

/-!
# Options of the command

The arguments of the command are options and at most one file. Of an option that is given twice the
last value counts, and only that value is looked at. The options that ask for help and for the
version are left out: they start no session, and what they print is laid out elsewhere. Here they
are unknown.

## Main definitions

* `CommandLine.Options`: what the arguments ask for
* `CommandLine.parse`: the options of the arguments, unless they are misused
-/

namespace PromptLoop.CommandLine

open Text

/-- What the arguments ask for. -/
structure Options where
  file : Option String := none
  autoIndent : Bool := true
  correctIndent : Bool := true
  indentWidth : Int := 4
  maxRetries : Option Int := none
  logLevel : Option String := none
  logFile : Option String := none
  deriving DecidableEq, Repr

/-- Arguments as they were given. -/
structure Raw where
  positional : List String := []
  flags : List String := []
  /-- Options with their values, the last given first. -/
  values : List (String × String) := []
  deriving DecidableEq, Repr

/-- Options without a value. -/
def flagNames : List String := ["--no-auto-indent", "--no-correct-indent"]

/-- Options with a value. -/
def valueNames : List String := ["--indent-width", "--max-retries", "--log-level", "--log-file"]

/-- An argument cut at its first equals sign. -/
def cutValue (arg : String) : String × Option String :=
  match arg.toList.dropWhile (· != '=') with
  | [] => (arg, none)
  | _ :: value => (String.ofList (arg.toList.takeWhile (· != '=')), some (String.ofList value))

/-- An argument that is an option. -/
def isOption (arg : String) : Bool := arg.toList.head? == some '-' && arg != "-"

/-- Sorts arguments; none when an option is unknown, lacks its value or has one that it does not
take. -/
def sort : List String → Raw → Option Raw
  | [], raw => some raw
  | arg :: rest, raw =>
    if arg = "--" then some { raw with positional := raw.positional ++ rest }
    else if !isOption arg then sort rest { raw with positional := raw.positional ++ [arg] }
    else
      match cutValue arg with
      | (name, none) =>
        if flagNames.contains name then sort rest { raw with flags := name :: raw.flags }
        else if valueNames.contains name then
          match rest with
          | [] => none
          | value :: rest => sort rest { raw with values := (name, value) :: raw.values }
        else none
      | (name, some value) =>
        if valueNames.contains name then
          sort rest { raw with values := (name, value) :: raw.values }
        else none

/-- The levels that can be asked for. -/
def logLevels : List String := ["DEBUG", "INFO", "WARNING", "ERROR", "CRITICAL"]

/-- The level that a text asks for, in any case. -/
def levelOf? (text : String) : Option String :=
  logLevels.find? fun level => level.toList.map Char.toLower == text.toList.map Char.toLower

/-- The value of an option that must satisfy a reader if it is given. -/
def Raw.read {α : Type} (raw : Raw) (name : String) (reader : String → Option α) :
    Option (Option α) :=
  match raw.values.lookup name with
  | none => some none
  | some text => (reader text).map some

/-- What sorted arguments ask for. -/
def Raw.options? (isFile : String → Bool) (raw : Raw) : Option Options := do
  let file ← match raw.positional with
    | [] => some none
    | [path] => if isFile path then some (some path) else none
    | _ => none
  let indentWidth ← raw.read "--indent-width" integer?
  let maxRetries ← raw.read "--max-retries" integer?
  let logLevel ← raw.read "--log-level" levelOf?
  let logFile ← raw.read "--log-file" some
  return {
    file, maxRetries, logLevel, logFile
    autoIndent := !raw.flags.contains "--no-auto-indent"
    correctIndent := !raw.flags.contains "--no-correct-indent"
    indentWidth := indentWidth.getD 4 }

/-- What the arguments ask for; none when they are misused. -/
def parse (isFile : String → Bool) (args : List String) : Option Options := do
  (← sort args {}).options? isFile

example : parse (fun _ => true) ["a.py", "--indent-width=2"] =
    some { file := some "a.py", indentWidth := 2 } := by decide +kernel

end PromptLoop.CommandLine
