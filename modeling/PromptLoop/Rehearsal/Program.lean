import PromptLoop.Console.State
import PromptLoop.Text.Blank
import PromptLoop.Text.Lines
import PromptLoop.Text.Integer

/-!
# Rehearsed programs

For a rehearsal of a console, tables say what statements and expressions do. What no table lists
behaves as code that does nothing, with blocks that end at a blank line.

## Main definitions

* `Rehearsal.Statement`: what a rehearsed statement does
* `Rehearsal.Tables`: what is rehearsed
* `Rehearsal.Tables.runtime`: the runtime of the tables
-/

namespace PromptLoop.Rehearsal

open Text

/-- One thing that a rehearsed statement does. -/
inductive Deed
  | set (name : String) (v : Value)
  /-- Has a value that is echoed. -/
  | «show» (v : Value)
  /-- Has the value of a name, which is echoed. -/
  | showName (name : String)
  | raise (f : Failure)
  | exit (code : Value)
  deriving DecidableEq, Repr

/-- What a rehearsed statement does, in order. -/
abbrev Statement := List Deed

/-- What the compiler is rehearsed to say of a text. -/
inductive Program
  | unfinished
  | refused (f : Failure)
  | complete (statement : Statement)
  deriving DecidableEq, Repr

/-- What is rehearsed: texts with their programs, expressions with their values or failures, and
fragments with their completions. -/
structure Tables where
  programs : List (String × Program) := []
  expressions : List (String × Except Failure Value) := []
  completions : List (String × List String) := []

/-- What the lookup of an unbound name raises. -/
def unbound (name : String) : Failure :=
  .saying .unknownName ("name '" ++ name ++ "' is not defined")

/-- The value of a name. -/
def valueOfName (scope : Scope) (name : String) : Except Failure Value :=
  match scope.get? name with
  | some v => .ok v
  | none => .error (unbound name)

/-- Does one thing; leaving ends the statement. -/
def Deed.perform (echo : Value → Act Notice Scope Unit) :
    Deed → Act Notice Scope (Option Value)
  | .set name v => do
    Act.change fun scope => scope.bind name v
    return none
  | .show v => do
    echo v
    return none
  | .showName name => do
    let scope ← Act.current
    echo (← Act.ofExcept (valueOfName scope name))
    return none
  | .raise f => Act.raise f
  | .exit code => pure (some code)

/-- Does one thing after the other. -/
def run (echo : Value → Act Notice Scope Unit) :
    Statement → Act Notice Scope Console.Ending
  | [] => pure .finished
  | deed :: deeds => do
    match ← deed.perform echo with
    | some code => return .exited code
    | none => run echo deeds

/-- A text that nobody rehearsed is unfinished while its first line opens a block and its last line
is not blank. -/
def opensBlock (text : String) : Bool :=
  let lines := splitLines text.toList
  (lines.head?.any fun line => (trimEnd line).getLast? == some ':') &&
    lines.getLast?.any fun line => !(trim line).isEmpty

/-- The statement that a text makes; none when the text is unfinished. -/
def compile (tables : Tables) (text : String) : Except Failure (Option Statement) :=
  match tables.programs.lookup text with
  | some .unfinished => .ok none
  | some (.refused f) => .error f
  | some (.complete statement) => .ok (some statement)
  | none => if opensBlock text then .ok none else .ok (some [])

/-- The text between simple quotes, if an expression is nothing else. -/
def quotedText? (cs : List Char) : Option String :=
  match cs with
  | '\'' :: rest =>
    let inner := rest.dropLast
    if rest.getLast? = some '\'' ∧ '\'' ∉ inner ∧ '\\' ∉ inner then some (String.ofList inner)
    else none
  | _ => none

/-- The value of an expression: what is rehearsed, a number, a quoted text or a name. -/
def evaluate (tables : Tables) (expression : String) (scope : Scope) : Except Failure Value :=
  match tables.expressions.lookup expression with
  | some result => result
  | none =>
    let cs := expression.toList
    if !cs.isEmpty && cs.all Char.isDigit then
      .ok (.int (Text.ofDigits (cs.map fun c => c.toNat - '0'.toNat)))
    else match quotedText? cs with
      | some text => .ok (.str text)
      | none => valueOfName scope expression

/-- The runtime of the tables. -/
def Tables.runtime (tables : Tables) : Console.Runtime Statement where
  compile := compile tables
  exec := run
  evaluate := evaluate tables
  candidates _ fragment := (tables.completions.lookup fragment).getD []

end PromptLoop.Rehearsal
