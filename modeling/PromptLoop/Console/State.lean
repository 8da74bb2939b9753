import PromptLoop.Act
import PromptLoop.Notice
import PromptLoop.Value.Scope

/-!
# The state of a console

A console collects lines until they make a complete statement, runs it on the names bound so far,
and keeps what was run.

## Main definitions

* `Console`: the names, the history, the values to work on, the last failure and the buffer
* `Console.Runtime`: what compiles and runs statements
* `Console.echo`: echoes a value
-/

namespace PromptLoop

/-- The state of a console. -/
structure Console where
  /-- The names that statements have bound. -/
  scope : Scope := []
  /-- The statements that were run, the first one first. -/
  history : List String := []
  /-- The values to work on, the last one pushed last. -/
  targets : List Value := []
  /-- The last failure of a statement. -/
  lastFailure : Option Failure := none
  /-- The lines of an unfinished statement. -/
  buffer : List String := []
  deriving DecidableEq, Repr

namespace Console

/-- The name that tells statements where they run. -/
def ownName : String := "__name__"

/-- A console at its start: it tells statements where they run, unless they know. -/
def start (scope : Scope) (history : List String) : Console where
  scope := scope.bindDefault ownName (.str "__readloop__")
  history := history

/-- The unfinished statement. -/
def pending (c : Console) : String := "\n".intercalate c.buffer

/-- Drops the unfinished statement. -/
def discard (c : Console) : Console := { c with buffer := [] }

/-- What hooks are told: the value to work on, or else the names that statements bind. -/
def binding? (c : Console) : Option Value := c.targets.getLast?

/-- The name by which statements find the value to work on. -/
def targetName : String := "this"

/-- Makes a value the one to work on: the entries of a dictionary become names. -/
def push (v : Value) (c : Console) : Console :=
  { c with
    targets := c.targets ++ [v]
    scope := match v with
      | .dict entries => c.scope.merge entries
      | _ => c.scope.bind targetName v }

/-- How a statement ends that does not fail. -/
inductive Ending
  | finished
  /-- The statement asks to leave with a code. -/
  | exited (code : Value)
  deriving DecidableEq, Repr

/-- What compiles and runs statements `π`. -/
structure Runtime (π : Type) where
  /-- The statement that a text makes; none when the text is unfinished. -/
  compile : String → Except Failure (Option π)
  /-- Runs a statement, which echoes values. -/
  exec : (Value → Act Notice Scope Unit) → π → Act Notice Scope Ending
  /-- The value of an expression. -/
  evaluate : String → Scope → Except Failure Value
  /-- Names that a fragment starts. -/
  candidates : Scope → String → List String

/-- The name of the value that was echoed last. -/
def echoName : String := "_"

/-- The name of the failure that a statement raised last. -/
def failureName : String := "_ex_"

/-- Binds a value, unless it is absent, and echoes it. One that cannot be written stays bound. -/
def echo (v : Value) : Act Notice Scope Unit :=
  if v.isNull then pure ()
  else do
    Act.change fun scope => scope.bind echoName v
    let text ← Act.ofExcept (inWriting v.literal?)
    Act.emit [.line text]

/-- The completions of a fragment, each once. -/
def complete {π : Type} (runtime : Runtime π) (c : Console) (fragment : String) : List String :=
  if fragment = "" then [] else (runtime.candidates c.scope fragment).eraseDups

end Console

end PromptLoop
