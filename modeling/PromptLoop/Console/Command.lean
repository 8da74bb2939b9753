import PromptLoop.Text.Blank
import PromptLoop.Text.Integer
import PromptLoop.Console.State
import PromptLoop.Console.History

/-!
# Commands of a console

At the start of a statement some words are commands. A command word that is used as a name, so that
code goes on behind it, is no command.

## Main definitions

* `Command`: the commands
* `Command.recognise`: the command that a line gives, with its argument
* `Command.perform`: what a command does
* `Console.dispatch`: a line handled as a command, if it is one

## Main results

* `Command.recognise_eq_some_iff`: which lines are commands
-/

namespace PromptLoop

open Text

/-- The commands of a console. -/
inductive Command
  | help
  | history
  | clear
  | exit
  | quit
  | raiseUp
  deriving DecidableEq, Repr

/-- What a command asks the session to do. -/
inductive Reply
  | proceed
  | leave (value : Value)
  | raiseUp (failure : Failure)
  deriving DecidableEq, Repr

namespace Command

/-- The word of a command. -/
def word : Command → String
  | .help => "help"
  | .history => "history"
  | .clear => "!"
  | .exit => "exit"
  | .quit => "quit"
  | .raiseUp => "raise-up"

/-- Every command, in the order in which they are listed. -/
def all : List Command := [.help, .history, .clear, .exit, .quit, .raiseUp]

/-- The command of a word. -/
def ofWord? (word : String) : Option Command := all.find? (·.word == word)

/-- The lines that explain the commands and the keys. -/
def helpLines : List String :=
  ["readloop - interactive Python with auto-indentation",
   "",
   "Commands (at the start of a statement):",
   "    help                  Show this help",
   "    history               Show evaluated statements",
   "    !                     Discard the current multi-line input",
   "    exit [expr]           Leave the REPL, returning the value of expr",
   "    quit [expr]           Alias for exit",
   "    raise-up [expr]       Leave the REPL by raising expr (default: last exception)",
   "",
   "Keys:",
   "    Ctrl-C                Discard the current line and input buffer",
   "    Ctrl-D                Discard multi-line input, or leave on an empty prompt",
   "    Tab                   Complete names from the session namespace"]

/-- The text that explains the commands and the keys. -/
def helpText : String := "\n".intercalate helpLines

/-- Characters behind a command word that make it a name in code. -/
def continuations : List Char := ['=', '.', '(', '[', ',', ':']

/-- Code goes on behind a word. -/
def continuesAsCode (argument : List Char) : Bool := argument.head?.any continuations.contains

/-- The command that a line gives, with its argument. -/
def recognise (line : String) : Option (Command × String) :=
  match cutWord (trim line.toList) with
  | none => none
  | some (first, rest) =>
    match ofWord? (String.ofList first) with
    | none => none
    | some command =>
      if continuesAsCode (trim rest) then none else some (command, String.ofList (trim rest))

/-- Why a command does nothing. -/
inductive Complaint
  /-- The argument failed; of its failure that is kept what it says. -/
  | notEvaluated (expression summary : String)
  | cannotRaise (typeName : String)
  | nothingToRaise
  | notANumber
  deriving DecidableEq, Repr

/-- The wording of a complaint. -/
def Complaint.message : Complaint → String
  | .notEvaluated expression summary =>
    "could not evaluate " ++ quoted expression ++ ": " ++ summary
  | .cannotRaise typeName =>
    "cannot raise " ++ typeName ++ " (expected an exception or message)"
  | .nothingToRaise => "raise-up: no exception to raise"
  | .notANumber => "Usage: history [N]"

/-- What a command comes to: a reply or a complaint. -/
abbrev Result := Except Complaint Reply

/-- The failure that a value stands for. -/
def failureOf : Value → Except Failure (Except Complaint Failure)
  | .failure f => .ok (.ok f)
  | .failureClass kind => (Failure.ofKind kind).map .ok
  | .str message => .ok (.ok (.saying .runtime message))
  | v => .ok (.error (.cannotRaise v.typeName))

section

variable {π : Type} (runtime : Console.Runtime π)

/-- The value of an argument. Failures that programs are expected to handle are complaints; others
pass. A complaint says what the failure says, and is a failure itself where that cannot be
written. -/
def valueOf (expression : String) : Act Notice Console (Except Complaint Value) := do
  let c ← Act.current
  match runtime.evaluate expression c.scope with
  | .ok v => return .ok v
  | .error f =>
    if f.isA .exception then
      let summary ← Act.ofExcept (inWriting f.summary?)
      return .error (.notEvaluated expression summary)
    else Act.raise f

/-- Leaves, with the value of the argument if there is one. -/
def leave (argument : String) : Act Notice Console Result := do
  if argument = "" then return .ok (.leave .null)
  match ← valueOf runtime argument with
  | .ok v => return .ok (.leave v)
  | .error complaint => return .error complaint

/-- Raises the value of the argument, or else the last failure of a statement. -/
def raising (argument : String) : Act Notice Console Result := do
  if argument = "" then
    match (← Act.current).lastFailure with
    | some f => return .ok (.raiseUp f)
    | none => return .error .nothingToRaise
  match ← valueOf runtime argument with
  | .error complaint => return .error complaint
  | .ok v => return (← Act.ofExcept (failureOf v)).map .raiseUp

/-- Prints lines. -/
def print (lines : List String) : Act Notice Console Unit := Act.emit (lines.map Notice.line)

/-- Lists the statements that were run: all, or as many as the argument says. -/
def list (argument : String) : Act Notice Console Result := do
  let c ← Act.current
  if argument = "" then
    print (History.listing c.history none)
    return .ok .proceed
  match integer? argument with
  | none => return .error .notANumber
  | some n =>
    print (History.listing c.history (some n))
    return .ok .proceed

/-- What a command does with its argument. -/
def perform (command : Command) (argument : String) : Act Notice Console Result :=
  match command with
  | .help => do
    print [helpText]
    return .ok .proceed
  | .history => list argument
  | .clear => do
    Act.change Console.discard
    print ["Input buffer cleared!"]
    return .ok .proceed
  | .exit => leave runtime argument
  | .quit => leave runtime argument
  | .raiseUp => raising runtime argument

end

/-- The lines that are commands: those whose first word is the word of a command, behind which no
code goes on. -/
theorem recognise_eq_some_iff {line : String} {command : Command} {argument : String} :
    recognise line = some (command, argument) ↔
      ∃ first rest, cutWord (trim line.toList) = some (first, rest) ∧
        ofWord? (String.ofList first) = some command ∧
        continuesAsCode (trim rest) = false ∧ argument = String.ofList (trim rest) := by
  rw [recognise]
  constructor
  · intro h
    split at h
    · simp at h
    · next first rest hcut =>
      split at h
      · simp at h
      · next found hfound =>
        split at h
        · simp at h
        · next hcode =>
          simp only [Option.some.injEq, Prod.mk.injEq] at h
          exact ⟨first, rest, hcut, h.1 ▸ hfound, by simpa using hcode, h.2.symm⟩
  · rintro ⟨first, rest, hcut, hfound, hcode, rfl⟩
    simp [hcut, hfound, hcode]

end Command

namespace Console

variable {π : Type} (runtime : Runtime π)

/-- A line handled as a command, if it is one. A command that is used wrongly says so and does
nothing. -/
def dispatch (line : String) : Act Notice Console (Option Reply) :=
  match Command.recognise line with
  | none => pure none
  | some (command, argument) => do
    Act.emit [.log .debug Log.commandChannel
      ("command: name=" ++ command.word ++ ", args=" ++ quoted argument)]
    match ← command.perform runtime argument with
    | .ok reply => return some reply
    | .error complaint =>
      Act.emit [.diagnostic ("Error: " ++ complaint.message)]
      return some .proceed

end Console

end PromptLoop
