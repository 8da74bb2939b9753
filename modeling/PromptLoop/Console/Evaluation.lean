import PromptLoop.Console.Command
import PromptLoop.Session.Evaluator

/-!
# Evaluating lines at a console

A line is a command, or it goes on with the unfinished statement. A statement that is complete
leaves the buffer, enters the history and is run; its failures are shown and kept, and leave the
session alone.

## Main definitions

* `Console.runStatement`: runs a complete statement
* `Console.take`: adds a line to the unfinished statement
* `Console.eval`: handles a line, or the wish to end the session
* `Console.interpreter`: a console as an evaluator
-/

namespace PromptLoop.Console

open Text

/-- The prompt of a statement's first line. -/
def firstPrompt : String := ">>> "

/-- The prompt of a statement's further lines. -/
def furtherPrompt : String := "... "

/-- The prompt of the next line. -/
def prompt (c : Console) : String := if c.buffer.isEmpty then firstPrompt else furtherPrompt

/-- Discards the unfinished statement, also when lines are pending. -/
def isClearing (line : String) : Bool := String.ofList (trim line.toList) == Command.clear.word

/-- The verdict of a reply. -/
def verdictOf : Reply → Verdict Failure
  | .proceed => .proceed
  | .leave v => .stop v
  | .raiseUp f => .raiseUp f

/-- What a statement without detail is refused with. -/
def noDetail : String := "<no detail available>"

/-- How a refused statement is shown. Bad syntax is shown with its detail, which must be written for
that. -/
def refusalLine? (f : Failure) : Option String :=
  if f.isA .invalidSyntax then (f.detail?.elim (some noDetail) Value.display?).map f.entitled
  else some f.headline

/-- Keeps the failure that a statement is refused with, and shows it. -/
def refuse (f : Failure) : Act Notice Console Unit := do
  Act.change fun c => { c with lastFailure := some f }
  let line ← Act.ofExcept (inWriting (refusalLine? f))
  Act.emit [.diagnostic (String.ofList (trimEnd line.toList))]

/-- Classes of failures by which a statement is refused. -/
def refusals : List FailureKind := [.invalidSyntax, .overflow, .value]

/-- The code that a failure leaves with: what it is raised with, if anything. -/
def exitCode : Failure → Value
  | .raised _ argument => argument.getD .null
  | .undecodable .. => .null

/-- Leaves with a code. -/
def leaveWith (code : Value) : Act Notice Console (Verdict Failure) := do
  Act.emit (Notice.log? .debug Log.consoleChannel (code.literal?.map ("user_exit: code=" ++ ·)))
  return .stop code

/-- What a failed statement leaves behind: its failure, bound and shown. -/
def keepFailure (f : Failure) : Act Notice Console Unit := do
  Act.change fun c =>
    { c with lastFailure := some f, scope := c.scope.bind failureName (.failure f) }
  Act.emit [.wrote (.traceback f)]

/-- What follows from a statement's failure. -/
def recover (f : Failure) : Act Notice Console (Verdict Failure) := do
  if f.isA .systemExit then leaveWith (exitCode f)
  else if f.isA .keyboardInterrupt then
    Act.emit [.diagnostic "KeyboardInterrupt"]
    return .proceed
  else if f.isA .exception then
    keepFailure f
    return .proceed
  else Act.raise f

variable {π : Type} (runtime : Runtime π)

/-- Runs a statement on the names bound so far. -/
def execute (statement : π) : Act Notice Console Ending :=
  (runtime.exec echo statement).within Console.scope (fun c scope => { c with scope }) id

/-- What follows from how a statement ends. -/
def conclude : Ending → Act Notice Console (Verdict Failure)
  | .finished => pure .proceed
  | .exited code => leaveWith code

/-- Runs a complete statement: leaving stops the session, and failures are recovered from. -/
def runStatement (statement : π) : Act Notice Console (Verdict Failure) :=
  (execute runtime statement >>= conclude).rescue (fun _ => true) recover

/-- A statement that is complete leaves the buffer and enters the history. -/
def accept (c : Console) : Console :=
  { c with buffer := [], history := c.history ++ [c.pending] }

/-- Adds a line to the unfinished statement, and runs it when it is complete. -/
def take (line : String) : Act Notice Console (Verdict Failure) := do
  Act.change fun c => { c with buffer := c.buffer ++ [line] }
  let c ← Act.current
  match runtime.compile c.pending with
  | .error f =>
    if f.isAny refusals then
      Act.change discard
      refuse f
      return .proceed
    else Act.raise f
  | .ok none => return .proceed
  | .ok (some statement) =>
    Act.change accept
    runStatement runtime statement

/-- A line that is no command: a blank one starts no statement. -/
def continueWith (line : String) : Act Notice Console (Verdict Failure) := do
  let c ← Act.current
  if c.buffer.isEmpty && (trim line.toList).isEmpty then return .proceed
  else take runtime line

/-- Handles a line. Commands count where no statement is pending, and the one that discards it
counts everywhere. -/
def evalLine (line : String) : Act Notice Console (Verdict Failure) := do
  let c ← Act.current
  if c.buffer.isEmpty || isClearing line then
    match ← dispatch runtime line with
    | some reply => return verdictOf reply
    | none => continueWith runtime line
  else continueWith runtime line

/-- Handles the wish to end the session: it discards an unfinished statement, or else is granted. -/
def evalEnd : Act Notice Console (Verdict Failure) := do
  let c ← Act.current
  if c.buffer.isEmpty then return .stop .null
  else
    Act.change discard
    return .proceed

/-- Handles a line, or the wish to end the session. -/
def eval : Option String → Act Notice Console (Verdict Failure)
  | none => evalEnd
  | some line => evalLine runtime line

/-- A console as an evaluator. -/
def interpreter : Interpreter Console where
  name := "PythonEvaluator"
  prompt := prompt
  eval := eval runtime
  discard := discard
  isBufferEmpty c := c.buffer.isEmpty
  complete := complete runtime
  binding c := match c.binding? with
    | none => .scope
    | some v => .value v
  push := some push

end PromptLoop.Console
