import PromptLoop.CommandLine.Conduct
import PromptLoop.Failure.Index

/-!
# Running the command

Who runs the command sees what it writes, and learns whether it returns or what it raises. A process
makes a status of that: an exit gives its code, and what nobody handles is shown together with where
it comes from. A trial has no error stream of a process behind it, and shows a code that is no
number on the standard output.

## Main definitions

* `CommandLine.codeStatus?`: the status that a code gives
* `CommandLine.exitStatus`: the status that is made of what the command raises
* `CommandLine.Exit`, `CommandLine.Conduct.exit`: what becomes of the command in a process
* `CommandLine.Report`, `CommandLine.run`: what a trial of the command reports
-/

namespace PromptLoop.CommandLine

/-- The status of misuse. -/
def misuseStatus : Nat := 2

/-- How many statuses a process can have. -/
def statusCount : Int := 256

/-- The status that the code of an exit gives, if it is a number or nothing. Numbers that are no
indices count as the last status. -/
def codeStatus? : Value → Option Nat
  | .null => some 0
  | .bool b => some b.toNat
  | .int n => some (if IsIndex n then n % statusCount else statusCount - 1).toNat
  | _ => none

/-- The code with which a failure exits, if it is an exit. -/
def exitCode? (f : Failure) : Option Value :=
  if f.isA .systemExit then some (Console.exitCode f) else none

/-- The status that is made of what the command raises: none of the failures but exits has one of
its own, and neither has an exit with a code that is no number. -/
def exitStatus : Option Failure → Nat
  | none => 0
  | some f => ((exitCode? f).bind codeStatus?).getD 1

/-- The text that is made of what the command raises: that of a code that is no number. -/
def exitText : Option Failure → String
  | none => ""
  | some f =>
    match exitCode? f with
    | none => ""
    | some code => if (codeStatus? code).isSome then "" else code.display ++ "\n"

/-- What the command raises if it is no exit. -/
def unhandled (raised : Option Failure) : Option Failure :=
  raised.filter fun f => (exitCode? f).isNone

/-- What becomes of the command in a process. -/
structure Exit where
  status : Nat
  output : String := ""
  errors : String := ""
  files : List (String × String) := []
  /-- The failure that nobody handles: the process shows where it comes from. -/
  unhandled : Option Failure := none
  deriving DecidableEq, Repr

/-- What becomes of the command in a process. -/
def Conduct.exit : Conduct → Exit
  | .misuse => { status := misuseStatus }
  | .ran output errors files raised =>
    { status := exitStatus raised, output, errors := errors ++ exitText raised, files
      unhandled := unhandled raised }

/-- What a trial of the command reports. -/
inductive Report
  /-- The arguments or the settings are misused. -/
  | misuse
  /-- The command has run: its status, what it wrote, and what nobody handles of what it raises. -/
  | ran (status : Nat) (output : String) (errors : String) (files : List (String × String))
    (failure : Option Failure)
  deriving DecidableEq, Repr

/-- What a trial of the command reports. -/
def Conduct.report : Conduct → Report
  | .misuse => .misuse
  | .ran output errors files raised =>
    .ran (exitStatus raised) (output ++ exitText raised) errors files (unhandled raised)

/-- Tries the command: none when its session does not end within a number of turns. -/
def run {π : Type} (runtime : Console.Runtime π) (opens : String → Except Failure Unit)
    (inv : Invocation) : Option Report := (perform runtime opens inv).map Conduct.report

example : exitStatus (some (.raised .systemExit (some (.int (-1))))) = 255 := by decide

example : (Conduct.ran "" "" [] (some (.saying .systemExit "c"))).exit =
    { status := 1, errors := "c\n" } := by decide +kernel

end PromptLoop.CommandLine
