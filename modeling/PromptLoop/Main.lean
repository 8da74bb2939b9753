import PromptLoop.CommandLine.Run
import PromptLoop.Rehearsal.Program

/-!
# The program

The outer layer of the command: it collects the arguments, the environment, the standard input and
the named file, and writes what the command comes to. Statements that nobody rehearsed do nothing.
-/

namespace PromptLoop.CommandLine

/-- The variables that the command looks at. -/
def variableNames : List String :=
  [Overrides.autoIndentVariable, Overrides.correctIndentVariable,
   Overrides.maxReadRetriesVariable, Log.levelVariable, Log.fileVariable, "ANSICON", "ConEmuANSI",
   "WT_SESSION"]

/-- The environment of the process. -/
def processEnvironment : IO Environment := do
  let mut env : Environment := {}
  for name in variableNames do
    if let some value ← IO.getEnv name then env := env.set name value
  return env

/-- The files among the arguments, with their octets. -/
def readableFiles (args : List String) : IO (List (String × List Nat)) := do
  let mut files := []
  for arg in args do
    try
      let octets ← IO.FS.readBinFile arg
      files := (arg, octets.toList.map UInt8.toNat) :: files
    catch _ => pure ()
  return files

/-- Adds a text to a file. -/
def appendTo (path text : String) : IO Unit :=
  IO.FS.withFile path .append fun file => file.putStr text

/-- What a file raises that cannot be opened. -/
def accessFailure (path : String) : IO.Error → Failure
  | .noFileOrDirectory .. => AccessFault.missing.failure path
  | .inappropriateType _ number _ =>
    let fault := if number.toNat = AccessFault.isFolder.number then AccessFault.isFolder
      else .throughFile
    fault.failure path
  | error => .saying .os (toString error)

/-- The files that cannot be opened to write at their end, with what they raise. -/
def unwritable (paths : List String) : IO (List (String × Failure)) := do
  let mut faults := []
  for path in paths do
    try appendTo path ""
    catch error => faults := (path, accessFailure path error) :: faults
  return faults

/-- What becomes of the command on the disk of the process. The first outcome takes every file for
open; where one that it writes cannot be opened, the outcome without that file counts. -/
def exit (invocation : Invocation) : IO (Option Exit) := do
  let outcome (faults : List (String × Failure)) : Option Conduct :=
    perform (Rehearsal.Tables.runtime {}) (fun path => (faults.lookup path).elim (.ok ()) .error)
      invocation
  let faults ← match outcome [] with
    | some (.ran _ _ files _) => unwritable (files.map Prod.fst)
    | _ => pure []
  return (outcome faults).map Conduct.exit

end PromptLoop.CommandLine

open PromptLoop

/-- Runs the command, and answers its status. -/
def main (args : List String) : IO UInt32 := do
  let stdout ← IO.getStdout
  let stderr ← IO.getStderr
  let octets ← (← IO.getStdin).readBinToEnd
  let files ← CommandLine.readableFiles args
  let invocation : CommandLine.Invocation := {
    args
    env := ← CommandLine.processEnvironment
    stdin := (String.fromUTF8? octets).getD "" |>.toList
    read? := fun path => files.lookup path
    screen := { tty := ← stdout.isTty } }
  match ← CommandLine.exit invocation with
  | none => return 1
  | some exit =>
    stdout.putStr exit.output
    stderr.putStr exit.errors
    for (path, text) in exit.files do CommandLine.appendTo path text
    if let some f := exit.unhandled then stderr.putStrLn f.headline
    return exit.status.toUInt32
