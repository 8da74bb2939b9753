import PromptLoop.CommandLine.Options
import PromptLoop.CommandLine.Settings
import PromptLoop.Console.Evaluation
import PromptLoop.Failure.Access
import PromptLoop.Log.Router
import PromptLoop.Session.Assembly
import PromptLoop.Source.Desk
import PromptLoop.Text.Utf8

/-!
# The command

The command starts a console on a file, if one is named, and on the standard input. What the session
comes to is shown at the end, or decides what the command raises.

## Main definitions

* `CommandLine.Invocation`: the arguments and what surrounds them
* `CommandLine.Conduct`: what the command writes, and what it raises
* `CommandLine.Ending`, `CommandLine.conclude`: its end, by what its session has come to
* `CommandLine.perform`: the command
-/

namespace PromptLoop.CommandLine

open Text

/-- The arguments of the command and what surrounds them. -/
structure Invocation where
  args : List String
  env : Environment := {}
  /-- The text of the standard input. -/
  stdin : List Char := []
  /-- The octets of the file that a path leads to, if there is one. -/
  read? : String → Option (List Nat) := fun _ => none
  screen : Screen := {}
  /-- How many blanks memory holds. -/
  memory : Nat := Padding.usualMemory

/-- What the command does. -/
inductive Conduct
  /-- The arguments or the settings are misused. -/
  | misuse
  /-- The command writes on the standard output, on the error stream and to files, and then returns
  or raises something. -/
  | ran (output errors : String) (files : List (String × String)) (raised : Option Failure)
  deriving DecidableEq, Repr

/-- What a terminal is greeted with. -/
def banner : String := "readloop | Type 'help' for commands\n"

/-- The lines of a file as they would be typed. -/
def fileLines (text : List Char) : List String :=
  (boundaryLines (normalizeNewlines text)).map String.ofList

/-- The source of a file. -/
def fileSource (name : String) (octets : List Nat) : Except Failure Source :=
  match Utf8.decode octets with
  | .error fault => .error (.undecodable octets fault.start fault.stop fault.reason.text)
  | .ok text => .ok (.lines (.str name) (fileLines text))

/-- The source that the session starts with, if a file is named. -/
def startSource (inv : Invocation) (options : Options) : Except Failure (Option Source) :=
  match options.file with
  | none => .ok none
  | some name => (fileSource name ((inv.read? name).getD [])).map some

/-- The supply of the session: the standard input. -/
def supply (inv : Invocation) : Desk where
  fallbacks := none
  stdin := some { name := some (.str "<stdin>"), text := normalizeNewlines inv.stdin }

/-- How the command ends. -/
structure Ending where
  /-- Written on the standard output at the end. -/
  output : String := ""
  /-- Written on the error stream at the end. -/
  errors : String := ""
  /-- What the command raises, if it does not return. -/
  raised : Option Failure := none
  deriving DecidableEq, Repr

/-- The exit of a command that has gone wrong. -/
def exitWithFault : Failure := .raised .systemExit (some (.int 1))

/-- How the command ends when a failure leaves the console: one that programs are expected to handle
is shown, and an interrupt aborts. Everything else passes, exits with their codes included. -/
def endingOf (f : Failure) : Ending :=
  if f.isA .exception then { output := (Write.traceback f).text, raised := some exitWithFault }
  else if f.isA .keyboardInterrupt then
    { errors := "\nAborted.\n", raised := some exitWithFault }
  else { raised := some f }

/-- How the command ends when its session does. A value is echoed; nobody handles the failure that
stands in its place where it cannot be written. -/
def conclude : Except Failure Value → Ending
  | .ok .null => {}
  | .ok v =>
    match inWriting v.literal? with
    | .ok text => { output := text ++ "\n" }
    | .error f => { raised := some f }
  | .error f => endingOf f

/-- More turns than a session of the command takes. -/
def turnLimit {σ : Type} (s : Session Source Desk σ) : Nat :=
  s.intake.source.size + s.intake.supply.size + 4

/-- The notices of a session, in order. -/
def notices (events : List Event) : List Notice := events.filterMap Event.notice?

/-- The text that notices add to the screen. -/
def screenText (ns : List Notice) : String := String.join (ns.map Notice.screenText)

/-- What the log writes of notices. -/
def logged (router : Log.Router) (ns : List Notice) : List Log.Written :=
  ns.flatMap fun
    | .wrote _ => []
    | .logged record => Log.route router record

/-- A command that fails before its session. -/
def failedEarly (written : List Log.Written) (f : Failure) : Conduct :=
  .ran "" (Log.errorText written) (Log.fileTexts written) (some f)

/-- A command whose session has ended. -/
def conductOf (inv : Invocation) (router : Log.Router) (written : List Log.Written)
    {σ : Type} (p : Performance Source Desk σ) : Conduct :=
  let ns := notices p.events
  let written := written ++ logged router ns
  let ending := conclude p.result
  .ran ((if inv.screen.tty then banner else "") ++ screenText ns ++ ending.output)
    (Log.errorText written ++ ending.errors) (Log.fileTexts written) ending.raised

/-- The session of the command. -/
def plan {π : Type} (runtime : Console.Runtime π) (inv : Invocation) (config : Config)
    (source : Option Source) : Plan Source Desk (Hooked Source Console) where
  evaluator := (Console.interpreter runtime).withHooks
  inputs := Desk.inputs
  config := config
  family := .ofEnvironment inv.env
  source := source
  screen := some inv.screen
  memory := inv.memory

/-- The console at the start of the session. -/
def console : Hooked Source Console := ⟨Console.start [] [], {}⟩

/-- The session of the command with its settings checked. -/
def runSession {π : Type} (runtime : Console.Runtime π) (inv : Invocation) (options : Options)
    (config : Config) (router : Log.Router) (written : List Log.Written) : Option Conduct :=
  match startSource inv options with
  | .error f => some (failedEarly written f)
  | .ok source =>
    ((plan runtime inv config source).perform? turnLimit console (supply inv)).map
      (conductOf inv router written)

/-- The settings that options ask for. -/
def Options.flags (options : Options) : Flags where
  autoIndent := options.autoIndent
  correctIndent := options.correctIndent
  maxRetries := options.maxRetries
  indentWidth := options.indentWidth

/-- The command: none when its session does not end within a number of turns. A file that is not
there is misuse, but a name that no file can have raises. -/
def perform {π : Type} (runtime : Console.Runtime π) (opens : String → Except Failure Unit)
    (inv : Invocation) : Option Conduct :=
  match parse (fun path => holdsNull path || (inv.read? path).isSome) inv.args with
  | none => some .misuse
  | some options =>
    if options.file.any holdsNull then some (failedEarly [] nullInPath)
    else match Log.configure opens inv.env options.logLevel options.logFile {} with
    | ⟨.error f, _, written⟩ => some (failedEarly written f)
    | ⟨.ok (), router, written⟩ =>
      match settings inv.env options.flags with
      | .error _ => some .misuse
      | .ok config => runSession runtime inv options config router written

end PromptLoop.CommandLine
