import PromptLoop.Value.Written

/-!
# Notices

What a session lets others see: text written to its screen, and records for the log. The screen is
taken to accept every text; a record that cannot be written is left out of the log, and nobody else
hears of it.

## Main definitions

* `Screen`: the terminal or file that a session writes to
* `Write`: one write to the screen
* `Log.Level`, `Log.Record`: a record for the log
* `Notice`: a write or a record
-/

namespace PromptLoop

/-- The terminal or file that a session writes to. -/
structure Screen where
  /-- An interactive terminal. -/
  tty : Bool := false
  width : Int := 200
  deriving DecidableEq, Repr

/-- How a screen is named in the log. -/
def Screen.label (screen : Screen) : String :=
  "OutputSink(tty=" ++ truthLiteral screen.tty ++ ")"

/-- One write to the screen. -/
inductive Write
  /-- A text as it is. -/
  | verbatim (text : String)
  /-- A text and a newline. -/
  | line (text : String)
  /-- A message about what went wrong, on lines of its own. -/
  | diagnostic (message : String)
  /-- Where a failure comes from. -/
  | traceback (failure : Failure)
  deriving DecidableEq, Repr

/-- The text that a write adds to the screen. -/
def Write.text : Write → String
  | .verbatim text => text
  | .line text => text ++ "\n"
  | .diagnostic message => message ++ "\n"
  | .traceback failure => "[traceback " ++ failure.entitled failure.text ++ "]\n"

namespace Log

/-- How much a record matters. -/
inductive Level
  | debug
  | info
  | warning
  | error
  | critical
  deriving DecidableEq, Repr

/-- How a level is written. -/
def Level.name : Level → String
  | .debug => "DEBUG"
  | .info => "INFO"
  | .warning => "WARNING"
  | .error => "ERROR"
  | .critical => "CRITICAL"

/-- The number of a level: a record that matters more has the greater one. -/
def Level.severity : Level → Nat
  | .debug => 10
  | .info => 20
  | .warning => 30
  | .error => 40
  | .critical => 50

/-- A record for the log. -/
structure Record where
  level : Level
  /-- The channel that the record belongs to. -/
  channel : String
  message : String
  deriving DecidableEq, Repr

/-- The channel of sessions. -/
def sessionChannel : String := "readloop.core.session"

/-- The channel of recovery. -/
def recoveryChannel : String := "readloop.core.resilience"

/-- The channel of the loop. -/
def loopChannel : String := "readloop.core.repl"

/-- The channel of hooks. -/
def hookChannel : String := "readloop.core.hooks"

/-- The channel of the console's commands. -/
def commandChannel : String := "readloop.frontends.cli.repl.registry"

/-- The channel of the console. -/
def consoleChannel : String := "readloop.frontends.cli.repl.evaluator"

end Log

/-- Something that others see of a session. -/
inductive Notice
  | wrote (write : Write)
  | logged (record : Log.Record)
  deriving DecidableEq, Repr

namespace Notice

/-- The text that a notice adds to the screen. -/
def screenText : Notice → String
  | .wrote write => write.text
  | .logged _ => ""

/-- A line on the screen. -/
abbrev line (text : String) : Notice := .wrote (.line text)

/-- A message about what went wrong. -/
abbrev diagnostic (message : String) : Notice := .wrote (.diagnostic message)

/-- A record for the log. -/
abbrev log (level : Log.Level) (channel message : String) : Notice :=
  .logged ⟨level, channel, message⟩

/-- A record for the log, unless its message cannot be written. -/
def log? (level : Log.Level) (channel : String) (message? : Option String) : List Notice :=
  message?.toList.map (log level channel)

end Notice

end PromptLoop
