import PromptLoop.Session.Evaluator
import PromptLoop.Recovery.Policy
import PromptLoop.Indent.Tracker
import PromptLoop.Terminal.Repaint

/-!
# The state of a session

What a session is made of: the parts that stay as they are, and the state that its turns change.

## Main definitions

* `Setup`: the evaluator, the inputs, the settings and the screen
* `Session`: the evaluator's state, the current source with its supply, and the open constructs
* `Event`: what a session lets others see
-/

namespace PromptLoop

/-- The parts of a session that stay as they are. -/
structure Setup (ι δ σ : Type) where
  evaluator : Evaluator ι σ
  inputs : Inputs ι δ
  config : Config
  policies : Pipeline := .standard
  screen : Screen
  family : Terminal.Family
  /-- How many blanks memory holds. -/
  memory : Nat := Padding.usualMemory

/-- The tracker of a session at its start. -/
def Setup.freshTracker {ι δ σ : Type} (setup : Setup ι δ σ) : Tracker where
  rules := setup.config.rules
  width := setup.config.indentWidth
  memory := setup.memory

/-- The state of a session. -/
structure Session (ι δ σ : Type) where
  evaluator : σ
  intake : Intake ι δ
  tracker : Tracker

/-- What a session lets others see. -/
inductive Event
  /-- The loop's own writes and records. -/
  | loop (n : Notice)
  /-- A write or a record of the evaluator. -/
  | evaluator (n : Notice)
  /-- A write or a record of a hook. -/
  | hook (n : Notice)
  | reading (e : ReadEvent)
  /-- The evaluator is handed a line, or the wish to end the session. -/
  | evaluated (line : Option String)
  /-- The evaluator is told to drop unfinished input. -/
  | discarded
  /-- An event is fired, with what hooks are told of the evaluator's state. -/
  | fired (event : String) (binding : Argument)
  /-- A hook starts. -/
  | ran (hook : String)
  /-- A screen is asked for. -/
  | screenRequested
  deriving DecidableEq, Repr

/-- The notice of an event, whoever it comes from. -/
def Event.notice? : Event → Option Notice
  | .loop n => some n
  | .evaluator n => some n
  | .hook n => some n
  | .reading (.notice n) => some n
  | _ => none

namespace Session

variable {ι δ σ α : Type}

/-- An action of the evaluator. -/
def onEvaluator (x : Act Notice σ α) : Act Event (Session ι δ σ) α :=
  x.within Session.evaluator (fun s evaluator => { s with evaluator }) .evaluator

/-- An action on the intake. -/
def onIntake (x : Act ReadEvent (Intake ι δ) α) : Act Event (Session ι δ σ) α :=
  x.within Session.intake (fun s intake => { s with intake }) .reading

/-- Writes to the screen, which is taken to accept every text. -/
def write (w : Write) : Act Event (Session ι δ σ) Unit := Act.emit [.loop (.wrote w)]

/-- Reports a record of the loop. -/
def log (level : Log.Level) (message : String) : Act Event (Session ι δ σ) Unit :=
  Act.emit [.loop (.log level Log.loopChannel message)]

/-- Reports a record of the loop, unless its message cannot be written. -/
def log? (level : Log.Level) (message? : Option String) : Act Event (Session ι δ σ) Unit :=
  Act.emit ((Notice.log? level Log.loopChannel message?).map .loop)

/-- The session at its start, with nothing open. -/
def initial (setup : Setup ι δ σ) (evaluator : σ) (intake : Intake ι δ) : Session ι δ σ where
  evaluator := evaluator
  intake := intake
  tracker := setup.freshTracker

end Session

end PromptLoop
