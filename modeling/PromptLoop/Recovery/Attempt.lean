import PromptLoop.Source.Intake
import PromptLoop.Outcome

/-!
# Attempts to read

An attempt asks the current source for a line once.

## Main definitions

* `ReadEvent`: what reading lets others see
* `Attempt`: a way to come to an outcome
* `Attempt.ask`: one question to the current source
* `Attempt.switchTo`, `Attempt.refill`: another source in place of the current one
-/

namespace PromptLoop

/-- What reading lets others see. -/
inductive ReadEvent
  | notice (n : Notice)
  /-- The current source is asked for a line. -/
  | asked (prompt : String)
  /-- The supply is asked for a fresh source. -/
  | requested
  | source (e : SourceEvent)
  /-- A recording policy was entered. -/
  | entered (name : String)
  /-- A recording policy was left with an outcome. -/
  | exited (name : String)
  deriving DecidableEq, Repr

/-- A way to come to an outcome, or to a failure. -/
abbrev Attempt (ι δ : Type) := Act ReadEvent (Intake ι δ) Outcome

namespace Attempt

variable {ι δ : Type} (inputs : Inputs ι δ)

/-- Reports a record for the log. -/
def log (level : Log.Level) (channel message : String) : Act ReadEvent (Intake ι δ) Unit :=
  Act.emit [.notice (.log level channel message)]

/-- One question to the current source. -/
def ask (complete : String → List String) (prompt : String) :
    Act ReadEvent (Intake ι δ) Outcome := do
  Act.emit [.asked prompt]
  let answer ← (inputs.read complete prompt).within id (fun _ intake => intake) .source
  return Outcome.ofAnswer answer

/-- Puts another source in place of the current one. -/
def switchTo (next : ι) : Act ReadEvent (Intake ι δ) Unit := do
  let intake ← Act.current
  log .debug Log.sessionChannel
    ("source_switched: from=" ++ inputs.label intake.source ++ ", to=" ++ inputs.label next)
  Act.change fun intake => { intake with source := next }

/-- Puts a fresh source in place of the current one. -/
def refill : Act ReadEvent (Intake ι δ) Unit := do
  Act.emit [.requested]
  let next ← inputs.fresh.within Intake.supply (fun intake supply => { intake with supply })
    .source
  switchTo inputs next

end Attempt

end PromptLoop
