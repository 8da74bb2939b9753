import PromptLoop.Session.State

/-!
# Reading a line of a session

A read shows the evaluator's prompt and the indentation of the open constructs, recovers from
failures by the policies, and corrects the indentation of the line that it gets.

## Main definitions

* `Session.indentation?`: what the prompt is followed by
* `Session.reindent`: a text as the tracker indents it
* `Session.correct`: a line as it should have been indented
* `Session.read`: a read
-/

namespace PromptLoop.Session

variable {ι δ σ : Type} (setup : Setup ι δ σ)

/-- Forgets the open constructs when no unfinished input is left. -/
def settle (s : Session ι δ σ) : Session ι δ σ :=
  if setup.evaluator.isBufferEmpty s.evaluator then { s with tracker := s.tracker.reset } else s

/-- The indentation that the prompt is followed by, unless it is out of bounds. -/
def indentation? (s : Session ι δ σ) : Except Failure (List Char) :=
  if setup.config.autoIndent then s.tracker.currentPrefix? else .ok []

/-- A text as the tracker indents it. -/
def reindent (text : List Char) : Act Event (Session ι δ σ) (List Char) :=
  (Tracker.indent? text).within Session.tracker (fun s tracker => { s with tracker }) id

/-- The screen shows a line that was echoed with another indentation than it should have. -/
def repaints (echoed corrected : List Char) : Bool :=
  setup.screen.tty && setup.config.correctIndent && corrected != echoed

/-- Paints an echoed line again. -/
def repainted (prompt : String) (echoed corrected : List Char) : Write :=
  .verbatim (String.ofList (Terminal.repaint prompt.toList corrected
    ((echoed.length : Int) - corrected.length) setup.screen.width setup.family))

/-- A line as it should have been indented; on a terminal its echo is painted again. -/
def correct (indentation : List Char) (prompt line : String) :
    Act Event (Session ι δ σ) String := do
  if setup.config.autoIndent then
    let corrected ← reindent line.toList
    let echoed := indentation ++ line.toList
    if repaints setup echoed corrected then write (repainted setup prompt echoed corrected)
    return String.ofList corrected
  else return line

/-- The guarded question to the source. -/
def question (s : Session ι δ σ) (prompt : String) : Attempt ι δ :=
  Pipeline.guard setup.inputs setup.config setup.policies
    (Attempt.ask setup.inputs (setup.evaluator.complete s.evaluator) prompt)

/-- Reads a line with a prompt and the indentation of the open constructs. -/
def read (prompt : String) : Act Event (Session ι δ σ) Outcome := do
  Act.change (settle setup)
  let s ← Act.current
  let indentation ← Act.ofExcept (s.indentation? setup)
  match ← onIntake (s.question setup (prompt ++ String.ofList indentation)) with
  | .line text =>
    let corrected ← correct setup indentation prompt text
    return .line corrected
  | outcome => return outcome

end PromptLoop.Session
