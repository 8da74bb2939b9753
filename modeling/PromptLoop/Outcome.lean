import PromptLoop.Value.Written

/-!
# Outcomes and verdicts

A read ends in one outcome, and an evaluated line in one verdict.

## Main definitions

* `Outcome`: what came of reading
* `Outcome.build`: an outcome from its kind and an optional text
* `Verdict`: what the loop should do next

## Main results

* `Outcome.build_eq_ok_iff`: a text belongs to a line and to nothing else
-/

namespace PromptLoop

/-- The kinds of outcomes. -/
inductive OutcomeKind
  | line
  | endOfSession
  | interrupted
  | noMoreInput
  deriving DecidableEq, Repr

/-- How a kind of outcome is written. -/
def OutcomeKind.name : OutcomeKind → String
  | .line => "LINE"
  | .endOfSession => "END_OF_SESSION"
  | .interrupted => "INTERRUPTED"
  | .noMoreInput => "NO_MORE_INPUT"

/-- What came of reading. -/
inductive Outcome
  /-- A line was read. -/
  | line (text : String)
  /-- The user asked to end the session. -/
  | endOfSession
  /-- The user cancelled the read. -/
  | interrupted
  /-- The input is exhausted, or broken beyond recovery. -/
  | noMoreInput
  deriving DecidableEq, Repr

namespace Outcome

/-- The kind of an outcome. -/
def kind : Outcome → OutcomeKind
  | .line _ => .line
  | .endOfSession => .endOfSession
  | .interrupted => .interrupted
  | .noMoreInput => .noMoreInput

/-- The text of a line. -/
def text? : Outcome → Option String
  | .line text => some text
  | _ => none

/-- A line was read. -/
def isLine (outcome : Outcome) : Bool := outcome.kind == .line

/-- The outcome of a source's answer: no text is the wish to end the session. -/
def ofAnswer : Option String → Outcome
  | none => .endOfSession
  | some text => .line text

/-- Why an outcome cannot be built. -/
inductive Misfit
  | lineWithoutText
  | unexpectedText (kind : OutcomeKind)
  deriving DecidableEq, Repr

/-- The wording of a misfit. -/
def Misfit.message : Misfit → String
  | .lineWithoutText => "LINE outcomes require text"
  | .unexpectedText kind => kind.name ++ " outcomes carry no text"

/-- A misfit as the failure that reports it. -/
def Misfit.failure (misfit : Misfit) : Failure := .saying .value misfit.message

/-- An outcome from its kind and an optional text. -/
def build : OutcomeKind → Option String → Except Misfit Outcome
  | .line, some text => .ok (.line text)
  | .line, none => .error .lineWithoutText
  | .endOfSession, none => .ok .endOfSession
  | .interrupted, none => .ok .interrupted
  | .noMoreInput, none => .ok .noMoreInput
  | kind, some _ => .error (.unexpectedText kind)

/-- A text belongs to a line and to nothing else. -/
theorem build_eq_ok_iff {kind : OutcomeKind} {text : Option String} {outcome : Outcome} :
    build kind text = .ok outcome ↔ outcome.kind = kind ∧ outcome.text? = text := by
  cases kind <;> cases text <;> cases outcome <;>
    simp [build, Outcome.kind, text?, eq_comm]

end Outcome

/-- What the loop should do after a line was evaluated; what it should raise is a `φ`. -/
inductive Verdict (φ : Type)
  | proceed
  /-- The session ends with a value. -/
  | stop (value : Value)
  /-- The session ends by raising something. -/
  | raiseUp (raised : φ)
  deriving DecidableEq, Repr

namespace Verdict

variable {φ : Type}

/-- How a verdict is written. -/
def name : Verdict φ → String
  | .proceed => "CONTINUE"
  | .stop _ => "STOP_WITH_VALUE"
  | .raiseUp _ => "STOP_WITH_EXCEPTION"

/-- The value that a session ends with. -/
def value : Verdict φ → Value
  | .stop v => v
  | _ => .null

/-- What a session ends with raising. -/
def raised? : Verdict φ → Option φ
  | .raiseUp raised => some raised
  | _ => none

/-- The session goes on. -/
def shouldContinue : Verdict φ → Bool
  | .proceed => true
  | _ => false

end Verdict

end PromptLoop
