import PromptLoop.Session.Evaluator
import PromptLoop.Source.Completion
import PromptLoop.Text.Blank

/-!
# Rehearsed evaluators

Two evaluators that obey a few words, to rehearse sessions with: one that has no buffer, and one
that collects the lines of blocks from `if` to `end`.

## Main definitions

* `Rehearsal.Part`: what the words lead to
* `Rehearsal.bare`: the evaluator without a buffer
* `Rehearsal.block`: the evaluator with a buffer
-/

namespace PromptLoop.Rehearsal

open Text

/-- What the words lead to. -/
structure Part where
  prompt : String := "> "
  stopValue : Value := .str "bye"
  failure : Failure := .saying .runtime "evaluator failure"
  crash : Failure := .saying .lookup "evaluator crashed"
  deriving DecidableEq, Repr

/-- The words that are offered as completions. -/
def vocabulary : List String := ["puts", "print", "if", "end"]

/-- The verdict on a line that is one of the words. -/
def Part.verdict? (part : Part) (line : String) : Option (Except Failure (Verdict Failure)) :=
  let word := String.ofList (trim line.toList)
  if word = "quit" then some (.ok (.stop part.stopValue))
  else if word = "fail" then some (.ok (.raiseUp part.failure))
  else if word = "crash" then some (.error part.crash)
  else none

/-- The evaluator without a buffer. -/
def bare (part : Part) : Interpreter Unit where
  name := "BareEvaluator"
  prompt _ := part.prompt
  eval
    | none => pure (.stop .null)
    | some line => Act.ofExcept ((part.verdict? line).getD (.ok .proceed))
  discard s := s
  isBufferEmpty _ := true
  complete _ := Completion.byPrefix vocabulary
  binding _ := .value .null
  push := none

/-- The state of the evaluator with a buffer. -/
structure Block where
  buffer : List String := []
  targets : List Value := []
  deriving DecidableEq, Repr

namespace Block

/-- No block is open: the buffer does not hold more openers than closers. -/
def balanced (lines : List String) : Bool :=
  let found := lines.flatMap fun line => (words line.toList).map String.ofList
  found.count "if" ≤ found.count "end"

/-- Adds a line; the buffer is dropped once no block is open. -/
def add (line : String) (s : Block) : Block :=
  let lines := s.buffer ++ [line]
  { s with buffer := if balanced lines then [] else lines }

end Block

/-- The evaluator with a buffer. -/
def block (part : Part) : Interpreter Block where
  name := "BlockEvaluator"
  prompt _ := part.prompt
  eval
    | none => pure (.stop .null)
    | some line =>
      match part.verdict? line with
      | some r => Act.ofExcept r
      | none => do
        Act.change (Block.add line)
        return .proceed
  discard s := { s with buffer := [] }
  isBufferEmpty s := s.buffer.isEmpty
  complete _ := Completion.byPrefix vocabulary
  binding s := .value (s.targets.getLast?.getD .null)
  push := some fun v s => { s with targets := s.targets ++ [v] }

end PromptLoop.Rehearsal
