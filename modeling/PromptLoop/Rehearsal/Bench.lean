import PromptLoop.Source.Desk
import PromptLoop.Source.Completion

/-!
# A source on the bench

A source tried out by itself: asked for lines in either way, for its completions and for its names.

## Main definitions

* `Rehearsal.Bench`: a source with the completions installed in it
* `Rehearsal.Bench.readFrom`: a line, asked for in the way that the source supports
* `Rehearsal.Bench.readLine`: a line, asked for with given arguments
* `Rehearsal.Bench.completeAt`: what its line editor completes
-/

namespace PromptLoop.Rehearsal

/-- A source with the words installed in it for completion. -/
structure Bench where
  intake : Intake Source Desk
  words : Option (List String) := none
  deriving DecidableEq, Repr

/-- How many arguments the reader of a source takes; none is any number. -/
def argumentCount : Source → Option Nat
  | .scripted .anyArguments _ _ => none
  | s => some (if s.acceptsPrompt then 1 else 0)

/-- A source has no reader of its own. -/
def noReader (s : Source) : Failure :=
  .saying .attribute ("'" ++ s.className ++ "' object has no attribute 'read_line'")

/-- The kind that a source has its reader from: a script that can drive completion is read like one
that cannot. -/
def readerClass : Source → String
  | .scripted .completing _ _ => Convention.withPrompt.className
  | s => s.className

/-- The reader of a source is called with too few or too many arguments. -/
def wrongCount (s : Source) (expected given : Nat) : Failure :=
  .saying .type <| readerClass s ++ ".read_line() " ++
    if given < expected then "missing 1 required positional argument: 'prompt'"
    else "takes " ++ toString (expected + 1) ++ " positional argument" ++
      (if expected = 0 then "" else "s") ++ " but " ++ toString (given + 1) ++ " were given"

namespace Bench

/-- The words that the installed completion offers for a fragment. -/
def complete (b : Bench) : Option (String → List String) :=
  b.words.map Completion.byPrefix

/-- Asks the source for a line. -/
def ask (prompt : Option String) : Act SourceEvent Bench (Option String) := fun b =>
  (Desk.read b.complete prompt).within Bench.intake (fun b intake => { b with intake }) id b

/-- A line, asked for in the way that the source supports. -/
def readFrom (prompt : String) : Act SourceEvent Bench (Option String) := ask (some prompt)

/-- A line, asked for with given arguments. -/
def readLine (arguments : List String) : Act SourceEvent Bench (Option String) := do
  let source := (← Act.current).intake.source
  if !source.hasReader then Act.raise (noReader source)
  match argumentCount source with
  | none => ask arguments.head?
  | some expected =>
    if arguments.length = expected then ask arguments.head?
    else Act.raise (wrongCount source expected arguments.length)

/-- Installs completion by the prefix of words, if the source supports it. -/
def install (words : List String) : Act SourceEvent Bench Bool := do
  let supported := (← Act.current).intake.source.supportsCompletion
  if supported then Act.change fun b => { b with words := some words }
  return supported

/-- A source has no line editor. -/
def noEditor (s : Source) : Failure :=
  .saying .attribute ("'" ++ s.className ++ "' object has no attribute 'session'")

/-- What the line editor of a source completes at the end of a text; the editor may have to be
opened first. -/
def completeAt (text : String) : Act SourceEvent Bench (List Completion.Candidate) := do
  let b ← Act.current
  match b.intake.source with
  | .editor opened name steps =>
    if !opened then Act.emit [.terminalOpened]
    Act.change fun b => { b with intake := { b.intake with source := .editor true name steps } }
    let supplier := b.complete.map fun words fragment => .ok (words fragment)
    Act.ofExcept (Completion.offer supplier text text.length)
  | source => Act.raise (noEditor source)

end Bench

end PromptLoop.Rehearsal
