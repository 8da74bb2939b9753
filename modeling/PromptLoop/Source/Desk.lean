import PromptLoop.Source.Read

/-!
# The desk

The desk of a session supplies its fresh sources: those that were laid out for it, one after the
other, or else the standard input of the process.

## Main definitions

* `StandardInput`: the standard input of the process
* `Fallback`: what a call of the supply comes to
* `Desk`: the supply
* `Desk.inputs`, `Desk.plainInputs`: reading and replacing sources at a desk
-/

namespace PromptLoop

/-- The standard input of a process. -/
structure StandardInput where
  name : Option Value := none
  tty : Bool := false
  /-- The text that has not been read. -/
  text : List Char := []
  /-- What is typed at a line editor on a terminal. -/
  steps : List Step := []
  deriving DecidableEq, Repr

/-- What a call of the supply comes to. -/
inductive Fallback
  | source (s : Source)
  | failure (f : Failure)
  deriving DecidableEq, Repr

/-- How much a fallback has to yield. -/
def Fallback.size : Fallback → Nat
  | .source s => s.size + 1
  | .failure _ => 1

/-- The supply of fresh sources. -/
structure Desk where
  /-- What was laid out; nothing laid out is the standard input, whenever a source is needed. -/
  fallbacks : Option (List Fallback) := some []
  /-- How many calls there were. -/
  calls : Nat := 0
  stdin : Option StandardInput := none
  deriving DecidableEq, Repr

namespace Desk

/-- The source of the standard input: a line editor on a terminal, a stream otherwise. -/
def standardSource : Option StandardInput → Source
  | none => .standardInput none
  | some stdin =>
    if stdin.tty then .editor false (stdin.name.getD (.str Source.editorName)) stdin.steps
    else .standardInput stdin.name

/-- What a call of the supply comes to when nothing is laid out for it. -/
def spare (calls : Nat) : Fallback :=
  .source (.scripted .withPrompt ("default-" ++ toString calls) [])

/-- A fresh source. -/
def fresh : Act SourceEvent Desk Source := fun desk =>
  match desk.fallbacks with
  | none => ⟨.ok (standardSource desk.stdin), desk, []⟩
  | some fallbacks =>
    let next := { desk with calls := desk.calls + 1, fallbacks := some fallbacks.tail }
    match fallbacks.head?.getD (spare desk.calls) with
    | .source s => ⟨.ok s, next, [.supplied]⟩
    | .failure f => ⟨.error f, next, [.supplied]⟩

/-- The next line of the standard input, read as a stream. -/
def readStandard (name : Option Value) : Act SourceEvent Desk (Option String) := fun desk =>
  match desk.stdin with
  | none => ⟨.error Source.noStream, desk, []⟩
  | some stdin =>
    let r := Source.nextOfText (Source.streamName name) stdin.text
    ⟨r.result.map some, { desk with stdin := some { stdin with text := r.state } }, r.events⟩

/-- The next line of the current source, which offers the installed completions and is given a
prompt if it takes one. -/
def read (complete : Option (String → List String)) (prompt : Option String) :
    Act SourceEvent (Intake Source Desk) (Option String) := fun intake =>
  match intake.source with
  | .standardInput name =>
    (readStandard name).within Intake.supply (fun intake supply => { intake with supply }) id intake
  | _ =>
    (Source.read complete prompt).within Intake.source
      (fun intake source => { intake with source }) id intake

/-- Reading and replacing sources at a desk, with the completions of the evaluator installed. -/
def inputs : Inputs Source Desk where
  read complete prompt := read (some complete) (some prompt)
  fresh := fresh
  label := Source.label
  description := Source.description

/-- Reading and replacing sources at a desk where nobody installs completions. -/
def plainInputs : Inputs Source Desk where
  read _ prompt := read none (some prompt)
  fresh := fresh
  label := Source.label
  description := Source.description

/-- How much a desk has to yield. -/
def size (desk : Desk) : Nat :=
  (desk.fallbacks.getD []).foldl (fun total fallback => total + fallback.size) 0 +
    (desk.stdin.map fun stdin => stdin.text.length + stdin.steps.length).getD 0

end Desk

end PromptLoop
