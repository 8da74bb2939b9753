import PromptLoop.Source.Basic
import PromptLoop.Source.Intake

/-!
# Reading from a source

A source yields its next line and keeps the rest. Lines lose their newlines; a source without lines
says that it is exhausted.

## Main definitions

* `Source.exhausted`: what a source without lines says
* `Source.nextLine`: the next of the lines known beforehand
* `Source.nextOfText`: the next line of a text
* `Source.play`: the next step of a script
* `Source.read`: the next line of a source
-/

namespace PromptLoop.Source

open Text

/-- What a source without lines says. -/
def exhausted (name : String) : Failure := .saying .endOfFile (name ++ " is exhausted")

/-- The next of the lines known beforehand, without its newlines. -/
def nextLine (name : Value) : Act SourceEvent (List String) String := fun
  | [] => ⟨.error (exhausted name.display), [], []⟩
  | line :: rest => ⟨.ok (String.ofList (dropNewlines line.toList)), rest, []⟩

/-- The next line of a text, without its terminator. -/
def nextOfText (name : String) : Act SourceEvent (List Char) String := fun
  | [] => ⟨.error (exhausted name), [], []⟩
  | c :: cs => ⟨.ok (String.ofList (chomp (takeLine (c :: cs)).1)), (takeLine (c :: cs)).2, []⟩

/-- A completion was asked for where none is installed. -/
def noCompletion : Failure := .saying .type "'NoneType' object is not callable"

/-- Plays a script up to its next answer. -/
def play (name : String) (complete : Option (String → List String)) :
    Act SourceEvent (List Step) (Option String) := fun steps => go steps
where
  go : List Step → Run SourceEvent (List Step) (Option String)
    | [] => ⟨.error (exhausted name), [], []⟩
    | .answer line :: rest => ⟨.ok line, rest, []⟩
    | .fail f :: rest => ⟨.error f, rest, []⟩
    | .complete fragment :: rest =>
      match complete with
      | none => ⟨.error noCompletion, rest, []⟩
      | some words => (go rest).after [.completed fragment (words fragment)]

/-- Calls the reader of a script. -/
def call (name : Value) (complete : Option (String → List String)) (prompt : Option String) :
    Act SourceEvent (List Step) (Option String) := do
  Act.emit [.called name prompt]
  play name.display complete

/-- A raw line without its terminator; an empty one is the end of the file. -/
def rawLine (description : String) : Option String → Except Failure (Option String)
  | none => .error (exhausted description)
  | some "" => .error (exhausted description)
  | some line => .ok (some (String.ofList (chomp line.toList)))

/-- An action on the steps or the text that a source holds. -/
def holding {α β : Type} (put : β → Source) (held : β) (x : Act SourceEvent β α) :
    Act SourceEvent Source α := fun _ =>
  let r := x held
  ⟨r.result, put r.state, r.events⟩

/-- At a line editor the end of input is the wish to end the session. -/
def endOfEditing (x : Act SourceEvent (List Step) (Option String)) :
    Act SourceEvent (List Step) (Option String) :=
  x.rescue (·.isA .endOfFile) fun _ => return none

/-- What is asked for a line although it yields none. -/
def noSource (s : Source) : Failure :=
  .saying .type (s.label ++ " is not a line source (no read_line or readline method)")

/-- An absent stream is asked for a line. -/
def noStream : Failure :=
  .saying .attribute "'NoneType' object has no attribute 'readline'"

/-- The next line of a source, which offers the installed completions and is given a prompt if it
takes one. -/
def read (complete : Option (String → List String)) (prompt : Option String) :
    Act SourceEvent Source (Option String) := fun s =>
  match s with
  | .scripted convention name steps =>
    holding (.scripted convention name) steps
      (call (.str name) complete (if convention.takesPrompt then prompt else none)) s
  | .rawLines name steps =>
    holding (.rawLines name) steps
      (do Act.ofExcept (rawLine s.description (← call (.str name) complete none))) s
  | .lines name rest => holding (.lines name) rest (some <$> nextLine name) s
  | .stream name echo rest =>
    holding (.stream name echo) rest
      (do
        if echo then Act.emit (prompt.toList.map .wrote)
        some <$> nextOfText (streamName name)) s
  | .file name rest =>
    holding (.file name) rest (some <$> nextOfText s.description) s
  | .standardInput _ => ⟨.error noStream, s, []⟩
  | .typed steps => holding .typed steps (call (.str "input") complete prompt) s
  | .editor opened name steps =>
    holding (.editor true name) steps
      (do
        if !opened then Act.emit [.terminalOpened]
        endOfEditing (call name complete prompt)) s
  | .unreadable => ⟨.error s.noSource, s, []⟩

end PromptLoop.Source
