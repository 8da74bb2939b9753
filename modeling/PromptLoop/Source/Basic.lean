import PromptLoop.Value.Written
import PromptLoop.Text.Lines

/-!
# Sources of lines

A source holds the lines that it has yet to yield. Lines that are known beforehand and the text of a
stream are read as they are; a script plays back what a user or a broken device would do.

## Main definitions

* `Step`: what a script does when it is asked for a line
* `Convention`: how the reader of a script is called
* `Source`: a source
* `Source.label`, `Source.description`: how a source is named
* `Source.acceptsPrompt`, `Source.supportsCompletion`: what a source can do
-/

namespace PromptLoop

/-- What a script does when it is asked for a line. -/
inductive Step
  /-- Yields a line, or the wish to end the session. -/
  | answer (line : Option String)
  | fail (f : Failure)
  /-- Asks for completions, and goes on to the next step. -/
  | complete (fragment : String)
  deriving DecidableEq, Repr

/-- How the reader of a script is called. -/
inductive Convention
  | withPrompt
  /-- With a prompt; the source can drive completion. -/
  | completing
  | withoutPrompt
  /-- The prompt could be given by name alone. -/
  | byKeyword
  | anyArguments
  /-- Nothing is known of the arguments. -/
  | unknown
  deriving DecidableEq, Repr

/-- A source of lines. -/
inductive Source
  | scripted (convention : Convention) (name : String) (steps : List Step)
  /-- A script of raw lines with their newlines. -/
  | rawLines (name : String) (steps : List Step)
  /-- Lines known beforehand. -/
  | lines (name : Value) (rest : List String)
  /-- The text of a stream, with the name of its file; the prompt may be echoed. -/
  | stream (name : Option Value) (echo : Bool) (rest : List Char)
  /-- The text of a file, with its name. -/
  | file (name : Option Value) (rest : List Char)
  /-- The standard input, read as a stream, with its name. -/
  | standardInput (name : Option Value)
  /-- A script of what is typed at a plain prompt. -/
  | typed (steps : List Step)
  /-- A script of what is typed at a line editor, which may have to be opened first, and the name
  that the editor is called by. -/
  | editor (opened : Bool) (name : Value) (steps : List Step)
  /-- Something that yields no lines. -/
  | unreadable
  deriving DecidableEq, Repr

namespace Convention

/-- The name of the kind of scripts that are called in a way. -/
def className : Convention → String
  | .withPrompt => "ScriptedSource"
  | .completing => "CompletingSource"
  | .withoutPrompt => "NoPromptSource"
  | .byKeyword => "KeywordSource"
  | .anyArguments => "VarArgsSource"
  | .unknown => "OpaqueSource"

/-- The reader takes the prompt: it is assumed to where nothing is known. -/
def takesPrompt : Convention → Bool
  | .withoutPrompt => false
  | .byKeyword => false
  | _ => true

end Convention

namespace Source

/-- The name of a source's kind. -/
def className : Source → String
  | .scripted convention _ _ => convention.className
  | .rawLines _ _ => "FileSource"
  | .lines _ _ => "IterableSource"
  | .stream _ _ _ => "StreamSource"
  | .file _ _ => "TextFile"
  | .standardInput _ => "StreamSource"
  | .typed _ => "InputSource"
  | .editor _ _ _ => "PromptToolkitSource"
  | .unreadable => "NotASource"

/-- The name of line editors. -/
def editorName : String := "prompt_toolkit"

/-- The name of a stream, which a stream without a file lacks. -/
def streamName (name : Option Value) : String := (name.map Value.display).getD "<stream>"

/-- The name that a source goes by, if it has one. -/
def name? : Source → Option Value
  | .scripted _ name _ => some (.str name)
  | .rawLines name _ => some (.str name)
  | .lines name _ => some name
  | .stream name _ _ => some (.str (streamName name))
  | .file name _ => name
  | .standardInput name => some (.str (streamName name))
  | .typed _ => some (.str "input")
  | .editor _ _ _ => some (.str editorName)
  | .unreadable => none

/-- A kind with something in brackets. -/
def bracketed (className inner : String) : String := className ++ "(" ++ inner ++ ")"

/-- A source as it is named in the log. -/
def label (s : Source) : String :=
  bracketed s.className <| match s with
    | .scripted _ name _ => name
    | .rawLines name _ => name
    | .lines name _ => name.display
    | .stream name _ _ => streamName name
    | .standardInput name => streamName name
    | _ => ""

/-- A source as it is named to the user: by its name if that is a text. -/
def description (s : Source) : String :=
  match s.name? with
  | some (.str name) => if name = "" then s.label else bracketed s.className name
  | _ => s.label

/-- The source has a reader of its own. -/
def hasReader : Source → Bool
  | .rawLines _ _ => false
  | .file _ _ => false
  | .unreadable => false
  | _ => true

/-- The reader of a source takes the prompt. -/
def acceptsPrompt : Source → Bool
  | .scripted convention _ _ => convention.takesPrompt
  | .stream _ _ _ => true
  | .standardInput _ => true
  | .typed _ => true
  | .editor _ _ _ => true
  | _ => false

/-- The source can drive completion. -/
def supportsCompletion : Source → Bool
  | .scripted convention _ _ => convention == .completing
  | .editor _ _ _ => true
  | _ => false

/-- How many steps, lines or characters a source has yet to yield. -/
def size : Source → Nat
  | .scripted _ _ steps => steps.length
  | .rawLines _ steps => steps.length
  | .lines _ rest => rest.length
  | .stream _ _ rest => rest.length
  | .file _ rest => rest.length
  | .typed steps => steps.length
  | .editor _ _ steps => steps.length
  | .standardInput _ => 0
  | .unreadable => 0

end Source

end PromptLoop
