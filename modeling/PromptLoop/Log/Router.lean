import PromptLoop.Act
import PromptLoop.Environment
import PromptLoop.Notice
import PromptLoop.Text.Path

/-!
# Routing records

The records of the program go to the handlers that are attached to its log. A router attaches its
own handlers, one for the error stream and one for a file when a file is named, and leaves the
handlers of others alone.

## Main definitions

* `Log.Handler`: where records go
* `Log.Router`: the level and the handlers of the log
* `Log.configure`: attaches the router's own handlers
* `Log.route`: writes a record

## Main results

* `Log.levelNumber?_isSome`: which names are levels
-/

namespace PromptLoop.Log

/-- Where a handler writes. -/
inductive Target
  | errorStream
  | file (path : String)
  /-- A handler of somebody else, which writes nothing here. -/
  | elsewhere
  deriving DecidableEq, Repr

/-- A handler of the log. -/
structure Handler where
  /-- Tells handlers with one name and target apart. -/
  serial : Nat
  name : Option String
  target : Target
  deriving DecidableEq, Repr

/-- The level and the handlers of the log. -/
structure Router where
  /-- Records below this number are dropped; zero is no level at all. -/
  level : Nat := 0
  handlers : List Handler := []
  /-- The handlers that were closed. -/
  closed : List Handler := []
  /-- How many handlers there ever were. -/
  issued : Nat := 0
  deriving DecidableEq, Repr

/-- Something written by the log. -/
inductive Written
  | errorStream (text : String)
  | file (path text : String)
  deriving DecidableEq, Repr

/-- The name of the program's log, and of the router's own handlers. -/
def ownName : String := "readloop"

/-- The names of levels with their numbers. -/
def levelNumbers : List (String × Nat) :=
  [("CRITICAL", 50), ("FATAL", 50), ("ERROR", 40), ("WARN", 30), ("WARNING", 30), ("INFO", 20),
   ("DEBUG", 10), ("NOTSET", 0)]

/-- The upper case of a letter, where it is an ASCII letter: the dotless i and the long s have such
a one as well. -/
def upperLetter (c : Char) : Char :=
  if c = 'ı' then 'I' else if c = 'ſ' then 'S' else c.toUpper

/-- The number of a level by its name, in any case. -/
def levelNumber? (name : String) : Option Nat :=
  levelNumbers.lookup (String.ofList (name.toList.map upperLetter))

/-- The name of a level is unknown. -/
def unknownLevel (name : String) : Failure := .saying .value ("Unknown log level: " ++ name)

/-- A text that was given and is not empty. -/
def given (text : Option String) : Option String := text.filter (· ≠ "")

/-- The variable that names the level. -/
def levelVariable : String := "READLOOP_LOG_LEVEL"

/-- The variable that names the file. -/
def fileVariable : String := "READLOOP_LOG_FILE"

/-- The name of the level: as given, or else from the environment, or else the usual one. -/
def levelName (env : Environment) (level : Option String) : String :=
  (given level).getD ((env.get? levelVariable).getD Level.warning.name)

/-- The file for records, by its normal path: as given, or else from the environment. -/
def filePath (env : Environment) (file : Option String) : Option String :=
  ((given file).or (env.filled? fileVariable)).map Text.normalPath

/-- A handler of the router itself. -/
def Handler.isOwn (h : Handler) : Bool := h.name == some ownName

namespace Router

/-- Takes the router's own handlers off and closes them. -/
def detachOwn (r : Router) : Router :=
  { r with
    handlers := r.handlers.filter (!·.isOwn)
    closed := r.closed ++ r.handlers.filter (·.isOwn) }

/-- Attaches a handler. -/
def attach (name : Option String) (target : Target) (r : Router) : Router :=
  { r with handlers := r.handlers ++ [⟨r.issued, name, target⟩], issued := r.issued + 1 }

/-- Attaches a handler of the router itself. -/
def attachOwn (target : Target) (r : Router) : Router := r.attach (some ownName) target

/-- The number that records of the program's log must reach. -/
def threshold (r : Router) : Nat := if r.level = 0 then Level.warning.severity else r.level

end Router

/-- Routes the program's records to the error stream, and to a file when one is named. The file is
opened last: when that fails, the router's own handlers are already off. -/
def configure (opens : String → Except Failure Unit) (env : Environment)
    (level file : Option String) : Act Written Router Unit :=
  match levelNumber? (levelName env level) with
  | none => Act.raise (unknownLevel (levelName env level))
  | some number => do
    Act.change fun r => { r.detachOwn with level := number }
    match filePath env file with
    | none => Act.change (Router.attachOwn .errorStream)
    | some path =>
      Act.ofExcept (opens path)
      Act.emit [.file path ""]
      Act.change fun r => (r.attachOwn .errorStream).attachOwn (.file path)

/-- A text with blanks behind it up to a width. -/
def padRight (width : Nat) (text : String) : String :=
  text ++ String.ofList (List.replicate (width - text.length) ' ')

/-- A record as the router's handlers write it. -/
def Record.line (record : Record) : String :=
  padRight 8 record.level.name ++ " " ++ record.channel ++ ": " ++ record.message ++ "\n"

/-- What a handler writes of a record. -/
def Handler.written (record : Record) (h : Handler) : List Written :=
  match h.target with
  | .errorStream => [.errorStream record.line]
  | .file path => [.file path record.line]
  | .elsewhere => []

/-- A channel belongs to the program's log. -/
def isOwnChannel (channel : String) : Bool :=
  channel == ownName || (ownName ++ ".").toList.isPrefixOf channel.toList

/-- What is written of a record that meets no handler: its bare message, if it matters enough. -/
def lastResort (record : Record) : List Written :=
  if Level.warning.severity ≤ record.level.severity then [.errorStream (record.message ++ "\n")]
  else []

/-- Writes a record. -/
def route (r : Router) (record : Record) : List Written :=
  if isOwnChannel record.channel then
    if record.level.severity < r.threshold then []
    else if r.handlers.isEmpty then lastResort record
    else r.handlers.flatMap (Handler.written record)
  else lastResort record

/-- The text that was written to the error stream. -/
def errorText (ws : List Written) : String :=
  String.join <| ws.map fun
    | .errorStream text => text
    | .file _ _ => ""

/-- Adds a text to the file of a path. -/
def addToFile (path text : String) : List (String × String) → List (String × String)
  | [] => [(path, text)]
  | (other, old) :: files =>
    if other = path then (other, old ++ text) :: files
    else (other, old) :: addToFile path text files

/-- The files that were written, with their contents. -/
def fileTexts (ws : List Written) : List (String × String) :=
  ws.foldl (fun files w => match w with
    | .errorStream _ => files
    | .file path text => addToFile path text files) []

/-- The names that are levels. -/
theorem levelNumber?_isSome (name : String) :
    (levelNumber? name).isSome = true ↔
      String.ofList (name.toList.map upperLetter) ∈ levelNumbers.map Prod.fst := by
  rw [levelNumber?]
  generalize String.ofList (name.toList.map upperLetter) = upper
  induction levelNumbers with
  | nil => simp
  | cons entry entries ih =>
    obtain ⟨known, number⟩ := entry
    by_cases h : upper = known
    · simp [h]
    · have hb : (upper == known) = false := by simpa using h
      simp only [List.lookup_cons, hb, List.map_cons, List.mem_cons, h, false_or]
      exact ih

end PromptLoop.Log
