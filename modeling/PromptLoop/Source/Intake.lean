import PromptLoop.Act
import PromptLoop.Notice

/-!
# Where lines come from

A session reads from one source at a time, and a supply yields fresh sources when the current one
runs dry. Both are given by an interface, so that a session can be run on any of them.

## Main definitions

* `SourceEvent`: what a source or a supply lets others see
* `Intake`: the current source and the supply
* `Inputs`: how sources are read, named and replaced
-/

namespace PromptLoop

/-- What a source or a supply lets others see. -/
inductive SourceEvent
  /-- A text written to the screen beside a read. -/
  | wrote (text : String)
  /-- The reader of a source was called, with a prompt or without one. -/
  | called (name : Value) (prompt : Option String)
  /-- A source asked for completions of a fragment. -/
  | completed (fragment : String) (words : List String)
  /-- A terminal session was opened on first use. -/
  | terminalOpened
  /-- The supply was called. -/
  | supplied
  deriving DecidableEq, Repr

/-- The current source and the supply of further ones. -/
structure Intake (ι δ : Type) where
  source : ι
  supply : δ
  deriving DecidableEq, Repr

/-- How sources `ι` are read and named, and how a supply `δ` yields fresh ones. -/
structure Inputs (ι δ : Type) where
  /-- Reads one line from the current source, offering completions and showing a prompt; no line is
  the wish to end the session. -/
  read : (String → List String) → String → Act SourceEvent (Intake ι δ) (Option String)
  /-- A fresh source. -/
  fresh : Act SourceEvent δ ι
  /-- A source as it is named in the log. -/
  label : ι → String
  /-- A source as it is named to the user. -/
  description : ι → String

end PromptLoop
