import PromptLoop.Failure.Basic
import PromptLoop.Text.WordChar

/-!
# Completion at a cursor

A line editor completes the dotted name that ends at the cursor. Who supplies the candidates is
asked for that name, and a supplier that fails offers nothing.

## Main definitions

* `Completion.textBefore`: what stands before the cursor
* `Completion.fragment`: the name that is completed
* `Completion.offer`: the candidates, and where each would be put
* `Completion.byPrefix`: the words that a fragment starts
-/

namespace PromptLoop.Completion

open Text

/-- Supplies candidates for a fragment. -/
abbrev Supplier := String → Except Failure (List String)

/-- What stands before the cursor; a negative position counts from the end of the text. -/
def textBefore (text : String) (cursor : Int) : List Char :=
  text.toList.take (if cursor < 0 then cursor + text.length else cursor).toNat

/-- The name that ends at the cursor. -/
def fragment (text : String) (cursor : Int) : String :=
  String.ofList (trailingWord (textBefore text cursor))

/-- The cursor stands behind the end of the text. -/
def beyondText (text : String) (cursor : Int) : Failure :=
  .saying .assertion <|
    "cursor_position=" ++ toString cursor ++ ", len_text=" ++ toString text.length

/-- A candidate, and where it would be put relative to the cursor. -/
structure Candidate where
  word : String
  start : Int
  deriving DecidableEq, Repr

/-- The candidates at a cursor: none without a supplier, and none from one that fails as programs
are expected to. The cursor must not stand behind the end of the text. -/
def offer (supplier : Option Supplier) (text : String) (cursor : Int) :
    Except Failure (List Candidate) :=
  if text.length < cursor then .error (beyondText text cursor)
  else match supplier with
    | none => .ok []
    | some supply =>
      let word := fragment text cursor
      match supply word with
      | .ok words => .ok (words.map fun candidate => ⟨candidate, -(word.length : Int)⟩)
      | .error f => if f.isA .exception then .ok [] else .error f

/-- What the supplier is asked for. -/
def asked (supplier : Option Supplier) (text : String) (cursor : Int) : List String :=
  if supplier.isSome then [fragment text cursor] else []

/-- The words that a fragment starts. -/
def byPrefix (words : List String) (fragment : String) : List String :=
  words.filter fun word => fragment.toList.isPrefixOf word.toList

end PromptLoop.Completion
