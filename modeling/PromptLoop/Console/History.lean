import PromptLoop.Text.Lines

/-!
# The history of a console

Statements are listed with their numbers, counted from one; the further lines of a statement stand
below its first.

## Main definitions

* `History.firstShown`: where a list of the last statements starts
* `History.entry`: the lines of one statement
* `History.listing`: the lines of the last statements, or of all
-/

namespace PromptLoop.History

open Text

/-- What stands for an empty history. -/
def emptyNote : String := "No history"

/-- How many statements are left out in front; zero and no number mean all statements. -/
def firstShown (size : Nat) (last : Option Int) : Nat :=
  match last with
  | none => 0
  | some n => if n = 0 then 0 else ((size : Int) - n).toNat

/-- A number, right-aligned to a width. -/
def alignRight (width n : Nat) : List Char :=
  let digits := (toString n).toList
  List.replicate (width - digits.length) ' ' ++ digits

/-- The lines of one statement: its number and first line, and its further lines below. -/
def entry (number : Nat) (statement : String) : List String :=
  match splitLines statement.toList with
  | [] => []
  | first :: rest =>
    String.ofList (alignRight 4 number ++ ": ".toList ++ first) ::
      rest.map fun line => String.ofList (List.replicate 6 ' ' ++ line)

/-- The lines of statements with consecutive numbers. -/
def entries : Nat → List String → List String
  | _, [] => []
  | number, statement :: rest => entry number statement ++ entries (number + 1) rest

/-- The lines of the last statements, or of all. -/
def listing (statements : List String) (last : Option Int) : List String :=
  if statements.isEmpty then [emptyNote]
  else
    let skipped := firstShown statements.length last
    entries (skipped + 1) (statements.drop skipped)

example : listing ["a", "b\nc"] (some 1) = ["   2: b", "      c"] := by decide +kernel

end PromptLoop.History
