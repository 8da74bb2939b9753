import PromptLoop.Environment

/-!
# Cursor movement

The control sequences that move the cursor of a terminal by whole rows. There are two families of
terminals: those that know only "previous line" and "next line", and those that move by rows and
columns.

## Main definitions

* `Terminal.Family`: the two families
* `Terminal.Family.ofEnvironment`: the family of the terminal a program runs in
* `Terminal.lineStart`, `Terminal.up`, `Terminal.down`: the sequences
-/

namespace PromptLoop.Terminal

/-- What a terminal understands of cursor movement. -/
inductive Family
  /-- Knows only "previous line" and "next line". -/
  | byLine
  /-- Moves by rows and by columns. -/
  | byCell
  deriving DecidableEq, Repr

/-- The family of the terminal a program runs in: an ANSI-capable console of Windows, told by its
variables, moves by line. -/
def Family.ofEnvironment (env : Environment) : Family :=
  if env.platform = "win32" ∧
      ((env.filled? "ANSICON").isSome ∨ env.get? "ConEmuANSI" = some "ON" ∨
        (env.filled? "WT_SESSION").isSome) then
    .byLine
  else .byCell

/-- The character that starts a control sequence. -/
def escape : Char := '\x1b'

/-- A control sequence: its parameter and its final letter. -/
def control (parameter : Int) (final : Char) : List Char :=
  escape :: '[' :: (toString parameter).toList ++ [final]

/-- Moves the cursor to the first column of its row. -/
def lineStart : Family → List Char
  | .byLine => control 0 'F'
  | .byCell => control 0 'G'

/-- Moves the cursor a number of rows up, to the first column. -/
def up (rows : Int) : Family → List Char
  | .byLine => control rows 'F'
  | .byCell => control rows 'A' ++ control 0 'G'

/-- Moves the cursor a number of rows down, to the first column. -/
def down (rows : Int) : Family → List Char
  | .byLine => control rows 'E'
  | .byCell => control rows 'B' ++ control 0 'G'

example : String.ofList (up 2 .byCell) = "\x1b[2A\x1b[0G" := by decide +kernel

example : String.ofList (down 2 .byLine) = "\x1b[2E" := by decide +kernel

end PromptLoop.Terminal
