import PromptLoop.Padding
import PromptLoop.Terminal.Visible

/-!
# Repainting an echoed line

When the indentation of a submitted line changes, the line is painted again over the rows that its
echo took: the cursor moves up, the prompt and the corrected line are written, blanks cover what the
echo had more, and the cursor moves down again.

## Main definitions

* `Terminal.rowsOf`: the rows that a text of some width takes
* `Terminal.repaint`: the sequence that paints a line again
* `Terminal.repaint?`: the same, refusing an overhang that is out of bounds
-/

namespace PromptLoop.Terminal

/-- The rows that a text takes on a terminal; one where the width of the terminal is unknown. -/
def rowsOf (columns : Int) (width : Nat) : Int :=
  if columns ≤ 0 then 1 else Int.fdiv width columns + 1

/-- Paints the row of the cursor again, `overhang` characters more than the line itself. -/
def repaint (prompt code : List Char) (overhang columns : Int) (family : Family) : List Char :=
  let rows := rowsOf columns ((visible prompt).length + code.length)
  up rows family ++ withoutMarks prompt ++ code ++ Padding.blanks overhang ++
    down rows family

/-- Paints the row of the cursor again, unless the overhang is out of bounds; a negative one counts
as none. -/
def repaint? (prompt code : List Char) (overhang columns : Int) (family : Family)
    (memory : Nat := Padding.usualMemory) : Except Failure (List Char) :=
  (Padding.length? memory (max overhang 0)).map fun _ =>
    repaint prompt code overhang columns family

end PromptLoop.Terminal
