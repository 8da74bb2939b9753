import PromptLoop.Act
import PromptLoop.Indent.Constructs
import PromptLoop.Padding
import PromptLoop.Text.Lines

/-!
# The indentation tracker

A tracker follows the constructs opened across the lines of a buffer. It answers which indentation
the next line should start with, and how a submitted line should have been indented.

## Main definitions

* `Tracker`: the rules, the width of a level and the open constructs
* `Tracker.currentPrefix`: the indentation the next line should start with
* `Tracker.indentLine`, `Tracker.indent`: a line, and a text of several lines, re-indented
* `Tracker.currentPrefix?`, `Tracker.indent?`: the same, refusing to divide by a width of zero and
  to write more blanks than a text holds

## Main results

* `Tracker.indentLines_append`: a text is indented line by line
* `Tracker.indent?_eq`: where no line is refused, a text is indented as it is without refusals
-/

namespace PromptLoop

open Text

/-- What follows the constructs of one buffer. -/
structure Tracker where
  rules : IndentRules := .closingKeyword
  /-- Columns per level; a negative width indents like zero. -/
  width : Int := 2
  /-- How many blanks memory holds. -/
  memory : Nat := Padding.usualMemory
  /-- The open constructs, innermost first. -/
  stack : Constructs := []
  deriving DecidableEq, Repr

namespace Tracker

/-- Forgets every open construct. -/
def reset (t : Tracker) : Tracker := { t with stack := [] }

/-- How many constructs are open. -/
def depth (t : Tracker) : Nat := t.stack.length

/-- Indentation of a number of levels. -/
def indentation (width : Int) (depth : Nat) : List Char := Padding.blanks (width * depth)

/-- The indentation the next line should start with. -/
def currentPrefix (t : Tracker) : List Char := indentation t.width t.depth

/-- The open constructs once the explicit indentation of a line is taken into account. -/
def resynced (t : Tracker) (line : List Char) : Constructs :=
  t.stack.resync t.rules t.width (leadingBlanks line) (tokens (trim line))

/-- The depth of a line that is not blank: what its own leading closers or keyword leave of the open
constructs. -/
def lineDepth (t : Tracker) (line : List Char) : Nat :=
  let stack := t.resynced line
  stack.length - stack.leadingDedent t.rules (tokens (trim line))

/-- A line re-indented to its depth, and the tracker after it. A blank line is emptied and changes
nothing. -/
def indentLine (t : Tracker) (line : List Char) : List Char × Tracker :=
  let code := trim line
  if code.isEmpty then ([], t)
  else
    (indentation t.width (t.lineDepth line) ++ code,
      { t with stack := (t.resynced line).after t.rules (tokens code) })

/-- Lines re-indented one after the other. -/
def indentLines : Tracker → List (List Char) → List (List Char) × Tracker
  | t, [] => ([], t)
  | t, line :: rest =>
    ((t.indentLine line).1 :: (indentLines (t.indentLine line).2 rest).1,
      (indentLines (t.indentLine line).2 rest).2)

/-- A text re-indented line by line, and the tracker after it. -/
def indent (t : Tracker) (text : List Char) : List Char × Tracker :=
  (joinLines (t.indentLines (splitLines text)).1, (t.indentLines (splitLines text)).2)

/-- What a division by a width of zero raises. -/
def zeroWidth : Failure := .saying .zeroDivision "integer division or modulo by zero"

/-- The indentation of a line would be divided by a width of zero. -/
def divides (t : Tracker) (line : List Char) : Bool :=
  !(trim line).isEmpty && t.stack.heedsIndentation t.rules (leadingBlanks line)

variable {ε : Type}

/-- The length of the indentation the next line should start with, unless it is out of bounds. -/
def prefixLength? (t : Tracker) : Except Failure Nat :=
  Padding.length? t.memory (t.width * t.depth)

/-- The indentation the next line should start with, unless it is out of bounds. -/
def currentPrefix? (t : Tracker) : Except Failure (List Char) :=
  Padding.blanks? t.memory (t.width * t.depth)

/-- A line re-indented, unless its indentation would be divided by zero or is out of bounds; in the
second case the constructs that it has dedented out of are closed already. -/
def indentLine? (line : List Char) : Act ε Tracker (List Char) := fun t =>
  if (trim line).isEmpty then ⟨.ok [], t, []⟩
  else if t.width = 0 ∧ t.divides line then ⟨.error zeroWidth, t, []⟩
  else
    match Padding.blanks? t.memory (t.width * t.lineDepth line) with
    | .error f => ⟨.error f, { t with stack := t.resynced line }, []⟩
    | .ok blanks => ⟨.ok (blanks ++ trim line), (t.indentLine line).2, []⟩

/-- Lines re-indented one after the other, up to the first that is refused. -/
def indentLines? : List (List Char) → Act ε Tracker (List (List Char))
  | [] => pure []
  | line :: rest => do
    let first ← indentLine? line
    return first :: (← indentLines? rest)

/-- A text re-indented line by line, up to the first line that is refused. -/
def indent? (text : List Char) : Act ε Tracker (List Char) := do
  return joinLines (← indentLines? (splitLines text))

/-- A line that is not refused: it is blank, or its indentation is not divided by zero and is within
the bounds. -/
def Accepts (t : Tracker) (line : List Char) : Prop :=
  (trim line).isEmpty = true ∨
    (t.width = 0 → t.divides line = false) ∧ Padding.Fits t.memory (t.width * t.lineDepth line)

/-- Lines of which none is refused. -/
def AcceptsAll (t : Tracker) : List (List Char) → Prop
  | [] => True
  | line :: rest => t.Accepts line ∧ (t.indentLine line).2.AcceptsAll rest

@[simp] theorem reset_rules (t : Tracker) : t.reset.rules = t.rules := rfl

@[simp] theorem reset_width (t : Tracker) : t.reset.width = t.width := rfl

@[simp] theorem reset_memory (t : Tracker) : t.reset.memory = t.memory := rfl

@[simp] theorem reset_stack (t : Tracker) : t.reset.stack = [] := rfl

@[simp] theorem indentation_zero (width : Int) : indentation width 0 = [] := by simp [indentation]

/-- Nothing is open, so nothing is indented. -/
theorem currentPrefix_of_stack_eq_nil {t : Tracker} (h : t.stack = []) : t.currentPrefix = [] := by
  simp [currentPrefix, depth, h]

@[simp] theorem indentLine_rules (t : Tracker) (line : List Char) :
    (t.indentLine line).2.rules = t.rules := by
  simp only [indentLine]; split <;> rfl

@[simp] theorem indentLine_width (t : Tracker) (line : List Char) :
    (t.indentLine line).2.width = t.width := by
  simp only [indentLine]; split <;> rfl

@[simp] theorem indentLine_memory (t : Tracker) (line : List Char) :
    (t.indentLine line).2.memory = t.memory := by
  simp only [indentLine]; split <;> rfl

@[simp] theorem indentLines_nil (t : Tracker) : t.indentLines [] = ([], t) := rfl

theorem indentLines_cons (t : Tracker) (line : List Char) (rest : List (List Char)) :
    t.indentLines (line :: rest) =
      ((t.indentLine line).1 :: ((t.indentLine line).2.indentLines rest).1,
        ((t.indentLine line).2.indentLines rest).2) := rfl

/-- A text is indented line by line. -/
theorem indentLines_append (t : Tracker) (ls ms : List (List Char)) :
    t.indentLines (ls ++ ms) =
      ((t.indentLines ls).1 ++ ((t.indentLines ls).2.indentLines ms).1,
        ((t.indentLines ls).2.indentLines ms).2) := by
  induction ls generalizing t with
  | nil => simp
  | cons l ls ih => simp [indentLines_cons, ih]

@[simp] theorem indentLines_length (t : Tracker) (ls : List (List Char)) :
    (t.indentLines ls).1.length = ls.length := by
  induction ls generalizing t with
  | nil => rfl
  | cons l ls ih => simp [indentLines_cons, ih]

@[simp] theorem indentLines_rules (t : Tracker) (ls : List (List Char)) :
    (t.indentLines ls).2.rules = t.rules := by
  induction ls generalizing t with
  | nil => rfl
  | cons l ls ih => simp [indentLines_cons, ih]

@[simp] theorem indentLines_width (t : Tracker) (ls : List (List Char)) :
    (t.indentLines ls).2.width = t.width := by
  induction ls generalizing t with
  | nil => rfl
  | cons l ls ih => simp [indentLines_cons, ih]

@[simp] theorem indentLines_memory (t : Tracker) (ls : List (List Char)) :
    (t.indentLines ls).2.memory = t.memory := by
  induction ls generalizing t with
  | nil => rfl
  | cons l ls ih => simp [indentLines_cons, ih]

theorem currentPrefix?_eq {t : Tracker} (h : Padding.Fits t.memory (t.width * t.depth)) :
    t.currentPrefix? = .ok t.currentPrefix := Padding.blanks?_eq h

/-- With nothing open the indentation is never out of bounds. -/
theorem currentPrefix?_of_stack_eq_nil {t : Tracker} (h : t.stack = []) :
    t.currentPrefix? = .ok [] := by
  have hfits : Padding.Fits t.memory (t.width * t.depth) := by
    simpa [depth, h] using Padding.Fits.zero t.memory
  rw [currentPrefix?_eq hfits, currentPrefix_of_stack_eq_nil h]

theorem indentLine?_eq {t : Tracker} {line : List Char} (h : t.Accepts line) :
    (indentLine? line : Act ε Tracker (List Char)) t =
      ⟨.ok (t.indentLine line).1, (t.indentLine line).2, []⟩ := by
  by_cases hb : (trim line).isEmpty = true
  · simp [indentLine?, indentLine, hb]
  · obtain ⟨hwidth, hfits⟩ := h.resolve_left hb
    have hz : ¬(t.width = 0 ∧ t.divides line = true) := fun hz => by simp [hwidth hz.1] at hz
    simp [indentLine?, indentLine, hb, hz, Padding.blanks?_eq hfits, indentation]

theorem indentLines?_eq {t : Tracker} {ls : List (List Char)} (h : t.AcceptsAll ls) :
    (indentLines? ls : Act ε Tracker (List (List Char))) t =
      ⟨.ok (t.indentLines ls).1, (t.indentLines ls).2, []⟩ := by
  induction ls generalizing t with
  | nil => rfl
  | cons l ls ih =>
    simp [indentLines?, indentLines_cons, Act.bind_apply, Act.map_apply, indentLine?_eq h.1, ih h.2,
      Run.after, Except.map]

/-- Where no line is refused, a text is indented as it is without refusals. -/
theorem indent?_eq {t : Tracker} {text : List Char} (h : t.AcceptsAll (splitLines text)) :
    (indent? text : Act ε Tracker (List Char)) t =
      ⟨.ok (t.indent text).1, (t.indent text).2, []⟩ := by
  simp [indent?, indent, Act.map_apply, indentLines?_eq h, Except.map]

end Tracker

end PromptLoop
