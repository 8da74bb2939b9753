import PromptLoop.Text.Blank

/-!
# Lines of a text

Three views of the lines of a text: split at every newline, split at every line boundary of
Unicode, and read off the front one terminated line at a time.

## Main definitions

* `splitLines`: the pieces between newlines, one more than there are newlines
* `joinLines`: pieces put together with newlines between them
* `boundaryLines`: the lines between line boundaries of any kind, their terminators dropped
* `takeLine`: the first line with its newline, and the rest
* `chomp`: a line without its terminator
* `normalizeNewlines`: every `\r\n` and `\r` turned into a newline

## Main results

* `joinLines_splitLines`: splitting loses nothing
* `not_mem_of_mem_splitLines`: the pieces have no newline
* `splitLines_joinLines`: pieces without newlines are found again
-/

namespace PromptLoop.Text

/-- The pieces of a text between newlines. -/
def splitLines : List Char → List (List Char)
  | [] => [[]]
  | c :: cs =>
    if c = '\n' then [] :: splitLines cs
    else match splitLines cs with
      | [] => [[c]]
      | line :: rest => (c :: line) :: rest

/-- Pieces put together with newlines between them. -/
def joinLines : List (List Char) → List Char
  | [] => []
  | [line] => line
  | line :: rest => line ++ '\n' :: joinLines rest

/-- The first line of a text with its newline, and the text after it. -/
def takeLine (cs : List Char) : List Char × List Char :=
  match cs.dropWhile (· != '\n') with
  | [] => (cs, [])
  | _ :: rest => (cs.takeWhile (· != '\n') ++ ['\n'], rest)

/-- A line without the newlines that end it. -/
def dropNewlines (cs : List Char) : List Char := dropEndWhile (· == '\n') cs

/-- A line without the newlines that end it, and then without the carriage returns before them. -/
def chomp (cs : List Char) : List Char := dropEndWhile (· == '\r') (dropNewlines cs)

/-- Code points that end a line: the vertical controls, the separator controls U+001C to U+001E,
the next-line control and the line and paragraph separators. -/
def boundaryRanges : List (Nat × Nat) :=
  [(0x0A, 0x0D), (0x1C, 0x1E), (0x85, 0x85), (0x2028, 0x2029)]

/-- A character that ends a line. -/
def isBoundary (c : Char) : Bool := inRanges boundaryRanges c.toNat

/-- The lines of a text between line boundaries of any kind, without their terminators. A text that
ends at a boundary has no empty line after it. -/
def boundaryLines : List Char → List (List Char)
  | [] => []
  | '\r' :: '\n' :: cs => [] :: boundaryLines cs
  | c :: cs =>
    if isBoundary c then [] :: boundaryLines cs
    else if cs.isEmpty then [[c]]
    else match boundaryLines cs with
      | [] => [[c]]
      | line :: rest => (c :: line) :: rest

/-- Every carriage return, alone or before a newline, turned into a newline. -/
def normalizeNewlines : List Char → List Char
  | [] => []
  | '\r' :: '\n' :: cs => '\n' :: normalizeNewlines cs
  | c :: cs => (if c = '\r' then '\n' else c) :: normalizeNewlines cs

@[simp] theorem splitLines_nil : splitLines [] = [[]] := rfl

theorem splitLines_ne_nil (cs : List Char) : splitLines cs ≠ [] := by
  cases cs with
  | nil => simp
  | cons c cs =>
    rw [splitLines]
    split
    · simp
    · split <;> simp

/-- The pieces have no newline. -/
theorem not_mem_of_mem_splitLines {cs line : List Char} (h : line ∈ splitLines cs) :
    '\n' ∉ line := by
  induction cs generalizing line with
  | nil =>
    obtain rfl := List.mem_singleton.mp h
    exact List.not_mem_nil
  | cons c cs ih =>
    rw [splitLines] at h
    split at h
    · rcases List.mem_cons.mp h with rfl | h
      · exact List.not_mem_nil
      · exact ih h
    · next hc =>
      obtain ⟨first, rest, hlines⟩ := List.exists_cons_of_ne_nil (splitLines_ne_nil cs)
      rw [hlines] at h ih
      rcases List.mem_cons.mp h with rfl | h
      · exact List.not_mem_cons_of_ne_of_not_mem (Ne.symm hc) (ih List.mem_cons_self)
      · exact ih (List.mem_cons_of_mem first h)

/-- Splitting loses nothing. -/
@[simp] theorem joinLines_splitLines (cs : List Char) : joinLines (splitLines cs) = cs := by
  induction cs with
  | nil => rfl
  | cons c cs ih =>
    obtain ⟨line, rest, h⟩ := List.exists_cons_of_ne_nil (splitLines_ne_nil cs)
    rw [h] at ih
    by_cases hc : c = '\n'
    · simp [splitLines, hc, h, joinLines, ih]
    · cases rest with
      | nil => simpa [splitLines, hc, h, joinLines] using ih
      | cons next rest => simpa [splitLines, hc, h, joinLines] using ih

/-- A piece without newlines in front of a newline is split off. -/
theorem splitLines_append_newline {line : List Char} (h : '\n' ∉ line) (cs : List Char) :
    splitLines (line ++ '\n' :: cs) = line :: splitLines cs := by
  induction line with
  | nil => simp [splitLines]
  | cons c line ih =>
    rw [List.mem_cons, not_or] at h
    simp [splitLines, Ne.symm h.1, ih h.2]

/-- A text without newlines is one piece. -/
theorem splitLines_of_not_mem {line : List Char} (h : '\n' ∉ line) : splitLines line = [line] := by
  induction line with
  | nil => rfl
  | cons c line ih =>
    rw [List.mem_cons, not_or] at h
    simp [splitLines, Ne.symm h.1, ih h.2]

/-- Pieces without newlines are found again. -/
theorem splitLines_joinLines {lines : List (List Char)} (hne : lines ≠ [])
    (h : ∀ line ∈ lines, '\n' ∉ line) : splitLines (joinLines lines) = lines := by
  induction lines with
  | nil => exact absurd rfl hne
  | cons line rest ih =>
    have hline := h line List.mem_cons_self
    cases rest with
    | nil => exact splitLines_of_not_mem hline
    | cons next rest =>
      rw [joinLines, splitLines_append_newline hline,
        ih (List.cons_ne_nil _ _) fun l hl => h l (List.mem_cons_of_mem _ hl)]
      simp

end PromptLoop.Text
