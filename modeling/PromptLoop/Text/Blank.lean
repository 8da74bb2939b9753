import PromptLoop.Text.Ranges

/-!
# Blank characters

Blank space as lines, prompts and settings see it: the Unicode white space of every script together
with the four separator controls U+001C to U+001F.

## Main definitions

* `isBlank`: the class
* `trimStart`, `trimEnd`, `trim`: a text without the blanks at its start, its end, or both
* `words`: the blank-separated words of a text
* `cutWord`: the first word and the text that follows it

## Main results

* `trim_eq_nil_iff`: only blanks trim to nothing
-/

namespace PromptLoop.Text

/-- Code points of blank space. -/
def blankRanges : List (Nat × Nat) :=
  [(0x09, 0x0D), (0x1C, 0x20), (0x85, 0x85), (0xA0, 0xA0), (0x1680, 0x1680), (0x2000, 0x200A),
   (0x2028, 0x2029), (0x202F, 0x202F), (0x205F, 0x205F), (0x3000, 0x3000)]

/-- Blank space of any script. -/
def isBlank (c : Char) : Bool := inRanges blankRanges c.toNat

/-- A text without the characters of a class at its end. -/
def dropEndWhile (p : Char → Bool) (cs : List Char) : List Char :=
  (cs.reverse.dropWhile p).reverse

/-- A text without the blanks at its start. -/
def trimStart (cs : List Char) : List Char := cs.dropWhile isBlank

/-- A text without the blanks at its end. -/
def trimEnd (cs : List Char) : List Char := dropEndWhile isBlank cs

/-- A text without the blanks around it. -/
def trim (cs : List Char) : List Char := trimEnd (trimStart cs)

/-- How many blanks a text starts with. -/
def leadingBlanks (cs : List Char) : Nat := (cs.takeWhile isBlank).length

/-- The first word of a text and what follows it, both without blanks in front; `none` when the
text is blank. -/
def cutWord (cs : List Char) : Option (List Char × List Char) :=
  match trimStart cs with
  | [] => none
  | c :: rest =>
    some ((c :: rest).takeWhile (!isBlank ·), trimStart ((c :: rest).dropWhile (!isBlank ·)))

/-- Adds a character to the words that follow it: a blank closes the word in progress. -/
def addToWords (c : Char) : List Char × List (List Char) → List Char × List (List Char)
  | (word, rest) =>
    if isBlank c then ([], if word.isEmpty then rest else word :: rest) else (c :: word, rest)

/-- The blank-separated words of a text. -/
def words (cs : List Char) : List (List Char) :=
  match cs.foldr addToWords ([], []) with
  | (word, rest) => if word.isEmpty then rest else word :: rest

@[simp] theorem trimStart_nil : trimStart [] = [] := rfl

@[simp] theorem trim_nil : trim [] = [] := rfl

/-- A text splits into its leading blanks and the rest. -/
theorem leadingBlanks_add_trimStart (cs : List Char) :
    leadingBlanks cs + (trimStart cs).length = cs.length := by
  rw [leadingBlanks, trimStart, ← List.length_append, List.takeWhile_append_dropWhile]

theorem dropWhile_eq_nil_iff {p : Char → Bool} {cs : List Char} :
    cs.dropWhile p = [] ↔ ∀ c ∈ cs, p c = true := by
  induction cs with
  | nil => simp
  | cons c cs ih => by_cases h : p c = true <;> simp [h, ih]

theorem dropEndWhile_eq_nil_iff {p : Char → Bool} {cs : List Char} :
    dropEndWhile p cs = [] ↔ ∀ c ∈ cs, p c = true := by
  rw [dropEndWhile, List.reverse_eq_nil_iff, dropWhile_eq_nil_iff]
  exact ⟨fun h c hc => h c (List.mem_reverse.mpr hc), fun h c hc => h c (List.mem_reverse.mp hc)⟩

/-- Only blanks trim to nothing. -/
theorem trim_eq_nil_iff {cs : List Char} : trim cs = [] ↔ ∀ c ∈ cs, isBlank c = true := by
  rw [trim, trimEnd, dropEndWhile_eq_nil_iff, trimStart]
  constructor
  · intro h c hc
    rw [← List.takeWhile_append_dropWhile (p := isBlank) (l := cs), List.mem_append] at hc
    rcases hc with hc | hc
    · exact List.all_eq_true.mp List.all_takeWhile c hc
    · exact h c hc
  · exact fun h c hc => h c (List.dropWhile_sublist _ |>.subset hc)

end PromptLoop.Text
