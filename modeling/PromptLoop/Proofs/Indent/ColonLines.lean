import PromptLoop.Proofs.Indent.Program
import PromptLoop.Proofs.Text.Blank

/-!
# Lines of colon block code

Where colons open blocks and every line closes the brackets that it opens, the constructs that stay
open from line to line are colon blocks and nothing else. How many of them there are is then all
that a tracker knows, and a line changes that number by its kind alone.

## Main definitions

* `LineKind`: what a line of colon block code is, by its tokens
* `LineKind.leaves`: how many blocks are open after a line
* `CodeLine`: a line of colon block code
* `Blocks.found`, `Blocks.shown`, `Blocks.next`: a tracker that only counts its blocks
* `Blocks.foundIn`, `Blocks.shownIn`, `Blocks.nextIn`: the same for lines in units of their own
* `written`, `written?`: a line at its level, as it is written and as it is given back

## Main results

* `resync_blocks`: explicit indentation leaves as many blocks open as it has levels
* `CodeLine.after_blocks`: the blocks after a line, by its kind
* `Blocks.indentLine_units`, `Blocks.indentLine?_units`: a tracker does with a line what one that
  only counts does
* `Blocks.shownAllIn_self`: in units of the tracker's width the two that count do the same
-/

namespace PromptLoop

open Text

/-- A line that ends in a colon. -/
def endsInColon (ts : List Token) : Bool := ts.getLast?.any (·.text == colon)

/-- What a line of colon block code is. -/
inductive LineKind
  /-- Opens a block. -/
  | header
  /-- Ends a block and opens another that belongs to the same header. -/
  | clause
  | simple
  /-- A simple line after which its block is left. -/
  | leaving
  deriving DecidableEq, Repr

namespace LineKind

/-- The kind of a line, by its tokens. -/
def of (ts : List Token) : LineKind :=
  if endsInColon ts then
    if startsWith IndentRules.colonBlock.midKeywords ts then .clause else .header
  else if startsWith IndentRules.colonBlock.dedentAfter ts then .leaving else .simple

/-- How many levels a line stands out of the blocks that it finds open. -/
def out : LineKind → Nat
  | .clause => 1
  | _ => 0

/-- How many blocks are open after a line that finds `n` of them open. -/
def leaves (n : Nat) : LineKind → Nat
  | .header => n + 1
  | .clause => n - 1 + 1
  | .simple => n
  | .leaving => n - 1

end LineKind

/-- A line of colon block code: it is not blank, it closes the brackets that it opens, and a keyword
that continues a block opens another. -/
structure CodeLine extends Line where
  code_ne_nil : toLine.code ≠ []
  balanced : Balanced {} toLine.tokens
  opens_of_mid : startsWith IndentRules.colonBlock.midKeywords toLine.tokens = true →
    endsInColon toLine.tokens = true

/-- The kind of a line. -/
def CodeLine.kind (line : CodeLine) : LineKind := .of line.tokens

/-! ## The constructs that colon block code leaves open -/

/-- Open colon blocks, as many as are given. -/
def blocks (n : Nat) : Constructs := List.replicate n colon

section Blocks

variable {ts : List Token} {n : Nat}

@[simp] theorem blocks_length (n : Nat) : (blocks n).length = n := List.length_replicate

@[simp] theorem blocks_tail (n : Nat) : (blocks n).tail = blocks (n - 1) := List.tail_replicate

theorem blocks_succ (n : Nat) : blocks (n + 1) = colon :: blocks n := rfl

/-- A colon block is no bracket. -/
theorem blocks_inBracket (n : Nat) : (blocks n).inBracket .colonBlock = false := by
  cases n with
  | zero => rfl
  | succ n => exact (by decide : IndentRules.colonBlock.opensBracket colon = false)

/-- Without an open block, leaving the innermost one changes nothing. -/
theorem blocks_leave (n : Nat) :
    (if (blocks n).inColonBlock then (blocks n).tail else blocks n) = blocks (n - 1) := by
  cases n with
  | zero => rfl
  | succ n =>
    have hopen : (blocks (n + 1)).inColonBlock = true := rfl
    rw [if_pos hopen, blocks_tail]

theorem closeTo_blocks (level n : Nat) :
    (blocks n).closeTo (level : Int) = blocks (min n level) := by
  -- by induction on the open blocks: the innermost one is closed if it is above the level
  induction n with
  | zero => rw [Nat.zero_min]; rfl
  | succ n ih =>
    rw [blocks_succ, Constructs.closeTo, blocks_length]
    by_cases hclose : (level : Int) < n + 1
    · rw [if_pos ⟨hclose, rfl⟩, ih]
      congr 1
      omega
    · rw [if_neg fun h => hclose h.1, ← blocks_succ]
      congr 1
      omega

/-- **Explicit indentation leaves as many blocks open as it has levels**, and one more before a
keyword that continues a block. -/
theorem resync_blocks (width leading n : Nat) (ts : List Token) :
    (blocks n).resync .colonBlock width leading ts =
      blocks (if leading = 0 then n else min n (leading / width +
        if startsWith IndentRules.colonBlock.midKeywords ts then 1 else 0)) := by
  unfold Constructs.resync Constructs.heedsIndentation
  rw [blocks_inBracket]
  by_cases hleading : leading = 0
  · subst hleading
    rfl
  · have hheeds : (leading != 0 && IndentRules.colonBlock.colonBlocks && !false) = true := by
      rw [Bool.and_eq_true, Bool.and_eq_true]
      exact ⟨⟨bne_iff_ne.mpr hleading, rfl⟩, rfl⟩
    have hlevel : Constructs.writtenLevel .colonBlock width leading ts =
        ((leading / width + if startsWith IndentRules.colonBlock.midKeywords ts then 1 else 0 :
          Nat) : Int) := by
      rw [Constructs.writtenLevel, Int.natCast_add, Int.natCast_ediv, Int.fdiv_eq_ediv_of_nonneg]
      · split <;> rfl
      · exact Int.natCast_nonneg width
    rw [if_pos hheeds, if_neg hleading, hlevel, closeTo_blocks]

/-- Keywords that continue or leave a block change nothing within a line, so brackets that close one
another are all that counts there. -/
theorem afterTokens_colonBlock {first : Option String} {previous : Option Token}
    {stack : Constructs} (h : Balanced {} ts) :
    Constructs.afterTokens .colonBlock first previous ts stack = stack := by
  have hsame : ∀ (us : List Token) (p : Option Token) (s : Constructs),
      Constructs.afterTokens .colonBlock first p us s = Constructs.afterTokens {} first p us s := by
    intro us
    induction us with
    | nil => intro p s; rfl
    | cons t us ih => intro p s; exact ih (some t) _
  rw [hsame, h.afterTokens]

theorem takeWhile_isCloser_colonBlock (h : Balanced {} ts) :
    ts.takeWhile (isCloser .colonBlock) = [] := by
  have hnone : (ts ++ []).takeWhile (isCloser {}) = [] := h.takeWhile_isCloser rfl
  rwa [List.append_nil] at hnone

end Blocks

namespace CodeLine

variable (line : CodeLine)

/-- Only a keyword that continues a block makes a line stand out of the open blocks. -/
theorem out_kind : line.kind.out =
    if startsWith IndentRules.colonBlock.midKeywords line.tokens then 1 else 0 := by
  unfold kind LineKind.of
  by_cases hmid : startsWith IndentRules.colonBlock.midKeywords line.tokens = true
  · rw [if_pos hmid, if_pos (line.opens_of_mid hmid), if_pos hmid]
    rfl
  · rw [if_neg hmid, if_neg hmid]
    split
    · rfl
    · split <;> rfl

theorem leadingDedent_blocks (n : Nat) :
    (blocks n).leadingDedent .colonBlock line.tokens = min line.kind.out n := by
  rw [Constructs.leadingDedent, blocks_length, takeWhile_isCloser_colonBlock line.balanced,
    out_kind]
  split <;> rfl

/-- The blocks that are open after a line, by its kind. -/
theorem after_blocks (n : Nat) :
    (blocks n).after .colonBlock line.tokens = blocks (line.kind.leaves n) := by
  have hbracket : ∀ m, (!(blocks m).inBracket .colonBlock) = true := by
    intro m
    rw [blocks_inBracket]
    rfl
  rw [Constructs.after, afterTokens_colonBlock line.balanced]
  unfold kind LineKind.of
  by_cases hcolon : endsInColon line.tokens = true
  · -- Whatever was closed before the line's own tokens, the colon at its end opens a block.
    have hend : ∀ m, (blocks m).atEnd .colonBlock line.tokens = blocks (m + 1) := by
      intro m
      rw [Constructs.atEnd, hbracket, Bool.and_true, if_pos]
      · rfl
      · exact hcolon
    rw [if_pos hcolon]
    by_cases hmid : startsWith IndentRules.colonBlock.midKeywords line.tokens = true
    · have hbefore : (blocks n).beforeTokens .colonBlock line.tokens = blocks (n - 1) := by
        rw [Constructs.beforeTokens, hmid]
        exact blocks_leave n
      rw [if_pos hmid, hbefore, hend]
      rfl
    · have hbefore : (blocks n).beforeTokens .colonBlock line.tokens = blocks n := by
        rw [Bool.not_eq_true] at hmid
        rw [Constructs.beforeTokens, hmid]
        rfl
      rw [if_neg hmid, hbefore, hend]
      rfl
  · -- Without a colon at its end the line starts with no keyword that continues a block.
    have hmid : startsWith IndentRules.colonBlock.midKeywords line.tokens = false := by
      rw [← Bool.not_eq_true]
      exact fun hmid => hcolon (line.opens_of_mid hmid)
    have hbefore : (blocks n).beforeTokens .colonBlock line.tokens = blocks n := by
      rw [Constructs.beforeTokens, hmid]
      rfl
    rw [if_neg hcolon, hbefore, Constructs.atEnd, if_neg]
    · by_cases hleaves : startsWith IndentRules.colonBlock.dedentAfter line.tokens = true
      · rw [if_pos hleaves, hleaves, Bool.true_and]
        exact blocks_leave n
      · rw [if_neg hleaves]
        rw [Bool.not_eq_true] at hleaves
        rw [hleaves]
        rfl
    · intro hopens
      rw [Bool.and_eq_true, Bool.and_eq_true] at hopens
      exact hcolon hopens.1.2

end CodeLine

/-! ## A tracker that only counts its blocks -/

namespace Blocks

/-- The blocks that are open once the explicit indentation of a line is taken into account. Without
any the line counts as typed at the prompt, whose indentation is there already. -/
def found (n : Nat) : Nat × CodeLine → Nat
  | (level, line) => if level = 0 then n else min n (level + line.kind.out)

/-- A line with the level that it is given. -/
def shown (n : Nat) (l : Nat × CodeLine) : Nat × CodeLine := (found n l - l.2.kind.out, l.2)

/-- The blocks that are open after a line. -/
def next (n : Nat) (l : Nat × CodeLine) : Nat := l.2.kind.leaves (found n l)

/-- Lines with the levels that they are given. -/
def shownAll : Nat → List (Nat × CodeLine) → List (Nat × CodeLine)
  | _, [] => []
  | n, l :: ls => shown n l :: shownAll (next n l) ls

/-- The blocks that are open after lines. -/
def nextAll (n : Nat) (ls : List (Nat × CodeLine)) : Nat := ls.foldl next n

@[simp] theorem nextAll_nil (n : Nat) : nextAll n [] = n := rfl

@[simp] theorem nextAll_cons (n : Nat) (l : Nat × CodeLine) (ls : List (Nat × CodeLine)) :
    nextAll n (l :: ls) = nextAll (next n l) ls := rfl

@[simp] theorem nextAll_append (n : Nat) (ls ms : List (Nat × CodeLine)) :
    nextAll n (ls ++ ms) = nextAll (nextAll n ls) ms := List.foldl_append ..

@[simp] theorem shownAll_nil (n : Nat) : shownAll n [] = [] := rfl

@[simp] theorem shownAll_cons (n : Nat) (l : Nat × CodeLine) (ls : List (Nat × CodeLine)) :
    shownAll n (l :: ls) = shown n l :: shownAll (next n l) ls := rfl

@[simp] theorem shownAll_append (n : Nat) (ls ms : List (Nat × CodeLine)) :
    shownAll n (ls ++ ms) = shownAll n ls ++ shownAll (nextAll n ls) ms := by
  induction ls generalizing n with
  | nil => rfl
  | cons l ls ih => rw [List.cons_append, shownAll_cons, ih]; rfl

/-! Lines may be written in units of their own. A level is then as many blanks as the unit says, and
counts for as many levels as the width goes into those. -/

/-- The blocks that are open once the explicit indentation of a line is taken into account. -/
def foundIn (unit width n : Nat) : Nat × CodeLine → Nat
  | (level, line) => if unit * level = 0 then n else min n (unit * level / width + line.kind.out)

/-- A line with the level that it is given. -/
def shownIn (unit width n : Nat) (l : Nat × CodeLine) : Nat × CodeLine :=
  (foundIn unit width n l - l.2.kind.out, l.2)

/-- The blocks that are open after a line. -/
def nextIn (unit width n : Nat) (l : Nat × CodeLine) : Nat :=
  l.2.kind.leaves (foundIn unit width n l)

/-- Lines with the levels that they are given. -/
def shownAllIn (unit width : Nat) : Nat → List (Nat × CodeLine) → List (Nat × CodeLine)
  | _, [] => []
  | n, l :: ls => shownIn unit width n l :: shownAllIn unit width (nextIn unit width n l) ls

/-- The blocks that are open after lines. -/
def nextAllIn (unit width n : Nat) (ls : List (Nat × CodeLine)) : Nat :=
  ls.foldl (nextIn unit width) n

section Units

variable {unit width : Nat}

@[simp] theorem shownAllIn_nil (n : Nat) : shownAllIn unit width n [] = [] := rfl

@[simp] theorem shownAllIn_cons (n : Nat) (l : Nat × CodeLine) (ls : List (Nat × CodeLine)) :
    shownAllIn unit width n (l :: ls) =
      shownIn unit width n l :: shownAllIn unit width (nextIn unit width n l) ls := rfl

@[simp] theorem nextAllIn_nil (n : Nat) : nextAllIn unit width n [] = n := rfl

@[simp] theorem nextAllIn_cons (n : Nat) (l : Nat × CodeLine) (ls : List (Nat × CodeLine)) :
    nextAllIn unit width n (l :: ls) = nextAllIn unit width (nextIn unit width n l) ls := rfl

@[simp] theorem nextAllIn_append (n : Nat) (ls ms : List (Nat × CodeLine)) :
    nextAllIn unit width n (ls ++ ms) = nextAllIn unit width (nextAllIn unit width n ls) ms :=
  List.foldl_append ..

@[simp] theorem shownAllIn_append (n : Nat) (ls ms : List (Nat × CodeLine)) :
    shownAllIn unit width n (ls ++ ms) =
      shownAllIn unit width n ls ++ shownAllIn unit width (nextAllIn unit width n ls) ms := by
  induction ls generalizing n with
  | nil => rfl
  | cons l ls ih => rw [List.cons_append, shownAllIn_cons, ih]; rfl

/-- Levels of the width are whole, so nothing is lost in the division. -/
theorem foundIn_self (hwidth : 0 < width) (n : Nat) (l : Nat × CodeLine) :
    foundIn width width n l = found n l := by
  obtain ⟨level, line⟩ := l
  have htop : width * level = 0 ↔ level = 0 := by
    rw [Nat.mul_eq_zero]
    exact or_iff_right (Nat.ne_of_gt hwidth)
  simp only [foundIn, found, htop, Nat.mul_div_cancel_left level hwidth]

theorem shownIn_self (hwidth : 0 < width) (n : Nat) (l : Nat × CodeLine) :
    shownIn width width n l = shown n l := by
  rw [shownIn, foundIn_self hwidth, shown]

theorem nextIn_self (hwidth : 0 < width) (n : Nat) (l : Nat × CodeLine) :
    nextIn width width n l = next n l := by
  rw [nextIn, foundIn_self hwidth, next]

/-- In units of the width lines are given the levels that they have been given there. -/
theorem shownAllIn_self (hwidth : 0 < width) (n : Nat) (ls : List (Nat × CodeLine)) :
    shownAllIn width width n ls = shownAll n ls := by
  induction ls generalizing n with
  | nil => rfl
  | cons l ls ih => rw [shownAllIn_cons, shownIn_self hwidth, nextIn_self hwidth, ih, shownAll_cons]

end Units

end Blocks

/-! ## Lines written at their levels -/

/-- A line written at its level, with whatever blanks it has at its end. -/
def written (width : Int) : Nat × CodeLine → List Char
  | (level, line) => Tracker.indentation width level ++ trimStart line.chars

/-- A line at its level, without the blanks at its end, unless its indentation is out of bounds. -/
def written? (memory : Nat) (width : Int) : Nat × CodeLine → Except Failure (List Char)
  | (level, line) => (Padding.blanks? memory (width * level)).map (· ++ line.code)

theorem written?_eq (memory : Nat) (width : Int) (l : Nat × CodeLine) :
    written? memory width l = (Padding.blanks? memory (width * l.1)).map (· ++ l.2.code) := rfl

section Written

variable {width : Int} {level : Nat} (line : CodeLine)

theorem isBlank_of_mem_indentation {c : Char} (h : c ∈ Tracker.indentation width level) :
    isBlank c = true := by
  obtain rfl : c = ' ' := List.eq_of_mem_replicate h
  decide

theorem trimStart_written : trimStart (written width (level, line)) = trimStart line.chars := by
  rw [written, trimStart_append fun c => isBlank_of_mem_indentation, trimStart_trimStart]

theorem trim_written : trim (written width (level, line)) = line.code := by
  rw [trim, trimStart_written]
  rfl

theorem leadingBlanks_written :
    leadingBlanks (written width (level, line)) = (width * level).toNat := by
  have hsplit := leadingBlanks_add_trimStart (written width (level, line))
  rw [trimStart_written, written, List.length_append, Tracker.indentation,
    Padding.blanks_length] at hsplit
  exact Nat.add_right_cancel hsplit

/-- A line as it is written, without the blanks at its end. -/
theorem trimEnd_written :
    trimEnd (written width (level, line)) = Tracker.indentation width level ++ line.code :=
  trimEnd_append line.code_ne_nil _

end Written

/-! ## What a tracker does with a line at its level -/

/-- A tracker for colon blocks with some of them open. -/
def blockTracker (memory : Nat) (width : Int) (n : Nat) : Tracker :=
  ⟨.colonBlock, width, memory, blocks n⟩

namespace Blocks

variable {unit width memory : Nat} {ε : Type}

/-- **Explicit indentation closes the blocks that a line has dedented out of.** -/
theorem resynced_units (n : Nat) (l : Nat × CodeLine) :
    (blockTracker memory width n).resynced (written unit l) = blocks (foundIn unit width n l) := by
  obtain ⟨level, line⟩ := l
  have hleading : leadingBlanks (written unit (level, line)) = unit * level := by
    rw [leadingBlanks_written]
    exact Int.toNat_natCast _
  unfold Tracker.resynced
  rw [trim_written, hleading]
  show (blocks n).resync .colonBlock width (unit * level) line.tokens = _
  rw [resync_blocks, foundIn, line.out_kind]

theorem lineDepth_units (n : Nat) (l : Nat × CodeLine) :
    (blockTracker memory width n).lineDepth (written unit l) = (shownIn unit width n l).1 := by
  obtain ⟨level, line⟩ := l
  unfold Tracker.lineDepth
  rw [resynced_units, trim_written]
  show (blocks _).length - (blocks _).leadingDedent .colonBlock line.tokens = _
  rw [blocks_length, line.leadingDedent_blocks]
  show _ = foundIn unit width n (level, line) - line.kind.out
  omega

/-- **A tracker does with a line what one that only counts its blocks does.** -/
theorem indentLine_units (n : Nat) (l : Nat × CodeLine) :
    (blockTracker memory width n).indentLine (written unit l) =
      (trimEnd (written width (shownIn unit width n l)),
        blockTracker memory width (nextIn unit width n l)) := by
  have hdepth : (blockTracker memory width n).lineDepth (written unit l) = _ := lineDepth_units n l
  have hresynced : (blockTracker memory width n).resynced (written unit l) = _ := resynced_units n l
  obtain ⟨level, line⟩ := l
  have hcode : ¬line.code.isEmpty = true := by
    rw [List.isEmpty_iff]
    exact line.code_ne_nil
  unfold Tracker.indentLine
  rw [hdepth, hresynced, trim_written, if_neg hcode]
  show (Tracker.indentation width (shownIn unit width n (level, line)).1 ++ line.code,
    (⟨.colonBlock, width, memory, (blocks _).after .colonBlock line.tokens⟩ : Tracker)) = _
  rw [line.after_blocks]
  exact Prod.ext (trimEnd_written line).symm rfl

/-- The tracker that runs refuses a line where its indentation is out of bounds, and only there. A
width of zero does no harm where there is no indentation to divide. -/
theorem indentLine?_units (n : Nat) (l : Nat × CodeLine) (hwidth : 0 < width ∨ l.1 = 0) :
    (Tracker.indentLine? (written unit l) (blockTracker memory width n) :
        Run ε Tracker (List Char)) =
      match written? memory width (shownIn unit width n l) with
      | .error f => ⟨.error f, blockTracker memory width (foundIn unit width n l), []⟩
      | .ok cs => ⟨.ok cs, blockTracker memory width (nextIn unit width n l), []⟩ := by
  have hline : (blockTracker memory width n).indentLine (written unit l) = _ := indentLine_units n l
  have hdepth : (blockTracker memory width n).lineDepth (written unit l) = _ := lineDepth_units n l
  have hresynced : (blockTracker memory width n).resynced (written unit l) = _ := resynced_units n l
  obtain ⟨level, line⟩ := l
  have hcode : ¬line.code.isEmpty = true := by
    rw [List.isEmpty_iff]
    exact line.code_ne_nil
  have hzero : ¬((blockTracker memory width n).width = 0 ∧
      (blockTracker memory width n).divides (written unit (level, line)) = true) := by
    rintro ⟨hzero, hdivides⟩
    rcases hwidth with hwidth | hlevel
    · exact Nat.ne_of_gt hwidth (Int.natCast_eq_zero.mp hzero)
    · obtain rfl : level = 0 := hlevel
      have hleading : leadingBlanks (written unit (0, line)) = 0 := by
        rw [leadingBlanks_written, Int.natCast_zero, Int.mul_zero, Int.toNat_zero]
      rw [Tracker.divides, hleading, Constructs.heedsIndentation] at hdivides
      simp at hdivides
  unfold Tracker.indentLine?
  have hsame : (blockTracker memory width n).width = width := rfl
  have hmemory : (blockTracker memory width n).memory = memory := rfl
  rw [trim_written, if_neg hcode, if_neg hzero, hdepth, hresynced, hline, hsame, hmemory,
    written?_eq]
  -- How many blanks there are does not matter here, and the kernel must not compute with it.
  generalize (width : Int) * ((shownIn unit width n (level, line)).1 : Int) = count
  rcases Padding.blanks? memory count with f | blanks
  · rfl
  · rfl

end Blocks

end PromptLoop
