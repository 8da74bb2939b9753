import PromptLoop.Proofs.Indent.ColonLines

/-!
# Lines that may leave nothing open

What a line has opened is closed by another line, and most lines cannot close the last construct
that is open. Those that may start with a keyword that continues or leaves a block, have a closing
token, or are written with less than one level of indentation.

## Main definitions

* `IndentRules.MayClose`: a line that may close the last construct that is open

## Main results

* `Constructs.after_ne_nil`: tokens that leave something open
* `Tracker.indentLine_ne_nil`: so does any other line where something is open
* `Tracker.indentLine_ne_nil_of_endsInColon`: and a line that ends in a colon where nothing is
* `Tracker.exists_mayClose`: what lines have opened is left open until one of the sort comes
-/

namespace PromptLoop

open Text

/-- A line that may close the last construct that is open. -/
def IndentRules.MayClose (rules : IndentRules) (width : Int) (line : List Char) : Prop :=
  startsWith rules.midKeywords (tokens (trim line)) = true ∨
    startsWith rules.dedentAfter (tokens (trim line)) = true ∨
    (∃ t ∈ tokens (trim line), isCloser rules t = true) ∨
    (trim line ≠ [] ∧ 0 < leadingBlanks line ∧ (leadingBlanks line : Int) < width)

namespace Constructs

variable {rules : IndentRules} {stack : Constructs} {ts : List Token}

/-! ## The tokens of a line -/

/-- A token that closes nothing leaves something open. -/
theorem afterToken_ne_nil {t : Token} (h : isCloser rules t = false) (hopen : stack ≠ [])
    (first : Option String) (previous : Option Token) :
    stack.afterToken rules first previous t ≠ [] := by
  rw [isCloser, Bool.or_eq_false_iff] at h
  obtain ⟨hword, hpunct⟩ := h
  rw [afterToken]
  split
  · next hkind =>
    rw [hkind] at hpunct
    rw [afterPunct]
    split
    · exact List.cons_ne_nil _ _
    · -- A bracket that closes another is a closing token.
      have hnone : rules.opener? t.text = none := by
        simpa [IndentRules.closesBracket] using hpunct
      rw [hnone]
      exact hopen
  · next hkind =>
    rw [hkind] at hword
    split
    · exact hopen
    · rw [afterKeyword]
      split
      · split
        · exact List.cons_ne_nil _ _
        · exact hopen
      · split
        · split
          · exact hopen
          · exact List.cons_ne_nil _ _
        · rw [if_neg (by simpa using hword)]
          exact hopen
  · exact hopen
  · exact hopen

theorem afterTokens_ne_nil (h : ∀ t ∈ ts, isCloser rules t = false) (hopen : stack ≠ [])
    (first : Option String) (previous : Option Token) :
    stack.afterTokens rules first previous ts ≠ [] := by
  induction ts generalizing previous stack with
  | nil => exact hopen
  | cons t ts ih =>
    obtain ⟨ht, hts⟩ := List.forall_mem_cons.mp h
    exact ih hts (afterToken_ne_nil ht hopen first previous) (some t)

/-- Tokens that close nothing leave something open, unless a keyword continues or leaves a
block. -/
theorem after_ne_nil (hmid : startsWith rules.midKeywords ts = false)
    (hleave : startsWith rules.dedentAfter ts = false)
    (hclosers : ∀ t ∈ ts, isCloser rules t = false) (hopen : stack ≠ []) :
    stack.after rules ts ≠ [] := by
  have hbefore : stack.beforeTokens rules ts = stack := by simp [beforeTokens, hmid]
  have htokens := afterTokens_ne_nil hclosers hopen (firstWord? ts) none
  rw [after, hbefore, atEnd, hleave]
  split
  · exact List.cons_ne_nil _ _
  · simpa using htokens

/-- A colon at the end of a line leaves something open: a block, or the bracket that it is in. -/
theorem after_ne_nil_of_endsInColon (hrules : rules.colonBlocks = true)
    (hplain : rules.opensBracket colon = false) (hcolon : endsInColon ts = true)
    (stack : Constructs) : stack.after rules ts ≠ [] := by
  rw [endsInColon] at hcolon
  rw [after, atEnd]
  rcases afterTokens rules (firstWord? ts) none ts (beforeTokens rules ts stack) with _ | ⟨m, rest⟩
  · simp [hrules, hcolon, inBracket]
  · by_cases hm : rules.opensBracket m = true
    · -- A bracket is no block, so no keyword leaves it.
      have hne : m ≠ colon := by
        rintro rfl
        rw [hplain] at hm
        cases hm
      simp [inBracket, inColonBlock, hm, hne]
    · simp [hrules, hcolon, inBracket, hm]

/-! ## The indentation of a line -/

/-- The outermost construct is not closed by a line that is indented by a level. -/
theorem closeTo_ne_nil {level : Int} (h : 1 ≤ level) (hopen : stack ≠ []) :
    stack.closeTo level ≠ [] := by
  induction stack with
  | nil => exact absurd rfl hopen
  | cons marker rest ih =>
    rw [closeTo]
    split
    · next hclose =>
      apply ih
      rintro rfl
      simp at hclose
      omega
    · exact List.cons_ne_nil _ _

theorem resync_ne_nil {width : Int} {leading : Nat} (hwidth : 0 < width)
    (h : leading = 0 ∨ width ≤ leading) (hopen : stack ≠ []) :
    stack.resync rules width leading ts ≠ [] := by
  rw [resync]
  split
  · next hheeds =>
    have hleading : width ≤ leading := by
      apply h.resolve_left
      rintro rfl
      simp [heedsIndentation] at hheeds
    have hlevel : 1 ≤ Int.fdiv leading width := by
      rw [Int.fdiv_eq_ediv_of_nonneg _ (Int.le_of_lt hwidth), Int.le_ediv_iff_mul_le hwidth,
        Int.one_mul]
      exact hleading
    apply closeTo_ne_nil _ hopen
    rw [writtenLevel]
    split
    · omega
    · omega
  · exact hopen

end Constructs

namespace Tracker

variable {t : Tracker} {line : List Char} {ls : List (List Char)}

/-- **A line leaves something open where something is open**, unless it may close the last
construct. -/
theorem indentLine_ne_nil (hwidth : 0 < t.width) (h : ¬ t.rules.MayClose t.width line)
    (hopen : t.stack ≠ []) : (t.indentLine line).2.stack ≠ [] := by
  simp only [IndentRules.MayClose, not_or, not_exists, not_and, Bool.not_eq_true] at h
  obtain ⟨hmid, hleave, hclosers, hindented⟩ := h
  rw [indentLine]
  split
  · exact hopen
  · next hcode =>
    have hlevel := hindented (by simpa using hcode)
    apply Constructs.after_ne_nil hmid hleave hclosers
    apply Constructs.resync_ne_nil hwidth _ hopen
    omega

/-- **A line that ends in a colon leaves something open.** -/
theorem indentLine_ne_nil_of_endsInColon (hrules : t.rules.colonBlocks = true)
    (hplain : t.rules.opensBracket colon = false) (h : endsInColon (tokens (trim line)) = true) :
    (t.indentLine line).2.stack ≠ [] := by
  rw [indentLine]
  split
  · next hblank =>
    rw [List.isEmpty_iff.mp hblank] at h
    cases h
  · exact Constructs.after_ne_nil_of_endsInColon hrules hplain h _

/-- **What is open is left open until a line comes that may close it.** -/
theorem exists_mayClose (hwidth : 0 < t.width) (hopen : t.stack ≠ [])
    (hclosed : (t.indentLines ls).2.stack = []) : ∃ line ∈ ls, t.rules.MayClose t.width line := by
  -- by induction on the lines: one that may not close anything leaves the tracker as open as before
  induction ls generalizing t with
  | nil => exact absurd hclosed hopen
  | cons line ls ih =>
    by_cases hline : t.rules.MayClose t.width line
    · exact ⟨line, List.mem_cons_self, hline⟩
    · have hnext := indentLine_ne_nil hwidth hline hopen
      rw [indentLines_cons] at hclosed
      obtain ⟨closing, hmem, hcloses⟩ := ih (by rwa [indentLine_width]) hnext hclosed
      rw [indentLine_rules, indentLine_width] at hcloses
      exact ⟨closing, List.mem_cons_of_mem line hmem, hcloses⟩

end Tracker

end PromptLoop
