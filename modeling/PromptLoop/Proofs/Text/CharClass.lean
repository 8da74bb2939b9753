import PromptLoop.Indent.Token

/-!
# How character classes lie to one another

Blanks are no word characters and no digits, and the letters, digits and the underscore of ASCII are
word characters. Classes are tables of ranges, so each of these is a fact about two tables.

## Main results

* `exists_range_of_inRanges`: a code point of a table is in one of its ranges
* `isWordChar_of_isBlank`, `isDigit_of_isBlank`: what blanks are not
* `isWordChar_of_isWordPart`, `isDigit_or_isWordStart`: what ASCII letters and digits are
-/

namespace PromptLoop

open Text

variable {c : Char}

namespace Text

/-- A code point of a table is in one of its ranges. -/
theorem exists_range_of_inRanges {table : List (Nat × Nat)} {n : Nat}
    (h : inRanges table n = true) : ∃ r ∈ table, r.1 ≤ n ∧ n ≤ r.2 := by
  induction table with
  | nil => cases h
  | cons r rest ih =>
    rw [inRanges] at h
    split at h
    · cases h
    · next hlow =>
      rw [Bool.or_eq_true, decide_eq_true_eq] at h
      rcases h with hhigh | hrest
      · exact ⟨r, List.mem_cons_self, Nat.le_of_not_lt hlow, hhigh⟩
      · obtain ⟨r', hmem, hin⟩ := ih hrest
        exact ⟨r', List.mem_cons_of_mem r hmem, hin⟩

/-- A blank is no word character. -/
theorem isWordChar_of_isBlank (h : isBlank c = true) : isWordChar c = false := by
  have hapart : ∀ r ∈ blankRanges, ∀ w ∈ wordRanges, r.2 < w.1 ∨ w.2 < r.1 := by decide +kernel
  obtain ⟨r, hr, hlow, hhigh⟩ := exists_range_of_inRanges h
  rw [← Bool.not_eq_true]
  intro hword
  obtain ⟨w, hw, hlow', hhigh'⟩ := exists_range_of_inRanges hword
  have := hapart r hr w hw
  omega

/-- A blank is no digit. -/
theorem isDigit_of_isBlank (h : isBlank c = true) : isDigit c = false := by
  have hapart : ∀ r ∈ blankRanges, ∀ z ∈ decimalZeros, r.2 < z ∨ z + 9 < r.1 := by decide +kernel
  obtain ⟨r, hr, hlow, hhigh⟩ := exists_range_of_inRanges h
  rw [← Bool.not_eq_true, isDigit, digit?, Option.isSome_map, List.find?_isSome]
  rintro ⟨z, hz, hin⟩
  rw [Bool.and_eq_true, decide_eq_true_eq, decide_eq_true_eq] at hin
  have := hapart r hr z hz
  omega

end Text

namespace Scanner

theorem toNat_lt_of_isWordPart (h : isWordPart c = true) : c.toNat < 128 := by
  have hbound : ∀ last : Char, last.toNat < 128 → c.val ≤ last.val → c.toNat < 128 := by
    intro last hlast hle
    exact Nat.lt_of_le_of_lt (UInt32.le_iff_toNat_le.mp hle) hlast
  rw [isWordPart, Bool.or_eq_true, beq_iff_eq] at h
  rcases h with halphanum | rfl
  · -- Each range of letters or digits is bounded by its last character.
    have hranges : (decide (c.val ≥ 'A'.val ∧ c.val ≤ 'Z'.val) ||
        (decide (c.val ≥ 'a'.val) && decide (c.val ≤ 'z'.val)) ||
          (decide (c.val ≥ '0'.val) && decide (c.val ≤ '9'.val))) = true := halphanum
    simp only [Bool.or_eq_true, Bool.and_eq_true, decide_eq_true_eq] at hranges
    rcases hranges with (hupper | hlower) | hdigit
    · exact hbound 'Z' (by decide) hupper.2
    · exact hbound 'z' (by decide) hlower.2
    · exact hbound '9' (by decide) hdigit.2
  · decide

/-- What holds of every ASCII character holds of the letters, digits and the underscore of ASCII. -/
theorem of_isWordPart {p : Char → Prop} (h : isWordPart c = true)
    (hascii : ∀ n < 128, p (Char.ofNat n)) : p c := by
  rw [← Char.ofNat_toNat c]
  exact hascii _ (toNat_lt_of_isWordPart h)

/-- ASCII letters and digits are word characters. -/
theorem isWordChar_of_isWordPart (h : isWordPart c = true) : isWordChar c = true := by
  have hascii : ∀ n < 128, isWordPart (Char.ofNat n) = true → isWordChar (Char.ofNat n) = true := by
    decide +kernel
  exact of_isWordPart (p := fun c => isWordPart c = true → isWordChar c = true) h hascii h

/-- A character of a word is a digit, or one that starts a word. -/
theorem isDigit_or_isWordStart (h : isWordPart c = true) :
    isDigit c = true ∨ isWordStart c = true := by
  have hascii : ∀ n < 128, isWordPart (Char.ofNat n) = true →
      isDigit (Char.ofNat n) = true ∨ isWordStart (Char.ofNat n) = true := by
    decide +kernel
  exact of_isWordPart (p := fun c => isWordPart c = true → isDigit c = true ∨ isWordStart c = true)
    h hascii h

theorem isWordPart_of_isWordStart (h : isWordStart c = true) : isWordPart c = true := by
  rw [isWordStart, Bool.or_eq_true] at h
  rw [isWordPart, Char.isAlphanum, Bool.or_eq_true, Bool.or_eq_true]
  exact h.imp_left .inl

/-- A blank is no part of a word. -/
theorem isWordPart_of_isBlank (h : isBlank c = true) : isWordPart c = false := by
  rw [← Bool.not_eq_true]
  intro hpart
  have hword := isWordChar_of_isWordPart hpart
  rw [isWordChar_of_isBlank h] at hword
  cases hword

theorem isWordStart_of_isBlank (h : isBlank c = true) : isWordStart c = false := by
  rw [← Bool.not_eq_true]
  intro hstart
  have hpart := isWordPart_of_isWordStart hstart
  rw [isWordPart_of_isBlank h] at hpart
  cases hpart

end Scanner

end PromptLoop
