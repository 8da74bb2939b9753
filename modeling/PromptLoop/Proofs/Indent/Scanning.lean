import Mathlib.Data.List.Induction
import PromptLoop.Proofs.Text.Blank
import PromptLoop.Proofs.Text.CharClass

/-!
# What the reader makes of the parts of a line

The reader goes through a line once and from left to right, so where it is between two tokens the
tokens of what follows are those of a line of their own. A string literal is one token, whatever is
in it; a comment is none. A word is a token where it starts between tokens and is not continued by
another ASCII letter or digit.

## Main definitions

* `Scanner.Mode.isCode`: the reader is outside of strings and comments
* `Scanner.StringBody`: what may stand between two quotes
* `Scanner.Stands`: a stretch of a line, by what is around it
* `Scanner.Recognised`: a stretch of a line that starts between tokens and is not continued

## Main results

* `tokens_literal`, `tokens_comment`: the tokens of a line with a string literal or a comment
* `Scanner.knows`: what the characters that are read say of where the reader is
* `mem_tokens_iff`: which words are tokens of a line
-/

namespace PromptLoop

open Text

variable {c quote : Char} {cs ds line word : List Char}

namespace Scanner

/-- The reader is in code, outside of strings and comments. -/
def Mode.isCode : Mode → Bool
  | .between => true
  | .word _ => true
  | .number _ => true
  | .string _ _ => false
  | .escape _ _ => false
  | .comment => false

/-- The tokens that a sequence of characters and its end complete. -/
def tokensFrom (mode : Mode) (cs : List Char) : List Token :=
  (run mode cs).1 ++ finish (run mode cs).2

variable {mode : Mode} {seen : List Char}

theorem tokensFrom_nil (mode : Mode) : tokensFrom mode [] = finish mode := rfl

theorem tokensFrom_cons (mode : Mode) (c : Char) (cs : List Char) :
    tokensFrom mode (c :: cs) = (step mode c).1 ++ tokensFrom (step mode c).2 cs :=
  List.append_assoc ..

theorem tokensFrom_append (mode : Mode) (cs ds : List Char) :
    tokensFrom mode (cs ++ ds) = (run mode cs).1 ++ tokensFrom (run mode cs).2 ds := by
  rw [tokensFrom, run_append, List.append_assoc]
  rfl

theorem run_concat (mode : Mode) (cs : List Char) (c : Char) :
    (run mode (cs ++ [c])).2 = (step (run mode cs).2 c).2 := by
  rw [run_append]
  rfl

/-- A character of a class without the quotation marks and the number sign is none of them. -/
theorem not_mark_of_class {p : Char → Bool} (h : p c = true)
    (hmarks : p '"' = false ∧ p '\'' = false ∧ p '#' = false) :
    ¬(c = '"' ∨ c = '\'') ∧ c ≠ '#' := by
  have hne : ∀ d, p d = false → c ≠ d := fun d hd => ne_of_apply_ne p (by rw [h, hd]; decide)
  exact ⟨not_or.mpr ⟨hne _ hmarks.1, hne _ hmarks.2.1⟩, hne _ hmarks.2.2⟩

/-! ## Blanks -/

theorem start_of_isBlank (h : isBlank c = true) : start c = ([], .between) := by
  obtain ⟨hquote, hsign⟩ := not_mark_of_class h (by decide)
  rw [start, if_neg hquote, if_neg hsign, isWordStart_of_isBlank h, isDigit_of_isBlank h, h]
  rfl

/-- Between tokens blanks are skipped. -/
theorem run_blanks (h : ∀ c ∈ cs, isBlank c = true) : run .between cs = ([], .between) := by
  induction cs with
  | nil => rfl
  | cons c cs ih =>
    obtain ⟨hc, hcs⟩ := List.forall_mem_cons.mp h
    rw [run_cons, step, start_of_isBlank hc, ih hcs]
    rfl

theorem run_blanks_append (h : ∀ c ∈ cs, isBlank c = true) (ds : List Char) :
    run .between (cs ++ ds) = run .between ds := by
  rw [run_append, run_blanks h]
  rfl

theorem run_trimStart (cs : List Char) : run .between (trimStart cs) = run .between cs := by
  have hsplit : cs = cs.takeWhile isBlank ++ trimStart cs := List.takeWhile_append_dropWhile.symm
  conv_rhs => rw [hsplit]
  exact (run_blanks_append (List.all_eq_true.mp List.all_takeWhile) _).symm

/-! ## String literals and comments -/

/-- In code a character that can continue neither a word nor a number ends what is being read. -/
theorem step_of_isCode (h : mode.isCode = true) (hpart : isWordPart c = false)
    (hmark : c ≠ '?' ∧ c ≠ '!') (hname : isNameChar c = false) :
    step mode c = endAndStart (finish mode) c := by
  cases mode with
  | between => rfl
  | word seen =>
    rw [step, hpart, if_neg Bool.false_ne_true, if_neg (not_or.mpr hmark)]
    rfl
  | number seen =>
    rw [step, hname, if_neg Bool.false_ne_true]
    rfl
  | string quote seen => cases h
  | escape quote seen => cases h
  | comment => cases h

/-- What may stand between two quotes: pairs of a backslash and any character, and characters other
than the quote and the backslash. -/
inductive StringBody (quote : Char) : List Char → Prop
  | nil : StringBody quote []
  | char {c : Char} {cs : List Char} : c ≠ quote → c ≠ '\\' → c ≠ '\n' → StringBody quote cs →
      StringBody quote (c :: cs)
  | escape {c : Char} {cs : List Char} : c ≠ '\n' → StringBody quote cs →
      StringBody quote ('\\' :: c :: cs)

/-- A quotation mark of either kind. -/
def IsQuote (c : Char) : Prop := c = '"' ∨ c = '\''

instance (c : Char) : Decidable (IsQuote c) := inferInstanceAs (Decidable (_ ∨ _))

theorem StringBody.newline_not_mem (h : StringBody quote cs) : '\n' ∉ cs := by
  induction h with
  | nil => exact List.not_mem_nil
  | char _ _ hc _ ih => exact List.not_mem_cons_of_ne_of_not_mem (Ne.symm hc) ih
  | escape hc _ ih =>
    refine List.not_mem_cons_of_ne_of_not_mem (by decide) ?_
    exact List.not_mem_cons_of_ne_of_not_mem (Ne.symm hc) ih

/-- Inside of quotes everything is taken into the string. -/
theorem run_stringBody (hquote : IsQuote quote) (h : StringBody quote cs) (seen : List Char) :
    run (.string quote seen) cs = ([], .string quote (cs.reverse ++ seen)) := by
  have hslash : '\\' ≠ quote := by
    rcases hquote with rfl | rfl <;> decide
  induction h generalizing seen with
  | nil => rfl
  | @char c cs hc hback _ _ ih =>
    rw [run_cons, step, if_neg hc, if_neg hback, ih, List.reverse_cons, List.append_assoc]
    rfl
  | @escape c cs hc _ ih =>
    rw [run_cons, step, if_neg hslash, if_pos rfl, run_cons, step, if_neg hc, ih, List.reverse_cons,
      List.reverse_cons, List.append_assoc, List.append_assoc]
    rfl

/-- A quotation mark in code starts a string, and a number sign a comment. -/
theorem step_quote (h : mode.isCode = true) (hquote : IsQuote quote) :
    step mode quote = (finish mode, .string quote [quote]) := by
  have hends : step mode quote = endAndStart (finish mode) quote := by
    rcases hquote with rfl | rfl <;> exact step_of_isCode h (by decide) (by decide) (by decide)
  have hstart : start quote = ([], .string quote [quote]) := if_pos hquote
  rw [hends, endAndStart, hstart, List.append_nil]

theorem step_numberSign (h : mode.isCode = true) : step mode '#' = (finish mode, .comment) := by
  rw [step_of_isCode h (by decide) (by decide) (by decide), endAndStart,
    show start '#' = ([], .comment) from rfl, List.append_nil]

end Scanner

open Scanner

/-- **A string literal is one token, whatever is in it.** -/
theorem tokens_literal (hcs : (run .between cs).2.isCode = true) (hquote : IsQuote quote)
    {body : List Char} (hbody : StringBody quote body) (ds : List Char) :
    tokens (cs ++ quote :: (body ++ quote :: ds)) =
      tokens cs ++ token .string (quote :: (body.reverse ++ [quote])) :: tokens ds := by
  show tokensFrom .between _ = tokensFrom .between cs ++ _ :: tokensFrom .between ds
  rw [tokensFrom_append, tokensFrom_cons, step_quote hcs hquote, tokensFrom_append,
    run_stringBody hquote hbody, tokensFrom_cons, step, if_pos rfl, List.nil_append, tokensFrom,
    ← List.append_assoc]
  rfl

/-- **A comment is no token, whatever is in it.** -/
theorem tokens_comment (hcs : (run .between cs).2.isCode = true) (ds : List Char) :
    tokens (cs ++ '#' :: ds) = tokens cs := by
  show tokensFrom .between _ = tokensFrom .between cs
  rw [tokensFrom_append, tokensFrom_cons, step_numberSign hcs, tokensFrom, run_comment]
  simp [tokensFrom, finish]

/-! ## Words -/

namespace Scanner

/-- A stretch of a line, by what stands before and after it. -/
def Stands (around : List Char → List Char → Prop) (line stretch : List Char) : Prop :=
  ∃ before after, line = before ++ stretch ++ after ∧ around before after

instance (around : List Char → List Char → Prop) [∀ before after, Decidable (around before after)]
    (line stretch : List Char) : Decidable (Stands around line stretch) :=
  decidable_of_iff (∃ i ∈ List.range (line.length + 1), stretch.isPrefixOf (line.drop i) = true ∧
      around (line.take i) (line.drop (i + stretch.length))) <| by
    constructor
    · rintro ⟨i, -, hprefix, haround⟩
      obtain ⟨after, hafter⟩ := List.isPrefixOf_iff_prefix.mp hprefix
      refine ⟨_, _, ?_, haround⟩
      rw [← List.drop_drop, ← hafter, List.drop_left, List.append_assoc, hafter,
        List.take_append_drop]
    · rintro ⟨before, after, rfl, haround⟩
      have hbound : before.length < (before ++ stretch ++ after).length + 1 := by
        rw [List.length_append, List.length_append]
        omega
      refine ⟨before.length, List.mem_range.mpr hbound, ?_, ?_⟩
      · rw [List.append_assoc, List.drop_left]
        exact List.isPrefixOf_iff_prefix.mpr (List.prefix_append _ _)
      · rwa [← List.drop_drop, List.append_assoc, List.drop_left, List.take_left, List.drop_left]

/-- A word is not continued by what follows it. -/
def endsWord (after : List Char) : Bool :=
  after.head?.all fun c => !isWordPart c && c != '?' && c != '!'

/-- Blanks do not continue a word. -/
theorem endsWord_append_blanks {after back : List Char} (h : endsWord after = true)
    (hback : ∀ c ∈ back, isBlank c = true) : endsWord (after ++ back) = true := by
  cases after with
  | cons c after => exact h
  | nil =>
    cases back with
    | nil => rfl
    | cons c back =>
      have hblank := hback c List.mem_cons_self
      have hmark : ∀ d, isBlank d = false → c ≠ d := by
        exact fun d hd => ne_of_apply_ne isBlank (by rw [hblank, hd]; decide)
      rw [List.nil_append, endsWord, List.head?_cons, Option.all_some,
        isWordPart_of_isBlank hblank, bne_iff_ne.mpr (hmark '?' (by decide)),
        bne_iff_ne.mpr (hmark '!' (by decide))]
      rfl

/-- A stretch of a line that starts between tokens and is not continued. -/
def Recognised (line word : List Char) : Prop :=
  Stands (fun before after => (run .between before).2 = .between ∧ endsWord after = true) line word

instance (line word : List Char) : Decidable (Recognised line word) :=
  inferInstanceAs (Decidable (Stands _ line word))

/-- What is recognised in a line without the blanks around it is recognised in the line. -/
theorem Recognised.of_trim (h : Recognised (trim line) word) : Recognised line word := by
  obtain ⟨front, back, hline, hfront, hback⟩ := exists_eq_append_trim line
  obtain ⟨before, after, htrim, hbefore, hafter⟩ := h
  refine ⟨front ++ before, after ++ back, ?_, ?_, endsWord_append_blanks hafter hback⟩
  · rw [hline, htrim]
    simp only [List.append_assoc]
  · rwa [run_blanks_append hfront]

/-- What is known of the characters that have been read, by where the reader is. -/
def Knows (front : List Char) : Mode → Prop
  | .between => front.getLast?.all (!isWordPart ·) = true
  | .word seen => ∃ before, front = before ++ seen.reverse ∧ (run .between before).2 = .between
  | .number _ => True
  | .string quote _ => IsQuote quote
  | .escape quote _ => IsQuote quote
  | .comment => True

variable {front rest : List Char} {ts : List Token}

/-- A word: a letter or underscore, and letters, digits and underscores, all of ASCII. -/
def isWord : List Char → Bool
  | [] => false
  | c :: cs => isWordStart c && cs.all isWordPart

theorem isWordPart_of_isWord (h : isWord word = true) : ∀ c ∈ word, isWordPart c = true := by
  cases word with
  | nil => exact nofun
  | cons c cs =>
    rw [isWord, Bool.and_eq_true, List.all_eq_true] at h
    exact List.forall_mem_cons.mpr ⟨isWordPart_of_isWordStart h.1, h.2⟩

/-- What a character starts between tokens: a string, a comment, a word or a number; or else it is
no ASCII letter or digit, and may be punctuation. -/
theorem start_cases (c : Char) :
    (IsQuote c ∧ start c = ([], .string c [c])) ∨ start c = ([], .comment) ∨
      (isWordStart c = true ∧ start c = ([], .word [c])) ∨ start c = ([], .number [c]) ∨
        (isWordPart c = false ∧ ∃ ts, start c = (ts, .between) ∧ ∀ t ∈ ts, t.kind = .punct) := by
  unfold start
  split
  · next hquote => exact .inl ⟨hquote, rfl⟩
  split
  · exact .inr (.inl rfl)
  split
  · next hstart => exact .inr (.inr (.inl ⟨hstart, rfl⟩))
  split
  · exact .inr (.inr (.inr (.inl rfl)))
  · next hstart hdigit =>
    have hpart : isWordPart c = false := by
      rw [← Bool.not_eq_true]
      exact fun hpart => (isDigit_or_isWordStart hpart).elim hdigit hstart
    split
    · exact .inr (.inr (.inr (.inr ⟨hpart, [], rfl, nofun⟩)))
    · refine .inr (.inr (.inr (.inr ⟨hpart, _, rfl, fun t ht => ?_⟩)))
      rw [List.mem_singleton.mp ht]
      rfl

theorem start_of_isWordStart (h : isWordStart c = true) : start c = ([], .word [c]) := by
  obtain ⟨hquote, hsign⟩ := not_mark_of_class h (by decide)
  rw [start, if_neg hquote, if_neg hsign, if_pos h]

theorem isNameChar_of_isWordPart (h : isWordPart c = true) : isNameChar c = true := by
  rw [isNameChar, isWordChar_of_isWordPart h]
  rfl

/-- A character that is no ASCII letter or digit is known to be none. -/
theorem knows_between (h : isWordPart c = false) : Knows (front ++ [c]) .between := by
  rw [Knows, List.getLast?_concat, Option.all_some, h]
  rfl

theorem knows_start (hword : isWordStart c = true → (run .between front).2 = .between) :
    Knows (front ++ [c]) (start c).2 := by
  rcases start_cases c with ⟨hquote, hc⟩ | hc | ⟨hstart, hc⟩ | hc | ⟨hpart, ts, hc, -⟩
  · rw [hc]
    exact hquote
  · rw [hc]
    trivial
  · rw [hc]
    exact ⟨front, rfl, hword hstart⟩
  · rw [hc]
    trivial
  · rw [hc]
    exact knows_between hpart

/-- **What is known of the characters that have been read.** -/
theorem knows (front : List Char) : Knows front (run .between front).2 := by
  -- by induction on what has been read, a character at its end at a time
  induction front using List.reverseRecOn with
  | nil => rfl
  | append_singleton front c ih =>
    rw [run_concat]
    rcases hmode : (run .between front).2 with - | seen | seen | ⟨quote, seen⟩ | ⟨quote, seen⟩ | -
    · exact knows_start fun _ => hmode
    · rw [step]
      split
      · rw [hmode] at ih
        obtain ⟨before, rfl, hbefore⟩ := ih
        exact ⟨before, by rw [List.reverse_cons, List.append_assoc], hbefore⟩
      · next hpart =>
        split
        · exact knows_between (Bool.eq_false_iff.mpr hpart)
        · exact knows_start fun hstart => absurd (isWordPart_of_isWordStart hstart) hpart
    · rw [step]
      split
      · trivial
      · next hname =>
        refine knows_start fun hstart => absurd ?_ hname
        exact isNameChar_of_isWordPart (isWordPart_of_isWordStart hstart)
    · rw [hmode] at ih
      rw [step]
      split
      · next hc =>
        refine knows_between ?_
        rw [hc]
        rcases ih with rfl | rfl <;> rfl
      · split
        · exact ih
        · exact ih
    · rw [hmode] at ih
      rw [step]
      split
      · next hc =>
        rw [hc]
        exact knows_between (by decide)
      · exact ih
    · trivial

/-- No word is completed by a character that starts something new. -/
theorem word_not_mem_start {text : String} : ⟨.word, text⟩ ∉ (start c).1 := by
  intro hmem
  rcases start_cases c with ⟨-, hc⟩ | hc | ⟨-, hc⟩ | hc | ⟨-, ts, hc, hpunct⟩
  · rw [hc] at hmem
    cases hmem
  · rw [hc] at hmem
    cases hmem
  · rw [hc] at hmem
    cases hmem
  · rw [hc] at hmem
    cases hmem
  · rw [hc] at hmem
    cases hpunct _ hmem

theorem eq_of_word_mem {kind : TokenKind}
    (h : (⟨.word, String.ofList word⟩ : Token) ∈ [token kind seen]) : word = seen.reverse := by
  have htext := congrArg Token.text (List.mem_singleton.mp h)
  exact String.ofList_injective htext

/-- A word is completed by a character that does not continue it. -/
theorem word_mem_step (hword : isWord word = true) (rest : List Char)
    (h : ⟨.word, String.ofList word⟩ ∈ (step mode c).1) :
    mode = .word word.reverse ∧ endsWord (c :: rest) = true := by
  cases mode with
  | between => exact absurd h word_not_mem_start
  | word seen =>
    rw [step] at h
    split at h
    · cases h
    · next hpart =>
      split at h
      · -- The mark that ends this word is a part of it.
        next hmark =>
        have hc : isWordPart c = true := by
          apply isWordPart_of_isWord hword
          rw [eq_of_word_mem h]
          simp
        exact absurd hc hpart
      · next hmark =>
        rcases List.mem_append.mp h with h | h
        · rw [eq_of_word_mem h, List.reverse_reverse]
          rw [not_or] at hmark
          simp [endsWord, hpart, hmark]
        · exact absurd h word_not_mem_start
  | number seen =>
    rw [step] at h
    split at h
    · cases h
    · rcases List.mem_append.mp h with h | h
      · have hkind := congrArg Token.kind (List.mem_singleton.mp h)
        cases hkind
      · exact absurd h word_not_mem_start
  | string quote seen =>
    rw [step] at h
    split at h
    · have hkind := congrArg Token.kind (List.mem_singleton.mp h)
      cases hkind
    · split at h <;> cases h
  | escape quote seen =>
    rw [step] at h
    split at h
    · simp [token] at h
    · cases h
  | comment => cases h

/-- A word that has been read and is not continued is recognised. -/
theorem recognised_of_mode (h : (run .between front).2 = .word word.reverse)
    (hrest : endsWord rest = true) : Recognised (front ++ rest) word := by
  have hknows := knows front
  rw [h] at hknows
  obtain ⟨before, hfront, hbefore⟩ := hknows
  rw [List.reverse_reverse] at hfront
  exact ⟨before, rest, by rw [hfront], hbefore, hrest⟩

/-- A word that is completed by the rest of a line is recognised. -/
theorem recognised_of_mem (hword : isWord word = true) (front : List Char)
    (h : ⟨.word, String.ofList word⟩ ∈ tokensFrom (run .between front).2 rest) :
    Recognised (front ++ rest) word := by
  -- by induction on the rest, of which each character goes over to what has been read
  induction rest generalizing front with
  | nil =>
    refine recognised_of_mode ?_ rfl
    rw [tokensFrom_nil] at h
    rcases hmode : (run .between front).2 with - | seen | seen | ⟨quote, seen⟩ | ⟨quote, seen⟩ | -
    · rw [hmode] at h
      cases h
    · rw [hmode] at h
      rw [eq_of_word_mem h, List.reverse_reverse]
    all_goals
      rw [hmode] at h
      simp [finish, token] at h
  | cons c rest ih =>
    rw [tokensFrom_cons] at h
    rcases List.mem_append.mp h with h | h
    · obtain ⟨hmode, hends⟩ := word_mem_step hword rest h
      exact recognised_of_mode hmode hends
    · rw [← run_concat] at h
      have hrest := ih (front ++ [c]) h
      rwa [List.append_assoc] at hrest

theorem run_wordParts (h : ∀ c ∈ cs, isWordPart c = true) (seen : List Char) :
    run (.word seen) cs = ([], .word (cs.reverse ++ seen)) := by
  induction cs generalizing seen with
  | nil => rfl
  | cons c cs ih =>
    obtain ⟨hc, hcs⟩ := List.forall_mem_cons.mp h
    rw [run_cons, step, if_pos hc, ih hcs, List.reverse_cons, List.append_assoc]
    rfl

/-- Between tokens a word is read as such. -/
theorem run_word (hword : isWord word = true) : run .between word = ([], .word word.reverse) := by
  have hparts := isWordPart_of_isWord hword
  cases word with
  | nil => cases hword
  | cons c cs =>
    rw [isWord, Bool.and_eq_true] at hword
    rw [run_cons, step, start_of_isWordStart hword.1,
      run_wordParts (List.forall_mem_cons.mp hparts).2, List.reverse_cons]
    rfl

/-- A word that is not continued is a token. -/
theorem tokensFrom_word (seen : List Char) (h : endsWord rest = true) :
    token .word seen ∈ tokensFrom (.word seen) rest := by
  cases rest with
  | nil => exact List.mem_singleton_self _
  | cons c rest =>
    rw [endsWord, List.head?_cons, Option.all_some, Bool.and_eq_true, Bool.and_eq_true,
      bne_iff_ne, bne_iff_ne, Bool.not_eq_true'] at h
    obtain ⟨⟨hpart, hquestion⟩, hexclamation⟩ := h
    rw [tokensFrom_cons, step, hpart, if_neg Bool.false_ne_true,
      if_neg (not_or.mpr ⟨hquestion, hexclamation⟩)]
    exact List.mem_append_left _ (List.mem_append_left _ List.mem_cons_self)

end Scanner

/-- **The words that are tokens of a line** are those that start between tokens and are not
continued. -/
theorem mem_tokens_iff (hword : isWord word = true) :
    ⟨.word, String.ofList word⟩ ∈ tokens line ↔ Recognised line word := by
  constructor
  · exact recognised_of_mem hword []
  · rintro ⟨before, after, rfl, hbefore, hafter⟩
    show _ ∈ tokensFrom .between _
    rw [List.append_assoc, tokensFrom_append, hbefore, tokensFrom_append, run_word hword]
    have hmem := tokensFrom_word word.reverse hafter
    rw [token, List.reverse_reverse] at hmem
    exact List.mem_append_right _ hmem

end PromptLoop
