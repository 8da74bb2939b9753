import PromptLoop.Proofs.Indent.Balanced
import PromptLoop.Proofs.Indent.Reindentation
import PromptLoop.Proofs.Indent.Scanning

/-!
# Keywords are recognised as whole words

A keyword inside of a longer name of ASCII letters and digits is not recognised. Letters outside of
ASCII end a word instead of continuing it, so next to one of them it is. A line in which no keyword
is recognised is treated as under rules that have none.

## Main definitions

* `WholeWord`: a maximal run of word characters, outside of strings and comments
* `Torn`: a word that the reader tears out of a longer one
* `IndentRules.wordless`: the same rules without keywords
* `Constructs.keywordBlocks`: the constructs that keywords have opened

## Main results

* `Scanner.Recognised.wholeWord_or_torn`: what the reader recognises is a whole word or torn
* `Constructs.after_wordless`: tokens that are no keywords take the effect that they have under the
  rules without keywords
* `Constructs.keywordBlocks_after`: and that is none on the constructs that keywords have opened
* `Tracker.keywords_whole`: which keywords a tracker recognises, and what it makes of a line without
-/

namespace PromptLoop

open Text Scanner

/-! ## Words and the characters around them -/

/-- A word character outside of ASCII: it continues a word, but the reader ends one there. -/
def isForeign (c : Char) : Bool := isWordChar c && !isWordPart c

/-- A maximal run of word characters, outside of strings and comments. -/
def WholeWord (line word : List Char) : Prop :=
  Stands (fun before after => (run .between before).2.isCode = true ∧
    before.getLast?.all (!isWordChar ·) = true ∧ after.head?.all (!isWordChar ·) = true) line word

/-- A word that the reader recognises next to a word character outside of ASCII. -/
def Torn (line word : List Char) : Prop :=
  Stands (fun before after => ((run .between before).2 = .between ∧ endsWord after = true) ∧
    (before.getLast?.any isForeign || after.head?.any isForeign) = true) line word

instance (line word : List Char) : Decidable (WholeWord line word) :=
  inferInstanceAs (Decidable (Stands _ line word))

instance (line word : List Char) : Decidable (Torn line word) :=
  inferInstanceAs (Decidable (Stands _ line word))

variable {line word : List Char}

/-- A character beside a word is no word character, if it is neither of ASCII nor foreign. -/
theorem all_not_isWordChar {c? : Option Char} (hascii : c?.all (!isWordPart ·) = true)
    (hforeign : c?.any isForeign = false) : c?.all (!isWordChar ·) = true := by
  cases c? with
  | none => rfl
  | some c =>
    rw [Option.all_some] at hascii ⊢
    rw [Option.any_some, isForeign, hascii, Bool.and_true] at hforeign
    rw [hforeign]
    rfl

theorem Scanner.not_isWordPart_of_endsWord {after : List Char} (h : endsWord after = true) :
    after.head?.all (!isWordPart ·) = true := by
  rw [endsWord] at h
  cases hhead : after.head? with
  | none => rfl
  | some c =>
    rw [hhead, Option.all_some, Bool.and_eq_true, Bool.and_eq_true] at h
    exact h.1.1

/-- **What the reader recognises is a whole word, or torn out of a longer one.** -/
theorem Scanner.Recognised.wholeWord_or_torn (h : Recognised line word) :
    WholeWord line word ∨ Torn line word := by
  obtain ⟨before, after, rfl, hbefore, hafter⟩ := h
  by_cases hforeign : (before.getLast?.any isForeign || after.head?.any isForeign) = true
  · exact .inr ⟨before, after, rfl, ⟨hbefore, hafter⟩, hforeign⟩
  · -- The reader knows that no ASCII letter or digit is next to the word.
    rw [Bool.not_eq_true, Bool.or_eq_false_iff] at hforeign
    have hknows := knows before
    rw [hbefore] at hknows
    refine .inl ⟨before, after, rfl, by rw [hbefore]; rfl, ?_, ?_⟩
    · exact all_not_isWordChar hknows hforeign.1
    · exact all_not_isWordChar (not_isWordPart_of_endsWord hafter) hforeign.2

/-! ## Rules without keywords -/

namespace IndentRules

/-- The words that the rules know. -/
def keywords (rules : IndentRules) : List String :=
  rules.openKeywords ++ rules.inlineOpenKeywords ++ rules.closeKeywords ++ rules.midKeywords ++
    rules.loopKeywords ++ rules.dedentAfter

/-- The same rules without keywords. -/
def wordless (rules : IndentRules) : IndentRules where
  brackets := rules.brackets
  colonBlocks := rules.colonBlocks

/-- A construct that a keyword has opened. -/
def isKeywordBlock (rules : IndentRules) (marker : String) : Bool :=
  !rules.opensBracket marker && marker != colon

variable {rules : IndentRules} {text : String}

theorem isKeyword_iff_mem : rules.isKeyword text = true ↔ text ∈ rules.keywords :=
  List.contains_iff_mem

end IndentRules

/-- No token is a keyword. -/
def Wordless (rules : IndentRules) (ts : List Token) : Prop :=
  ∀ t ∈ ts, t.kind = .word → rules.isKeyword t.text = false

/-- Under the rules without keywords no token is one. -/
theorem wordless_wordless (rules : IndentRules) (ts : List Token) : Wordless rules.wordless ts :=
  fun _ _ _ => rfl

namespace Constructs

variable {rules : IndentRules} {ts : List Token}

theorem startsWith_wordless {keywords : List String} (h : Wordless rules ts)
    (hkeywords : ∀ k ∈ keywords, rules.isKeyword k = true) : startsWith keywords ts = false := by
  cases ts with
  | nil => rfl
  | cons t ts =>
    rw [startsWith, firstWord?]
    split
    · next hword =>
      rw [Option.any_some, ← Bool.not_eq_true, List.contains_iff_mem]
      intro hmem
      have hkeyword := hkeywords _ hmem
      rw [h t List.mem_cons_self hword] at hkeyword
      cases hkeyword
    · rfl

theorem startsWith_midKeywords (h : Wordless rules ts) :
    startsWith rules.midKeywords ts = false := by
  refine startsWith_wordless h fun k hk => IndentRules.isKeyword_iff_mem.mpr ?_
  simp [IndentRules.keywords, hk]

theorem startsWith_dedentAfter (h : Wordless rules ts) :
    startsWith rules.dedentAfter ts = false := by
  refine startsWith_wordless h fun k hk => IndentRules.isKeyword_iff_mem.mpr ?_
  simp [IndentRules.keywords, hk]

theorem isCloser_wordless {t : Token} (h : t.kind = .word → rules.isKeyword t.text = false) :
    isCloser rules t = isCloser rules.wordless t := by
  obtain ⟨kind, text⟩ := t
  cases kind with
  | word =>
    obtain ⟨⟨-, -, hclose, -⟩, -⟩ := IndentRules.isKeyword_eq_false_iff.mp (h rfl)
    rw [isCloser, hclose]
    rfl
  | string => rfl
  | number => rfl
  | punct => rfl

theorem closers_wordless (h : Wordless rules ts) :
    ts.takeWhile (isCloser rules) = ts.takeWhile (isCloser rules.wordless) := by
  induction ts with
  | nil => rfl
  | cons t ts ih =>
    obtain ⟨ht, hts⟩ := List.forall_mem_cons.mp h
    rw [List.takeWhile_cons, List.takeWhile_cons, isCloser_wordless ht, ih hts]

theorem leadingDedent_wordless (h : Wordless rules ts) (stack : Constructs) :
    stack.leadingDedent rules ts = stack.leadingDedent rules.wordless ts := by
  rw [leadingDedent, leadingDedent, startsWith_midKeywords h, closers_wordless h,
    startsWith_midKeywords (wordless_wordless rules ts)]

theorem resync_wordless (h : Wordless rules ts) (width : Int) (leading : Nat)
    (stack : Constructs) :
    stack.resync rules width leading ts = stack.resync rules.wordless width leading ts := by
  rw [resync, resync, writtenLevel, writtenLevel, startsWith_midKeywords h,
    startsWith_midKeywords (wordless_wordless rules ts)]
  rfl

/-- A token that is no keyword takes the effect that it has under the rules without keywords. -/
theorem afterToken_wordless {t : Token} (h : t.kind = .word → rules.isKeyword t.text = false)
    (first : Option String) (previous : Option Token) (stack : Constructs) :
    stack.afterToken rules first previous t =
      stack.afterToken rules.wordless first previous t := by
  obtain ⟨kind, text⟩ := t
  cases kind with
  | word =>
    have hneutral : Token.Neutral rules ⟨.word, text⟩ := h rfl
    have hnone : Token.Neutral rules.wordless ⟨.word, text⟩ := rfl
    rw [afterToken_neutral hneutral, afterToken_neutral hnone]
  | string => rfl
  | number => rfl
  | punct => rfl

theorem afterTokens_wordless (h : Wordless rules ts) (first : Option String)
    (previous : Option Token) (stack : Constructs) :
    stack.afterTokens rules first previous ts =
      stack.afterTokens rules.wordless first previous ts := by
  induction ts generalizing previous stack with
  | nil => rfl
  | cons t ts ih =>
    obtain ⟨ht, hts⟩ := List.forall_mem_cons.mp h
    rw [afterTokens, afterTokens, afterToken_wordless ht, ih hts]

/-- **Tokens that are no keywords take the effect that they have under the rules without
keywords.** -/
theorem after_wordless (h : Wordless rules ts) (stack : Constructs) :
    stack.after rules ts = stack.after rules.wordless ts := by
  have hbefore : stack.beforeTokens rules ts = stack.beforeTokens rules.wordless ts := by
    rw [beforeTokens, beforeTokens, startsWith_midKeywords h,
      startsWith_midKeywords (wordless_wordless rules ts)]
    rfl
  have hend : ∀ stack : Constructs, stack.atEnd rules ts = stack.atEnd rules.wordless ts := by
    intro stack
    rw [atEnd, atEnd, startsWith_dedentAfter h,
      startsWith_dedentAfter (wordless_wordless rules ts)]
    rfl
  rw [after, after, hbefore, afterTokens_wordless h, hend]

/-! ## The constructs that keywords have opened -/

/-- The constructs that keywords have opened. -/
def keywordBlocks (rules : IndentRules) (stack : Constructs) : Constructs :=
  stack.filter rules.isKeywordBlock

variable {stack : Constructs} {marker : String}

theorem keywordBlocks_cons (h : rules.isKeywordBlock marker = false) (stack : Constructs) :
    keywordBlocks rules (marker :: stack) = keywordBlocks rules stack :=
  List.filter_cons_of_neg (by rw [h]; exact Bool.false_ne_true)

theorem isKeywordBlock_colon (rules : IndentRules) : rules.isKeywordBlock colon = false := by
  simp [IndentRules.isKeywordBlock]

theorem isKeywordBlock_bracket (h : rules.opensBracket marker = true) :
    rules.isKeywordBlock marker = false := by
  rw [IndentRules.isKeywordBlock, h]
  rfl

theorem keywordBlocks_closeTo (rules : IndentRules) (level : Int) (stack : Constructs) :
    keywordBlocks rules (stack.closeTo level) = keywordBlocks rules stack := by
  induction stack with
  | nil => rfl
  | cons marker rest ih =>
    rw [closeTo]
    split
    · next hcloses => rw [ih, hcloses.2, keywordBlocks_cons (isKeywordBlock_colon rules)]
    · rfl

/-- Explicit indentation closes no block that a keyword has opened. -/
theorem keywordBlocks_resync (rules : IndentRules) (width : Int) (leading : Nat) (ts : List Token)
    (stack : Constructs) :
    keywordBlocks rules (stack.resync rules width leading ts) = keywordBlocks rules stack := by
  rw [resync]
  split
  · exact keywordBlocks_closeTo rules _ stack
  · rfl

theorem keywordBlocks_afterPunct (rules : IndentRules) (text : String) (stack : Constructs) :
    keywordBlocks rules (stack.afterPunct rules text) = keywordBlocks rules stack := by
  rw [afterPunct]
  split
  · next hopens => exact keywordBlocks_cons (isKeywordBlock_bracket hopens) stack
  · split
    · rfl
    · next opener hopener =>
      split
      · -- What is closed is a bracket, and no keyword has opened it.
        next hhead =>
        obtain ⟨rest, rfl⟩ := List.head?_eq_some_iff.mp hhead
        have hbracket := IndentRules.opensBracket_of_opener? hopener
        exact (keywordBlocks_cons (isKeywordBlock_bracket hbracket) rest).symm
      · rfl

theorem keywordBlocks_afterTokens (h : Wordless rules ts) (first : Option String)
    (previous : Option Token) (stack : Constructs) :
    keywordBlocks rules (stack.afterTokens rules first previous ts) =
      keywordBlocks rules stack := by
  induction ts generalizing previous stack with
  | nil => rfl
  | cons t ts ih =>
    obtain ⟨ht, hts⟩ := List.forall_mem_cons.mp h
    rw [afterTokens, ih hts]
    obtain ⟨kind, text⟩ := t
    cases kind with
    | word =>
      have hneutral : Token.Neutral rules ⟨.word, text⟩ := ht rfl
      rw [afterToken_neutral hneutral]
    | punct => exact keywordBlocks_afterPunct rules text stack
    | string => rfl
    | number => rfl

/-- **Tokens that are no keywords leave the blocks that keywords have opened.** -/
theorem keywordBlocks_after (h : Wordless rules ts) (stack : Constructs) :
    keywordBlocks rules (stack.after rules ts) = keywordBlocks rules stack := by
  have hbefore : stack.beforeTokens rules ts = stack := by
    rw [beforeTokens, startsWith_midKeywords h]
    rfl
  have hend : ∀ stack : Constructs,
      keywordBlocks rules (stack.atEnd rules ts) = keywordBlocks rules stack := by
    intro stack
    rw [atEnd, startsWith_dedentAfter h]
    split
    · exact keywordBlocks_cons (isKeywordBlock_colon rules) stack
    · rfl
  rw [after, hbefore, hend, keywordBlocks_afterTokens h]

end Constructs

/-! ## Lines -/

namespace Tracker

/-- The same tracker under the rules without keywords. -/
def wordless (t : Tracker) : Tracker := { t with rules := t.rules.wordless }

variable {ε : Type} {t : Tracker}

/-- A line in which no keyword is recognised is treated as under the rules without keywords. -/
theorem indentLine_wordless (h : Wordless t.rules (tokens (trim line))) :
    t.indentLine line =
        ((t.wordless.indentLine line).1, { (t.wordless.indentLine line).2 with rules := t.rules }) ∧
      (indentLine? line t : Run ε Tracker _) =
        ⟨(indentLine? line t.wordless : Run ε Tracker _).result,
          { (indentLine? line t.wordless : Run ε Tracker _).state with rules := t.rules },
          (indentLine? line t.wordless : Run ε Tracker _).events⟩ := by
  -- The rules bear on a line in three ways: on what it closes first, on its depth, and on what it
  -- leaves open.
  have hresynced : t.wordless.resynced line = t.resynced line :=
    (Constructs.resync_wordless h t.width (leadingBlanks line) t.stack).symm
  have hdepth : t.wordless.lineDepth line = t.lineDepth line := by
    rw [lineDepth, lineDepth, hresynced, Constructs.leadingDedent_wordless h]
    rfl
  have hwidth : t.wordless.width = t.width := rfl
  have hmemory : t.wordless.memory = t.memory := rfl
  have hdivides : t.wordless.divides line = t.divides line := rfl
  have hline : t.indentLine line = ((t.wordless.indentLine line).1,
      { (t.wordless.indentLine line).2 with rules := t.rules }) := by
    rw [indentLine, indentLine]
    split
    · rfl
    · rw [hdepth, hwidth, hresynced, Constructs.after_wordless h]
      rfl
  refine ⟨hline, ?_⟩
  rw [indentLine?, indentLine?, hline, hdepth, hwidth, hmemory, hdivides, hresynced]
  split
  · rfl
  split
  · rfl
  cases Padding.blanks? t.memory (t.width * t.lineDepth line) with
  | error f => rfl
  | ok blanks => rfl

/-- It opens and closes no block of a keyword. -/
theorem keywordBlocks_indentLine (h : Wordless t.rules (tokens (trim line))) :
    (t.indentLine line).2.stack.keywordBlocks t.rules = t.stack.keywordBlocks t.rules := by
  rw [indentLine]
  split
  · rfl
  · rw [Constructs.keywordBlocks_after h, resynced, Constructs.keywordBlocks_resync]

theorem keywordBlocks_indentLine? (h : Wordless t.rules (tokens (trim line))) :
    (indentLine? line t : Run ε Tracker _).state.stack.keywordBlocks t.rules =
      t.stack.keywordBlocks t.rules := by
  rw [indentLine?]
  split
  · rfl
  split
  · rfl
  cases Padding.blanks? t.memory (t.width * t.lineDepth line) with
  | error f => exact Constructs.keywordBlocks_resync _ _ _ _ _
  | ok blanks => exact keywordBlocks_indentLine h

/-- **Keywords are recognised only as whole words**, or where the reader tears one out of a word
that goes on outside of ASCII. A line without either is treated as under the rules without keywords:
it is not dedented for a keyword, and neither opens nor closes a block for one. -/
theorem keywords_whole (t : Tracker) (hrules : t.rules = .closingKeyword ∨ t.rules = .colonBlock)
    (hline : '\n' ∉ line) :
    (∀ word ∈ t.rules.keywords, ⟨.word, word⟩ ∈ tokens (trim line) →
        WholeWord line word.toList ∨ Torn line word.toList) ∧
      ((∀ word ∈ t.rules.keywords, ¬WholeWord line word.toList ∧ ¬Torn line word.toList) →
        (t.indent line =
            ((t.wordless.indent line).1, { (t.wordless.indent line).2 with rules := t.rules }) ∧
          (indent? line t : Run ε Tracker _) =
            ⟨(indent? line t.wordless : Run ε Tracker _).result,
              { (indent? line t.wordless : Run ε Tracker _).state with rules := t.rules },
              (indent? line t.wordless : Run ε Tracker _).events⟩) ∧
        (t.indent line).2.stack.keywordBlocks t.rules = t.stack.keywordBlocks t.rules ∧
        (indent? line t : Run ε Tracker _).state.stack.keywordBlocks t.rules =
          t.stack.keywordBlocks t.rules) := by
  have hwords : ∀ word ∈ t.rules.keywords, isWord word.toList = true := by
    rcases hrules with hrules | hrules <;> rw [hrules] <;> decide
  have hwhole : ∀ word ∈ t.rules.keywords, ⟨.word, word⟩ ∈ tokens (trim line) →
      WholeWord line word.toList ∨ Torn line word.toList := by
    intro word hword hmem
    rw [← String.ofList_toList (s := word), mem_tokens_iff (hwords word hword)] at hmem
    exact hmem.of_trim.wholeWord_or_torn
  refine ⟨hwhole, fun hnone => ?_⟩
  -- So no token of the line is a keyword.
  have htokens : Wordless t.rules (tokens (trim line)) := by
    rintro ⟨kind, text⟩ ht rfl
    rw [← Bool.not_eq_true]
    intro hkeyword
    have hmem := IndentRules.isKeyword_iff_mem.mp hkeyword
    exact (hwhole text hmem ht).elim (hnone text hmem).1 (hnone text hmem).2
  rw [indent_line hline, indent_line hline, indent?_line hline]
  exact ⟨indentLine_wordless htokens, keywordBlocks_indentLine htokens,
    keywordBlocks_indentLine? htokens⟩

/-- Keywords at either end of longer words, and in a number, a string and a comment. -/
theorem keywords_whole_weekend :
    let t : Tracker := { stack := ["if"] }
    let line := "weekend(dot, 12end, 'end') # end".toList
    ((t.rules = .closingKeyword ∨ t.rules = .colonBlock) ∧ '\n' ∉ line ∧
        ∀ word ∈ t.rules.keywords, ¬WholeWord line word.toList ∧ ¬Torn line word.toList) ∧
      t.indent line = ((t.wordless.indent line).1, t) ∧
      (t.indent line).2.stack.keywordBlocks t.rules = ["if"] := by
  intro t line
  have hrules : t.rules = .closingKeyword ∨ t.rules = .colonBlock := .inl rfl
  have hline : '\n' ∉ line := by decide
  have hnone : ∀ word ∈ t.rules.keywords,
      ¬WholeWord line word.toList ∧ ¬Torn line word.toList := by
    decide +kernel
  obtain ⟨-, hwordless⟩ := keywords_whole (ε := Empty) t hrules hline
  obtain ⟨⟨hindent, -⟩, hblocks, -⟩ := hwordless hnone
  refine ⟨⟨hrules, hline, hnone⟩, hindent.trans ?_, hblocks.trans rfl⟩
  exact congrArg _ (by decide +kernel)

/-- A name that starts with a keyword and goes on outside of ASCII leaves a block. -/
example :
    let t : Tracker := { rules := .colonBlock, width := 4, stack := [colon] }
    let line := "passé = 1".toList
    (¬WholeWord line "pass".toList ∧ Torn line "pass".toList) ∧ (t.indent line).2.stack = [] := by
  decide +kernel

end Tracker

end PromptLoop
