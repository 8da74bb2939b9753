import PromptLoop.Proofs.Indent.Balanced

/-!
# Lines of block programs

The lines that programs with closing keywords are made of, by their tokens: how many levels out each
of them stands, and which constructs it leaves open.

## Main definitions

* `Header`, `Middle`: the first line of a keyword block, and a line that continues one
* `Constructs.Moves`: the levels that a line stands out, and the constructs after it

## Main results

* `IndentRules.pairs_closingKeyword_iff`: the brackets that belong together
* `Header.moves`, `Middle.moves`, `Constructs.moves_end`: the lines of a keyword block
* `Balanced.moves`, `Balanced.moves_opening`, `Balanced.moves_closing`: a simple line, and the lines
  that open and close a bracket
-/

namespace PromptLoop

/-- The first line of a keyword block, with the keyword that opens the block: an opening keyword and
balanced tokens, after which a loop may have a `do` of its own; or balanced tokens and a `do` that
is no member of anything. -/
inductive Header : String → List Token → Prop
  | keyword {word : String} {ts : List Token} :
      word ∈ IndentRules.closingKeyword.openKeywords → Balanced .closingKeyword ts →
      Header word (⟨.word, word⟩ :: ts)
  | loop {word : String} {ts : List Token} :
      word ∈ IndentRules.closingKeyword.loopKeywords → Balanced .closingKeyword ts →
      Header word (⟨.word, word⟩ :: (ts ++ [⟨.word, "do"⟩]))
  | inline {ts : List Token} : Balanced .closingKeyword ts →
      (∀ t, ts.getLast? = some t → t.text ∉ memberMarks) → Header "do" (ts ++ [⟨.word, "do"⟩])

/-- A line that continues a keyword block: a keyword for that, and balanced tokens. -/
inductive Middle : List Token → Prop
  | keyword {word : String} {ts : List Token} :
      word ∈ IndentRules.closingKeyword.midKeywords → Balanced .closingKeyword ts →
      Middle (⟨.word, word⟩ :: ts)

/-- The levels that a line stands out of the open constructs, and the constructs after it. -/
structure Constructs.Moves (stack : Constructs) (ts : List Token) (out : Nat)
    (next : Constructs) : Prop where
  dedent : stack.leadingDedent .closingKeyword ts = out
  after : stack.after .closingKeyword ts = next

variable {stack : Constructs} {ts : List Token} {word marker : String}

/-! ## The keyword sets are disjoint -/

namespace IndentRules

/-- An opening keyword neither continues nor closes a block, and is no bracket. -/
theorem openKeyword_only (h : word ∈ closingKeyword.openKeywords) :
    closingKeyword.midKeywords.contains word = false ∧
      closingKeyword.closeKeywords.contains word = false ∧
      closingKeyword.opensBracket word = false := by
  revert word
  decide

/-- A keyword that continues a block neither opens nor closes one. -/
theorem midKeyword_only (h : word ∈ closingKeyword.midKeywords) :
    closingKeyword.openKeywords.contains word = false ∧
      closingKeyword.inlineOpenKeywords.contains word = false ∧
      closingKeyword.closeKeywords.contains word = false := by
  revert word
  decide

theorem loopKeyword_opens (h : word ∈ closingKeyword.loopKeywords) :
    word ∈ closingKeyword.openKeywords := by
  revert word
  decide

theorem isKeyword_of_mem_midKeywords (h : word ∈ closingKeyword.midKeywords) :
    closingKeyword.isKeyword word = true := by
  revert word
  decide

theorem isKeyword_of_mem_loopKeywords (h : word ∈ closingKeyword.loopKeywords) :
    closingKeyword.isKeyword word = true := by
  revert word
  decide

/-- The brackets that belong together are those that the rules pair. -/
theorem pairs_closingKeyword_iff {opener closer : String} :
    closingKeyword.Pairs opener closer ↔ (opener, closer) ∈ closingKeyword.brackets := by
  constructor
  · rintro ⟨-, -, hcloses, -⟩
    obtain ⟨⟨o, c⟩, hfind, rfl⟩ := Option.map_eq_some_iff.mp hcloses
    have hcloser := List.find?_some hfind
    obtain rfl : c = closer := eq_of_beq hcloser
    exact List.mem_reverse.mp (List.mem_of_find?_eq_some hfind)
  · intro hmem
    have hbrackets : (opener, closer) ∈ [("(", ")"), ("[", "]"), ("\x7b", "\x7d")] := hmem
    simp only [List.mem_cons, Prod.mk.injEq, List.not_mem_nil, or_false] at hbrackets
    rcases hbrackets with ⟨rfl, rfl⟩ | ⟨rfl, rfl⟩ | ⟨rfl, rfl⟩ <;>
      exact ⟨by decide, by decide, by decide, by decide⟩

end IndentRules

namespace Constructs

/-- A closing keyword ends its block itself, so only the tokens of a line count. -/
theorem after_closingKeyword (stack : Constructs) (ts : List Token) :
    stack.after .closingKeyword ts =
      afterTokens .closingKeyword (firstWord? ts) none ts stack := by
  have hbefore : stack.beforeTokens .closingKeyword ts = stack := by
    rw [beforeTokens, show IndentRules.closingKeyword.colonBlocks = false from rfl, Bool.and_false,
      Bool.false_and, if_neg Bool.false_ne_true]
  have hend (open' : Constructs) : open'.atEnd .closingKeyword ts = open' := by
    have hstarts : startsWith IndentRules.closingKeyword.dedentAfter ts = false := by
      rw [startsWith]
      cases firstWord? ts <;> rfl
    rw [atEnd, show IndentRules.closingKeyword.colonBlocks = false from rfl, hstarts,
      Bool.false_and, Bool.false_and, Bool.false_and, if_neg Bool.false_ne_true,
      if_neg Bool.false_ne_true]
  rw [after, hbefore, hend]

/-- A line that starts with no closer and does not continue a block stands where it is. -/
theorem leadingDedent_eq_zero
    (hmid : startsWith IndentRules.closingKeyword.midKeywords ts = false)
    (hclosers : ts.takeWhile (isCloser .closingKeyword) = []) :
    stack.leadingDedent .closingKeyword ts = 0 := by
  rw [leadingDedent, hmid, if_neg Bool.false_ne_true, hclosers]
  exact Nat.zero_min _

/-- A line with one closer at its start stands one level out. -/
theorem leadingDedent_closer {t : Token}
    (hmid : startsWith IndentRules.closingKeyword.midKeywords (t :: ts) = false)
    (ht : isCloser .closingKeyword t = true)
    (hclosers : ts.takeWhile (isCloser .closingKeyword) = []) :
    leadingDedent .closingKeyword (marker :: stack) (t :: ts) = 1 := by
  rw [leadingDedent, hmid, if_neg Bool.false_ne_true, List.takeWhile_cons_of_pos ht, hclosers]
  exact Nat.min_eq_left (Nat.succ_le_succ (Nat.zero_le _))

/-- The line that ends a keyword block. -/
theorem moves_end (h : IndentRules.closingKeyword.opensBracket marker = false) :
    Moves (marker :: stack) [⟨.word, "end"⟩] 1 stack where
  dedent := leadingDedent_closer (by decide) (by decide) rfl
  after := by
    have hblock : inBlock .closingKeyword (marker :: stack) = true := by
      rw [inBlock, List.head?_cons, Option.any_some, h]
      rfl
    rw [after_closingKeyword]
    show afterKeyword .closingKeyword none (some "end") "end" (marker :: stack) = stack
    rw [afterKeyword, if_neg (by decide), if_neg (by decide), if_pos (by decide), if_pos hblock]
    rfl

/-- A keyword at the start of a line that opens a block. -/
theorem afterToken_openKeyword {first : Option String}
    (h : word ∈ IndentRules.closingKeyword.openKeywords) :
    stack.afterToken .closingKeyword first none ⟨.word, word⟩ = word :: stack := by
  show stack.afterKeyword .closingKeyword none first word = word :: stack
  rw [afterKeyword, if_pos (List.contains_iff_mem.mpr h)]
  exact if_pos rfl

/-- A `do` opens a block. -/
theorem afterToken_do {first : Option String} {previous : Option Token}
    (hprevious : ∀ t, previous = some t → t.text ∉ memberMarks)
    (hfirst : first.any IndentRules.closingKeyword.loopKeywords.contains = false) :
    stack.afterToken .closingKeyword first previous ⟨.word, "do"⟩ = "do" :: stack := by
  have hmember : (previous.any fun p => memberMarks.contains p.text) = false := by
    rcases previous with - | t
    · rfl
    · simpa using hprevious t rfl
  show (if previous.any fun p => memberMarks.contains p.text then stack
    else stack.afterKeyword .closingKeyword previous first "do") = _
  rw [hmember, if_neg Bool.false_ne_true, afterKeyword, if_neg (by decide), if_pos (by decide),
    hfirst, if_neg Bool.false_ne_true]

/-- The `do` of a loop opens no second block. -/
theorem afterToken_do_of_loop {previous : Option Token}
    (h : word ∈ IndentRules.closingKeyword.loopKeywords) :
    stack.afterToken .closingKeyword (some word) previous ⟨.word, "do"⟩ = stack := by
  have hkeyword : stack.afterKeyword .closingKeyword previous (some word) "do" = stack := by
    rw [afterKeyword, if_neg (by decide), if_pos (by decide)]
    exact if_pos (List.contains_iff_mem.mpr h)
  show (if previous.any fun p => memberMarks.contains p.text then stack
    else stack.afterKeyword .closingKeyword previous (some word) "do") = stack
  rw [hkeyword, ite_self]

end Constructs

/-! ## Lines of balanced tokens -/

namespace Balanced

open Constructs

/-- Balanced tokens at the start of a line leave it where it is. -/
theorem leadingDedent_append {us : List Token} (h : Balanced .closingKeyword ts)
    (hmid : startsWith IndentRules.closingKeyword.midKeywords us = false)
    (hclosers : us.takeWhile (isCloser .closingKeyword) = []) :
    stack.leadingDedent .closingKeyword (ts ++ us) = 0 :=
  leadingDedent_eq_zero
    (h.not_startsWith (fun _ => IndentRules.isKeyword_of_mem_midKeywords) hmid)
    (h.takeWhile_isCloser hclosers)

/-- A simple line. -/
theorem moves (h : Balanced .closingKeyword ts) : stack.Moves ts 0 stack where
  dedent := by
    rw [← ts.append_nil]
    exact h.leadingDedent_append rfl rfl
  after := by rw [after_closingKeyword, h.afterTokens]

variable {opener closer : String}

/-- A line that opens a bracket at its end. -/
theorem moves_opening (h : Balanced .closingKeyword ts)
    (hpairs : IndentRules.closingKeyword.Pairs opener closer) :
    stack.Moves (ts ++ [⟨.punct, opener⟩]) 0 (opener :: stack) where
  dedent := by
    refine h.leadingDedent_append rfl (List.takeWhile_cons_of_neg ?_)
    rw [isCloser, hpairs.not_closes]
    exact Bool.false_ne_true
  after := by
    rw [after_closingKeyword, afterTokens_append, h.afterTokens, Constructs.afterTokens,
      afterToken_opener hpairs.opens, afterTokens_nil]

/-- A line that closes a bracket at its start. -/
theorem moves_closing (h : Balanced .closingKeyword ts)
    (hpairs : IndentRules.closingKeyword.Pairs opener closer) :
    Moves (opener :: stack) (⟨.punct, closer⟩ :: ts) 1 stack where
  dedent := by
    refine leadingDedent_closer rfl ?_ ?_
    · rw [isCloser, IndentRules.closesBracket, hpairs.closes]
      rfl
    · rw [← ts.append_nil]
      exact h.takeWhile_isCloser rfl
  after := by
    rw [after_closingKeyword, Constructs.afterTokens, afterToken_closer hpairs, h.afterTokens]

end Balanced

/-! ## Lines with a keyword -/

namespace Header

open Constructs

theorem ne_nil (h : Header marker ts) : ts ≠ [] := by
  cases h with
  | keyword _ _ => exact List.cons_ne_nil _ _
  | loop _ _ => exact List.cons_ne_nil _ _
  | inline _ _ => exact List.concat_ne_nil _ _

/-- A keyword block is opened by no bracket. -/
theorem opensBracket_eq_false (h : Header marker ts) :
    IndentRules.closingKeyword.opensBracket marker = false := by
  cases h with
  | keyword hword _ => exact (IndentRules.openKeyword_only hword).2.2
  | loop hword _ => exact (IndentRules.openKeyword_only (IndentRules.loopKeyword_opens hword)).2.2
  | inline _ _ => rfl

theorem leadingDedent_openKeyword (h : word ∈ IndentRules.closingKeyword.openKeywords) :
    stack.leadingDedent .closingKeyword (⟨.word, word⟩ :: ts) = 0 := by
  obtain ⟨hmid, hclose, -⟩ := IndentRules.openKeyword_only h
  refine leadingDedent_eq_zero hmid (List.takeWhile_cons_of_neg ?_)
  rw [isCloser, hclose]
  exact Bool.false_ne_true

/-- The first line of a keyword block. -/
theorem moves (h : Header marker ts) : stack.Moves ts 0 (marker :: stack) := by
  cases h with
  | keyword hword hts =>
    refine ⟨leadingDedent_openKeyword hword, ?_⟩
    rw [after_closingKeyword, Constructs.afterTokens, afterToken_openKeyword hword,
      hts.afterTokens]
  | loop hword hts =>
    refine ⟨leadingDedent_openKeyword (IndentRules.loopKeyword_opens hword), ?_⟩
    rw [after_closingKeyword, Constructs.afterTokens,
      afterToken_openKeyword (IndentRules.loopKeyword_opens hword), afterTokens_append,
      hts.afterTokens]
    -- The `do` meets the block that the loop has opened already.
    exact afterToken_do_of_loop hword
  | @inline ts hts hmember =>
    refine ⟨hts.leadingDedent_append rfl rfl, ?_⟩
    rw [after_closingKeyword, afterTokens_append, hts.afterTokens]
    refine afterToken_do (fun t ht => hmember t ?_) ?_
    · rwa [Token.last_none] at ht
    · exact hts.not_startsWith (fun _ => IndentRules.isKeyword_of_mem_loopKeywords) rfl

end Header

theorem Middle.ne_nil (h : Middle ts) : ts ≠ [] := by
  obtain ⟨-, -⟩ := h
  exact List.cons_ne_nil _ _

/-- A line that continues a keyword block stands at the level of the block, and leaves it open. -/
theorem Middle.moves (h : Middle ts) :
    Constructs.Moves (marker :: stack) ts 1 (marker :: stack) := by
  obtain ⟨hword, hts⟩ := h
  obtain ⟨hopen, hinline, hclose⟩ := IndentRules.midKeyword_only hword
  constructor
  · rw [Constructs.leadingDedent, startsWith, firstWord?, if_pos rfl, Option.any_some,
      List.contains_iff_mem.mpr hword, if_pos rfl]
    exact Nat.min_eq_left (Nat.succ_le_succ (Nat.zero_le _))
  · rw [Constructs.after_closingKeyword, Constructs.afterTokens, hts.afterTokens]
    show Constructs.afterKeyword .closingKeyword none _ _ (marker :: stack) = _
    rw [Constructs.afterKeyword, hopen, hinline, hclose, if_neg Bool.false_ne_true,
      if_neg Bool.false_ne_true, if_neg Bool.false_ne_true]

end PromptLoop
