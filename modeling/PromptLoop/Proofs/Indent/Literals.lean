import Mathlib.Data.List.Forall2
import PromptLoop.Proofs.Indent.Reindentation
import PromptLoop.Proofs.Indent.Scanning

/-!
# String literals and comments are opaque

The rules of indentation look at the words of a line, at its punctuation and at what stands before
a word. No rule mentions a text that starts with a quotation mark, so a tracker cannot tell two
string literals from one another. A comment is no token at all.

## Main definitions

* `Token.Alike`: tokens that no rule tells from one another
* `Tracker.TreatsAlike`: lines that a tracker indents equally far, and after which it is the same

## Main results

* `Constructs.after_alike`: alike tokens open and close the same constructs
* `Tracker.treatsAlike_of_alike`: lines of alike tokens are treated alike
* `Tracker.literals_opaque`: lines that differ inside of a string literal or a comment are
-/

namespace PromptLoop

open Text Scanner

namespace Token

/-- A string literal with the quotation mark that it starts with. -/
def IsLiteral (t : Token) : Prop :=
  t.kind = .string ∧ ∃ quote rest, IsQuote quote ∧ t.text = String.ofList (quote :: rest)

/-- Tokens that no rule tells from one another: string literals, whatever is in them, and otherwise
the same ones. -/
def Alike (t u : Token) : Prop := t = u ∨ t.IsLiteral ∧ u.IsLiteral

variable {t u : Token} {marks : List String}

theorem isLiteral_token {quote : Char} (hquote : IsQuote quote) (body : List Char) :
    (token .string (quote :: (body ++ [quote]))).IsLiteral := by
  refine ⟨rfl, quote, body.reverse ++ [quote], hquote, ?_⟩
  rw [token, List.reverse_cons, List.reverse_append]
  rfl

/-- No text starts with a quotation mark. -/
def unquoted (marks : List String) : Bool :=
  marks.all fun mark => mark.toList.head?.all fun c => !decide (IsQuote c)

/-- A string literal is not among texts that start with no quotation mark. -/
theorem IsLiteral.not_mem (h : t.IsLiteral) (hmarks : unquoted marks = true) :
    marks.contains t.text = false := by
  obtain ⟨-, quote, rest, hquote, htext⟩ := h
  rw [← Bool.not_eq_true, List.contains_iff_mem, htext]
  intro hmem
  have hhead := List.all_eq_true.mp hmarks _ hmem
  rw [String.toList_ofList, List.head?_cons, Option.all_some, decide_eq_true hquote] at hhead
  cases hhead

theorem IsLiteral.ne_colon (h : t.IsLiteral) : (t.text == colon) = false := by
  have hcolon := h.not_mem (show unquoted [colon] = true by decide)
  simpa using hcolon

namespace Alike

theorem contains_eq (h : t.Alike u) (hmarks : unquoted marks = true) :
    marks.contains t.text = marks.contains u.text := by
  obtain rfl | ⟨ht, hu⟩ := h
  · rfl
  · rw [ht.not_mem hmarks, hu.not_mem hmarks]

theorem isCloser_eq (h : t.Alike u) (rules : IndentRules) :
    isCloser rules t = isCloser rules u := by
  obtain rfl | ⟨ht, hu⟩ := h
  · rfl
  · rw [isCloser, isCloser, ht.1, hu.1]
    rfl

theorem isColon_eq (h : t.Alike u) : (t.text == colon) = (u.text == colon) := by
  obtain rfl | ⟨ht, hu⟩ := h
  · rfl
  · rw [ht.ne_colon, hu.ne_colon]

end Alike

end Token

/-! ## Constructs -/

namespace Constructs

variable {rules : IndentRules} {ts us : List Token}

theorem firstWord?_alike (h : List.Forall₂ Token.Alike ts us) : firstWord? ts = firstWord? us := by
  cases h with
  | nil => rfl
  | cons h _ =>
    obtain rfl | ⟨ht, hu⟩ := h
    · rfl
    · rw [firstWord?, firstWord?, ht.1, hu.1]
      rfl

theorem startsWith_alike (h : List.Forall₂ Token.Alike ts us) (keywords : List String) :
    startsWith keywords ts = startsWith keywords us := by
  rw [startsWith, startsWith, firstWord?_alike h]

theorem closers_alike (h : List.Forall₂ Token.Alike ts us) :
    (ts.takeWhile (isCloser rules)).length = (us.takeWhile (isCloser rules)).length := by
  induction h with
  | nil => rfl
  | cons h _ ih =>
    rw [List.takeWhile_cons, List.takeWhile_cons, h.isCloser_eq rules]
    split
    · rw [List.length_cons, List.length_cons, ih]
    · rfl

theorem leadingDedent_alike (h : List.Forall₂ Token.Alike ts us) (stack : Constructs) :
    stack.leadingDedent rules ts = stack.leadingDedent rules us := by
  rw [leadingDedent, leadingDedent, startsWith_alike h, closers_alike h]

theorem resync_alike (h : List.Forall₂ Token.Alike ts us) (width : Int) (leading : Nat)
    (stack : Constructs) :
    stack.resync rules width leading ts = stack.resync rules width leading us := by
  rw [resync, resync, writtenLevel, writtenLevel, startsWith_alike h]

/-- A keyword takes the same effect after alike tokens. -/
theorem afterKeyword_alike {first : Option String} {previous other : Option Token}
    (h : Option.Rel Token.Alike previous other) (word : String) (stack : Constructs) :
    stack.afterKeyword rules previous first word = stack.afterKeyword rules other first word := by
  cases h with
  | none => rfl
  | some h =>
    have hstarters : Token.unquoted expressionStarters = true := by decide
    rw [afterKeyword, afterKeyword, Option.all_some, Option.all_some, h.contains_eq hstarters]

theorem afterToken_alike {first : Option String} {previous other : Option Token} {t u : Token}
    (hprevious : Option.Rel Token.Alike previous other) (h : t.Alike u) (stack : Constructs) :
    stack.afterToken rules first previous t = stack.afterToken rules first other u := by
  obtain rfl | ⟨ht, hu⟩ := h
  · -- The token before a word counts by its text alone, as a mark or as what a statement follows.
    have hmarked : previous.any (fun p => memberMarks.contains p.text) =
        other.any fun p => memberMarks.contains p.text := by
      have hmarks : Token.unquoted memberMarks = true := by decide
      cases hprevious with
      | none => rfl
      | some h => exact h.contains_eq hmarks
    rw [afterToken, afterToken, hmarked, afterKeyword_alike hprevious]
  · rw [afterToken, afterToken, ht.1, hu.1]

theorem afterTokens_alike {first : Option String} {previous other : Option Token}
    (hprevious : Option.Rel Token.Alike previous other) (h : List.Forall₂ Token.Alike ts us)
    (stack : Constructs) :
    stack.afterTokens rules first previous ts = stack.afterTokens rules first other us := by
  induction h generalizing previous other stack with
  | nil => rfl
  | cons h _ ih => rw [afterTokens, afterTokens, afterToken_alike hprevious h, ih (.some h)]

theorem endsInColon_alike (h : List.Forall₂ Token.Alike ts us) :
    ts.getLast?.any (·.text == colon) = us.getLast?.any (·.text == colon) := by
  induction h with
  | nil => rfl
  | @cons t u ts us h hrest ih =>
    cases hrest with
    | nil => exact h.isColon_eq
    | cons _ _ => rwa [List.getLast?_cons_cons, List.getLast?_cons_cons]

/-- **Alike tokens open and close the same constructs.** -/
theorem after_alike (h : List.Forall₂ Token.Alike ts us) (stack : Constructs) :
    stack.after rules ts = stack.after rules us := by
  have hbefore : stack.beforeTokens rules ts = stack.beforeTokens rules us := by
    rw [beforeTokens, beforeTokens, startsWith_alike h]
  have hend : ∀ stack : Constructs, stack.atEnd rules ts = stack.atEnd rules us := by
    intro stack
    rw [atEnd, atEnd, startsWith_alike h, endsInColon_alike h]
  rw [after, after, hbefore, firstWord?_alike h, afterTokens_alike .none h, hend]

end Constructs

/-! ## Lines -/

namespace Tracker

/-- Lines that a tracker indents equally far, and after which it is the same. The tracker that runs
gives both back or refuses both. -/
structure TreatsAlike (t : Tracker) (line other : List Char) : Prop where
  indented : ∃ n, (t.indent line).1 = List.replicate n ' ' ++ trim line ∧
    (t.indent other).1 = List.replicate n ' ' ++ trim other
  left : (t.indent line).2 = (t.indent other).2
  ran : ∀ ε : Type, ∃ (count : Except Failure Nat) (after : Tracker),
    (indent? line t : Run ε Tracker _) =
        ⟨count.map fun n => List.replicate n ' ' ++ trim line, after, []⟩ ∧
      (indent? other t : Run ε Tracker _) =
        ⟨count.map fun n => List.replicate n ' ' ++ trim other, after, []⟩

variable {t : Tracker} {line other p : List Char}

/-- **Lines of alike tokens are treated alike**, if they start with equally many blanks. -/
theorem treatsAlike_of_alike (hline : '\n' ∉ line) (hother : '\n' ∉ other)
    (hcode : trim line ≠ []) (hcode' : trim other ≠ [])
    (hleading : leadingBlanks line = leadingBlanks other)
    (htokens : List.Forall₂ Token.Alike (tokens (trim line)) (tokens (trim other))) :
    t.TreatsAlike line other := by
  -- A tracker sees a line by the blanks in front of it and by its tokens.
  have hresynced : t.resynced line = t.resynced other := by
    rw [resynced, resynced, hleading, Constructs.resync_alike htokens]
  have hdepth : t.lineDepth line = t.lineDepth other := by
    rw [lineDepth, lineDepth, hresynced, Constructs.leadingDedent_alike htokens]
  have hempty : ¬(trim line).isEmpty = true := by rwa [List.isEmpty_iff]
  have hempty' : ¬(trim other).isEmpty = true := by rwa [List.isEmpty_iff]
  have hdivides : t.divides line = t.divides other := by
    rw [divides, divides, hleading, Bool.eq_false_iff.mpr hempty, Bool.eq_false_iff.mpr hempty']
  have hleft : (t.indentLine line).2 = (t.indentLine other).2 := by
    rw [indentLine, indentLine, if_neg hempty, if_neg hempty', hresynced,
      Constructs.after_alike htokens]
  constructor
  · rw [indent_line hline, indent_line hother, indentLine_code hcode, indentLine_code hcode',
      hdepth]
    exact ⟨_, rfl, rfl⟩
  · rw [indent_line hline, indent_line hother, hleft]
  · intro ε
    rw [indent?_line hline, indent?_line hother, indentLine?, indentLine?, if_neg hempty,
      if_neg hempty', hdivides, hdepth, hresynced, hleft]
    split
    · exact ⟨.error zeroWidth, t, rfl, rfl⟩
    · rw [Padding.blanks?]
      cases Padding.length? t.memory (t.width * t.lineDepth other) with
      | error f => exact ⟨.error f, _, rfl, rfl⟩
      | ok n => exact ⟨.ok n, _, rfl, rfl⟩

/-- The same up to a character that is no blank, on both lines. -/
theorem treatsAlike_append_cons {c : Char} {rest rest' : List Char} (hp : '\n' ∉ p)
    (hc : isBlank c = false) (hrest : '\n' ∉ rest) (hrest' : '\n' ∉ rest')
    (htokens : List.Forall₂ Token.Alike (tokens (trimStart p ++ c :: trimEnd rest))
      (tokens (trimStart p ++ c :: trimEnd rest'))) :
    t.TreatsAlike (p ++ c :: rest) (p ++ c :: rest') := by
  have hnewline : ∀ ds, '\n' ∉ ds → '\n' ∉ p ++ c :: ds := by
    intro ds hds hmem
    rcases List.mem_append.mp hmem with hmem | hmem
    · exact hp hmem
    · rcases List.mem_cons.mp hmem with rfl | hmem
      · exact absurd hc (by decide)
      · exact hds hmem
  have htrim : ∀ ds, trim (p ++ c :: ds) ≠ [] := by
    intro ds
    rw [trim_append_cons hc]
    exact List.append_ne_nil_of_right_ne_nil _ (List.cons_ne_nil _ _)
  refine treatsAlike_of_alike (hnewline _ hrest) (hnewline _ hrest') (htrim _) (htrim _) ?_ ?_
  · rw [leadingBlanks_append_cons hc, leadingBlanks_append_cons hc]
  · rwa [trim_append_cons hc, trim_append_cons hc]

/-- **String literals and comments are opaque.** In whatever state a tracker is, a line that is
outside of strings and comments at some place may continue there with a string literal, or with a
comment: whatever is in it, the tracker indents the line equally far, and is the same after it. -/
theorem literals_opaque (t : Tracker) (hp : '\n' ∉ p)
    (hcode : (run .between p).2.isCode = true) :
    (∀ quote body other rest, IsQuote quote → StringBody quote body → StringBody quote other →
        '\n' ∉ rest →
        t.TreatsAlike (p ++ quote :: (body ++ quote :: rest))
          (p ++ quote :: (other ++ quote :: rest))) ∧
      ∀ comment other, '\n' ∉ comment → '\n' ∉ other →
        t.TreatsAlike (p ++ '#' :: comment) (p ++ '#' :: other) := by
  -- The blanks in front of a line are trimmed, and leave the reader where it is.
  rw [← run_trimStart] at hcode
  constructor
  · intro quote body other rest hquote hbody hother hrest
    have hquoteBlank : isBlank quote = false ∧ '\n' ≠ quote := by
      rcases hquote with rfl | rfl <;> decide
    have hends : ∀ b, StringBody quote b → '\n' ∉ b ++ quote :: rest := by
      intro b hb
      rw [List.mem_append, List.mem_cons, not_or, not_or]
      exact ⟨hb.newline_not_mem, hquoteBlank.2, hrest⟩
    refine treatsAlike_append_cons hp hquoteBlank.1 (hends _ hbody) (hends _ hother) ?_
    -- The second quotation mark keeps the body from being trimmed.
    rw [trimEnd_append_cons hquoteBlank.1, trimEnd_append_cons hquoteBlank.1,
      tokens_literal hcode hquote hbody, tokens_literal hcode hquote hother]
    have hsame : ∀ ts, List.Forall₂ Token.Alike ts ts := by
      intro ts
      exact List.forall₂_same.mpr fun t _ => .inl rfl
    refine List.rel_append (hsame _) (.cons (.inr ⟨?_, ?_⟩) (hsame _))
    · exact Token.isLiteral_token hquote _
    · exact Token.isLiteral_token hquote _
  · intro comment other hcomment hother
    refine treatsAlike_append_cons hp (by decide) hcomment hother ?_
    rw [tokens_comment hcode, tokens_comment hcode]
    exact List.forall₂_same.mpr fun t _ => .inl rfl

/-- What would open a block, a bracket, a comment or a colon block opens nothing in a string, and an
escaped quotation mark does not end one. -/
theorem literals_opaque_argument :
    let t : Tracker := { stack := ["if"] }
    let p := "  puts(a, ".toList
    ('\n' ∉ p ∧ (run .between p).2.isCode = true) ∧
      (IsQuote '"' ∧ StringBody '"' "do(".toList ∧ StringBody '"' "\\\"#:".toList ∧
        '\n' ∉ " end".toList) ∧
      t.TreatsAlike "  puts(a, \"do(\" end".toList "  puts(a, \"\\\"#:\" end".toList ∧
      ('\n' ∉ "end".toList ∧ '\n' ∉ ") do".toList) ∧
        t.TreatsAlike "  puts(a, #end".toList "  puts(a, #) do".toList := by
  intro t p
  have hp : '\n' ∉ p := by decide
  have hcode : (run .between p).2.isCode = true := by decide
  have hquote : IsQuote '"' := .inl rfl
  have hcall : StringBody '"' "do(".toList :=
    .char (by decide) (by decide) (by decide) <| .char (by decide) (by decide) (by decide) <|
      .char (by decide) (by decide) (by decide) .nil
  have hescaped : StringBody '"' "\\\"#:".toList :=
    .escape (by decide) <| .char (by decide) (by decide) (by decide) <|
      .char (by decide) (by decide) (by decide) .nil
  have hrest : '\n' ∉ " end".toList := by decide
  have hends : '\n' ∉ "end".toList ∧ '\n' ∉ ") do".toList := by decide
  obtain ⟨hliterals, hcomments⟩ := literals_opaque t hp hcode
  exact ⟨⟨hp, hcode⟩, ⟨hquote, hcall, hescaped, hrest⟩,
    hliterals '"' _ _ _ hquote hcall hescaped hrest, hends, hcomments _ _ hends.1 hends.2⟩

end Tracker

end PromptLoop
