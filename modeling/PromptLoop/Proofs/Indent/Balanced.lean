import PromptLoop.Indent.Constructs

/-!
# Balanced tokens

Tokens that hold no keyword, and whose brackets close one another, leave the open constructs as they
are. They may stand anywhere in a line.

## Main definitions

* `IndentRules.isKeyword`: a word that the rules know
* `Token.Neutral`: a token that is neither a keyword nor a bracket
* `IndentRules.Pairs`: an opening and a closing bracket that belong together
* `Balanced`: neutral tokens, and brackets that close one another
* `Token.last`: the token before a position

## Main results

* `Constructs.afterTokens_append`: the constructs after two parts of a line
* `Balanced.afterTokens`: balanced tokens leave the constructs as they are
* `Balanced.takeWhile_isCloser`, `Balanced.not_startsWith`: a line that starts with balanced tokens
  starts with no closer and with no keyword
-/

namespace PromptLoop

variable {rules : IndentRules} {ts us : List Token}

/-- A word that the rules know. -/
def IndentRules.isKeyword (rules : IndentRules) (word : String) : Bool :=
  (rules.openKeywords ++ rules.inlineOpenKeywords ++ rules.closeKeywords ++ rules.midKeywords ++
    rules.loopKeywords ++ rules.dedentAfter).contains word

namespace Token

/-- A token that is neither a keyword nor a bracket. -/
def Neutral (rules : IndentRules) (t : Token) : Prop :=
  match t.kind with
  | .string => True
  | .number => True
  | .word => rules.isKeyword t.text = false
  | .punct => rules.opensBracket t.text = false ∧ rules.closesBracket t.text = false

/-- The last of some tokens, or else the one before them. -/
def last (previous : Option Token) (ts : List Token) : Option Token :=
  ts.foldl (fun _ t => some t) previous

theorem last_none (ts : List Token) : last none ts = ts.getLast? := by
  rcases ts.eq_nil_or_concat with rfl | ⟨front, t, rfl⟩
  · rfl
  · rw [List.concat_eq_append, last, List.foldl_append, List.getLast?_append]
    rfl

end Token

/-- An opening and a closing bracket that belong together, and have no other use. -/
structure IndentRules.Pairs (rules : IndentRules) (opener closer : String) : Prop where
  opens : rules.opensBracket opener = true
  not_closes : rules.closesBracket opener = false
  closes : rules.opener? closer = some opener
  not_opens : rules.opensBracket closer = false

/-- Neutral tokens, and brackets that close one another. -/
inductive Balanced (rules : IndentRules) : List Token → Prop
  | nil : Balanced rules []
  | neutral {t : Token} {ts : List Token} : t.Neutral rules → Balanced rules ts →
      Balanced rules (t :: ts)
  | bracket {opener closer : String} {inside after : List Token} : rules.Pairs opener closer →
      Balanced rules inside → Balanced rules after →
      Balanced rules (⟨.punct, opener⟩ :: inside ++ ⟨.punct, closer⟩ :: after)

/-! ## What balanced tokens leave open -/

/-- A word that the rules do not know is in none of their sets. -/
theorem IndentRules.isKeyword_eq_false_iff {word : String} :
    rules.isKeyword word = false ↔
      (rules.openKeywords.contains word = false ∧ rules.inlineOpenKeywords.contains word = false ∧
        rules.closeKeywords.contains word = false ∧ rules.midKeywords.contains word = false) ∧
      rules.loopKeywords.contains word = false ∧ rules.dedentAfter.contains word = false := by
  simp [isKeyword, and_assoc]

/-- A bracket that a closing bracket closes is an opening bracket. -/
theorem IndentRules.opensBracket_of_opener? {text opener : String}
    (h : rules.opener? text = some opener) : rules.opensBracket opener = true := by
  obtain ⟨pair, hpair, rfl⟩ := Option.map_eq_some_iff.mp h
  have hmem := List.mem_reverse.mp (List.mem_of_find?_eq_some hpair)
  exact List.any_eq_true.mpr ⟨pair, hmem, beq_self_eq_true _⟩

namespace Constructs

variable {first : Option String} {previous : Option Token} {stack : Constructs}

/-- The constructs after two parts of a line. -/
theorem afterTokens_append (ts us : List Token) :
    afterTokens rules first previous (ts ++ us) stack =
      afterTokens rules first (Token.last previous ts) us
        (afterTokens rules first previous ts stack) := by
  induction ts generalizing previous stack with
  | nil => rfl
  | cons t ts ih => exact ih

theorem afterToken_neutral {t : Token} (h : t.Neutral rules) :
    stack.afterToken rules first previous t = stack := by
  obtain ⟨kind, text⟩ := t
  cases kind with
  | string => rfl
  | number => rfl
  | punct =>
    obtain ⟨hopens, hcloses⟩ := h
    have hopener : rules.opener? text = none := by
      simpa [IndentRules.closesBracket] using hcloses
    simp only [afterToken, afterPunct, hopens, hopener, Bool.false_eq_true, if_false]
  | word =>
    obtain ⟨⟨hopen, hinline, hclose, -⟩, -⟩ := IndentRules.isKeyword_eq_false_iff.mp h
    simp only [afterToken, afterKeyword, hopen, hinline, hclose, Bool.false_eq_true, if_false,
      ite_self]

theorem afterToken_opener {opener : String} (h : rules.opensBracket opener = true) :
    stack.afterToken rules first previous ⟨.punct, opener⟩ = opener :: stack := by
  simp only [afterToken, afterPunct, h, if_true]

theorem afterToken_closer {opener closer : String} (h : rules.Pairs opener closer) :
    afterToken rules first previous ⟨.punct, closer⟩ (opener :: stack) = stack := by
  simp only [afterToken, afterPunct, h.not_opens, h.closes, List.head?_cons, Bool.false_eq_true,
    if_true, if_false, List.tail_cons]

end Constructs

/-- A neutral token closes nothing. -/
theorem isCloser_neutral {t : Token} (h : t.Neutral rules) : isCloser rules t = false := by
  obtain ⟨kind, text⟩ := t
  cases kind with
  | string => rfl
  | number => rfl
  | punct =>
    obtain ⟨-, hcloses⟩ := h
    rw [isCloser, hcloses]
    rfl
  | word =>
    obtain ⟨⟨-, -, hclose, -⟩, -⟩ := IndentRules.isKeyword_eq_false_iff.mp h
    rw [isCloser, hclose]
    rfl

namespace Balanced

open Constructs

/-- **Balanced tokens leave the constructs as they are.** -/
theorem afterTokens (h : Balanced rules ts) (first : Option String) (previous : Option Token)
    (stack : Constructs) : Constructs.afterTokens rules first previous ts stack = stack := by
  induction h generalizing previous stack with
  | nil => rfl
  | neutral ht _ ih => rw [Constructs.afterTokens, afterToken_neutral ht, ih]
  | bracket hpairs _ _ ihinside ihafter =>
    -- The tokens inside find the bracket on top, and leave it there for the one that closes it.
    rw [List.cons_append, Constructs.afterTokens, afterToken_opener hpairs.opens,
      afterTokens_append, ihinside, Constructs.afterTokens, afterToken_closer hpairs, ihafter]

/-- A line that starts with balanced tokens starts with no closer. -/
theorem takeWhile_isCloser (h : Balanced rules ts) (hus : us.takeWhile (isCloser rules) = []) :
    (ts ++ us).takeWhile (isCloser rules) = [] := by
  cases h with
  | nil => exact hus
  | neutral ht _ =>
    rw [List.cons_append, List.takeWhile_cons_of_neg (by simp [isCloser_neutral ht])]
  | bracket hpairs _ _ =>
    rw [List.cons_append, List.cons_append,
      List.takeWhile_cons_of_neg (by simp [isCloser, hpairs.not_closes])]

/-- A line that starts with balanced tokens starts with no keyword. -/
theorem not_startsWith (h : Balanced rules ts) {keywords : List String}
    (hkeywords : ∀ k ∈ keywords, rules.isKeyword k = true)
    (hus : startsWith keywords us = false) : startsWith keywords (ts ++ us) = false := by
  cases h with
  | nil => exact hus
  | @neutral t ts ht _ =>
    obtain ⟨kind, text⟩ := t
    cases kind with
    | word =>
      have hword : rules.isKeyword text = false := ht
      have hmem : text ∉ keywords := fun hmem => by simp [hkeywords text hmem] at hword
      simpa [startsWith, firstWord?] using hmem
    | _ => rfl
  | bracket hpairs _ _ => rfl

end Balanced

end PromptLoop
