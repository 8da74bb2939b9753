import PromptLoop.Proofs.Indent.Program
import PromptLoop.Proofs.Indent.Reindentation

/-!
# Lines that start with closers

A line stands out by one level for each closer that it starts with. The closers themselves close
what they belong to: a keyword the block that it is in, a bracket the bracket that it ends. One that
meets something else on top closes nothing, and is idle. So a line stands as many levels out of what
its closers leave open as there are idle ones among them.

## Main definitions

* `Constructs.closedBy`: a closer closes the innermost construct
* `Constructs.idle`: how many of some closers close nothing

## Main results

* `Constructs.afterToken_closer_eq`: what a closer makes of the open constructs
* `Constructs.length_afterLeadingClosers`: how many constructs the closers leave open
* `Constructs.lineDepth_of_closers`: where the line stands that starts with them
* `Constructs.stands_after_closers`: it stands at what they leave open if none of them is idle
-/

namespace PromptLoop

open Text

/-- The closers under the rules for closing keywords. -/
theorem isCloser_closingKeyword {t : Token} (h : isCloser .closingKeyword t = true) :
    t = ⟨.word, "end"⟩ ∨
      ∃ opener closer, t = ⟨.punct, closer⟩ ∧ IndentRules.closingKeyword.Pairs opener closer := by
  obtain ⟨kind, text⟩ := t
  rw [isCloser, Bool.or_eq_true, Bool.and_eq_true, Bool.and_eq_true] at h
  rcases h with ⟨hkind, hword⟩ | ⟨hkind, hbracket⟩
  · obtain rfl : kind = .word := eq_of_beq hkind
    obtain rfl : text = "end" := List.mem_singleton.mp (List.contains_iff_mem.mp hword)
    exact .inl rfl
  · obtain rfl : kind = .punct := eq_of_beq hkind
    obtain ⟨opener, hopener⟩ := Option.isSome_iff_exists.mp hbracket
    obtain ⟨⟨first, second⟩, hfind, rfl⟩ := Option.map_eq_some_iff.mp hopener
    have hsecond := List.find?_some hfind
    obtain rfl : second = text := eq_of_beq hsecond
    refine .inr ⟨first, second, rfl, IndentRules.pairs_closingKeyword_iff.mpr ?_⟩
    exact List.mem_reverse.mp (List.mem_of_find?_eq_some hfind)

/-- A word after a closer is a word of its own and no member. -/
theorem not_mem_memberMarks_of_isCloser {t : Token} (h : isCloser .closingKeyword t = true) :
    t.text ∉ memberMarks := by
  rcases isCloser_closingKeyword h with rfl | ⟨opener, closer, rfl, hpairs⟩
  · decide
  · have hbrackets := IndentRules.pairs_closingKeyword_iff.mp hpairs
    simp only [IndentRules.closingKeyword, List.mem_cons, Prod.mk.injEq, List.not_mem_nil,
      or_false] at hbrackets
    rcases hbrackets with ⟨-, rfl⟩ | ⟨-, rfl⟩ | ⟨-, rfl⟩ <;> decide

namespace Constructs

/-! ## What closers leave open -/

/-- A closer closes the innermost construct: a keyword does if that is a block, and a bracket if
that is the bracket that it ends. -/
def closedBy (rules : IndentRules) (t : Token) (stack : Constructs) : Bool :=
  match t.kind with
  | .word => stack.inBlock rules
  | .punct => (rules.opener? t.text).any fun opener => stack.head? == some opener
  | .string => false
  | .number => false

/-- How many of some closers close nothing, when each is met by what those before it leave. -/
def idle (rules : IndentRules) : List Token → Constructs → Nat
  | [], _ => 0
  | t :: ts, stack =>
    if stack.closedBy rules t then idle rules ts stack.tail else idle rules ts stack + 1

variable {stack : Constructs} {first : Option String} {previous : Option Token} {t : Token}
  {closers : List Token}

/-- Where nothing is open, nothing is closed. -/
theorem ne_nil_of_closedBy {rules : IndentRules} (h : stack.closedBy rules t = true) :
    stack ≠ [] := by
  rintro rfl
  unfold closedBy at h
  split at h <;> simp [inBlock] at h

/-- **A closer closes the innermost construct or nothing.** -/
theorem afterToken_closer_eq (h : isCloser .closingKeyword t = true)
    (hprevious : ∀ p, previous = some p → p.text ∉ memberMarks) :
    stack.afterToken .closingKeyword first previous t =
      if stack.closedBy .closingKeyword t then stack.tail else stack := by
  rcases isCloser_closingKeyword h with rfl | ⟨opener, closer, rfl, hpairs⟩
  · have hmember : (previous.any fun p => memberMarks.contains p.text) = false := by
      cases previous with
      | none => rfl
      | some p => simpa using hprevious p rfl
    -- The word before it, if any, makes no member of it, so it is read as a keyword.
    show (if previous.any fun p => memberMarks.contains p.text then stack
      else stack.afterKeyword .closingKeyword previous first "end") = _
    rw [hmember, if_neg Bool.false_ne_true, afterKeyword, if_neg (by decide), if_neg (by decide),
      if_pos (by decide)]
    rfl
  · show stack.afterPunct .closingKeyword closer = _
    simp [afterPunct, closedBy, hpairs.not_opens, hpairs.closes]

/-- Closers leave as many constructs open as there were, but for one for each that is not idle. -/
theorem length_afterTokens_closers (h : ∀ t ∈ closers, isCloser .closingKeyword t = true)
    (hprevious : ∀ p, previous = some p → p.text ∉ memberMarks) :
    (stack.afterTokens .closingKeyword first previous closers).length + closers.length =
      stack.length + stack.idle .closingKeyword closers := by
  -- by induction on the closers: the next one is met by what the first has left
  induction closers generalizing previous stack with
  | nil => rfl
  | cons t closers ih =>
    obtain ⟨ht, hclosers⟩ := List.forall_mem_cons.mp h
    have hnext : ∀ p, some t = some p → p.text ∉ memberMarks := by
      rintro p ⟨⟩
      exact not_mem_memberMarks_of_isCloser ht
    rw [afterTokens, afterToken_closer_eq ht hprevious, idle, List.length_cons]
    by_cases hcloses : stack.closedBy .closingKeyword t = true
    · have hpos := List.length_pos_iff.mpr (ne_nil_of_closedBy hcloses)
      have hleft := @ih stack.tail _ hclosers hnext
      rw [List.length_tail] at hleft
      rw [if_pos hcloses, if_pos hcloses]
      omega
    · have hleft := @ih stack _ hclosers hnext
      rw [if_neg hcloses, if_neg hcloses]
      omega

/-! ## Where the line stands -/

variable {width : Int} {memory : Nat} {line : List Char}

/-- The closers that a line starts with. -/
def leadingClosers (ts : List Token) : List Token := ts.takeWhile (isCloser .closingKeyword)

/-- What the closers at the start of a line leave open. -/
def afterLeadingClosers (ts : List Token) (stack : Constructs) : Constructs :=
  stack.afterTokens .closingKeyword (firstWord? ts) none (leadingClosers ts)

/-- The rest of a line is met by what its leading closers leave open. -/
theorem after_eq_afterLeadingClosers (stack : Constructs) (ts : List Token) :
    stack.after .closingKeyword ts =
      (stack.afterLeadingClosers ts).afterTokens .closingKeyword (firstWord? ts)
        (leadingClosers ts).getLast? (ts.dropWhile (isCloser .closingKeyword)) := by
  rw [after_closingKeyword, afterLeadingClosers, ← Token.last_none, ← afterTokens_append]
  simp [leadingClosers]

/-- What the leading closers leave open, counted: each that is not idle has closed a construct. -/
theorem length_afterLeadingClosers (stack : Constructs) (ts : List Token) :
    (stack.afterLeadingClosers ts).length + (leadingClosers ts).length =
      stack.length + stack.idle .closingKeyword (leadingClosers ts) := by
  have hclosers : ∀ t ∈ leadingClosers ts, isCloser .closingKeyword t = true :=
    List.all_eq_true.mp List.all_takeWhile
  exact length_afterTokens_closers hclosers nofun

/-- **A line stands as many levels out of what its leading closers leave open as there are idle ones
among them.** -/
theorem lineDepth_of_closers
    (hmid : startsWith IndentRules.closingKeyword.midKeywords (tokens (trim line)) = false) :
    (stack.tracker width memory).lineDepth line =
      (stack.afterLeadingClosers (tokens (trim line))).length -
        stack.idle .closingKeyword (leadingClosers (tokens (trim line))) := by
  have hleft := length_afterLeadingClosers stack (tokens (trim line))
  -- The line itself counts its closers without a look at what they meet.
  have hdedent : stack.leadingDedent .closingKeyword (tokens (trim line)) =
      min (leadingClosers (tokens (trim line))).length stack.length := by
    rw [leadingDedent, hmid]
    rfl
  have hdepth : (stack.tracker width memory).lineDepth line =
      stack.length - stack.leadingDedent .closingKeyword (tokens (trim line)) := by
    rw [Tracker.lineDepth, resynced_tracker]
    rfl
  rw [hdepth, hdedent]
  omega

/-- **A line stands at what its leading closers leave open if none of them is idle.** The closers of
a line that does not continue a block are met by the constructs that are open, one after the other,
and the rest of the line by those that they leave. The line stands as many levels out of these as
there are idle closers: for each of them it is dedented as if it had closed something. So it stands
where its closers leave it just if none of them is idle, or if they leave nothing open anyway. -/
theorem stands_after_closers {ε : Type} (stack : Constructs) (memory : Nat) (hwidth : 0 < width)
    (hcode : trim line ≠ [])
    (hmid : startsWith IndentRules.closingKeyword.midKeywords (tokens (trim line)) = false) :
    let t := stack.tracker width memory
    let ts := tokens (trim line)
    let left := stack.afterLeadingClosers ts
    let idlers := stack.idle .closingKeyword (leadingClosers ts)
    (left.length + (leadingClosers ts).length = stack.length + idlers ∧
      (t.indentLine line).2.stack =
        left.afterTokens .closingKeyword (firstWord? ts) (leadingClosers ts).getLast?
          (ts.dropWhile (isCloser .closingKeyword))) ∧
    (t.indentLine line).1 = Tracker.indentation width (left.length - idlers) ++ trim line ∧
    (Tracker.indentLine? line t : Run ε Tracker _).result =
      (Padding.blanks? memory (width * (left.length - idlers : Nat))).map (· ++ trim line) ∧
    ((t.indentLine line).1 = Tracker.indentation width left.length ++ trim line ↔
      idlers = 0 ∨ left = []) := by
  intro t ts left idlers
  have hblank : ¬(trim line).isEmpty = true := by rwa [List.isEmpty_iff]
  have hdepth : t.lineDepth line = left.length - idlers := lineDepth_of_closers hmid
  have hline : t.indentLine line =
      (Tracker.indentation width (left.length - idlers) ++ trim line,
        (stack.after .closingKeyword ts).tracker width memory) := by
    rw [Tracker.indentLine, if_neg hblank, hdepth, resynced_tracker]
    rfl
  refine ⟨⟨length_afterLeadingClosers stack ts, ?_⟩, ?_, ?_, ?_⟩
  · rw [hline]
    exact after_eq_afterLeadingClosers stack ts
  · rw [hline]
  · rw [Tracker.indentLine?_result hwidth hcode, hdepth]
    rfl
  · rw [hline, Tracker.indentation_append_inj hwidth, ← List.length_eq_zero_iff]
    omega

/-- Behind a bracket that closes nothing stands one that does, and the line is dedented for both. -/
theorem stands_after_closers_strayBracket :
    let stack : Constructs := ["do", "(", "if"]
    let line := "end ]) + 1".toList
    let t := stack.tracker 2 Padding.usualMemory
    ((0 : Int) < 2 ∧ trim line ≠ [] ∧
        startsWith IndentRules.closingKeyword.midKeywords (tokens (trim line)) = false) ∧
      stack.afterLeadingClosers (tokens (trim line)) = ["if"] ∧ (t.indentLine line).1 = line ∧
      (t.indentLine line).1 ≠ Tracker.indentation 2 1 ++ line := by
  intro stack line t
  have hwidth : (0 : Int) < 2 := by decide
  have hcode : trim line ≠ [] := by decide +kernel
  have hmid : startsWith IndentRules.closingKeyword.midKeywords (tokens (trim line)) = false := by
    decide +kernel
  obtain ⟨-, houtput, -, hstands⟩ :=
    stands_after_closers (ε := Empty) stack _ hwidth hcode hmid
  have hleft : stack.afterLeadingClosers (tokens (trim line)) = ["if"] := by decide +kernel
  have hidle : stack.idle .closingKeyword (leadingClosers (tokens (trim line))) = 1 := by
    decide +kernel
  have htrim : trim line = line := by decide +kernel
  rw [hleft, hidle, htrim] at houtput hstands
  refine ⟨⟨hwidth, hcode, hmid⟩, hleft, houtput, fun h => ?_⟩
  rcases hstands.mp h with h | h <;> cases h

end Constructs

end PromptLoop
