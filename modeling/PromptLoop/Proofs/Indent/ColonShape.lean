import PromptLoop.Proofs.Indent.ColonLines

/-!
# Blocks outside, brackets inside

Where colons open blocks, a colon inside a bracket opens none. So whatever a tracker is given, the
constructs that it has open are colon blocks, and brackets inside of the innermost one. While a
bracket is open, the explicit indentation of a line does not count. Otherwise it says how many of
the blocks stay open: no bracket is in the way of those that it closes.

## Main definitions

* `Constructs.Nested`: open colon blocks, and open brackets inside of them
* `Tracker.Call`, `Tracker.call`: what a tracker may be told
* `Tracker.Nests`: a tracker for colon blocks whose constructs are nested so
* `Tracker.Emits`: how many blanks a line is given back with

## Main results

* `Constructs.Nested.after`: a line keeps the constructs nested
* `Tracker.Nests.indentLine?`, `Tracker.Nests.call`: so does one line, and one call
* `Tracker.brackets_inside_blocks`: the constructs after any calls, and what they make of explicit
  indentation
-/

namespace PromptLoop

open Text

/-! ## Lines keep the constructs nested -/

namespace Constructs

/-- Open colon blocks, and the brackets that are open inside of them. -/
structure Nested (stack : Constructs) (depth : Nat) (brackets : List String) : Prop where
  eq_append : stack = brackets ++ blocks depth
  opens : ∀ marker ∈ brackets, IndentRules.colonBlock.opensBracket marker = true

namespace Nested

variable {stack : Constructs} {depth : Nat} {brackets : List String}

theorem of_blocks (n : Nat) : (blocks n).Nested n [] := ⟨rfl, nofun⟩

theorem eq_blocks (h : stack.Nested depth []) : stack = blocks depth := h.eq_append

/-- A bracket that is open hides the blocks around it. -/
theorem inBracket_iff (h : stack.Nested depth brackets) :
    stack.inBracket .colonBlock = true ↔ brackets ≠ [] := by
  rw [h.eq_append]
  cases brackets with
  | nil => simp [blocks_inBracket]
  | cons marker rest => simpa [inBracket] using h.opens marker List.mem_cons_self

/-- The innermost construct is a colon block only where no bracket is open. -/
theorem eq_nil_of_inColonBlock (h : stack.Nested depth brackets)
    (htop : stack.inColonBlock = true) : brackets = [] := by
  cases brackets with
  | nil => rfl
  | cons marker rest =>
    rw [h.eq_append] at htop
    have hcolon : marker = colon := Option.some.inj (beq_iff_eq.mp htop)
    have hopens := h.opens marker List.mem_cons_self
    rw [hcolon] at hopens
    exact absurd hopens (by decide)

/-- Leaving the innermost block leaves those around it. -/
theorem leave (h : stack.Nested depth brackets) (htop : stack.inColonBlock = true) :
    Nested stack.tail (depth - 1) brackets := by
  obtain rfl := h.eq_nil_of_inColonBlock htop
  rw [h.eq_blocks, blocks_tail]
  exact of_blocks (depth - 1)

/-- Explicit indentation closes blocks, and no bracket. -/
theorem resync (h : stack.Nested depth brackets) (width leading : Nat) (ts : List Token) :
    ∃ now, (stack.resync .colonBlock width leading ts).Nested now brackets := by
  cases brackets with
  | nil =>
    rw [h.eq_blocks, resync_blocks]
    exact ⟨_, of_blocks _⟩
  | cons marker rest =>
    have hin := h.inBracket_iff.mpr (List.cons_ne_nil marker rest)
    refine ⟨depth, ?_⟩
    simpa [Constructs.resync, heedsIndentation, hin] using h

/-- A keyword that continues a block leaves the one before it. -/
theorem beforeTokens (h : stack.Nested depth brackets) (ts : List Token) :
    ∃ now, (stack.beforeTokens .colonBlock ts).Nested now brackets := by
  unfold Constructs.beforeTokens
  split
  · next hmid =>
    rw [Bool.and_eq_true] at hmid
    exact ⟨depth - 1, h.leave hmid.2⟩
  · exact ⟨depth, h⟩

/-- A bracket opens inside of what is open, and one that closes finds the bracket that it belongs to
innermost or closes nothing. -/
theorem afterPunct (h : stack.Nested depth brackets) (text : String) :
    ∃ now, (stack.afterPunct .colonBlock text).Nested depth now := by
  unfold Constructs.afterPunct
  split
  · next hopens =>
    refine ⟨text :: brackets, ?_, List.forall_mem_cons.mpr ⟨hopens, h.opens⟩⟩
    rw [h.eq_append, List.cons_append]
  · split
    · exact ⟨brackets, h⟩
    · next opener hopener =>
      split
      · next htop =>
        cases brackets with
        | nil =>
          -- The innermost construct is a block then, and no bracket is closed.
          rw [h.eq_blocks] at htop
          obtain rfl : colon = opener := by
            cases depth with
            | zero => cases htop
            | succ n => exact Option.some.inj htop
          exact absurd (IndentRules.opensBracket_of_opener? hopener) (by decide)
        | cons marker rest =>
          refine ⟨rest, ?_, fun m hm => h.opens m (List.mem_cons_of_mem marker hm)⟩
          rw [h.eq_append]
          rfl
      · exact ⟨brackets, h⟩

/-- A token opens or closes brackets alone. -/
theorem afterToken (h : stack.Nested depth brackets) (first : Option String)
    (previous : Option Token) (t : Token) :
    ∃ now, (stack.afterToken .colonBlock first previous t).Nested depth now := by
  obtain ⟨kind, text⟩ := t
  cases kind with
  | string => exact ⟨brackets, h⟩
  | number => exact ⟨brackets, h⟩
  | punct => exact h.afterPunct text
  | word =>
    -- These rules know no keyword that opens or closes a construct where it stands.
    have hsame : stack.afterKeyword .colonBlock previous first text = stack := by
      simp [afterKeyword, IndentRules.colonBlock]
    refine ⟨brackets, ?_⟩
    simpa [Constructs.afterToken, hsame] using h

theorem afterTokens (h : stack.Nested depth brackets) (first : Option String)
    (previous : Option Token) (ts : List Token) :
    ∃ now, (Constructs.afterTokens .colonBlock first previous ts stack).Nested depth now := by
  -- by induction on the tokens: none of them opens or closes a block
  induction ts generalizing previous stack brackets with
  | nil => exact ⟨brackets, h⟩
  | cons t ts ih =>
    obtain ⟨now, ht⟩ := h.afterToken first previous t
    exact ih ht (some t)

/-- The end of a line opens a block outside of brackets, or leaves one. -/
theorem atEnd (h : stack.Nested depth brackets) (ts : List Token) :
    ∃ now, (stack.atEnd .colonBlock ts).Nested now brackets := by
  unfold Constructs.atEnd
  split
  · next hopens =>
    rw [Bool.and_eq_true, Bool.not_eq_true', ← Bool.not_eq_true, h.inBracket_iff, ne_eq,
      Classical.not_not] at hopens
    obtain rfl := hopens.2
    rw [h.eq_blocks, ← blocks_succ]
    exact ⟨depth + 1, of_blocks _⟩
  · split
    · next hleaves =>
      rw [Bool.and_eq_true] at hleaves
      exact ⟨depth - 1, h.leave hleaves.2⟩
    · exact ⟨depth, h⟩

/-- **A line keeps the constructs nested.** -/
theorem after (h : stack.Nested depth brackets) (ts : List Token) :
    ∃ now inside, (stack.after .colonBlock ts).Nested now inside := by
  obtain ⟨middle, hbefore⟩ := h.beforeTokens ts
  obtain ⟨inside, htokens⟩ := hbefore.afterTokens (firstWord? ts) none ts
  obtain ⟨now, hend⟩ := htokens.atEnd ts
  exact ⟨now, inside, hend⟩

end Nested

end Constructs

/-! ## Calls keep the constructs nested -/

namespace Tracker

/-- What a tracker may be told. -/
inductive Call
  | indent (text : List Char)
  | reset
  deriving DecidableEq, Repr

/-- A tracker after a call, be the text refused or not. -/
def call (t : Tracker) : Call → Tracker
  | .indent text => (indent? text t : Run Empty Tracker (List Char)).state
  | .reset => t.reset

/-- A tracker for colon blocks with its constructs nested. -/
structure Nests (width memory : Nat) (t : Tracker) : Prop where
  rules_eq : t.rules = .colonBlock
  width_eq : t.width = width
  memory_eq : t.memory = memory
  nested : ∃ depth brackets, t.stack.Nested depth brackets

namespace Nests

variable {width memory : Nat} {t : Tracker} {ε : Type}

theorem resynced (h : t.Nests width memory) (line : List Char) :
    ∃ depth brackets, (t.resynced line).Nested depth brackets := by
  obtain ⟨depth, brackets, hnested⟩ := h.nested
  obtain ⟨now, hnow⟩ := hnested.resync width (leadingBlanks line) (tokens (trim line))
  refine ⟨now, brackets, ?_⟩
  rw [Tracker.resynced, h.rules_eq, h.width_eq]
  exact hnow

theorem indentLine (h : t.Nests width memory) (line : List Char) :
    (t.indentLine line).2.Nests width memory := by
  unfold Tracker.indentLine
  by_cases hblank : (trim line).isEmpty = true
  · rw [if_pos hblank]
    exact h
  · obtain ⟨depth, brackets, hresynced⟩ := h.resynced line
    rw [if_neg hblank, h.rules_eq]
    exact ⟨rfl, h.width_eq, h.memory_eq, hresynced.after (tokens (trim line))⟩

/-- **A line keeps the constructs nested**, be it refused or not. -/
theorem indentLine? (h : t.Nests width memory) (line : List Char) :
    (Tracker.indentLine? line t : Run ε Tracker (List Char)).state.Nests width memory := by
  unfold Tracker.indentLine?
  split
  · exact h
  · split
    · exact h
    · split
      · exact ⟨h.rules_eq, h.width_eq, h.memory_eq, h.resynced line⟩
      · exact h.indentLine line

theorem indentLines? (h : t.Nests width memory) (lines : List (List Char)) :
    (Tracker.indentLines? lines t : Run ε Tracker (List (List Char))).state.Nests width memory := by
  -- by induction on the lines: the first that is refused is the last, and keeps them nested too
  induction lines generalizing t with
  | nil => exact h
  | cons line rest ih =>
    have hline : (Tracker.indentLine? line t : Run ε Tracker _).state.Nests width memory :=
      h.indentLine? line
    rw [Tracker.indentLines?, Act.bind_apply]
    rcases hrun : (Tracker.indentLine? line t : Run ε Tracker _) with ⟨f | first, u, es⟩
    · rw [hrun] at hline
      exact hline
    · rw [hrun] at hline
      show ((List.cons first <$> Tracker.indentLines? rest : Act ε Tracker _) u).state.Nests
        width memory
      rw [Act.map_apply]
      exact ih hline

/-- **A call keeps the constructs nested.** -/
theorem call (h : t.Nests width memory) (c : Call) : (t.call c).Nests width memory := by
  cases c with
  | reset => exact ⟨h.rules_eq, h.width_eq, h.memory_eq, 0, [], .of_blocks 0⟩
  | indent text =>
    show ((joinLines <$> Tracker.indentLines? (splitLines text) :
      Act Empty Tracker _) t).state.Nests width memory
    rw [Act.map_apply]
    exact h.indentLines? (splitLines text)

theorem calls (h : t.Nests width memory) (cs : List Call) :
    (cs.foldl Tracker.call t).Nests width memory := by
  induction cs generalizing t with
  | nil => exact h
  | cons c cs ih => exact ih (h.call c)

/-- Without an open bracket it is known by how many blocks are open. -/
theorem eq_blockTracker (h : t.Nests width memory) {depth : Nat}
    (hnested : t.stack.Nested depth []) :
    t = blockTracker memory width depth := by
  obtain ⟨rules, w, m, stack⟩ := t
  obtain rfl : rules = .colonBlock := h.rules_eq
  obtain rfl : w = width := h.width_eq
  obtain rfl : m = memory := h.memory_eq
  obtain rfl : stack = blocks depth := hnested.eq_blocks
  rfl

/-- Nothing but blocks is open where no bracket is. -/
theorem eq_blockTracker_depth (h : t.Nests width memory)
    (hbrackets : ∀ marker ∈ t.stack, IndentRules.colonBlock.opensBracket marker = false) :
    t = blockTracker memory width t.depth := by
  obtain ⟨depth, brackets, hnested⟩ := h.nested
  obtain rfl : brackets = [] := by
    refine List.eq_nil_iff_forall_not_mem.mpr fun marker hmarker => ?_
    have hopens := hnested.opens marker hmarker
    rw [hbrackets marker (hnested.eq_append ▸ List.mem_append_left _ hmarker)] at hopens
    cases hopens
  have hdepth : t.depth = depth := by rw [Tracker.depth, hnested.eq_blocks, blocks_length]
  rw [hdepth]
  exact h.eq_blockTracker hnested

end Nests

/-! ## Explicit indentation -/

section Explicit

variable {width memory : Nat} {t : Tracker} {line : List Char}

/-- A line is given back with so many blanks in front of its code. The tracker that runs gives it
back so as well, unless there are more blanks in front of it than memory and indices allow. -/
structure Emits (t : Tracker) (line : List Char) (count : Nat) : Prop where
  indented : (t.indentLine line).1 = List.replicate count ' ' ++ trim line
  answered : (leadingBlanks line : Int) ≤ Padding.limit t.memory →
    (indentLine? line t : Run Empty Tracker (List Char)).result =
      .ok (List.replicate count ' ' ++ trim line)

/-- A line that comes no further in than it stands is within the bounds if it is so itself. -/
theorem Emits.of_lineDepth {depth : Nat} (hwidth : 0 < width) (ht : t.width = width)
    (hline : trim line ≠ []) (hdepth : t.lineDepth line = depth)
    (hle : width * depth ≤ leadingBlanks line) : t.Emits line (width * depth) := by
  have hcode : ¬(trim line).isEmpty = true := by
    rw [List.isEmpty_iff]
    exact hline
  have hcount : t.width * t.lineDepth line = ((width * depth : Nat) : Int) := by
    rw [ht, hdepth, Int.natCast_mul]
  have hblanks : Padding.blanks (t.width * t.lineDepth line) =
      List.replicate (width * depth) ' ' := by
    rw [hcount]
    exact congrArg (List.replicate · ' ') (Int.toNat_natCast _)
  constructor
  · unfold indentLine
    rw [if_neg hcode, indentation, hblanks]
  · intro hmemory
    -- The blanks that are put in front of the code are no more than there were.
    have hfits : Padding.Fits t.memory (t.width * t.lineDepth line) := by
      rw [hcount]
      constructor
      · exact Int.le_trans (by decide) (Int.natCast_nonneg _)
      · exact Int.le_trans (Int.ofNat_le.mpr hle) hmemory
    have haccepts : t.Accepts line := by
      refine .inr ⟨fun hzero => ?_, hfits⟩
      rw [ht] at hzero
      exact absurd (Int.natCast_eq_zero.mp hzero) (Nat.ne_of_gt hwidth)
    rw [indentLine?_eq haccepts]
    unfold indentLine
    rw [if_neg hcode, indentation, hblanks]

/-- While a bracket is open, explicit indentation closes nothing. -/
theorem resynced_of_inBracket (h : t.stack.inBracket t.rules = true) (line : List Char) :
    t.resynced line = t.stack := by
  simp [resynced, Constructs.resync, Constructs.heedsIndentation, h]

/-- **While a bracket is open, explicit indentation does not count.** -/
theorem indentLine?_of_inBracket {ε : Type} (h : t.stack.inBracket t.rules = true)
    {other : List Char} (hcode : trim other = trim line) :
    t.indentLine other = t.indentLine line ∧
      (indentLine? other t : Run ε Tracker (List Char)) = indentLine? line t := by
  have hdivides : ∀ cs, t.divides cs = false := by
    intro cs
    simp [divides, Constructs.heedsIndentation, h]
  have hdepth : t.lineDepth other = t.lineDepth line := by
    rw [lineDepth, lineDepth, resynced_of_inBracket h, resynced_of_inBracket h, hcode]
  have hline : t.indentLine other = t.indentLine line := by
    unfold indentLine
    rw [hdepth, resynced_of_inBracket h, resynced_of_inBracket h, hcode]
  refine ⟨hline, ?_⟩
  unfold indentLine?
  rw [hdepth, hline, hdivides, hdivides, resynced_of_inBracket h, resynced_of_inBracket h, hcode]

theorem resynced_blockTracker (n : Nat) (hleading : 0 < leadingBlanks line) :
    (blockTracker memory width n).resynced line = blocks (min n (leadingBlanks line / width +
      if startsWith IndentRules.colonBlock.midKeywords (tokens (trim line)) then 1 else 0)) := by
  have hne : leadingBlanks line ≠ 0 := Nat.ne_of_gt hleading
  exact (resync_blocks width _ n _).trans (congrArg blocks (if_neg hne))

/-- A keyword that continues a block stands one level out of it. -/
theorem lineDepth_of_mid (n : Nat) (hleading : 0 < leadingBlanks line)
    (hmid : startsWith IndentRules.colonBlock.midKeywords (tokens (trim line)) = true) :
    (blockTracker memory width n).lineDepth line = min n (leadingBlanks line / width + 1) - 1 := by
  unfold lineDepth
  rw [resynced_blockTracker n hleading, if_pos hmid]
  show (blocks _).length - (blocks _).leadingDedent .colonBlock (tokens (trim line)) = _
  rw [Constructs.leadingDedent, if_pos hmid, blocks_length]
  omega

/-- Any other line stands at the level that it is written at, unless it starts with a closer. -/
theorem lineDepth_of_plain (n : Nat) (hleading : 0 < leadingBlanks line)
    (hmid : startsWith IndentRules.colonBlock.midKeywords (tokens (trim line)) = false)
    (hcloser : (tokens (trim line)).head?.any (isCloser .colonBlock) = false) :
    (blockTracker memory width n).lineDepth line = min n (leadingBlanks line / width) := by
  have hmid' : ¬startsWith IndentRules.colonBlock.midKeywords (tokens (trim line)) = true := by
    rw [hmid]
    exact Bool.false_ne_true
  have hnone : (tokens (trim line)).takeWhile (isCloser .colonBlock) = [] := by
    cases hts : tokens (trim line) with
    | nil => rfl
    | cons t ts =>
      rw [hts] at hcloser
      have ht : isCloser .colonBlock t = false := hcloser
      simp [ht]
  unfold lineDepth
  rw [resynced_blockTracker n hleading, if_neg hmid']
  show (blocks _).length - (blocks _).leadingDedent .colonBlock (tokens (trim line)) = _
  rw [Constructs.leadingDedent, if_neg hmid', hnone, blocks_length]
  simp

end Explicit

/-- **Brackets stand inside of blocks, and explicit indentation closes blocks alone.** Whatever
calls a fresh tracker for colon blocks has had, and whatever lines came before in the text of the
last one, the constructs that it has open are colon blocks and brackets inside of them. While a
bracket is open, it does not matter how far a line is indented. Otherwise a line is given back at
the level that it is written at, but no further in than blocks are open: a keyword that continues a
block at the level of that block, and every other line that starts with no closing bracket at its
own. -/
theorem brackets_inside_blocks (width memory : Nat) (hwidth : 0 < width) (calls : List Call)
    (before : List (List Char)) :
    let fresh : Tracker := { rules := .colonBlock, width := width, memory }
    let t := (indentLines? before (calls.foldl call fresh) :
      Run Empty Tracker (List (List Char))).state
    (∃ depth brackets, t.stack.Nested depth brackets) ∧
      ∀ depth brackets, t.stack.Nested depth brackets → ∀ line, trim line ≠ [] →
        0 < leadingBlanks line →
          (brackets ≠ [] → ∀ other, trim other = trim line →
            t.indentLine other = t.indentLine line ∧
              (indentLine? other t : Run Empty Tracker (List Char)) = indentLine? line t) ∧
          (brackets = [] →
            startsWith IndentRules.colonBlock.midKeywords (tokens (trim line)) = true →
              t.Emits line (width * (min depth (leadingBlanks line / width + 1) - 1))) ∧
          (brackets = [] →
            startsWith IndentRules.colonBlock.midKeywords (tokens (trim line)) = false →
            (tokens (trim line)).head?.any (isCloser .colonBlock) = false →
              t.Emits line (width * min depth (leadingBlanks line / width))) := by
  intro fresh t
  have hfresh : fresh.Nests width memory := ⟨rfl, rfl, rfl, 0, [], .of_blocks 0⟩
  have ht : t.Nests width memory := (hfresh.calls calls).indentLines? before
  refine ⟨ht.nested, ?_⟩
  intro depth brackets hnested line hline hleading
  -- A level that is counted in whole widths is no further in than the blanks that it is counted
  -- from.
  have hwhole : ∀ level, level ≤ leadingBlanks line / width →
      width * level ≤ leadingBlanks line := by
    intro level hlevel
    exact Nat.le_trans (Nat.mul_le_mul_left width hlevel) (Nat.mul_div_le _ _)
  refine ⟨?_, ?_, ?_⟩
  · intro hbrackets other hcode
    have hin : t.stack.inBracket t.rules = true := by
      rw [ht.rules_eq]
      exact hnested.inBracket_iff.mpr hbrackets
    exact indentLine?_of_inBracket hin hcode
  · rintro rfl hmid
    rw [ht.eq_blockTracker hnested]
    refine .of_lineDepth hwidth rfl hline (lineDepth_of_mid depth hleading hmid) ?_
    apply hwhole
    exact Nat.sub_le_of_le_add (Nat.min_le_right _ _)
  · rintro rfl hmid hcloser
    rw [ht.eq_blockTracker hnested]
    refine .of_lineDepth hwidth rfl hline (lineDepth_of_plain depth hleading hmid hcloser) ?_
    apply hwhole
    exact Nat.min_le_right _ _

/-- The head of a method, the bracket of a call in it that is closed on a line of its own, and then
the head of another method. -/
def methodCalls : List Call :=
  ["class a:", "def f(b):", "c(d,", "e)"].map fun text => .indent text.toList

/-- However far the bracket is indented, it is in the block of the first method; the head of the
second one closes that block. -/
theorem brackets_inside_blocks_method :
    let fresh : Tracker := { rules := .colonBlock, width := (4 : Nat) }
    let t := (methodCalls.take 3).foldl call fresh
    let u := methodCalls.foldl call fresh
    (0 < 4 ∧ t.stack.Nested 2 ["("] ∧ u.stack.Nested 2 []) ∧
      t.indentLine "  e)".toList = t.indentLine "        e)".toList ∧
      u.Emits "    def g(b):".toList 4 := by
  intro fresh t u
  have hwidth : 0 < 4 := by decide
  have ht : t.stack.Nested 2 ["("] := ⟨by decide +kernel, by decide⟩
  have hu : u.stack.Nested 2 [] := ⟨by decide +kernel, nofun⟩
  obtain ⟨-, hopen⟩ := brackets_inside_blocks 4 _ hwidth (methodCalls.take 3) []
  obtain ⟨-, hclosed⟩ := brackets_inside_blocks 4 _ hwidth methodCalls []
  rw [indentLines?, Act.pure_apply] at hopen hclosed
  dsimp only at hopen hclosed
  refine ⟨⟨hwidth, ht, hu⟩, ?_, ?_⟩
  · obtain ⟨hinside, -⟩ := hopen 2 ["("] ht "        e)".toList (by decide) (by decide)
    exact (hinside (by decide) "  e)".toList (by decide)).1
  · obtain ⟨-, -, houtside⟩ := hclosed 2 [] hu "    def g(b):".toList (by decide) (by decide)
    exact houtside rfl (by decide) (by decide)

end Tracker

end PromptLoop
