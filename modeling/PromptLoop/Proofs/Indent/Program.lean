import PromptLoop.Proofs.Indent.Lines
import PromptLoop.Proofs.Indent.Refusal

/-!
# Block programs

A program with blocks that a keyword opens and `end` closes, and with brackets that stay open over
several lines, nested in any way. The tracker lays it out by its nesting alone, wherever it starts.

## Main definitions

* `Line`: a line of a text, with its tokens
* `Program`: a program as a tree
* `Program.lines`, `Program.text`: the lines of a program with their levels, and its text
* `Lays`: lines that a tracker lays out at their levels
* `laid`, `laid?`: a line at its level

## Main results

* `Program.lays`: a program is laid out at its levels
* `Lays.indent`, `Lays.indent?_answer`: what the tracker makes of lines that it lays out
* `Program.indented`: the tracker is a pretty-printer of programs
-/

namespace PromptLoop

open Text

/-- What a run gives and the state after it, unless it fails. -/
def Run.answer {ε σ α : Type} (r : Run ε σ α) : Except Failure (α × σ) :=
  r.result.map fun a => (a, r.state)

/-- A line of a text. -/
structure Line where
  chars : List Char
  no_newline : '\n' ∉ chars

namespace Line

/-- A line without the blanks around it. -/
def code (line : Line) : List Char := trim line.chars

/-- The tokens of a line. -/
def tokens (line : Line) : List Token := PromptLoop.tokens line.code

theorem code_ne_nil {line : Line} (h : line.tokens ≠ []) : line.code ≠ [] := by
  rintro hcode
  rw [tokens, hcode, tokens_nil] at h
  exact h rfl

end Line

/-- The parts of a program: lines and blocks, and what follows the first items of a block. -/
inductive Part
  | items
  | clauses
  deriving DecidableEq, Repr

/-- A program as a tree. -/
inductive Program : Part → Type
  | nil : Program .items
  | blank (line : Line) : line.code = [] → Program .items → Program .items
  | simple (line : Line) : line.code ≠ [] → Balanced .closingKeyword line.tokens →
      Program .items → Program .items
  /-- A keyword block: its header, its first items and its clauses. -/
  | block (header : Line) (marker : String) : Header marker header.tokens →
      Program .items → Program .clauses → Program .items → Program .items
  /-- A bracket that is closed on a later line, and the items between. -/
  | bracket (opening closing : Line) (opener closer : String) (before after : List Token) :
      IndentRules.closingKeyword.Pairs opener closer →
      Balanced .closingKeyword before → opening.tokens = before ++ [⟨.punct, opener⟩] →
      Balanced .closingKeyword after → closing.tokens = ⟨.punct, closer⟩ :: after →
      Program .items → Program .items → Program .items
  /-- A line that continues the block, and the items below it. -/
  | middle (line : Line) : Middle line.tokens → Program .items → Program .clauses →
      Program .clauses
  /-- The line that ends the block. -/
  | finish (line : Line) : line.tokens = [⟨.word, "end"⟩] → Program .clauses

/-- The lines of a program with their levels: those that a block is made of stand at the level of
the block, and its items one level in. -/
def Program.lines : {part : Part} → Program part → Nat → List (Nat × Line)
  | _, .nil, _ => []
  | _, .blank line _ rest, level => (level, line) :: rest.lines level
  | _, .simple line _ _ rest, level => (level, line) :: rest.lines level
  | _, .block header _ _ body clauses rest, level =>
    (level, header) :: (body.lines (level + 1) ++ (clauses.lines level ++ rest.lines level))
  | _, .bracket opening closing _ _ _ _ _ _ _ _ _ body rest, level =>
    (level, opening) :: (body.lines (level + 1) ++ (level, closing) :: rest.lines level)
  | _, .middle line _ body clauses, level =>
    (level, line) :: (body.lines (level + 1) ++ clauses.lines level)
  | _, .finish line _, level => [(level, line)]

/-- The text of a program, with whatever blanks its lines have around them. -/
def Program.text (p : Program .items) : List Char :=
  joinLines ((p.lines 0).map fun l => l.2.chars)

/-! ## Lines laid out at their levels -/

/-- Lines that a tracker lays out at their levels: each stands at its level once its own leading
closers or keyword are taken from the open constructs. -/
inductive Lays (base : Nat) : Constructs → List (Nat × Line) → Constructs → Prop
  | nil {stack : Constructs} : Lays base stack [] stack
  | blank {stack last : Constructs} {level : Nat} {line : Line}
      {rest : List (Nat × Line)} : line.code = [] → Lays base stack rest last →
      Lays base stack ((level, line) :: rest) last
  | code {stack next last : Constructs} {level out : Nat} {line : Line}
      {rest : List (Nat × Line)} : line.code ≠ [] →
      stack.Moves line.tokens out next → stack.length = base + level + out →
      Lays base next rest last → Lays base stack ((level, line) :: rest) last

namespace Lays

variable {base : Nat} {stack middle last : Constructs} {ls ms : List (Nat × Line)}

theorem append (h : Lays base stack ls middle) (h' : Lays base middle ms last) :
    Lays base stack (ls ++ ms) last := by
  induction h with
  | nil => exact h'
  | blank hline _ ih => exact .blank hline (ih h')
  | code hline hmoves hlevel _ ih => exact .code hline hmoves hlevel (ih h')

end Lays

/-- What a part of a program finds open at its first line and leaves open at its last: items leave
the constructs as they are, and clauses close the block that they belong to. -/
def Part.Spans (base level : Nat) : Part → Constructs → Constructs → Prop
  | .items, stack, last => stack = last ∧ last.length = base + level
  | .clauses, stack, last =>
    (∃ marker, IndentRules.closingKeyword.opensBracket marker = false ∧ stack = marker :: last) ∧
      last.length = base + level

/-- **A program is laid out at its levels.** -/
theorem Program.lays {part : Part} (p : Program part) {base level : Nat} {stack last : Constructs}
    (h : part.Spans base level stack last) : Lays base stack (p.lines level) last := by
  -- The level and the open constructs grow with the nesting, so the induction is over all of them.
  induction p generalizing level stack last with
  | nil =>
    obtain ⟨rfl, -⟩ := h
    exact .nil
  | blank line hline _ ih => exact .blank hline (ih h)
  | simple line hline hts _ ih =>
    obtain ⟨rfl, hlevel⟩ := h
    exact .code hline hts.moves hlevel (ih ⟨rfl, hlevel⟩)
  | block header marker hheader body clauses rest ihbody ihclauses ihrest =>
    obtain ⟨rfl, hlevel⟩ := h
    have hbody : Lays base (marker :: stack) (body.lines (level + 1)) (marker :: stack) :=
      ihbody ⟨rfl, congrArg Nat.succ hlevel⟩
    -- The clauses close the block, so what follows finds what the header has found.
    have hclauses : Lays base (marker :: stack) (clauses.lines level) stack :=
      ihclauses ⟨⟨marker, hheader.opensBracket_eq_false, rfl⟩, hlevel⟩
    have hrest : Lays base stack (rest.lines level) stack := ihrest ⟨rfl, hlevel⟩
    exact .code (Line.code_ne_nil hheader.ne_nil) hheader.moves hlevel
      (hbody.append (hclauses.append hrest))
  | bracket opening closing opener closer before after hpairs hbefore hopening hafter hclosing body
      rest ihbody ihrest =>
    obtain ⟨rfl, hlevel⟩ := h
    have hbody : Lays base (opener :: stack) (body.lines (level + 1)) (opener :: stack) :=
      ihbody ⟨rfl, congrArg Nat.succ hlevel⟩
    have hrest : Lays base stack (rest.lines level) stack := ihrest ⟨rfl, hlevel⟩
    have hopen : stack.Moves opening.tokens 0 (opener :: stack) := by
      rw [hopening]
      exact hbefore.moves_opening hpairs
    have hclose : Constructs.Moves (opener :: stack) closing.tokens 1 stack := by
      rw [hclosing]
      exact hafter.moves_closing hpairs
    refine .code (Line.code_ne_nil ?_) hopen hlevel (hbody.append ?_)
    · rw [hopening]
      exact List.concat_ne_nil _ _
    · -- The line that closes the bracket stands out of it, at the level of the one that opens it.
      refine .code (Line.code_ne_nil ?_) hclose (congrArg Nat.succ hlevel) hrest
      rw [hclosing]
      exact List.cons_ne_nil _ _
  | middle line hmiddle body clauses ihbody ihclauses =>
    obtain ⟨⟨marker, hmarker, rfl⟩, hlevel⟩ := h
    have hbody : Lays base (marker :: last) (body.lines (level + 1)) (marker :: last) :=
      ihbody ⟨rfl, congrArg Nat.succ hlevel⟩
    have hclauses : Lays base (marker :: last) (clauses.lines level) last :=
      ihclauses ⟨⟨marker, hmarker, rfl⟩, hlevel⟩
    exact .code (Line.code_ne_nil hmiddle.ne_nil) hmiddle.moves (congrArg Nat.succ hlevel)
      (hbody.append hclauses)
  | finish line hline =>
    obtain ⟨⟨marker, hmarker, rfl⟩, hlevel⟩ := h
    have hend : Constructs.Moves (marker :: last) line.tokens 1 last := by
      rw [hline]
      exact Constructs.moves_end hmarker
    refine .code (Line.code_ne_nil ?_) hend (congrArg Nat.succ hlevel) .nil
    rw [hline]
    exact List.cons_ne_nil _ _

/-! ## What the tracker makes of them -/

/-- A line at its level; a blank line is empty. -/
def laid (width : Int) (base : Nat) : Nat × Line → List Char
  | (level, line) =>
    if line.code = [] then [] else Tracker.indentation width (base + level) ++ line.code

/-- A line at its level, unless its indentation is out of bounds. -/
def laid? (memory : Nat) (width : Int) (base : Nat) : Nat × Line → Except Failure (List Char)
  | (level, line) =>
    if line.code = [] then .ok []
    else (Padding.blanks? memory (width * (base + level : Nat))).map (· ++ line.code)

variable {ε : Type} {width : Int} {memory base level out : Nat} {stack next last : Constructs}
  {line : Line} {ls : List (Nat × Line)}

namespace Constructs

/-- A tracker for blocks that a closing keyword ends. -/
def tracker (stack : Constructs) (width : Int) (memory : Nat) : Tracker :=
  ⟨.closingKeyword, width, memory, stack⟩

/-- Explicit indentation counts for nothing where a keyword closes the blocks. -/
theorem heedsIndentation_eq_false (stack : Constructs) (leading : Nat) :
    stack.heedsIndentation .closingKeyword leading = false := by
  rw [heedsIndentation, show IndentRules.closingKeyword.colonBlocks = false from rfl,
    Bool.and_false, Bool.false_and]

theorem resynced_tracker (cs : List Char) : (stack.tracker width memory).resynced cs = stack := by
  show stack.resync .closingKeyword width (leadingBlanks cs) (tokens (trim cs)) = stack
  rw [resync, heedsIndentation_eq_false, if_neg Bool.false_ne_true]

theorem lineDepth_tracker (hmoves : stack.Moves line.tokens out next)
    (hlevel : stack.length = base + level + out) :
    (stack.tracker width memory).lineDepth line.chars = base + level := by
  have hdedent :
      stack.leadingDedent (stack.tracker width memory).rules (tokens (trim line.chars)) = out :=
    hmoves.dedent
  rw [Tracker.lineDepth, resynced_tracker, hdedent, hlevel, Nat.add_sub_cancel]

theorem indentLine_blank (hline : line.code = []) :
    (stack.tracker width memory).indentLine line.chars = ([], stack.tracker width memory) := by
  rw [Tracker.indentLine]
  exact if_pos (List.isEmpty_iff.mpr hline)

theorem indentLine_code (hline : line.code ≠ []) (hmoves : stack.Moves line.tokens out next)
    (hlevel : stack.length = base + level + out) :
    (stack.tracker width memory).indentLine line.chars =
      (laid width base (level, line), next.tracker width memory) := by
  have hafter : stack.after .closingKeyword (tokens (trim line.chars)) = next := hmoves.after
  have hcode : ¬(trim line.chars).isEmpty = true := by rwa [List.isEmpty_iff]
  rw [Tracker.indentLine, if_neg hcode, lineDepth_tracker hmoves hlevel, resynced_tracker, laid,
    if_neg hline]
  show (_, (stack.after .closingKeyword (tokens (trim line.chars))).tracker width memory) = _
  rw [hafter]
  rfl

theorem indentLine?_blank (hline : line.code = []) :
    (Tracker.indentLine? line.chars (stack.tracker width memory) : Run ε Tracker (List Char)) =
      ⟨.ok [], stack.tracker width memory, []⟩ := by
  rw [Tracker.indentLine?]
  exact if_pos (List.isEmpty_iff.mpr hline)

/-- The tracker that runs refuses a line where its indentation is out of bounds, and only there. -/
theorem indentLine?_code (hline : line.code ≠ []) (hmoves : stack.Moves line.tokens out next)
    (hlevel : stack.length = base + level + out) :
    (Tracker.indentLine? line.chars (stack.tracker width memory) : Run ε Tracker (List Char)) =
      match laid? memory width base (level, line) with
      | .error f => ⟨.error f, stack.tracker width memory, []⟩
      | .ok cs => ⟨.ok cs, next.tracker width memory, []⟩ := by
  have hcode : ¬(trim line.chars).isEmpty = true := by rwa [List.isEmpty_iff]
  have hdivides : (stack.tracker width memory).divides line.chars = false := by
    show (_ && stack.heedsIndentation .closingKeyword _) = false
    rw [heedsIndentation_eq_false, Bool.and_false]
  have hzero : ¬((stack.tracker width memory).width = 0 ∧
      (stack.tracker width memory).divides line.chars) := by
    rintro ⟨-, h⟩
    rw [hdivides] at h
    exact Bool.false_ne_true h
  rw [Tracker.indentLine?, if_neg hcode, if_neg hzero, lineDepth_tracker hmoves hlevel,
    resynced_tracker, indentLine_code hline hmoves hlevel, laid?, if_neg hline]
  show (match Padding.blanks? memory (width * (base + level : Nat)) with
    | .error f => _
    | .ok blanks => _) = _
  cases Padding.blanks? memory (width * (base + level : Nat)) with
  | error f => rfl
  | ok blanks => rfl

end Constructs

namespace Lays

open Constructs

/-- Lines that a tracker lays out come out at their levels. -/
theorem indentLines (h : Lays base stack ls last) :
    (stack.tracker width memory).indentLines (ls.map fun l => l.2.chars) =
      (ls.map (laid width base), last.tracker width memory) := by
  induction h with
  | nil => rfl
  | blank hline _ ih =>
    rw [List.map_cons, Tracker.indentLines_cons, indentLine_blank hline, ih, List.map_cons, laid,
      if_pos hline]
  | code hline hmoves hlevel _ ih =>
    rw [List.map_cons, Tracker.indentLines_cons, indentLine_code hline hmoves hlevel, ih,
      List.map_cons]

/-- The tracker that runs lays them out up to the first line whose indentation is out of bounds. -/
theorem indentLines?_result (h : Lays base stack ls last) :
    (Tracker.indentLines? (ls.map fun l => l.2.chars) (stack.tracker width memory) :
      Run ε Tracker (List (List Char))).result = ls.mapM (laid? memory width base) := by
  induction h with
  | nil => rfl
  | @blank stack last level line rest hline _ ih =>
    have hfirst : laid? memory width base (level, line) = .ok [] := if_pos hline
    rw [List.map_cons, Tracker.indentLines?, Act.bind_apply, indentLine?_blank hline,
      Run.andThen_ok, Run.after_nil, List.mapM_cons, hfirst]
    show ((List.cons [] <$> Tracker.indentLines? _ : Act ε Tracker _) _).result = _
    rw [Act.map_apply, ih]
    cases rest.mapM (laid? memory width base) <;> rfl
  | @code stack next last level out line rest hline hmoves hlevel _ ih =>
    rw [List.map_cons, Tracker.indentLines?, Act.bind_apply, indentLine?_code hline hmoves hlevel,
      List.mapM_cons]
    rcases laid? memory width base (level, line) with f | cs
    · rfl
    · show ((List.cons cs <$> Tracker.indentLines? _ : Act ε Tracker _) _).result = _
      rw [Act.map_apply, ih]
      cases rest.mapM (laid? memory width base) <;> rfl

theorem splitLines_text (hls : ls ≠ []) :
    splitLines (joinLines (ls.map fun l => l.2.chars)) = ls.map fun l => l.2.chars := by
  refine splitLines_joinLines (fun hmap => hls (List.map_eq_nil_iff.mp hmap)) fun cs hcs => ?_
  obtain ⟨l, -, rfl⟩ := List.mem_map.mp hcs
  exact l.2.no_newline

/-- A text of lines that a tracker lays out comes out at their levels. -/
theorem indent (h : Lays base stack ls last) :
    (stack.tracker width memory).indent (joinLines (ls.map fun l => l.2.chars)) =
      (joinLines (ls.map (laid width base)), last.tracker width memory) := by
  by_cases hls : ls = []
  · -- The text of no line at all has one line, which is blank.
    subst hls
    cases h
    rfl
  · rw [Tracker.indent, splitLines_text hls, h.indentLines]

theorem indent?_result (h : Lays base stack ls last) :
    (Tracker.indent? (joinLines (ls.map fun l => l.2.chars)) (stack.tracker width memory) :
      Run ε Tracker (List Char)).result = (ls.mapM (laid? memory width base)).map joinLines := by
  show ((joinLines <$> Tracker.indentLines? (splitLines _) : Act ε Tracker _) _).result = _
  rw [Act.map_apply]
  by_cases hls : ls = []
  · subst hls
    rfl
  · rw [splitLines_text hls, h.indentLines?_result]

/-- Unless it refuses a line, the tracker that runs gives the text at the levels of its lines. -/
theorem indent?_answer (h : Lays base stack ls last) :
    (Tracker.indent? (joinLines (ls.map fun l => l.2.chars)) (stack.tracker width memory) :
      Run ε Tracker (List Char)).answer =
        (ls.mapM (laid? memory width base)).map
          fun lines => (joinLines lines, last.tracker width memory) := by
  have hresult : (Tracker.indent? (joinLines (ls.map fun l => l.2.chars))
      (stack.tracker width memory) : Run ε Tracker (List Char)).result =
        (ls.mapM (laid? memory width base)).map joinLines := h.indent?_result
  rw [Run.answer]
  rcases hlines : ls.mapM (laid? memory width base) with f | lines
  · rw [hresult, hlines]
    rfl
  · rw [hlines] at hresult
    obtain ⟨-, hstate⟩ := Tracker.indent?_of_ok hresult
    rw [hresult, hstate, h.indent]
    rfl

end Lays

/-- **The tracker is a pretty-printer of programs.** Whatever is open before a program, the tracker
puts every line at its level above that, and has the same constructs open after it. The tracker that
runs does so too, up to the first line whose indentation is out of bounds. -/
theorem Program.indented (p : Program .items) (width : Int) (memory : Nat) (stack : Constructs) :
    (stack.tracker width memory).indent p.text =
        (joinLines ((p.lines 0).map (laid width stack.length)), stack.tracker width memory) ∧
      (Tracker.indent? p.text (stack.tracker width memory) : Run ε Tracker (List Char)).answer =
        ((p.lines 0).mapM (laid? memory width stack.length)).map
          fun lines => (joinLines lines, stack.tracker width memory) := by
  have hlays : Lays stack.length stack (p.lines 0) stack := p.lays ⟨rfl, rfl⟩
  exact ⟨hlays.indent, hlays.indent?_answer⟩

/-- A loop with a bracket that stays open over its items, and another course. -/
def Program.polling : Program .items :=
  .block ⟨"while more do".toList, by decide⟩ "while"
    (@Header.loop "while" [⟨.word, "more"⟩] (by decide) (.neutral rfl .nil))
    (.bracket ⟨"put [".toList, by decide⟩ ⟨"]".toList, by decide⟩ "[" "]" [⟨.word, "put"⟩] []
      (IndentRules.pairs_closingKeyword_iff.mpr (by decide)) (.neutral rfl .nil) rfl .nil rfl
      (.simple ⟨" 1,".toList, by decide⟩ (by decide) (.neutral trivial (.neutral ⟨rfl, rfl⟩ .nil))
        .nil)
      .nil)
    (.middle ⟨"else".toList, by decide⟩ (.keyword (by decide) .nil)
      (.simple ⟨"rest".toList, by decide⟩ (by decide) (.neutral rfl .nil) .nil)
      (.finish ⟨"end".toList, by decide⟩ rfl))
    .nil

/-- The loop has one block, although its first line ends in a `do` of its own. -/
theorem Program.indented_polling :
    let t := Constructs.tracker [] 2 Padding.usualMemory
    let out := "while more do\n  put [\n    1,\n  ]\nelse\n  rest\nend".toList
    polling.text = "while more do\nput [\n 1,\n]\nelse\nrest\nend".toList ∧
      t.indent polling.text = (out, t) ∧
      (Tracker.indent? polling.text t : Run Empty Tracker _).answer = .ok (out, t) := by
  obtain ⟨hindent, hanswer⟩ := polling.indented (ε := Empty) 2 Padding.usualMemory []
  exact ⟨by decide, hindent, hanswer⟩

end PromptLoop
