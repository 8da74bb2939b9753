import PromptLoop.Proofs.Indent.ColonBlocks
import PromptLoop.Proofs.Indent.ColonShape

/-!
# Code typed without indentation

Whoever types colon block code at a prompt may leave the indentation to the tracker. A header opens
a block, and a line that starts with a keyword like `return` leaves it. If every block ends in such
a line, and no other line starts so, then the open blocks are those that a line is nested in, and
every line comes back at its level.

## Main definitions

* `Outline`: code whose blocks end in lines that leave them, as a tree
* `Outline.lines`: its lines with their levels
* `Blocks.flush`: a line without its level

## Main results

* `Outline.laid`: lines that are typed without their levels are given them
* `Outline.typed_flush_left`: what a tracker makes of an outline, wherever it is typed
-/

namespace PromptLoop

open Text

/-- Where lines stand: at the top level of an outline, or in one of its blocks. -/
inductive Place
  | top
  | block
  deriving DecidableEq, Repr

/-- Colon block code as a tree. The last line of a block is one that leaves it, and no other is. -/
inductive Outline : Place → Type
  | done : Outline .top
  | leaving (line : CodeLine) : line.kind = .leaving → Outline .block
  | simple {place : Place} (line : CodeLine) : line.kind = .simple → Outline place → Outline place
  /-- A header, its block, and what follows that. -/
  | compound {place : Place} (header : CodeLine) : header.kind = .header → Outline .block →
      Outline place → Outline place

/-- How many blocks are open after the lines of a place, of those that are open there. -/
def Place.left (n : Nat) : Place → Nat
  | .top => n
  | .block => n - 1

/-- The lines of an outline with their levels. -/
def Outline.lines : {place : Place} → Outline place → Nat → List (Nat × CodeLine)
  | _, .done, _ => []
  | _, .leaving line _, level => [(level, line)]
  | _, .simple line _ rest, level => (level, line) :: rest.lines level
  | _, .compound header _ body rest, level =>
    (level, header) :: (body.lines (level + 1) ++ rest.lines level)

/-! ## Lines without their levels -/

namespace Blocks

variable {unit width : Nat}

/-- A line without its level. -/
def flush (l : Nat × CodeLine) : Nat × CodeLine := (0, l.2)

theorem written_flush (width : Int) (l : Nat × CodeLine) :
    written width (flush l) = trimStart l.2.chars := by
  rw [flush, written, Tracker.indentation_zero, List.nil_append]

/-- A line without indentation closes no block. -/
theorem foundIn_flush (n : Nat) (l : Nat × CodeLine) : foundIn unit width n (flush l) = n := by
  simp [flush, foundIn]

/-- A line without indentation is given the level of the open blocks, and changes them by its kind
alone. -/
theorem flush_settles (unit width n : Nat) (l : Nat × CodeLine) {kind : LineKind}
    (hkind : l.2.kind = kind) :
    shownIn unit width n (flush l) = (n - kind.out, l.2) ∧
      nextIn unit width n (flush l) = kind.leaves n := by
  rw [shownIn, nextIn, foundIn_flush]
  subst hkind
  exact ⟨rfl, rfl⟩

end Blocks

namespace Outline

open Blocks

variable {place : Place}

/-- **Lines that are typed without their levels are given them**, above the blocks that are open
before them. -/
theorem laid (o : Outline place) (unit width base level : Nat) :
    shownAllIn unit width (base + level) ((o.lines level).map flush) =
        (o.lines level).map (fun l => (base + l.1, l.2)) ∧
      nextAllIn unit width (base + level) ((o.lines level).map flush) =
        place.left (base + level) := by
  -- by induction on the outline: the lines of a block find one block more open than its header
  induction o generalizing level with
  | done => exact ⟨rfl, rfl⟩
  | leaving line hkind =>
    obtain ⟨hshown, hnext⟩ := flush_settles unit width (base + level) (level, line) hkind
    constructor
    · rw [lines, List.map_singleton, List.map_singleton, shownAllIn_cons, hshown]
      rfl
    · rw [lines, List.map_singleton, nextAllIn_cons, hnext]
      rfl
  | simple line hkind rest ih =>
    obtain ⟨hshown, hnext⟩ := flush_settles unit width (base + level) (level, line) hkind
    have hsame : LineKind.simple.leaves (base + level) = base + level := rfl
    obtain ⟨hrest, hleft⟩ := ih level
    constructor
    · rw [lines, List.map_cons, List.map_cons, shownAllIn_cons, hshown, hnext, hsame, hrest]
      rfl
    · rw [lines, List.map_cons, nextAllIn_cons, hnext, hsame, hleft]
  | @compound place header hkind body rest ihbody ihrest =>
    obtain ⟨hshown, hnext⟩ := flush_settles unit width (base + level) (level, header) hkind
    have hopens : LineKind.header.leaves (base + level) = base + (level + 1) := rfl
    -- The last line of the block leaves it, so what follows finds what the header has found.
    have hcloses : Place.block.left (base + (level + 1)) = base + level := rfl
    obtain ⟨hbody, hafter⟩ := ihbody (level + 1)
    obtain ⟨hrest, hleft⟩ := ihrest level
    constructor
    · rw [lines, List.map_cons, List.map_append, shownAllIn_cons, hshown, hnext, hopens,
        shownAllIn_append, hbody, hafter, hcloses, hrest, List.map_cons, List.map_append]
      rfl
    · rw [lines, List.map_cons, List.map_append, nextAllIn_cons, hnext, hopens, nextAllIn_append,
        hafter, hcloses, hleft]

/-! ## What a tracker makes of an outline -/

/-- The lines of an outline as they are typed: flush left, with whatever blanks they have at their
ends. -/
def typed (o : Outline .top) : List (List Char) := (o.lines 0).map fun l => trimStart l.2.chars

theorem typed_eq (o : Outline .top) (width : Int) :
    o.typed = ((o.lines 0).map flush).map (written width) := by
  rw [List.map_map]
  exact List.map_congr_left fun l _ => (written_flush width l).symm

theorem newline_not_mem_typed (o : Outline .top) : ∀ line ∈ o.typed, '\n' ∉ line := by
  intro line hline
  obtain ⟨l, -, rfl⟩ := List.mem_map.mp hline
  exact fun hmem => l.2.no_newline ((List.dropWhile_sublist _).subset hmem)

/-- Above some open blocks every line comes back at its level. -/
theorem indentTexts_typed (o : Outline .top) (width memory n : Nat) :
    (blockTracker memory width n).indentTexts o.typed =
      ((o.lines 0).map fun l => Tracker.indentation width (n + l.1) ++ l.2.code,
        blockTracker memory width n) := by
  obtain ⟨hshown, hleft⟩ := o.laid width width n 0
  rw [Nat.add_zero] at hshown hleft
  rw [o.typed_eq width, indentTexts_units, hshown, hleft, List.map_map]
  exact congrArg (·, blockTracker memory width n)
    (List.map_congr_left fun l _ => trimEnd_written l.2)

/-- The tracker that runs puts it there too, unless its indentation is out of bounds. -/
theorem mapM_indent?_typed {ε : Type} (o : Outline .top) (width memory n : Nat) :
    ((o.typed.mapM Tracker.indent? : Act ε Tracker _) (blockTracker memory width n)).answer =
      ((o.lines 0).mapM fun l => written? memory width (n + l.1, l.2)).map
        fun outs => (outs, blockTracker memory width n) := by
  have htop : ∀ l ∈ (o.lines 0).map flush, l.1 = 0 := by
    intro l hl
    obtain ⟨l, -, rfl⟩ := List.mem_map.mp hl
    rfl
  obtain ⟨hshown, -⟩ := o.laid width width n 0
  rw [Nat.add_zero] at hshown
  have hresult : ((o.typed.mapM Tracker.indent? : Act ε Tracker _)
      (blockTracker memory width n)).result =
        (o.lines 0).mapM fun l => written? memory width (n + l.1, l.2) := by
    rw [o.typed_eq width, mapM_indent?_written n _ (.inr htop), hshown, List.mapM_map,
      Function.comp_def]
  rw [Run.answer, ← hresult]
  rcases hrun : ((o.typed.mapM Tracker.indent? : Act ε Tracker _)
      (blockTracker memory width n)).result with f | outs
  · rfl
  · rw [Tracker.mapM_indent?_state o.newline_not_mem_typed hrun, indentTexts_typed]

/-- **What a tracker makes of an outline that is typed without indentation.** Whatever calls a fresh
tracker has had, if no bracket is open then every line comes back at its level above the blocks that
are open, and afterwards the same ones are. The tracker that runs does so too, up to the first line
whose indentation is out of bounds. -/
theorem typed_flush_left {ε : Type} (o : Outline .top) (width memory : Nat)
    (calls : List Tracker.Call) :
    let fresh : Tracker := { rules := .colonBlock, width := width, memory }
    let t := calls.foldl Tracker.call fresh
    (∀ marker ∈ t.stack, IndentRules.colonBlock.opensBracket marker = false) →
      t.indentTexts o.typed =
          ((o.lines 0).map fun l => Tracker.indentation width (t.depth + l.1) ++ l.2.code, t) ∧
        ((o.typed.mapM Tracker.indent? : Act ε Tracker _) t).answer =
          ((o.lines 0).mapM fun l => written? memory width (t.depth + l.1, l.2)).map
            fun outs => (outs, t) := by
  intro fresh t hbrackets
  have hfresh : fresh.Nests width memory := ⟨rfl, rfl, rfl, 0, [], .of_blocks 0⟩
  have hblocks : t = blockTracker memory width t.depth :=
    (hfresh.calls calls).eq_blockTracker_depth hbrackets
  have htexts := o.indentTexts_typed width memory t.depth
  have hanswer := o.mapM_indent?_typed (ε := ε) width memory t.depth
  rw [← hblocks] at htexts hanswer
  exact ⟨htexts, hanswer⟩

/-- A class with a loop in it, and a condition in that. -/
def classWithLoop : Outline .top :=
  .compound (.ofWords "class p:".toList) (by decide)
    (.compound (.ofWords "while q:".toList) (by decide)
      (.compound (.ofWords "if r:".toList) (by decide)
        (.leaving (.ofWords "continue".toList) (by decide))
        (.simple (.ofWords "s".toList) (by decide)
          (.leaving (.ofWords "raise s".toList) (by decide))))
      (.leaving (.ofWords "pass".toList) (by decide)))
    .done

/-- It is typed in the branch of a condition, whose indentation the prompt shows. -/
theorem typed_flush_left_classWithLoop :
    let fresh : Tracker := { rules := .colonBlock, width := (4 : Nat) }
    let t := [Tracker.Call.indent "if e:".toList].foldl Tracker.call fresh
    (∀ marker ∈ t.stack, IndentRules.colonBlock.opensBracket marker = false) ∧
      classWithLoop.typed =
        ["class p:", "while q:", "if r:", "continue", "s", "raise s", "pass"].map String.toList ∧
      t.indentTexts classWithLoop.typed =
        (["    class p:", "        while q:", "            if r:", "                continue",
          "            s", "            raise s", "        pass"].map String.toList, t) := by
  intro fresh t
  have hbrackets : ∀ marker ∈ t.stack, IndentRules.colonBlock.opensBracket marker = false := by
    decide
  obtain ⟨htexts, -⟩ :=
    typed_flush_left (ε := Empty) classWithLoop 4 _ [.indent "if e:".toList] hbrackets
  refine ⟨hbrackets, by decide, htexts.trans ?_⟩
  exact congrArg (·, t) (by decide)

end Outline

end PromptLoop
