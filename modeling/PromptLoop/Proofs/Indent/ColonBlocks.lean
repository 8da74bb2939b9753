import PromptLoop.Proofs.Indent.ColonLines
import PromptLoop.Proofs.Indent.Reindentation

/-!
# Colon block code

A compound statement with bodies and clauses, nested in any way, is written with every line at its
level and fed to a tracker line by line. The tracker gives the lines back as they are written. It
goes by the open blocks where a line is written without indentation, so a clause at the top level is
put one level out of whatever the body before it has left open.

## Main definitions

* `Suite`: the statements of a body, and the clauses after one, as a tree
* `Compound`: a compound statement at the top level
* `Suite.left`: how many blocks are open after a suite
* `Suite.Orderly`: clauses find the block that they continue open
* `Compound.lines`, `Compound.returned`: the lines with their levels, and with those given back

## Main results

* `Suite.settles`: below the top level lines keep their levels
* `Compound.given_back`: what a tracker makes of a compound statement
* `Compound.clauses_move`: two statements that do not come back as they are written
-/

namespace PromptLoop

open Text

/-- The parts of colon block code. -/
inductive SuitePart
  /-- The statements of a block, of which there is at least one. -/
  | body
  /-- What follows a statement in its block. -/
  | rest
  /-- What follows the first body of a compound statement. -/
  | clauses
  deriving DecidableEq, Repr

/-- Colon block code as a tree. A line that leaves its block is the last statement of it. -/
inductive Suite : SuitePart → Type
  | simple (line : CodeLine) : line.kind = .simple → Suite .rest → Suite .body
  | leaving (line : CodeLine) : line.kind = .leaving → Suite .body
  /-- A compound statement: its header, its first body and its clauses. -/
  | compound (header : CodeLine) : header.kind = .header → Suite .body → Suite .clauses →
      Suite .rest → Suite .body
  | done : Suite .rest
  | more : Suite .body → Suite .rest
  | close : Suite .clauses
  | clause (line : CodeLine) : line.kind = .clause → Suite .body → Suite .clauses → Suite .clauses

namespace Suite

/-- The lines of a suite with their levels: header and clauses stand at the level of the statement
that they belong to, and bodies one level in. -/
def lines : {part : SuitePart} → Suite part → Nat → List (Nat × CodeLine)
  | _, .simple line _ rest, level => (level, line) :: rest.lines level
  | _, .leaving line _, level => [(level, line)]
  | _, .compound header _ body clauses rest, level =>
    (level, header) :: (body.lines (level + 1) ++ (clauses.lines level ++ rest.lines level))
  | _, .done, _ => []
  | _, .more body, level => body.lines level
  | _, .close, _ => []
  | _, .clause line _ body clauses, level =>
    (level, line) :: (body.lines (level + 1) ++ clauses.lines level)

/-- How many blocks are open after a suite at a level, with those that are open before it: as many
as the level of its last line says, less one if that line leaves its block. -/
def left : {part : SuitePart} → Suite part → Nat → Nat → Nat
  | _, .simple _ _ rest, level, _ => rest.left level level
  | _, .leaving _ _, level, _ => level - 1
  | _, .compound _ _ body clauses rest, level, _ =>
    rest.left level (clauses.left level (body.left (level + 1) (level + 1)))
  | _, .done, _, before => before
  | _, .more body, level, before => body.left level before
  | _, .close, _, before => before
  | _, .clause _ _ body clauses, level, _ => clauses.left level (body.left (level + 1) (level + 1))

/-- The last statement of a suite is a line that leaves its block. -/
def leaves : {part : SuitePart} → Suite part → Bool
  | _, .simple _ _ rest => rest.leaves
  | _, .leaving _ _ => true
  | _, .compound _ _ _ _ rest => rest.leaves
  | _, .done => false
  | _, .more body => body.leaves
  | _, .close => false
  | _, .clause _ _ _ _ => false

/-- No clause follows a body that ends in a line that leaves its block; `after` says that what comes
before a suite has ended so. -/
def Orderly : {part : SuitePart} → Suite part → Bool → Prop
  | _, .simple _ _ rest, _ => rest.Orderly false
  | _, .leaving _ _, _ => True
  | _, .compound _ _ body clauses rest, _ =>
    body.Orderly false ∧ clauses.Orderly body.leaves ∧ rest.Orderly false
  | _, .done, _ => True
  | _, .more body, _ => body.Orderly false
  | _, .close, _ => True
  | _, .clause _ _ body clauses, after =>
    after = false ∧ body.Orderly false ∧ clauses.Orderly body.leaves

end Suite

/-- A clause at the top level. -/
structure Branch where
  line : CodeLine
  continues : line.kind = .clause
  body : Suite .body

/-- A compound statement at the top level. -/
structure Compound where
  header : CodeLine
  opens : header.kind = .header
  body : Suite .body
  clauses : List Branch

/-- How many blocks are open after a body right below the top level. -/
def Suite.open (body : Suite .body) : Nat := body.left 1 1

/-- The lines of a clause at the top level. -/
def Branch.lines (b : Branch) : List (Nat × CodeLine) := (0, b.line) :: b.body.lines 1

/-- The lines of clauses as a tracker gives them back that has `n` blocks open: a clause comes one
level out of those. -/
def Branch.returned : Nat → List Branch → List (Nat × CodeLine)
  | _, [] => []
  | n, b :: bs => (n - 1, b.line) :: (b.body.lines 1 ++ returned b.body.open bs)

namespace Compound

/-- The lines of a compound statement with their levels. -/
def lines (c : Compound) : List (Nat × CodeLine) :=
  (0, c.header) :: (c.body.lines 1 ++ c.clauses.flatMap Branch.lines)

/-- The lines of a compound statement with the levels that a tracker gives them. -/
def returned (c : Compound) : List (Nat × CodeLine) :=
  (0, c.header) :: (c.body.lines 1 ++ Branch.returned c.body.open c.clauses)

/-- The bodies of a compound statement. -/
def bodies (c : Compound) : List (Suite .body) := c.body :: c.clauses.map Branch.body

/-- Within the bodies no clause follows a body that ends in a line that leaves its block. -/
def Orderly (c : Compound) : Prop := ∀ body ∈ c.bodies, body.Orderly false

/-- Every body that a clause follows leaves one block open at most. -/
def Closes (c : Compound) : Prop := ∀ body ∈ c.bodies.dropLast, body.open ≤ 1

end Compound

/-! ## Below the top level lines keep their levels -/

namespace Suite

open Blocks

/-- A body opens the blocks that it leaves open itself. -/
theorem left_body (body : Suite .body) (level n m : Nat) :
    body.left level n = body.left level m := by
  cases body <;> rfl

theorem leaves_clauses (s : Suite .clauses) : s.leaves = false := by
  cases s <;> rfl

/-- A suite leaves the blocks around it open, but for the innermost one if its last line leaves
that. -/
theorem le_left {part : SuitePart} (s : Suite part) {level n : Nat} (h : level ≤ n) :
    level ≤ s.left level n + 1 ∧ (s.leaves = false → level ≤ s.left level n) := by
  -- by induction on the suite: its own level is lost only to a last line that leaves the block
  induction s generalizing level n with
  | simple line _ rest ih => exact ih (Nat.le_refl level)
  | leaving line _ =>
    constructor
    · show level ≤ level - 1 + 1
      omega
    · intro hleaves
      cases hleaves
  | compound header _ body clauses rest ihbody ihclauses ihrest =>
    -- The body is one level in, so what it leaves open reaches the level of the statement.
    have hbody : level + 1 ≤ _ + 1 := (ihbody (Nat.le_refl (level + 1))).1
    exact ihrest ((ihclauses (Nat.le_of_succ_le_succ hbody)).2 clauses.leaves_clauses)
  | done => exact ⟨Nat.le_succ_of_le h, fun _ => h⟩
  | more body ih => exact ih h
  | close => exact ⟨Nat.le_succ_of_le h, fun _ => h⟩
  | clause line _ body clauses ihbody ihclauses =>
    have hbody : level + 1 ≤ _ + 1 := (ihbody (Nat.le_refl (level + 1))).1
    have hlevel : level ≤ clauses.left level _ :=
      (ihclauses (Nat.le_of_succ_le_succ hbody)).2 clauses.leaves_clauses
    exact ⟨Nat.le_succ_of_le hlevel, fun _ => hlevel⟩

theorem le_left_clauses (s : Suite .clauses) {level n : Nat} (h : level ≤ n) :
    level ≤ s.left level n := (s.le_left h).2 s.leaves_clauses

/-- What a suite finds open before it: the blocks around it, and before a clause also the one that
the clause continues. -/
def Finds (level n : Nat) (after : Bool) : SuitePart → Prop
  | .clauses => level ≤ n ∧ (after = false → level + 1 ≤ n)
  | _ => level ≤ n

/-- A body has left the level of its header open, and its own block too unless its end left it. -/
theorem finds_clauses (body : Suite .body) (level : Nat) :
    Finds level (body.left (level + 1) (level + 1)) body.leaves .clauses := by
  obtain ⟨hone, hboth⟩ := body.le_left (Nat.le_refl (level + 1))
  exact ⟨Nat.le_of_succ_le_succ hone, hboth⟩

/-- A line whose block is open keeps its level, and changes the open blocks by its kind alone. -/
theorem line_settles {level n : Nat} {line : CodeLine} {kind : LineKind} (hlevel : 0 < level)
    (hkind : line.kind = kind) (h : level + kind.out ≤ n) :
    shown n (level, line) = (level, line) ∧
      next n (level, line) = kind.leaves (level + kind.out) := by
  subst hkind
  have hfound : found n (level, line) = level + line.kind.out := by
    rw [found, if_neg (Nat.ne_of_gt hlevel)]
    exact Nat.min_eq_right h
  constructor
  · rw [shown, hfound, Nat.add_sub_cancel]
  · rw [next, hfound]

/-- **Below the top level lines keep their levels.** -/
theorem settles {part : SuitePart} (s : Suite part) {level n : Nat} {after : Bool}
    (hlevel : 0 < level) (horderly : s.Orderly after) (h : Finds level n after part) :
    shownAll n (s.lines level) = s.lines level ∧ nextAll n (s.lines level) = s.left level n := by
  -- The level and the open blocks grow with the nesting, so the induction is over all of them.
  induction s generalizing level n after with
  | simple line hkind rest ih =>
    obtain ⟨hshown, hnext⟩ := line_settles hlevel hkind h
    obtain ⟨hrest, hleft⟩ := ih hlevel horderly (Nat.le_refl level)
    constructor
    · rw [lines, shownAll_cons, hshown, hnext]
      exact congrArg _ hrest
    · rw [lines, nextAll_cons, hnext]
      exact hleft
  | leaving line hkind =>
    obtain ⟨hshown, hnext⟩ := line_settles hlevel hkind h
    constructor
    · rw [lines, shownAll_cons, hshown]
      rfl
    · rw [lines, nextAll_cons, hnext]
      rfl
  | compound header hkind body clauses rest ihbody ihclauses ihrest =>
    obtain ⟨hobody, hoclauses, horest⟩ := horderly
    obtain ⟨hshown, hnext⟩ := line_settles hlevel hkind h
    obtain ⟨hbody, hleft⟩ := ihbody (Nat.succ_pos level) hobody (Nat.le_refl (level + 1))
    obtain ⟨hclauses, hleft'⟩ := ihclauses hlevel hoclauses (body.finds_clauses level)
    -- What comes after the statement finds the blocks around it open, as the statement did.
    obtain ⟨hrest, hleft''⟩ :=
      ihrest hlevel horest (clauses.le_left_clauses (body.finds_clauses level).1)
    have hnext : next n (level, header) = level + 1 := hnext
    constructor
    · rw [lines, shownAll_cons, hshown, hnext, shownAll_append, hbody, hleft, shownAll_append,
        hclauses, hleft', hrest]
    · rw [lines, nextAll_cons, hnext, nextAll_append, hleft, nextAll_append, hleft', hleft'']
      rfl
  | done => exact ⟨rfl, rfl⟩
  | more body ih => exact ih hlevel horderly h
  | close => exact ⟨rfl, rfl⟩
  | clause line hkind body clauses ihbody ihclauses =>
    obtain ⟨hafter, hobody, hoclauses⟩ := horderly
    -- The block that the clause continues is open: the body before it has not left it.
    obtain ⟨hshown, hnext⟩ := line_settles hlevel hkind (h.2 hafter)
    obtain ⟨hbody, hleft⟩ := ihbody (Nat.succ_pos level) hobody (Nat.le_refl (level + 1))
    obtain ⟨hclauses, hleft'⟩ := ihclauses hlevel hoclauses (body.finds_clauses level)
    have hnext : next n (level, line) = level + 1 := hnext
    constructor
    · rw [lines, shownAll_cons, hshown, hnext, shownAll_append, hbody, hleft, hclauses]
    · rw [lines, nextAll_cons, hnext, nextAll_append, hleft, hleft']
      rfl

end Suite

/-! ## What a tracker makes of a compound statement -/

namespace Blocks

variable {unit width memory : Nat} {ε : Type}

theorem not_mem_written (width : Int) (l : Nat × CodeLine) : '\n' ∉ written width l := by
  obtain ⟨level, line⟩ := l
  -- The blanks in front of a line are no line ends, and the line has none.
  intro hmem
  rcases List.mem_append.mp hmem with hblank | hline
  · have : '\n' = ' ' := List.eq_of_mem_replicate hblank
    cases this
  · exact line.no_newline ((List.dropWhile_sublist _).subset hline)

/-- Lines come back with the levels that they are given. -/
theorem indentTexts_units (n : Nat) (ls : List (Nat × CodeLine)) :
    (blockTracker memory width n).indentTexts (ls.map (written unit)) =
      ((shownAllIn unit width n ls).map fun l => trimEnd (written width l),
        blockTracker memory width (nextAllIn unit width n ls)) := by
  induction ls generalizing n with
  | nil => rfl
  | cons l ls ih =>
    have hline : (blockTracker memory width n).indent (written unit l) =
        (trimEnd (written width (shownIn unit width n l)),
          blockTracker memory width (nextIn unit width n l)) := by
      rw [Tracker.indent, splitLines_of_not_mem (not_mem_written unit l), Tracker.indentLines_cons,
        Tracker.indentLines_nil, indentLine_units]
      rfl
    rw [List.map_cons, Tracker.indentTexts, hline, ih]
    rfl

/-- The tracker that runs gives them back up to the first whose indentation is out of bounds. -/
theorem mapM_indent?_written (n : Nat) (ls : List (Nat × CodeLine))
    (hwidth : 0 < width ∨ ∀ l ∈ ls, l.1 = 0) :
    (((ls.map (written unit)).mapM Tracker.indent? : Act ε Tracker _)
        (blockTracker memory width n)).result =
      (shownAllIn unit width n ls).mapM (written? memory width) := by
  induction ls generalizing n with
  | nil => rfl
  | cons l ls ih =>
    have hfirst : 0 < width ∨ l.1 = 0 := hwidth.imp_right fun h => h l List.mem_cons_self
    have hrest := ih (nextIn unit width n l)
      (hwidth.imp_right fun h => (List.forall_mem_cons.mp h).2)
    rw [List.map_cons, List.mapM_cons, Act.bind_apply,
      Tracker.indent?_line (not_mem_written unit l), indentLine?_units n l hfirst, shownAllIn_cons,
      List.mapM_cons]
    -- A line that is refused ends the run, and no line after it is fed.
    rcases written? memory width (shownIn unit width n l) with f | cs
    · rfl
    · show ((do return cs :: (← (ls.map (written unit)).mapM Tracker.indent?) : Act ε Tracker _)
        (blockTracker memory width (nextIn unit width n l))).result = _
      rw [bind_pure_comp, Act.map_apply, hrest]
      rcases (shownAllIn unit width (nextIn unit width n l) ls).mapM (written? memory width) with
        f | rest
      · rfl
      · rfl

theorem mapM_indent?_units (hwidth : 0 < width) (n : Nat) (ls : List (Nat × CodeLine)) :
    (((ls.map (written unit)).mapM Tracker.indent? : Act ε Tracker _)
        (blockTracker memory width n)).result =
      (shownAllIn unit width n ls).mapM (written? memory width) :=
  mapM_indent?_written n ls (.inl hwidth)

end Blocks

namespace Branch

open Blocks

/-- Clauses at the top level come one level out of the blocks that the body before each has left
open, and their bodies keep their levels. -/
theorem shownAll_lines (bs : List Branch) {n : Nat} (h : ∀ b ∈ bs, b.body.Orderly false) :
    shownAll n (bs.flatMap lines) = returned n bs := by
  induction bs generalizing n with
  | nil => rfl
  | cons b bs ih =>
    have hline : shown n (0, b.line) = (n - 1, b.line) := by
      rw [shown, b.continues]
      rfl
    have hnext : next n (0, b.line) = n - 1 + 1 := by
      rw [next, b.continues]
      rfl
    have horderly : b.body.Orderly false := h b List.mem_cons_self
    -- However many blocks were open, the body of the clause finds its own one among them.
    obtain ⟨hbody, hleft⟩ := b.body.settles (n := n - 1 + 1) Nat.one_pos horderly (Nat.succ_pos _)
    have hrest : shownAll b.body.open (bs.flatMap lines) = returned b.body.open bs :=
      ih fun b' hb' => h b' (List.mem_cons_of_mem b hb')
    rw [b.body.left_body 1 _ 1] at hleft
    rw [List.flatMap_cons, lines, List.cons_append, shownAll_cons, hline, hnext, shownAll_append,
      hbody, hleft, returned]
    exact congrArg (fun ls => (n - 1, b.line) :: (b.body.lines 1 ++ ls)) hrest

/-- Clauses come back at the top level where no body before one leaves more than one block open. -/
theorem returned_eq_iff (bs : List Branch) (before : Suite .body) :
    returned before.open bs = bs.flatMap lines ↔
      ∀ body ∈ (before :: bs.map Branch.body).dropLast, body.open ≤ 1 := by
  induction bs generalizing before with
  | nil => simp [returned]
  | cons b bs ih =>
    have hcons : (before :: (b :: bs).map Branch.body).dropLast =
        before :: (b.body :: bs.map Branch.body).dropLast := rfl
    rw [hcons, List.forall_mem_cons, ← ih b.body, returned, List.flatMap_cons, lines,
      List.cons_append, List.cons.injEq, Prod.mk.injEq, List.append_cancel_left_eq]
    -- A clause is one level out of the open blocks, which is the top level if there is one at most.
    constructor
    · rintro ⟨⟨hopen, -⟩, hrest⟩
      exact ⟨by omega, hrest⟩
    · rintro ⟨hopen, hrest⟩
      exact ⟨⟨by omega, rfl⟩, hrest⟩

end Branch

namespace Compound

open Blocks

theorem shownAll_lines (c : Compound) (h : c.Orderly) : shownAll 0 c.lines = c.returned := by
  have hheader : shown 0 (0, c.header) = (0, c.header) := by
    rw [shown, c.opens]
    rfl
  have hnext : next 0 (0, c.header) = 1 := by
    rw [next, c.opens]
    rfl
  obtain ⟨hbody, hleft⟩ := c.body.settles (n := 1) Nat.one_pos (h c.body List.mem_cons_self)
    (Nat.le_refl 1)
  have hclauses : shownAll c.body.open (c.clauses.flatMap Branch.lines) =
      Branch.returned c.body.open c.clauses :=
    Branch.shownAll_lines c.clauses fun b hb =>
      h b.body (List.mem_cons_of_mem _ (List.mem_map_of_mem hb))
  rw [lines, shownAll_cons, hheader, hnext, shownAll_append, hbody, hleft]
  exact congrArg (fun ls => (0, c.header) :: (c.body.lines 1 ++ ls)) hclauses

/-- **What a tracker makes of a compound statement**, fed to it line by line: every line comes back
as it is written but for the blanks at its end, except that a clause at the top level comes one
level out of the blocks that the body before it has left open. So all lines come back unchanged just
where no such body leaves more than one block open. The tracker that runs gives the same back up to
the first line whose indentation is out of bounds. -/
theorem given_back {ε : Type} (c : Compound) {width : Int} (memory : Nat) (hwidth : 0 < width)
    (h : c.Orderly) :
    let fresh : Tracker := { rules := .colonBlock, width, memory }
    (fresh.indentTexts (c.lines.map (written width))).1 =
        c.returned.map (fun l => trimEnd (written width l)) ∧
      (((c.lines.map (written width)).mapM Tracker.indent? : Act ε Tracker _) fresh).result =
        c.returned.mapM (written? memory width) ∧
      (c.returned = c.lines ↔ c.Closes) := by
  intro fresh
  obtain ⟨w, rfl⟩ := Int.eq_ofNat_of_zero_le (Int.le_of_lt hwidth)
  have hw : 0 < w := Int.natCast_pos.mp hwidth
  refine ⟨?_, ?_, ?_⟩
  · rw [← c.shownAll_lines h, ← shownAllIn_self hw]
    exact congrArg Prod.fst (indentTexts_units 0 c.lines)
  · rw [← c.shownAll_lines h, ← shownAllIn_self hw]
    exact mapM_indent?_units hw 0 c.lines
  · rw [returned, lines, List.cons.injEq, List.append_cancel_left_eq, Branch.returned_eq_iff]
    exact ⟨fun hcloses => hcloses.2, fun hcloses => ⟨rfl, hcloses⟩⟩

end Compound

/-! ## Two statements -/

/-- Words and colons close no bracket that they do not open. -/
theorem Balanced.of_words {ts : List Token}
    (h : ∀ t ∈ ts, t.kind = .word ∨ t = ⟨.punct, colon⟩) : Balanced {} ts := by
  induction ts with
  | nil => exact .nil
  | cons t ts ih =>
    obtain ⟨hhead, htail⟩ := List.forall_mem_cons.mp h
    apply Balanced.neutral ?_ (ih htail)
    obtain ⟨kind, word⟩ := t
    rcases hhead with rfl | hcolon
    · show IndentRules.isKeyword {} word = false
      rfl
    · cases hcolon
      exact ⟨by decide, by decide⟩

/-- A line of words and colons. -/
def CodeLine.ofWords (cs : List Char) (hline : '\n' ∉ cs := by decide)
    (hcode : trim cs ≠ [] := by decide)
    (hwords : ∀ t ∈ PromptLoop.tokens (trim cs), t.kind = .word ∨ t = ⟨.punct, colon⟩ := by decide)
    (hopens : startsWith IndentRules.colonBlock.midKeywords (PromptLoop.tokens (trim cs)) = true →
      endsInColon (PromptLoop.tokens (trim cs)) = true := by decide) : CodeLine :=
  ⟨⟨cs, hline⟩, hcode, .of_words hwords, hopens⟩

namespace Compound

/-- A condition in the body of another, which has an `else`; there is a blank after the simple
line of the inner one. -/
def conditions : Compound where
  header := .ofWords "if a:".toList
  opens := by decide
  body :=
    .compound (.ofWords "if b:".toList) (by decide)
      (.simple (.ofWords "c ".toList) (by decide) .done)
      .close .done
  clauses :=
    [{line := .ofWords "else:".toList
      continues := by decide
      body := .simple (.ofWords "d".toList) (by decide) .done}]

/-- A condition in the body of a loop: it leaves the loop, or else does something. -/
def loop : Compound where
  header := .ofWords "while a:".toList
  opens := by decide
  body :=
    .compound (.ofWords "if b:".toList) (by decide)
      (.leaving (.ofWords "break".toList) (by decide))
      (.clause (.ofWords "else:".toList) (by decide)
        (.simple (.ofWords "c".toList) (by decide) .done)
        .close)
      .done
  clauses := []

/-- The first comes back as `given_back` says; the condition of the second is not orderly. -/
theorem given_back_conditions :
    ((0 : Int) < 4 ∧ conditions.Orderly) ∧
      (Tracker.indentTexts { rules := .colonBlock, width := 4 }
          (conditions.lines.map (written 4))).1 =
        conditions.returned.map (fun l => trimEnd (written 4 l)) := by
  have horderly : conditions.Orderly := by
    intro body hbody
    rcases List.mem_cons.mp hbody with rfl | helse
    · exact ⟨trivial, trivial, trivial⟩
    · obtain rfl := List.mem_singleton.mp helse
      trivial
  exact ⟨⟨by decide, horderly⟩, (given_back (ε := Unit) conditions _ (by decide) horderly).1⟩

/-- Two statements that do not come back as they are written. The first loses the blank, and its
`else` goes to the condition that was still open; in the second the block that the `break` has left
is left once more. -/
theorem clauses_move :
    (conditions.lines.map (written 4) =
        ["if a:", "    if b:", "        c ", "else:", "    d"].map String.toList ∧
      (Tracker.indentTexts { rules := .colonBlock, width := 4 }
          (conditions.lines.map (written 4))).1 =
        ["if a:", "    if b:", "        c", "    else:", "    d"].map String.toList ∧
      (Tracker.indentTexts { rules := .colonBlock, width := 4 }
          (conditions.lines.map (written 4))).1 ≠ conditions.lines.map (written 4)) ∧
      loop.lines.map (written 4) =
        ["while a:", "    if b:", "        break", "    else:", "        c"].map String.toList ∧
      (Tracker.indentTexts { rules := .colonBlock, width := 4 } (loop.lines.map (written 4))).1 =
        ["while a:", "    if b:", "        break", "else:", "    c"].map String.toList ∧
      (Tracker.indentTexts { rules := .colonBlock, width := 4 } (loop.lines.map (written 4))).1 ≠
        loop.lines.map (written 4) := by
  refine ⟨⟨?_, ?_, ?_⟩, ?_, ?_, ?_⟩ <;> decide

end Compound

end PromptLoop
