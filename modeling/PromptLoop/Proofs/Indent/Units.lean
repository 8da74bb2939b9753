import Mathlib.Data.List.Forall2
import PromptLoop.Proofs.Indent.ColonBlocks

/-!
# Colon block code in units of its own

A tracker counts the blanks in front of a line in levels of its own width. Code may be written with
more or fewer blanks for a level. Fewer of them do not make up a level: the first line of a body is
then taken for one that has left it. With more of them a line may count for a level further in than
it stands at, and then it does not close the blocks that it should.

## Main definitions

* `Suite.Unbranched`, `Compound.Plain`: code without clauses
* `Blocks.steppedOut`: the levels of the lines that have blocks to close

## Main results

* `Blocks.shownIn_eq_iff`: when a line is given its own level
* `Blocks.shownAllIn_eq_iff`: when all lines are
* `Blocks.shownAll_le`: with a unit no less than the width no line comes further out
* `Blocks.foundIn_of_deeper`: then a line further in than the one before it closes nothing
* `Compound.given_back_in_units`: what a tracker makes of a compound statement in units of its own
* `Compound.units_move`: two statements that do not come back at their levels
-/

namespace PromptLoop

open Text

/-! ## Code without clauses -/

namespace Suite

/-- No clause follows a statement. -/
def Unbranched : {part : SuitePart} → Suite part → Prop
  | _, .simple _ _ rest => rest.Unbranched
  | _, .leaving _ _ => True
  | _, .compound _ _ body clauses rest => body.Unbranched ∧ clauses.Unbranched ∧ rest.Unbranched
  | _, .done => True
  | _, .more body => body.Unbranched
  | _, .close => True
  | _, .clause _ _ _ _ => False

/-- Without clauses none follows a body that has left its block. -/
theorem Unbranched.orderly {part : SuitePart} {s : Suite part} (h : s.Unbranched) (after : Bool) :
    s.Orderly after := by
  induction s generalizing after with
  | simple line _ rest ih => exact ih h false
  | leaving line _ => trivial
  | compound header _ body clauses rest ihbody ihclauses ihrest =>
    obtain ⟨hbody, hclauses, hrest⟩ := h
    exact ⟨ihbody hbody false, ihclauses hclauses body.leaves, ihrest hrest false⟩
  | done => trivial
  | more body ih => exact ih h false
  | close => trivial
  | clause line _ body clauses _ _ => cases h

/-- Without clauses no line stands out of the blocks that it finds open. -/
theorem Unbranched.out_eq_zero {part : SuitePart} {s : Suite part} (h : s.Unbranched)
    {level : Nat} {l : Nat × CodeLine} (hl : l ∈ s.lines level) : l.2.kind.out = 0 := by
  have hkind : ∀ {line : CodeLine} {kind : LineKind}, line.kind = kind → kind.out = 0 →
      line.kind.out = 0 := fun hkind hout => hkind ▸ hout
  -- by induction on the suite; only a clause would have a line that stands out
  induction s generalizing level with
  | simple line hline rest ih =>
    rcases List.mem_cons.mp hl with rfl | hl
    · exact hkind hline rfl
    · exact ih h hl
  | leaving line hline =>
    obtain rfl := List.mem_singleton.mp hl
    exact hkind hline rfl
  | compound header hheader body clauses rest ihbody ihclauses ihrest =>
    obtain ⟨hbody, hclauses, hrest⟩ := h
    rcases List.mem_cons.mp hl with rfl | hl
    · exact hkind hheader rfl
    · rcases List.mem_append.mp hl with hl | hl
      · exact ihbody hbody hl
      · rcases List.mem_append.mp hl with hl | hl
        · exact ihclauses hclauses hl
        · exact ihrest hrest hl
  | done => cases hl
  | more body ih => exact ih h hl
  | close => cases hl
  | clause line _ body clauses _ _ => cases h

/-- No line of a suite stands further out than the suite. -/
theorem le_of_mem_lines {part : SuitePart} (s : Suite part) {level : Nat} {l : Nat × CodeLine}
    (hl : l ∈ s.lines level) : level ≤ l.1 := by
  -- by induction on the suite, at any level: bodies are one further in
  induction s generalizing level with
  | simple line _ rest ih =>
    rcases List.mem_cons.mp hl with rfl | hl
    · exact Nat.le_refl level
    · exact ih hl
  | leaving line _ =>
    obtain rfl := List.mem_singleton.mp hl
    exact Nat.le_refl level
  | compound header _ body clauses rest ihbody ihclauses ihrest =>
    rcases List.mem_cons.mp hl with rfl | hl
    · exact Nat.le_refl level
    · rcases List.mem_append.mp hl with hl | hl
      · exact Nat.le_of_succ_le (ihbody hl)
      · rcases List.mem_append.mp hl with hl | hl
        · exact ihclauses hl
        · exact ihrest hl
  | done => cases hl
  | more body ih => exact ih hl
  | close => cases hl
  | clause line _ body clauses ihbody ihclauses =>
    rcases List.mem_cons.mp hl with rfl | hl
    · exact Nat.le_refl level
    · rcases List.mem_append.mp hl with hl | hl
      · exact Nat.le_of_succ_le (ihbody hl)
      · exact ihclauses hl

/-- A body has a first line, at its own level. -/
theorem exists_lines_eq_cons (body : Suite .body) (level : Nat) :
    ∃ line rest, body.lines level = (level, line) :: rest := by
  cases body with
  | simple line _ rest => exact ⟨line, rest.lines level, rfl⟩
  | leaving line _ => exact ⟨line, [], rfl⟩
  | compound header _ body clauses rest => exact ⟨header, _, rfl⟩

end Suite

namespace Compound

/-- A compound statement without clauses, and so are those in its body. -/
structure Plain (c : Compound) : Prop where
  clauses_eq : c.clauses = []
  body : c.body.Unbranched

variable {c : Compound}

theorem Plain.lines_eq (h : c.Plain) : c.lines = (0, c.header) :: c.body.lines 1 := by
  rw [lines, h.clauses_eq, List.flatMap_nil, List.append_nil]

/-- Written with the width of the tracker, all lines come back at their levels. -/
theorem Plain.shownAll_lines (h : c.Plain) : Blocks.shownAll 0 c.lines = c.lines := by
  have horderly : c.Orderly := by
    intro body hbody
    rw [bodies, h.clauses_eq] at hbody
    obtain rfl := List.mem_singleton.mp hbody
    exact h.body.orderly false
  rw [c.shownAll_lines horderly, returned, lines, h.clauses_eq]
  rfl

theorem Plain.out_eq_zero (h : c.Plain) {l : Nat × CodeLine} (hl : l ∈ c.lines) :
    l.2.kind.out = 0 := by
  rw [h.lines_eq] at hl
  rcases List.mem_cons.mp hl with rfl | hl
  · show c.header.kind.out = 0
    rw [c.opens]
    rfl
  · exact h.body.out_eq_zero hl

end Compound

/-! ## Levels in units -/

namespace Blocks

/-- The levels of the lines that stand further out than the lines before them have left blocks open:
only their own indentation closes those. -/
def steppedOut : Nat → List (Nat × CodeLine) → List Nat
  | _, [] => []
  | n, l :: ls => (if l.1 < n then [l.1] else []) ++ steppedOut (next n l) ls

variable {unit width n m : Nat} {l : Nat × CodeLine} {ls : List (Nat × CodeLine)}

/-- How many levels a line counts for that is written in units. -/
theorem div_eq_level_iff (unit : Nat) (hwidth : 0 < width) {level : Nat} (hlevel : 0 < level) :
    (level ≤ unit * level / width ↔ width ≤ unit) ∧
      (unit * level / width = level ↔ width ≤ unit ∧ level * (unit - width) < width) := by
  have hle : level ≤ unit * level / width ↔ width ≤ unit := by
    rw [Nat.le_div_iff_mul_le hwidth, Nat.mul_comm level width]
    exact Nat.mul_le_mul_right_iff hlevel
  have hge : unit * level / width ≤ level ↔ unit * level < level.succ * width := by
    rw [← Nat.lt_succ_iff, Nat.div_lt_iff_lt_mul hwidth]
  refine ⟨hle, ?_⟩
  rw [Nat.le_antisymm_iff, hle, hge, and_comm]
  apply and_congr_right
  intro hunit
  obtain ⟨more, rfl⟩ := Nat.exists_eq_add_of_le hunit
  -- What a unit has more than the width adds up from level to level.
  have hsum : (width + more) * level = level * width + level * more := by
    rw [Nat.add_mul, Nat.mul_comm width, Nat.mul_comm more]
  rw [hsum, Nat.succ_mul, Nat.add_sub_cancel_left]
  exact Nat.add_lt_add_iff_left

/-- **When a line is given its own level.** The unit must not be less than the width; and if there
are blocks to close, what it has more must not have added up to another level. -/
theorem shownIn_eq_iff (hunit : 0 < unit) (hwidth : 0 < width) (hout : l.2.kind.out = 0)
    (hshown : shown n l = l) :
    shownIn unit width n l = l ↔
      (0 < l.1 → width ≤ unit) ∧ (l.1 < n → l.1 * (unit - width) < width) := by
  obtain ⟨level, line⟩ := l
  have hfound : found n (level, line) = level := by
    have hlevel : found n (level, line) - line.kind.out = level := congrArg Prod.fst hshown
    rwa [hout, Nat.sub_zero] at hlevel
  have hshownIn : shownIn unit width n (level, line) = (level, line) ↔
      foundIn unit width n (level, line) = level := by
    rw [shownIn, hout, Nat.sub_zero, Prod.mk.injEq]
    exact and_iff_left rfl
  rw [hshownIn]
  rcases Nat.eq_zero_or_pos level with rfl | hlevel
  · -- At the top level nothing is counted, and nothing is open.
    obtain rfl : n = 0 := hfound
    simp [foundIn]
  · have hmul : unit * level ≠ 0 := Nat.ne_of_gt (Nat.mul_pos hunit hlevel)
    have hn : level ≤ n := by
      rw [found, if_neg (Nat.ne_of_gt hlevel), hout] at hfound
      omega
    obtain ⟨hle, heq⟩ := div_eq_level_iff unit hwidth hlevel
    rw [foundIn, if_neg hmul, hout]
    show min n (unit * level / width) = level ↔
      (0 < level → width ≤ unit) ∧ (level < n → level * (unit - width) < width)
    generalize unit * level / width = counted at hle heq
    constructor
    · intro hmin
      have hunit : width ≤ unit := hle.mp (by omega)
      refine ⟨fun _ => hunit, fun hlt => ?_⟩
      exact (heq.mp (by omega)).2
    · rintro ⟨hle', hlt⟩
      have hcounted : level ≤ counted := hle.mpr (hle' hlevel)
      rcases Nat.lt_or_ge level n with hless | hge
      · have hsame : counted = level := heq.mpr ⟨hle' hlevel, hlt hless⟩
        omega
      · omega

/-- A line that is given its own level leaves as many blocks open as in units of the width. -/
theorem nextIn_of_shownIn (hout : l.2.kind.out = 0) (hshown : shown n l = l)
    (hshownIn : shownIn unit width n l = l) : nextIn unit width n l = next n l := by
  have hfirst := congrArg Prod.fst (hshownIn.trans hshown.symm)
  simp only [shownIn, shown, hout, Nat.sub_zero] at hfirst
  rw [nextIn, next, hfirst]

/-- **When all lines are given their own levels.** -/
theorem shownAllIn_eq_iff (hunit : 0 < unit) (hwidth : 0 < width)
    (hout : ∀ l ∈ ls, l.2.kind.out = 0) (hshown : shownAll n ls = ls) :
    shownAllIn unit width n ls = ls ↔
      (∀ l ∈ ls, 0 < l.1 → width ≤ unit) ∧
        ∀ level ∈ steppedOut n ls, level * (unit - width) < width := by
  -- by induction on the lines: as long as they are given their levels, the same blocks are open
  induction ls generalizing n with
  | nil => simp [steppedOut]
  | cons l ls ih =>
    obtain ⟨hl, hls⟩ := List.forall_mem_cons.mp hout
    rw [shownAll_cons, List.cons.injEq] at hshown
    rw [shownAllIn_cons, List.cons.injEq, List.forall_mem_cons]
    have hfirst := shownIn_eq_iff hunit hwidth hl hshown.1
    have hrest := ih hls hshown.2
    have hstepped : (∀ level ∈ steppedOut n (l :: ls), level * (unit - width) < width) ↔
        (l.1 < n → l.1 * (unit - width) < width) ∧
          ∀ level ∈ steppedOut (next n l) ls, level * (unit - width) < width := by
      rw [steppedOut, List.forall_mem_append]
      split <;> simp [*]
    rw [hstepped]
    constructor
    · rintro ⟨hline, hlines⟩
      rw [nextIn_of_shownIn hl hshown.1 hline] at hlines
      obtain ⟨hle, hlt⟩ := hfirst.mp hline
      obtain ⟨hles, hlts⟩ := hrest.mp hlines
      exact ⟨⟨hle, hles⟩, hlt, hlts⟩
    · rintro ⟨⟨hle, hles⟩, hlt, hlts⟩
      have hline : shownIn unit width n l = l := hfirst.mpr ⟨hle, hlt⟩
      rw [nextIn_of_shownIn hl hshown.1 hline]
      exact ⟨hline, hrest.mpr ⟨hles, hlts⟩⟩

/-- With a unit no less than the width a line keeps as many blocks open as in units of the width. -/
theorem found_le_foundIn (hwidth : 0 < width) (hunit : width ≤ unit) (hn : n ≤ m) :
    found n l ≤ foundIn unit width m l := by
  obtain ⟨level, line⟩ := l
  rw [found, foundIn]
  rcases Nat.eq_zero_or_pos level with rfl | hlevel
  · simpa using hn
  · have hmul : unit * level ≠ 0 :=
      Nat.ne_of_gt (Nat.mul_pos (Nat.lt_of_lt_of_le hwidth hunit) hlevel)
    have hcounted : level ≤ unit * level / width :=
      (div_eq_level_iff unit hwidth hlevel).1.mpr hunit
    rw [if_neg (Nat.ne_of_gt hlevel), if_neg hmul]
    omega

/-- **No line comes further out** with a unit no less than the width. -/
theorem shownAll_le (hwidth : 0 < width) (hunit : width ≤ unit) (hn : n ≤ m) :
    List.Forall₂ (fun l l' => l.1 ≤ l'.1 ∧ l.2 = l'.2) (shownAll n ls)
      (shownAllIn unit width m ls) := by
  induction ls generalizing n m with
  | nil => exact .nil
  | cons l ls ih =>
    have hfound : found n l ≤ foundIn unit width m l := found_le_foundIn hwidth hunit hn
    refine .cons ⟨Nat.sub_le_sub_right hfound _, rfl⟩ (ih ?_)
    -- More blocks that are found open are more that are left open, whatever the line is.
    rw [next, nextIn]
    cases l.2.kind with
    | header => exact Nat.succ_le_succ hfound
    | clause => exact Nat.succ_le_succ (Nat.sub_le_sub_right hfound 1)
    | simple => exact hfound
    | leaving => exact Nat.sub_le_sub_right hfound 1

/-- **A line that stands further in than the one before it closes nothing** with a unit no less than
the width. -/
theorem foundIn_of_deeper (hwidth : 0 < width) (hunit : width ≤ unit) {l' : Nat × CodeLine}
    (hout : l.2.kind.out = 0) (htop : l.1 = 0 → n = 0) (hdeeper : l.1 < l'.1) :
    foundIn unit width (nextIn unit width n l) l' = nextIn unit width n l := by
  obtain ⟨level, line⟩ := l
  obtain ⟨level', line'⟩ := l'
  have hmul : unit * level' ≠ 0 := by
    have : 0 < unit * level' :=
      Nat.mul_pos (Nat.lt_of_lt_of_le hwidth hunit) (Nat.lt_of_le_of_lt (Nat.zero_le _) hdeeper)
    omega
  have hfound : foundIn unit width n (level, line) ≤ unit * level / width := by
    rw [foundIn, hout]
    split
    · next hzero =>
      have hlevel : level = 0 :=
        (Nat.mul_eq_zero.mp hzero).resolve_left (Nat.ne_of_gt (Nat.lt_of_lt_of_le hwidth hunit))
      rw [htop hlevel]
      exact Nat.zero_le _
    · exact Nat.min_le_right _ _
  -- The unit makes up for at least one level more, and no line opens more than one block.
  have hmore : unit * level / width + 1 ≤ unit * level' / width := by
    rw [← Nat.add_div_right _ hwidth]
    apply Nat.div_le_div_right
    have hstep : unit * level + unit ≤ unit * level' := by
      rw [← Nat.mul_succ]
      exact Nat.mul_le_mul_left unit hdeeper
    omega
  have hnext : nextIn unit width n (level, line) ≤ unit * level' / width := by
    rw [nextIn]
    cases hkind : line.kind with
    | clause =>
      rw [hkind] at hout
      cases hout
    | _ =>
      simp only [LineKind.leaves]
      omega
  rw [foundIn, if_neg hmul]
  omega

end Blocks

/-! ## What a tracker makes of a compound statement in units of its own -/

/-- A line shows its level. -/
theorem level_of_written {width : Nat} (hwidth : 0 < width) {a b : Nat} {line : CodeLine}
    (h : trimEnd (written width (a, line)) = trimEnd (written width (b, line))) : a = b := by
  rw [trimEnd_written, trimEnd_written, List.append_cancel_right_eq] at h
  have hlength := congrArg List.length h
  simp only [Tracker.indentation, Padding.blanks_length, ← Int.natCast_mul,
    Int.toNat_natCast] at hlength
  exact Nat.eq_of_mul_eq_mul_left hwidth hlength

namespace Compound

open Blocks

/-- Lines come back as they are written if they are given their levels. -/
theorem map_written_eq_iff {width : Nat} (hwidth : 0 < width) {unit n : Nat}
    {ls : List (Nat × CodeLine)} :
    (shownAllIn unit width n ls).map (fun l => trimEnd (written width l)) =
        ls.map (fun l => trimEnd (written width l)) ↔
      shownAllIn unit width n ls = ls := by
  induction ls generalizing n with
  | nil => simp
  | cons l ls ih =>
    rw [shownAllIn_cons, List.map_cons, List.map_cons, List.cons.injEq, List.cons.injEq, ih]
    apply and_congr_left
    intro _
    constructor
    · intro h
      exact Prod.ext (level_of_written hwidth h) rfl
    · intro h
      rw [h]

/-- The first line of a body keeps the block of its header open just where the unit makes up for a
level. -/
theorem one_le_foundIn_iff {unit width : Nat} (hunit : 0 < unit) (hwidth : 0 < width)
    {line : CodeLine} (hout : line.kind.out = 0) :
    1 ≤ foundIn unit width 1 (1, line) ↔ width ≤ unit := by
  have hmul : unit * 1 ≠ 0 := Nat.ne_of_gt (Nat.mul_pos hunit Nat.one_pos)
  rw [foundIn, if_neg hmul, hout, ← (div_eq_level_iff unit hwidth Nat.one_pos).1]
  omega

variable {c : Compound} {unit width : Nat}

/-- The header of a compound statement opens a block, in whatever units its body is written. -/
theorem nextIn_header (c : Compound) (unit width : Nat) :
    shownIn unit width 0 (0, c.header) = (0, c.header) ∧
      nextIn unit width 0 (0, c.header) = 1 := by
  have hfound : foundIn unit width 0 (0, c.header) = 0 := by simp [foundIn]
  constructor
  · rw [shownIn, hfound, Nat.zero_sub]
  · rw [nextIn, hfound, c.opens]
    rfl

/-- The lines of a plain statement come back at their levels just where the unit is no less than the
width, and where what it has more adds up to no other level while there are blocks to close. -/
theorem Plain.shownAllIn_eq_iff (h : c.Plain) (hunit : 0 < unit) (hwidth : 0 < width) :
    shownAllIn unit width 0 c.lines = c.lines ↔
      width ≤ unit ∧ ∀ level ∈ steppedOut 0 c.lines, level * (unit - width) < width := by
  rw [Blocks.shownAllIn_eq_iff hunit hwidth (fun l hl => h.out_eq_zero hl) h.shownAll_lines]
  apply and_congr_left
  intro _
  constructor
  · -- The body has a line below the top level.
    intro hle
    obtain ⟨line, rest, hbody⟩ := c.body.exists_lines_eq_cons 1
    refine hle (1, line) ?_ Nat.one_pos
    rw [h.lines_eq, hbody]
    exact List.mem_cons_of_mem _ List.mem_cons_self
  · intro hle l _ _
    exact hle

/-- Of a plain statement only the header stands at the top level, where nothing is open yet. -/
theorem Plain.nextAllIn_of_top (h : c.Plain) {before rest : List (Nat × CodeLine)}
    {l : Nat × CodeLine} (hlines : c.lines = before ++ l :: rest) (htop : l.1 = 0) :
    nextAllIn unit width 0 before = 0 := by
  cases before with
  | nil => rfl
  | cons first before =>
    rw [h.lines_eq, List.cons_append, List.cons.injEq] at hlines
    have hmem : l ∈ c.body.lines 1 := by
      rw [hlines.2]
      exact List.mem_append_right before List.mem_cons_self
    have hlevel : 1 ≤ l.1 := c.body.le_of_mem_lines hmem
    omega

/-- The body of a plain statement has a first line, right below the top level. -/
theorem Plain.exists_lines_eq_cons (h : c.Plain) :
    ∃ line rest, c.lines = (0, c.header) :: (1, line) :: rest ∧ line.kind.out = 0 := by
  obtain ⟨line, rest, hbody⟩ := c.body.exists_lines_eq_cons 1
  have hlines : c.lines = (0, c.header) :: (1, line) :: rest := by rw [h.lines_eq, hbody]
  have hmem : (1, line) ∈ c.lines := by simp [hlines]
  have hout := h.out_eq_zero hmem
  exact ⟨line, rest, hlines, hout⟩

/-- **No line of a plain statement comes back further out than it stands** just where the unit is no
less than the width. -/
theorem Plain.not_further_out_iff (h : c.Plain) (hunit : 0 < unit) (hwidth : 0 < width) :
    List.Forall₂ (fun l cs => ∃ level, l.1 ≤ level ∧ cs = trimEnd (written width (level, l.2)))
        c.lines ((shownAllIn unit width 0 c.lines).map fun l => trimEnd (written width l)) ↔
      width ≤ unit := by
  constructor
  · -- The first line of the body tells a unit that is too small.
    intro hall
    obtain ⟨line, rest, hlines, hout⟩ := h.exists_lines_eq_cons
    obtain ⟨hheader, hnext⟩ := c.nextIn_header unit width
    rw [hlines, shownAllIn_cons, shownAllIn_cons, hheader, hnext, List.map_cons,
      List.map_cons, List.forall₂_cons, List.forall₂_cons] at hall
    obtain ⟨-, ⟨level, hlevel, hwritten⟩, -⟩ := hall
    have hsame : foundIn unit width 1 (1, line) - line.kind.out = level :=
      level_of_written hwidth hwritten
    rw [hout, Nat.sub_zero] at hsame
    rw [← one_le_foundIn_iff hunit hwidth hout, hsame]
    exact hlevel
  · intro hle
    have hshown : List.Forall₂ _ (shownAll 0 c.lines) (shownAllIn unit width 0 c.lines) :=
      shownAll_le hwidth hle (Nat.le_refl 0)
    rw [h.shownAll_lines] at hshown
    rw [List.forall₂_map_right_iff]
    refine hshown.imp ?_
    rintro l l' ⟨hlevel, hsame⟩
    refine ⟨l'.1, hlevel, ?_⟩
    rw [hsame]

/-- **No line that stands further in than the one before it closes a block** just where the unit is
no less than the width. -/
theorem Plain.not_dedented_iff (h : c.Plain) (hunit : 0 < unit) (hwidth : 0 < width) :
    (∀ before l l' rest, c.lines = before ++ l :: l' :: rest → l.1 < l'.1 →
        foundIn unit width (nextAllIn unit width 0 (before ++ [l])) l' =
          nextAllIn unit width 0 (before ++ [l])) ↔
      width ≤ unit := by
  constructor
  · intro hkept
    obtain ⟨line, rest, hlines, hout⟩ := h.exists_lines_eq_cons
    have hline := hkept [] (0, c.header) (1, line) rest hlines Nat.one_pos
    rw [List.nil_append, nextAllIn_cons, nextAllIn_nil, (c.nextIn_header unit width).2] at hline
    rw [← one_le_foundIn_iff hunit hwidth hout]
    exact Nat.le_of_eq hline.symm
  · intro hle before l l' rest hlines hdeeper
    have hnext : nextAllIn unit width 0 (before ++ [l]) =
        nextIn unit width (nextAllIn unit width 0 before) l := List.foldl_append ..
    have hmem : l ∈ c.lines := by simp [hlines]
    rw [hnext]
    exact foundIn_of_deeper hwidth hle (h.out_eq_zero hmem) (h.nextAllIn_of_top hlines) hdeeper

/-- **What a tracker makes of a compound statement in units of its own.** Its lines come back at
their levels exactly if the unit is no less than the width, and if what it has more does not make up
for another level at any line that has to close blocks. It is the first of these that keeps lines
from coming out too far: then, and only then, no line comes back further out than it stands, and no
line that stands further in than the one before it, as the first of a body does, is taken to have
left a block. The tracker that runs gives the same back up to the first line whose indentation is
out of bounds. -/
theorem given_back_in_units {ε : Type} (c : Compound) (h : c.Plain) {unit width : Nat}
    (memory : Nat) (hunit : 0 < unit) (hwidth : 0 < width) :
    let fresh : Tracker := { rules := .colonBlock, width := width, memory }
    let given := (fresh.indentTexts (c.lines.map (written unit))).1
    (given = c.lines.map (fun l => trimEnd (written width l)) ↔
        width ≤ unit ∧ ∀ level ∈ steppedOut 0 c.lines, level * (unit - width) < width) ∧
      (List.Forall₂ (fun l cs => ∃ level, l.1 ≤ level ∧ cs = trimEnd (written width (level, l.2)))
        c.lines given ↔ width ≤ unit) ∧
      ((∀ before l l' rest, c.lines = before ++ l :: l' :: rest → l.1 < l'.1 →
        let t := (fresh.indentTexts ((before ++ [l]).map (written unit))).2
        t.resynced (written unit l') = t.stack) ↔ width ≤ unit) ∧
      ∃ shown : List (Nat × CodeLine),
        given = shown.map (fun l => trimEnd (written width l)) ∧
          (((c.lines.map (written unit)).mapM Tracker.indent? : Act ε Tracker _) fresh).result =
            shown.mapM (written? memory width) := by
  intro fresh given
  have hgiven : given = (shownAllIn unit width 0 c.lines).map fun l => trimEnd (written width l) :=
    congrArg Prod.fst (indentTexts_units 0 c.lines)
  refine ⟨?_, ?_, ?_, ?_⟩
  · rw [hgiven, map_written_eq_iff hwidth, h.shownAllIn_eq_iff hunit hwidth]
  · rw [hgiven]
    exact h.not_further_out_iff hunit hwidth
  · rw [← h.not_dedented_iff hunit hwidth]
    -- What a tracker has open is known by the number of blocks.
    have hstack : ∀ ls : List (Nat × CodeLine),
        (fresh.indentTexts (ls.map (written unit))).2 =
          blockTracker memory width (nextAllIn unit width 0 ls) := fun ls =>
      congrArg Prod.snd (indentTexts_units 0 ls)
    have hcount : ∀ a b, blocks a = blocks b ↔ a = b := by
      intro a b
      constructor
      · intro hab
        simpa using congrArg List.length hab
      · rintro rfl
        rfl
    simp only [hstack, resynced_units]
    simp only [blockTracker, hcount]
  · exact ⟨_, hgiven, mapM_indent?_units hwidth 0 c.lines⟩

/-- A condition with a single line in its body. -/
def condition : Compound where
  header := .ofWords "if x:".toList
  opens := by decide
  body := .simple (.ofWords "y".toList) (by decide) .done
  clauses := []

/-- A condition in the body of another one, and a line after it. -/
def innerCondition : Compound where
  header := .ofWords "if x:".toList
  opens := by decide
  body :=
    .compound (.ofWords "if y:".toList) (by decide)
      (.simple (.ofWords "z".toList) (by decide) .done)
      .close (.more (.simple (.ofWords "w".toList) (by decide) .done))
  clauses := []

theorem condition_plain : condition.Plain := ⟨rfl, trivial⟩

theorem innerCondition_plain : innerCondition.Plain := ⟨rfl, trivial, trivial, trivial⟩

/-- Five blanks are one level of four, and one more does not make up for another. -/
theorem given_back_in_units_innerCondition :
    (innerCondition.Plain ∧ 0 < 5 ∧ 0 < 4) ∧
      (Tracker.indentTexts { rules := .colonBlock, width := (4 : Nat) }
          (innerCondition.lines.map (written (5 : Nat)))).1 =
        innerCondition.lines.map (fun l => trimEnd (written (4 : Nat) l)) := by
  have hunit : 0 < 5 := by decide
  have hwidth : 0 < 4 := by decide
  have hstepped : ∀ level ∈ steppedOut 0 innerCondition.lines, level * (5 - 4) < 4 := by decide
  refine ⟨⟨innerCondition_plain, hunit, hwidth⟩, ?_⟩
  exact (given_back_in_units (ε := Unit) innerCondition innerCondition_plain _ hunit hwidth).1.mpr
    ⟨by decide, hstepped⟩

/-- Two statements that do not come back at their levels, with a width of four. Two blanks do not
make up for a level, so the line of the body comes back at the top level. Eight blanks make up for
two levels, so the line after the inner condition does not close that. -/
theorem units_move :
    (condition.Plain ∧
        condition.lines.map (written 2) = ["if x:", "  y"].map String.toList ∧
        (Tracker.indentTexts { rules := .colonBlock, width := 4 }
            (condition.lines.map (written 2))).1 = ["if x:", "y"].map String.toList ∧
        (Tracker.indentTexts { rules := .colonBlock, width := 4 }
            (condition.lines.map (written 2))).1 ≠
          condition.lines.map (fun l => trimEnd (written 4 l))) ∧
      innerCondition.Plain ∧
        innerCondition.lines.map (written 8) =
          ["if x:", "        if y:", "                z", "        w"].map String.toList ∧
        (Tracker.indentTexts { rules := .colonBlock, width := 4 }
            (innerCondition.lines.map (written 8))).1 =
          ["if x:", "    if y:", "        z", "        w"].map String.toList ∧
        (Tracker.indentTexts { rules := .colonBlock, width := 4 }
            (innerCondition.lines.map (written 8))).1 ≠
          innerCondition.lines.map (fun l => trimEnd (written 4 l)) := by
  refine ⟨⟨condition_plain, ?_, ?_, ?_⟩, innerCondition_plain, ?_, ?_, ?_⟩ <;> decide

end Compound

end PromptLoop
