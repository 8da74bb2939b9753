import PromptLoop.Proofs.Indent.Refusal
import PromptLoop.Proofs.Text.Blank

/-!
# What re-indentation leaves alone

A tracker changes the blanks around the lines of a text and nothing else. It goes through the lines
one by one, so it does not matter whether they are fed to it at once. Where no colon opens a block,
the indentation that a line has already does not matter either.

## Main definitions

* `Tracker.indentTexts`: texts re-indented one after the other
* `Tracker.Reindents`: what a tracker may make of a line

## Main results

* `Tracker.indentLine_reindents`, `Tracker.indentLines_reindents`: it makes that of every line
* `Tracker.splitLines_indent`, `Tracker.mapM_indent?`: a text is fed as its lines are
* `Tracker.accepts_iff`, `Tracker.acceptsAll_or_refused`: which lines are refused
* `Tracker.indentLines_congr`: lines with the same code are re-indented alike
* `Tracker.blanks_alone_change`: all of it, for a text
-/

namespace PromptLoop

open Text

/-- Explicit indentation opens nothing. -/
theorem Constructs.resync_length_le (rules : IndentRules) (width : Int) (leading : Nat)
    (ts : List Token) (stack : Constructs) :
    (stack.resync rules width leading ts).length ≤ stack.length := by
  rw [resync]
  split
  · exact closeTo_length_le _ stack
  · exact Nat.le_refl _

namespace Tracker

/-- Texts re-indented one after the other, and the tracker after them. -/
def indentTexts : Tracker → List (List Char) → List (List Char) × Tracker
  | t, [] => ([], t)
  | t, text :: rest =>
    ((t.indent text).1 :: ((t.indent text).2.indentTexts rest).1,
      ((t.indent text).2.indentTexts rest).2)

variable {ε : Type} {t : Tracker} {line other out text : List Char} {lines : List (List Char)}

/-! ## One line -/

/-- What a tracker may make of a line: nothing of a blank one, and of any other its code, no further
in than constructs are open. -/
def Reindents (t : Tracker) (line out : List Char) : Prop :=
  if trim line = [] then out = []
  else ∃ level ≤ t.depth, out = List.replicate (level * t.width.toNat) ' ' ++ trim line

theorem lineDepth_le_depth (t : Tracker) (line : List Char) : t.lineDepth line ≤ t.depth :=
  Nat.le_trans (Nat.sub_le _ _) (Constructs.resync_length_le _ _ _ _ _)

theorem indentation_eq_replicate (width : Int) (level : Nat) :
    indentation width level = List.replicate (level * width.toNat) ' ' := by
  have hcount : (width * level).toNat = level * width.toNat := by
    rcases Int.le_total 0 width with hwidth | hwidth
    · obtain ⟨w, rfl⟩ := Int.eq_ofNat_of_zero_le hwidth
      rw [← Int.natCast_mul, Int.toNat_natCast, Int.toNat_natCast, Nat.mul_comm]
    · rw [Int.toNat_of_nonpos hwidth, Nat.mul_zero]
      exact Int.toNat_of_nonpos (Int.mul_nonpos_of_nonpos_of_nonneg hwidth (Int.natCast_nonneg _))
  rw [indentation, Padding.blanks, hcount]

/-- Code is indented to two levels alike only where they are one, unless levels have no width. -/
theorem indentation_append_inj {width : Int} {code : List Char} {level level' : Nat}
    (hwidth : 0 < width) :
    indentation width level ++ code = indentation width level' ++ code ↔ level = level' := by
  constructor
  · intro h
    have hlength := congrArg List.length (List.append_cancel_right h)
    rw [indentation_eq_replicate, indentation_eq_replicate, List.length_replicate,
      List.length_replicate] at hlength
    exact Nat.eq_of_mul_eq_mul_right (Int.lt_toNat.mpr hwidth) hlength
  · rintro rfl
    rfl

/-- A line that is not blank is given back at its depth. -/
theorem indentLine_code (hcode : trim line ≠ []) :
    (t.indentLine line).1 =
      List.replicate (t.lineDepth line * t.width.toNat) ' ' ++ trim line := by
  have hline : ¬(trim line).isEmpty = true := by rwa [List.isEmpty_iff]
  rw [indentLine, if_neg hline, ← indentation_eq_replicate]

theorem indentLine_blank (hblank : trim line = []) : t.indentLine line = ([], t) := by
  rw [indentLine]
  exact if_pos (List.isEmpty_iff.mpr hblank)

/-- **Only the blanks around a line change.** -/
theorem indentLine_reindents (t : Tracker) (line : List Char) :
    t.Reindents line (t.indentLine line).1 := by
  rw [Reindents]
  split
  · next hblank => rw [indentLine_blank hblank]
  · next hcode => exact ⟨t.lineDepth line, t.lineDepth_le_depth line, indentLine_code hcode⟩

theorem isBlank_of_mem_replicate {n : Nat} : ∀ c ∈ List.replicate n ' ', isBlank c = true := by
  intro c hc
  rw [List.eq_of_mem_replicate hc]
  decide

namespace Reindents

theorem trim_eq (h : t.Reindents line out) : trim out = trim line := by
  rw [Reindents] at h
  split at h
  · next hblank => rw [h, hblank, trim_nil]
  · obtain ⟨level, -, rfl⟩ := h
    exact trim_blanks_append_trim isBlank_of_mem_replicate line

theorem newline_not_mem (h : t.Reindents line out) (hline : '\n' ∉ line) : '\n' ∉ out := by
  rw [Reindents] at h
  split at h
  · rw [h]
    exact List.not_mem_nil
  · obtain ⟨level, -, rfl⟩ := h
    rw [List.mem_append, not_or]
    refine ⟨fun hmem => ?_, fun hmem => hline (trim_subset line hmem)⟩
    have hspace : '\n' = ' ' := List.eq_of_mem_replicate hmem
    exact absurd hspace (by decide)

end Reindents

/-! ## The lines of a text -/

/-- **Only the blanks around lines change**, and each is indented by the constructs before it. -/
theorem indentLines_reindents {before after : List (List Char)} :
    ∃ out, (t.indentLines (before ++ line :: after)).1[before.length]? = some out ∧
      (t.indentLines before).2.Reindents line out := by
  refine ⟨_, ?_, indentLine_reindents _ line⟩
  rw [indentLines_append]
  rw [List.getElem?_append_right (Nat.le_of_eq (indentLines_length t before)), indentLines_length,
    Nat.sub_self]
  rfl

theorem trim_indentLines (t : Tracker) (lines : List (List Char)) :
    (t.indentLines lines).1.map trim = lines.map trim := by
  induction lines generalizing t with
  | nil => rfl
  | cons line rest ih =>
    rw [indentLines_cons, List.map_cons, List.map_cons, ih, (t.indentLine_reindents line).trim_eq]

theorem newline_not_mem_indentLines (h : ∀ line ∈ lines, '\n' ∉ line) :
    ∀ out ∈ (t.indentLines lines).1, '\n' ∉ out := by
  induction lines generalizing t with
  | nil => exact nofun
  | cons line rest ih =>
    obtain ⟨hline, hrest⟩ := List.forall_mem_cons.mp h
    rw [indentLines_cons]
    exact List.forall_mem_cons.mpr ⟨(t.indentLine_reindents line).newline_not_mem hline, ih hrest⟩

/-- **The lines of a text come back as lines.** -/
theorem splitLines_indent (t : Tracker) (text : List Char) :
    splitLines (t.indent text).1 = (t.indentLines (splitLines text)).1 := by
  apply splitLines_joinLines
  · intro hnil
    have hlength := congrArg List.length hnil
    rw [indentLines_length, List.length_nil, List.length_eq_zero_iff] at hlength
    exact splitLines_ne_nil text hlength
  · exact newline_not_mem_indentLines fun line => not_mem_of_mem_splitLines

theorem indent_line (h : '\n' ∉ line) : t.indent line = t.indentLine line := by
  rw [indent, splitLines_of_not_mem h]
  rfl

/-- A single line is re-indented as a text of its own. -/
theorem indent?_line {cs : List Char} (h : '\n' ∉ cs) :
    (indent? cs : Act ε Tracker _) = indentLine? cs := by
  unfold indent?
  rw [splitLines_of_not_mem h]
  simp only [indentLines?, pure_bind, bind_assoc]
  exact bind_pure _

/-- Lines fed as texts of their own are re-indented as lines. -/
theorem indentTexts_lines (h : ∀ line ∈ lines, '\n' ∉ line) :
    t.indentTexts lines = t.indentLines lines := by
  induction lines generalizing t with
  | nil => rfl
  | cons line rest ih =>
    obtain ⟨hline, hrest⟩ := List.forall_mem_cons.mp h
    rw [indentTexts, indentLines_cons, indent_line hline, ih hrest]

/-- The tracker that runs goes through lines fed as texts of their own as through lines. -/
theorem mapM_indent? (h : ∀ line ∈ lines, '\n' ∉ line) :
    (lines.mapM indent? : Act ε Tracker _) = indentLines? lines := by
  induction lines with
  | nil => rfl
  | cons line rest ih =>
    obtain ⟨hline, hrest⟩ := List.forall_mem_cons.mp h
    rw [List.mapM_cons, indentLines?, indent?_line hline, ih hrest]

/-- If none of them is refused, it ends as the tracker without refusals. -/
theorem mapM_indent?_state {outs : List (List Char)} (h : ∀ line ∈ lines, '\n' ∉ line)
    (hok : ((lines.mapM indent? : Act ε Tracker _) t).result = .ok outs) :
    ((lines.mapM indent? : Act ε Tracker _) t).state = (t.indentTexts lines).2 := by
  rw [mapM_indent? h] at hok ⊢
  rw [indentTexts_lines h]
  exact (indentLines?_of_ok hok).2

/-! ## What is refused -/

/-- **A line is refused where more blanks would stand in front of it than memory and indices
allow.** -/
theorem accepts_iff (hwidth : 0 < t.width) (line : List Char) :
    t.Accepts line ↔ (leadingBlanks (t.indentLine line).1 : Int) ≤ Padding.limit t.memory := by
  rw [Accepts, List.isEmpty_iff]
  by_cases hblank : trim line = []
  · have hbound : (0 : Int) ≤ Padding.limit t.memory := Padding.limit_nonneg t.memory
    rw [indentLine_blank hblank]
    exact iff_of_true (.inl hblank) hbound
  · have hcount : t.width * t.lineDepth line =
        ((t.lineDepth line * t.width.toNat : Nat) : Int) := by
      rw [Int.natCast_mul, Int.toNat_of_nonneg (Int.le_of_lt hwidth), Int.mul_comm]
    rw [indentLine_code hblank, leadingBlanks_blanks_append_trim isBlank_of_mem_replicate hblank,
      List.length_replicate, or_iff_right hblank, hcount]
    constructor
    · exact fun h => h.2.2
    · intro h
      refine ⟨fun hzero => absurd hzero (Int.ne_of_gt hwidth), ?_, h⟩
      exact Int.le_trans (by decide) (Int.natCast_nonneg _)

theorem acceptsAll_iff (hwidth : 0 < t.width) :
    t.AcceptsAll lines ↔
      ∀ out ∈ (t.indentLines lines).1, (leadingBlanks out : Int) ≤ Padding.limit t.memory := by
  induction lines generalizing t with
  | nil => exact iff_of_true trivial nofun
  | cons line rest ih =>
    rw [AcceptsAll, indentLines_cons, List.forall_mem_cons, accepts_iff hwidth, ih,
      indentLine_memory]
    rwa [indentLine_width]

/-- A line that is not blank is given back behind the blanks of its depth, if these are not
refused. -/
theorem indentLine?_result (hwidth : 0 < t.width) (hcode : trim line ≠ []) :
    (indentLine? line t : Run ε Tracker (List Char)).result =
      (Padding.blanks? t.memory (t.width * t.lineDepth line)).map (· ++ trim line) := by
  have hblank : ¬(trim line).isEmpty = true := by rwa [List.isEmpty_iff]
  have hzero : ¬(t.width = 0 ∧ t.divides line = true) := fun h => Int.ne_of_gt hwidth h.1
  rw [indentLine?, if_neg hblank, if_neg hzero]
  cases Padding.blanks? t.memory (t.width * t.lineDepth line) with
  | error f => rfl
  | ok blanks => rfl

/-- A line that is not accepted is refused. -/
theorem indentLine?_refuses (h : ¬t.Accepts line) :
    ∃ f, (indentLine? line t : Run ε Tracker (List Char)).result = .error f := by
  rw [Accepts, not_or] at h
  obtain ⟨hblank, hrefused⟩ := h
  rw [indentLine?, if_neg hblank]
  by_cases hzero : t.width = 0 ∧ t.divides line = true
  · exact ⟨zeroWidth, by rw [if_pos hzero]⟩
  · rw [if_neg hzero]
    cases hblanks : Padding.blanks? t.memory (t.width * t.lineDepth line) with
    | error f => exact ⟨f, rfl⟩
    | ok blanks =>
      refine absurd ⟨fun hwidth => ?_, ?_⟩ hrefused
      · exact Bool.eq_false_iff.mpr fun hdivides => hzero ⟨hwidth, hdivides⟩
      · exact Padding.fits_of_blanks? hblanks

/-- **Lines are given back, or one of them is refused.** -/
theorem acceptsAll_or_refused (t : Tracker) (lines : List (List Char)) :
    t.AcceptsAll lines ∨
      ∃ f, (indentLines? lines t : Run ε Tracker (List (List Char))).result = .error f := by
  induction lines generalizing t with
  | nil => exact .inl trivial
  | cons line rest ih =>
    rw [indentLines?, Act.bind_apply, Run.andThen_result]
    by_cases hline : t.Accepts line
    · rw [indentLine?_eq hline]
      rcases ih (t.indentLine line).2 with hrest | ⟨f, hf⟩
      · exact .inl ⟨hline, hrest⟩
      · refine .inr ⟨f, ?_⟩
        show ((List.cons _ <$> indentLines? rest : Act ε Tracker _) _).result = _
        rw [Act.map_apply, hf]
        rfl
    · obtain ⟨f, hf⟩ := indentLine?_refuses (ε := ε) hline
      refine .inr ⟨f, ?_⟩
      rw [hf]
      rfl

/-! ## Where no colon opens a block -/

section NoColonBlocks

theorem resynced_eq_stack (h : t.rules.colonBlocks = false) (line : List Char) :
    t.resynced line = t.stack := by
  simp [resynced, Constructs.resync, Constructs.heedsIndentation, h]

/-- **Lines with the same code are re-indented alike**, whatever blanks are around them. -/
theorem indentLine_congr (h : t.rules.colonBlocks = false) (hcode : trim other = trim line) :
    t.indentLine other = t.indentLine line ∧
      (indentLine? other t : Run ε Tracker (List Char)) = indentLine? line t := by
  have hdepth : t.lineDepth other = t.lineDepth line := by
    rw [lineDepth, lineDepth, resynced_eq_stack h, resynced_eq_stack h, hcode]
  have hdivides : t.divides other = t.divides line := by
    simp [divides, Constructs.heedsIndentation, h]
  have hline : t.indentLine other = t.indentLine line := by
    rw [indentLine, indentLine, hdepth, resynced_eq_stack h, resynced_eq_stack h, hcode]
  refine ⟨hline, ?_⟩
  rw [indentLine?, indentLine?, hdepth, hdivides, hline, resynced_eq_stack h, resynced_eq_stack h,
    hcode]

theorem indentLines_congr {others : List (List Char)} (h : t.rules.colonBlocks = false)
    (hcode : others.map trim = lines.map trim) :
    t.indentLines others = t.indentLines lines ∧
      (indentLines? others t : Run ε Tracker (List (List Char))) = indentLines? lines t := by
  -- by induction on the lines: the first one leaves the same tracker, with the same rules
  induction lines generalizing t others with
  | nil =>
    obtain rfl := List.map_eq_nil_iff.mp hcode
    exact ⟨rfl, rfl⟩
  | cons line rest ih =>
    obtain ⟨other, others, rfl, hother, hothers⟩ := List.map_eq_cons_iff.mp hcode
    obtain ⟨hline, hline?⟩ := indentLine_congr (ε := ε) h hother
    have hrest : ∀ u : Tracker, u.rules = t.rules →
        u.indentLines others = u.indentLines rest ∧
          (indentLines? others u : Run ε Tracker (List (List Char))) = indentLines? rest u := by
      intro u hu
      exact ih (by rwa [hu]) hothers
    constructor
    · rw [indentLines_cons, indentLines_cons, hline, (hrest _ (indentLine_rules t line)).1]
    · rw [indentLines?, indentLines?, Act.bind_apply, Act.bind_apply, hline?]
      rcases hrun : (indentLine? line t : Run ε Tracker (List Char)) with ⟨f | first, u, es⟩
      · rfl
      · have hresult : (indentLine? line t : Run ε Tracker (List Char)).result = .ok first := by
          rw [hrun]
        have hu := (indentLine?_of_ok hresult).2
        rw [hrun] at hu
        have hrules : u.rules = t.rules := by
          rw [show u = (t.indentLine line).2 from hu]
          exact indentLine_rules t line
        show ((List.cons first <$> indentLines? others : Act ε Tracker _) u).after es =
          ((List.cons first <$> indentLines? rest : Act ε Tracker _) u).after es
        rw [Act.map_apply, Act.map_apply, (hrest u hrules).2]

/-- Texts whose lines have the same code are re-indented alike. -/
theorem indent_congr (h : t.rules.colonBlocks = false)
    (hcode : (splitLines other).map trim = (splitLines text).map trim) :
    t.indent other = t.indent text ∧
      (indent? other t : Run ε Tracker (List Char)) = indent? text t := by
  obtain ⟨hlines, hlines?⟩ := indentLines_congr (ε := ε) h hcode
  constructor
  · rw [indent, indent, hlines]
  · show ((joinLines <$> indentLines? (splitLines other) : Act ε Tracker _) t) =
      (joinLines <$> indentLines? (splitLines text) : Act ε Tracker _) t
    rw [Act.map_apply, Act.map_apply, hlines?]

end NoColonBlocks

/-! ## A text -/

/-- **Re-indentation changes the blanks around lines alone.** The text given back has as many lines
as the one that is fed; each is that line without the blanks around it, some whole levels in and no
further than constructs were open before it, or empty if the line is blank. It makes no difference
whether the lines are fed at once. The tracker that runs gives the same back, unless there would be
more blanks in front of a line than memory and indices allow. Where no colon opens a block, the
blanks around the lines that are fed do not matter, so what is given back stays as it is if it is
fed in turn. -/
theorem blanks_alone_change (t : Tracker) (hwidth : 0 < t.width) (text : List Char) :
    (splitLines (t.indent text).1).length = (splitLines text).length ∧
      (∀ before line after, splitLines text = before ++ line :: after →
        ∃ out, (splitLines (t.indent text).1)[before.length]? = some out ∧
          (t.indentTexts before).2.Reindents line out) ∧
      (t.indentTexts (splitLines text) = (splitLines (t.indent text).1, (t.indent text).2) ∧
        (indent? text : Act ε Tracker _) = joinLines <$> (splitLines text).mapM indent?) ∧
      ((indent? text t : Run ε Tracker _) = ⟨.ok (t.indent text).1, (t.indent text).2, []⟩ ∧
          (∀ out ∈ splitLines (t.indent text).1,
            (leadingBlanks out : Int) ≤ Padding.limit t.memory) ∨
        (∃ f, (indent? text t : Run ε Tracker _).result = .error f) ∧
          ∃ out ∈ splitLines (t.indent text).1,
            Padding.limit t.memory < (leadingBlanks out : Int)) ∧
      (t.rules.colonBlocks = false →
        (∀ other, (splitLines other).map trim = (splitLines text).map trim →
          t.indent other = t.indent text ∧
            (indent? other t : Run ε Tracker _) = indent? text t) ∧
        t.indent (t.indent text).1 = t.indent text ∧
          (indent? (t.indent text).1 t : Run ε Tracker _) = indent? text t) := by
  have hnewline : ∀ line ∈ splitLines text, '\n' ∉ line := fun line => not_mem_of_mem_splitLines
  rw [splitLines_indent]
  refine ⟨indentLines_length t _, ?_, ⟨?_, ?_⟩, ?_, ?_⟩
  · intro before line after hlines
    have hbefore : ∀ line ∈ before, '\n' ∉ line := by
      intro line hline
      exact hnewline line (hlines ▸ List.mem_append_left _ hline)
    rw [hlines, indentTexts_lines hbefore]
    exact indentLines_reindents
  · rw [indentTexts_lines hnewline]
    rfl
  · rw [mapM_indent? hnewline]
    rfl
  · -- The tracker that runs parts from the other one at a line that would be too long.
    rcases acceptsAll_or_refused (ε := ε) t (splitLines text) with haccepts | ⟨f, hf⟩
    · exact .inl ⟨indent?_eq haccepts, (acceptsAll_iff hwidth).mp haccepts⟩
    · refine .inr ⟨⟨f, ?_⟩, ?_⟩
      · show ((joinLines <$> indentLines? (splitLines text) : Act ε Tracker _) t).result = _
        rw [Act.map_apply, hf]
        rfl
      · have hrefused : ¬t.AcceptsAll (splitLines text) := by
          intro haccepts
          rw [indentLines?_eq haccepts] at hf
          cases hf
        rw [acceptsAll_iff hwidth] at hrefused
        simpa using hrefused
  · intro hcolon
    refine ⟨fun other => indent_congr hcolon, indent_congr hcolon ?_⟩
    rw [splitLines_indent, trim_indentLines]

/-- The last lines of a condition, with blanks in all places. -/
theorem blanks_alone_change_condition :
    let t : Tracker := { stack := ["if"] }
    let text := "call(\t\n\n      1)\n end".toList
    (0 < t.width ∧ t.rules.colonBlocks = false) ∧
      (t.indent text).1 = "  call(\n\n    1)\nend".toList ∧
      t.indent (t.indent text).1 = t.indent text := by
  intro t text
  have hwidth : 0 < t.width := by decide
  have hcolon : t.rules.colonBlocks = false := rfl
  obtain ⟨-, -, -, -, hcode⟩ := blanks_alone_change (ε := Empty) t hwidth text
  exact ⟨⟨hwidth, hcolon⟩, by decide, (hcode hcolon).2.1⟩

end Tracker

end PromptLoop
