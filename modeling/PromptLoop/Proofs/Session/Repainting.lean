import PromptLoop.Proofs.Indent.Reindentation
import PromptLoop.Proofs.Session.Agreement
import PromptLoop.Proofs.Terminal.Decoration

/-!
# Rows of an echo and of its repaint

A line whose indentation is corrected is painted again over its echo. The rows to go back are
counted from the corrected line, and the blanks behind it from the line that was echoed. So as much
is painted as was echoed, but it starts at the first row of the echo only if the two lines end in
the same row.

## Main definitions

* `Session.echoLength`: the characters that an echo takes
* `Terminal.Overpaints`: a text that is painted on every cell of an echo

## Main results

* `Terminal.overpaints_of_rows_eq`, `Terminal.rows_eq_of_overpaints`: a text that is painted from
  the first row of an echo is painted on all of it, and no other is
* `Session.repaint_covers_echo`: what is painted for a corrected line, and what it covers
-/

namespace PromptLoop

variable {ι δ σ : Type}

namespace Terminal

variable {columns rows : Int} {echo paint : Nat}

/-! ## Rows -/

theorem rowsOf_eq (h : 0 < columns) (width : Nat) : rowsOf columns width = width / columns + 1 := by
  rw [rowsOf, if_neg (by omega), Int.fdiv_eq_ediv_of_nonneg _ (by omega)]

/-- Two lengths end in the same row if what the second lacks fits into the row in which the first
ends, behind its start and in front of its end. -/
theorem rows_eq_iff (h : 0 < columns) (n overhang : Int) :
    (n - overhang) / columns = n / columns ↔
      0 ≤ n % columns - overhang ∧ n % columns - overhang < columns := by
  have hsplit := Int.emod_add_mul_ediv n columns
  rw [Int.mul_comm] at hsplit
  rw [Int.ediv_eq_iff_of_pos h]
  omega

/-- A text of `paint` characters is painted on every cell of an echo of `echo` characters, if the
cursor goes back `rows` rows from the row below the echo. Cells are counted from the first one of
the echo, row by row. -/
def Overpaints (columns rows : Int) (echo paint : Nat) : Prop :=
  ∀ cell : Nat, cell < echo →
    (echo / columns + 1 - rows) * columns ≤ cell ∧
      cell < (echo / columns + 1 - rows) * columns + paint

/-- What is painted from the first row of an echo is painted on all of it. -/
theorem overpaints_of_rows_eq (hrows : rows = echo / columns + 1) (hpaint : echo ≤ paint) :
    Overpaints columns rows echo paint := by
  intro cell hcell
  have hstart : (echo / columns + 1 - rows) * columns = 0 := by
    rw [hrows, Int.sub_self, Int.zero_mul]
  omega

/-- What goes back too few rows leaves out the first cell of an echo. -/
theorem rows_eq_of_overpaints (hcolumns : 0 < columns) (hecho : 0 < echo)
    (hrows : rows ≤ echo / columns + 1) (h : Overpaints columns rows echo paint) :
    rows = echo / columns + 1 := by
  have hstart : (echo / columns + 1 - rows) * columns ≤ 0 := (h 0 hecho).1
  rcases Int.lt_or_eq_of_le hrows with hfewer | heq
  · have hpos := Int.mul_pos (Int.sub_pos_of_lt hfewer) hcolumns
    omega
  · exact heq

end Terminal

/-- A line that is re-indented is no longer than the line behind the indentation it was asked for
with. -/
theorem Tracker.indent_length_le {t : Tracker} {line : List Char} (h : '\n' ∉ line) :
    (t.indent line).1.length ≤ t.currentPrefix.length + line.length := by
  rw [indent_line h]
  have hreindents := t.indentLine_reindents line
  rw [Reindents] at hreindents
  split at hreindents
  · rw [hreindents]
    exact Nat.zero_le _
  · obtain ⟨level, hlevel, hout⟩ := hreindents
    obtain ⟨before, after, hline, -, -⟩ := Text.exists_eq_append_trim line
    have htrim := congrArg List.length hline
    have hprefix := Nat.mul_le_mul_right t.width.toNat hlevel
    rw [hout, currentPrefix, indentation_eq_replicate]
    simp only [List.length_append, List.length_replicate] at htrim ⊢
    omega

namespace Session

open Terminal

variable (setup : Setup ι δ σ)

/-- The characters that an echo takes: those of the prompt that are visible, its indentation and the
line that was typed behind them. -/
def echoLength (prompt : String) (indentation : List Char) (line : String) : Nat :=
  (visible prompt.toList).length + indentation.length + line.toList.length

/-- A correction writes nothing, or paints the echo of a line that was not refused. -/
theorem correct_events {indentation : List Char} {prompt line : String} {s : Session ι δ σ}
    (h : (correct setup indentation prompt line s).events ≠ []) :
    (correct setup indentation prompt line s).result =
        .ok (String.ofList (s.tracker.indent line.toList).1) ∧
      (s.tracker.indent line.toList).1 ≠ indentation ++ line.toList ∧
      (correct setup indentation prompt line s).events = [.loop (.wrote (repainted setup prompt
        (indentation ++ line.toList) (s.tracker.indent line.toList).1))] := by
  by_cases hauto : setup.config.autoIndent = true
  · rw [correct_eq setup hauto] at h ⊢
    rcases hindent : (Tracker.indent? line.toList s.tracker : Run Event Tracker (List Char)).result
      with f | out
    · rw [hindent] at h
      exact absurd rfl h
    · obtain ⟨rfl, -⟩ := Tracker.indent?_of_ok hindent
      rw [hindent] at h
      dsimp only [painting] at h ⊢
      split at h
      · next hpaint =>
        rw [if_pos hpaint]
        simp only [repaints, Bool.and_eq_true, bne_iff_ne] at hpaint
        exact ⟨rfl, hpaint.2, rfl⟩
      · exact absurd rfl h
  · rw [correct_of_not_auto setup hauto] at h
    exact absurd rfl h

/-- **What is painted for a corrected line, and what it covers.** A correction that writes anything
writes one repaint, which goes up and down the same number of rows. It paints at least as many
characters as were echoed. The rows are those of the echo exactly if the corrected line ends in the
row in which the echo does; then every cell of the echo is painted on. A single line that is read
with the indentation of the open constructs is never too long for the rows of its echo, so nothing
else than too few rows leaves a cell of its echo as it was. -/
theorem repaint_covers_echo {indentation : List Char} {prompt line : String} {s : Session ι δ σ}
    (hcolumns : 0 < setup.screen.width)
    (hpaints : (correct setup indentation prompt line s).events ≠ []) :
    ∃ (corrected : List Char) (rows : Int) (blanks : Nat),
      let columns := setup.screen.width
      let echo := echoLength prompt indentation line
      let overhang := (indentation.length + line.toList.length : Int) - corrected.length
      let paint := (visible prompt.toList).length + corrected.length + blanks
      (correct setup indentation prompt line s).result = .ok (String.ofList corrected) ∧
      (correct setup indentation prompt line s).events =
        [.loop (.wrote (.verbatim (String.ofList (up rows setup.family ++
          withoutMarks prompt.toList ++ corrected ++ List.replicate blanks ' ' ++
            down rows setup.family))))] ∧
      echo ≤ paint ∧
      (rows = echo / columns + 1 ↔
        0 ≤ echo % columns - overhang ∧ echo % columns - overhang < columns) ∧
      (rows = echo / columns + 1 → Overpaints columns rows echo paint) ∧
      ('\n' ∉ line.toList → indentation = s.tracker.currentPrefix →
        0 ≤ overhang ∧ paint = echo ∧ rows ≤ echo / columns + 1 ∧
          (Overpaints columns rows echo paint → rows = echo / columns + 1)) := by
  obtain ⟨hresult, hdiffers, hevents⟩ := correct_events setup hpaints
  let corrected := (s.tracker.indent line.toList).1
  let columns := setup.screen.width
  let shown := (visible prompt.toList).length
  let echo := echoLength prompt indentation line
  let rows := rowsOf columns (shown + corrected.length)
  let overhang := (indentation.length + line.toList.length : Int) - corrected.length
  have hecho : echo = shown + indentation.length + line.toList.length := rfl
  have hrows : rows = (echo - overhang) / columns + 1 := by
    have hlength : ((shown + corrected.length : Nat) : Int) = echo - overhang := by omega
    rw [← hlength]
    exact rowsOf_eq hcolumns _
  have hpaint : echo ≤ shown + corrected.length + overhang.toNat := by omega
  refine ⟨corrected, rows, overhang.toNat, hresult, ?_, hpaint, ?_, ?_, ?_⟩
  · rw [hevents, repainted, List.length_append, Int.natCast_add]
    rfl
  · rw [← rows_eq_iff hcolumns, hrows, Int.add_left_inj]
  · exact fun h => overpaints_of_rows_eq h hpaint
  · intro hline hindentation
    have hlength : corrected.length ≤ indentation.length + line.toList.length := by
      rw [hindentation]
      exact Tracker.indent_length_le hline
    have hfewer : rows ≤ echo / columns + 1 := by
      rw [hrows]
      exact Int.add_le_add_right (Int.ediv_le_ediv hcolumns (by omega)) 1
    refine ⟨by omega, by omega, hfewer, rows_eq_of_overpaints hcolumns ?_ hfewer⟩
    -- Where nothing was echoed, the corrected line is the empty one that was typed.
    apply Nat.pos_of_ne_zero
    intro hnone
    have hechoed : indentation ++ line.toList = [] :=
      List.eq_nil_of_length_eq_zero (by rw [List.length_append]; omega)
    have hcorrected : corrected = [] := List.eq_nil_of_length_eq_zero (by omega)
    exact hdiffers (hcorrected.trans hechoed.symm)

/-- A console on a terminal of eight columns. -/
def narrowSetup : Setup Source Desk (Hooked Source Console) :=
  { blockSetup with screen := { tty := true, width := 8 } }

/-- A session with an open condition. -/
def conditionSession : Session Source Desk (Hooked Source Console) :=
  { blockSession with tracker := { stack := ["if"] } }

/-- The echo of the last line of a condition goes on in a second row, into which the corrected line
does not reach: the repaint starts in that row. -/
theorem repaint_covers_echo_narrowScreen :
    let corrected := correct narrowSetup [' ', ' '] "... " "end" conditionSession
    (0 < narrowSetup.screen.width ∧ corrected.events ≠ []) ∧ corrected.result = .ok "end" ∧
      echoLength "... " [' ', ' '] "end" = 9 ∧
      ∃ rows < 9 / 8 + 1, ¬Overpaints 8 rows 9 9 ∧ corrected.events =
        [.loop (.wrote (.verbatim (String.ofList (up rows .byCell ++ "... ".toList ++
          ['e', 'n', 'd'] ++ [' ', ' '] ++ down rows .byCell))))] := by
  intro corrected
  have hcolumns : 0 < narrowSetup.screen.width := by decide
  have hpaints : corrected.events ≠ [] := nofun
  have hend : corrected.result = .ok "end" := rfl
  obtain ⟨line, rows, blanks, hresult, hevents, -, hrows, -, hsingle⟩ :=
    repaint_covers_echo narrowSetup hcolumns hpaints
  obtain rfl : line = ['e', 'n', 'd'] := String.ofList_injective
    (Except.ok.inj (hresult.symm.trans hend))
  obtain ⟨-, hpaint, hfewer, hcovers⟩ := hsingle (by decide) rfl
  have hprompt : visible "... ".toList = "... ".toList := IsPlain.visible_eq (by decide)
  have hecho : echoLength "... " [' ', ' '] "end" = 9 := by
    rw [echoLength, hprompt]
    rfl
  have hblanks : blanks = 2 := by
    rw [hecho, hprompt] at hpaint
    exact Nat.add_left_cancel hpaint
  rw [hpaint, hecho] at hcovers
  rw [hecho] at hrows hfewer
  -- The seven characters of the corrected line end in the first row, the nine of the echo do not.
  have hstart : rows ≠ 9 / 8 + 1 := by
    intro heq
    have hfits : (0 : Int) ≤ 9 % 8 - (2 + 3 - 3) := (hrows.mp heq).1
    exact absurd hfits (by decide)
  refine ⟨⟨hcolumns, hpaints⟩, hend, hecho, rows, Int.lt_iff_le_and_ne.mpr ⟨hfewer, hstart⟩, ?_, ?_⟩
  · exact fun hall => hstart (hcovers hall)
  · rw [hblanks] at hevents
    exact hevents

end Session

end PromptLoop
