import Mathlib.Data.List.DropRight
import Mathlib.Data.List.Forall2
import PromptLoop.Proofs.Console.Interruption
import PromptLoop.Proofs.Text.Integer

/-!
# What the history shows

The command for the history shows the statements that were run. An argument asks for the last of
them only, as many as it says. Each statement keeps the number that it has among all of them, so
that the lines can be told apart from those of a shorter history. Zero is no such argument: it asks
for all statements, and a number of more digits than are read is refused as if it were none.

## Main definitions

* `History.Laid`: how a statement is laid out under its number
* `History.Shows`: lines that show the last so many statements

## Main results

* `History.laid_iff`, `History.shows_iff`: there is one way to lay out and to show them
* `History.shows_listing`: a listing shows as many statements as were asked for
* `Command.recognise_toString`: a numeral behind the word of a command is its argument
* `Console.history_listed`: what a line that gives the command shows
-/

namespace PromptLoop

open Text

namespace History

variable {statements lines : List String} {statement : String} {label : List Char}
  {number width count : Nat}

/-! ## The layout of a statement -/

/-- A numeral that is aligned to the right over some columns, or over more if it needs them. -/
def Aligned (width number : Nat) (label : List Char) : Prop :=
  ∃ pad, label = List.replicate pad ' ' ++ (toString number).toList ∧
    label.length = max width (toString number).length

/-- How a statement is laid out: its number stands in front of its first line, and each of its
further lines is a line of its own, indented by six blanks. -/
def Laid (number : Nat) (statement : String) (lines : List String) : Prop :=
  ∃ label first rest, Aligned 4 number label ∧
    statement.toList = joinLines (first :: rest) ∧ (∀ piece ∈ first :: rest, '\n' ∉ piece) ∧
    lines = String.ofList (label ++ ": ".toList ++ first) ::
      rest.map fun piece => String.ofList (List.replicate 6 ' ' ++ piece)

/-- Lines that show the last so many statements, or all if there are not so many: one after the
other, each under the number that it has among all. -/
def Shows (statements : List String) (count : Nat) (lines : List String) : Prop :=
  if statements = [] then lines = [emptyNote]
  else ∃ blocks, lines = blocks.flatten ∧
    List.Forall₂ (fun numbered block => Laid numbered.2 numbered.1 block)
      ((statements.zipIdx 1).rtake count) blocks

theorem aligned_iff : Aligned width number label ↔ label = alignRight width number := by
  have hlength := (toString number).length_toList
  constructor
  · rintro ⟨pad, rfl, hlabel⟩
    rw [List.length_append, List.length_replicate, hlength] at hlabel
    have hpad : width - (toString number).toList.length = pad := by omega
    rw [alignRight, hpad]
  · rintro rfl
    refine ⟨_, rfl, ?_⟩
    rw [alignRight, List.length_append, List.length_replicate, hlength]
    omega

/-- **There is one way to lay out a statement.** -/
theorem laid_iff : Laid number statement lines ↔ lines = entry number statement := by
  constructor
  · rintro ⟨label, first, rest, hlabel, htext, hpieces, rfl⟩
    rw [entry, htext, splitLines_joinLines (List.cons_ne_nil first rest) hpieces,
      aligned_iff.mp hlabel]
  · rintro rfl
    obtain ⟨first, rest, hsplit⟩ :=
      List.exists_cons_of_ne_nil (splitLines_ne_nil statement.toList)
    refine ⟨alignRight 4 number, first, rest, aligned_iff.mpr rfl, ?_, ?_, ?_⟩
    · rw [← hsplit, joinLines_splitLines]
    · intro piece hpiece
      exact not_mem_of_mem_splitLines (hsplit ▸ hpiece)
    · rw [entry, hsplit]

/-! ## The lines of several statements -/

theorem entries_eq (number : Nat) (statements : List String) :
    entries number statements =
      (statements.zipIdx number).flatMap fun numbered => entry numbered.2 numbered.1 := by
  induction statements generalizing number with
  | nil => rfl
  | cons statement rest ih => rw [entries, ih, List.zipIdx_cons, List.flatMap_cons]

/-- Statements that are left out in front still count. -/
theorem zipIdx_drop (statements : List String) (number skipped : Nat) :
    (statements.drop skipped).zipIdx (number + skipped) =
      (statements.zipIdx number).drop skipped := by
  induction skipped generalizing statements number with
  | zero => rfl
  | succ skipped ih =>
    cases statements with
    | nil => rfl
    | cons statement rest =>
      rw [List.zipIdx_cons, List.drop_succ_cons, List.drop_succ_cons, ← ih rest (number + 1),
        Nat.add_right_comm]
      rfl

/-- **There is one way to show the statements.** -/
theorem shows_iff : Shows statements count lines ↔
    lines = if statements = [] then [emptyNote]
      else ((statements.zipIdx 1).rtake count).flatMap fun numbered =>
        entry numbered.2 numbered.1 := by
  rw [Shows]
  split
  · rfl
  · -- The blocks that are laid out are determined by the statements, one by one.
    let shown := (statements.zipIdx 1).rtake count
    have hblocks : ∀ blocks : List (List String),
        List.Forall₂ (fun numbered block => Laid numbered.2 numbered.1 block) shown blocks ↔
          shown.map (fun numbered => entry numbered.2 numbered.1) = blocks := by
      intro blocks
      calc
        _ ↔ List.Forall₂ (fun numbered block => entry numbered.2 numbered.1 = block) shown
              blocks := by simp only [laid_iff, eq_comm]
        _ ↔ List.Forall₂ (· = ·) (shown.map fun numbered => entry numbered.2 numbered.1)
              blocks := List.forall₂_map_left_iff.symm
        _ ↔ _ := by rw [List.forall₂_eq_eq_eq]
    simp only [hblocks, List.flatMap, shown]
    constructor
    · rintro ⟨blocks, rfl, rfl⟩
      rfl
    · rintro rfl
      exact ⟨_, rfl, rfl⟩

/-- How many statements are asked for. -/
def asked (size : Nat) : Option Int → Nat
  | none => size
  | some n => if n = 0 then size else n.toNat

/-- What is left out in front is what is not asked for. -/
theorem drop_firstShown (last : Option Int) :
    (statements.zipIdx 1).drop (firstShown statements.length last) =
      (statements.zipIdx 1).rtake (asked statements.length last) := by
  rw [List.rtake, List.length_zipIdx]
  cases last with
  | none => rw [firstShown, asked, Nat.sub_self]
  | some n =>
    by_cases hn : n = 0
    · rw [firstShown, asked, if_pos hn, if_pos hn, Nat.sub_self]
    · rw [firstShown, asked, if_neg hn, if_neg hn]
      by_cases hneg : n < 0
      · -- Fewer than none are asked for, and more than all are left out.
        have hnone : n.toNat = 0 := by omega
        rw [hnone, Nat.sub_zero, List.drop_of_length_le, List.drop_of_length_le]
        · rw [List.length_zipIdx]
        · rw [List.length_zipIdx]
          omega
      · have hskipped : ((statements.length : Int) - n).toNat = statements.length - n.toNat := by
          omega
        rw [hskipped]

/-- **A listing shows as many statements as were asked for.** -/
theorem shows_listing (statements : List String) (last : Option Int) :
    Shows statements (asked statements.length last) (listing statements last) := by
  rw [shows_iff, listing]
  by_cases hempty : statements = []
  · rw [hempty]
    rfl
  · have hsome : statements.isEmpty = false := List.isEmpty_eq_false_iff.mpr hempty
    rw [if_neg hempty, ← drop_firstShown, hsome, if_neg Bool.false_ne_true, entries_eq,
      Nat.add_comm, zipIdx_drop]

end History

/-! ## The command -/

namespace Command

/-- **A numeral behind the word of a command is its argument.** -/
theorem recognise_toString (command : Command) (n : Nat) :
    recognise (command.word ++ " " ++ toString n) = some (command, toString n) := by
  have hspace : ∀ d ∈ " ".toList, isBlank d = true := by simp [isBlank, blankRanges, inRanges]
  have hblank := not_isBlank_of_mem_toString n
  have hcode : ∀ d ∈ (toString n).toList, d ∉ continuations := forall_mem_toString (by decide) n
  refine recognise_iff_gives.mpr ⟨[], " ".toList ++ (toString n).toList, ?_, ?_, ?_, ?_, ?_⟩
  · rw [String.toList_append, String.toList_append, List.nil_append, List.append_assoc]
  · intro d hd
    cases hd
  · intro d hd
    exact hspace d (List.mem_singleton.mpr (Option.some.inj hd).symm)
  · rw [trim, trimStart_append hspace, trimStart, dropWhile_eq_self hblank, trimEnd,
      dropEndWhile_eq_self hblank]
  · intro d hd
    exact hcode d (List.mem_of_mem_head? hd)

/-- What an argument asks the history for: all statements, or a number of them. -/
def requested? (argument : String) : Option (Option Int) :=
  if argument = "" then some none else (integer? argument).map some

theorem list_apply (argument : String) (c : Console) :
    list argument c =
      match requested? argument with
      | none => ⟨.ok (.error .notANumber), c, []⟩
      | some last => ⟨.ok (.ok .proceed), c, (History.listing c.history last).map .line⟩ := by
  rw [list, Act.bind_apply, Act.current_apply, Run.andThen_ok, Run.after_nil, requested?]
  by_cases hempty : argument = ""
  · rw [if_pos hempty, if_pos hempty]
    exact congrArg (Run.mk _ _) (List.append_nil _)
  · rw [if_neg hempty, if_neg hempty]
    cases integer? argument with
    | none => rfl
    | some n => exact congrArg (Run.mk _ _) (List.append_nil _)

end Command

namespace Console

variable {π : Type} {runtime : Runtime π} {c : Console} {line argument : String}

variable (runtime) in
/-- The history is listed as was requested, unless nothing is that can be read. -/
theorem evalLine_history (hempty : c.buffer = [])
    (hline : Command.recognise line = some (.history, argument)) :
    evalLine runtime line c =
      match Command.requested? argument with
      | none => ⟨.ok .proceed, c,
          [commandRecord .history argument, .diagnostic "Error: Usage: history [N]"]⟩
      | some last => ⟨.ok .proceed, c,
          commandRecord .history argument :: (History.listing c.history last).map .line⟩ := by
  rw [evalLine_of_recognise (not_addsTo_of_recognise hline hempty) hline, Command.perform,
    Command.list_apply]
  cases Command.requested? argument with
  | none => rfl
  | some last => exact congrArg (Run.mk _ _) (congrArg _ (List.append_nil _))

/-- **What a line that gives the command for the history shows.** Without an argument all statements
are shown, and with a number, other than zero, the last so many of them; a negative number shows
none. Zero shows all statements, though, and an argument that is not read as a number is refused. So
is a numeral of more digits than are read. -/
theorem history_listed (runtime : Runtime π) (hempty : c.buffer = [])
    (hline : Command.recognise line = some (.history, argument)) :
    let shows (count : Nat) : Prop := ∃ lines, History.Shows c.history count lines ∧
      evalLine runtime line c =
        ⟨.ok .proceed, c, commandRecord .history argument :: lines.map .line⟩
    (argument = "" → shows c.history.length) ∧
      (∀ n : Int, integer? argument = some n → n ≠ 0 → shows n.toNat) ∧
      (integer? argument = some 0 → shows c.history.length) ∧
      (argument ≠ "" → integer? argument = none →
        evalLine runtime line c = ⟨.ok .proceed, c,
          [commandRecord .history argument, .diagnostic "Error: Usage: history [N]"]⟩) ∧
      ∀ n : Nat, line = "history " ++ toString n → argument = toString n ∧
        integer? argument = if argument.length ≤ maxDigits then some (n : Int) else none := by
  intro shows
  have hrun := evalLine_history runtime hempty hline
  -- Whatever can be read as a request is granted; what is left is how an argument is read.
  have hshows : ∀ last, Command.requested? argument = some last →
      shows (History.asked c.history.length last) := by
    intro last hlast
    rw [hlast] at hrun
    exact ⟨_, History.shows_listing c.history last, hrun⟩
  have hnumber : ∀ n, integer? argument = some n → Command.requested? argument = some (some n) := by
    intro n hn
    have hne : argument ≠ "" := by
      rintro rfl
      cases hn
    rw [Command.requested?, if_neg hne, hn]
    rfl
  refine ⟨fun hnone => ?_, fun n hn hne => ?_, fun hzero => ?_, fun hne hnone => ?_,
    fun n hn => ?_⟩
  · exact hshows none (if_pos hnone)
  · have hasked := hshows (some n) (hnumber n hn)
    rwa [History.asked, if_neg hne] at hasked
  · have hasked := hshows (some 0) (hnumber 0 hzero)
    rwa [History.asked, if_pos rfl] at hasked
  · rw [hrun, Command.requested?, if_neg hne, hnone]
    rfl
  · have hword := Command.recognise_toString .history n
    obtain rfl : argument = toString n := by
      rw [hn] at hline
      exact (Prod.mk.inj (Option.some.inj (hline.symm.trans hword))).2
    exact ⟨rfl, integer?_toString n⟩

/-- The last of two statements, and both of them when none is asked for. -/
theorem history_listed_two :
    let c : Console := { history := ["x = 1", "if y:\n    z"] }
    let runtime := ({} : Rehearsal.Tables).runtime
    (evalLine runtime "history 1" c).events =
        [commandRecord .history "1", .line "   2: if y:", .line "          z"] ∧
      (evalLine runtime "history 0" c).events =
        [commandRecord .history "0", .line "   1: x = 1", .line "   2: if y:",
          .line "          z"] := by
  intro c runtime
  have hone : Command.recognise "history 1" = some (.history, "1") := by decide +kernel
  have hzero : Command.recognise "history 0" = some (.history, "0") := by decide +kernel
  constructor
  · obtain ⟨-, hlast, -⟩ := history_listed (c := c) runtime rfl hone
    obtain ⟨lines, hlines, hrun⟩ := hlast 1 (by decide +kernel) (by decide)
    rw [hrun, History.shows_iff.mp hlines]
    decide +kernel
  · obtain ⟨-, -, hall, -⟩ := history_listed (c := c) runtime rfl hzero
    obtain ⟨lines, hlines, hrun⟩ := hall (by decide +kernel)
    rw [hrun, History.shows_iff.mp hlines]
    decide +kernel

end Console

end PromptLoop
