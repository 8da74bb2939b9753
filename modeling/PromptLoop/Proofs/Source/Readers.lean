import PromptLoop.Proofs.Source.Delivery

/-!
# The same lines from every reader

Lines that are known beforehand, a stream, the standard input and a file are read by readers of
their own, which strip what ends a line in different ways. Lines that hold no newline and do not end
in a carriage return come out of each of them as they went in, the blank ones too, and then every
further read finds the end of the input.

## Main definitions

* `Text.IsBare`: a line of which no reader strips anything
* `Text.WrittenAs`: the texts that lines can be written as
* `answers`: what reads come to, each of them a call of its own
* `Yields`: reads that deliver lines, and then find the end of the input

## Main results

* `Text.WrittenAs.lines_eq`: the lines of a text that they were written as
* `Delivers.yields`: delivery does not depend on the calls where the reader does not
* `Source.yield_alike`: every reader yields the lines
-/

namespace PromptLoop

namespace Text

variable {line text : List Char} {lines : List (List Char)}

/-- A line of which no reader strips anything. -/
structure IsBare (line : List Char) : Prop where
  newline_not_mem : '\n' ∉ line
  not_return_last : line.getLast? ≠ some '\r'

instance (line : List Char) : Decidable (IsBare line) :=
  decidable_of_iff ('\n' ∉ line ∧ line.getLast? ≠ some '\r')
    ⟨fun h => ⟨h.1, h.2⟩, fun h => ⟨h.newline_not_mem, h.not_return_last⟩⟩

/-- The texts that lines can be written as. Each line is ended by a newline, with a carriage return
before it or without one; the last one may lack its end, unless it is empty. -/
inductive WrittenAs : List (List Char) → List Char → Prop
  | nil : WrittenAs [] []
  | unended {line : List Char} (hne : line ≠ []) : WrittenAs [line] line
  | newline (line : List Char) {lines : List (List Char)} {text : List Char}
    (h : WrittenAs lines text) : WrittenAs (line :: lines) (line ++ '\n' :: text)
  | returnNewline (line : List Char) {lines : List (List Char)} {text : List Char}
    (h : WrittenAs lines text) : WrittenAs (line :: lines) (line ++ '\r' :: '\n' :: text)

theorem dropReturns_append_return (line : List Char) :
    dropReturns (line ++ ['\r']) = dropReturns line := by
  simp [dropReturns, dropEndWhile]

namespace IsBare

theorem dropReturns_eq (h : IsBare line) : dropReturns line = line := by
  rcases List.eq_nil_or_concat line with rfl | ⟨front, c, rfl⟩
  · rfl
  · have hc : c ≠ '\r' := by simpa using h.not_return_last
    simp [dropReturns, dropEndWhile, hc]

theorem dropNewlines_eq (h : IsBare line) : dropNewlines line = line := by
  apply dropEndWhile_eq_self
  intro c hc
  rw [beq_eq_false_iff_ne]
  rintro rfl
  exact h.newline_not_mem hc

theorem dropNewlines_append (h : IsBare line) : dropNewlines (line ++ ['\n']) = line := by
  have hdrop : dropNewlines (line ++ ['\n']) = dropNewlines line := by
    simp [dropNewlines, dropEndWhile]
  rw [hdrop, h.dropNewlines_eq]

theorem isNewline_eq_false (h : IsBare line) : ∀ c ∈ line, isNewline c = false := by
  intro c hc
  apply beq_eq_false_iff_ne.mpr
  rintro rfl
  exact h.newline_not_mem hc

end IsBare

/-- **The lines of a text are those that it was written for.** -/
theorem WrittenAs.lines_eq (h : WrittenAs lines text) (hbare : ∀ line ∈ lines, IsBare line) :
    (linesAt isNewline text).map dropReturns = lines := by
  -- by induction on how the text was written, one line after the other
  induction h with
  | nil => rfl
  | unended hne =>
    have hline := hbare _ List.mem_cons_self
    rw [linesAt_of_forall hline.isNewline_eq_false hne, List.map_singleton, hline.dropReturns_eq]
  | newline line _ ih =>
    obtain ⟨hline, hlines⟩ := List.forall_mem_cons.mp hbare
    rw [linesAt_append_cons hline.isNewline_eq_false rfl, List.map_cons, hline.dropReturns_eq,
      ih hlines]
  | returnNewline line _ ih =>
    obtain ⟨hline, hlines⟩ := List.forall_mem_cons.mp hbare
    -- The carriage return is one more character of the line, until it is stripped.
    have hreturn : ∀ c ∈ line ++ ['\r'], isNewline c = false := by
      intro c hc
      rcases List.mem_append.mp hc with hc | hc
      · exact hline.isNewline_eq_false c hc
      · rw [List.mem_singleton.mp hc]
        rfl
    rw [List.append_cons, linesAt_append_cons hreturn rfl, List.map_cons,
      dropReturns_append_return, hline.dropReturns_eq, ih hlines]

end Text

open Text

/-! ## Reads one after the other -/

variable {κ σ τ : Type}

/-- What reads come to, each of them a call of its own. -/
def answers (read : κ → Act SourceEvent σ (Option String)) :
    List κ → σ → List (Except Failure (Option String))
  | [], _ => []
  | call :: calls, s => (read call s).result :: answers read calls (read call s).state

/-- What a read comes to after so many others, of which each has taken one of the lines: the next
line, or an end of the input. -/
def answerAt (lines : List String) (ended : Failure) (before : Nat) :
    Except Failure (Option String) :=
  match lines[before]? with
  | some line => .ok (some line)
  | none => .error ended

/-- Reads that deliver lines, and then find the end of the input at every further call. -/
def Yields (read : κ → Act SourceEvent σ (Option String)) (s : σ) (lines : List String) : Prop :=
  ∃ ended, ended.isA .endOfFile = true ∧
    ∀ calls, answers read calls s = (List.range calls.length).map (answerAt lines ended)

/-- **Delivery does not depend on the calls where the reader does not**: it reads a part of the
state by an action that the call has no say in. -/
theorem Delivers.yields {x : Act SourceEvent τ (Option String)} {t : τ} {lines : List String}
    (h : Delivers x t lines) {read : κ → Act SourceEvent σ (Option String)} (put : τ → σ)
    (hresult : ∀ call t, (read call (put t)).result = (x t).result)
    (hstate : ∀ call t, (read call (put t)).state = put (x t).state) :
    Yields read (put t) lines := by
  induction h with
  | @ended t f hx hend hsame =>
    refine ⟨f, hend, fun calls => ?_⟩
    -- The end of the input stays, so the next read finds what this one has found.
    induction calls with
    | nil => rfl
    | cons call calls ih =>
      rw [answers, hresult, hx, hstate, hsame, ih, List.length_cons, List.range_succ_eq_map]
      simp [answerAt]
  | @line t line rest hx _ ih =>
    obtain ⟨ended, hend, hrest⟩ := ih
    refine ⟨ended, hend, fun calls => ?_⟩
    cases calls with
    | nil => rfl
    | cons call calls =>
      rw [answers, hresult, hx, hstate, hrest, List.length_cons, List.range_succ_eq_map]
      simp [answerAt]

namespace Source

/-- A call of a source: the completions that are installed, and a prompt. -/
abbrev Call := Option (String → List String) × Option String

theorem lines_yield {lines : List String} (name : Value) {given : List String}
    (h : given.map (fun line => String.ofList (dropNewlines line.toList)) = lines) :
    Yields (fun call : Call => read call.1 call.2) (.lines name given) lines := by
  have hdelivers := nextLine_delivers name given
  rw [h] at hdelivers
  exact hdelivers.yields (Source.lines name) (fun _ _ => rfl) fun _ _ => rfl

section Text

variable {lines : List String} {text : List Char}
  (h : (linesAt isNewline text).map (fun line => String.ofList (dropReturns line)) = lines)
include h

theorem stream_yields (name : Option Value) (echo : Bool) :
    Yields (fun call : Call => read call.1 call.2) (.stream name echo text) lines := by
  have hdelivers := nextOfText_delivers (streamName name) text
  rw [h] at hdelivers
  apply hdelivers.yields (Source.stream name echo)
  · intro call t
    cases echo <;> rfl
  · intro call t
    cases echo <;> rfl

theorem file_yields (name : Option Value) :
    Yields (fun call : Call => read call.1 call.2) (.file name text) lines := by
  have hdelivers := nextOfText_delivers (Source.file name []).description text
  rw [h] at hdelivers
  exact hdelivers.yields (Source.file name) (fun _ _ => rfl) fun _ _ => rfl

theorem standardInput_yields (name : Option Value) (desk : Desk) (stdin : StandardInput) :
    Yields (fun call : (String → List String) × String => Desk.inputs.read call.1 call.2)
      ⟨.standardInput name, { desk with stdin := some { stdin with text } }⟩ lines := by
  have hdelivers := nextOfText_delivers (streamName name) text
  rw [h] at hdelivers
  let put (text : List Char) : Intake Source Desk :=
    ⟨.standardInput name, { desk with stdin := some { stdin with text } }⟩
  apply hdelivers.yields put
  · intro call text
    rw [Act.map_apply]
    rfl
  · intro call text
    rw [Act.map_apply]
    rfl

end Text

/-- **Every reader yields the lines.** They are known beforehand, with or without their newlines, or
they were written as a text that is read as a stream, as the standard input or as a file. -/
theorem yield_alike (lines : List String) (hbare : ∀ line ∈ lines, IsBare line.toList) :
    (∀ name, Yields (fun call : Call => read call.1 call.2) (.lines name lines) lines ∧
      Yields (fun call : Call => read call.1 call.2) (.lines name (lines.map (· ++ "\n"))) lines) ∧
    ∀ text, WrittenAs (lines.map String.toList) text → ∀ name,
      (∀ echo, Yields (fun call : Call => read call.1 call.2) (.stream name echo text) lines) ∧
      Yields (fun call : Call => read call.1 call.2) (.file name text) lines ∧
      ∀ (desk : Desk) (stdin : StandardInput),
        Yields (fun call : (String → List String) × String => Desk.inputs.read call.1 call.2)
          ⟨.standardInput name, { desk with stdin := some { stdin with text } }⟩ lines := by
  constructor
  · intro name
    constructor
    · apply lines_yield
      rw [List.map_congr_left, List.map_id]
      intro line hline
      rw [(hbare line hline).dropNewlines_eq, String.ofList_toList]
      rfl
    · apply lines_yield
      rw [List.map_map, List.map_congr_left, List.map_id]
      intro line hline
      have htoList : (line ++ "\n").toList = line.toList ++ ['\n'] := String.toList_append
      rw [Function.comp_apply, htoList, (hbare line hline).dropNewlines_append,
        String.ofList_toList]
      rfl
  · intro text htext name
    have hlines : (linesAt isNewline text).map (fun line => String.ofList (dropReturns line)) =
        lines := by
      rw [← Function.comp_def, ← List.map_map, htext.lines_eq, List.map_map]
      · simp
      · intro line hline
        obtain ⟨line, hmem, rfl⟩ := List.mem_map.mp hline
        exact hbare line hmem
    exact ⟨fun echo => stream_yields hlines name echo, file_yields hlines name,
      fun desk stdin => standardInput_yields hlines name desk stdin⟩

/-- Two lines with a blank one between them. -/
def parted : List String := ["if x:", "", "y"]

/-- The lines as a text of which the last one lacks its end. -/
def partedText : List Char :=
  "if x:".toList ++ '\r' :: '\n' :: ("".toList ++ '\r' :: '\n' :: "y".toList)

/-- The blank line is read as a line, from a stream and where the lines are known beforehand. -/
theorem yield_alike_parted :
    (∀ line ∈ parted, IsBare line.toList) ∧ WrittenAs (parted.map String.toList) partedText ∧
      Yields (fun call : Call => read call.1 call.2) (.lines (.str "<lines>") parted) parted ∧
      Yields (fun call : Call => read call.1 call.2) (.stream none true partedText) parted := by
  have hbare : ∀ line ∈ parted, IsBare line.toList := by decide +kernel
  have htext : WrittenAs (parted.map String.toList) partedText := by
    apply WrittenAs.returnNewline
    apply WrittenAs.returnNewline
    exact .unended (by decide +kernel)
  obtain ⟨hknown, hwritten⟩ := yield_alike parted hbare
  exact ⟨hbare, htext, (hknown _).1, (hwritten _ htext none).1 true⟩

end Source

end PromptLoop
