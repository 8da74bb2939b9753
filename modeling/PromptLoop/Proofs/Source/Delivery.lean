import PromptLoop.CommandLine.Run
import PromptLoop.Proofs.Text.Lines

/-!
# What sources deliver

A source delivers lines, one with each read, until it is at its end, where it stays. Lines that are
known beforehand are delivered as they are, and the lines of a stream are those between its
newlines. The lines of a file are delivered by a stream of its text exactly if the text has no
boundary but line ends.

## Main definitions

* `Delivers`: the lines of the reads of a source, up to its end
* `CommandLine.streamLines`: the lines of a stream

## Main results

* `Delivers.unique`: a source delivers no other lines
* `Source.lines_delivers`, `Source.stream_delivers`, `Desk.standardInput_delivers`: what sources
  deliver
* `CommandLine.fileLines_eq_iff`: when a file and a stream have the same lines
* `CommandLine.delivers_same_iff`: when their sources deliver the same
-/

namespace PromptLoop

open Text

variable {σ τ : Type}

/-- The lines that reads yield, one after the other, up to an end of input that stays. -/
inductive Delivers (read : Act SourceEvent σ (Option String)) : σ → List String → Prop
  | ended {s : σ} {f : Failure} (hresult : (read s).result = .error f)
      (hend : f.isA .endOfFile = true) (hstate : (read s).state = s) : Delivers read s []
  | line {s : σ} {line : String} {rest : List String} (hresult : (read s).result = .ok (some line))
      (hrest : Delivers read (read s).state rest) : Delivers read s (line :: rest)

namespace Delivers

variable {read : Act SourceEvent σ (Option String)} {x : Act SourceEvent τ (Option String)}

/-- **A source delivers no other lines.** -/
theorem unique {s : σ} {lines others : List String} (h : Delivers read s lines)
    (h' : Delivers read s others) : lines = others := by
  induction h generalizing others with
  | ended hresult hend hstate =>
    cases h' with
    | ended => rfl
    | line hresult' =>
      rw [hresult] at hresult'
      cases hresult'
  | line hresult hrest ih =>
    cases h' with
    | ended hresult' =>
      rw [hresult] at hresult'
      cases hresult'
    | line hresult' hrest' =>
      rw [hresult] at hresult'
      obtain ⟨⟩ := hresult'
      rw [ih hrest']

variable (put : τ → σ) in
/-- What is delivered from a part of the state is delivered from the whole. -/
theorem of_part {t : τ} {lines : List String} (h : Delivers x t lines)
    (hresult : ∀ t, (read (put t)).result = (x t).result)
    (hstate : ∀ t, (read (put t)).state = put (x t).state) : Delivers read (put t) lines := by
  induction h with
  | ended hx hend hsame =>
    exact .ended ((hresult _).trans hx) hend ((hstate _).trans (congrArg put hsame))
  | line hx _ ih =>
    refine .line ((hresult _).trans hx) ?_
    rw [hstate]
    exact ih

end Delivers

namespace Source

variable (complete : Option (String → List String)) (prompt : Option String)

theorem nextLine_delivers (name : Value) (lines : List String) :
    Delivers (some <$> nextLine name) lines
      (lines.map fun line => String.ofList (dropNewlines line.toList)) := by
  induction lines with
  | nil => exact .ended rfl rfl rfl
  | cons line lines ih => exact .line rfl ih

/-- What a text delivers stands between its newlines, without carriage returns at its end. -/
theorem nextOfText_delivers (name : String) (cs : List Char) :
    Delivers (some <$> nextOfText name) cs
      ((linesAt isNewline cs).map fun line => String.ofList (dropReturns line)) := by
  -- by induction on the lines of the text, of which each read takes one
  induction hn : lineCount cs generalizing cs with
  | zero =>
    cases cs with
    | nil => exact .ended rfl rfl rfl
    | cons c cs =>
      have hless := lineCount_takeLine (List.cons_ne_nil c cs)
      omega
  | succ n ih =>
    cases cs with
    | nil => cases hn
    | cons c cs =>
      have hless := lineCount_takeLine (List.cons_ne_nil c cs)
      have hrest := ih (takeLine (c :: cs)).2 (by omega)
      rw [linesAt_newline (List.cons_ne_nil c cs), List.map_cons, ← chomp_takeLine_fst]
      exact .line rfl hrest

theorem nextOfText_delivers_of_not_mem (name : String) {cs : List Char} (h : '\r' ∉ cs) :
    Delivers (some <$> nextOfText name) cs ((linesAt isNewline cs).map String.ofList) := by
  have hlines := nextOfText_delivers name cs
  rwa [← Function.comp_def, ← List.map_map, map_dropReturns_linesAt h] at hlines

/-- Lines that are known beforehand are delivered without their newlines. -/
theorem lines_delivers (name : Value) (lines : List String) :
    Delivers (read complete prompt) (.lines name lines)
      (lines.map fun line => String.ofList (dropNewlines line.toList)) :=
  .of_part (Source.lines name) (nextLine_delivers name lines) (fun _ => rfl) fun _ => rfl

/-- A stream delivers the lines between its newlines. -/
theorem stream_delivers (name : Option Value) (echo : Bool) {cs : List Char} (h : '\r' ∉ cs) :
    Delivers (read complete prompt) (.stream name echo cs)
      ((linesAt isNewline cs).map String.ofList) := by
  have hlines := nextOfText_delivers_of_not_mem (streamName name) h
  refine .of_part (Source.stream name echo) hlines ?_ ?_
  · intro t
    cases echo <;> rfl
  · intro t
    cases echo <;> rfl

end Source

/-- The standard input delivers the lines between its newlines. -/
theorem Desk.standardInput_delivers (words : String → List String) (prompt : String)
    (name : Option Value) (desk : Desk) (stdin : StandardInput) {cs : List Char} (h : '\r' ∉ cs) :
    Delivers (Desk.inputs.read words prompt)
      ⟨.standardInput name, { desk with stdin := some { stdin with text := cs } }⟩
      ((linesAt isNewline cs).map String.ofList) := by
  let put (cs : List Char) : Intake Source Desk :=
    ⟨.standardInput name, { desk with stdin := some { stdin with text := cs } }⟩
  have hlines := Source.nextOfText_delivers_of_not_mem (Source.streamName name) h
  refine .of_part put hlines ?_ ?_
  · intro cs
    rw [Act.map_apply]
    rfl
  · intro cs
    rw [Act.map_apply]
    rfl

namespace CommandLine

/-- The lines of a stream with a text. -/
def streamLines (text : List Char) : List String :=
  (linesAt isNewline (normalizeNewlines text)).map String.ofList

/-- **A file and a stream of its text have the same lines exactly if the text has no boundary but
line ends.** -/
theorem fileLines_eq_iff (text : List Char) :
    fileLines text = streamLines text ↔ PlainlyEnded text := by
  rw [fileLines, streamLines, ← boundaryLines_eq_iff]
  exact List.map_inj_right fun _ _ h => String.ofList_injective h

/-- The source of a file delivers the lines of the file. -/
theorem fileSource_delivers (complete : Option (String → List String)) (prompt : Option String)
    (name : Value) (text : List Char) :
    Delivers (Source.read complete prompt) (.lines name (fileLines text)) (fileLines text) := by
  have hsame : (fileLines text).map (fun line => String.ofList (dropNewlines line.toList)) =
      fileLines text := by
    refine (List.map_congr_left fun line hline => ?_).trans (List.map_id _)
    -- A newline is a boundary, so there is none in a line.
    obtain ⟨cs, hcs, rfl⟩ := List.mem_map.mp hline
    rw [boundaryLines_eq_linesAt (return_not_mem_normalizeNewlines text)] at hcs
    have hkept : dropNewlines cs = cs := by
      refine dropEndWhile_eq_self fun c hc => beq_eq_false_iff_ne.mpr ?_
      rintro rfl
      cases eq_false_of_mem_linesAt hcs hc
    rw [String.toList_ofList, hkept]
    rfl
  have hdelivers := Source.lines_delivers complete prompt name (fileLines text)
  rwa [hsame] at hdelivers

/-- **The source of a file delivers what a stream of its text does exactly if the text has no
boundary but line ends.** -/
theorem delivers_same_iff (complete : Option (String → List String)) (prompt : Option String)
    (name : Value) (streamName : Option Value) (echo : Bool) (text : List Char) :
    (∀ lines, Delivers (Source.read complete prompt) (.lines name (fileLines text)) lines ↔
      Delivers (Source.read complete prompt) (.stream streamName echo (normalizeNewlines text))
        lines) ↔ PlainlyEnded text := by
  have hfile := fileSource_delivers complete prompt name text
  have hstream : Delivers (Source.read complete prompt)
      (.stream streamName echo (normalizeNewlines text)) (streamLines text) :=
    Source.stream_delivers complete prompt streamName echo (return_not_mem_normalizeNewlines text)
  rw [← fileLines_eq_iff]
  constructor
  · intro h
    exact ((h _).mp hfile).unique hstream
  · intro h lines
    constructor
    · intro hlines
      rw [hlines.unique hfile, h]
      exact hstream
    · intro hlines
      rw [hlines.unique hstream, ← h]
      exact hfile

end CommandLine

end PromptLoop
