import PromptLoop.Proofs.Indent.Reindentation
import PromptLoop.Proofs.Session.Agreement
import PromptLoop.Proofs.Session.Presentation

/-!
# The indentation of a prompt and of its line

A prompt shows the indentation of the open constructs before a line is typed behind it, and the
line is corrected once it has come. Between the two a read may fail, be retried and change its
source, and yet they agree: a line keeps the indentation that its prompt has shown, unless its first
token leads out of a construct.

## Main definitions

* `Typed`: a line as it is typed at a prompt
* `IndentRules.LeadsOut`: a line whose first token leads out of a construct
* `paints`: what the loop itself writes
* `Session.Reached`: a session at the start of a turn

## Main results

* `Constructs.leadingDedent_pos_iff`: which lines stand further out than the open constructs
* `Tracker.indent?_typed`: a typed line is never refused where its prompt was not
* `Session.Reached.reset_eq`: a session goes by the rules and the width of its settings
* `Session.turn_agrees_with_prompt`: what is handed to the evaluator for a typed line
-/

namespace PromptLoop

open Text

variable {ι δ σ : Type}

/-- A line as it is typed at a prompt: not empty, on a line of its own, and without blanks around
it. -/
structure Typed (line : List Char) : Prop where
  ne_nil : line ≠ []
  newline_not_mem : '\n' ∉ line
  trim_eq : trim line = line

/-- A line whose first token leads out of a construct: a keyword that continues a block, or a token
that closes a construct. -/
def IndentRules.LeadsOut (rules : IndentRules) (line : List Char) : Prop :=
  ∃ first ∈ (tokens line).head?,
    (first.kind = .word ∧ first.text ∈ rules.midKeywords) ∨ isCloser rules first = true

/-! ## How far out a line stands -/

/-- A line stands further out than the open constructs where its first token leads out of one. -/
theorem Constructs.leadingDedent_pos_iff {rules : IndentRules} {stack : Constructs}
    {line : List Char} :
    0 < stack.leadingDedent rules (tokens line) ↔ rules.LeadsOut line ∧ stack ≠ [] := by
  rw [leadingDedent, IndentRules.LeadsOut, ← List.length_pos_iff]
  rcases tokens line with _ | ⟨first, rest⟩
  · simp [startsWith, firstWord?]
  · -- A keyword that continues a block is looked for before closers are counted.
    have hmid : startsWith rules.midKeywords (first :: rest) = true ↔
        first.kind = .word ∧ first.text ∈ rules.midKeywords := by
      by_cases hword : first.kind = .word <;> simp [startsWith, firstWord?, hword]
    have hclosers : 0 < ((first :: rest).takeWhile (isCloser rules)).length ↔
        isCloser rules first = true := by
      by_cases hcloser : isCloser rules first = true <;> simp [hcloser]
    simp only [List.head?_cons, Option.mem_some_iff, exists_eq_left', ← hmid, ← hclosers]
    split
    · next h =>
      rw [and_iff_right (Or.inl h)]
      omega
    · next h =>
      rw [or_iff_right h]
      omega

namespace Typed

variable {t : Tracker} {line : List Char}

theorem trim_ne_nil (h : Typed line) : trim line ≠ [] := by
  rw [h.trim_eq]
  exact h.ne_nil

theorem leadingBlanks_eq_zero (h : Typed line) : leadingBlanks line = 0 := by
  have hblanks : leadingBlanks ([] ++ trim line) = 0 :=
    leadingBlanks_blanks_append_trim nofun h.trim_ne_nil
  rwa [List.nil_append, h.trim_eq] at hblanks

/-- A typed line has no indentation of its own that could close a colon block. -/
theorem lineDepth_eq (h : Typed line) :
    t.lineDepth line = t.depth - t.stack.leadingDedent t.rules (tokens line) := by
  have hresynced : t.resynced line = t.stack := by
    simp [Tracker.resynced, Constructs.resync, Constructs.heedsIndentation, h.leadingBlanks_eq_zero]
  rw [Tracker.lineDepth, hresynced, h.trim_eq]
  rfl

/-- The echo of a typed line starts with all the blanks that its prompt has shown. -/
theorem leadingBlanks_echo (h : Typed line) :
    leadingBlanks (t.currentPrefix ++ line) = t.currentPrefix.length := by
  have hblank : ∀ c ∈ t.currentPrefix, isBlank c = true := by
    rw [Tracker.currentPrefix, Tracker.indentation_eq_replicate]
    exact Tracker.isBlank_of_mem_replicate
  have hblanks := leadingBlanks_blanks_append_trim hblank h.trim_ne_nil
  rwa [h.trim_eq] at hblanks

end Typed

namespace Tracker

variable {t : Tracker} {line blanks : List Char}

/-- A typed line keeps the indentation of the open constructs where its first token leads out of
none. -/
theorem indent_typed_of_stays (h : Typed line) (hstays : t.rules.LeadsOut line → t.stack = []) :
    (t.indent line).1 = t.currentPrefix ++ line := by
  have hdedent : t.stack.leadingDedent t.rules (tokens line) = 0 := by
    apply Nat.eq_zero_of_not_pos
    rw [Constructs.leadingDedent_pos_iff]
    exact fun ⟨hleads, hopen⟩ => hopen (hstays hleads)
  rw [indent_line h.newline_not_mem, indentLine_code h.trim_ne_nil, h.trim_eq, h.lineDepth_eq,
    hdedent, Nat.sub_zero, currentPrefix, indentation_eq_replicate]

/-- A typed line whose first token leads out of a construct stands further out. -/
theorem indent_typed_of_leadsOut (h : Typed line) (hwidth : 0 < t.width)
    (hleads : t.rules.LeadsOut line) (hopen : t.stack ≠ []) :
    trim (t.indent line).1 = line ∧
      leadingBlanks (t.indent line).1 < t.currentPrefix.length := by
  have hdedent := Constructs.leadingDedent_pos_iff.mpr ⟨hleads, hopen⟩
  have hdepth : t.lineDepth line < t.depth := by
    have hpos : 0 < t.depth := List.length_pos_iff.mpr hopen
    rw [h.lineDepth_eq]
    omega
  have hcolumns : 0 < t.width.toNat := by omega
  rw [indent_line h.newline_not_mem]
  constructor
  · rw [(t.indentLine_reindents line).trim_eq, h.trim_eq]
  · rw [indentLine_code h.trim_ne_nil,
      leadingBlanks_blanks_append_trim isBlank_of_mem_replicate h.trim_ne_nil, currentPrefix,
      indentation_eq_replicate, List.length_replicate, List.length_replicate]
    exact Nat.mul_lt_mul_of_pos_right hdepth hcolumns

/-- A typed line is not refused where the indentation of its prompt was not: it stands no further
in. -/
theorem indent?_typed {ε : Type} (h : Typed line) (hwidth : 0 < t.width)
    (hshown : t.currentPrefix? = .ok blanks) :
    (indent? line t : Run ε Tracker (List Char)).result = .ok (t.indent line).1 := by
  have hfits := Padding.fits_of_blanks? hshown
  have hnonneg : 0 ≤ t.width * (t.lineDepth line : Int) :=
    Int.mul_nonneg (Int.le_of_lt hwidth) (Int.natCast_nonneg _)
  have hle : t.width * (t.lineDepth line : Int) ≤ t.width * t.depth := by
    apply Int.mul_le_mul_of_nonneg_left _ (Int.le_of_lt hwidth)
    exact Int.ofNat_le.mpr (t.lineDepth_le_depth line)
  have haccepts : t.Accepts line := by
    refine .inr ⟨fun hzero => absurd hzero (Int.ne_of_gt hwidth), ?_, Int.le_trans hle hfits.2⟩
    exact Int.le_trans (by decide) hnonneg
  have hall : t.AcceptsAll (splitLines line) := by
    rw [splitLines_of_not_mem h.newline_not_mem]
    exact ⟨haccepts, trivial⟩
  rw [indent?_eq hall]

end Tracker

/-! ## What the loop itself writes -/

/-- What the loop itself writes. -/
def paints (es : List Event) : List Event := es.filter Event.isPaint

@[simp] theorem paints_append (es ds : List Event) : paints (es ++ ds) = paints es ++ paints ds :=
  List.filter_append es ds

theorem paints_evaluator (ns : List Notice) : paints (ns.map .evaluator) = [] := by
  simp [paints, List.filter_eq_nil_iff, Event.isPaint]

theorem paints_reading (es : List ReadEvent) : paints (es.map .reading) = [] := by
  simp [paints, List.filter_eq_nil_iff, Event.isPaint]

/-- A record for the log is no write. -/
theorem isPaint_of_mem_log? {level : Log.Level} {channel : String} {message? : Option String}
    {e : Event} (h : e ∈ (Notice.log? level channel message?).map .loop) : ¬e.isPaint = true := by
  cases message? with
  | none => cases h
  | some message =>
    obtain rfl := List.mem_singleton.mp h
    exact Bool.false_ne_true

namespace Session

variable {setup : Setup ι δ σ} {s : Session ι δ σ} {ρ : Reading ι δ σ}

theorem painting_paints (prompt : String) (echoed : List Char)
    (result : Except Failure (List Char)) :
    paints (painting setup prompt echoed result) = painting setup prompt echoed result := by
  cases result with
  | error f => rfl
  | ok corrected =>
    rw [painting]
    split <;> rfl

/-- The evaluator and the records of its verdict write nothing of the loop's own. -/
theorem evaluate_paints (line : Option String) (s : Session ι δ σ) :
    paints (evaluate setup line s).events = [] := by
  have hreports : Act.Reports (fun e => ¬e.isPaint = true) (evaluate setup line) := by
    refine .bind (.emit (by simp [Event.isPaint])) fun _ => .bind (.within fun n => nofun) ?_
    intro verdict
    cases verdict with
    | proceed => exact .pure _
    | raiseUp f => exact .bind (.emit fun _ => isPaint_of_mem_log?) fun _ => .raise f
    | stop v => exact .bind (.emit fun _ => isPaint_of_mem_log?) fun _ => .pure _
  exact List.filter_eq_nil_iff.mpr (hreports s)

/-- What is painted for a line is its correction. -/
theorem follow_line_paints (hauto : setup.config.autoIndent = true) (prompt : String)
    (indentation : List Char) (text : String) (s : Session ι δ σ) :
    paints (follow setup prompt indentation (.line text) s).events =
      painting setup prompt (indentation ++ text.toList)
        (Tracker.indent? text.toList s.tracker : Run Event Tracker (List Char)).result := by
  rw [follow, Act.bind_apply, correct_eq setup hauto]
  rcases (Tracker.indent? text.toList s.tracker : Run Event Tracker (List Char))
    with ⟨f | corrected, t, es⟩
  · simp only [Except.map, Run.andThen_error, painting_paints]
  · simp only [Except.map, Run.andThen_ok, Run.after_events, paints_append, painting_paints,
      evaluate_paints, List.append_nil]

/-! ## The sessions that turns start with -/

/-- A session at the start of a turn: the first one, or one that the turn before has let go on. -/
inductive Reached (setup : Setup ι δ σ) : Session ι δ σ → Prop
  | begun (evaluator : σ) (intake : Intake ι δ)
      (h : (begin setup (initial setup evaluator intake)).result = .ok ()) :
      Reached setup (begin setup (initial setup evaluator intake)).state
  | turned {s : Session ι δ σ} (h : Reached setup s)
      (hagain : (turn setup s).result = .ok .again) : Reached setup (turn setup s).state

theorem reading?_reset (h : reading? setup s = some ρ) :
    ρ.start.tracker.reset = s.tracker.reset := by
  obtain ⟨prompt, t, es, hprompt, rfl⟩ := reading?_eq_some h
  have ht : t.tracker = s.tracker := congrArg (fun r => r.state.tracker) hprompt.symm
  show (settle setup t).tracker.reset = s.tracker.reset
  rw [settle, ← ht]
  split <;> rfl

/-- A turn changes which constructs are open, and nothing else of the tracker. -/
theorem turn_reset (h : (turn setup s).result = .ok .again) :
    (turn setup s).state.tracker.reset = s.tracker.reset := by
  cases hρ : reading? setup s with
  | none =>
    obtain ⟨⟨f, hf⟩, -⟩ := turn_of_no_reading hρ
    rw [hf] at h
    cases h
  | some ρ =>
    rw [← reading?_reset hρ]
    rw [(turn_of_reading hρ).1, Reading.response] at h
    rcases hresult : ρ.result with f | (text | _ | _ | _)
    · rw [hresult] at h
      cases h
    · -- The turn has gone on, so the line was not refused.
      obtain ⟨prompt, indentation, i, hstate⟩ := turn_state hρ hresult
      rcases hline : corrected? setup ρ.start text with f | line
      · simp only [hresult, hline] at h
        cases h
      · rw [hstate, follow_line_state setup prompt indentation
          (s := { ρ.start with intake := i }) hline]
        exact trackerAfter_reset hline
    · obtain ⟨prompt, indentation, i, hstate⟩ := turn_state hρ hresult
      rw [hstate, follow_endOfSession_state]
    · obtain ⟨prompt, indentation, i, hstate⟩ := turn_state hρ hresult
      rw [hstate, follow_interrupted_state]
    · rw [hresult] at h
      cases h

/-- A session goes by the rules and the width of its settings. -/
theorem Reached.reset_eq (h : Reached setup s) : s.tracker.reset = setup.freshTracker := by
  -- by induction on the turns before
  induction h with
  | begun evaluator intake h =>
    have htracker : Act.Keeps Session.tracker (begin setup) :=
      begin_keeps (fun _ _ => rfl) (fun _ _ => rfl)
    rw [htracker]
    rfl
  | turned h hagain ih => rw [turn_reset hagain, ih]

/-- The reads of a session are those of the turns that it has come to. -/
theorem Reached.of_mem_reads {n : Nat} (h : Reached setup s) (hρ : ρ ∈ reads setup n s) :
    ∃ t, Reached setup t ∧ reading? setup t = some ρ := by
  induction n generalizing s with
  | zero => cases hρ
  | succ n ih =>
    rw [reads, List.mem_append, Option.mem_toList] at hρ
    rcases hρ with hρ | hρ
    · exact ⟨s, h, hρ⟩
    · rcases hturn : turn setup s with ⟨f | (_ | v), t, es⟩
      · rw [hturn] at hρ
        cases hρ
      · have hnext : Reached setup (turn setup s).state := h.turned (by rw [hturn])
        rw [hturn] at hρ hnext
        exact ih hnext hρ
      · rw [hturn] at hρ
        cases hρ

theorem exists_reached_of_mem_openedReads {n : Nat} {evaluator : σ} {intake : Intake ι δ}
    (hρ : ρ ∈ openedReads setup n (initial setup evaluator intake)) :
    ∃ t, Reached setup t ∧ reading? setup t = some ρ := by
  rw [openedReads] at hρ
  rcases hbegin : begin setup (initial setup evaluator intake) with ⟨f | ⟨⟩, t, es⟩
  · rw [hbegin] at hρ
    cases hρ
  · have hreached : Reached setup (begin setup (initial setup evaluator intake)).state :=
      .begun evaluator intake (by rw [hbegin])
    rw [hbegin] at hρ hreached
    exact hreached.of_mem_reads hρ

/-- **Every read of a session goes by the rules and the width of its settings.** -/
theorem start_reset_eq {n : Nat} {evaluator : σ} {intake : Intake ι δ}
    (hρ : ρ ∈ openedReads setup n (initial setup evaluator intake)) :
    ρ.start.tracker.reset = setup.freshTracker := by
  obtain ⟨t, hreached, hreading⟩ := exists_reached_of_mem_openedReads hρ
  exact (reading?_reset hreading).trans hreached.reset_eq

/-! ## Typed lines -/

/-- A line is read only behind its prompt. -/
theorem asking_line {prompt text : String} {i : Intake ι δ}
    (h : (asking setup prompt s i).result = .ok (.line text)) :
    ReadEvent.prompts (asking setup prompt s i).events ≠ [] := by
  obtain ⟨indentation, -, hasking⟩ := asking_of_outcome h
  rw [hasking] at h ⊢
  exact Pipeline.guard_asksFirst (ask_asksFirst _ _ _) _ i text h

/-- What is painted for a line that keeps the indentation of its prompt: nothing. -/
theorem painting_of_stays (prompt : String) (echoed : List Char) :
    painting setup prompt echoed (.ok echoed) = [] := by
  simp [painting, repaints]

/-- What is painted for a line that stands elsewhere than its echo: one repaint, on a terminal, if
echoes are corrected at all. -/
theorem painting_of_moves (prompt : String) {echoed corrected : List Char}
    (h : corrected ≠ echoed) :
    painting setup prompt echoed (.ok corrected) =
      if setup.screen.tty && setup.config.correctIndent then
        [.loop (.wrote (repainted setup prompt echoed corrected))]
      else [] := by
  simp [painting, repaints, h]

/-- A read that comes to an outcome has shown the indentation of the open constructs. -/
theorem currentPrefix?_of_outcome {outcome : Outcome} (hauto : setup.config.autoIndent = true)
    (hρ : reading? setup s = some ρ) (hresult : ρ.result = .ok outcome) :
    ρ.start.tracker.currentPrefix? = .ok ρ.start.tracker.currentPrefix := by
  obtain ⟨-, indentation, -, -, hind, -⟩ := turn_of_outcome hρ hresult
  rw [indentation?, if_pos hauto] at hind
  rw [hind, Tracker.currentPrefix?_of_ok hind]

/-- What a turn asks, hands to the evaluator and paints that has read a line which is not
refused. -/
theorem turn_of_line {text : String} {line : List Char} (hauto : setup.config.autoIndent = true)
    (hρ : reading? setup s = some ρ) (hline : ρ.result = .ok (.line text))
    (hindent : (Tracker.indent? text.toList ρ.start.tracker : Run Event Tracker _).result =
      .ok line) :
    let shown := ρ.start.tracker.currentPrefix
    let asked := ReadEvent.prompts ρ.events
    ∃ prompt, (setup.evaluator.prompt s.evaluator).result = .ok prompt ∧
      asked ≠ [] ∧ (∀ p ∈ asked, p = prompt ++ String.ofList shown) ∧
      marks (turn setup s).events = asked.map .asked ++ [.handed (some (String.ofList line))] ∧
      paints (turn setup s).events = painting setup prompt (shown ++ text.toList) (.ok line) := by
  intro shown asked
  obtain ⟨prompt, indentation, i, hprompt, hind, hasking, hturn⟩ := turn_of_outcome hρ hline
  rw [indentation?, if_pos hauto] at hind
  obtain rfl : indentation = shown := Tracker.currentPrefix?_of_ok hind
  have hasked : asked = ReadEvent.prompts (asking setup prompt ρ.start ρ.start.intake).events := by
    rw [hasking]
  have hcorrected : corrected? setup ρ.start text = .ok (String.ofList line) := by
    rw [corrected?, if_pos hauto, hindent]
    rfl
  refine ⟨prompt, hprompt, ?_, ?_, ?_, ?_⟩
  · have hasks : (asking setup prompt ρ.start ρ.start.intake).result = .ok (.line text) := by
      rw [hasking]
    rw [hasked]
    exact asking_line hasks
  · intro p hp
    rw [hasked] at hp
    exact asking_prompts hauto _ hp
  · rw [(turn_of_reading hρ).2, Reading.marks, Reading.calls, hline]
    simp only [hcorrected, asked]
  · -- Neither the prompt nor the question is painted by the loop.
    rw [hturn, Run.after_events, paints_append, paints_append, paints_evaluator, paints_reading,
      follow_line_paints hauto, hindent]
    rfl

/-- **A typed line is corrected as its prompt has shown**, whatever a read has gone through between
the two. Every question shows the indentation of the open constructs. A line whose first token leads
out of none of them is handed to the evaluator with that indentation, and nothing is painted; any
other is handed to it with less, and painted again once where echoes are. -/
theorem turn_agrees_with_prompt {text : String} (hauto : setup.config.autoIndent = true)
    (hreached : Reached setup s) (hρ : reading? setup s = some ρ)
    (hline : ρ.result = .ok (.line text)) (htyped : Typed text.toList) :
    let rules := setup.config.rules
    let opened := ρ.start.tracker.stack
    let shown := ρ.start.tracker.currentPrefix
    let asked := ReadEvent.prompts ρ.events
    ∃ prompt line,
      (setup.evaluator.prompt s.evaluator).result = .ok prompt ∧
      asked ≠ [] ∧ (∀ p ∈ asked, p = prompt ++ String.ofList shown) ∧
      marks (turn setup s).events = asked.map .asked ++ [.handed (some (String.ofList line))] ∧
      ((rules.LeadsOut text.toList → opened = []) →
        line = shown ++ text.toList ∧ paints (turn setup s).events = []) ∧
      (rules.LeadsOut text.toList → opened ≠ [] →
        trim line = text.toList ∧ leadingBlanks line < shown.length ∧
          paints (turn setup s).events =
            if setup.screen.tty && setup.config.correctIndent then
              [.loop (.wrote (repainted setup prompt (shown ++ text.toList) line))]
            else []) := by
  intro rules opened shown asked
  -- The tracker of the read goes by the settings, so it does not refuse the line.
  have hreset := (reading?_reset hρ).trans hreached.reset_eq
  have hrules : ρ.start.tracker.rules = rules := congrArg Tracker.rules hreset
  have hwidth : 0 < ρ.start.tracker.width := by
    rw [← Tracker.reset_width, hreset]
    exact setup.config.width_pos
  let line := (ρ.start.tracker.indent text.toList).1
  have hindent : (Tracker.indent? text.toList ρ.start.tracker : Run Event Tracker _).result =
      .ok line := Tracker.indent?_typed htyped hwidth (currentPrefix?_of_outcome hauto hρ hline)
  obtain ⟨prompt, hprompt, hasks, hasked, hmarks, hpaints⟩ := turn_of_line hauto hρ hline hindent
  refine ⟨prompt, line, hprompt, hasks, hasked, hmarks, ?_, ?_⟩
  · intro hstays
    have hsame : line = shown ++ text.toList := by
      apply Tracker.indent_typed_of_stays htyped
      rwa [hrules]
    refine ⟨hsame, ?_⟩
    rw [hpaints, hsame, painting_of_stays]
  · intro hleads hopen
    rw [← hrules] at hleads
    obtain ⟨htrim, hless⟩ := Tracker.indent_typed_of_leadsOut htyped hwidth hleads hopen
    refine ⟨htrim, hless, ?_⟩
    rw [hpaints]
    apply painting_of_moves
    intro hsame
    have hecho : leadingBlanks line = shown.length := by
      rw [hsame]
      exact htyped.leadingBlanks_echo
    exact absurd hecho (Nat.ne_of_lt hless)

/-- A console on a terminal. -/
def terminalSetup : Setup Source Desk (Hooked Source Console) :=
  { blockSetup with screen := { tty := true, width := 80 } }

/-- A session that begins a condition and closes it after a read that fails. -/
def conditionClosed : Session Source Desk (Hooked Source Console) :=
  initial terminalSetup ⟨{}, {}⟩
    ⟨.scripted .withPrompt "scripted"
      [.answer (some "if x:"), .fail (.raised .os none), .answer (some "end")], {}⟩

/-- The session once it has begun the condition. -/
def conditionBegun : Session Source Desk (Hooked Source Console) :=
  (turn terminalSetup (begin terminalSetup conditionClosed).state).state

set_option maxRecDepth 1000 in
theorem reading?_conditionBegun : ∃ ρ, reading? terminalSetup conditionBegun = some ρ ∧
    ρ.result = .ok (.line "end") ∧ ReadEvent.prompts ρ.events = ["...   ", "...   "] ∧
      ρ.start.tracker = { stack := ["if"] } := by
  have hread : (reading? terminalSetup conditionBegun).map (fun ρ =>
      (ρ.result, ReadEvent.prompts ρ.events, ρ.start.tracker)) =
        some (.ok (.line "end"), ["...   ", "...   "], { stack := ["if"] }) := rfl
  obtain ⟨ρ, hρ, hfacts⟩ := Option.map_eq_some_iff.mp hread
  obtain ⟨hline, hrest⟩ := Prod.mk.inj hfacts
  obtain ⟨hprompts, htracker⟩ := Prod.mk.inj hrest
  exact ⟨ρ, hρ, hline, hprompts, htracker⟩

/-- The line that closes the condition is asked for twice, with the indentation of the condition; it
is handed to the evaluator without it, and painted again. -/
theorem turn_agrees_with_prompt_conditionBegun :
    ∃ ρ, (terminalSetup.config.autoIndent = true ∧ Reached terminalSetup conditionBegun ∧
        reading? terminalSetup conditionBegun = some ρ ∧ ρ.result = .ok (.line "end") ∧
        Typed "end".toList) ∧
      ReadEvent.prompts ρ.events = ["...   ", "...   "] ∧
      ∃ line, marks (turn terminalSetup conditionBegun).events =
          [.asked "...   ", .asked "...   ", .handed (some (String.ofList line))] ∧
        trim line = "end".toList ∧ leadingBlanks line < 2 ∧
        paints (turn terminalSetup conditionBegun).events =
          [.loop (.wrote (repainted terminalSetup "... " "  end".toList line))] := by
  have hreached : Reached terminalSetup conditionBegun := by
    apply Reached.turned
    · exact .begun _ _ rfl
    · rfl
  obtain ⟨ρ, hρ, hline, hprompts, htracker⟩ := reading?_conditionBegun
  have htyped : Typed "end".toList := ⟨by decide, by decide, by decide⟩
  have hleads : terminalSetup.config.rules.LeadsOut "end".toList :=
    ⟨⟨.word, "end"⟩, by decide, by decide⟩
  obtain ⟨prompt, line, hprompt, -, -, hmarks, -, hmoves⟩ :=
    turn_agrees_with_prompt rfl hreached hρ hline htyped
  obtain rfl : prompt = "... " := (Except.ok.inj hprompt).symm
  rw [htracker] at hmoves
  obtain ⟨htrim, hless, hpaints⟩ := hmoves hleads (by decide)
  rw [hprompts] at hmarks
  exact ⟨ρ, ⟨rfl, hreached, hρ, hline, htyped⟩, hprompts, line, hmarks, htrim, hless, hpaints⟩

end Session

end PromptLoop
