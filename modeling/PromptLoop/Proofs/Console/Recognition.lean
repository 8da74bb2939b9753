import PromptLoop.Proofs.Console.Cancelling
import PromptLoop.Proofs.Text.Blank
import PromptLoop.Rehearsal.Program

/-!
# Which lines are commands

Whether a line is a command is found out in two steps: one looks at what is unfinished, and one
takes the line apart. Together they come to a simple rule. A line is a command if it starts with the
word of one, no code goes on behind the word, and nothing is unfinished or the line does nothing but
discard what is. Commands leave a console as it was, and within a statement nothing but the
statement itself ends a session.

## Main definitions

* `Command.Gives`: a line that gives a command with an argument
* `Console.HandledAsCommand`: a line that a console handles as a command
* `Console.ExitsWith`: the statement that a line completes asks to leave with a code

## Main results

* `Command.recognise_iff_gives`: which command a line is recognised as
* `Command.not_gives_of_continues`: a command word behind which code goes on is a name
* `Console.runStatement_verdict`, `Console.take_verdict`, `Console.evalLine_verdict`: what may end a
  session within a statement
* `Console.commands_recognised`: which lines are commands, and what else they do
-/

namespace PromptLoop

open Text

namespace Command

variable {command : Command} {line argument : List Char}

/-! ## The words of commands -/

theorem ofWord?_eq_some_iff {word : String} :
    ofWord? word = some command ↔ command.word = word := by
  constructor
  · intro h
    rw [ofWord?] at h
    exact eq_of_beq (List.find?_some h :)
  · rintro rfl
    cases command <;> rfl

theorem word_ne_nil (command : Command) : command.word.toList ≠ [] := by
  cases command <;> simp [word]

theorem not_isBlank_of_mem_word (command : Command) :
    ∀ c ∈ command.word.toList, isBlank c = false := by
  cases command <;> simp [word, isBlank, blankRanges, inRanges]

theorem not_isBlank_of_mem_continuations : ∀ m ∈ continuations, isBlank m = false := by
  simp [continuations, isBlank, blankRanges, inRanges]

theorem not_mem_word_of_mem_continuations (command : Command) :
    ∀ m ∈ continuations, m ∉ command.word.toList := by
  cases command <;> simp [word, continuations]

/-- A line that gives a command: blanks, the word of the command, and its argument behind blanks. No
code goes on behind the word. -/
def Gives (line : List Char) (command : Command) (argument : List Char) : Prop :=
  ∃ before rest, line = before ++ command.word.toList ++ rest ∧
    (∀ c ∈ before, isBlank c = true) ∧ (∀ c ∈ rest.head?, isBlank c = true) ∧
      argument = trim rest ∧ ∀ m ∈ argument.head?, m ∉ continuations

/-! ## Which command a line is recognised as -/

theorem continuesAsCode_eq_false_iff :
    continuesAsCode argument = false ↔ ∀ m ∈ argument.head?, m ∉ continuations := by
  rw [continuesAsCode]
  cases argument <;> simp

theorem cutWord_word (command : Command) {before rest : List Char}
    (hbefore : ∀ c ∈ before, isBlank c = true) (hrest : ∀ c ∈ rest.head?, isBlank c = true) :
    cutWord (before ++ command.word.toList ++ rest) =
      some (command.word.toList, trimStart rest) :=
  cutWord_append hbefore command.word_ne_nil command.not_isBlank_of_mem_word hrest

theorem isBlank_head_trimEnd {rest : List Char} (h : ∀ c ∈ rest.head?, isBlank c = true) :
    ∀ c ∈ (trimEnd rest).head?, isBlank c = true := by
  intro c hc
  obtain ⟨after, hrest, -⟩ := exists_eq_trimEnd_append rest
  apply h
  rw [hrest, List.head?_append, Option.mem_def.mp hc]
  rfl

/-- **A line is recognised as the command that it gives.** -/
theorem recognise_iff_gives {line argument : String} :
    recognise line = some (command, argument) ↔ Gives line.toList command argument.toList := by
  rw [recognise_eq_some_iff]
  constructor
  · rintro ⟨first, rest, hcut, hword, hcode, rfl⟩
    obtain ⟨before, after, hline, hbefore, hafter⟩ := exists_eq_append_trim line.toList
    obtain ⟨inner, behind, htrim, hinner, hbehind, rfl⟩ := exists_of_cutWord hcut
    obtain rfl : first = command.word.toList := by
      rw [ofWord?_eq_some_iff.mp hword, String.toList_ofList]
    -- The blanks around the line count to those around the word and behind the argument.
    refine ⟨before ++ inner, behind ++ after, ?_, ?_, ?_, ?_, ?_⟩
    · rw [hline, htrim]
      simp only [List.append_assoc]
    · intro c hc
      exact (List.mem_append.mp hc).elim (hbefore c) (hinner c)
    · intro c hc
      rcases behind with _ | ⟨d, behind⟩
      · exact hafter c (List.mem_of_mem_head? hc)
      · exact hbehind c hc
    · rw [String.toList_ofList, trim_trimStart, trim_append_blanks hafter]
    · rw [String.toList_ofList]
      exact continuesAsCode_eq_false_iff.mp hcode
  · rintro ⟨before, rest, hline, hbefore, hrest, hargument, hcode⟩
    have htrim : trim line.toList = command.word.toList ++ trimEnd rest := by
      rw [hline]
      exact trim_append_word hbefore command.word_ne_nil command.not_isBlank_of_mem_word rest
    have hsame : trim (trimStart (trimEnd rest)) = argument.toList := by
      rw [trim_trimStart, trim_trimEnd, hargument]
    refine ⟨command.word.toList, trimStart (trimEnd rest), ?_, ?_, ?_, ?_⟩
    · rw [htrim, ← List.nil_append (command.word.toList ++ _), ← List.append_assoc]
      exact command.cutWord_word nofun (isBlank_head_trimEnd hrest)
    · rw [ofWord?_eq_some_iff, String.ofList_toList]
    · rw [hsame, continuesAsCode_eq_false_iff]
      exact hcode
    · rw [hsame, String.ofList_toList]

/-- **A command word behind which code goes on is a name**, with blanks between the two or
without. -/
theorem not_gives_of_continues {other : Command} {blanks rest : List Char} {m : Char}
    (hblanks : ∀ c ∈ blanks, isBlank c = true) (hm : m ∈ continuations) :
    ¬Gives (command.word.toList ++ blanks ++ m :: rest) other argument := by
  rintro ⟨before, behind, hline, hbefore, hbehind, hargument, hcode⟩
  have hmark : isBlank m = false := not_isBlank_of_mem_continuations m hm
  have hother := other.cutWord_word hbefore hbehind
  rw [← hline] at hother
  rcases blanks with _ | ⟨b, blanks⟩
  · -- The character belongs to the first word, which is then that of no command.
    obtain ⟨more, rest', hfirst⟩ := cutWord_append_cons command.not_isBlank_of_mem_word hmark rest
    rw [List.append_nil, hfirst] at hother
    have hword := (Prod.mk.inj (Option.some.inj hother)).1
    apply other.not_mem_word_of_mem_continuations m hm
    rw [← hword]
    exact List.mem_append_right _ List.mem_cons_self
  · -- The character is the first of the argument.
    have hfirst : cutWord ([] ++ command.word.toList ++ (b :: blanks ++ m :: rest)) =
        some (command.word.toList, trimStart (b :: blanks ++ m :: rest)) := by
      apply command.cutWord_word
      · exact nofun
      · intro c hc
        obtain rfl : b = c := Option.some.inj hc
        exact hblanks b List.mem_cons_self
    rw [List.nil_append, ← List.append_assoc] at hfirst
    rw [hfirst, trimStart_append hblanks, trimStart_cons hmark] at hother
    have hrest := (Prod.mk.inj (Option.some.inj hother)).2
    have hhead : argument = m :: trimEnd rest := by
      rw [hargument, ← trim_trimStart, ← hrest, trim, trimStart_cons hmark, trimEnd_cons hmark]
    exact hcode m (by rw [hhead]; rfl) hm

end Command

namespace Console

variable {π : Type} {runtime : Runtime π} {c : Console} {line : String}

/-! ## Where commands count -/

/-- A line that a console handles as a command: where commands count, it is taken for one. -/
def HandledAsCommand (runtime : Runtime π) (c : Console) (line : String) : Prop :=
  (c.buffer.isEmpty || isClearing line) = true ∧ (dispatch runtime line c).result ≠ .ok none

theorem counts_iff :
    (c.buffer.isEmpty || isClearing line) = true ↔ c.buffer = [] ∨ trim line.toList = ['!'] := by
  rw [Bool.or_eq_true, List.isEmpty_iff, isClearing_iff]

theorem dispatch_ne_none_iff :
    (dispatch runtime line c).result ≠ .ok none ↔ (Command.recognise line).isSome = true := by
  constructor
  · intro h
    rcases hline : Command.recognise line with _ | given
    · rw [dispatch_of_not_recognised hline] at h
      exact absurd rfl h
    · rfl
  · exact dispatch_ne_none

/-- A line that is handled as a command is answered as one, and leaves the console without its
unfinished statement, also when the command is used wrongly or fails. -/
theorem evalLine_of_handled (h : HandledAsCommand runtime c line) :
    evalLine runtime line c = (verdictOn <$> dispatch runtime line) c ∧
      (evalLine runtime line c).state = c.discard := by
  obtain ⟨hcounts, hanswered⟩ := h
  have hadds : ¬AddsTo c.buffer line := by
    rintro ⟨hclear, hfirst⟩
    rw [hclear, Bool.or_false, List.isEmpty_iff] at hcounts
    have haside := hfirst hcounts
    rw [isAside, dispatch_ne_none_iff.mp hanswered, Bool.or_true] at haside
    cases haside
  rw [Bool.or_eq_true, List.isEmpty_iff] at hcounts
  rw [evalLine_of_not_addsTo hadds, Act.map_apply]
  exact ⟨rfl, dispatch_state hcounts⟩

/-- Any other line goes on with the unfinished statement, or starts one. -/
theorem evalLine_of_not_handled (h : ¬HandledAsCommand runtime c line) :
    evalLine runtime line c = continueWith runtime line c := by
  rw [evalLine, Act.bind_apply, Act.current_apply, Run.andThen_ok, Run.after_nil]
  by_cases hcounts : (c.buffer.isEmpty || isClearing line) = true
  · have hnone : (dispatch runtime line c).result = .ok none :=
      Classical.not_not.mp fun hanswered => h ⟨hcounts, hanswered⟩
    rw [if_pos hcounts, Act.bind_apply, dispatch_none hnone, Run.andThen_ok, Run.after_nil]
  · rw [if_neg hcounts]

/-! ## What may end a session within a statement -/

/-- A statement asks to leave with a code. -/
def Exits (runtime : Runtime π) (scope : Scope) (statement : π) (code : Value) : Prop :=
  (runtime.exec echo statement scope).result = .ok (.exited code) ∨
    ∃ f, (runtime.exec echo statement scope).result = .error f ∧ f.isA .systemExit = true ∧
      code = exitCode f

/-- The statement that a line completes asks to leave with a code. -/
def ExitsWith (runtime : Runtime π) (c : Console) (line : String) (code : Value) : Prop :=
  ∃ statement, runtime.compile (source (c.buffer ++ [line])) = .ok (some statement) ∧
    Exits runtime c.scope statement code

theorem recover_verdict {f : Failure} {verdict : Verdict Failure}
    (h : (recover f c).result = .ok verdict) :
    verdict = .proceed ∨ f.isA .systemExit = true ∧ verdict = .stop (exitCode f) := by
  rcases recover_cases f c with ⟨hexit, -, hrun⟩ | ⟨-, -, hrun⟩ | ⟨-, hrun⟩ | ⟨-, -, -, hrun⟩
  · rw [hrun] at h
    exact .inr ⟨hexit, (Except.ok.inj h).symm⟩
  · rw [hrun] at h
    exact .inl (Except.ok.inj h).symm
  · rw [hrun] at h
    exact .inl (Except.ok.inj h).symm
  · rw [hrun] at h
    cases h

/-- A statement stops a session only by asking to leave. -/
theorem runStatement_verdict {statement : π} {verdict : Verdict Failure}
    (h : (runStatement runtime statement c).result = .ok verdict) :
    verdict = .proceed ∨
      ∃ code, verdict = .stop code ∧ Exits runtime c.scope statement code := by
  rw [runStatement_apply] at h
  rcases hexec : runtime.exec echo statement c.scope with ⟨f | (_ | code), scope, es⟩
  · rw [hexec] at h
    change (recover f _).result = .ok verdict at h
    rcases recover_verdict h with hproceed | ⟨hexit, hstop⟩
    · exact .inl hproceed
    · exact .inr ⟨exitCode f, hstop, .inr ⟨f, by rw [hexec], hexit, rfl⟩⟩
  · rw [hexec] at h
    exact .inl (Except.ok.inj h).symm
  · rw [hexec] at h
    exact .inr ⟨code, (Except.ok.inj h).symm, .inl (by rw [hexec])⟩

/-- A line that is added ends the session only through the statement that it completes. -/
theorem take_verdict {verdict : Verdict Failure}
    (h : (take runtime line c).result = .ok verdict) :
    verdict = .proceed ∨ ∃ code, verdict = .stop code ∧ ExitsWith runtime c line code := by
  rw [take_apply] at h
  rcases hcompile : runtime.compile (source (c.buffer ++ [line])) with f | (_ | statement)
  · rw [hcompile] at h
    by_cases hrefused : f.isAny refusals = true
    · simp only [if_pos hrefused] at h
      rw [Act.map_apply] at h
      rcases hrefuse : (refuse f c.discard).result with g | ⟨⟩
      · rw [hrefuse] at h
        cases h
      · rw [hrefuse] at h
        exact .inl (Except.ok.inj h).symm
    · simp only [if_neg hrefused] at h
      cases h
  · rw [hcompile] at h
    exact .inl (Except.ok.inj h).symm
  · rw [hcompile] at h
    -- The statement runs on the names that were bound before the line.
    rcases runStatement_verdict h with hproceed | ⟨code, hstop, hexits⟩
    · exact .inl hproceed
    · exact .inr ⟨code, hstop, statement, hcompile, hexits⟩

/-- **Within a statement a line ends the session only through the statement.** -/
theorem evalLine_verdict {verdict : Verdict Failure} (hopen : c.buffer ≠ [])
    (h : (evalLine runtime line c).result = .ok verdict) :
    verdict = .proceed ∨ ∃ code, verdict = .stop code ∧ ExitsWith runtime c line code := by
  by_cases hclear : isClearing line = true
  · rw [evalLine_of_isClearing hclear] at h
    exact .inl (Except.ok.inj h).symm
  · have hadds : AddsTo c.buffer line :=
      ⟨Bool.eq_false_iff.mpr hclear, fun hempty => absurd hempty hopen⟩
    rw [evalLine_of_addsTo hadds] at h
    exact take_verdict h

/-- **Only lines that give a command are commands, and commands leave a console alone.** A line is
handled as a command exactly if it gives one and nothing is unfinished, or it does nothing but
discard what is. Then the console is left without its unfinished statement and as it was otherwise,
whatever becomes of the command; any other line goes to the unfinished statement. A command word
behind which code goes on is no command, and where a statement is unfinished only the statement
ends the session. -/
theorem commands_recognised (runtime : Runtime π) (c : Console) (line : String) :
    (HandledAsCommand runtime c line ↔
      (∃ command argument, Command.Gives line.toList command argument) ∧
        (c.buffer = [] ∨ trim line.toList = ['!'])) ∧
    (HandledAsCommand runtime c line →
      evalLine runtime line c = (verdictOn <$> dispatch runtime line) c ∧
        (evalLine runtime line c).state = { c with buffer := [] }) ∧
    (¬HandledAsCommand runtime c line →
      evalLine runtime line c = continueWith runtime line c) ∧
    (∀ (command : Command) (blanks : List Char) (m : Char) (rest : List Char),
      (∀ d ∈ blanks, isBlank d = true) → m ∈ Command.continuations →
        line.toList = command.word.toList ++ blanks ++ m :: rest →
          ¬HandledAsCommand runtime c line) ∧
    (c.buffer ≠ [] → ∀ verdict, (evalLine runtime line c).result = .ok verdict →
      verdict = .proceed ∨ ∃ code, verdict = .stop code ∧ ExitsWith runtime c line code) := by
  have hgives : (Command.recognise line).isSome = true ↔
      ∃ command argument, Command.Gives line.toList command argument := by
    rw [Option.isSome_iff_exists]
    constructor
    · rintro ⟨⟨command, argument⟩, h⟩
      exact ⟨command, argument.toList, Command.recognise_iff_gives.mp h⟩
    · rintro ⟨command, argument, h⟩
      refine ⟨(command, String.ofList argument), Command.recognise_iff_gives.mpr ?_⟩
      rwa [String.toList_ofList]
  have hhandled : HandledAsCommand runtime c line ↔
      (∃ command argument, Command.Gives line.toList command argument) ∧
        (c.buffer = [] ∨ trim line.toList = ['!']) := by
    rw [HandledAsCommand, counts_iff, dispatch_ne_none_iff, hgives, and_comm]
  refine ⟨hhandled, evalLine_of_handled, evalLine_of_not_handled, ?_, ?_⟩
  · intro command blanks m rest hblanks hm hline h
    obtain ⟨⟨other, argument, hother⟩, -⟩ := hhandled.mp h
    rw [hline] at hother
    exact Command.not_gives_of_continues hblanks hm hother
  · exact fun hopen verdict h => evalLine_verdict hopen h

/-- A word that leaves is a command where nothing is unfinished, and code within a statement and
where code goes on behind it. -/
theorem commands_recognised_exit :
    let runtime := ({} : Rehearsal.Tables).runtime
    HandledAsCommand runtime {} " exit 5" ∧
      ¬HandledAsCommand runtime { buffer := ["if x:"] } " exit 5" ∧
        ¬HandledAsCommand runtime {} "exit (5)" := by
  intro runtime
  have hspace : ∀ d ∈ [' '], isBlank d = true := by simp [isBlank, blankRanges, inRanges]
  refine ⟨?_, ?_, ?_⟩
  · apply (commands_recognised runtime {} " exit 5").1.mpr
    refine ⟨⟨.exit, ['5'], [' '], [' ', '5'], rfl, hspace, ?_, rfl, ?_⟩, .inl rfl⟩
    · simp [isBlank, blankRanges, inRanges]
    · simp [Command.continuations]
  · intro h
    obtain ⟨-, hempty | hclears⟩ := (commands_recognised runtime _ " exit 5").1.mp h
    · cases hempty
    · exact absurd hclears (by decide)
  · obtain ⟨-, -, -, hname, -⟩ := commands_recognised runtime {} "exit (5)"
    exact hname .exit [' '] '(' ['5', ')'] hspace (by decide) rfl

end Console

end PromptLoop
