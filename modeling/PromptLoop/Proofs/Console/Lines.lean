import PromptLoop.Proofs.Console.Buffer

/-!
# What a console does with a line

A line either goes to the unfinished statement or is handled aside from it. What happens to the
unfinished statement then is a matter of what its lines compile to.

## Main definitions

* `Console.AddsTo`: a line that goes to the unfinished statement
* `Console.source`: the text of the lines of a statement
* `Console.answer`: what a session makes of a command
* `Console.Completes`: a line that completes a statement
* `Console.settle`: what follows once a statement was run
* `Console.exitRecord`: what is logged of an exit

## Main results

* `Console.evalLine_of_addsTo`, `Console.evalLine_of_not_addsTo`: where a line goes
* `Console.evalLine_of_recognise`: what becomes of a command
* `Console.take_apply`: what becomes of a line that goes to the unfinished statement
* `Console.recover_cases`: what a failed statement comes to
* `Console.runStatement_apply`, `Console.evalLine_of_completes`: what becomes of a statement
* `Console.evalLine_of_ok`, `Console.evalLine_buffer`: what is left of a line that was handled
-/

namespace PromptLoop.Console

open Text

variable {π : Type} {runtime : Runtime π} {c : Console} {line : String} {lines : List String}

/-- The text of the lines of a statement. -/
def source (lines : List String) : String := "\n".intercalate lines

/-- A console with another line at the end of the unfinished statement. -/
def add (line : String) (c : Console) : Console := { c with buffer := c.buffer ++ [line] }

/-- A line that starts no statement: it is blank or a command. -/
def isAside (line : String) : Bool :=
  (trim line.toList).isEmpty || (Command.recognise line).isSome

/-- A line that goes to the unfinished statement with the lines given: it does not discard them, and
as the first line it starts a statement. -/
def AddsTo (lines : List String) (line : String) : Prop :=
  isClearing line = false ∧ (lines = [] → isAside line = false)

instance (lines : List String) (line : String) : Decidable (AddsTo lines line) :=
  inferInstanceAs (Decidable (_ ∧ _))

/-! ## Where a line goes -/

theorem isAside_of_isClearing (h : isClearing line = true) : isAside line = true := by
  rw [isAside, recognise_of_isClearing h]
  exact Bool.or_true _

/-- Where nothing is unfinished, a line that is recognised as a command is handled aside. -/
theorem not_addsTo_of_recognise {command : Command} {argument : String}
    (hline : Command.recognise line = some (command, argument)) (hempty : c.buffer = []) :
    ¬AddsTo c.buffer line := by
  rintro ⟨-, hfirst⟩
  have haside := hfirst hempty
  rw [isAside, hline] at haside
  exact Bool.false_ne_true (haside.symm.trans (Bool.or_true _))

/-- A line that is not added is handled where commands count. -/
theorem counts_of_not_addsTo (h : ¬AddsTo c.buffer line) :
    (c.buffer.isEmpty || isClearing line) = true ∧ isAside line = true := by
  rw [Bool.or_eq_true, List.isEmpty_iff]
  by_cases hclear : isClearing line = true
  · exact ⟨.inr hclear, isAside_of_isClearing hclear⟩
  · rw [Bool.not_eq_true] at hclear
    -- The line does not discard, so it starts nothing where nothing is unfinished.
    have hfirst : ¬(c.buffer = [] → isAside line = false) := fun hfirst => h ⟨hclear, hfirst⟩
    rw [Classical.not_imp, Bool.not_eq_false] at hfirst
    exact ⟨.inl hfirst.1, hfirst.2⟩

theorem dispatch_of_isAside_eq_false (h : isAside line = false) :
    dispatch runtime line c = ⟨.ok none, c, []⟩ := by
  rw [isAside, Bool.or_eq_false_iff, Option.isSome_eq_false_iff, Option.isNone_iff_eq_none] at h
  exact dispatch_of_not_recognised h.2

/-- A command is answered, unless it fails. -/
theorem dispatch_ne_none (h : (Command.recognise line).isSome = true) :
    (dispatch runtime line c).result ≠ .ok none := by
  obtain ⟨⟨command, argument⟩, hline⟩ := Option.isSome_iff_exists.mp h
  intro hnone
  rw [dispatch_of_recognise hline] at hnone
  rcases hperform : command.perform runtime argument c with ⟨f | (complaint | reply), d, es⟩
  all_goals
    rw [hperform] at hnone
    cases hnone

/-- **A line that goes to the unfinished statement.** -/
theorem evalLine_of_addsTo (h : AddsTo c.buffer line) :
    evalLine runtime line c = take runtime line c := by
  obtain ⟨hclear, hfirst⟩ := h
  have htake : continueWith runtime line c = take runtime line c := by
    rw [continueWith, Act.bind_apply, Act.current_apply, Run.andThen_ok, Run.after_nil, if_neg]
    intro hblank
    rw [Bool.and_eq_true, List.isEmpty_iff] at hblank
    have haside := hfirst hblank.1
    rw [isAside, hblank.2] at haside
    cases haside
  rw [evalLine, Act.bind_apply, Act.current_apply, Run.andThen_ok, Run.after_nil]
  by_cases hcounts : (c.buffer.isEmpty || isClearing line) = true
  · rw [if_pos hcounts]
    rw [hclear, Bool.or_false, List.isEmpty_iff] at hcounts
    rw [Act.bind_apply, dispatch_of_isAside_eq_false (hfirst hcounts), Run.andThen_ok,
      Run.after_nil]
    exact htake
  · rw [if_neg hcounts]
    exact htake

/-- The verdict on a line that is handled aside. -/
def verdictOn (reply? : Option Reply) : Verdict Failure := (reply?.map verdictOf).getD .proceed

/-- **A line that does not is handled aside**: it is blank or a command. -/
theorem evalLine_of_not_addsTo (h : ¬AddsTo c.buffer line) :
    evalLine runtime line c = (verdictOn <$> dispatch runtime line) c := by
  obtain ⟨hcounts, haside⟩ := counts_of_not_addsTo h
  rw [evalLine, Act.bind_apply, Act.current_apply, Run.andThen_ok, Run.after_nil, if_pos hcounts,
    Act.bind_apply, Act.map_apply]
  rcases hdispatch : dispatch runtime line c with ⟨f | (_ | reply), d, es⟩
  · rfl
  · have hnone : (dispatch runtime line c).result = .ok none := by rw [hdispatch]
    obtain ⟨-, rfl, rfl⟩ := Run.mk.inj (hdispatch.symm.trans (dispatch_none hnone))
    -- The line is no command, so it is blank, and it does not discard.
    have hrecognise : (Command.recognise line).isSome = false := by
      rw [← Bool.not_eq_true]
      exact fun hsome => dispatch_ne_none hsome hnone
    have hblank : (trim line.toList).isEmpty = true := by
      rwa [isAside, hrecognise, Bool.or_false] at haside
    have hempty : d.buffer.isEmpty = true := by
      rw [Bool.or_eq_true] at hcounts
      refine hcounts.resolve_right fun hclear => ?_
      rw [recognise_of_isClearing hclear] at hrecognise
      cases hrecognise
    show (continueWith runtime line d).after [] = _
    rw [continueWith, Act.bind_apply, Act.current_apply, Run.andThen_ok, Run.after_nil, if_pos]
    · rfl
    · rw [hempty, hblank]
      rfl
  · rw [Run.andThen_ok]
    exact congrArg (Run.mk _ _) (List.append_nil es)

/-! ## What becomes of a command -/

/-- What a session makes of what follows once a command was performed. -/
def answer (result : Command.Result) : Act Notice Console (Verdict Failure) :=
  verdictOn <$> respond result

/-- **A line that is handled as a command performs it**, and answers as the command does. -/
theorem evalLine_of_recognise {command : Command} {argument : String}
    (hadds : ¬AddsTo c.buffer line) (hline : Command.recognise line = some (command, argument)) :
    evalLine runtime line c =
      ((command.perform runtime argument c).andThen answer).after
        [commandRecord command argument] := by
  rw [evalLine_of_not_addsTo hadds, Act.map_apply, dispatch_of_recognise hline]
  rcases command.perform runtime argument c with ⟨f | (complaint | reply), d, es⟩ <;> rfl

/-! ## What becomes of a line that is added -/

/-- What becomes of a refusal: the failure is kept, and told of if it can be written. -/
theorem refuse_apply (g : Failure) (c : Console) :
    refuse g c = ⟨(inWriting (refusalLine? g)).map fun _ => (), { c with lastFailure := some g },
      (refusalLine? g).toList.map fun line =>
        .diagnostic (String.ofList (trimEnd line.toList))⟩ := by
  rw [refuse, Act.bind_apply, Act.change_apply, Run.andThen_ok, Run.after_nil, Act.bind_apply,
    Act.ofExcept_apply]
  cases refusalLine? g <;> rfl

theorem take_apply (line : String) (c : Console) :
    take runtime line c =
      match runtime.compile (source (c.buffer ++ [line])) with
      | .error f =>
        if f.isAny refusals then ((fun _ => .proceed) <$> refuse f : Act _ _ _) c.discard
        else ⟨.error f, c.add line, []⟩
      | .ok none => ⟨.ok .proceed, c.add line, []⟩
      | .ok (some statement) => runStatement runtime statement (accept (c.add line)) := by
  rw [take, Act.bind_apply, Act.change_apply, Run.andThen_ok, Run.after_nil, Act.bind_apply,
    Act.current_apply, Run.andThen_ok, Run.after_nil]
  show (match runtime.compile (source (c.buffer ++ [line])) with
    | .error f => _
    | .ok none => _
    | .ok (some statement) => _ : Act Notice Console (Verdict Failure)) (c.add line) = _
  rcases runtime.compile (source (c.buffer ++ [line])) with f | (_ | statement)
  · by_cases hrefused : f.isAny refusals = true
    · simp only [if_pos hrefused]
      rfl
    · simp only [if_neg hrefused]
      rfl
  · rfl
  · rfl

/-! ## What becomes of a statement -/

/-- What follows once a statement was run: it has come to its end, or failed. -/
def settle : Except Failure Ending → Act Notice Console (Verdict Failure)
  | .ok ending => conclude ending
  | .error f => recover f

/-- The record of an exit, unless its code cannot be written. -/
def exitRecord (code : Value) : List Notice :=
  Notice.log? .debug Log.consoleChannel (code.literal?.map ("user_exit: code=" ++ ·))

theorem leaveWith_apply (code : Value) (c : Console) :
    leaveWith code c = ⟨.ok (.stop code), c, exitRecord code⟩ := by
  rw [leaveWith, Act.bind_apply, Act.emit_apply, Run.andThen_ok, exitRecord]
  exact congrArg (Run.mk _ c) (List.append_nil _)

/-- **What a failed statement comes to.** An exit stops the session, an interrupt is told and no
more, and any other failure that programs are expected to handle is kept and shown. -/
theorem recover_cases (f : Failure) (c : Console) :
    (f.isA .systemExit = true ∧ f.isA .exception = false ∧
      recover f c = ⟨.ok (.stop (exitCode f)), c, exitRecord (exitCode f)⟩) ∨
    (f.isA .keyboardInterrupt = true ∧ f.isA .exception = false ∧
      recover f c = ⟨.ok .proceed, c, [.diagnostic "KeyboardInterrupt"]⟩) ∨
    (f.isA .exception = true ∧
      recover f c = ⟨.ok .proceed,
        { c with lastFailure := some f, scope := c.scope.bind failureName (.failure f) },
        [.wrote (.traceback f)]⟩) ∨
    (f.isA .systemExit = false ∧ f.isA .keyboardInterrupt = false ∧ f.isA .exception = false ∧
      recover f c = ⟨.error f, c, []⟩) := by
  -- The handlers are tried in another order than this, which makes no difference: the classes that
  -- they are for have no subclass in common.
  by_cases hordinary : f.isA .exception = true
  · have hexit : f.isA .systemExit = false := FailureKind.not_exit_of_isOrdinary hordinary
    have hinterrupt : f.isA .keyboardInterrupt = false :=
      FailureKind.not_interrupt_of_isOrdinary hordinary
    refine .inr (.inr (.inl ⟨hordinary, ?_⟩))
    rw [recover, hexit, hinterrupt, if_neg Bool.false_ne_true, if_neg Bool.false_ne_true,
      if_pos hordinary]
    rfl
  by_cases hexit : f.isA .systemExit = true
  · refine .inl ⟨hexit, Bool.eq_false_iff.mpr hordinary, ?_⟩
    rw [recover, if_pos hexit, leaveWith_apply]
  by_cases hinterrupt : f.isA .keyboardInterrupt = true
  · refine .inr (.inl ⟨hinterrupt, Bool.eq_false_iff.mpr hordinary, ?_⟩)
    rw [recover, if_neg hexit, if_pos hinterrupt]
    rfl
  · rw [Bool.not_eq_true] at hordinary hexit hinterrupt
    refine .inr (.inr (.inr ⟨hexit, hinterrupt, hordinary, ?_⟩))
    rw [recover, hexit, hinterrupt, hordinary, if_neg Bool.false_ne_true,
      if_neg Bool.false_ne_true, if_neg Bool.false_ne_true]
    rfl

/-- **A statement is run on the names bound so far**, and what follows is settled on those that it
leaves, even if it fails. -/
theorem runStatement_apply (statement : π) (c : Console) :
    runStatement runtime statement c =
      let run := runtime.exec echo statement c.scope
      (settle run.result { c with scope := run.state }).after run.events := by
  rw [runStatement, Act.rescue_apply, Act.bind_apply, execute, Act.within_apply, List.map_id]
  rcases runtime.exec echo statement c.scope with ⟨f | (_ | code), scope, es⟩ <;> rfl

/-- A line that completes a statement. -/
def Completes (runtime : Runtime π) (c : Console) (line : String) (statement : π) : Prop :=
  AddsTo c.buffer line ∧
    runtime.compile (source (c.buffer ++ [line])) = .ok (some statement)

/-- The console once the statement was run that a line completes. -/
def ran (runtime : Runtime π) (line : String) (statement : π) (c : Console) : Console :=
  { accept (c.add line) with scope := (runtime.exec echo statement c.scope).state }

/-- **A line that completes a statement runs it.** -/
theorem evalLine_of_completes {statement : π} (h : Completes runtime c line statement) :
    evalLine runtime line c =
      (settle (runtime.exec echo statement c.scope).result (c.ran runtime line statement)).after
        (runtime.exec echo statement c.scope).events := by
  obtain ⟨hadds, hcompile⟩ := h
  rw [evalLine_of_addsTo hadds, take_apply, hcompile]
  exact runStatement_apply statement (accept (c.add line))

/-! ## What is left of a line -/

/-- A line that has a verdict has left the buffer, or waits in it for more. -/
theorem evalLine_of_ok {verdict : Verdict Failure}
    (h : (evalLine runtime line c).result = .ok verdict) :
    (evalLine runtime line c).state.buffer = [] ∨
      (evalLine runtime line c).state = c.add line ∧
        runtime.compile (source (c.buffer ++ [line])) = .ok none := by
  by_cases hadds : AddsTo c.buffer line
  · rw [evalLine_of_addsTo hadds, take_apply] at h ⊢
    rcases hcompile : runtime.compile (source (c.buffer ++ [line])) with f | (_ | statement)
    · rw [hcompile] at h
      by_cases hrefused : f.isAny refusals = true
      · simp only [if_pos hrefused]
        rw [Act.map_apply]
        exact .inl (congrArg Prod.fst (refuse_keeps f c.discard))
      · simp only [if_neg hrefused] at h
        cases h
    · exact .inr ⟨rfl, rfl⟩
    · exact .inl (congrArg Prod.fst (runStatement_keeps statement (accept (c.add line))))
  · -- What is handled aside leaves nothing unfinished.
    obtain ⟨hcounts, -⟩ := counts_of_not_addsTo hadds
    rw [Bool.or_eq_true, List.isEmpty_iff] at hcounts
    rw [evalLine_of_not_addsTo hadds, Act.map_apply]
    exact .inl (congrArg Console.buffer (dispatch_state hcounts))

/-- A line that a console has taken is the last of the buffer, or the buffer is empty. -/
def Holds (buffer : List String) (line : String) (c : Console) : Prop :=
  c.buffer = [] ∨ c.buffer = buffer ++ [line]

/-- **A line that was handled is the last of the buffer, or the buffer is empty.** -/
theorem evalLine_buffer {verdict : Verdict Failure}
    (h : (evalLine runtime line c).result = .ok verdict) :
    Holds c.buffer line (evalLine runtime line c).state := by
  rcases evalLine_of_ok h with hempty | ⟨hadd, -⟩
  · exact .inl hempty
  · rw [hadd]
    exact .inr rfl

end PromptLoop.Console
