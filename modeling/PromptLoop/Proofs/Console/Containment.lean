import PromptLoop.Proofs.Console.Lines

/-!
# What a console does not contain

A console answers a line with a verdict and keeps the failures of what was typed to itself. Few
failures get past it. What programs are not expected to handle is let through on purpose. Apart from
that, the compiler may fail without refusing the statement, and a class may be raised that cannot be
raised alone. And where a console would tell of a failure, it must be possible to write what the
failure says.

## Main definitions

* `Console.CompilerFails`, `Console.ClassFails`: two ways in which ordinary failures get past
* `Console.RefusalUntold`, `Console.ArgumentUntold`: a failure that would be told of cannot be
* `Console.StatementFails`, `Console.ArgumentFails`: how other failures are let through
* `Console.Escapes`: an ordinary failure gets past
* `Console.Runtime.Ordinary`: a runtime whose failures are ordinary
* `Console.Settled`: nothing is unfinished, or only a statement that may go on

## Main results

* `Command.perform_eq_error_iff`: how a command fails
* `Console.evalLine_eq_error_iff`: what gets past a console
* `Console.eval_settled`: a line that has a verdict leaves nothing half done
* `Console.eval_eq_error_iff`: what gets past it if the failures of its runtime are ordinary
-/

namespace PromptLoop

open Text

variable {π : Type} {runtime : Console.Runtime π} {c : Console} {f : Failure}

/-! ## Commands that fail -/

namespace Command

variable {command : Command} {argument : String}

/-- A command that takes an expression. -/
def takesExpression : Command → Bool
  | .exit | .quit | .raiseUp => true
  | .help | .history | .clear => false

/-- An argument fails to have a value, with what programs are not expected to handle. -/
def Unvalued (runtime : Console.Runtime π) (c : Console) (argument : String) (f : Failure) : Prop :=
  argument ≠ "" ∧ runtime.evaluate argument c.scope = .error f ∧ f.isA .exception = false

/-- An argument fails to have a value, and the complaint of that cannot be written. -/
def Untold (runtime : Console.Runtime π) (c : Console) (argument : String) (g : Failure) : Prop :=
  argument ≠ "" ∧ runtime.evaluate argument c.scope = .error g ∧ g.isA .exception = true ∧
    g.text? = none

/-- An argument has neither a value nor a complaint. -/
def Unanswered (runtime : Console.Runtime π) (c : Console) (argument : String) (f : Failure) :
    Prop :=
  Unvalued runtime c argument f ∨ f = tooManyDigits ∧ ∃ g, Untold runtime c argument g

/-- An argument is a class that cannot be raised alone. -/
def Unraisable (runtime : Console.Runtime π) (c : Console) (argument : String) (f : Failure) :
    Prop :=
  argument ≠ "" ∧ ∃ kind, runtime.evaluate argument c.scope = .ok (.failureClass kind) ∧
    Failure.ofKind kind = .error f

/-- A class that cannot be raised alone is a fault that programs are expected to handle. -/
theorem ordinary_of_ofKind {kind : FailureKind} (h : Failure.ofKind kind = .error f) :
    f.isA .exception = true := by
  rw [Failure.ofKind] at h
  cases harguments : Failure.requiredArguments kind with
  | none =>
    rw [harguments] at h
    cases h
  | some fault =>
    rw [harguments] at h
    obtain rfl := Except.error.inj h
    rfl

theorem failureOf_eq_error_iff {v : Value} :
    failureOf v = .error f ↔ ∃ kind, v = .failureClass kind ∧ Failure.ofKind kind = .error f := by
  constructor
  · intro h
    cases v with
    | failureClass kind =>
      refine ⟨kind, rfl, ?_⟩
      rw [failureOf] at h
      cases hkind : Failure.ofKind kind with
      | error g =>
        rw [hkind] at h
        exact congrArg Except.error (Except.error.inj h)
      | ok g =>
        rw [hkind] at h
        cases h
    | _ => cases h
  · rintro ⟨kind, rfl, h⟩
    rw [failureOf, h]
    rfl

theorem valueOf_result (expression : String) (c : Console) :
    (valueOf runtime expression c).result =
      match runtime.evaluate expression c.scope with
      | .ok v => .ok (.ok v)
      | .error f =>
        if f.isA .exception then
          (inWriting f.summary?).map fun summary => .error (.notEvaluated expression summary)
        else .error f := by
  rw [valueOf, Act.bind_apply, Act.current_apply, Run.andThen_ok, Run.after_result]
  rcases runtime.evaluate expression c.scope with f | v
  · by_cases hf : f.isA .exception = true
    · simp only [if_pos hf]
      cases f.summary? <;> rfl
    · simp only [if_neg hf]
      rfl
  · rfl

theorem valueOf_eq_ok_iff {expression : String} {v : Value} :
    (valueOf runtime expression c).result = .ok (.ok v) ↔
      runtime.evaluate expression c.scope = .ok v := by
  rw [valueOf_result]
  rcases runtime.evaluate expression c.scope with f | w
  · refine iff_of_false ?_ nofun
    by_cases hf : f.isA .exception = true
    · simp only [if_pos hf]
      cases f.summary? <;> exact nofun
    · simp only [if_neg hf]
      exact nofun
  · constructor
    · intro h
      rw [Except.ok.inj (Except.ok.inj h)]
    · intro h
      rw [Except.ok.inj h]

theorem Unanswered.ne_empty (h : Unanswered runtime c argument f) : argument ≠ "" := by
  rcases h with h | ⟨-, g, h⟩
  · exact h.1
  · exact h.1

/-- **An expression has no answer** if what it fails with is let through, or cannot be written. -/
theorem valueOf_eq_error_iff (hne : argument ≠ "") :
    (valueOf runtime argument c).result = .error f ↔ Unanswered runtime c argument f := by
  rw [valueOf_result, Unanswered, Unvalued]
  simp only [Untold]
  rcases runtime.evaluate argument c.scope with g | v
  · by_cases hg : g.isA .exception = true
    · -- What passes then is what is raised in the place of a complaint.
      simp only [if_pos hg]
      rw [inWriting_map_eq_error_iff, Failure.summary?, Option.map_eq_none_iff]
      constructor
      · rintro ⟨hf, htext⟩
        exact .inr ⟨hf, g, hne, rfl, hg, htext⟩
      · rintro (⟨-, h, hf⟩ | ⟨hf, other, -, h, -, hother⟩)
        · rw [Except.error.inj h, hf] at hg
          cases hg
        · rw [← Except.error.inj h] at hother
          exact ⟨hf, hother⟩
    · simp only [if_neg hg]
      constructor
      · intro h
        obtain rfl := Except.error.inj h
        exact .inl ⟨hne, rfl, Bool.eq_false_iff.mpr hg⟩
      · rintro (⟨-, h, -⟩ | ⟨-, other, -, h, hother, -⟩)
        · exact congrArg Except.error (Except.error.inj h)
        · rw [Except.error.inj h] at hg
          exact absurd hother hg
  · refine iff_of_false nofun ?_
    rintro (⟨-, h, -⟩ | ⟨-, g, -, h, -⟩) <;> cases h

theorem leave_eq_error_iff :
    (leave runtime argument c).result = .error f ↔ Unanswered runtime c argument f := by
  rw [leave]
  by_cases hempty : argument = ""
  · rw [if_pos hempty]
    exact iff_of_false nofun fun h => h.ne_empty hempty
  · rw [if_neg hempty, Act.bind_eq_error_iff, valueOf_eq_error_iff hempty]
    constructor
    · rintro (hvalue | ⟨answer, -, h⟩)
      · exact hvalue
      · cases answer <;> cases h
    · exact .inl

theorem raising_eq_error_iff :
    (raising runtime argument c).result = .error f ↔
      Unanswered runtime c argument f ∨ Unraisable runtime c argument f := by
  rw [raising]
  by_cases hempty : argument = ""
  · rw [if_pos hempty]
    refine iff_of_false ?_ ?_
    · rw [Act.bind_apply, Act.current_apply, Run.andThen_ok]
      cases c.lastFailure <;> exact nofun
    · rintro (h | h)
      · exact h.ne_empty hempty
      · exact h.1 hempty
  · rw [if_neg hempty, Act.bind_eq_error_iff, valueOf_eq_error_iff hempty]
    constructor
    · rintro (hvalue | ⟨answer, hanswer, h⟩)
      · exact .inl hvalue
      · rcases answer with complaint | v
        · cases h
        · -- The argument has a value, but no failure can be made of it.
          rw [Act.bind_eq_error_iff, Act.ofExcept_apply, failureOf_eq_error_iff] at h
          rcases h with ⟨kind, rfl, hkind⟩ | ⟨made, -, h⟩
          · exact .inr ⟨hempty, kind, valueOf_eq_ok_iff.mp hanswer, hkind⟩
          · cases h
    · rintro (h | ⟨-, kind, hvalue, hkind⟩)
      · exact .inl h
      · refine .inr ⟨.ok (.failureClass kind), valueOf_eq_ok_iff.mpr hvalue, ?_⟩
        rw [Act.bind_eq_error_iff, Act.ofExcept_apply, failureOf_eq_error_iff]
        exact .inl ⟨kind, rfl, hkind⟩

theorem perform_ne_error (h : command.takesExpression = false) :
    (command.perform runtime argument c).result ≠ .error f := by
  cases command with
  | help => exact nofun
  | clear => exact nofun
  | history =>
    show (list argument c).result ≠ .error f
    rw [list, Act.bind_apply, Act.current_apply, Run.andThen_ok, Run.after_result]
    by_cases hempty : argument = ""
    · rw [if_pos hempty]
      exact nofun
    · rw [if_neg hempty]
      cases integer? argument <;> exact nofun
  | exit => cases h
  | quit => cases h
  | raiseUp => cases h

/-- **How a command fails**: the expression that it takes has no answer, or is not to be raised. -/
theorem perform_eq_error_iff :
    (command.perform runtime argument c).result = .error f ↔
      (command.takesExpression = true ∧ Unanswered runtime c argument f) ∨
        (command = .raiseUp ∧ Unraisable runtime c argument f) := by
  by_cases htakes : command.takesExpression = true
  · cases command with
    | exit => exact leave_eq_error_iff.trans (by simp [takesExpression])
    | quit => exact leave_eq_error_iff.trans (by simp [takesExpression])
    | raiseUp => exact raising_eq_error_iff.trans (by simp [takesExpression])
    | _ => cases htakes
  · refine iff_of_false (perform_ne_error (Bool.eq_false_iff.mpr htakes)) ?_
    rintro (⟨h, -⟩ | ⟨rfl, -⟩)
    · exact htakes h
    · exact htakes rfl

end Command

namespace Console

variable {line : String} {command : Command} {argument : String}

/-! ## Statements that fail -/

/-- Classes of failures that a statement may fail with and be done. -/
def recoverable : List FailureKind := [.systemExit, .keyboardInterrupt, .exception]

theorem recover_eq_error_iff {g : Failure} :
    (recover g c).result = .error f ↔ g = f ∧ g.isAny recoverable = false := by
  have hclasses : g.isAny recoverable =
      (g.isA .systemExit || (g.isA .keyboardInterrupt || (g.isA .exception || false))) := rfl
  rw [hclasses]
  rcases recover_cases g c with ⟨hexit, -, hrun⟩ | ⟨hinterrupt, -, hrun⟩ | ⟨hordinary, hrun⟩ |
    ⟨hexit, hinterrupt, hordinary, hrun⟩
  · rw [hrun, hexit]
    exact iff_of_false nofun nofun
  · rw [hrun, hinterrupt, Bool.true_or, Bool.or_true]
    exact iff_of_false nofun nofun
  · rw [hrun, hordinary, Bool.true_or, Bool.or_true, Bool.or_true]
    exact iff_of_false nofun nofun
  · rw [hrun, hexit, hinterrupt, hordinary]
    constructor
    · intro h
      exact ⟨Except.error.inj h, rfl⟩
    · rintro ⟨rfl, -⟩
      rfl

theorem runStatement_eq_error_iff {statement : π} :
    (runStatement runtime statement c).result = .error f ↔
      (runtime.exec echo statement c.scope).result = .error f ∧ f.isAny recoverable = false := by
  rw [runStatement_apply]
  rcases runtime.exec echo statement c.scope with ⟨g | ending, scope, es⟩
  · -- The handler is for every failure, and raises again what it does not recover from.
    show (recover g _).result = .error f ↔ _
    rw [recover_eq_error_iff]
    constructor
    · rintro ⟨rfl, hg⟩
      exact ⟨rfl, hg⟩
    · rintro ⟨h, hf⟩
      obtain rfl := Except.error.inj h
      exact ⟨rfl, hf⟩
  · constructor
    · intro h
      cases ending <;> cases h
    · rintro ⟨h, -⟩
      cases h

/-! ## What gets past a console -/

/-- The compiler fails on the statement that a line is added to, without refusing it. -/
structure CompilerFails (runtime : Runtime π) (c : Console) (line : String) (f : Failure) :
    Prop where
  adds : AddsTo c.buffer line
  fails : runtime.compile (source (c.buffer ++ [line])) = .error f
  not_refused : f.isAny refusals = false

/-- The statement that a line is added to is refused, and the refusal cannot be written. -/
structure RefusalUntold (runtime : Runtime π) (c : Console) (line : String) (g : Failure) :
    Prop where
  adds : AddsTo c.buffer line
  fails : runtime.compile (source (c.buffer ++ [line])) = .error g
  refused : g.isAny refusals = true
  untold : refusalLine? g = none

/-- The statement that a line completes fails with what is not recovered from. -/
def StatementFails (runtime : Runtime π) (c : Console) (line : String) (f : Failure) : Prop :=
  AddsTo c.buffer line ∧ ∃ statement,
    runtime.compile (source (c.buffer ++ [line])) = .ok (some statement) ∧
      (runtime.exec echo statement c.scope).result = .error f ∧ f.isAny recoverable = false

/-- The expression that a command takes fails with what programs are not expected to handle. -/
def ArgumentFails (runtime : Runtime π) (c : Console) (line : String) (f : Failure) : Prop :=
  c.buffer = [] ∧ ∃ command argument, Command.recognise line = some (command, argument) ∧
    command.takesExpression = true ∧ Command.Unvalued runtime c argument f

/-- The expression that a command takes has no value, and the complaint of that cannot be
written. -/
def ArgumentUntold (runtime : Runtime π) (c : Console) (line : String) (g : Failure) : Prop :=
  c.buffer = [] ∧ ∃ command argument, Command.recognise line = some (command, argument) ∧
    command.takesExpression = true ∧ Command.Untold runtime c argument g

/-- What is raised where a console would tell of a failure that cannot be written. -/
def Untold (runtime : Runtime π) (c : Console) (line : String) (f : Failure) : Prop :=
  f = tooManyDigits ∧ ∃ g, RefusalUntold runtime c line g ∨ ArgumentUntold runtime c line g

/-- A class is to be raised that cannot be raised alone. -/
def ClassFails (runtime : Runtime π) (c : Console) (line : String) (f : Failure) : Prop :=
  c.buffer = [] ∧ ∃ argument, Command.recognise line = some (.raiseUp, argument) ∧
    Command.Unraisable runtime c argument f

/-- A statement that is refused fails just if the refusal cannot be told of. -/
theorem take_eq_error_iff_of_refused {g : Failure}
    (hcompile : runtime.compile (source (c.buffer ++ [line])) = .error g)
    (hrefused : g.isAny refusals = true) :
    (take runtime line c).result = .error f ↔ f = tooManyDigits ∧ refusalLine? g = none := by
  rw [take_apply, hcompile]
  simp only [if_pos hrefused]
  rw [Act.map_eq_error_iff, refuse_apply, inWriting_map_eq_error_iff]

theorem take_eq_error_iff (h : AddsTo c.buffer line) :
    (take runtime line c).result = .error f ↔
      (CompilerFails runtime c line f ∨ StatementFails runtime c line f) ∨
        f = tooManyDigits ∧ ∃ g, RefusalUntold runtime c line g := by
  -- The verdict of the compiler on the line rules out all cases of the right-hand side but one.
  rcases hcompile : runtime.compile (source (c.buffer ++ [line])) with g | (_ | statement)
  · by_cases hrefused : g.isAny refusals = true
    · have hnot : ¬(CompilerFails runtime c line f ∨ StatementFails runtime c line f) := by
        rintro (⟨-, hfails, hf⟩ | ⟨-, statement, hstatement, -⟩)
        · obtain rfl := Except.error.inj (hcompile.symm.trans hfails)
          exact Bool.false_ne_true (hf.symm.trans hrefused)
        · cases hcompile.symm.trans hstatement
      rw [take_eq_error_iff_of_refused hcompile hrefused, or_iff_right hnot]
      constructor
      · rintro ⟨hf, hline⟩
        exact ⟨hf, g, h, hcompile, hrefused, hline⟩
      · rintro ⟨hf, other, -, hfails, -, huntold⟩
        obtain rfl := Except.error.inj (hcompile.symm.trans hfails)
        exact ⟨hf, huntold⟩
    · rw [take_apply, hcompile]
      simp only [if_neg hrefused]
      constructor
      · intro herror
        obtain rfl := Except.error.inj herror
        exact .inl (.inl ⟨h, hcompile, Bool.eq_false_iff.mpr hrefused⟩)
      · rintro ((⟨-, hfails, -⟩ | ⟨-, statement, hstatement, -⟩) | ⟨-, other, -, hfails, hother, -⟩)
        · exact congrArg Except.error (Except.error.inj (hcompile.symm.trans hfails))
        · cases hcompile.symm.trans hstatement
        · obtain rfl := Except.error.inj (hcompile.symm.trans hfails)
          exact absurd hother hrefused
  · rw [take_apply, hcompile]
    refine iff_of_false nofun ?_
    rintro ((⟨-, hfails, -⟩ | ⟨-, statement, hstatement, -⟩) | ⟨-, other, -, hfails, -⟩)
    · cases hcompile.symm.trans hfails
    · cases hcompile.symm.trans hstatement
    · cases hcompile.symm.trans hfails
  · rw [take_apply, hcompile]
    show (runStatement runtime statement (accept (c.add line))).result = .error f ↔ _
    rw [runStatement_eq_error_iff]
    constructor
    · intro hfails
      exact .inl (.inr ⟨h, statement, hcompile, hfails⟩)
    · rintro ((⟨-, hfails, -⟩ | ⟨-, other, hother, hfails⟩) | ⟨-, other, -, hfails, -⟩)
      · cases hcompile.symm.trans hfails
      · obtain rfl := Option.some.inj (Except.ok.inj (hcompile.symm.trans hother))
        exact hfails
      · cases hcompile.symm.trans hfails

/-- A line handled as a command fails as the command does. -/
theorem dispatch_eq_error_iff :
    (dispatch runtime line c).result = .error f ↔ ∃ command argument,
      Command.recognise line = some (command, argument) ∧
        (command.perform runtime argument c).result = .error f := by
  rcases hline : Command.recognise line with _ | ⟨command, argument⟩
  · rw [dispatch_of_not_recognised hline]
    refine iff_of_false (fun h => ?_) ?_
    · cases h
    · rintro ⟨command, argument, h, -⟩
      cases h
  · -- Beside the command there is nothing that can fail.
    rw [dispatch_of_recognise hline, Run.after_result, ← Act.bind_apply, Act.bind_eq_error_iff]
    constructor
    · rintro (h | ⟨result, -, h⟩)
      · exact ⟨command, argument, rfl, h⟩
      · cases result <;> cases h
    · rintro ⟨_, _, h, hperform⟩
      obtain ⟨rfl, rfl⟩ := Prod.mk.inj (Option.some.inj h)
      exact .inl hperform

/-- A command other than the one that discards is handled aside where nothing is unfinished. -/
theorem addsTo_iff_of_recognise (h : Command.recognise line = some (command, argument))
    (hcommand : command ≠ .clear) : AddsTo c.buffer line ↔ c.buffer ≠ [] := by
  have hclear : isClearing line = false := by
    rw [Bool.eq_false_iff]
    intro hclear
    rw [recognise_of_isClearing hclear] at h
    exact hcommand (Prod.mk.inj (Option.some.inj h)).1.symm
  constructor
  · intro hadds hempty
    exact not_addsTo_of_recognise h hempty hadds
  · intro hne
    exact ⟨hclear, fun hempty => absurd hempty hne⟩

theorem ArgumentFails.not_addsTo (h : ArgumentFails runtime c line f) :
    ¬AddsTo c.buffer line := by
  obtain ⟨hempty, command, argument, hline, -⟩ := h
  exact not_addsTo_of_recognise hline hempty

theorem ClassFails.not_addsTo (h : ClassFails runtime c line f) : ¬AddsTo c.buffer line := by
  obtain ⟨hempty, argument, hline, -⟩ := h
  exact not_addsTo_of_recognise hline hempty

theorem ArgumentUntold.not_addsTo {g : Failure} (h : ArgumentUntold runtime c line g) :
    ¬AddsTo c.buffer line := by
  obtain ⟨hempty, command, argument, hline, -⟩ := h
  exact not_addsTo_of_recognise hline hempty

theorem dispatch_fails_iff (h : ¬AddsTo c.buffer line) :
    (dispatch runtime line c).result = .error f ↔
      (ArgumentFails runtime c line f ∨ ClassFails runtime c line f) ∨
        f = tooManyDigits ∧ ∃ g, ArgumentUntold runtime c line g := by
  -- A line that is no statement and gives any command but one does so on an empty buffer.
  have hempty : ∀ {command argument}, Command.recognise line = some (command, argument) →
      command ≠ .clear → c.buffer = [] := fun hline hcommand =>
    Classical.not_not.mp fun hne => h ((addsTo_iff_of_recognise hline hcommand).mpr hne)
  rw [dispatch_eq_error_iff]
  constructor
  · rintro ⟨command, argument, hline, hperform⟩
    rcases Command.perform_eq_error_iff.mp hperform with ⟨htakes, hfails⟩ | ⟨rfl, hfails⟩
    · have hcommand : command ≠ .clear := by
        rintro rfl
        cases htakes
      rcases hfails with hfails | ⟨hf, g, huntold⟩
      · exact .inl (.inl ⟨hempty hline hcommand, command, argument, hline, htakes, hfails⟩)
      · exact .inr ⟨hf, g, hempty hline hcommand, command, argument, hline, htakes, huntold⟩
    · exact .inl (.inr ⟨hempty hline nofun, argument, hline, hfails⟩)
  · rintro ((⟨-, command, argument, hline, htakes, hfails⟩ | ⟨-, argument, hline, hfails⟩) |
      ⟨hf, g, -, command, argument, hline, htakes, huntold⟩)
    · exact ⟨command, argument, hline,
        Command.perform_eq_error_iff.mpr (.inl ⟨htakes, .inl hfails⟩)⟩
    · exact ⟨.raiseUp, argument, hline, Command.perform_eq_error_iff.mpr (.inr ⟨rfl, hfails⟩)⟩
    · exact ⟨command, argument, hline,
        Command.perform_eq_error_iff.mpr (.inl ⟨htakes, .inr ⟨hf, g, huntold⟩⟩)⟩

/-- **What gets past a console**, whatever its runtime does. -/
theorem evalLine_eq_error_iff :
    (evalLine runtime line c).result = .error f ↔
      (CompilerFails runtime c line f ∨ StatementFails runtime c line f) ∨
        (ArgumentFails runtime c line f ∨ ClassFails runtime c line f) ∨
          Untold runtime c line f := by
  by_cases hadds : AddsTo c.buffer line
  · have hcommand : ¬(ArgumentFails runtime c line f ∨ ClassFails runtime c line f) := by
      rintro (h | h)
      · exact h.not_addsTo hadds
      · exact h.not_addsTo hadds
    have huntold : Untold runtime c line f ↔
        f = tooManyDigits ∧ ∃ g, RefusalUntold runtime c line g :=
      and_congr_right fun _ => exists_congr fun g => or_iff_left fun h => h.not_addsTo hadds
    rw [evalLine_of_addsTo hadds, take_eq_error_iff hadds, or_iff_right hcommand, huntold]
  · have hstatement : ¬(CompilerFails runtime c line f ∨ StatementFails runtime c line f) := by
      rintro (h | h)
      · exact hadds h.adds
      · exact hadds h.1
    have huntold : Untold runtime c line f ↔
        f = tooManyDigits ∧ ∃ g, ArgumentUntold runtime c line g :=
      and_congr_right fun _ => exists_congr fun g => or_iff_right fun h => hadds h.adds
    rw [evalLine_of_not_addsTo hadds, Act.map_eq_error_iff, dispatch_fails_iff hadds,
      or_iff_right hstatement, huntold]

/-! ## What is left behind -/

theorem CompilerFails.state (h : CompilerFails runtime c line f) :
    (evalLine runtime line c).state = c.add line := by
  rw [evalLine_of_addsTo h.adds, take_apply, h.fails]
  simp only [h.not_refused, Bool.false_eq_true, if_false]

/-- A refusal that cannot be told of has dropped the statement all the same, and is kept. -/
theorem RefusalUntold.state {g : Failure} (h : RefusalUntold runtime c line g) :
    (evalLine runtime line c).state = { c.discard with lastFailure := some g } := by
  rw [evalLine_of_addsTo h.adds, take_apply, h.fails]
  simp only [if_pos h.refused]
  rw [Act.map_apply, refuse_apply]

/-- A command that takes an expression leaves the console as it was. -/
theorem evalLine_state_of_takesExpression (hempty : c.buffer = [])
    (hline : Command.recognise line = some (command, argument))
    (htakes : command.takesExpression = true) : (evalLine runtime line c).state = c := by
  have hcommand : command ≠ .clear := by
    rintro rfl
    cases htakes
  have hkeeps : Act.Keeps (id : Console → Console) (dispatch runtime line) := by
    rw [dispatch, hline]
    refine .bind (.emit _) fun _ => .bind (Command.perform_keeps hcommand argument) fun result => ?_
    cases result with
    | ok reply => exact .pure _
    | error complaint => exact .bind (.emit _) fun _ => .pure _
  rw [evalLine_of_not_addsTo (not_addsTo_of_recognise hline hempty), Act.map_apply]
  exact hkeeps c

theorem ClassFails.state (h : ClassFails runtime c line f) :
    (evalLine runtime line c).state = c := by
  obtain ⟨hempty, argument, hline, -⟩ := h
  exact evalLine_state_of_takesExpression hempty hline rfl

theorem ArgumentUntold.state {g : Failure} (h : ArgumentUntold runtime c line g) :
    (evalLine runtime line c).state = c := by
  obtain ⟨hempty, command, argument, hline, htakes, -⟩ := h
  exact evalLine_state_of_takesExpression hempty hline htakes

/-- Nothing is unfinished, or only a statement that may go on. -/
def Settled (runtime : Runtime π) (c : Console) : Prop :=
  c.buffer = [] ∨ runtime.compile c.pending = .ok none

/-- **A line that has a verdict leaves nothing half done.** -/
theorem eval_settled {line? : Option String} {verdict : Verdict Failure}
    (h : (eval runtime line? c).result = .ok verdict) :
    Settled runtime (eval runtime line? c).state := by
  cases line? with
  | none =>
    show Settled runtime (evalEnd c).state
    rw [evalEnd, Act.bind_apply, Act.current_apply, Run.andThen_ok, Run.after_nil]
    by_cases hempty : c.buffer.isEmpty = true
    · rw [if_pos hempty]
      exact .inl (List.isEmpty_iff.mp hempty)
    · rw [if_neg hempty]
      exact .inl rfl
  | some line =>
    rcases evalLine_of_ok h with hempty | ⟨hadd, hcompile⟩
    · exact .inl hempty
    · show Settled runtime (evalLine runtime line c).state
      rw [hadd]
      exact .inr hcompile

/-! ## Runtimes whose failures are ordinary -/

/-- A runtime whose failures are ordinary. -/
structure Runtime.Ordinary (runtime : Runtime π) : Prop where
  compile : ∀ {text f}, runtime.compile text = .error f → f.isA .exception = true
  exec : ∀ {statement scope f}, (runtime.exec echo statement scope).result = .error f →
    f.isA .exception = true
  evaluate : ∀ {expression scope f}, runtime.evaluate expression scope = .error f →
    f.isA .exception = true

/-- An ordinary failure gets past a console. -/
def Escapes (runtime : Runtime π) (c : Console) (line? : Option String) (f : Failure) : Prop :=
  ∃ line, line? = some line ∧
    (CompilerFails runtime c line f ∨ ClassFails runtime c line f ∨ Untold runtime c line f)

variable (h : runtime.Ordinary)

include h

/-- **What gets past a console if the failures of its runtime are ordinary.** -/
theorem eval_eq_error_iff {line? : Option String} :
    (eval runtime line? c).result = .error f ↔ Escapes runtime c line? f := by
  cases line? with
  | none =>
    refine iff_of_false ?_ ?_
    · show (evalEnd c).result ≠ _
      rw [evalEnd, Act.bind_apply, Act.current_apply, Run.andThen_ok, Run.after_result]
      split
      · intro h
        cases h
      · intro h
        cases h
    · rintro ⟨line, hline, -⟩
      cases hline
  | some line =>
    -- Statements and arguments fail with what their handlers are for.
    have hstatement : ¬StatementFails runtime c line f := by
      rintro ⟨-, statement, -, hfails, hf⟩
      have hrecoverable : f.isAny recoverable = true :=
        List.any_eq_true.mpr ⟨.exception, by decide, h.exec hfails⟩
      exact Bool.false_ne_true (hf.symm.trans hrecoverable)
    have hargument : ¬ArgumentFails runtime c line f := by
      rintro ⟨-, command, argument, -, -, -, hfails, hf⟩
      exact Bool.false_ne_true (hf.symm.trans (h.evaluate hfails))
    show (evalLine runtime line c).result = .error f ↔ _
    rw [evalLine_eq_error_iff, or_iff_left hstatement, or_iff_right hargument]
    constructor
    · exact fun hfails => ⟨line, rfl, hfails⟩
    · rintro ⟨_, hline, hfails⟩
      rwa [Option.some.inj hline]

/-- What gets past is a failure that programs are expected to handle. -/
theorem Escapes.isA_exception {line? : Option String} (hf : Escapes runtime c line? f) :
    f.isA .exception = true := by
  obtain ⟨line, -, hfails | ⟨-, argument, -, -, kind, -, hkind⟩ | ⟨rfl, -⟩⟩ := hf
  · exact h.compile hfails.fails
  · exact Command.ordinary_of_ofKind hkind
  · exact tooManyDigits_isOrdinary

end Console

end PromptLoop
