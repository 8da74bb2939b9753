import PromptLoop.Proofs.Console.Containment
import PromptLoop.Proofs.Console.Recognition

/-!
# Code that is broken off

An interrupt and an exit break off the code that a line runs. A console runs code in two places. A
statement that is broken off is answered: an interrupt is reported, and an exit stops the session
with its code. The argument of a command is not: what it is broken off by gets past the console.

## Main definitions

* `Console.breaks`: the classes of failures that break code off

## Main results

* `Console.settle_of_interrupt`, `Console.settle_of_exits`: a statement that is broken off
* `Console.evalLine_of_argumentFails`: an argument that is broken off
* `Console.code_broken_off`: what becomes of a line whose code is broken off
-/

namespace PromptLoop

open Text

namespace Console

variable {π : Type} {runtime : Runtime π} {c : Console} {line : String} {f : Failure}

/-- Classes of failures that break code off, rather than being faults of it. -/
def breaks : List FailureKind := [.keyboardInterrupt, .systemExit]

/-- What breaks code off is no fault of it. -/
theorem not_ordinary_of_breaks (h : f.isAny breaks = true) : f.isA .exception = false := by
  rw [← Bool.not_eq_true]
  intro hordinary
  have hexit : f.isA .systemExit = false := FailureKind.not_exit_of_isOrdinary hordinary
  have hinterrupt : f.isA .keyboardInterrupt = false :=
    FailureKind.not_interrupt_of_isOrdinary hordinary
  change (f.isA .keyboardInterrupt || (f.isA .systemExit || false)) = true at h
  rw [hexit, hinterrupt] at h
  cases h

/-! ## Statements -/

theorem settle_of_interrupt (h : f.isA .keyboardInterrupt = true) (c : Console) :
    settle (.error f) c = ⟨.ok .proceed, c, [.diagnostic "KeyboardInterrupt"]⟩ := by
  have hexit : f.isA .systemExit = false := FailureKind.not_exit_of_interrupt h
  rw [settle, recover, hexit, if_neg Bool.false_ne_true, if_pos h]
  rfl

/-- A statement that exits ends the session, whether it is told to or fails in that way. -/
theorem settle_of_exits {statement : π} {scope : Scope} {code : Value}
    (h : Exits runtime scope statement code) (c : Console) :
    settle (runtime.exec echo statement scope).result c =
      ⟨.ok (.stop code), c, exitRecord code⟩ := by
  rcases h with h | ⟨f, h, hexit, rfl⟩
  · rw [h, settle, conclude, leaveWith_apply]
  · rw [h, settle, recover, if_pos hexit, leaveWith_apply]

/-- **A statement is not left by what breaks it off.** -/
theorem not_statementFails_of_breaks (h : f.isAny breaks = true) :
    ¬StatementFails runtime c line f := by
  rintro ⟨-, statement, -, -, hf⟩
  obtain ⟨kind, hkind, hisA⟩ := List.any_eq_true.mp h
  have hall : ∀ kind ∈ breaks, kind ∈ recoverable := by decide
  have hrecoverable : f.isAny recoverable = true :=
    List.any_eq_true.mpr ⟨kind, hall kind hkind, hisA⟩
  exact Bool.false_ne_true (hf.symm.trans hrecoverable)

/-! ## Arguments -/

/-- A class that cannot be raised alone is a fault. -/
theorem not_classFails_of_breaks (h : f.isAny breaks = true) : ¬ClassFails runtime c line f := by
  rintro ⟨-, argument, -, -, kind, -, hkind⟩
  have hordinary := Command.ordinary_of_ofKind hkind
  exact Bool.false_ne_true ((not_ordinary_of_breaks h).symm.trans hordinary)

/-- What stands in the place of a number is a fault as well. -/
theorem not_untold_of_breaks (h : f.isAny breaks = true) : ¬Untold runtime c line f := by
  rintro ⟨rfl, -⟩
  exact Bool.false_ne_true ((not_ordinary_of_breaks h).symm.trans tooManyDigits_isOrdinary)

/-- **What an argument is broken off by gets past the console**, which is left as it was. Nothing is
shown of it. -/
theorem evalLine_of_argumentFails {command : Command} {argument : String}
    (hline : Command.recognise line = some (command, argument))
    (h : ArgumentFails runtime c line f) :
    evalLine runtime line c = ⟨.error f, c, [commandRecord command argument]⟩ := by
  rw [evalLine_of_recognise h.not_addsTo hline]
  obtain ⟨-, given, text, hgiven, htakes, hempty, hevaluate, hordinary⟩ := h
  obtain ⟨rfl, rfl⟩ := Prod.mk.inj (Option.some.inj (hline.symm.trans hgiven))
  have hvalue : Command.valueOf runtime argument c = ⟨.error f, c, []⟩ := by
    rw [Command.valueOf, Act.bind_apply, Act.current_apply, Run.andThen_ok, Run.after_nil,
      hevaluate]
    simp only [hordinary, Bool.false_eq_true, if_false, Act.raise_apply]
  -- Each of the three commands asks for the value of its argument first.
  have hperform : command.perform runtime argument c = ⟨.error f, c, []⟩ := by
    cases command with
    | exit => rw [Command.perform, Command.leave, if_neg hempty, Act.bind_apply, hvalue]; rfl
    | quit => rw [Command.perform, Command.leave, if_neg hempty, Act.bind_apply, hvalue]; rfl
    | raiseUp => rw [Command.perform, Command.raising, if_neg hempty, Act.bind_apply, hvalue]; rfl
    | _ => cases htakes
  rw [hperform]
  rfl

/-! ## Lines -/

/-- **What becomes of a line whose code is broken off.** Where the line completes a statement, an
interrupt of the statement is reported and the session goes on, and an exit stops the session with
its code. So what breaks code off gets past the console only from the argument of a command, or
from the compiler; and from an argument it always does. -/
theorem code_broken_off (runtime : Runtime π) (c : Console) (line : String) :
    (∀ statement, Completes runtime c line statement →
      let run := runtime.exec echo statement c.scope
      let after := c.ran runtime line statement
      (∀ f, run.result = .error f → f.isA .keyboardInterrupt = true →
        evalLine runtime line c =
          ⟨.ok .proceed, after, run.events ++ [.diagnostic "KeyboardInterrupt"]⟩) ∧
      ∀ code, Exits runtime c.scope statement code →
        evalLine runtime line c = ⟨.ok (.stop code), after, run.events ++ exitRecord code⟩) ∧
    (∀ f, f.isAny breaks = true →
      ((evalLine runtime line c).result = .error f ↔
        CompilerFails runtime c line f ∨ ArgumentFails runtime c line f)) ∧
    ∀ f command argument, ArgumentFails runtime c line f →
      Command.recognise line = some (command, argument) →
        evalLine runtime line c = ⟨.error f, c, [commandRecord command argument]⟩ := by
  refine ⟨fun statement hcompletes => ⟨fun f hfails hinterrupt => ?_, fun code hexits => ?_⟩,
    fun f hf => ?_, fun f command argument hfails hline => evalLine_of_argumentFails hline hfails⟩
  · rw [evalLine_of_completes hcompletes, hfails, settle_of_interrupt hinterrupt]
    rfl
  · rw [evalLine_of_completes hcompletes, settle_of_exits hexits]
    rfl
  · rw [evalLine_eq_error_iff, or_iff_left (not_statementFails_of_breaks hf),
      or_iff_left (not_untold_of_breaks hf), or_iff_left (not_classFails_of_breaks hf)]

/-- Code that is broken off: two statements, and two expressions. -/
def breakable : Rehearsal.Tables where
  programs :=
    [("wait", .complete [.raise (.raised .keyboardInterrupt none)]),
      ("leave", .complete [.exit (.str "c")])]
  expressions :=
    [("w", .error (.raised .keyboardInterrupt none)),
      ("l", .error (.saying .systemExit "c"))]

theorem code_broken_off_breakable :
    (evalLine breakable.runtime "wait" {}).result = .ok .proceed ∧
      (evalLine breakable.runtime "leave" {}).result = .ok (.stop (.str "c")) ∧
      (evalLine breakable.runtime "exit w" {}).result =
        .error (.raised .keyboardInterrupt none) ∧
      (evalLine breakable.runtime "raise-up l" {}).result =
        .error (.saying .systemExit "c") := by
  have hadds : ∀ line ∈ ["wait", "leave"], AddsTo [] line := by
    decide +kernel
  have hwait : Completes breakable.runtime {} "wait" [.raise (.raised .keyboardInterrupt none)] :=
    ⟨hadds _ (by decide), rfl⟩
  have hleave : Completes breakable.runtime {} "leave" [.exit (.str "c")] :=
    ⟨hadds _ (by decide), rfl⟩
  refine ⟨?_, ?_, ?_, ?_⟩
  · rw [((code_broken_off breakable.runtime {} "wait").1 _ hwait).1 _ rfl rfl]
  · rw [((code_broken_off breakable.runtime {} "leave").1 _ hleave).2 _ (.inl rfl)]
  · refine (((code_broken_off breakable.runtime {} "exit w").2.1 _ rfl).mpr (.inr ?_))
    exact ⟨rfl, .exit, "w", by decide +kernel, rfl, by decide, rfl, rfl⟩
  · refine (((code_broken_off breakable.runtime {} "raise-up l").2.1 _ rfl).mpr (.inr ?_))
    exact ⟨rfl, .raiseUp, "l", by decide +kernel, rfl, by decide, rfl, rfl⟩

end Console

end PromptLoop
