import PromptLoop.Proofs.Act.Frame
import PromptLoop.Console.Evaluation

/-!
# The buffer of a console

Running code never touches the buffer, and a command leaves nothing in it.

## Main definitions

* `Console.commandRecord`: what is logged of a command
* `Console.respond`: what follows once a command was performed

## Main results

* `Console.runStatement_keeps`: running a statement leaves the buffer alone
* `Console.dispatch_of_recognise`: a line that is recognised as a command performs it
* `Console.dispatch_state`: where commands count, a command leaves nothing unfinished, and changes
  nothing else
* `Console.evalEnd_buffer`: a wish to end the session that is not granted leaves nothing unfinished
-/

namespace PromptLoop

open Text

variable {π : Type} {runtime : Console.Runtime π}

/-- The lines of the unfinished statement, and the statements that were run. -/
def Console.statements (c : Console) : List String × List String := (c.buffer, c.history)

theorem Console.discard_of_buffer_eq_nil {c : Console} (h : c.buffer = []) : c.discard = c := by
  obtain ⟨scope, history, targets, lastFailure, buffer⟩ := c
  obtain rfl : buffer = [] := h
  rfl

/-! ## What leaves a console alone -/

namespace Command

section Keeps

variable {γ : Type} {part : Console → γ}

theorem valueOf_keeps (expression : String) : Act.Keeps part (valueOf runtime expression) := by
  refine .bind .current fun c => ?_
  cases runtime.evaluate expression c.scope with
  | ok v => exact .pure _
  | error f => exact .ite (.bind (.ofExcept _) fun _ => .pure _) (.raise _)

theorem leave_keeps (argument : String) : Act.Keeps part (leave runtime argument) := by
  refine .ite (.pure _) (.bind (valueOf_keeps _) fun answer => ?_)
  cases answer <;> exact .pure _

theorem raising_keeps (argument : String) : Act.Keeps part (raising runtime argument) := by
  refine .ite (.bind .current fun c => ?_) (.bind (valueOf_keeps _) fun answer => ?_)
  · cases c.lastFailure <;> exact .pure _
  · cases answer with
    | ok v => exact .bind (.ofExcept _) fun _ => .pure _
    | error complaint => exact .pure _

theorem list_keeps (argument : String) : Act.Keeps part (list argument) := by
  refine .bind .current fun c => .ite (.bind (.emit _) fun _ => .pure _) ?_
  cases integer? argument with
  | none => exact .pure _
  | some n => exact .bind (.emit _) fun _ => .pure _

/-- Only the command that discards the unfinished statement changes a console. -/
theorem perform_keeps {command : Command} (h : command ≠ .clear) (argument : String) :
    Act.Keeps part (command.perform runtime argument) := by
  cases command with
  | help => exact .bind (.emit _) fun _ => .pure _
  | history => exact list_keeps _
  | clear => exact absurd rfl h
  | exit => exact leave_keeps _
  | quit => exact leave_keeps _
  | raiseUp => exact raising_keeps _

end Keeps

/-- A command that is given where no statement is unfinished, or that discards it, leaves none, and
the rest of the console as it was. -/
theorem perform_state {command : Command} {c : Console} (h : c.buffer = [] ∨ command = .clear)
    (argument : String) : (command.perform runtime argument c).state = c.discard := by
  by_cases hclear : command = .clear
  · subst hclear
    rfl
  · rw [Console.discard_of_buffer_eq_nil (h.resolve_right hclear)]
    have hkeeps : Act.Keeps id (command.perform runtime argument) := perform_keeps hclear argument
    exact hkeeps c

end Command

namespace Console

theorem recover_keeps (f : Failure) : Act.Keeps Console.statements (recover f) := by
  refine .ite (.bind (.emit _) fun _ => .pure _) (.ite (.bind (.emit _) fun _ => .pure _)
    (.ite (.bind (.bind (.change fun _ => rfl) fun _ => .emit _) fun _ => .pure _) (.raise _)))

/-- To refuse a statement leaves the statements alone. -/
theorem refuse_keeps (f : Failure) : Act.Keeps Console.statements (refuse f) :=
  .bind (.change fun _ => rfl) fun _ => .bind (.ofExcept _) fun _ => .emit _

/-- Running a statement leaves the statements alone. -/
theorem runStatement_keeps (statement : π) :
    Act.Keeps Console.statements (runStatement runtime statement) := by
  refine .rescue (.bind (fun _ => rfl) fun ending => ?_) recover_keeps
  cases ending with
  | finished => exact .pure _
  | exited code => exact .bind (.emit _) fun _ => .pure _

/-! ## What a line leaves in the buffer -/

theorem isClearing_iff {line : String} : isClearing line = true ↔ trim line.toList = ['!'] := by
  rw [isClearing, beq_iff_eq, ← String.toList_inj, String.toList_ofList]
  rfl

theorem recognise_of_isClearing {line : String} (h : isClearing line = true) :
    Command.recognise line = some (.clear, "") := by
  rw [Command.recognise, isClearing_iff.mp h]
  rfl

/-! ## Lines that are handled as commands -/

section Dispatch

variable {line argument : String} {command : Command} {c : Console}

/-- The record of a command. -/
def commandRecord (command : Command) (argument : String) : Notice :=
  .log .debug Log.commandChannel
    ("command: name=" ++ command.word ++ ", args=" ++ quoted argument)

/-- What follows once a command was performed: it replies, or its complaint is told. -/
def respond : Command.Result → Act Notice Console (Option Reply)
  | .ok reply => pure (some reply)
  | .error complaint => do
    Act.emit [.diagnostic ("Error: " ++ complaint.message)]
    return some .proceed

theorem dispatch_of_not_recognised (h : Command.recognise line = none) :
    dispatch runtime line c = ⟨.ok none, c, []⟩ := by
  rw [dispatch, h]
  rfl

/-- **A line that is recognised as a command performs it.** -/
theorem dispatch_of_recognise (h : Command.recognise line = some (command, argument)) :
    dispatch runtime line c =
      ((command.perform runtime argument c).andThen respond).after
        [commandRecord command argument] := by
  rw [dispatch, h]
  dsimp only
  rw [Act.bind_apply, Act.emit_apply, Run.andThen_ok, Act.bind_apply]
  rcases command.perform runtime argument c with ⟨f | (complaint | reply), d, es⟩ <;> rfl

/-- Where commands count, a line handled as a command leaves nothing unfinished, and the rest of the
console as it was. -/
theorem dispatch_state (hcounts : c.buffer = [] ∨ isClearing line = true) :
    (dispatch runtime line c).state = c.discard := by
  rcases hline : Command.recognise line with _ | ⟨command, argument⟩
  · -- What is no command does not discard.
    have hempty : c.buffer = [] := by
      refine hcounts.resolve_right fun hclears => ?_
      rw [recognise_of_isClearing hclears] at hline
      cases hline
    rw [dispatch_of_not_recognised hline, discard_of_buffer_eq_nil hempty]
  · -- A line that discards is recognised as the command for that.
    have hclear : c.buffer = [] ∨ command = .clear := by
      refine hcounts.imp_right fun hclears => ?_
      rw [recognise_of_isClearing hclears] at hline
      exact (Prod.mk.inj (Option.some.inj hline)).1.symm
    rw [dispatch_of_recognise hline, ← Command.perform_state hclear argument]
    rcases command.perform runtime argument c with ⟨f | (complaint | reply), d, es⟩ <;> rfl

/-- What is no command does nothing. -/
theorem dispatch_none (h : (dispatch runtime line c).result = .ok none) :
    dispatch runtime line c = ⟨.ok none, c, []⟩ := by
  rcases hline : Command.recognise line with _ | ⟨command, argument⟩
  · exact dispatch_of_not_recognised hline
  · rw [dispatch_of_recognise hline] at h
    rcases hperform : command.perform runtime argument c with ⟨f | (complaint | reply), d, es⟩
    all_goals
      rw [hperform] at h
      cases h

end Dispatch

/-- A wish to end the session that is not granted empties the buffer. -/
theorem evalEnd_buffer {c : Console} (h : (evalEnd c).result = .ok .proceed) :
    (evalEnd c).state.buffer = [] := by
  rw [evalEnd, Act.bind_apply, Act.current_apply, Run.andThen_ok, Run.after_nil] at h ⊢
  by_cases hempty : c.buffer.isEmpty = true
  · rw [if_pos hempty] at h
    cases h
  · rw [if_neg hempty]
    rfl

end Console

end PromptLoop
