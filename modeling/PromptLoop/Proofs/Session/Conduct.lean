import PromptLoop.Proofs.Act.Frame
import PromptLoop.Proofs.Session.Reads

/-!
# The conduct of a session

A turn calls the evaluator, writes and records, corrects a line, and asks the source a question.
What each of these does by some contract, a turn does by it, and so do all turns.

## Main definitions

* `Session.Conducted`: a contract that the turns of a session honour apart from their questions

## Main results

* `Session.follow_honours`: what follows from a read honours it
* `Session.turnsWithin_honours`: so do turns whose questions do
-/

namespace PromptLoop.Session

variable {ι δ σ : Type}

/-- A contract that the turns of a session honour apart from their questions. -/
structure Conducted (setup : Setup ι δ σ) (c : Contract Event (Session ι δ σ)) : Prop where
  loop : ∀ n s, c.allows s [.loop n] s
  tracker : ∀ (s : Session ι δ σ) tracker, c.allows s [] { s with tracker }
  evaluated : ∀ line s, c.allows s [.evaluated line] s
  discarded : ∀ s, c.allows s [.discarded] s
  prompt : Act.Honours c (onEvaluator setup.evaluator.prompt)
  eval : ∀ line, Act.Honours c (onEvaluator (setup.evaluator.eval line))
  discard : Act.Honours c (onEvaluator setup.evaluator.discard)

variable {setup : Setup ι δ σ} {c : Contract Event (Session ι δ σ)} (h : Conducted setup c)

include h

theorem correct_honours (indentation : List Char) (prompt text : String) :
    Act.Honours c (correct setup indentation prompt text) := by
  have hreindent : Act.Honours c (reindent text.toList) := by
    intro s
    show c.allows s ((Tracker.indent? text.toList s.tracker).events.map id) _
    rw [Tracker.indent?_events]
    exact h.tracker s _
  refine .ite (.bind hreindent fun corrected => ?_) (.pure _)
  exact .ite (.bind (.emit (h.loop _)) fun _ => .pure _) (.pure _)

theorem log?_honours (level : Log.Level) (message? : Option String) :
    Act.Honours c (log? level message? : Act Event (Session ι δ σ) Unit) := by
  cases message? with
  | none => exact .emit c.idle
  | some message => exact .emit (h.loop _)

theorem evaluate_honours (line : Option String) : Act.Honours c (evaluate setup line) := by
  refine .bind (.emit (h.evaluated line)) fun _ => .bind (h.eval line) fun verdict => ?_
  cases verdict with
  | proceed => exact .pure _
  | raiseUp f => exact .bind (log?_honours h _ _) fun _ => .raise f
  | stop v => exact .bind (log?_honours h _ _) fun _ => .pure _

theorem respond_honours (outcome : Outcome) : Act.Honours c (respond setup outcome) := by
  have hend : Act.Honours c (endPrompt setup) := .ite (.emit (h.loop _)) (.pure _)
  cases outcome with
  | line text => exact evaluate_honours h _
  | endOfSession => exact .bind hend fun _ => evaluate_honours h none
  | noMoreInput => exact .bind hend fun _ => .bind (.emit (h.loop _)) fun _ => .pure _
  | interrupted =>
    exact .bind (.emit (h.loop _)) fun _ => .bind (.emit h.discarded) fun _ =>
      .bind h.discard fun _ => .pure _

/-- What follows from a read calls no source. -/
theorem follow_honours (prompt : String) (indentation : List Char) (outcome : Outcome) :
    Act.Honours c (follow setup prompt indentation outcome) := by
  cases outcome with
  | line text => exact .bind (correct_honours h _ _ _) fun _ => evaluate_honours h _
  | endOfSession => exact respond_honours h .endOfSession
  | interrupted => exact respond_honours h .interrupted
  | noMoreInput => exact respond_honours h .noMoreInput

variable (hquestion : ∀ (s : Session ι δ σ) prompt,
  Act.Honours c (onIntake (s.question setup prompt)))

include hquestion

theorem read_honours (prompt : String) : Act.Honours c (read setup prompt) := by
  have hsettle : Act.Honours c (Act.change (settle setup)) := by
    intro s
    show c.allows s [] (settle setup s)
    unfold settle
    split
    · exact h.tracker s _
    · exact c.idle s
  refine .bind hsettle fun _ => .bind .current fun s => .bind (.ofExcept _) fun indentation =>
    .bind (hquestion s _) fun outcome => ?_
  cases outcome with
  | line text => exact .bind (correct_honours h _ _ _) fun _ => .pure _
  | endOfSession => exact .pure _
  | interrupted => exact .pure _
  | noMoreInput => exact .pure _

theorem turn_honours : Act.Honours c (turn setup) :=
  .bind h.prompt fun prompt => .bind (read_honours h hquestion prompt) fun outcome =>
    respond_honours h outcome

/-- **What turns do by a contract one by one, they do by it together.** -/
theorem turnsWithin_honours (n : Nat) : Act.Honours c (turnsWithin setup n) := by
  induction n with
  | zero => exact .pure _
  | succ n ih =>
    refine .bind (turn_honours h hquestion) fun turned => ?_
    cases turned with
    | again => exact ih
    | done v => exact .pure _

end PromptLoop.Session
