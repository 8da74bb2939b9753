import PromptLoop.Proofs.Indent.Closing
import PromptLoop.Proofs.Session.Agreement

/-!
# Unfinished input without open constructs

Where a read starts with nothing unfinished, nothing is open. The converse does not hold: a console
decides by its compiler whether a statement is unfinished, and the tracker closes a block at its own
discretion, such as after a line that returns; and a statement may be unfinished although none of
its lines has opened anything. Once a line has left something open, the two are empty together until
a line comes that may close it.

## Main definitions

* `Reading.pendingLines`: the lines of the statement that is unfinished

## Main results

* `Session.not_empty_together`: a statement is unfinished, and nothing is open
* `Session.empty_together`: when both are empty
-/

namespace PromptLoop

open Text

variable {ι δ π : Type}

/-- The tracker takes texts line by line. -/
theorem Tracker.feed_eq (t : Tracker) (texts : List String) :
    t.feed texts = (t.indentLines (texts.flatMap fun text => splitLines text.toList)).2 := by
  induction texts generalizing t with
  | nil => rfl
  | cons text texts ih =>
    rw [List.flatMap_cons, indentLines_append, ← ih]
    rfl

/-- The lines of the reads since the last that started with an empty buffer. -/
def Reading.pendingLines (before : List (Reading ι δ (Hooked ι Console))) : List (List Char) :=
  ((pending before).filterMap text?).flatMap fun text => splitLines text.toList

namespace Session

variable {setup : Setup ι δ (Hooked ι Console)} {now : Reading ι δ (Hooked ι Console)}
  {before : List (Reading ι δ (Hooked ι Console))} {left : List String}

/-- A console with blocks that colons open. -/
def returnSetup : Setup Source Desk (Hooked Source Console) :=
  { blockSetup with config := { Config.standard with rules := .colonBlock } }

/-- A session that reads a function of one line. -/
def returnSession : Session Source Desk (Hooked Source Console) :=
  initial returnSetup ⟨{}, {}⟩
    ⟨.scripted .withPrompt "scripted" [.answer (some "def f():"), .answer (some "return 1")], {}⟩

/-- What is unfinished and what is open when the reads of the session start, and what they read. -/
theorem openedReads_returnSession :
    (openedReads returnSetup 3 returnSession).map
        (fun ρ => (ρ.buffer, ρ.start.tracker.stack, ρ.text?)) =
      [([], [], some "def f():"), (["def f():"], [":"], some "return 1"),
        (["def f():", "  return 1"], [], none)] := by
  decide +kernel

/-- **A statement may be unfinished with nothing open**: the line that returns has closed its block,
and the console waits for the blank line that ends the function. -/
theorem not_empty_together :
    ¬ ∀ ρ ∈ openedReads returnSetup 3 returnSession,
      ρ.buffer = [] ↔ ρ.start.tracker.stack = [] := by
  intro h
  have hmem : (["def f():", "  return 1"], [], none) ∈
      (openedReads returnSetup 3 returnSession).map
        (fun ρ => (ρ.buffer, ρ.start.tracker.stack, ρ.text?)) := by
    rw [openedReads_returnSession]
    decide
  obtain ⟨ρ, hρ, hstart⟩ := List.mem_map.mp hmem
  obtain ⟨hbuffer, hrest⟩ := Prod.mk.inj hstart
  have hempty := (h ρ hρ).mpr (Prod.mk.inj hrest).1
  rw [hbuffer] at hempty
  cases hempty

/-- A read finds open what the pending lines have opened, or nothing is unfinished. -/
theorem stack_of_agree (h : now.StartsStatement ∨ now.ContinuesStatement setup left before) :
    (now.buffer = [] ∧ now.start.tracker.stack = []) ∨
      now.buffer ≠ [] ∧ now.start.tracker.stack =
        (setup.freshTracker.indentLines (Reading.pendingLines before)).2.stack := by
  rcases h with h | ⟨hbuffer, -, hstack, -⟩
  · exact .inl ⟨h.1, h.2.1⟩
  · exact .inr ⟨hbuffer, by rw [hstack, Tracker.feed_eq]; rfl⟩

/-- **When nothing is unfinished and nothing is open.** A read of a session with a console finds
nothing open if nothing is unfinished, or if the tracker has closed all that the unfinished lines
have opened. So once an unfinished line has left something open, as one that ends in a colon always
does, the two are empty together unless a line has come since that may close it. -/
theorem empty_together {runtime : Console.Runtime π}
    (hconsole : setup.evaluator = (Console.interpreter runtime).withHooks)
    (hauto : setup.config.autoIndent = true) (hrules : setup.config.rules = .colonBlock)
    (evaluator : Hooked ι Console) (intake : Intake ι δ) (n : Nat)
    (before later : List (Reading ι δ (Hooked ι Console)))
    (now : Reading ι δ (Hooked ι Console))
    (hreads : openedReads setup n (initial setup evaluator intake) = before ++ now :: later) :
    let fresh := setup.freshTracker
    let lines := Reading.pendingLines before
    (now.start.tracker.stack = [] ↔ now.buffer = [] ∨ (fresh.indentLines lines).2.stack = []) ∧
    ∀ front line back, lines = front ++ line :: back →
      endsInColon (tokens (trim line)) = true ∨
        (fresh.indentLines (front ++ [line])).2.stack ≠ [] →
      (∀ closing ∈ back, ¬ setup.config.rules.MayClose setup.config.indentWidth closing) →
      (now.buffer = [] ↔ now.start.tracker.stack = []) := by
  intro fresh lines
  obtain ⟨t, ht, hnow⟩ := openedReads_inStep hconsole hauto hreads
  rcases stack_of_agree (reading_of_inStep hconsole hauto ht hnow) with
    ⟨hbuffer, hstack⟩ | ⟨hbuffer, hstack⟩
  · simp [hbuffer, hstack]
  · refine ⟨by rw [hstack]; simp [hbuffer, fresh, lines], ?_⟩
    intro front line back hlines hopens hkept
    refine iff_of_false hbuffer fun hempty => ?_
    have hopen : (fresh.indentLines (front ++ [line])).2.stack ≠ [] := by
      rcases hopens with hcolon | hopen
      · rw [Tracker.indentLines_append]
        apply Tracker.indentLine_ne_nil_of_endsInColon _ _ hcolon
        · simp [fresh, Setup.freshTracker, hrules, IndentRules.colonBlock]
        · rw [Tracker.indentLines_rules]
          show setup.config.rules.opensBracket colon = false
          rw [hrules]
          decide
      · exact hopen
    -- Something was open after the line, so one of those behind it has closed it.
    have hwidth : 0 < (fresh.indentLines (front ++ [line])).2.width := by
      rw [Tracker.indentLines_width]
      exact setup.config.width_pos
    have hclosed : ((fresh.indentLines (front ++ [line])).2.indentLines back).2.stack = [] := by
      have happend := fresh.indentLines_append (front ++ [line]) back
      rw [List.append_assoc, List.singleton_append, ← hlines] at happend
      rw [← hempty, hstack]
      exact congrArg (·.2.stack) happend.symm
    obtain ⟨closing, hmem, hcloses⟩ := Tracker.exists_mayClose hwidth hopen hclosed
    rw [Tracker.indentLines_rules, Tracker.indentLines_width] at hcloses
    exact hkept closing hmem hcloses

/-- The second read of the session finds a block open, as the line above has ended in a colon and no
other line has come since. -/
theorem empty_together_returnSession :
    ∃ first now last, openedReads returnSetup 3 returnSession = [first, now, last] ∧
      Reading.pendingLines [first] = ["def f():".toList] ∧
      (now.buffer = [] ↔ now.start.tracker.stack = []) := by
  have hreads := openedReads_returnSession
  obtain ⟨first, rest, hcons, hfirst, hrest⟩ := List.map_eq_cons_iff.mp hreads
  obtain ⟨now, rest, rfl, hnow, hlast⟩ := List.map_eq_cons_iff.mp hrest
  obtain ⟨last, others, rfl, -, hothers⟩ := List.map_eq_cons_iff.mp hlast
  obtain rfl := List.map_eq_nil_iff.mp hothers
  have htext : first.text? = some "def f():" := congrArg (·.2.2) hfirst
  have hlines : Reading.pendingLines [first] = ["def f():".toList] := by
    rw [Reading.pendingLines, Reading.pending, List.foldl_cons, List.nil_append, ite_self,
      List.foldl_nil, List.filterMap_cons, htext]
    rfl
  refine ⟨first, now, last, hcons, hlines, ?_⟩
  obtain ⟨-, htogether⟩ := empty_together rfl rfl rfl ⟨{}, {}⟩ _ 3 [first] [last] now hcons
  exact htogether [] "def f():".toList [] hlines (.inl (by decide +kernel)) (List.forall_mem_nil _)

end Session

end PromptLoop
