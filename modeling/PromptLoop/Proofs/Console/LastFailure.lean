import PromptLoop.Proofs.Console.Accounting
import PromptLoop.Proofs.Console.Interruption

/-!
# The last failure of a console

A console keeps the last failure of what was typed, to raise it on request. Statements fail in two
ways: the compiler refuses one, or one is run and raises what programs are expected to handle. Only
such a failure takes the place of the one before. Commands and their complaints, interrupts, exits
and discards leave it alone.

## Main definitions

* `Console.fault?`, `Console.Call.fault?`: the failure of a statement, and of a call
* `Console.called`: the console after calls, answered or not
* `Console.faults`: the failures of the calls, in their order
* `Command.Names`: the failure that an argument of the raising command names

## Main results

* `Console.Call.perform_lastFailure`: what a call does to the last failure
* `Console.called_lastFailure`: what calls do to it
* `Command.raising_reply`, `Console.evalLine_raiseUp`: what a verdict to raise carries
* `Console.last_failure_raised`: the command that raises the last failure
-/

namespace PromptLoop

open Text

variable {π : Type} {runtime : Console.Runtime π} {c : Console} {line argument : String}
  {f : Failure}

namespace Console

/-! ## The failures of statements -/

/-- The failure that code has come to, if programs are expected to handle it. -/
def ordinary? {α : Type} : Except Failure α → Option Failure
  | .ok _ => none
  | .error f => if f.isA .exception then some f else none

/-- The failure of a statement: it is refused, or it is run and comes to it. -/
def fault? (runtime : Runtime π) (scope : Scope) (text : String) : Option Failure :=
  match runtime.compile text with
  | .error f => if f.isAny refusals then some f else none
  | .ok none => none
  | .ok (some statement) => ordinary? (runtime.exec echo statement scope).result

/-- The failure of a call: that of the statement that its line is added to. -/
def Call.fault? (runtime : Runtime π) (c : Console) : Call → Option Failure
  | .eval (some line) =>
    if AddsTo c.buffer line then Console.fault? runtime c.scope (source (c.buffer ++ [line]))
    else none
  | _ => none

/-- The console after calls, each where the one before has left it, be it by a failure. -/
def called (runtime : Runtime π) (calls : List Call) (c : Console) : Console :=
  calls.foldl (fun c call => (call.perform runtime c).state) c

/-- The failures of the calls, in their order. -/
def faults (runtime : Runtime π) : List Call → Console → List Failure
  | [], _ => []
  | call :: calls, c =>
    (call.fault? runtime c).toList ++ faults runtime calls (call.perform runtime c).state

/-! ## What becomes of the last failure -/

theorem recover_lastFailure (f : Failure) (c : Console) :
    (recover f c).state.lastFailure = if f.isA .exception then some f else c.lastFailure := by
  rcases recover_cases f c with ⟨-, hnone, hrun⟩ | ⟨-, hnone, hrun⟩ | ⟨hordinary, hrun⟩ |
    ⟨-, -, hnone, hrun⟩
  · rw [hrun, hnone]
    rfl
  · rw [hrun, hnone]
    rfl
  · rw [hrun, hordinary]
    rfl
  · rw [hrun, hnone]
    rfl

/-- A statement that has failed takes the place of the last failure. -/
theorem settle_lastFailure (result : Except Failure Ending) (c : Console) :
    (settle result c).state.lastFailure = (ordinary? result).or c.lastFailure := by
  rcases result with f | (_ | code)
  · rw [settle, recover_lastFailure, ordinary?]
    split <;> rfl
  · rfl
  · rfl

/-- So does the failure of a line that is added. -/
theorem take_lastFailure (line : String) (c : Console) :
    (take runtime line c).state.lastFailure =
      (fault? runtime c.scope (source (c.buffer ++ [line]))).or c.lastFailure := by
  rw [take_apply, fault?]
  rcases runtime.compile (source (c.buffer ++ [line])) with f | (_ | statement)
  · by_cases hrefused : f.isAny refusals = true
    · simp only [if_pos hrefused]
      rw [Act.map_apply, refuse_apply]
      cases refusalLine? f <;> rfl
    · simp only [if_neg hrefused]
      rfl
  · rfl
  · show (runStatement runtime statement _).state.lastFailure = _
    rw [runStatement_apply]
    exact settle_lastFailure _ _

/-- **What a call does to the last failure**: its own takes the place, if it has one. -/
theorem Call.perform_lastFailure (call : Call) (c : Console) :
    (call.perform runtime c).state.lastFailure = (call.fault? runtime c).or c.lastFailure := by
  rcases call with (_ | line) | _
  · show ((_ <$> evalEnd : Act Notice Console Unit) c).state.lastFailure = _
    rw [Act.map_apply, evalEnd, Act.bind_apply, Act.current_apply, Run.andThen_ok, Run.after_nil]
    split <;> rfl
  · show ((_ <$> evalLine runtime line : Act Notice Console Unit) c).state.lastFailure = _
    rw [Act.map_apply, fault?]
    by_cases hadds : AddsTo c.buffer line
    · rw [if_pos hadds, evalLine_of_addsTo hadds]
      exact take_lastFailure line c
    · -- What is handled aside discards at most what is unfinished.
      obtain ⟨hcounts, -⟩ := counts_of_not_addsTo hadds
      rw [Bool.or_eq_true, List.isEmpty_iff] at hcounts
      rw [if_neg hadds, evalLine_of_not_addsTo hadds, Act.map_apply]
      show (dispatch runtime line c).state.lastFailure = c.lastFailure
      rw [dispatch_state hcounts]
      rfl
  · rfl

/-- **What calls do to the last failure**: the last of theirs takes its place. -/
theorem called_lastFailure (calls : List Call) (c : Console) :
    (called runtime calls c).lastFailure = (faults runtime calls c).getLast?.or c.lastFailure := by
  -- by induction on the calls, for any failure that was the last before them
  induction calls generalizing c with
  | nil => rfl
  | cons call calls ih =>
    show (called runtime calls (call.perform runtime c).state).lastFailure = _
    rw [ih, call.perform_lastFailure, faults, List.getLast?_append, Option.or_assoc]
    cases call.fault? runtime c <;> rfl

end Console

/-! ## What a verdict to raise carries -/

namespace Command

/-- The failure that the argument of the raising command names: without an argument the last
failure, and else the one that the value of the argument stands for. -/
def Names (runtime : Console.Runtime π) (c : Console) (argument : String) (f : Failure) : Prop :=
  (argument = "" ∧ c.lastFailure = some f) ∨
    (argument ≠ "" ∧ ∃ v, runtime.evaluate argument c.scope = .ok v ∧ failureOf v = .ok (.ok f))

theorem leave_reply {reply : Reply} (h : (leave runtime argument c).result = .ok (.ok reply)) :
    ∃ v, reply = .leave v := by
  rw [leave] at h
  by_cases hempty : argument = ""
  · rw [if_pos hempty] at h
    exact ⟨.null, (Except.ok.inj (Except.ok.inj h)).symm⟩
  · rw [if_neg hempty, Act.bind_apply, Run.andThen_result] at h
    rcases hvalue : (valueOf runtime argument c).result with f | (complaint | v)
    · rw [hvalue] at h
      cases h
    · rw [hvalue] at h
      cases h
    · rw [hvalue] at h
      exact ⟨v, (Except.ok.inj (Except.ok.inj h)).symm⟩

/-- **The raising command raises what its argument names.** -/
theorem raising_reply {reply : Reply} (h : (raising runtime argument c).result = .ok (.ok reply)) :
    ∃ f, reply = .raiseUp f ∧ Names runtime c argument f := by
  rw [raising] at h
  by_cases hempty : argument = ""
  · -- Without an argument there is a reply only if there was a failure.
    rw [if_pos hempty, Act.bind_apply, Act.current_apply, Run.andThen_ok, Run.after_result] at h
    cases hlast : c.lastFailure with
    | none =>
      rw [hlast] at h
      cases h
    | some f =>
      rw [hlast] at h
      exact ⟨f, (Except.ok.inj (Except.ok.inj h)).symm, .inl ⟨hempty, hlast⟩⟩
  · rw [if_neg hempty, Act.bind_apply, Run.andThen_result] at h
    rcases hvalue : (valueOf runtime argument c).result with g | (complaint | v)
    · rw [hvalue] at h
      cases h
    · rw [hvalue] at h
      cases h
    · -- The argument has a value; it must be a failure, or a class of which one can be made.
      rw [hvalue] at h
      change ((Act.ofExcept (failureOf v) >>= _ : Act Notice Console Result) _).result = _ at h
      rw [Act.bind_apply, Act.ofExcept_apply, Run.andThen_result] at h
      rcases hmade : failureOf v with g | (complaint | f)
      · rw [hmade] at h
        cases h
      · rw [hmade] at h
        cases h
      · rw [hmade] at h
        exact ⟨f, (Except.ok.inj (Except.ok.inj h)).symm,
          .inr ⟨hempty, v, valueOf_eq_ok_iff.mp hvalue, hmade⟩⟩

/-- Only the raising command asks to raise. -/
theorem perform_raiseUp {command : Command}
    (h : (command.perform runtime argument c).result = .ok (.ok (.raiseUp f))) :
    command = .raiseUp ∧ Names runtime c argument f := by
  cases command with
  | help => cases h
  | clear => cases h
  | history =>
    change (list argument c).result = _ at h
    rw [list, Act.bind_apply, Act.current_apply, Run.andThen_ok, Run.after_result] at h
    by_cases hempty : argument = ""
    · rw [if_pos hempty] at h
      cases h
    · rw [if_neg hempty] at h
      cases hn : integer? argument with
      | none =>
        rw [hn] at h
        cases h
      | some n =>
        rw [hn] at h
        cases h
  | exit =>
    obtain ⟨v, hv⟩ := leave_reply h
    cases hv
  | quit =>
    obtain ⟨v, hv⟩ := leave_reply h
    cases hv
  | raiseUp =>
    obtain ⟨g, hg, hnames⟩ := raising_reply h
    obtain rfl := Reply.raiseUp.inj hg
    exact ⟨rfl, hnames⟩

/-- A line that is the word of a command gives it without an argument. -/
theorem recognise_word {command : Command} (h : trim line.toList = command.word.toList) :
    recognise line = some (command, "") := by
  rw [recognise, h]
  cases command <;> rfl

end Command

namespace Console

/-- **A line is to raise what the argument of the raising command names.** -/
theorem evalLine_raiseUp (h : (evalLine runtime line c).result = .ok (.raiseUp f)) :
    ∃ argument, Command.recognise line = some (.raiseUp, argument) ∧
      Command.Names runtime c argument f := by
  by_cases hadds : AddsTo c.buffer line
  · -- A statement may end the session, but what it raises is kept and not raised.
    rw [evalLine_of_addsTo hadds] at h
    rcases take_verdict h with hproceed | ⟨code, hstop, -⟩
    · cases hproceed
    · cases hstop
  · rcases hline : Command.recognise line with _ | ⟨command, argument⟩
    · rw [evalLine_of_not_addsTo hadds, Act.map_apply, dispatch_of_not_recognised hline] at h
      cases h
    · rw [evalLine_of_recognise hadds hline, Run.after_result, Run.andThen_result] at h
      rcases hperform : (command.perform runtime argument c).result with g | (complaint | reply)
      · rw [hperform] at h
        cases h
      · rw [hperform] at h
        cases h
      · rw [hperform] at h
        cases reply with
        | proceed => cases h
        | leave v => cases h
        | raiseUp g =>
          obtain rfl := Verdict.raiseUp.inj (Except.ok.inj h)
          obtain ⟨rfl, hnames⟩ := Command.perform_raiseUp hperform
          exact ⟨argument, rfl, hnames⟩

/-- The raising command on its own: the last failure is raised, and without one there is a
complaint. -/
theorem evalLine_raiseUp_word (hline : trim line.toList = Command.raiseUp.word.toList)
    (hempty : c.buffer = []) :
    evalLine runtime line c =
      match c.lastFailure with
      | some f => ⟨.ok (.raiseUp f), c, [commandRecord .raiseUp ""]⟩
      | none => ⟨.ok .proceed, c, [commandRecord .raiseUp "",
          .diagnostic ("Error: " ++ Command.Complaint.nothingToRaise.message)]⟩ := by
  have hrecognise := Command.recognise_word hline
  rw [evalLine_of_recognise (not_addsTo_of_recognise hrecognise hempty) hrecognise,
    Command.perform, Command.raising, if_pos rfl, Act.bind_apply, Act.current_apply,
    Run.andThen_ok]
  cases c.lastFailure <;> rfl

/-- **The last failure is raised.** After any calls, whatever becomes of them, the last failure of a
fresh console is the last one of their statements, and the raising command without an argument
raises it; where there is none, it complains and the session goes on. So a verdict to raise always
carries a failure: the last one, or the one that the argument names. -/
theorem last_failure_raised (runtime : Runtime π) (scope : Scope) (history : List String)
    (calls : List Call) :
    let c := called runtime calls (start scope history)
    let last := (faults runtime calls (start scope history)).getLast?
    c.lastFailure = last ∧
    (∀ line, trim line.toList = "raise-up".toList → c.buffer = [] →
      (∀ f, last = some f →
        evalLine runtime line c = ⟨.ok (.raiseUp f), c, [commandRecord .raiseUp ""]⟩) ∧
      (last = none →
        evalLine runtime line c = ⟨.ok .proceed, c, [commandRecord .raiseUp "",
          .diagnostic "Error: raise-up: no exception to raise"]⟩)) ∧
    ∀ line? verdict, (eval runtime line? c).result = .ok verdict →
      verdict.name = "STOP_WITH_EXCEPTION" →
        ∃ f line argument, verdict.raised? = some f ∧ line? = some line ∧
          Command.recognise line = some (.raiseUp, argument) ∧
            Command.Names runtime c argument f := by
  intro c last
  have hlast : c.lastFailure = last := by
    refine (called_lastFailure calls (start scope history)).trans ?_
    exact Option.or_none
  refine ⟨hlast, fun line hline hempty => ⟨fun f hf => ?_, fun hnone => ?_⟩,
    fun line? verdict hverdict hname => ?_⟩
  · rw [evalLine_raiseUp_word hline hempty, hlast, hf]
  · rw [evalLine_raiseUp_word hline hempty, hlast, hnone]
    rfl
  · cases verdict with
    | proceed => exact absurd hname (by decide : "CONTINUE" ≠ "STOP_WITH_EXCEPTION")
    | stop v => exact absurd hname (by decide : "STOP_WITH_VALUE" ≠ "STOP_WITH_EXCEPTION")
    | raiseUp f =>
      cases line? with
      | none =>
        change (evalEnd c).result = _ at hverdict
        rw [evalEnd, Act.bind_apply, Act.current_apply, Run.andThen_ok, Run.after_result]
          at hverdict
        split at hverdict <;> cases hverdict
      | some line =>
        obtain ⟨argument, hline, hnames⟩ := evalLine_raiseUp hverdict
        exact ⟨f, line, argument, rfl, rfl, hline, hnames⟩

/-- Statements that fail in different ways. -/
def failing : Rehearsal.Tables where
  programs :=
    [(")", .refused (.raised .invalidSyntax none)),
      ("boom", .complete [.raise (.saying .value "b")]),
      ("wait", .complete [.raise (.raised .keyboardInterrupt none)])]

/-- A refusal, a failure, an interrupt, a complaint and a statement that is given up. -/
def failingCalls : List Call := evals [")", "boom", "wait", "exit nobody", "if a:"] ++ [.reset]

theorem last_failure_raised_failingCalls :
    let c := called failing.runtime failingCalls (start [] [])
    (evalLine failing.runtime " raise-up" c).result = .ok (.raiseUp (.saying .value "b")) := by
  intro c
  obtain ⟨-, hword, -⟩ := last_failure_raised failing.runtime [] [] failingCalls
  have htrim : trim " raise-up".toList = "raise-up".toList := by decide +kernel
  have hempty : c.buffer = [] := by decide +kernel
  have hlast : (faults failing.runtime failingCalls (start [] [])).getLast? =
      some (.saying .value "b") := by decide +kernel
  rw [(hword " raise-up" htrim hempty).1 _ hlast]

end Console

end PromptLoop
