import PromptLoop.Session.Read

/-!
# Running a session

A session fires an event, takes turns of reading and evaluating until its input runs out or the
evaluator stops it, and fires another event on every path out.

## Main definitions

* `Session.turn`: one read and what follows from it
* `Session.turns?`: turns until the session ends, if it ends within a number of turns
* `Session.run?`: the turns between the events at the start and at the end

## Main results

* `Session.turns?_succ`: the turns are one turn and the turns after it
* `Session.turns?_mono`: a longer limit changes nothing once the session ends
-/

namespace PromptLoop.Session

variable {ι δ σ : Type}

/-- What a turn comes to. -/
inductive Turn
  | again
  | done (value : Value)
  deriving DecidableEq, Repr

section

variable (setup : Setup ι δ σ)

/-- Hands a line to the evaluator, and obeys its verdict. -/
def evaluate (line : Option String) : Act Event (Session ι δ σ) Turn := do
  Act.emit [.evaluated line]
  match ← onEvaluator (setup.evaluator.eval line) with
  | .proceed => return .again
  | .raiseUp f =>
    log? .debug (f.literal?.map ("session_raise_up: exception=" ++ ·))
    Act.raise f
  | .stop v =>
    log? .debug (v.literal?.map ("session_break: value=" ++ ·))
    return .done v

/-- Ends the line of the prompt on a terminal. -/
def endPrompt : Act Event (Session ι δ σ) Unit := do
  if setup.screen.tty then write (.line "")

/-- What follows from the outcome of a read. -/
def respond : Outcome → Act Event (Session ι δ σ) Turn
  | .interrupted => do
    write (.line "")
    Act.emit [.discarded]
    onEvaluator setup.evaluator.discard
    return .again
  | .noMoreInput => do
    endPrompt setup
    log .debug "session_exhausted"
    return .done .null
  | .endOfSession => do
    endPrompt setup
    evaluate setup none
  | .line text => evaluate setup (some text)

/-- One read and what follows from it. -/
def turn : Act Event (Session ι δ σ) Turn := do
  let prompt ← onEvaluator setup.evaluator.prompt
  let outcome ← read setup prompt
  respond setup outcome

/-- Turns until the session ends; none when it does not end within a number of turns. -/
def turns? : Nat → Session ι δ σ → Option (Run Event (Session ι δ σ) Value)
  | 0, _ => none
  | limit + 1, s =>
    match turn setup s with
    | ⟨.error f, s, es⟩ => some ⟨.error f, s, es⟩
    | ⟨.ok (.done v), s, es⟩ => some ⟨.ok v, s, es⟩
    | ⟨.ok .again, s, es⟩ => (turns? limit s).map (Run.after es)

/-- What a hook did, seen by the session: a source that it put in place is put in place. -/
def obey : List (HookEvent ι) → Act Event (Session ι δ σ) Unit
  | [] => pure ()
  | .ran name :: es => do
    Act.emit [.ran name]
    obey es
  | .notice n :: es => do
    Act.emit [.hook n]
    obey es
  | .switched source :: es => do
    onIntake (Attempt.switchTo setup.inputs source)
    obey es

/-- Runs the hooks of an event on the evaluator, and then obeys them. -/
def callHooks (event : String) (binding : Argument) : Act Event (Session ι δ σ) Unit := fun s =>
  let r := setup.evaluator.fire event [.output, binding, .session] s.evaluator
  let o := obey setup r.events { s with evaluator := r.state }
  ⟨o.result.bind fun _ => r.result.map fun _ => (), o.state, o.events⟩

/-- Fires an event of the session. -/
def fire (event : String) : Act Event (Session ι δ σ) Unit := do
  let s ← Act.current
  let binding := setup.evaluator.binding s.evaluator
  Act.emit [.fired event binding]
  callHooks setup event binding

/-- What comes before the first turn. -/
def begin : Act Event (Session ι δ σ) Unit := do
  let s ← Act.current
  log .debug ("session_start: source=" ++ setup.inputs.label s.intake.source ++ ", output=" ++
    setup.screen.label)
  fire setup "before_session"
  if setup.config.correctIndent && setup.screen.tty then
    write (.verbatim (String.ofList (Terminal.lineStart setup.family)))

/-- What comes after the last turn. -/
def finish : Act Event (Session ι δ σ) Unit := do
  fire setup "after_session"
  log .debug "session_end"

/-- The turns of a session between its start and its end; none when it does not end within a number
of turns. -/
def run? (limit : Nat) (s : Session ι δ σ) : Option (Run Event (Session ι δ σ) Value) :=
  match begin setup s with
  | ⟨.error f, s, es⟩ => some ((Run.mk (.error f) s es).ensuring (finish setup))
  | ⟨.ok (), s, es⟩ => (turns? setup limit s).map fun r => (r.after es).ensuring (finish setup)

end

/-- The turns are one turn and, unless it ends the session, the turns after it. -/
theorem turns?_succ (setup : Setup ι δ σ) (limit : Nat) (s : Session ι δ σ) :
    turns? setup (limit + 1) s =
      match turn setup s with
      | ⟨.error f, s, es⟩ => some ⟨.error f, s, es⟩
      | ⟨.ok (.done v), s, es⟩ => some ⟨.ok v, s, es⟩
      | ⟨.ok .again, s, es⟩ => (turns? setup limit s).map (Run.after es) := rfl

/-- A longer limit changes nothing once the session ends. -/
theorem turns?_mono (setup : Setup ι δ σ) {limit : Nat} {s : Session ι δ σ}
    {r : Run Event (Session ι δ σ) Value} (h : turns? setup limit s = some r) (more : Nat) :
    turns? setup (limit + more) s = some r := by
  induction limit generalizing s r with
  | zero => simp [turns?] at h
  | succ limit ih =>
    rw [Nat.succ_add, turns?_succ]
    rw [turns?_succ] at h
    split at h
    · exact h
    · exact h
    · rw [Option.map_eq_some_iff] at h ⊢
      obtain ⟨later, hlater, hr⟩ := h
      exact ⟨later, ih hlater, hr⟩

end PromptLoop.Session
