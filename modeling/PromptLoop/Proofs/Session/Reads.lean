import PromptLoop.Proofs.Act.Simulation
import PromptLoop.Proofs.Indent.Refusal
import PromptLoop.Proofs.Recovery.Prompts
import PromptLoop.Session.Run

/-!
# The reads of a session

A session is a sequence of reads, each with what the evaluator is told afterwards. What a turn comes
to is known from its read and from the evaluator's verdict alone.

## Main definitions

* `Mark`, `marks`: the calls of sources and of the evaluator, in their order
* `Reading`: one read of a session, before its line is corrected
* `Reading.calls`, `Reading.response`: what the evaluator is told, and what the turn comes to
* `Session.reads`: the reads of the first turns
* `Session.turnsWithin`, `Session.opened`: the first turns, and those of a whole session
* `Session.startRecord`, `Session.prelude`: what comes before the first turn

## Main results

* `Session.turn_of_reading`: a turn is its read and what the evaluator is told
* `Session.turnsWithin_marks`: so are the first turns
* `Session.reads_again`, `Session.turnsWithin_result`: only the last read may end a session
* `Session.run?_eq`: a session that ends is its first turns and what comes after them
-/

namespace PromptLoop

variable {ι δ σ : Type}

/-- The run of something that may not end; none when it did not. -/
def Run.ended? {ε τ α : Type} (r : Run ε τ (Option α)) : Option (Run ε τ α) :=
  match r.result with
  | .ok none => none
  | .ok (some a) => some ⟨.ok a, r.state, r.events⟩
  | .error f => some ⟨.error f, r.state, r.events⟩

theorem Run.ended?_after {ε τ α : Type} (es : List ε) (r : Run ε τ (Option α)) :
    (r.after es).ended? = r.ended?.map (Run.after es) := by
  obtain ⟨f | (_ | a), t, ds⟩ := r <;> rfl

/-- A call of a source or of the evaluator. -/
inductive Mark
  /-- The current source is asked for a line. -/
  | asked (prompt : String)
  /-- The evaluator is handed a line, or the wish to end the session. -/
  | handed (line : Option String)
  /-- The evaluator drops unfinished input. -/
  | dropped
  deriving DecidableEq, Repr

/-- The call that an event reports. -/
def Event.mark? : Event → Option Mark
  | .reading (.asked prompt) => some (.asked prompt)
  | .evaluated line => some (.handed line)
  | .discarded => some .dropped
  | _ => none

/-- The calls that events report. -/
def marks (es : List Event) : List Mark := es.filterMap Event.mark?

@[simp] theorem marks_append (es ds : List Event) : marks (es ++ ds) = marks es ++ marks ds :=
  List.filterMap_append

@[simp] theorem marks_evaluator (ns : List Notice) : marks (ns.map .evaluator) = [] := by
  simp [marks, List.filterMap_eq_nil_iff, Event.mark?]

@[simp] theorem marks_loop (ns : List Notice) : marks (ns.map .loop) = [] := by
  simp [marks, List.filterMap_eq_nil_iff, Event.mark?]

theorem marks_andThen_of_right {α β τ : Type} {r : Run Event τ α} {next : α → Act Event τ β}
    (h : ∀ a t, marks (next a t).events = []) : marks (r.andThen next).events = marks r.events := by
  obtain ⟨result, t, es⟩ := r
  cases result with
  | error f => rfl
  | ok a => rw [Run.andThen_ok, Run.after_events, marks_append, h, List.append_nil]

theorem marks_reading (es : List ReadEvent) :
    marks (es.map .reading) = (ReadEvent.prompts es).map .asked := by
  rw [marks, List.filterMap_map, ReadEvent.prompts, List.map_filterMap]
  congr 1
  funext e
  cases e <;> rfl

/-- One read of a session, before its line is corrected. -/
structure Reading (ι δ σ : Type) where
  /-- The session when the source is asked, with nothing open unless input is unfinished. -/
  start : Session ι δ σ
  result : Except Failure Outcome
  events : List ReadEvent

namespace Session

/-- What a turn comes to by a verdict. -/
def Turn.ofVerdict : Verdict Failure → Except Failure Turn
  | .proceed => .ok .again
  | .raiseUp f => .error f
  | .stop v => .ok (.done v)

/-- The value that a turn ends the session with. -/
def Turn.value? : Turn → Option Value
  | .again => none
  | .done v => some v

variable (setup : Setup ι δ σ)

/-- A text as it is handed to the evaluator, unless its correction is refused. -/
def corrected? (s : Session ι δ σ) (text : String) : Except Failure String :=
  if setup.config.autoIndent then
    ((Tracker.indent? text.toList : Act Event Tracker (List Char)) s.tracker).result.map
      String.ofList
  else .ok text

/-- The guarded question of a read, unless the indentation of its prompt is out of bounds. -/
def asking (prompt : String) (s : Session ι δ σ) : Act ReadEvent (Intake ι δ) Outcome := do
  let indentation ← Act.ofExcept (s.indentation? setup)
  s.question setup (prompt ++ String.ofList indentation)

/-- The read of a turn; none when the evaluator fails to give a prompt. -/
def reading? (s : Session ι δ σ) : Option (Reading ι δ σ) :=
  match onEvaluator setup.evaluator.prompt s with
  | ⟨.error _, _, _⟩ => none
  | ⟨.ok prompt, t, _⟩ =>
    let start := settle setup t
    let r := asking setup prompt start start.intake
    some ⟨start, r.result, r.events⟩

/-- The reads of the first turns. -/
def reads : Nat → Session ι δ σ → List (Reading ι δ σ)
  | 0, _ => []
  | n + 1, s =>
    (reading? setup s).toList ++
      match turn setup s with
      | ⟨.ok .again, t, _⟩ => reads n t
      | _ => []

/-- The first turns, with the value that they end with, if they end. -/
def turnsWithin : Nat → Act Event (Session ι δ σ) (Option Value)
  | 0 => pure none
  | n + 1 => do
    match ← turn setup with
    | .again => turnsWithin n
    | .done v => return some v

/-- What follows from the outcome of a read. -/
def follow (prompt : String) (indentation : List Char) : Outcome → Act Event (Session ι δ σ) Turn
  | .line text => do
    let corrected ← correct setup indentation prompt text
    evaluate setup (some corrected)
  | outcome => respond setup outcome

/-- The record of the start of a session. It names the screen. -/
def startRecord (s : Session ι δ σ) : Event :=
  .loop (.log .debug Log.loopChannel ("session_start: source=" ++
    setup.inputs.label s.intake.source ++ ", output=" ++ setup.screen.label))

/-- What comes between the record of the start and the first turn. -/
def prelude : Act Event (Session ι δ σ) Unit := do
  fire setup "before_session"
  if setup.config.correctIndent && setup.screen.tty then
    write (.verbatim (String.ofList (Terminal.lineStart setup.family)))

/-- A session up to its first turns. -/
def opened (n : Nat) : Act Event (Session ι δ σ) (Option Value) := do
  begin setup
  turnsWithin setup n

/-- The reads of the first turns of a session; none when what comes before them fails. -/
def openedReads (n : Nat) (s : Session ι δ σ) : List (Reading ι δ σ) :=
  match begin setup s with
  | ⟨.error _, _, _⟩ => []
  | ⟨.ok (), t, _⟩ => reads setup n t

end Session

namespace Reading

variable (setup : Setup ι δ σ) (ρ : Reading ι δ σ)

/-- What the evaluator is told after a read: each line as it is corrected, and each wish to end the
session, once; and to drop unfinished input once after an interrupt. -/
def calls : List Mark :=
  match ρ.result with
  | .ok (.line text) =>
    match Session.corrected? setup ρ.start text with
    | .ok corrected => [.handed (some corrected)]
    | .error _ => []
  | .ok .endOfSession => [.handed none]
  | .ok .interrupted => [.dropped]
  | .ok .noMoreInput => []
  | .error _ => []

/-- What a line comes to, by the verdict of the evaluator. -/
def verdict (line : Option String) : Except Failure Session.Turn :=
  (setup.evaluator.eval line ρ.start.evaluator).result.bind Session.Turn.ofVerdict

/-- What the turn of a read comes to. -/
def response : Except Failure Session.Turn :=
  match ρ.result with
  | .ok (.line text) =>
    (Session.corrected? setup ρ.start text).bind fun corrected => ρ.verdict setup (some corrected)
  | .ok .endOfSession => ρ.verdict setup none
  | .ok .interrupted => (setup.evaluator.discard ρ.start.evaluator).result.map fun _ => .again
  | .ok .noMoreInput => .ok (.done .null)
  | .error f => .error f

/-- The calls of a read and of what follows from it. -/
def marks : List Mark := (ReadEvent.prompts ρ.events).map .asked ++ ρ.calls setup

end Reading

namespace Session

variable {setup : Setup ι δ σ} {s t : Session ι δ σ}

/-! ## What follows from a read -/

theorem evaluate_result (line : Option String) (s : Session ι δ σ) :
    (evaluate setup line s).result =
      (setup.evaluator.eval line s.evaluator).result.bind Turn.ofVerdict := by
  rw [evaluate, Act.bind_apply, Act.emit_apply, Run.andThen_ok, Run.after_result, Act.bind_apply,
    Run.andThen_result]
  congr 1
  funext verdict
  cases verdict <;> rfl

theorem evaluate_state (line : Option String) (s : Session ι δ σ) :
    (evaluate setup line s).state =
      { s with evaluator := (setup.evaluator.eval line s.evaluator).state } := by
  rw [evaluate, Act.bind_apply, Act.emit_apply, Run.andThen_ok, Run.after_state, Act.bind_apply,
    onEvaluator, Act.within_apply]
  rcases setup.evaluator.eval line s.evaluator with ⟨f | (_ | v | f), evaluator, ns⟩ <;> rfl

theorem evaluate_marks (line : Option String) (s : Session ι δ σ) :
    marks (evaluate setup line s).events = [.handed line] := by
  rw [evaluate, Act.bind_apply, Act.emit_apply, Run.andThen_ok, Run.after_events, marks_append,
    Act.bind_apply, marks_andThen_of_right, onEvaluator, Act.within_apply, marks_evaluator]
  · rfl
  · intro verdict t
    cases verdict with
    | proceed => rfl
    | stop v =>
      show marks (((log? _ _ : Act Event (Session ι δ σ) Unit) t).andThen _).events = []
      rw [marks_andThen_of_right fun _ _ => rfl]
      exact marks_loop _
    | raiseUp f =>
      show marks (((log? _ _ : Act Event (Session ι δ σ) Unit) t).andThen _).events = []
      rw [marks_andThen_of_right fun _ _ => rfl]
      exact marks_loop _

variable (setup)

/-- What is written once the tracker has seen a line: the echo of the line is painted again if the
line stands elsewhere, and was not refused. -/
def painting (prompt : String) (echoed : List Char) : Except Failure (List Char) → List Event
  | .ok corrected =>
    if repaints setup echoed corrected then
      [.loop (.wrote (repainted setup prompt echoed corrected))]
    else []
  | .error _ => []

/-- The tracker once a line was corrected. -/
def trackerAfter (s : Session ι δ σ) (text : String) : Tracker :=
  if setup.config.autoIndent then
    ((Tracker.indent? text.toList : Act Event Tracker (List Char)) s.tracker).state
  else s.tracker

/-- A correction is what the tracker makes of the line, and the painting of its echo. -/
theorem correct_eq (hauto : setup.config.autoIndent = true) (indentation : List Char)
    (prompt text : String) (s : Session ι δ σ) :
    let r : Run Event Tracker (List Char) := Tracker.indent? text.toList s.tracker
    correct setup indentation prompt text s =
      ⟨r.result.map String.ofList, { s with tracker := r.state },
        painting setup prompt (indentation ++ text.toList) r.result⟩ := by
  intro r
  have hevents : r.events = [] := Tracker.indent?_events text.toList s.tracker
  have hrun : (Tracker.indent? text.toList s.tracker : Run Event Tracker (List Char)) = r := rfl
  rw [correct, if_pos hauto, Act.bind_apply, reindent, Act.within_apply, hrun]
  rcases r with ⟨f | corrected, u, es⟩
  · obtain rfl : es = [] := hevents
    rfl
  · obtain rfl : es = [] := hevents
    rw [List.map_nil, Run.andThen_ok, Run.after_nil, painting]
    by_cases hpaint : repaints setup (indentation ++ text.toList) corrected = true
    · rw [if_pos hpaint, if_pos hpaint]
      rfl
    · rw [if_neg hpaint, if_neg hpaint]
      rfl

theorem correct_of_not_auto (hauto : ¬setup.config.autoIndent = true) (indentation : List Char)
    (prompt text : String) (s : Session ι δ σ) :
    correct setup indentation prompt text s = ⟨.ok text, s, []⟩ := by
  rw [correct, if_neg hauto]
  rfl

theorem painting_marks (prompt : String) (echoed : List Char)
    (result : Except Failure (List Char)) : marks (painting setup prompt echoed result) = [] := by
  cases result with
  | error f => rfl
  | ok corrected =>
    rw [painting]
    split <;> rfl

theorem correct_apply (indentation : List Char) (prompt text : String) (s : Session ι δ σ) :
    (correct setup indentation prompt text s).result = corrected? setup s text ∧
      (correct setup indentation prompt text s).state =
        { s with tracker := trackerAfter setup s text } ∧
      marks (correct setup indentation prompt text s).events = [] := by
  by_cases hauto : setup.config.autoIndent = true
  · rw [correct_eq setup hauto, corrected?, trackerAfter, if_pos hauto, if_pos hauto]
    exact ⟨rfl, rfl, painting_marks setup _ _ _⟩
  · rw [correct_of_not_auto setup hauto, corrected?, trackerAfter, if_neg hauto, if_neg hauto]
    exact ⟨rfl, rfl, rfl⟩

/-- The end of the prompt's line is no call, and changes nothing. -/
theorem endPrompt_bind {α : Type} (next : Act Event (Session ι δ σ) α) (s : Session ι δ σ) :
    ((do endPrompt setup; next) s).result = (next s).result ∧
      marks ((do endPrompt setup; next) s).events = marks (next s).events := by
  rw [Act.bind_apply, endPrompt]
  by_cases htty : setup.screen.tty = true
  · rw [if_pos htty]
    exact ⟨rfl, rfl⟩
  · rw [if_neg htty]
    exact ⟨rfl, rfl⟩

theorem follow_line (prompt : String) (indentation : List Char) (text : String)
    (s : Session ι δ σ) :
    (follow setup prompt indentation (.line text) s).result =
        ((corrected? setup s text).bind fun corrected =>
          (setup.evaluator.eval (some corrected) s.evaluator).result.bind Turn.ofVerdict) ∧
      marks (follow setup prompt indentation (.line text) s).events =
        match corrected? setup s text with
        | .ok corrected => [.handed (some corrected)]
        | .error _ => [] := by
  obtain ⟨hresult, hstate, hmarks⟩ := correct_apply setup indentation prompt text s
  rw [follow, Act.bind_apply]
  rcases h : correct setup indentation prompt text s with ⟨f | corrected, t, es⟩
  · rw [h] at hresult hmarks
    rw [← hresult]
    exact ⟨rfl, hmarks⟩
  · rw [h] at hresult hstate hmarks
    obtain rfl : t = _ := hstate
    rw [← hresult, Run.andThen_ok, Run.after_result, Run.after_events, marks_append, hmarks,
      evaluate_result, evaluate_marks]
    exact ⟨rfl, rfl⟩

theorem follow_endOfSession (prompt : String) (indentation : List Char) (s : Session ι δ σ) :
    (follow setup prompt indentation .endOfSession s).result =
        (setup.evaluator.eval none s.evaluator).result.bind Turn.ofVerdict ∧
      marks (follow setup prompt indentation .endOfSession s).events = [.handed none] := by
  obtain ⟨hresult, hmarks⟩ := endPrompt_bind setup (evaluate setup none) s
  exact ⟨hresult.trans (evaluate_result none s), hmarks.trans (evaluate_marks none s)⟩

theorem follow_interrupted (prompt : String) (indentation : List Char) (s : Session ι δ σ) :
    (follow setup prompt indentation .interrupted s).result =
        (setup.evaluator.discard s.evaluator).result.map (fun _ => .again) ∧
      marks (follow setup prompt indentation .interrupted s).events = [.dropped] := by
  show ((onEvaluator setup.evaluator.discard s).andThen fun _ => pure Turn.again).result = _ ∧
    marks ([Event.loop (.wrote (.line ""))] ++ ([.discarded] ++
      ((onEvaluator setup.evaluator.discard s).andThen fun _ => pure Turn.again).events)) = _
  constructor
  · rw [Run.andThen_result, onEvaluator, Act.within_apply]
    rfl
  · rw [marks_append, marks_append, marks_andThen_of_right (fun _ _ => rfl), onEvaluator,
      Act.within_apply, marks_evaluator]
    rfl

theorem follow_noMoreInput (prompt : String) (indentation : List Char) (s : Session ι δ σ) :
    (follow setup prompt indentation .noMoreInput s).result = .ok (.done .null) ∧
      marks (follow setup prompt indentation .noMoreInput s).events = [] :=
  endPrompt_bind setup
    (do log .debug "session_exhausted"; return .done .null : Act Event (Session ι δ σ) Turn) s

theorem follow_line_state (prompt : String) (indentation : List Char) {text corrected : String}
    {s : Session ι δ σ} (h : corrected? setup s text = .ok corrected) :
    (follow setup prompt indentation (.line text) s).state =
      { s with
        evaluator := (setup.evaluator.eval (some corrected) s.evaluator).state
        tracker := trackerAfter setup s text } := by
  obtain ⟨hresult, hstate, -⟩ := correct_apply setup indentation prompt text s
  rw [follow, Act.bind_apply]
  rcases hcorrect : correct setup indentation prompt text s with ⟨f | corrected', u, ds⟩
  · rw [hcorrect, h] at hresult
    cases hresult
  · rw [hcorrect] at hresult hstate
    obtain rfl := Except.ok.inj (hresult.trans h)
    obtain rfl : u = _ := hstate
    rw [Run.andThen_ok, Run.after_state, evaluate_state]

theorem follow_endOfSession_state (prompt : String) (indentation : List Char)
    (s : Session ι δ σ) :
    (follow setup prompt indentation .endOfSession s).state =
      { s with evaluator := (setup.evaluator.eval none s.evaluator).state } := by
  rw [← evaluate_state]
  show (((endPrompt setup s).andThen fun _ => evaluate setup none)).state = _
  rw [endPrompt]
  split <;> rfl

theorem follow_interrupted_state (prompt : String) (indentation : List Char)
    (s : Session ι δ σ) :
    (follow setup prompt indentation .interrupted s).state =
      { s with evaluator := (setup.evaluator.discard s.evaluator).state } := by
  show ((onEvaluator setup.evaluator.discard s).andThen fun _ => pure Turn.again).state = _
  rw [onEvaluator, Act.within_apply]
  rcases setup.evaluator.discard s.evaluator with ⟨f | ⟨⟩, evaluator, ns⟩ <;> rfl

/-- What follows from an outcome is known from the session that the read started with. -/
theorem follow_apply (prompt : String) (indentation : List Char) (start : Session ι δ σ)
    (i : Intake ι δ) (outcome : Outcome) (es : List ReadEvent) :
    let followed := follow setup prompt indentation outcome { start with intake := i }
    followed.result = Reading.response setup ⟨start, .ok outcome, es⟩ ∧
      marks followed.events = Reading.calls setup ⟨start, .ok outcome, es⟩ := by
  cases outcome with
  | line text => exact follow_line setup prompt indentation text _
  | endOfSession => exact follow_endOfSession setup prompt indentation _
  | interrupted => exact follow_interrupted setup prompt indentation _
  | noMoreInput => exact follow_noMoreInput setup prompt indentation _

/-! ## A turn is its read and what follows from it -/

variable {setup}

theorem turn_of_prompt_error {f : Failure} {es : List Event}
    (h : onEvaluator setup.evaluator.prompt s = ⟨.error f, t, es⟩) :
    turn setup s = ⟨.error f, t, es⟩ := by
  rw [turn, Act.bind_apply, h, Run.andThen_error]

theorem read_bind_respond (prompt : String) :
    (do let outcome ← read setup prompt; respond setup outcome) = (do
      Act.change (settle setup)
      let s ← Act.current
      let indentation ← Act.ofExcept (s.indentation? setup)
      let outcome ← onIntake (s.question setup (prompt ++ String.ofList indentation))
      follow setup prompt indentation outcome : Act Event (Session ι δ σ) Turn) := by
  -- A read corrects a line before it answers with it: both count to what follows from the line.
  simp only [read, bind_assoc]
  refine bind_congr fun _ => bind_congr fun s => bind_congr fun indentation =>
    bind_congr fun outcome => ?_
  cases outcome with
  | line text => simp only [bind_assoc, pure_bind, respond, follow]
  | _ => simp only [pure_bind, follow]

theorem turn_of_prompt {prompt : String} {es : List Event}
    (h : onEvaluator setup.evaluator.prompt s = ⟨.ok prompt, t, es⟩) :
    turn setup s = ((do
      let indentation ← Act.ofExcept ((settle setup t).indentation? setup)
      let outcome ← onIntake ((settle setup t).question setup (prompt ++ String.ofList indentation))
      follow setup prompt indentation outcome) (settle setup t)).after es := by
  rw [turn, Act.bind_apply, h, Run.andThen_ok, read_bind_respond]
  rfl

theorem onEvaluator_marks {α : Type} (x : Act Notice σ α) (s : Session ι δ σ) :
    marks (onEvaluator x s).events = [] := marks_evaluator _

theorem reading?_of_prompt_error {f : Failure} {es : List Event}
    (h : onEvaluator setup.evaluator.prompt s = ⟨.error f, t, es⟩) : reading? setup s = none := by
  rw [reading?, h]

theorem reading?_of_prompt {prompt : String} {es : List Event}
    (h : onEvaluator setup.evaluator.prompt s = ⟨.ok prompt, t, es⟩) :
    reading? setup s = some ⟨settle setup t,
      (asking setup prompt (settle setup t) (settle setup t).intake).result,
      (asking setup prompt (settle setup t) (settle setup t).intake).events⟩ := by
  rw [reading?, h]

theorem reading?_eq_some {ρ : Reading ι δ σ} (h : reading? setup s = some ρ) :
    ∃ prompt t es, onEvaluator setup.evaluator.prompt s = ⟨.ok prompt, t, es⟩ ∧
      ρ = ⟨settle setup t, (asking setup prompt (settle setup t) (settle setup t).intake).result,
        (asking setup prompt (settle setup t) (settle setup t).intake).events⟩ := by
  rcases hprompt : onEvaluator setup.evaluator.prompt s with ⟨f | prompt, t, es⟩
  · rw [reading?_of_prompt_error hprompt] at h
    cases h
  · rw [reading?_of_prompt hprompt] at h
    exact ⟨prompt, t, es, rfl, (Option.some.inj h).symm⟩

/-- **A turn is its read and what the evaluator is told.** -/
theorem turn_of_reading {ρ : Reading ι δ σ} (h : reading? setup s = some ρ) :
    (turn setup s).result = ρ.response setup ∧ marks (turn setup s).events = ρ.marks setup := by
  obtain ⟨prompt, t, es, hprompt, rfl⟩ := reading?_eq_some h
  have hes : marks es = [] := by
    have := onEvaluator_marks setup.evaluator.prompt s
    rwa [hprompt] at this
  rw [turn_of_prompt hprompt, Run.after_result, Run.after_events, marks_append, hes,
    List.nil_append, asking, Act.bind_apply, Act.bind_apply]
  rcases (settle setup t).indentation? setup with f | indentation
  · -- Without an indentation for the prompt no source is asked.
    exact ⟨rfl, rfl⟩
  · rw [Act.ofExcept_apply, Act.ofExcept_apply, Run.andThen_ok, Run.andThen_ok, Run.after_nil,
      Run.after_nil, Act.bind_apply, onIntake, Act.within_apply]
    rcases (settle setup t).question setup (prompt ++ String.ofList indentation)
      (settle setup t).intake with ⟨f | outcome, i, ds⟩
    · exact ⟨rfl, by rw [Run.andThen_error, marks_reading, Reading.marks]; exact
        (List.append_nil _).symm⟩
    · obtain ⟨hresult, hmarks⟩ :=
        follow_apply setup prompt indentation (settle setup t) i outcome ds
      rw [Run.andThen_ok, Run.after_result, Run.after_events, marks_append, marks_reading, hmarks]
      exact ⟨hresult, rfl⟩

/-- A read that comes to an outcome had an indentation for its prompt. -/
theorem asking_of_outcome {prompt : String} {i : Intake ι δ} {outcome : Outcome}
    (h : (asking setup prompt s i).result = .ok outcome) :
    ∃ indentation, s.indentation? setup = .ok indentation ∧
      asking setup prompt s = s.question setup (prompt ++ String.ofList indentation) := by
  rw [asking, Act.bind_apply] at h
  rcases hind : s.indentation? setup with f | indentation
  · rw [hind] at h
    cases h
  · exact ⟨indentation, rfl, by rw [asking, hind]; rfl⟩

/-- A turn whose read comes to an outcome is what follows from it, behind the prompt of the
evaluator and the read. -/
theorem turn_of_outcome {ρ : Reading ι δ σ} {outcome : Outcome} (h : reading? setup s = some ρ)
    (hresult : ρ.result = .ok outcome) :
    ∃ prompt indentation i,
      (setup.evaluator.prompt s.evaluator).result = .ok prompt ∧
        ρ.start.indentation? setup = .ok indentation ∧
        asking setup prompt ρ.start ρ.start.intake = ⟨.ok outcome, i, ρ.events⟩ ∧
        turn setup s = (follow setup prompt indentation outcome { ρ.start with intake := i }).after
          ((setup.evaluator.prompt s.evaluator).events.map .evaluator ++
            ρ.events.map .reading) := by
  obtain ⟨prompt, t, es, hprompt, rfl⟩ := reading?_eq_some h
  have hevaluator : (setup.evaluator.prompt s.evaluator).result = .ok prompt :=
    congrArg Run.result hprompt
  have hes : (setup.evaluator.prompt s.evaluator).events.map .evaluator = es :=
    congrArg Run.events hprompt
  have hanswer : (asking setup prompt (settle setup t) (settle setup t).intake).result =
      .ok outcome := hresult
  obtain ⟨indentation, hind, hasking⟩ := asking_of_outcome hanswer
  refine ⟨prompt, indentation, (asking setup prompt (settle setup t) (settle setup t).intake).state,
    hevaluator, hind, by rw [← hanswer], ?_⟩
  rw [hes, turn_of_prompt hprompt, Act.bind_apply, hind, Act.ofExcept_apply, Run.andThen_ok,
    Run.after_nil, Act.bind_apply, onIntake, Act.within_apply, ← hasking, hanswer, Run.andThen_ok,
    Run.after_after]

/-- What a turn leaves is what follows from its read leaves. -/
theorem turn_state {ρ : Reading ι δ σ} {outcome : Outcome} (h : reading? setup s = some ρ)
    (hresult : ρ.result = .ok outcome) :
    ∃ prompt indentation i, (turn setup s).state =
      (follow setup prompt indentation outcome { ρ.start with intake := i }).state := by
  obtain ⟨prompt, indentation, i, -, -, -, hturn⟩ := turn_of_outcome h hresult
  exact ⟨prompt, indentation, i, by rw [hturn, Run.after_state]⟩

theorem turn_of_no_reading (h : reading? setup s = none) :
    (∃ f, (turn setup s).result = .error f) ∧ marks (turn setup s).events = [] := by
  rcases hprompt : onEvaluator setup.evaluator.prompt s with ⟨f | prompt, t, es⟩
  · have hes := onEvaluator_marks setup.evaluator.prompt s
    rw [hprompt] at hes
    rw [turn_of_prompt_error hprompt]
    exact ⟨⟨f, rfl⟩, hes⟩
  · rw [reading?, hprompt] at h
    cases h

/-! ## The first turns are their reads and what follows from them -/

theorem turnsWithin_succ (n : Nat) (s : Session ι δ σ) :
    turnsWithin setup (n + 1) s = (turn setup s).andThen fun
      | .again => turnsWithin setup n
      | .done v => pure (some v) := by
  rw [turnsWithin, Act.bind_apply]

/-- **The calls of the first turns are those of their reads.** -/
theorem turnsWithin_marks (n : Nat) (s : Session ι δ σ) :
    marks (turnsWithin setup n s).events = (reads setup n s).flatMap (Reading.marks setup) := by
  -- by induction on the turns: one without a read makes no call and is the last
  induction n generalizing s with
  | zero => rfl
  | succ n ih =>
    have hturn : marks (turn setup s).events =
        (reading? setup s).toList.flatMap (Reading.marks setup) := by
      cases h : reading? setup s with
      | none => exact (turn_of_no_reading h).2
      | some ρ => simpa using (turn_of_reading h).2
    rw [turnsWithin_succ, reads, List.flatMap_append, ← hturn]
    rcases turn setup s with ⟨f | (_ | v), t, es⟩
    · exact (List.append_nil _).symm
    · rw [Run.andThen_ok, Run.after_events, marks_append, ih]
    · show marks (es ++ []) = marks es ++ []
      rw [List.append_nil, List.append_nil]

/-- The first read of a sequence of turns, and the reads that follow if its turn goes on. -/
theorem reads_eq_cons {n : Nat} {ρ : Reading ι δ σ} {rest : List (Reading ι δ σ)}
    (h : reads setup n s = ρ :: rest) :
    ∃ m, n = m + 1 ∧ reading? setup s = some ρ ∧
      ((ρ.response setup ≠ .ok .again ∧ rest = []) ∨
        ∃ t es, turn setup s = ⟨.ok .again, t, es⟩ ∧ rest = reads setup m t) := by
  cases n with
  | zero => cases h
  | succ m =>
    rw [reads] at h
    cases hs : reading? setup s with
    | none =>
      -- A turn without a read has failed, so no read follows either.
      obtain ⟨⟨f, hf⟩, -⟩ := turn_of_no_reading hs
      rcases hturn : turn setup s with ⟨g | turned, t, es⟩
      · rw [hs, hturn] at h
        cases h
      · rw [hturn] at hf
        cases hf
    | some ρ' =>
      rw [hs] at h
      obtain ⟨rfl, hrest⟩ := List.cons.inj h
      obtain ⟨hresult, -⟩ := turn_of_reading hs
      refine ⟨m, rfl, rfl, ?_⟩
      rcases hturn : turn setup s with ⟨g | (_ | v), t, es⟩
      · rw [hturn] at hresult hrest
        refine .inl ⟨fun hagain => ?_, hrest.symm⟩
        cases hresult.trans hagain
      · rw [hturn] at hrest
        exact .inr ⟨t, es, rfl, hrest.symm⟩
      · rw [hturn] at hresult hrest
        refine .inl ⟨fun hagain => ?_, hrest.symm⟩
        cases hresult.trans hagain

/-- **A read that others follow has let the session go on.** -/
theorem reads_again {n : Nat} {before later : List (Reading ι δ σ)} {now : Reading ι δ σ}
    (h : reads setup n s = before ++ now :: later) (hlater : later ≠ []) :
    now.response setup = .ok .again := by
  induction before generalizing n s with
  | nil =>
    obtain ⟨m, -, hs, ⟨-, hrest⟩ | ⟨t, es, hturn, -⟩⟩ := reads_eq_cons h
    · exact absurd hrest hlater
    · rw [← (turn_of_reading hs).1, hturn]
  | cons first before ih =>
    obtain ⟨m, -, -, ⟨-, hrest⟩ | ⟨t, es, -, hrest⟩⟩ := reads_eq_cons h
    · simp at hrest
    · exact ih hrest.symm

/-- A read that does not let the session go on is followed by no other. -/
theorem reads_of_ended {ρ : Reading ι δ σ} (h : reading? setup s = some ρ)
    (hend : ρ.response setup ≠ .ok .again) (n : Nat) : reads setup (n + 1) s = [ρ] := by
  obtain ⟨hresponse, -⟩ := turn_of_reading h
  rw [reads, h]
  rcases hturn : turn setup s with ⟨f | (_ | v), t, es⟩
  · rfl
  · rw [hturn] at hresponse
    exact absurd hresponse.symm hend
  · rfl

/-- A session that its last read does not let go on ends as that read says. -/
theorem turnsWithin_result {n : Nat} {before : List (Reading ι δ σ)} {now : Reading ι δ σ}
    (h : reads setup n s = before ++ [now]) (hend : now.response setup ≠ .ok .again) :
    (turnsWithin setup n s).result = (now.response setup).map Turn.value? := by
  induction before generalizing n s with
  | nil =>
    obtain ⟨m, rfl, hs, ⟨-, -⟩ | ⟨t, es, hturn, -⟩⟩ := reads_eq_cons h
    · obtain ⟨hresult, -⟩ := turn_of_reading hs
      rw [turnsWithin_succ, Run.andThen_result, hresult]
      rcases hnow : now.response setup with f | (_ | v)
      · rfl
      · exact absurd hnow hend
      · rfl
    · rw [← (turn_of_reading hs).1, hturn] at hend
      exact absurd rfl hend
  | cons first before ih =>
    obtain ⟨m, rfl, -, ⟨-, hrest⟩ | ⟨t, es, hturn, hrest⟩⟩ := reads_eq_cons h
    · simp at hrest
    · rw [turnsWithin_succ, hturn, Run.andThen_ok, Run.after_result]
      exact ih hrest.symm

/-! ## A whole session -/

theorem turns?_eq (n : Nat) (s : Session ι δ σ) :
    turns? setup n s = (turnsWithin setup n s).ended? := by
  induction n generalizing s with
  | zero => rfl
  | succ n ih =>
    rw [turns?_succ, turnsWithin_succ]
    rcases turn setup s with ⟨f | (_ | v), t, es⟩
    · rfl
    · rw [Run.andThen_ok, Run.ended?_after, ← ih]
    · show _ = some (Run.mk (.ok v) t (es ++ []))
      rw [List.append_nil]

/-- **A session that ends is its first turns and what comes after them.** -/
theorem run?_eq (n : Nat) (s : Session ι δ σ) :
    run? setup n s = (opened setup n s).ended?.map (·.ensuring (finish setup)) := by
  rw [run?, opened, Act.bind_apply]
  rcases begin setup s with ⟨f | ⟨⟩, t, es⟩
  · rfl
  · rw [Run.andThen_ok, Run.ended?_after, ← turns?_eq, Option.map_map]
    rfl

/-- A longer limit changes nothing once a session has ended. -/
theorem run?_mono {n : Nat} {s : Session ι δ σ} {r : Run Event (Session ι δ σ) Value}
    (h : run? setup n s = some r) (more : Nat) :
    run? setup (n + more) s = some r := by
  rw [run?] at h ⊢
  rcases hbegin : begin setup s with ⟨f | ⟨⟩, u, es⟩
  · rw [hbegin] at h
    exact h
  · rw [hbegin] at h
    obtain ⟨turns, hturns, rfl⟩ := Option.map_eq_some_iff.mp h
    exact Option.map_eq_some_iff.mpr ⟨turns, turns?_mono setup hturns more, rfl⟩

/-- What hooks and switches of the source leave alone is the same before the first turn. -/
theorem begin_keeps {γ : Type} {part : Session ι δ σ → γ}
    (hhooks : ∀ s evaluator, part { s with evaluator := evaluator } = part s)
    (hswitch : ∀ source, Act.Keeps part
      (onIntake (Attempt.switchTo setup.inputs source) : Act Event (Session ι δ σ) Unit)) :
    Act.Keeps part (begin setup) := by
  -- What the hooks have let others see is done after them, one event at a time.
  have hobey : ∀ es, Act.Keeps part (obey setup es) := by
    intro es
    induction es with
    | nil => exact .pure _
    | cons e es ih =>
      cases e with
      | ran name => exact .bind (.emit _) fun _ => ih
      | notice n => exact .bind (.emit _) fun _ => ih
      | switched source => exact .bind (hswitch source) fun _ => ih
  refine .bind .current fun s => .bind (.emit _) fun _ => .bind ?_ fun _ => .ite (.emit _) (.pure _)
  exact .bind .current fun s => .bind (.emit _) fun _ t => (hobey _ _).trans (hhooks t _)

theorem begin_eq (setup : Setup ι δ σ) (s : Session ι δ σ) :
    begin setup s = (prelude setup s).after [startRecord setup s] := rfl

theorem opened_eq (setup : Setup ι δ σ) (n : Nat) (s : Session ι δ σ) :
    opened setup n s =
      ((do prelude setup; turnsWithin setup n) s).after [startRecord setup s] := by
  rw [opened, Act.bind_apply, Act.bind_apply, begin_eq, Run.after_andThen]

theorem obey_marks (es : List (HookEvent ι)) (s : Session ι δ σ) :
    marks (obey setup es s).events = [] := by
  induction es generalizing s with
  | nil => rfl
  | cons e es ih =>
    cases e with
    | ran name => exact ih s
    | notice n => exact ih s
    | switched source => exact ih _

theorem fire_marks (event : String) (s : Session ι δ σ) :
    marks (fire setup event s).events = [] := by
  show marks ([] ++ ([Event.fired event (setup.evaluator.binding s.evaluator)] ++
    (callHooks setup event _ s).events)) = []
  rw [List.nil_append, marks_append, callHooks, obey_marks]
  rfl

theorem begin_marks (s : Session ι δ σ) : marks (begin setup s).events = [] := by
  rw [begin, Act.bind_apply, Act.current_apply, Run.andThen_ok, Run.after_nil, Act.bind_apply, log,
    Act.emit_apply, Run.andThen_ok, Run.after_events, marks_append, Act.bind_apply,
    marks_andThen_of_right, fire_marks]
  · rfl
  · intro _ t
    split <;> rfl

theorem finish_marks (s : Session ι δ σ) : marks (finish setup s).events = [] := by
  rw [finish, Act.bind_apply, marks_andThen_of_right (fun _ _ => rfl), fire_marks]

/-- Where what comes before the first turn does not fail, the reads are those of the turns. -/
theorem openedReads_eq (h : (begin setup s).result = .ok ()) (n : Nat) :
    openedReads setup n s = reads setup n (begin setup s).state := by
  rw [openedReads]
  rcases hbegin : begin setup s with ⟨f | ⟨⟩, t, es⟩
  · rw [hbegin] at h
    cases h
  · rfl

/-- What comes before the first turn is no call, and its failure is that of the session. -/
theorem opened_apply (setup : Setup ι δ σ) (n : Nat) (s : Session ι δ σ) :
    (∃ f, (opened setup n s).result = .error f ∧ openedReads setup n s = [] ∧
        marks (opened setup n s).events = []) ∨
      ∃ t, (opened setup n s).result = (turnsWithin setup n t).result ∧
        openedReads setup n s = reads setup n t ∧
        marks (opened setup n s).events = marks (turnsWithin setup n t).events := by
  have hbegin : marks (begin setup s).events = [] := begin_marks s
  rw [opened, Act.bind_apply, openedReads]
  rcases h : begin setup s with ⟨f | ⟨⟩, t, es⟩
  · rw [h] at hbegin
    exact .inl ⟨f, rfl, rfl, hbegin⟩
  · rw [h] at hbegin
    refine .inr ⟨t, rfl, rfl, ?_⟩
    rw [Run.andThen_ok, Run.after_events, marks_append, hbegin, List.nil_append]

/-- **The calls of a session are those of its reads.** -/
theorem opened_marks (n : Nat) (s : Session ι δ σ) :
    marks (opened setup n s).events = (openedReads setup n s).flatMap (Reading.marks setup) := by
  rcases opened_apply setup n s with ⟨f, -, hreads, hmarks⟩ | ⟨t, -, hreads, hmarks⟩
  · rw [hmarks, hreads]
    rfl
  · rw [hmarks, hreads, turnsWithin_marks]

theorem openedReads_again {n : Nat} {before later : List (Reading ι δ σ)} {now : Reading ι δ σ}
    (h : openedReads setup n s = before ++ now :: later) (hlater : later ≠ []) :
    now.response setup = .ok .again := by
  rcases opened_apply setup n s with ⟨f, -, hreads, -⟩ | ⟨t, -, hreads, -⟩
  · rw [hreads] at h
    simp at h
  · rw [hreads] at h
    exact reads_again h hlater

theorem opened_result {n : Nat} {before : List (Reading ι δ σ)} {now : Reading ι δ σ}
    (h : openedReads setup n s = before ++ [now]) (hend : now.response setup ≠ .ok .again) :
    (opened setup n s).result = (now.response setup).map Turn.value? := by
  rcases opened_apply setup n s with ⟨f, -, hreads, -⟩ | ⟨t, hresult, hreads, -⟩
  · rw [hreads] at h
    simp at h
  · rw [hreads] at h
    rw [hresult]
    exact turnsWithin_result h hend

/-- A session that ends is what its turns came to, followed by what comes after them. -/
theorem run?_eq_ensuring {n : Nat} {r : Run Event (Session ι δ σ) Value}
    (h : run? setup n s = some r) :
    ∃ ending : Except Failure Value, (opened setup n s).result = ending.map some ∧
      r = (Run.mk ending (opened setup n s).state (opened setup n s).events).ensuring
        (finish setup) := by
  rw [run?_eq, Option.map_eq_some_iff] at h
  obtain ⟨ended, hended, rfl⟩ := h
  rcases hopened : opened setup n s with ⟨f | (_ | v), t, es⟩
  · rw [hopened] at hended
    obtain rfl := Option.some.inj hended
    exact ⟨.error f, rfl, rfl⟩
  · rw [hopened] at hended
    cases hended
  · rw [hopened] at hended
    obtain rfl := Option.some.inj hended
    exact ⟨.ok v, rfl, rfl⟩

/-- The calls of a session that ends are those of its turns. It ends as they do, unless what comes
after them fails. -/
theorem run?_eq_some {n : Nat} {r : Run Event (Session ι δ σ) Value}
    (h : run? setup n s = some r) :
    ∃ ending : Except Failure Value, (opened setup n s).result = ending.map some ∧
      r.result = (finish setup (opened setup n s).state).result.bind (fun _ => ending) ∧
      marks r.events = marks (opened setup n s).events := by
  obtain ⟨ending, hending, rfl⟩ := run?_eq_ensuring h
  refine ⟨ending, hending, rfl, ?_⟩
  show marks ((opened setup n s).events ++ (finish setup (opened setup n s).state).events) = _
  rw [marks_append, finish_marks, List.append_nil]

end Session

end PromptLoop
