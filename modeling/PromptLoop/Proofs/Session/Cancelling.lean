import PromptLoop.Proofs.Console.Cancelling
import PromptLoop.Proofs.Session.Agreement

/-!
# Giving up an unfinished statement in a session

An interrupt, a wish to end the session and a line that discards all give up the statement that is
unfinished. The next turn then finds the session as it was before the first line of the statement,
but for what has been read.

## Main definitions

* `Session.Collects`: turns that each leave a statement unfinished
* `Reading.GivesUp`: a read by which the unfinished statement is given up
* `Reading.AsksAfresh`: a read that shows the first prompt and no indentation

## Main results

* `Session.turn_collects`: a turn that leaves a statement unfinished adds a line to it
* `Session.turn_givesUp`: a turn that gives it up leaves the console without it
* `Session.turn_congr`: a turn starts with what is unfinished and nothing else open
* `Session.cancelled`: a statement that was given up leaves no trace
-/

namespace PromptLoop

variable {ι δ π : Type} {setup : Setup ι δ (Hooked ι Console)} {runtime : Console.Runtime π}

namespace Reading

/-- A read by which the unfinished statement is given up: it was interrupted, it came to the wish to
end the session, or its line discards. -/
def GivesUp (setup : Setup ι δ (Hooked ι Console)) (ρ : Reading ι δ (Hooked ι Console)) : Prop :=
  ρ.result = .ok .interrupted ∨ ρ.result = .ok .endOfSession ∨
    ∃ text line, ρ.result = .ok (.line text) ∧
      Session.corrected? setup ρ.start text = .ok line ∧ Console.isClearing line = true

/-- A read with nothing open that shows the first prompt and no indentation. -/
def AsksAfresh (setup : Setup ι δ (Hooked ι Console)) (ρ : Reading ι δ (Hooked ι Console)) :
    Prop :=
  let asked := ρ.start.question setup ">>> " ρ.start.intake
  ρ.buffer = [] ∧ ρ.start.tracker.stack = [] ∧ ρ.result = asked.result ∧ ρ.events = asked.events

end Reading

namespace Session

variable {s t u : Session ι δ (Hooked ι Console)} {ρ : Reading ι δ (Hooked ι Console)}
  {es : List Event}

/-- Turns, one or more, that each go on and leave a statement unfinished. -/
inductive Collects (setup : Setup ι δ (Hooked ι Console)) :
    Session ι δ (Hooked ι Console) → Session ι δ (Hooked ι Console) → Prop
  | first {s t : Session ι δ (Hooked ι Console)} {es : List Event} :
    turn setup s = ⟨.ok .again, t, es⟩ → t.buffer ≠ [] → Collects setup s t
  | further {s t u : Session ι δ (Hooked ι Console)} {es : List Event} : Collects setup s t →
    turn setup t = ⟨.ok .again, u, es⟩ → u.buffer ≠ [] → Collects setup s u

/-! ## Turns that leave a statement unfinished -/

/-- What a turn leaves that has read a line. -/
theorem turn_line (hconsole : setup.evaluator = (Console.interpreter runtime).withHooks)
    (hρ : reading? setup s = some ρ) {text line : String} (hresult : ρ.result = .ok (.line text))
    (hline : corrected? setup ρ.start text = .ok line) :
    (turn setup s).state.evaluator = (setup.evaluator.eval (some line) s.evaluator).state ∧
      (turn setup s).state.tracker.reset = s.tracker.reset := by
  obtain ⟨hevaluator, hreset, -, -⟩ := console_start hconsole hρ
  obtain ⟨prompt, indentation, i, hstate⟩ := turn_state hρ hresult
  rw [follow_line_state setup prompt indentation (s := { ρ.start with intake := i }) hline]
    at hstate
  rw [hstate, ← hevaluator, ← hreset]
  exact ⟨rfl, trackerAfter_reset hline⟩

/-- What a turn leaves that has come to the wish to end the session. -/
theorem turn_end (hconsole : setup.evaluator = (Console.interpreter runtime).withHooks)
    (hρ : reading? setup s = some ρ) (hresult : ρ.result = .ok .endOfSession) :
    (turn setup s).state.evaluator = (setup.evaluator.eval none s.evaluator).state ∧
      (turn setup s).state.tracker.reset = s.tracker.reset := by
  obtain ⟨hevaluator, hreset, -, -⟩ := console_start hconsole hρ
  obtain ⟨prompt, indentation, i, hstate⟩ := turn_state hρ hresult
  rw [follow_endOfSession_state] at hstate
  rw [hstate, ← hevaluator, ← hreset]
  exact ⟨rfl, rfl⟩

/-- What a turn leaves that was interrupted. -/
theorem turn_interrupted (hconsole : setup.evaluator = (Console.interpreter runtime).withHooks)
    (hρ : reading? setup s = some ρ) (hresult : ρ.result = .ok .interrupted) :
    (turn setup s).state.evaluator = (setup.evaluator.discard s.evaluator).state ∧
      (turn setup s).state.tracker.reset = s.tracker.reset := by
  obtain ⟨hevaluator, hreset, -, -⟩ := console_start hconsole hρ
  obtain ⟨prompt, indentation, i, hstate⟩ := turn_state hρ hresult
  rw [follow_interrupted_state] at hstate
  rw [hstate, ← hevaluator, ← hreset]
  exact ⟨rfl, rfl⟩

/-- **A turn that leaves a statement unfinished has added a line to it**, and has done nothing else
to the evaluator. -/
theorem turn_collects (hconsole : setup.evaluator = (Console.interpreter runtime).withHooks)
    (hturn : turn setup s = ⟨.ok .again, t, es⟩) (hopen : t.buffer ≠ []) :
    (∃ line, t.evaluator = { s.evaluator with core := s.evaluator.core.add line }) ∧
      t.tracker.reset = s.tracker.reset := by
  obtain ⟨ρ, hρ⟩ : ∃ ρ, reading? setup s = some ρ :=
    ⟨_, reading?_of_prompt (console_prompt hconsole s)⟩
  have hstate : (turn setup s).state = t := by rw [hturn]
  have hagain : ρ.response setup = .ok .again := by
    rw [← (turn_of_reading hρ).1, hturn]
  rw [← hstate] at hopen ⊢
  -- Of the outcomes of the read only a line can leave a statement unfinished and go on.
  rcases hresult : ρ.result with f | (text | _ | _ | _)
  · rw [Reading.response, hresult] at hagain
    cases hagain
  · rcases hline : corrected? setup ρ.start text with f | line
    · rw [Reading.response, hresult] at hagain
      simp only [hline] at hagain
      cases hagain
    · obtain ⟨hevaluator, htracker⟩ := turn_line hconsole hρ hresult hline
      have heval : (setup.evaluator.eval (some line) s.evaluator).state =
          { s.evaluator with
            core := (Console.evalLine runtime line s.evaluator.core).state } := by
        rw [hconsole]
        rfl
      rw [buffer, hevaluator, heval] at hopen
      -- The buffer is not empty after the line, so the line was added and nothing else was done.
      obtain ⟨hadd, -, -⟩ := Console.evalLine_of_buffer_ne_nil hopen
      exact ⟨⟨line, by rw [hevaluator, heval, hadd]⟩, htracker⟩
  · -- A wish to end the session leaves nothing unfinished if the session goes on.
    rw [Reading.response, hresult] at hagain
    obtain ⟨hevaluator, -⟩ := turn_end hconsole hρ hresult
    have hproceed := verdict_eq_again hagain
    rw [(console_start hconsole hρ).1] at hproceed
    rw [buffer, hevaluator] at hopen
    exact absurd (console_end hconsole hproceed) hopen
  · obtain ⟨hevaluator, -⟩ := turn_interrupted hconsole hρ hresult
    rw [buffer, hevaluator] at hopen
    exact absurd (console_discard hconsole _) hopen
  · rw [Reading.response, hresult] at hagain
    cases hagain

/-- Turns that leave a statement unfinished change the buffer of the console and nothing else in the
evaluator. -/
theorem Collects.evaluator_eq (hconsole : setup.evaluator = (Console.interpreter runtime).withHooks)
    (h : Collects setup s t) :
    t.buffer ≠ [] ∧
      t.evaluator =
        { s.evaluator with core := { s.evaluator.core with buffer := t.buffer } } ∧
      t.tracker.reset = s.tracker.reset := by
  -- by induction on the turns: what a turn does to the buffer, the next one finds there
  induction h with
  | first hturn hopen =>
    obtain ⟨⟨line, hevaluator⟩, htracker⟩ := turn_collects hconsole hturn hopen
    refine ⟨hopen, ?_, htracker⟩
    rw [buffer, hevaluator]
    rfl
  | further h hturn hopen ih =>
    obtain ⟨⟨line, hevaluator⟩, htracker⟩ := turn_collects hconsole hturn hopen
    obtain ⟨-, hbefore, hreset⟩ := ih
    refine ⟨hopen, ?_, htracker.trans hreset⟩
    rw [buffer, hevaluator, hbefore]
    rfl

/-! ## Turns that give it up -/

/-- **A turn that gives up the unfinished statement** goes on, and leaves the console without it. -/
theorem turn_givesUp (hconsole : setup.evaluator = (Console.interpreter runtime).withHooks)
    (hopen : t.buffer ≠ []) (hρ : reading? setup t = some ρ) (h : ρ.GivesUp setup) :
    (turn setup t).result = .ok .again ∧
      (turn setup t).state.evaluator = { t.evaluator with core := t.evaluator.core.discard } ∧
      (turn setup t).state.tracker.reset = t.tracker.reset := by
  have hstart : ρ.start.evaluator = t.evaluator := (console_start hconsole hρ).1
  rw [(turn_of_reading hρ).1]
  -- The three ways part here, and each leaves the console with an empty buffer.
  rcases h with hresult | hresult | ⟨text, line, hresult, hline, hclear⟩
  · obtain ⟨hevaluator, htracker⟩ := turn_interrupted hconsole hρ hresult
    rw [Reading.response, hresult, hevaluator, hconsole]
    exact ⟨rfl, rfl, htracker⟩
  · obtain ⟨hevaluator, htracker⟩ := turn_end hconsole hρ hresult
    have hend : setup.evaluator.eval none t.evaluator =
        ⟨.ok .proceed, { t.evaluator with core := t.evaluator.core.discard }, []⟩ := by
      rw [hconsole]
      show Interpreter.lift Console.evalEnd t.evaluator = _
      rw [Interpreter.lift, Act.within_apply, Console.evalEnd_of_buffer_ne_nil hopen]
      rfl
    rw [Reading.response, hresult, hevaluator, hend]
    refine ⟨?_, rfl, htracker⟩
    show ρ.verdict setup none = _
    rw [Reading.verdict, hstart, hend]
    rfl
  · obtain ⟨hevaluator, htracker⟩ := turn_line hconsole hρ hresult hline
    have hend : setup.evaluator.eval (some line) t.evaluator =
        ⟨.ok .proceed, { t.evaluator with core := t.evaluator.core.discard },
          Console.clearingNotices⟩ := by
      rw [hconsole]
      show Interpreter.lift (Console.evalLine runtime line) t.evaluator = _
      rw [Interpreter.lift, Act.within_apply, Console.evalLine_of_isClearing hclear]
      rfl
    rw [Reading.response, hresult, hevaluator, hend]
    refine ⟨?_, rfl, htracker⟩
    simp only [hline]
    show ρ.verdict setup (some line) = _
    rw [Reading.verdict, hstart, hend]
    rfl

/-! ## The turn after it -/

/-- A turn knows of the session what it finds once it has forgotten what is no longer open. -/
theorem turn_congr (hconsole : setup.evaluator = (Console.interpreter runtime).withHooks)
    (hevaluator : u.evaluator = s.evaluator) (hsettle : settle setup u = settle setup s) :
    turn setup u = turn setup s := by
  rw [turn_of_prompt (console_prompt hconsole u), turn_of_prompt (console_prompt hconsole s),
    hevaluator, hsettle]

theorem turns?_congr (hconsole : setup.evaluator = (Console.interpreter runtime).withHooks)
    (hevaluator : u.evaluator = s.evaluator) (hsettle : settle setup u = settle setup s) (n : Nat) :
    turns? setup n u = turns? setup n s := by
  cases n with
  | zero => rfl
  | succ n => rw [turns?_succ, turns?_succ, turn_congr hconsole hevaluator hsettle]

/-- Where nothing is unfinished, a read shows the first prompt alone. -/
theorem reading_asksAfresh (hconsole : setup.evaluator = (Console.interpreter runtime).withHooks)
    (hempty : s.buffer = []) (hρ : reading? setup s = some ρ) : ρ.AsksAfresh setup := by
  obtain ⟨hevaluator, -, htracker, -⟩ := console_start hconsole hρ
  have hstack : ρ.start.tracker.stack = [] := by rw [htracker hempty, Tracker.reset_stack]
  have hprompt : s.evaluator.core.prompt = ">>> " := if_pos (List.isEmpty_iff.mpr hempty)
  rw [reading?_of_prompt (console_prompt hconsole s), hprompt] at hρ
  obtain rfl := Option.some.inj hρ
  -- No construct is open, so there is nothing to put behind the prompt.
  have hblanks : (settle setup s).indentation? setup = .ok [] := by
    rw [indentation?]
    split
    · exact Tracker.currentPrefix?_of_stack_eq_nil hstack
    · rfl
  have hasking : asking setup ">>> " (settle setup s) (settle setup s).intake =
      (settle setup s).question setup ">>> " (settle setup s).intake := by
    rw [asking, hblanks, Act.bind_apply, Act.ofExcept_apply, Run.andThen_ok, Run.after_nil,
      String.ofList_nil, String.append_empty]
  refine ⟨?_, hstack, congrArg Run.result hasking, congrArg Run.events hasking⟩
  rw [Reading.buffer, hevaluator]
  exact hempty

/-- **A statement that was given up leaves no trace.** A console to which lines were fed that each
left a statement unfinished is, once they are given up, the one that it was before, and nothing was
run for them. A session in which such lines are read and given up asks afresh, and goes on as if it
had found none of them in front of what is left to read. -/
theorem cancelled (runtime : Console.Runtime π) :
    (∀ (c : Console) (lines : List String), c.buffer = [] → lines ≠ [] →
      (∀ r ∈ Console.responses runtime lines c, r.state.buffer ≠ []) →
        let d := Console.fed runtime lines c
        d.discard = c ∧
          Console.eval runtime none d = ⟨.ok .proceed, c, []⟩ ∧
          (∀ line, Console.isClearing line = true →
            Console.eval runtime (some line) d = ⟨.ok .proceed, c, Console.clearingNotices⟩) ∧
          ∀ other : Console.Runtime π, other.compile = runtime.compile →
            Console.responses other lines c = Console.responses runtime lines c) ∧
    ∀ (setup : Setup ι δ (Hooked ι Console)) (s t : Session ι δ (Hooked ι Console))
      (ρ : Reading ι δ (Hooked ι Console)),
      setup.evaluator = (Console.interpreter runtime).withHooks → s.buffer = [] →
      Collects setup s t → reading? setup t = some ρ → ρ.GivesUp setup →
        let u := (turn setup t).state
        (turn setup t).result = .ok .again ∧ u.evaluator = s.evaluator ∧
          (∃ next, reading? setup u = some next ∧ next.AsksAfresh setup) ∧
          ∀ n, turns? setup n u = turns? setup n { s with intake := u.intake } := by
  constructor
  · intro c lines hempty hlines h d
    obtain ⟨hfed, -, hother⟩ := Console.responses_of_unfinished h
    have hback : d.discard = c := Console.discard_fed hempty h
    have hopen : d.buffer ≠ [] := by
      show (Console.fed runtime lines c).buffer ≠ []
      rw [hfed, hempty]
      exact hlines
    refine ⟨hback, ?_, ?_, hother⟩
    · show Console.evalEnd d = _
      rw [Console.evalEnd_of_buffer_ne_nil hopen, hback]
    · intro line hclear
      show Console.evalLine runtime line d = _
      rw [Console.evalLine_of_isClearing hclear, hback]
  · intro setup s t ρ hconsole hempty hcollects hρ hgives u
    obtain ⟨hopen, hcollected, hreset⟩ := hcollects.evaluator_eq hconsole
    obtain ⟨hresult, hdiscarded, hreset'⟩ := turn_givesUp hconsole hopen hρ hgives
    -- The buffer is the only part of the console that has changed, and it is empty again.
    have hevaluator : u.evaluator = s.evaluator := by
      have hback : s.evaluator.core.discard = s.evaluator.core :=
        Console.discard_of_buffer_eq_nil hempty
      show (turn setup t).state.evaluator = _
      rw [hdiscarded, hcollected]
      show { s.evaluator with core := s.evaluator.core.discard } = s.evaluator
      rw [hback]
    have hu : u.buffer = [] := by
      rw [buffer, hevaluator]
      exact hempty
    refine ⟨hresult, hevaluator, ?_, ?_⟩
    · have hnext := reading?_of_prompt (console_prompt hconsole u)
      exact ⟨_, hnext, reading_asksAfresh hconsole hu hnext⟩
    · -- Both forget what was open, so the next turn cannot tell one from the other.
      have hsettle : settle setup u = settle setup { s with intake := u.intake } := by
        have hs : ({ s with intake := u.intake } : Session ι δ (Hooked ι Console)).buffer = [] :=
          hempty
        rw [console_settle hconsole, console_settle hconsole, if_pos hu, if_pos hs]
        show (⟨u.evaluator, u.intake, u.tracker.reset⟩ : Session ι δ (Hooked ι Console)) =
          ⟨s.evaluator, u.intake, s.tracker.reset⟩
        rw [hevaluator, hreset'.trans hreset]
      exact turns?_congr hconsole hevaluator hsettle

/-- A session that reads the first line of a block and then comes to the wish to end the session. -/
def abandonedSession : Session Source Desk (Hooked Source Console) :=
  initial blockSetup ⟨{}, {}⟩
    ⟨.scripted .withPrompt "scripted"
      [.answer (some "if x:"), .answer none, .answer (some "y")], {}⟩

theorem cancelled_abandonedSession :
    let t := (turn blockSetup abandonedSession).state
    (abandonedSession.buffer = [] ∧ Collects blockSetup abandonedSession t ∧
        t.buffer = ["if x:"]) ∧
      let u := (turn blockSetup t).state
      u.evaluator = abandonedSession.evaluator ∧
        turns? blockSetup 2 u =
          turns? blockSetup 2 { abandonedSession with intake := u.intake } := by
  have hend : (reading? blockSetup (turn blockSetup abandonedSession).state).map Reading.result =
      some (.ok .endOfSession) := by rfl
  intro t
  have hbuffer : t.buffer = ["if x:"] := rfl
  have hopen : t.buffer ≠ [] := by simp [hbuffer]
  have hcollects : Collects blockSetup abandonedSession t := .first rfl hopen
  have hempty : abandonedSession.buffer = [] := rfl
  obtain ⟨ρ, hρ⟩ : ∃ ρ, reading? blockSetup t = some ρ :=
    ⟨_, reading?_of_prompt (console_prompt rfl t)⟩
  have hgives : ρ.GivesUp blockSetup := by
    rw [hρ] at hend
    exact .inr (.inl (Option.some.inj hend))
  obtain ⟨-, hevaluator, -, hrest⟩ := (cancelled ({} : Rehearsal.Tables).runtime).2 blockSetup
    abandonedSession t ρ rfl hempty hcollects hρ hgives
  exact ⟨⟨hempty, hcollects, hbuffer⟩, hevaluator, hrest 2⟩

end Session

end PromptLoop
