import PromptLoop.Proofs.Recovery.Machine
import PromptLoop.Proofs.Session.Conduct

/-!
# A ledger of answers

A supply may be kept together with a ledger of what its sources have answered. The ledger changes
nothing about a session, and at the end of a sequence of turns it holds the answers that their reads
have ended with: policies neither lose an answer nor ask again once they have one.

## Main definitions

* `Ledger`: a supply with the answers of its sources
* `Inputs.ledgered`, `Setup.ledgered`: inputs, and the parts of a session, that keep the ledger
* `Reading.answers`: the answer that a read has ended with

## Main results

* `Session.opened_ledgered`: a session is the same with and without the ledger
* `Pipeline.guard_records`: a guarded question enters the answer that it ends with and no other
* `Session.opened_answers`: the ledger holds the answers of the reads
-/

namespace PromptLoop

variable {ι δ σ α β : Type}

/-- A supply with a ledger of what its sources have answered. -/
structure Ledger (δ : Type) where
  supply : δ
  answers : List (Option String) := []

/-- The intake without the ledger. -/
def Intake.bare (i : Intake ι (Ledger δ)) : Intake ι δ := ⟨i.source, i.supply.supply⟩

/-- The answers in the ledger. -/
def Intake.answers (i : Intake ι (Ledger δ)) : List (Option String) := i.supply.answers

/-- The intake with another answer in the ledger. -/
def Intake.enter (answer : Option String) (i : Intake ι (Ledger δ)) : Intake ι (Ledger δ) :=
  { i with supply := { i.supply with answers := i.supply.answers ++ [answer] } }

/-- The inputs that enter each answer of a source in the ledger. -/
def Inputs.ledgered (inputs : Inputs ι δ) : Inputs ι (Ledger δ) where
  read complete prompt := do
    let answer ← (inputs.read complete prompt).within Intake.bare
      (fun i j => ⟨j.source, { i.supply with supply := j.supply }⟩) id
    Act.change (Intake.enter answer)
    return answer
  fresh := inputs.fresh.within Ledger.supply (fun ledger supply => { ledger with supply }) id
  label := inputs.label
  description := inputs.description

/-- The parts of a session that keeps the ledger. -/
def Setup.ledgered (setup : Setup ι δ σ) : Setup ι (Ledger δ) σ :=
  { setup with inputs := setup.inputs.ledgered }

/-- The session without the ledger. -/
def Session.bare (s : Session ι (Ledger δ) σ) : Session ι δ σ := { s with intake := s.intake.bare }

/-- The answers in the ledger of a session. -/
def Session.answers (s : Session ι (Ledger δ) σ) : List (Option String) := s.intake.answers

/-- The answer that a result comes from. -/
def Outcome.answers : Except Failure Outcome → List (Option String)
  | .ok (.line text) => [some text]
  | .ok .endOfSession => [none]
  | .ok .interrupted => []
  | .ok .noMoreInput => []
  | .error _ => []

/-- The answer that a read has ended with. -/
def Reading.answers (ρ : Reading ι δ σ) : List (Option String) := Outcome.answers ρ.result

/-! ## The ledger changes nothing about a read -/

section Simulation

open Act

variable {inputs : Inputs ι δ}

theorem read_simulates (complete : String → List String) (prompt : String) :
    Simulates Intake.bare (inputs.ledgered.read complete prompt) (inputs.read complete prompt) := by
  intro i
  show (Run.andThen (within _ _ _ _ i) _).seen Intake.bare = _
  rw [within_apply]
  rcases inputs.read complete prompt i.bare with ⟨f | answer, j, es⟩
  · simp only [Run.andThen_error, Run.seen_mk, List.map_id]
    rfl
  · simp only [Run.andThen_ok, Run.seen_after, List.map_id]
    show Run.mk _ _ (es ++ []) = _
    rw [List.append_nil]
    rfl

theorem fresh_simulates : Simulates Ledger.supply inputs.ledgered.fresh inputs.fresh := by
  intro ledger
  show (within _ _ _ _ ledger).seen Ledger.supply = _
  rw [within_apply, Run.seen_mk, List.map_id]

theorem ask_simulates (complete : String → List String) (prompt : String) :
    Simulates Intake.bare (Attempt.ask inputs.ledgered complete prompt)
      (Attempt.ask inputs complete prompt) :=
  .bind (.emit _) fun _ =>
    .bind (.within (read_simulates complete prompt) (fun _ => rfl) fun _ _ => rfl) fun _ => .pure _

theorem switchTo_simulates (next : ι) :
    Simulates Intake.bare (Attempt.switchTo inputs.ledgered next)
      (Attempt.switchTo inputs next) :=
  .current_bind fun _ => .bind (.emit _) fun _ => .change fun _ => rfl

theorem refill_simulates :
    Simulates Intake.bare (Attempt.refill inputs.ledgered) (Attempt.refill inputs) :=
  .bind (.emit _) fun _ =>
    .bind (.within fresh_simulates (fun _ => rfl) fun _ _ => rfl) fun next =>
      switchTo_simulates next

theorem exhausted_simulates :
    Simulates Intake.bare (Policy.exhausted inputs.ledgered) (Policy.exhausted inputs) :=
  .bind refill_simulates fun _ => .bind (.emit _) fun _ => .pure _

theorem reportFatal_simulates :
    Simulates Intake.bare (Policy.reportFatal inputs.ledgered) (Policy.reportFatal inputs) :=
  .current_bind fun _ => .bind (.emit _) fun _ => .bind (.emit _) fun _ => .emit _

theorem reportFailure_simulates (config : Config) (count : Nat) (f : Failure) :
    Simulates Intake.bare (Policy.reportFailure inputs.ledgered config count f)
      (Policy.reportFailure inputs config count f) :=
  .bind (.ofExcept _) fun _ => .current_bind fun _ => .emit _

variable {attempt : Attempt ι (Ledger δ)} {attempt' : Attempt ι δ}

theorem retrying_simulates (h : Simulates Intake.bare attempt attempt') (config : Config)
    (failed left : Nat) :
    Simulates Intake.bare (Policy.retrying inputs.ledgered config attempt failed left)
      (Policy.retrying inputs config attempt' failed left) := by
  induction left generalizing failed with
  | zero =>
    exact .rescue h fun f => .bind (reportFailure_simulates config _ f) fun _ =>
      .bind reportFatal_simulates fun _ => .pure _
  | succ left ih =>
    exact .rescue h fun f => .bind (reportFailure_simulates config _ f) fun _ => ih _

theorem Policy.guard_simulates (h : Simulates Intake.bare attempt attempt') (config : Config)
    (policy : Policy) :
    Simulates Intake.bare (policy.guard inputs.ledgered config attempt)
      (policy.guard inputs config attempt') := by
  cases policy with
  | interrupt =>
    exact .rescue h fun _ => .current_bind fun _ => .bind (.emit _) fun _ => .pure _
  | endOfInput =>
    refine .rescue h fun _ => .current_bind fun before => .bind refill_simulates fun _ =>
      .current_bind fun now => .bind (.emit _) fun _ => .rescue h fun _ => exhausted_simulates
  | readError => exact retrying_simulates h config _ _
  | unspecified => exact .raise _
  | recording name =>
    exact .bind (.emit _) fun _ => .bind h fun _ => .bind (.emit _) fun _ => .pure _

theorem Pipeline.guard_simulates (config : Config) (policies : Pipeline)
    (h : Simulates Intake.bare attempt attempt') :
    Simulates Intake.bare (Pipeline.guard inputs.ledgered config policies attempt)
      (Pipeline.guard inputs config policies attempt') := by
  induction policies generalizing attempt attempt' with
  | nil => exact h
  | cons policy policies ih => exact ih (Policy.guard_simulates h config policy)

end Simulation

/-! ## The ledger changes nothing about a session -/

namespace Session

open Act

variable {setup : Setup ι δ σ}

theorem onEvaluator_simulates (x : Act Notice σ α) :
    Simulates Session.bare (onEvaluator x : Act Event (Session ι (Ledger δ) σ) α)
      (onEvaluator x) :=
  .within (.refl x) (fun _ => rfl) fun _ _ => rfl

theorem onIntake_simulates {x : Act ReadEvent (Intake ι (Ledger δ)) α}
    {y : Act ReadEvent (Intake ι δ) α} (h : Simulates Intake.bare x y) :
    Simulates Session.bare (onIntake x : Act Event (Session ι (Ledger δ) σ) α) (onIntake y) :=
  .within h (fun _ => rfl) fun _ _ => rfl

theorem settle_bare (s : Session ι (Ledger δ) σ) :
    (settle setup.ledgered s).bare = settle setup s.bare := apply_ite Session.bare _ _ _

theorem question_simulates (s : Session ι (Ledger δ) σ) (prompt : String) :
    Simulates Intake.bare (s.question setup.ledgered prompt) (s.bare.question setup prompt) :=
  Pipeline.guard_simulates _ _ (ask_simulates _ _)

theorem asking_simulates (prompt : String) (s : Session ι (Ledger δ) σ) :
    Simulates Intake.bare (asking setup.ledgered prompt s) (asking setup prompt s.bare) :=
  .bind (.ofExcept _) fun _ => question_simulates s _

theorem correct_simulates (indentation : List Char) (prompt text : String) :
    Simulates Session.bare (correct setup.ledgered indentation prompt text)
      (correct setup indentation prompt text) :=
  .ite (.bind (.within (.refl _) (fun _ => rfl) fun _ _ => rfl) fun _ =>
    .ite (.bind (.emit _) fun _ => .pure _) (.pure _)) (.pure _)

theorem evaluate_simulates (line : Option String) :
    Simulates Session.bare (evaluate setup.ledgered line) (evaluate setup line) := by
  refine .bind (.emit _) fun _ => .bind (onEvaluator_simulates _) fun verdict => ?_
  cases verdict with
  | proceed => exact .pure _
  | raiseUp f => exact .bind (.emit _) fun _ => .raise f
  | stop v => exact .bind (.emit _) fun _ => .pure _

theorem endPrompt_simulates :
    Simulates Session.bare (endPrompt setup.ledgered) (endPrompt setup) :=
  .ite (.emit _) (.pure _)

theorem respond_simulates (outcome : Outcome) :
    Simulates Session.bare (respond setup.ledgered outcome) (respond setup outcome) := by
  cases outcome with
  | line text => exact evaluate_simulates _
  | endOfSession => exact .bind endPrompt_simulates fun _ => evaluate_simulates _
  | interrupted =>
    exact .bind (.emit _) fun _ => .bind (.emit _) fun _ => .bind (onEvaluator_simulates _) fun _ =>
      .pure _
  | noMoreInput => exact .bind endPrompt_simulates fun _ => .bind (.emit _) fun _ => .pure _

theorem read_simulates (prompt : String) :
    Simulates Session.bare (read setup.ledgered prompt) (read setup prompt) := by
  refine .bind (.change settle_bare) fun _ => .current_bind fun s => .bind (.ofExcept _)
    fun indentation => .bind (onIntake_simulates (question_simulates s _)) fun outcome => ?_
  cases outcome with
  | line text => exact .bind (correct_simulates _ _ _) fun _ => .pure _
  | _ => exact .pure _

theorem turn_simulates : Simulates Session.bare (turn setup.ledgered) (turn setup) :=
  .bind (onEvaluator_simulates _) fun _ => .bind (read_simulates _) fun _ => respond_simulates _

theorem turnsWithin_simulates (n : Nat) :
    Simulates Session.bare (turnsWithin setup.ledgered n) (turnsWithin setup n) := by
  induction n with
  | zero => exact .pure _
  | succ n ih =>
    refine .bind turn_simulates fun turned => ?_
    cases turned with
    | again => exact ih
    | done v => exact .pure _

theorem obey_simulates (es : List (HookEvent ι)) :
    Simulates Session.bare (obey setup.ledgered es) (obey setup es) := by
  induction es with
  | nil => exact .pure _
  | cons e es ih =>
    cases e with
    | ran name => exact .bind (.emit _) fun _ => ih
    | notice n => exact .bind (.emit _) fun _ => ih
    | switched source => exact .bind (onIntake_simulates (switchTo_simulates source)) fun _ => ih

theorem callHooks_simulates (event : String) (binding : Argument) :
    Simulates Session.bare (callHooks setup.ledgered event binding)
      (callHooks setup event binding) := by
  intro s
  let r := setup.evaluator.fire event [.output, binding, .session] s.evaluator
  let t : Session ι (Ledger δ) σ := { s with evaluator := r.state }
  have h : (obey setup.ledgered r.events t).seen Session.bare = obey setup r.events t.bare :=
    obey_simulates r.events t
  show _ = Run.mk ((obey setup r.events t.bare).result.bind fun _ => r.result.map fun _ => ())
    (obey setup r.events t.bare).state (obey setup r.events t.bare).events
  rw [← h]
  rfl

theorem begin_simulates : Simulates Session.bare (begin setup.ledgered) (begin setup) := by
  refine .current_bind fun _ => .bind (.emit _) fun _ => .bind ?_ fun _ => .ite (.emit _) (.pure _)
  exact .current_bind fun _ => .bind (.emit _) fun _ => callHooks_simulates _ _

/-- **A session is the same with and without the ledger.** -/
theorem opened_ledgered (n : Nat) :
    Simulates Session.bare (opened setup.ledgered n) (opened setup n) :=
  .bind begin_simulates fun _ => turnsWithin_simulates n

end Session

/-! ## What a guarded question enters -/

/-- An attempt that enters the answer that it ends with, and no other. -/
def Act.Records (x : Act ReadEvent (Intake ι (Ledger δ)) Outcome) : Prop :=
  ∀ i, (x i).state.answers = i.answers ++ Outcome.answers (x i).result

section Records

variable {inputs : Inputs ι δ} {config : Config} {x : Act ReadEvent (Intake ι (Ledger δ)) α}
  {attempt : Act ReadEvent (Intake ι (Ledger δ)) Outcome}

theorem Act.Records.after {next : α → Act ReadEvent (Intake ι (Ledger δ)) Outcome}
    (h : Act.Keeps Intake.answers x) (hnext : ∀ a, Act.Records (next a)) :
    Act.Records (x >>= next) := by
  intro i
  have hi := h i
  rw [Act.bind_apply]
  rcases hx : x i with ⟨f | a, j, es⟩
  · rw [hx] at hi
    exact hi.trans (List.append_nil _).symm
  · rw [hx] at hi
    rw [Run.andThen_ok, Run.after_state, Run.after_result, hnext a j, ← hi]

/-- Nothing is lost when a failed attempt is followed by another. -/
theorem Act.Records.rescue {catches : Failure → Bool}
    {handler : Failure → Act ReadEvent (Intake ι (Ledger δ)) Outcome} (h : Act.Records attempt)
    (hhandler : ∀ f, Act.Records (handler f)) : Act.Records (attempt.rescue catches handler) := by
  intro i
  have hi := h i
  rw [Act.rescue_apply]
  rcases hx : attempt i with ⟨f | outcome, j, es⟩
  · -- The failed attempt has entered nothing, so the handler finds the ledger as it was.
    rw [hx] at hi
    have hkept : j.answers = i.answers := hi.trans (List.append_nil _)
    rw [Run.rescue_error]
    by_cases hc : catches f = true
    · rw [if_pos hc, Run.after_state, Run.after_result, hhandler f j, hkept]
    · rw [if_neg hc]
      exact hi
  · rw [hx] at hi
    exact hi

/-- An outcome that comes from no answer. -/
theorem Act.Records.pure {outcome : Outcome} (h : Outcome.answers (.ok outcome) = []) :
    Act.Records (pure outcome : Act ReadEvent (Intake ι (Ledger δ)) Outcome) := by
  intro i
  rw [Act.pure_apply, h, List.append_nil]

theorem ask_records (complete : String → List String) (prompt : String) :
    Act.Records (Attempt.ask inputs.ledgered complete prompt) := by
  intro i
  rw [Attempt.ask_apply]
  show (Run.andThen (Act.within _ _ _ _ i) _).state.answers =
    i.answers ++ Outcome.answers ((Run.andThen (Act.within _ _ _ _ i) _).result.map _)
  rw [Act.within_apply]
  rcases inputs.read complete prompt i.bare with ⟨f | answer, j, es⟩
  · exact (List.append_nil _).symm
  · cases answer <;> rfl

theorem switchTo_keeps (next : ι) :
    Act.Keeps Intake.answers (Attempt.switchTo inputs.ledgered next) := fun _ => rfl

theorem refill_keeps : Act.Keeps Intake.answers (Attempt.refill inputs.ledgered) :=
  .bind (.emit _) fun _ => .bind (fun _ => rfl) fun next => switchTo_keeps next

theorem reportFatal_keeps : Act.Keeps Intake.answers (Policy.reportFatal inputs.ledgered) :=
  fun _ => rfl

theorem reportFailure_keeps (count : Nat) (f : Failure) :
    Act.Keeps Intake.answers (Policy.reportFailure inputs.ledgered config count f) :=
  fun i => congrArg Intake.answers (Policy.reportFailure_state config count f i)

theorem exhausted_records : Act.Records (Policy.exhausted inputs.ledgered) :=
  .after refill_keeps fun _ => .after (.emit _) fun _ => .pure rfl

theorem retrying_records (h : Act.Records attempt) (failed left : Nat) :
    Act.Records (Policy.retrying inputs.ledgered config attempt failed left) := by
  induction left generalizing failed with
  | zero =>
    exact .rescue h fun f => .after (reportFailure_keeps _ f) fun _ =>
      .after reportFatal_keeps fun _ => .pure rfl
  | succ left ih => exact .rescue h fun f => .after (reportFailure_keeps _ f) fun _ => ih _

theorem Policy.guard_records (h : Act.Records attempt) (policy : Policy) :
    Act.Records (policy.guard inputs.ledgered config attempt) := by
  cases policy with
  | interrupt =>
    exact .rescue h fun _ => .after .current fun i => .after (.emit _) fun _ => .pure rfl
  | endOfInput =>
    exact .rescue h fun _ => .after .current fun before => .after refill_keeps fun _ =>
      .after .current fun now => .after (.emit _) fun _ => .rescue h fun _ =>
        exhausted_records
  | readError => exact retrying_records h _ _
  | unspecified => exact fun _ => (List.append_nil _).symm
  | recording name =>
    -- What the attempt has entered stays, and the record after it enters nothing.
    refine .after (.emit _) fun _ i => ?_
    have hi := h i
    rw [Act.bind_apply]
    rcases hx : attempt i with ⟨f | outcome, j, es⟩
    · rw [hx] at hi
      exact hi
    · rw [hx] at hi
      exact hi

/-- **A guarded question enters the answer that it ends with, and no other.** -/
theorem Pipeline.guard_records (h : Act.Records attempt) (policies : Pipeline) :
    Act.Records (Pipeline.guard inputs.ledgered config policies attempt) := by
  induction policies generalizing attempt with
  | nil => exact h
  | cons policy policies ih => exact ih (Policy.guard_records h policy)

end Records

/-! ## What a session enters -/

namespace Session

variable {setup : Setup ι δ σ}

theorem onEvaluator_keeps (x : Act Notice σ α) :
    Act.Keeps Session.answers (onEvaluator x : Act Event (Session ι (Ledger δ) σ) α) :=
  fun _ => rfl

/-- No answer is entered but by a question. -/
theorem follow_keeps (prompt : String) (indentation : List Char) (outcome : Outcome) :
    Act.Keeps Session.answers (follow setup.ledgered prompt indentation outcome) := by
  have hconducted : Conducted setup.ledgered (.keeping Session.answers) :=
    { loop := fun _ _ => rfl, tracker := fun _ _ => rfl, evaluated := fun _ _ => rfl
      discarded := fun _ => rfl, prompt := onEvaluator_keeps _, eval := fun _ => onEvaluator_keeps _
      discard := onEvaluator_keeps _ }
  exact follow_honours hconducted prompt indentation outcome

theorem asking_records (prompt : String) (s : Session ι (Ledger δ) σ) :
    Act.Records (asking setup.ledgered prompt s) :=
  .after (.ofExcept _) fun _ => Pipeline.guard_records (ask_records _ _) _

theorem settle_answers (s : Session ι (Ledger δ) σ) :
    (settle setup.ledgered s).answers = s.answers := by
  rw [settle]
  split <;> rfl

/-- A turn enters the answer that its read has ended with. -/
theorem turn_answers (s : Session ι (Ledger δ) σ) :
    (turn setup.ledgered s).state.answers =
      s.answers ++ (reading? setup s.bare).toList.flatMap Reading.answers := by
  have hkept := onEvaluator_keeps setup.evaluator.prompt s
  have hbare : (onEvaluator setup.evaluator.prompt s).seen Session.bare =
      onEvaluator setup.evaluator.prompt s.bare := onEvaluator_simulates _ s
  rcases hprompt : onEvaluator setup.evaluator.prompt s with ⟨f | prompt, t, es⟩
  · rw [hprompt] at hkept hbare
    rw [turn_of_prompt_error hprompt, reading?_of_prompt_error hbare.symm]
    exact hkept.trans (List.append_nil _).symm
  rw [hprompt] at hkept hbare
  -- The question is the same without the ledger, so the read ends with the answer it enters.
  have hasking : (asking setup.ledgered prompt (settle setup.ledgered t)
      (settle setup.ledgered t).intake).seen Intake.bare =
        asking setup prompt (settle setup t.bare) (settle setup t.bare).intake := by
    rw [← settle_bare]
    exact asking_simulates prompt _ _
  have hstart : (settle setup.ledgered t).answers = s.answers := (settle_answers t).trans hkept
  have hrecords : (asking setup.ledgered prompt (settle setup.ledgered t)
      (settle setup.ledgered t).intake).state.answers =
        (settle setup.ledgered t).answers ++ Outcome.answers _ := asking_records prompt _ _
  rw [turn_of_prompt hprompt, reading?_of_prompt hbare.symm, ← hasking, Run.after_state]
  show _ = s.answers ++ (Outcome.answers (asking setup.ledgered prompt _ _).result ++ [])
  rw [List.append_nil, ← hstart, ← hrecords, asking, Act.bind_apply, Act.bind_apply]
  rcases (settle setup.ledgered t).indentation? setup.ledgered with f | indentation
  · rfl
  · rw [Act.ofExcept_apply, Act.ofExcept_apply, Run.andThen_ok, Run.andThen_ok, Run.after_nil,
      Run.after_nil, Act.bind_apply, onIntake, Act.within_apply]
    rcases (settle setup.ledgered t).question setup.ledgered (prompt ++ String.ofList indentation)
      (settle setup.ledgered t).intake with ⟨f | outcome, i, ds⟩
    · rfl
    · exact follow_keeps prompt indentation outcome { settle setup.ledgered t with intake := i }

theorem turnsWithin_answers (n : Nat) (s : Session ι (Ledger δ) σ) :
    (turnsWithin setup.ledgered n s).state.answers =
      s.answers ++ (reads setup n s.bare).flatMap Reading.answers := by
  induction n generalizing s with
  | zero => exact (List.append_nil _).symm
  | succ n ih =>
    have hanswers : (turn setup.ledgered s).state.answers = _ := turn_answers s
    have hturn : (turn setup.ledgered s).seen Session.bare = turn setup s.bare := turn_simulates s
    rw [turnsWithin_succ, reads, ← hturn, List.flatMap_append, ← List.append_assoc, ← hanswers]
    rcases turn setup.ledgered s with ⟨f | (_ | v), t, es⟩
    · exact (List.append_nil _).symm
    · exact ih t
    · exact (List.append_nil _).symm

/-- **The ledger of a session holds the answers of its reads.** -/
theorem opened_answers (n : Nat) (s : Session ι (Ledger δ) σ) :
    (opened setup.ledgered n s).state.answers =
      s.answers ++ (openedReads setup n s.bare).flatMap Reading.answers := by
  have hkept : (begin setup.ledgered s).state.answers = s.answers :=
    begin_keeps (fun _ _ => rfl) (fun _ _ => rfl) s
  have hbegin : (begin setup.ledgered s).seen Session.bare = begin setup s.bare := begin_simulates s
  rw [opened, Act.bind_apply, openedReads, ← hbegin]
  rcases h : begin setup.ledgered s with ⟨f | ⟨⟩, t, es⟩
  · rw [h] at hkept
    exact hkept.trans (List.append_nil _).symm
  · rw [h] at hkept
    rw [Run.andThen_ok, Run.after_state, turnsWithin_answers, ← hkept]
    rfl

end Session

end PromptLoop
