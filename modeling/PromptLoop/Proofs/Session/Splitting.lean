import PromptLoop.Proofs.Session.Agreement
import PromptLoop.Proofs.Session.Conduct
import PromptLoop.Proofs.Session.Likeness
import PromptLoop.Proofs.Session.Replay

/-!
# Input that is split over sources

Steps may be laid out in one source or in several, of which each takes the place of the one before
it once that has run dry. A session does not tell one from the other: the evaluator is told the
same, the same prompts are shown where a step is taken, and the session ends in the same way.

## Main definitions

* `Event.note`: the calls of the evaluator, and those of sources that did not find them dry
* `Script`, `Script.laidOut`: steps of a source, and sources that follow one another

## Main results

* `Session.opened_alike`: sessions that have the same steps before them are alike
* `Session.turn_takesStep`: a turn that is not the last takes a step
* `Session.splitting_unseen`: how steps are spread over sources is not seen
-/

namespace PromptLoop

variable {ι δ σ α : Type}

/-- Notes the calls of the evaluator, and those of sources that did not find them dry. -/
def Event.note (seen : List Mark) : Event → List Mark
  | .reading e => e.note seen
  | .evaluated line => seen ++ [.handed line]
  | .discarded => seen ++ [.dropped]
  | _ => seen

theorem Event.note_unlogged : Event.Unlogged Event.note := ⟨fun _ _ => rfl, fun _ _ => rfl⟩

namespace Session

variable {setup : Setup ι δ σ} {I : Intake ι δ → Intake ι δ → Prop}

/-- **Sessions that have the same steps before them are alike.** -/
theorem opened_alike {s t : Session ι δ σ} (h : Like I s t)
    (hhooks : setup.KeepsSource "before_session" s.evaluator)
    (hquestion : ∀ complete prompt, Act.Alike ReadEvent.note I
      (Pipeline.guard setup.inputs setup.config setup.policies
        (Attempt.ask setup.inputs complete prompt))
      (Pipeline.guard setup.inputs setup.config setup.policies
        (Attempt.ask setup.inputs complete prompt))) (n : Nat) :
    (opened setup n s).Alike Event.note (Like I) (opened setup n t) := by
  have hasks : setup.AsksAlike Event.note (fun _ => True) I :=
    fun _ _ i j hij _ => hquestion _ _ i j hij
  exact opened_alike_of hasks rfl (begin_alike Event.note_unlogged h hhooks) fun _ _ => trivial

/-! ## What is seen of a session -/

/-- What is seen of a session: how it ends, what it makes of the evaluator, and the calls. -/
def observed {α : Type} (r : Run Event (Session ι δ σ) α) : Except Failure α × σ × List Mark :=
  (r.result, r.state.evaluator, r.events.foldl Event.note [])

theorem observed_eq {J : Intake ι δ → Intake ι δ → Prop} {r q : Run Event (Session ι δ σ) α}
    (h : r.Alike Event.note (Like J) q) : observed r = observed q := by
  rw [observed, observed, h.result_eq, h.state.evaluator_eq, h.noted_eq]

theorem run?_observed {s t : Session ι δ σ} {n : Nat}
    (h : (opened setup n s).Alike Event.note (Like I) (opened setup n t)) :
    (run? setup n s).map observed = (run? setup n t).map observed := by
  rcases run?_alike_of Event.note_unlogged h with ⟨hr, hq⟩ | ⟨r, q, hr, hq, halike⟩
  · rw [hr, hq]
  · rw [hr, hq]
    exact congrArg some (observed_eq halike)

/-! ## A session ends when its steps are taken -/

section Steps

variable {setup : Setup Source Desk σ} {s t : Session Source Desk σ} {es : List Event}
  {steps : List Step}

/-- What follows from a read leaves the intake alone. -/
theorem follow_intake (prompt : String) (indentation : List Char) (outcome : Outcome)
    (s : Session ι δ σ) {setup : Setup ι δ σ} :
    (follow setup prompt indentation outcome s).state.intake = s.intake := by
  have hconducted : Conducted setup (.keeping Session.intake) :=
    { loop := fun _ _ => rfl, tracker := fun _ _ => rfl, evaluated := fun _ _ => rfl
      discarded := fun _ => rfl, prompt := fun _ => rfl, eval := fun _ _ => rfl
      discard := fun _ => rfl }
  exact follow_honours hconducted prompt indentation outcome s

/-- A turn that goes on has read something, and leaves the intake as its question has left it. -/
theorem turn_intake {setup : Setup ι δ σ} {s t : Session ι δ σ} {es : List Event}
    (hturn : turn setup s = ⟨.ok .again, t, es⟩) :
    ∃ ρ complete prompt outcome, reading? setup s = some ρ ∧ ρ.result = .ok outcome ∧
      let asked := Pipeline.guard setup.inputs setup.config setup.policies
        (Attempt.ask setup.inputs complete prompt) s.intake
      asked.result = .ok outcome ∧ asked.state = t.intake := by
  rcases hprompt : onEvaluator setup.evaluator.prompt s with ⟨f | prompt, u, ds⟩
  · rw [turn_of_prompt_error hprompt] at hturn
    cases hturn
  -- Up to its question a turn sees to the evaluator and the tracker alone.
  have hintake : (settle setup u).intake = s.intake := by
    have hu : (onEvaluator setup.evaluator.prompt s).state.intake = s.intake := rfl
    rw [hprompt] at hu
    rw [← hu, settle]
    split <;> rfl
  have hreading := reading?_of_prompt hprompt
  rw [asking, Act.bind_apply, hintake] at hreading
  rw [turn_of_prompt hprompt, Act.bind_apply] at hturn
  rcases hind : (settle setup u).indentation? setup with f | indentation
  · rw [hind] at hturn
    cases hturn
  rw [hind, Act.ofExcept_apply, Run.andThen_ok, Run.after_nil] at hreading
  rw [hind, Act.ofExcept_apply, Run.andThen_ok, Run.after_nil, Act.bind_apply, onIntake,
    Act.within_apply, hintake] at hturn
  rcases hquestion : (settle setup u).question setup (prompt ++ String.ofList indentation)
    s.intake with ⟨f | outcome, i, gs⟩
  · rw [hquestion] at hturn
    cases hturn
  rw [hquestion] at hturn hreading
  -- From here on the turn is what follows from the outcome of the question.
  have hstate := congrArg (fun r => r.state.intake) hturn
  change (follow setup prompt indentation outcome _).state.intake = _ at hstate
  rw [follow_intake] at hstate
  refine ⟨_, setup.evaluator.complete (settle setup u).evaluator,
    prompt ++ String.ofList indentation, outcome, hreading, rfl, ?_⟩
  show ((settle setup u).question setup _ s.intake).result = _ ∧
    ((settle setup u).question setup _ s.intake).state = _
  rw [hquestion]
  exact ⟨rfl, hstate⟩

/-- **A turn that is not the last takes a step.** -/
theorem turn_takesStep (hinputs : setup.inputs = Desk.inputs)
    (hpolicies : setup.policies = .standard) (h : Replays s.intake steps)
    (hturn : turn setup s = ⟨.ok .again, t, es⟩) :
    ∃ later, Replays t.intake later ∧ later.length < steps.length := by
  obtain ⟨ρ, complete, prompt, outcome, hρ, hread, hresult, hstate⟩ := turn_intake hturn
  rw [hinputs, hpolicies] at hresult hstate
  obtain ⟨later, hlater, hless⟩ := guard_standard_takesStep complete prompt setup.config h
  rw [← hstate]
  refine ⟨later, hlater, hless.resolve_right fun hend => ?_⟩
  -- A read that takes no step ends the session, but this turn goes on.
  obtain rfl := Except.ok.inj (hresult.symm.trans hend)
  have hagain := (turn_of_reading hρ).1
  rw [hturn, Reading.response, hread] at hagain
  cases hagain

theorem turns?_isSome (hinputs : setup.inputs = Desk.inputs)
    (hpolicies : setup.policies = .standard) (h : Replays s.intake steps) {n : Nat}
    (hn : steps.length < n) :
    (turns? setup n s).isSome = true := by
  -- by induction on the turns that are allowed, of which there are more than steps
  induction n generalizing s steps with
  | zero => exact absurd hn (Nat.not_lt_zero _)
  | succ n ih =>
    rw [turns?_succ]
    rcases hturn : turn setup s with ⟨f | (_ | v), t, es⟩
    · rfl
    · obtain ⟨later, hlater, hless⟩ := turn_takesStep hinputs hpolicies h hturn
      show ((turns? setup n t).map _).isSome = true
      rw [Option.isSome_map]
      exact ih hlater (by omega)
    · rfl

theorem run?_isSome (hinputs : setup.inputs = Desk.inputs) (hpolicies : setup.policies = .standard)
    (hhooks : setup.KeepsSource "before_session" s.evaluator) (h : Replays s.intake steps) {n : Nat}
    (hn : steps.length < n) : (run? setup n s).isSome = true := by
  -- The hooks before the first turn leave all the steps in place.
  have hlike : Like (fun i _ => i = s.intake) s s := ⟨rfl, rfl, rfl⟩
  have hbegin : (begin setup s).state.intake = s.intake :=
    (begin_alike Event.note_unlogged hlike hhooks).state.intake
  rw [run?]
  rcases hresult : begin setup s with ⟨f | ⟨⟩, t, es⟩
  · rfl
  · rw [hresult] at hbegin
    rw [← hbegin] at h
    show ((turns? setup n t).map _).isSome = true
    rw [Option.isSome_map]
    exact turns?_isSome hinputs hpolicies h hn

end Steps

end Session

/-! ## Steps in one source and in several -/

/-- A source that plays back steps. -/
structure Script where
  convention : Convention
  name : String
  steps : List Step

namespace Script

/-- A script as a source. -/
def source (script : Script) : Source := .scripted script.convention script.name script.steps

/-- A script that has a step, and whose steps answer or fail otherwise than by an end of input. -/
def Plays (script : Script) : Prop := script.steps ≠ [] ∧ ∀ step ∈ script.steps, step.IsPlain

/-- A first source, and others that take its place one after the other; after those come empty
ones. -/
def laidOut (first : Script) (others : List Script) : Intake Source Desk where
  source := first.source
  supply := { fallbacks := some (others.map fun script => .source script.source) }

theorem laidOut_replays {first : Script} {others : List Script}
    (h : ∀ script ∈ first :: others, script.Plays) :
    Replays (laidOut first others) ((first :: others).flatMap steps) := by
  have hlaid : ∀ scripts : List Script, (∀ script ∈ scripts, script.Plays) →
      LaidOut (scripts.map fun script => .source script.source) (scripts.flatMap steps) := by
    -- by induction on the scripts: none of them is empty, so each is laid out with its first step
    intro scripts
    induction scripts with
    | nil => exact fun _ => .nil
    | cons script scripts ih =>
      intro hplays
      obtain ⟨⟨hne, -⟩, hrest⟩ := List.forall_mem_cons.mp hplays
      obtain ⟨convention, name, own⟩ := script
      cases own with
      | nil => exact absurd rfl hne
      | cons step own => exact .cons convention name step own (ih hrest)
  obtain ⟨-, hothers⟩ := List.forall_mem_cons.mp h
  refine ⟨⟨_, _, _, _, _, rfl, rfl, hlaid others hothers, rfl⟩, ?_⟩
  intro step hstep
  obtain ⟨script, hscript, hmem⟩ := List.mem_flatMap.mp hstep
  exact (h script hscript).2 step hmem

end Script

namespace Session

/-- **How steps are spread over sources is not seen.** Scripts are laid out for a session, one after
the other, or one script is that has all their steps. Without hooks that put another source in place
the session then tells its evaluator the same, shows the same prompts where a step is taken, and
ends in the same way; and it does end, a turn after its last step at the latest. -/
theorem splitting_unseen {setup : Setup Source Desk σ} {evaluator : σ}
    (hinputs : setup.inputs = Desk.inputs) (hpolicies : setup.policies = .standard)
    (hhooks : setup.KeepsSource "before_session" evaluator) {first single : Script}
    {others : List Script} (hplays : ∀ script ∈ first :: others, script.Plays)
    (hsteps : single.steps = (first :: others).flatMap Script.steps) :
    let split := initial setup evaluator (Script.laidOut first others)
    let whole := initial setup evaluator (Script.laidOut single [])
    (∀ n, observed (opened setup n split) = observed (opened setup n whole)) ∧
      (∀ n, (run? setup n split).map observed = (run? setup n whole).map observed) ∧
      ∀ n, single.steps.length < n → (run? setup n whole).isSome = true := by
  intro split whole
  have hsplit : Replays split.intake single.steps := by
    rw [hsteps]
    exact Script.laidOut_replays hplays
  have hwhole : Replays whole.intake single.steps :=
    ⟨⟨_, _, _, _, _, rfl, rfl, .nil, (List.append_nil _).symm⟩, hsplit.plain⟩
  have hquestion : ∀ complete prompt, Act.Alike ReadEvent.note SameSteps
      (Pipeline.guard setup.inputs setup.config setup.policies
        (Attempt.ask setup.inputs complete prompt))
      (Pipeline.guard setup.inputs setup.config setup.policies
        (Attempt.ask setup.inputs complete prompt)) := by
    intro complete prompt
    rw [hinputs, hpolicies]
    exact guard_standard_alike
  have halike : ∀ n, (opened setup n split).Alike Event.note (Like SameSteps)
      (opened setup n whole) :=
    opened_alike ⟨rfl, rfl, _, hsplit, hwhole⟩ hhooks hquestion
  exact ⟨fun n => observed_eq (halike n), fun n => run?_observed (halike n),
    fun n hn => run?_isSome hinputs hpolicies hhooks hwhole hn⟩

/-- The first line of a block. -/
def headerScript : Script := ⟨.withPrompt, "header", [.answer (some "if x:")]⟩

/-- The line below it. -/
def bodyScript : Script := ⟨.withoutPrompt, "body", [.answer (some "y")]⟩

/-- Both lines. -/
def blockScript : Script := ⟨.withPrompt, "block", [.answer (some "if x:"), .answer (some "y")]⟩

/-- The prompt of the second line follows from the first, although another source is asked. -/
theorem splitting_unseen_in_block :
    (blockSetup.KeepsSource "before_session" ⟨{}, {}⟩ ∧
        (∀ script ∈ [headerScript, bodyScript], script.Plays) ∧
        blockScript.steps = [headerScript, bodyScript].flatMap Script.steps) ∧
      observed (opened blockSetup 2
          (initial blockSetup ⟨{}, {}⟩ (Script.laidOut headerScript [bodyScript]))) =
        observed (opened blockSetup 2
          (initial blockSetup ⟨{}, {}⟩ (Script.laidOut blockScript []))) ∧
      (observed (opened blockSetup 2
          (initial blockSetup ⟨{}, {}⟩ (Script.laidOut headerScript [bodyScript])))).2.2 =
        [.asked ">>> ", .handed (some "if x:"), .asked "...   ", .handed (some "  y")] := by
  have hhooks : blockSetup.KeepsSource "before_session" ⟨{}, {}⟩ := by
    intro source hmem
    cases hmem
  have hplays : ∀ script ∈ [headerScript, bodyScript], script.Plays := by
    intro script hscript
    rcases List.mem_cons.mp hscript with rfl | hbody
    · exact ⟨nofun, fun step hstep => by rw [List.mem_singleton.mp hstep]; trivial⟩
    · obtain rfl := List.mem_singleton.mp hbody
      exact ⟨nofun, fun step hstep => by rw [List.mem_singleton.mp hstep]; trivial⟩
  exact ⟨⟨hhooks, hplays, rfl⟩, (splitting_unseen rfl rfl hhooks hplays rfl).1 2, by rfl⟩

end Session

end PromptLoop
