import PromptLoop.Proofs.Recovery.Draining
import PromptLoop.Proofs.Session.Cancelling
import PromptLoop.Proofs.Session.Splitting
import PromptLoop.Proofs.Source.Steps
import PromptLoop.Rehearsal.Hook

/-!
# A session over finite input ends

Each turn of a console takes a step, or comes to an end of the input. At the end of the input a
session ends at once, unless a statement is unfinished: that is given up first. So a session has at
most two turns more than there are steps.

## Main results

* `Session.turn_drains`: a turn that goes on takes a step, or closes the input
* `Session.turn_closed`: a turn that finds the input closed is the last but one
* `Session.begin_intake`: where the first turn reads from
* `Session.run?_isSome_of_left`: a session ends once no steps are left to its turns
* `Session.finite_input`: a session over finite input ends
-/

namespace PromptLoop.Session

variable {ι δ σ π : Type}

/-! ## Where the first turn reads from -/

section Before

variable (setup : Setup ι δ σ)

/-- Hooks may put other sources in place, but leave the supply alone. -/
theorem obey_intake (es : List (HookEvent ι)) (s : Session ι δ σ) :
    ∃ source, (obey setup es s).state.intake = ⟨source, s.intake.supply⟩ ∧
      (source = s.intake.source ∨ .switched source ∈ es) := by
  induction es generalizing s with
  | nil => exact ⟨s.intake.source, rfl, .inl rfl⟩
  | cons e es ih =>
    cases e with
    | ran name =>
      obtain ⟨source, hintake, hsource⟩ := ih s
      exact ⟨source, hintake, hsource.imp_right (List.mem_cons_of_mem _)⟩
    | notice n =>
      obtain ⟨source, hintake, hsource⟩ := ih s
      exact ⟨source, hintake, hsource.imp_right (List.mem_cons_of_mem _)⟩
    | switched other =>
      obtain ⟨source, hintake, hsource⟩ := ih { s with intake := ⟨other, s.intake.supply⟩ }
      refine ⟨source, hintake, .inr ?_⟩
      -- The last source that is put in place stays, and that may be this one.
      rcases hsource with rfl | hmem
      · exact List.mem_cons_self
      · exact List.mem_cons_of_mem _ hmem

theorem begin_intake (s : Session ι δ σ) :
    ∃ source, (begin setup s).state.intake = ⟨source, s.intake.supply⟩ ∧
      (source = s.intake.source ∨
        .switched source ∈ setup.hookEvents "before_session" s.evaluator) := by
  obtain ⟨source, hintake, hsource⟩ := obey_intake setup
    (setup.hookEvents "before_session" s.evaluator)
    { s with evaluator := (setup.evaluator.fire "before_session"
        [.output, setup.evaluator.binding s.evaluator, .session] s.evaluator).state }
  have hfire : (fire setup "before_session" s).state.intake = ⟨source, s.intake.supply⟩ := hintake
  refine ⟨source, ?_, hsource⟩
  rw [begin_eq, Run.after_state, prelude, Act.bind_apply]
  rcases h : fire setup "before_session" s with ⟨f | ⟨⟩, u, ds⟩
  · rw [h] at hfire
    exact hfire
  · -- What the loop writes after the hooks leaves the intake alone.
    rw [h] at hfire
    rw [Run.andThen_ok]
    split <;> exact hfire

end Before

/-! ## Turns of a console -/

section Console

variable {runtime : Console.Runtime π} {setup : Setup ι δ (Hooked ι Console)}
  {s t : Session ι δ (Hooked ι Console)} {es : List Event} {n : Nat}

/-- A wish to end the session that is not granted gives up an unfinished statement. -/
theorem console_end_proceeds
    (hconsole : setup.evaluator = (Console.interpreter runtime).withHooks) {h : Hooked ι Console}
    (hproceed : (setup.evaluator.eval none h).result = .ok .proceed) : h.core.buffer ≠ [] := by
  intro hempty
  rw [hconsole] at hproceed
  change (Console.evalEnd h.core).result = _ at hproceed
  rw [Console.evalEnd, Act.bind_apply, Act.current_apply, Run.andThen_ok, Run.after_nil, hempty]
    at hproceed
  cases hproceed

/-- A turn that goes on after the wish to end the session gives up an unfinished statement. -/
theorem turn_endOfSession (hconsole : setup.evaluator = (Console.interpreter runtime).withHooks)
    {ρ : Reading ι δ (Hooked ι Console)} (hturn : turn setup s = ⟨.ok .again, t, es⟩)
    (hρ : reading? setup s = some ρ) (hend : ρ.result = .ok .endOfSession) :
    s.buffer ≠ [] ∧ t.buffer = [] := by
  obtain ⟨hevaluator, -⟩ := turn_end hconsole hρ hend
  have hstart := (console_start hconsole hρ).1
  have hagain := (turn_of_reading hρ).1
  rw [hturn, Reading.response, hend] at hagain
  have hproceed := verdict_eq_again hagain.symm
  rw [hturn] at hevaluator
  rw [hstart] at hproceed
  refine ⟨console_end_proceeds hconsole hproceed, ?_⟩
  rw [buffer, hevaluator]
  exact console_end hconsole hproceed

variable (hconsole : setup.evaluator = (Console.interpreter runtime).withHooks)
  (hpolicies : setup.policies = .standard) (dry : setup.inputs.RunsDry)

include hconsole hpolicies

/-- **A turn that goes on takes a step**, or it has found the input closed and has given up an
unfinished statement. -/
theorem turn_drains (hturn : turn setup s = ⟨.ok .again, t, es⟩) :
    dry.left t.intake < dry.left s.intake ∨ dry.Closed t.intake ∧ t.buffer = [] := by
  obtain ⟨ρ, complete, prompt, outcome, hρ, hread, hresult, hstate⟩ := turn_intake hturn
  rw [hpolicies] at hresult hstate
  have hdrains := dry.guard_drains setup.config complete prompt s.intake outcome hresult
  rw [hstate] at hdrains
  rcases hdrains with hlt | rfl | ⟨rfl, hclosed⟩
  · exact .inl hlt
  · -- Without any input left the session ends, but this turn goes on.
    have hagain := (turn_of_reading hρ).1
    rw [hturn, Reading.response, hread] at hagain
    cases hagain
  · exact .inr ⟨hclosed, (turn_endOfSession hconsole hturn hρ hread).2⟩

/-- A turn that finds the input closed ends the session, unless a statement is unfinished. -/
theorem turn_closed (hturn : turn setup s = ⟨.ok .again, t, es⟩) (hclosed : dry.Closed s.intake) :
    s.buffer ≠ [] := by
  obtain ⟨ρ, complete, prompt, outcome, hρ, hread, hresult, -⟩ := turn_intake hturn
  rw [hpolicies] at hresult
  obtain ⟨hend, -⟩ := dry.guard_closed setup.config complete prompt hclosed
  obtain rfl := Except.ok.inj (hresult.symm.trans hend)
  exact (turn_endOfSession hconsole hturn hρ hread).1

/-- The turns end once there are two more of them than steps. -/
theorem turns?_isSome_of_left (hn : dry.left s.intake + 2 ≤ n) :
    (turns? setup n s).isSome = true := by
  -- by induction on the turns that are allowed; the last two need not take a step
  induction n generalizing s with
  | zero => exact absurd hn (Nat.not_succ_le_zero _)
  | succ n ih =>
    rw [turns?_succ]
    rcases hturn : turn setup s with ⟨f | (_ | v), t, es⟩
    · rfl
    · show ((turns? setup n t).map _).isSome = true
      rw [Option.isSome_map]
      rcases turn_drains hconsole hpolicies dry hturn with hlt | ⟨hclosed, hempty⟩
      · exact ih (by omega)
      · -- Nothing is unfinished any more, so the next turn ends the session.
        obtain ⟨m, rfl⟩ : ∃ m, n = m + 1 := ⟨n - 1, by omega⟩
        rw [turns?_succ]
        rcases hnext : turn setup t with ⟨f | (_ | v), u, ds⟩
        · rfl
        · exact absurd hempty (turn_closed hconsole hpolicies dry hnext hclosed)
        · rfl
    · rfl

/-- A session ends where no more steps are left when its first turn begins than its limit allows. -/
theorem run?_isSome_of_left (hn : dry.left (begin setup s).state.intake + 2 ≤ n) :
    (run? setup n s).isSome = true := by
  rw [run?]
  rcases hbegin : begin setup s with ⟨f | ⟨⟩, t, es⟩
  · rfl
  · rw [hbegin] at hn
    show ((turns? setup n t).map _).isSome = true
    rw [Option.isSome_map]
    exact turns?_isSome_of_left hconsole hpolicies dry hn

/-- **A session over finite input ends.** The console reads from sources of which each has finitely
many steps, and so has the supply; no more than so many are left in whatever source is in place when
the first turn begins, and in those that may take its place. Then the session has at most two turns
more, whatever the steps are and however the supply fails. -/
theorem finite_input {steps : Nat} (hinitial : dry.left s.intake ≤ steps)
    (hswitched : ∀ source, .switched source ∈ setup.hookEvents "before_session" s.evaluator →
      dry.left ⟨source, s.intake.supply⟩ ≤ steps) (hn : steps + 2 ≤ n) :
    (run? setup n s).isSome = true := by
  obtain ⟨source, hintake, hsource⟩ := begin_intake setup s
  have hleft : dry.left (begin setup s).state.intake ≤ steps := by
    rw [hintake]
    rcases hsource with rfl | hmem
    · exact hinitial
    · exact hswitched source hmem
  exact run?_isSome_of_left hconsole hpolicies dry (by omega)

end Console

/-- A hook puts a script in place that has the first line of a block. The supply fails once, and
then it yields a line editor at which one line more is typed. -/
def switchedSession : Session Source Desk (Hooked Source Console) :=
  initial blockSetup
    ⟨{}, { hooks := [Rehearsal.HookPlan.hook { switchTo := some headerScript.source }
      "before_session" "opening"] }⟩
    ⟨.scripted .withPrompt "empty" [],
      { fallbacks := some [.failure (.raised .os none),
          .source (.editor false (.str "editor") [.answer (some "y")])] }⟩

/-- Two lines are read, then the block is given up, and then the session ends: a turn less would not
do. -/
theorem finite_input_switchedSession :
    (Desk.runsDry.left switchedSession.intake ≤ 2 ∧
        (∀ source, .switched source ∈
            blockSetup.hookEvents "before_session" switchedSession.evaluator →
          Desk.runsDry.left ⟨source, switchedSession.intake.supply⟩ ≤ 2)) ∧
      (run? blockSetup 4 switchedSession).isSome = true ∧
      (run? blockSetup 3 switchedSession).isSome = false := by
  have hinitial : Desk.runsDry.left switchedSession.intake ≤ 2 := by decide
  have hswitched : ∀ source, .switched source ∈
      blockSetup.hookEvents "before_session" switchedSession.evaluator →
        Desk.runsDry.left ⟨source, switchedSession.intake.supply⟩ ≤ 2 := by
    intro source hmem
    have hevents : blockSetup.hookEvents "before_session" switchedSession.evaluator =
        [.ran "opening", .switched headerScript.source] := rfl
    rw [hevents] at hmem
    obtain rfl : source = headerScript.source := by simpa using hmem
    decide
  refine ⟨⟨hinitial, hswitched⟩, ?_, by rfl⟩
  exact finite_input rfl rfl Desk.runsDry hinitial hswitched (Nat.le_refl 4)

end PromptLoop.Session
