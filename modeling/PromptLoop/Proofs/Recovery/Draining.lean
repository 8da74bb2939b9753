import PromptLoop.Proofs.Recovery.Machine

/-!
# Reads of inputs that run dry

Sources have finitely many steps, and the supply yields finitely many steps in all. A source that
has none left fails whenever it is asked, or asks to end the session whenever it is asked. A guarded
read then takes a step, wherever it finds one, or it comes to an end of the input: how often it has
to try again, and which sources it goes through, makes no difference.

## Main definitions

* `Inputs.RunsDry`: how many steps are left, and when a source is at its end
* `Inputs.RunsDry.Drains`: an attempt that takes a step or comes to an end of the input

## Main results

* `Inputs.RunsDry.step_drains`: one attempt of the machine, and what follows from it
* `Inputs.RunsDry.run_drains`: the attempts of the machine
* `Inputs.RunsDry.guard_drains`: a guarded read
* `Inputs.RunsDry.guard_closed`: a guarded read of a source that asks to end the session
-/

namespace PromptLoop

variable {ι δ : Type}

/-- A fresh source takes the place of the current one, unless the supply fails. -/
theorem Attempt.refill_state (inputs : Inputs ι δ) (i : Intake ι δ) :
    (Attempt.refill inputs i).state =
      ⟨(inputs.fresh i.supply).result.toOption.getD i.source, (inputs.fresh i.supply).state⟩ := by
  rcases h : inputs.fresh i.supply with ⟨f | next, supply, es⟩
  · rw [refill_of_error h]
    rfl
  · rw [refill_of_ok h]
    rfl

/-- Inputs that run dry. -/
structure Inputs.RunsDry (inputs : Inputs ι δ) where
  /-- How many steps are left in the current source and in those that may take its place. -/
  left : Intake ι δ → Nat
  /-- The current source is at its end, and asks to end the session. -/
  Closed : Intake ι δ → Prop
  /-- A read takes a step, unless none is left: then it fails otherwise than by an interrupt, or it
  finds the source closed. -/
  read_takes : ∀ complete prompt i, let r := inputs.read complete prompt i
    left r.state < left i ∨ left r.state ≤ left i ∧
      ((∃ f, r.result = .error f ∧ f.isA .keyboardInterrupt = false) ∨
        r.result = .ok none ∧ Closed r.state)
  /-- A closed source stays closed. -/
  read_closed : ∀ complete prompt i, Closed i →
    (inputs.read complete prompt i).result = .ok none ∧
      Closed (inputs.read complete prompt i).state
  /-- Where a source has come to an end of its input, a fresh one brings no more steps than were
  left for it. -/
  refill_le : ∀ complete prompt i f, (inputs.read complete prompt i).result = .error f →
    f.isA .endOfFile = true →
      left (Attempt.refill inputs (inputs.read complete prompt i).state).state ≤
        left (inputs.read complete prompt i).state

namespace Inputs.RunsDry

variable {inputs : Inputs ι δ} (dry : inputs.RunsDry) {config : Config}
  {complete : String → List String} {prompt : String} {bound : Nat}

/-- Attempts that start with no more steps than a bound. They bring in no steps, and if they come to
an outcome, then a step was taken or the input has come to an end. -/
structure Drains (bound : Nat) (r : Run ReadEvent (Standing ι δ) (Option Outcome)) : Prop where
  left_le : dry.left r.state.intake ≤ bound
  outcome : ∀ o, r.result = .ok (some o) → dry.left r.state.intake < bound ∨ o = .noMoreInput ∨
    o = .endOfSession ∧ dry.Closed r.state.intake

namespace Drains

variable {dry} {r : Run ReadEvent (Standing ι δ) (Option Outcome)}

theorem after (h : dry.Drains bound r) (es : List ReadEvent) : dry.Drains bound (r.after es) :=
  ⟨h.left_le, h.outcome⟩

theorem mono {less : Nat} (h : dry.Drains less r) (hle : less ≤ bound) : dry.Drains bound r where
  left_le := Nat.le_trans h.left_le hle
  outcome o ho := (h.outcome o ho).imp_left fun hlt => Nat.lt_of_lt_of_le hlt hle

/-- Attempts that come to no outcome, or that give up. -/
theorem of_le (hle : dry.left r.state.intake ≤ bound)
    (h : ∀ o, r.result = .ok (some o) → o = .noMoreInput) : dry.Drains bound r :=
  ⟨hle, fun o ho => .inr (.inl (h o ho))⟩

theorem of_lt (hlt : dry.left r.state.intake < bound) : dry.Drains bound r :=
  ⟨Nat.le_of_lt hlt, fun _ _ => .inl hlt⟩

end Drains

/-- A failure takes no step, be it tried again, given up or passed on. -/
theorem fail_drains (f : Failure) {s : Standing ι δ} (h : dry.left s.intake ≤ bound) :
    dry.Drains bound (Standing.fail inputs config f s) := by
  by_cases hf : config.rescues f = true
  · cases htext : f.text? with
    | none =>
      rw [Standing.fail_of_unwritten hf htext]
      exact .of_le h nofun
    | some text =>
      by_cases hmore : s.failures + 1 < config.budget
      · rw [Standing.fail_of_more hf htext hmore]
        exact .of_le h nofun
      · rw [Standing.fail_of_last hf htext hmore]
        refine .of_le h ?_
        rintro o ⟨⟩
        rfl
  · rw [Standing.fail_of_not_rescued (Bool.eq_false_iff.mpr hf)]
    exact .of_le h nofun

variable (config complete prompt) in
/-- **One attempt takes a step or comes to an end of the input**, or another one is made with as
many steps left. -/
theorem step_drains (s : Standing ι δ) :
    dry.Drains (dry.left s.intake)
      (Standing.step inputs config (Attempt.ask inputs complete prompt) s) := by
  have htakes := dry.read_takes complete prompt s.intake
  have hrefill := dry.refill_le complete prompt s.intake
  have hask := Attempt.ask_apply inputs complete prompt s.intake
  rcases hread : inputs.read complete prompt s.intake with ⟨f | answer, i, es⟩
  · rw [hread] at htakes hrefill hask
    have hle : dry.left i ≤ dry.left s.intake := htakes.elim Nat.le_of_lt And.left
    by_cases hint : f.isA .keyboardInterrupt = true
    · -- A source without steps is not interrupted, so this was a step.
      rw [Standing.step_of_interrupt hask hint]
      refine .of_lt (htakes.resolve_right ?_)
      rintro ⟨-, ⟨g, hg, hnot⟩ | ⟨hg, -⟩⟩
      · obtain rfl := Except.error.inj hg
        rw [hint] at hnot
        cases hnot
      · cases hg
    rw [Bool.not_eq_true] at hint
    by_cases hend : f.isA .endOfFile = true
    · -- A fresh source is put in place, if the supply has one.
      have hless := Nat.le_trans (hrefill f rfl hend) hle
      rcases hr : Attempt.refill inputs i with ⟨g | ⟨⟩, j, ds⟩
      · rw [hr] at hless
        rw [Standing.step_of_end_error hask hint hend hr]
        exact (fail_drains dry g hless).after _
      · rw [hr] at hless
        cases hreplaced : s.replaced with
        | true =>
          rw [Standing.step_of_end_replaced hask hint hend hr hreplaced]
          refine .of_le hless ?_
          rintro o ⟨⟩
          rfl
        | false =>
          rw [Standing.step_of_end hask hint hend hr hreplaced]
          exact .of_le hless nofun
    · rw [Bool.not_eq_true] at hend
      rw [Standing.step_of_error hask hint hend]
      exact (fail_drains dry f hle).after _
  · rw [hread] at htakes hask
    rw [Standing.step_of_ok hask]
    rcases htakes with hlt | ⟨hle, ⟨f, hf, -⟩ | ⟨hnone, hclosed⟩⟩
    · exact .of_lt hlt
    · cases hf
    · obtain rfl := Except.ok.inj hnone
      refine ⟨hle, ?_⟩
      rintro o ⟨⟩
      exact .inr (.inr ⟨rfl, hclosed⟩)

variable (config complete prompt) in
/-- **So do the attempts of a read.** -/
theorem run_drains (n : Nat) (s : Standing ι δ) :
    dry.Drains (dry.left s.intake)
      (Standing.run inputs config (Attempt.ask inputs complete prompt) n s) := by
  -- by induction on the attempts: one without an outcome leaves the next no more steps than it had
  induction n generalizing s with
  | zero => exact .of_le (Nat.le_refl _) nofun
  | succ n ih =>
    have hstep := dry.step_drains config complete prompt s
    rw [Standing.run_succ]
    rcases h : Standing.step inputs config (Attempt.ask inputs complete prompt) s with
      ⟨f | (_ | o), t, es⟩
    · rw [h] at hstep
      exact hstep
    · rw [h] at hstep
      exact ((ih t).mono hstep.left_le).after es
    · rw [h] at hstep
      exact ⟨hstep.left_le, hstep.outcome⟩

variable (config complete prompt) in
/-- **A guarded read takes a step or comes to an end of the input.** -/
theorem guard_drains (i : Intake ι δ) :
    let r := Pipeline.guard inputs config .standard (Attempt.ask inputs complete prompt) i
    ∀ o, r.result = .ok o → dry.left r.state < dry.left i ∨ o = .noMoreInput ∨
      o = .endOfSession ∧ dry.Closed r.state := by
  intro r o ho
  have hdrains := dry.run_drains config complete prompt (2 * config.budget) ⟨i, 0, false⟩
  have hrun : Standing.ComesTo (Standing.run inputs config (Attempt.ask inputs complete prompt)
      (2 * config.budget) ⟨i, 0, false⟩) r := Standing.run_standard i
  rcases h : Standing.run inputs config (Attempt.ask inputs complete prompt) (2 * config.budget)
    ⟨i, 0, false⟩ with ⟨result, last, es⟩
  rw [h] at hdrains
  rw [Standing.ComesTo, h, Run.seen_mk] at hrun
  obtain ⟨hresult, hstate, -⟩ := Run.mk.inj hrun
  rw [ho] at hresult
  have hout := hdrains.outcome o hresult
  rw [hstate] at hout
  exact hout

variable (config complete prompt) in
/-- A guarded read of a closed source comes to the wish to end the session. -/
theorem guard_closed {i : Intake ι δ} (h : dry.Closed i) :
    let r := Pipeline.guard inputs config .standard (Attempt.ask inputs complete prompt) i
    r.result = .ok .endOfSession ∧ dry.Closed r.state := by
  obtain ⟨hresult, hclosed⟩ := dry.read_closed complete prompt i h
  have hask := Attempt.ask_apply inputs complete prompt i
  rw [hresult] at hask
  intro r
  have hr : r = _ := Standing.guard_of_ok hask
  rw [hr]
  exact ⟨rfl, hclosed⟩

end Inputs.RunsDry

end PromptLoop
