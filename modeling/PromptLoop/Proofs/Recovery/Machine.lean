import PromptLoop.Proofs.Act.Simulation
import PromptLoop.Recovery.Policy
import PromptLoop.Source.Desk

/-!
# The standard policies as one machine

The standard policies are three handlers around an attempt, one inside the other, each with a loop
and a state of its own. Together they are one machine that makes one attempt in each step. It counts
the failures it has reported, and remembers whether the source was replaced since the last of them.

## Main definitions

* `Standing`: a guarded read between two attempts
* `Standing.fail`, `Standing.step`, `Standing.run`: the machine
* `ReadEvent.writes`: what a read writes to the screen
* `ReadEvent.asks`, `ReadEvent.requests`: how often the source and the supply are called
* `Standing.Accounted`: a run within its bounds that shows what it counts

## Main results

* `Attempt.refill_of_ok`, `Attempt.refill_of_error`: what a refill makes of the source
* `Standing.run_standard`: the machine is the pipeline of the standard policies
* `Standing.run_accounted`: what the machine writes, asks and requests within a number of steps
* `guard_standard_eq_machine`: a read of a source is a run of the machine, within its bounds
-/

namespace PromptLoop

variable {ι δ : Type}

namespace ReadEvent

/-- What an event of a read writes to the screen. -/
def write? : ReadEvent → Option Write
  | .notice (.wrote write) => some write
  | _ => none

/-- The current source is asked for a line. -/
def isAsk : ReadEvent → Bool
  | .asked _ => true
  | _ => false

/-- The supply is asked for a fresh source. -/
def isRequest : ReadEvent → Bool
  | .requested => true
  | _ => false

/-- What a read writes to the screen, apart from what sources do. -/
def writes (es : List ReadEvent) : List Write := es.filterMap write?

/-- How often the current source is asked for a line. -/
def asks (es : List ReadEvent) : Nat := es.countP isAsk

/-- How often the supply is asked for a fresh source. -/
def requests (es : List ReadEvent) : Nat := es.countP isRequest

@[simp] theorem writes_append (es ds : List ReadEvent) :
    writes (es ++ ds) = writes es ++ writes ds := List.filterMap_append

@[simp] theorem asks_append (es ds : List ReadEvent) : asks (es ++ ds) = asks es + asks ds :=
  List.countP_append

@[simp] theorem requests_append (es ds : List ReadEvent) :
    requests (es ++ ds) = requests es + requests ds := List.countP_append

/-- Events that ask the current source `a` times and the supply `r` times, and write nothing. -/
structure Calls (a r : Nat) (es : List ReadEvent) : Prop where
  asks_eq : asks es = a
  requests_eq : requests es = r
  writes_eq : writes es = []

theorem Calls.append {a b r q : Nat} {es ds : List ReadEvent} (h : Calls a r es)
    (h' : Calls b q ds) : Calls (a + b) (r + q) (es ++ ds) where
  asks_eq := by rw [asks_append, h.asks_eq, h'.asks_eq]
  requests_eq := by rw [requests_append, h.requests_eq, h'.requests_eq]
  writes_eq := by rw [writes_append, h.writes_eq, h'.writes_eq, List.append_nil]

/-- What sources do is none of a read's own events. -/
theorem Calls.source (es : List SourceEvent) : Calls 0 0 (es.map .source) where
  asks_eq := by simp [asks, List.countP_eq_zero, isAsk]
  requests_eq := by simp [requests, List.countP_eq_zero, isRequest]
  writes_eq := by simp [writes, List.filterMap_eq_nil_iff, write?]

end ReadEvent

/-- A question is what the source answers to it. -/
theorem Attempt.ask_apply (inputs : Inputs ι δ) (complete : String → List String)
    (prompt : String) (i : Intake ι δ) :
    Attempt.ask inputs complete prompt i =
      ⟨(inputs.read complete prompt i).result.map Outcome.ofAnswer,
        (inputs.read complete prompt i).state,
        .asked prompt :: (inputs.read complete prompt i).events.map .source⟩ := by
  rw [Attempt.ask, Act.bind_apply, Act.emit_apply, Run.andThen_ok]
  show Run.after _ ((Outcome.ofAnswer <$> _ : Act ReadEvent (Intake ι δ) Outcome) i) = _
  rw [Act.map_apply, Act.within_apply]
  rfl

/-- The record of a source that is put in place of another one. -/
def Attempt.switchover (inputs : Inputs ι δ) (before next : ι) : ReadEvent :=
  .notice (.log .debug Log.sessionChannel
    ("source_switched: from=" ++ inputs.label before ++ ", to=" ++ inputs.label next))

/-- What the supply fails with leaves the source as it is. -/
theorem Attempt.refill_of_error {inputs : Inputs ι δ} {i : Intake ι δ} {f : Failure} {supply : δ}
    {es : List SourceEvent} (h : inputs.fresh i.supply = ⟨.error f, supply, es⟩) :
    Attempt.refill inputs i =
      ⟨.error f, { i with supply := supply }, .requested :: es.map .source⟩ := by
  rw [Attempt.refill, Act.bind_apply, Act.emit_apply, Run.andThen_ok, Act.bind_apply,
    Act.within_apply, h]
  rfl

/-- What the supply gives is the source from then on. -/
theorem Attempt.refill_of_ok {inputs : Inputs ι δ} {i : Intake ι δ} {next : ι} {supply : δ}
    {es : List SourceEvent} (h : inputs.fresh i.supply = ⟨.ok next, supply, es⟩) :
    Attempt.refill inputs i =
      ⟨.ok (), ⟨next, supply⟩,
        .requested :: (es.map .source ++ [switchover inputs i.source next])⟩ := by
  rw [Attempt.refill, Act.bind_apply, Act.emit_apply, Run.andThen_ok, Act.bind_apply,
    Act.within_apply, h]
  rfl

/-- How many failures of one read are tolerated. -/
def Config.budget (config : Config) : Nat := config.maxReadRetries.toNat

theorem Config.budget_pos (config : Config) : 0 < config.budget := by
  have := config.retries_pos
  rw [Config.budget]
  omega

/-- A guarded read between two attempts. -/
structure Standing (ι δ : Type) where
  intake : Intake ι δ
  /-- How many failures were reported. -/
  failures : Nat := 0
  /-- The source was replaced since the last failure. -/
  replaced : Bool := false

namespace Standing

variable (inputs : Inputs ι δ) (config : Config) (attempt : Attempt ι δ)

/-- The record of an interrupt. -/
def interruption (i : Intake ι δ) : ReadEvent :=
  .notice (.log .debug Log.recoveryChannel ("read_interrupted: source=" ++ inputs.label i.source))

/-- The record of a source that was replaced. -/
def replacement (before now : Intake ι δ) : ReadEvent :=
  .notice (.log .info Log.recoveryChannel
    ("input_fallback: exhausted=" ++ inputs.label before.source ++ ", now=" ++
      inputs.label now.source))

/-- The record of a fresh source that ran dry. -/
def exhaustion : ReadEvent :=
  .notice (.log .warning Log.recoveryChannel "no_more_input: ran out of things to read from")

/-- A failure that no handler inside is for: one that cannot be rescued passes; another one is
counted and reported, and the machine tries again unless the budget is spent. To report it is to say
what it says: where that cannot be written, what stands in its place is raised instead. -/
def fail (f : Failure) (s : Standing ι δ) : Run ReadEvent (Standing ι δ) (Option Outcome) :=
  if config.rescues f then
    match f.text? with
    | none => ⟨.error tooManyDigits, s, []⟩
    | some text =>
      let failed : Standing ι δ := ⟨s.intake, s.failures + 1, false⟩
      let report := Policy.failureReport inputs config (s.failures + 1) s.intake.source f text
      if s.failures + 1 < config.budget then ⟨.ok none, failed, report⟩
      else
        ⟨.ok (some .noMoreInput), failed, report ++ (Policy.reportFatal inputs s.intake).events⟩
  else ⟨.error f, s, []⟩

/-- What leaves a read that a failure ends: the failure itself, or what is raised while it is
reported. -/
def escape (f : Failure) : Failure :=
  if config.rescues f = true ∧ f.text? = none then tooManyDigits else f

section Fail

variable {inputs config} {f : Failure} {text : String} {s : Standing ι δ}

theorem fail_of_not_rescued (hf : config.rescues f = false) :
    fail inputs config f s = ⟨.error f, s, []⟩ := by
  simp only [fail, hf, Bool.false_eq_true, if_false]

theorem fail_of_unwritten (hf : config.rescues f = true) (htext : f.text? = none) :
    fail inputs config f s = ⟨.error tooManyDigits, s, []⟩ := by
  simp only [fail, hf, htext, if_true]

/-- A failure that is not reported ends the read. -/
theorem fail_of_unreported (h : config.rescues f = false ∨ f.text? = none) :
    fail inputs config f s = ⟨.error (escape config f), s, []⟩ := by
  by_cases hf : config.rescues f = true
  · have htext : f.text? = none := h.resolve_left (by rw [hf]; exact Bool.noConfusion)
    rw [fail_of_unwritten hf htext, escape, if_pos ⟨hf, htext⟩]
  · rw [fail_of_not_rescued (Bool.eq_false_iff.mpr hf), escape, if_neg fun h => hf h.1]

theorem fail_of_more (hf : config.rescues f = true) (htext : f.text? = some text)
    (hmore : s.failures + 1 < config.budget) :
    fail inputs config f s =
      ⟨.ok none, ⟨s.intake, s.failures + 1, false⟩,
        Policy.failureReport inputs config (s.failures + 1) s.intake.source f text⟩ := by
  simp only [fail, hf, htext, hmore, if_true]

theorem fail_of_last (hf : config.rescues f = true) (htext : f.text? = some text)
    (hlast : ¬ s.failures + 1 < config.budget) :
    fail inputs config f s =
      ⟨.ok (some .noMoreInput), ⟨s.intake, s.failures + 1, false⟩,
        Policy.failureReport inputs config (s.failures + 1) s.intake.source f text ++
          (Policy.reportFatal inputs s.intake).events⟩ := by
  simp only [fail, hf, htext, hlast, if_true, if_false]

end Fail

/-- One attempt and what follows from it: an outcome, or another attempt. -/
def step (s : Standing ι δ) : Run ReadEvent (Standing ι δ) (Option Outcome) :=
  match attempt s.intake with
  | ⟨.ok outcome, i, es⟩ => ⟨.ok (some outcome), { s with intake := i }, es⟩
  | ⟨.error f, i, es⟩ =>
    if f.isA .keyboardInterrupt then
      ⟨.ok (some .interrupted), { s with intake := i }, es ++ [interruption inputs i]⟩
    else if f.isA .endOfFile then
      match Attempt.refill inputs i with
      | ⟨.error g, j, ds⟩ => (fail inputs config g { s with intake := j }).after (es ++ ds)
      | ⟨.ok (), j, ds⟩ =>
        if s.replaced then
          ⟨.ok (some .noMoreInput), { s with intake := j }, es ++ ds ++ [exhaustion]⟩
        else ⟨.ok none, ⟨j, s.failures, true⟩, es ++ ds ++ [replacement inputs i j]⟩
    else (fail inputs config f { s with intake := i }).after es

/-- At most so many attempts; no outcome when they do not suffice. -/
def run : Nat → Act ReadEvent (Standing ι δ) (Option Outcome)
  | 0 => pure none
  | n + 1 => do
    match ← step inputs config attempt with
    | some outcome => return some outcome
    | none => run n

/-- What a run goes on with after a step. -/
def goOn (n : Nat) : Option Outcome → Act ReadEvent (Standing ι δ) (Option Outcome)
  | some outcome => pure (some outcome)
  | none => run inputs config attempt n

theorem run_succ (n : Nat) (s : Standing ι δ) :
    run inputs config attempt (n + 1) s =
      (step inputs config attempt s).andThen (goOn inputs config attempt n) := by
  show (step inputs config attempt s).andThen _ = _
  congr 1

section Step

variable {inputs config attempt} {s : Standing ι δ} {i j : Intake ι δ} {f g : Failure}
  {es ds : List ReadEvent}

theorem step_of_ok {outcome : Outcome} (h : attempt s.intake = ⟨.ok outcome, i, es⟩) :
    step inputs config attempt s = ⟨.ok (some outcome), { s with intake := i }, es⟩ := by
  rw [step, h]

theorem step_of_interrupt (h : attempt s.intake = ⟨.error f, i, es⟩)
    (hint : f.isA .keyboardInterrupt = true) :
    step inputs config attempt s =
      ⟨.ok (some .interrupted), { s with intake := i }, es ++ [interruption inputs i]⟩ := by
  simp only [step, h, hint, if_true]

theorem step_of_error (h : attempt s.intake = ⟨.error f, i, es⟩)
    (hint : f.isA .keyboardInterrupt = false) (hend : f.isA .endOfFile = false) :
    step inputs config attempt s = (fail inputs config f { s with intake := i }).after es := by
  simp only [step, h, hint, hend, Bool.false_eq_true, if_false]

theorem step_of_end_error (h : attempt s.intake = ⟨.error f, i, es⟩)
    (hint : f.isA .keyboardInterrupt = false) (hend : f.isA .endOfFile = true)
    (hr : Attempt.refill inputs i = ⟨.error g, j, ds⟩) :
    step inputs config attempt s =
      (fail inputs config g { s with intake := j }).after (es ++ ds) := by
  simp only [step, h, hint, hend, hr, Bool.false_eq_true, if_false, if_true]

theorem step_of_end_replaced (h : attempt s.intake = ⟨.error f, i, es⟩)
    (hint : f.isA .keyboardInterrupt = false) (hend : f.isA .endOfFile = true)
    (hr : Attempt.refill inputs i = ⟨.ok (), j, ds⟩) (hs : s.replaced = true) :
    step inputs config attempt s =
      ⟨.ok (some .noMoreInput), { s with intake := j }, es ++ ds ++ [exhaustion]⟩ := by
  simp only [step, h, hint, hend, hr, hs, Bool.false_eq_true, if_false, if_true]

theorem step_of_end (h : attempt s.intake = ⟨.error f, i, es⟩)
    (hint : f.isA .keyboardInterrupt = false) (hend : f.isA .endOfFile = true)
    (hr : Attempt.refill inputs i = ⟨.ok (), j, ds⟩) (hs : s.replaced = false) :
    step inputs config attempt s =
      ⟨.ok none, ⟨j, s.failures, true⟩, es ++ ds ++ [replacement inputs i j]⟩ := by
  simp only [step, h, hint, hend, hr, hs, Bool.false_eq_true, if_false, if_true]

/-- A failure that would be reported and cannot be written ends the run. -/
theorem run_of_unwritten (h : attempt s.intake = ⟨.error f, i, es⟩)
    (hint : f.isA .keyboardInterrupt = false) (hend : f.isA .endOfFile = false)
    (hf : config.rescues f = true) (htext : f.text? = none) (n : Nat) :
    run inputs config attempt (n + 1) s = ⟨.error tooManyDigits, { s with intake := i }, es⟩ := by
  rw [run_succ, step_of_error h hint hend, fail_of_unwritten hf htext, Run.after, List.append_nil,
    Run.andThen_error]

end Step

/-! ## The machine is the pipeline of the standard policies -/

section Standard

/-- What the policies inside the one for read errors make of an attempt once the source was
replaced. -/
def again : Attempt ι δ :=
  (Policy.onInterrupt inputs attempt).rescue (Policy.catching .endOfFile)
    fun _ => Policy.exhausted inputs

/-- What the policies inside the one for read errors make of an attempt. -/
def inner : Attempt ι δ := Policy.onEndOfInput inputs (Policy.onInterrupt inputs attempt)

/-- What the policy for read errors does with a failure that it is for. -/
def recover (failed : Nat) : Nat → Failure → Act ReadEvent (Intake ι δ) Outcome
  | 0, f => do
    Policy.reportFailure inputs config (failed + 1) f
    Policy.reportFatal inputs
    return .noMoreInput
  | left + 1, f => do
    Policy.reportFailure inputs config (failed + 1) f
    Policy.retrying inputs config (inner inputs attempt) (failed + 1) left

theorem retrying_apply (failed left : Nat) (i : Intake ι δ) :
    Policy.retrying inputs config (inner inputs attempt) failed left i =
      (inner inputs attempt i).rescue config.rescues
        (recover inputs config attempt failed left) := by
  cases left <;> rfl

variable {inputs config attempt} {i j l : Intake ι δ} {f g : Failure} {es ds : List ReadEvent}

/-- The policy comes no further where what the failure says cannot be written. -/
theorem recover_of_unwritten (h : f.text? = none) (failed left : Nat) (i : Intake ι δ) :
    recover inputs config attempt failed left f i = ⟨.error tooManyDigits, i, []⟩ := by
  cases left <;>
    rw [recover, Act.bind_apply, Policy.reportFailure_of_unwritten h, Run.andThen_error]

theorem onInterrupt_of_ok {outcome : Outcome} (h : attempt i = ⟨.ok outcome, j, es⟩) :
    Policy.onInterrupt inputs attempt i = ⟨.ok outcome, j, es⟩ := by
  rw [Policy.onInterrupt, Act.rescue_apply, h, Run.rescue_ok]

theorem onInterrupt_of_interrupt (h : attempt i = ⟨.error f, j, es⟩)
    (hint : f.isA .keyboardInterrupt = true) :
    Policy.onInterrupt inputs attempt i =
      ⟨.ok .interrupted, j, es ++ [interruption inputs j]⟩ := by
  rw [Policy.onInterrupt, Act.rescue_apply, h, Run.rescue_error, Policy.catching, if_pos hint]
  rfl

theorem onInterrupt_of_error (h : attempt i = ⟨.error f, j, es⟩)
    (hint : f.isA .keyboardInterrupt = false) :
    Policy.onInterrupt inputs attempt i = ⟨.error f, j, es⟩ := by
  rw [Policy.onInterrupt, Act.rescue_apply, h, Run.rescue_error, Policy.catching, hint]
  rfl

theorem again_of_ok {outcome : Outcome}
    (h : Policy.onInterrupt inputs attempt i = ⟨.ok outcome, j, es⟩) :
    again inputs attempt i = ⟨.ok outcome, j, es⟩ := by
  rw [again, Act.rescue_apply, h, Run.rescue_ok]

theorem again_of_error (h : Policy.onInterrupt inputs attempt i = ⟨.error f, j, es⟩)
    (hend : f.isA .endOfFile = false) : again inputs attempt i = ⟨.error f, j, es⟩ := by
  rw [again, Act.rescue_apply, h, Run.rescue_error, Policy.catching, hend]
  rfl

theorem again_of_end (h : Policy.onInterrupt inputs attempt i = ⟨.error f, j, es⟩)
    (hend : f.isA .endOfFile = true) :
    again inputs attempt i = (Policy.exhausted inputs j).after es := by
  rw [again, Act.rescue_apply, h, Run.rescue_error, Policy.catching, if_pos hend]

theorem exhausted_of_error (hr : Attempt.refill inputs j = ⟨.error g, l, ds⟩) :
    Policy.exhausted inputs j = ⟨.error g, l, ds⟩ := by
  rw [Policy.exhausted, Act.bind_apply, hr, Run.andThen_error]

theorem exhausted_of_ok (hr : Attempt.refill inputs j = ⟨.ok (), l, ds⟩) :
    Policy.exhausted inputs j = ⟨.ok .noMoreInput, l, ds ++ [exhaustion]⟩ := by
  rw [Policy.exhausted, Act.bind_apply, hr]
  rfl

theorem onEndOfInput_of_end_error (h : attempt i = ⟨.error f, j, es⟩)
    (hend : f.isA .endOfFile = true) (hr : Attempt.refill inputs j = ⟨.error g, l, ds⟩) :
    Policy.onEndOfInput inputs attempt i = ⟨.error g, l, es ++ ds⟩ := by
  rw [Policy.onEndOfInput, Act.rescue_apply, h, Run.rescue_error, Policy.catching, if_pos hend,
    Act.bind_apply, Act.current_apply, Run.andThen_ok, Act.bind_apply, hr]
  rfl

/-- Once another source is in place, what the attempt comes to there is handled in its turn. -/
theorem onEndOfInput_of_end_ok (h : attempt i = ⟨.error f, j, es⟩)
    (hend : f.isA .endOfFile = true) (hr : Attempt.refill inputs j = ⟨.ok (), l, ds⟩) :
    Policy.onEndOfInput inputs attempt i =
      ((attempt l).rescue (Policy.catching .endOfFile) fun _ => Policy.exhausted inputs).after
        (es ++ ds ++ [replacement inputs j l]) := by
  rw [Policy.onEndOfInput, Act.rescue_apply, h, Run.rescue_error, Policy.catching, if_pos hend,
    Act.bind_apply, Act.current_apply, Run.andThen_ok, Act.bind_apply, hr]
  let handled := (attempt l).rescue (Policy.catching .endOfFile) fun _ => Policy.exhausted inputs
  show (((handled.after [replacement inputs j l]).after []).after ([] ++ ds)).after es = _
  simp only [Run.after_after, List.nil_append, List.append_assoc, handled]

theorem inner_of_ok {outcome : Outcome}
    (h : Policy.onInterrupt inputs attempt i = ⟨.ok outcome, j, es⟩) :
    inner inputs attempt i = ⟨.ok outcome, j, es⟩ := by
  rw [inner, Policy.onEndOfInput, Act.rescue_apply, h, Run.rescue_ok]

theorem inner_of_error (h : Policy.onInterrupt inputs attempt i = ⟨.error f, j, es⟩)
    (hend : f.isA .endOfFile = false) : inner inputs attempt i = ⟨.error f, j, es⟩ := by
  rw [inner, Policy.onEndOfInput, Act.rescue_apply, h, Run.rescue_error, Policy.catching, hend]
  rfl

theorem inner_of_end_error (h : Policy.onInterrupt inputs attempt i = ⟨.error f, j, es⟩)
    (hend : f.isA .endOfFile = true) (hr : Attempt.refill inputs j = ⟨.error g, l, ds⟩) :
    inner inputs attempt i = ⟨.error g, l, es ++ ds⟩ :=
  onEndOfInput_of_end_error h hend hr

theorem inner_of_end_ok (h : Policy.onInterrupt inputs attempt i = ⟨.error f, j, es⟩)
    (hend : f.isA .endOfFile = true) (hr : Attempt.refill inputs j = ⟨.ok (), l, ds⟩) :
    inner inputs attempt i =
      (again inputs attempt l).after (es ++ ds ++ [replacement inputs j l]) :=
  onEndOfInput_of_end_ok h hend hr

/-- An outcome passes through all three policies. -/
theorem guard_of_ok {outcome : Outcome} (h : attempt i = ⟨.ok outcome, j, es⟩) :
    Pipeline.guard inputs config .standard attempt i = ⟨.ok outcome, j, es⟩ := by
  show Policy.retrying inputs config (inner inputs attempt) 0
    (config.maxReadRetries.toNat - 1) i = _
  rw [retrying_apply, inner_of_ok (onInterrupt_of_ok h), Run.rescue_ok]

/-- A run of the machine that comes to what a guarded attempt comes to. -/
def ComesTo (r : Run ReadEvent (Standing ι δ) (Option Outcome))
    (r' : Run ReadEvent (Intake ι δ) Outcome) : Prop :=
  r.seen Standing.intake = ⟨r'.result.map some, r'.state, r'.events⟩

theorem ComesTo.after {r : Run ReadEvent (Standing ι δ) (Option Outcome)}
    {r' : Run ReadEvent (Intake ι δ) Outcome} (h : ComesTo r r') (es : List ReadEvent) :
    ComesTo (r.after es) (r'.after es) := by
  rw [ComesTo, Run.seen_after, h]
  rfl

theorem ComesTo.settled (n : Nat) (outcome : Outcome) (s : Standing ι δ) (es : List ReadEvent)
    (catches : Failure → Bool) (handler : Failure → Act ReadEvent (Intake ι δ) Outcome) :
    ComesTo ((Run.mk (.ok (some outcome)) s es).andThen (goOn inputs config attempt n))
      ((Run.mk (.ok outcome) s.intake es).rescue catches handler) := by
  rw [ComesTo, Run.andThen_ok, goOn, Act.pure_apply, Run.rescue_ok, Run.after, List.append_nil]
  rfl

/-- The machine fails as the policy for read errors does, if it goes on as the policy does while
attempts are left. -/
theorem ComesTo.failed {n left : Nat} {s : Standing ι δ} (f : Failure) (es : List ReadEvent)
    (hleft : s.failures + left + 1 = config.budget)
    (hgo : ∀ l j, left = l + 1 → ComesTo (run inputs config attempt n ⟨j, s.failures + 1, false⟩)
      (Policy.retrying inputs config (inner inputs attempt) (s.failures + 1) l j)) :
    ComesTo (((fail inputs config f s).after es).andThen (goOn inputs config attempt n))
      ((Run.mk (.error f) s.intake es).rescue config.rescues
        (recover inputs config attempt s.failures left)) := by
  rw [Run.after_andThen, Run.rescue_error]
  by_cases hf : config.rescues f = true
  · -- Both report the failure first, and then both ask whether it was the last of the budget.
    rw [if_pos hf]
    apply ComesTo.after
    cases htext : f.text? with
    | none =>
      rw [fail_of_unwritten hf htext, Run.andThen_error,
        recover_of_unwritten htext s.failures left s.intake]
      rfl
    | some text =>
      cases left with
      | zero =>
        have hlast : ¬ s.failures + 1 < config.budget := by omega
        rw [fail_of_last hf htext hlast, Run.andThen_ok, recover, Act.bind_apply,
          Policy.reportFailure_of_text? htext, Run.andThen_ok, ← Run.after_after]
        apply ComesTo.after
        rfl
      | succ l =>
        have hmore : s.failures + 1 < config.budget := by omega
        rw [fail_of_more hf htext hmore, Run.andThen_ok, recover, Act.bind_apply,
          Policy.reportFailure_of_text? htext, Run.andThen_ok]
        exact (hgo l s.intake rfl).after _
  · rw [if_neg hf, fail_of_not_rescued (Bool.eq_false_iff.mpr hf), Run.andThen_error, Run.after,
      List.append_nil]
    rfl

/-- The attempts of a read after its source was replaced. -/
theorem run_again {n left k : Nat} (hleft : k + left + 1 = config.budget)
    (hgo : ∀ l j, left = l + 1 → ComesTo (run inputs config attempt n ⟨j, k + 1, false⟩)
      (Policy.retrying inputs config (inner inputs attempt) (k + 1) l j)) (i : Intake ι δ) :
    ComesTo (run inputs config attempt (n + 1) ⟨i, k, true⟩)
      ((again inputs attempt i).rescue config.rescues
        (recover inputs config attempt k left)) := by
  rw [run_succ]
  rcases hi : attempt i with ⟨f | outcome, j, es⟩
  · by_cases hint : f.isA .keyboardInterrupt = true
    · rw [step_of_interrupt hi hint, again_of_ok (onInterrupt_of_interrupt hi hint)]
      exact ComesTo.settled ..
    · rw [Bool.not_eq_true] at hint
      have h : Policy.onInterrupt inputs attempt i = _ := onInterrupt_of_error hi hint
      by_cases hend : f.isA .endOfFile = true
      · rcases hr : Attempt.refill inputs j with ⟨g | ⟨⟩, l, ds⟩
        · rw [step_of_end_error hi hint hend hr, again_of_end h hend, exhausted_of_error hr]
          exact ComesTo.failed g (es ++ ds) hleft hgo
        · rw [step_of_end_replaced hi hint hend hr rfl, again_of_end h hend, exhausted_of_ok hr,
            List.append_assoc]
          exact ComesTo.settled ..
      · rw [Bool.not_eq_true] at hend
        rw [step_of_error hi hint hend, again_of_error h hend]
        exact ComesTo.failed f es hleft hgo
  · rw [step_of_ok hi, again_of_ok (onInterrupt_of_ok hi)]
    exact ComesTo.settled ..

/-- The attempts of a read at its start, and after a reported failure. -/
theorem run_inner {n left k : Nat} (hleft : k + left + 1 = config.budget)
    (hgo : ∀ m, n ≤ m → ∀ l j, left = l + 1 →
      ComesTo (run inputs config attempt m ⟨j, k + 1, false⟩)
        (Policy.retrying inputs config (inner inputs attempt) (k + 1) l j)) (i : Intake ι δ) :
    ComesTo (run inputs config attempt (n + 2) ⟨i, k, false⟩)
      ((inner inputs attempt i).rescue config.rescues
        (recover inputs config attempt k left)) := by
  rw [run_succ]
  rcases hi : attempt i with ⟨f | outcome, j, es⟩
  · by_cases hint : f.isA .keyboardInterrupt = true
    · rw [step_of_interrupt hi hint, inner_of_ok (onInterrupt_of_interrupt hi hint)]
      exact ComesTo.settled ..
    · rw [Bool.not_eq_true] at hint
      have h : Policy.onInterrupt inputs attempt i = _ := onInterrupt_of_error hi hint
      by_cases hend : f.isA .endOfFile = true
      · rcases hr : Attempt.refill inputs j with ⟨g | ⟨⟩, l, ds⟩
        · rw [step_of_end_error hi hint hend hr, inner_of_end_error h hend hr]
          exact ComesTo.failed g (es ++ ds) hleft (hgo (n + 1) (Nat.le_succ n))
        · -- The handler asks the fresh source itself: for the machine this is a second step.
          rw [step_of_end hi hint hend hr rfl, inner_of_end_ok h hend hr, Run.after_rescue]
          exact (run_again hleft (hgo n (Nat.le_refl n)) l).after _
      · rw [Bool.not_eq_true] at hend
        rw [step_of_error hi hint hend, inner_of_error h hend]
        exact ComesTo.failed f es hleft (hgo (n + 1) (Nat.le_succ n))
  · rw [step_of_ok hi, inner_of_ok (onInterrupt_of_ok hi)]
    exact ComesTo.settled ..

/-- The machine goes on as the policy for read errors does, if its limit is not below two attempts
for each failure that is left. -/
theorem run_retrying {n left k : Nat} (hleft : k + left + 1 = config.budget)
    (hn : 2 * left + 2 ≤ n) (i : Intake ι δ) :
    ComesTo (run inputs config attempt n ⟨i, k, false⟩)
      (Policy.retrying inputs config (inner inputs attempt) k left i) := by
  obtain ⟨m, rfl⟩ : ∃ m, n = m + 2 := ⟨n - 2, by omega⟩
  -- by induction on the failures that are left: each takes one attempt or two
  induction left generalizing m k i with
  | zero =>
    rw [retrying_apply]
    refine run_inner ?_ (fun _ _ l _ hl => absurd hl (Nat.zero_ne_add_one l)) i
    exact hleft
  | succ left ih =>
    rw [retrying_apply]
    refine run_inner hleft (fun m' hm' l j hl => ?_) i
    obtain rfl : left = l := Nat.succ.inj hl
    obtain ⟨q, rfl⟩ : ∃ q, m' = q + 2 := ⟨m' - 2, by omega⟩
    exact ih (by omega) j q (by omega)

/-- **The machine is the pipeline of the standard policies.** -/
theorem run_standard (i : Intake ι δ) :
    ComesTo (run inputs config attempt (2 * config.budget) ⟨i, 0, false⟩)
      (Pipeline.guard inputs config .standard attempt i) := by
  have hpos := config.budget_pos
  have hleft : 0 + (config.budget - 1) + 1 = config.budget := by omega
  exact run_retrying hleft (by omega) i

end Standard

/-! ## What the machine writes, asks and requests -/

section Accounting

/-- How a failure is shown. -/
def failureWrites (f : Failure) : List Write := [.diagnostic ("Error: " ++ f.text), .traceback f]

/-- How broken input is shown, by the description of its source. -/
def fatalWrites (source : String) : List Write :=
  .diagnostic ("FATAL: readloop failed to get user input using `" ++ source ++ "`.") ::
    Policy.advice.map .line

/-- What a run asks, requests and writes when `k` failures were counted before it: each failure that
it counts is shown in full, and the last one of the budget is followed by the advice, which ends the
read. -/
structure Accounted (inputs : Inputs ι δ) (config : Config) (n k : Nat)
    (r : Run ReadEvent (Standing ι δ) (Option Outcome)) : Prop where
  asks_le : ReadEvent.asks r.events ≤ n
  requests_le : ReadEvent.requests r.events ≤ n
  failures_le : r.state.failures ≤ config.budget
  fatal : r.state.failures = config.budget → r.result = .ok (some .noMoreInput)
  writes_eq : ∃ rescued : List Failure, r.state.failures = k + rescued.length ∧
    (∀ f ∈ rescued, config.rescues f = true ∧ f.text?.isSome = true) ∧
    ReadEvent.writes r.events = rescued.flatMap failureWrites ++
      if r.state.failures = config.budget then
        fatalWrites (inputs.description r.state.intake.source) else []

variable {inputs config attempt} {s t : Standing ι δ}
  {r r' : Run ReadEvent (Standing ι δ) (Option Outcome)} {m n k : Nat}

/-- A run that writes nothing and counts no failure. -/
theorem Accounted.quiet {result : Except Failure (Option Outcome)} {es : List ReadEvent}
    {a q : Nat} (hs : k < config.budget) (ht : t.failures = k)
    (hes : ReadEvent.Calls a q es) (ha : a ≤ n) (hq : q ≤ n) :
    Accounted inputs config n k ⟨result, t, es⟩ where
  asks_le := Nat.le_trans (Nat.le_of_eq hes.asks_eq) ha
  requests_le := Nat.le_trans (Nat.le_of_eq hes.requests_eq) hq
  failures_le := ht ▸ Nat.le_of_lt hs
  fatal h := absurd (ht ▸ h) (Nat.ne_of_lt hs)
  writes_eq := ⟨[], by simp [ht], by simp, by simp [hes.writes_eq, ht, Nat.ne_of_lt hs]⟩

/-- What writes nothing may come before. -/
theorem Accounted.after {es : List ReadEvent} {a q : Nat} (h : Accounted inputs config n k r)
    (hes : ReadEvent.Calls a q es) (ha : a ≤ m) (hq : q ≤ m) :
    Accounted inputs config (m + n) k (r.after es) where
  asks_le := by
    rw [Run.after_events, ReadEvent.asks_append, hes.asks_eq]
    exact Nat.add_le_add ha h.asks_le
  requests_le := by
    rw [Run.after_events, ReadEvent.requests_append, hes.requests_eq]
    exact Nat.add_le_add hq h.requests_le
  failures_le := h.failures_le
  fatal := h.fatal
  writes_eq := by
    rw [Run.after_events, ReadEvent.writes_append, hes.writes_eq]
    exact h.writes_eq

theorem Accounted.mono (h : Accounted inputs config m k r) (hm : m ≤ n) :
    Accounted inputs config n k r :=
  { h with asks_le := Nat.le_trans h.asks_le hm, requests_le := Nat.le_trans h.requests_le hm }

/-- A run that comes to no outcome leaves the budget unspent. -/
theorem Accounted.failures_lt (h : Accounted inputs config n k r) (hr : r.result = .ok none) :
    r.state.failures < config.budget := by
  refine Nat.lt_of_le_of_ne h.failures_le fun he => ?_
  rw [h.fatal he] at hr
  cases hr

/-- A run that goes on where another one has come to no outcome. -/
theorem Accounted.trans (h : Accounted inputs config m k r) (hr : r.result = .ok none)
    (h' : Accounted inputs config n r.state.failures r') :
    Accounted inputs config (m + n) k (r'.after r.events) where
  asks_le := by
    rw [Run.after_events, ReadEvent.asks_append]
    exact Nat.add_le_add h.asks_le h'.asks_le
  requests_le := by
    rw [Run.after_events, ReadEvent.requests_append]
    exact Nat.add_le_add h.requests_le h'.requests_le
  failures_le := h'.failures_le
  fatal := h'.fatal
  writes_eq := by
    -- The first run has not spent the budget, so no advice stands between what the two show.
    obtain ⟨rescued, hfailures, hrescued, hwrites⟩ := h.writes_eq
    obtain ⟨more, hfailures', hrescued', hwrites'⟩ := h'.writes_eq
    have hopen : r.state.failures ≠ config.budget := Nat.ne_of_lt (h.failures_lt hr)
    refine ⟨rescued ++ more, ?_, ?_, ?_⟩
    · rw [Run.after_state, hfailures', hfailures, List.length_append, Nat.add_assoc]
    · intro f hf
      rcases List.mem_append.mp hf with hf | hf
      · exact hrescued f hf
      · exact hrescued' f hf
    · rw [Run.after_events, ReadEvent.writes_append, hwrites, hwrites', if_neg hopen,
        List.append_nil, List.flatMap_append, List.append_assoc]
      rfl

/-- A question asks the source once. -/
theorem ask_calls {complete : String → List String} {prompt : String} {i j : Intake ι δ}
    {result : Except Failure Outcome} {es : List ReadEvent}
    (h : Attempt.ask inputs complete prompt i = ⟨result, j, es⟩) : ReadEvent.Calls 1 0 es := by
  rw [Attempt.ask_apply] at h
  obtain ⟨-, -, rfl⟩ := Run.mk.inj h
  have hprompt : ReadEvent.Calls 1 0 [.asked prompt] := ⟨rfl, rfl, rfl⟩
  exact hprompt.append (.source _)

/-- A refill asks the supply once. -/
theorem refill_calls {i j : Intake ι δ} {result : Except Failure Unit} {es : List ReadEvent}
    (h : Attempt.refill inputs i = ⟨result, j, es⟩) : ReadEvent.Calls 0 1 es := by
  have hrequest : ReadEvent.Calls 0 1 [.requested] := ⟨rfl, rfl, rfl⟩
  rcases hfresh : inputs.fresh i.supply with ⟨f | next, supply, ds⟩
  · rw [Attempt.refill_of_error hfresh] at h
    obtain ⟨-, -, rfl⟩ := Run.mk.inj h
    exact hrequest.append (.source ds)
  · -- a switch of the source is recorded in the log
    rw [Attempt.refill_of_ok hfresh] at h
    obtain ⟨-, -, rfl⟩ := Run.mk.inj h
    have hswitch : ReadEvent.Calls 0 0 [Attempt.switchover inputs i.source next] := ⟨rfl, rfl, rfl⟩
    exact hrequest.append ((ReadEvent.Calls.source ds).append hswitch)

variable (inputs config)

/-- The report of a failure shows it, and calls nothing. -/
theorem failureReport_quiet (count : Nat) (source : ι) {f : Failure} {text : String}
    (htext : f.text? = some text) :
    let es := Policy.failureReport inputs config count source f text
    ReadEvent.asks es = 0 ∧ ReadEvent.requests es = 0 ∧ ReadEvent.writes es = failureWrites f := by
  rw [failureWrites, Failure.text_of_text? htext, Policy.failureReport]
  -- The record for the log is no write, be it left out or not.
  cases Policy.failureRecord? config count (inputs.label source) text with
  | none => exact ⟨rfl, rfl, rfl⟩
  | some message => exact ⟨rfl, rfl, rfl⟩

/-- The report of broken input shows the advice, and calls nothing. -/
theorem reportFatal_quiet (i : Intake ι δ) :
    let es := (Policy.reportFatal inputs i).events
    ReadEvent.asks es = 0 ∧ ReadEvent.requests es = 0 ∧
      ReadEvent.writes es = fatalWrites (inputs.description i.source) :=
  ⟨rfl, rfl, rfl⟩

theorem fail_accounted (f : Failure) (hs : s.failures < config.budget) :
    Accounted inputs config 0 s.failures (fail inputs config f s) := by
  have hes : ReadEvent.Calls 0 0 [] := ⟨rfl, rfl, rfl⟩
  by_cases hf : config.rescues f = true
  · cases htext : f.text? with
    | none =>
      rw [fail_of_unwritten hf htext]
      exact Accounted.quiet hs rfl hes (Nat.le_refl 0) (Nat.le_refl 0)
    | some text =>
      obtain ⟨hasks, hrequests, hwrites⟩ :=
        failureReport_quiet inputs config (s.failures + 1) s.intake.source htext
      have hrescued : ∀ g ∈ [f], config.rescues g = true ∧ g.text?.isSome = true :=
        List.forall_mem_singleton.mpr ⟨hf, by rw [htext]; rfl⟩
      -- The advice on broken input is written only where the budget is spent.
      by_cases hmore : s.failures + 1 < config.budget
      · rw [fail_of_more hf htext hmore]
        have hopen : s.failures + 1 ≠ config.budget := Nat.ne_of_lt hmore
        refine ⟨Nat.le_of_eq hasks, Nat.le_of_eq hrequests, Nat.le_of_lt hmore,
          fun h => absurd h hopen, [f], rfl, hrescued, ?_⟩
        rw [if_neg hopen, hwrites, List.append_nil, List.flatMap_singleton]
      · rw [fail_of_last hf htext hmore]
        obtain ⟨hasks', hrequests', hwrites'⟩ := reportFatal_quiet inputs s.intake
        have hspent : s.failures + 1 = config.budget := by omega
        refine ⟨Nat.le_of_eq ?_, Nat.le_of_eq ?_, Nat.le_of_eq hspent, fun _ => rfl, [f], rfl,
          hrescued, ?_⟩
        · rw [ReadEvent.asks_append, hasks, hasks']
        · rw [ReadEvent.requests_append, hrequests, hrequests']
        · rw [if_pos hspent, ReadEvent.writes_append, hwrites, hwrites', List.flatMap_singleton]
  · rw [fail_of_not_rescued (Bool.eq_false_iff.mpr hf)]
    exact Accounted.quiet hs rfl hes (Nat.le_refl 0) (Nat.le_refl 0)

variable (complete : String → List String) (prompt : String)

/-- A failed attempt, with what it called before it failed. -/
theorem fail_after_accounted {es : List ReadEvent} {a q : Nat} (f : Failure)
    (hs : s.failures < config.budget) (hes : ReadEvent.Calls a q es) (ha : a ≤ 1) (hq : q ≤ 1) :
    Accounted inputs config 1 s.failures ((fail inputs config f s).after es) :=
  (fail_accounted inputs config f hs).after hes ha hq

theorem step_accounted (hs : s.failures < config.budget) :
    Accounted inputs config 1 s.failures
      (step inputs config (Attempt.ask inputs complete prompt) s) := by
  -- Whichever handler a failure is for, the step asks once and requests once at most.
  rcases hi : Attempt.ask inputs complete prompt s.intake with ⟨f | outcome, i, es⟩
  · have hes := ask_calls hi
    by_cases hint : f.isA .keyboardInterrupt = true
    · rw [step_of_interrupt hi hint]
      have hrecord : ReadEvent.Calls 0 0 [interruption inputs i] := ⟨rfl, rfl, rfl⟩
      exact Accounted.quiet hs rfl (hes.append hrecord) (Nat.le_refl 1) (Nat.zero_le 1)
    rw [Bool.not_eq_true] at hint
    by_cases hend : f.isA .endOfFile = true
    · rcases hr : Attempt.refill inputs i with ⟨g | ⟨⟩, j, ds⟩
      · rw [step_of_end_error hi hint hend hr]
        exact fail_after_accounted inputs config (s := { s with intake := j }) g hs
          (hes.append (refill_calls hr)) (Nat.le_refl 1) (Nat.le_refl 1)
      · have hall := hes.append (refill_calls hr)
        cases hb : s.replaced with
        | true =>
          rw [step_of_end_replaced hi hint hend hr hb]
          have hrecord : ReadEvent.Calls 0 0 [exhaustion] := ⟨rfl, rfl, rfl⟩
          exact Accounted.quiet hs rfl (hall.append hrecord) (Nat.le_refl 1) (Nat.le_refl 1)
        | false =>
          rw [step_of_end hi hint hend hr hb]
          have hrecord : ReadEvent.Calls 0 0 [replacement inputs i j] := ⟨rfl, rfl, rfl⟩
          exact Accounted.quiet hs rfl (hall.append hrecord) (Nat.le_refl 1) (Nat.le_refl 1)
    · rw [Bool.not_eq_true] at hend
      rw [step_of_error hi hint hend]
      exact fail_after_accounted inputs config (s := { s with intake := i }) f hs hes
        (Nat.le_refl 1) (Nat.zero_le 1)
  · rw [step_of_ok hi]
    exact Accounted.quiet hs rfl (ask_calls hi) (Nat.le_refl 1) (Nat.zero_le 1)

/-- What the machine asks, requests and writes within a number of steps. -/
theorem run_accounted (n : Nat) (hs : s.failures < config.budget) :
    Accounted inputs config n s.failures
      (run inputs config (Attempt.ask inputs complete prompt) n s) := by
  -- by induction on the steps: one without an outcome leaves some of the budget to the next
  induction n generalizing s with
  | zero =>
    have hes : ReadEvent.Calls 0 0 [] := ⟨rfl, rfl, rfl⟩
    exact Accounted.quiet hs rfl hes (Nat.le_refl 0) (Nat.le_refl 0)
  | succ n ih =>
    have hstep := step_accounted inputs config complete prompt hs
    rw [run_succ, Nat.add_comm]
    rcases h : step inputs config (Attempt.ask inputs complete prompt) s with
      ⟨f | (_ | outcome), t, es⟩
    · rw [h] at hstep
      exact hstep.mono (Nat.le_add_right 1 n)
    · rw [h] at hstep
      exact hstep.trans rfl (ih (hstep.failures_lt rfl))
    · rw [h] at hstep
      have hdone := hstep.mono (n := 1 + n) (Nat.le_add_right 1 n)
      rw [Run.andThen_ok, goOn, Act.pure_apply, Run.after, List.append_nil]
      exact hdone

end Accounting

end Standing

/-- A source that fails once and runs dry, with another one to take its place. -/
def brokenIntake : Intake Source Desk where
  source := .scripted .withPrompt "first" [.fail (.saying .os "broken")]
  supply := { fallbacks := some [.source (.scripted .withPrompt "second" [.answer (some "x")])] }

/-- A failure that says a number with too many digits. -/
def enormous : Failure := .raised .value (some .enormous)

/-- A source that fails with what cannot be written. -/
def enormousIntake : Intake Source Desk where
  source := .scripted .withPrompt "first" [.fail enormous]
  supply := {}

end PromptLoop
