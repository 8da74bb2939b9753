import PromptLoop.Proofs.Act.Likeness
import PromptLoop.Proofs.Recovery.Machine
import PromptLoop.Proofs.Session.Reads
import PromptLoop.Source.Desk

/-!
# Steps laid out over sources

Sources that play back their steps are laid out at a desk, one after the other. A guarded read takes
the next step, wherever it is: a source that has run dry is replaced before anything else is done.
So reads that have the same steps before them are alike, however the steps are spread over sources.

## Main definitions

* `Step.IsPlain`, `Step.outcome`: a step that is an answer or a failure, and what it comes to
* `Replays`: an intake that has steps to replay
* `SameSteps`: two intakes that have the same steps to replay
* `ReadEvent.note`: the calls of sources, but for those that found them dry

## Main results

* `inner_of_step`, `inner_of_no_step`: a read takes the next step, if there is one
* `guard_standard_alike`: reads that have the same steps before them are alike
-/

namespace PromptLoop

open Act

/-- A step that answers, or fails otherwise than by an end of input. -/
def Step.IsPlain : Step → Prop
  | .answer _ => True
  | .fail f => f.isA .endOfFile = false
  | .complete _ => False

/-- What a plain step comes to: a failure by an interrupt cancels the read. -/
def Step.outcome : Step → Except Failure Outcome
  | .answer line => .ok (.ofAnswer line)
  | .fail f => if Policy.catching .keyboardInterrupt f then .ok .interrupted else .error f
  | .complete _ => .ok .noMoreInput

/-- Fallbacks that play back steps, each one at least. -/
inductive LaidOut : List Fallback → List Step → Prop
  | nil : LaidOut [] []
  | cons (convention : Convention) (name : String) (step : Step) (own : List Step)
      {fallbacks : List Fallback} {later : List Step} : LaidOut fallbacks later →
    LaidOut (.source (.scripted convention name (step :: own)) :: fallbacks)
      (step :: (own ++ later))

/-- An intake that has steps to replay: those of its source, and then those of the fallbacks that
are laid out. -/
structure Replays (i : Intake Source Desk) (steps : List Step) : Prop where
  laid : ∃ convention name own fallbacks later, i.source = .scripted convention name own ∧
    i.supply.fallbacks = some fallbacks ∧ LaidOut fallbacks later ∧ steps = own ++ later
  plain : ∀ step ∈ steps, step.IsPlain

/-- Two intakes that have the same steps to replay. -/
def SameSteps (i j : Intake Source Desk) : Prop := ∃ steps, Replays i steps ∧ Replays j steps

/-- Notes the calls of sources. A call that found its source dry, so that the supply was asked for
another one, does not count. -/
def ReadEvent.note (seen : List Mark) : ReadEvent → List Mark
  | .asked prompt => seen ++ [.asked prompt]
  | .requested => seen.dropLast
  | _ => seen

/-! ## One question to a script -/

section Question

variable {complete : String → List String} {prompt : String} {convention : Convention}
  {name : String} {step : Step} {own : List Step} {desk : Desk} {i j : Intake Source Desk}
  {es : List ReadEvent}

/-- A plain step does not fail by an end of input. -/
theorem Step.IsPlain.outcome_error {f : Failure} (h : step.IsPlain) (hf : step.outcome = .error f) :
    f.isA .endOfFile = false := by
  cases step with
  | answer line => cases hf
  | fail g =>
    rw [Step.outcome] at hf
    by_cases hinterrupt : Policy.catching .keyboardInterrupt g = true
    · rw [if_pos hinterrupt] at hf
      cases hf
    · rw [if_neg hinterrupt] at hf
      obtain rfl := Except.error.inj hf
      exact h
  | complete fragment => exact absurd h id

/-- A question to a source that plays back steps. -/
def scriptedAsk (complete : String → List String) (prompt : String) : Attempt Source Desk :=
  Attempt.ask Desk.inputs complete prompt

variable (complete prompt convention name own desk) in
/-- A source that has a step left takes it. -/
theorem onInterrupt_of_step (hplain : step.IsPlain) :
    ∃ es, Policy.onInterrupt Desk.inputs (scriptedAsk complete prompt)
        ⟨.scripted convention name (step :: own), desk⟩ =
          ⟨step.outcome, ⟨.scripted convention name own, desk⟩, es⟩ ∧
      ∀ seen, es.foldl ReadEvent.note seen = seen ++ [.asked prompt] := by
  -- An answer passes through, an interrupt cancels the read, any other failure is passed on.
  cases step with
  | answer line =>
    have hask : scriptedAsk complete prompt
        ⟨.scripted convention name (.answer line :: own), desk⟩ =
          ⟨.ok (.ofAnswer line), ⟨.scripted convention name own, desk⟩, _⟩ := rfl
    exact ⟨_, Standing.onInterrupt_of_ok hask, fun _ => rfl⟩
  | fail f =>
    have hask : scriptedAsk complete prompt ⟨.scripted convention name (.fail f :: own), desk⟩ =
        ⟨.error f, ⟨.scripted convention name own, desk⟩, _⟩ := rfl
    by_cases hinterrupt : Policy.catching .keyboardInterrupt f = true
    · rw [Step.outcome, if_pos hinterrupt]
      exact ⟨_, Standing.onInterrupt_of_interrupt hask hinterrupt, fun _ => rfl⟩
    · rw [Step.outcome, if_neg hinterrupt]
      rw [Bool.not_eq_true] at hinterrupt
      exact ⟨_, Standing.onInterrupt_of_error hask hinterrupt, fun _ => rfl⟩
  | complete fragment => exact absurd hplain id

variable (complete prompt convention name desk) in
/-- A source that has run dry says so. -/
theorem onInterrupt_of_nil :
    ∃ es, Policy.onInterrupt Desk.inputs (scriptedAsk complete prompt)
        ⟨.scripted convention name [], desk⟩ =
          ⟨.error (Source.exhausted name), ⟨.scripted convention name [], desk⟩, es⟩ ∧
      ∀ seen, es.foldl ReadEvent.note seen = seen ++ [.asked prompt] := by
  have hask : scriptedAsk complete prompt ⟨.scripted convention name [], desk⟩ =
      ⟨.error (Source.exhausted name), ⟨.scripted convention name [], desk⟩, _⟩ := rfl
  exact ⟨_, Standing.onInterrupt_of_error hask rfl, fun _ => rfl⟩

theorem inner_of_plain {attempt : Attempt Source Desk} (hplain : step.IsPlain)
    (h : Policy.onInterrupt Desk.inputs attempt i = ⟨step.outcome, j, es⟩) :
    Standing.inner Desk.inputs attempt i = ⟨step.outcome, j, es⟩ := by
  rcases hout : step.outcome with f | outcome
  · rw [hout] at h
    exact Standing.inner_of_error h (hplain.outcome_error hout)
  · rw [hout] at h
    exact Standing.inner_of_ok h

theorem again_of_plain {attempt : Attempt Source Desk} (hplain : step.IsPlain)
    (h : Policy.onInterrupt Desk.inputs attempt i = ⟨step.outcome, j, es⟩) :
    Standing.again Desk.inputs attempt i = ⟨step.outcome, j, es⟩ := by
  rcases hout : step.outcome with f | outcome
  · rw [hout] at h
    exact Standing.again_of_error h (hplain.outcome_error hout)
  · rw [hout] at h
    exact Standing.again_of_ok h

end Question

/-! ## A read takes the next step -/

section Read

variable {complete : String → List String} {prompt : String} {i : Intake Source Desk}
  {step : Step} {steps : List Step}

/-- The next source of a desk takes the place of a source, and the call that found that one dry does
not count. -/
theorem refill_desk (source : Source) {desk : Desk} {fallbacks : List Fallback} {next : Source}
    (hlaid : desk.fallbacks = some fallbacks)
    (hnext : fallbacks.head?.getD (Desk.spare desk.calls) = .source next) :
    ∃ es, Attempt.refill Desk.inputs ⟨source, desk⟩ =
        ⟨.ok (), ⟨next, { desk with calls := desk.calls + 1, fallbacks := some fallbacks.tail }⟩,
          es⟩ ∧
      ∀ seen, es.foldl ReadEvent.note seen = seen.dropLast := by
  have hfresh : Desk.inputs.fresh desk =
      ⟨.ok next, { desk with calls := desk.calls + 1, fallbacks := some fallbacks.tail },
        [.supplied]⟩ := by
    show Desk.fresh desk = _
    unfold Desk.fresh
    simp only [hlaid, hnext]
  rw [Attempt.refill, bind_apply, emit_apply, Run.andThen_ok, bind_apply, within_apply]
  simp only [hfresh]
  exact ⟨_, rfl, fun _ => rfl⟩

variable (complete prompt) in
/-- A fresh source takes the place of one that has run dry. -/
theorem inner_of_nil (convention : Convention) (name : String) {desk : Desk}
    {fallbacks : List Fallback} {next : Source} (hlaid : desk.fallbacks = some fallbacks)
    (hnext : fallbacks.head?.getD (Desk.spare desk.calls) = .source next) :
    ∃ es, Standing.inner Desk.inputs (scriptedAsk complete prompt)
        ⟨.scripted convention name [], desk⟩ =
          (Standing.again Desk.inputs (scriptedAsk complete prompt) ⟨next,
            { desk with calls := desk.calls + 1, fallbacks := some fallbacks.tail }⟩).after es ∧
      ∀ seen, es.foldl ReadEvent.note seen = seen := by
  obtain ⟨es, hdry, hasked⟩ := onInterrupt_of_nil complete prompt convention name desk
  obtain ⟨ds, hrefill, hrequested⟩ :=
    refill_desk (.scripted convention name []) hlaid hnext
  -- The call that found the source dry is noted, and the request for another takes it back.
  refine ⟨_, Standing.inner_of_end_ok hdry rfl hrefill, fun seen => ?_⟩
  rw [List.foldl_append, List.foldl_append, hasked, hrequested, List.dropLast_concat]
  rfl

variable (complete prompt) in
/-- **A read takes the next step**, whether its source has one left or has to be replaced. -/
theorem inner_of_step (h : Replays i (step :: steps)) :
    let r := Standing.inner Desk.inputs (scriptedAsk complete prompt) i
    r.result = step.outcome ∧ Replays r.state steps ∧
      ∀ seen, r.events.foldl ReadEvent.note seen = seen ++ [.asked prompt] := by
  obtain ⟨⟨convention, name, own, fallbacks, later, hsource, hlaid, hlater, hsteps⟩, hplain⟩ := h
  obtain ⟨hstep, hrest⟩ := List.forall_mem_cons.mp hplain
  obtain ⟨source, desk⟩ := i
  obtain rfl : source = _ := hsource
  cases own with
  | cons first own =>
    obtain ⟨rfl, rfl⟩ := List.cons.inj hsteps
    obtain ⟨es, hask, hnoted⟩ :=
      onInterrupt_of_step complete prompt convention name own desk hstep
    rw [inner_of_plain hstep hask]
    exact ⟨rfl, ⟨⟨convention, name, own, fallbacks, later, rfl, hlaid, hlater, rfl⟩, hrest⟩, hnoted⟩
  | nil =>
    -- The source has run dry, and the next one that is laid out has a step.
    rw [List.nil_append] at hsteps
    subst hsteps
    cases hlater with
    | @cons convention' name' _ own _ later hlater =>
      obtain ⟨ds, hfresh, hsame⟩ := inner_of_nil complete prompt convention name hlaid rfl
      obtain ⟨es, hask, hnoted⟩ := onInterrupt_of_step complete prompt convention' name' own
        { desk with calls := desk.calls + 1, fallbacks := some _ } hstep
      rw [hfresh, again_of_plain hstep hask]
      refine ⟨rfl, ⟨⟨convention', name', own, _, later, rfl, rfl, hlater, rfl⟩, hrest⟩, ?_⟩
      intro seen
      rw [Run.after_events, List.foldl_append, hsame, hnoted]

variable (complete prompt) in
/-- Where no step is left, a read ends the session, and no call counts. -/
theorem inner_of_no_step (h : Replays i []) :
    let r := Standing.inner Desk.inputs (scriptedAsk complete prompt) i
    r.result = .ok .noMoreInput ∧ Replays r.state [] ∧
      ∀ seen, r.events.foldl ReadEvent.note seen = seen := by
  obtain ⟨⟨convention, name, own, fallbacks, later, hsource, hlaid, hlater, hsteps⟩, hplain⟩ := h
  obtain ⟨rfl, rfl⟩ := List.append_eq_nil_iff.mp hsteps.symm
  obtain ⟨source, desk⟩ := i
  obtain rfl : source = _ := hsource
  cases hlater
  -- Both the source and the empty one that is put in its place are found dry.
  obtain ⟨ds, hfresh, hsame⟩ := inner_of_nil complete prompt convention name hlaid rfl
  obtain ⟨es, hdry, hasked⟩ := onInterrupt_of_nil complete prompt .withPrompt
    ("default-" ++ toString desk.calls) { desk with calls := desk.calls + 1, fallbacks := some [] }
  obtain ⟨es', hrefill, hrequested⟩ := refill_desk (.scripted .withPrompt _ [])
    (show ({ desk with calls := desk.calls + 1, fallbacks := some [] } : Desk).fallbacks = some []
      from rfl) rfl
  rw [hfresh]
  show ((Standing.again _ _ _).after ds).result = _ ∧ _
  rw [List.tail_nil, Standing.again_of_end hdry rfl, Standing.exhausted_of_ok hrefill]
  refine ⟨rfl, ⟨⟨.withPrompt, _, [], [], [], rfl, rfl, .nil, rfl⟩, hplain⟩, ?_⟩
  intro seen
  rw [Run.after_events, Run.after_events, List.foldl_append, List.foldl_append, List.foldl_append,
    hsame, hasked, hrequested, List.dropLast_concat]
  rfl

end Read

/-! ## Reads that have the same steps before them -/

section Guard

variable {complete : String → List String} {prompt : String} {config : Config}

theorem inner_alike :
    Act.Alike ReadEvent.note SameSteps (Standing.inner Desk.inputs (scriptedAsk complete prompt))
      (Standing.inner Desk.inputs (scriptedAsk complete prompt)) := by
  rintro i j ⟨steps, hi, hj⟩
  cases steps with
  | nil =>
    obtain ⟨hresult, hstate, hnoted⟩ := inner_of_no_step complete prompt hi
    obtain ⟨hresult', hstate', hnoted'⟩ := inner_of_no_step complete prompt hj
    exact ⟨hresult.trans hresult'.symm, ⟨_, hstate, hstate'⟩,
      fun seen => (hnoted seen).trans (hnoted' seen).symm⟩
  | cons step steps =>
    obtain ⟨hresult, hstate, hnoted⟩ := inner_of_step complete prompt hi
    obtain ⟨hresult', hstate', hnoted'⟩ := inner_of_step complete prompt hj
    exact ⟨hresult.trans hresult'.symm, ⟨_, hstate, hstate'⟩,
      fun seen => (hnoted seen).trans (hnoted' seen).symm⟩

/-- Notices are no calls, whatever they say. -/
theorem notice_alike {R : Intake Source Desk → Intake Source Desk → Prop} (n m : Notice) :
    Act.Alike ReadEvent.note R (emit [.notice n]) (emit [.notice m]) := .emit fun _ => rfl

/-- A report holds no calls. -/
theorem foldl_note_failureReport (count : Nat) (source : Source) (f : Failure) (text : String)
    (seen : List Mark) :
    (Policy.failureReport Desk.inputs config count source f text).foldl ReadEvent.note seen =
      seen := by
  rw [Policy.failureReport]
  cases Policy.failureRecord? config count (Desk.inputs.label source) text <;> rfl

/-- Reports differ in the names of the sources alone. -/
theorem reportFailure_alike (count : Nat) (f : Failure) :
    Act.Alike ReadEvent.note SameSteps (Policy.reportFailure Desk.inputs config count f)
      (Policy.reportFailure Desk.inputs config count f) := by
  refine .bind (.ofExcept _) fun text => .current_bind fun _ _ _ => .emit fun seen => ?_
  rw [foldl_note_failureReport, foldl_note_failureReport]

theorem reportFatal_alike :
    Act.Alike ReadEvent.note SameSteps (Policy.reportFatal Desk.inputs)
      (Policy.reportFatal Desk.inputs) :=
  .current_bind fun _ _ _ => .bind (notice_alike _ _) fun _ => .bind (notice_alike _ _)
    fun _ => .emit fun _ => rfl

/-- **Reads that have the same steps before them are alike.** -/
theorem guard_standard_alike :
    Act.Alike ReadEvent.note SameSteps
      (Pipeline.guard Desk.inputs config .standard (scriptedAsk complete prompt))
      (Pipeline.guard Desk.inputs config .standard (scriptedAsk complete prompt)) := by
  have hretrying : ∀ left failed, Act.Alike ReadEvent.note SameSteps
      (Policy.retrying Desk.inputs config
        (Standing.inner Desk.inputs (scriptedAsk complete prompt)) failed left)
      (Policy.retrying Desk.inputs config
        (Standing.inner Desk.inputs (scriptedAsk complete prompt)) failed left) := by
    -- by induction on the failures that are left: each is reported alike
    intro left
    induction left with
    | zero =>
      intro failed
      exact .rescue inner_alike fun f => .bind (reportFailure_alike _ f) fun _ =>
        .bind reportFatal_alike fun _ => .pure _
    | succ left ih =>
      intro failed
      exact .rescue inner_alike fun f => .bind (reportFailure_alike _ f) fun _ => ih _
  exact hretrying _ _

/-- A read that leaves fewer steps than it found, unless it ends the session. -/
def TakesStep (steps : List Step) (r : Run ReadEvent (Intake Source Desk) Outcome) : Prop :=
  ∃ later, Replays r.state later ∧
    (later.length < steps.length ∨ r.result = .ok .noMoreInput)

theorem rescue_takesStep {handler : Failure → Act ReadEvent (Intake Source Desk) Outcome}
    {i : Intake Source Desk} {steps : List Step} (h : Replays i steps)
    (hhandler : ∀ f j later, Replays j later → later.length < steps.length →
      TakesStep steps (handler f j)) :
    TakesStep steps ((Standing.inner Desk.inputs (scriptedAsk complete prompt) i).rescue
      config.rescues handler) := by
  cases steps with
  | nil =>
    -- Without a step the read ends the session, and there is no failure to rescue.
    obtain ⟨hresult, hstate, -⟩ := inner_of_no_step complete prompt h
    rcases hinner : Standing.inner Desk.inputs (scriptedAsk complete prompt) i with ⟨result, j, es⟩
    rw [hinner] at hresult hstate
    obtain rfl : result = .ok .noMoreInput := hresult
    exact ⟨[], hstate, .inr rfl⟩
  | cons step steps =>
    -- The step is taken, be its failure rescued or not.
    obtain ⟨-, hstate, -⟩ := inner_of_step complete prompt h
    have hless : steps.length < (step :: steps).length := Nat.lt_succ_self _
    rcases hinner : Standing.inner Desk.inputs (scriptedAsk complete prompt) i with
      ⟨f | outcome, j, es⟩
    · rw [hinner] at hstate
      rw [Run.rescue_error]
      by_cases hf : config.rescues f = true
      · rw [if_pos hf]
        exact hhandler f j steps hstate hless
      · rw [if_neg hf]
        exact ⟨steps, hstate, .inl hless⟩
    · rw [hinner] at hstate
      exact ⟨steps, hstate, .inl hless⟩

variable (complete prompt config) in
/-- Recovery starts where the failure has left off, and where the failure cannot be reported it ends
there. -/
theorem recover_takesStep {i : Intake Source Desk} {steps later : List Step} {f : Failure}
    (h : Replays i later) (hless : later.length < steps.length) (failed left : Nat)
    (hretried : ∀ more, left = more + 1 → TakesStep steps (Policy.retrying Desk.inputs config
      (Standing.inner Desk.inputs (scriptedAsk complete prompt)) (failed + 1) more i)) :
    TakesStep steps
      (Standing.recover Desk.inputs config (scriptedAsk complete prompt) failed left f i) := by
  cases htext : f.text? with
  | none =>
    rw [Standing.recover_of_unwritten htext]
    exact ⟨later, h, .inl hless⟩
  | some text =>
    cases left with
    | zero =>
      rw [Standing.recover, bind_apply, Policy.reportFailure_of_text? htext, Run.andThen_ok]
      exact ⟨later, h, .inr rfl⟩
    | succ more =>
      rw [Standing.recover, bind_apply, Policy.reportFailure_of_text? htext, Run.andThen_ok]
      exact hretried more rfl

variable (complete prompt config) in
/-- **A read takes a step**, unless it ends the session. -/
theorem guard_standard_takesStep {i : Intake Source Desk} {steps : List Step}
    (h : Replays i steps) :
    TakesStep steps
      (Pipeline.guard Desk.inputs config .standard (scriptedAsk complete prompt) i) := by
  have hretrying : ∀ left failed i steps, Replays i steps → TakesStep steps
      (Policy.retrying Desk.inputs config
        (Standing.inner Desk.inputs (scriptedAsk complete prompt)) failed left i) := by
    -- by induction on the failures that are left: the step that failed is taken
    intro left
    induction left with
    | zero =>
      intro failed i steps h
      rw [Standing.retrying_apply]
      exact rescue_takesStep h fun f j later hj hless =>
        recover_takesStep complete prompt config hj hless failed 0 nofun
    | succ left ih =>
      intro failed i steps h
      rw [Standing.retrying_apply]
      refine rescue_takesStep h fun f j later hj hless =>
        recover_takesStep complete prompt config hj hless failed (left + 1) ?_
      rintro more ⟨⟩
      obtain ⟨rest, hrest, hfewer | hend⟩ := ih (failed + 1) j later hj
      · exact ⟨rest, hrest, .inl (Nat.lt_trans hfewer hless)⟩
      · exact ⟨rest, hrest, .inr hend⟩
  exact hretrying _ _ i steps h

end Guard

end PromptLoop
