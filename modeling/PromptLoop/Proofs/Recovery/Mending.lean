import PromptLoop.Proofs.Act.Likeness
import PromptLoop.Proofs.Recovery.Fallback
import PromptLoop.Proofs.Recovery.Interrupts
import PromptLoop.Proofs.Recovery.Reporting
import PromptLoop.Proofs.Source.Mending
import PromptLoop.Session.State

/-!
# Reads of mended sources

A read that comes to an end before its budget is spent, and without falling back between its
failures, comes to the same on mended sources. It differs only by the reports of its failures and by
the questions that it asks again. For a failure is reported and retried where the source has gone
on by a step, and that step is one that a mended source passes over. A failure that is rescued but
says what cannot be written is neither reported nor retried: it ends the read, and stays.

## Main definitions

* `Account`: the events of a session but for reports and repeated questions
* `Act.Withstands`: an action that does the same on mended sources, unless it is retried
* `ReadEvent.Transient`: the events of a read whose failures are overcome
* `Reported`: a failure that is passed on to be reported
* `Overcome`: a run on mended sources that looks like one on the sources

## Main results

* `inner_withstands`: what is inside the policy for read errors does the same on mended sources
* `retrying_stuck`: where the source has not gone on, the budget is spent
* `retrying_mended`: attempts whose failures are overcome look like one attempt on mended sources
* `guard_mended`: so does a read with the standard policies
-/

namespace PromptLoop

/-! ## Events without reports -/

/-- What is expected to follow a report of a failure. -/
inductive Account.Stage
  /-- Nothing in particular. -/
  | free
  /-- The record of the report and the question that is asked again. -/
  | reported
  /-- The call of the reader that is asked again. -/
  | repeated
  deriving DecidableEq, Repr

/-- The events of a session but for the reports of failed reads and the questions that are asked
again after them. -/
structure Account where
  events : List Event := []
  stage : Account.Stage := .free
  deriving DecidableEq, Repr

open ReadEvent

namespace Account

/-- Notes an event unless it belongs to a report. -/
def note (a : Account) (e : Event) : Account :=
  match e, a.stage with
  | .reading (.notice (.wrote _)), _ => { a with stage := .reported }
  | .reading (.notice (.logged _)), .reported => a
  | .reading (.asked _), .reported => { a with stage := .repeated }
  | .reading (.source (.called _ _)), .repeated => { a with stage := .free }
  | e, _ => ⟨a.events ++ [e], .free⟩

/-- Notes an event of a read. -/
def noteRead (a : Account) (e : ReadEvent) : Account := a.note (.reading e)

/-- What a source does comes after a question. -/
theorem stage_noteRead_source (a : Account) (e : SourceEvent) :
    (a.noteRead (.source e)).stage = .free := by
  obtain ⟨events, stage⟩ := a
  cases e <;> cases stage <;> rfl

theorem stage_foldl_source (a : Account) {es : List SourceEvent} (h : es ≠ []) :
    ((es.map ReadEvent.source).foldl noteRead a).stage = .free := by
  obtain ⟨ds, e, rfl⟩ := (List.eq_nil_or_concat es).resolve_left h
  rw [List.concat_eq_append, List.map_append, List.foldl_append]
  exact stage_noteRead_source _ e

/-- After a report the question is expected to be asked again, be the report on record or not. -/
theorem foldl_failureReport {ι δ : Type} (inputs : Inputs ι δ) (config : Config) (count : Nat)
    (source : ι) (f : Failure) (text : String) (a : Account) :
    (Policy.failureReport inputs config count source f text).foldl noteRead a =
      { a with stage := .reported } := by
  rw [Policy.failureReport, List.foldl_append]
  cases Policy.failureRecord? config count (inputs.label source) text with
  | none => rfl
  | some message => rfl

/-- A question that fails, is reported and asked again is noted as one question. -/
theorem foldl_retried {ι δ : Type} (inputs : Inputs ι δ) (config : Config) (count : Nat)
    (source : ι) (f : Failure) (text : String) (a : Account) (prompt : String) (name : Value)
    (shown : Option String) (os ds es : List SourceEvent) :
    ((asked prompt :: (os ++ .called name shown :: ds).map ReadEvent.source) ++
        (Policy.failureReport inputs config count source f text ++
        asked prompt :: (.called name shown :: es).map ReadEvent.source)).foldl noteRead a =
      (asked prompt :: (os ++ .called name shown :: (ds ++ es)).map ReadEvent.source).foldl
        noteRead a := by
  let failed := (asked prompt :: (os ++ .called name shown :: ds).map ReadEvent.source).foldl
    noteRead a
  have hfree : failed.stage = .free := stage_foldl_source (a.noteRead (.asked prompt)) (by simp)
  have hevents : asked prompt :: (os ++ .called name shown :: (ds ++ es)).map ReadEvent.source =
      (asked prompt :: (os ++ .called name shown :: ds).map ReadEvent.source) ++
        es.map ReadEvent.source := by
    simp
  -- The report, the question and the call that are made once more leave no trace.
  have hrepeated : (({ failed with stage := .reported } : Account).noteRead
      (.asked prompt)).noteRead (.source (.called name shown)) = failed := by
    obtain ⟨events, stage⟩ := failed
    obtain rfl : stage = .free := hfree
    rfl
  rw [hevents, List.foldl_append, List.foldl_append, List.foldl_append, foldl_failureReport,
    List.foldl_cons, List.map_cons, List.foldl_cons]
  show List.foldl noteRead ((noteRead { failed with stage := .reported } _).noteRead _) _ = _
  rw [hrepeated]

end Account

/-! ## Actions on mended sources -/

namespace Act

variable {config : Config} {α β : Type}

/-- An action that does the same on mended sources, unless it fails in a way that is overlooked. -/
def Withstands (config : Config) (x : Act ReadEvent (Intake Source Desk) α) : Prop :=
  ∀ i, ¬Overlooked config (x i).result →
    x (i.mended config) = (x i).seen (Intake.mended config)

namespace Withstands

protected theorem pure (a : α) :
    Withstands config (pure a : Act ReadEvent (Intake Source Desk) α) := fun _ _ => rfl

protected theorem emit (es : List ReadEvent) :
    Withstands config (emit es : Act ReadEvent (Intake Source Desk) Unit) := fun _ _ => rfl

protected theorem bind {x : Act ReadEvent (Intake Source Desk) α}
    {next : α → Act ReadEvent (Intake Source Desk) β} (h : Withstands config x)
    (hnext : ∀ a, Withstands config (next a)) : Withstands config (x >>= next) := by
  intro i hnot
  rw [bind_apply] at hnot
  rw [bind_apply, bind_apply]
  rcases hx : x i with ⟨f | a, j, es⟩
  · -- A failure of the first action is one of both.
    rw [hx] at hnot
    rw [h i (hx ▸ fun ⟨g, hg, hover⟩ => hnot ⟨g, congrArg _ (Except.error.inj hg), hover⟩), hx]
    rfl
  · rw [hx] at hnot
    rw [h i (hx ▸ nofun), hx, Run.seen_mk, Run.andThen_ok, Run.andThen_ok, hnext a j hnot]
    rfl

/-- What follows may look at a source, as long as it does not tell a mended one apart. -/
protected theorem current_bind
    {next : Intake Source Desk → Act ReadEvent (Intake Source Desk) β}
    (hsame : ∀ i, next (i.mended config) = next i) (hnext : ∀ i, Withstands config (next i)) :
    Withstands config (current >>= next) := by
  intro i hnot
  show next (i.mended config) (i.mended config) = (next i i).seen _
  rw [hsame]
  exact hnext i i hnot

/-- A handler that is for other failures than those that are overlooked. -/
protected theorem rescue {x : Act ReadEvent (Intake Source Desk) α} {catches : Failure → Bool}
    {handler : Failure → Act ReadEvent (Intake Source Desk) α} (h : Withstands config x)
    (hcatches : ∀ f, catches f = true → config.overlooks f = false)
    (hhandler : ∀ f, Withstands config (handler f)) :
    Withstands config (x.rescue catches handler) := by
  intro i hnot
  rw [rescue_apply] at hnot
  rw [rescue_apply, rescue_apply]
  rcases hx : x i with ⟨f | a, j, es⟩
  · rw [hx, Run.rescue_error] at hnot
    by_cases hf : catches f = true
    · -- What is handled is not overlooked, so the mended source fails in the same way.
      have hover : ¬Overlooked config (x i).result := by
        rw [hx]
        rintro ⟨g, hg, hover⟩
        obtain rfl := Except.error.inj hg
        rw [hcatches f hf] at hover
        cases hover
      rw [if_pos hf] at hnot
      rw [h i hover, hx, Run.seen_mk, Run.rescue_error, Run.rescue_error, if_pos hf, if_pos hf,
        hhandler f j hnot]
      rfl
    · rw [if_neg hf] at hnot
      rw [h i (hx ▸ hnot), hx, Run.seen_mk, Run.rescue_error, Run.rescue_error, if_neg hf,
        if_neg hf]
      rfl
  · rw [h i (hx ▸ nofun), hx]
    rfl

end Withstands

end Act

section Attempts

variable {ι δ : Type} {config : Config} {complete : String → List String} {prompt : String}
  {i j : Intake Source Desk}

/-! ## Attempts that are not retried -/

theorem overlooked_map {result : Except Failure (Option String)} :
    Overlooked config (result.map Outcome.ofAnswer) ↔ Overlooked config result := by
  rcases result with f | answer
  · constructor
    · rintro ⟨g, hg, hover⟩
      exact ⟨g, congrArg _ (Except.error.inj hg), hover⟩
    · rintro ⟨g, hg, hover⟩
      exact ⟨g, congrArg _ (Except.error.inj hg), hover⟩
  · exact iff_of_false nofun nofun

variable (config complete prompt) in
theorem ask_withstands : Act.Withstands config (Attempt.ask Desk.inputs complete prompt) := by
  intro i hnot
  rw [Attempt.ask_apply] at hnot
  rw [Attempt.ask_apply, Attempt.ask_apply,
    Desk.read_kept config complete prompt i fun hover => hnot (overlooked_map.mpr hover)]
  rfl

variable (config) in
/-- A switch between mended sources is recorded as one between the sources. -/
theorem switchover_mended (before next : Source) :
    Attempt.switchover Desk.inputs (before.mended config) (next.mended config) =
      Attempt.switchover Desk.inputs before next := by
  show notice (.log _ _ ("source_switched: from=" ++ (before.mended config).label ++ ", to=" ++
    (next.mended config).label)) = _
  rw [Source.mended_label, Source.mended_label]
  rfl

variable (config) in
theorem refill_withstands : Act.Withstands config (Attempt.refill Desk.inputs) := by
  intro i _
  have hfresh := Desk.fresh_mended config i.supply
  rcases h : Desk.fresh i.supply with ⟨f | next, supply, es⟩
  · rw [h] at hfresh
    rw [Attempt.refill_of_error (i := i.mended config) hfresh, Attempt.refill_of_error (i := i) h]
    rfl
  · rw [h] at hfresh
    rw [Attempt.refill_of_ok (i := i.mended config) hfresh, Attempt.refill_of_ok (i := i) h]
    show Run.mk _ _ (requested :: (_ ++ [Attempt.switchover Desk.inputs
      (i.source.mended config) (next.mended config)])) = _
    rw [switchover_mended]
    rfl

/-- What is caught inside the policy for read errors is not overlooked. -/
theorem overlooks_eq_false {kind : FailureKind} {f : Failure} (h : f.isA kind = true)
    (hkind : kind = .keyboardInterrupt ∨ kind = .endOfFile) : config.overlooks f = false := by
  by_contra hover
  rw [Bool.not_eq_false, Config.overlooks, Bool.and_eq_true, Bool.not_eq_true', Config.reports,
    Bool.and_eq_true] at hover
  rcases hkind with rfl | rfl
  · rw [config.not_interrupt_of_rescues hover.1.1] at h
    cases h
  · rw [hover.2] at h
    cases h

variable (config) in
theorem onInterrupt_withstands {attempt : Attempt Source Desk} (h : Act.Withstands config attempt) :
    Act.Withstands config (Policy.onInterrupt Desk.inputs attempt) := by
  refine h.rescue (fun f hf => overlooks_eq_false hf (.inl rfl)) fun _ => ?_
  refine .current_bind (fun i => ?_) fun i => .bind (.emit _) fun _ => .pure _
  show (do Attempt.log _ _ ("read_interrupted: source=" ++ (i.source.mended config).label); _) = _
  rw [Source.mended_label]
  rfl

variable (config) in
/-- **What is inside the policy for read errors does the same on mended sources**, unless it fails
in a way that is overlooked. -/
theorem inner_withstands {attempt : Attempt Source Desk} (h : Act.Withstands config attempt) :
    Act.Withstands config (Standing.inner Desk.inputs attempt) := by
  have hinterrupt := onInterrupt_withstands config h
  refine hinterrupt.rescue (fun f hf => overlooks_eq_false hf (.inr rfl)) fun _ => ?_
  refine .current_bind (fun i => ?_) fun before => .bind (refill_withstands config) fun _ => ?_
  · show (do
      Attempt.refill Desk.inputs
      let now ← Act.current
      Attempt.log _ _ ("input_fallback: exhausted=" ++ (i.source.mended config).label ++ _ ++ _)
      _) = _
    rw [Source.mended_label]
    rfl
  · refine .current_bind (fun i => ?_) fun now => .bind (.emit _) fun _ => ?_
    · show (do Attempt.log _ _ (_ ++ _ ++ ", now=" ++ (i.source.mended config).label); _) = _
      rw [Source.mended_label]
      rfl
    · refine hinterrupt.rescue (fun f hf => overlooks_eq_false hf (.inr rfl)) fun _ => ?_
      exact .bind (refill_withstands config) fun _ => .bind (.emit _) fun _ => .pure _

/-! ## Attempts that are retried -/

/-- Two runs that are the same one after different events. -/
def Run.Shared {ε σ α : Type} (es ds : List ε) (r q : Run ε σ α) : Prop :=
  ∃ p : Run ε σ α, r = p.after es ∧ q = p.after ds

/-- What handles one of two runs that are the same handles the other one. -/
theorem Run.Shared.rescue {ε σ α : Type} {es ds : List ε} {r q : Run ε σ α}
    (h : Shared es ds r q) (catches : Failure → Bool) (handler : Failure → Act ε σ α) :
    Shared es ds (r.rescue catches handler) (q.rescue catches handler) := by
  obtain ⟨p, rfl, rfl⟩ := h
  exact ⟨p.rescue catches handler, after_rescue .., after_rescue ..⟩

section Retried

variable {inputs : Inputs ι δ} {attempt : Attempt ι δ} {k l : Intake ι δ} {f : Failure}
  {es : List ReadEvent}

/-- A failure that comes out of the policies inside the one for read errors comes from the attempt
itself, unless the supply was asked. -/
theorem attempt_of_inner_error (h : Standing.inner inputs attempt k = ⟨.error f, l, es⟩)
    (hrequests : requests es = 0) :
    attempt k = ⟨.error f, l, es⟩ ∧ f.isA .endOfFile = false := by
  rcases hk : attempt k with ⟨g | outcome, m, ds⟩
  · by_cases hint : g.isA .keyboardInterrupt = true
    · rw [Standing.inner_of_ok (Standing.onInterrupt_of_interrupt hk hint)] at h
      cases (Run.mk.inj h).1
    rw [Bool.not_eq_true] at hint
    have honInterrupt : Policy.onInterrupt inputs attempt k = _ :=
      Standing.onInterrupt_of_error hk hint
    by_cases hend : g.isA .endOfFile = true
    · -- At the end of its input the supply is asked, whatever comes of it.
      have hasked : requested ∈ es := by
        rcases Attempt.refill_cases inputs m with ⟨g', n, fs, hr, -⟩ | ⟨n, fs, hr, -⟩
        · rw [Standing.inner_of_end_error honInterrupt hend hr] at h
          obtain ⟨-, -, rfl⟩ := Run.mk.inj h
          simp
        · rw [Standing.inner_of_end_ok honInterrupt hend hr] at h
          obtain rfl : (_ ++ _) = es := congrArg Run.events h
          simp
      exact absurd rfl (List.countP_eq_zero.mp hrequests _ hasked)
    · rw [Bool.not_eq_true] at hend
      rw [Standing.inner_of_error honInterrupt hend] at h
      obtain ⟨hg, rfl, rfl⟩ := Run.mk.inj h
      obtain rfl := Except.error.inj hg
      exact ⟨rfl, hend⟩
  · rw [Standing.inner_of_ok (Standing.onInterrupt_of_ok hk)] at h
    cases (Run.mk.inj h).1

/-- What follows from an attempt does not depend on what it let others see. -/
theorem inner_congr {m : Intake ι δ} {result : Except Failure Outcome} {ds : List ReadEvent}
    (hk : attempt k = ⟨result, m, es⟩) (hl : attempt l = ⟨result, m, ds⟩) :
    Run.Shared es ds (Standing.inner inputs attempt k) (Standing.inner inputs attempt l) := by
  have hshared : Run.Shared es ds (attempt k) (attempt l) := by
    refine ⟨⟨result, m, []⟩, ?_, ?_⟩
    · rw [hk, Run.after, List.append_nil]
    · rw [hl, Run.after, List.append_nil]
  exact (hshared.rescue _ _).rescue _ _

variable (config) in
theorem retrying_of_error {failed left : Nat}
    (h : Standing.inner inputs attempt k = ⟨.error f, l, es⟩) (hf : config.rescues f = true) :
    Policy.retrying inputs config (Standing.inner inputs attempt) failed left k =
      (Standing.recover inputs config attempt failed left f l).after es := by
  rw [Standing.retrying_apply, h, Run.rescue_error, if_pos hf]

theorem recover_succ {text : String} (htext : f.text? = some text) (failed left : Nat) :
    Standing.recover inputs config attempt failed (left + 1) f l =
      (Policy.retrying inputs config (Standing.inner inputs attempt) (failed + 1) left l).after
        (Policy.failureReport inputs config (failed + 1) l.source f text) := by
  rw [Standing.recover, Act.bind_apply, Policy.reportFailure_of_text? htext, Run.andThen_ok]

/-- A failure is reported wherever one is recovered from. -/
theorem reports_recover_pos {text : String} (htext : f.text? = some text) (failed left : Nat) :
    0 < reports (Standing.recover inputs config attempt failed left f l).events := by
  have honce (count : Nat) := Standing.failureReport_once inputs config count l.source f text
  cases left with
  | zero =>
    rw [Standing.recover, Act.bind_apply, Policy.reportFailure_of_text? htext, Run.andThen_ok,
      Run.after_events, reports_append, (honce _).2.2.1]
    exact Nat.add_pos_left Nat.one_pos _
  | succ left =>
    rw [recover_succ htext, Run.after_events, reports_append, (honce _).2.2.1]
    exact Nat.add_pos_left Nat.one_pos _

/-- A read that fails as it was before goes on to fail until its budget is spent. -/
theorem retrying_stuck {text : String} (h : Standing.inner inputs attempt k = ⟨.error f, k, es⟩)
    (hf : config.rescues f = true) (htext : f.text? = some text) (failed left : Nat) :
    left < reports
      (Policy.retrying inputs config (Standing.inner inputs attempt) failed left k).events := by
  induction left generalizing failed with
  | zero =>
    rw [retrying_of_error config h hf, Run.after_events, reports_append]
    exact Nat.add_pos_right _ (reports_recover_pos htext failed 0)
  | succ left ih =>
    have honce := Standing.failureReport_once inputs config (failed + 1) k.source f text
    rw [retrying_of_error config h hf, Run.after_events, reports_append, recover_succ htext,
      Run.after_events, reports_append, honce.2.2.1]
    have hrest := ih (failed + 1)
    omega

end Retried

/-- Events of a read whose failures are overcome: fewer of them are reported than the budget allows,
and none where the supply was asked. -/
def ReadEvent.Transient (config : Config) (es : List ReadEvent) : Prop :=
  reports es < config.budget ∧ (reports es = 0 ∨ requests es = 0)

/-- A failure that is passed on to be reported. -/
def Reported {α : Type} (config : Config) (result : Except Failure α) : Prop :=
  ∃ f text, result = .error f ∧ config.rescues f = true ∧ f.text? = some text

/-- What the policy for read errors makes of a run that has no failure to report. -/
def Run.unreported {σ : Type} (config : Config) (r : Run ReadEvent σ Outcome) :
    Run ReadEvent σ Outcome :=
  ⟨r.result.mapError (Standing.escape config), r.state, r.events⟩

/-- A run on mended sources has no failure to report, and a read that comes to it looks like one on
the sources. -/
structure Overcome (config : Config) (r q : Run ReadEvent (Intake Source Desk) Outcome) :
    Prop where
  alike : r.Alike Account.noteRead (fun i j => j = i.mended config) (q.unreported config)
  not_reported : ¬Reported config q.result

section Asking

/-- A question to the current source with the policies inside the one for read errors. -/
abbrev Desk.attempt (complete : String → List String) (prompt : String) : Attempt Source Desk :=
  Standing.inner Desk.inputs (Attempt.ask Desk.inputs complete prompt)

/-- A failure that is not reported ends the read, as what leaves it. -/
theorem retrying_of_not_reported {inputs : Inputs ι δ} {attempt : Attempt ι δ} {k : Intake ι δ}
    (h : ¬Reported config (Standing.inner inputs attempt k).result) (failed left : Nat) :
    Policy.retrying inputs config (Standing.inner inputs attempt) failed left k =
      (Standing.inner inputs attempt k).unreported config := by
  rw [Standing.retrying_apply]
  rcases hk : Standing.inner inputs attempt k with ⟨f | outcome, l, es⟩
  · by_cases hf : config.rescues f = true
    · have htext : f.text? = none := Option.eq_none_iff_forall_ne_some.mpr fun text htext =>
        h ⟨f, text, congrArg Run.result hk, hf, htext⟩
      rw [Run.rescue_error, if_pos hf, Standing.recover_of_unwritten htext, Run.unreported,
        Except.mapError, Standing.escape, if_pos ⟨hf, htext⟩]
      exact congrArg (Run.mk _ l) (List.append_nil es)
    · rw [Run.rescue_error, if_neg hf, Run.unreported, Except.mapError, Standing.escape,
        if_neg fun hescape => hf hescape.1]
  · rfl

/-- A read reports a failure that comes out of the policies inside. -/
theorem reports_retrying_pos {inputs : Inputs ι δ} {attempt : Attempt ι δ} {k : Intake ι δ}
    (h : Reported config (Standing.inner inputs attempt k).result) (failed left : Nat) :
    0 < reports
      (Policy.retrying inputs config (Standing.inner inputs attempt) failed left k).events := by
  obtain ⟨f, text, hf, hrescues, htext⟩ := h
  rcases hk : Standing.inner inputs attempt k with ⟨result, l, es⟩
  obtain rfl : result = .error f := (congrArg Run.result hk).symm.trans hf
  rw [retrying_of_error config hk hrescues, Run.after_events, reports_append]
  exact Nat.add_pos_right _ (reports_recover_pos htext failed left)

/-- A read that is not retried. -/
theorem overcome_of_not_reported
    (h : ¬Reported config (Desk.attempt complete prompt i).result) :
    Overcome config ((Desk.attempt complete prompt i).unreported config)
      (Desk.attempt complete prompt (i.mended config)) := by
  have hnot : ¬Overlooked config (Desk.attempt complete prompt i).result := by
    rintro ⟨f, hf, hover⟩
    rw [Config.overlooks, Bool.and_eq_true, Config.reports, Bool.and_eq_true] at hover
    obtain ⟨text, htext⟩ := Option.isSome_iff_exists.mp hover.1.2
    exact h ⟨f, text, hf, hover.1.1, htext⟩
  have hsame : Desk.attempt complete prompt (i.mended config) =
      (Desk.attempt complete prompt i).seen (Intake.mended config) :=
    inner_withstands config (ask_withstands config complete prompt) i hnot
  rw [hsame]
  exact ⟨⟨rfl, rfl, fun _ => rfl⟩, h⟩

/-- A read that is retried. -/
theorem overcome_of_reported {f : Failure} {text : String} {es : List ReadEvent} {count : Nat}
    {rest : Run ReadEvent (Intake Source Desk) Outcome}
    (h : Desk.attempt complete prompt i = ⟨.error f, j, es⟩)
    (hf : config.rescues f = true) (htext : f.text? = some text) (hrequests : requests es = 0)
    (hmoved : j ≠ i)
    (hrest : Overcome config rest (Desk.attempt complete prompt (j.mended config))) :
    Overcome config
      ((rest.after (Policy.failureReport Desk.inputs config count j.source f text)).after es)
      (Desk.attempt complete prompt (i.mended config)) := by
  obtain ⟨hattempt, hend⟩ := attempt_of_inner_error h hrequests
  rw [Attempt.ask_apply] at hattempt
  obtain ⟨hresult, rfl, rfl⟩ := Run.mk.inj hattempt
  have hover : Overlooked config (Desk.inputs.read complete prompt i).result := by
    refine overlooked_map.mp ⟨f, hresult, ?_⟩
    rw [Config.overlooks, Config.reports, hf, htext, hend]
    rfl
  obtain ⟨name, shown, os, ds, es, result, l, hevents, hlater, hnow⟩ :=
    (Desk.read_skipped config complete prompt i hover).resolve_left hmoved
  -- The next attempt on mended sources and the first one on them differ by what is reported.
  have hask := Attempt.ask_apply Desk.inputs complete prompt
    ((Desk.inputs.read complete prompt i).state.mended config)
  have hask' := Attempt.ask_apply Desk.inputs complete prompt (i.mended config)
  rw [hlater] at hask
  rw [hnow] at hask'
  have hshared : Run.Shared _ _
      (Desk.attempt complete prompt ((Desk.inputs.read complete prompt i).state.mended config))
      (Desk.attempt complete prompt (i.mended config)) := inner_congr hask hask'
  obtain ⟨q, hq, hq'⟩ := hshared
  rw [hq] at hrest
  obtain ⟨⟨hresult', hstate, hnoted⟩, hnot⟩ := hrest
  have hretried (a : Account) := Account.foldl_retried Desk.inputs config count
    (Desk.inputs.read complete prompt i).state.source f text a prompt name shown os ds es
  rw [hq', hevents]
  refine ⟨⟨hresult', hstate, fun a => ?_⟩, hnot⟩
  rw [Run.after_events, Run.after_events, List.foldl_append, List.foldl_append, hnoted]
  show List.foldl _ _ (_ ++ q.events) = List.foldl _ _ (_ ++ q.events)
  rw [List.foldl_append, List.foldl_append, ← hretried, List.foldl_append, List.foldl_append]

end Asking

variable (config complete prompt) in
/-- **Attempts whose failures are overcome look like one attempt on mended sources.** -/
theorem retrying_mended (failed left : Nat) (i : Intake Source Desk)
    {read : Run ReadEvent (Intake Source Desk) Outcome}
    (h : Policy.retrying Desk.inputs config
      (Desk.attempt complete prompt) failed left i = read)
    (hreports : reports read.events ≤ left)
    (hrequests : reports read.events = 0 ∨ requests read.events = 0) :
    Overcome config read (Desk.attempt complete prompt (i.mended config)) := by
  -- by induction on the failures that are left: each of them leaves the source a step further
  induction left generalizing failed i read with
  | zero =>
    by_cases hreported : Reported config (Desk.attempt complete prompt i).result
    · have hpos := reports_retrying_pos hreported failed 0
      rw [h] at hpos
      omega
    · rw [retrying_of_not_reported hreported] at h
      exact h ▸ overcome_of_not_reported hreported
  | succ left ih =>
    by_cases hreported : Reported config (Desk.attempt complete prompt i).result
    · have hpos := reports_retrying_pos hreported failed (left + 1)
      rw [h] at hpos
      obtain ⟨f, text, hf, hrescues, htext⟩ := hreported
      rcases hi : Desk.attempt complete prompt i with ⟨result, j, es⟩
      obtain rfl : result = .error f := (congrArg Run.result hi).symm.trans hf
      rw [retrying_of_error config hi hrescues, recover_succ htext] at h
      obtain rfl := h
      have honce := Standing.failureReport_once Desk.inputs config (failed + 1) j.source f text
      have hnone := hrequests.resolve_left (Nat.ne_of_gt hpos)
      rw [Run.after_events, Run.after_events, reports_append, reports_append,
        honce.2.2.1] at hreports
      rw [Run.after_events, Run.after_events, requests_append, requests_append] at hnone
      refine overcome_of_reported hi hrescues htext (by omega) ?_
        (ih (failed + 1) j rfl (by omega) ?_)
      · -- Where nothing has changed the budget is spent.
        rintro rfl
        have hstuck : left < reports (Policy.retrying Desk.inputs config
            (Standing.inner Desk.inputs (Attempt.ask Desk.inputs complete prompt)) (failed + 1) left
            j).events :=
          retrying_stuck hi hrescues htext (failed + 1) left
        omega
      · exact .inr (by omega)
    · rw [retrying_of_not_reported hreported] at h
      exact h ▸ overcome_of_not_reported hreported

theorem Config.no_kinds_ordinary : ∀ kind ∈ ([] : List FailureKind), kind.isOrdinary = true := by
  intro kind hkind
  cases hkind

/-- A configuration by which no failure is rescued. -/
def Config.unrescuing : Config :=
  { Config.standard with rescuable := [], rescuable_ordinary := Config.no_kinds_ordinary }

/-- Reports of failures are not taken in where none is rescued. -/
theorem ReadEvent.unreported_takesIn :
    TakesIn Config.unrescuing (fun e => isReport e = false) where
  requested := rfl
  source _ := rfl
  logged _ := rfl
  line _ := rfl
  diagnostic _ := rfl
  traceback _ := nofun
  entered _ := rfl
  exited _ := rfl

/-- Inside the policy for read errors no failure is reported. -/
theorem reports_attempt (complete : String → List String) (prompt : String)
    (i : Intake Source Desk) : reports (Desk.attempt complete prompt i).events = 0 := by
  have hask : Act.Reports (fun e => isReport e = false)
      (Attempt.ask Desk.inputs complete prompt) := Attempt.ask_reports (fun _ => rfl) complete rfl
  -- The policies inside are a pipeline of their own, for which it does not matter what is rescued.
  have hattempt : Act.Reports (fun e => isReport e = false) (Desk.attempt complete prompt) :=
    Pipeline.guard_reports ReadEvent.unreported_takesIn hask [.interrupt, .endOfInput]
  refine List.countP_eq_zero.mpr fun e he => ?_
  rw [hattempt i e he]
  exact Bool.false_ne_true

variable (config complete prompt) in
/-- **A read whose failures are overcome looks the same on mended sources**, where it has no failure
to report. -/
theorem guard_mended (i : Intake Source Desk) :
    let read := Pipeline.guard Desk.inputs config .standard
      (Attempt.ask Desk.inputs complete prompt)
    Transient config (read i).events →
      (read i).Alike Account.noteRead (fun i j => j = i.mended config) (read (i.mended config)) ∧
        reports (read (i.mended config)).events = 0 := by
  rintro read ⟨hreports, hrequests⟩
  obtain ⟨halike, hnot⟩ := retrying_mended config complete prompt 0
    (config.maxReadRetries.toNat - 1) i rfl (Nat.le_sub_one_of_lt hreports) hrequests
  have hmended : read (i.mended config) =
      (Desk.attempt complete prompt (i.mended config)).unreported config :=
    retrying_of_not_reported hnot 0 _
  rw [hmended]
  exact ⟨halike, reports_attempt complete prompt _⟩

end Attempts

end PromptLoop
