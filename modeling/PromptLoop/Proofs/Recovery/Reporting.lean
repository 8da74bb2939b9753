import PromptLoop.Proofs.Act.Frame
import PromptLoop.Recovery.Policy

/-!
# What guarded attempts report

Policies report requests, records and messages of their own, and those failures that they rescue. A
sort of events that takes these in is kept by every policy, and so by all of them together.

## Main definitions

* `ReadEvent.TakesIn`: a sort of events that takes in what policies report

## Main results

* `Pipeline.guard_reports`: a guarded attempt reports events of a sort if the attempt does
-/

namespace PromptLoop

open Act

variable {ι δ : Type}

/-- A sort of events that takes in what policies report. -/
structure ReadEvent.TakesIn (config : Config) (sort : ReadEvent → Prop) : Prop where
  requested : sort .requested
  source : ∀ e, sort (.source e)
  logged : ∀ record, sort (.notice (.logged record))
  line : ∀ text, sort (.notice (.line text))
  diagnostic : ∀ message, sort (.notice (.diagnostic message))
  /-- Only failures that are rescued are reported. -/
  traceback : ∀ f, config.rescues f = true → sort (.notice (.wrote (.traceback f)))
  entered : ∀ name, sort (.entered name)
  exited : ∀ name, sort (.exited name)

namespace ReadEvent.TakesIn

variable {inputs : Inputs ι δ} {config : Config} {attempt : Attempt ι δ} {sort : ReadEvent → Prop}
  (h : TakesIn config sort)

include h

theorem log (level : Log.Level) (channel message : String) :
    Reports sort (Attempt.log level channel message : Act ReadEvent (Intake ι δ) Unit) :=
  .emit (List.forall_mem_singleton.mpr (h.logged _))

theorem log? (level : Log.Level) (channel : String) (message? : Option String) :
    ∀ e ∈ (Notice.log? level channel message?).map ReadEvent.notice, sort e := by
  cases message? with
  | none => exact nofun
  | some message => exact List.forall_mem_singleton.mpr (h.logged _)

theorem refill : Reports sort (Attempt.refill inputs) := by
  refine .bind (.emit (List.forall_mem_singleton.mpr h.requested)) fun _ => ?_
  refine .bind (.within h.source) fun next => .bind .current fun intake => ?_
  exact .bind (h.log _ _ _) fun _ => .change _

theorem exhausted : Reports sort (Policy.exhausted inputs) :=
  .bind h.refill fun _ => .bind (h.log _ _ _) fun _ => .pure _

theorem reportFailure (count : Nat) {f : Failure} (hf : config.rescues f = true) :
    Reports sort (Policy.reportFailure inputs config count f) := by
  refine .bind (.ofExcept _) fun text => .bind .current fun intake => .emit ?_
  refine List.forall_mem_append.mpr ⟨?_, h.log? _ _ _⟩
  exact List.forall_mem_cons.mpr
    ⟨h.diagnostic _, List.forall_mem_singleton.mpr (h.traceback f hf)⟩

theorem reportFatal : Reports sort (Policy.reportFatal inputs) := by
  refine .bind .current fun intake => .bind (h.log _ _ _) fun _ => ?_
  refine .bind (.emit (List.forall_mem_singleton.mpr (h.diagnostic _))) fun _ => .emit ?_
  exact List.forall_mem_map.mpr fun line _ => h.line line

theorem retrying (hattempt : Reports sort attempt) (failed left : Nat) :
    Reports sort (Policy.retrying inputs config attempt failed left) := by
  -- by induction on the failures that are left
  induction left generalizing failed with
  | zero =>
    refine .rescue_of hattempt fun f hf => .bind (h.reportFailure (failed + 1) hf) fun _ => ?_
    exact .bind h.reportFatal fun _ => .pure _
  | succ left ih =>
    refine .rescue_of hattempt fun f hf => ?_
    exact .bind (h.reportFailure (failed + 1) hf) fun _ => ih (failed + 1)

/-- An attempt guarded by a policy. -/
theorem guard (hattempt : Reports sort attempt) (policy : Policy) :
    Reports sort (policy.guard inputs config attempt) := by
  cases policy with
  | interrupt =>
    exact .rescue hattempt fun _ => .bind .current fun _ => .bind (h.log _ _ _) fun _ => .pure _
  | endOfInput =>
    refine .rescue hattempt fun _ => .bind .current fun before => .bind h.refill fun _ => ?_
    refine .bind .current fun now => .bind (h.log _ _ _) fun _ => ?_
    exact .rescue hattempt fun _ => h.exhausted
  | readError => exact h.retrying hattempt 0 _
  | unspecified => exact .raise _
  | recording name =>
    refine .bind (.emit (List.forall_mem_singleton.mpr (h.entered name))) fun _ => ?_
    refine .bind hattempt fun outcome => ?_
    exact .bind (.emit (List.forall_mem_singleton.mpr (h.exited name))) fun _ => .pure _

end ReadEvent.TakesIn

/-- **A guarded attempt reports events of a sort**, if the attempt does and the sort takes in what
the policies report. -/
theorem Pipeline.guard_reports {inputs : Inputs ι δ} {config : Config} {attempt : Attempt ι δ}
    {sort : ReadEvent → Prop} (h : ReadEvent.TakesIn config sort) (hattempt : Reports sort attempt)
    (policies : Pipeline) : Reports sort (Pipeline.guard inputs config policies attempt) := by
  induction policies generalizing attempt with
  | nil => exact hattempt
  | cons policy policies ih => exact ih (h.guard hattempt policy)

/-- A question reports itself and what the source does. -/
theorem Attempt.ask_reports {inputs : Inputs ι δ} {sort : ReadEvent → Prop}
    (hsource : ∀ e, sort (.source e)) (complete : String → List String) {prompt : String}
    (hasked : sort (.asked prompt)) : Reports sort (Attempt.ask inputs complete prompt) :=
  .bind (.emit (List.forall_mem_singleton.mpr hasked)) fun _ =>
    .bind (.within hsource) fun _ => .pure _

end PromptLoop
