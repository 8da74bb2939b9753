import PromptLoop.Proofs.Recovery.Reporting

/-!
# The prompt of a guarded question

However often a read asks its sources, it asks them all with the same prompt, and it comes to a line
only once it has asked.

## Main definitions

* `ReadEvent.prompts`: the prompts that sources are asked with
* `ReadEvent.AsksWith`: an event that asks with one prompt, if it asks at all
* `Attempt.AsksFirst`: an attempt that comes to a line only once it has asked for one

## Main results

* `Pipeline.guard_asksWith`: a guarded question asks with its prompt only
* `Pipeline.guard_asksFirst`: and it comes to a line only once it has asked
-/

namespace PromptLoop

variable {ι δ : Type}

namespace ReadEvent

/-- The prompts that sources are asked with. -/
def prompts (es : List ReadEvent) : List String :=
  es.filterMap fun
    | .asked prompt => some prompt
    | _ => none

@[simp] theorem prompts_append (es ds : List ReadEvent) :
    prompts (es ++ ds) = prompts es ++ prompts ds := List.filterMap_append

/-- An event that asks with one prompt, if it asks at all. -/
def AsksWith (prompt : String) : ReadEvent → Prop
  | .asked p => p = prompt
  | _ => True

theorem eq_of_mem_prompts {prompt p : String} {es : List ReadEvent}
    (h : ∀ e ∈ es, AsksWith prompt e) (hp : p ∈ prompts es) : p = prompt := by
  obtain ⟨e, he, hasked⟩ := List.mem_filterMap.mp hp
  have hwith := h e he
  cases e with
  | asked q => exact (Option.some.inj hasked).symm.trans hwith
  | _ => cases hasked

end ReadEvent

section AsksWith

open Act ReadEvent

variable {inputs : Inputs ι δ} {config : Config} {prompt : String} {attempt : Attempt ι δ}

theorem ReadEvent.asksWith_takesIn : TakesIn config (AsksWith prompt) where
  requested := trivial
  source _ := trivial
  logged _ := trivial
  line _ := trivial
  diagnostic _ := trivial
  traceback _ _ := trivial
  entered _ := trivial
  exited _ := trivial

theorem ask_asksWith (complete : String → List String) :
    Reports (AsksWith prompt) (Attempt.ask inputs complete prompt) :=
  Attempt.ask_reports (fun _ => trivial) complete rfl

/-- **A guarded question asks with its prompt only.** -/
theorem Pipeline.guard_asksWith (h : Reports (AsksWith prompt) attempt) (policies : Pipeline) :
    Reports (AsksWith prompt) (Pipeline.guard inputs config policies attempt) :=
  Pipeline.guard_reports asksWith_takesIn h policies

end AsksWith

/-- An attempt that comes to a line only once it has asked for one. -/
def Attempt.AsksFirst (attempt : Act ReadEvent (Intake ι δ) Outcome) : Prop :=
  ∀ i text, (attempt i).result = .ok (.line text) → ReadEvent.prompts (attempt i).events ≠ []

namespace Attempt.AsksFirst

variable {attempt : Act ReadEvent (Intake ι δ) Outcome} {inputs : Inputs ι δ} {config : Config}

protected theorem pure {outcome : Outcome} (h : ∀ text, outcome ≠ .line text) :
    AsksFirst (pure outcome : Act ReadEvent (Intake ι δ) Outcome) :=
  fun _ text hline => absurd (Except.ok.inj hline) (h text)

protected theorem raise (f : Failure) :
    AsksFirst (Act.raise f : Act ReadEvent (Intake ι δ) Outcome) := fun _ _ hline => nomatch hline

protected theorem bind {α : Type} {x : Act ReadEvent (Intake ι δ) α}
    {next : α → Act ReadEvent (Intake ι δ) Outcome} (h : ∀ a, AsksFirst (next a)) :
    AsksFirst (x >>= next) := by
  intro i text hline
  rw [Act.bind_apply] at hline ⊢
  rcases hx : x i with ⟨f | a, j, es⟩
  · rw [hx] at hline
    cases hline
  · rw [hx] at hline
    rw [Run.andThen_ok, Run.after_events, ReadEvent.prompts_append]
    exact List.append_ne_nil_of_right_ne_nil _ (h a j text hline)

protected theorem rescue {catches : Failure → Bool}
    {handler : Failure → Act ReadEvent (Intake ι δ) Outcome} (h : AsksFirst attempt)
    (hhandler : ∀ f, AsksFirst (handler f)) :
    AsksFirst (Act.rescue attempt catches handler) := by
  intro i text hline
  have hattempt := h i text
  rw [Act.rescue_apply] at hline ⊢
  rcases hrun : attempt i with ⟨f | outcome, j, es⟩
  · rw [hrun, Run.rescue_error] at hline
    rw [Run.rescue_error]
    split at hline
    · next hcatches =>
      rw [if_pos hcatches, Run.after_events, ReadEvent.prompts_append]
      exact List.append_ne_nil_of_right_ne_nil _ (hhandler f j text hline)
    · cases hline
  · rw [hrun] at hattempt hline
    exact hattempt hline

theorem retrying (h : AsksFirst attempt) (failed left : Nat) :
    AsksFirst (Policy.retrying inputs config attempt failed left) := by
  -- by induction on the failures that are left
  induction left generalizing failed with
  | zero => exact h.rescue fun f => .bind fun _ => .bind fun _ => .pure nofun
  | succ left ih => exact h.rescue fun f => .bind fun _ => ih (failed + 1)

theorem guard (h : AsksFirst attempt) (policy : Policy) :
    AsksFirst (policy.guard inputs config attempt) := by
  cases policy with
  | interrupt => exact h.rescue fun _ => .bind fun _ => .bind fun _ => .pure nofun
  | endOfInput =>
    refine h.rescue fun _ => .bind fun _ => .bind fun _ => .bind fun _ => .bind fun _ => ?_
    exact h.rescue fun _ => .bind fun _ => .bind fun _ => .pure nofun
  | readError => exact h.retrying 0 _
  | unspecified => exact .raise _
  | recording name =>
    refine .bind fun _ i text hline => ?_
    have hattempt := h i text
    rw [Act.bind_apply] at hline ⊢
    rcases hrun : attempt i with ⟨f | outcome, j, es⟩
    · rw [hrun] at hline
      cases hline
    · rw [hrun] at hattempt hline
      rw [Run.andThen_ok, Run.after_events, ReadEvent.prompts_append]
      exact List.append_ne_nil_of_left_ne_nil (hattempt hline) _

end Attempt.AsksFirst

theorem ask_asksFirst (inputs : Inputs ι δ) (complete : String → List String) (prompt : String) :
    Attempt.AsksFirst (Attempt.ask inputs complete prompt) := by
  rintro i text -
  rw [Attempt.ask, Act.bind_apply, Act.emit_apply, Run.andThen_ok, Run.after_events,
    ReadEvent.prompts_append]
  exact List.append_ne_nil_of_left_ne_nil (List.cons_ne_nil prompt []) _

/-- **A guarded question comes to a line only once it has asked.** -/
theorem Pipeline.guard_asksFirst {attempt : Attempt ι δ} {inputs : Inputs ι δ} {config : Config}
    (h : Attempt.AsksFirst attempt) (policies : Pipeline) :
    Attempt.AsksFirst (Pipeline.guard inputs config policies attempt) := by
  induction policies generalizing attempt with
  | nil => exact h
  | cons policy policies ih => exact ih (h.guard policy)

end PromptLoop
