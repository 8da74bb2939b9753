import PromptLoop.Proofs.Hook.Firing
import PromptLoop.Proofs.Session.Conduct
import PromptLoop.Proofs.Session.Forwarding
import PromptLoop.Proofs.Session.Likeness

/-!
# The lifecycle of a session

A session fires one event before its first turn and one after its last, however it ends. The turns
fire nothing, and nothing is read or evaluated outside of the two events. What hooks fail with
ordinarily has no bearing on how the session ends, as long as it can be written.

## Main definitions

* `firings`, `hooksRun`: the events that are fired, and the hooks that run
* `Evaluator.Leaves`: an evaluator whose calls leave a part of its state alone
* `Hook.FailsOrdinarily`, `Hook.FailsInWriting`: a hook whose failures are ordinary, or can be
  written

## Main results

* `Hooked.fire_answers`, `Hooked.fire_ordinary`: what hooks whose failures are ordinary come to
* `Session.fire_events`: the hooks of an event run once it is fired
* `Session.opened_leaves`: a session leaves alone what the calls of its evaluator do
* `Session.opened_events`, `Session.finish_events`: what is fired up to the last turn and after it
* `Session.run?_of_ordinary`: hooks whose failures are ordinary have no part in how it ends
* `Session.lifecycle`: a session that ends has fired each of its two events once
-/

namespace PromptLoop

variable {ι δ σ α β γ : Type}

/-- What an event of a session fires. -/
def Event.firing? : Event → Option String
  | .fired event _ => some event
  | _ => none

/-- What events fire, in their order. -/
def firings (es : List Event) : List String := es.filterMap Event.firing?

@[simp] theorem firings_append (es ds : List Event) :
    firings (es ++ ds) = firings es ++ firings ds :=
  List.filterMap_append

/-- The hook that an event of a session is the start of. -/
def Event.hookRun? : Event → Option String
  | .ran name => some name
  | _ => none

/-- The hooks that run, in their order. -/
def hooksRun (es : List Event) : List String := es.filterMap Event.hookRun?

@[simp] theorem hooksRun_append (es ds : List Event) :
    hooksRun (es ++ ds) = hooksRun es ++ hooksRun ds := List.filterMap_append

/-- The hook that starts, by what hooks let others see. -/
def HookEvent.hookRun? : HookEvent ι → Option String
  | .ran name => some name
  | _ => none

/-- An event that fires nothing. -/
def Event.FiresNothing (e : Event) : Prop := e.firing? = none

/-- An event that fires nothing, and is the start of no hook. -/
def Event.IsInert (e : Event) : Prop := e.FiresNothing ∧ e.hookRun? = none

theorem firings_eq_nil {es : List Event} (h : ∀ e ∈ es, e.FiresNothing) : firings es = [] :=
  List.filterMap_eq_nil_iff.mpr h

theorem hooksRun_eq_nil {es : List Event} (h : ∀ e ∈ es, e.IsInert) : hooksRun es = [] :=
  List.filterMap_eq_nil_iff.mpr fun e he => (h e he).2

/-- A run that is continued reports what it has reported before, and then what follows. -/
theorem Run.andThen_events {ε τ : Type} {sort : ε → Prop} (r : Run ε τ α)
    {next : α → Act ε τ β} (h : ∀ a, (next a).Reports sort) :
    ∃ ds, (r.andThen next).events = r.events ++ ds ∧ ∀ e ∈ ds, sort e := by
  obtain ⟨f | a, t, es⟩ := r
  · refine ⟨[], (List.append_nil es).symm, ?_⟩
    intro e he
    cases he
  · exact ⟨(next a t).events, rfl, h a t⟩

/-! ## Hooks whose failures are ordinary -/

/-- A hook whose failures are ordinary. -/
def Hook.FailsOrdinarily (hook : Hook ι σ) : Prop :=
  ∀ args s f, (hook.body args s).result = .error f → f.isA .exception = true

/-- A hook whose failures can be written. -/
def Hook.FailsInWriting (hook : Hook ι σ) : Prop :=
  ∀ args s f, (hook.body args s).result = .error f → f.text?.isSome = true

namespace Hooked

/-- The hooks of a state. -/
def registered (s : Hooked ι σ) : List (Hook ι σ) := s.hooks.hooks

theorem call_keeps (args : List Argument) (hook : Hook ι σ) (last : Argument) :
    Act.Keeps registered (call args hook last) := by
  have hbody : Act.Keeps (registered (ι := ι) (σ := σ))
      ((hook.body args).within Hooked.core (fun s core => { s with core }) id) := fun _ => rfl
  refine .bind (.emit _) fun _ => hbody.rescue fun f => .bind ?_ fun _ => .pure _
  -- A failure is noted beside the hooks.
  refine .bind (.emit _) fun _ => .bind (.change fun _ => rfl) fun _ => ?_
  exact .ite (.bind (.ofExcept _) fun _ => .emit _) (.pure _)

theorem callAll_keeps (args : List Argument) (hooks : List (Hook ι σ)) (last : Argument) :
    Act.Keeps registered (callAll args hooks last) := by
  induction hooks generalizing last with
  | nil => exact .pure _
  | cons hook hooks ih => exact .bind (call_keeps args hook last) fun answer => ih answer

/-- What runs is one of the hooks, on some state. -/
theorem mem_runs {args : List Argument} {hooks : List (Hook ι σ)} {core : σ} {r : HookRun ι σ}
    (h : r ∈ runs args hooks core) : r.hook ∈ hooks ∧ ∃ s, r.run = r.hook.body args s := by
  induction hooks generalizing core with
  | nil => cases h
  | cons hook hooks ih =>
    rcases List.mem_cons.mp h with rfl | hlater
    · exact ⟨List.mem_cons_self, core, rfl⟩
    · obtain ⟨hmem, hrun⟩ := ih hlater
      exact ⟨List.mem_cons_of_mem _ hmem, hrun⟩

section Fire

variable {s : Hooked ι σ} (h : ∀ hook ∈ s.registered, hook.FailsOrdinarily)

include h

theorem runs_ordinary (event : String) (args : List Argument) :
    ∀ r ∈ runs args (s.hooks.ofEvent event) s.core, r.IsOrdinary := by
  intro r hr f hf
  obtain ⟨hmem, t, hrun⟩ := mem_runs hr
  refine h r.hook (List.mem_filter.mp hmem).1 args t f ?_
  rw [← hrun]
  exact HookRun.failure?_eq_some_iff.mp hf

/-- **Hooks whose failures are ordinary and can be written are all run**, and then there is an
answer. -/
theorem fire_answers (hwritten : ∀ hook ∈ s.registered, hook.FailsInWriting) (event : String)
    (args : List Argument) : ∃ answer, (fire event args s).result = .ok answer := by
  have hkept : ∀ r ∈ runs args (s.hooks.ofEvent event) s.core, r.breaksOff args = false := by
    intro r hr
    rw [Bool.eq_false_iff]
    intro hbreaks
    obtain ⟨-, f, hf, htext⟩ := HookRun.breaksOff_iff.mp hbreaks
    obtain ⟨hmem, t, hrun⟩ := mem_runs hr
    have hsays := hwritten r.hook (List.mem_filter.mp hmem).1 args t f
      (hrun ▸ HookRun.failure?_eq_some_iff.mp hf)
    rw [htext] at hsays
    cases hsays
  rw [fire_eq (runs_ordinary h event args) hkept]
  exact ⟨_, rfl⟩

/-- **Hooks whose failures are ordinary come back or break off**, and what they break off with is
ordinary as well. -/
theorem fire_ordinary (event : String) (args : List Argument) :
    (∃ answer, (fire event args s).result = .ok answer) ∨
      (fire event args s).result = .error tooManyDigits := by
  have hordinary := runs_ordinary h event args
  rcases hfirst : (runs args (s.hooks.ofEvent event) s.core).find? (·.breaksOff args) with _ | r
  · rw [List.find?_eq_none] at hfirst
    rw [fire_eq hordinary fun r hr => Bool.eq_false_iff.mpr (hfirst r hr)]
    exact .inl ⟨_, rfl⟩
  · obtain ⟨hbreaks, before, later, hruns, hkept⟩ := List.find?_eq_some_iff_append.mp hfirst
    refine .inr ?_
    rw [fire_of_breaksOff hruns (fun q hq => hordinary q ?_)
      (fun q hq => Bool.not_eq_true' _ ▸ hkept q hq) hbreaks]
    rw [hruns, ← List.singleton_append, ← List.append_assoc]
    exact List.mem_append_left later hq

end Fire

end Hooked

/-! ## A part of the evaluator that is left alone -/

/-- An evaluator whose calls leave a part of its state alone. -/
structure Evaluator.Leaves (evaluator : Evaluator ι σ) (part : σ → γ) : Prop where
  prompt : Act.Keeps part evaluator.prompt
  eval : ∀ line, Act.Keeps part (evaluator.eval line)
  discard : Act.Keeps part evaluator.discard
  fire : ∀ event args, Act.Keeps part (evaluator.fire event args)

/-- No call of an interpreter with hooks registers a hook or removes one. -/
theorem Interpreter.withHooks_leaves (i : Interpreter σ) :
    (i.withHooks : Evaluator ι (Hooked ι σ)).Leaves Hooked.registered where
  prompt _ := rfl
  eval _ _ := rfl
  discard _ := rfl
  fire _ _ := .bind .current fun _ => Hooked.callAll_keeps _ _ _

namespace Session

section Leaves

variable {setup : Setup ι δ σ} {part : σ → γ}

/-- A part of the evaluator, seen from the session. -/
def ofEvaluator (part : σ → γ) (s : Session ι δ σ) : γ := part s.evaluator

theorem turnsWithin_leaves (h : setup.evaluator.Leaves part) (n : Nat) :
    Act.Keeps (ofEvaluator part) (turnsWithin setup n) := by
  have hconducted : Conducted setup (.keeping (ofEvaluator part)) :=
    { loop := fun _ _ => rfl, tracker := fun _ _ => rfl, evaluated := fun _ _ => rfl
      discarded := fun _ => rfl, prompt := fun s => h.prompt s.evaluator
      eval := fun line s => h.eval line s.evaluator, discard := fun s => h.discard s.evaluator }
  exact turnsWithin_honours hconducted (fun _ _ _ => rfl) n

theorem obey_leaves (es : List (HookEvent ι)) : Act.Keeps (ofEvaluator part) (obey setup es) := by
  induction es with
  | nil => exact .pure _
  | cons e es ih =>
    cases e with
    | ran name => exact .bind (.emit _) fun _ => ih
    | notice n => exact .bind (.emit _) fun _ => ih
    | switched source => exact .bind (fun _ => rfl) fun _ => ih

theorem fire_leaves (h : setup.evaluator.Leaves part) (event : String) :
    Act.Keeps (ofEvaluator part) (fire setup event) := by
  refine .bind .current fun _ => .bind (.emit _) fun _ s => ?_
  exact (obey_leaves _ _).trans (h.fire _ _ s.evaluator)

/-- **A session leaves alone what the calls of its evaluator do.** -/
theorem opened_leaves (h : setup.evaluator.Leaves part) (n : Nat) :
    Act.Keeps (ofEvaluator part) (opened setup n) := by
  refine .bind ?_ fun _ => turnsWithin_leaves h n
  exact .bind .current fun _ => .bind (.emit _) fun _ => .bind (fire_leaves h _) fun _ =>
    .ite (.emit _) (.pure _)

end Leaves

/-! ## What is fired -/

section Firing

variable (setup : Setup ι δ σ)

theorem inert_conducted : Conducted setup (.reporting Event.IsInert) where
  loop _ _ := List.forall_mem_singleton.mpr ⟨rfl, rfl⟩
  tracker _ _ _ he := nomatch he
  evaluated _ _ := List.forall_mem_singleton.mpr ⟨rfl, rfl⟩
  discarded _ := List.forall_mem_singleton.mpr ⟨rfl, rfl⟩
  prompt := Act.Reports.within fun _ => ⟨rfl, rfl⟩
  eval _ := Act.Reports.within fun _ => ⟨rfl, rfl⟩
  discard := Act.Reports.within fun _ => ⟨rfl, rfl⟩

/-- Turns fire nothing and run no hook. -/
theorem turnsWithin_inert (n : Nat) : (turnsWithin setup n).Reports Event.IsInert :=
  turnsWithin_honours (inert_conducted setup) (fun _ _ => Act.Reports.within fun _ => ⟨rfl, rfl⟩) n

theorem obey_firesNothing (es : List (HookEvent ι)) :
    (obey setup es : Act Event (Session ι δ σ) Unit).Reports Event.FiresNothing := by
  induction es with
  | nil => exact .pure _
  | cons e es ih =>
    cases e with
    | ran name => exact .bind (.emit (List.forall_mem_singleton.mpr rfl)) fun _ => ih
    | notice n => exact .bind (.emit (List.forall_mem_singleton.mpr rfl)) fun _ => ih
    | switched source => exact .bind (.within fun _ => rfl) fun _ => ih

/-- The hooks that are seen to run are those that did. -/
theorem obey_hooksRun (es : List (HookEvent ι)) (s : Session ι δ σ) :
    hooksRun (obey setup es s).events = es.filterMap HookEvent.hookRun? := by
  induction es generalizing s with
  | nil => rfl
  | cons e es ih =>
    cases e with
    | ran name => exact congrArg (name :: ·) (ih s)
    | notice n => exact ih s
    | switched source => exact ih _

/-- Obeying what hooks did cannot fail. -/
theorem obey_result (es : List (HookEvent ι)) (s : Session ι δ σ) :
    (obey setup es s).result = .ok () := by
  induction es generalizing s with
  | nil => rfl
  | cons e es ih => cases e <;> exact ih _

theorem fire_result (event : String) (s : Session ι δ σ) :
    (fire setup event s).result = (setup.hooked event s.evaluator).result.map fun _ => () := by
  show (obey setup (setup.hooked event s.evaluator).events _).result.bind _ = _
  rw [obey_result]
  rfl

/-- **An event is fired once**, and behind it the hooks of the event run, which call neither a
source nor the evaluator. -/
theorem fire_events (event : String) (s : Session ι δ σ) :
    ∃ es, (fire setup event s).events = .fired event (setup.evaluator.binding s.evaluator) :: es ∧
      firings es = [] ∧ marks es = [] ∧
      hooksRun es = (setup.hookEvents event s.evaluator).filterMap HookEvent.hookRun? :=
  ⟨_, rfl, firings_eq_nil (obey_firesNothing setup _ _), obey_marks _ _, obey_hooksRun setup _ _⟩

theorem prelude_events (s : Session ι δ σ) :
    ∃ es, (prelude setup s).events =
        .fired "before_session" (setup.evaluator.binding s.evaluator) :: es ∧ firings es = [] ∧
      hooksRun es =
        (setup.hookEvents "before_session" s.evaluator).filterMap HookEvent.hookRun? := by
  have hpaint : Act.Reports Event.IsInert
      (if setup.config.correctIndent && setup.screen.tty then
        write (.verbatim (String.ofList (Terminal.lineStart setup.family)))
      else pure () : Act Event (Session ι δ σ) Unit) := by
    exact .ite (.emit (List.forall_mem_singleton.mpr ⟨rfl, rfl⟩)) (.pure _)
  obtain ⟨es, hfire, hes, -, hran⟩ := fire_events setup "before_session" s
  obtain ⟨ds, hevents, hds⟩ :=
    Run.andThen_events (fire setup "before_session" s) fun _ : Unit => hpaint
  refine ⟨es ++ ds, ?_, ?_, ?_⟩
  · rw [prelude, Act.bind_apply, hevents, hfire]
    rfl
  · rw [firings_append, hes, firings_eq_nil fun e he => (hds e he).1]
    rfl
  · rw [hooksRun_append, hran, hooksRun_eq_nil hds, List.append_nil]

theorem prelude_result (s : Session ι δ σ) :
    (prelude setup s).result =
      (setup.hooked "before_session" s.evaluator).result.map fun _ => () := by
  -- After the hooks there is nothing left that can fail.
  rw [prelude, Act.bind_apply, Run.andThen_result, fire_result]
  cases (setup.hooked "before_session" s.evaluator).result with
  | error f => rfl
  | ok answer =>
    rw [Except.map, Except.bind]
    split <;> rfl

/-- **Up to its last turn a session fires its first event**, before anything else but the record of
its start, and runs the hooks of that event. -/
theorem opened_events (n : Nat) (s : Session ι δ σ) :
    ∃ during, (opened setup n s).events =
        startRecord setup s ::
          .fired "before_session" (setup.evaluator.binding s.evaluator) :: during ∧
      firings during = [] ∧
      hooksRun during =
        (setup.hookEvents "before_session" s.evaluator).filterMap HookEvent.hookRun? := by
  obtain ⟨es, hprelude, hes, hran⟩ := prelude_events setup s
  obtain ⟨ds, hevents, hds⟩ :=
    Run.andThen_events (prelude setup s) fun _ : Unit => turnsWithin_inert setup n
  rw [hprelude] at hevents
  refine ⟨es ++ ds, ?_, ?_, ?_⟩
  · rw [opened_eq, Run.after_events]
    exact congrArg (startRecord setup s :: ·) hevents
  · rw [firings_append, hes, firings_eq_nil fun e he => (hds e he).1]
    rfl
  · rw [hooksRun_append, hran, hooksRun_eq_nil hds, List.append_nil]

/-- **After its last turn a session fires its second event**, runs the hooks of that event, and
calls neither a source nor the evaluator any more. -/
theorem finish_events (s : Session ι δ σ) :
    ∃ after, (finish setup s).events =
        .fired "after_session" (setup.evaluator.binding s.evaluator) :: after ∧
      firings after = [] ∧ marks after = [] ∧
      hooksRun after =
        (setup.hookEvents "after_session" s.evaluator).filterMap HookEvent.hookRun? := by
  obtain ⟨es, hfire, hes, hmarks, hran⟩ := fire_events setup "after_session" s
  rw [finish, Act.bind_apply]
  rcases h : fire setup "after_session" s with ⟨f | ⟨⟩, t, ds⟩
  · rw [h] at hfire
    exact ⟨es, hfire, hes, hmarks, hran⟩
  · rw [h] at hfire
    obtain rfl : ds = _ := hfire
    -- The record of the end is none of these.
    refine ⟨es ++ (log .debug "session_end" t).events, rfl, ?_, ?_, ?_⟩
    · exact (firings_append ..).trans (congrArg (· ++ []) hes)
    · exact (marks_append ..).trans (congrArg (· ++ []) hmarks)
    · exact (hooksRun_append ..).trans ((List.append_nil _).trans hran)

theorem finish_result (s : Session ι δ σ) :
    (finish setup s).result =
      (setup.hooked "after_session" s.evaluator).result.map fun _ => () := by
  rw [finish, Act.bind_apply, Run.andThen_result, fire_result]
  rcases (setup.hooked "after_session" s.evaluator).result with f | answer <;> rfl

end Firing

/-! ## A whole session -/

section Ordinary

variable (i : Interpreter σ) {setup : Setup ι δ (Hooked ι σ)} {n : Nat}
  {s : Session ι δ (Hooked ι σ)} {r : Run Event (Session ι δ (Hooked ι σ)) Value}
  (hhooks : setup.evaluator = i.withHooks)

include hhooks

/-- No hook is registered or removed up to the last turn. -/
theorem opened_registered (n : Nat) (s : Session ι δ (Hooked ι σ)) :
    (opened setup n s).state.evaluator.registered = s.evaluator.registered := by
  have hleaves : setup.evaluator.Leaves Hooked.registered := hhooks ▸ i.withHooks_leaves
  exact opened_leaves hleaves n s

variable (hordinary : ∀ hook ∈ s.evaluator.registered, hook.FailsOrdinarily)

include hordinary

/-- Hooks of a registry whose failures are ordinary and can be written have no part in how a session
ends. -/
theorem run?_of_ordinary (hwritten : ∀ hook ∈ s.evaluator.registered, hook.FailsInWriting)
    (h : run? setup n s = some r) :
    (begin setup s).result = .ok () ∧ (opened setup n s).result = r.result.map some := by
  obtain ⟨ending, hending, rfl⟩ := run?_eq_ensuring h
  -- The hooks of a state come back, and they are the same before the first turn and after the last.
  have hcome : ∀ event (t : Hooked ι σ), t.registered = s.evaluator.registered →
      ∃ answer, (setup.hooked event t).result = .ok answer := by
    intro event t ht
    rw [Setup.hooked, hhooks]
    exact Hooked.fire_answers (ht ▸ hordinary) (ht ▸ hwritten) event _
  constructor
  · obtain ⟨answer, hanswer⟩ := hcome "before_session" s.evaluator rfl
    rw [begin_eq, Run.after_result, prelude_result, hanswer]
    rfl
  · obtain ⟨answer, hanswer⟩ := hcome "after_session" _ (opened_registered i hhooks n s)
    show _ = ((finish setup _).result.bind fun _ => ending).map some
    rw [finish_result, hanswer]
    exact hending

/-- Where the failures of hooks are ordinary, there is one way in which they may end a session: one
of them is to be shown and cannot be written. -/
theorem run?_of_breaksOff (h : run? setup n s = some r) :
    ((begin setup s).result = .ok () ∨ (begin setup s).result = .error tooManyDigits) ∧
      ((opened setup n s).result = r.result.map some ∨ r.result = .error tooManyDigits) := by
  obtain ⟨ending, hending, rfl⟩ := run?_eq_ensuring h
  -- The hooks of both events are those that were registered at the start.
  have hcome : ∀ event (t : Hooked ι σ), t.registered = s.evaluator.registered →
      (∃ answer, (setup.hooked event t).result = .ok answer) ∨
        (setup.hooked event t).result = .error tooManyDigits := by
    intro event t ht
    rw [Setup.hooked, hhooks]
    exact Hooked.fire_ordinary (ht ▸ hordinary) event _
  constructor
  · rw [begin_eq, Run.after_result, prelude_result]
    rcases hcome "before_session" s.evaluator rfl with ⟨answer, hanswer⟩ | hbroken
    · rw [hanswer]
      exact .inl rfl
    · rw [hbroken]
      exact .inr rfl
  · show _ = ((finish setup _).result.bind fun _ => ending).map some ∨
      ((finish setup _).result.bind fun _ => ending) = _
    rw [finish_result]
    rcases hcome "after_session" _ (opened_registered i hhooks n s) with ⟨answer, hanswer⟩ | hbroken
    · rw [hanswer]
      exact .inl hending
    · rw [hbroken]
      exact .inr rfl

end Ordinary

/-- **A session that ends has fired each of its two events once.** However it ends, it fires
`before_session` before anything else but the record of its start, and `after_session` once the last
call of a source or of the evaluator is made; what runs behind an event are the hooks of that event,
and no others; and if the hooks of the second event come back, the session ends as what comes before
them does. Hooks of a registry whose failures are ordinary all come back, before the first turn and
after the last, unless there is one whose failure cannot be written to the screen. -/
theorem lifecycle :
    (∀ (setup : Setup ι δ σ) (n : Nat) (s : Session ι δ σ) (r : Run Event (Session ι δ σ) Value),
      run? setup n s = some r →
        let last := (opened setup n s).state
        (∃ during after,
          r.events = startRecord setup s ::
              .fired "before_session" (setup.evaluator.binding s.evaluator) :: during ++
            .fired "after_session" (setup.evaluator.binding last.evaluator) :: after ∧
          firings during = [] ∧ firings after = [] ∧ marks after = [] ∧
          hooksRun during =
            (setup.hookEvents "before_session" s.evaluator).filterMap HookEvent.hookRun? ∧
          hooksRun after =
            (setup.hookEvents "after_session" last.evaluator).filterMap HookEvent.hookRun?) ∧
        ∀ answer, (setup.hooked "after_session" last.evaluator).result = .ok answer →
          (opened setup n s).result = r.result.map some) ∧
      ∀ (i : Interpreter σ) (setup : Setup ι δ (Hooked ι σ)) (n : Nat)
        (s : Session ι δ (Hooked ι σ)) (r : Run Event (Session ι δ (Hooked ι σ)) Value),
        setup.evaluator = i.withHooks → (∀ hook ∈ s.evaluator.registered, hook.FailsOrdinarily) →
          run? setup n s = some r →
            ((∀ hook ∈ s.evaluator.registered, hook.FailsInWriting) →
              (begin setup s).result = .ok () ∧ (opened setup n s).result = r.result.map some) ∧
            ((begin setup s).result = .ok () ∨ (begin setup s).result = .error tooManyDigits) ∧
            ((opened setup n s).result = r.result.map some ∨ r.result = .error tooManyDigits) := by
  constructor
  · intro setup n s r h last
    obtain ⟨ending, hending, rfl⟩ := run?_eq_ensuring h
    constructor
    · obtain ⟨during, hopened, hduring, hfirst⟩ := opened_events setup n s
      obtain ⟨after, hfinish, hafter, hmarks, hsecond⟩ := finish_events setup last
      refine ⟨during, after, ?_, hduring, hafter, hmarks, hfirst, hsecond⟩
      show (opened setup n s).events ++ (finish setup last).events = _
      rw [hopened, hfinish]
    · intro answer hanswer
      show _ = ((finish setup last).result.bind fun _ => ending).map some
      rw [finish_result, hanswer]
      exact hending
  · intro i setup n s r hhooks hordinary h
    exact ⟨fun hwritten => run?_of_ordinary i hhooks hordinary hwritten h,
      run?_of_breaksOff i hhooks hordinary h⟩

/-- A hook that fails ordinarily. -/
def brokenHook (event : String) : Hook Source Unit :=
  Rehearsal.HookPlan.hook { fails := some (.saying .runtime "broken") } event "broken"

/-- A script that yields no lines, and a hook for each event that fails ordinarily. -/
def brokenHooks : Session Source Desk (Hooked Source Unit) :=
  initial (plainSetup .standard)
    ⟨(), { hooks := [brokenHook "before_session", brokenHook "after_session"] }⟩
    ⟨.scripted .withPrompt "scripted" [], {}⟩

/-- A hook that is interrupted before the first turn. -/
def interruptedAtStart : Session Source Desk (Hooked Source Unit) :=
  initial (plainSetup .standard)
    ⟨(), { hooks := [Rehearsal.HookPlan.hook { fails := some (.raised .keyboardInterrupt none) }
      "before_session" "greeting"] }⟩
    ⟨.scripted .withPrompt "scripted" [.answer (some "x")], {}⟩

/-- Hooks that fail ordinarily leave the end of a session to its turns; a hook that is interrupted
before them ends it, and yet the second event is fired. -/
theorem lifecycle_failingHooks :
    (∃ r, run? (plainSetup .standard) 1 brokenHooks = some r ∧
      (∀ hook ∈ brokenHooks.evaluator.registered,
        hook.FailsOrdinarily ∧ hook.FailsInWriting) ∧
      (begin (plainSetup .standard) brokenHooks).result = .ok () ∧ r.result = .ok .null) ∧
    ∃ r, run? (plainSetup .standard) 0 interruptedAtStart = some r ∧
      r.result = .error (.raised .keyboardInterrupt none) ∧
      firings r.events = ["before_session", "after_session"] := by
  have hfails : ∀ event args s f, ((brokenHook event).body args s).result = .error f →
      f = .saying .runtime "broken" := fun event args s f hf => (Except.error.inj hf).symm
  have hbroken : ∀ event,
      (brokenHook event).FailsOrdinarily ∧ (brokenHook event).FailsInWriting := by
    refine fun event => ⟨fun args s f hf => ?_, fun args s f hf => ?_⟩
    · rw [hfails event args s f hf]
      rfl
    · rw [hfails event args s f hf]
      rfl
  constructor
  · have hall : ∀ hook ∈ brokenHooks.evaluator.registered,
        hook.FailsOrdinarily ∧ hook.FailsInWriting :=
      List.forall_mem_cons.mpr ⟨hbroken _, List.forall_mem_singleton.mpr (hbroken _)⟩
    obtain ⟨hwritten, -⟩ := (lifecycle (σ := Unit)).2 (Rehearsal.bare {}) (plainSetup .standard) 1
      brokenHooks _ rfl (fun hook hmem => (hall hook hmem).1) rfl
    exact ⟨_, rfl, hall, (hwritten fun hook hmem => (hall hook hmem).2).1, rfl⟩
  · obtain ⟨⟨during, after, hevents, hduring, hafter, -⟩, -⟩ :=
      (lifecycle (σ := Hooked Source Unit)).1 (plainSetup .standard) 0 interruptedAtStart _ rfl
    refine ⟨_, rfl, rfl, ?_⟩
    rw [hevents]
    show "before_session" :: firings (during ++ .fired "after_session" _ :: after) = _
    rw [firings_append, hduring]
    exact congrArg (fun fired => ["before_session", "after_session"] ++ fired) hafter

end Session

end PromptLoop
