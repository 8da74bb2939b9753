import PromptLoop.Hook.Registry

/-!
# Hooks that are run

When an event is fired its hooks run one after the other, each on the state that the one before has
left. A hook that fails ordinarily is reported and noted, and changes neither which hooks run after
it nor the answer so far. There is one exception: the failure is to be shown on a screen, and what
it says cannot be written. The hook is noted all the same, but the report fails, and no hook runs
after it.

## Main definitions

* `HookRun`, `Hooked.runs`: a hook with its run, and those of hooks in a row
* `HookRun.fault?`, `HookRun.shown`: what is noted of it, and what others see
* `HookRun.breaksOff`: its failure is to be shown and cannot be written

## Main results

* `Hooked.call_eq`, `Hooked.call_of_breaksOff`: what one hook comes to
* `Hooked.fire_eq`: what the hooks of an event come to
* `Hooked.fire_of_breaksOff`: what they come to where the report of one of them fails
-/

namespace PromptLoop

variable {ι σ : Type}

/-- A hook that ran, and its run. -/
structure HookRun (ι σ : Type) where
  hook : Hook ι σ
  run : Run (HookEvent ι) σ Argument

namespace HookRun

variable (r : HookRun ι σ)

/-- What the hook answered. -/
def answer? : Option Argument := r.run.result.toOption

/-- What the hook failed with. -/
def failure? : Option Failure :=
  match r.run.result with
  | .ok _ => none
  | .error f => some f

/-- What is noted of a hook that failed. -/
def fault? : Option HookFault := r.failure?.map fun f => ⟨r.hook.event, r.hook.name, f⟩

/-- What the failure of a hook is reported by: a record, and a line if the hook was called with a
screen. Neither is there where what the failure says cannot be written. -/
def report (args : List Argument) (f : Failure) : List (HookEvent ι) :=
  (Notice.log? .warning Log.hookChannel (Hooked.faultRecord? r.hook f)).map .notice ++
    if args.head?.any Argument.isOutput then
      f.summary?.toList.map fun summary =>
        .notice (.diagnostic (r.hook.event ++ " hook failed: " ++ summary))
    else []

/-- The hook fails and is called with a screen, and what its failure says cannot be written. -/
def breaksOff (args : List Argument) : Bool :=
  args.head?.any Argument.isOutput && r.failure?.any (·.summary?.isNone)

/-- What others see of a hook: that it runs, what it does, and the report of its failure. -/
def shown (args : List Argument) : List (HookEvent ι) :=
  .ran r.hook.name :: r.run.events ++ r.failure?.elim [] (r.report args)

/-- The hook fails ordinarily, or not at all. -/
def IsOrdinary : Prop := ∀ f, r.failure? = some f → f.isA .exception = true

theorem failure?_eq_some_iff {r : HookRun ι σ} {f : Failure} :
    r.failure? = some f ↔ r.run.result = .error f := by
  rw [failure?]
  cases r.run.result with
  | ok answer => simp
  | error g => simp

theorem breaksOff_iff {r : HookRun ι σ} {args : List Argument} :
    r.breaksOff args = true ↔
      args.head?.any Argument.isOutput = true ∧ ∃ f, r.failure? = some f ∧ f.text? = none := by
  rw [breaksOff, Bool.and_eq_true]
  refine and_congr_right fun _ => ?_
  cases r.failure? with
  | none => simp
  | some f => simp [Failure.summary?]

end HookRun

namespace Hooked

/-- Hooks in a row, each on the state that the one before has left. -/
def runs (args : List Argument) : List (Hook ι σ) → σ → List (HookRun ι σ)
  | [], _ => []
  | hook :: hooks, core =>
    ⟨hook, hook.body args core⟩ :: runs args hooks (hook.body args core).state

/-- Each hook runs once, in the order of the hooks. -/
theorem runs_hooks (args : List Argument) (hooks : List (Hook ι σ)) (core : σ) :
    (runs args hooks core).map HookRun.hook = hooks := by
  induction hooks generalizing core with
  | nil => rfl
  | cons hook hooks ih => rw [runs, List.map_cons, ih]

/-- The answer of the last run that has one, or else the answer before. -/
def lastAnswer (rs : List (HookRun ι σ)) (before : Argument) : Argument :=
  (rs.filterMap HookRun.answer?).getLast?.getD before

/-- The state that the last run has left, or else the state before. -/
def stateAfter (rs : List (HookRun ι σ)) (before : σ) : σ :=
  (rs.getLast?.map (·.run.state)).getD before

theorem lastAnswer_cons (r : HookRun ι σ) (rs : List (HookRun ι σ)) (before : Argument) :
    lastAnswer (r :: rs) before = lastAnswer rs (r.answer?.getD before) := by
  rw [lastAnswer, lastAnswer, List.filterMap_cons]
  cases r.answer? with
  | none => rfl
  | some answer => simp [List.getLast?_cons]

theorem stateAfter_cons (r : HookRun ι σ) (rs : List (HookRun ι σ)) (before : σ) :
    stateAfter (r :: rs) before = stateAfter rs r.run.state := by
  rw [stateAfter, stateAfter, List.getLast?_cons]
  cases rs.getLast? <;> rfl

variable {s : Hooked ι σ} {args : List Argument}

/-- What the report of a failure comes to: it fails itself where it breaks off. -/
theorem report_apply {r : HookRun ι σ} {f : Failure} (hf : r.failure? = some f) :
    report r.hook args f s =
      ⟨if r.breaksOff args then .error tooManyDigits else .ok (),
        { s with hooks := s.hooks.note ⟨r.hook.event, r.hook.name, f⟩ }, r.report args f⟩ := by
  rw [report, HookRun.report, HookRun.breaksOff, hf]
  by_cases houtput : args.head?.any Argument.isOutput = true
  · rw [if_pos houtput, if_pos houtput, houtput, Option.any_some, Bool.true_and]
    cases f.summary? with
    | none => rfl
    | some summary => rfl
  · rw [if_neg houtput, if_neg houtput, Bool.eq_false_iff.mpr houtput]
    rfl

/-- **What one hook comes to**: its answer, or the answer so far if it fails ordinarily; or else the
failure of the report. -/
theorem call_apply {r : HookRun ι σ} (hr : r.run = r.hook.body args s.core) (h : r.IsOrdinary)
    (last : Argument) :
    call args r.hook last s =
      ⟨if r.breaksOff args then .error tooManyDigits else .ok (r.answer?.getD last),
        ⟨r.run.state, { s.hooks with faults := s.hooks.faults ++ r.fault?.toList }⟩,
        r.shown args⟩ := by
  rw [call, Act.bind_apply, Act.emit_apply, Run.andThen_ok, Act.rescue_apply, Act.within_apply,
    ← hr, HookRun.shown, HookRun.fault?, HookRun.answer?]
  cases hresult : r.run.result with
  | ok answer =>
    have hnone : r.failure? = none := by rw [HookRun.failure?, hresult]
    simp [Run.after, Except.toOption, HookRun.breaksOff, hnone]
  | error f =>
    -- The failure is reported, and the answer so far stands.
    have hf : r.failure? = some f := HookRun.failure?_eq_some_iff.mpr hresult
    rw [Run.rescue_error, if_pos (h f hf), Act.bind_apply, report_apply hf, hf]
    by_cases hbreaks : r.breaksOff args = true
    · simp [hbreaks, Run.after, Run.andThen, Registry.note]
    · simp [hbreaks, Run.after, Run.andThen, Except.toOption, Registry.note]

theorem call_eq {r : HookRun ι σ} (hr : r.run = r.hook.body args s.core) (h : r.IsOrdinary)
    (hkept : r.breaksOff args = false) (last : Argument) :
    call args r.hook last s = ⟨.ok (r.answer?.getD last),
      ⟨r.run.state, { s.hooks with faults := s.hooks.faults ++ r.fault?.toList }⟩,
      r.shown args⟩ := by
  rw [call_apply hr h, hkept, if_neg Bool.false_ne_true]

theorem call_of_breaksOff {r : HookRun ι σ} (hr : r.run = r.hook.body args s.core)
    (h : r.IsOrdinary) (hbreaks : r.breaksOff args = true) (last : Argument) :
    call args r.hook last s = ⟨.error tooManyDigits,
      ⟨r.run.state, { s.hooks with faults := s.hooks.faults ++ r.fault?.toList }⟩,
      r.shown args⟩ := by
  rw [call_apply hr h, hbreaks, if_pos rfl]

theorem faults_cons (r : HookRun ι σ) (rs : List (HookRun ι σ)) :
    (r :: rs).filterMap HookRun.fault? = r.fault?.toList ++ rs.filterMap HookRun.fault? := by
  rw [List.filterMap_cons]
  cases r.fault? <;> rfl

/-- Hooks in a row go on where the first of them has left off, unless it breaks off. -/
theorem callAll_cons {r : HookRun ι σ} (hr : r.run = r.hook.body args s.core) (h : r.IsOrdinary)
    (hkept : r.breaksOff args = false) (hooks : List (Hook ι σ)) (last : Argument) :
    callAll args (r.hook :: hooks) last s =
      (callAll args hooks (r.answer?.getD last) ⟨r.run.state, { s.hooks with
        faults := s.hooks.faults ++ r.fault?.toList }⟩).after (r.shown args) := by
  rw [callAll, Act.bind_apply, call_eq hr h hkept, Run.andThen_ok]

/-- What hooks in a row come to, where each of them is reported. -/
theorem callAll_eq {hooks : List (Hook ι σ)}
    (h : ∀ r ∈ runs args hooks s.core, r.IsOrdinary)
    (hkept : ∀ r ∈ runs args hooks s.core, r.breaksOff args = false) (last : Argument) :
    callAll args hooks last s = ⟨.ok (lastAnswer (runs args hooks s.core) last),
      ⟨stateAfter (runs args hooks s.core) s.core,
        { s.hooks with
          faults := s.hooks.faults ++
            (runs args hooks s.core).filterMap HookRun.fault? }⟩,
      (runs args hooks s.core).flatMap (·.shown args)⟩ := by
  -- by induction on the hooks, each of which leaves the state and the answer for those after it
  induction hooks generalizing s last with
  | nil => simp [callAll, runs, lastAnswer, stateAfter]
  | cons hook hooks ih =>
    rw [runs] at h hkept ⊢
    obtain ⟨hfirst, hrest⟩ := List.forall_mem_cons.mp h
    obtain ⟨hfirst_kept, hrest_kept⟩ := List.forall_mem_cons.mp hkept
    rw [callAll_cons (r := ⟨hook, hook.body args s.core⟩) rfl hfirst hfirst_kept,
      ih hrest hrest_kept, lastAnswer_cons, stateAfter_cons, faults_cons, ← List.append_assoc]
    rfl

/-- What hooks in a row come to, where the report of one of them breaks off: none runs after it. -/
theorem callAll_of_breaksOff {hooks : List (Hook ι σ)} {before later : List (HookRun ι σ)}
    {r : HookRun ι σ} (hruns : runs args hooks s.core = before ++ r :: later)
    (h : ∀ q ∈ before ++ [r], q.IsOrdinary) (hkept : ∀ q ∈ before, q.breaksOff args = false)
    (hbreaks : r.breaksOff args = true) (last : Argument) :
    callAll args hooks last s = ⟨.error tooManyDigits,
      ⟨r.run.state, { s.hooks with
        faults := s.hooks.faults ++ (before ++ [r]).filterMap HookRun.fault? }⟩,
      (before ++ [r]).flatMap (·.shown args)⟩ := by
  -- by induction on the hooks that are reported before it
  induction before generalizing hooks s last with
  | nil =>
    cases hooks with
    | nil => cases hruns
    | cons hook hooks =>
      obtain ⟨rfl, -⟩ := List.cons.inj hruns
      rw [callAll, Act.bind_apply,
        call_of_breaksOff (r := ⟨hook, hook.body args s.core⟩) rfl (h _ (by simp)) hbreaks,
        Run.andThen_error, List.nil_append, faults_cons]
      simp
  | cons q before ih =>
    cases hooks with
    | nil => cases hruns
    | cons hook hooks =>
      obtain ⟨rfl, hrest⟩ := List.cons.inj hruns
      obtain ⟨hfirst, hothers⟩ := List.forall_mem_cons.mp h
      obtain ⟨hfirst_kept, hothers_kept⟩ := List.forall_mem_cons.mp hkept
      rw [callAll_cons (r := ⟨hook, hook.body args s.core⟩) rfl hfirst hfirst_kept,
        ih hrest hothers hothers_kept, List.cons_append, faults_cons, ← List.append_assoc]
      rfl

/-- **What the hooks of an event come to**, where none fails otherwise than ordinarily, and each
that fails is reported. -/
theorem fire_eq {event : String}
    (h : ∀ r ∈ runs args (s.hooks.ofEvent event) s.core, r.IsOrdinary)
    (hkept : ∀ r ∈ runs args (s.hooks.ofEvent event) s.core, r.breaksOff args = false) :
    fire event args s =
      ⟨.ok (lastAnswer (runs args (s.hooks.ofEvent event) s.core) (.value .null)),
        ⟨stateAfter (runs args (s.hooks.ofEvent event) s.core) s.core,
          { s.hooks with
            faults := s.hooks.faults ++
              (runs args (s.hooks.ofEvent event) s.core).filterMap HookRun.fault? }⟩,
        (runs args (s.hooks.ofEvent event) s.core).flatMap (·.shown args)⟩ := by
  rw [fire, Act.bind_apply, Act.current_apply, Run.andThen_ok, Run.after_nil, callAll_eq h hkept]

/-- **What the hooks of an event come to where the report of one of them breaks off**: the hooks up
to that one run and are noted. -/
theorem fire_of_breaksOff {event : String} {before later : List (HookRun ι σ)} {r : HookRun ι σ}
    (hruns : runs args (s.hooks.ofEvent event) s.core = before ++ r :: later)
    (h : ∀ q ∈ before ++ [r], q.IsOrdinary) (hkept : ∀ q ∈ before, q.breaksOff args = false)
    (hbreaks : r.breaksOff args = true) :
    fire event args s = ⟨.error tooManyDigits,
      ⟨r.run.state, { s.hooks with
        faults := s.hooks.faults ++ (before ++ [r]).filterMap HookRun.fault? }⟩,
      (before ++ [r]).flatMap (·.shown args)⟩ := by
  rw [fire, Act.bind_apply, Act.current_apply, Run.andThen_ok, Run.after_nil,
    callAll_of_breaksOff hruns h hkept hbreaks]

end Hooked

end PromptLoop
