import PromptLoop.Proofs.Act.Likeness
import PromptLoop.Proofs.Act.Simulation
import PromptLoop.Proofs.Recovery.Machine
import PromptLoop.Proofs.Recovery.Reporting
import PromptLoop.Source.Desk

/-!
# The place of interrupts

An interrupt passes every policy that is not for it: as a failure if it was not handled inside, and
as an outcome if it was. So it makes no difference where among the policies interrupts are handled,
as long as the supply is not interrupted. This rests on the hierarchy of the classes of failures, in
which no class is both an interrupt and one that may be rescued: a class made to be both would be
handled by whichever policy stands further in.

## Main definitions

* `Inputs.Spared`: supplies that are never interrupted
* `Policy.Recovers`: the policies for the end of input and for read errors
* `Policy.Agree`: two attempts that are the same as long as the supply is spared

## Main results

* `Act.rescue_rescue`: two handlers for different failures may change places
* `Policy.onInterrupt_guard`: the handler for interrupts and another policy may change places
* `Pipeline.interrupts_anywhere`: interrupts may be handled at any place among the policies
-/

namespace PromptLoop

variable {ι δ ε σ α β : Type}

/-! ## Handlers that change places -/

/-- Two handlers for different failures may change places, if the second one fails with nothing that
the first one is for. Then what the first one does is handled by the second one, too. -/
theorem Run.rescue_rescue (r : Run ε σ α) {catches other : Failure → Bool}
    {handler handler' : Failure → Act ε σ α}
    (hdisjoint : ∀ f, catches f = true → other f = false)
    (hother : ∀ f s g, (handler' f s).result = .error g → catches g = false) :
    (r.rescue catches handler).rescue other handler' =
      (r.rescue other handler').rescue catches fun f => (handler f).rescue other handler' := by
  obtain ⟨f | a, s, es⟩ := r
  · by_cases hcatches : catches f = true
    · rw [rescue_error, rescue_error, if_pos hcatches, hdisjoint f hcatches, after_rescue,
        if_neg Bool.false_ne_true, rescue_error, if_pos hcatches]
      rfl
    · rw [rescue_error, if_neg hcatches, rescue_error]
      by_cases hhandled : other f = true
      · rw [if_pos hhandled, after_rescue]
        congr 1
        rcases hrun : handler' f s with ⟨g | a, t, ds⟩
        · have hg := hother f s g (congrArg Run.result hrun)
          rw [rescue_error, hg, if_neg Bool.false_ne_true]
        · rfl
      · rw [if_neg hhandled, rescue_error, if_neg hcatches]
  · rfl

theorem Act.rescue_rescue (x : Act ε σ α) {catches other : Failure → Bool}
    {handler handler' : Failure → Act ε σ α}
    (hdisjoint : ∀ f, catches f = true → other f = false)
    (hother : ∀ f s g, (handler' f s).result = .error g → catches g = false) :
    (x.rescue catches handler).rescue other handler' =
      (x.rescue other handler').rescue catches fun f => (handler f).rescue other handler' := by
  funext s
  exact (x s).rescue_rescue hdisjoint hother

/-- A handler that is not for the failures of an action is put around what follows from it. -/
theorem Act.bind_rescue_apply {x : Act ε σ α} {next : α → Act ε σ β} {catches : Failure → Bool}
    {handler : Failure → Act ε σ β} {s : σ}
    (h : ∀ f, (x s).result = .error f → catches f = false) :
    ((x >>= next).rescue catches handler) s =
      (x >>= fun a => (next a).rescue catches handler) s := by
  rw [rescue_apply, bind_apply, bind_apply]
  rcases hx : x s with ⟨f | a, t, es⟩
  · have hf := h f (congrArg Run.result hx)
    rw [Run.andThen_error, Run.andThen_error, Run.rescue_error, hf, if_neg Bool.false_ne_true]
  · rw [Run.andThen_ok, Run.andThen_ok, Run.after_rescue]
    rfl

/-- An observer who notes everything, and sees everything of the states, sees alike runs as the same
run. -/
theorem Run.Alike.eq {R : σ → σ → Prop} {r q : Run ε σ α}
    (h : r.Alike (fun seen e => seen ++ [e]) R q) (heq : ∀ s t, R s t → s = t) : r = q := by
  have hnotes : ∀ (es seen : List ε), es.foldl (fun seen e => seen ++ [e]) seen = seen ++ es := by
    intro es
    induction es with
    | nil => exact fun seen => (List.append_nil seen).symm
    | cons e es ih => exact fun seen => (ih _).trans (List.append_assoc _ _ _)
  have hevents := h.noted_eq []
  rw [hnotes, hnotes, List.nil_append, List.nil_append] at hevents
  have hresult := h.result_eq
  have hstate := heq _ _ h.state
  obtain ⟨result, s, es⟩ := r
  obtain ⟨result', t, ds⟩ := q
  obtain rfl : result = result' := hresult
  obtain rfl : s = t := hstate
  obtain rfl : es = ds := hevents
  rfl

namespace Act.Alike

variable {γ : Type} {note : γ → ε → γ} {R : σ → σ → Prop} {catches : Failure → Bool}

/-- What follows from an action that does not fail in a way that a handler is for is handled. -/
protected theorem bind_rescue {x y : Act ε σ α} {next next' : α → Act ε σ β}
    {handler : Failure → Act ε σ β} (h : Act.Alike note R x y)
    (hquiet : ∀ s t, R s t → ∀ f, (x s).result = .error f → catches f = false)
    (hnext : ∀ a, Act.Alike note R ((next a).rescue catches handler) (next' a)) :
    Act.Alike note R ((x >>= next).rescue catches handler) (y >>= next') := by
  intro s t hst
  rw [bind_rescue_apply (hquiet s t hst)]
  exact h.bind hnext s t hst

protected theorem current_bind_rescue {next next' : σ → Act ε σ β}
    {handler : Failure → Act ε σ β}
    (h : ∀ s t, R s t → Act.Alike note R ((next s).rescue catches handler) (next' t)) :
    Act.Alike note R ((current >>= next).rescue catches handler) (current >>= next') := by
  intro s t hst
  have hquiet : ∀ f, (current s : Run ε σ σ).result = .error f → catches f = false := by
    intro f hf
    cases hf
  rw [bind_rescue_apply hquiet]
  exact h s t hst s t hst

end Act.Alike

/-! ## Who is interrupted -/

/-- No interrupt is rescued. -/
theorem Config.not_interrupt_of_rescues {config : Config} {f : Failure}
    (h : config.rescues f = true) : f.isA .keyboardInterrupt = false := by
  obtain ⟨kind, hkind, hf⟩ := List.any_eq_true.mp h
  exact FailureKind.not_interrupt_of_isOrdinary
    (FailureKind.isA_trans hf (config.rescuable_ordinary kind hkind))

/-- The end of input is no interrupt. -/
theorem Failure.not_interrupt_of_end {f : Failure} (h : f.isA .endOfFile = true) :
    f.isA .keyboardInterrupt = false :=
  FailureKind.not_interrupt_of_isOrdinary (FailureKind.isA_trans h rfl)

/-- An event that does not report an interrupt as a failure. -/
def ReadEvent.Sparing : ReadEvent → Prop
  | .notice (.wrote (.traceback f)) => f.isA .keyboardInterrupt = false
  | _ => True

theorem ReadEvent.sparing_takesIn {config : Config} : ReadEvent.TakesIn config Sparing where
  requested := trivial
  source _ := trivial
  logged _ := trivial
  line _ := trivial
  diagnostic _ := trivial
  traceback _ := config.not_interrupt_of_rescues
  entered _ := trivial
  exited _ := trivial

/-- Supplies that are never interrupted when a fresh source is asked for. -/
structure Inputs.Spared (inputs : Inputs ι δ) (spared : δ → Prop) : Prop where
  read_spared : ∀ complete prompt i, spared i.supply →
    spared (inputs.read complete prompt i).state.supply
  fresh_spared : ∀ supply, spared supply → spared (inputs.fresh supply).state
  fresh_error : ∀ supply f, spared supply → (inputs.fresh supply).result = .error f →
    f.isA .keyboardInterrupt = false

theorem Attempt.refill_apply (inputs : Inputs ι δ) (i : Intake ι δ) :
    (Attempt.refill inputs i).result = (inputs.fresh i.supply).result.map (fun _ => ()) ∧
      (Attempt.refill inputs i).state.supply = (inputs.fresh i.supply).state := by
  rcases h : inputs.fresh i.supply with ⟨f | next, supply, es⟩
  · rw [refill_of_error h]
    exact ⟨rfl, rfl⟩
  · rw [refill_of_ok h]
    exact ⟨rfl, rfl⟩

namespace Policy

/-- The policies for the end of input and for read errors. -/
def Recovers (policy : Policy) : Prop := policy = .endOfInput ∨ policy = .readError

variable {inputs : Inputs ι δ} {config : Config} {spared : δ → Prop} {attempt other : Attempt ι δ}

/-- The same intake, with a supply that is spared. -/
def SameSpared (spared : δ → Prop) (i j : Intake ι δ) : Prop := i = j ∧ spared i.supply

/-- Two attempts that are the same as long as the supply is spared, and keep it so. -/
abbrev Agree (spared : δ → Prop) {α : Type} (x y : Act ReadEvent (Intake ι δ) α) : Prop :=
  Act.Alike (fun seen e => seen ++ [e]) (SameSpared spared) x y

theorem agree_self {x : Act ReadEvent (Intake ι δ) α}
    (h : ∀ i, spared i.supply → spared (x i).state.supply) : Agree spared x x := by
  rintro i _ ⟨rfl, hi⟩
  exact .refl ⟨rfl, h i hi⟩

theorem Agree.trans {x y z : Act ReadEvent (Intake ι δ) α} (h : Agree spared x y)
    (h' : Agree spared y z) : Agree spared x z := by
  rintro i _ ⟨rfl, hi⟩
  have hxy := h i i ⟨rfl, hi⟩
  have hyz := h' i i ⟨rfl, hi⟩
  exact ⟨hxy.result_eq.trans hyz.result_eq, ⟨hxy.state.1.trans hyz.state.1, hxy.state.2⟩,
    fun seen => (hxy.noted_eq seen).trans (hyz.noted_eq seen)⟩

theorem agree_current_bind {next next' : Intake ι δ → Act ReadEvent (Intake ι δ) α}
    (h : ∀ i, Agree spared (next i) (next' i)) :
    Agree spared (Act.current >>= next) (Act.current >>= next') := by
  refine .current_bind ?_
  rintro i _ ⟨rfl, -⟩
  exact h i

theorem agree_reportFailure (count : Nat) (f : Failure) :
    Agree spared (reportFailure inputs config count f) (reportFailure inputs config count f) := by
  refine agree_self fun i hi => ?_
  rwa [reportFailure_state]

theorem agree_reportFatal : Agree spared (reportFatal inputs) (reportFatal inputs) :=
  agree_self fun _ => id

variable (hsupply : inputs.Spared spared)

include hsupply

theorem agree_refill : Agree spared (Attempt.refill inputs) (Attempt.refill inputs) := by
  refine agree_self fun i hi => ?_
  rw [(Attempt.refill_apply inputs i).2]
  exact hsupply.fresh_spared _ hi

/-- A refill is not interrupted. -/
theorem refill_not_interrupted (i j : Intake ι δ) (h : SameSpared spared i j) (f : Failure)
    (hf : (Attempt.refill inputs i).result = .error f) :
    catching .keyboardInterrupt f = false := by
  rw [(Attempt.refill_apply inputs i).1] at hf
  cases hfresh : (inputs.fresh i.supply).result with
  | error g =>
    rw [hfresh] at hf
    obtain rfl := Except.error.inj hf
    exact hsupply.fresh_error _ _ h.2 hfresh
  | ok next =>
    rw [hfresh] at hf
    cases hf

theorem agree_exhausted : Agree spared (exhausted inputs) (exhausted inputs) :=
  .bind (agree_refill hsupply) fun _ => .bind (.emit fun _ => rfl) fun _ => .pure _

/-- Giving up is not interrupted. -/
theorem agree_exhausted_rescue {handler : Failure → Attempt ι δ} :
    Agree spared ((exhausted inputs).rescue (catching .keyboardInterrupt) handler)
      (exhausted inputs) := by
  refine .bind_rescue (agree_refill hsupply) (refill_not_interrupted hsupply) fun _ => ?_
  exact .bind (.emit fun _ => rfl) fun _ => .pure _

omit hsupply

theorem agree_onInterrupt (h : Agree spared attempt other) :
    Agree spared (onInterrupt inputs attempt) (onInterrupt inputs other) :=
  .rescue h fun _ => agree_self fun _ => id

/-- A handler for other failures is put around the one for interrupts. -/
theorem onInterrupt_rescue {catches : Failure → Bool} (handler : Failure → Attempt ι δ)
    (hcatches : ∀ f, catches f = true → catching .keyboardInterrupt f = false) :
    onInterrupt inputs (attempt.rescue catches handler) =
      (onInterrupt inputs attempt).rescue catches fun f => onInterrupt inputs (handler f) := by
  refine Act.rescue_rescue attempt hcatches ?_
  -- cancelling a read does not fail
  intro f i g hg
  cases hg

/-- The end of input is not what the handler for interrupts is for. -/
theorem catching_end (f : Failure) (h : catching .endOfFile f = true) :
    catching .keyboardInterrupt f = false := Failure.not_interrupt_of_end h

include hsupply

theorem agree_exhausting (h : Agree spared attempt attempt) :
    Agree spared
      (onInterrupt inputs (attempt.rescue (catching .endOfFile) fun _ => exhausted inputs))
      ((onInterrupt inputs attempt).rescue (catching .endOfFile) fun _ => exhausted inputs) := by
  rw [onInterrupt_rescue _ catching_end]
  exact .rescue (agree_onInterrupt h) fun _ => agree_exhausted_rescue hsupply

theorem agree_onInterrupt_onEndOfInput (h : Agree spared attempt attempt) :
    Agree spared (onInterrupt inputs (onEndOfInput inputs attempt))
      (onEndOfInput inputs (onInterrupt inputs attempt)) := by
  rw [onEndOfInput, onInterrupt_rescue _ catching_end]
  refine .rescue (agree_onInterrupt h) fun _ => ?_
  -- What is done at the end of input is interrupted by nothing but the second attempt.
  refine .current_bind_rescue ?_
  rintro before _ ⟨rfl, -⟩
  refine .bind_rescue (agree_refill hsupply) (refill_not_interrupted hsupply) fun _ => ?_
  refine .current_bind_rescue ?_
  rintro now _ ⟨rfl, -⟩
  refine .bind_rescue (.emit fun _ => rfl) ?_ fun _ => agree_exhausting hsupply h
  intro i j hij f hf
  cases hf

omit hsupply

/-- A report of a failure is not interrupted. -/
theorem reportFailure_not_interrupted {count : Nat} {f g : Failure} {i : Intake ι δ}
    (h : (reportFailure inputs config count f i).result = .error g) :
    catching .keyboardInterrupt g = false := by
  cases htext : f.text? with
  | none =>
    rw [reportFailure_of_unwritten htext] at h
    obtain rfl := Except.error.inj h
    rfl
  | some text =>
    rw [reportFailure_of_text? htext] at h
    cases h

/-- What follows from it may be. -/
theorem agree_reportFailure_bind {next next' : Unit → Attempt ι δ} (count : Nat) (f : Failure)
    (h : ∀ u, Agree spared (onInterrupt inputs (next u)) (next' u)) :
    Agree spared
      (onInterrupt inputs (Act.bind (reportFailure inputs config count f) next))
      (Act.bind (reportFailure inputs config count f) next') := by
  exact .bind_rescue (agree_reportFailure count f) (fun _ _ _ _ => reportFailure_not_interrupted) h

theorem agree_onInterrupt_retrying (h : Agree spared attempt attempt) (failed left : Nat) :
    Agree spared (onInterrupt inputs (retrying inputs config attempt failed left))
      (retrying inputs config (onInterrupt inputs attempt) failed left) := by
  have hrescues : ∀ f, config.rescues f = true → catching .keyboardInterrupt f = false :=
    fun _ => config.not_interrupt_of_rescues
  -- by induction on the attempts that are left
  induction left generalizing failed with
  | zero =>
    rw [retrying, onInterrupt_rescue _ hrescues]
    refine .rescue (agree_onInterrupt h) fun f => ?_
    refine agree_reportFailure_bind (failed + 1) f fun _ => ?_
    exact agree_self fun _ => id
  | succ left ih =>
    rw [retrying, onInterrupt_rescue _ hrescues]
    refine .rescue (agree_onInterrupt h) fun f => ?_
    exact agree_reportFailure_bind (failed + 1) f fun _ => ih (failed + 1)

theorem agree_retrying (h : Agree spared attempt other) (failed left : Nat) :
    Agree spared (retrying inputs config attempt failed left)
      (retrying inputs config other failed left) := by
  induction left generalizing failed with
  | zero =>
    refine .rescue h fun f => .bind (agree_reportFailure (failed + 1) f) fun _ => ?_
    exact .bind agree_reportFatal fun _ => .pure _
  | succ left ih =>
    exact .rescue h fun f => .bind (agree_reportFailure (failed + 1) f) fun _ => ih (failed + 1)

include hsupply

theorem agree_onEndOfInput (h : Agree spared attempt other) :
    Agree spared (onEndOfInput inputs attempt) (onEndOfInput inputs other) := by
  refine .rescue h fun _ => agree_current_bind fun before => ?_
  refine .bind (agree_refill hsupply) fun _ => agree_current_bind fun now => ?_
  exact .bind (.emit fun _ => rfl) fun _ => .rescue h fun _ => agree_exhausted hsupply

variable (config) in
/-- A policy makes the same of the same attempts. -/
theorem agree_guard {policy : Policy} (hpolicy : policy.Recovers) (h : Agree spared attempt other) :
    Agree spared (policy.guard inputs config attempt) (policy.guard inputs config other) := by
  rcases hpolicy with rfl | rfl
  · exact agree_onEndOfInput hsupply h
  · exact agree_retrying h 0 _

variable (config) in
/-- **The handler for interrupts and another policy may change places.** -/
theorem onInterrupt_guard {policy : Policy} (hpolicy : policy.Recovers)
    (h : Agree spared attempt attempt) :
    Agree spared (onInterrupt inputs (policy.guard inputs config attempt))
      (policy.guard inputs config (onInterrupt inputs attempt)) := by
  rcases hpolicy with rfl | rfl
  · exact agree_onInterrupt_onEndOfInput hsupply h
  · exact agree_onInterrupt_retrying h 0 _

omit hsupply

/-- Nothing that is handled for interrupts fails with one. -/
theorem onInterrupt_error {i : Intake ι δ} {f : Failure}
    (h : (onInterrupt inputs attempt i).result = .error f) : f.isA .keyboardInterrupt = false := by
  rcases hi : attempt i with ⟨g | outcome, j, es⟩
  · by_cases hint : g.isA .keyboardInterrupt = true
    · rw [Standing.onInterrupt_of_interrupt hi hint] at h
      cases h
    · rw [Bool.not_eq_true] at hint
      rw [Standing.onInterrupt_of_error hi hint] at h
      obtain rfl := Except.error.inj h
      exact hint
  · rw [Standing.onInterrupt_of_ok hi] at h
    cases h

/-- An outcome passes. -/
theorem guard_ok {policy : Policy} (hpolicy : policy.Recovers) {i j : Intake ι δ}
    {outcome : Outcome} {es : List ReadEvent} (h : attempt i = ⟨.ok outcome, j, es⟩) :
    policy.guard inputs config attempt i = ⟨.ok outcome, j, es⟩ := by
  rcases hpolicy with rfl | rfl
  · rw [Policy.guard, onEndOfInput, Act.rescue_apply, h, Run.rescue_ok]
  · rw [Policy.guard, onReadError]
    cases config.maxReadRetries.toNat - 1 with
    | zero => rw [retrying, Act.rescue_apply, h, Run.rescue_ok]
    | succ left => rw [retrying, Act.rescue_apply, h, Run.rescue_ok]

end Policy

/-! ## Interrupts among several policies -/

namespace Pipeline

variable {inputs : Inputs ι δ} {config : Config} {spared : δ → Prop} {attempt other : Attempt ι δ}
  (hsupply : inputs.Spared spared) {policies : Pipeline}

include hsupply

variable (config) in
theorem agree_guard (hpolicies : ∀ policy ∈ policies, policy.Recovers)
    (h : Policy.Agree spared attempt other) :
    Policy.Agree spared (guard inputs config policies attempt)
      (guard inputs config policies other) := by
  induction policies generalizing attempt other with
  | nil => exact h
  | cons policy policies ih =>
    obtain ⟨hpolicy, hpolicies⟩ := List.forall_mem_cons.mp hpolicies
    rw [guard_cons, guard_cons]
    exact ih hpolicies (Policy.agree_guard config hsupply hpolicy h)

variable (config) in
/-- Interrupts handled around several policies are handled inside all of them. -/
theorem onInterrupt_guard (hpolicies : ∀ policy ∈ policies, policy.Recovers)
    (h : Policy.Agree spared attempt attempt) :
    Policy.Agree spared (Policy.onInterrupt inputs (guard inputs config policies attempt))
      (guard inputs config policies (Policy.onInterrupt inputs attempt)) := by
  -- by induction on the policies, the innermost first: the handler goes inside one after the other
  induction policies generalizing attempt with
  | nil => exact Policy.agree_onInterrupt h
  | cons policy policies ih =>
    obtain ⟨hpolicy, hpolicies⟩ := List.forall_mem_cons.mp hpolicies
    rw [guard_cons, guard_cons]
    have houter := ih hpolicies (Policy.agree_guard config hsupply hpolicy h)
    have hinner := Policy.onInterrupt_guard config hsupply hpolicy h
    exact Policy.Agree.trans houter (agree_guard config hsupply hpolicies hinner)

theorem agree_ask (complete : String → List String) (prompt : String) :
    Policy.Agree spared (Attempt.ask inputs complete prompt)
      (Attempt.ask inputs complete prompt) := by
  refine Policy.agree_self fun i hi => ?_
  rw [Attempt.ask_apply]
  exact hsupply.read_spared complete prompt i hi

omit hsupply

/-- An outcome passes all policies. -/
theorem guard_ok (hpolicies : ∀ policy ∈ policies, policy.Recovers) {i j : Intake ι δ}
    {outcome : Outcome} {es : List ReadEvent} (h : attempt i = ⟨.ok outcome, j, es⟩) :
    guard inputs config policies attempt i = ⟨.ok outcome, j, es⟩ := by
  induction policies generalizing attempt with
  | nil => exact h
  | cons policy policies ih =>
    obtain ⟨hpolicy, hpolicies⟩ := List.forall_mem_cons.mp hpolicies
    exact ih hpolicies (Policy.guard_ok hpolicy h)

variable (config) in
/-- **Interrupts may be handled at any place among the policies** for the end of input and for read
errors, if the supply is not interrupted: the same comes of a read, with the same source in place at
the end, and it does the same on the way. An interrupt is handled where it occurs: it cancels the
read at once, is never reported as a failure, and never passed on. -/
theorem interrupts_anywhere (hsupply : inputs.Spared spared)
    {before after before' after' : Pipeline}
    (hpolicies : ∀ policy ∈ before ++ after, policy.Recovers)
    (hmoved : before ++ after = before' ++ after') (complete : String → List String)
    (prompt : String) (i : Intake ι δ) (hi : spared i.supply) :
    let attempt := Attempt.ask inputs complete prompt
    let read := guard inputs config (before ++ .interrupt :: after) attempt i
    read = guard inputs config (before' ++ .interrupt :: after') attempt i ∧
      read = guard inputs config (before ++ after) (Policy.onInterrupt inputs attempt) i ∧
      (∀ f j es, attempt i = ⟨.error f, j, es⟩ → f.isA .keyboardInterrupt = true →
        read = ⟨.ok .interrupted, j, es ++ [Standing.interruption inputs j]⟩) ∧
      (∀ f, read.result = .error f → f.isA .keyboardInterrupt = false) ∧
      ∀ f, .notice (.wrote (.traceback f)) ∈ read.events → f.isA .keyboardInterrupt = false := by
  intro attempt read
  have hask : Policy.Agree spared attempt attempt := agree_ask hsupply complete prompt
  have hinside : ∀ inner outer : Pipeline, (∀ policy ∈ inner ++ outer, policy.Recovers) →
      guard inputs config (inner ++ .interrupt :: outer) attempt i =
        guard inputs config (inner ++ outer) (Policy.onInterrupt inputs attempt) i := by
    intro inner outer hall
    obtain ⟨hinner, houter⟩ := List.forall_mem_append.mp hall
    rw [guard_append, guard_append, guard_cons]
    have hmove := agree_guard config hsupply houter
      (onInterrupt_guard config hsupply hinner hask)
    exact (hmove i i ⟨rfl, hi⟩).eq fun _ _ h => h.1
  have hread : read = guard inputs config (before ++ after) (Policy.onInterrupt inputs attempt) i :=
    hinside before after hpolicies
  refine ⟨?_, hread, ?_, ?_, ?_⟩
  · rw [hinside before' after' (hmoved ▸ hpolicies), ← hmoved]
    exact hread
  · intro f j es hf hint
    rw [hread]
    exact guard_ok hpolicies (Standing.onInterrupt_of_interrupt hf hint)
  · -- Handled around all the others, interrupts are what no failure is.
    intro f hf
    have houtside := hinside (before ++ after) []
    rw [List.append_nil] at houtside
    rw [hread, ← houtside hpolicies, guard_append] at hf
    exact Policy.onInterrupt_error hf
  · intro f hf
    have hreports : Act.Reports ReadEvent.Sparing attempt :=
      Attempt.ask_reports (fun _ => trivial) complete trivial
    exact guard_reports ReadEvent.sparing_takesIn hreports _ i _ hf

end Pipeline

/-! ## Interrupts at a desk -/

namespace Desk

/-- No failure that is laid out for the supply is an interrupt. -/
def Spared (desk : Desk) : Prop :=
  ∀ f, .failure f ∈ desk.fallbacks.getD [] → f.isA .keyboardInterrupt = false

theorem readStandard_fallbacks (name : Option Value) (desk : Desk) :
    (readStandard name desk).state.fallbacks = desk.fallbacks := by
  unfold readStandard
  split <;> rfl

theorem inputs_spared : inputs.Spared Spared where
  read_spared complete prompt i hi := by
    obtain ⟨source, desk⟩ := i
    cases source with
    | standardInput name =>
      intro f hf
      exact hi f (readStandard_fallbacks name desk ▸ hf)
    | _ => exact hi
  fresh_spared desk hdesk f hf := by
    obtain ⟨_ | _ | ⟨fallback, fallbacks⟩, calls, stdin⟩ := desk
    · cases hf
    · cases hf
    · cases fallback with
      | source s => exact hdesk f (List.mem_cons_of_mem _ hf)
      | failure g => exact hdesk f (List.mem_cons_of_mem _ hf)
  fresh_error desk f hdesk hf := by
    obtain ⟨_ | _ | ⟨fallback, fallbacks⟩, calls, stdin⟩ := desk
    · cases hf
    · cases hf
    · cases fallback with
      | source s => cases hf
      | failure g =>
        obtain rfl : g = f := Except.error.inj hf
        exact hdesk g List.mem_cons_self

end Desk

/-- Interrupts handled around the end of input instead of within: the source ends, and the fresh one
fails and is interrupted when it is asked again. -/
theorem Pipeline.interrupts_anywhere_interruptedFallback :
    let fallbacks : List Fallback := [.source (.scripted .withPrompt "b"
      [.fail (.saying .os "broken"), .fail (.raised .keyboardInterrupt none)])]
    let i : Intake Source Desk :=
      ⟨.scripted .withPrompt "a" [], { fallbacks := some fallbacks }⟩
    let ask := Attempt.ask Desk.inputs (fun _ => []) "> "
    let read := guard Desk.inputs .standard ([.endOfInput] ++ .interrupt :: [.readError]) ask i
    read = guard Desk.inputs .standard ([] ++ .interrupt :: [.endOfInput, .readError]) ask i ∧
      read.result = .ok .interrupted ∧ ReadEvent.asks read.events = 3 := by
  intro fallbacks i ask read
  have hspared : Desk.Spared i.supply := by
    intro f hf
    rcases List.mem_singleton.mp hf with ⟨⟩
  have hpolicies : ∀ policy ∈ ([.endOfInput] ++ [.readError] : Pipeline), policy.Recovers := by
    simp [Policy.Recovers]
  have hmoved : ([.endOfInput] ++ [.readError] : Pipeline) = [] ++ [.endOfInput, .readError] := rfl
  have hread := interrupts_anywhere .standard Desk.inputs_spared hpolicies hmoved (fun _ => [])
    "> " i hspared
  exact ⟨hread.1, by rfl, by rfl⟩

end PromptLoop
