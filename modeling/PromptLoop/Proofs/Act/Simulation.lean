import PromptLoop.Act

/-!
# Simulation of actions

A state may hold more than an action needs. An action on the larger state simulates one on the
smaller state when it is the same seen through a view: the same result, the same events, and the
state that the view shows.

## Main definitions

* `Run.seen`: a run seen through a view of its state
* `Act.Simulates`: an action on a larger state that is an action on the smaller one

## Main results

* `Act.Simulates.bind`, `Act.Simulates.rescue`, `Act.Simulates.within`: simulation is kept by the
  ways to put actions together
-/

namespace PromptLoop

variable {ε δ σ τ α β : Type}

namespace Run

/-- The run with its state seen through a view. -/
def seen (view : τ → σ) (r : Run ε τ α) : Run ε σ α := ⟨r.result, view r.state, r.events⟩

@[simp] theorem seen_mk (view : τ → σ) (result : Except Failure α) (t : τ) (es : List ε) :
    (Run.mk result t es).seen view = ⟨result, view t, es⟩ := rfl

@[simp] theorem seen_after (view : τ → σ) (es : List ε) (r : Run ε τ α) :
    (r.after es).seen view = (r.seen view).after es := rfl

theorem seen_andThen {view : τ → σ} {r : Run ε τ α} {next : α → Act ε τ β}
    {next' : α → Act ε σ β} (h : ∀ a t, (next a t).seen view = next' a (view t)) :
    (r.andThen next).seen view = (r.seen view).andThen next' := by
  obtain ⟨result, t, es⟩ := r
  cases result with
  | error f => rfl
  | ok a => rw [andThen_ok, seen_after, h]; rfl

theorem seen_rescue {view : τ → σ} {r : Run ε τ α} {catches : Failure → Bool}
    {handler : Failure → Act ε τ α} {handler' : Failure → Act ε σ α}
    (h : ∀ f t, (handler f t).seen view = handler' f (view t)) :
    (r.rescue catches handler).seen view = (r.seen view).rescue catches handler' := by
  obtain ⟨result, t, es⟩ := r
  cases result with
  | ok a => rfl
  | error f =>
    have hf := h f t
    by_cases hc : catches f = true
    · simp only [rescue_error, seen_mk, hc, if_true, seen_after, hf]
    · simp only [rescue_error, seen_mk, hc, Bool.false_eq_true, if_false]

/-- What is handled after events is handled, and comes after them. -/
theorem after_rescue (es : List ε) (r : Run ε σ α) (catches : Failure → Bool)
    (handler : Failure → Act ε σ α) :
    (r.after es).rescue catches handler = (r.rescue catches handler).after es := by
  obtain ⟨result, s, ds⟩ := r
  cases result with
  | ok a => rfl
  | error f =>
    by_cases hc : catches f = true
    · simp only [Run.after, rescue_error, hc, if_true, List.append_assoc]
    · simp only [Run.after, rescue_error, hc, Bool.false_eq_true, if_false]

end Run

namespace Act

/-- An action on a larger state that is an action on the part of it that a view shows. -/
def Simulates (view : τ → σ) (x : Act ε τ α) (y : Act ε σ α) : Prop :=
  ∀ t, (x t).seen view = y (view t)

namespace Simulates

protected theorem refl (x : Act ε σ α) : Simulates id x x := fun _ => rfl

variable {view : τ → σ}

protected theorem pure (a : α) : Simulates view (pure a : Act ε τ α) (pure a) := fun _ => rfl

protected theorem raise (f : Failure) : Simulates view (raise f : Act ε τ α) (raise f) :=
  fun _ => rfl

protected theorem emit (es : List ε) : Simulates view (emit es) (emit es) := fun _ => rfl

protected theorem change {g : τ → τ} {g' : σ → σ} (h : ∀ t, view (g t) = g' (view t)) :
    Simulates view (change g : Act ε τ Unit) (change g') := by
  intro t
  rw [change_apply, change_apply, Run.seen_mk, h]

protected theorem ofExcept (r : Except Failure α) :
    Simulates view (ofExcept r : Act ε τ α) (ofExcept r) := fun _ => rfl

protected theorem bind {x : Act ε τ α} {y : Act ε σ α} {next : α → Act ε τ β}
    {next' : α → Act ε σ β} (h : Simulates view x y)
    (hnext : ∀ a, Simulates view (next a) (next' a)) :
    Simulates view (x >>= next) (y >>= next') := by
  intro t
  rw [bind_apply, bind_apply, Run.seen_andThen hnext, h t]

protected theorem ite {c : Prop} [Decidable c] {x x' : Act ε τ α} {y y' : Act ε σ α}
    (h : Simulates view x y) (h' : Simulates view x' y') :
    Simulates view (if c then x else x') (if c then y else y') := by
  by_cases hc : c
  · rw [if_pos hc, if_pos hc]
    exact h
  · rw [if_neg hc, if_neg hc]
    exact h'

/-- What follows may look at the whole state, as long as it comes to the same. -/
protected theorem current_bind {next : τ → Act ε τ β} {next' : σ → Act ε σ β}
    (h : ∀ t, Simulates view (next t) (next' (view t))) :
    Simulates view (current >>= next) (current >>= next') := fun t => h t t

protected theorem rescue {x : Act ε τ α} {y : Act ε σ α} {catches : Failure → Bool}
    {handler : Failure → Act ε τ α} {handler' : Failure → Act ε σ α} (h : Simulates view x y)
    (hhandler : ∀ f, Simulates view (handler f) (handler' f)) :
    Simulates view (x.rescue catches handler) (y.rescue catches handler') := by
  intro t
  rw [rescue_apply, rescue_apply, Run.seen_rescue hhandler, h t]

/-- Simulation on a part of the state is simulation on the whole of it. -/
protected theorem within {τ' σ' : Type} {view' : τ' → σ'} {get : τ' → τ} {set : τ' → τ → τ'}
    {get' : σ' → σ} {set' : σ' → σ → σ'} {report : ε → δ} {x : Act ε τ α} {y : Act ε σ α}
    (h : Simulates view x y) (hget : ∀ t, view (get t) = get' (view' t))
    (hset : ∀ t s, view' (set t s) = set' (view' t) (view s)) :
    Simulates view' (x.within get set report) (y.within get' set' report) := by
  intro t
  rw [within_apply, within_apply, Run.seen_mk, hset, ← hget, ← h (get t)]
  rfl

end Simulates

end Act

end PromptLoop
