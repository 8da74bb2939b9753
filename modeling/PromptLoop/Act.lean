import PromptLoop.Failure.Basic

/-!
# Actions

An action changes a state, reports events in their order, and ends with an answer or a failure. What
it changed and reported before a failure stays. To report is nothing that can fail: whoever looks on
is taken to accept every event.

## Main definitions

* `Run`: what became of an action
* `Act`: an action on a state
* `Act.rescue`: a handler for the failures of some classes
* `Act.ensuring`: an action that follows another on every path
* `Act.within`: an action on a part of a larger state, reporting in larger events

## Main results

* `Act.bind_apply`, `Act.bind_eq_error_iff`: one action after another, and how it fails
* `Act.map_apply`: an action with its answer changed
* `Act.rescue_apply`: a handler runs where the failure left the state
* `Act.ensuring_apply`: the following action runs where the first left the state; its failure wins
-/

namespace PromptLoop

/-- What became of an action: its answer or failure, the state it left and what it reported. -/
structure Run (ε σ α : Type) where
  result : Except Failure α
  state : σ
  events : List ε

/-- An action on a state `σ` that reports events `ε` and answers with `α`. -/
def Act (ε σ α : Type) : Type := σ → Run ε σ α

namespace Run

variable {ε σ α β : Type}

/-- The run with events reported before it. -/
def after (earlier : List ε) (r : Run ε σ α) : Run ε σ α := { r with events := earlier ++ r.events }

/-- The run continued with its answer; a failure stays. -/
def andThen (r : Run ε σ α) (next : α → Act ε σ β) : Run ε σ β :=
  match r.result with
  | .ok a => (next a r.state).after r.events
  | .error f => ⟨.error f, r.state, r.events⟩

/-- The run followed by an action that answers nothing: a failure of the second wins. -/
def ensuring (r : Run ε σ α) (last : Act ε σ Unit) : Run ε σ α :=
  let l := last r.state
  { result := l.result.bind fun _ => r.result, state := l.state, events := r.events ++ l.events }

/-- The run continued by a handler if it failed in a way the handler is for. -/
def rescue (r : Run ε σ α) (catches : Failure → Bool) (handler : Failure → Act ε σ α) :
    Run ε σ α :=
  match r.result with
  | .ok a => ⟨.ok a, r.state, r.events⟩
  | .error f => if catches f then (handler f r.state).after r.events else r

@[simp] theorem after_result (es : List ε) (r : Run ε σ α) : (r.after es).result = r.result := rfl

@[simp] theorem after_state (es : List ε) (r : Run ε σ α) : (r.after es).state = r.state := rfl

@[simp] theorem after_events (es : List ε) (r : Run ε σ α) :
    (r.after es).events = es ++ r.events := rfl

@[simp] theorem after_nil (r : Run ε σ α) : r.after [] = r := rfl

@[simp] theorem after_after (es ds : List ε) (r : Run ε σ α) :
    (r.after ds).after es = r.after (es ++ ds) := by
  simp [after]

@[simp] theorem andThen_ok (a : α) (s : σ) (es : List ε) (next : α → Act ε σ β) :
    (Run.mk (.ok a) s es).andThen next = (next a s).after es := rfl

@[simp] theorem andThen_error (f : Failure) (s : σ) (es : List ε) (next : α → Act ε σ β) :
    (Run.mk (.error f) s es).andThen next = ⟨.error f, s, es⟩ := rfl

theorem andThen_result (r : Run ε σ α) (next : α → Act ε σ β) :
    (r.andThen next).result = r.result.bind fun a => (next a r.state).result := by
  obtain ⟨result, t, es⟩ := r
  cases result <;> rfl

theorem after_andThen (es : List ε) (r : Run ε σ α) (next : α → Act ε σ β) :
    (r.after es).andThen next = (r.andThen next).after es := by
  obtain ⟨result, s, ds⟩ := r
  cases result <;> simp [after]

@[simp] theorem rescue_ok (a : α) (s : σ) (es : List ε) (catches : Failure → Bool)
    (handler : Failure → Act ε σ α) :
    (Run.mk (.ok a) s es).rescue catches handler = ⟨.ok a, s, es⟩ := rfl

theorem rescue_error (f : Failure) (s : σ) (es : List ε) (catches : Failure → Bool)
    (handler : Failure → Act ε σ α) :
    (Run.mk (.error f) s es).rescue catches handler =
      if catches f then (handler f s).after es else ⟨.error f, s, es⟩ := rfl

end Run

namespace Act

variable {ε σ α β : Type}

/-- Answers and does nothing. -/
protected def pure (a : α) : Act ε σ α := fun s => ⟨.ok a, s, []⟩

/-- One action after another. -/
protected def bind (x : Act ε σ α) (next : α → Act ε σ β) : Act ε σ β :=
  fun s => (x s).andThen next

instance : Monad (Act ε σ) where
  pure := Act.pure
  bind := Act.bind

/-- Fails. -/
def raise (f : Failure) : Act ε σ α := fun s => ⟨.error f, s, []⟩

/-- Reports events. -/
def emit (es : List ε) : Act ε σ Unit := fun s => ⟨.ok (), s, es⟩

/-- The state. -/
def current : Act ε σ σ := fun s => ⟨.ok s, s, []⟩

/-- Changes the state. -/
def change (g : σ → σ) : Act ε σ Unit := fun s => ⟨.ok (), g s, []⟩

/-- Answers from the state. -/
def view (g : σ → α) : Act ε σ α := fun s => ⟨.ok (g s), s, []⟩

/-- Answers what was computed, or fails as it did. -/
def ofExcept (r : Except Failure α) : Act ε σ α := fun s => ⟨r, s, []⟩

/-- An action with a handler for some failures. -/
def rescue (x : Act ε σ α) (catches : Failure → Bool) (handler : Failure → Act ε σ α) :
    Act ε σ α := fun s => (x s).rescue catches handler

/-- An action followed by another on every path. -/
def ensuring (x : Act ε σ α) (last : Act ε σ Unit) : Act ε σ α := fun s => (x s).ensuring last

/-- An action on a part of a larger state, reporting in larger events. -/
def within {δ τ : Type} (get : τ → σ) (set : τ → σ → τ) (report : ε → δ) (x : Act ε σ α) :
    Act δ τ α := fun t =>
  let r := x (get t)
  ⟨r.result, set t r.state, r.events.map report⟩

/-- An action on nothing outside its answer, reporting in larger events. -/
def reporting {δ : Type} (report : ε → δ) (x : Act ε σ α) : Act δ σ α :=
  x.within id (fun _ s => s) report

theorem bind_apply (x : Act ε σ α) (next : α → Act ε σ β) (s : σ) :
    (x >>= next) s = (x s).andThen next := rfl

/-- Two actions fail as the first one does, or as the second one does after it. -/
theorem bind_eq_error_iff {x : Act ε σ α} {next : α → Act ε σ β} {s : σ} {f : Failure} :
    ((x >>= next) s).result = .error f ↔
      (x s).result = .error f ∨
        ∃ a, (x s).result = .ok a ∧ (next a (x s).state).result = .error f := by
  rw [bind_apply, Run.andThen_result]
  rcases (x s).result with g | a
  · constructor
    · intro h
      exact .inl (congrArg Except.error (Except.error.inj h))
    · rintro (h | ⟨a, h, -⟩)
      · exact congrArg Except.error (Except.error.inj h)
      · cases h
  · constructor
    · intro h
      exact .inr ⟨a, rfl, h⟩
    · rintro (h | ⟨b, h, hnext⟩)
      · cases h
      · rwa [Except.ok.inj h]

theorem map_apply (g : α → β) (x : Act ε σ α) (s : σ) :
    (g <$> x) s = ⟨(x s).result.map g, (x s).state, (x s).events⟩ := by
  show (x s).andThen (fun a => Act.pure (g a)) = _
  obtain ⟨result, t, es⟩ := x s
  cases result <;> simp [Act.pure, Run.after, Except.map]

theorem map_eq_error_iff {g : α → β} {x : Act ε σ α} {s : σ} {f : Failure} :
    ((g <$> x) s).result = .error f ↔ (x s).result = .error f := by
  rw [map_apply]
  cases (x s).result with
  | error g =>
    constructor
    · exact fun h => congrArg _ (Except.error.inj h)
    · exact fun h => congrArg _ (Except.error.inj h)
  | ok a => exact iff_of_false nofun nofun

@[simp] theorem pure_apply (a : α) (s : σ) : (pure a : Act ε σ α) s = ⟨.ok a, s, []⟩ := rfl

@[simp] theorem raise_apply (f : Failure) (s : σ) : (raise f : Act ε σ α) s = ⟨.error f, s, []⟩ :=
  rfl

@[simp] theorem emit_apply (es : List ε) (s : σ) : emit es s = ⟨.ok (), s, es⟩ := rfl

@[simp] theorem current_apply (s : σ) : (current : Act ε σ σ) s = ⟨.ok s, s, []⟩ := rfl

@[simp] theorem change_apply (g : σ → σ) (s : σ) :
    (change g : Act ε σ Unit) s = ⟨.ok (), g s, []⟩ := rfl

@[simp] theorem view_apply (g : σ → α) (s : σ) : (view g : Act ε σ α) s = ⟨.ok (g s), s, []⟩ :=
  rfl

@[simp] theorem ofExcept_apply (r : Except Failure α) (s : σ) :
    (ofExcept r : Act ε σ α) s = ⟨r, s, []⟩ := rfl

theorem rescue_apply (x : Act ε σ α) (catches : Failure → Bool) (handler : Failure → Act ε σ α)
    (s : σ) : x.rescue catches handler s = (x s).rescue catches handler := rfl

theorem ensuring_apply (x : Act ε σ α) (last : Act ε σ Unit) (s : σ) :
    x.ensuring last s = (x s).ensuring last := rfl

theorem within_apply {δ τ : Type} (get : τ → σ) (set : τ → σ → τ) (report : ε → δ)
    (x : Act ε σ α) (t : τ) :
    x.within get set report t =
      ⟨(x (get t)).result, set t (x (get t)).state, (x (get t)).events.map report⟩ := rfl

private theorem bind_pure_id (x : Act ε σ α) : Act.bind x (fun a => Act.pure (id a)) = x := by
  funext s
  show (x s).andThen (fun a => Act.pure (id a)) = x s
  obtain ⟨result, t, es⟩ := x s
  cases result <;> simp [Act.pure, Run.after]

private theorem bind_bind {γ : Type} (x : Act ε σ α) (next : α → Act ε σ β) (last : β → Act ε σ γ) :
    Act.bind (Act.bind x next) last = Act.bind x fun a => Act.bind (next a) last := by
  funext s
  show ((x s).andThen next).andThen last = (x s).andThen fun a => Act.bind (next a) last
  obtain ⟨result, t, es⟩ := x s
  cases result with
  | error f => rfl
  | ok a => exact Run.after_andThen es (next a t) last

instance : LawfulMonad (Act ε σ) :=
  LawfulMonad.mk' (Act ε σ) (fun x => bind_pure_id x) (fun _ _ => rfl)
    (fun x next last => bind_bind x next last)

end Act

end PromptLoop
