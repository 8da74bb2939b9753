import PromptLoop.Act

/-!
# Contracts and frames of actions

A contract says which events may be reported from one state to another. It allows to do nothing, and
one allowed thing after another, so an action that honours it step by step honours it as a whole,
whether it answers or fails. Two contracts stand out: one keeps a part of the state as it was found,
and one bounds what is reported.

## Main definitions

* `Contract`: what actions may do
* `Act.Honours`: an action that does nothing else
* `Act.Keeps`: an action that leaves a part of the state as it is
* `Act.Reports`: an action that reports events of one sort only

## Main results

* `Act.Honours.bind`, `Act.Honours.rescue`: what is honoured step by step is honoured
-/

namespace PromptLoop

variable {ε δ σ τ α β γ : Type}

/-- What actions may do: the events that they may report from one state to another. -/
structure Contract (ε σ : Type) where
  allows : σ → List ε → σ → Prop
  idle : ∀ s, allows s [] s
  next : ∀ {s t u : σ} {es ds : List ε}, allows s es t → allows t ds u → allows s (es ++ ds) u

namespace Contract

/-- A part of the state stays as it is. -/
def keeping (part : σ → γ) : Contract ε σ where
  allows s _ t := part t = part s
  idle _ := rfl
  next h h' := h'.trans h

/-- Events are of one sort. -/
def reporting (sort : ε → Prop) : Contract ε σ where
  allows _ es _ := ∀ e ∈ es, sort e
  idle _ := nofun
  next h h' := by
    intro e he
    rcases List.mem_append.mp he with he | he
    · exact h e he
    · exact h' e he

end Contract

namespace Act

/-- An action that does what a contract allows. -/
def Honours (c : Contract ε σ) (x : Act ε σ α) : Prop := ∀ s, c.allows s (x s).events (x s).state

namespace Honours

variable {c : Contract ε σ}

protected theorem pure (a : α) : Honours c (pure a : Act ε σ α) := c.idle

protected theorem raise (f : Failure) : Honours c (raise f : Act ε σ α) := c.idle

protected theorem current : Honours c (current : Act ε σ σ) := c.idle

protected theorem ofExcept (r : Except Failure α) : Honours c (ofExcept r : Act ε σ α) := c.idle

protected theorem emit {es : List ε} (h : ∀ s, c.allows s es s) : Honours c (emit es) := h

protected theorem change {g : σ → σ} (h : ∀ s, c.allows s [] (g s)) :
    Honours c (change g : Act ε σ Unit) := h

protected theorem bind {x : Act ε σ α} {next : α → Act ε σ β} (h : Honours c x)
    (hnext : ∀ a, Honours c (next a)) : Honours c (x >>= next) := by
  intro s
  have hs := h s
  rw [bind_apply]
  rcases hx : x s with ⟨f | a, t, es⟩
  · rw [hx] at hs
    exact hs
  · rw [hx] at hs
    exact c.next hs (hnext a t)

protected theorem ite {p : Prop} [Decidable p] {x y : Act ε σ α} (h : Honours c x)
    (h' : Honours c y) : Honours c (if p then x else y) := by
  by_cases hp : p
  · rw [if_pos hp]
    exact h
  · rw [if_neg hp]
    exact h'

protected theorem rescue {x : Act ε σ α} {catches : Failure → Bool}
    {handler : Failure → Act ε σ α} (h : Honours c x) (hhandler : ∀ f, Honours c (handler f)) :
    Honours c (x.rescue catches handler) := by
  intro s
  have hs := h s
  rw [rescue_apply]
  rcases hx : x s with ⟨f | a, t, es⟩
  · rw [hx] at hs
    rw [Run.rescue_error]
    by_cases hf : catches f = true
    · rw [if_pos hf]
      exact c.next hs (hhandler f t)
    · rw [if_neg hf]
      exact hs
  · rw [hx] at hs
    exact hs

/-- What an action on a part of the state does is allowed in the whole, if the whole allows what the
part does. -/
protected theorem within {d : Contract δ τ} {get : τ → σ} {set : τ → σ → τ} {report : ε → δ}
    {x : Act ε σ α} (h : Honours c x)
    (hset : ∀ t es u, c.allows (get t) es u → d.allows t (es.map report) (set t u)) :
    Honours d (x.within get set report) := fun t => hset t _ _ (h (get t))

end Honours

/-- An action that leaves a part of the state as it is. -/
def Keeps (part : σ → γ) (x : Act ε σ α) : Prop := ∀ s, part (x s).state = part s

namespace Keeps

variable {part : σ → γ}

theorem honours {x : Act ε σ α} (h : Keeps part x) : Honours (.keeping part) x := h

protected theorem pure (a : α) : Keeps part (pure a : Act ε σ α) := fun _ => rfl

protected theorem raise (f : Failure) : Keeps part (raise f : Act ε σ α) := fun _ => rfl

protected theorem emit (es : List ε) : Keeps part (emit es) := fun _ => rfl

protected theorem current : Keeps part (current : Act ε σ σ) := fun _ => rfl

protected theorem ofExcept (r : Except Failure α) : Keeps part (ofExcept r : Act ε σ α) :=
  fun _ => rfl

protected theorem change {g : σ → σ} (h : ∀ s, part (g s) = part s) :
    Keeps part (change g : Act ε σ Unit) := h

protected theorem bind {x : Act ε σ α} {next : α → Act ε σ β} (h : Keeps part x)
    (hnext : ∀ a, Keeps part (next a)) : Keeps part (x >>= next) :=
  h.honours.bind fun a => (hnext a).honours

protected theorem ite {p : Prop} [Decidable p] {x y : Act ε σ α} (h : Keeps part x)
    (h' : Keeps part y) : Keeps part (if p then x else y) := Honours.ite h.honours h'.honours

protected theorem rescue {x : Act ε σ α} {catches : Failure → Bool}
    {handler : Failure → Act ε σ α} (h : Keeps part x) (hhandler : ∀ f, Keeps part (handler f)) :
    Keeps part (x.rescue catches handler) := h.honours.rescue fun f => (hhandler f).honours

end Keeps

/-- An action that reports events of one sort only. -/
def Reports (sort : ε → Prop) (x : Act ε σ α) : Prop := ∀ s, ∀ e ∈ (x s).events, sort e

namespace Reports

variable {sort : ε → Prop}

theorem honours {x : Act ε σ α} (h : Reports sort x) : Honours (.reporting sort) x := h

protected theorem pure (a : α) : Reports sort (pure a : Act ε σ α) := fun _ => nofun

protected theorem raise (f : Failure) : Reports sort (raise f : Act ε σ α) := fun _ => nofun

protected theorem current : Reports sort (current : Act ε σ σ) := fun _ => nofun

protected theorem ofExcept (r : Except Failure α) : Reports sort (ofExcept r : Act ε σ α) :=
  fun _ => nofun

protected theorem change (g : σ → σ) : Reports sort (change g : Act ε σ Unit) := fun _ => nofun

protected theorem emit {es : List ε} (h : ∀ e ∈ es, sort e) :
    Reports sort (emit es : Act ε σ Unit) := fun _ => h

protected theorem bind {x : Act ε σ α} {next : α → Act ε σ β} (h : Reports sort x)
    (hnext : ∀ a, Reports sort (next a)) : Reports sort (x >>= next) :=
  h.honours.bind fun a => (hnext a).honours

protected theorem ite {p : Prop} [Decidable p] {x y : Act ε σ α} (h : Reports sort x)
    (h' : Reports sort y) : Reports sort (if p then x else y) := Honours.ite h.honours h'.honours

protected theorem rescue {x : Act ε σ α} {catches : Failure → Bool}
    {handler : Failure → Act ε σ α} (h : Reports sort x)
    (hhandler : ∀ f, Reports sort (handler f)) : Reports sort (x.rescue catches handler) :=
  h.honours.rescue fun f => (hhandler f).honours

/-- What a handler reports counts only for the failures that it is for. -/
protected theorem rescue_of {x : Act ε σ α} {catches : Failure → Bool}
    {handler : Failure → Act ε σ α} (h : Reports sort x)
    (hhandler : ∀ f, catches f = true → Reports sort (handler f)) :
    Reports sort (x.rescue catches handler) := by
  intro s e he
  have hs := h s
  rw [rescue_apply] at he
  rcases hx : x s with ⟨f | a, t, es⟩
  · rw [hx] at hs he
    rw [Run.rescue_error] at he
    by_cases hf : catches f = true
    · rw [if_pos hf] at he
      exact (List.mem_append.mp he).elim (hs e) (hhandler f hf t e)
    · rw [if_neg hf] at he
      exact hs e he
  · rw [hx] at hs he
    exact hs e he

protected theorem within {get : τ → σ} {set : τ → σ → τ} {report : δ → ε} {x : Act δ σ α}
    (h : ∀ e, sort (report e)) : Reports sort (x.within get set report) := by
  intro t e he
  obtain ⟨d, -, rfl⟩ := List.mem_map.mp he
  exact h d

end Reports

end Act

end PromptLoop
