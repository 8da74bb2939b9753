import PromptLoop.Act

/-!
# Alike actions

An observer may see only a part of a state, and heed only some of the events. Two actions are alike
for him when, from states that look the same to him, they come to the same, leave states that look
the same, and leave him with the same notes.

## Main definitions

* `Run.Alike`: two runs that are alike
* `Act.Alike`: two actions that have alike runs from states that look the same

## Main results

* `Act.Alike.bind`, `Act.Alike.rescue`, `Act.Alike.within`: what is put together from alike actions
  is alike
-/

namespace PromptLoop

variable {ε δ σ τ α β γ : Type}

/-- Two runs that are alike for an observer who makes a note of one event after the other: they come
to the same and leave related states, and whatever was noted before, he has the same notes
afterwards. -/
structure Run.Alike (note : γ → ε → γ) (R : σ → σ → Prop) (r q : Run ε σ α) : Prop where
  result_eq : r.result = q.result
  state : R r.state q.state
  noted_eq : ∀ seen, r.events.foldl note seen = q.events.foldl note seen

namespace Run.Alike

variable {note : γ → ε → γ} {R S : σ → σ → Prop} {r q : Run ε σ α}

protected theorem refl (hstate : R r.state r.state) : Alike note R r r :=
  ⟨rfl, hstate, fun _ => rfl⟩

protected theorem mono (h : Alike note R r q) (himp : ∀ s t, R s t → S s t) : Alike note S r q :=
  ⟨h.result_eq, himp _ _ h.state, h.noted_eq⟩

protected theorem after (h : Alike note R r q) {es ds : List ε}
    (hnoted : ∀ seen, es.foldl note seen = ds.foldl note seen) :
    Alike note R (r.after es) (q.after ds) where
  result_eq := h.result_eq
  state := h.state
  noted_eq seen := by
    rw [after_events, after_events, List.foldl_append, List.foldl_append, hnoted, h.noted_eq]

protected theorem andThen {next next' : α → Act ε σ β} (h : Alike note R r q)
    (hnext : ∀ a s t, R s t → Alike note R (next a s) (next' a t)) :
    Alike note R (r.andThen next) (q.andThen next') := by
  obtain ⟨result, s, es⟩ := r
  obtain ⟨result', t, ds⟩ := q
  obtain rfl : result = result' := h.result_eq
  cases result with
  | error f => exact ⟨rfl, h.state, h.noted_eq⟩
  | ok a => exact (hnext a s t h.state).after h.noted_eq

protected theorem rescue {catches : Failure → Bool} {handler handler' : Failure → Act ε σ α}
    (h : Alike note R r q)
    (hhandler : ∀ f s t, R s t → Alike note R (handler f s) (handler' f t)) :
    Alike note R (r.rescue catches handler) (q.rescue catches handler') := by
  obtain ⟨result, s, es⟩ := r
  obtain ⟨result', t, ds⟩ := q
  obtain rfl : result = result' := h.result_eq
  cases result with
  | ok a => exact ⟨rfl, h.state, h.noted_eq⟩
  | error f =>
    rw [rescue_error, rescue_error]
    by_cases hc : catches f = true
    · rw [if_pos hc, if_pos hc]
      exact (hhandler f s t h.state).after h.noted_eq
    · rw [if_neg hc, if_neg hc]
      exact ⟨rfl, h.state, h.noted_eq⟩

protected theorem ensuring {last last' : Act ε σ Unit} (h : Alike note R r q)
    (hlast : ∀ s t, R s t → Alike note R (last s) (last' t)) :
    Alike note R (r.ensuring last) (q.ensuring last') := by
  -- The last action runs however the run has come out, and what it fails with counts first.
  have hl := hlast _ _ h.state
  refine ⟨?_, hl.state, fun seen => ?_⟩
  · show (last r.state).result.bind _ = (last' q.state).result.bind _
    rw [hl.result_eq, h.result_eq]
  · show (r.events ++ (last r.state).events).foldl note seen =
      (q.events ++ (last' q.state).events).foldl note seen
    rw [List.foldl_append, List.foldl_append, h.noted_eq, hl.noted_eq]

/-- Runs that are alike on a part of the state are alike on the whole of it, if the events of the
part are noted there as they are here. -/
protected theorem within {R' : τ → τ → Prop} {note' : γ → δ → γ} {get : τ → σ} {set : τ → σ → τ}
    {report : ε → δ} {x y : Act ε σ α} {s t : τ} (h : Alike note R (x (get s)) (y (get t)))
    (hset : ∀ u v, R u v → R' (set s u) (set t v))
    (hnote : ∀ seen e, note' seen (report e) = note seen e) :
    Alike note' R' (x.within get set report s) (y.within get set report t) := by
  obtain ⟨hresult, hpart, hnoted⟩ := h
  refine ⟨hresult, hset _ _ hpart, fun seen => ?_⟩
  -- A report is noted as the event that it reports, so the notes of the part are those of the
  -- whole.
  have hreport : (fun seen e => note' seen (report e)) = note :=
    funext fun seen => funext fun e => hnote seen e
  rw [Act.within_apply, Act.within_apply, List.foldl_map, List.foldl_map, hreport]
  exact hnoted seen

end Run.Alike

namespace Act

/-- Two actions that have alike runs from states that look the same. -/
def Alike (note : γ → ε → γ) (R : σ → σ → Prop) (x y : Act ε σ α) : Prop :=
  ∀ s t, R s t → Run.Alike note R (x s) (y t)

namespace Alike

variable {note : γ → ε → γ} {R : σ → σ → Prop} {x x' y y' : Act ε σ α}

/-- Whoever sees the whole state sees the same in the same run. -/
protected theorem refl (x : Act ε σ α) : Alike note Eq x x := by
  rintro s t rfl
  exact .refl rfl

protected theorem pure (a : α) : Alike note R (pure a : Act ε σ α) (pure a) :=
  fun _ _ h => ⟨rfl, h, fun _ => rfl⟩

protected theorem raise (f : Failure) : Alike note R (raise f : Act ε σ α) (raise f) :=
  fun _ _ h => ⟨rfl, h, fun _ => rfl⟩

protected theorem ofExcept (r : Except Failure α) :
    Alike note R (ofExcept r : Act ε σ α) (ofExcept r) := fun _ _ h => ⟨rfl, h, fun _ => rfl⟩

/-- Events that leave the same notes may differ. -/
protected theorem emit {es ds : List ε} (h : ∀ seen, es.foldl note seen = ds.foldl note seen) :
    Alike note R (emit es) (emit ds) := fun _ _ hstate => ⟨rfl, hstate, h⟩

protected theorem change {g g' : σ → σ} (h : ∀ s t, R s t → R (g s) (g' t)) :
    Alike note R (change g) (change g') := fun s t hstate => ⟨rfl, h s t hstate, fun _ => rfl⟩

protected theorem bind {next next' : α → Act ε σ β} (h : Alike note R x y)
    (hnext : ∀ a, Alike note R (next a) (next' a)) :
    Alike note R (x >>= next) (y >>= next') := fun s t hstate =>
  (h s t hstate).andThen hnext

/-- What follows may look at the whole state, as long as it comes to the same. -/
protected theorem current_bind {next next' : σ → Act ε σ β}
    (h : ∀ s t, R s t → Alike note R (next s) (next' t)) :
    Alike note R (current >>= next) (current >>= next') := fun s t hstate => h s t hstate s t hstate

protected theorem ite {c : Prop} [Decidable c] (h : Alike note R x y) (h' : Alike note R x' y') :
    Alike note R (if c then x else x') (if c then y else y') := by
  by_cases hc : c
  · rw [if_pos hc, if_pos hc]
    exact h
  · rw [if_neg hc, if_neg hc]
    exact h'

protected theorem rescue {catches : Failure → Bool} {handler handler' : Failure → Act ε σ α}
    (h : Alike note R x y) (hhandler : ∀ f, Alike note R (handler f) (handler' f)) :
    Alike note R (x.rescue catches handler) (y.rescue catches handler') := fun s t hstate =>
  (h s t hstate).rescue hhandler

/-- What is alike on a part of the state is alike on the whole of it, if the events of the part are
noted there as they are here. -/
protected theorem within {R' : τ → τ → Prop} {note' : γ → δ → γ} {get : τ → σ} {set : τ → σ → τ}
    {report : ε → δ} (h : Alike note R x y) (hget : ∀ s t, R' s t → R (get s) (get t))
    (hset : ∀ s t u v, R' s t → R u v → R' (set s u) (set t v))
    (hnote : ∀ seen e, note' seen (report e) = note seen e) :
    Alike note' R' (x.within get set report) (y.within get set report) := fun s t hstate =>
  (h _ _ (hget s t hstate)).within (fun u v huv => hset s t u v hstate huv) hnote

end Alike

end Act

end PromptLoop
