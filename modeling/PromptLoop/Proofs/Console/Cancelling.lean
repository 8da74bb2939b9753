import PromptLoop.Proofs.Console.Lines

/-!
# Giving up the lines of an unfinished statement

As long as a statement is unfinished its lines stand in the buffer and nowhere else: nothing was run
for them and nothing was shown. So whichever way they are given up, the console is the one that it
was before the first of them.

## Main definitions

* `Console.responses`: what becomes of lines, one after the other
* `Console.fed`: the console after them

## Main results

* `Console.evalLine_of_buffer_ne_nil`: what a line does that leaves a statement unfinished
* `Console.responses_of_unfinished`: so do lines that leave one unfinished each
* `Console.evalLine_of_isClearing`, `Console.evalEnd_of_buffer_ne_nil`: lines that are given up
-/

namespace PromptLoop.Console

variable {π : Type} {runtime : Runtime π} {c : Console} {line : String} {lines : List String}

/-- What becomes of lines, each where the one before has left the console, be it by a failure. -/
def responses (runtime : Runtime π) :
    List String → Console → List (Run Notice Console (Verdict Failure))
  | [], _ => []
  | line :: rest, c =>
    evalLine runtime line c :: responses runtime rest (evalLine runtime line c).state

/-- The console after lines. -/
def fed (runtime : Runtime π) (lines : List String) (c : Console) : Console :=
  lines.foldl (fun c line => (evalLine runtime line c).state) c

/-! ## Lines that leave a statement unfinished -/

/-- **A line that leaves a statement unfinished** is one more line in the buffer. It shows nothing,
and whatever the runtime would run is as good as any other. -/
theorem evalLine_of_buffer_ne_nil (h : (evalLine runtime line c).state.buffer ≠ []) :
    (evalLine runtime line c).state = c.add line ∧ (evalLine runtime line c).events = [] ∧
      ∀ other : Runtime π, other.compile = runtime.compile →
        evalLine other line c = evalLine runtime line c := by
  by_cases hadds : AddsTo c.buffer line
  · -- The runtimes only part where there is a statement to run.
    have hother :
        (∀ statement, runtime.compile (source (c.buffer ++ [line])) ≠ .ok (some statement)) →
        ∀ other : Runtime π, other.compile = runtime.compile →
          evalLine other line c = evalLine runtime line c := by
      intro hnone other hcompile
      rw [evalLine_of_addsTo hadds, evalLine_of_addsTo hadds, take_apply, take_apply, hcompile]
      rcases hresult : runtime.compile (source (c.buffer ++ [line])) with f | (_ | statement)
      · rfl
      · rfl
      · exact absurd hresult (hnone statement)
    rw [evalLine_of_addsTo hadds, take_apply] at h hother ⊢
    rcases hresult : runtime.compile (source (c.buffer ++ [line])) with f | (_ | statement)
    · rw [hresult] at h hother
      by_cases hrefused : f.isAny refusals = true
      · -- A refused statement is dropped.
        simp only [if_pos hrefused] at h
        rw [Act.map_apply] at h
        exact absurd (congrArg Prod.fst (refuse_keeps f c.discard)) h
      · simp only [if_neg hrefused] at hother ⊢
        exact ⟨trivial, trivial, hother fun statement => nofun⟩
    · rw [hresult] at hother
      exact ⟨rfl, rfl, hother fun statement => nofun⟩
    · -- A complete one has left the buffer before it is run.
      rw [hresult] at h
      exact absurd (congrArg Prod.fst (runStatement_keeps statement (accept (c.add line)))) h
  · obtain ⟨hcounts, -⟩ := counts_of_not_addsTo hadds
    rw [Bool.or_eq_true, List.isEmpty_iff] at hcounts
    rw [evalLine_of_not_addsTo hadds, Act.map_apply] at h
    exact absurd (congrArg Console.buffer (dispatch_state hcounts)) h

/-- **So do lines that leave one unfinished each.** -/
theorem responses_of_unfinished
    (h : ∀ r ∈ responses runtime lines c, r.state.buffer ≠ []) :
    fed runtime lines c = { c with buffer := c.buffer ++ lines } ∧
      (∀ r ∈ responses runtime lines c, r.events = []) ∧
      ∀ other : Runtime π, other.compile = runtime.compile →
        responses other lines c = responses runtime lines c := by
  -- by induction on the lines: the console after one of them differs by that line in the buffer
  induction lines generalizing c with
  | nil =>
    refine ⟨?_, ?_, fun other _ => rfl⟩
    · rw [List.append_nil]
      rfl
    · intro r hr
      cases hr
  | cons line rest ih =>
    obtain ⟨hline, hrest⟩ := List.forall_mem_cons.mp h
    obtain ⟨hstate, hevents, hother⟩ := evalLine_of_buffer_ne_nil hline
    obtain ⟨hfed, hshown, hothers⟩ := ih hrest
    refine ⟨?_, List.forall_mem_cons.mpr ⟨hevents, hshown⟩, ?_⟩
    · show fed runtime rest (evalLine runtime line c).state = _
      rw [hfed, hstate, add, List.append_assoc]
      rfl
    · intro other hcompile
      rw [responses, responses, hother other hcompile, hothers other hcompile]

/-! ## Lines that are given up -/

/-- What is shown when a line gives up the unfinished statement. -/
def clearingNotices : List Notice :=
  [.log .debug Log.commandChannel "command: name=!, args=''", .line "Input buffer cleared!"]

theorem evalLine_of_isClearing (h : isClearing line = true) :
    evalLine runtime line c = ⟨.ok .proceed, c.discard, clearingNotices⟩ := by
  have hadds : ¬AddsTo c.buffer line := by
    rintro ⟨hclear, -⟩
    exact Bool.false_ne_true (hclear.symm.trans h)
  rw [evalLine_of_not_addsTo hadds, Act.map_apply, dispatch, recognise_of_isClearing h]
  rfl

theorem evalEnd_of_buffer_ne_nil (h : c.buffer ≠ []) :
    evalEnd c = ⟨.ok .proceed, c.discard, []⟩ := by
  rw [evalEnd, Act.bind_apply, Act.current_apply, Run.andThen_ok, Run.after_nil, if_neg]
  · rfl
  · rw [List.isEmpty_iff]
    exact h

/-- **A console whose lines are given up is the one that it was before them.** -/
theorem discard_fed (hempty : c.buffer = [])
    (h : ∀ r ∈ responses runtime lines c, r.state.buffer ≠ []) :
    (fed runtime lines c).discard = c := by
  rw [(responses_of_unfinished h).1]
  exact discard_of_buffer_eq_nil hempty

end PromptLoop.Console
