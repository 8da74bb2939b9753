import PromptLoop.Proofs.Recovery.Fallback

/-!
# The second end of input

When the input has come to its end once more, there is nothing left to read. Yet the supply is asked
for another source before the read gives up. So giving up is one thing that may come of it: a supply
that fails there makes the read fail, and what becomes of that failure is up to the policy around.

## Main definitions

* `Policy.EndsTwice`: an attempt that comes to the end of its input, and to that of a fresh source

## Main results

* `Policy.EndsTwice.onEndOfInput_eq`: no attempt is made any more, the supply is asked once more
* `Policy.second_end_of_input`: what comes of it, whatever the supply does then
-/

namespace PromptLoop

variable {ι δ : Type} {inputs : Inputs ι δ} {config : Config} {attempt : Attempt ι δ}
  {i j k : Intake ι δ} {f : Failure} {text : String} {supply : δ} {es : List ReadEvent}
  {cs : List SourceEvent}

open Attempt (switchover)

open Standing (replacement exhaustion)

namespace Policy

/-- An attempt comes to the end of its input, the supply yields a source in its place, and the next
attempt comes to the end of that one's input: where this leaves the intake, and what it shows. -/
inductive EndsTwice (inputs : Inputs ι δ) (attempt : Attempt ι δ) (i : Intake ι δ) :
    Intake ι δ → List ReadEvent → Prop
  | intro {f g : Failure} {j k : Intake ι δ} {next : ι} {supply : δ} {es ds : List ReadEvent}
      {cs : List SourceEvent} (first : attempt i = ⟨.error f, j, es⟩)
      (first_end : f.isA .endOfFile = true)
      (fresh : inputs.fresh j.supply = ⟨.ok next, supply, cs⟩)
      (second : attempt ⟨next, supply⟩ = ⟨.error g, k, ds⟩)
      (second_end : g.isA .endOfFile = true) :
      EndsTwice inputs attempt i k
        (es ++ .requested :: (cs.map .source ++ [switchover inputs j.source next]) ++
          [replacement inputs j ⟨next, supply⟩] ++ ds)

/-- After the second end of input only the supply is left to be asked. -/
theorem EndsTwice.onEndOfInput_eq (h : EndsTwice inputs attempt i k es) :
    onEndOfInput inputs attempt i = (exhausted inputs k).after es := by
  obtain ⟨hfirst, hfirst_end, hfresh, hsecond, hsecond_end⟩ := h
  rw [Standing.onEndOfInput_of_end_ok hfirst hfirst_end (Attempt.refill_of_ok hfresh), hsecond,
    Run.rescue_error, catching, if_pos hsecond_end, Run.after_after]

/-! ## What the policy for read errors makes of a failure -/

/-- A failure that is not to be rescued passes. -/
theorem onReadError_of_not_rescued (h : attempt i = ⟨.error f, j, es⟩)
    (hf : config.rescues f = false) :
    onReadError inputs config attempt i = ⟨.error f, j, es⟩ := by
  rw [onReadError]
  cases config.maxReadRetries.toNat - 1 <;>
    rw [retrying, Act.rescue_apply, h, Run.rescue_error, hf, if_neg Bool.false_ne_true]

/-- One that cannot be reported makes way for what is raised in its place. -/
theorem onReadError_of_unwritten (h : attempt i = ⟨.error f, j, es⟩) (hf : config.rescues f = true)
    (htext : f.text? = none) :
    onReadError inputs config attempt i = ⟨.error tooManyDigits, j, es⟩ := by
  rw [onReadError]
  -- The report is what the policy does first, however many tries are left.
  cases config.maxReadRetries.toNat - 1 <;>
    rw [retrying, Act.rescue_apply, h, Run.rescue_error, if_pos hf, Act.bind_apply,
      reportFailure_of_unwritten htext, Run.andThen_error, Run.after, List.append_nil]

/-- The only failure that is tolerated is reported, and the read gives up. -/
theorem onReadError_of_last (h : attempt i = ⟨.error f, j, es⟩) (hf : config.rescues f = true)
    (htext : f.text? = some text) (hbudget : config.budget = 1) :
    onReadError inputs config attempt i =
      ⟨.ok .noMoreInput, j,
        es ++ (failureReport inputs config 1 j.source f text ++
          (reportFatal inputs j).events)⟩ := by
  have hleft : config.maxReadRetries.toNat - 1 = 0 := Nat.sub_eq_of_eq_add hbudget
  rw [onReadError, hleft, retrying, Act.rescue_apply, h, Run.rescue_error, if_pos hf,
    Act.bind_apply, reportFailure_of_text? htext]
  rfl

/-- Another failure is reported, and the attempts start anew. -/
theorem onReadError_of_rescued {left : Nat} (h : attempt i = ⟨.error f, j, es⟩)
    (hf : config.rescues f = true) (htext : f.text? = some text)
    (hbudget : config.budget = left + 2) :
    onReadError inputs config attempt i =
      (retrying inputs config attempt 1 left j).after
        (es ++ failureReport inputs config 1 j.source f text) := by
  have hleft : config.maxReadRetries.toNat - 1 = left + 1 := Nat.sub_eq_of_eq_add hbudget
  rw [onReadError, hleft, retrying, Act.rescue_apply, h, Run.rescue_error, if_pos hf,
    Act.bind_apply, reportFailure_of_text? htext]
  show ((retrying inputs config attempt 1 left j).after _).after es = _
  rw [Run.after_after]

/-! ## The supply is asked once more -/

theorem exhausted_of_fresh {next : ι} (h : inputs.fresh k.supply = ⟨.ok next, supply, cs⟩) :
    exhausted inputs k =
      ⟨.ok .noMoreInput, ⟨next, supply⟩,
        .requested :: (cs.map .source ++ [switchover inputs k.source next, exhaustion])⟩ := by
  rw [Standing.exhausted_of_ok (Attempt.refill_of_ok h), List.cons_append, List.append_assoc]
  rfl

variable (config) in
/-- **A second end of input.** No attempt is made any more, but the supply is asked for a source
once more, and the read gives up exactly if it yields one. If the supply fails, so does the read,
with the source that has run dry still in place; around it, the policy for read errors lets that
failure pass, or reports it as a failed read, and then gives up for that reason or makes all the
attempts again; where what it says cannot be written, that is raised in place of a report. -/
theorem second_end_of_input (h : EndsTwice inputs attempt i k es) :
    let read := onEndOfInput inputs attempt i
    let call := inputs.fresh k.supply
    let seen := es ++ .requested :: call.events.map .source
    let left : Intake ι δ := { k with supply := call.state }
    read.result = call.result.map (fun _ => .noMoreInput) ∧
      (∀ next, call.result = .ok next →
        read = ⟨.ok .noMoreInput, ⟨next, call.state⟩,
          seen ++ [switchover inputs k.source next, exhaustion]⟩) ∧
      ∀ f, call.result = .error f →
        let guarded := onReadError inputs config (onEndOfInput inputs attempt) i
        let report := failureReport inputs config 1 left.source f
        read = ⟨.error f, left, seen⟩ ∧
          (config.rescues f = false → guarded = ⟨.error f, left, seen⟩) ∧
          (config.rescues f = true → f.text? = none →
            guarded = ⟨.error tooManyDigits, left, seen⟩) ∧
          ∀ text, config.rescues f = true → f.text? = some text →
            (config.budget = 1 →
              guarded = ⟨.ok .noMoreInput, left,
                seen ++ (report text ++ (reportFatal inputs left).events)⟩) ∧
            ∀ more, config.budget = more + 2 →
              guarded = (retrying inputs config (onEndOfInput inputs attempt) 1 more left).after
                (seen ++ report text) := by
  intro read call seen left
  -- All that remains of the read is one call of the supply.
  have hread : read = (exhausted inputs k).after es := h.onEndOfInput_eq
  rcases hcall : inputs.fresh k.supply with ⟨g | next, supply, cs⟩
  · have hfailed : read = ⟨.error g, left, seen⟩ := by
      rw [hread, Standing.exhausted_of_error (Attempt.refill_of_error hcall)]
      simp only [Run.after, seen, left, call, hcall]
    have hresult : call.result = .error g := congrArg Run.result hcall
    refine ⟨?_, fun next hok => ?_, fun f hf => ?_⟩
    · rw [hfailed, hresult]
      rfl
    · cases hresult.symm.trans hok
    · obtain rfl : g = f := Except.error.inj (hresult.symm.trans hf)
      refine ⟨hfailed, onReadError_of_not_rescued hfailed, onReadError_of_unwritten hfailed,
        fun text hrescued htext => ⟨onReadError_of_last hfailed hrescued htext, fun more => ?_⟩⟩
      exact onReadError_of_rescued hfailed hrescued htext
  · have hgaveUp : read = ⟨.ok .noMoreInput, ⟨next, call.state⟩,
        seen ++ [switchover inputs k.source next, exhaustion]⟩ := by
      rw [hread, exhausted_of_fresh hcall]
      simp only [Run.after, seen, call, hcall, List.append_assoc, List.cons_append]
    have hresult : call.result = .ok next := congrArg Run.result hcall
    refine ⟨?_, fun other hok => ?_, fun f hf => ?_⟩
    · rw [hgaveUp, hresult]
      rfl
    · obtain rfl : next = other := Except.ok.inj (hresult.symm.trans hok)
      exact hgaveUp
    · cases hresult.symm.trans hf

/-- Both sources are empty, and nothing is left to put in their place: the read fails with what the
supply says of it. -/
theorem second_end_of_input_nothingLeft :
    let noMore : Failure := .saying .lookup "no more"
    let empty (name : String) : Source := .scripted .withPrompt name []
    let attempt := Attempt.ask Desk.inputs (fun _ => []) "> "
    let i : Intake Source Desk :=
      ⟨empty "scripted", { fallbacks := some [.source (empty "first"), .failure noMore] }⟩
    (∃ k es, EndsTwice Desk.inputs attempt i k es) ∧
      (onEndOfInput Desk.inputs attempt i).result = .error noMore := by
  intro noMore empty attempt i
  have hends : EndsTwice Desk.inputs attempt i _ _ := .intro rfl rfl rfl rfl rfl
  refine ⟨⟨_, _, hends⟩, ?_⟩
  exact (second_end_of_input .standard hends).1

end Policy

end PromptLoop
