import PromptLoop.Proofs.Console.Containment
import PromptLoop.Proofs.Session.Agreement

/-!
# What ends a session with a failure

A failure crosses the loop of a session from three places: the hooks before and after the turns, a
read that fails, and the evaluator. What a console fails with crosses it when the user asks for
that, and when it gets past the console.

## Main results

* `Session.turnsWithin_last`, `Session.opened_last`: the last of the reads ends the turns
* `Session.run?_eq_error`: where the failure of a session comes from
* `Session.contained`: what gets past a console, and what crosses the loop
-/

namespace PromptLoop

variable {ι δ σ π : Type} {runtime : Console.Runtime π} {f : Failure} {n : Nat}

/-- A read that hands the evaluator a line comes to the verdict on it. -/
theorem Reading.response_of_handed {setup : Setup ι δ σ} {ρ : Reading ι δ σ} {line : Option String}
    (h : ρ.calls setup = [.handed line]) : ρ.response setup = ρ.verdict setup line := by
  rw [Reading.calls] at h
  rw [Reading.response]
  -- Only a line that can be corrected, and a wish to end the session, are handed on.
  rcases hresult : ρ.result with g | (text | _ | _ | _)
  · rw [hresult] at h
    cases h
  · rw [hresult] at h
    rcases hcorrected : Session.corrected? setup ρ.start text with g | corrected
    · simp only [hcorrected] at h
      cases h
    · simp only [hcorrected] at h
      cases h
      simp only [hcorrected]
      rfl
  · rw [hresult] at h
    cases h
    rfl
  · rw [hresult] at h
    cases h
  · rw [hresult] at h
    cases h

/-- Where the evaluator can always drop unfinished input, a turn that fails has handed it nothing,
or fails by the verdict on what it has handed. -/
theorem Reading.response_eq_error {setup : Setup ι δ σ} {ρ : Reading ι δ σ}
    (hdiscard : (setup.evaluator.discard ρ.start.evaluator).result = .ok ())
    (h : ρ.response setup = .error f) :
    ρ.calls setup = [] ∨
      ∃ line, ρ.calls setup = [.handed line] ∧ ρ.verdict setup line = .error f := by
  rw [Reading.response] at h
  rw [Reading.calls]
  rcases hresult : ρ.result with g | (text | _ | _ | _)
  · exact .inl rfl
  · rw [hresult] at h
    rcases hcorrected : Session.corrected? setup ρ.start text with g | corrected
    · simp only [hcorrected]
      exact .inl trivial
    · simp only [hcorrected] at h ⊢
      exact .inr ⟨some corrected, rfl, h⟩
  · rw [hresult] at h
    exact .inr ⟨none, rfl, h⟩
  · rw [hresult] at h
    simp only [hdiscard] at h
    cases h
  · exact .inl rfl

/-- A verdict is a failure if it says so, or if there is none because the evaluator has failed. -/
theorem Reading.verdict_eq_error {setup : Setup ι δ σ} {ρ : Reading ι δ σ} {line : Option String}
    (h : ρ.verdict setup line = .error f) :
    (setup.evaluator.eval line ρ.start.evaluator).result = .ok (.raiseUp f) ∨
      (setup.evaluator.eval line ρ.start.evaluator).result = .error f := by
  rw [Reading.verdict] at h
  rcases hresult : (setup.evaluator.eval line ρ.start.evaluator).result with g | (_ | v | g)
  · rw [hresult] at h
    exact .inr (congrArg Except.error (Except.error.inj h))
  · rw [hresult] at h
    cases h
  · rw [hresult] at h
    cases h
  · rw [hresult] at h
    obtain rfl := Except.error.inj h
    exact .inl rfl

namespace Session

/-- **Turns that have come to an end have come to it by the last of their reads**, if the evaluator
always gives a prompt. -/
theorem turnsWithin_last {setup : Setup ι δ σ} {s : Session ι δ σ}
    (hprompt : ∀ t : Session ι δ σ, (reading? setup t).isSome = true)
    (h : (turnsWithin setup n s).result ≠ .ok none) :
    ∃ before now, reads setup n s = before ++ [now] ∧
      (turnsWithin setup n s).result = (now.response setup).map Turn.value? := by
  -- by induction on the turns: the one that does not go on is the last, and it has a read
  induction n generalizing s with
  | zero => exact absurd rfl h
  | succ n ih =>
    obtain ⟨ρ, hρ⟩ := Option.isSome_iff_exists.mp (hprompt s)
    obtain ⟨hresponse, -⟩ := turn_of_reading hρ
    rw [turnsWithin_succ] at h ⊢
    rw [reads, hρ]
    rcases hturn : turn setup s with ⟨f | (_ | v), t, es⟩
    · rw [hturn] at hresponse
      exact ⟨[], ρ, rfl, congrArg (Except.map Turn.value?) hresponse⟩
    · rw [hturn] at h
      obtain ⟨before, now, hreads, hnow⟩ := ih h
      exact ⟨ρ :: before, now, congrArg (ρ :: ·) hreads, hnow⟩
    · rw [hturn] at hresponse
      exact ⟨[], ρ, rfl, congrArg (Except.map Turn.value?) hresponse⟩

/-- **A session that ends, ends by the last of its reads**, if the evaluator always gives a prompt
and what comes before the first turn does not fail. -/
theorem opened_last {setup : Setup ι δ σ} {s : Session ι δ σ}
    (hprompt : ∀ t : Session ι δ σ, (reading? setup t).isSome = true)
    (hbegin : (begin setup s).result = .ok ()) (h : (opened setup n s).result ≠ .ok none) :
    ∃ before now, openedReads setup n s = before ++ [now] ∧
      (opened setup n s).result = (now.response setup).map Turn.value? := by
  rw [opened, Act.bind_apply, Run.andThen_result, hbegin] at h ⊢
  obtain ⟨before, now, hreads, hresult⟩ := turnsWithin_last hprompt h
  exact ⟨before, now, (openedReads_eq hbegin n).trans hreads, hresult⟩

/-- **Where the failure of a session comes from**, if the evaluator always gives a prompt: from what
comes before the first turn or after the last, or from the last read. -/
theorem run?_eq_error {setup : Setup ι δ σ} {s : Session ι δ σ}
    {r : Run Event (Session ι δ σ) Value}
    (hprompt : ∀ t : Session ι δ σ, (reading? setup t).isSome = true)
    (hrun : run? setup n s = some r) (hfailed : r.result = .error f) :
    (begin setup s).result = .error f ∨
      (finish setup (opened setup n s).state).result = .error f ∨
        ∃ before now, openedReads setup n s = before ++ [now] ∧
          now.response setup = .error f := by
  obtain ⟨ending, hending, hresult, -⟩ := run?_eq_some hrun
  rw [hfailed] at hresult
  rcases hfinish : (finish setup (opened setup n s).state).result with g | ⟨⟩
  · rw [hfinish] at hresult
    exact .inr (.inl (congrArg Except.error (Except.error.inj hresult.symm)))
  · -- What comes after the turns is done, so it is they that have failed.
    rw [hfinish] at hresult
    obtain rfl : ending = .error f := hresult.symm
    have hopened : (opened setup n s).result = .error f := hending
    rcases hbegin : (begin setup s).result with g | ⟨⟩
    · rw [opened, Act.bind_apply, Run.andThen_result, hbegin] at hopened
      exact .inl (congrArg Except.error (Except.error.inj hopened))
    · have hended : (opened setup n s).result ≠ .ok none := by
        intro hended
        cases hopened.symm.trans hended
      obtain ⟨before, now, hreads, hresult⟩ := opened_last hprompt hbegin hended
      refine .inr (.inr ⟨before, now, hreads, ?_⟩)
      rw [hopened] at hresult
      rcases hnow : now.response setup with g | turn
      · rw [hnow] at hresult
        exact congrArg Except.error (Except.error.inj hresult.symm)
      · rw [hnow] at hresult
        cases hresult

/-- **What gets past a console, and what crosses the loop.** The compiler, statements and
expressions fail with what programs are expected to handle, whatever that is. A line then has a
verdict, unless the compiler fails without refusing the statement, which leaves the line in the
buffer, or a class is to be raised that cannot be raised alone, which leaves the console as it was,
or the console is to tell of a failure that cannot be written; and the verdict leaves nothing
unfinished but what compiles to nothing yet. So where a session has failed, and not in what comes
before its turns or after them, the last read handed the console nothing, or the console was told to
raise that failure, or it got past the console. -/
theorem contained (hordinary : runtime.Ordinary) :
    (∀ (c : Console) (line? : Option String),
      (∀ verdict, (Console.eval runtime line? c).result = .ok verdict →
        Console.Settled runtime (Console.eval runtime line? c).state) ∧
      ∀ f, ((Console.eval runtime line? c).result = .error f ↔ Console.Escapes runtime c line? f) ∧
        (Console.Escapes runtime c line? f → f.isA .exception = true) ∧
        ∀ line, line? = some line →
          (Console.CompilerFails runtime c line f →
            (Console.eval runtime line? c).state = c.add line) ∧
          (Console.ClassFails runtime c line f → (Console.eval runtime line? c).state = c) ∧
          ∀ g, (Console.RefusalUntold runtime c line g →
              (Console.eval runtime line? c).state = { c.discard with lastFailure := some g }) ∧
            (Console.ArgumentUntold runtime c line g → (Console.eval runtime line? c).state = c)) ∧
    ∀ (setup : Setup ι δ (Hooked ι Console)) (n : Nat) (s : Session ι δ (Hooked ι Console))
      (r : Run Event (Session ι δ (Hooked ι Console)) Value) (f : Failure),
      setup.evaluator = (Console.interpreter runtime).withHooks → run? setup n s = some r →
        r.result = .error f →
          (begin setup s).result = .error f ∨
          (finish setup (opened setup n s).state).result = .error f ∨
          ∃ before now, openedReads setup n s = before ++ [now] ∧
            (now.calls setup = [] ∨ ∃ line?, now.calls setup = [.handed line?] ∧
              ((setup.evaluator.eval line? now.start.evaluator).result = .ok (.raiseUp f) ∨
                Console.Escapes runtime now.start.evaluator.core line? f)) := by
  refine ⟨fun c line? => ⟨fun verdict => Console.eval_settled, fun f => ?_⟩, ?_⟩
  · refine ⟨Console.eval_eq_error_iff hordinary, Console.Escapes.isA_exception hordinary, ?_⟩
    rintro line rfl
    exact ⟨Console.CompilerFails.state, Console.ClassFails.state, fun g =>
      ⟨Console.RefusalUntold.state, Console.ArgumentUntold.state⟩⟩
  · intro setup n s r f hconsole hrun hfailed
    -- A console always gives a prompt and can always drop what is unfinished.
    have hprompt : ∀ t : Session ι δ (Hooked ι Console), (reading? setup t).isSome = true := by
      intro t
      rw [reading?_of_prompt (console_prompt hconsole t)]
      rfl
    refine (run?_eq_error hprompt hrun hfailed).imp_right fun h => h.imp_right ?_
    rintro ⟨before, now, hreads, hnow⟩
    refine ⟨before, now, hreads, ?_⟩
    have hdiscard : (setup.evaluator.discard now.start.evaluator).result = .ok () := by
      rw [hconsole]
      rfl
    refine (Reading.response_eq_error hdiscard hnow).imp_right ?_
    rintro ⟨line?, hcalls, hverdict⟩
    refine ⟨line?, hcalls, (Reading.verdict_eq_error hverdict).imp_right fun h => ?_⟩
    rw [hconsole] at h
    exact (Console.eval_eq_error_iff hordinary).mp h

/-- What looking up a number of too many digits fails with: it says what cannot be written. -/
def hugeKey : Failure := .raised .key (some .enormous)

/-- A runtime whose compiler runs out of memory on one text, and whose expressions name classes. -/
def shallow : Console.Runtime Unit where
  compile text := if text = "deep" then .error (.raised .memory none) else .ok (some ())
  exec _ _ := pure .finished
  evaluate name _ :=
    match FailureKind.ofName? name with
    | some kind => .ok (.failureClass kind)
    | none => .error (if name = "huge" then hugeKey else .raised .unknownName none)
  candidates _ _ := []

theorem shallow_ordinary : shallow.Ordinary where
  compile := by
    intro text f h
    change (if text = "deep" then .error (.raised .memory none) else .ok (some ()) :
      Except Failure (Option Unit)) = _ at h
    split at h
    · obtain rfl := Except.error.inj h
      rfl
    · cases h
  exec h := nomatch h
  evaluate := by
    intro name scope f h
    change (match FailureKind.ofName? name with
      | some kind => .ok (.failureClass kind)
      | none => .error (if name = "huge" then hugeKey else .raised .unknownName none) :
      Except Failure Value) = _ at h
    split at h
    · cases h
    · obtain rfl := Except.error.inj h
      split <;> rfl

/-- A console at a desk. -/
def shallowSetup : Setup Source Desk (Hooked Source Console) where
  evaluator := (Console.interpreter shallow).withHooks
  inputs := Desk.inputs
  config := .standard
  screen := {}
  family := .byCell

/-- A session that reads the text on which the compiler runs out of memory. -/
def deepSession : Session Source Desk (Hooked Source Console) :=
  initial shallowSetup ⟨{}, {}⟩ ⟨.scripted .withPrompt "scripted" [.answer (some "deep")], {}⟩

/-- The line on which the compiler fails ends the session and would stay in the buffer; a class that
cannot be raised alone is not answered either, and neither is an argument that fails with what
cannot be written. -/
theorem contained_deepSession :
    shallow.Ordinary ∧
    (∃ r, run? shallowSetup 1 deepSession = some r ∧ r.result = .error (.raised .memory none) ∧
      ∃ now, openedReads shallowSetup 1 deepSession = [now] ∧
        Console.Escapes shallow now.start.evaluator.core (some "deep") (.raised .memory none)) ∧
    (Console.eval shallow (some "deep") {}).state.buffer = ["deep"] ∧
    (∃ f, f.kind = .type ∧ Console.Escapes shallow {} (some "raise-up UnicodeDecodeError") f) ∧
    (Console.eval shallow (some "exit huge") {}).result = .error tooManyDigits := by
  obtain ⟨hconsole, hsession⟩ := contained (ι := Source) (δ := Desk) shallow_ordinary
  refine ⟨shallow_ordinary, ⟨_, rfl, rfl, ?_⟩, ?_, ?_, ?_⟩
  · obtain ⟨now, hnow, hcalls, hresult⟩ : ∃ now, openedReads shallowSetup 1 deepSession = [now] ∧
        now.calls shallowSetup = [.handed (some "deep")] ∧
          (shallowSetup.evaluator.eval (some "deep") now.start.evaluator).result =
            .error (.raised .memory none) := ⟨_, rfl, rfl, rfl⟩
    refine ⟨now, hnow, ?_⟩
    -- The session fails neither before its turn nor after it, so it is the read that is to blame.
    obtain hbegin | hfinish | ⟨before, last, hreads, hlast⟩ :=
      hsession shallowSetup 1 deepSession _ _ rfl rfl rfl
    · cases hbegin
    · cases hfinish
    · have hlists : [] ++ [now] = before ++ [last] := hnow.symm.trans hreads
      obtain rfl := List.singleton_inj.mp (List.append_inj' hlists rfl).2
      rw [hcalls] at hlast
      obtain hnone | ⟨line?, hline, hraised | hescapes⟩ := hlast
      · cases hnone
      · cases hline
        cases hresult.symm.trans hraised
      · cases hline
        exact hescapes
  · have hfails : Console.CompilerFails shallow {} "deep" (.raised .memory none) :=
      ⟨⟨by decide +kernel, fun _ => by decide +kernel⟩, rfl, by decide⟩
    rw [(((hconsole {} (some "deep")).2 _).2.2 "deep" rfl).1 hfails]
    rfl
  · exact ⟨_, rfl, ((hconsole _ _).2 _).1.mp rfl⟩
  · have huntold : Console.ArgumentUntold shallow {} "exit huge" hugeKey :=
      ⟨rfl, .exit, "huge", by decide +kernel, rfl, by decide, rfl, rfl, by decide +kernel⟩
    exact ((hconsole {} (some "exit huge")).2 _).1.mpr
      ⟨"exit huge", rfl, .inr (.inr ⟨rfl, hugeKey, .inr huntold⟩)⟩

end Session

end PromptLoop
