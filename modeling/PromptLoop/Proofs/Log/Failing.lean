import PromptLoop.Failure.Access
import PromptLoop.Log.Router

/-!
# Calls that fail

A call of the router looks up the level first, takes its own handlers off, and opens the file last.
So a level that is unknown leaves the log as it was. A file that cannot be opened does not: by then
the level is the new one, and the handlers that the call was to replace are off and closed.

## Main definitions

* `Log.Router.own`, `Log.Router.others`: the handlers of the router itself, and those of others
* `Log.ownHandlers`: the handlers that a call attaches
* `Log.Router.rerouted`: the router that a call leaves when all goes well

## Main results

* `Log.configure_of_unknown`, `Log.configure_of_unopened`, `Log.configure_of_opened`: the three ways
  in which a call ends
* `Log.configure_ok_iff`: when all goes well
* `Log.failing_call`: which calls fail, and what they have changed by then
-/

namespace PromptLoop.Log

namespace Router

/-- The handlers of the router itself. -/
def own (r : Router) : List Handler := r.handlers.filter (·.isOwn)

/-- The handlers of others. -/
def others (r : Router) : List Handler := r.handlers.filter (!·.isOwn)

end Router

/-- The handlers that a call attaches: one for the error stream, and one for the file if a file is
named. -/
def ownHandlers (number : Nat) (path? : Option String) : List Handler :=
  ⟨number, some ownName, .errorStream⟩ ::
    path?.toList.map fun path => ⟨number + 1, some ownName, .file path⟩

/-- The router after a call for a level and a file: its own handlers are replaced. -/
def Router.rerouted (level : Nat) (path? : Option String) (r : Router) : Router where
  level := level
  handlers := r.others ++ ownHandlers r.issued path?
  closed := r.closed ++ r.own
  issued := r.issued + (ownHandlers r.issued path?).length

variable {opens : String → Except Failure Unit} {env : Environment} {level file : Option String}
  {r : Router} {number : Nat}

/-! ## The ways in which a call ends -/

/-- The level is looked up before anything is changed. -/
theorem configure_of_unknown (h : levelNumber? (levelName env level) = none) :
    configure opens env level file r = ⟨.error (unknownLevel (levelName env level)), r, []⟩ := by
  rw [configure, h]
  rfl

/-- The file is opened when the router's own handlers are off. -/
theorem configure_of_unopened (h : levelNumber? (levelName env level) = some number)
    {path : String} {f : Failure} (hpath : filePath env file = some path)
    (hf : opens path = .error f) :
    configure opens env level file r = ⟨.error f, { r.detachOwn with level := number }, []⟩ := by
  rw [configure, h]
  simp only [hpath, hf]
  rfl

/-- With a level that is known, and a file that can be opened if there is one, all goes well. -/
theorem configure_of_opened (h : levelNumber? (levelName env level) = some number)
    (hopens : ∀ path, filePath env file = some path → opens path = .ok ()) :
    configure opens env level file r =
      ⟨.ok (), r.rerouted number (filePath env file),
        (filePath env file).toList.map (Written.file · "")⟩ := by
  rw [configure, h]
  cases hpath : filePath env file with
  | none => rfl
  | some path =>
    -- The two handlers are attached one after the other.
    have hattached : (({ r.detachOwn with level := number } : Router).attachOwn
        .errorStream).attachOwn (.file path) = r.rerouted number (some path) := by
      simp [Router.attachOwn, Router.attach, Router.rerouted, Router.detachOwn, Router.others,
        Router.own, ownHandlers]
    simp only [hopens path hpath]
    exact congrArg (Run.mk (.ok ()) · [Written.file path ""]) hattached

/-- **All goes well just if the level is known and the file can be opened**, and then the router's
own handlers are replaced. -/
theorem configure_ok_iff {s : Router} :
    (configure opens env level file r).result = .ok () ∧
        (configure opens env level file r).state = s ↔
      ∃ number, levelNumber? (levelName env level) = some number ∧
        (∀ path, filePath env file = some path → opens path = .ok ()) ∧
        s = r.rerouted number (filePath env file) := by
  constructor
  · rintro ⟨hok, rfl⟩
    cases hlevel : levelNumber? (levelName env level) with
    | none =>
      rw [configure_of_unknown hlevel] at hok
      cases hok
    | some number =>
      have hopens : ∀ path, filePath env file = some path → opens path = .ok () := by
        intro path hpath
        cases hf : opens path with
        | error f =>
          rw [configure_of_unopened hlevel hpath hf] at hok
          cases hok
        | ok => rfl
      exact ⟨number, rfl, hopens, by rw [configure_of_opened hlevel hopens]⟩
  · rintro ⟨number, hlevel, hopens, rfl⟩
    rw [configure_of_opened hlevel hopens]
    exact ⟨rfl, rfl⟩

/-! ## What a call that fails has changed -/

/-- A call fails because its level is unknown, or else because its file cannot be opened. -/
theorem configure_error_iff {f : Failure} :
    (configure opens env level file r).result = .error f ↔
      (levelNumber? (levelName env level) = none ∧ f = unknownLevel (levelName env level)) ∨
      ∃ number path, levelNumber? (levelName env level) = some number ∧
        filePath env file = some path ∧ opens path = .error f := by
  cases hlevel : levelNumber? (levelName env level) with
  | none => simp [configure_of_unknown hlevel, eq_comm]
  | some number =>
    by_cases hopens : ∀ path, filePath env file = some path → opens path = .ok ()
    · rw [configure_of_opened hlevel hopens]
      refine iff_of_false nofun ?_
      rintro (⟨hnone, -⟩ | ⟨-, path, -, hpath, hf⟩)
      · cases hnone
      · rw [hopens path hpath] at hf
        cases hf
    · simp only [Classical.not_forall] at hopens
      obtain ⟨path, hpath, hunopened⟩ := hopens
      cases hf : opens path with
      | ok => exact absurd hf hunopened
      | error g => simp [configure_of_unopened hlevel hpath hf, hpath, hf, eq_comm]

/-- Without handlers of its own a router that takes them off is as it was, but for its level. -/
theorem detachOwn_eq_self_iff :
    { r.detachOwn with level := number } = r ↔ number = r.level ∧ r.own = [] := by
  constructor
  · intro h
    -- It closes its own handlers, so it has none if no more are closed than before.
    have hclosed : r.closed ++ r.own = r.closed := congrArg Router.closed h
    exact ⟨congrArg Router.level h, List.append_right_eq_self.mp hclosed⟩
  · rintro ⟨rfl, hown⟩
    have hothers : r.others = r.handlers := by
      refine List.filter_eq_self.mpr fun h hmem => ?_
      simpa using List.filter_eq_nil_iff.mp hown h hmem
    show Router.mk r.level r.others (r.closed ++ r.own) r.issued = r
    rw [hothers, hown, List.append_nil]

/-- **What a call that fails has changed.** It fails because the level is unknown, and then nothing
has changed. Or it fails because the file cannot be opened. By then the level is the new one, and
the router's own handlers are off and closed, with none in their place; those of others stay in
number and order. So the log is as it was only if the router had no handlers of its own, and that
level. -/
theorem failing_call (opens : String → Except Failure Unit) (env : Environment)
    (level file : Option String) (r : Router) :
    let run := configure opens env level file r
    let known := levelNumber? (levelName env level)
    (∀ f, run.result = .error f ↔
      (known = none ∧ f = unknownLevel (levelName env level)) ∨
      ∃ number path, known = some number ∧ filePath env file = some path ∧
        opens path = .error f) ∧
    (known = none → run.state = r ∧ run.events = []) ∧
    (∀ number f, known = some number → run.result = .error f →
      run.state.level = number ∧ run.state.handlers = r.others ∧
        run.state.closed = r.closed ++ r.own ∧ run.events = []) ∧
    ∀ f, run.result = .error f →
      (run.state = r ↔ known = none ∨ known = some r.level ∧ r.own = []) := by
  intro run known
  refine ⟨fun f => configure_error_iff, fun hnone => ?_, fun number f hnumber hf => ?_,
    fun f hf => ?_⟩
  · have hrun : run = ⟨.error _, r, []⟩ := configure_of_unknown hnone
    rw [hrun]
    exact ⟨rfl, rfl⟩
  · rcases configure_error_iff.mp hf with ⟨hnone, -⟩ | ⟨-, path, -, hpath, hopens⟩
    · cases hnumber.symm.trans hnone
    · have hrun : run = ⟨.error f, { r.detachOwn with level := number }, []⟩ :=
        configure_of_unopened hnumber hpath hopens
      rw [hrun]
      exact ⟨rfl, rfl, rfl, rfl⟩
  · -- Only the second way to fail has changed anything to compare.
    rcases configure_error_iff.mp hf with ⟨hnone, -⟩ | ⟨number, path, hnumber, hpath, hopens⟩
    · have hrun : run = ⟨.error _, r, []⟩ := configure_of_unknown hnone
      rw [hrun]
      exact iff_of_true rfl (.inl hnone)
    · have hrun : run = ⟨.error f, { r.detachOwn with level := number }, []⟩ :=
        configure_of_unopened hnumber hpath hopens
      have hknown : known = some number := hnumber
      rw [hrun, detachOwn_eq_self_iff, hknown]
      simp

/-- A log with a handler of the router itself and one of somebody else. -/
def sharedLog : Router where
  level := 20
  handlers := [⟨0, some ownName, .errorStream⟩, ⟨1, none, .elsewhere⟩]
  issued := 2

/-- A file that cannot be opened takes the router's own handler off that log. -/
theorem failing_call_unopened :
    let opens := fun path => Except.error (AccessFault.missing.failure path)
    let run := configure opens {} (some "debug") (some "none/a.log") sharedLog
    levelNumber? "debug" = some 10 ∧
      run.result = .error (AccessFault.missing.failure "none/a.log") ∧ run.state.level = 10 ∧
      run.state.handlers = [⟨1, none, .elsewhere⟩] ∧
      run.state.closed = [⟨0, some ownName, .errorStream⟩] ∧ run.state ≠ sharedLog := by
  intro opens run
  obtain ⟨hfails, -, hchanged, hsame⟩ :=
    failing_call opens {} (some "debug") (some "none/a.log") sharedLog
  have hlevel : levelNumber? "debug" = some 10 := by decide +kernel
  have hpath : filePath {} (some "none/a.log") = some "none/a.log" := by decide +kernel
  have hfail : run.result = .error (AccessFault.missing.failure "none/a.log") :=
    (hfails _).mpr (.inr ⟨10, _, hlevel, hpath, rfl⟩)
  obtain ⟨hnumber, hhandlers, hclosed, -⟩ := hchanged 10 _ hlevel hfail
  refine ⟨hlevel, hfail, hnumber, hhandlers, hclosed, fun hstate => ?_⟩
  rcases (hsame _ hfail).mp hstate with hnone | ⟨-, hown⟩
  · cases hlevel.symm.trans hnone
  · cases hown

end PromptLoop.Log
