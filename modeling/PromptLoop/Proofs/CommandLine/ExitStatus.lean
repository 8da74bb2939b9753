import PromptLoop.Proofs.CommandLine.Starting
import PromptLoop.Proofs.Session.Containment
import PromptLoop.Proofs.Session.Lifecycle

/-!
# The exit status of the command

A session of the command ends by the last of its reads: the console stops it there, raises a
failure, or the input has run out. The exit status and what is written last tell which.

## Main definitions

* `CommandLine.shown`: the ending of a command that shows the traceback of a failure

## Main results

* `CommandLine.endingOf_eq_shown_iff`: the failures whose traceback is shown
* `CommandLine.endingOf_status`: the status that a failure makes
* `CommandLine.conclude_of_literal?`, `CommandLine.conclude_of_unwritten`: what a value makes
* `CommandLine.startSession_last`: the session of the command ends by the last of its reads
* `CommandLine.exit_status`: what the command makes of that
-/

namespace PromptLoop.CommandLine

/-! ## What an ending makes of the status -/

/-- The ending of a command that shows the traceback of a failure. -/
def shown (f : Failure) : Ending where
  output := (Write.traceback f).text
  raised := some exitWithFault

theorem traceback_ne_empty (f : Failure) : (Write.traceback f).text ≠ "" := by
  intro h
  have hlength : (Write.traceback f).text.length = 0 := congrArg String.length h
  rw [Write.text, String.length_append, String.length_append] at hlength
  exact absurd (Nat.eq_zero_of_add_eq_zero_left hlength) (by decide)

/-- **The failures whose traceback is shown** are those that programs are expected to handle. -/
theorem endingOf_eq_shown_iff (f : Failure) : endingOf f = shown f ↔ f.isA .exception = true := by
  constructor
  · intro h
    rw [endingOf] at h
    split at h
    · assumption
    · -- Neither an abort nor a failure that passes writes anything on the standard output.
      split at h <;> exact absurd (congrArg Ending.output h).symm (traceback_ne_empty f)
  · intro h
    rw [endingOf, if_pos h, shown]

/-- An exit is a class, and what it is raised with is its code. -/
theorem isA_systemExit_iff {f : Failure} :
    f.isA .systemExit = true ↔ ∃ argument, f = .raised .systemExit argument := by
  constructor
  · intro h
    rcases f with ⟨kind, argument⟩ | ⟨octets, start, stop, reason⟩
    · refine ⟨argument, ?_⟩
      cases kind <;> first | rfl | cases h
    · cases h
  · rintro ⟨argument, rfl⟩
    rfl

/-- **The status that a failure makes** is 1, but for exits with a number or without a code. -/
theorem endingOf_status (f : Failure) :
    (∀ argument, f = .raised .systemExit argument →
      exitStatus (endingOf f).raised = (codeStatus? (argument.getD .null)).getD 1) ∧
    (f.isA .systemExit = false → exitStatus (endingOf f).raised = 1) := by
  constructor
  · rintro argument rfl
    rfl
  · intro hexit
    rw [endingOf]
    split
    · rfl
    · split
      · rfl
      · rw [exitStatus, exitCode?, if_neg (Bool.eq_false_iff.mp hexit)]
        rfl

/-- The failures that leave no trace in the status are exits, without a code or with one that
counts as 0. -/
theorem endingOf_status_eq_zero_iff (f : Failure) :
    exitStatus (endingOf f).raised = 0 ↔
      ∃ argument, f = .raised .systemExit argument ∧
        codeStatus? (argument.getD .null) = some 0 := by
  constructor
  · intro h
    cases hexit : f.isA .systemExit with
    | false => exact absurd (((endingOf_status f).2 hexit).symm.trans h) Nat.one_ne_zero
    | true =>
      obtain ⟨argument, rfl⟩ := isA_systemExit_iff.mp hexit
      refine ⟨argument, rfl, ?_⟩
      rw [(endingOf_status _).1 argument rfl] at h
      cases hcode : codeStatus? (argument.getD .null) with
      | none =>
        rw [hcode] at h
        exact absurd h Nat.one_ne_zero
      | some status =>
        rw [hcode] at h
        exact congrArg some h
  · rintro ⟨argument, rfl, hcode⟩
    rw [(endingOf_status _).1 argument rfl, hcode]
    rfl

/-- A value is echoed unless it is nothing, and leaves no trace in the status. -/
theorem conclude_of_literal? {v : Value} {text : String} (h : v.literal? = some text) :
    conclude (.ok v) = { output := if v = .null then "" else text ++ "\n" } := by
  cases v <;> simp [conclude, h]

/-- A value that cannot be written makes the command fail. -/
theorem conclude_of_unwritten {v : Value} (h : v.literal? = none) :
    conclude (.ok v) = { raised := some tooManyDigits } := by
  cases v with
  | null => cases h
  | _ => simp [conclude, h]

/-! ## What a session makes of it -/

section

variable {π : Type} (runtime : Console.Runtime π) (inv : Invocation)

/-- **The session of the command ends by the last of its reads**, as what follows from that read
says. -/
theorem startSession_last (config : Config) (source : Option Source)
    {r : Run Event (Session Source Desk (Hooked Source Console)) Value}
    (h : let s := startSession runtime inv config source
      Session.run? (commandSetup runtime inv config) (turnLimit s) s = some r) :
    let setup := commandSetup runtime inv config
    let s := startSession runtime inv config source
    ∃ before now, Session.openedReads setup (turnLimit s) s = before ++ [now] ∧
      (∀ f, now.response setup = .error f → r.result = .error f) ∧
      ∀ v, now.response setup = .ok (.done v) → r.result = .ok v := by
  intro setup s
  -- No hooks are registered, so it is the turns that end the session.
  have hordinary : ∀ hook ∈ s.evaluator.registered, hook.FailsOrdinarily := nofun
  have hwritten : ∀ hook ∈ s.evaluator.registered, hook.FailsInWriting := nofun
  obtain ⟨hbegin, hopened⟩ :=
    Session.run?_of_ordinary (Console.interpreter runtime) rfl hordinary hwritten h
  have hprompt : ∀ t, (Session.reading? setup t).isSome = true := by
    intro t
    rw [Session.reading?_of_prompt (Session.console_prompt rfl t)]
    rfl
  have hended : (Session.opened setup (turnLimit s) s).result ≠ .ok none := by
    rw [hopened]
    cases r.result <;> exact nofun
  obtain ⟨before, now, hreads, hresult⟩ := Session.opened_last hprompt hbegin hended
  rw [hopened] at hresult
  generalize r.result = ending at hresult ⊢
  refine ⟨before, now, hreads, ?_, ?_⟩
  · intro f hnow
    rw [hnow] at hresult
    rcases ending with g | v
    · exact congrArg Except.error (Except.error.inj hresult)
    · cases hresult
  · intro v hnow
    rw [hnow] at hresult
    rcases ending with g | w
    · cases hresult
    · exact congrArg Except.ok (Option.some.inj (Except.ok.inj hresult))

/-- **The exit status tells how the session has ended.** A command that comes to its session ends
with it, by the last of its reads. A failure that the console raises there ends the command with its
traceback and status 1 just if programs are expected to handle it. Of the others, exits end it with
the status that their code gives, and all but those have their mark in the status. A value ends it
with status 0 and is echoed unless it is nothing, but one that cannot be written makes the command
fail. Input that has run out ends it with status 0, without a word. -/
theorem exit_status {opens : String → Except Failure Unit} {start : Start}
    (h : prepare opens inv = .ok start) :
    let setup := commandSetup runtime inv start.config
    let s := startSession runtime inv start.config start.source
    ∃ r before now conduct, Session.run? setup (turnLimit s) s = some r ∧
      Session.openedReads setup (turnLimit s) s = before ++ [now] ∧
      perform runtime opens inv = some conduct ∧
      conduct = conductOf inv start.router start.written (performed start.source r) ∧
      (∀ line f, now.calls setup = [.handed line] →
        (setup.evaluator.eval line now.start.evaluator).result = .ok (.raiseUp f) →
          conclude r.result = endingOf f ∧
          (conclude r.result = shown f ∧ conduct.exit.status = 1 ↔ f.isA .exception = true) ∧
          (∀ argument, f = .raised .systemExit argument →
            conclude r.result = { raised := some f } ∧
            conduct.exit.status = (codeStatus? (argument.getD .null)).getD 1) ∧
          (conduct.exit.status = 0 ↔ ∃ argument, f = .raised .systemExit argument ∧
            codeStatus? (argument.getD .null) = some 0)) ∧
      (∀ line v, now.calls setup = [.handed line] →
        (setup.evaluator.eval line now.start.evaluator).result = .ok (.stop v) →
          (∀ text, v.literal? = some text →
            conclude r.result = { output := if v = .null then "" else text ++ "\n" } ∧
            conduct.exit.status = 0) ∧
          (v.literal? = none →
            conclude r.result = { raised := some tooManyDigits } ∧ conduct.exit.status = 1)) ∧
      (now.result = .ok .noMoreInput → conclude r.result = {} ∧ conduct.exit.status = 0) := by
  intro setup s
  obtain ⟨r, hr, hperform⟩ := perform_of_prepare runtime inv h
  obtain ⟨before, now, hreads, hfails, hstops⟩ :=
    startSession_last runtime inv start.config start.source hr
  -- Where the console is handed a line, it is its verdict that the session ends by.
  have hresponse : ∀ line verdict, now.calls setup = [.handed line] →
      (setup.evaluator.eval line now.start.evaluator).result = .ok verdict →
        now.response setup = Session.Turn.ofVerdict verdict := by
    intro line verdict hcalls hverdict
    rw [Reading.response_of_handed hcalls, Reading.verdict, hverdict]
    rfl
  let conduct := conductOf inv start.router start.written (performed start.source r)
  have hstatus : conduct.exit.status = exitStatus (conclude r.result).raised := rfl
  refine ⟨r, before, now, conduct, hr, hreads, hperform, rfl, ?_, ?_, ?_⟩
  · intro line f hcalls hraised
    have hend : conclude r.result = endingOf f := by
      rw [hfails f (hresponse line _ hcalls hraised)]
      rfl
    rw [hstatus, hend]
    refine ⟨rfl, ?_, ?_, endingOf_status_eq_zero_iff f⟩
    · rw [← endingOf_eq_shown_iff, and_iff_left_iff_imp]
      intro hshown
      rw [hshown]
      rfl
    · rintro argument rfl
      exact ⟨rfl, rfl⟩
  · intro line v hcalls hstopped
    rw [hstatus, hstops v (hresponse line _ hcalls hstopped)]
    refine ⟨fun text htext => ?_, fun hunwritten => ?_⟩
    · rw [conclude_of_literal? htext]
      exact ⟨rfl, rfl⟩
    · rw [conclude_of_unwritten hunwritten]
      exact ⟨rfl, rfl⟩
  · intro hdry
    have hnothing : now.response setup = .ok (.done .null) := by
      rw [Reading.response, hdry]
    rw [hstatus, hstops .null hnothing]
    exact ⟨rfl, rfl⟩

end

/-- A command without arguments that is told to raise an exit without a code. -/
def toldToExit : Invocation := { args := [], stdin := "raise-up SystemExit\n".toList }

/-- The start of a command without arguments. -/
def bareStart : Start where
  options := {}
  config := { Config.standard with indentWidth := 4, rules := .colonBlock, width_pos := by decide }
  router :=
    { level := 30
      handlers := [{ serial := 0, name := some Log.ownName, target := .errorStream }]
      issued := 1 }
  written := []
  source := none

/-- An exit without a code that the console is told to raise leaves no trace: the command ends with
status 0, and writes nothing at the end. -/
theorem exit_status_toldToExit :
    prepare (fun _ => .ok ()) toldToExit = .ok bareStart ∧
      ∃ r conduct, perform Session.shallow (fun _ => .ok ()) toldToExit = some conduct ∧
        conduct = conductOf toldToExit bareStart.router [] (performed none r) ∧
        conclude r.result = { raised := some (.raised .systemExit none) } ∧
        conduct.exit.status = 0 ∧
        conclude r.result ≠ shown (.raised .systemExit none) := by
  have hprepare : prepare (fun _ => .ok ()) toldToExit = .ok bareStart := rfl
  refine ⟨hprepare, ?_⟩
  obtain ⟨r, before, now, conduct, -, hreads, hperform, hconduct, hraised, -⟩ :=
    exit_status Session.shallow toldToExit hprepare
  let setup := commandSetup Session.shallow toldToExit bareStart.config
  let s := startSession Session.shallow toldToExit bareStart.config bareStart.source
  obtain ⟨last, hlast, hcalls, hverdict⟩ : ∃ last,
      Session.reading? setup (Session.begin setup s).state = some last ∧
      last.calls setup = [.handed (some "raise-up SystemExit")] ∧
      (setup.evaluator.eval (some "raise-up SystemExit") last.start.evaluator).result =
        .ok (.raiseUp (.raised .systemExit none)) :=
    ⟨_, Session.reading?_of_prompt (Session.console_prompt rfl _), by decide +kernel, rfl⟩
  have hend : last.response setup ≠ .ok .again := by
    rw [Reading.response_of_handed hcalls, Reading.verdict, hverdict]
    intro h
    cases h
  -- The read ends the session, so there is no need to compute what would come after it.
  have hlimit : turnLimit s = toldToExit.stdin.length + 3 + 1 := rfl
  have honly : Session.openedReads setup (turnLimit s) s = [last] := by
    rw [Session.openedReads_eq rfl, hlimit]
    exact Session.reads_of_ended hlast hend _
  have hlists : [] ++ [last] = before ++ [now] := honly.symm.trans hreads
  obtain rfl := List.singleton_inj.mp (List.append_inj' hlists rfl).2
  obtain ⟨hends, hshown, -, hzero⟩ := hraised _ _ hcalls hverdict
  have hstatus : conduct.exit.status = 0 := hzero.mpr ⟨none, rfl, rfl⟩
  refine ⟨r, conduct, hperform, hconduct, hends, hstatus, fun h => ?_⟩
  rw [h] at hends
  exact traceback_ne_empty _ (congrArg Ending.output hends)

end PromptLoop.CommandLine
