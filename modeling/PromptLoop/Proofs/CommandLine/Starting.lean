import PromptLoop.CommandLine.Run
import PromptLoop.Proofs.Session.Ending

/-!
# How the command comes to its session

Before its session the command looks at its arguments, its settings and the file that is named, and
nothing that would run code has a part in that. Its session then ends: no hooks are registered for
it, and its input is finite.

## Main definitions

* `CommandLine.Start`: what the command has come to before its session
* `CommandLine.Invocation.options?`: the options of the command
* `CommandLine.prepare`: the start, or what a command does that has no session
* `CommandLine.commandSetup`, `CommandLine.startSession`: the session of the command
* `CommandLine.performed`: its performance, once it has ended

## Main results

* `CommandLine.perform_eq_prepare`: the command is its start and then its session
* `CommandLine.startSession_ends`: the session of the command ends
* `CommandLine.perform_of_prepare`: so the command comes to an end
-/

namespace PromptLoop

open Text

/-- The standard input, where it is no terminal. -/
def stdinSource : Source := .standardInput (some (.str "<stdin>"))

namespace CommandLine

/-! ## Before the session -/

/-- What the command has come to before its session. -/
structure Start where
  options : Options
  config : Config
  router : Log.Router
  /-- What the log has written. -/
  written : List Log.Written
  /-- The source of the file, if one is named. -/
  source : Option Source

/-- What the command comes to before its session, once its log is set up. -/
def startWith (inv : Invocation) (options : Options) (router : Log.Router)
    (written : List Log.Written) : Except Conduct Start :=
  match settings inv.env options.flags with
  | .error _ => .error .misuse
  | .ok config =>
    match startSource inv options with
    | .error f => .error (failedEarly written f)
    | .ok source => .ok ⟨options, config, router, written, source⟩

/-- What the command comes to before its session, by its options. -/
def startFor (opens : String → Except Failure Unit) (inv : Invocation) (options : Options) :
    Except Conduct Start :=
  if options.file.any holdsNull then .error (failedEarly [] nullInPath)
  else match Log.configure opens inv.env options.logLevel options.logFile {} with
  | ⟨.error f, _, written⟩ => .error (failedEarly written f)
  | ⟨.ok (), router, written⟩ => startWith inv options router written

/-- The options of the command, unless its arguments are misused. -/
def Invocation.options? (inv : Invocation) : Option Options :=
  parse (fun path => holdsNull path || (inv.read? path).isSome) inv.args

/-- The start of the command, or all that it does if it has no session. -/
def prepare (opens : String → Except Failure Unit) (inv : Invocation) : Except Conduct Start :=
  match inv.options? with
  | none => .error .misuse
  | some options => startFor opens inv options

theorem prepare_of_options {opens : String → Except Failure Unit} {inv : Invocation}
    {options : Options} (h : inv.options? = some options) :
    prepare opens inv = startFor opens inv options := by
  rw [prepare, h]

variable {π : Type} (runtime : Console.Runtime π) (inv : Invocation)

/-- **The command is its start and then its session.** The code that it can run has no part in what
comes before. -/
theorem perform_eq_prepare (opens : String → Except Failure Unit) :
    perform runtime opens inv =
      match prepare opens inv with
      | .error conduct => some conduct
      | .ok start =>
        ((plan runtime inv start.config start.source).perform? turnLimit console (supply inv)).map
          (conductOf inv start.router start.written) := by
  unfold perform prepare startFor startWith Invocation.options?
  rcases parse (fun path => holdsNull path || (inv.read? path).isSome) inv.args with _ | options
  · rfl
  · dsimp only
    split
    · rfl
    · rcases Log.configure opens inv.env options.logLevel options.logFile {} with
        ⟨f | ⟨⟩, router, written⟩
      · rfl
      · dsimp only
        rcases settings inv.env options.flags with fault | config
        · rfl
        · dsimp only
          rw [runSession]
          rcases startSource inv options with f | source <;> rfl

/-! ## The session -/

/-- The setup of the command's session. -/
def commandSetup (config : Config) : Setup Source Desk (Hooked Source Console) where
  evaluator := (Console.interpreter runtime).withHooks
  inputs := Desk.inputs
  config := config
  screen := inv.screen
  family := .ofEnvironment inv.env
  memory := inv.memory

/-- The session of the command on a source, or else on the standard input. -/
def startSession (config : Config) (source : Option Source) :
    Session Source Desk (Hooked Source Console) :=
  .initial (commandSetup runtime inv config) console ⟨source.getD stdinSource, supply inv⟩

/-- The performance of a session of the command that has ended. The standard input was asked for
first, if no file is named. -/
def performed (source : Option Source)
    (r : Run Event (Session Source Desk (Hooked Source Console)) Value) :
    Performance Source Desk (Hooked Source Console) where
  result := r.result
  events := (if source.isSome then [] else [.reading .requested]) ++ r.events
  evaluator := r.state.evaluator
  session := some r.state

variable (config : Config) (source : Option Source)

theorem perform_plan :
    let s := startSession runtime inv config source
    (plan runtime inv config source).perform? turnLimit console (supply inv) =
      (Session.run? (commandSetup runtime inv config) (turnLimit s) s).map (performed source) := by
  cases source <;> rfl

/-- No hooks are registered for the session of the command. -/
theorem console_keepsSource (event : String) :
    (commandSetup runtime inv config).KeepsSource event console := by
  intro source hmem
  cases hmem

/-- **The session of the command ends**: its limit allows more turns than its input has steps. -/
theorem startSession_ends :
    let s := startSession runtime inv config source
    (Session.run? (commandSetup runtime inv config) (turnLimit s) s).isSome = true := by
  intro s
  obtain ⟨now, hintake, hnow⟩ := Session.begin_intake (commandSetup runtime inv config) s
  -- What is read at first is what the session was given: no hook has put another source in place.
  obtain rfl : now = s.intake.source :=
    hnow.resolve_right fun hmem => console_keepsSource runtime inv config _ now hmem
  have hleft := Desk.left_le_size s.intake
  refine Session.run?_isSome_of_left rfl rfl Desk.runsDry ?_
  rw [hintake]
  show Desk.left s.intake + 2 ≤ s.intake.source.size + s.intake.supply.size + 4
  omega

/-- **A command that comes to its session comes to an end**, and what it does there depends on how
the session has ended. -/
theorem perform_of_prepare {opens : String → Except Failure Unit} {start : Start}
    (h : prepare opens inv = .ok start) :
    let s := startSession runtime inv start.config start.source
    ∃ r, Session.run? (commandSetup runtime inv start.config) (turnLimit s) s = some r ∧
      perform runtime opens inv =
        some (conductOf inv start.router start.written (performed start.source r)) := by
  intro s
  obtain ⟨r, hr⟩ :=
    Option.isSome_iff_exists.mp (startSession_ends runtime inv start.config start.source)
  have hperform := (perform_plan runtime inv start.config start.source).trans
    (congrArg (Option.map _) hr)
  refine ⟨r, hr, ?_⟩
  rw [perform_eq_prepare, h]
  exact congrArg (Option.map _) hperform

end CommandLine

end PromptLoop
