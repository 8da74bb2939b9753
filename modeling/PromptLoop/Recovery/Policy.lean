import PromptLoop.Recovery.Attempt
import PromptLoop.Config.Basic

/-!
# Recovery policies

A policy guards an attempt: it turns the failures it is for into an outcome or into another attempt,
and lets the others pass. Policies are composed by guarding the innermost first.

## Main definitions

* `Policy`: the policies
* `Policy.guard`: an attempt guarded by a policy
* `Pipeline.guard`: an attempt guarded by several policies
* `Pipeline.standard`: interrupts, then the end of input, then read errors
-/

namespace PromptLoop

/-- Ways to recover from failures while reading. -/
inductive Policy
  /-- An interrupt cancels the read. -/
  | interrupt
  /-- When the source runs dry, a fresh one is tried once. -/
  | endOfInput
  /-- A rescuable failure is reported, and the read is retried within the budget. -/
  | readError
  /-- A policy that says nothing about how to recover. -/
  | unspecified
  /-- Reports when an attempt starts and when it comes to an outcome. -/
  | recording (name : String)
  deriving DecidableEq, Repr

namespace Policy

/-- How a policy is written. -/
def label : Policy → String
  | .interrupt => "InterruptPolicy()"
  | .endOfInput => "EndOfInputPolicy()"
  | .readError => "ReadErrorPolicy()"
  | .unspecified => "RecoveryPolicy()"
  | .recording _ => "Recording()"

variable {ι δ : Type} (inputs : Inputs ι δ)

/-- A failure that belongs to a class. -/
def catching (kind : FailureKind) (f : Failure) : Bool := f.isA kind

/-- An interrupt ends the read as cancelled. -/
def onInterrupt (attempt : Attempt ι δ) : Attempt ι δ :=
  attempt.rescue (catching .keyboardInterrupt) fun _ => do
    let intake ← Act.current
    Attempt.log .debug Log.recoveryChannel
      ("read_interrupted: source=" ++ inputs.label intake.source)
    return .interrupted

/-- Gives up once the fresh source has run dry as well. -/
def exhausted : Act ReadEvent (Intake ι δ) Outcome := do
  Attempt.refill inputs
  Attempt.log .warning Log.recoveryChannel "no_more_input: ran out of things to read from"
  return .noMoreInput

/-- When the source runs dry, a fresh source is tried; when that one runs dry as well, there is
nothing left to read. -/
def onEndOfInput (attempt : Attempt ι δ) : Attempt ι δ :=
  attempt.rescue (catching .endOfFile) fun _ => do
    let before ← Act.current
    Attempt.refill inputs
    let now ← Act.current
    Attempt.log .info Log.recoveryChannel
      ("input_fallback: exhausted=" ++ inputs.label before.source ++ ", now=" ++
        inputs.label now.source)
    attempt.rescue (catching .endOfFile) fun _ => exhausted inputs

/-- How to point a session elsewhere, told when its input is broken. -/
def advice : List String :=
  ["To fix this you may be able to pass input and output explicitly, e.g.",
   "  ReplConfig(input_factory=lambda: StreamSource(sys.stdin))",
   "  REPL(evaluator, source=StreamSource(sys.stdin), output=OutputSink())",
   "or from the command line: readloop --no-correct-indent < input.txt"]

/-- Says that the input is broken. -/
def reportFatal : Act ReadEvent (Intake ι δ) Unit := do
  let intake ← Act.current
  let source := inputs.description intake.source
  Attempt.log .error Log.recoveryChannel ("read_fatal: source=" ++ source)
  Act.emit [.notice (.diagnostic
    ("FATAL: readloop failed to get user input using `" ++ source ++ "`."))]
  Act.emit (advice.map fun line => .notice (.line line))

/-- The message of the record of a failed read, unless the budget cannot be written. -/
def failureRecord? (config : Config) (count : Nat) (source text : String) : Option String :=
  (numeral? config.maxReadRetries).map fun budget =>
    "read_failed: attempt=" ++ toString count ++ "/" ++ budget ++ ", source=" ++ source ++
      ", error=" ++ text

/-- What is said of a failed read, by what the failure says. -/
def failureReport (config : Config) (count : Nat) (source : ι) (f : Failure) (text : String) :
    List ReadEvent :=
  [.notice (.diagnostic ("Error: " ++ text)), .notice (.wrote (.traceback f))] ++
    (Notice.log? .warning Log.recoveryChannel
      (failureRecord? config count (inputs.label source) text)).map .notice

/-- Says that a read failed, for the how-manieth time. What the failure says must be written for
that; where it cannot be, nothing is said and the report fails itself. -/
def reportFailure (config : Config) (count : Nat) (f : Failure) :
    Act ReadEvent (Intake ι δ) Unit := do
  let text ← Act.ofExcept (inWriting f.text?)
  let intake ← Act.current
  Act.emit (failureReport inputs config count intake.source f text)

/-- Retries after rescuable failures, as many more times as are left once `failed` reads have
failed. -/
def retrying (config : Config) (attempt : Attempt ι δ) (failed : Nat) : Nat → Attempt ι δ
  | 0 => attempt.rescue config.rescues fun f => do
    reportFailure inputs config (failed + 1) f
    reportFatal inputs
    return .noMoreInput
  | left + 1 => attempt.rescue config.rescues fun f => do
    reportFailure inputs config (failed + 1) f
    retrying config attempt (failed + 1) left

/-- Reports and retries rescuable failures, and gives up when the budget is spent. -/
def onReadError (config : Config) (attempt : Attempt ι δ) : Attempt ι δ :=
  retrying inputs config attempt 0 (config.maxReadRetries.toNat - 1)

/-- Reports when an attempt starts and when it comes to an outcome. -/
def recorded (name : String) (attempt : Attempt ι δ) : Act ReadEvent (Intake ι δ) Outcome := do
  Act.emit [.entered name]
  let outcome ← attempt
  Act.emit [.exited name]
  return outcome

/-- An attempt guarded by a policy. -/
def guard (config : Config) (policy : Policy) (attempt : Attempt ι δ) : Attempt ι δ :=
  match policy with
  | .interrupt => onInterrupt inputs attempt
  | .endOfInput => onEndOfInput inputs attempt
  | .readError => onReadError inputs config attempt
  | .unspecified => Act.raise (.raised .notImplemented none)
  | .recording name => recorded name attempt

variable {inputs}

theorem reportFailure_of_text? {config : Config} {count : Nat} {f : Failure} {text : String}
    (h : f.text? = some text) (intake : Intake ι δ) :
    reportFailure inputs config count f intake =
      ⟨.ok (), intake, failureReport inputs config count intake.source f text⟩ := by
  rw [reportFailure, h]
  rfl

/-- Where what the failure says cannot be written, nothing is said. -/
theorem reportFailure_of_unwritten {config : Config} {count : Nat} {f : Failure}
    (h : f.text? = none) (intake : Intake ι δ) :
    reportFailure inputs config count f intake = ⟨.error tooManyDigits, intake, []⟩ := by
  rw [reportFailure, h]
  rfl

/-- A report changes nothing, be it made or not. -/
theorem reportFailure_state (config : Config) (count : Nat) (f : Failure) (intake : Intake ι δ) :
    (reportFailure inputs config count f intake).state = intake := by
  cases h : f.text? with
  | none => rw [reportFailure_of_unwritten h]
  | some text => rw [reportFailure_of_text? h]

end Policy

/-- Policies, the innermost first. -/
abbrev Pipeline := List Policy

namespace Pipeline

/-- Interrupts, then the end of input, then read errors: an interrupt is no failed read. -/
def standard : Pipeline := [.interrupt, .endOfInput, .readError]

/-- How policies are written. -/
def label (policies : Pipeline) : String :=
  "ResiliencePipeline([" ++ ", ".intercalate (policies.map Policy.label) ++ "])"

variable {ι δ : Type}

/-- An attempt guarded by every policy, the first one innermost. -/
def guard (inputs : Inputs ι δ) (config : Config) (policies : Pipeline) (attempt : Attempt ι δ) :
    Attempt ι δ :=
  policies.foldl (fun attempt policy => policy.guard inputs config attempt) attempt

@[simp] theorem guard_nil (inputs : Inputs ι δ) (config : Config) (attempt : Attempt ι δ) :
    guard inputs config [] attempt = attempt := rfl

@[simp] theorem guard_cons (inputs : Inputs ι δ) (config : Config) (policy : Policy)
    (policies : Pipeline) (attempt : Attempt ι δ) :
    guard inputs config (policy :: policies) attempt =
      guard inputs config policies (policy.guard inputs config attempt) := rfl

theorem guard_append (inputs : Inputs ι δ) (config : Config) (inner outer : Pipeline)
    (attempt : Attempt ι δ) :
    guard inputs config (inner ++ outer) attempt =
      guard inputs config outer (guard inputs config inner attempt) := List.foldl_append ..

end Pipeline

end PromptLoop
