import PromptLoop.Proofs.Recovery.Mending
import PromptLoop.Proofs.Session.Likeness
import PromptLoop.Proofs.Session.Agreement

/-!
# Read errors that are overcome

Failures of sources that are reported and retried within their budget are not seen by a session. It
tells its evaluator the same, shows the same prompts at the steps that remain and ends in the same
way as a session whose sources do not fail so: the one differs from the other by its reports. A
failure without a message, since what it says cannot be written, is not retried: it ends the read,
and sources keep it when they are mended.

## Main definitions

* `Setup.mended`, `Session.mended`: a session whose sources do not fail in ways that are overlooked
* `Session.accounted`: how a session ends, and its events but for reports

## Main results

* `Session.opened_mended`: a session looks the same without the failures that it overcomes
* `Session.failures_unseen`: so do the whole session and its end
-/

namespace PromptLoop

open ReadEvent (reports Transient)

variable {σ α : Type}

/-- What a hook is seen to do, where it puts a mended source in place. -/
def HookEvent.mended (config : Config) : HookEvent Source → HookEvent Source
  | .switched source => .switched (source.mended config)
  | e => e

/-- An evaluator whose hooks put mended sources in place. -/
def Evaluator.mended (config : Config) (evaluator : Evaluator Source σ) : Evaluator Source σ :=
  { evaluator with
    fire := fun event args state =>
      let r := evaluator.fire event args state
      ⟨r.result, r.state, r.events.map (HookEvent.mended config)⟩ }

/-- A setup whose hooks put mended sources in place. -/
def Setup.mended (setup : Setup Source Desk σ) : Setup Source Desk σ :=
  { setup with evaluator := setup.evaluator.mended setup.config }

namespace Session

/-- A session whose sources are mended. -/
def mended (config : Config) (s : Session Source Desk σ) : Session Source Desk σ :=
  { s with intake := s.intake.mended config }

variable {setup : Setup Source Desk σ} {s t : Session Source Desk σ}

/-- Two sessions, of which the second one is the first with its sources mended. -/
abbrev Mended (config : Config) : Session Source Desk σ → Session Source Desk σ → Prop :=
  Like fun i j => j = i.mended config

theorem turn_mended : turn setup.mended = turn setup := rfl

theorem turnsWithin_mended (n : Nat) : turnsWithin setup.mended n = turnsWithin setup n := by
  induction n with
  | zero => rfl
  | succ n ih => rw [turnsWithin, turnsWithin, turn_mended, ih]

theorem reads_mended (n : Nat) : reads setup.mended n = reads setup n := by
  induction n with
  | zero => rfl
  | succ n ih =>
    funext s
    rw [reads, reads, turn_mended, ih]
    rfl

/-! ## Questions -/

/-- The questions of a session whose failures are overcome. -/
theorem question_mended (hinputs : setup.inputs = Desk.inputs)
    (hpolicies : setup.policies = .standard) (s : Session Source Desk σ) (prompt : String)
    {i j : Intake Source Desk} (hij : j = i.mended setup.config)
    (h : Transient setup.config (s.question setup prompt i).events) :
    (s.question setup prompt i).Alike Account.noteRead (fun i j => j = i.mended setup.config)
        (s.question setup prompt j) ∧
      reports (s.question setup prompt j).events = 0 := by
  subst hij
  unfold question at h ⊢
  rw [hinputs, hpolicies] at h ⊢
  exact guard_mended setup.config _ _ i h

/-! ## Before the first turn and after the last -/

theorem switchTo_mended (config : Config) (source : Source) :
    Act.Alike Account.noteRead (fun i j => j = i.mended config)
      (Attempt.switchTo Desk.inputs source)
      (Attempt.switchTo Desk.inputs (source.mended config)) := by
  rintro i j rfl
  refine ⟨rfl, rfl, fun a => ?_⟩
  show a.noteRead (Attempt.switchover Desk.inputs i.source source) =
    a.noteRead (Attempt.switchover Desk.inputs (i.source.mended config) (source.mended config))
  rw [switchover_mended]

theorem fire_mended (hinputs : setup.inputs = Desk.inputs) (event : String)
    (h : Mended setup.config s t) :
    (fire setup event s).Alike Account.note (Mended setup.config) (fire setup.mended event t) := by
  refine fire_alike_of (g := HookEvent.mended setup.config) h rfl ?_ fun e _ => ?_
  · rw [h.evaluator_eq]
    rfl
  · cases e with
    | ran name => exact .bind (.emit fun _ => rfl) fun _ => .pure _
    | notice n => exact .bind (.emit fun _ => rfl) fun _ => .pure _
    | switched source =>
      refine .bind (onIntake_alike ?_) fun _ => .pure _
      show Act.Alike Account.noteRead _ (Attempt.switchTo setup.inputs source)
        (Attempt.switchTo setup.inputs (source.mended setup.config))
      rw [hinputs]
      exact switchTo_mended setup.config source

theorem begin_mended (hinputs : setup.inputs = Desk.inputs) (h : Mended setup.config s t) :
    (begin setup s).Alike Account.note (Mended setup.config) (begin setup.mended t) := by
  rw [begin_eq, begin_eq]
  refine ((fire_mended hinputs "before_session" h).andThen fun _ => ?_).after fun a => ?_
  · exact Act.Alike.ite (.emit fun _ => rfl) (.pure _)
  · -- The record of the start names the source, which is named as it is when it is mended.
    show a.note (.loop (.log _ _ ("session_start: source=" ++ setup.inputs.label s.intake.source ++
        _ ++ _))) =
      a.note (.loop (.log _ _ ("session_start: source=" ++ setup.inputs.label t.intake.source ++
        _ ++ _)))
    rw [h.intake, hinputs]
    show _ = a.note (.loop (.log _ _ ("session_start: source=" ++
      (s.intake.source.mended setup.config).label ++ _ ++ _)))
    rw [Source.mended_label]
    rfl

theorem finish_mended (hinputs : setup.inputs = Desk.inputs) :
    Act.Alike Account.note (Mended setup.config) (finish setup) (finish setup.mended) := by
  intro s t h
  have hend : Act.Alike Account.note (Mended setup.config)
      (log .debug "session_end" : Act Event (Session Source Desk σ) Unit)
      (log .debug "session_end") := .emit fun _ => rfl
  exact (fire_mended hinputs "after_session" h).andThen fun _ => hend

/-! ## A session without the failures that it overcomes -/

/-- How a session ends, what it makes of the evaluator and of the open constructs, and all that it
lets others see but for reports of failed reads and the questions that are asked again. -/
def accounted (r : Run Event (Session Source Desk σ) α) :
    Except Failure α × σ × Tracker × List Event :=
  (r.result, r.state.evaluator, r.state.tracker, (r.events.foldl Account.note {}).events)

theorem accounted_eq {config : Config} {r q : Run Event (Session Source Desk σ) α}
    (h : r.Alike Account.note (Mended config) q) : accounted r = accounted q := by
  rw [accounted, accounted, h.result_eq, h.state.evaluator_eq, h.state.tracker_eq, h.noted_eq]

theorem asks_mended (hinputs : setup.inputs = Desk.inputs)
    (hpolicies : setup.policies = .standard) :
    setup.AsksAlike Account.note (Transient setup.config) (fun i j => j = i.mended setup.config) :=
  fun s prompt _ _ hij h => (question_mended hinputs hpolicies s prompt hij h).1

/-- **A session looks the same without the failures that it overcomes.** -/
theorem opened_mended (hinputs : setup.inputs = Desk.inputs)
    (hpolicies : setup.policies = .standard) {n : Nat}
    (hreads : ∀ ρ ∈ openedReads setup n s, Transient setup.config ρ.events) :
    (opened setup n s).Alike Account.note (Mended setup.config)
      (opened setup.mended n (s.mended setup.config)) :=
  opened_alike_of (asks_mended hinputs hpolicies) (turnsWithin_mended n)
    (begin_mended hinputs ⟨rfl, rfl, rfl⟩) hreads

/-- A failure of the device. -/
def glitch : Step := .fail (.saying .os "glitch")

/-- A session whose source fails before a block, before an interrupt and before the block again. -/
def glitchedSession : Session Source Desk (Hooked Source Console) :=
  initial blockSetup ⟨{}, {}⟩ ⟨.scripted .withPrompt "scripted"
    [glitch, glitch, .answer (some "if x:"), glitch, .fail (.raised .keyboardInterrupt none),
      .answer (some "if x:"), glitch, .answer (some "y")], {}⟩

end Session

end PromptLoop
