import PromptLoop.Proofs.Session.Ledger
import PromptLoop.Rehearsal.Evaluator
import PromptLoop.Rehearsal.Hook
import PromptLoop.Source.Desk

/-!
# Forwarding

Whatever the sources, the supply and the evaluator do, the evaluator is told of each read exactly
once, in order, and of nothing else.

## Main definitions

* `Mark.line?`: what a call hands to the evaluator
* `Session.interruptedAtEnd`, `Session.tooWide`: two sessions that do not end as their reads say

## Main results

* `Session.reads_drive_evaluator`: a session drives the evaluator by the outcomes of its reads
* `Session.failures_override_reads`: a failure may take the place of what a read calls for
-/

namespace PromptLoop

variable {ι δ σ : Type}

/-- What a call hands to the evaluator. -/
def Mark.line? : Mark → Option (Option String)
  | .handed line => some line
  | .asked _ => none
  | .dropped => none

namespace Session

/-- The session with an empty ledger. -/
def ledgered (s : Session ι δ σ) : Session ι (Ledger δ) σ :=
  { s with intake := ⟨s.intake.source, ⟨s.intake.supply, []⟩⟩ }

theorem asked_line? (prompts : List String) :
    (prompts.map Mark.asked).filterMap Mark.line? = [] := by
  simp [List.filterMap_eq_nil_iff, Mark.line?]

/-- Where lines are not corrected, a read hands over the answer that it has ended with. -/
theorem marks_line? {setup : Setup ι δ σ} (hauto : setup.config.autoIndent = false)
    (ρ : Reading ι δ σ) : (ρ.marks setup).filterMap Mark.line? = ρ.answers := by
  have htext : ∀ text, corrected? setup ρ.start text = .ok text := by
    intro text
    rw [corrected?, hauto]
    rfl
  rw [Reading.marks, List.filterMap_append, asked_line?, List.nil_append, Reading.calls,
    Reading.answers]
  rcases ρ.result with f | (text | _ | _ | _)
  · rfl
  · simp only [htext]
    rfl
  · rfl
  · rfl
  · rfl

/-- **A session drives the evaluator by the outcomes of its reads.** The calls of the first turns
are those of their reads; a ledger of what the sources have answered holds the answers that the
reads have ended with; a read that others follow has let the session go on, and one that does not
ends it; and what comes after the last turn calls neither a source nor the evaluator, but its
failure takes the place of what the turns came to. -/
theorem reads_drive_evaluator (setup : Setup ι δ σ) (n : Nat) (s : Session ι δ σ) :
    let r := opened setup n s
    let kept := opened setup.ledgered n s.ledgered
    let ρs := openedReads setup n s
    marks r.events = ρs.flatMap (Reading.marks setup) ∧
      kept.seen bare = r ∧ kept.state.answers = ρs.flatMap Reading.answers ∧
      (setup.config.autoIndent = false →
        (marks r.events).filterMap Mark.line? = kept.state.answers) ∧
      (∀ before now later, ρs = before ++ now :: later → later ≠ [] →
        now.response setup = .ok .again) ∧
      (∀ before now, ρs = before ++ [now] → now.response setup ≠ .ok .again →
        r.result = (now.response setup).map Turn.value?) ∧
      ∀ ended, run? setup n s = some ended →
        marks ended.events = marks r.events ∧ ∃ ending : Except Failure Value,
          r.result = ending.map some ∧
            ended.result = (finish setup r.state).result.bind fun _ => ending := by
  intro r kept ρs
  have hkept : kept.state.answers = ρs.flatMap Reading.answers := opened_answers n s.ledgered
  have hmarks : marks r.events = ρs.flatMap (Reading.marks setup) := opened_marks n s
  refine ⟨hmarks, opened_ledgered n s.ledgered, hkept, ?_, ?_, ?_, ?_⟩
  · intro hauto
    rw [hmarks, hkept, List.filterMap_flatMap]
    congr 1
    funext ρ
    exact marks_line? hauto ρ
  · intro before now later hρs hlater
    exact openedReads_again hρs hlater
  · intro before now hρs hend
    exact opened_result hρs hend
  · intro ended hended
    obtain ⟨ending, hresult, hended, hevents⟩ := run?_eq_some hended
    exact ⟨hevents, ending, hresult, hended⟩

/-! ## Failures that take the place of what a read calls for -/

/-- An evaluator without a buffer and with hooks, at a desk, without a terminal. -/
def plainSetup (config : Config) : Setup Source Desk (Hooked Source Unit) where
  evaluator := (Rehearsal.bare {}).withHooks
  inputs := Desk.inputs
  config := config
  screen := {}
  family := .byCell

/-- A script that yields no lines, and a hook that is interrupted once the session is over. -/
def interruptedAtEnd : Session Source Desk (Hooked Source Unit) :=
  initial (plainSetup .standard)
    ⟨(), { hooks := [Rehearsal.HookPlan.hook { fails := some (.raised .keyboardInterrupt none) }
      "after_session" "farewell"] }⟩
    ⟨.scripted .withPrompt "scripted" [], {}⟩

/-- A width of which not even one level of indentation can be written. -/
def endlessConfig : Config :=
  { Config.standard with indentWidth := indexBound, width_pos := by decide }

/-- A script that yields one text of two lines, of which the second is to be indented. -/
def tooWide : Session Source Desk (Hooked Source Unit) :=
  initial (plainSetup endlessConfig) ⟨(), {}⟩
    ⟨.scripted .withPrompt "scripted" [.answer (some "if x\ny")], {}⟩

/-- The input of a session has run out and yet it ends with a failure; and a text is read that the
evaluator is never handed. -/
theorem failures_override_reads :
    ((openedReads (plainSetup .standard) 1 interruptedAtEnd).map Reading.result =
        [.ok .noMoreInput] ∧
      (run? (plainSetup .standard) 1 interruptedAtEnd).map Run.result =
        some (.error (.raised .keyboardInterrupt none))) ∧
    ((openedReads (plainSetup endlessConfig) 1 tooWide).map Reading.result =
        [.ok (.line "if x\ny")] ∧
      (run? (plainSetup endlessConfig) 1 tooWide).map (fun r => marks r.events) =
        some [.asked "> "]) := by
  refine ⟨⟨?_, ?_⟩, ?_, ?_⟩
  · rfl
  · rfl
  · rfl
  · rfl

end Session

end PromptLoop
