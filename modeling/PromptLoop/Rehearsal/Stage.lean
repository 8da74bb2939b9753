import PromptLoop.Rehearsal.Hook
import PromptLoop.Rehearsal.Evaluator
import PromptLoop.Rehearsal.Program
import PromptLoop.Console.Evaluation
import PromptLoop.Session.Assembly
import PromptLoop.Source.Desk

/-!
# A rehearsed session

A session on scripted sources, with rehearsed hooks and one of the evaluators. Every source ends, so
the session ends within a number of turns that its input bounds.

## Main definitions

* `Rehearsal.turnLimit`: more turns than a rehearsed session takes
* `Rehearsal.perform?`: a rehearsed session, assembled and run
* `Rehearsal.readOnce`: a single guarded read
-/

namespace PromptLoop.Rehearsal

/-- More turns than a rehearsed session takes: each consumes something, but for the last ones. -/
def turnLimit {σ : Type} (hookPlans : List (HookPlan Source)) (s : Session Source Desk σ) : Nat :=
  s.intake.source.size + s.intake.supply.size +
    (hookPlans.filterMap (·.switchTo)).foldl (fun total source => total + source.size) 0 + 4

/-- A hook with its event and its name. -/
structure NamedPlan where
  event : String
  name : String
  plan : HookPlan Source

/-- The registry of planned hooks; of two with one name for one event, the second is refused. -/
def registry {σ : Type} (plans : List NamedPlan) : Except Failure (Registry Source σ) :=
  plans.foldlM (fun r p => r.add (p.plan.hook p.event p.name)) {}

/-- A rehearsed session, assembled and run. -/
def perform? {σ : Type} (interpreter : Interpreter σ) (core : σ) (hookPlans : List NamedPlan)
    (hooks : Registry Source σ) (desk : Desk)
    (plan : Evaluator Source (Hooked Source σ) → Plan Source Desk (Hooked Source σ)) :
    Option (Performance Source Desk (Hooked Source σ)) :=
  (plan interpreter.withHooks).perform? (turnLimit (hookPlans.map (·.plan))) ⟨core, hooks⟩ desk

/-- A single guarded read of the current source, where nobody installs completions. -/
def readOnce (config : Config) (policies : Pipeline) (prompt : String) : Attempt Source Desk :=
  Pipeline.guard Desk.plainInputs config policies
    (Attempt.ask Desk.plainInputs (fun _ => []) prompt)

end PromptLoop.Rehearsal
