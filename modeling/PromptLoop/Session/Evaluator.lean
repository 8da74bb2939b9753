import PromptLoop.Hook.Registry
import PromptLoop.Outcome

/-!
# Evaluators

What a session needs from the code that runs input: it keeps the buffer of unfinished input, decides
when the buffer holds a complete unit, and says whether the session goes on.

## Main definitions

* `Interpreter`: an evaluator without hooks
* `Evaluator`: what a session calls
* `Interpreter.withHooks`: an interpreter together with a registry of hooks
-/

namespace PromptLoop

/-- An evaluator without hooks, with states `σ`. -/
structure Interpreter (σ : Type) where
  /-- How its kind is written. -/
  name : String
  /-- The prompt of the next read, without indentation. -/
  prompt : σ → String
  /-- Handles a line, or the wish to end the session. -/
  eval : Option String → Act Notice σ (Verdict Failure)
  /-- Drops unfinished input. -/
  discard : σ → σ
  isBufferEmpty : σ → Bool
  /-- The completions of a fragment. -/
  complete : σ → String → List String
  /-- What hooks are told of the state. -/
  binding : σ → Argument
  /-- Makes a value the object that code works on, if that is possible. -/
  push : Option (Value → σ → σ)

/-- What a session calls. Sources `ι` occur because a hook may put one in place of another. -/
structure Evaluator (ι σ : Type) where
  /-- How its kind is written. -/
  name : String
  /-- The prompt of the next read, without indentation. -/
  prompt : Act Notice σ String
  /-- Handles a line, or the wish to end the session. -/
  eval : Option String → Act Notice σ (Verdict Failure)
  /-- Drops unfinished input. -/
  discard : Act Notice σ Unit
  isBufferEmpty : σ → Bool
  /-- The completions of a fragment. -/
  complete : σ → String → List String
  /-- Fires an event. -/
  fire : String → List Argument → Act (HookEvent ι) σ Argument
  /-- What hooks are told of the state. -/
  binding : σ → Argument
  /-- Makes a value the object that code works on, if that is possible. -/
  push : Option (Value → Act Notice σ Unit)

namespace Interpreter

/-- An action of the interpreter, with the hooks beside it. -/
def lift {ε ι σ α : Type} (x : Act ε σ α) : Act ε (Hooked ι σ) α :=
  x.within Hooked.core (fun s core => { s with core }) id

/-- An interpreter together with a registry of hooks. -/
def withHooks {ι σ : Type} (i : Interpreter σ) : Evaluator ι (Hooked ι σ) where
  name := i.name
  prompt := lift (Act.view i.prompt)
  eval line := lift (i.eval line)
  discard := lift (Act.change i.discard)
  isBufferEmpty s := i.isBufferEmpty s.core
  complete s := i.complete s.core
  fire := Hooked.fire
  binding s := i.binding s.core
  push := i.push.map fun push v => lift (Act.change (push v))

end Interpreter

end PromptLoop
