import PromptLoop.Act
import PromptLoop.Notice

/-!
# Hooks

Named functions that run when an event is fired. The hooks of an event run in the order of their
registration; one that fails is reported, and the others still run unless the report fails as well.

## Main definitions

* `Argument`: what a hook is called with
* `HookEvent`: what a hook lets others see
* `Registry`: the hooks, and the failures of those that ran
* `Registry.add`, `Registry.delete`, `Registry.names`: the hooks of an event
* `Hooked.fire`: runs the hooks of an event

## Main results

* `Registry.names_add`, `Registry.names_delete`: what registering and removing do to the names
-/

namespace PromptLoop

/-- What a hook is called with. -/
inductive Argument
  /-- The screen of the session. -/
  | output
  /-- The session itself. -/
  | session
  /-- The names that evaluated code binds. -/
  | scope
  | value (v : Value)
  deriving DecidableEq, Repr

namespace Argument

/-- The name of an argument's type. -/
def typeName : Argument → String
  | .output => "Sink"
  | .session => "Session"
  | .scope => "dict"
  | .value v => v.typeName

/-- The screen of the session. -/
def isOutput : Argument → Bool
  | .output => true
  | _ => false

end Argument

/-- What a hook lets others see. -/
inductive HookEvent (ι : Type)
  /-- A hook starts. -/
  | ran (name : String)
  | notice (n : Notice)
  /-- A hook puts another source in place of the current one. -/
  | switched (source : ι)
  deriving DecidableEq, Repr

/-- A hook: a function on arguments that may change a state `σ`. -/
structure Hook (ι σ : Type) where
  event : String
  name : String
  body : List Argument → Act (HookEvent ι) σ Argument

/-- A hook that failed. -/
structure HookFault where
  event : String
  name : String
  failure : Failure
  deriving DecidableEq, Repr

/-- The hooks in the order of their registration, and the failures of those that ran. -/
structure Registry (ι σ : Type) where
  hooks : List (Hook ι σ) := []
  faults : List HookFault := []

namespace Registry

variable {ι σ : Type}

/-- The hooks of an event. -/
def ofEvent (r : Registry ι σ) (event : String) : List (Hook ι σ) :=
  r.hooks.filter (·.event == event)

/-- The names of the hooks of an event. -/
def names (r : Registry ι σ) (event : String) : List String := (r.ofEvent event).map (·.name)

/-- An event has a hook of a name. -/
def has (r : Registry ι σ) (event name : String) : Bool := (r.names event).contains name

/-- Why a hook of a taken name is refused. -/
def duplicate (event name : String) : Failure :=
  .saying .value (name ++ " hook already defined for " ++ event)

/-- Registers a hook; the name must be free for its event. -/
def add (r : Registry ι σ) (hook : Hook ι σ) : Except Failure (Registry ι σ) :=
  if r.has hook.event hook.name then .error (duplicate hook.event hook.name)
  else .ok { r with hooks := r.hooks ++ [hook] }

/-- Removes a hook. -/
def delete (r : Registry ι σ) (event name : String) : Registry ι σ :=
  { r with hooks := r.hooks.filter fun h => !(h.event == event && h.name == name) }

/-- Notes a failure. -/
def note (r : Registry ι σ) (fault : HookFault) : Registry ι σ :=
  { r with faults := r.faults ++ [fault] }

/-- A hook that is registered is the last of its event. -/
theorem names_add {r r' : Registry ι σ} {hook : Hook ι σ} (h : r.add hook = .ok r')
    (event : String) :
    r'.names event = r.names event ++ if hook.event = event then [hook.name] else [] := by
  rw [add] at h
  split at h
  · simp at h
  · cases h
    simp only [names, ofEvent, List.filter_append, List.map_append]
    by_cases he : hook.event = event <;> simp [he]

/-- A hook that is removed is gone from its event alone. -/
theorem names_delete (r : Registry ι σ) (event name other : String) :
    (r.delete event name).names other =
      if event = other then (r.names other).filter (· ≠ name) else r.names other := by
  simp only [names, ofEvent, delete, List.filter_filter]
  induction r.hooks with
  | nil => split <;> rfl
  | cons hook hooks ih =>
    by_cases he : event = other
    · subst he
      simp only [if_pos] at ih ⊢
      by_cases hh : hook.event = event <;> by_cases hn : hook.name = name <;> simp_all
    · simp only [he, if_false] at ih ⊢
      by_cases hh : hook.event = other
      · have hne : ¬ hook.event = event := fun h => he (h.symm.trans hh)
        simp_all
      · simp_all

end Registry

/-- A state together with the hooks that may change it. -/
structure Hooked (ι σ : Type) where
  core : σ
  hooks : Registry ι σ

namespace Hooked

variable {ι σ : Type}

/-- The message of the record of a failed hook, unless what the failure says cannot be written. -/
def faultRecord? (hook : Hook ι σ) (f : Failure) : Option String :=
  f.text?.map fun text =>
    "hook_failed: event=" ++ hook.event ++ ", name=" ++ hook.name ++ ", error=" ++ text

/-- What a failed hook leaves: a record for the log, a note, and a line on the screen when the hook
was called with one. The line says what the failure says; where that cannot be written, the report
fails itself. -/
def report (hook : Hook ι σ) (args : List Argument) (f : Failure) :
    Act (HookEvent ι) (Hooked ι σ) Unit := do
  Act.emit ((Notice.log? .warning Log.hookChannel (faultRecord? hook f)).map .notice)
  Act.change fun s => { s with hooks := s.hooks.note ⟨hook.event, hook.name, f⟩ }
  if args.head?.any Argument.isOutput then
    let summary ← Act.ofExcept (inWriting f.summary?)
    Act.emit [.notice (.diagnostic (hook.event ++ " hook failed: " ++ summary))]

/-- Runs one hook: its answer, or the answer so far when it fails. -/
def call (args : List Argument) (hook : Hook ι σ) (last : Argument) :
    Act (HookEvent ι) (Hooked ι σ) Argument := do
  Act.emit [.ran hook.name]
  ((hook.body args).within Hooked.core (fun s core => { s with core }) id).rescue
    (·.isA .exception) fun f => do
      report hook args f
      return last

/-- Runs hooks one after the other: the answer of the last that succeeded. -/
def callAll (args : List Argument) :
    List (Hook ι σ) → Argument → Act (HookEvent ι) (Hooked ι σ) Argument
  | [], last => pure last
  | hook :: hooks, last => do
    let answer ← call args hook last
    callAll args hooks answer

/-- Runs the hooks of an event. -/
def fire (event : String) (args : List Argument) : Act (HookEvent ι) (Hooked ι σ) Argument := do
  let s ← Act.current
  callAll args (s.hooks.ofEvent event) (.value .null)

end Hooked

end PromptLoop
