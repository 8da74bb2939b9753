import PromptLoop.Failure.Index
import PromptLoop.Hook.Registry

/-!
# Rehearsed hooks

A rehearsed hook does a few things in a fixed order: it prints, puts a source in place of the
current one, fails, and answers.

## Main definitions

* `Rehearsal.HookPlan`: what a hook does
* `Rehearsal.HookPlan.body`: the hook that does it
-/

namespace PromptLoop.Rehearsal

/-- What a hook does, in the order of the fields. -/
structure HookPlan (ι : Type) where
  /-- Prints a line on the screen it was called with. -/
  puts : Option String := none
  /-- Puts a source in place, in the session it was called with. -/
  switchTo : Option ι := none
  fails : Option Failure := none
  /-- Answers an argument, counted from the end when negative. -/
  answersArgument : Option Int := none
  answer : Value := .null

/-- An argument was not given. -/
def noArgument : Failure := .saying .index "tuple index out of range"

/-- An argument lacks what is asked of it. -/
def noAttribute (argument : Argument) (name : String) : Failure :=
  let owner := match argument with
    | .value (.failureClass kind) => "type object '" ++ kind.name ++ "'"
    | .value (.plainClass name) => "type object '" ++ name ++ "'"
    | argument => "'" ++ argument.typeName ++ "' object"
  .saying .attribute (owner ++ " has no attribute '" ++ name ++ "'")

/-- An argument by its position, counted from the end when negative. -/
def argumentAt (args : List Argument) (position : Int) : Except Failure Argument :=
  let index := if position < 0 then position + args.length else position
  if ¬IsIndex position then .error (noIndex .index)
  else if index < 0 then .error noArgument
  else match args[index.toNat]? with
    | some argument => .ok argument
    | none => .error noArgument

namespace HookPlan

variable {ι σ : Type} (plan : HookPlan ι)

/-- Prints on the first argument. -/
def print (args : List Argument) (text : String) : Act (HookEvent ι) σ Unit := do
  match ← Act.ofExcept (argumentAt args 0) with
  | .output => Act.emit [.notice (.line text)]
  | argument => Act.raise (noAttribute argument "puts")

/-- Puts a source in place, in the third argument. -/
def replace (args : List Argument) (source : ι) : Act (HookEvent ι) σ Unit := do
  match ← Act.ofExcept (argumentAt args 2) with
  | .session => Act.emit [.switched source]
  | argument => Act.raise (noAttribute argument "switch_source")

/-- The hook that does what is planned. -/
def body (args : List Argument) : Act (HookEvent ι) σ Argument := do
  if let some text := plan.puts then print args text
  if let some source := plan.switchTo then replace args source
  if let some f := plan.fails then Act.raise f
  match plan.answersArgument with
  | some position => Act.ofExcept (argumentAt args position)
  | none => return .value plan.answer

/-- The plan as a hook of an event. -/
def hook (event name : String) : Hook ι σ := ⟨event, name, plan.body⟩

end HookPlan

end PromptLoop.Rehearsal
