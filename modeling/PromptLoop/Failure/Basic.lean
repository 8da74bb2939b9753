import PromptLoop.Value.Written

/-!
# Classes of failures at work

Who handles a class of failures handles every class below it. A class can be raised by itself, and
is then raised with nothing.

## Main definitions

* `Failure.isA`, `Failure.isAny`: a failure belongs to a class, or to one of several
* `Failure.ofKind`: the failure that a class alone makes
-/

namespace PromptLoop.Failure

/-- The failure belongs to a class. -/
def isA (f : Failure) (kind : FailureKind) : Bool := f.kind.isA kind

/-- The failure belongs to one of several classes. -/
def isAny (f : Failure) (kinds : List FailureKind) : Bool := kinds.any f.isA

/-- The classes that are raised with more than a message, and the fault of leaving it out. -/
def requiredArguments : FailureKind → Option String
  | .unicodeDecode => some "function takes exactly 5 arguments (0 given)"
  | .unicodeEncode => some "function takes exactly 5 arguments (0 given)"
  | .unicodeTranslate => some "function takes exactly 4 arguments (0 given)"
  | .baseGroup => some "BaseExceptionGroup.__new__() takes exactly 2 arguments (0 given)"
  | .group => some "BaseExceptionGroup.__new__() takes exactly 2 arguments (0 given)"
  | _ => none

/-- The failure that a class alone makes; some classes cannot be raised alone. -/
def ofKind (kind : FailureKind) : Except Failure Failure :=
  match requiredArguments kind with
  | none => .ok (.raised kind none)
  | some fault => .error (.saying .type fault)

@[simp] theorem isA_raised (kind other : FailureKind) (argument : Option Value) :
    (Failure.raised kind argument).isA other = kind.isA other := rfl

end PromptLoop.Failure
