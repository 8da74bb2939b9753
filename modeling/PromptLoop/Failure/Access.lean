import PromptLoop.Failure.Basic

/-!
# What stands in the way of a file

A path may fail to lead to a file. Each such fault has a number, and the failure that it raises
gives the number, what is wrong and the path.

## Main definitions

* `AccessFault`: the faults
* `AccessFault.failure`: what a fault raises
* `holdsNull`, `nullInPath`: a path that can name no file at all

## Main results

* `AccessFault.kind_isA_os`: a fault raises a failure of the system
-/

namespace PromptLoop

/-- Why a path does not lead to a file. -/
inductive AccessFault
  /-- The path goes through a place where nothing is. -/
  | missing
  /-- The path goes through a file. -/
  | throughFile
  /-- The path leads to a folder. -/
  | isFolder
  /-- A name in the path is too long. -/
  | longName
  deriving DecidableEq, Repr

namespace AccessFault

/-- The number of a fault. -/
def number : AccessFault → Nat
  | .missing => 2
  | .throughFile => 20
  | .isFolder => 21
  | .longName => 36

/-- What is wrong. -/
def text : AccessFault → String
  | .missing => "No such file or directory"
  | .throughFile => "Not a directory"
  | .isFolder => "Is a directory"
  | .longName => "File name too long"

/-- The class of the failure that a fault raises. -/
def kind : AccessFault → FailureKind
  | .missing => .fileNotFound
  | .throughFile => .notADirectory
  | .isFolder => .isADirectory
  | .longName => .os

/-- What a fault on a path raises. -/
def failure (fault : AccessFault) (path : String) : Failure :=
  .saying fault.kind
    ("[Errno " ++ toString fault.number ++ "] " ++ fault.text ++ ": " ++ Text.quoted path)

/-- A fault raises a failure of the system. -/
theorem kind_isA_os (fault : AccessFault) : fault.kind.isA .os = true := by cases fault <;> rfl

example : (AccessFault.missing.failure "/none/a").text =
    "[Errno 2] No such file or directory: '/none/a'" := by decide +kernel

end AccessFault

/-- No file is named by a path with a null character in it. -/
def holdsNull (path : String) : Bool := path.toList.contains '\x00'

/-- What a path with a null character in it raises. -/
def nullInPath : Failure := .saying .value "embedded null byte"

end PromptLoop
