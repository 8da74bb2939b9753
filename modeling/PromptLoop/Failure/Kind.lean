/-!
# Kinds of failures

The classes of failures that reading and evaluating can raise. The classes form a hierarchy, and who
handles a class handles every class below it. They are those that are built in. A class that a
program derives from them stands with the one that it is derived from; one that is derived from two
of them is left out, so that no class is both an interrupt and ordinary.

## Main definitions

* `FailureKind`: the classes
* `FailureKind.name`: how a class is written
* `FailureKind.ancestors`: the classes above a class
* `FailureKind.isA`: a class is another one or stands below it

## Main results

* `FailureKind.isA_trans`: the hierarchy is transitive
* `FailureKind.not_interrupt_of_isOrdinary`, `FailureKind.not_exit_of_isOrdinary`,
  `FailureKind.not_exit_of_interrupt`: failures, interrupts and exits are apart
-/

namespace PromptLoop

/-- The classes of failures. -/
inductive FailureKind
  | base | baseGroup | generatorExit | keyboardInterrupt | systemExit | exception | arithmetic
  | floatingPoint | overflow | zeroDivision | assertion | attribute | frozenInstance | buffer
  | endOfFile | importing | moduleNotFound | lookup | index | key | memory | unknownName
  | unboundLocal | os | blocking | childProcess | connection | brokenPipe | connectionAborted
  | connectionRefused | connectionReset | fileExists | fileNotFound | interrupted | isADirectory
  | notADirectory | permission | processLookup | timeout | reference | runtime | notImplemented
  | recursion | stopIteration | stopAsyncIteration | invalidSyntax | indentation | tab | system
  | type | value | unicode | unicodeDecode | unicodeEncode | unicodeTranslate | group | warning
  | bytesWarning | deprecationWarning | encodingWarning | futureWarning | importWarning
  | pendingDeprecationWarning | resourceWarning | runtimeWarning | syntaxWarning | unicodeWarning
  | userWarning
  deriving DecidableEq, Repr

namespace FailureKind

/-- How a class is written. -/
def name : FailureKind → String
  | .base => "BaseException"
  | .baseGroup => "BaseExceptionGroup"
  | .generatorExit => "GeneratorExit"
  | .keyboardInterrupt => "KeyboardInterrupt"
  | .systemExit => "SystemExit"
  | .exception => "Exception"
  | .arithmetic => "ArithmeticError"
  | .floatingPoint => "FloatingPointError"
  | .overflow => "OverflowError"
  | .zeroDivision => "ZeroDivisionError"
  | .assertion => "AssertionError"
  | .attribute => "AttributeError"
  | .frozenInstance => "FrozenInstanceError"
  | .buffer => "BufferError"
  | .endOfFile => "EOFError"
  | .importing => "ImportError"
  | .moduleNotFound => "ModuleNotFoundError"
  | .lookup => "LookupError"
  | .index => "IndexError"
  | .key => "KeyError"
  | .memory => "MemoryError"
  | .unknownName => "NameError"
  | .unboundLocal => "UnboundLocalError"
  | .os => "OSError"
  | .blocking => "BlockingIOError"
  | .childProcess => "ChildProcessError"
  | .connection => "ConnectionError"
  | .brokenPipe => "BrokenPipeError"
  | .connectionAborted => "ConnectionAbortedError"
  | .connectionRefused => "ConnectionRefusedError"
  | .connectionReset => "ConnectionResetError"
  | .fileExists => "FileExistsError"
  | .fileNotFound => "FileNotFoundError"
  | .interrupted => "InterruptedError"
  | .isADirectory => "IsADirectoryError"
  | .notADirectory => "NotADirectoryError"
  | .permission => "PermissionError"
  | .processLookup => "ProcessLookupError"
  | .timeout => "TimeoutError"
  | .reference => "ReferenceError"
  | .runtime => "RuntimeError"
  | .notImplemented => "NotImplementedError"
  | .recursion => "RecursionError"
  | .stopIteration => "StopIteration"
  | .stopAsyncIteration => "StopAsyncIteration"
  | .invalidSyntax => "SyntaxError"
  | .indentation => "IndentationError"
  | .tab => "TabError"
  | .system => "SystemError"
  | .type => "TypeError"
  | .value => "ValueError"
  | .unicode => "UnicodeError"
  | .unicodeDecode => "UnicodeDecodeError"
  | .unicodeEncode => "UnicodeEncodeError"
  | .unicodeTranslate => "UnicodeTranslateError"
  | .group => "ExceptionGroup"
  | .warning => "Warning"
  | .bytesWarning => "BytesWarning"
  | .deprecationWarning => "DeprecationWarning"
  | .encodingWarning => "EncodingWarning"
  | .futureWarning => "FutureWarning"
  | .importWarning => "ImportWarning"
  | .pendingDeprecationWarning => "PendingDeprecationWarning"
  | .resourceWarning => "ResourceWarning"
  | .runtimeWarning => "RuntimeWarning"
  | .syntaxWarning => "SyntaxWarning"
  | .unicodeWarning => "UnicodeWarning"
  | .userWarning => "UserWarning"

/-- The classes above a class, the nearest first. -/
def ancestors : FailureKind → List FailureKind
  | .base => []
  | .baseGroup | .generatorExit | .keyboardInterrupt | .systemExit | .exception => [.base]
  | .arithmetic | .assertion | .attribute | .buffer | .endOfFile | .importing | .lookup | .memory
  | .unknownName | .os | .reference | .runtime | .stopIteration | .stopAsyncIteration
  | .invalidSyntax | .system | .type | .value | .warning => [.exception, .base]
  | .floatingPoint | .overflow | .zeroDivision => [.arithmetic, .exception, .base]
  | .frozenInstance => [.attribute, .exception, .base]
  | .moduleNotFound => [.importing, .exception, .base]
  | .index | .key => [.lookup, .exception, .base]
  | .unboundLocal => [.unknownName, .exception, .base]
  | .blocking | .childProcess | .connection | .fileExists | .fileNotFound | .interrupted
  | .isADirectory | .notADirectory | .permission | .processLookup | .timeout =>
    [.os, .exception, .base]
  | .brokenPipe | .connectionAborted | .connectionRefused | .connectionReset =>
    [.connection, .os, .exception, .base]
  | .notImplemented | .recursion => [.runtime, .exception, .base]
  | .indentation => [.invalidSyntax, .exception, .base]
  | .tab => [.indentation, .invalidSyntax, .exception, .base]
  | .unicode => [.value, .exception, .base]
  | .unicodeDecode | .unicodeEncode | .unicodeTranslate => [.unicode, .value, .exception, .base]
  | .group => [.baseGroup, .exception, .base]
  | .bytesWarning | .deprecationWarning | .encodingWarning | .futureWarning | .importWarning
  | .pendingDeprecationWarning | .resourceWarning | .runtimeWarning | .syntaxWarning
  | .unicodeWarning | .userWarning => [.warning, .exception, .base]

/-- Every class. -/
def all : List FailureKind :=
  [.base, .baseGroup, .generatorExit, .keyboardInterrupt, .systemExit, .exception, .arithmetic,
   .floatingPoint, .overflow, .zeroDivision, .assertion, .attribute, .frozenInstance, .buffer,
   .endOfFile, .importing, .moduleNotFound, .lookup, .index, .key, .memory, .unknownName,
   .unboundLocal, .os, .blocking, .childProcess, .connection, .brokenPipe, .connectionAborted,
   .connectionRefused, .connectionReset, .fileExists, .fileNotFound, .interrupted, .isADirectory,
   .notADirectory, .permission, .processLookup, .timeout, .reference, .runtime, .notImplemented,
   .recursion, .stopIteration, .stopAsyncIteration, .invalidSyntax, .indentation, .tab, .system,
   .type, .value, .unicode, .unicodeDecode, .unicodeEncode, .unicodeTranslate, .group, .warning,
   .bytesWarning, .deprecationWarning, .encodingWarning, .futureWarning, .importWarning,
   .pendingDeprecationWarning, .resourceWarning, .runtimeWarning, .syntaxWarning,
   .unicodeWarning, .userWarning]

/-- Other spellings of classes. -/
def aliases : List (String × FailureKind) := [("IOError", .os), ("EnvironmentError", .os)]

/-- The class that a name stands for. -/
def ofName? (name : String) : Option FailureKind :=
  (all.find? (·.name == name)).or (aliases.lookup name)

/-- A class is another one or stands below it. -/
def isA (kind other : FailureKind) : Bool := kind == other || kind.ancestors.contains other

/-- A class of failures that programs are expected to handle. -/
abbrev isOrdinary (kind : FailureKind) : Bool := kind.isA .exception

@[simp] theorem isA_self (kind : FailureKind) : kind.isA kind = true := by simp [isA]

theorem ancestors_subset (kind : FailureKind) :
    ∀ other ∈ kind.ancestors, ∀ c ∈ other.ancestors, c ∈ kind.ancestors := by
  cases kind <;> decide

/-- The hierarchy is transitive. -/
theorem isA_trans {a b c : FailureKind} (hab : a.isA b = true) (hbc : b.isA c = true) :
    a.isA c = true := by
  simp only [isA, Bool.or_eq_true, beq_iff_eq, List.contains_iff_mem] at *
  rcases hab with rfl | hab
  · exact hbc
  · rcases hbc with rfl | hbc
    · exact Or.inr hab
    · exact Or.inr (ancestors_subset a b hab c hbc)

/-- Programs are not expected to handle interrupts. -/
theorem not_interrupt_of_isOrdinary {kind : FailureKind} (h : kind.isOrdinary = true) :
    kind.isA .keyboardInterrupt = false := by
  cases kind <;> first | rfl | cases h

/-- Nor are they expected to handle exits. -/
theorem not_exit_of_isOrdinary {kind : FailureKind} (h : kind.isOrdinary = true) :
    kind.isA .systemExit = false := by
  cases kind <;> first | rfl | cases h

/-- Nobody leaves by an interrupt. -/
theorem not_exit_of_interrupt {kind : FailureKind} (h : kind.isA .keyboardInterrupt = true) :
    kind.isA .systemExit = false := by
  cases kind <;> first | rfl | cases h

end FailureKind

end PromptLoop
