import PromptLoop.Failure.Basic
import PromptLoop.Indent.Rules

/-!
# Configuration

What a session is told before it starts. A draft holds the settings as they were given; a
configuration is a draft that passed the checks.

## Main definitions

* `Draft`: settings as given
* `Config`: settings that make sense
* `Config.Fault`: why settings do not
* `Draft.check`: the configuration of a draft

## Main results

* `Draft.check_isOk_iff`: which drafts pass
-/

namespace PromptLoop

/-- Read errors tolerated per read, unless settings say otherwise. -/
def defaultRetries : Int := 5

/-- Columns per level of indentation, unless settings say otherwise. -/
def defaultWidth : Int := 2

/-- Classes of failures that are reported and retried while reading, unless settings say
otherwise. -/
def defaultRescuable : List FailureKind := [.os, .runtime, .unicodeDecode, .value]

/-- Settings as given. -/
structure Draft where
  autoIndent : Bool := true
  correctIndent : Bool := true
  maxReadRetries : Int := defaultRetries
  indentWidth : Int := defaultWidth
  rules : IndentRules := .closingKeyword
  rescuable : List Value := defaultRescuable.map .failureClass
  deriving DecidableEq, Repr

/-- Settings that make sense. -/
structure Config where
  /-- Prompts start with the indentation of the open constructs. -/
  autoIndent : Bool
  /-- An echoed line whose indentation changed is painted again. -/
  correctIndent : Bool
  /-- Rescuable failures tolerated per read. -/
  maxReadRetries : Int
  /-- Columns per level of indentation. -/
  indentWidth : Int
  rules : IndentRules
  /-- Classes of failures that are reported and retried while reading. -/
  rescuable : List FailureKind
  retries_pos : 0 < maxReadRetries
  width_pos : 0 < indentWidth
  rescuable_ordinary : ∀ kind ∈ rescuable, kind.isOrdinary = true
  deriving DecidableEq, Repr

namespace Config

/-- Why settings make no sense. -/
inductive Fault
  | noRetries
  | noWidth
  | notRescuable (v : Value)
  | badFlag (name text : String)
  | badRetries (name text : String)
  deriving DecidableEq, Repr

/-- The wording of a fault, unless the value at fault cannot be written. -/
def Fault.message? : Fault → Option String
  | .noRetries => some "max_read_retries must be > 0"
  | .noWidth => some "indent_width must be > 0"
  | .notRescuable v =>
    v.literal?.map ("rescuable_exceptions must be Exception subclasses, got " ++ ·)
  | .badFlag name text => some (name ++ " must be a boolean flag, got " ++ Text.quoted text)
  | .badRetries name text => some (name ++ " must be an integer, got " ++ Text.quoted text)

/-- A fault as the failure that reports it. -/
def Fault.failure (fault : Fault) : Failure :=
  match inWriting fault.message? with
  | .ok message => .saying .value message
  | .error f => f

/-- Faults are value errors, also those that cannot be written. -/
theorem Fault.failure_kind (fault : Fault) : fault.failure.kind = .value := by
  rw [failure]
  cases fault.message? <;> rfl

/-- A configuration does not change: what an assignment to one of its fields raises. -/
def frozen (field : String) : Failure :=
  .saying .frozenInstance ("cannot assign to field " ++ Text.quoted field)

/-- The configuration of no settings at all. -/
def standard : Config where
  autoIndent := true
  correctIndent := true
  maxReadRetries := defaultRetries
  indentWidth := defaultWidth
  rules := .closingKeyword
  rescuable := defaultRescuable
  retries_pos := by decide
  width_pos := by decide
  rescuable_ordinary := by decide

/-- A failure that is reported and retried while reading. -/
def rescues (config : Config) (f : Failure) : Bool := f.isAny config.rescuable

end Config

namespace Draft

/-- The class that a value names, if its failures may be rescued. -/
def rescuableKind? : Value → Option FailureKind
  | .failureClass kind => if kind.isOrdinary then some kind else none
  | _ => none

/-- Classes whose failures may be rescued. -/
abbrev Rescuable := { kinds : List FailureKind // ∀ kind ∈ kinds, kind.isOrdinary = true }

/-- The classes that values name; the first value that names none is at fault. -/
def rescuableKinds : List Value → Except Config.Fault Rescuable
  | [] => .ok ⟨[], by simp⟩
  | v :: vs =>
    match h : rescuableKind? v with
    | none => .error (.notRescuable v)
    | some kind =>
      match rescuableKinds vs with
      | .error fault => .error fault
      | .ok ⟨kinds, hkinds⟩ =>
        have hkind : kind.isOrdinary = true := by
          rw [rescuableKind?.eq_def] at h
          split at h
          · split at h
            · simp_all
            · simp at h
          · simp at h
        .ok ⟨kind :: kinds, by simpa using ⟨hkind, hkinds⟩⟩

/-- The configuration of a draft, or the first fault. -/
def check (draft : Draft) : Except Config.Fault Config :=
  if hr : 0 < draft.maxReadRetries then
    if hw : 0 < draft.indentWidth then
      match rescuableKinds draft.rescuable with
      | .error fault => .error fault
      | .ok ⟨kinds, hkinds⟩ =>
        .ok ⟨draft.autoIndent, draft.correctIndent, draft.maxReadRetries, draft.indentWidth,
          draft.rules, kinds, hr, hw, hkinds⟩
    else .error .noWidth
  else .error .noRetries

theorem rescuableKinds_isOk_iff (vs : List Value) :
    (rescuableKinds vs).isOk = true ↔ ∀ v ∈ vs, (rescuableKind? v).isSome = true := by
  induction vs with
  | nil => simp [rescuableKinds, Except.isOk, Except.toBool]
  | cons v vs ih =>
    rw [rescuableKinds]
    split
    · next h => simp [Except.isOk, Except.toBool, h]
    · next kind h =>
      rw [List.forall_mem_cons, ← ih]
      split
      · next hvs => simp [hvs, Except.isOk, Except.toBool]
      · next hvs => simp [hvs, h, Except.isOk, Except.toBool]

/-- The drafts that pass: both numbers are positive, and every rescuable value names a class whose
failures may be rescued. -/
theorem check_isOk_iff (draft : Draft) :
    draft.check.isOk = true ↔
      0 < draft.maxReadRetries ∧ 0 < draft.indentWidth ∧
        ∀ v ∈ draft.rescuable, (rescuableKind? v).isSome = true := by
  rw [← rescuableKinds_isOk_iff, check]
  by_cases hr : 0 < draft.maxReadRetries
  · by_cases hw : 0 < draft.indentWidth
    · simp only [hr, hw, dif_pos, true_and]
      cases rescuableKinds draft.rescuable <;> simp [Except.isOk, Except.toBool]
    · simp [hw, Except.isOk, Except.toBool, hr]
  · simp [hr, Except.isOk, Except.toBool]

end Draft

end PromptLoop
