/-!
# Reading UTF-8

Octets read as characters, with the place and the reason of the first fault.

## Main definitions

* `Utf8.Fault`: where the octets stop being UTF-8, and why
* `Utf8.decode`: the characters of a sequence of octets, or the first fault
-/

namespace PromptLoop.Text.Utf8

/-- Why octets are no characters. -/
inductive Reason
  | invalidStart
  | invalidContinuation
  | unexpectedEnd
  deriving DecidableEq, Repr

/-- The wording of a reason. -/
def Reason.text : Reason → String
  | .invalidStart => "invalid start byte"
  | .invalidContinuation => "invalid continuation byte"
  | .unexpectedEnd => "unexpected end of data"

/-- The octets from `start` up to `stop` are no characters, for a reason. -/
structure Fault where
  start : Nat
  stop : Nat
  reason : Reason
  deriving DecidableEq, Repr

/-- The octets that may follow a first octet, in order: each range is for one octet. -/
def following (b : Nat) : Option (List (Nat × Nat)) :=
  if b < 0x80 then some []
  else if b < 0xC2 then none
  else if b < 0xE0 then some [(0x80, 0xBF)]
  else if b < 0xF0 then
    some [if b = 0xE0 then (0xA0, 0xBF) else if b = 0xED then (0x80, 0x9F) else (0x80, 0xBF),
      (0x80, 0xBF)]
  else if b < 0xF5 then
    some [if b = 0xF0 then (0x90, 0xBF) else if b = 0xF4 then (0x80, 0x8F) else (0x80, 0xBF),
      (0x80, 0xBF), (0x80, 0xBF)]
  else none

/-- The bits that a first octet contributes. -/
def leadBits (b : Nat) : Nat :=
  if b < 0x80 then b else if b < 0xE0 then b % 0x20 else if b < 0xF0 then b % 0x10 else b % 0x08

/-- Reads the octets that must follow, each in its range: the code point and the rest, or how many
were read and why the next one is wrong. -/
def continueChar : List (Nat × Nat) → Nat → Nat → List Nat → Except (Nat × Reason) (Nat × List Nat)
  | [], _, code, rest => .ok (code, rest)
  | _ :: _, taken, _, [] => .error (taken, .unexpectedEnd)
  | (lo, hi) :: ranges, taken, code, b :: rest =>
    if lo ≤ b ∧ b ≤ hi then continueChar ranges (taken + 1) (code * 0x40 + b % 0x40) rest
    else .error (taken, .invalidContinuation)

theorem continueChar_length {ranges : List (Nat × Nat)} {taken code : Nat} {octets : List Nat}
    {found : Nat × List Nat} (h : continueChar ranges taken code octets = .ok found) :
    found.2.length ≤ octets.length := by
  induction octets generalizing ranges taken code with
  | nil =>
    cases ranges with
    | nil => simp only [continueChar, Except.ok.injEq] at h; subst h; simp
    | cons r ranges => simp [continueChar] at h
  | cons b rest ih =>
    cases ranges with
    | nil => simp only [continueChar, Except.ok.injEq] at h; subst h; simp
    | cons r ranges =>
      rw [continueChar] at h
      split at h
      · exact Nat.le_succ_of_le (ih h)
      · simp at h

/-- The characters of octets that start at a position. -/
def decodeAt (position : Nat) : List Nat → Except Fault (List Char)
  | [] => .ok []
  | b :: rest =>
    match following b with
    | none => .error ⟨position, position + 1, .invalidStart⟩
    | some ranges =>
      match h : continueChar ranges 1 (leadBits b) rest with
      | .error (taken, reason) => .error ⟨position, position + taken, reason⟩
      | .ok (code, after) =>
        have : after.length < rest.length + 1 := Nat.lt_succ_of_le (continueChar_length h)
        match decodeAt (position + ranges.length + 1) after with
        | .error fault => .error fault
        | .ok cs => .ok (Char.ofNat code :: cs)
termination_by octets => octets.length

/-- The characters of a sequence of octets, or the first fault. -/
def decode (octets : List Nat) : Except Fault (List Char) := decodeAt 0 octets

end PromptLoop.Text.Utf8
