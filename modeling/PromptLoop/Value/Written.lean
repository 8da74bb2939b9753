import PromptLoop.Text.Integer
import PromptLoop.Text.Quoted
import PromptLoop.Value.Basic

/-!
# Values and failures in writing

How values are echoed, and what failures say. A number with too many digits is not written, and
neither is anything that such a number is part of: where it would have to be, a failure is raised in
its place.

## Main definitions

* `Value.literal?`: a value as it is echoed
* `Value.display?`, `Failure.text?`: a value as text, and what a failure says
* `Failure.summary?`: the class of a failure and what it says
* `inWriting`: what is written, or the failure that stands in its place
* `Value.display`, `Failure.text`, `Failure.headline`: texts where nothing is raised
-/

namespace PromptLoop

open Text

/-- What stands in the place of a number that is not written. -/
def tooManyDigits : Failure :=
  .saying .value <| "Exceeds the limit (" ++ toString maxDigits ++
    " digits) for integer string conversion; use sys.set_int_max_str_digits() to increase the limit"

/-- A number in decimal digits, unless these are too many. -/
def numeral? (n : Int) : Option String :=
  if (Nat.toDigits 10 n.natAbs).length ≤ maxDigits then some (toString n) else none

/-- A truth value as it is echoed. -/
def truthLiteral (b : Bool) : String := if b then "True" else "False"

/-- A class as it is echoed. -/
def classLiteral (name : String) : String := "<class '" ++ name ++ "'>"

mutual

/-- A value as it is echoed. -/
def Value.literal? : Value → Option String
  | .null => some "None"
  | .bool b => some (truthLiteral b)
  | .int n => numeral? n
  | .str s => some (quoted s)
  | .list items => (Value.literals? items).map fun texts => "[" ++ ", ".intercalate texts ++ "]"
  | .dict entries =>
    (Value.entryLiterals? entries).map fun texts => "\x7b" ++ ", ".intercalate texts ++ "\x7d"
  | .failure f => f.literal?
  | .failureClass kind => some (classLiteral kind.name)
  | .plainClass name => some (classLiteral name)

/-- The values of a list as they are echoed. -/
def Value.literals? : List Value → Option (List String)
  | [] => some []
  | v :: rest => do return (← v.literal?) :: (← Value.literals? rest)

/-- Keys with their values as they are echoed. -/
def Value.entryLiterals? : List (String × Value) → Option (List String)
  | [] => some []
  | (key, v) :: rest => do
    return (quoted key ++ ": " ++ (← v.literal?)) :: (← Value.entryLiterals? rest)

/-- A failure as it is echoed. -/
def Failure.literal? : Failure → Option String
  | .raised kind none => some (kind.name ++ "()")
  | .raised kind (some v) => v.literal?.map fun text => kind.name ++ "(" ++ text ++ ")"
  | .undecodable octets start stop reason =>
    some ("UnicodeDecodeError('utf-8', " ++ quotedOctets octets ++ ", " ++ toString start ++ ", " ++
      toString stop ++ ", " ++ quoted reason ++ ")")

end

/-- Where octets are no UTF-8, and why. -/
def undecodableText (octets : List Nat) (start stop : Nat) (reason : String) : String :=
  let place :=
    if stop = start + 1 then
      "byte 0x" ++ String.ofList (hex 2 (octets.getD start 0)) ++ " in position " ++ toString start
    else "bytes in position " ++ toString start ++ "-" ++ toString (stop - 1)
  "'utf-8' codec can't decode " ++ place ++ ": " ++ reason

mutual

/-- A value as text: a text as itself, and a failure as what it says. -/
def Value.display? : Value → Option String
  | .str s => some s
  | .failure f => f.text?
  | v => v.literal?

/-- What a failure says: what it is raised with, echoed when it names a missing key. Raised with
nothing it says nothing, except for bad syntax. -/
def Failure.text? : Failure → Option String
  | .raised kind none => some (if kind.isA .invalidSyntax then "None" else "")
  | .raised kind (some v) => if kind = .key then v.literal? else v.display?
  | .undecodable octets start stop reason => some (undecodableText octets start stop reason)

end

/-- A text that is written, or the failure that stands in its place. -/
def inWriting : Option String → Except Failure String
  | some text => .ok text
  | none => .error tooManyDigits

/-- A value as text where nothing is raised: what is not written is left out. -/
def Value.display (v : Value) : String := v.display?.getD ""

instance : Repr Value where
  reprPrec v _ := v.display

namespace Failure

/-- What stands for what a failure says where that is not written and nothing is raised. -/
def noText : String := "<exception str() failed>"

/-- What a failure says, where nothing is raised. -/
def text (f : Failure) : String := f.text?.getD noText

/-- The class of a failure and something that it says. -/
def entitled (f : Failure) (text : String) : String := f.kind.name ++ ": " ++ text

/-- The class of a failure and what it says. -/
def summary? (f : Failure) : Option String := f.text?.map f.entitled

/-- The class of a failure and what it says, if it says anything; nothing is raised. -/
def headline (f : Failure) : String := if f.text = "" then f.kind.name else f.entitled f.text

instance : Repr Failure where
  reprPrec f _ := f.headline

/-- What a failure says about bad syntax: what it is raised with, if that counts for anything. -/
def detail? : Failure → Option Value
  | .raised _ argument => argument.filter Value.isTruthy
  | .undecodable .. => none

theorem text_of_text? {f : Failure} {text : String} (h : f.text? = some text) : f.text = text := by
  rw [Failure.text, h, Option.getD_some]

end Failure

@[simp] theorem inWriting_some (text : String) : inWriting (some text) = .ok text := rfl

@[simp] theorem inWriting_none : inWriting none = .error tooManyDigits := rfl

/-- What is made of a text fails just where there is none. -/
theorem inWriting_map_eq_error_iff {α : Type} {text? : Option String} {make : String → α}
    {f : Failure} :
    (inWriting text?).map make = .error f ↔ f = tooManyDigits ∧ text? = none := by
  cases text? with
  | none =>
    constructor
    · exact fun h => ⟨(Except.error.inj h).symm, rfl⟩
    · exact fun h => congrArg Except.error h.1.symm
  | some text => exact iff_of_false nofun nofun

/-- Programs are expected to handle what is raised in the place of a number. -/
theorem tooManyDigits_isOrdinary : tooManyDigits.kind.isOrdinary = true := rfl

example : (Value.list [.int 1, .str "a", .null]).literal? = some "[1, 'a', None]" := by
  decide +kernel

example : (Failure.saying .key "k").text? = some "'k'" := by decide +kernel

/-- A number with too many digits to be written. -/
def Value.enormous : Value := .int (Int.ofNat (Nat.pow 10 5000))

example : (Failure.raised .value (some .enormous)).text? = none := by decide +kernel

example : (Failure.undecodable [0xff] 0 1 "m").text =
    "'utf-8' codec can't decode byte 0xff in position 0: m" := by decide +kernel

end PromptLoop
