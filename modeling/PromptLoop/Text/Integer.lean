import PromptLoop.Text.Blank

/-!
# Integers in settings and arguments

The text of an integer: blanks around it, an optional sign, and decimal digits of any script with
single underscores between them. The digits may not be more than `maxDigits`. Of the separator
controls that count as blanks elsewhere, none may stand around a number.

## Main definitions

* `digit?`: the value of a decimal digit of any script
* `digits?`: the values of the digits of an unsigned number
* `integer?`: the integer a text writes
-/

namespace PromptLoop.Text

/-- The zeros of the decimal digits of every script; the nine digits after each follow it. -/
def decimalZeros : List Nat :=
  [0x30, 0x660, 0x6F0, 0x7C0, 0x966, 0x9E6, 0xA66, 0xAE6, 0xB66, 0xBE6, 0xC66, 0xCE6, 0xD66,
   0xDE6, 0xE50, 0xED0, 0xF20, 0x1040, 0x1090, 0x17E0, 0x1810, 0x1946, 0x19D0, 0x1A80, 0x1A90,
   0x1B50, 0x1BB0, 0x1C40, 0x1C50, 0xA620, 0xA8D0, 0xA900, 0xA9D0, 0xA9F0, 0xAA50, 0xABF0,
   0xFF10, 0x104A0, 0x10D30, 0x11066, 0x110F0, 0x11136, 0x111D0, 0x112F0, 0x11450, 0x114D0,
   0x11650, 0x116C0, 0x11730, 0x118E0, 0x11950, 0x11C50, 0x11D50, 0x11DA0, 0x16A60, 0x16AC0,
   0x16B50, 0x1D7CE, 0x1D7D8, 0x1D7E2, 0x1D7EC, 0x1D7F6, 0x1E140, 0x1E2F0, 0x1E950, 0x1FBF0]

/-- The value of a decimal digit of any script. -/
def digit? (c : Char) : Option Nat :=
  (decimalZeros.find? fun z => z ≤ c.toNat && c.toNat ≤ z + 9).map (c.toNat - ·)

/-- A decimal digit of any script. -/
def isDigit (c : Char) : Bool := (digit? c).isSome

/-- Blank space that may stand around a number. -/
def isNumberBlank (c : Char) : Bool :=
  isBlank c && !(0x1C ≤ c.toNat && c.toNat ≤ 0x1F)

/-- More digits than this are refused. -/
def maxDigits : Nat := 4300

/-- The values of the digits that continue a number; an underscore needs a digit after it. -/
def moreDigits? : List Char → Option (List Nat)
  | [] => some []
  | '_' :: c :: cs => do
    let d ← digit? c
    return d :: (← moreDigits? cs)
  | c :: cs => do
    let d ← digit? c
    return d :: (← moreDigits? cs)

/-- The values of the digits of an unsigned number: at least one, and no underscore in front. -/
def digits? : List Char → Option (List Nat)
  | [] => none
  | c :: cs => do
    let d ← digit? c
    return d :: (← moreDigits? cs)

/-- The number that a sequence of decimal digits writes. -/
def ofDigits (ds : List Nat) : Nat := ds.foldl (fun n d => 10 * n + d) 0

/-- The number that an unsigned text writes. -/
def natural? (cs : List Char) : Option Nat := do
  let ds ← digits? cs
  if ds.length ≤ maxDigits then return ofDigits ds else none

/-- The integer that a text writes. -/
def integer? (s : String) : Option Int :=
  match dropEndWhile isNumberBlank (s.toList.dropWhile isNumberBlank) with
  | '-' :: cs => (natural? cs).map fun n => -(n : Int)
  | '+' :: cs => (natural? cs).map Int.ofNat
  | cs => (natural? cs).map Int.ofNat

example : integer? " -1_0 " = some (-10) := by decide +kernel

example : integer? "1__0" = none := by decide +kernel

example : integer? "٣" = some 3 := by decide +kernel

end PromptLoop.Text
