import PromptLoop.Text.Printable

/-!
# Quoted text

Text between quotes, as values and diagnostics show it: single quotes, unless the text holds a
single quote and no double quote; the quote in use and the backslash escaped; characters without a
printed form as escapes.

## Main definitions

* `hex`: a number in lower case hexadecimal, padded with zeros
* `escape`: one character between quotes
* `quoted`: a text between quotes
* `quotedOctets`: a sequence of octets between quotes
-/

namespace PromptLoop.Text

/-- The hexadecimal digit of a number below sixteen. -/
def hexDigit (n : Nat) : Char :=
  if n < 10 then Char.ofNat ('0'.toNat + n) else Char.ofNat ('a'.toNat + (n - 10))

/-- The last `width` hexadecimal digits of a number. -/
def hex : Nat → Nat → List Char
  | 0, _ => []
  | width + 1, n => hex width (n / 16) ++ [hexDigit (n % 16)]

/-- The escape of a character that has no printed form: as short as its code point allows. -/
def codeEscape (n : Nat) : List Char :=
  if n < 0x100 then '\\' :: 'x' :: hex 2 n
  else if n < 0x10000 then '\\' :: 'u' :: hex 4 n
  else '\\' :: 'U' :: hex 8 n

/-- One character between the given quotes. -/
def escape (quote c : Char) : List Char :=
  if c = quote ∨ c = '\\' then ['\\', c]
  else if c = '\n' then ['\\', 'n']
  else if c = '\r' then ['\\', 'r']
  else if c = '\t' then ['\\', 't']
  else if isPrintable c then [c]
  else codeEscape c.toNat

/-- The quote that needs fewer escapes: double only when the text holds a single quote and no double
quote. -/
def quoteFor (cs : List Char) : Char :=
  if cs.contains '\'' && !cs.contains '"' then '"' else '\''

/-- A text between quotes. -/
def quoted (s : String) : String :=
  let cs := s.toList
  let quote := quoteFor cs
  String.ofList (quote :: cs.flatMap (escape quote) ++ [quote])

/-- One octet between the given quotes: all but printed ASCII as an escape. -/
def escapeOctet (quote : Char) (n : Nat) : List Char :=
  if n < 0x80 then escape quote (Char.ofNat n) else codeEscape n

/-- A sequence of octets between quotes, marked with a `b`. -/
def quotedOctets (octets : List Nat) : String :=
  let quote := quoteFor ((octets.filter (· < 0x80)).map Char.ofNat)
  String.ofList ('b' :: quote :: octets.flatMap (escapeOctet quote) ++ [quote])

example : quoted "it's" = "\"it's\"" := by decide +kernel

example : quoted "a\n\"b'" = "'a\\n\"b\\''" := by decide +kernel

example : quoted "\u200b" = "'\\u200b'" := by decide +kernel

end PromptLoop.Text
