import PromptLoop.Text.WordChar
import PromptLoop.Text.Integer

/-!
# Tokens of a line

A line is read character by character into words, numbers, string literals and punctuation. Blanks
are dropped, and so are the letters that can start neither a word nor a number; a comment drops the
rest of the line. A string literal may lack its closing quote.

## Main definitions

* `Token`: a piece of a line that matters to indentation
* `Scanner.Mode`: what the reader is inside of
* `Scanner.step`, `Scanner.run`: one character, and a sequence of characters
* `tokens`: the tokens of a line

## Main results

* `Scanner.run_append`: reading two parts is reading the first, then the second
-/

namespace PromptLoop

open Text

/-- What a token is. -/
inductive TokenKind
  | string
  | word
  | number
  | punct
  deriving DecidableEq, Repr

/-- A piece of a line that matters to indentation. -/
structure Token where
  kind : TokenKind
  text : String
  deriving DecidableEq, Repr

namespace Scanner

/-- What the reader is inside of, with the characters read there, last first. -/
inductive Mode
  | between
  | word (seen : List Char)
  | number (seen : List Char)
  | string (quote : Char) (seen : List Char)
  | escape (quote : Char) (seen : List Char)
  | comment
  deriving DecidableEq, Repr

/-- A letter that starts a word: a word is made of ASCII letters, digits and underscores. -/
def isWordStart (c : Char) : Bool := c.isAlpha || c == '_'

/-- A character that continues a word. -/
def isWordPart (c : Char) : Bool := c.isAlphanum || c == '_'

/-- The token that the characters read so far make, last first. -/
def token (kind : TokenKind) (seen : List Char) : Token := ⟨kind, String.ofList seen.reverse⟩

/-- A character read between tokens. -/
def start (c : Char) : List Token × Mode :=
  if c = '"' ∨ c = '\'' then ([], .string c [c])
  else if c = '#' then ([], .comment)
  else if isWordStart c then ([], .word [c])
  else if isDigit c then ([], .number [c])
  else if isBlank c || isWordChar c then ([], .between)
  else ([token .punct [c]], .between)

/-- A character read where a token has just ended. -/
def endAndStart (done : List Token) (c : Char) : List Token × Mode :=
  (done ++ (start c).1, (start c).2)

/-- The tokens that are complete once a character is read, and what the reader is then inside of. A
word takes one `?` or `!` at its end; a backslash in a string takes the character after it along. -/
def step : Mode → Char → List Token × Mode
  | .between, c => start c
  | .comment, _ => ([], .comment)
  | .word seen, c =>
    if isWordPart c then ([], .word (c :: seen))
    else if c = '?' ∨ c = '!' then ([token .word (c :: seen)], .between)
    else endAndStart [token .word seen] c
  | .number seen, c =>
    if isNameChar c then ([], .number (c :: seen)) else endAndStart [token .number seen] c
  | .string quote seen, c =>
    if c = quote then ([token .string (c :: seen)], .between)
    else if c = '\\' then ([], .escape quote seen)
    else ([], .string quote (c :: seen))
  | .escape quote seen, c =>
    if c = '\n' then ([token .string seen, token .punct ['\\']], .between)
    else ([], .string quote (c :: '\\' :: seen))

/-- The tokens completed by a sequence of characters, and what the reader is then inside of. -/
def run : Mode → List Char → List Token × Mode
  | mode, [] => ([], mode)
  | mode, c :: cs =>
    ((step mode c).1 ++ (run (step mode c).2 cs).1, (run (step mode c).2 cs).2)

/-- The tokens that the end of the line completes. -/
def finish : Mode → List Token
  | .between => []
  | .comment => []
  | .word seen => [token .word seen]
  | .number seen => [token .number seen]
  | .string _ seen => [token .string seen]
  | .escape _ seen => [token .string seen, token .punct ['\\']]

@[simp] theorem run_nil (mode : Mode) : run mode [] = ([], mode) := rfl

theorem run_cons (mode : Mode) (c : Char) (cs : List Char) :
    run mode (c :: cs) =
      ((step mode c).1 ++ (run (step mode c).2 cs).1, (run (step mode c).2 cs).2) := rfl

/-- Reading two parts is reading the first, then the second. -/
theorem run_append (mode : Mode) (cs ds : List Char) :
    run mode (cs ++ ds) =
      ((run mode cs).1 ++ (run (run mode cs).2 ds).1, (run (run mode cs).2 ds).2) := by
  induction cs generalizing mode with
  | nil => simp
  | cons c cs ih => simp [run_cons, ih]

/-- Nothing is read inside a comment. -/
@[simp] theorem run_comment (cs : List Char) : run .comment cs = ([], .comment) := by
  induction cs with
  | nil => rfl
  | cons c cs ih => simp [run_cons, step, ih]

end Scanner

/-- The tokens of a line. -/
def tokens (line : List Char) : List Token :=
  (Scanner.run .between line).1 ++ Scanner.finish (Scanner.run .between line).2

@[simp] theorem tokens_nil : tokens [] = [] := rfl

end PromptLoop
