import PromptLoop.Indent.Rules

/-!
# Open constructs

The constructs that a buffer of lines has opened and not closed, as a stack of markers: the bracket
or keyword that opened each, or a colon for a colon block. The innermost construct comes first.

## Main definitions

* `Constructs`: the stack of markers
* `Constructs.leadingDedent`: how many levels out a line itself stands
* `Constructs.resync`: the stack after explicit indentation has closed colon blocks
* `Constructs.afterToken`, `Constructs.after`: the stack after a token, and after a line
-/

namespace PromptLoop

/-- The markers of the open constructs, innermost first. -/
abbrev Constructs := List String

/-- The marker of a colon block, and the token that opens it. -/
def colon : String := ":"

/-- Tokens after which an opening keyword still starts a block, as in `x = if y`. -/
def expressionStarters : List String := ["=", "(", ",", "[", "\x7b", "|", "&"]

/-- Tokens after which a word is a member or a symbol and never a keyword. -/
def memberMarks : List String := [".", ":", "@", "$"]

/-- The word that a line starts with. -/
def firstWord? : List Token → Option String
  | [] => none
  | t :: _ => if t.kind = .word then some t.text else none

/-- A line starts with one of the given keywords. -/
def startsWith (keywords : List String) (ts : List Token) : Bool :=
  (firstWord? ts).any keywords.contains

/-- A token that closes a construct by its text alone. -/
def isCloser (rules : IndentRules) (t : Token) : Bool :=
  (t.kind == .word && rules.closeKeywords.contains t.text) ||
    (t.kind == .punct && rules.closesBracket t.text)

namespace Constructs

/-- The innermost construct is a colon block. -/
def inColonBlock (stack : Constructs) : Bool := stack.head? == some colon

/-- The innermost construct is a bracket. -/
def inBracket (rules : IndentRules) (stack : Constructs) : Bool :=
  stack.head?.any rules.opensBracket

/-- The innermost construct is a keyword or colon block. -/
def inBlock (rules : IndentRules) (stack : Constructs) : Bool :=
  stack.head?.any (!rules.opensBracket ·)

/-- How many levels out a line stands: one for a keyword that continues a block, otherwise one for
each closer that the line starts with, but never more than there are. -/
def leadingDedent (rules : IndentRules) (stack : Constructs) (ts : List Token) : Nat :=
  if startsWith rules.midKeywords ts then min 1 stack.length
  else min (ts.takeWhile (isCloser rules)).length stack.length

/-- Closes colon blocks until no more than `level` constructs are open. -/
def closeTo (level : Int) : Constructs → Constructs
  | [] => []
  | marker :: rest =>
    if level < (rest.length + 1 : Int) ∧ marker = colon then closeTo level rest
    else marker :: rest

/-- The level that a line written with leading blanks stands at: a keyword that continues a block
belongs to the block one level in. -/
def writtenLevel (rules : IndentRules) (width : Int) (leading : Nat) (ts : List Token) : Int :=
  Int.fdiv leading width + if startsWith rules.midKeywords ts then 1 else 0

/-- Explicit indentation counts where colons open blocks, outside brackets. -/
def heedsIndentation (rules : IndentRules) (stack : Constructs) (leading : Nat) : Bool :=
  leading != 0 && rules.colonBlocks && !stack.inBracket rules

/-- The stack after explicit indentation: a line closes the colon blocks it has dedented out of. -/
def resync (rules : IndentRules) (width : Int) (leading : Nat) (ts : List Token)
    (stack : Constructs) : Constructs :=
  if stack.heedsIndentation rules leading then stack.closeTo (writtenLevel rules width leading ts)
  else stack

/-- The stack after a keyword: an opening keyword opens a block only where a statement or an
expression starts, an inline opener unless the line is that of a loop, and a closing keyword closes
no bracket. -/
def afterKeyword (rules : IndentRules) (previous : Option Token) (first : Option String)
    (word : String) (stack : Constructs) : Constructs :=
  if rules.openKeywords.contains word then
    if previous.all fun t => expressionStarters.contains t.text then word :: stack else stack
  else if rules.inlineOpenKeywords.contains word then
    if first.any rules.loopKeywords.contains then stack else word :: stack
  else if rules.closeKeywords.contains word then
    if stack.inBlock rules then stack.tail else stack
  else stack

/-- The stack after a bracket: a closing bracket closes only the bracket it belongs to. -/
def afterPunct (rules : IndentRules) (text : String) (stack : Constructs) : Constructs :=
  if rules.opensBracket text then text :: stack
  else match rules.opener? text with
    | none => stack
    | some opener => if stack.head? = some opener then stack.tail else stack

/-- The stack after one token of a line, given the token before it and the line's first word. -/
def afterToken (rules : IndentRules) (first : Option String) (previous : Option Token) (t : Token)
    (stack : Constructs) : Constructs :=
  match t.kind with
  | .punct => stack.afterPunct rules t.text
  | .word =>
    if previous.any fun p => memberMarks.contains p.text then stack
    else stack.afterKeyword rules previous first t.text
  | .string => stack
  | .number => stack

/-- The stack after the tokens of a line, one after the other. -/
def afterTokens (rules : IndentRules) (first : Option String) :
    Option Token → List Token → Constructs → Constructs
  | _, [], stack => stack
  | previous, t :: ts, stack =>
    afterTokens rules first (some t) ts (stack.afterToken rules first previous t)

/-- The stack once a keyword has continued a colon block: the block it continues is closed first. -/
def beforeTokens (rules : IndentRules) (ts : List Token) (stack : Constructs) : Constructs :=
  if startsWith rules.midKeywords ts && rules.colonBlocks && stack.inColonBlock then stack.tail
  else stack

/-- The stack once the line has ended: a colon opens a block, and a keyword that leaves the block
closes it. -/
def atEnd (rules : IndentRules) (ts : List Token) (stack : Constructs) : Constructs :=
  if rules.colonBlocks && (ts.getLast?.any (·.text == colon)) && !stack.inBracket rules then
    colon :: stack
  else if startsWith rules.dedentAfter ts && stack.inColonBlock then stack.tail
  else stack

/-- The stack after a line. -/
def after (rules : IndentRules) (ts : List Token) (stack : Constructs) : Constructs :=
  atEnd rules ts (afterTokens rules (firstWord? ts) none ts (beforeTokens rules ts stack))

@[simp] theorem afterTokens_nil (rules : IndentRules) (first : Option String)
    (previous : Option Token) (stack : Constructs) :
    afterTokens rules first previous [] stack = stack := rfl

theorem closeTo_length_le (level : Int) (stack : Constructs) :
    (stack.closeTo level).length ≤ stack.length := by
  induction stack with
  | nil => simp [closeTo]
  | cons marker rest ih =>
    rw [closeTo]
    split
    · exact Nat.le_succ_of_le ih
    · simp

end Constructs

end PromptLoop
