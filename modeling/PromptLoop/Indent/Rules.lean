import PromptLoop.Indent.Token

/-!
# Indentation rules

Which tokens open, continue and close indented constructs. Rules are data, so that one tracker
serves languages with closing keywords and languages with colon blocks.

## Main definitions

* `IndentRules`: the keyword sets, the bracket pairs and the block style
* `IndentRules.closingKeyword`: rules for blocks that a keyword opens and `end` closes
* `IndentRules.colonBlock`: rules for blocks that a colon at the end of a line opens
* `IndentRules.opener?`: the bracket that a closing bracket closes
-/

namespace PromptLoop

/-- Which tokens open, continue and close indented constructs. -/
structure IndentRules where
  /-- Open a block where they start a statement. -/
  openKeywords : List String := []
  /-- Open a block anywhere on a line. -/
  inlineOpenKeywords : List String := []
  /-- Close the innermost keyword block. -/
  closeKeywords : List String := []
  /-- Continue a block one level out. -/
  midKeywords : List String := []
  /-- Start a statement whose inline opener on the same line opens no second block. -/
  loopKeywords : List String := []
  /-- Opening brackets with their closing brackets. -/
  brackets : List (String × String) := [("(", ")"), ("[", "]"), ("\x7b", "\x7d")]
  /-- A line that ends in a colon opens a block. -/
  colonBlocks : Bool := false
  /-- Start the last line of a colon block. -/
  dedentAfter : List String := []
  deriving DecidableEq, Repr

namespace IndentRules

/-- Blocks that a keyword opens and `end` closes. -/
def closingKeyword : IndentRules where
  openKeywords :=
    ["if", "unless", "while", "until", "for", "def", "class", "module", "case", "begin"]
  inlineOpenKeywords := ["do"]
  closeKeywords := ["end"]
  midKeywords := ["else", "elsif", "when", "rescue", "ensure"]
  loopKeywords := ["while", "until", "for"]

/-- Blocks that a colon at the end of a line opens and the indentation closes. -/
def colonBlock : IndentRules where
  midKeywords := ["else", "elif", "except", "finally"]
  colonBlocks := true
  dedentAfter := ["return", "pass", "break", "continue", "raise"]

/-- An opening bracket. -/
def opensBracket (rules : IndentRules) (text : String) : Bool :=
  rules.brackets.any (·.1 == text)

/-- The bracket that a closing bracket closes: of two with one closing bracket, the later one. -/
def opener? (rules : IndentRules) (text : String) : Option String :=
  (rules.brackets.reverse.find? (·.2 == text)).map (·.1)

/-- A closing bracket. -/
def closesBracket (rules : IndentRules) (text : String) : Bool := (rules.opener? text).isSome

end IndentRules

end PromptLoop
