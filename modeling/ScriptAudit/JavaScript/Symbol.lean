import ScriptAudit.JavaScript.Reader

namespace ScriptAudit.JavaScript

/-- Where an expression stands. -/
structure Context where
  /-- The statement may end behind the expression. -/
  last : Bool
  /-- The word `in` ends the expression. -/
  beforeIn : Bool

/-- Inside brackets, or before a token that has to follow. -/
def Context.enclosed : Context := ⟨false, false⟩

/-- At the end of a statement. -/
def Context.final : Context := ⟨true, false⟩

/-- What a block belongs to. It decides whether an operator could follow the closing brace. -/
inductive BlockPlace where
  /-- A statement of its own: the empty one could still be an object. -/
  | statement
  /-- The body of a function that could be an expression. -/
  | expression
  /-- Any other part of a statement or class. -/
  | part

/-- A symbol that other symbols refer to. -/
inductive Symbol where
  | statement
  | block (place : BlockPlace)
  /-- One expression without commas. -/
  | expression (context : Context)
  /-- Expressions with commas. -/
  | expressions (context : Context)
  /-- An expression whose operators bind at least as tightly as the level. -/
  | operand (context : Context) (level : Nat)
  /-- What stands behind `new`. -/
  | maker (context : Context)
  /-- A markup element. -/
  | element

/-- Readers for the symbols that a rule refers to. -/
abbrev Rules := Symbol → Reader ParseTree

/-- The level of the conditional operator. -/
def conditionalLevel : Nat := 1

/-- The level of operators in front of their operand. -/
def unaryLevel : Nat := 14

/-- The level of `++` and `--`. -/
def updateLevel : Nat := 15

/-- Operators between two operands with their levels. -/
def binaryOperators : List (String × Nat) := [
  ("??", 1), ("||", 2), ("&&", 3), ("|", 4), ("^", 5), ("&", 6),
  ("==", 7), ("===", 7), ("!=", 7), ("!==", 7),
  ("<", 8), ("<=", 8), (">", 8), (">=", 8), ("in", 8), ("instanceof", 8),
  ("<<", 10), (">>", 10), (">>>", 10), ("+", 11), ("-", 11), ("*", 12), ("/", 12), ("%", 12),
  ("**", 13)]

/-- The level of the right operand: `**` groups to the right, all others to the left. -/
def rightLevel (operator : String) (level : Nat) : Nat :=
  if operator == "**" then level else level + 1

def augmentedOperators : List String := [
  "+=", "-=", "*=", "/=", "%=", "^=", "&=", "|=", ">>=", ">>>=", "<<=", "**=", "&&=", "||=", "??="]

/-- Marks that may follow an operand. -/
def operatorMarks : List String :=
  ["=", "=>", "++", "--", "?"] ++ augmentedOperators ++
    (binaryOperators.map (·.1)).filter fun o => o != "in" && o != "instanceof"

/-- The operator at the front of a text: the longest mark, or one of the words. -/
def operatorAt (s : List Char) : String :=
  let word := nameAt s
  if word == "in" || word == "instanceof" then word
  else if "?.".toList.isPrefixOf s && !(s.drop 2).head?.any isDigit then "?."
  else (operatorMarks.filter (·.toList.isPrefixOf s)).foldl
    (fun best o => if best.length < o.length then o else best) ""

/-- The operator that comes next; empty if none does. -/
def Reader.upcomingOperator : Reader String := fun c => .ok (operatorAt (c.skipTrivia false).rest, c)

/-- A property name can start here. -/
def startsPropertyName : List Char → Bool
  | [] => false
  | c :: rest =>
    isDigit c || c == '"' || c == '\'' || c == '[' || c == '#' || 0 < nameLength (c :: rest) ||
      (c == '.' && rest.head?.any isDigit)

/-- An expression can start here. -/
def startsExpression (s : List Char) : Bool :=
  match s with
  | [] => false
  | c :: rest =>
    let word := nameAt s
    if !word.isEmpty then
      !isReserved word || ["class", "delete", "false", "function", "import", "new", "null", "super",
        "this", "true", "typeof", "void"].contains word
    else isDigit c || "\"'`([\x7b/<+-!~@#".toList.contains c || (c == '.' && rest.head?.any isDigit)

end ScriptAudit.JavaScript
