import ScriptAudit.JavaScript.Statement

namespace ScriptAudit.JavaScript

open Reader

/-- The rule of each symbol, given readers for the symbols it refers to. -/
def rule (rules : Rules) : Symbol → Reader ParseTree
  | .statement => statementOf rules
  | .block place => blockOf rules place
  | .expression context => operandOf rules context 0
  | .expressions context => expressionsOf rules context
  | .operand context level => operandOf rules context level
  | .maker context => makerOf rules context
  | .element => markupElement rules

/-- The rules unfolded to a depth. -/
def unfolded : Nat → Rules
  | 0, _ => stuck
  | n + 1, symbol => rule (unfolded n) symbol

/-- A line at the start that names an interpreter. -/
def interpreterLine : Reader Unit := fun c =>
  let here := c.skipTrivia true
  if here.startsWith "#!" then .ok ((), here.skipWhile (· != '\n')) else .ok ((), c)

/-- The statements of a whole text. -/
def programBody (rules : Rules) : Reader (List ParseTree) := do
  interpreterLine
  let body ← repeatWhile (fun c => .ok (!(c.skipTrivia true).rest.isEmpty, c)) (rules .statement)
  if noStrayDefaults body then return body else stuck

/-- The parse tree of a text. A text outside the grammar has an error where reading got stuck. -/
def parse (s : List Char) : ParseTree :=
  let start := (Cursor.start s).skipSpace.mark
  let stop := start.afterAll (s.dropWhile isSpace)
  let rules := unfolded (16 * (s.length + 4))
  match programBody rules (Cursor.start s) with
  | .ok (body, _) => ParseTree.build "program" start stop true false none body
  | .error m =>
    ParseTree.build "program" start stop true false none [ParseTree.build "ERROR" m stop true false none []]

end ScriptAudit.JavaScript
