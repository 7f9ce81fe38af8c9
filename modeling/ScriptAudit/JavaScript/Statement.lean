import ScriptAudit.JavaScript.Operand

namespace ScriptAudit.JavaScript

open Reader

variable (rules : Rules)

/-- The next token starts with `s`; comments that look like markup are passed over. -/
def seesAtStart (s : String) : Reader Bool := do return (← ahead true).startsWith s

/-- Statements up to a closing brace, and the brace. -/
def blockOf (place : BlockPlace) : Reader ParseTree := do
  let first ← token "\x7b"
  let body ← repeatWhile (do return !(← seesAtStart "\x7d")) (rules .statement)
  skipMarkup
  let last ← token "\x7d"
  optionalEnd (match place with
    | .statement => body.isEmpty
    | .expression => true
    | .part => false)
  branch "statement_block" (first :: body ++ [last])

/-- A pattern of an object or array. -/
def destructuring : Reader ParseTree := do
  let literal ← if ← sees "[" then arrayLiteral rules else objectLiteral rules
  orStuck (target? false literal)

/-- What a declaration binds: a name or a pattern. -/
def binding : Reader ParseTree := do
  if (← sees "[") || (← sees "\x7b") then destructuring rules else name "identifier"

def variableDeclarator (context : Context) : Reader ParseTree := do
  let target ← binding rules
  let value ← initializer rules context
  branch "variable_declarator" (target.inField "name" :: value)

/-- The declarators behind a keyword with the commas between them. -/
def declarators : Reader (List ParseTree) := do
  let first ← variableDeclarator rules .final
  let more ← repeatWhile (sees ",") do
    let comma ← token ","
    return [comma, ← variableDeclarator rules .final]
  return first :: more.flatten

/-- A declaration of variables. -/
def variableDeclaration (keyword_ : String) : Reader ParseTree := do
  let mark ← keyword keyword_
  let all ← declarators rules
  let hasValue := (all.getLast?.bind (·.child? "value")).isSome
  let closing ← semicolon hasValue
  if keyword_ == "var" then branch "variable_declaration" (mark :: all ++ closing)
  else branch "lexical_declaration" (mark.inField "kind" :: all ++ closing)

/-- The word `let` starts a declaration; otherwise it is a name. -/
def letDeclares : Reader Bool := do
  let c ← ahead false
  let behind := c.advance 3
  if (behind.omittedSemicolon? true).isSome then return false
  let next := (behind.skipTrivia false).rest
  let word := nameAt next
  return next.head? == some '[' || next.head? == some '\x7b' || (!word.isEmpty && !isReserved word)

def expressionStatement : Reader ParseTree := do
  let inner ← rules (.expressions .final)
  branch "expression_statement" (inner :: (← semicolon true))

def ifStatement : Reader ParseTree := do
  let mark ← keyword "if"
  let test ← condition rules
  let consequence ← rules .statement
  let lead := [mark, test.inField "condition", consequence.inField "consequence"]
  if (← upcomingName) == "else" then
    let word ← keyword "else"
    let clause ← branch "else_clause" [word, ← rules .statement]
    branch "if_statement" (lead ++ [clause.inField "alternative"])
  else branch "if_statement" lead

def whileStatement : Reader ParseTree := do
  let mark ← keyword "while"
  let test ← condition rules
  branch "while_statement" [mark, test.inField "condition", (← rules .statement).inField "body"]

def withStatement : Reader ParseTree := do
  let mark ← keyword "with"
  let object ← condition rules
  branch "with_statement" [mark, object.inField "object", (← rules .statement).inField "body"]

def doStatement : Reader ParseTree := do
  let mark ← keyword "do"
  let body ← rules .statement
  let word ← keyword "while"
  let test ← condition rules
  let closing ← if ← canEnd false then semicolon false else optionalToken ";"
  branch "do_statement" ([mark, body.inField "body", word, test.inField "condition"] ++ closing)

/-- What a loop over a collection assigns to, with its keyword if it declares a variable. -/
def forTarget : Reader (List ParseTree) := do
  let word ← upcomingName
  let declares ← if word == "let" then letDeclares else pure (word == "var" || word == "const")
  if declares then
    let kind ← keyword word
    let target ← binding rules
    let value ← if word == "var" then initializer rules ⟨false, true⟩ else pure []
    return kind.inField "kind" :: target.inField "left" :: value
  else
    let first ← primary rules ⟨false, true⟩
    let whole ← postfixTail rules ⟨false, true⟩ ⟨true, false⟩ first
    if whole.type == "parenthesized_expression" then return [whole.inField "left"]
    else return [(← orStuck (target? false whole)).inField "left"]

/-- A loop over the keys or values of a collection. -/
def forInStatement : Reader ParseTree := do
  let mark ← keyword "for"
  let wait ← if (← upcomingName) == "await" then pure [← keyword "await"] else pure []
  let first ← token "("
  let target ← forTarget rules
  let word ← upcomingName
  if word != "in" && word != "of" then stuck
  let operator ← keyword word
  let right ← rules (.expressions .enclosed)
  let last ← token ")"
  let body ← rules .statement
  branch "for_in_statement" (mark :: wait ++ first :: target ++
    [operator.inField "operator", right.inField "right", last, body.inField "body"])

/-- An expression and its semicolon, or the semicolon alone. -/
def forPart (field : String) : Reader (List ParseTree) := do
  if ← sees ";" then
    let mark ← token ";"
    return [(← branch "empty_statement" [mark]).inField field]
  else
    let inner ← rules (.expressions .enclosed)
    return [inner.inField field, ← token ";"]

def forStatement : Reader ParseTree := do
  let mark ← keyword "for"
  let first ← token "("
  let word ← upcomingName
  let declares ← if word == "let" then letDeclares else pure (word == "var" || word == "const")
  let start ←
    if declares then pure [(← variableDeclaration rules word).inField "initializer"]
    else forPart rules "initializer"
  let test ← forPart rules "condition"
  let step ←
    if ← sees ")" then pure []
    else pure [(← rules (.expressions .enclosed)).inField "increment"]
  let last ← token ")"
  let body ← rules .statement
  branch "for_statement" (mark :: first :: start ++ test ++ step ++ [last, body.inField "body"])

def catchClause : Reader ParseTree := do
  let mark ← keyword "catch"
  let parameter ←
    if ← sees "(" then
      let first ← token "("
      let target ← binding rules
      pure [first, target.inField "parameter", ← token ")"]
    else pure []
  branch "catch_clause" (mark :: parameter ++ [(← rules (.block .part)).inField "body"])

def finallyClause : Reader ParseTree := do
  let mark ← keyword "finally"
  branch "finally_clause" [mark, (← rules (.block .part)).inField "body"]

def tryStatement : Reader ParseTree := do
  let mark ← keyword "try"
  let body ← rules (.block .part)
  let handler ←
    if (← upcomingName) == "catch" then pure [(← catchClause rules).inField "handler"] else pure []
  let finalizer ←
    if (← upcomingName) == "finally" then pure [(← finallyClause rules).inField "finalizer"]
    else pure []
  branch "try_statement" (mark :: body.inField "body" :: handler ++ finalizer)

/-- What follows ends the statements of a case. -/
def caseEnds : Reader Bool := do
  let s := (← ahead true).rest
  let word := nameAt s
  return s.head? == some '\x7d' || word == "case" || word == "default"

/-- The statements of a case, up to the next one. -/
def caseBody : Reader (List ParseTree) := do
  return (← repeatWhile (do return !(← caseEnds)) (rules .statement)).map (·.inField "body")

def switchCase : Reader ParseTree := do
  if (← upcomingName) == "default" then
    let mark ← keyword "default"
    let colon ← token ":"
    branch "switch_default" (mark :: colon :: (← caseBody rules))
  else
    let mark ← keyword "case"
    let value ← rules (.expressions .enclosed)
    let colon ← token ":"
    branch "switch_case" (mark :: value.inField "value" :: colon :: (← caseBody rules))

def switchStatement : Reader ParseTree := do
  let mark ← keyword "switch"
  let value ← condition rules
  let first ← token "\x7b"
  let cases ← repeatWhile (do return !(← seesAtStart "\x7d")) (switchCase rules)
  let body ← branch "switch_body" (first :: cases ++ [← token "\x7d"])
  branch "switch_statement" [mark, value.inField "value", body.inField "body"]

/-- `break` or `continue`, perhaps with a label on the same line. -/
def jumpStatement (word type : String) : Reader ParseTree := do
  let mark ← keyword word
  if ← canEnd false then branch type (mark :: (← semicolon false))
  else if ← sees ";" then branch type [mark, ← token ";"]
  else
    let label ← name "statement_identifier"
    branch type (mark :: label.inField "label" :: (← semicolon false))

def returnStatement : Reader ParseTree := do
  let mark ← keyword "return"
  if ← canEnd false then branch "return_statement" (mark :: (← semicolon false))
  else if ← sees ";" then branch "return_statement" [mark, ← token ";"]
  else
    let value ← rules (.expressions .final)
    branch "return_statement" (mark :: value :: (← semicolon true))

def throwStatement : Reader ParseTree := do
  let mark ← keyword "throw"
  let value ← rules (.expressions .final)
  branch "throw_statement" (mark :: value :: (← semicolon true))

/-- The name of something a module exports. -/
def exportName : Reader ParseTree := do
  if (← sees "\"") || (← sees "'") then stringLiteral
  else if (← upcomingName) == "default" then keyword "default"
  else name "identifier"

/-- The module that names come from. -/
def fromClause : Reader (List ParseTree) := do
  let word ← keyword "from"
  return [word, (← stringLiteral).inField "source"]

/-- A name of a list of exports, perhaps under another name. -/
def exportSpecifier : Reader ParseTree := do
  let first ← exportName
  if (← upcomingName) == "as" then
    let word ← keyword "as"
    branch "export_specifier" [first.inField "name", word, (← exportName).inField "alias"]
  else branch "export_specifier" [first.inField "name"]

/-- A name of a list of imports. A name that is no identifier needs another one. -/
def importSpecifier : Reader ParseTree := do
  let first ← exportName
  if (← upcomingName) == "as" then
    let word ← keyword "as"
    branch "import_specifier" [first.inField "name", word, (← name "identifier").inField "alias"]
  else if first.type == "identifier" then branch "import_specifier" [first.inField "name"]
  else stuck

/-- A list of names in braces. -/
def nameList (type : String) (item : Reader ParseTree) : Reader ParseTree := do
  let all ← delimited "\x7b" "\x7d" item
  let items := (all.drop 1).dropLast
  if items.isEmpty || takesTurns true items then branch type all
  else if items.length == 1 then branch type all
  else stuck

def namespaceImport : Reader ParseTree := do
  let star ← token "*"
  let word ← keyword "as"
  branch "namespace_import" [star, word, ← name "identifier"]

/-- The names an import brings in. -/
def importClause : Reader ParseTree := do
  let group : Reader ParseTree := do
    if ← sees "*" then namespaceImport else nameList "named_imports" importSpecifier
  if (← sees "*") || (← sees "\x7b") then branch "import_clause" [← group]
  else
    let first ← name "identifier"
    if ← sees "," then
      let comma ← token ","
      branch "import_clause" [first, comma, ← group]
    else branch "import_clause" [first]

def importStatement : Reader ParseTree := do
  let mark ← keyword "import"
  let lead ←
    if (← sees "\"") || (← sees "'") then pure [(← stringLiteral).inField "source"]
    else
      let clause ← importClause
      pure (clause :: (← fromClause))
  let attributes ←
    if (← upcomingName) == "with" then
      let word ← keyword "with"
      pure [← branch "import_attribute" [word, ← objectLiteral rules]]
    else pure []
  branch "import_statement" (mark :: lead ++ attributes ++ (← semicolon false))

/-- A declaration that may be exported; none if something else follows. -/
def declaration? (canContinue : Bool) (marks : List ParseTree) : Reader (Option ParseTree) := do
  let word ← upcomingName
  let place : BlockPlace := if canContinue then .expression else .part
  if marks.isEmpty && (word == "var" || word == "const") then
    return some (← variableDeclaration rules word)
  else if marks.isEmpty && word == "let" && (← letDeclares) then
    return some (← variableDeclaration rules word)
  else if marks.isEmpty && (← functionAhead) && (← namedFunctionAhead) then
    return some (← functionOf rules true place)
  else if word == "class" && (← namedClassAhead) then
    return some (← declarationEnd canContinue (← classOf rules true marks))
  else return none

/-- An export of names or of a declaration, behind its decorators. -/
def exportStatement (marks : List ParseTree) : Reader ParseTree := do
  let mark ← keyword "export"
  let lead := marks ++ [mark]
  if marks.isEmpty && (← sees "*") then
    let star ← token "*"
    if (← upcomingName) == "as" then
      let word ← keyword "as"
      let space ← branch "namespace_export" [star, word, ← exportName]
      let source ← fromClause
      branch "export_statement" (lead ++ space :: source ++ (← semicolon false))
    else
      let source ← fromClause
      branch "export_statement" (lead ++ star :: source ++ (← semicolon false))
  else if marks.isEmpty && (← sees "\x7b") then
    let clause ← nameList "export_clause" exportSpecifier
    let source ← if (← upcomingName) == "from" then fromClause else pure []
    branch "export_statement" (lead ++ clause :: source ++ (← semicolon false))
  else if (← upcomingName) == "default" then
    let word ← keyword "default"
    match ← declaration? rules true (← decorators rules) with
    | some d => branch "export_statement" (lead ++ [word, d.inField "declaration"])
    | none =>
      let value ← rules (.expression .final)
      branch "export_statement" (lead ++ word :: value.inField "value" :: (← semicolon true))
  else
    match ← declaration? rules false (← decorators rules) with
    | some d => branch "export_statement" (lead ++ [d.inField "declaration"])
    | none => stuck

/-- A class or an export behind decorators. -/
def decoratedStatement : Reader ParseTree := do
  let marks ← decorators rules
  if (← upcomingName) == "export" then exportStatement rules marks
  else match ← declaration? rules true marks with
    | some d => return d
    | none => stuck

/-- A name and a colon follow. -/
def labelAhead : Reader Bool := do
  let c ← ahead false
  let n := nameLength c.rest
  return 0 < n && !isReserved (nameAt c.rest) && ((c.advance n).skipTrivia false).startsWith ":"

def labeledStatement : Reader ParseTree := do
  let label ← name "statement_identifier"
  let colon ← token ":"
  branch "labeled_statement" [label.inField "label", colon, (← rules .statement).inField "body"]

/-- `import` starts an expression. -/
def importIsOperand : Reader Bool := do
  let c ← ahead false
  let behind := (c.advance 6).skipTrivia false
  return behind.startsWith "(" || behind.startsWith "."

/-- A statement that starts with a word. -/
def wordStatement (word : String) : Reader ParseTree := do
  if word == "if" then ifStatement rules
  else if word == "for" then (forInStatement rules).orElse (forStatement rules)
  else if word == "while" then whileStatement rules
  else if word == "do" then doStatement rules
  else if word == "return" then returnStatement rules
  else if word == "break" then jumpStatement "break" "break_statement"
  else if word == "continue" then jumpStatement "continue" "continue_statement"
  else if word == "throw" then throwStatement rules
  else if word == "try" then tryStatement rules
  else if word == "switch" then switchStatement rules
  else if word == "with" then withStatement rules
  else if word == "debugger" then
    let mark ← keyword "debugger"
    branch "debugger_statement" (mark :: (← semicolon false))
  else if word == "export" then exportStatement rules []
  else if word == "import" && !(← importIsOperand) then importStatement rules
  else if word == "async" && (← functionAhead) then
    let c ← ahead false
    if ((c.advance 5).omittedSemicolon? true).isSome then expressionStatement rules
    else if ← namedFunctionAhead then functionOf rules true .expression
    else expressionStatement rules
  else if ← labelAhead then labeledStatement rules
  else match ← declaration? rules true [] with
    | some d => return d
    | none => expressionStatement rules

def statementOf : Reader ParseTree := do
  skipMarkup
  let s ← upcoming
  match s with
  | [] => stuck
  | c :: _ =>
    if c == '\x7b' then
      blockOrObject (rules (.block .statement)) (expressionStatement rules)
    else if c == ';' then
      let mark ← token ";"
      branch "empty_statement" [mark]
    else if c == '@' then decoratedStatement rules
    else
      let word := nameAt s
      if word.isEmpty then expressionStatement rules else wordStatement rules word

end ScriptAudit.JavaScript
