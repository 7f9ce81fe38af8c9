import ScriptAudit.JavaScript.Function
import ScriptAudit.JavaScript.Markup

namespace ScriptAudit.JavaScript

open Reader

variable (rules : Rules)

/-- A word of an expression that is a node of its own. -/
def isConstantWord (s : String) : Bool := ["this", "super", "true", "false", "null", "undefined"].contains s

/-- `async` starts a function, an arrow function, or is a plain name. -/
def asyncOperand (context : Context) : Reader ParseTree := do
  let c ← ahead false
  let behind := c.advance 5
  if context.last && (behind.omittedSemicolon? true).isSome then nameOrArrow rules context
  else
    let next := (behind.skipTrivia false).rest
    let word := nameAt next
    if word == "function" then functionOf rules false .expression
    else if !word.isEmpty && !isReserved word then
      Reader.orElse
        (do
          let mark ← keyword "async"
          let parameter ← name "identifier"
          arrowTail rules context [mark, parameter.inField "parameter"])
        (nameOrArrow rules context)
    else if next.head? == some '(' then
      Reader.orElse
        (do
          let mark ← keyword "async"
          let params ← formalParameters rules
          arrowTail rules context [mark, params.inField "parameters"])
        (nameOrArrow rules context)
    else nameOrArrow rules context

/-- `import` as an expression: a call of it, or a property of the module. -/
def importOperand : Reader ParseTree := do
  let mark ← namedKeyword "import"
  if ← sees "." then
    let c ← ahead false
    if nameAt ((c.advance 1).skipTrivia false).rest == "meta" then
      let dot ← token "."
      branch "meta_property" [{ mark with named := false }, dot, ← keyword "meta"]
    else return mark
  else if ← sees "(" then return mark
  else stuck

/-- An operand that starts with a word. -/
def wordOperand (context : Context) (s : String) : Reader ParseTree := do
  if s == "function" then functionOf rules false .expression
  else if s == "class" then classOf rules false []
  else if s == "new" then newExpression rules context
  else if s == "async" then asyncOperand rules context
  else if s == "import" then importOperand
  else if s == "undefined" then
    let n ← nameOrArrow rules context
    return if n.type == "identifier" then { n with type := "undefined" } else n
  else if isConstantWord s then namedKeyword s
  else nameOrArrow rules context

/-- The first part of an operand. -/
def primary (context : Context) : Reader ParseTree := do
  let s ← upcoming
  match s with
  | [] => stuck
  | c :: rest =>
    if c == '(' then parenthesized rules context
    else if c == '[' then arrayLiteral rules
    else if c == '\x7b' then objectLiteral rules
    else if c == '`' then templateLiteral rules
    else if c == '"' || c == '\'' then stringLiteral
    else if isDigit c || (c == '.' && rest.head?.any isDigit) then numberLiteral
    else if c == '/' then lexeme "regex" regexLength?
    else if c == '<' then rules .element
    else if c == '@' then classOf rules false (← decorators rules)
    else if c == '#' then
      let n ← privateName
      if (← upcomingName) == "in" then return n else stuck
    else
      let word := nameAt s
      if word.isEmpty then stuck else wordOperand rules context word

/-- What `new` makes: an operand with members but without calls. -/
def makerOf (context : Context) : Reader ParseTree := do
  if (← upcomingName) == "new" then newExpression rules context
  else
    let first ← primary rules context
    postfixTail rules context ⟨false, false⟩ first

/-- An operand with everything that binds at least as tightly as the level in front of and behind it. -/
def prefixed (context : Context) (level : Nat) : Reader ParseTree := do
  skipMarkup
  let s ← upcoming
  let word := nameAt s
  if ["typeof", "void", "delete"].contains word then unary rules context (keyword word)
  else if word == "await" then awaitExpression rules context
  else if word == "yield" then yieldExpression rules context
  else match s with
    | '+' :: '+' :: _ => prefixUpdate rules context "++"
    | '-' :: '-' :: _ => prefixUpdate rules context "--"
    | '+' :: _ => unary rules context (token "+")
    | '-' :: _ => unary rules context (token "-")
    | '!' :: _ => unary rules context (token "!")
    | '~' :: _ => unary rules context (token "~")
    | _ =>
      let first ← primary rules context
      let whole ← postfixTail rules context ⟨true, level < updateLevel⟩ first
      if context.last && (← canEnd true) then return whole
      else assignmentTail rules context whole

/-- An expression whose operators bind at least as tightly as the level. -/
def operandOf (context : Context) (level : Nat) : Reader ParseTree := do
  let first ← prefixed rules context level
  infixTail rules context level first

end ScriptAudit.JavaScript
