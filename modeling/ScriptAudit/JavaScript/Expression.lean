import ScriptAudit.JavaScript.Pattern
import ScriptAudit.JavaScript.Symbol

namespace ScriptAudit.JavaScript

open Reader

/-- A reader's result that has to exist. -/
def orStuck {α : Type} : Option α → Reader α
  | some a => pure a
  | none => stuck

def stringLiteral : Reader ParseTree := lexeme "string" stringLength?

def numberLiteral : Reader ParseTree := lexeme "number" numberLength?

variable (rules : Rules)

/-- An expression, or one spread out with dots. -/
def expressionOrSpread : Reader ParseTree := do
  if ← sees "..." then
    let dots ← token "..."
    branch "spread_element" [dots, ← rules (.expression .enclosed)]
  else rules (.expression .enclosed)

def argumentList : Reader ParseTree := do
  branch "arguments" (← delimited "(" ")" (expressionOrSpread rules))

def arrayLiteral : Reader ParseTree := do
  branch "array" (← delimited "[" "]" (expressionOrSpread rules))

/-- A node over the given children, which ends with the last of them. -/
def cover (type : String) (first : ParseTree) (rest : List ParseTree) : ParseTree :=
  ParseTree.build type first.start ((rest.getLast?.getD first).stop) true false none (first :: rest)

/-- Items take turns with commas; a comma may end the list if `trailing` is set. -/
def takesTurns (trailing : Bool) : List ParseTree → Bool
  | [] => trailing
  | [item] => item.named
  | item :: comma :: rest => item.named && !comma.named && takesTurns trailing rest

/-- The list of parameters that a list in parentheses stands for. -/
def parametersOf (all : List ParseTree) : Reader ParseTree := do
  let items := (all.drop 1).dropLast
  if items.isEmpty || takesTurns true items then
    branch "formal_parameters" (← orStuck (elementTargets? all))
  else stuck

def formalParameters : Reader ParseTree := do
  parametersOf (← delimited "(" ")" (expressionOrSpread rules))

/-- A block, or an object where one may stand in the place of a block. Where a name and a colon follow
the brace, the object comes first. -/
def blockOrObject (block object : Reader ParseTree) : Reader ParseTree := do
  let inside := (← upcoming).drop 1
  let c := (Cursor.skipTrivia false ⟨inside, ⟨0, 0, 0⟩⟩)
  let behindName := (Cursor.skipTrivia false (c.advance (nameLength c.rest)))
  if 0 < nameLength c.rest && behindName.startsWith ":" then object.orElse block
  else block.orElse object

/-- The arrow and body behind the parameters of an arrow function. -/
def arrowTail (context : Context) (lead : List ParseTree) : Reader ParseTree := do
  let arrow ← token "=>"
  let body ←
    if ← sees "\x7b" then
      blockOrObject (rules (.block .expression)) (rules (.expression context))
    else rules (.expression context)
  branch "arrow_function" (lead ++ [arrow, body.inField "body"])

/-- Parentheses around expressions, or the parameters of an arrow function. -/
def parenthesized (context : Context) : Reader ParseTree := do
  let all ← delimited "(" ")" (expressionOrSpread rules)
  if ← sees "=>" then
    arrowTail rules context [(← parametersOf all).inField "parameters"]
  else
    match all.head?, (all.drop 1).dropLast, all.getLast? with
    | some first, item :: items, some last =>
      if takesTurns false (item :: items) && !(item :: items).any (·.type == "spread_element") then
        let inner := if items.isEmpty then item else cover "sequence_expression" item items
        branch "parenthesized_expression" [first, inner, last]
      else stuck
    | _, _, _ => stuck

/-- Expressions in parentheses where an arrow cannot follow. -/
def condition : Reader ParseTree := do
  let first ← token "("
  let inner ← rules (.expressions .enclosed)
  branch "parenthesized_expression" [first, inner, ← token ")"]

/-- The name of a property. -/
def propertyName : Reader ParseTree := do
  match ← upcoming with
  | [] => stuck
  | c :: _ =>
    if c == '[' then
      let first ← token "["
      let inner ← rules (.expression .enclosed)
      branch "computed_property_name" [first, inner, ← token "]"]
    else if c == '"' || c == '\'' then stringLiteral
    else if c == '#' then privateName
    else if isDigit c || c == '.' then numberLiteral
    else word "property_identifier"

/-- Parameters and body of a method behind its name. -/
def methodTail (lead : List ParseTree) (name : ParseTree) : Reader ParseTree := do
  let params ← formalParameters rules
  let body ← rules (.block .part)
  branch "method_definition"
    (lead ++ [name.inField "name", params.inField "parameters", body.inField "body"])

/-- A word in front of a property name that says what kind of method follows. -/
def modifier? (s : String) (beforeStar : Bool) : Reader (Option ParseTree) := do
  if (← upcomingName) == s then
    let c ← ahead false
    let behind := ((c.advance s.length).skipTrivia false).rest
    if startsPropertyName behind || (beforeStar && behind.head? == some '*') then
      return some (← keyword s)
    else return none
  else return none

/-- The words and the star in front of a method's name. -/
def methodModifiers : Reader (List ParseTree) := do
  let static ← modifier? "static" true
  let isAsync ← modifier? "async" true
  let getter ← modifier? "get" false
  let setter ← if getter.isNone then modifier? "set" false else pure none
  let star ← if getter.isNone && setter.isNone then optionalToken "*" else pure []
  return static.toList ++ isAsync.toList ++ getter.toList ++ setter.toList ++ star

/-- A member of an object. A default value behind a name makes sense only if the object turns out to
be a pattern. -/
def objectMember : Reader ParseTree := do
  if ← sees "..." then expressionOrSpread rules
  else
    let modifiers ← methodModifiers
    let plainName ← upcomingName
    let name ← propertyName rules
    if !modifiers.isEmpty || (← sees "(") then methodTail rules modifiers name
    else if ← sees ":" then
      let colon ← token ":"
      let value ← rules (.expression .enclosed)
      branch "pair" [name.inField "key", colon, value.inField "value"]
    else if plainName.isEmpty || isReserved plainName then stuck
    else if (← upcomingOperator) == "=" then
      let equals ← token "="
      let value ← rules (.expression .enclosed)
      branch "object_assignment_pattern"
        [{ name with type := "shorthand_property_identifier_pattern" }.inField "left", equals,
          value.inField "right"]
    else return { name with type := "shorthand_property_identifier" }

def objectLiteral : Reader ParseTree := do
  branch "object" (← delimited "\x7b" "\x7d" (objectMember rules))

/-- The parts of a template up to the closing backquote, where blanks count. -/
def templateParts : Reader (List ParseTree) := do
  let found ← iterate (fun found : List ParseTree => do
    let c ← (fun c => .ok (c, c) : Reader Cursor)
    match c.rest with
    | [] => stuck
    | '`' :: _ => return none
    | '$' :: '\x7b' :: _ =>
      let (first, behind) := leafAt "$\x7b" false 2 c
      moveTo behind
      let inner ← rules (.expressions .enclosed)
      let part ← branch "template_substitution" [first, inner, ← token "\x7d"]
      return some (part :: found)
    | '\\' :: _ =>
      let (part, behind) := leafAt "escape_sequence" true (← orStuck (escapeLength? c.rest)) c
      moveTo behind
      return some (part :: found)
    | _ =>
      let (part, behind) := leafAt "string_fragment" true (templateCharsLength c.rest) c
      moveTo behind
      return some (part :: found)) []
  return found.reverse

def templateLiteral : Reader ParseTree := do
  let first ← token "`"
  let parts ← templateParts rules
  branch "template_string" (first :: parts ++ [← token "`"])

/-- The part behind a dot: a name or a private name. -/
def memberName : Reader ParseTree := do
  if ← sees "#" then privateName else word "property_identifier"

/-- What a name in front of an arrow, or standing alone, becomes. -/
def nameOrArrow (context : Context) : Reader ParseTree := do
  let n ← name "identifier"
  if ← sees "=>" then arrowTail rules context [n.inField "parameter"] else return n

/-- The marks that go on with an operand: members, indices, calls, templates, updates. -/
structure PostfixMarks where
  calls : Bool
  updates : Bool

/-- One more mark behind an operand. -/
def postfixStep (context : Context) (marks : PostfixMarks) (left : ParseTree) :
    Reader (Option ParseTree) := do
  if context.last && (← canEnd true) then return none
  let s ← upcoming
  match s with
  | '.' :: '.' :: _ => return none
  | '.' :: _ =>
    let dot ← token "."
    let property ← memberName
    return some (← branch "member_expression"
      [left.inField "object", dot, property.inField "property"])
  | '?' :: '.' :: rest =>
    if rest.head?.any isDigit then return none
    let chain := { ← token "?." with type := "optional_chain", named := true }.inField "optional_chain"
    if ← sees "(" then
      let args ← argumentList rules
      return some (← branch "call_expression"
        [left.inField "function", chain, args.inField "arguments"])
    else if ← sees "[" then
      let first ← token "["
      let index ← rules (.expressions .enclosed)
      return some (← branch "subscript_expression"
        [left.inField "object", chain, first, index.inField "index", ← token "]"])
    else
      let property ← memberName
      return some (← branch "member_expression"
        [left.inField "object", chain, property.inField "property"])
  | '[' :: _ =>
    let first ← token "["
    let index ← rules (.expressions .enclosed)
    return some (← branch "subscript_expression"
      [left.inField "object", first, index.inField "index", ← token "]"])
  | '(' :: _ =>
    if marks.calls then
      let args ← argumentList rules
      return some (← branch "call_expression" [left.inField "function", args.inField "arguments"])
    else return none
  | '`' :: _ =>
    if left.type == "update_expression" then return none
    let template ← templateLiteral rules
    return some (← branch "call_expression" [left.inField "function", template.inField "arguments"])
  | '+' :: '+' :: _ =>
    if marks.updates then
      return some (← branch "update_expression" [left.inField "argument", (← token "++").inField "operator"])
    else return none
  | '-' :: '-' :: _ =>
    if marks.updates then
      return some (← branch "update_expression" [left.inField "argument", (← token "--").inField "operator"])
    else return none
  | _ => return none

def postfixTail (context : Context) (marks : PostfixMarks) (left : ParseTree) : Reader ParseTree :=
  iterate (postfixStep rules context marks) left

/-- `new` with what it makes, or the property of a running function. -/
def newExpression (context : Context) : Reader ParseTree := do
  let new ← keyword "new"
  if ← sees "." then
    let dot ← token "."
    branch "meta_property" [new, dot, ← keyword "target"]
  else
    let maker ← rules (.maker context)
    if ← sees "(" then
      let args ← argumentList rules
      branch "new_expression" [new, maker.inField "constructor", args.inField "arguments"]
    else branch "new_expression" [new, maker.inField "constructor"]

/-- Targets of an assignment with an operator. -/
def augmentedTargets : List String :=
  ["identifier", "member_expression", "subscript_expression", "parenthesized_expression"]

/-- An assignment, if the operand is followed by one. -/
def assignmentTail (context : Context) (left : ParseTree) : Reader ParseTree := do
  let operator ← upcomingOperator
  if operator == "=" then
    let target ←
      if left.type == "parenthesized_expression" then pure left else orStuck (target? false left)
    let equals ← token "="
    let right ← rules (.expression context)
    branch "assignment_expression" [target.inField "left", equals, right.inField "right"]
  else if augmentedOperators.contains operator && augmentedTargets.contains left.type then
    let mark ← token operator
    let right ← rules (.expression context)
    branch "augmented_assignment_expression"
      [left.inField "left", mark.inField "operator", right.inField "right"]
  else return left

/-- One more operator and operand behind a left operand. -/
def infixStep (context : Context) (level : Nat) (left : ParseTree) : Reader (Option ParseTree) := do
  if context.last && (← canEnd true) then return none
  let operator ← upcomingOperator
  if operator == "?" then
    if conditionalLevel < level then return none
    let mark ← token "?"
    let consequence ← rules (.expression .enclosed)
    let colon ← token ":"
    let alternative ← rules (.operand context conditionalLevel)
    return some (← branch "ternary_expression"
      [left.inField "condition", mark, consequence.inField "consequence", colon,
        alternative.inField "alternative"])
  else if operator == "in" && context.beforeIn then return none
  else match binaryOperators.lookup operator with
    | none => return none
    | some l =>
      if l < level then return none
      let mark ← token operator
      let right ← rules (.operand context (rightLevel operator l))
      return some (← branch "binary_expression"
        [left.inField "left", mark.inField "operator", right.inField "right"])

def infixTail (context : Context) (level : Nat) (left : ParseTree) : Reader ParseTree :=
  iterate (infixStep rules context level) left

/-- An operator in front of its operand. -/
def unary (context : Context) (operator : Reader ParseTree) : Reader ParseTree := do
  let mark ← operator
  let argument ← rules (.operand context unaryLevel)
  branch "unary_expression" [mark.inField "operator", argument.inField "argument"]

def prefixUpdate (context : Context) (operator : String) : Reader ParseTree := do
  let mark ← token operator
  let argument ← rules (.operand context updateLevel)
  branch "update_expression" [mark.inField "operator", argument.inField "argument"]

def awaitExpression (context : Context) : Reader ParseTree := do
  let mark ← keyword "await"
  branch "await_expression" [mark, ← rules (.operand context unaryLevel)]

/-- `yield` takes everything that follows it, if anything does. -/
def yieldExpression (context : Context) : Reader ParseTree := do
  let mark ← keyword "yield"
  if context.last && (← canEnd true) then branch "yield_expression" [mark]
  else if ← sees "*" then
    let star ← token "*"
    branch "yield_expression" [mark, star, ← rules (.expression context)]
  else if startsExpression (← upcoming) then
    branch "yield_expression" [mark, ← rules (.expression context)]
  else branch "yield_expression" [mark]

/-- Expressions with commas between them. -/
def expressionsOf (context : Context) : Reader ParseTree := do
  let first ← rules (.expression context)
  let more ← repeatWhile (sees ",") do
    let comma ← token ","
    return [comma, ← rules (.expression context)]
  if more.isEmpty then return first else branch "sequence_expression" (first :: more.flatten)

end ScriptAudit.JavaScript
