import ScriptAudit.JavaScript.Expression

namespace ScriptAudit.JavaScript

open Reader

variable (rules : Rules)

/-- A function with its name, parameters and body. A declaration has a name. -/
def functionOf (declared : Bool) (place : BlockPlace) : Reader ParseTree := do
  let isAsync ← if (← upcomingName) == "async" then pure [← keyword "async"] else pure []
  let function ← keyword "function"
  let star ← optionalToken "*"
  let id ← if declared || !(← sees "(") then pure [(← name "identifier").inField "name"] else pure []
  let params ← formalParameters rules
  let body ← rules (.block place)
  let type :=
    match declared, star.isEmpty with
    | true, true => "function_declaration"
    | true, false => "generator_function_declaration"
    | false, true => "function_expression"
    | false, false => "generator_function"
  branch type (isAsync ++ function :: star ++ id ++
    [params.inField "parameters", body.inField "body"])

/-- The word `function` follows, perhaps behind `async`. -/
def functionAhead : Reader Bool := do
  let word ← upcomingName
  if word == "function" then return true
  else if word == "async" then
    let c ← ahead false
    return nameAt ((c.advance word.length).skipTrivia false).rest == "function"
  else return false

/-- A function that follows has a name. -/
def namedFunctionAhead : Reader Bool := do
  let c ← ahead false
  let c := if nameAt c.rest == "async" then (c.advance 5).skipTrivia false else c
  let c := (c.advance 8).skipTrivia false
  let c := if c.startsWith "*" then (c.advance 1).skipTrivia false else c
  return 0 < nameLength c.rest

/-- A decorator: a name with members, and perhaps a call of it. -/
def decorator : Reader ParseTree := do
  let mark ← token "@"
  let first ← name "identifier"
  let path ← iterate (fun left : ParseTree => do
    if ← sees "." then
      let dot ← token "."
      let property ← word "property_identifier"
      return some (← branch "member_expression"
        [left.inField "object", dot, property.inField "property"])
    else return none) first
  if ← sees "(" then
    let args ← argumentList rules
    let call ← branch "call_expression" [path.inField "function", args.inField "arguments"]
    branch "decorator" [mark, call]
  else branch "decorator" [mark, path]

def decorators : Reader (List ParseTree) := do
  return (← repeatWhile (sees "@") (decorator rules)).map (·.inField "decorator")

/-- A value behind an equals sign. -/
def initializer (context : Context) : Reader (List ParseTree) := do
  if (← upcomingOperator) == "=" then
    let equals ← token "="
    return [equals, (← rules (.expression context)).inField "value"]
  else return []

/-- The words `static get` and a line break behind them belong together. -/
def accessorAcrossLines (s : List Char) : Bool :=
  let isBlank := fun c : Char => c == ' ' || (0x09 ≤ c.toNat && c.toNat ≤ 0x0D)
  let behind := s.dropWhile isBlank
  !(s.takeWhile isBlank).isEmpty && "get".toList.isPrefixOf behind &&
    ((behind.drop 3).takeWhile isBlank).contains '\n'

/-- A word in front of a class member's name; at the end of a field it is the name itself. -/
def memberModifier? (s : String) (beforeStar : Bool) : Reader (Option ParseTree) := do
  if (← upcomingName) == s then
    let c ← ahead false
    let behind := c.advance s.length
    if (behind.omittedSemicolon? false).isSome && !(s == "static" && accessorAcrossLines behind.rest) then
      return none
    else modifier? s beforeStar
  else return none

/-- The words and the star in front of a class member's name, and whether they ask for a method. -/
def memberModifiers : Reader (List ParseTree × Bool) := do
  let static ← memberModifier? "static" true
  let isAsync ← memberModifier? "async" true
  let getter ← if static.isSome then modifier? "get" false else memberModifier? "get" false
  let setter ← if getter.isNone then memberModifier? "set" false else pure none
  let star ← if getter.isNone && setter.isNone then optionalToken "*" else pure []
  let kinds := isAsync.toList ++ getter.toList ++ setter.toList ++ star
  return (static.toList ++ kinds, !kinds.isEmpty)

/-- A block that runs when the class is made. -/
def staticBlockAhead : Reader Bool := do
  if (← upcomingName) == "static" then
    let c ← ahead false
    return ((c.advance 6).skipTrivia false).startsWith "\x7b"
  else return false

/-- A member of a class with the semicolons that belong to it. -/
def classMember : Reader (List ParseTree) := do
  if ← sees ";" then return [← token ";"]
  let marks ← decorators rules
  if marks.isEmpty && (← staticBlockAhead) then
    let static ← keyword "static"
    let body ← rules (.block .part)
    return [(← branch "class_static_block" [static, body.inField "body"]).inField "member"]
  let (modifiers, isMethod) ← memberModifiers
  let name ← propertyName rules
  if isMethod || (← sees "(") then
    let method ← methodTail rules (marks ++ modifiers) name
    return method.inField "member" :: (← optionalToken ";")
  let value ← initializer rules .final
  let field ← branch "field_definition" (marks ++ modifiers ++ name.inField "property" :: value)
  return field.inField "member" :: (← semicolon !value.isEmpty)

def classBody : Reader ParseTree := do
  let first ← token "\x7b"
  let members ← repeatWhile (do return !(← sees "\x7d")) (classMember rules)
  branch "class_body" (first :: members.flatten ++ [← token "\x7d"])

/-- A class behind its decorators; a declaration has a name. -/
def classOf (declared : Bool) (marks : List ParseTree) : Reader ParseTree := do
  let mark ← keyword "class"
  let next ← upcomingName
  let id ←
    if declared || !(next.isEmpty || next == "extends") then
      pure [(← name "identifier").inField "name"]
    else pure []
  let heritage ←
    if (← upcomingName) == "extends" then
      let extends_ ← keyword "extends"
      let base ← rules (.expression .enclosed)
      pure [← branch "class_heritage" [extends_, base]]
    else pure []
  let body ← classBody rules
  branch (if declared then "class_declaration" else "class")
    (marks ++ mark :: id ++ heritage ++ [body.inField "body"])

/-- A class that follows has a name. -/
def namedClassAhead : Reader Bool := do
  let c ← ahead false
  let next := nameAt ((c.advance 5).skipTrivia false).rest
  return !(next.isEmpty || next == "extends")

/-- The end of a declaration node that an omitted semicolon may belong to. -/
def declarationEnd (canContinue : Bool) (t : ParseTree) : Reader ParseTree := do
  optionalEnd canContinue
  return { t with stop := (← (fun c => .ok (c, c) : Reader Cursor)).mark }

end ScriptAudit.JavaScript
