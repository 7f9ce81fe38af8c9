import ScriptAudit.JavaScript.Expression

namespace ScriptAudit.JavaScript

open Reader

def isAsciiLetter (c : Char) : Bool := ('a' ≤ c && c ≤ 'z') || ('A' ≤ c && c ≤ 'Z')

/-- The length of a name with a hyphen in it, zero if there is none. -/
def hyphenatedLength (s : List Char) : Nat :=
  let isFirst := fun c => isAsciiLetter c || c == '_' || c == '$'
  let isPart := fun c => isFirst c || isDigit c
  match s with
  | [] => 0
  | c :: _ =>
    if isFirst c then
      let plain := (s.takeWhile isPart).length
      if (s.drop plain).head? == some '-' then (s.takeWhile fun c => isPart c || c == '-').length
      else 0
    else 0

/-- The length of a character reference such as `&amp;`. -/
def characterReferenceLength? : List Char → Option Nat
  | '&' :: '#' :: rest =>
    let (mark, digits) :=
      match rest with
      | c :: more => if c == 'x' || c == 'X' then (1, more.takeWhile isHexDigit) else (0, rest.takeWhile isDigit)
      | [] => (0, [])
    let limit := if mark == 1 then 6 else 5
    if 0 < digits.length && digits.length ≤ limit && (rest.drop (mark + digits.length)).head? == some ';' then
      some (mark + digits.length + 3)
    else none
  | '&' :: rest =>
    let letters := rest.takeWhile isAsciiLetter
    if 0 < letters.length && letters.length ≤ 30 && (rest.drop letters.length).head? == some ';' then
      some (letters.length + 2)
    else none
  | _ => none

/-- The length of the rest of an attribute string behind its opening quote. It may hold line breaks and
character references; `skip` characters belong to a reference. -/
def attributeTailLength? (quote : Char) (skip : Nat) : List Char → Option Nat
  | [] => none
  | c :: rest =>
    match skip with
    | k + 1 => (attributeTailLength? quote k rest).map (· + 1)
    | 0 =>
      if c == quote then some 1
      else if c == '&' then
        match rest.head? with
        | none => none
        | some d =>
          if d == '#' || isAsciiLetter d then
            match characterReferenceLength? (c :: rest) with
            | some n => (attributeTailLength? quote (n - 1) rest).map (· + 1)
            | none => none
          else (attributeTailLength? quote 1 rest).map (· + 1)
      else (attributeTailLength? quote 0 rest).map (· + 1)

def attributeStringLength? : List Char → Option Nat
  | c :: rest =>
    if c == '"' || c == '\'' then (attributeTailLength? c 0 rest).map (· + 1) else none
  | [] => none

/-- The characters of a text between tags. -/
def textLength (s : List Char) : Nat := (s.takeWhile fun c => !"<>\x7b\x7d&".toList.contains c).length

/-- A text holds more than line breaks and the blanks behind them. -/
def hasText (afterBreak : Bool) : List Char → Bool
  | [] => false
  | c :: rest =>
    if c == '\n' then hasText true rest
    else if afterBreak && isBreakSpace c then hasText true rest
    else true

/-- A name of an element or attribute without a namespace. -/
def markupName (type : String) : Reader ParseTree :=
  lexeme type fun s => match max (nameLength s) (hyphenatedLength s) with
    | 0 => none
    | n => some n

/-- A name in a namespace, if a colon follows. -/
def qualified (first : ParseTree) : Reader ParseTree := do
  if ← sees ":" then
    let colon ← token ":"
    branch "jsx_namespace_name" [{ first with type := "identifier" }, colon, ← markupName "identifier"]
  else return first

def elementName : Reader ParseTree := do
  let first ← markupName "identifier"
  if ← sees "." then
    iterate (fun left : ParseTree => do
      if ← sees "." then
        let dot ← token "."
        let property ← word "property_identifier"
        return some (← branch "member_expression"
          [left.inField "object", dot, property.inField "property"])
      else return none) first
  else qualified first

variable (rules : Rules)

/-- An expression in braces; it may be left out. -/
def markupExpression : Reader ParseTree := do
  let first ← token "\x7b"
  if ← sees "\x7d" then branch "jsx_expression" [first, ← token "\x7d"]
  else
    let inner ←
      if ← sees "..." then expressionOrSpread rules else rules (.expressions .enclosed)
    branch "jsx_expression" [first, inner, ← token "\x7d"]

def attributeValue : Reader ParseTree := do
  if ← sees "\x7b" then markupExpression rules
  else if ← sees "<" then rules .element
  else lexeme "string" attributeStringLength?

def attribute_ : Reader ParseTree := do
  if ← sees "\x7b" then markupExpression rules
  else
    let name ← qualified (← markupName "property_identifier")
    if ← sees "=" then
      let equals ← token "="
      branch "jsx_attribute" [name, equals, ← attributeValue rules]
    else branch "jsx_attribute" [name]

/-- What stands between the tags of an element. -/
def elementChildren : Reader (List ParseTree) := do
  let found ← iterate (fun found : List ParseTree => do
    let c ← (fun c => .ok (c, c) : Reader Cursor)
    let n := textLength c.rest
    if hasText false (c.rest.take n) then
      let (text, behind) := leafAt "jsx_text" true n c
      moveTo behind
      return some (text :: found)
    else
      moveTo c.skipSpace
      if ← sees "</" then return none
      else if ← sees "<" then return some ((← rules .element) :: found)
      else if ← sees "\x7b" then return some ((← markupExpression rules) :: found)
      else return some ((← lexeme "html_character_reference" characterReferenceLength?) :: found)) []
  return found.reverse

/-- A markup element or fragment. -/
def markupElement : Reader ParseTree := do
  let first ← token "<"
  let name ← if ← sees ">" then pure [] else pure [(← elementName).inField "name"]
  let attributes ←
    if name.isEmpty then pure []
    else repeatWhile (do return !((← sees ">") || (← sees "/>"))) (attribute_ rules)
  let lead := first :: name ++ attributes.map (·.inField "attribute")
  if ← sees "/>" then branch "jsx_self_closing_element" (lead ++ [← token "/>"])
  else
    let tag ← branch "jsx_opening_element" (lead ++ [← token ">"])
    let children ← elementChildren rules
    let slash ← token "</"
    let closing ← if ← sees ">" then pure [] else pure [(← elementName).inField "name"]
    let closed ← branch "jsx_closing_element" (slash :: closing ++ [← token ">"])
    branch "jsx_element" (tag.inField "open_tag" :: children ++ [closed.inField "close_tag"])

end ScriptAudit.JavaScript
