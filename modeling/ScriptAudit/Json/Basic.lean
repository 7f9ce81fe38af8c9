import ScriptAudit.Number.Text
import ScriptAudit.Text.Hex

namespace ScriptAudit

/-- A JSON value; the members of an object keep their order. -/
inductive JsonValue where
  | null
  | int (i : Int)
  | text (s : String)
  | array (items : List JsonValue)
  | object (members : List (String × JsonValue))

namespace JsonValue

/-- The escape of a code unit of sixteen bits. -/
def unitEscape (n : Nat) : List Char := '\\' :: 'u' :: Text.hexDigits 4 n

/-- How a character is written between quotes. A character of more than sixteen bits is written as two
code units. -/
def escape (c : Char) : List Char :=
  match c with
  | '"' => ['\\', '"']
  | '\\' => ['\\', '\\']
  | '\n' => ['\\', 'n']
  | '\r' => ['\\', 'r']
  | '\t' => ['\\', 't']
  | '\x0c' => ['\\', 'f']
  | '\x08' => ['\\', 'b']
  | _ =>
    let n := c.toNat
    if 0x20 ≤ n && n < 0x7F then [c]
    else if n < 0x10000 then unitEscape n
    else unitEscape (0xD800 + (n - 0x10000) / 0x400) ++ unitEscape (0xDC00 + (n - 0x10000) % 0x400)

def quoted (s : String) : List Char := '"' :: s.toList.flatMap escape ++ ['"']

/-- A new line at a level. -/
def newLine (level : Nat) : List Char := '\n' :: List.replicate (2 * level) ' '

/-- Items between brackets, each on a line of its own. -/
def bracketed (first last : Char) (level : Nat) (items : List (List Char)) : List Char :=
  match items with
  | [] => [first, last]
  | item :: rest =>
    first :: newLine (level + 1) ++ item ++
      rest.flatMap (fun i => ',' :: newLine (level + 1) ++ i) ++ newLine level ++ [last]

mutual

/-- The text of a value at a level. -/
def render (level : Nat) : JsonValue → List Char
  | null => "null".toList
  | int i => Number.intText i
  | text s => quoted s
  | array items => bracketed '[' ']' level (renderAll (level + 1) items)
  | object members => bracketed '\x7b' '\x7d' level (renderMembers (level + 1) members)

def renderAll (level : Nat) : List JsonValue → List (List Char)
  | [] => []
  | v :: rest => render level v :: renderAll level rest

def renderMembers (level : Nat) : List (String × JsonValue) → List (List Char)
  | [] => []
  | (name, v) :: rest => (quoted name ++ ':' :: ' ' :: render level v) :: renderMembers level rest

end

end JsonValue

end ScriptAudit
