import ScriptAudit.JavaScript.Trivia
import ScriptAudit.ParseTree.Basic

namespace ScriptAudit.JavaScript

/-- A reader either succeeds or says where it is stuck. -/
def Reader (α : Type) : Type := Cursor → Except Mark (α × Cursor)

namespace Reader

variable {α β : Type}

instance : Monad Reader where
  pure a := fun c => .ok (a, c)
  bind r f := fun c =>
    match r c with
    | .ok (a, c') => f a c'
    | .error m => .error m

def stuck : Reader α := fun c => .error c.mark

/-- The first reader, or the second from the same place; if both are stuck, the farther place counts. -/
def orElse (r s : Reader α) : Reader α := fun c =>
  match r c with
  | .ok result => .ok result
  | .error m =>
    match s c with
    | .ok result => .ok result
    | .error m' => .error (if m.byte < m'.byte then m' else m)

/-- The cursor at the next token. Where an operator cannot stand, comments may look like markup. -/
def ahead (markup : Bool) : Reader Cursor := fun c => .ok (c.skipTrivia markup, c)

/-- The text from the next token on. -/
def upcoming : Reader (List Char) := fun c => .ok ((c.skipTrivia false).rest, c)

/-- The name that comes next; empty if none does. -/
def upcomingName : Reader String := fun c => .ok (nameAt (c.skipTrivia false).rest, c)

/-- The next token starts with `s`. -/
def sees (s : String) : Reader Bool := fun c => .ok ((c.skipTrivia false).startsWith s, c)

/-- Goes to a cursor that was found by looking ahead. -/
def moveTo (c : Cursor) : Reader Unit := fun _ => .ok ((), c)

/-- A leaf of `n` characters at a cursor. -/
def leafAt (type : String) (named : Bool) (n : Nat) (c : Cursor) : ParseTree × Cursor :=
  let behind := c.advance n
  (ParseTree.build type c.mark behind.mark named false none [], behind)

/-- A named leaf of the length that `length?` finds at the next token. -/
def lexeme (type : String) (length? : List Char → Option Nat) : Reader ParseTree := fun c =>
  let here := c.skipTrivia false
  match length? here.rest with
  | some n => .ok (leafAt type true n here)
  | none => .error here.mark

/-- A token spelled `s`. -/
def token (s : String) : Reader ParseTree := fun c =>
  let here := c.skipTrivia false
  if here.startsWith s then .ok (leafAt s false s.length here) else .error here.mark

/-- A word that has to be `s`. -/
def keyword (s : String) : Reader ParseTree := fun c =>
  let here := c.skipTrivia false
  if nameAt here.rest == s then .ok (leafAt s false s.length here) else .error here.mark

/-- A word that has to be `s`, as a node of that name. -/
def namedKeyword (s : String) : Reader ParseTree := fun c =>
  let here := c.skipTrivia false
  if nameAt here.rest == s then .ok (leafAt s true s.length here) else .error here.mark

/-- Any word, reserved or not. -/
def word (type : String) : Reader ParseTree :=
  lexeme type fun s => match nameLength s with
    | 0 => none
    | n => some n

/-- A name that is not reserved. -/
def name (type : String) : Reader ParseTree :=
  lexeme type fun s => match nameLength s with
    | 0 => none
    | n => if isReserved (String.ofList (s.take n)) then none else some n

/-- A private name with its number sign. -/
def privateName : Reader ParseTree :=
  lexeme "private_property_identifier" fun s => match s with
    | '#' :: rest => match nameLength rest with
      | 0 => none
      | n => some (n + 1)
    | _ => none

/-- A node over children that were just read; it ends at the cursor. -/
def branch (type : String) (children : List ParseTree) : Reader ParseTree := fun c =>
  let start := (children.head?.map (·.start)).getD c.mark
  .ok (ParseTree.build type start c.mark true false none children, c)

/-- The statement could end here without a semicolon. -/
def canEnd (canContinue : Bool) : Reader Bool := fun c => .ok ((c.omittedSemicolon? canContinue).isSome, c)

/-- Takes the place of an omitted semicolon, if the statement may end here. -/
def optionalEnd (canContinue : Bool) : Reader Unit := fun c =>
  .ok ((), (c.omittedSemicolon? canContinue).getD c)

/-- A semicolon or its omission. -/
def semicolon (canContinue : Bool) : Reader (List ParseTree) := fun c =>
  match c.omittedSemicolon? canContinue with
  | some behind => .ok ([], behind)
  | none => ((fun t => [t]) <$> token ";") c

/-- Takes at most as many steps as a text has characters. -/
def iterateAlong (step : α → Reader (Option α)) : List Char → α → Reader α
  | [], _ => stuck
  | _ :: limit, a => do
    match ← step a with
    | some b => iterateAlong step limit b
    | none => return a

/-- Takes steps until there is none to take. Every step but two reads a character. -/
def iterate (step : α → Reader (Option α)) (a : α) : Reader α := fun c =>
  iterateAlong step (' ' :: ' ' :: c.rest) a c

/-- Reads as long as `more` says so. -/
def repeatWhile (more : Reader Bool) (r : Reader α) : Reader (List α) := do
  let found ← iterate (fun found : List α => do
    if ← more then return some ((← r) :: found) else return none) []
  return found.reverse

/-- Passes over blank space and comments, those that look like markup too. -/
def skipMarkup : Reader Unit := fun c => .ok ((), c.skipTrivia true)

/-- Items with commas between them up to a closing token. Items may be left out, but two of them need
a comma in between. -/
def separated (close : String) (item : Reader ParseTree) : Reader (List ParseTree) := do
  let (found, _) ← iterate (fun (state : List ParseTree × Bool) => do
    let (found, afterItem) := state
    if ← sees close then return none
    else if ← sees "," then return some ((← token ",") :: found, false)
    else if afterItem then stuck
    else return some ((← item) :: found, true)) ([], false)
  return found.reverse

/-- A list of items between two tokens. -/
def delimited (start close : String) (item : Reader ParseTree) : Reader (List ParseTree) := do
  let first ← token start
  let items ← separated close item
  let last ← token close
  return first :: items ++ [last]

/-- A token if it comes next. -/
def optionalToken (s : String) : Reader (List ParseTree) := do
  if ← sees s then return [← token s] else return []

end Reader

end ScriptAudit.JavaScript
