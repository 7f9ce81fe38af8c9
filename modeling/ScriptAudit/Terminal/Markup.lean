import ScriptAudit.Terminal.Line
import ScriptAudit.Text.Case

namespace ScriptAudit.Terminal

/-- The text without the blanks at both ends. -/
def trimmed (s : List Char) : List Char := trimEnd (Text.dropBlank s)

/-- What the terminal decides: the name that a style is opened and closed under however it is spelled, whether the
parameters of an event can be read, and which characters standard output has. -/
structure Screen where
  styleName : List Char → List Char := fun s => Text.lower (trimmed s)
  readsEvent : List Char → Bool := fun _ => true
  takes : Char → Bool := fun _ => true

/-- What may stand first in a tag. -/
def opensTag (c : Char) : Bool := 'a' ≤ c && c ≤ 'z' || c == '#' || c == '/' || c == '@'

/-- The length of the tag that a text starts with. A tag holds no other bracket. -/
def tagLength? : List Char → Option Nat
  | '[' :: c :: rest =>
    let body := rest.takeWhile fun d => d != ']' && d != '['
    if opensTag c && (rest.drop body.length).head? == some ']' then some (body.length + 3) else none
  | _ => none

/-- A tag, with the parameters behind its equals sign. -/
structure Tag where
  name : List Char
  parameters : List Char
deriving DecidableEq, Repr

/-- The tag of a text in brackets. -/
def Tag.ofText (s : List Char) : Tag :=
  let inner := (s.drop 1).dropLast
  ⟨inner.takeWhile (· != '='), (inner.dropWhile (· != '=')).drop 1⟩

inductive Piece where
  | text (s : List Char)
  | tag (t : Tag)
deriving DecidableEq, Repr

/-- The pieces of a text after its next characters, which are not looked at. Of the backslashes before a tag each two
stand for one, and one left over keeps the tag from being read. -/
def piecesFrom : Nat → List Char → List Piece
  | _, [] => []
  | n + 1, _ :: rest => piecesFrom n rest
  | 0, c :: rest =>
    let slashes := ((c :: rest).takeWhile (· == '\\')).length
    let behind := (c :: rest).dropWhile (· == '\\')
    match tagLength? behind with
    | some n =>
      .text (List.replicate (slashes / 2) '\\') ::
        (if slashes % 2 = 1 then .text (behind.take n) else .tag (.ofText (behind.take n))) ::
        piecesFrom (slashes + n - 1) rest
    | none =>
      if c = '\\' && rest.head? == some '[' then piecesFrom 0 rest else .text [c] :: piecesFrom 0 rest

def pieces (s : List Char) : List Piece := piecesFrom 0 s

/-- Takes the innermost tag of a name out of the open ones, the innermost of which comes first. -/
def takeNamed (name : List Char) : List Tag → Option (Tag × List Tag)
  | [] => none
  | t :: rest => if t.name = name then some (t, rest) else (takeNamed name rest).map fun r => (r.1, t :: r.2)

/-- The tag can be closed: if it is an event with parameters, they can be read. -/
def Tag.closable (screen : Screen) (t : Tag) : Bool :=
  t.name.head? != some '@' || t.parameters.isEmpty || screen.readsEvent t.parameters

/-- The open tags without the one that is closed, which is the innermost one if it is not named; there is no answer if
there is nothing to close. -/
def close (screen : Screen) (name : List Char) (opened : List Tag) : Option (List Tag) :=
  let closed := if name.isEmpty then opened.head?.map (·, opened.tail) else takeNamed (screen.styleName name) opened
  (closed.filter (·.1.closable screen)).map (·.2)

/-- The open tags behind a tag. One that closes another has a slash in front. -/
def Tag.follow (screen : Screen) (t : Tag) (opened : List Tag) : Option (List Tag) :=
  match t.name with
  | '/' :: name => close screen (trimmed name) opened
  | name => some (⟨screen.styleName name, t.parameters⟩ :: opened)

/-- What is printed of some pieces, with some tags open. -/
def renderFrom (screen : Screen) (opened : List Tag) : List Piece → Option (List Char)
  | [] => some []
  | .text s :: rest => (renderFrom screen opened rest).map (s ++ ·)
  | .tag t :: rest => (t.follow screen opened).bind fun opened => renderFrom screen opened rest

/-- What is printed of a text whose tags set the style; there is no answer if a tag closes what is not open. -/
def render (screen : Screen) (s : List Char) : Option (List Char) := renderFrom screen [] (pieces s)

end ScriptAudit.Terminal
