namespace ScriptAudit.Yaml

/-- Why a text gives no value. -/
inductive Fault where
  /-- The text is not of the format. -/
  | malformed
  /-- A scalar has no value of its type. -/
  | noValue
  /-- The number of an escaped character is far too large. -/
  | tooLarge
  /-- A scalar that is to be a boolean is none of its words. -/
  | notBoolean
  /-- A scalar that is to be a number is empty. -/
  | noDigits
  /-- A scalar that is to be a time is not written as one. -/
  | notTime
  /-- A mapping stands for a time. -/
  | notText
  /-- A mapping stands for its own text. -/
  | endless
deriving DecidableEq, Repr

/-- Characters that end a line. -/
def isBreak (c : Char) : Bool := c == '\n' || c == '\x85' || c == '\u2028' || c == '\u2029'

/-- Characters a text may hold. -/
def isAllowed (c : Char) : Bool :=
  let n := c.toNat
  n == 0x09 || n == 0x0A || n == 0x0D || (0x20 ≤ n && n ≤ 0x7E) || n == 0x85 ||
    (0xA0 ≤ n && n ≤ 0xD7FF) || (0xE000 ≤ n && n ≤ 0xFFFD) || 0x10000 ≤ n

/-- The character after a place ends a line, or there is none. -/
def endsLine (c : Option Char) : Bool := c.all isBreak

/-- The character after a place is a blank or ends the line. -/
def endsWord (c : Option Char) : Bool := c.all fun x => x == ' ' || isBreak x

/-- As `endsWord`, a tab counting as blank. -/
def endsToken (c : Option Char) : Bool := c.all fun x => x == ' ' || x == '\t' || isBreak x

/-- Characters of names. -/
def isNameChar (c : Char) : Bool := c.isAlphanum || c == '-' || c == '_'

/-- The rest of a text with the line, column and number of its first character. -/
structure Cursor where
  rest : List Char
  line : Nat
  column : Nat
  index : Nat

namespace Cursor

def start (s : List Char) : Cursor := ⟨s, 0, 0, 0⟩

/-- The cursor behind the next character. A byte order mark takes no column. -/
def step (c : Cursor) : Cursor :=
  match c.rest with
  | [] => c
  | x :: rest =>
    if isBreak x then ⟨rest, c.line + 1, 0, c.index + 1⟩
    else ⟨rest, c.line, if x = '\ufeff' then c.column else c.column + 1, c.index + 1⟩

def advance : Nat → Cursor → Cursor
  | 0, c => c
  | n + 1, c => advance n c.step

/-- The cursor where a given rest of the text starts. -/
def moveTo (c : Cursor) (rest : List Char) : Cursor := c.advance (c.rest.length - rest.length)

def next? (c : Cursor) : Option Char := c.rest.head?

/-- The character some places ahead. -/
def ahead? (c : Cursor) (n : Nat) : Option Char := c.rest[n]?

def skipWhile (p : Char → Bool) (c : Cursor) : Cursor := c.advance (c.rest.takeWhile p).length

/-- The cursor behind a comment, if one starts here. -/
def skipComment (c : Cursor) : Cursor :=
  if c.next? == some '#' then c.skipWhile (!isBreak ·) else c

end Cursor

/-- The line break at the start of a text as it counts in a scalar, and what follows. -/
def lineBreak? : List Char → Option (Char × List Char)
  | c :: rest =>
    if c == '\n' || c == '\x85' then some ('\n', rest)
    else if isBreak c then some (c, rest)
    else none
  | [] => none

/-- The text starts with three of a character that stand alone. -/
def startsMark (mark : Char) (s : List Char) : Bool :=
  s.take 3 == [mark, mark, mark] && endsToken s[3]?

/-- The text starts with a mark that divides documents. -/
def startsDocumentMark (s : List Char) : Bool := startsMark '-' s || startsMark '.' s

end ScriptAudit.Yaml
