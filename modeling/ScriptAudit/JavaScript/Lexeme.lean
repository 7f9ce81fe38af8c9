import ScriptAudit.Text.Ranges

namespace ScriptAudit.JavaScript

/-- Blank space between tokens: the ASCII blanks, the space separators, the line and paragraph
separators, the word joiner, the zero-width space and the byte order mark. -/
def isSpace (c : Char) : Bool :=
  let n := c.toNat
  if n < 0x80 then n == 0x20 || (0x09 ≤ n && n ≤ 0x0D)
  else Text.inRanges [(0xA0, 0xA0), (0x1680, 0x1680), (0x2000, 0x200B), (0x2028, 0x2029),
    (0x202F, 0x202F), (0x205F, 0x2060), (0x3000, 0x3000), (0xFEFF, 0xFEFF)] n

/-- Characters that end a line for a statement. -/
def isLineEnd (c : Char) : Bool := c == '\n' || c == '\u2028' || c == '\u2029'

def isDigit (c : Char) : Bool := '0' ≤ c && c ≤ '9'

def isHexDigit (c : Char) : Bool := isDigit c || ('a' ≤ c && c ≤ 'f') || ('A' ≤ c && c ≤ 'F')

def isOctalDigit (c : Char) : Bool := '0' ≤ c && c ≤ '7'

def isBinaryDigit (c : Char) : Bool := c == '0' || c == '1'

/-- Marks that cannot stand in a name. -/
def punctuation : List Char := ":;`\"'@#.,|^&<=>+-*/\\%?!~()[]\x7b\x7d".toList

/-- Characters of a name: all but controls, blank space and marks. -/
def isNamePart (c : Char) : Bool :=
  0x20 ≤ c.toNat && !isSpace c && !punctuation.contains c

/-- The length of a Unicode escape that stands for a character. -/
def codeEscapeLength? : List Char → Option Nat
  | '\\' :: 'u' :: '\x7b' :: rest =>
    let digits := rest.takeWhile isHexDigit
    match digits, rest.drop digits.length with
    | _ :: _, '\x7d' :: _ => some (digits.length + 4)
    | _, _ => none
  | '\\' :: 'u' :: a :: b :: c :: d :: _ =>
    if isHexDigit a && isHexDigit b && isHexDigit c && isHexDigit d then some 6 else none
  | _ => none

/-- The number of characters that continue a name; the first `skip` of them are part of an escape. -/
def nameTailLength (skip : Nat) : List Char → Nat
  | [] => 0
  | c :: rest =>
    match skip with
    | k + 1 => 1 + nameTailLength k rest
    | 0 =>
      if isNamePart c then 1 + nameTailLength 0 rest
      else match codeEscapeLength? (c :: rest) with
        | some k => 1 + nameTailLength (k - 1) rest
        | none => 0

/-- The length of a name; a name does not start with a digit. -/
def nameLength (s : List Char) : Nat :=
  match s with
  | [] => 0
  | c :: _ => if isDigit c then 0 else nameTailLength 0 s

/-- The name at the front of a text; empty if there is none. -/
def nameAt (s : List Char) : String := String.ofList (s.take (nameLength s))

/-- More digits of a class, each with at most one separator in front. -/
def digitTailLength (p : Char → Bool) : List Char → Nat
  | '_' :: c :: rest => if p c then 2 + digitTailLength p rest else 0
  | c :: rest => if p c then 1 + digitTailLength p rest else 0
  | [] => 0

/-- The length of a run of digits with separators. -/
def digitsLength? (p : Char → Bool) : List Char → Option Nat
  | c :: rest => if p c then some (1 + digitTailLength p rest) else none
  | [] => none

/-- The length of an exponent, zero if there is none. -/
def exponentLength (s : List Char) : Nat :=
  match s with
  | c :: rest =>
    if c == 'e' || c == 'E' then
      match rest with
      | sign :: digits =>
        if sign == '+' || sign == '-' then
          match digitsLength? isDigit digits with
          | some n => n + 2
          | none => 0
        else match digitsLength? isDigit rest with
          | some n => n + 1
          | none => 0
      | [] => 0
    else 0
  | [] => 0

/-- The whole part of a decimal with a point or an exponent: a zero, or digits that start with at most
one zero. -/
def wholePartLength? : List Char → Option Nat
  | '0' :: c :: rest =>
    if isDigit c && c != '0' then some (2 + digitTailLength isDigit rest) else some 1
  | c :: rest =>
    if c == '0' then some 1
    else if isDigit c then some (1 + digitTailLength isDigit rest) else none
  | [] => none

/-- A whole number in a base with a mark, and the suffix of a big integer. -/
def markedLengths (letters : List Char) (p : Char → Bool) : List Char → List Nat
  | '0' :: c :: rest =>
    if letters.contains c then
      match digitsLength? p rest with
      | some n => if rest[n]? == some 'n' then [n + 3] else [n + 2]
      | none => []
    else []
  | _ => []

/-- The lengths of the decimals a text starts with. -/
def decimalLengths (s : List Char) : List Nat :=
  let pointed :=
    match wholePartLength? s with
    | some n =>
      match s.drop n with
      | '.' :: rest =>
        let places := (digitsLength? isDigit rest).getD 0
        [n + 1 + places + exponentLength (rest.drop places)]
      | rest => match exponentLength rest with
        | 0 => []
        | e => [n + e]
    | none => []
  let fraction :=
    match s with
    | '.' :: rest =>
      match digitsLength? isDigit rest with
      | some n => [1 + n + exponentLength (rest.drop n)]
      | none => []
    | _ => []
  let whole :=
    match digitsLength? isDigit s with
    | some n => if s[n]? == some 'n' then [n + 1] else [n]
    | none => []
  pointed ++ fraction ++ whole

/-- The length of the longest number a text starts with. -/
def numberLength? (s : List Char) : Option Nat :=
  (markedLengths ['x', 'X'] isHexDigit s ++ markedLengths ['o', 'O'] isOctalDigit s ++
    markedLengths ['b', 'B'] isBinaryDigit s ++ decimalLengths s).max?

/-- The length of an escape in a string or template, with its backslash. -/
def escapeLength? : List Char → Option Nat
  | '\\' :: c :: rest =>
    if c == 'x' then
      match rest with
      | a :: b :: _ => if isHexDigit a && isHexDigit b then some 4 else none
      | _ => none
    else if c == 'u' then codeEscapeLength? ('\\' :: c :: rest)
    else if isOctalDigit c then some (2 + ((rest.take 2).takeWhile isOctalDigit).length)
    else if c == '\r' || c == '?' then
      if rest.head?.any isLineEnd then some 3 else some 2
    else some 2
  | _ => none

/-- The length of the rest of a string behind its opening quote; `skip` characters belong to an
escape. -/
def stringTailLength? (quote : Char) (skip : Nat) : List Char → Option Nat
  | [] => none
  | c :: rest =>
    match skip with
    | k + 1 => (stringTailLength? quote k rest).map (· + 1)
    | 0 =>
      if c == quote then some 1
      else if c == '\\' then
        match escapeLength? (c :: rest) with
        | some n => (stringTailLength? quote (n - 1) rest).map (· + 1)
        | none => none
      else if c == '\n' || c == '\r' then none
      else (stringTailLength? quote 0 rest).map (· + 1)

/-- The length of a string with its quotes. -/
def stringLength? : List Char → Option Nat
  | c :: rest =>
    if c == '"' || c == '\'' then (stringTailLength? c 0 rest).map (· + 1) else none
  | [] => none

/-- The number of plain template characters: up to a backquote, an escape or a substitution. -/
def templateCharsLength : List Char → Nat
  | '$' :: '\x7b' :: _ => 0
  | c :: rest => if c == '`' || c == '\\' then 0 else 1 + templateCharsLength rest
  | [] => 0

/-- Where the reader of a regular expression stands. -/
inductive RegexPlace where
  | plain
  | escaped
  | inClass
  | escapedInClass

/-- The length of the rest of a regular expression behind its opening slash, without flags. -/
def regexTailLength? (place : RegexPlace) : List Char → Option Nat
  | [] => none
  | c :: rest =>
    if c == '\n' then none
    else match place with
      | .plain =>
        if c == '/' then some 1
        else if c == '\\' then (regexTailLength? .escaped rest).map (· + 1)
        else if c == '[' then (regexTailLength? .inClass rest).map (· + 1)
        else (regexTailLength? .plain rest).map (· + 1)
      | .escaped => (regexTailLength? .plain rest).map (· + 1)
      | .inClass =>
        if c == ']' then (regexTailLength? .plain rest).map (· + 1)
        else if c == '\\' then (regexTailLength? .escapedInClass rest).map (· + 1)
        else (regexTailLength? .inClass rest).map (· + 1)
      | .escapedInClass => (regexTailLength? .inClass rest).map (· + 1)

/-- The length of a regular expression with slashes and flags. -/
def regexLength? : List Char → Option Nat
  | '/' :: c :: rest =>
    if c == '/' then none
    else (regexTailLength? .plain (c :: rest)).map fun n =>
      1 + n + (((c :: rest).drop n).takeWhile fun f => 'a' ≤ f && f ≤ 'z').length
  | _ => none

/-- Words that are never names. -/
def reservedWords : List String := [
  "break", "case", "catch", "class", "const", "continue", "debugger", "default", "delete", "do",
  "else", "export", "extends", "false", "finally", "for", "function", "if", "import", "in",
  "instanceof", "new", "null", "return", "super", "switch", "this", "throw", "true", "try",
  "typeof", "var", "void", "while", "with"]

def isReserved (word : String) : Bool := reservedWords.contains word

end ScriptAudit.JavaScript
