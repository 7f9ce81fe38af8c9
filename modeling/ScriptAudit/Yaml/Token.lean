import ScriptAudit.Text.Utf8
import ScriptAudit.Yaml.ScalarText

namespace ScriptAudit.Yaml

/-- A line that starts with a percent sign. -/
inductive Directive where
  | version (major minor : Nat)
  | tagHandle (handle uri : String)
  | other
deriving DecidableEq, Repr

inductive Token where
  | streamEnd
  /-- Reading could not go on here. -/
  | broken (fault : Fault)
  | directive (d : Directive)
  | documentStart
  | documentEnd
  | blockSequenceStart
  | blockMappingStart
  | blockEnd
  | flowSequenceStart
  | flowSequenceEnd
  | flowMappingStart
  | flowMappingEnd
  | key
  | value
  | blockEntry
  | flowEntry
  | reference (name : String)
  | anchor (name : String)
  | tag (handle : Option String) (suffix : String)
  | scalar (text : String) (plain : Bool)
deriving DecidableEq, Repr

/-- A place where a key may have started. -/
structure KeyPlace where
  /-- The number of tokens before it. -/
  position : Nat
  /-- Nothing else may stand there. -/
  required : Bool
  index : Nat
  line : Nat
  column : Nat

/-- The state of reading tokens. -/
structure Tokens where
  cursor : Cursor
  /-- The tokens so far. -/
  read : List Token := []
  /-- The indentation of the block around the cursor, and of those around it. -/
  indent : Int := -1
  outer : List Int := []
  /-- A key may start here. -/
  keyAllowed : Bool := true
  /-- The place of a possible key outside all brackets. -/
  key : Option KeyPlace := none
  /-- The brackets around the cursor, the innermost first, with the place of a possible key before each. -/
  brackets : List (Option KeyPlace) := []

namespace Tokens

def inFlow (t : Tokens) : Bool := !t.brackets.isEmpty

def emit (t : Tokens) (token : Token) : Tokens := { t with read := t.read ++ [token] }

/-- Reads a token of some characters. -/
def take (t : Tokens) (n : Nat) (token : Token) : Tokens :=
  { t.emit token with cursor := t.cursor.advance n }

/-- The place has passed: a key stands on one line and is not long. -/
def isPast (c : Cursor) (k : KeyPlace) : Bool := k.line != c.line || 1024 < c.index - k.index

/-- Forgets a place that has passed; a required key must not be missed. -/
def expire (c : Cursor) (k : Option KeyPlace) : Except Fault (Option KeyPlace) :=
  match k with
  | none => .ok none
  | some p =>
    if isPast c p then if p.required then .error .malformed else .ok none
    else .ok (some p)

def expireAll (t : Tokens) : Except Fault Tokens := do
  return { t with key := ← expire t.cursor t.key, brackets := ← t.brackets.mapM (expire t.cursor) }

/-- No key starts at the place that was noted. -/
def forgetKey (t : Tokens) : Except Fault Tokens :=
  if t.key.any (·.required) then .error .malformed else .ok { t with key := none }

/-- A key may start at the cursor. -/
def noteKey (t : Tokens) : Except Fault Tokens := do
  if t.keyAllowed then
    let t ← t.forgetKey
    let c := t.cursor
    let required := !t.inFlow && t.indent == (c.column : Int)
    return { t with key := some ⟨t.read.length, required, c.index, c.line, c.column⟩ }
  else return t

/-- Closes the blocks that are indented more than a column. -/
def closeBlocks (column : Int) : List Int → Tokens → Tokens
  | [], t => t
  | i :: rest, t =>
    if column < t.indent then closeBlocks column rest { t.emit .blockEnd with indent := i, outer := rest }
    else t

def unwind (t : Tokens) (column : Int) : Tokens :=
  if t.inFlow then t else closeBlocks column t.outer t

/-- Opens a block at a column, if it is indented more than the one around it. The block's token stands at a
position among the tokens. -/
def openBlock (t : Tokens) (column position : Nat) (token : Token) : Tokens :=
  if t.indent < (column : Int) then
    { t with
      read := t.read.take position ++ token :: t.read.drop position
      indent := column
      outer := t.indent :: t.outer }
  else t

/-- Blanks, comments and line breaks before a token. A key may start on a new line. -/
def skipGap : Nat → Tokens → Tokens
  | 0, t => t
  | fuel + 1, t =>
    let c := (t.cursor.skipWhile (· == ' ')).skipComment
    match lineBreak? c.rest with
    | some _ => skipGap fuel { t with cursor := c.step, keyAllowed := t.keyAllowed || !t.inFlow }
    | none => { t with cursor := c }

/-- A mark at the start of a text is passed over. -/
def skipOrderMark (t : Tokens) : Tokens :=
  if t.cursor.index == 0 && t.cursor.next? == some '\ufeff' then { t with cursor := t.cursor.step } else t

/-! ### Names, tags and directives -/

def nameAt (s : List Char) : List Char := s.takeWhile isNameChar

/-- An anchor or an alias, which the cursor stands at. -/
def anchorName (c : Cursor) : Except Fault (String × Cursor) :=
  let name := nameAt (c.rest.drop 1)
  let behind := c.advance (1 + name.length)
  if name.isEmpty || !(endsToken behind.next? || behind.next?.any "?:,]\x7d%@`".toList.contains) then
    .error .malformed
  else .ok (String.ofList name, behind)

def isUriChar (c : Char) : Bool := c.isAlphanum || "-;/?:@&=+$,_.!~*'()[]%".toList.contains c

/-- The bytes of escapes in a row, and what follows. -/
def uriEscapes : Nat → List Char → Except Fault (List UInt8 × List Char)
  | fuel + 1, '%' :: a :: b :: rest =>
    match hexNumber? [a, b] with
    | none => .error .malformed
    | some n => (uriEscapes fuel rest).map fun (more, r) => (UInt8.ofNat n :: more, r)
  | _, '%' :: _ => .error .malformed
  | _, s => .ok ([], s)

/-- The characters of a URI, and what follows it. -/
def uriFrom : Nat → List Char → Except Fault (List Char × List Char)
  | 0, _ => .error .malformed
  | fuel + 1, s =>
    match s with
    | [] => .ok ([], [])
    | '%' :: _ => do
      let (bytes, rest) ← uriEscapes (s.length + 1) s
      match Text.Utf8.decode? bytes with
      | none => .error .malformed
      | some text => (uriFrom fuel rest).map fun (more, r) => (text ++ more, r)
    | c :: rest =>
      if isUriChar c then (uriFrom fuel rest).map fun (more, r) => (c :: more, r) else .ok ([], s)

/-- A URI, which must not be empty. -/
def uri (s : List Char) : Except Fault (String × List Char) := do
  if !s.head?.any isUriChar then .error .malformed
  else
    let (text, rest) ← uriFrom (s.length + 1) s
    return (String.ofList text, rest)

/-- A tag handle: an exclamation mark, or a name between two. -/
def tagHandle (s : List Char) : Except Fault (String × List Char) :=
  match s with
  | '!' :: rest =>
    if rest.head? == some ' ' then .ok ("!", rest)
    else
      let name := nameAt rest
      match rest.drop name.length with
      | '!' :: behind => .ok (String.ofList ('!' :: name ++ ['!']), behind)
      | _ => .error .malformed
  | _ => .error .malformed

/-- A tag, which the text starts with. -/
def tagFrom (s : List Char) : Except Fault (Token × List Char) := do
  let next := s.drop 1
  if next.head? == some '<' then
    let (suffix, rest) ← uri (next.drop 1)
    if rest.head? == some '>' then return (.tag none suffix, rest.drop 1) else .error .malformed
  else if endsToken next.head? then return (.tag none "!", next)
  else if (next.takeWhile fun c => !endsWord (some c)).contains '!' then
    let (handle, rest) ← tagHandle s
    let (suffix, rest) ← uri rest
    return (.tag (some handle) suffix, rest)
  else
    let (suffix, rest) ← uri next
    return (.tag (some "!") suffix, rest)

/-- A number of a version. -/
def versionNumber (s : List Char) : Except Fault (Nat × List Char) :=
  let digits := s.takeWhile Char.isDigit
  if digits.isEmpty then .error .malformed
  else .ok (digits.foldl (fun n c => 10 * n + (c.toNat - 48)) 0, s.drop digits.length)

/-- What a directive says, and what follows on its line. -/
def directiveFrom (s : List Char) : Except Fault (Directive × List Char) := do
  let name := nameAt s
  let rest := s.drop name.length
  if name.isEmpty || !endsWord rest.head? then .error .malformed
  else
    let behind := rest.dropWhile (· == ' ')
    if name == "YAML".toList then
      let (major, rest) ← versionNumber behind
      if rest.head? != some '.' then .error .malformed
      else
        let (minor, rest) ← versionNumber (rest.drop 1)
        if endsWord rest.head? then return (.version major minor, rest) else .error .malformed
    else if name == "TAG".toList then
      let (handle, rest) ← tagHandle behind
      if rest.head? != some ' ' then .error .malformed
      else
        let (prefix_, rest) ← uri (rest.dropWhile (· == ' '))
        if endsWord rest.head? then return (.tagHandle handle prefix_, rest) else .error .malformed
    else return (.other, rest.dropWhile (!isBreak ·))

/-! ### Single tokens -/

/-- A token that divides documents or stands outside them; all blocks end before it. -/
def leaveDocument (t : Tokens) : Except Fault Tokens := do
  let t ← (t.unwind (-1)).forgetKey
  return { t with keyAllowed := false }

def directive (t : Tokens) : Except Fault Tokens := do
  let t ← t.leaveDocument
  let (d, rest) ← directiveFrom (t.cursor.rest.drop 1)
  let behind ← ignoredLine (t.cursor.moveTo rest)
  return { t.emit (.directive d) with cursor := behind }

def flowStart (t : Tokens) (token : Token) : Except Fault Tokens := do
  let t ← t.noteKey
  return { t.take 1 token with keyAllowed := true, key := none, brackets := t.key :: t.brackets }

def flowEnd (t : Tokens) (token : Token) : Except Fault Tokens := do
  let t ← t.forgetKey
  match t.brackets with
  | [] => .error .malformed
  | before :: rest => return { t.take 1 token with keyAllowed := false, key := before, brackets := rest }

def flowEntry (t : Tokens) : Except Fault Tokens := do
  let t ← t.forgetKey
  return { t.take 1 .flowEntry with keyAllowed := true }

/-- A block of entries or of pairs starts at the cursor, where a key may start too. -/
def enterBlock (t : Tokens) (token : Token) : Except Fault Tokens :=
  if t.inFlow then .ok t
  else if !t.keyAllowed then .error .malformed
  else .ok (t.openBlock t.cursor.column t.read.length token)

def blockEntry (t : Tokens) : Except Fault Tokens := do
  let t ← (← t.enterBlock .blockSequenceStart).forgetKey
  return { t.take 1 .blockEntry with keyAllowed := true }

def explicitKey (t : Tokens) : Except Fault Tokens := do
  let t ← (← t.enterBlock .blockMappingStart).forgetKey
  return { t.take 1 .key with keyAllowed := !t.inFlow }

/-- A colon: what stands at the noted place was a key. -/
def valueMark (t : Tokens) : Except Fault Tokens := do
  match t.key with
  | some k =>
    let marked : Tokens := { t with
      read := t.read.take k.position ++ Token.key :: t.read.drop k.position
      key := none }
    let opened := if t.inFlow then marked else marked.openBlock k.column k.position .blockMappingStart
    return { opened.take 1 .value with keyAllowed := false }
  | none =>
    let t ← (← t.enterBlock .blockMappingStart).forgetKey
    return { t.take 1 .value with keyAllowed := !t.inFlow }

/-- A token that may start a key and after which none starts. -/
def inner (t : Tokens) (read : Cursor → Except Fault (Token × Cursor)) : Except Fault Tokens := do
  let t ← t.noteKey
  let (token, behind) ← read t.cursor
  return { t.emit token with cursor := behind, keyAllowed := false }

def tag (c : Cursor) : Except Fault (Token × Cursor) := do
  let (token, rest) ← tagFrom c.rest
  if endsWord rest.head? then return (token, c.moveTo rest) else .error .malformed

def quoted (quote : Char) (c : Cursor) : Except Fault (Token × Cursor) :=
  (quotedScalar quote c).map fun s => (.scalar (String.ofList s.text) false, s.cursor)

def plain (t : Tokens) : Except Fault Tokens := do
  let t ← t.noteKey
  let s := plainScalar t.inFlow (t.indent + 1) t.cursor
  return { t.emit (.scalar (String.ofList s.text) true) with
    cursor := s.cursor, keyAllowed := s.atLineStart }

def block (t : Tokens) (fold : Bool) : Except Fault Tokens := do
  let t ← t.forgetKey
  let s ← blockScalar fold t.indent t.cursor
  return { t.emit (.scalar (String.ofList s.text) false) with cursor := s.cursor, keyAllowed := true }

/-- A plain scalar may start with these characters. -/
def startsPlain (flow : Bool) (c : Char) (next : Option Char) : Bool :=
  !(endsToken (some c) || "-?:,[]\x7b\x7d#&*!|>'\"%@`".toList.contains c) ||
    !endsToken next && (c == '-' || !flow && (c == '?' || c == ':'))

/-- The next token that starts with a character. -/
def token (t : Tokens) (c : Char) : Except Fault Tokens := do
  let next := t.cursor.ahead? 1
  let atMargin := t.cursor.column == 0
  let flow := t.inFlow
  if c == '%' && atMargin then t.directive
  else if c == '-' && atMargin && startsMark '-' t.cursor.rest then
    return (← t.leaveDocument).take 3 .documentStart
  else if c == '.' && atMargin && startsMark '.' t.cursor.rest then
    return (← t.leaveDocument).take 3 .documentEnd
  else if c == '[' then t.flowStart .flowSequenceStart
  else if c == '\x7b' then t.flowStart .flowMappingStart
  else if c == ']' then t.flowEnd .flowSequenceEnd
  else if c == '\x7d' then t.flowEnd .flowMappingEnd
  else if c == ',' then t.flowEntry
  else if c == '-' && endsToken next then t.blockEntry
  else if c == '?' && (flow || endsToken next) then t.explicitKey
  else if c == ':' && (flow || endsToken next) then t.valueMark
  else if c == '*' then t.inner fun c => (anchorName c).map fun (n, b) => (.reference n, b)
  else if c == '&' then t.inner fun c => (anchorName c).map fun (n, b) => (.anchor n, b)
  else if c == '!' then t.inner tag
  else if c == '|' && !flow then t.block false
  else if c == '>' && !flow then t.block true
  else if c == '\'' || c == '"' then t.inner (quoted c)
  else if startsPlain flow c next then t.plain
  else .error .malformed

/-- Reads tokens to the end of the text, or to where reading cannot go on. -/
def run : Nat → Tokens → List Token
  | 0, t => t.read ++ [.broken .malformed]
  | fuel + 1, t =>
    let gap := skipGap (t.cursor.rest.length + 1) t.skipOrderMark
    let step : Except Fault (Option Tokens) := do
      let here := (← gap.expireAll).unwind gap.cursor.column
      match here.cursor.rest with
      | [] => return none
      | c :: _ => return some (← here.token c)
    match step with
    | .error f => t.read ++ [.broken f]
    | .ok (some next) => run fuel next
    | .ok none =>
      match (gap.unwind (-1)).forgetKey with
      | .error f => gap.read ++ [.broken f]
      | .ok last => last.read ++ [.streamEnd]

end Tokens

/-- The tokens of a text. -/
def tokens (s : List Char) : List Token :=
  if s.all isAllowed then Tokens.run (s.length + 1) { cursor := .start s } else [.broken .malformed]

end ScriptAudit.Yaml
