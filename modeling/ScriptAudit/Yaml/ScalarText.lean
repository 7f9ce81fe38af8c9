import ScriptAudit.Yaml.Cursor

namespace ScriptAudit.Yaml

/-- A line break and the breaks behind it, folded: a single one becomes a blank. -/
def folded (first : Char) (more : List Char) : List Char :=
  if first != '\n' then first :: more
  else if more.isEmpty then [' ']
  else more

/-! ### Plain scalars -/

/-- How many characters of a plain scalar stand in a row. -/
def plainRun (flow : Bool) : List Char → Nat
  | [] => 0
  | c :: rest =>
    if endsToken (some c) then 0
    else if c == ':' && (endsToken rest.head? || flow && rest.head?.any ",[]\x7b\x7d".toList.contains) then 0
    else if flow && ",?[]\x7b\x7d".toList.contains c then 0
    else 1 + plainRun flow rest

/-- The breaks of empty lines, and what follows the blanks behind them; nothing at the end of a document. -/
def plainBreaks (breaks : List Char) : List Char → Option (List Char) × List Char
  | [] => (some breaks, [])
  | c :: rest =>
    if c == ' ' then plainBreaks breaks rest
    else if isBreak c then
      if startsDocumentMark rest then (none, rest)
      else plainBreaks (breaks ++ [if c == '\x85' then '\n' else c]) rest
    else (some breaks, c :: rest)

/-- What stands between two runs of a plain scalar. -/
structure PlainGap where
  /-- What the gap counts for; nothing if the scalar ends. -/
  text : List Char
  rest : List Char
  /-- The gap holds a line break. -/
  broken : Bool

def plainGap (s : List Char) : PlainGap :=
  let blanks := s.takeWhile (· == ' ')
  let behind := s.dropWhile (· == ' ')
  match lineBreak? behind with
  | none => ⟨blanks, behind, false⟩
  | some (first, next) =>
    if startsDocumentMark next then ⟨[], next, true⟩
    else match plainBreaks [] next with
      | (none, rest) => ⟨[], rest, true⟩
      | (some more, rest) => ⟨folded first more, rest, true⟩

/-- A scalar that was read. -/
structure ReadScalar where
  text : List Char
  cursor : Cursor
  /-- It ends at the beginning of a line. -/
  atLineStart : Bool

/-- The rest of a plain scalar. A run must be indented by `indent`, except inside brackets. -/
def plainFrom (flow : Bool) (indent : Int) : Nat → ReadScalar → List Char → ReadScalar
  | 0, done, _ => done
  | fuel + 1, done, gap =>
    let c := done.cursor
    let run := plainRun flow c.rest
    if c.next? == some '#' || run == 0 then done
    else
      let behind := c.advance run
      let next := plainGap behind.rest
      let here := behind.moveTo next.rest
      let read : ReadScalar := ⟨done.text ++ gap ++ c.rest.take run, here, next.broken⟩
      if next.text.isEmpty || here.next? == some '#' || (!flow && (here.column : Int) < indent) then read
      else plainFrom flow indent fuel read next.text

def plainScalar (flow : Bool) (indent : Int) (c : Cursor) : ReadScalar :=
  plainFrom flow indent (c.rest.length + 1) ⟨[], c, false⟩ []

/-! ### Quoted scalars -/

def isBlankChar (c : Char) : Bool := c == ' ' || c == '\t'

/-- The breaks of empty lines inside quotes. A document mark must not stand there. -/
def quotedBreaks : Nat → List Char → Except Fault (List Char × List Char)
  | 0, _ => .error .malformed
  | fuel + 1, s =>
    if startsDocumentMark s then .error .malformed
    else match lineBreak? (s.dropWhile isBlankChar) with
      | none => .ok ([], s.dropWhile isBlankChar)
      | some (b, rest) => (quotedBreaks fuel rest).map fun (more, r) => (b :: more, r)

/-- Blanks and line breaks inside quotes. -/
def quotedGap (s : List Char) : Except Fault (List Char × List Char) :=
  let behind := s.dropWhile isBlankChar
  match behind, lineBreak? behind with
  | [], _ => .error .malformed
  | _, none => .ok (s.takeWhile isBlankChar, behind)
  | _, some (b, rest) => (quotedBreaks (rest.length + 1) rest).map fun (more, r) => (folded b more, r)

/-- The characters with a short escape. -/
def shortEscape? (c : Char) : Option Char :=
  match c with
  | '0' => some '\x00'
  | 'a' => some '\x07'
  | 'b' => some '\x08'
  | 't' => some '\t'
  | '\t' => some '\t'
  | 'n' => some '\n'
  | 'v' => some '\x0b'
  | 'f' => some '\x0c'
  | 'r' => some '\r'
  | 'e' => some '\x1b'
  | ' ' => some ' '
  | '"' => some '"'
  | '\\' => some '\\'
  | '/' => some '/'
  | 'N' => some '\x85'
  | '_' => some '\xa0'
  | 'L' => some '\u2028'
  | 'P' => some '\u2029'
  | _ => none

/-- The number of hexadecimal digits behind an escape letter. -/
def escapeWidth? (c : Char) : Option Nat :=
  match c with
  | 'x' => some 2
  | 'u' => some 4
  | 'U' => some 8
  | _ => none

def hexValue? (c : Char) : Option Nat :=
  if '0' ≤ c && c ≤ '9' then some (c.toNat - 48)
  else if 'a' ≤ c && c ≤ 'f' then some (c.toNat - 87)
  else if 'A' ≤ c && c ≤ 'F' then some (c.toNat - 55)
  else none

/-- The value of hexadecimal digits. -/
def hexNumber? (s : List Char) : Option Nat :=
  s.foldl (fun acc c => do return 16 * (← acc) + (← hexValue? c)) (some 0)

/-- The character of a number. -/
def charOf (n : Nat) : Except Fault Char :=
  if n < 0x110000 then .ok (Char.ofNat n)
  else if n < 0x80000000 then .error .noValue
  else .error .tooLarge

/-- What an escape stands for, and what follows it. -/
def escape (s : List Char) : Except Fault (List Char × List Char) :=
  match s with
  | [] => .error .malformed
  | c :: rest =>
    match shortEscape? c, escapeWidth? c, lineBreak? s with
    | some x, _, _ => .ok ([x], rest)
    | none, some width, _ =>
      if rest.length < width then .error .malformed
      else match hexNumber? (rest.take width) with
        | none => .error .malformed
        | some n => (charOf n).map fun x => ([x], rest.drop width)
    | none, none, some (_, next) => quotedBreaks (next.length + 1) next
    | none, none, none => .error .malformed

/-- The rest of a scalar in quotes, and what follows the closing quote. -/
def quotedFrom (quote : Char) : Nat → List Char → List Char → Except Fault (List Char × List Char)
  | 0, _, _ => .error .malformed
  | fuel + 1, done, s =>
    match s with
    | [] => .error .malformed
    | c :: rest =>
      if c == quote then
        if quote == '\'' && rest.head? == some '\'' then quotedFrom quote fuel (done ++ ['\'']) (rest.drop 1)
        else .ok (done, rest)
      else if quote == '"' && c == '\\' then do
        let (text, next) ← escape rest
        quotedFrom quote fuel (done ++ text) next
      else if isBlankChar c || isBreak c then do
        let (text, next) ← quotedGap s
        quotedFrom quote fuel (done ++ text) next
      else quotedFrom quote fuel (done ++ [c]) rest

/-- A scalar in quotes, which the cursor stands at. -/
def quotedScalar (quote : Char) (c : Cursor) : Except Fault ReadScalar := do
  let inside := c.rest.drop 1
  let (text, rest) ← quotedFrom quote (inside.length + 1) [] inside
  return ⟨text, c.moveTo rest, false⟩

/-! ### Block scalars -/

/-- What happens to the line breaks at the end of a block. -/
inductive Chomping where
  | strip
  | clip
  | keep
deriving DecidableEq, Repr

def chomping? (c : Char) : Option Chomping :=
  if c == '+' then some .keep else if c == '-' then some .strip else none

/-- An indentation indicator, which must not be zero. -/
def indicator? (c : Char) : Option Nat := if c.isDigit then some (c.toNat - 48) else none

/-- The indicators behind the mark of a block, in either order. -/
def blockHeader (s : List Char) : Except Fault (Chomping × Option Nat × List Char) := do
  let (chomp, width, rest) := match s with
    | c :: rest => match chomping? c, indicator? c with
      | some k, _ => match rest with
        | d :: next => match indicator? d with
          | some n => (k, some n, next)
          | none => (k, none, rest)
        | [] => (k, none, rest)
      | none, some n => match rest with
        | d :: next => match chomping? d with
          | some k => (k, some n, next)
          | none => (.clip, some n, rest)
        | [] => (.clip, some n, rest)
      | none, none => (.clip, none, s)
    | [] => (.clip, none, s)
  if width == some 0 || !endsWord rest.head? then .error .malformed
  else return (chomp, width, rest)

/-- The rest of a line that may hold a comment, and its line break. -/
def ignoredLine (c : Cursor) : Except Fault Cursor :=
  let c := (c.skipWhile (· == ' ')).skipComment
  if endsLine c.next? then .ok c.step else .error .malformed

/-- Blank lines at the start of a block: their breaks, the widest indentation, and the place behind. -/
def blockIndentation : Nat → List Char → Nat → Cursor → List Char × Nat × Cursor
  | 0, breaks, widest, c => (breaks, widest, c)
  | fuel + 1, breaks, widest, c =>
    if c.next? == some ' ' then blockIndentation fuel breaks (max widest c.step.column) c.step
    else match lineBreak? c.rest with
      | some (b, _) => blockIndentation fuel (breaks ++ [b]) widest c.step
      | none => (breaks, widest, c)

/-- Blanks up to an indentation. -/
def skipIndent (indent : Nat) (c : Cursor) : Cursor :=
  c.advance (min (indent - c.column) (c.rest.takeWhile (· == ' ')).length)

/-- Breaks of empty lines, with the blanks up to the indentation skipped on each. -/
def blockBreaks (indent : Nat) : Nat → List Char → Cursor → List Char × Cursor
  | 0, breaks, c => (breaks, c)
  | fuel + 1, breaks, c =>
    let c := skipIndent indent c
    match lineBreak? c.rest with
    | some (b, _) => blockBreaks indent fuel (breaks ++ [b]) c.step
    | none => (breaks, c)

/-- A line of the block starts here. -/
def onBlockLine (indent : Nat) (c : Cursor) : Bool := c.column == indent && !c.rest.isEmpty

/-- The lines of a block from a cursor on: the text, the break of the last line and the breaks of empty
lines behind it. -/
def blockLines (fold : Bool) (indent : Nat) :
    Nat → List Char → List Char → Cursor → List Char × List Char × List Char × Cursor
  | 0, done, breaks, c => (done, [], breaks, c)
  | fuel + 1, done, breaks, c =>
    let line := c.rest.takeWhile (!isBreak ·)
    let behind := c.advance line.length
    let last := ((lineBreak? behind.rest).map (·.1)).toList
    let (more, next) := blockBreaks indent (behind.rest.length + 1) [] behind.step
    let text := done ++ breaks ++ line
    if onBlockLine indent next then
      let joins := fold && last == ['\n'] && !line.head?.any isBlankChar && !next.next?.any isBlankChar
      let glue := if joins then (if more.isEmpty then [' '] else []) else last
      blockLines fold indent fuel (text ++ glue) more next
    else (text, last, more, next)

/-- A block scalar, which the cursor stands at; `outer` is the indentation of what holds it. -/
def blockScalar (fold : Bool) (outer : Int) (c : Cursor) : Except Fault ReadScalar := do
  let (chomp, width, rest) ← blockHeader (c.rest.drop 1)
  let body ← ignoredLine (c.moveTo rest)
  let least := max 1 (outer + 1).toNat
  let (breaks, indent, first) := match width with
    | none =>
      let (breaks, widest, next) := blockIndentation (body.rest.length + 1) [] 0 body
      (breaks, max least widest, next)
    | some n =>
      let indent := least + n - 1
      let (breaks, next) := blockBreaks indent (body.rest.length + 1) [] body
      (breaks, indent, next)
  let (text, last, more, behind) :=
    if onBlockLine indent first then blockLines fold indent (first.rest.length + 1) [] breaks first
    else ([], [], breaks, first)
  let tail := match chomp with
    | .strip => []
    | .clip => last
    | .keep => last ++ more
  return ⟨text ++ tail, behind, true⟩

end ScriptAudit.Yaml
