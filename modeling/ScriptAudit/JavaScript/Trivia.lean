import ScriptAudit.JavaScript.Cursor
import ScriptAudit.JavaScript.Lexeme
import ScriptAudit.Text.Word

namespace ScriptAudit.JavaScript

/-- The length of the rest of a block comment, with its end. -/
def blockTailLength? : List Char → Option Nat
  | '*' :: '/' :: _ => some 2
  | _ :: rest => (blockTailLength? rest).map (· + 1)
  | [] => none

/-- The length of a comment. Comments that look like markup (`<!--` and `-->`) count only where
`markup` allows them, and they end with the line. -/
def commentLength? (markup : Bool) : List Char → Option Nat
  | '/' :: '/' :: rest =>
    some (2 + (rest.takeWhile fun c => !(isLineEnd c || c == '\r')).length)
  | '/' :: '*' :: rest => (blockTailLength? rest).map (· + 2)
  | '<' :: '!' :: '-' :: '-' :: rest =>
    if markup then some (4 + (rest.takeWhile fun c => !isLineEnd c).length) else none
  | '-' :: '-' :: '>' :: rest =>
    if markup then some (3 + (rest.takeWhile fun c => !isLineEnd c).length) else none
  | _ => none

namespace Cursor

def skipSpace (c : Cursor) : Cursor := c.skipWhile isSpace

theorem skipSpace_length_le (c : Cursor) : c.skipSpace.rest.length ≤ c.rest.length :=
  advance_length_le _ c

/-- The cursor behind blank space and comments. -/
def skipTrivia (markup : Bool) (c : Cursor) : Cursor :=
  let behind := c.skipSpace
  match h : behind.rest, commentLength? markup behind.rest with
  | _ :: _, some (n + 1) => skipTrivia markup (behind.advance (n + 1))
  | _, _ => behind
termination_by c.rest.length
decreasing_by
  have lt := advance_length_lt n c.skipSpace (by simp [behind] at h; simp [h])
  exact Nat.lt_of_lt_of_le lt (skipSpace_length_le c)

end Cursor

/-- Blank space that may stand between a statement and the line break behind it. -/
def isBreakSpace (c : Char) : Bool :=
  let n := c.toNat
  if n < 0x80 then n == 0x20 || (0x09 ≤ n && n ≤ 0x0D)
  else Text.inRanges [(0x1680, 0x1680), (0x2000, 0x2006), (0x2008, 0x200A), (0x2028, 0x2029),
    (0x205F, 0x205F), (0x3000, 0x3000)] n

/-- What comments say about a missing semicolon. -/
inductive Gap where
  | divided
  | sameLine
  | noComment
deriving DecidableEq

/-- Where the reader of a gap stands. -/
inductive GapPlace where
  | code
  | slash
  | lineComment
  | blockComment (star : Bool)

/-- Passes over blanks and comments. Unless `through` is set, it stops behind the first block comment
that no slash follows, which divides two statements only if it holds a line break. -/
def passGap (through : Bool) (place : GapPlace) (broken : Bool) : List Char → Gap × List Char
  | [] => (match place with | .slash => .noComment | _ => .divided, [])
  | c :: rest =>
    match place with
    | .code =>
      if isBreakSpace c then passGap through .code broken rest
      else if c == '/' then passGap through .slash broken rest
      else (.divided, c :: rest)
    | .slash =>
      if c == '/' then passGap through .lineComment broken rest
      else if c == '*' then passGap through (.blockComment false) broken rest
      else (.noComment, c :: rest)
    | .lineComment =>
      if isLineEnd c then passGap through .code broken rest
      else passGap through .lineComment broken rest
    | .blockComment star =>
      if star && c == '/' then
        if !through && rest.head? != some '/' then
          (if broken then .divided else .sameLine, rest)
        else passGap through .code broken rest
      else passGap through (.blockComment (c == '*')) (broken || isLineEnd c) rest

theorem passGap_length_le (through : Bool) (place : GapPlace) (broken : Bool) (s : List Char) :
    (passGap through place broken s).2.length ≤ s.length := by
  induction s generalizing place broken with
  | nil => simp [passGap]
  | cons c rest ih =>
    unfold passGap
    repeat' split
    all_goals first
      | exact Nat.le_succ_of_le (ih _ _)
      | simp

/-- The text continues with a letter, so that a keyword in front of it would be part of a name. -/
def continuesWord (s : List Char) : Bool :=
  s.head?.any fun c => Text.isLetterOrNumber c && !isDigit c

/-- A text on a new line that begins a new statement rather than going on with the old one. -/
def beginsStatement : List Char → Bool
  | [] => true
  | c :: rest =>
    if "`,:;*%><=[(?^|&/".toList.contains c then false
    else if c == '.' then rest.head?.any isDigit
    else if c == '+' then rest.head? == some '+'
    else if c == '-' then rest.head? == some '-'
    else if c == '!' then rest.head? != some '='
    else if c == 'i' then
      match rest with
      | 'n' :: tail =>
        if !continuesWord tail then false
        else !("stanceof".toList.isPrefixOf tail && !continuesWord (tail.drop 8))
      | _ => true
    else true

/-- What follows a line break begins a new statement. -/
def beginsBehindBreak (s : List Char) : Bool :=
  match passGap true .code false s with
  | (.noComment, _) => false
  | (_, rest) => beginsStatement rest

/-- A statement may end here without a semicolon: at the end of the text, before a closing brace, or
at a line break before a new statement. `canContinue` says that an operator could follow; if none
could, a comment that divides lines is enough. -/
def endsStatement (canContinue : Bool) (s : List Char) : Bool :=
  match s with
  | [] => true
  | c :: rest =>
    if c == '/' then
      let gap := passGap false .slash false rest
      if gap.1 == .noComment then false
      else if gap.1 == .divided && !canContinue && gap.2.head? != some ',' && gap.2.head? != some '=' then
        true
      else match _h : gap.2 with
        | [] => false
        | d :: more =>
          if d == '\x7d' then true
          else if isLineEnd d then beginsBehindBreak more
          else isBreakSpace d && endsStatement canContinue more
    else if c == '\x7d' then true
    else if isLineEnd c then beginsBehindBreak rest
    else isBreakSpace c && endsStatement canContinue rest
termination_by s.length
decreasing_by
  · have le := passGap_length_le false .slash false rest
    simp only [gap] at _h
    rw [_h] at le
    simp at le ⊢
    omega
  · simp

namespace Cursor

/-- The place of the semicolon that a statement may leave out, if it may end here. Comments that do not
end it are passed over. -/
def omittedSemicolon? (canContinue : Bool) (c : Cursor) : Option Cursor :=
  if endsStatement canContinue c.rest then some c
  else
    let behind := c.skipSpace
    match h : behind.rest, commentLength? false behind.rest with
    | _ :: _, some (n + 1) => omittedSemicolon? canContinue (behind.advance (n + 1))
    | _, _ => none
termination_by c.rest.length
decreasing_by
  have lt := advance_length_lt n c.skipSpace (by simp [behind] at h; simp [h])
  exact Nat.lt_of_lt_of_le lt (skipSpace_length_le c)

end Cursor

end ScriptAudit.JavaScript
