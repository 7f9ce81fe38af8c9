import ScriptAudit.Text.Blank
import ScriptAudit.Text.Lines
import ScriptAudit.Text.Width

namespace ScriptAudit.Terminal

abbrev Line := List Char

/-- Characters that move the cursor and take no part in a line. -/
def isControl (c : Char) : Bool := [7, 8, 11, 12, 13].contains c.toNat

def blanks (n : Nat) : Line := List.replicate n ' '

/-- Tabs as blanks up to the next column that is a multiple of `size`; `column` cells come before. -/
def expandTabs (size column : Nat) : List Char → List Char
  | [] => []
  | c :: rest =>
    if c = '\t' then
      let n := size - column % size
      blanks n ++ expandTabs size (column + n) rest
    else c :: expandTabs size (column + Text.cellWidth c) rest

/-- The characters that fit into some cells. A wide one that fits by half becomes a blank. -/
def crop : Nat → List Char → Line
  | _, [] => []
  | room, c :: rest =>
    let w := Text.cellWidth c
    if w ≤ room then c :: crop (room - w) rest
    else blanks room

/-- Blanks at the end, up to a number of cells. -/
def pad (width : Nat) (s : Line) : Line := s ++ blanks (width - Text.cells s)

/-- The line cut or padded to a number of cells. -/
def fit (width : Nat) (s : Line) : Line := pad width (crop width s)

/-- A line that is too long ends in dots. -/
def abridge (width : Nat) (s : Line) : Line :=
  if width < Text.cells s then fit (width - 1) s ++ ['…'] else s

/-- The text without the blanks at its end. -/
def trimEnd (s : List Char) : List Char := (s.reverse.dropWhile Text.isBlank).reverse

/-- Drops as many of the blanks at the end as the line has characters too many. -/
def dropExcess (width : Nat) (s : Line) : Line :=
  s.take (max (trimEnd s).length (min width s.length))

/-- The words of a text, each with the blanks behind it, the first one with those before it too. The
first argument is the word so far, if it holds more than blanks. -/
def wordsFrom (word : List Char) (open_ : Bool) : List Char → List (List Char)
  | [] => if open_ then [word] else []
  | c :: rest =>
    if Text.isBlank c then wordsFrom (word ++ [c]) open_ rest
    else if open_ && word.getLast?.any Text.isBlank then word :: wordsFrom [c] true rest
    else wordsFrom (word ++ [c]) true rest

def words (s : List Char) : List (List Char) := wordsFrom [] false s

/-- Pieces of at most `width` cells, given the piece that was begun. -/
def chop (width : Nat) (piece : List Char) : List Char → List (List Char)
  | [] => [piece]
  | c :: rest =>
    if width < Text.cells piece + Text.cellWidth c then piece :: chop width [c] rest
    else chop width (piece ++ [c]) rest

/-- The lines that words fill, given the line that was begun. A word that does not fit begins a line, and
one that fits on no line is chopped. -/
def fill (width : Nat) (line : Line) : List (List Char) → List Line
  | [] => [line]
  | word :: rest =>
    let size := Text.cells (trimEnd word)
    if Text.cells line + size ≤ width then fill width (line ++ word) rest
    else
      let done := if line.isEmpty then [] else [line]
      if width < size then
        let pieces := chop width [] word
        done ++ pieces.dropLast ++ fill width (pieces.getLastD []) rest
      else done ++ fill width word rest

/-- The lines of a text without line breaks. A text of blanks only is one line. -/
def wrapLine (width : Nat) (s : List Char) : List Line :=
  let s := expandTabs 8 0 s
  let lines := match words s with
    | [] => [s]
    | ws => fill width [] ws
  lines.map fun l => crop width (dropExcess width l)

/-- The lines of a text in a number of cells. -/
def wrap (width : Nat) (s : List Char) : List Line :=
  (Text.lines (s.filter fun c => !isControl c)).flatMap (wrapLine width)

end ScriptAudit.Terminal
