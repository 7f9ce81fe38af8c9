import ScriptAudit.Terminal.Line

namespace ScriptAudit.Terminal

/-- The characters of a box's frame. -/
structure Frame where
  topLeft : Char
  topRight : Char
  bottomLeft : Char
  bottomRight : Char
  across : Char
  down : Char

def roundFrame : Frame := ⟨'╭', '╮', '╰', '╯', '─', '│'⟩

def doubleFrame : Frame := ⟨'╔', '╗', '╚', '╝', '═', '║'⟩

/-- Where a title stands in the top of a box. -/
inductive Align where
  | left
  | center
deriving DecidableEq, Repr

/-- Space split in two, the smaller half on the left. -/
def halves (n : Nat) : Nat × Nat := (n / 2, n - n / 2)

/-- A title as one line with a blank on either side. -/
def titleLine (title : List Char) : Line :=
  let clean := (title.filter fun c => !isControl c).map fun c => if c = '\n' then ' ' else c
  ' ' :: expandTabs 8 0 clean ++ [' ']

/-- The top of a box of a width, with a title in it. -/
def topLine (frame : Frame) (width : Nat) (title : Option (Align × List Char)) : Line :=
  let across (n : Nat) := List.replicate n frame.across
  match title with
  | none => frame.topLeft :: across (width - 2) ++ [frame.topRight]
  | some (align, text) =>
    let shown := crop (width - 4) (titleLine text)
    let spare := width - 4 - Text.cells shown
    let (before, behind) := match align with
      | .left => (0, spare)
      | .center => halves spare
    frame.topLeft :: frame.across :: across before ++ shown ++ across behind ++
      [frame.across, frame.topRight]

/-- A box around lines, with empty lines above and below and blanks left and right of them. -/
def panel (frame : Frame) (width above beside : Nat) (title : Option (Align × List Char))
    (content : Nat → List Line) : List Line :=
  let inner := width - 2 - 2 * beside
  let margin := List.replicate above []
  let row (l : Line) : Line :=
    frame.down :: blanks beside ++ fit inner l ++ blanks beside ++ [frame.down]
  let bottom := frame.bottomLeft :: List.replicate (width - 2) frame.across ++ [frame.bottomRight]
  topLine frame width title :: (margin ++ content inner ++ margin).map row ++ [bottom]

/-- Lines as one block in the middle of a width. -/
def centered (width : Nat) (lines : List Line) : List Line :=
  let block := (lines.map Text.cells).foldl max 0
  let (before, _) := halves (width - block)
  lines.map fun l => blanks before ++ l

/-- A line across a width with a title in the middle. -/
def ruleLine (width : Nat) (title : List Char) : Line :=
  let shown := abridge (width - 4) title
  let side := (width - Text.cells shown) / 2
  let dashes (n : Nat) := List.replicate n '─'
  fit width (dashes (side - 1) ++ ' ' :: shown ++ ' ' :: dashes (side + 1))

end ScriptAudit.Terminal
