import ScriptAudit.Location

namespace ScriptAudit

/-- The mark behind a character. -/
def Mark.after (m : Mark) (c : Char) : Mark :=
  if c = '\n' then ⟨m.row + 1, 0, m.byte + 1⟩ else ⟨m.row, m.column + c.utf8Size, m.byte + c.utf8Size⟩

/-- The mark behind a text. -/
def Mark.afterAll (m : Mark) (s : List Char) : Mark := s.foldl Mark.after m

namespace JavaScript

structure Cursor where
  rest : List Char
  mark : Mark

namespace Cursor

def start (s : List Char) : Cursor := ⟨s, ⟨0, 0, 0⟩⟩

/-- The cursor behind the next `n` characters. -/
def advance : Nat → Cursor → Cursor
  | n + 1, ⟨c :: rest, m⟩ => advance n ⟨rest, m.after c⟩
  | _, c => c

/-- The cursor behind all characters of a class. -/
def skipWhile (p : Char → Bool) (c : Cursor) : Cursor := advance (c.rest.takeWhile p).length c

/-- The next characters are `s`. -/
def startsWith (c : Cursor) (s : String) : Bool := s.toList.isPrefixOf c.rest

def head? (c : Cursor) : Option Char := c.rest.head?

theorem advance_length_le (n : Nat) (c : Cursor) : (advance n c).rest.length ≤ c.rest.length := by
  induction n generalizing c with
  | zero => simp [advance]
  | succ n ih =>
    match c with
    | ⟨[], m⟩ => simp [advance]
    | ⟨x :: rest, m⟩ => exact Nat.le_succ_of_le (ih ⟨rest, m.after x⟩)

theorem advance_length_lt (n : Nat) (c : Cursor) (h : c.rest ≠ []) :
    (advance (n + 1) c).rest.length < c.rest.length := by
  match c, h with
  | ⟨x :: rest, m⟩, _ => exact Nat.lt_succ_of_le (advance_length_le n ⟨rest, m.after x⟩)

end Cursor

end JavaScript

end ScriptAudit
