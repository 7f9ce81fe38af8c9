namespace ScriptAudit

/-- A place in a text: zero-based row, byte column within it, and byte offset. -/
structure Mark where
  row : Nat
  column : Nat
  byte : Nat
deriving DecidableEq, Repr, Inhabited

/-- A one-based line and column. -/
structure Position where
  line : Int
  column : Int
deriving DecidableEq, Repr, Inhabited

/-- A stretch of text; the end is exclusive. -/
structure Location where
  start : Position
  stop : Position
deriving DecidableEq, Repr, Inhabited

/-- How many lines the end lies below the start. -/
def Location.lineSpan (l : Location) : Int := l.stop.line - l.start.line

end ScriptAudit
