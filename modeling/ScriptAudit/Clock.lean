namespace ScriptAudit

/-- A moment of a calendar day. -/
structure Moment where
  year : Nat
  month : Nat
  day : Nat
  hour : Nat
  minute : Nat
  second : Nat
  micro : Nat := 0
deriving DecidableEq, Repr

namespace Moment

/-- A number with zeros in front, at least `width` digits long. -/
def digits (width n : Nat) : String :=
  let shown := Nat.toDigits 10 n
  String.ofList (List.replicate (width - shown.length) '0' ++ shown)

def date (m : Moment) : String := digits 4 m.year ++ "-" ++ digits 2 m.month ++ "-" ++ digits 2 m.day

def time (m : Moment) : String := digits 2 m.hour ++ ":" ++ digits 2 m.minute ++ ":" ++ digits 2 m.second

/-- Date and time in one word; parts of a second only if there are any. -/
def stamp (m : Moment) : String :=
  m.date ++ "T" ++ m.time ++ (if m.micro = 0 then "" else "." ++ digits 6 m.micro)

end Moment

end ScriptAudit
