import ScriptAudit.Number.Layout

namespace ScriptAudit.Yaml

structure Date where
  year : Nat
  month : Nat
  day : Nat
deriving DecidableEq, Repr

structure Time where
  date : Date
  hour : Nat
  minute : Nat
  second : Nat
  micro : Nat
  /-- Minutes east of Greenwich. -/
  offset : Option Int
deriving DecidableEq, Repr

namespace Date

def isLeapYear (y : Nat) : Bool := y % 4 == 0 && (y % 100 != 0 || y % 400 == 0)

def daysIn (year month : Nat) : Nat :=
  if month == 2 then if isLeapYear year then 29 else 28
  else if [4, 6, 9, 11].contains month then 30
  else 31

/-- There is such a day. -/
def isValid (d : Date) : Bool :=
  1 ≤ d.year && d.year ≤ 9999 && 1 ≤ d.month && d.month ≤ 12 && 1 ≤ d.day && d.day ≤ daysIn d.year d.month

def shown (d : Date) : List Char :=
  Number.Layout.padded 4 d.year ++ '-' :: Number.Layout.padded 2 d.month ++ '-' ::
    Number.Layout.padded 2 d.day

end Date

namespace Time

/-- The time of a day as it is written. -/
structure WrittenClock where
  hour : Nat
  minute : Nat
  second : Nat
  fraction : List Char
  zone : Option Int

/-- A date, perhaps with a time, as it is written. -/
structure Written where
  year : Nat
  month : Nat
  day : Nat
  /-- Month and day have two digits each. -/
  full : Bool
  clock : Option WrittenClock

/-- The value of decimal digits. -/
def number (s : List Char) : Nat := s.foldl (fun n c => 10 * n + (c.toNat - 48)) 0

/-- From `least` to `most` digits, as many as there are, and what follows. -/
def digits? (least most : Nat) (s : List Char) : Option (List Char × List Char) :=
  let found := (s.takeWhile Char.isDigit).take most
  if found.length < least then none else some (found, s.drop found.length)

def after? (c : Char) : List Char → Option (List Char)
  | x :: rest => if x == c then some rest else none
  | [] => none

def isGap (c : Char) : Bool := c == ' ' || c == '\t'

/-- A time zone: nothing, `Z`, or hours and perhaps minutes with a sign. -/
def zone? (s : List Char) : Option (Option Int) :=
  if s.isEmpty then some none
  else match s.dropWhile isGap with
    | ['Z'] => some (some 0)
    | sign :: rest => do
      if sign != '+' && sign != '-' then none
      else
        let (hours, rest) ← digits? 1 2 rest
        let minutes ← match rest with
          | [] => some 0
          | [':', a, b] => if a.isDigit && b.isDigit then some (number [a, b]) else none
          | _ => none
        let total : Int := number hours * 60 + minutes
        some (some (if sign == '-' then -total else total))
    | [] => none

def clock? (s : List Char) : Option WrittenClock := do
  let (hour, s) ← digits? 1 2 s
  let (minute, s) ← digits? 2 2 (← after? ':' s)
  let (second, s) ← digits? 2 2 (← after? ':' s)
  let (fraction, s) := match s with
    | '.' :: rest => (rest.takeWhile Char.isDigit, rest.dropWhile Char.isDigit)
    | _ => ([], s)
  return ⟨number hour, number minute, number second, fraction, ← zone? s⟩

/-- A date, perhaps with a time, that is the whole text. -/
def written? (s : List Char) : Option Written := do
  let (year, s) ← digits? 4 4 s
  let (month, s) ← digits? 1 2 (← after? '-' s)
  let (day, s) ← digits? 1 2 (← after? '-' s)
  let base : Written := ⟨number year, number month, number day, month.length == 2 && day.length == 2, none⟩
  match s with
  | [] => return base
  | c :: rest =>
    if c == 'T' || c == 't' then return { base with clock := some (← clock? rest) }
    else if isGap c then return { base with clock := some (← clock? (rest.dropWhile isGap)) }
    else none

/-- A plain scalar is a time if it is written as one; a date alone needs all its digits. -/
def isPlain (s : List Char) : Bool := (written? s).any fun w => w.full || w.clock.isSome

namespace Written

def date? (w : Written) : Option Date :=
  let d : Date := ⟨w.year, w.month, w.day⟩
  if d.isValid then some d else none

/-- The first six digits of a fraction of a second, filled up with zeros. -/
def micros (fraction : List Char) : Nat := number ((fraction ++ List.replicate 6 '0').take 6)

/-- There is such a time, in a zone less than a day away. -/
def time? (w : Written) (d : Date) : Option Time := do
  let c ← w.clock
  if c.hour < 24 && c.minute < 60 && c.second < 60 && c.zone.all (fun z => z.natAbs < 24 * 60) then
    return ⟨d, c.hour, c.minute, c.second, micros c.fraction, c.zone⟩
  else none

end Written

/-- A time zone as a sign, hours and minutes. -/
def zoneShown (minutes : Int) : List Char :=
  (if minutes < 0 then '-' else '+') :: Number.Layout.padded 2 (minutes.natAbs / 60) ++ ':' ::
    Number.Layout.padded 2 (minutes.natAbs % 60)

def shown (t : Time) : List Char :=
  t.date.shown ++ ' ' :: Number.Layout.padded 2 t.hour ++ ':' :: Number.Layout.padded 2 t.minute ++ ':' ::
    Number.Layout.padded 2 t.second ++
    (if t.micro = 0 then [] else '.' :: Number.Layout.padded 6 t.micro) ++
    (t.offset.map zoneShown).getD []

end Time

end ScriptAudit.Yaml
