import ScriptAudit.Number.Double

namespace ScriptAudit.Number

/-- A decimal `digits * 10 ^ exponent`. -/
structure Decimal where
  digits : Nat
  exponent : Int
deriving DecidableEq

namespace Decimal

/-- The number of decimal digits of a natural number; zero has one. -/
def digitCount (n : Nat) : Nat := (Nat.toDigits 10 n).length

/-- The place of the leading digit: `10 ^ (place - 1) ≤ num / den < 10 ^ place`. -/
def leadingPlace (num den : Nat) : Int :=
  if den ≤ num then digitCount (num / den)
  else 1 - Int.ofNat (digitCount ((den + num - 1) / num - 1))

/-- `num / den` counted in units of `10 ^ exponent`, as a fraction. -/
def inUnits (num den : Nat) (exponent : Int) : Nat × Nat :=
  match exponent with
  | .ofNat e => (num, den * Nat.pow 10 e)
  | .negSucc e => (num * Nat.pow 10 (e + 1), den)

/-- The magnitude a decimal reads as. -/
def toMagnitude (d : Decimal) : Nat := (Double.ofDecimal false d.digits d.exponent).magnitude

/-- The neighbours of `num / den` on the grid of multiples of `10 ^ exponent`, the nearer one first. -/
def neighbours (num den : Nat) (exponent : Int) : List Decimal :=
  let (n, d) := inUnits num den exponent
  let low := n / d
  let near := nearestQuotient n d
  if near == low then [⟨low, exponent⟩, ⟨low + 1, exponent⟩] else [⟨low + 1, exponent⟩, ⟨low, exponent⟩]

/-- The finite magnitude written out in full. -/
def exact (magnitude : Nat) : Decimal :=
  ⟨Double.significand magnitude * Nat.pow 2 (Double.doublings magnitude) * Nat.pow 5 Double.unitPower,
    -Int.ofNat Double.unitPower⟩

/-- The shortest decimal that reads back as a finite magnitude: the first of 1, 2, … 17 digits for
which a neighbour on the grid does. -/
def shortest (magnitude : Nat) : Decimal :=
  let (num, den) := Double.fraction magnitude
  let place := leadingPlace num den
  let found := (List.range 17).findSome? fun n =>
    (neighbours num den (place - Int.ofNat (n + 1))).find? fun d => d.toMagnitude == magnitude
  found.getD (exact magnitude)

/-- Trailing zeros moved into the exponent. -/
def stripZeros (digits : List Char) : List Char := (digits.reverse.dropWhile (· == '0')).reverse

/-- The significant digits `s` and the place `n` of a decimal `0.s * 10 ^ n`. -/
def significant (d : Decimal) : List Char × Int :=
  let all := Nat.toDigits 10 d.digits
  (stripZeros all, Int.ofNat all.length + d.exponent)

end Decimal

end ScriptAudit.Number
