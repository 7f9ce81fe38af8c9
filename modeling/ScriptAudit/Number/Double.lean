import ScriptAudit.Number.Rounding

namespace ScriptAudit.Number

/-- The weight of the sign bit: 2 to the power 63. -/
abbrev signWeight : Nat := 0x8000000000000000

/-- The weight of the lowest bit of the exponent: 2 to the power 52. -/
abbrev exponentWeight : Nat := 0x10000000000000

/-- A binary64 number: a sign and the 63 bits of exponent and fraction. -/
structure Double where
  negative : Bool
  magnitude : Nat
  bound : magnitude < signWeight := by omega
deriving DecidableEq

namespace Double

/-- The magnitude of the infinities. -/
def infinite : Nat := 2047 * exponentWeight

def ofMagnitude (negative : Bool) (magnitude : Nat) : Double where
  negative := negative
  magnitude := magnitude % signWeight
  bound := Nat.mod_lt _ (by decide)

def ofBits (bits : Nat) : Double := ofMagnitude (bits / signWeight % 2 == 1) bits

def toBits (d : Double) : Nat := (if d.negative then signWeight else 0) + d.magnitude

def nan : Double := ofMagnitude false (infinite + exponentWeight / 2)

def zero : Double := ofMagnitude false 0

def isNaN (d : Double) : Bool := infinite < d.magnitude

def isInfinite (d : Double) : Bool := d.magnitude == infinite

def isFinite (d : Double) : Bool := d.magnitude < infinite

/-- The significand of a finite magnitude. -/
def significand (magnitude : Nat) : Nat :=
  if magnitude < exponentWeight then magnitude else exponentWeight + magnitude % exponentWeight

/-- How often the significand is doubled; the unit is `2 ^ (-1074)`. -/
def doublings (magnitude : Nat) : Nat := magnitude / exponentWeight - 1

/-- The power of two by which the unit of all magnitudes divides one. -/
def unitPower : Nat := 1074

/-- A finite magnitude as a fraction. -/
def fraction (magnitude : Nat) : Nat × Nat :=
  (significand magnitude * Nat.pow 2 (doublings magnitude), Nat.pow 2 unitPower)

/-- The magnitude nearest to `num / den`, a half going to the even one; fractions past the largest
finite magnitude become infinite. -/
def nearest (num den : Nat) : Nat :=
  let scaled := num * Nat.pow 2 unitPower
  let e := (scaled / den).log2 - 52
  min infinite (e * exponentWeight + nearestQuotient scaled (den * Nat.pow 2 e))

/-- The double nearest to a decimal `digits * 10 ^ exponent`. The number of digits settles decimals far
outside the range, whose powers would not fit into memory. -/
def ofDecimal (negative : Bool) (digits : Nat) (exponent : Int) : Double :=
  let places := Int.ofNat (Nat.toDigits 10 digits).length + exponent
  if digits == 0 || places < -330 then ofMagnitude negative 0
  else if 330 < places then ofMagnitude negative infinite
  else match exponent with
    | .ofNat e => ofMagnitude negative (nearest (digits * Nat.pow 10 e) 1)
    | .negSucc e => ofMagnitude negative (nearest digits (Nat.pow 10 (e + 1)))

/-- The double nearest to an integer; none if that would be infinite. -/
def ofInt? (i : Int) : Option Double :=
  let m := nearest i.natAbs 1
  if m < infinite then some (ofMagnitude (i < 0) m) else none

end Double

end ScriptAudit.Number
