import ScriptAudit.Number.Double
import ScriptAudit.Text.Blank
import ScriptAudit.Text.Digit

namespace ScriptAudit.Number

open ScriptAudit.Text

/-- Why a text has no value as a number. -/
inductive NumeralFault where
  | malformed
  | tooLarge
deriving DecidableEq, Repr

namespace Numeral

/-- Blanks around a numeral; the information separators do not count. -/
def isOuterBlank (c : Char) : Bool := isBlank c && !(0x1C ≤ c.toNat && c.toNat ≤ 0x1F)

def trim (s : List Char) : List Char :=
  ((s.dropWhile isOuterBlank).reverse.dropWhile isOuterBlank).reverse

/-- Digits of any script become the digits 0 to 9. -/
def plainDigits (s : List Char) : List Char :=
  s.map fun c => ((decimalValue? c).map Nat.digitChar).getD c

/-- A leading sign and the rest. -/
def splitSign : List Char → Bool × List Char
  | '-' :: rest => (true, rest)
  | '+' :: rest => (false, rest)
  | s => (false, s)

/-- The value of a digit of a base up to 16. -/
def digitValue? (base : Nat) (c : Char) : Option Nat :=
  let n := c.toNat
  let v :=
    if 48 ≤ n && n ≤ 57 then n - 48
    else if 97 ≤ n && n ≤ 102 then n - 87
    else if 65 ≤ n && n ≤ 70 then n - 55
    else base
  if v < base then some v else none

/-- The value of a run of digits, most significant first. -/
def digitsValue? (base : Nat) (s : List Char) : Option Nat :=
  s.foldl (fun acc c => do return (← acc) * base + (← digitValue? base c)) (some 0)

/-- The letter that marks a base; base ten has none. -/
def baseLetter? (base : Nat) : Option Char :=
  if base == 16 then some 'x' else if base == 8 then some 'o' else if base == 2 then some 'b' else none

/-- A base mark such as `0x` dropped from the front. -/
def dropBaseMark (base : Nat) : List Char → List Char
  | '0' :: c :: rest => if some c.toLower == baseLetter? base then rest else '0' :: c :: rest
  | s => s

/-- A whole number in a base; the mark of the base may stand in front of the digits. -/
def whole? (base : Nat) (s : List Char) : Option Int :=
  let (negative, unsigned) := splitSign (trim (plainDigits s))
  match dropBaseMark base unsigned with
  | [] => none
  | digits => (digitsValue? base digits).map fun v => if negative then -Int.ofNat v else Int.ofNat v

def isPlainDigit (c : Char) : Bool := 48 ≤ c.toNat && c.toNat ≤ 57

/-- The exponent that may follow the digits of a decimal. -/
def exponent? : List Char → Option Int
  | [] => some 0
  | c :: rest =>
    if c == 'e' || c == 'E' then
      let (negative, digits) := splitSign rest
      if digits.isEmpty then none
      else (digitsValue? 10 digits).map fun v => if negative then -Int.ofNat v else Int.ofNat v
    else none

/-- A decimal without sign: digits with at most one point, then an exponent. -/
def unsignedDecimal? (s : List Char) : Option (Nat × Int) :=
  let whole := s.takeWhile isPlainDigit
  let rest := s.dropWhile isPlainDigit
  let (places, tail) :=
    match rest with
    | '.' :: r => (r.takeWhile isPlainDigit, r.dropWhile isPlainDigit)
    | r => ([], r)
  if whole.isEmpty && places.isEmpty then none
  else do
    let digits ← digitsValue? 10 (whole ++ places)
    let e ← exponent? tail
    return (digits, e - Int.ofNat places.length)

/-- A decimal numeral, or one of the words for infinity and for what is not a number. -/
def decimal? (s : List Char) : Option Double :=
  let (negative, unsigned) := splitSign (trim (plainDigits s))
  let word := unsigned.map Char.toLower
  if word == "inf".toList || word == "infinity".toList then
    some (Double.ofMagnitude negative Double.infinite)
  else if word == "nan".toList then some Double.nan
  else (unsignedDecimal? unsigned).map fun (digits, e) => Double.ofDecimal negative digits e

end Numeral

end ScriptAudit.Number
