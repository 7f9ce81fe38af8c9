import ScriptAudit.Number.Layout
import ScriptAudit.Number.Numeral

namespace ScriptAudit.Number

/-- Doubles from `10 ^ (-4)` up to `10 ^ 16` are shown positionally, always with a point, and exponents have two
digits. -/
def shownLayout : Layout := ⟨-4, 16, true, 2⟩

/-- How a double is shown in a message. -/
def Double.shown (d : Double) : List Char :=
  if d.isNaN then "nan".toList
  else
    let sign := if d.negative then ['-'] else []
    if d.isInfinite then sign ++ "inf".toList
    else if d.magnitude == 0 then sign ++ "0.0".toList
    else
      let (s, n) := (Decimal.shortest d.magnitude).significant
      sign ++ shownLayout.write s n

/-- The text in front of the first mark and the text behind it. -/
def atMark (mark : Char) (s : List Char) : List Char × List Char :=
  (s.takeWhile (· != mark), (s.dropWhile (· != mark)).drop 1)

/-- The digits `s` and the place `n` of a text that stands for `0.s * 10 ^ n`. The text may have zeros at both ends, a
point and an exponent; `s` is without the zeros. -/
def Decimal.ofShown (text : List Char) : List Char × Int :=
  let (mantissa, exponent) := atMark 'e' text
  let (whole, places) := atMark '.' mantissa
  let all := whole ++ places
  let power := if exponent.isEmpty then 0 else (Numeral.whole? 10 exponent).getD 0
  let point := Int.ofNat whole.length + power
  let digits := all.dropWhile (· == '0')
  -- Each zero in front of the digits moves the point one place to the left.
  (stripZeros digits, point - (Int.ofNat all.length - Int.ofNat digits.length))

/-- Numbers from `10 ^ (-6)` up to `10 ^ 21` are written positionally, whole ones without a point, and
exponents are not padded. -/
def scriptLayout : Layout := ⟨-6, 21, false, 1⟩

/-- The text of a double as a script prints it; both zeros are `0`. The digits are those that a message shows. -/
def Double.scriptText (d : Double) : List Char :=
  if d.isNaN then "NaN".toList
  else if d.magnitude == 0 then ['0']
  else
    let sign := if d.negative then ['-'] else []
    if d.isInfinite then sign ++ "Infinity".toList
    else
      let (s, n) := Decimal.ofShown { d with negative := false }.shown
      sign ++ scriptLayout.write s n

/-- The decimal text of an integer. -/
def intText (i : Int) : List Char :=
  (if i < 0 then ['-'] else []) ++ Nat.toDigits 10 i.natAbs

end ScriptAudit.Number
