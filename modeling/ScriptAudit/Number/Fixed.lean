import ScriptAudit.Number.Double
import ScriptAudit.Number.Rounding

namespace ScriptAudit.Number

/-- The digits of `n` units of `10 ^ (-places)`. -/
def placed (places n : Nat) : List Char :=
  let whole := Nat.toDigits 10 (n / Nat.pow 10 places)
  let part := Nat.toDigits 10 (n % Nat.pow 10 places)
  if places = 0 then whole
  else whole ++ '.' :: List.replicate (places - part.length) '0' ++ part

/-- The text of a double with some decimal places. The exact value is rounded, a half to the even side. -/
def Double.fixedText (places : Nat) (d : Double) : List Char :=
  if d.isNaN then "nan".toList
  else
    let sign := if d.negative then ['-'] else []
    if d.isInfinite then sign ++ "inf".toList
    else
      let (num, den) := Double.fraction d.magnitude
      sign ++ placed places (nearestQuotient (num * Nat.pow 10 places) den)

end ScriptAudit.Number
