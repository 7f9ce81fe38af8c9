import ScriptAudit.Number.Shortest

namespace ScriptAudit.Number

/-- A way to write the decimal `0.s * 10 ^ n`. -/
structure Layout where
  /-- Positional notation is used for `lowest < n ≤ highest`. -/
  lowest : Int
  highest : Int
  /-- Whole numbers in positional notation end in `.0`. -/
  keepPoint : Bool
  /-- The least number of exponent digits. -/
  exponentWidth : Nat

namespace Layout

/-- A whole number in decimal, padded with zeros on the left. -/
def padded (width n : Nat) : List Char :=
  let s := Nat.toDigits 10 n
  List.replicate (width - s.length) '0' ++ s

/-- The text of `0.s * 10 ^ n`, where `s` has no zeros at its ends. -/
def write (l : Layout) (s : List Char) (n : Int) : List Char :=
  let k := s.length
  if l.lowest < n ∧ n ≤ l.highest then
    if n ≤ 0 then '0' :: '.' :: (List.replicate n.natAbs '0' ++ s)
    else if k ≤ n.toNat then
      s ++ List.replicate (n.toNat - k) '0' ++ (if l.keepPoint then ['.', '0'] else [])
    else s.take n.toNat ++ '.' :: s.drop n.toNat
  else
    let e := n - 1
    s.take 1 ++ (if k == 1 then [] else '.' :: s.drop 1) ++
      'e' :: (if 0 ≤ e then '+' else '-') :: padded l.exponentWidth e.natAbs

end Layout

end ScriptAudit.Number
