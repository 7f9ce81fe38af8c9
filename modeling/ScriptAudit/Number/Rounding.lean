namespace ScriptAudit.Number

/-- The natural number nearest to `num / den`, and the even one of two that are equally near. -/
def nearestQuotient (num den : Nat) : Nat :=
  let q := num / den
  let twice := 2 * (num % den)
  if den < twice || (twice == den && q % 2 == 1) then q + 1 else q

/-- The result is the quotient or one above it. -/
theorem nearestQuotient_bounds (num den : Nat) :
    num / den ≤ nearestQuotient num den ∧ nearestQuotient num den ≤ num / den + 1 := by
  unfold nearestQuotient
  dsimp only
  split <;> omega

/-- A quotient without remainder is kept. -/
theorem nearestQuotient_mul (n den : Nat) (h : 0 < den) : nearestQuotient (n * den) den = n := by
  simp [nearestQuotient, Nat.mul_div_cancel n h]
  omega

end ScriptAudit.Number
