import Mathlib.Tactic.Ring
import ScriptAudit.Number.Shortest
import ScriptAudit.Proofs.DoubleRange

namespace ScriptAudit.Number

namespace Double

theorem nearest_mul_right (num den : Nat) {c : Nat} (hc : 0 < c) : nearest (num * c) (den * c) = nearest num den := by
  have scaled : num * c * 2 ^ unitPower = num * 2 ^ unitPower * c := by ring
  have step (e : Nat) : den * c * 2 ^ e = den * 2 ^ e * c := by ring
  simp only [nearest, Nat.pow_eq, scaled, step, Nat.mul_div_mul_right _ _ hc, nearestQuotient_mul_right _ _ hc]

theorem length_toDigits_ten {n : Nat} (hn : 0 < n) :
    (Nat.toDigits 10 (n * 10)).length = (Nat.toDigits 10 n).length + 1 := by
  have appended := Nat.toDigits_append_toDigits (show 1 < 10 by decide) hn (show 0 < 10 by decide)
  rw [Nat.mul_comm, ← Nat.add_zero (10 * n), ← appended, List.length_append]
  rfl

/-- A zero at the end of the digits may stand in the exponent. -/
theorem ofDecimal_ten (negative : Bool) {digits : Nat} (hd : 0 < digits) (e : Int) :
    ofDecimal negative (digits * 10) e = ofDecimal negative digits (e + 1) := by
  have zero : (digits * 10 == 0) = (digits == 0) := by
    rw [beq_eq_false_iff_ne.mpr (by omega), beq_eq_false_iff_ne.mpr (by omega)]
  have places : Int.ofNat ((Nat.toDigits 10 digits).length + 1) + e =
      Int.ofNat (Nat.toDigits 10 digits).length + (e + 1) := by
    simp only [Int.ofNat_eq_natCast]
    omega
  have power (k : Nat) : 10 * 10 ^ k = 10 ^ (k + 1) := by ring
  simp only [ofDecimal, length_toDigits_ten hd, zero, places]
  split
  · rfl
  split
  · rfl
  match e with
  | .ofNat e =>
    have next : Int.ofNat e + 1 = Int.ofNat (e + 1) := rfl
    simp only [next, Nat.pow_eq, Nat.mul_assoc, power]
  | .negSucc 0 =>
    have next : Int.negSucc 0 + 1 = Int.ofNat 0 := rfl
    have scale := nearest_mul_right digits 1 (show 0 < 10 by decide)
    simpa only [next, Nat.pow_eq, pow_zero, Nat.mul_one, Nat.one_mul, Nat.zero_add, pow_one] using
      congrArg (ofMagnitude negative) scale
  | .negSucc (e + 1) =>
    have next : Int.negSucc (e + 1) + 1 = Int.negSucc e := rfl
    have scale := nearest_mul_right digits (10 ^ (e + 1)) (show 0 < 10 by decide)
    simpa only [next, Nat.pow_eq, pow_succ] using congrArg (ofMagnitude negative) scale

theorem ofDecimal_shift (negative : Bool) {digits : Nat} (hd : 0 < digits) (e : Int) (k : Nat) :
    ofDecimal negative (digits * 10 ^ k) e = ofDecimal negative digits (e + k) := by
  induction k generalizing e with
  | zero => rw [pow_zero, Nat.mul_one, Nat.cast_zero, Int.add_zero]
  | succ k ih =>
    have positive : 0 < digits * 10 ^ k := Nat.mul_pos hd (Nat.pow_pos (by decide))
    rw [pow_succ, ← Nat.mul_assoc, ofDecimal_ten negative positive, ih, Int.add_assoc, Int.add_comm 1]
    rfl

theorem ofMagnitude_magnitude (negative other : Bool) (m : Nat) :
    ofMagnitude negative (ofMagnitude other m).magnitude = ofMagnitude negative m := by
  simp only [ofMagnitude, Nat.mod_mod]

/-- The sign of a decimal is the sign of its double and has no other effect. -/
theorem ofDecimal_sign (negative : Bool) (digits : Nat) (e : Int) :
    ofDecimal negative digits e = ofMagnitude negative (ofDecimal false digits e).magnitude := by
  simp only [ofDecimal]
  split
  · rw [ofMagnitude_magnitude]
  split
  · rw [ofMagnitude_magnitude]
  cases e with
  | ofNat e => exact (ofMagnitude_magnitude ..).symm
  | negSucc e => exact (ofMagnitude_magnitude ..).symm

theorem magnitude_ofMagnitude (negative : Bool) {m : Nat} (h : m ≤ infinite) : (ofMagnitude negative m).magnitude = m := by
  apply Nat.mod_eq_of_lt
  rw [infinite, exponentWeight] at h
  rw [signWeight]
  omega

/-- The value of a finite magnitude in the unit of all of them. -/
def units (m : Nat) : Nat := significand m * 2 ^ doublings m

theorem significand_normal {m : Nat} (normal : exponentWeight ≤ m) :
    significand m = exponentWeight + m % exponentWeight := by
  rw [significand, if_neg (Nat.not_lt.mpr normal)]

/-- A normal magnitude has its highest bit in place 52 of the significand. -/
theorem log2_units {m : Nat} (normal : exponentWeight ≤ m) : (units m).log2 = 52 + doublings m := by
  have rest : m % exponentWeight < exponentWeight := Nat.mod_lt _ (by decide)
  have nonzero : significand m ≠ 0 := by
    rw [significand_normal normal, exponentWeight]
    omega
  have bits : (significand m).log2 = 52 := by
    refine (Nat.log2_eq_iff nonzero).mpr ⟨?_, ?_⟩
    · rw [significand_normal normal, exponentWeight]
      omega
    · rw [significand_normal normal]
      rw [exponentWeight] at rest ⊢
      omega
  rw [units, log2_mul_two_pow nonzero, bits]

/-- A finite magnitude is the nearest one to its own fraction. -/
theorem nearest_units {m : Nat} (finite : m < infinite) : nearest (units m) (2 ^ unitPower) = m := by
  have unit : 0 < 2 ^ unitPower := Nat.two_pow_pos _
  have quotient : units m * 2 ^ unitPower / 2 ^ unitPower = units m := Nat.mul_div_cancel _ unit
  have scale (e : Nat) : nearestQuotient (units m * 2 ^ unitPower) (2 ^ unitPower * 2 ^ e) =
      nearestQuotient (units m) (2 ^ e) := by
    rw [Nat.mul_comm (2 ^ unitPower)]
    exact nearestQuotient_mul_right _ _ unit
  simp only [nearest, Nat.pow_eq, quotient, scale]
  by_cases small : m < exponentWeight
  · have own : units m = m := by
      have undoubled : doublings m = 0 := by rw [doublings, Nat.div_eq_of_lt small]
      rw [units, undoubled, significand, if_pos small, pow_zero, Nat.mul_one]
    have bits : m.log2 - 52 = 0 := by
      by_cases zero : m = 0
      · rw [zero]
        rfl
      have short : m.log2 < 52 := (Nat.log2_lt zero).mpr small
      omega
    have whole := nearestQuotient_mul m 1 Nat.one_pos
    rw [Nat.mul_one] at whole
    rw [own, bits, pow_zero, whole]
    omega
  · have highest := log2_units (Nat.le_of_not_lt small)
    have exact_ : nearestQuotient (units m) (2 ^ doublings m) = significand m :=
      nearestQuotient_mul _ _ (Nat.two_pow_pos _)
    have whole : doublings m * exponentWeight + significand m = m := by
      rw [significand_normal (Nat.le_of_not_lt small), doublings]
      rw [exponentWeight] at small ⊢
      omega
    rw [highest, Nat.add_sub_cancel_left, exact_, whole]
    omega

theorem units_pos {m : Nat} (nonzero : m ≠ 0) : 0 < units m := by
  have significant : 0 < significand m := by
    rw [significand]
    split
    · omega
    · rw [exponentWeight]
      omega
  exact Nat.mul_pos significant (Nat.two_pow_pos _)

theorem units_lt {m : Nat} (finite : m < infinite) : units m < 2 ^ (53 + 2045) := by
  have significant : significand m < 2 ^ 53 := by
    rw [significand, exponentWeight]
    split <;> omega
  have doubled : doublings m ≤ 2045 := by
    rw [doublings, exponentWeight]
    rw [infinite, exponentWeight] at finite
    omega
  have grows {k l : Nat} (h : k ≤ l) : 2 ^ 53 * 2 ^ k ≤ 2 ^ (53 + l) := by
    rw [← pow_add]
    exact Nat.pow_le_pow_right (by decide) (Nat.add_le_add_left h 53)
  exact (Nat.mul_lt_mul_of_pos_right significant (Nat.two_pow_pos _)).trans_le (grows doubled)

end Double

namespace Decimal

open Double

theorem toMagnitude_of_digits_eq_zero {d : Decimal} (h : d.digits = 0) : d.toMagnitude = 0 := by
  rw [toMagnitude, h]
  rfl

theorem lt_length_toDigits {n k : Nat} (hk : 0 < k) (h : 10 ^ k ≤ n) : k < (Nat.toDigits 10 n).length := by
  rw [← Nat.not_le, Nat.length_toDigits_le_iff (by decide) hk]
  exact Nat.not_lt.mpr h

theorem length_toDigits_le {n k : Nat} (hk : 0 < k) (h : n < 10 ^ k) : (Nat.toDigits 10 n).length ≤ k :=
  (Nat.length_toDigits_le_iff (by decide) hk).mpr h

/-- The digits of a finite double written out in full are many, but not too many to be read. -/
theorem length_exact {m : Nat} (nonzero : m ≠ 0) (finite : m < infinite) :
    743 < (Nat.toDigits 10 (units m * 5 ^ unitPower)).length ∧
      (Nat.toDigits 10 (units m * 5 ^ unitPower)).length ≤ 1404 := by
  have least : 10 ^ 743 ≤ units m * 5 ^ unitPower := by
    have power : 10 ^ 743 ≤ 5 ^ unitPower := by decide +kernel
    exact power.trans (Nat.le_mul_of_pos_left _ (units_pos nonzero))
  have most : units m * 5 ^ unitPower < 10 ^ 1404 := by
    have power : 2 ^ (53 + 2045) * 5 ^ unitPower ≤ 10 ^ 1404 := by decide +kernel
    have positive : 0 < 5 ^ unitPower := Nat.pow_pos (by decide)
    exact (Nat.mul_lt_mul_of_pos_right (units_lt finite) positive).trans_le power
  exact ⟨lt_length_toDigits (by decide) least, length_toDigits_le (by decide) most⟩

theorem toMagnitude_exact {m : Nat} (nonzero : m ≠ 0) (finite : m < infinite) : (exact m).toMagnitude = m := by
  obtain ⟨least, most⟩ := length_exact nonzero finite
  have digits : (exact m).digits = units m * 5 ^ unitPower := by simp only [exact, units, Nat.pow_eq]
  have exponent : (exact m).exponent = Int.negSucc 1073 := rfl
  have positive : units m * 5 ^ unitPower ≠ 0 := Nat.ne_of_gt (Nat.mul_pos (units_pos nonzero) (Nat.pow_pos (by decide)))
  have unit : 1073 + 1 = unitPower := rfl
  have power (k : Nat) : Nat.pow 10 k = 2 ^ k * 5 ^ k := by
    rw [← Nat.mul_pow]
    rfl
  have near : nearest (units m * 5 ^ unitPower) (2 ^ unitPower * 5 ^ unitPower) = m := by
    rw [nearest_mul_right _ _ (Nat.pow_pos (by decide)), nearest_units finite]
  rw [toMagnitude, digits, exponent, ofDecimal, if_neg, if_neg]
  · rw [unit, power, near]
    exact magnitude_ofMagnitude false finite.le
  · simp only [Int.ofNat_eq_natCast]
    omega
  · simp only [Int.ofNat_eq_natCast, Bool.or_eq_true, beq_iff_eq, decide_eq_true_eq, not_or]
    exact ⟨positive, by omega⟩

/-- Whichever decimal the search ends with, it reads as the magnitude that it stands for. -/
theorem toMagnitude_shortest {m : Nat} (nonzero : m ≠ 0) (finite : m < infinite) : (shortest m).toMagnitude = m := by
  simp only [shortest]
  cases found : (List.range 17).findSome? fun n => (neighbours (fraction m).1 (fraction m).2
      (leadingPlace (fraction m).1 (fraction m).2 - Int.ofNat (n + 1))).find? fun d => d.toMagnitude == m with
  | none => exact toMagnitude_exact nonzero finite
  | some d =>
    obtain ⟨n, -, hit⟩ := List.exists_of_findSome?_eq_some found
    have reads := List.find?_some hit
    exact beq_iff_eq.mp reads

end Decimal

end ScriptAudit.Number
