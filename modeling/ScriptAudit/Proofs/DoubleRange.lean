import Mathlib.Algebra.Group.Nat.Defs
import ScriptAudit.Number.Double

namespace ScriptAudit.Number

theorem nearestQuotient_mul_right (num den : Nat) {c : Nat} (hc : 0 < c) :
    nearestQuotient (num * c) (den * c) = nearestQuotient num den := by
  have more : den * c < 2 * (num % den * c) ↔ den < 2 * (num % den) := by
    rw [← Nat.mul_assoc]
    exact Nat.mul_lt_mul_right hc
  have same : 2 * (num % den * c) = den * c ↔ 2 * (num % den) = den := by
    rw [← Nat.mul_assoc]
    exact Nat.mul_left_inj (Nat.ne_of_gt hc)
  simp only [nearestQuotient, Nat.mul_div_mul_right _ _ hc, Nat.mul_mod_mul_right]
  simp only [Bool.or_eq_true, decide_eq_true_eq, Bool.and_eq_true, beq_iff_eq, more, same]

/-- A quotient below an even number rounds up to it from the last half on. -/
theorem nearestQuotient_reaches (v half n : Nat) (hv : v < 2 * half * (2 * n)) :
    2 * n ≤ nearestQuotient v (2 * half) ↔ 2 * half * (2 * n) - half ≤ v := by
  have whole : 2 * half * (v / (2 * half)) + v % (2 * half) = v := Nat.div_add_mod v (2 * half)
  have quotient : v / (2 * half) < 2 * n := Nat.div_lt_of_lt_mul hv
  have positive : 0 < 2 * half := Nat.pos_of_mul_pos_right (Nat.lt_of_le_of_lt (Nat.zero_le v) hv)
  have rest : v % (2 * half) < 2 * half := Nat.mod_lt _ positive
  unfold nearestQuotient
  dsimp only
  generalize v / (2 * half) = q at *
  generalize v % (2 * half) = r at *
  by_cases last : q + 1 = 2 * n
  · have top : 2 * half * (2 * n) = 2 * half * q + 2 * half := by rw [← last, Nat.mul_add, Nat.mul_one]
    have odd : q % 2 = 1 := by omega
    by_cases up : half ≤ r
    · rw [if_pos (by simp [odd]; omega)]
      omega
    · rw [if_neg (by simp [odd]; omega)]
      omega
  · have below : 2 * half * (q + 2) ≤ 2 * half * (2 * n) := Nat.mul_le_mul_left _ (by omega)
    rw [Nat.mul_add] at below
    split <;> omega

namespace Double

/-- The whole numbers from here on are nearer to infinity than to any finite double. -/
def overflow : Nat := 2 ^ 1024 - 2 ^ 970

theorem log2_mul_two_pow {v : Nat} (hv : v ≠ 0) (k : Nat) : (v * 2 ^ k).log2 = v.log2 + k := by
  obtain ⟨low, high⟩ := (Nat.log2_eq_iff hv).mp rfl
  refine (Nat.log2_eq_iff (Nat.mul_ne_zero hv (Nat.ne_of_gt (Nat.two_pow_pos k)))).mpr ⟨?_, ?_⟩
  · rw [Nat.pow_add]
    exact Nat.mul_le_mul_right _ low
  · rw [Nat.add_right_comm, Nat.pow_add]
    exact Nat.mul_lt_mul_of_pos_right high (Nat.two_pow_pos k)

private theorem nearestQuotient_two_pow {m a k : Nat} (h : m = a + k) (v b : Nat) :
    nearestQuotient (v * 2 ^ m) (2 ^ (b + k)) = nearestQuotient (v * 2 ^ a) (2 ^ b) := by
  rw [h, pow_add, pow_add, ← Nat.mul_assoc]
  exact nearestQuotient_mul_right _ _ (Nat.two_pow_pos k)

/-- The magnitude nearest to a whole number with its highest bit in a place. -/
theorem nearest_one {v : Nat} (hv : v ≠ 0) :
    nearest v 1 = min infinite ((v.log2 + 1022) * exponentWeight +
      nearestQuotient (v * 2 ^ 52) (2 ^ v.log2)) := by
  have unit : unitPower = 52 + 1022 := rfl
  have highest : v.log2 + unitPower - 52 = v.log2 + 1022 := by omega
  simp only [nearest, Nat.pow_eq, Nat.div_one, Nat.one_mul, log2_mul_two_pow hv, highest]
  rw [nearestQuotient_two_pow unit v v.log2]

/-- Rounding keeps the highest bit in its place, or moves it one up. -/
theorem nearestQuotient_log2 {v : Nat} (hv : v ≠ 0) :
    2 ^ 52 ≤ nearestQuotient (v * 2 ^ 52) (2 ^ v.log2) ∧ nearestQuotient (v * 2 ^ 52) (2 ^ v.log2) ≤ 2 ^ 53 := by
  obtain ⟨low, high⟩ := (Nat.log2_eq_iff hv).mp rfl
  obtain ⟨least, most⟩ := nearestQuotient_bounds (v * 2 ^ 52) (2 ^ v.log2)
  have reach : 2 ^ 52 ≤ v * 2 ^ 52 / 2 ^ v.log2 := by
    rw [Nat.le_div_iff_mul_le (Nat.two_pow_pos _), Nat.mul_comm]
    exact Nat.mul_le_mul_right _ low
  have short : v * 2 ^ 52 / 2 ^ v.log2 < 2 ^ 53 := by
    refine Nat.div_lt_of_lt_mul ?_
    rw [Nat.pow_succ] at high
    omega
  omega

/-- A whole number has no double exactly if it is half a step or more above the largest one. -/
theorem ofInt?_eq_none_iff (v : Nat) : ofInt? (Int.ofNat v) = none ↔ overflow ≤ v := by
  have unrepresented : ofInt? (Int.ofNat v) = none ↔ infinite ≤ nearest v 1 := by
    rw [ofInt?]
    simp [Int.ofNat_eq_natCast]
  obtain ⟨half, hhalf⟩ : ∃ half, half = 2 ^ 970 := ⟨_, rfl⟩
  have limit : overflow = 2 ^ 54 * half - half := by
    rw [hhalf, overflow, show 1024 = 54 + 970 from rfl, pow_add]
  have grows {a b : Nat} (h : a ≤ b) : 2 ^ a ≤ 2 ^ b := Nat.pow_le_pow_right (by decide) h
  have positive : 1 ≤ half := by
    rw [hhalf, ← pow_zero 2]
    exact grows (Nat.zero_le 970)
  rw [unrepresented, limit]
  by_cases zero : v = 0
  · have finite : nearest 0 1 = 0 := by simp [nearest, nearestQuotient]
    rw [zero, finite, infinite, exponentWeight]
    omega
  obtain ⟨low, high⟩ := (Nat.log2_eq_iff zero).mp rfl
  obtain ⟨least, most⟩ := nearestQuotient_log2 zero
  rw [nearest_one zero, Nat.le_min, infinite, exponentWeight]
  rw [Nat.pow_succ] at high
  rcases Nat.lt_trichotomy v.log2 1023 with small | edge | large
  · have bound : 2 ^ v.log2 ≤ 2 ^ 52 * half := by
      rw [hhalf, ← pow_add]
      exact grows (by omega)
    omega
  · have power : 2 ^ v.log2 = 2 * half * 2 ^ 52 := by
      rw [edge, hhalf, show 1023 = 1 + 970 + 52 from rfl, pow_add, pow_add, pow_one]
    have scale : 0 < 2 ^ 52 := by decide
    rw [power] at low high least most ⊢
    rw [nearestQuotient_mul_right _ _ scale] at least most ⊢
    have reaches := nearestQuotient_reaches v half (2 ^ 52) (by omega)
    omega
  · have bound : 2 ^ 54 * half ≤ 2 ^ v.log2 := by
      rw [hhalf, ← pow_add]
      exact grows (by omega)
    omega

end Double

end ScriptAudit.Number
