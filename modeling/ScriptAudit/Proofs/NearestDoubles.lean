import Mathlib.Algebra.Order.Field.Power
import Mathlib.Data.Rat.Cast.Order
import Mathlib.Order.Monotone.Basic
import Mathlib.Tactic.FieldSimp
import Mathlib.Tactic.Linarith
import Mathlib.Tactic.Positivity
import ScriptAudit.Proofs.ShortestDecimals

namespace ScriptAudit.Number

/-- A rounded quotient is off by at most a half, and it is even where it is off by a half. -/
theorem nearestQuotient_spec (num : Nat) {den : Nat} (hden : 0 < den) :
    (2 * num ≤ den * (2 * nearestQuotient num den + 1) ∧
      (2 * num = den * (2 * nearestQuotient num den + 1) → nearestQuotient num den % 2 = 0)) ∧
    (2 * den * nearestQuotient num den ≤ 2 * num + den ∧
      (2 * den * nearestQuotient num den = 2 * num + den → nearestQuotient num den % 2 = 0)) := by
  have whole : den * (num / den) + num % den = num := Nat.div_add_mod num den
  have rest : num % den < den := Nat.mod_lt _ hden
  unfold nearestQuotient
  dsimp only
  generalize num / den = q at *
  generalize num % den = r at *
  subst num
  split
  next up =>
    have half : den < 2 * r ∨ 2 * r = den ∧ q % 2 = 1 := by simpa using up
    have left : den * (2 * (q + 1) + 1) = 2 * (den * q) + 3 * den := by ring
    have right : 2 * den * (q + 1) = 2 * (den * q) + 2 * den := by ring
    rw [left, right]
    omega
  next down =>
    have half : ¬ (den < 2 * r ∨ 2 * r = den ∧ q % 2 = 1) := by simpa using down
    have left : den * (2 * q + 1) = 2 * (den * q) + den := by ring
    have right : 2 * den * q = 2 * (den * q) := by ring
    rw [left, right]
    omega

namespace Double

theorem units_of_lt {m : Nat} (small : m < exponentWeight) : units m = m := by
  rw [units, significand, doublings, if_pos small, Nat.div_eq_of_lt small, Nat.zero_sub, pow_zero, Nat.mul_one]

theorem units_normal (e : Nat) {f : Nat} (hf : f < exponentWeight) :
    units ((e + 1) * exponentWeight + f) = (exponentWeight + f) * 2 ^ e := by
  have weight : 0 < exponentWeight := by decide
  have normal : exponentWeight ≤ (e + 1) * exponentWeight + f := by
    rw [Nat.add_mul, Nat.one_mul]
    omega
  have rest : ((e + 1) * exponentWeight + f) % exponentWeight = f := by
    rw [Nat.mul_comm, Nat.mul_add_mod, Nat.mod_eq_of_lt hf]
  have quotient : ((e + 1) * exponentWeight + f) / exponentWeight = e + 1 := by
    rw [Nat.mul_comm, Nat.mul_add_div weight, Nat.div_eq_of_lt hf, Nat.add_zero]
  rw [units, significand_normal normal, doublings, rest, quotient, Nat.add_sub_cancel]

/-- The value of a magnitude by its place between two powers of two, both of them included. -/
theorem units_place {e r : Nat} (low : e = 0 ∨ exponentWeight ≤ r) (high : r ≤ 2 * exponentWeight) :
    units (e * exponentWeight + r) = r * 2 ^ e := by
  by_cases small : r < exponentWeight
  · obtain rfl : e = 0 := low.resolve_right (Nat.not_le.mpr small)
    rw [Nat.zero_mul, Nat.zero_add, units_of_lt small, pow_zero, Nat.mul_one]
  obtain ⟨f, rfl⟩ := Nat.exists_eq_add_of_le (Nat.le_of_not_lt small)
  rw [← Nat.add_assoc]
  nth_rewrite 2 [← Nat.one_mul exponentWeight]
  rw [← Nat.add_mul]
  rcases Nat.lt_or_eq_of_le (show f ≤ exponentWeight by omega) with inside | rfl
  · exact units_normal e inside
  · have next := units_normal (e + 1) (show 0 < exponentWeight by decide)
    rw [Nat.add_zero] at next
    rw [← Nat.succ_mul, next, pow_succ]
    ring

theorem exists_place (m : Nat) : ∃ e r, m = e * exponentWeight + r ∧ (e = 0 ∨ exponentWeight ≤ r) ∧
    r < 2 * exponentWeight := by
  rw [exponentWeight]
  refine ⟨m / 0x10000000000000 - 1, m - (m / 0x10000000000000 - 1) * 0x10000000000000, ?_, ?_, ?_⟩ <;> omega

theorem units_strictMono : StrictMono units := by
  apply strictMono_nat_of_lt_succ
  intro m
  obtain ⟨e, r, rfl, low, high⟩ := exists_place m
  rw [Nat.add_assoc, units_place low high.le, units_place (low.imp_right (Nat.le_succ_of_le ·)) high]
  exact Nat.mul_lt_mul_of_pos_right (Nat.lt_succ_self r) (Nat.two_pow_pos e)

section Place

variable {e r : Nat} (low : e = 0 ∨ exponentWeight ≤ r) (high : r ≤ 2 * exponentWeight)
include low high

/-- The next magnitude is at least one step of the place away. -/
theorem units_above {o : Nat} (h : e * exponentWeight + r < o) : (r + 1) * 2 ^ e ≤ units o := by
  refine le_trans ?_ (units_strictMono.monotone h)
  rcases Nat.lt_or_eq_of_le high with inside | rfl
  · rw [Nat.succ_eq_add_one, Nat.add_assoc, units_place (low.imp_right (Nat.le_succ_of_le ·)) inside]
  · have next : (e * exponentWeight + 2 * exponentWeight).succ = (e + 1) * exponentWeight + (exponentWeight + 1) := by
      rw [exponentWeight]
      omega
    rw [next, units_place (.inr (Nat.le_succ _)) (by decide), pow_succ]
    have step : 0 < 2 ^ e := Nat.two_pow_pos e
    nlinarith

/-- So is the one before, unless the place begins here and is not the first one. -/
theorem units_below {o : Nat} (h : o < e * exponentWeight + r) :
    units o + 2 ^ e ≤ r * 2 ^ e ∨ e ≠ 0 ∧ r = exponentWeight ∧ units o < r * 2 ^ e := by
  have before : units o < r * 2 ^ e := by
    rw [← units_place low high]
    exact units_strictMono h
  by_cases edge : e ≠ 0 ∧ r = exponentWeight
  · exact .inr ⟨edge.1, edge.2, before⟩
  have positive : 0 < r := Nat.pos_of_mul_pos_right (Nat.zero_lt_of_lt before)
  obtain ⟨k, rfl⟩ := Nat.exists_eq_succ_of_ne_zero positive.ne'
  have inside : e = 0 ∨ exponentWeight ≤ k := by omega
  have last : units o ≤ units (e * exponentWeight + k) := units_strictMono.monotone (by omega)
  rw [units_place inside (by omega)] at last
  left
  rw [Nat.succ_mul]
  omega

end Place

/-- The magnitude in the place below, where its significand is not the least one. -/
theorem exists_place_above (m : Nat) : ∃ e r, m = e * exponentWeight + r ∧ (e = 0 ∨ exponentWeight < r) ∧
    r ≤ 2 * exponentWeight := by
  rw [exponentWeight]
  refine ⟨(m - 1) / 0x10000000000000 - 1, m - ((m - 1) / 0x10000000000000 - 1) * 0x10000000000000, ?_, ?_, ?_⟩ <;> omega

/-- Two magnitudes differ by at least one part in `2 ^ 53` of either. -/
theorem units_gap {m o : Nat} (other : o ≠ m) :
    units m + 2 ^ 53 * units o ≤ 2 ^ 53 * units m ∨ units m + 2 ^ 53 * units m ≤ 2 ^ 53 * units o := by
  obtain ⟨e, r, rfl, low, high⟩ := exists_place_above m
  have inside : e = 0 ∨ exponentWeight ≤ r := low.imp_right Nat.le_of_lt
  have part : r * 2 ^ e ≤ 2 ^ 53 * 2 ^ e := Nat.mul_le_mul_right _ high
  rw [units_place inside high]
  rcases Nat.lt_or_gt_of_ne other with lt | gt
  · left
    rcases units_below inside high lt with step | ⟨later, edge, -⟩
    · omega
    · omega
  · right
    have step := units_above inside high gt
    rw [Nat.add_mul, Nat.one_mul] at step
    omega

/-- The value of a magnitude. The infinite one has the power of two behind the largest finite value. -/
def value (m : Nat) : ℚ := units m / (2 ^ unitPower : Nat)

theorem value_strictMono : StrictMono value := by
  intro a b h
  have units : (units a : ℚ) < units b := Nat.cast_lt.mpr (units_strictMono h)
  exact div_lt_div_of_pos_right units (by positivity)

/-- A number lies on the near side of the middle between a magnitude and each other one; in the middle only if the
magnitude is even. -/
structure Centred (x : ℚ) (m : Nat) : Prop where
  above : ∀ o, m < o → o ≤ infinite → 2 * x ≤ value m + value o ∧ (2 * x = value m + value o → m % 2 = 0)
  below : ∀ o < m, value o + value m ≤ 2 * x ∧ (value o + value m = 2 * x → m % 2 = 0)

/-- Numbers in order become magnitudes in order. -/
theorem Centred.le_of_le {x y : ℚ} {m n : Nat} (hx : Centred x m) (hy : Centred y n) (bounded : m ≤ infinite)
    (le : x ≤ y) : m ≤ n := by
  by_contra h
  have lt : n < m := Nat.lt_of_not_le h
  obtain ⟨above, even⟩ := hy.above m lt bounded
  obtain ⟨below, even'⟩ := hx.below n lt
  have both : n % 2 = 0 ∧ m % 2 = 0 := ⟨even (by linarith), even' (by linarith)⟩
  obtain ⟨between, -⟩ := hy.above (n + 1) (Nat.lt_succ_self n) (by omega)
  have strict : value (n + 1) < value m := value_strictMono (by omega)
  linarith

theorem value_gap {m o : Nat} (other : o ≠ m) :
    value m + 2 ^ 53 * value o ≤ 2 ^ 53 * value m ∨ value m + 2 ^ 53 * value m ≤ 2 ^ 53 * value o := by
  have unit : (0 : ℚ) ≤ (2 ^ unitPower : Nat) := Nat.cast_nonneg _
  simp only [value, mul_div_assoc', ← add_div]
  rcases units_gap other with below | above
  · left
    apply div_le_div_of_nonneg_right _ unit
    exact_mod_cast below
  · right
    apply div_le_div_of_nonneg_right _ unit
    exact_mod_cast above

/-- A number that is off by less than one part in `2 ^ 54` is rounded back. -/
theorem centred_of_close {x : ℚ} {m : Nat} (close : 2 ^ 54 * |x - value m| < value m) : Centred x m := by
  obtain ⟨low, high⟩ := abs_le.mp (le_refl |x - value m|)
  refine ⟨fun o lt _ => ?_, fun o lt => ?_⟩
  · have order := value_strictMono lt
    rcases value_gap lt.ne' with below | above
    · linarith
    · exact ⟨by linarith, fun tie => by linarith⟩
  · have order := value_strictMono lt
    rcases value_gap lt.ne with below | above
    · exact ⟨by linarith, fun tie => by linarith⟩
    · linarith

theorem twice_div_le_iff {a b c d : Nat} (hb : 0 < b) (hd : 0 < d) :
    2 * ((a : ℚ) / b) ≤ (c : ℚ) / d ↔ 2 * (a * d) ≤ b * c := by
  have left : (0 : ℚ) < b := Nat.cast_pos.mpr hb
  have right : (0 : ℚ) < d := Nat.cast_pos.mpr hd
  rw [mul_div_assoc', div_le_div_iff₀ left right, mul_assoc, mul_comm (c : ℚ)]
  norm_cast

theorem div_le_twice_iff {a b c d : Nat} (hb : 0 < b) (hd : 0 < d) :
    (c : ℚ) / d ≤ 2 * ((a : ℚ) / b) ↔ b * c ≤ 2 * (a * d) := by
  have left : (0 : ℚ) < b := Nat.cast_pos.mpr hb
  have right : (0 : ℚ) < d := Nat.cast_pos.mpr hd
  rw [mul_div_assoc', div_le_div_iff₀ right left, mul_assoc, mul_comm (c : ℚ)]
  norm_cast

theorem value_add (m o : Nat) : value m + value o = ((units m + units o : Nat) : ℚ) / (2 ^ unitPower : Nat) := by
  rw [value, value, ← add_div, Nat.cast_add]

section Fraction

variable {num den : Nat} (hden : 0 < den)
include hden

theorem twice_le_iff (m o : Nat) : 2 * ((num : ℚ) / den) ≤ value m + value o ↔
    2 * (num * 2 ^ unitPower) ≤ den * (units m + units o) := by
  rw [value_add, twice_div_le_iff hden (Nat.two_pow_pos _)]

theorem le_twice_iff (m o : Nat) : value m + value o ≤ 2 * ((num : ℚ) / den) ↔
    den * (units m + units o) ≤ 2 * (num * 2 ^ unitPower) := by
  rw [value_add, div_le_twice_iff hden (Nat.two_pow_pos _)]

theorem twice_eq_iff (m o : Nat) : 2 * ((num : ℚ) / den) = value m + value o ↔
    2 * (num * 2 ^ unitPower) = den * (units m + units o) := by
  rw [le_antisymm_iff, le_antisymm_iff, twice_le_iff hden, le_twice_iff hden]

/-- A fraction that is rounded in its place is on the near side of all middles. -/
theorem centred_place {e r : Nat} (low : e = 0 ∨ exponentWeight ≤ r) (high : r ≤ 2 * exponentWeight)
    (rounded : nearestQuotient (num * 2 ^ unitPower) (den * 2 ^ e) = r)
    (begins : e ≠ 0 → r = exponentWeight → den * (r * 2 ^ e) ≤ num * 2 ^ unitPower) :
    Centred ((num : ℚ) / den) (e * exponentWeight + r) := by
  obtain ⟨⟨up, upEven⟩, down, downEven⟩ := nearestQuotient_spec (num * 2 ^ unitPower)
    (Nat.mul_pos hden (Nat.two_pow_pos e))
  rw [rounded] at up upEven down downEven
  have parity : r % 2 = 0 → (e * exponentWeight + r) % 2 = 0 := by
    rw [exponentWeight]
    omega
  have own := units_place low high
  refine ⟨fun o lt _ => ?_, fun o lt => ?_⟩
  · have next : den * (r * 2 ^ e + (r + 1) * 2 ^ e) ≤ den * (r * 2 ^ e + units o) :=
      Nat.mul_le_mul_left _ (Nat.add_le_add_left (units_above low high lt) _)
    have middle : den * (r * 2 ^ e + (r + 1) * 2 ^ e) = den * 2 ^ e * (2 * r + 1) := by ring
    rw [middle] at next
    rw [twice_le_iff hden, twice_eq_iff hden, own]
    exact ⟨up.trans next, fun tie => parity (upEven (le_antisymm up (next.trans tie.ge)))⟩
  · have middle : den * (r * 2 ^ e + r * 2 ^ e) = 2 * (den * 2 ^ e) * r := by ring
    rw [le_twice_iff hden, eq_comm, twice_eq_iff hden, own]
    generalize num * 2 ^ unitPower = scaled at *
    rcases units_below low high lt with step | ⟨later, edge, before⟩
    · have next : den * (units o + 2 ^ e + r * 2 ^ e) ≤ den * (r * 2 ^ e + r * 2 ^ e) :=
        Nat.mul_le_mul_left _ (Nat.add_le_add_right step _)
      have apart : den * (units o + 2 ^ e + r * 2 ^ e) = den * (units o + r * 2 ^ e) + den * 2 ^ e := by ring
      rw [middle, apart] at next
      refine ⟨by omega, fun tie => parity (downEven (by omega))⟩
    · have strict : den * (units o + r * 2 ^ e) < den * (r * 2 ^ e + r * 2 ^ e) :=
        Nat.mul_lt_mul_of_pos_left (Nat.add_lt_add_right before _) hden
      have least := begins later edge
      rw [Nat.mul_add den (r * 2 ^ e)] at strict
      refine ⟨by omega, fun tie => by omega⟩

/-- The quotient before rounding decides the place: its highest bit comes to bit 52. -/
theorem place_of_quotient (scaled : Nat) {e : Nat} (he : (scaled / den).log2 - 52 = e) {r : Nat}
    (hr : nearestQuotient scaled (den * 2 ^ e) = r) :
    (e = 0 ∨ exponentWeight ≤ r) ∧ r ≤ 2 * exponentWeight ∧
      (e ≠ 0 → r = exponentWeight → den * (r * 2 ^ e) ≤ scaled) := by
  obtain ⟨least, most⟩ := nearestQuotient_bounds scaled (den * 2 ^ e)
  have step : 0 < 2 ^ e := Nat.two_pow_pos e
  rw [hr, ← Nat.div_div_eq_div_mul] at least most
  have short : scaled / den / 2 ^ e < 2 * exponentWeight := by
    rw [Nat.div_lt_iff_lt_mul step]
    have bits : scaled / den < 2 ^ ((scaled / den).log2 + 1) := Nat.lt_log2_self
    have power : 2 ^ ((scaled / den).log2 + 1) ≤ 2 ^ (53 + e) := Nat.pow_le_pow_right (by decide) (by omega)
    rw [pow_add _ 53] at power
    exact bits.trans_le power
  have long (later : e ≠ 0) : exponentWeight * 2 ^ e ≤ scaled / den := by
    have nonzero : scaled / den ≠ 0 := by
      intro zero
      rw [zero] at he
      exact later he.symm
    have power : 2 ^ (52 + e) ≤ scaled / den := by
      rw [show 52 + e = (scaled / den).log2 by omega]
      exact Nat.log2_self_le nonzero
    rwa [pow_add] at power
  refine ⟨?_, by omega, fun later edge => ?_⟩
  · by_cases first : e = 0
    · exact .inl first
    · exact .inr (((Nat.le_div_iff_mul_le step).mpr (long first)).trans least)
  · rw [edge, Nat.mul_comm]
    exact (Nat.le_div_iff_mul_le hden).mp (long later)

/-- The nearest magnitude is the one in its place, or the infinite one where that lies beyond it. -/
theorem centred_nearest : Centred ((num : ℚ) / den) (nearest num den) := by
  obtain ⟨low, high, begins⟩ := place_of_quotient hden (num * 2 ^ unitPower) rfl rfl
  have full := centred_place hden low high rfl begins
  have same : nearest num den = min infinite (((num * 2 ^ unitPower / den).log2 - 52) * exponentWeight +
      nearestQuotient (num * 2 ^ unitPower) (den * 2 ^ ((num * 2 ^ unitPower / den).log2 - 52))) := by
    simp only [nearest, Nat.pow_eq]
  rw [same]
  generalize ((num * 2 ^ unitPower / den).log2 - 52) * exponentWeight +
    nearestQuotient (num * 2 ^ unitPower) (den * 2 ^ ((num * 2 ^ unitPower / den).log2 - 52)) = m at full
  by_cases inside : m ≤ infinite
  · rwa [min_eq_right inside]
  · have beyond : infinite < m := Nat.lt_of_not_le inside
    rw [min_eq_left beyond.le]
    refine ⟨fun o lt le => absurd lt (Nat.not_lt.mpr le), fun o lt => ?_⟩
    obtain ⟨far, -⟩ := full.below o (lt.trans beyond)
    have larger : value infinite < value m := value_strictMono beyond
    exact ⟨by linarith, fun tie => by linarith⟩

end Fraction

theorem nearest_le_infinite (num den : Nat) : nearest num den ≤ infinite := Nat.min_le_left _ _

/-- The values in the last place, the one behind the largest finite value included. -/
theorem value_last {r : Nat} (low : exponentWeight ≤ r) (high : r ≤ 2 * exponentWeight) :
    value (2045 * exponentWeight + r) = r * (2 ^ 971 : Nat) := by
  have power : 2 ^ 2045 = 2 ^ 971 * 2 ^ unitPower := by rw [show 2045 = 971 + unitPower from rfl, pow_add]
  have unit : ((2 ^ unitPower : Nat) : ℚ) ≠ 0 := Nat.cast_ne_zero.mpr (Nat.two_pow_pos _).ne'
  rw [value, units_place (.inr low) high, power, ← Nat.mul_assoc, Nat.cast_mul, mul_div_assoc, div_self unit, mul_one,
    Nat.cast_mul]

/-- The whole numbers without a double begin in the middle between the largest finite value and the next one. -/
theorem value_largest : value (infinite - 1) + value infinite = 2 * overflow := by
  have last : infinite - 1 = 2045 * exponentWeight + (2 * exponentWeight - 1) := rfl
  have next : infinite = 2045 * exponentWeight + 2 * exponentWeight := rfl
  have limit : overflow = (4 * exponentWeight - 1) * 2 ^ 970 := by
    have weight : 2 ^ 54 = 4 * exponentWeight := rfl
    rw [overflow, show 1024 = 54 + 970 from rfl, pow_add, Nat.sub_mul, Nat.one_mul, weight]
  have step : 2 ^ 971 = 2 ^ 970 * 2 := by rw [show 971 = 970 + 1 from rfl, pow_succ]
  rw [last, next, value_last (by decide) (by decide), value_last (by decide) (by decide), limit, step]
  generalize 2 ^ 970 = half
  rw [exponentWeight]
  push_cast
  ring

/-- What a number is rounded to: the infinite magnitude from half a step above the largest finite one on, and below
that the nearest finite one, the even one of two. -/
structure RoundsTo (x : ℚ) (m : Nat) : Prop where
  bounded : m ≤ infinite
  overflows : m = infinite ↔ overflow ≤ x
  nearest : m < infinite → ∀ o < infinite, |x - value m| ≤ |x - value o|
  even : m < infinite → ∀ o < infinite, o ≠ m → |x - value m| = |x - value o| → m % 2 = 0

section Middle

variable {x a b : ℚ} (lt : a < b)
include lt

theorem nearer_iff : |x - a| ≤ |x - b| ↔ 2 * x ≤ a + b := by
  rw [← sq_le_sq]
  constructor
  · intro h
    nlinarith
  · intro h
    nlinarith

theorem farther_iff : |x - b| ≤ |x - a| ↔ a + b ≤ 2 * x := by
  rw [← sq_le_sq]
  constructor
  · intro h
    nlinarith
  · intro h
    nlinarith

theorem equidistant_iff : |x - a| = |x - b| ↔ 2 * x = a + b := by
  rw [le_antisymm_iff, nearer_iff lt, farther_iff lt, ← le_antisymm_iff]

end Middle

section Rounding

variable {x : ℚ} {m : Nat}

theorem Centred.overflows (h : Centred x m) (bounded : m ≤ infinite) : m = infinite ↔ overflow ≤ x := by
  have middle := value_largest
  constructor
  · rintro rfl
    obtain ⟨below, -⟩ := h.below (infinite - 1) (by decide)
    linarith
  · intro large
    by_contra finite
    obtain ⟨above, even⟩ := h.above infinite (lt_of_le_of_ne bounded finite) le_rfl
    have least : value m ≤ value (infinite - 1) := value_strictMono.monotone (by omega)
    have top : m = infinite - 1 := value_strictMono.injective (by linarith)
    have odd : (infinite - 1) % 2 = 1 := by decide
    have := even (by linarith)
    omega

theorem Centred.roundsTo (h : Centred x m) (bounded : m ≤ infinite) : RoundsTo x m where
  bounded := bounded
  overflows := h.overflows bounded
  nearest _ o finite := by
    rcases Nat.lt_trichotomy m o with lt | rfl | lt
    · exact (nearer_iff (value_strictMono lt)).mpr (h.above o lt finite.le).1
    · exact le_rfl
    · exact (farther_iff (value_strictMono lt)).mpr (h.below o lt).1
  even _ o finite other tie := by
    rcases Nat.lt_or_gt_of_ne other with lt | lt
    · exact (h.below o lt).2 ((equidistant_iff (value_strictMono lt)).mp tie.symm).symm
    · exact (h.above o lt finite.le).2 ((equidistant_iff (value_strictMono lt)).mp tie)

theorem RoundsTo.centred (h : RoundsTo x m) : Centred x m := by
  have middle := value_largest
  have nearer {o : Nat} (lt : m < o) (finite : o < infinite) :
      2 * x ≤ value m + value o ∧ (2 * x = value m + value o → m % 2 = 0) := by
    have order := value_strictMono lt
    exact ⟨(nearer_iff order).mp (h.nearest (lt.trans finite) o finite),
      fun tie => h.even (lt.trans finite) o finite lt.ne' ((equidistant_iff order).mpr tie)⟩
  refine ⟨fun o lt le => ?_, fun o lt => ?_⟩
  · rcases Nat.lt_or_eq_of_le le with finite | rfl
    · exact nearer lt finite
    -- against the infinite magnitude it is the bound for overflow that counts
    have small : x < overflow := not_le.mp fun large => lt.ne (h.overflows.mpr large)
    by_cases last : m = infinite - 1
    · rw [last]
      exact ⟨by linarith, fun tie => by linarith⟩
    · have before : m < infinite - 1 := by omega
      obtain ⟨near, -⟩ := nearer before (by decide)
      have order : value (infinite - 1) < value infinite := value_strictMono (by decide)
      exact ⟨by linarith, fun tie => by linarith⟩
  · rcases Nat.lt_or_eq_of_le h.bounded with finite | rfl
    · have order := value_strictMono lt
      refine ⟨(farther_iff order).mp (h.nearest finite o (lt.trans finite)), fun tie => ?_⟩
      exact h.even finite o (lt.trans finite) lt.ne ((equidistant_iff order).mpr tie.symm).symm
    · have large : overflow ≤ x := h.overflows.mp rfl
      have least : value o ≤ value (infinite - 1) := value_strictMono.monotone (by omega)
      exact ⟨by linarith, fun _ => by decide⟩

/-- Numbers in order are rounded to magnitudes in order. -/
theorem RoundsTo.le_of_le {y : ℚ} {n : Nat} (hx : RoundsTo x m) (hy : RoundsTo y n) (le : x ≤ y) : m ≤ n :=
  hx.centred.le_of_le hy.centred hx.bounded le

theorem RoundsTo.unique {n : Nat} (hm : RoundsTo x m) (hn : RoundsTo x n) : m = n :=
  le_antisymm (hm.le_of_le hn le_rfl) (hn.le_of_le hm le_rfl)

end Rounding

theorem roundsTo_nearest (num : Nat) {den : Nat} (hden : 0 < den) : RoundsTo ((num : ℚ) / den) (nearest num den) :=
  (centred_nearest hden).roundsTo (nearest_le_infinite num den)

theorem roundsTo_value {m : Nat} (bounded : m ≤ infinite) : RoundsTo (value m) m := by
  refine Centred.roundsTo ⟨fun o lt _ => ?_, fun o lt => ?_⟩ bounded
  · have order := value_strictMono lt
    exact ⟨by linarith, fun tie => by linarith⟩
  · have order := value_strictMono lt
    exact ⟨by linarith, fun tie => by linarith⟩

theorem value_zero : value 0 = 0 := by
  rw [value, units_of_lt (by decide), Nat.cast_zero, zero_div]

theorem roundsTo_zero_of_small {x : ℚ} (small : 2 * x < value 1) : RoundsTo x 0 := by
  refine Centred.roundsTo ⟨fun o lt _ => ?_, fun o lt => absurd lt (Nat.not_lt_zero o)⟩ (Nat.zero_le _)
  have least : value 1 ≤ value o := value_strictMono.monotone lt
  rw [value_zero]
  exact ⟨by linarith, fun tie => by linarith⟩

theorem roundsTo_infinite_of_large {x : ℚ} (large : overflow ≤ x) : RoundsTo x infinite := by
  have middle := value_largest
  refine Centred.roundsTo ⟨fun o lt le => absurd lt (Nat.not_lt.mpr le), fun o lt => ?_⟩ le_rfl
  have least : value o ≤ value (infinite - 1) := value_strictMono.monotone (by omega)
  exact ⟨by linarith, fun _ => by decide⟩

theorem toDigits_bounds {n : Nat} (nonzero : n ≠ 0) :
    10 ^ ((Nat.toDigits 10 n).length - 1) ≤ n ∧ n < 10 ^ (Nat.toDigits 10 n).length := by
  have length : 0 < (Nat.toDigits 10 n).length := List.length_pos_iff.mpr Nat.toDigits_ne_nil
  refine ⟨?_, (Nat.length_toDigits_le_iff (by decide) length).mp le_rfl⟩
  by_cases single : (Nat.toDigits 10 n).length - 1 = 0
  · rw [single]
    omega
  · rw [← Nat.not_lt, ← Nat.length_toDigits_le_iff (by decide) (Nat.pos_of_ne_zero single)]
    omega

/-- A decimal is between the powers of ten that its number of digits gives. -/
theorem decimal_bounds {digits : Nat} (nonzero : digits ≠ 0) (e : Int) :
    (10 : ℚ) ^ ((Nat.toDigits 10 digits).length + e - 1) ≤ digits * 10 ^ e ∧
      (digits * 10 ^ e : ℚ) < 10 ^ ((Nat.toDigits 10 digits).length + e) := by
  obtain ⟨least, most⟩ := toDigits_bounds nonzero
  have length : 0 < (Nat.toDigits 10 digits).length := List.length_pos_iff.mpr Nat.toDigits_ne_nil
  obtain ⟨k, hk⟩ := Nat.exists_eq_succ_of_ne_zero length.ne'
  rw [hk] at least most ⊢
  have step : (0 : ℚ) < 10 ^ e := by positivity
  have first : ((k.succ : Nat) : Int) + e - 1 = (k : Int) + e := by omega
  have low : ((10 ^ k : Nat) : ℚ) ≤ digits := Nat.cast_le.mpr least
  have high : (digits : ℚ) < (10 ^ k.succ : Nat) := Nat.cast_lt.mpr most
  rw [Nat.cast_pow, Nat.cast_ofNat] at low high
  rw [first, zpow_add₀ (by norm_num), zpow_add₀ (by norm_num), zpow_natCast, zpow_natCast]
  exact ⟨mul_le_mul_of_nonneg_right low step.le, mul_lt_mul_of_pos_right high step⟩

theorem twice_tiny_lt {x : ℚ} {place : Int} (small : x < 10 ^ place) (tiny : place < -330) : 2 * x < value 1 := by
  have unit : value 1 = ((2 ^ unitPower : Nat) : ℚ)⁻¹ := by
    rw [value, units_of_lt (by decide), Nat.cast_one, one_div]
  have power : ((2 * 2 ^ unitPower : Nat) : ℚ) ≤ (10 ^ 331 : Nat) := Nat.cast_le.mpr (by decide +kernel)
  have least : (10 : ℚ) ^ place ≤ 10 ^ (-331 : Int) := zpow_le_zpow_right₀ (by norm_num) (by omega)
  have last : (10 : ℚ) ^ (-331 : Int) = ((10 ^ 331 : Nat) : ℚ)⁻¹ := by
    rw [zpow_neg, Nat.cast_pow]
    rfl
  have positive : (0 : ℚ) < (2 ^ unitPower : Nat) := Nat.cast_pos.mpr (Nat.two_pow_pos _)
  rw [Nat.cast_mul, Nat.cast_ofNat] at power
  have inverse := inv_anti₀ (mul_pos two_pos positive) power
  rw [mul_inv, ← last, ← unit] at inverse
  linarith

theorem overflow_le_huge {x : ℚ} {place : Int} (large : 10 ^ (place - 1) ≤ x) (huge : 330 < place) : overflow ≤ x := by
  have power : (overflow : ℚ) ≤ (10 ^ 330 : Nat) := Nat.cast_le.mpr (by decide +kernel)
  have least : (10 : ℚ) ^ (330 : Int) ≤ 10 ^ (place - 1) := zpow_le_zpow_right₀ (by norm_num) (by omega)
  have same : (10 : ℚ) ^ (330 : Int) = (10 ^ 330 : Nat) := by
    rw [Nat.cast_pow]
    rfl
  rw [same] at least
  exact power.trans (least.trans large)

/-- The double of a decimal is the one that the decimal is rounded to. -/
theorem roundsTo_ofDecimal (negative : Bool) (digits : Nat) (e : Int) :
    RoundsTo (digits * 10 ^ e) (ofDecimal negative digits e).magnitude := by
  have own {x : ℚ} {m : Nat} (h : RoundsTo x m) : RoundsTo x (ofMagnitude negative m).magnitude := by
    rwa [magnitude_ofMagnitude negative h.bounded]
  simp only [ofDecimal, Bool.or_eq_true, beq_iff_eq, decide_eq_true_eq]
  by_cases zero : digits = 0
  · rw [if_pos (.inl zero), zero, Nat.cast_zero, zero_mul, ← value_zero]
    exact own (roundsTo_value (Nat.zero_le infinite))
  obtain ⟨low, high⟩ := decimal_bounds zero e
  split
  next tiny => exact own (roundsTo_zero_of_small (twice_tiny_lt high (tiny.resolve_left zero)))
  split
  next huge => exact own (roundsTo_infinite_of_large (overflow_le_huge low huge))
  cases e with
  | ofNat e =>
    have near := roundsTo_nearest (digits * 10 ^ e) Nat.one_pos
    have same : ((digits * 10 ^ e : Nat) : ℚ) / (1 : Nat) = digits * 10 ^ Int.ofNat e := by
      rw [Nat.cast_one, div_one, Nat.cast_mul, Nat.cast_pow, Nat.cast_ofNat, Int.ofNat_eq_natCast, zpow_natCast]
    rw [same] at near
    exact own near
  | negSucc e =>
    have near := roundsTo_nearest digits (show 0 < 10 ^ (e + 1) from Nat.pow_pos (by decide))
    have same : (digits : ℚ) / (10 ^ (e + 1) : Nat) = digits * 10 ^ Int.negSucc e := by
      rw [zpow_negSucc, Nat.cast_pow, Nat.cast_ofNat, div_eq_mul_inv]
    rw [same] at near
    exact own near

end Double

end ScriptAudit.Number
