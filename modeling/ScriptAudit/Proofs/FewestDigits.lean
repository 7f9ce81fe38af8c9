import ScriptAudit.Proofs.NearestDoubles

namespace ScriptAudit.Number

open Double

namespace Decimal

/-- The exact value of a decimal. -/
def value (d : Decimal) : ℚ := d.digits * 10 ^ d.exponent

theorem roundsTo_toMagnitude (d : Decimal) : RoundsTo d.value d.toMagnitude := roundsTo_ofDecimal ..

theorem toMagnitude_eq_iff {d : Decimal} {m : Nat} : d.toMagnitude = m ↔ RoundsTo d.value m := by
  refine ⟨?_, d.roundsTo_toMagnitude.unique⟩
  rintro rfl
  exact d.roundsTo_toMagnitude

/-- What lies between two numbers that are rounded to a magnitude is rounded to it too. -/
theorem roundsTo_between {m : Nat} {x y : ℚ} {d : Decimal} (hx : RoundsTo x m) (hy : RoundsTo y m) (low : x ≤ d.value)
    (high : d.value ≤ y) : RoundsTo d.value m := by
  have least := hx.le_of_le d.roundsTo_toMagnitude low
  have most := d.roundsTo_toMagnitude.le_of_le hy high
  exact toMagnitude_eq_iff.mp (le_antisymm most least)

/-- The whole numbers with some number of digits lie between two powers of ten. -/
theorem digitCount_bounds {n : Nat} (nonzero : n ≠ 0) :
    (10 : ℚ) ^ ((digitCount n : Int) - 1) ≤ n ∧ (n : ℚ) + 1 ≤ 10 ^ (digitCount n : Int) := by
  obtain ⟨low, -⟩ := decimal_bounds nonzero 0
  obtain ⟨-, high⟩ := toDigits_bounds nonzero
  rw [add_zero, zpow_zero, mul_one] at low
  refine ⟨low, ?_⟩
  rw [zpow_natCast]
  exact_mod_cast high

theorem div_bounds (num : Nat) {den : Nat} (hden : 0 < den) :
    ((num / den : Nat) : ℚ) ≤ (num : ℚ) / den ∧ (num : ℚ) / den < (num / den : Nat) + 1 := by
  have positive : (0 : ℚ) < den := Nat.cast_pos.mpr hden
  rw [le_div_iff₀ positive, div_lt_iff₀ positive]
  norm_cast
  exact ⟨Nat.div_mul_le_self num den, (Nat.div_lt_iff_lt_mul hden).mp (Nat.lt_succ_self _)⟩

section Place

variable {num den : Nat} (hden : 0 < den)
include hden

/-- The leading digit of a number from one on is the one of its whole part. -/
theorem leadingPlace_whole (whole : den ≤ num) : (10 : ℚ) ^ ((digitCount (num / den) : Int) - 1) ≤ (num : ℚ) / den ∧
    (num : ℚ) / den < 10 ^ (digitCount (num / den) : Int) := by
  have nonzero : num / den ≠ 0 := (Nat.div_pos whole hden).ne'
  obtain ⟨low, high⟩ := digitCount_bounds nonzero
  obtain ⟨least, most⟩ := div_bounds num hden
  exact ⟨low.trans least, most.trans_le high⟩

/-- The leading digit of a number below one is known from the last whole number below its inverse. -/
theorem leadingPlace_part (hnum : 0 < num) (part : num < den) :
    (10 : ℚ) ^ (-(digitCount ((den + num - 1) / num - 1) : Int)) ≤ (num : ℚ) / den ∧
    (num : ℚ) / den < 10 ^ (1 - (digitCount ((den + num - 1) / num - 1) : Int)) := by
  obtain ⟨c, hc⟩ : ∃ c, (den + num - 1) / num - 1 = c := ⟨_, rfl⟩
  have whole : den + num - 1 = num * ((den + num - 1) / num) + (den + num - 1) % num := (Nat.div_add_mod _ _).symm
  have rest : (den + num - 1) % num < num := Nat.mod_lt _ hnum
  have two : 2 ≤ (den + num - 1) / num := by
    rw [Nat.le_div_iff_mul_le hnum]
    omega
  have split : (den + num - 1) / num = c + 1 := by omega
  rw [split, Nat.mul_add, Nat.mul_one] at whole
  have below : num * c < den := by omega
  have above : den ≤ num * (c + 1) := by
    rw [Nat.mul_add, Nat.mul_one]
    omega
  obtain ⟨low, high⟩ := digitCount_bounds (show c ≠ 0 by omega)
  have positive : (0 : ℚ) < num := Nat.cast_pos.mpr hnum
  have least : (num : ℚ) * c < den := by exact_mod_cast below
  have most : (den : ℚ) ≤ num * (c + 1) := by exact_mod_cast above
  have denominator : (0 : ℚ) < den := Nat.cast_pos.mpr hden
  have power : (0 : ℚ) < 10 ^ (digitCount c : Int) := by positivity
  rw [hc, zpow_sub₀ (by norm_num), zpow_one, zpow_neg]
  rw [zpow_sub₀ (by norm_num), zpow_one] at low
  constructor
  · rw [inv_eq_one_div, div_le_div_iff₀ power denominator, one_mul]
    exact most.trans (mul_le_mul_of_nonneg_left high positive.le)
  · rw [div_lt_div_iff₀ denominator power]
    rw [div_le_iff₀ (by norm_num)] at low
    nlinarith

/-- The place of the leading digit says between which powers of ten a number lies. -/
theorem leadingPlace_bounds (hnum : 0 < num) : (10 : ℚ) ^ (leadingPlace num den - 1) ≤ (num : ℚ) / den ∧
    (num : ℚ) / den < 10 ^ leadingPlace num den := by
  rw [leadingPlace]
  split
  next whole => exact leadingPlace_whole hden whole
  next part =>
    have bounds := leadingPlace_part hden hnum (Nat.lt_of_not_le part)
    have before : 1 - Int.ofNat (digitCount ((den + num - 1) / num - 1)) - 1 =
        -(digitCount ((den + num - 1) / num - 1) : Int) := by
      rw [Int.ofNat_eq_natCast]
      omega
    rwa [before]

end Place

/-- Counting in other units divides by the unit. -/
theorem inUnits_value (num : Nat) {den : Nat} (hden : 0 < den) (e : Int) : 0 < (inUnits num den e).2 ∧
    ((inUnits num den e).1 : ℚ) / (inUnits num den e).2 * 10 ^ e = (num : ℚ) / den := by
  have positive : (den : ℚ) ≠ 0 := (Nat.cast_pos.mpr hden).ne'
  cases e with
  | ofNat k =>
    refine ⟨Nat.mul_pos hden (Nat.pow_pos (by decide)), ?_⟩
    have power : (10 : ℚ) ^ k ≠ 0 := by positivity
    simp only [inUnits, Nat.pow_eq, Int.ofNat_eq_natCast, zpow_natCast, Nat.cast_mul, Nat.cast_pow, Nat.cast_ofNat]
    field_simp
  | negSucc k =>
    refine ⟨hden, ?_⟩
    have power : (10 : ℚ) ^ (k + 1) ≠ 0 := by positivity
    simp only [inUnits, Nat.pow_eq, zpow_negSucc, Nat.cast_mul, Nat.cast_pow, Nat.cast_ofNat]
    field_simp

/-- The whole multiples of a power of ten on both sides of a number, one of them less than half a step away or just
half a step. -/
structure Beside (v : ℚ) (e : Int) (low near far : Nat) : Prop where
  pair : near = low ∧ far = low + 1 ∨ near = low + 1 ∧ far = low
  below : (low : ℚ) * 10 ^ e ≤ v
  above : v < ((low : ℚ) + 1) * 10 ^ e
  close : 2 * |v - near * 10 ^ e| ≤ 10 ^ e

theorem nearestQuotient_close (num : Nat) {den : Nat} (hden : 0 < den) :
    2 * |(num : ℚ) / den - nearestQuotient num den| ≤ 1 := by
  have positive : (0 : ℚ) < den := Nat.cast_pos.mpr hden
  obtain ⟨⟨up, -⟩, down, -⟩ := nearestQuotient_spec num hden
  have up : (2 : ℚ) * num ≤ den * (2 * nearestQuotient num den + 1) := by exact_mod_cast up
  have down : (2 : ℚ) * den * nearestQuotient num den ≤ 2 * num + den := by exact_mod_cast down
  have same : (den : ℚ) * (num / den) = num := mul_div_cancel₀ _ positive.ne'
  have bound : |(num : ℚ) / den - nearestQuotient num den| ≤ 1 / 2 := by
    rw [abs_le]
    constructor
    · nlinarith
    · nlinarith
  linarith

theorem neighbours_beside (num : Nat) {den : Nat} (hden : 0 < den) (e : Int) : ∃ low near far,
    neighbours num den e = [⟨near, e⟩, ⟨far, e⟩] ∧ Beside ((num : ℚ) / den) e low near far := by
  obtain ⟨units, scaled⟩ := inUnits_value num hden e
  rcases hu : inUnits num den e with ⟨n, d⟩
  rw [hu] at units scaled
  dsimp only at units scaled
  have step : (0 : ℚ) < 10 ^ e := by positivity
  obtain ⟨least, most⟩ := div_bounds n units
  obtain ⟨floor, next⟩ := nearestQuotient_bounds n d
  have close := nearestQuotient_close n units
  have scale (k : ℚ) : (num : ℚ) / den - k * 10 ^ e = ((n : ℚ) / d - k) * 10 ^ e := by
    rw [← scaled]
    ring
  have beside : Beside ((num : ℚ) / den) e (n / d) (nearestQuotient n d)
      (if nearestQuotient n d = n / d then n / d + 1 else n / d) := by
    refine ⟨?_, ?_, ?_, ?_⟩
    · split
      next h => exact .inl ⟨h, rfl⟩
      next h => exact .inr ⟨by omega, rfl⟩
    · rw [← scaled]
      exact mul_le_mul_of_nonneg_right least step.le
    · rw [← scaled]
      exact mul_lt_mul_of_pos_right most step
    · rw [scale, abs_mul, abs_of_pos step, ← mul_assoc]
      exact mul_le_of_le_one_left step.le close
  refine ⟨_, _, _, ?_, beside⟩
  simp only [neighbours, hu, beq_iff_eq]
  split
  next h => rw [h]
  next h =>
    have up : nearestQuotient n d = n / d + 1 := by omega
    rw [up]

theorem digitCount_pos (n : Nat) : 0 < digitCount n := List.length_pos_iff.mpr Nat.toDigits_ne_nil

section Grid

variable {v : ℚ} {place : Int} (least : 10 ^ (place - 1) ≤ v)
  {k low near far : Nat} (beside : Beside v (place - k) low near far)

include beside in
/-- The nearer neighbour is not farther away. -/
theorem Beside.near_le_far : |v - near * 10 ^ (place - (k : Int))| ≤ |v - far * 10 ^ (place - (k : Int))| := by
  have below := beside.below
  have above := beside.above
  have close := beside.close
  rcases beside.pair with ⟨rfl, rfl⟩ | ⟨rfl, rfl⟩
  · rw [Nat.cast_add, Nat.cast_one]
    rw [abs_of_nonneg (by linarith)] at close ⊢
    rw [abs_of_neg (by linarith)]
    linarith
  · rw [Nat.cast_add, Nat.cast_one] at close ⊢
    rw [abs_of_neg (by linarith)] at close ⊢
    rw [abs_of_nonneg (by linarith)]
    linarith

include least beside in
/-- The power of ten at the leading place is on the grid, so it is not above the lower neighbour. -/
theorem Beside.leading (positive : 0 < k) : (10 : ℚ) ^ (place - 1) ≤ low * 10 ^ (place - (k : Int)) := by
  obtain ⟨j, rfl⟩ := Nat.exists_eq_succ_of_ne_zero positive.ne'
  have step : (0 : ℚ) < 10 ^ (place - ((j + 1 : Nat) : Int)) := by positivity
  have power : (10 : ℚ) ^ (place - 1) = (10 ^ j : Nat) * 10 ^ (place - ((j + 1 : Nat) : Int)) := by
    have sum : place - 1 = (j : Int) + (place - ((j + 1 : Nat) : Int)) := by omega
    rw [sum, zpow_add₀ (by norm_num), zpow_natCast]
    push_cast
    rfl
  have floor : 10 ^ j ≤ low := by
    have lt := least.trans_lt beside.above
    rw [power] at lt
    have lt := lt_of_mul_lt_mul_right lt step.le
    exact Nat.lt_succ_iff.mp (by exact_mod_cast lt)
  rw [power]
  apply mul_le_mul_of_nonneg_right _ step.le
  exact_mod_cast floor

include least beside in
/-- No decimal with as many digits as the grid has for a number lies between the number and its neighbours. -/
theorem Beside.outside {d : Decimal} (nonzero : d.digits ≠ 0) (count : digitCount d.digits = k) :
    d.value ≤ low * 10 ^ (place - (k : Int)) ∨ ((low : ℚ) + 1) * 10 ^ (place - (k : Int)) ≤ d.value := by
  by_cases fine : place - k ≤ d.exponent
  · -- the decimal is itself on the grid
    have step : (0 : ℚ) < 10 ^ (place - (k : Int)) := by positivity
    obtain ⟨j, hj⟩ := Int.le.dest fine
    have grid : d.value = ((d.digits * 10 ^ j : Nat) : ℚ) * 10 ^ (place - (k : Int)) := by
      rw [value, ← hj, zpow_add₀ (by norm_num), zpow_natCast]
      push_cast
      ring
    rw [grid]
    rcases Nat.lt_or_ge low (d.digits * 10 ^ j) with lt | ge
    · right
      apply mul_le_mul_of_nonneg_right _ step.le
      exact_mod_cast lt
    · left
      apply mul_le_mul_of_nonneg_right _ step.le
      exact_mod_cast ge
  · -- the decimal has a lower leading place
    left
    obtain ⟨-, high⟩ := decimal_bounds nonzero d.exponent
    have count : (Nat.toDigits 10 d.digits).length = k := count
    rw [count] at high
    have before : (10 : ℚ) ^ ((k : Int) + d.exponent) ≤ 10 ^ (place - 1) :=
      zpow_le_zpow_right₀ (by norm_num) (by omega)
    calc d.value ≤ 10 ^ (place - 1) := high.le.trans before
      _ ≤ low * 10 ^ (place - (k : Int)) := beside.leading least (count ▸ digitCount_pos d.digits)

end Grid

/-- The place of the leading digit of a magnitude. -/
def placeOf (m : Nat) : Int := leadingPlace (units m) (2 ^ unitPower)

/-- The decimals with some number of digits that the search looks at for a magnitude, the nearer one first. -/
def gridNeighbours (m k : Nat) : List Decimal := neighbours (units m) (2 ^ unitPower) (placeOf m - k)

theorem gridNeighbours_beside (m k : Nat) : ∃ low near far,
    gridNeighbours m k = [⟨near, placeOf m - k⟩, ⟨far, placeOf m - k⟩] ∧
    Beside (Double.value m) (placeOf m - k) low near far :=
  neighbours_beside (units m) (Nat.two_pow_pos unitPower) _

theorem shortest_eq (m : Nat) : shortest m =
    ((List.range 17).findSome? fun n => (gridNeighbours m (n + 1)).find? (·.toMagnitude == m)).getD (exact m) := by
  have parts : fraction m = (units m, 2 ^ unitPower) := by simp only [fraction, units, Nat.pow_eq]
  simp only [shortest, parts]
  rfl

section Search

variable {m : Nat} (nonzero : m ≠ 0)
include nonzero

theorem value_placeOf : (10 : ℚ) ^ (placeOf m - 1) ≤ Double.value m ∧ Double.value m < 10 ^ placeOf m :=
  leadingPlace_bounds (Nat.two_pow_pos unitPower) (units_pos nonzero)

theorem digits_ne_zero {d : Decimal} (reads : RoundsTo d.value m) : d.digits ≠ 0 := by
  intro zero
  have read := toMagnitude_eq_iff.mpr reads
  rw [toMagnitude_of_digits_eq_zero zero] at read
  exact nonzero read.symm

/-- A decimal that reads as a magnitude shows that a neighbour with as many digits does, one on the same side. -/
theorem Beside.reads (finite : m < infinite) {k low near far : Nat}
    (beside : Beside (Double.value m) (placeOf m - k) low near far) {d : Decimal} (reads : RoundsTo d.value m)
    (count : digitCount d.digits = k) :
    d.value ≤ low * 10 ^ (placeOf m - k) ∧ RoundsTo (value ⟨low, placeOf m - k⟩) m ∨
    ((low : ℚ) + 1) * 10 ^ (placeOf m - k) ≤ d.value ∧ RoundsTo (value ⟨low + 1, placeOf m - k⟩) m := by
  have own := roundsTo_value finite.le
  rcases beside.outside (value_placeOf nonzero).1 (digits_ne_zero nonzero reads) count with below | above
  · exact .inl ⟨below, roundsTo_between reads own below beside.below⟩
  · have next : value ⟨low + 1, placeOf m - k⟩ = ((low : ℚ) + 1) * 10 ^ (placeOf m - k) := by
      rw [value, Nat.cast_add, Nat.cast_one]
    refine .inr ⟨above, roundsTo_between own reads ?_ ?_⟩
    · rw [next]
      exact beside.above.le
    · rw [next]
      exact above

/-- With seventeen digits the nearer neighbour always reads back. -/
theorem near_reads (finite : m < infinite) {low near far : Nat}
    (beside : Beside (Double.value m) (placeOf m - (17 : Nat)) low near far) :
    RoundsTo (value ⟨near, placeOf m - (17 : Nat)⟩) m := by
  have least := (value_placeOf nonzero).1
  have close := beside.close
  have step : (10 : ℚ) ^ (placeOf m - 1) = 10 ^ 16 * 10 ^ (placeOf m - (17 : Nat)) := by
    rw [show placeOf m - 1 = ((16 : Nat) : Int) + (placeOf m - (17 : Nat)) by omega, zpow_add₀ (by norm_num),
      zpow_natCast]
  rw [step] at least
  have positive : (0 : ℚ) < 10 ^ (placeOf m - (17 : Nat)) := by positivity
  refine Centred.roundsTo (centred_of_close ?_) finite.le
  rw [value, abs_sub_comm]
  dsimp only
  linarith

/-- A decimal that reads as the magnitude makes the search end with as many digits. -/
theorem find?_ne_none (finite : m < infinite) {d : Decimal} (reads : RoundsTo d.value m) :
    (gridNeighbours m (digitCount d.digits)).find? (·.toMagnitude == m) ≠ none := by
  obtain ⟨low, near, far, neighbours, beside⟩ := gridNeighbours_beside m (digitCount d.digits)
  have one : RoundsTo (value ⟨low, placeOf m - digitCount d.digits⟩) m ∨
      RoundsTo (value ⟨low + 1, placeOf m - digitCount d.digits⟩) m :=
    (beside.reads nonzero finite reads rfl).imp And.right And.right
  have either : RoundsTo (value ⟨near, placeOf m - digitCount d.digits⟩) m ∨
      RoundsTo (value ⟨far, placeOf m - digitCount d.digits⟩) m := by
    rcases beside.pair with ⟨rfl, rfl⟩ | ⟨rfl, rfl⟩
    · exact one
    · exact one.symm
  rw [neighbours, Ne, List.find?_eq_none]
  intro misses
  rcases either with hit | hit
  · exact misses _ List.mem_cons_self (beq_iff_eq.mpr (toMagnitude_eq_iff.mpr hit))
  · exact misses _ (by simp) (beq_iff_eq.mpr (toMagnitude_eq_iff.mpr hit))

/-- The search ends with a neighbour, and with fewer digits there was none. -/
theorem exists_found (finite : m < infinite) : ∃ j,
    (gridNeighbours m (j + 1)).find? (·.toMagnitude == m) = some (shortest m) ∧
    ∀ i < j, (gridNeighbours m (i + 1)).find? (·.toMagnitude == m) = none := by
  rw [shortest_eq]
  cases search : (List.range 17).findSome? fun n => (gridNeighbours m (n + 1)).find? (·.toMagnitude == m) with
  | none =>
    obtain ⟨low, near, far, neighbours, beside⟩ := gridNeighbours_beside m 17
    have reads := toMagnitude_eq_iff.mpr (near_reads nonzero finite beside)
    have missed := List.findSome?_eq_none_iff.mp search 16 (by decide)
    rw [neighbours, List.find?_eq_none] at missed
    exact absurd (beq_iff_eq.mpr reads) (missed _ List.mem_cons_self)
  | some d =>
    obtain ⟨front, j, back, split, hit, missed⟩ := List.findSome?_eq_some_iff.mp search
    refine ⟨j, hit, fun i lt => missed i ?_⟩
    have sorted : (front ++ j :: back).Pairwise (· < ·) := split ▸ List.pairwise_lt_range
    have mem : i ∈ front ++ j :: back := by
      have last : j ∈ List.range 17 := by simp [split]
      rw [← split, List.mem_range]
      exact lt.trans (List.mem_range.mp last)
    obtain ⟨-, behind, -⟩ := List.pairwise_append.mp sorted
    rcases List.mem_append.mp mem with before | after
    · exact before
    · rcases List.mem_cons.mp after with rfl | later
      · exact absurd lt (Nat.lt_irrefl i)
      · exact absurd ((List.pairwise_cons.mp behind).1 i later) (Nat.lt_asymm lt)

end Search

/-- Of the decimals that are rounded to a magnitude one with the fewest digits, and of those one that is nearest to
the value of the magnitude. -/
structure IsShortest (m : Nat) (d : Decimal) : Prop where
  reads : RoundsTo d.value m
  fewest : ∀ c : Decimal, RoundsTo c.value m → digitCount d.digits ≤ digitCount c.digits
  nearest : ∀ c : Decimal, RoundsTo c.value m → digitCount c.digits = digitCount d.digits →
    |Double.value m - d.value| ≤ |Double.value m - c.value|

/-- Without the zeros at its end a number up to a power of ten has at most as many digits as the power has zeros. -/
theorem digitCount_le {n k t : Nat} (hk : 0 < k) (le : n * 10 ^ t ≤ 10 ^ k) (stripped : n % 10 ≠ 0) :
    digitCount n ≤ k := by
  apply length_toDigits_le hk
  cases t with
  | zero =>
    rw [pow_zero, Nat.mul_one] at le
    apply lt_of_le_of_ne le
    rintro rfl
    obtain ⟨j, rfl⟩ := Nat.exists_eq_succ_of_ne_zero hk.ne'
    exact stripped (by rw [Nat.pow_succ, Nat.mul_mod_left])
  | succ t =>
    have nonzero : 0 < n := by omega
    have tens : n * 10 ≤ n * 10 ^ (t + 1) := by
      apply Nat.mul_le_mul_left
      rw [Nat.pow_succ]
      exact Nat.le_mul_of_pos_left 10 (Nat.pow_pos (by decide))
    omega

section Shortest

variable {m : Nat} (nonzero : m ≠ 0) (finite : m < infinite)
include nonzero finite

/-- A decimal that reads back is not nearer than the neighbour on its side, which reads back too. -/
theorem Beside.side {k low near far : Nat} (beside : Beside (Double.value m) (placeOf m - k) low near far)
    {c : Decimal} (reads : RoundsTo c.value m) (count : digitCount c.digits = k) :
    ∃ b, (b = near ∨ b = far) ∧ RoundsTo (value ⟨b, placeOf m - k⟩) m ∧
      |Double.value m - b * 10 ^ (placeOf m - (k : Int))| ≤ |Double.value m - c.value| := by
  have below := beside.below
  have above := beside.above
  have pair : (low = near ∨ low = far) ∧ (low + 1 = near ∨ low + 1 = far) := by
    have := beside.pair
    omega
  rcases beside.reads nonzero finite reads count with ⟨left, hit⟩ | ⟨right, hit⟩
  · refine ⟨low, pair.1, hit, ?_⟩
    rw [abs_of_nonneg (by linarith), abs_of_nonneg (by linarith)]
    linarith
  · refine ⟨low + 1, pair.2, hit, ?_⟩
    rw [Nat.cast_add, Nat.cast_one, abs_of_neg (by linarith), abs_of_neg (by linarith)]
    linarith

/-- The search takes the nearer neighbour, or the other one if the nearer one does not read back; so no decimal with
as many digits that reads back is nearer. -/
theorem found_nearest {k : Nat} {found : Decimal}
    (search : (gridNeighbours m k).find? (·.toMagnitude == m) = some found) {c : Decimal} (reads : RoundsTo c.value m)
    (count : digitCount c.digits = k) : |Double.value m - found.value| ≤ |Double.value m - c.value| := by
  obtain ⟨low, near, far, neighbours, beside⟩ := gridNeighbours_beside m k
  obtain ⟨b, either, hit, nearer⟩ := beside.side nonzero finite reads count
  have order := beside.near_le_far
  rw [neighbours, List.find?_cons] at search
  by_cases first : toMagnitude ⟨near, placeOf m - k⟩ = m
  · rw [beq_iff_eq.mpr first] at search
    obtain rfl : _ = found := Option.some.inj search
    rcases either with rfl | rfl
    · exact nearer
    · exact order.trans nearer
  · have other : b = far := either.resolve_left fun same => first (same ▸ toMagnitude_eq_iff.mpr hit)
    have last : toMagnitude ⟨far, placeOf m - k⟩ = m := other ▸ toMagnitude_eq_iff.mpr hit
    rw [beq_eq_false_iff_ne.mpr first, List.find?_cons, beq_iff_eq.mpr last] at search
    obtain rfl : _ = found := Option.some.inj search
    rw [← other]
    exact nearer

omit finite in
/-- What the search ends with is at most the power of ten with as many zeros as it has digits. -/
theorem found_le {k : Nat} {found : Decimal}
    (search : (gridNeighbours m k).find? (·.toMagnitude == m) = some found) : found.digits ≤ 10 ^ k := by
  obtain ⟨low, near, far, neighbours, beside⟩ := gridNeighbours_beside m k
  have mem := List.mem_of_find?_eq_some search
  have step : (0 : ℚ) < 10 ^ (placeOf m - (k : Int)) := by positivity
  have power : (10 : ℚ) ^ placeOf m = (10 ^ k : Nat) * 10 ^ (placeOf m - (k : Int)) := by
    rw [show placeOf m = (k : Int) + (placeOf m - k) by omega, zpow_add₀ (by norm_num), zpow_natCast]
    push_cast
    rw [show (k : Int) + (placeOf m - k) - k = placeOf m - k by omega]
  have lt : (low : ℚ) * 10 ^ (placeOf m - (k : Int)) < (10 ^ k : Nat) * 10 ^ (placeOf m - (k : Int)) := by
    rw [← power]
    exact beside.below.trans_lt (value_placeOf nonzero).2
  have floor : low < 10 ^ k := by exact_mod_cast lt_of_mul_lt_mul_right lt step.le
  have pair := beside.pair
  rw [neighbours] at mem
  rcases List.mem_cons.mp mem with rfl | mem
  · dsimp only
    omega
  · obtain rfl := List.mem_singleton.mp mem
    dsimp only
    omega

/-- The decimal that the search ends with, without the zeros at its end, is the shortest one. -/
theorem isShortest_shortest {c : Decimal} {t : Nat} (digits : (shortest m).digits = c.digits * 10 ^ t)
    (exponent : c.exponent = (shortest m).exponent + t) (stripped : c.digits % 10 ≠ 0) : IsShortest m c := by
  obtain ⟨j, search, earlier⟩ := exists_found nonzero finite
  have same : c.value = (shortest m).value := by
    rw [value, value, digits, exponent, zpow_add₀ (by norm_num), zpow_natCast]
    push_cast
    ring
  have least (d : Decimal) (reads : RoundsTo d.value m) : j + 1 ≤ digitCount d.digits := by
    by_contra fewer
    obtain ⟨i, hi⟩ := Nat.exists_eq_succ_of_ne_zero (digitCount_pos d.digits).ne'
    have hit := find?_ne_none nonzero finite reads
    rw [hi] at hit
    exact hit (earlier i (by omega))
  have most : digitCount c.digits ≤ j + 1 := by
    have bound := found_le nonzero search
    rw [digits] at bound
    exact digitCount_le (Nat.succ_pos j) bound stripped
  have reads : RoundsTo c.value m := by
    rw [same]
    exact toMagnitude_eq_iff.mp (toMagnitude_shortest nonzero finite)
  have exactly : digitCount c.digits = j + 1 := le_antisymm most (least c reads)
  refine ⟨reads, fun d hd => most.trans (least d hd), fun d hd count => ?_⟩
  rw [same]
  exact found_nearest nonzero finite search hd (count.trans exactly)

end Shortest

end Decimal

end ScriptAudit.Number
