import ScriptAudit.Number.Arithmetic
import ScriptAudit.Proofs.FewestDigits
import ScriptAudit.Proofs.NumberText

namespace ScriptAudit.Number

open Numeral

/-- The exact value of a decimal text. -/
def textValue? (text : List Char) : Option ℚ := (unsignedDecimal? text).map fun x => x.1 * 10 ^ x.2

theorem Denotes.textValue?_eq {text : List Char} {digits : Nat} {e : Int} (h : Denotes text digits e) :
    textValue? text = some ((digits : ℚ) * 10 ^ e) := by
  obtain ⟨k, read⟩ := h.value
  have shift : ((digits * 10 ^ k : Nat) : ℚ) * 10 ^ (e - k) = digits * 10 ^ e := by
    rw [Nat.cast_mul, Nat.cast_pow, Nat.cast_ofNat, mul_assoc, ← zpow_natCast, ← zpow_add₀ (by norm_num),
      add_sub_cancel]
  rw [textValue?, read, Option.map_some, shift]

/-- The digits of a decimal text in front of its exponent, without the zeros at both ends. -/
def significantDigits (text : List Char) : List Char :=
  Decimal.stripZeros (((text.takeWhile (· != 'e')).filter (· != '.')).dropWhile (· == '0'))

theorem filter_plain {s : List Char} (h : ∀ c ∈ s, isPlainDigit c) : s.filter (· != '.') = s := by
  rw [List.filter_eq_self]
  intro c hc
  simpa using (plain_ne (h c hc)).2

/-- The digits that a text shows are the ones between its zeros; an exponent does not count. -/
theorem Shows.significantDigits_eq {s : List Char} (hs : IsSignificant s) (last : s.getLast? ≠ some '0') {n : Int}
    {text : List Char} (h : Shows s n text) : significantDigits text = s := by
  obtain ⟨whole, places, point, tail, power, a, b, rfl, plain, digits, pointed, shows, -⟩ := h
  rw [List.forall_mem_append] at plain
  have mantissa : ∀ c ∈ whole ++ point, (c != 'e') = true :=
    fun c hc => bne_iff_ne.mpr (mantissa_ne plain.1 plain.2 pointed c hc)
  have front : (whole ++ point ++ tail).takeWhile (· != 'e') = whole ++ point := by
    rw [List.takeWhile_append_of_pos mantissa]
    rcases shows with ⟨rfl, -⟩ | ⟨exponent, -, rfl, -⟩
    · simp
    · simp
  have unpointed : (whole ++ point).filter (· != '.') = whole ++ places := by
    rw [List.filter_append, filter_plain plain.1]
    rcases pointed with ⟨rfl, rfl⟩ | rfl
    · rfl
    · rw [List.filter_cons, filter_plain plain.2]
      rfl
  rw [significantDigits, front, unpointed, digits, dropWhile_zeros hs, stripZeros_zeros last]

/-- How scripts print the decimal `0.s * 10 ^ n`. -/
inductive StandardText (s : List Char) (n : Int) : List Char → Prop
  /-- Zeros up to the point, which is not written. -/
  | whole (fits : s.length ≤ n) (high : n ≤ 21) : StandardText s n (s ++ List.replicate (n - s.length).toNat '0')
  | pointed (low : 0 < n) (inside : n < s.length) (high : n ≤ 21) :
      StandardText s n (s.take n.toNat ++ '.' :: s.drop n.toNat)
  | small (low : -6 < n) (high : n ≤ 0) : StandardText s n ("0.".toList ++ List.replicate (-n).toNat '0' ++ s)
  /-- A single digit has no point behind it, and the exponent has no zeros in front. -/
  | scientific (far : n ≤ -6 ∨ 21 < n) : StandardText s n
      ((if s.length = 1 then s else s.take 1 ++ '.' :: s.drop 1) ++
        'e' :: (if 0 ≤ n - 1 then '+' else '-') :: Nat.toDigits 10 (n - 1).natAbs)

/-- A decimal text in which no zero is superfluous: none in front of the whole part except for one in front of the
point, none behind the places, and none in front of the exponent. -/
def Concise (text : List Char) : Prop :=
  ∃ whole places exponent, text = whole ++ places ++ exponent ∧
    (IsSignificant whole ∨ whole = ['0'] ∧ places ≠ []) ∧
    (places = [] ∨ ∃ digits, places = '.' :: digits ∧ digits ≠ [] ∧ (∀ c ∈ digits, isPlainDigit c) ∧
      digits.getLast? ≠ some '0') ∧
    (exponent = [] ∨ ∃ sign digits, exponent = 'e' :: sign :: digits ∧ (sign = '+' ∨ sign = '-') ∧
      IsSignificant digits)

theorem IsSignificant.append {s rest : List Char} (hs : IsSignificant s) (plain : ∀ c ∈ rest, isPlainDigit c) :
    IsSignificant (s ++ rest) := by
  obtain ⟨c, tail, eq, nonzero⟩ := hs.leading
  refine ⟨List.forall_mem_append.mpr ⟨hs.digits, plain⟩, c, tail ++ rest, ?_, nonzero⟩
  rw [eq, List.cons_append]

theorem IsSignificant.take {s : List Char} (hs : IsSignificant s) {k : Nat} (hk : 0 < k) :
    IsSignificant (s.take k) := by
  obtain ⟨c, tail, eq, nonzero⟩ := hs.leading
  obtain ⟨j, rfl⟩ := Nat.exists_eq_succ_of_ne_zero hk.ne'
  refine ⟨fun c hc => hs.digits c (List.mem_of_mem_take hc), c, tail.take j, ?_, nonzero⟩
  rw [eq, List.take_succ_cons]

theorem isSignificant_toDigits {n : Nat} (hn : 0 < n) : IsSignificant (Nat.toDigits 10 n) :=
  ⟨fun _ hc => isPlainDigit_of_mem_toDigits hc, head_toDigits hn⟩

theorem ofDigitChars_concat (front : List Char) (c : Char) :
    Nat.ofDigitChars 10 (front ++ [c]) 0 = 10 * Nat.ofDigitChars 10 front 0 + (c.toNat - 48) := by
  rw [Nat.ofDigitChars_append, Nat.ofDigitChars_cons, Nat.ofDigitChars_nil]
  rfl

/-- Digits without a zero in front are the digits of their number. -/
theorem toDigits_ofDigitChars {s : List Char} (hs : IsSignificant s) :
    Nat.toDigits 10 (Nat.ofDigitChars 10 s 0) = s := by
  have single : ∀ c ∈ decimalDigits, Nat.toDigits 10 (c.toNat - 48) = [c] ∧ c.toNat - 48 < 10 :=
    forall_of_all (by decide)
  obtain ⟨c, rest, rfl, nonzero⟩ := hs.leading
  induction rest using List.reverseRecOn with
  | nil =>
    have digit := single c (mem_decimalDigits (hs.digits c List.mem_cons_self))
    rw [Nat.ofDigitChars_cons, Nat.ofDigitChars_nil, Nat.mul_zero, Nat.zero_add]
    exact digit.1
  | append_singleton front d ih =>
    have digits := hs.digits
    rw [← List.cons_append, List.forall_mem_append] at digits
    have before := ih ⟨digits.1, c, front, rfl, nonzero⟩
    have digit := single d (mem_decimalDigits (digits.2 d List.mem_cons_self))
    have positive : 0 < Nat.ofDigitChars 10 (c :: front) 0 := by
      apply Nat.pos_of_ne_zero
      intro zero
      rw [zero] at before
      exact nonzero (List.cons.inj before).1.symm
    rw [← List.cons_append, ofDigitChars_concat, ← Nat.toDigits_append_toDigits (by decide) positive digit.2, before,
      digit.1]

section Standard

variable {s : List Char} (hs : IsSignificant s)
include hs

theorem standardText_write (n : Int) : StandardText s n (scriptLayout.write s n) := by
  have length : 0 < s.length := List.length_pos_iff.mpr hs.ne_nil
  have padding (k : Nat) : Layout.padded 1 k = Nat.toDigits 10 k := by
    have filled : 0 < (Nat.toDigits 10 k).length := List.length_pos_iff.mpr Nat.toDigits_ne_nil
    rw [Layout.padded, Nat.sub_eq_zero_of_le filled]
    rfl
  simp only [Layout.write, scriptLayout, padding]
  split
  next inside =>
    split
    next small =>
      have form := StandardText.small (s := s) inside.1 small
      rw [show (-n).toNat = n.natAbs by omega] at form
      exact form
    split
    next fits =>
      have form := StandardText.whole (s := s) (show (s.length : Int) ≤ n by omega) inside.2
      rw [show (n - s.length).toNat = n.toNat - s.length by omega] at form
      simpa using form
    next long => exact .pointed (by omega) (by omega) inside.2
  next outside =>
    have form := StandardText.scientific (s := s) (n := n) (by omega)
    split
    next single =>
      have one : s.length = 1 := beq_iff_eq.mp single
      rw [if_pos one] at form
      rw [List.append_nil, List.take_of_length_le one.le]
      exact form
    next several =>
      rw [if_neg (fun one => several (beq_iff_eq.mpr one))] at form
      exact form

/-- Zeros are written only where the place of a digit needs them. -/
theorem StandardText.concise (last : s.getLast? ≠ some '0') {n : Int} {text : List Char} (h : StandardText s n text) :
    Concise text := by
  have length : 0 < s.length := List.length_pos_iff.mpr hs.ne_nil
  have behind {k : Nat} (short : k < s.length) : s.drop k ≠ [] ∧ (∀ c ∈ s.drop k, isPlainDigit c) ∧
      (s.drop k).getLast? ≠ some '0' := by
    refine ⟨by simpa using short, fun c hc => hs.digits c (List.mem_of_mem_drop hc), ?_⟩
    rwa [List.getLast?_drop, if_neg (Nat.not_le.mpr short)]
  cases h with
  | whole fits high =>
    have zeros := hs.append fun c hc => isPlainDigit_of_mem_zeros (n := (n - s.length).toNat) hc
    exact ⟨_, [], [], by simp, .inl zeros, .inl rfl, .inl rfl⟩
  | pointed low inside high =>
    refine ⟨s.take n.toNat, '.' :: s.drop n.toNat, [], by simp, .inl (hs.take (by omega)), ?_, .inl rfl⟩
    exact .inr ⟨_, rfl, behind (by omega)⟩
  | small low high =>
    refine ⟨['0'], '.' :: (List.replicate (-n).toNat '0' ++ s), [], by simp, .inr ⟨rfl, by simp⟩, ?_, .inl rfl⟩
    refine .inr ⟨_, rfl, by simp [hs.ne_nil], ?_, ?_⟩
    · rw [List.forall_mem_append]
      exact ⟨fun c hc => isPlainDigit_of_mem_zeros hc, hs.digits⟩
    · rwa [List.getLast?_append_of_ne_nil _ hs.ne_nil]
  | scientific far =>
    have exponent : IsSignificant (Nat.toDigits 10 (n - 1).natAbs) := isSignificant_toDigits (by omega)
    have sign : (if 0 ≤ n - 1 then '+' else '-') = '+' ∨ (if 0 ≤ n - 1 then '+' else '-') = '-' := by
      split
      · exact .inl rfl
      · exact .inr rfl
    split
    · exact ⟨s, [], _, by rw [List.append_nil], .inl hs, .inl rfl, .inr ⟨_, _, rfl, sign, exponent⟩⟩
    · refine ⟨s.take 1, '.' :: s.drop 1, _, rfl, .inl (hs.take Nat.one_pos), ?_, .inr ⟨_, _, rfl, sign, exponent⟩⟩
      exact .inr ⟨_, rfl, behind (by omega)⟩

/-- Only the scientific form has an exponent. -/
theorem StandardText.exponent_iff {n : Int} {text : List Char} (h : StandardText s n text) :
    'e' ∈ text ↔ n ≤ -6 ∨ 21 < n := by
  have own : 'e' ∉ s := fun mem => (plain_ne (hs.digits 'e' mem)).1 rfl
  have length : 0 < s.length := List.length_pos_iff.mpr hs.ne_nil
  cases h with
  | whole fits high =>
    have plain : 'e' ∉ s ++ List.replicate (n - s.length).toNat '0' := by simp [own]
    exact iff_of_false plain (by omega)
  | pointed low inside high =>
    have plain : 'e' ∉ s.take n.toNat ++ '.' :: s.drop n.toNat := by
      rw [List.mem_append, List.mem_cons]
      rintro (front | point | back)
      · exact own (List.mem_of_mem_take front)
      · exact absurd point (by decide)
      · exact own (List.mem_of_mem_drop back)
    exact iff_of_false plain (by omega)
  | small low high =>
    have plain : 'e' ∉ "0.".toList ++ List.replicate (-n).toNat '0' ++ s := by simp [own]
    exact iff_of_false plain (by omega)
  | scientific far => exact iff_of_true (List.mem_append_right _ List.mem_cons_self) far

end Standard

theorem IsSignificant.value_ne_zero {s : List Char} (hs : IsSignificant s) : Nat.ofDigitChars 10 s 0 ≠ 0 := by
  intro zero
  have digits := toDigits_ofDigitChars hs
  obtain ⟨c, rest, rfl, nonzero⟩ := hs.leading
  rw [zero] at digits
  exact nonzero (List.cons.inj digits).1.symm

theorem IsSignificant.value_mod_ten {s : List Char} (hs : IsSignificant s) (last : s.getLast? ≠ some '0') :
    Nat.ofDigitChars 10 s 0 % 10 ≠ 0 := by
  have nonzero : ∀ c ∈ decimalDigits, c ≠ '0' → (c.toNat - 48) % 10 ≠ 0 := forall_of_all (by decide)
  obtain ⟨front, c, rfl⟩ := (List.eq_nil_or_concat' s).resolve_left hs.ne_nil
  rw [List.getLast?_concat] at last
  rw [ofDigitChars_concat, Nat.mul_add_mod]
  exact nonzero c (mem_decimalDigits (hs.digits c (by simp))) (fun zero => last (congrArg some zero))

/-- The place of the leading digit says how large a decimal is. -/
theorem far_iff {s : List Char} (hs : IsSignificant s) (n : Int) {q : ℚ}
    (hq : q = (Nat.ofDigitChars 10 s 0 : ℚ) * 10 ^ (n - s.length)) :
    (n ≤ -6 ∨ 21 < n) ↔ 10 ^ (21 : Int) ≤ q ∨ q < 10 ^ (-6 : Int) := by
  have digits := toDigits_ofDigitChars hs
  obtain ⟨low, high⟩ := Double.decimal_bounds hs.value_ne_zero (n - s.length)
  rw [digits, ← hq, show (s.length : Int) + (n - s.length) - 1 = n - 1 by omega] at low
  rw [digits, ← hq, show (s.length : Int) + (n - s.length) = n by omega] at high
  have ten : (1 : ℚ) < 10 := by norm_num
  constructor
  · rintro (small | large)
    · exact .inr (high.trans_le (zpow_le_zpow_right₀ ten.le small))
    · exact .inl ((zpow_le_zpow_right₀ ten.le (by omega)).trans low)
  · rintro (large | small)
    · have := (zpow_lt_zpow_iff_right₀ ten).mp (large.trans_lt high)
      omega
    · have := (zpow_lt_zpow_iff_right₀ ten).mp (low.trans_lt small)
      omega

namespace Double

section Finite

variable {d : Double} (nonzero : d.magnitude ≠ 0) (finite : d.isFinite)
include nonzero finite

/-- The digits of the shortest decimal are the ones without zeros at the end. -/
theorem isShortest_significant : let digits := (Decimal.shortest d.magnitude).significant
    IsSignificant digits.1 ∧ digits.1.getLast? ≠ some '0' ∧
    Decimal.IsShortest d.magnitude ⟨Nat.ofDigitChars 10 digits.1 0, digits.2 - digits.1.length⟩ := by
  intro digits
  have below : d.magnitude < infinite := of_decide_eq_true finite
  obtain ⟨significant, last, k, value, place⟩ := Decimal.significant_exact (digits_shortest_pos nonzero finite)
  exact ⟨significant, last, Decimal.isShortest_shortest nonzero below value place (significant.value_mod_ten last)⟩

end Finite

theorem scriptText_neg {d : Double} (positive : d.negative = false) (nonzero : d.magnitude ≠ 0) (finite : d.isFinite) :
    d.neg.scriptText = '-' :: d.scriptText := by
  have magnitude : d.neg.magnitude = d.magnitude := Nat.mod_eq_of_lt d.bound
  have negative : d.neg.negative = true := by
    rw [neg, ofMagnitude, positive]
    rfl
  have finite' : d.neg.isFinite := by
    rw [isFinite, magnitude]
    exact finite
  rw [scriptText_finite (magnitude ▸ nonzero) finite', scriptText_finite nonzero finite, magnitude, negative, positive]
  rfl

/-- A positive number is printed in the standard form of its shortest decimal, the one whose digits messages show. So
the text stands for that decimal, has no superfluous zero, and has an exponent exactly from `10 ^ 21` on and below
`10 ^ (-6)`. A minus in front makes it the text of the negated number. -/
theorem scriptText_standard {d : Double} (positive : d.negative = false) (nonzero : d.magnitude ≠ 0)
    (finite : d.isFinite) : let s := significantDigits (d.shown)
    ∃ (n : Int) (q : ℚ), q = (Nat.ofDigitChars 10 s 0 : ℚ) * 10 ^ (n - s.length) ∧
      textValue? (d.shown) = some q ∧
      Decimal.IsShortest d.magnitude ⟨Nat.ofDigitChars 10 s 0, n - s.length⟩ ∧
      StandardText s n d.scriptText ∧ textValue? d.scriptText = some q ∧ Concise d.scriptText ∧
      ('e' ∈ d.scriptText ↔ 10 ^ (21 : Int) ≤ q ∨ q < 10 ^ (-6 : Int)) ∧
      d.neg.scriptText = '-' :: d.scriptText := by
  intro s
  obtain ⟨significant, last, shortest⟩ := isShortest_significant nonzero finite
  have script := scriptText_finite nonzero finite
  have shown := shown_finite nonzero finite
  rw [positive] at script shown
  generalize (Decimal.shortest d.magnitude).significant = digits at *
  have same : s = digits.1 := by
    rw [show s = significantDigits (d.shown) from rfl, shown]
    exact (Layout.shows_write significant shownLayout digits.2).significantDigits_eq significant last
  have form : StandardText s digits.2 d.scriptText := by
    rw [script, same]
    exact standardText_write significant digits.2
  have value := (Layout.denotes_write significant scriptLayout digits.2).textValue?_eq
  have valueShown := (Layout.denotes_write significant shownLayout digits.2).textValue?_eq
  rw [← same] at significant last shortest
  refine ⟨digits.2, _, rfl, ?_, shortest, form, ?_, form.concise significant last, ?_, ?_⟩
  · rw [shown, same]
    exact valueShown
  · rw [script, same]
    exact value
  · exact (form.exponent_iff significant).trans (far_iff significant digits.2 rfl)
  · exact scriptText_neg positive nonzero finite

/-- A number of 21 places, whose message has an exponent, is printed without one. -/
theorem scriptText_of_many_places : let d := ofBits 0x441AC53A7E04BCDA
    (d.negative = false ∧ d.magnitude ≠ 0 ∧ d.isFinite) ∧
    d.shown = "1.2345678901234568e+20".toList ∧ d.scriptText = "123456789012345680000".toList ∧
    (∃ q : ℚ, ¬(10 ^ (21 : Int) ≤ q ∨ q < 10 ^ (-6 : Int)) ∧ textValue? d.scriptText = some q ∧
      textValue? (d.shown) = some q) ∧
    d.neg.scriptText = '-' :: d.scriptText := by
  intro d
  have positive : d.negative = false := by decide +kernel
  have nonzero : d.magnitude ≠ 0 := by decide +kernel
  have finite : d.isFinite := by decide +kernel
  have text : d.scriptText = "123456789012345680000".toList := by decide +kernel
  obtain ⟨n, q, _, shown, _, _, script, _, exponent, neg⟩ := scriptText_standard positive nonzero finite
  have plain : 'e' ∉ d.scriptText := by rw [text]; decide
  have near : ¬(10 ^ (21 : Int) ≤ q ∨ q < 10 ^ (-6 : Int)) := fun far => plain (exponent.mpr far)
  exact ⟨⟨positive, nonzero, finite⟩, by decide +kernel, text, ⟨q, near, script, shown⟩, neg⟩

end Double

end ScriptAudit.Number
