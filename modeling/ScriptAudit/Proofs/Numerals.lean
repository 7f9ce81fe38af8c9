import Mathlib.Tactic.IntervalCases
import ScriptAudit.Number.Literal

namespace ScriptAudit

namespace Number

def decimalDigits : List Char := "0123456789".toList

/-- The digits of all bases. -/
def baseDigits : List Char := decimalDigits ++ "abcdefABCDEF".toList

/-- The characters that decimals and whole numbers are made of. -/
def numeralChars : List Char := baseDigits ++ ['.', '+', '-']

/-- What can be checked of the characters of a list one by one holds of all of them. -/
theorem forall_of_all {p : Char → Prop} [DecidablePred p] {l : List Char}
    (checked : (l.all fun c => decide (p c)) = true) : ∀ c ∈ l, p c := by
  intro c hc
  exact of_decide_eq_true (List.all_eq_true.mp checked c hc)

namespace Numeral

theorem plain_numeralChar : ∀ c ∈ numeralChars,
    ((Text.decimalValue? c).map Nat.digitChar).getD c = c ∧ isOuterBlank c = false := forall_of_all (by decide)

/-- Numerals of a script are read as they stand. -/
theorem trim_plainDigits {s : List Char} (chars : ∀ c ∈ s, c ∈ numeralChars) : trim (plainDigits s) = s := by
  have same : plainDigits s = s := by
    rw [plainDigits]
    exact (List.map_congr_left fun c hc => (plain_numeralChar c (chars c hc)).1).trans (List.map_id s)
  have keep {l : List Char} (hl : ∀ c ∈ l, c ∈ numeralChars) : l.dropWhile isOuterBlank = l := by
    cases l with
    | nil => rfl
    | cons c rest => rw [List.dropWhile_cons, (plain_numeralChar c (hl c List.mem_cons_self)).2]; rfl
  rw [same, trim, keep chars, keep fun c hc => chars c (List.mem_reverse.mp hc), List.reverse_reverse]

theorem digitsValue?_isSome {base : Nat} {s : List Char} (digits : ∀ c ∈ s, (digitValue? base c).isSome) :
    ∃ v, digitsValue? base s = some v := by
  have from_ (v : Nat) : ∃ w, (s.foldl (fun acc c => do return (← acc) * base + (← digitValue? base c))
      (some v)) = some w := by
    induction s generalizing v with
    | nil => exact ⟨v, rfl⟩
    | cons c rest ih =>
      obtain ⟨d, hd⟩ := Option.isSome_iff_exists.mp (digits c List.mem_cons_self)
      rw [List.foldl_cons, hd]
      exact ih (fun c hc => digits c (List.mem_cons_of_mem _ hc)) (v * base + d)
  exact from_ 0

/-- A digit of a base that is no mark of it. -/
def IsBaseDigit (base : Nat) (c : Char) : Prop :=
  c ∈ baseDigits ∧ (digitValue? base c).isSome ∧ some c.toLower ≠ baseLetter? base

instance (base : Nat) (c : Char) : Decidable (IsBaseDigit base c) := instDecidableAnd

/-- Digits of a base without its mark are a whole number. -/
theorem whole?_digits {base : Nat} {s : List Char} (nonempty : s ≠ []) (digits : ∀ c ∈ s, IsBaseDigit base c) :
    ∃ v, digitsValue? base s = some v ∧ whole? base s = some (Int.ofNat v) := by
  obtain ⟨v, hv⟩ := digitsValue?_isSome fun c hc => (digits c hc).2.1
  have chars : ∀ c ∈ s, c ∈ numeralChars := fun c hc => List.mem_append_left _ (digits c hc).1
  have unsigned : splitSign s = (false, s) := by
    cases s with
    | nil => rfl
    | cons c rest =>
      have first := (digits c List.mem_cons_self).1
      unfold splitSign
      split
      next h => cases h; exact absurd first (by decide)
      next h => cases h; exact absurd first (by decide)
      next => rfl
  have unmarked : dropBaseMark base s = s := by
    unfold dropBaseMark
    split
    next c rest =>
      have second := (digits c (by simp)).2.2
      rw [if_neg (by simpa using second)]
    next => rfl
  refine ⟨v, hv, ?_⟩
  rw [whole?, trim_plainDigits chars, unsigned]
  dsimp only
  rw [unmarked]
  cases s with
  | nil => exact absurd rfl nonempty
  | cons c rest =>
    dsimp only
    rw [hv]
    rfl

theorem mem_decimalDigits {c : Char} (h : isPlainDigit c) : c ∈ decimalDigits := by
  obtain ⟨low, high⟩ : 48 ≤ c.toNat ∧ c.toNat ≤ 57 := by simpa [isPlainDigit] using h
  rw [← Char.ofNat_toNat c]
  generalize c.toNat = n at low high
  interval_cases n <;> decide

theorem digitValue?_plain {c : Char} (h : isPlainDigit c) : digitValue? 10 c = some (c.toNat - 48) := by
  have digits : ∀ c ∈ decimalDigits, digitValue? 10 c = some (c.toNat - 48) := forall_of_all (by decide)
  exact digits c (mem_decimalDigits h)

theorem digitsValue?_plain {s : List Char} (digits : ∀ c ∈ s, isPlainDigit c) :
    digitsValue? 10 s = some (Nat.ofDigitChars 10 s 0) := by
  have from_ (v : Nat) : (s.foldl (fun acc c => do return (← acc) * 10 + (← digitValue? 10 c)) (some v)) =
      some (Nat.ofDigitChars 10 s v) := by
    induction s generalizing v with
    | nil => rw [List.foldl_nil, Nat.ofDigitChars_nil]
    | cons c rest ih =>
      have next := ih (fun c hc => digits c (List.mem_cons_of_mem _ hc)) (v * 10 + (c.toNat - 48))
      rw [List.foldl_cons, digitValue?_plain (digits c List.mem_cons_self), Nat.ofDigitChars_cons, Nat.mul_comm 10]
      exact next
  exact from_ 0

/-- What stands between the digits of a decimal. -/
def decimalMarks : List Char := ['.', 'e', 'E', '+', '-']

/-- The exponent of a decimal, or none. -/
def IsExponent (s : List Char) : Prop :=
  s = [] ∨ ∃ letter sign digits, (letter = 'e' ∨ letter = 'E') ∧ (sign = [] ∨ sign = ['+'] ∨ sign = ['-']) ∧
    digits ≠ [] ∧ (∀ c ∈ digits, isPlainDigit c) ∧ s = letter :: (sign ++ digits)

/-- A decimal: digits with at most one point among them, and an exponent. -/
def IsDecimal (s : List Char) : Prop :=
  ∃ whole places exponent, (∀ c ∈ whole, isPlainDigit c) ∧ (∀ c ∈ places, isPlainDigit c) ∧
    IsExponent exponent ∧ (whole ≠ [] ∨ places ≠ []) ∧
    (s = whole ++ '.' :: (places ++ exponent) ∨ places = [] ∧ s = whole ++ exponent)

theorem splitSign_digits {s : List Char} (digits : ∀ c ∈ s, isPlainDigit c) : splitSign s = (false, s) := by
  unfold splitSign
  split
  next => exact absurd (digits '-' List.mem_cons_self) (by decide)
  next => exact absurd (digits '+' List.mem_cons_self) (by decide)
  next => rfl

theorem dropBaseMark_ten (s : List Char) : dropBaseMark 10 s = s := by
  unfold dropBaseMark
  split
  · exact if_neg Bool.false_ne_true
  · rfl

/-- The whole number that decimal digits with a sign before them stand for. -/
theorem whole?_signed {sign digits : List Char} {negative : Bool} (chars : ∀ c ∈ sign, c ∈ numeralChars)
    (hsign : splitSign (sign ++ digits) = (negative, digits)) (nonempty : digits ≠ [])
    (hdigits : ∀ c ∈ digits, isPlainDigit c) :
    whole? 10 (sign ++ digits) = some (if negative then -Int.ofNat (Nat.ofDigitChars 10 digits 0)
      else Int.ofNat (Nat.ofDigitChars 10 digits 0)) := by
  have all : ∀ c ∈ sign ++ digits, c ∈ numeralChars := by
    rw [List.forall_mem_append]
    refine ⟨chars, fun c hc => ?_⟩
    exact List.mem_append_left _ (List.mem_append_left _ (mem_decimalDigits (hdigits c hc)))
  rw [whole?, trim_plainDigits all, hsign]
  dsimp only
  rw [dropBaseMark_ten]
  cases digits with
  | nil => exact absurd rfl nonempty
  | cons c rest =>
    dsimp only
    rw [digitsValue?_plain hdigits]
    rfl

/-- The exponent that digits with a sign before them stand for. -/
theorem exponent?_digits {letter : Char} (hletter : letter = 'e' ∨ letter = 'E') {sign digits : List Char}
    {negative : Bool} (hsign : splitSign (sign ++ digits) = (negative, digits)) (nonempty : digits ≠ [])
    (hdigits : ∀ c ∈ digits, isPlainDigit c) :
    exponent? (letter :: (sign ++ digits)) = some (if negative then -Int.ofNat (Nat.ofDigitChars 10 digits 0)
      else Int.ofNat (Nat.ofDigitChars 10 digits 0)) := by
  have isLetter : (letter == 'e' || letter == 'E') = true := by rcases hletter with rfl | rfl <;> rfl
  have filled : digits.isEmpty = false := by simpa using nonempty
  rw [exponent?, if_pos isLetter, hsign]
  dsimp only
  rw [filled, digitsValue?_plain hdigits]
  rfl

theorem exponent?_isSome {s : List Char} (h : IsExponent s) : ∃ e, exponent? s = some e := by
  rcases h with rfl | ⟨letter, sign, digits, hletter, hsign, nonempty, hdigits, rfl⟩
  · exact ⟨0, rfl⟩
  have rest : ∃ negative, splitSign (sign ++ digits) = (negative, digits) := by
    rcases hsign with rfl | rfl | rfl
    · exact ⟨false, splitSign_digits hdigits⟩
    · exact ⟨false, rfl⟩
    · exact ⟨true, rfl⟩
  obtain ⟨negative, hrest⟩ := rest
  exact ⟨_, exponent?_digits hletter hrest nonempty hdigits⟩

theorem IsExponent.head {s : List Char} (h : IsExponent s) :
    s.takeWhile isPlainDigit = [] ∧ s.dropWhile isPlainDigit = s ∧ ∀ rest, s ≠ '.' :: rest := by
  rcases h with rfl | ⟨letter, sign, digits, rfl | rfl, -, -, -, rfl⟩
  · simp
  · exact ⟨rfl, rfl, by simp⟩
  · exact ⟨rfl, rfl, by simp⟩

section

variable {whole places exponent : List Char} {e : Int} (hwhole : ∀ c ∈ whole, isPlainDigit c)
  (hexponent : IsExponent exponent) (he : exponent? exponent = some e)

include hwhole hexponent he

theorem unsignedDecimal?_pointed (hplaces : ∀ c ∈ places, isPlainDigit c) (nonempty : whole ≠ [] ∨ places ≠ []) :
    unsignedDecimal? (whole ++ '.' :: (places ++ exponent)) =
      some (Nat.ofDigitChars 10 (whole ++ places) 0, e - Int.ofNat places.length) := by
  obtain ⟨noDigits, noDrop, -⟩ := hexponent.head
  have filled : (whole.isEmpty && places.isEmpty) = false := by
    rcases nonempty with h | h
    · simp [h]
    · simp [h]
  have point : isPlainDigit '.' = false := by decide
  have before : (whole ++ '.' :: (places ++ exponent)).takeWhile isPlainDigit = whole := by
    rw [List.takeWhile_append_of_pos hwhole, List.takeWhile_cons, point]
    simp
  have behind : (whole ++ '.' :: (places ++ exponent)).dropWhile isPlainDigit = '.' :: (places ++ exponent) := by
    rw [List.dropWhile_append_of_pos hwhole, List.dropWhile_cons, point]
    rfl
  have taken : (places ++ exponent).takeWhile isPlainDigit = places := by
    rw [List.takeWhile_append_of_pos hplaces, noDigits, List.append_nil]
  have left : (places ++ exponent).dropWhile isPlainDigit = exponent := by
    rw [List.dropWhile_append_of_pos hplaces, noDrop]
  have digits : ∀ c ∈ whole ++ places, isPlainDigit c := by
    intro c hc
    rcases List.mem_append.mp hc with mem | mem
    · exact hwhole c mem
    · exact hplaces c mem
  rw [unsignedDecimal?, before, behind]
  simp only [taken, left, filled, digitsValue?_plain digits, he]
  rfl

theorem unsignedDecimal?_whole (nonempty : whole ≠ []) :
    unsignedDecimal? (whole ++ exponent) = some (Nat.ofDigitChars 10 whole 0, e) := by
  obtain ⟨noDigits, noDrop, noPoint⟩ := hexponent.head
  have filled : whole.isEmpty = false := by simpa using nonempty
  have before : (whole ++ exponent).takeWhile isPlainDigit = whole := by
    rw [List.takeWhile_append_of_pos hwhole, noDigits, List.append_nil]
  have behind : (whole ++ exponent).dropWhile isPlainDigit = exponent := by
    rw [List.dropWhile_append_of_pos hwhole, noDrop]
  rw [unsignedDecimal?, before, behind]
  simp only [filled, List.append_nil, digitsValue?_plain hwhole, he]
  simp

end

theorem unsignedDecimal?_isSome {s : List Char} (h : IsDecimal s) : ∃ x, unsignedDecimal? s = some x := by
  obtain ⟨whole, places, exponent, hwhole, hplaces, hexponent, nonempty, form⟩ := h
  obtain ⟨e, he⟩ := exponent?_isSome hexponent
  rcases form with rfl | ⟨rfl, rfl⟩
  · exact ⟨_, unsignedDecimal?_pointed hwhole hexponent he hplaces nonempty⟩
  · exact ⟨_, unsignedDecimal?_whole hwhole hexponent he (by simpa using nonempty)⟩

theorem IsExponent.chars {s : List Char} (h : IsExponent s) : ∀ c ∈ s, isPlainDigit c ∨ c ∈ decimalMarks := by
  rcases h with rfl | ⟨letter, sign, digits, hletter, hsign, -, hdigits, rfl⟩
  · simp
  simp only [List.mem_cons, List.mem_append]
  rintro c (rfl | mem | mem)
  · rcases hletter with rfl | rfl <;> decide
  · rcases hsign with rfl | rfl | rfl
    · cases mem
    · obtain rfl := List.mem_singleton.mp mem
      decide
    · obtain rfl := List.mem_singleton.mp mem
      decide
  · exact .inl (hdigits c mem)

theorem IsDecimal.chars {s : List Char} (h : IsDecimal s) : ∀ c ∈ s, isPlainDigit c ∨ c ∈ decimalMarks := by
  obtain ⟨whole, places, exponent, hwhole, hplaces, hexponent, -, form⟩ := h
  rcases form with rfl | ⟨-, rfl⟩
  · simp only [List.mem_append, List.mem_cons]
    rintro c (mem | rfl | mem | mem)
    · exact .inl (hwhole c mem)
    · decide
    · exact .inl (hplaces c mem)
    · exact hexponent.chars c mem
  · intro c hc
    rcases List.mem_append.mp hc with mem | mem
    · exact .inl (hwhole c mem)
    · exact hexponent.chars c mem

theorem mem_numeralChars {c : Char} (h : isPlainDigit c ∨ c ∈ decimalMarks) : c ∈ numeralChars := by
  rcases h with digit | mark
  · exact List.mem_append_left _ (List.mem_append_left _ (mem_decimalDigits digit))
  · have marks : ∀ c ∈ decimalMarks, c ∈ numeralChars := forall_of_all (by decide)
    exact marks c mark

theorem IsDecimal.head {s : List Char} (h : IsDecimal s) : ∃ c rest, s = c :: rest ∧ c ∈ '.' :: decimalDigits := by
  obtain ⟨whole, places, exponent, hwhole, hplaces, hexponent, nonempty, form⟩ := h
  cases whole with
  | cons d rest =>
    have digit : d ∈ '.' :: decimalDigits := List.mem_cons_of_mem _ (mem_decimalDigits (hwhole d List.mem_cons_self))
    rcases form with rfl | ⟨-, rfl⟩
    · exact ⟨d, _, rfl, digit⟩
    · exact ⟨d, _, rfl, digit⟩
  | nil =>
    rcases form with rfl | ⟨rfl, -⟩
    · exact ⟨'.', _, rfl, List.mem_cons_self⟩
    · simp at nonempty

theorem IsDecimal.splitSign {s : List Char} (h : IsDecimal s) : Numeral.splitSign s = (false, s) := by
  obtain ⟨c, rest, rfl, first⟩ := h.head
  unfold Numeral.splitSign
  split
  next heq => cases heq; exact absurd first (by decide)
  next heq => cases heq; exact absurd first (by decide)
  next => rfl

/-- A decimal is none of the words. -/
theorem IsDecimal.word_ne {s : List Char} (h : IsDecimal s) {word : List Char} (letter : Char)
    (hletter : letter ∉ ('.' :: decimalDigits).map Char.toLower) : (s.map Char.toLower == letter :: word) = false := by
  obtain ⟨c, rest, rfl, first⟩ := h.head
  rw [beq_eq_false_iff_ne]
  intro same
  have lower : c.toLower = letter := (List.cons.inj same).1
  exact hletter (lower ▸ List.mem_map_of_mem first)

/-- A decimal with or without a minus before it. -/
theorem decimal?_signed {s : List Char} (h : IsDecimal s) (negative : Bool) :
    decimal? ((if negative then ['-'] else []) ++ s) =
      (unsignedDecimal? s).map fun (digits, e) => Double.ofDecimal negative digits e := by
  have chars : ∀ c ∈ (if negative then ['-'] else []) ++ s, c ∈ numeralChars := by
    intro c hc
    rcases List.mem_append.mp hc with sign | mem
    · cases negative with
      | true =>
        obtain rfl := List.mem_singleton.mp sign
        decide
      | false => cases sign
    · exact mem_numeralChars (h.chars c mem)
  have split : Numeral.splitSign ((if negative then ['-'] else []) ++ s) = (negative, s) := by
    cases negative with
    | true => rfl
    | false => exact h.splitSign
  have short : (s.map Char.toLower == "inf".toList) = false := h.word_ne 'i' (by decide)
  have long : (s.map Char.toLower == "infinity".toList) = false := h.word_ne 'i' (by decide)
  have nan : (s.map Char.toLower == "nan".toList) = false := h.word_ne 'n' (by decide)
  rw [decimal?, trim_plainDigits chars, split]
  simp only [short, long, nan, Bool.or_self, Bool.false_eq_true, if_false]

theorem decimal?_isSome {s : List Char} (h : IsDecimal s) : ∃ d, decimal? s = some d := by
  obtain ⟨x, hx⟩ := unsignedDecimal?_isSome h
  have signed := decimal?_signed h false
  rw [hx] at signed
  exact ⟨_, signed⟩

end Numeral

end Number

end ScriptAudit
