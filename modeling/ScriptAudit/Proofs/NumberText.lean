import Mathlib.Data.List.TakeWhile
import ScriptAudit.Number.Text
import ScriptAudit.Proofs.NumberLexemes
import ScriptAudit.Proofs.ShortestDecimals

namespace ScriptAudit.Number

open Numeral

theorem isPlainDigit_of_mem_toDigits {n : Nat} {c : Char} (h : c ∈ Nat.toDigits 10 n) : isPlainDigit c := by
  have digit := Nat.isDigit_of_mem_toDigits (by decide) (by decide) h
  simpa [isPlainDigit, Char.isDigit, UInt32.le_iff_toNat_le] using digit

theorem isPlainDigit_of_mem_zeros {n : Nat} {c : Char} (h : c ∈ List.replicate n '0') : isPlainDigit c := by
  rw [List.eq_of_mem_replicate h]
  decide

theorem ofDigitChars_append_zeros (s : List Char) (k : Nat) :
    Nat.ofDigitChars 10 (s ++ List.replicate k '0') 0 = Nat.ofDigitChars 10 s 0 * 10 ^ k := by
  rw [Nat.ofDigitChars_append, Nat.ofDigitChars_replicate_zero, Nat.mul_comm]

theorem ofDigitChars_zeros_append (s : List Char) (k : Nat) :
    Nat.ofDigitChars 10 (List.replicate k '0' ++ s) 0 = Nat.ofDigitChars 10 s 0 := by
  rw [Nat.ofDigitChars_append, Nat.ofDigitChars_replicate_zero, Nat.mul_zero]

theorem head_toDigits {n : Nat} (hn : 0 < n) : ∃ c rest, Nat.toDigits 10 n = c :: rest ∧ c ≠ '0' := by
  induction n using Nat.strong_induction_on with
  | _ n ih =>
    rw [Nat.toDigits_eq_if (by decide)]
    split
    · refine ⟨n.digitChar, [], rfl, ?_⟩
      rw [Ne, Nat.digitChar_eq_zero]
      omega
    · obtain ⟨c, rest, head, nonzero⟩ := ih (n / 10) (by omega) (by omega)
      rw [head]
      exact ⟨c, _, rfl, nonzero⟩

namespace Decimal

theorem stripZeros_append (l : List Char) : ∃ k, l = stripZeros l ++ List.replicate k '0' := by
  have zeros : l.reverse.takeWhile (· == '0') = List.replicate (l.reverse.takeWhile (· == '0')).length '0' := by
    apply List.eq_replicate_of_mem
    intro c hc
    exact beq_iff_eq.mp (List.all_eq_true.mp List.all_takeWhile c hc)
  refine ⟨(l.reverse.takeWhile (· == '0')).length, ?_⟩
  rw [stripZeros, ← List.reverse_replicate, ← zeros, ← List.reverse_append, List.takeWhile_append_dropWhile,
    List.reverse_reverse]

end Decimal

/-- Digits that start with none that is zero. -/
structure IsSignificant (s : List Char) : Prop where
  digits : ∀ c ∈ s, isPlainDigit c
  leading : ∃ c rest, s = c :: rest ∧ c ≠ '0'

theorem IsSignificant.ne_nil {s : List Char} (h : IsSignificant s) : s ≠ [] := by
  obtain ⟨c, rest, rfl, -⟩ := h.leading
  exact List.cons_ne_nil c rest

theorem Decimal.getLast?_stripZeros (l : List Char) : (stripZeros l).getLast? ≠ some '0' := by
  rw [stripZeros, List.getLast?_reverse]
  intro head
  have kept := List.head?_dropWhile_not (· == '0') l.reverse
  rw [head] at kept
  exact absurd kept (by decide)

/-- The significant digits of a decimal and their place are the decimal without the zeros at its end. -/
theorem Decimal.significant_exact {d : Decimal} (positiveDigits : 0 < d.digits) :
    IsSignificant d.significant.1 ∧ d.significant.1.getLast? ≠ some '0' ∧ ∃ k : Nat,
      d.digits = Nat.ofDigitChars 10 d.significant.1 0 * 10 ^ k ∧
      d.significant.2 - d.significant.1.length = d.exponent + k := by
  obtain ⟨k, all⟩ := stripZeros_append (Nat.toDigits 10 d.digits)
  obtain ⟨c, rest, head, nonzero⟩ := head_toDigits positiveDigits
  have first : d.significant.1 = stripZeros (Nat.toDigits 10 d.digits) := rfl
  have second : d.significant.2 = Int.ofNat (Nat.toDigits 10 d.digits).length + d.exponent := rfl
  rw [← first] at all
  have value : d.digits = Nat.ofDigitChars 10 d.significant.1 0 * 10 ^ k := by
    rw [← ofDigitChars_append_zeros, ← all, Nat.ofDigitChars_ten_toDigits]
  have place : d.significant.2 - d.significant.1.length = d.exponent + k := by
    rw [second, all, List.length_append, List.length_replicate, Int.ofNat_eq_natCast]
    omega
  refine ⟨⟨?_, ?_⟩, getLast?_stripZeros _, k, value, place⟩
  · intro x hx
    apply isPlainDigit_of_mem_toDigits
    rw [all]
    exact List.mem_append_left _ hx
  · rw [head] at all
    cases digits : d.significant.1 with
    | nil =>
      rw [value, digits] at positiveDigits
      exact absurd positiveDigits (by simp)
    | cons x xs =>
      rw [digits] at all
      exact ⟨x, xs, rfl, by rw [← (List.cons.inj all).1]; exact nonzero⟩

/-- The significant digits of a decimal and their place read as the decimal. -/
theorem Decimal.significant_value {d : Decimal} (positiveDigits : 0 < d.digits) :
    IsSignificant d.significant.1 ∧ 0 < Nat.ofDigitChars 10 d.significant.1 0 ∧ ∀ negative : Bool,
      Double.ofDecimal negative (Nat.ofDigitChars 10 d.significant.1 0) (d.significant.2 - d.significant.1.length) =
      Double.ofDecimal negative d.digits d.exponent := by
  obtain ⟨significant, -, k, value, place⟩ := significant_exact positiveDigits
  have positive : 0 < Nat.ofDigitChars 10 d.significant.1 0 := by
    rw [value] at positiveDigits
    exact Nat.pos_of_mul_pos_right positiveDigits
  refine ⟨significant, positive, fun negative => ?_⟩
  rw [place, ← Double.ofDecimal_shift negative positive, ← value]

/-! ### Digits of a text -/

theorem plain_ne {c : Char} (h : isPlainDigit c) : c ≠ 'e' ∧ c ≠ '.' := by
  constructor
  · rintro rfl
    exact absurd h (by decide)
  · rintro rfl
    exact absurd h (by decide)

theorem stripZeros_zeros {s : List Char} (last : s.getLast? ≠ some '0') (k : Nat) :
    Decimal.stripZeros (s ++ List.replicate k '0') = s := by
  have kept : s.reverse.dropWhile (· == '0') = s.reverse := by
    rw [← List.head?_reverse] at last
    cases reversed : s.reverse with
    | nil => rfl
    | cons c rest =>
      rw [reversed, List.head?_cons] at last
      rw [List.dropWhile_cons_of_neg]
      simpa using last
  rw [Decimal.stripZeros, List.reverse_append, List.reverse_replicate, List.dropWhile_append_of_pos (by simp), kept,
    List.reverse_reverse]

theorem atMark_append {mark : Char} {front : List Char} (h : ∀ c ∈ front, c ≠ mark) (rest : List Char) :
    atMark mark (front ++ mark :: rest) = (front, rest) := by
  have passes : ∀ c ∈ front, (c != mark) = true := fun c hc => bne_iff_ne.mpr (h c hc)
  simp [atMark, List.takeWhile_append_of_pos passes, List.dropWhile_append_of_pos passes]

theorem atMark_of_not_mem {mark : Char} {s : List Char} (h : ∀ c ∈ s, c ≠ mark) : atMark mark s = (s, []) := by
  have passes : ∀ c ∈ s, (c != mark) = true := fun c hc => bne_iff_ne.mpr (h c hc)
  have taken : s.takeWhile (· != mark) = s := List.takeWhile_eq_self_iff.mpr passes
  have dropped : s.dropWhile (· != mark) = [] := List.dropWhile_eq_nil_iff.mpr passes
  simp [atMark, taken, dropped]

/-- The exponent of a shown number: nothing for zero, or its letter and a whole number. -/
def ShowsPower (tail : List Char) (power : Int) : Prop :=
  tail = [] ∧ power = 0 ∨ ∃ exponent ≠ [], tail = 'e' :: exponent ∧ whole? 10 exponent = some power

/-- The text holds the digits `s` of the decimal `0.s * 10 ^ n`, perhaps with zeros around them, a point and an
exponent. -/
def Shows (s : List Char) (n : Int) (text : List Char) : Prop :=
  ∃ whole places point tail power, ∃ a b : Nat, text = whole ++ point ++ tail ∧
    (∀ c ∈ whole ++ places, isPlainDigit c) ∧
    whole ++ places = List.replicate a '0' ++ (s ++ List.replicate b '0') ∧
    (point = [] ∧ places = [] ∨ point = '.' :: places) ∧ ShowsPower tail power ∧ n = whole.length + power - a

theorem mantissa_ne {whole places point : List Char} (hwhole : ∀ c ∈ whole, isPlainDigit c)
    (hplaces : ∀ c ∈ places, isPlainDigit c) (pointed : point = [] ∧ places = [] ∨ point = '.' :: places) :
    ∀ c ∈ whole ++ point, c ≠ 'e' := by
  rw [List.forall_mem_append]
  refine ⟨fun c hc => (plain_ne (hwhole c hc)).1, ?_⟩
  rcases pointed with ⟨rfl, -⟩ | rfl
  · simp
  · rw [List.forall_mem_cons]
    exact ⟨by decide, fun c hc => (plain_ne (hplaces c hc)).1⟩

section Significant

variable {s : List Char} (hs : IsSignificant s) (last : s.getLast? ≠ some '0')
include hs

theorem dropWhile_zeros (k : Nat) (rest : List Char) :
    (List.replicate k '0' ++ (s ++ rest)).dropWhile (· == '0') = s ++ rest := by
  obtain ⟨c, tail, rfl, nonzero⟩ := hs.leading
  rw [List.dropWhile_append_of_pos (by simp)]
  simp [nonzero]

include last

/-- The digits and the place of a shown number are found between the zeros, and each zero in front of the digits moves
the point. -/
theorem Shows.ofShown_eq {n : Int} {text : List Char} (h : Shows s n text) : Decimal.ofShown text = (s, n) := by
  obtain ⟨whole, places, point, tail, power, a, b, rfl, plain, digits, pointed, shows, rfl⟩ := h
  rw [List.forall_mem_append] at plain
  have split : atMark '.' (whole ++ point) = (whole, places) := by
    have noPoint : ∀ c ∈ whole, c ≠ '.' := fun c hc => (plain_ne (plain.1 c hc)).2
    rcases pointed with ⟨rfl, rfl⟩ | rfl
    · rw [List.append_nil, atMark_of_not_mem noPoint]
    · exact atMark_append noPoint places
  have mantissa := mantissa_ne plain.1 plain.2 pointed
  have zeros : (whole ++ places).length = a + s.length + b := by simp [digits, Nat.add_assoc]
  have place : Int.ofNat (whole ++ places).length - Int.ofNat (s ++ List.replicate b '0').length = a := by
    rw [zeros, List.length_append, List.length_replicate, Int.ofNat_eq_natCast, Int.ofNat_eq_natCast]
    omega
  rcases shows with ⟨rfl, rfl⟩ | ⟨exponent, nonempty, rfl, read⟩
  · rw [List.append_nil]
    simp only [Decimal.ofShown, atMark_of_not_mem mantissa, split, digits, dropWhile_zeros hs, stripZeros_zeros last]
    rw [← digits, place]
    rfl
  · have filled : exponent.isEmpty = false := by simpa using nonempty
    simp only [Decimal.ofShown, atMark_append mantissa, split, digits, dropWhile_zeros hs, stripZeros_zeros last,
      filled, read]
    rw [← digits, place]
    rfl

end Significant

/-- The text is a decimal that reads as `digits * 10 ^ e`, perhaps with zeros behind the digits, and it is no octal
number. -/
structure Denotes (text : List Char) (digits : Nat) (e : Int) : Prop where
  decimal : IsDecimal text
  modern : isLegacyOctal text = false
  value : ∃ k : Nat, unsignedDecimal? text = some (digits * 10 ^ k, e - k)

theorem modern_of_leading {c : Char} (h : c ≠ '0') (rest : List Char) : isLegacyOctal (c :: rest) = false := by
  unfold isLegacyOctal
  split
  next heq => exact absurd (List.cons.inj heq).1 h
  next => rfl

namespace Layout

variable {s : List Char} (hs : IsSignificant s)

include hs

theorem denotes_small {n : Int} (hn : n ≤ 0) : Denotes ('0' :: '.' :: (List.replicate n.natAbs '0' ++ s))
    (Nat.ofDigitChars 10 s 0) (n - s.length) := by
  have zero : ∀ c ∈ ['0'], isPlainDigit c := by simp [isPlainDigit]
  have places : ∀ c ∈ List.replicate n.natAbs '0' ++ s, isPlainDigit c := by
    intro c hc
    rcases List.mem_append.mp hc with mem | mem
    · exact isPlainDigit_of_mem_zeros mem
    · exact hs.digits c mem
  have read := unsignedDecimal?_pointed zero (.inl rfl) (show exponent? [] = some 0 from rfl) places (by simp)
  rw [List.append_nil] at read
  refine ⟨⟨['0'], _, [], zero, places, .inl rfl, by simp, .inl (by rw [List.append_nil]; rfl)⟩, rfl, 0, ?_⟩
  have value : Nat.ofDigitChars 10 (['0'] ++ (List.replicate n.natAbs '0' ++ s)) 0 = Nat.ofDigitChars 10 s 0 := by
    rw [← List.append_assoc]
    exact ofDigitChars_zeros_append s (n.natAbs + 1)
  have exponent : 0 - Int.ofNat (List.replicate n.natAbs '0' ++ s).length = n - s.length := by
    rw [List.length_append, List.length_replicate, Int.ofNat_eq_natCast]
    omega
  rw [value, exponent] at read
  rw [pow_zero, Nat.mul_one, Nat.cast_zero, Int.sub_zero]
  exact read

theorem plain_filled (k : Nat) : ∀ c ∈ s ++ List.replicate k '0', isPlainDigit c := by
  intro c hc
  rcases List.mem_append.mp hc with mem | mem
  · exact hs.digits c mem
  · exact isPlainDigit_of_mem_zeros mem

theorem modern_append (rest : List Char) : isLegacyOctal (s ++ rest) = false := by
  obtain ⟨c, tail, rfl, nonzero⟩ := hs.leading
  exact modern_of_leading nonzero _

/-- Zeros behind the digits belong to the exponent, and so does the one behind the point. -/
theorem denotes_whole {n : Int} (hn : (s.length : Int) ≤ n) (point : Bool) :
    Denotes (s ++ List.replicate (n.toNat - s.length) '0' ++ (if point then ['.', '0'] else []))
      (Nat.ofDigitChars 10 s 0) (n - s.length) := by
  have whole := plain_filled hs (n.toNat - s.length)
  have filled : s ++ List.replicate (n.toNat - s.length) '0' ≠ [] := by simp [hs.ne_nil]
  have zeros : ((n.toNat - s.length : Nat) : Int) = n - s.length := by omega
  have modern := modern_append hs (List.replicate (n.toNat - s.length) '0' ++ if point then ['.', '0'] else [])
  rw [← List.append_assoc] at modern
  cases point with
  | false =>
    have read := unsignedDecimal?_whole whole (.inl rfl) (show exponent? [] = some 0 from rfl) filled
    refine ⟨⟨_, [], [], whole, by simp, .inl rfl, .inl filled, .inr ⟨rfl, rfl⟩⟩, modern, n.toNat - s.length, ?_⟩
    rw [ofDigitChars_append_zeros] at read
    rw [zeros, Int.sub_self]
    exact read
  | true =>
    have place : ∀ c ∈ ['0'], isPlainDigit c := by simp [isPlainDigit]
    have read := unsignedDecimal?_pointed whole (.inl rfl) (show exponent? [] = some 0 from rfl) place (.inl filled)
    refine ⟨⟨_, ['0'], [], whole, place, .inl rfl, .inl filled, .inl rfl⟩, modern, n.toNat - s.length + 1, ?_⟩
    have value : Nat.ofDigitChars 10 (s ++ List.replicate (n.toNat - s.length) '0' ++ ['0']) 0 =
        Nat.ofDigitChars 10 s 0 * 10 ^ (n.toNat - s.length + 1) := by
      rw [List.append_assoc, ← List.replicate_succ', ofDigitChars_append_zeros]
    have exponent : 0 - Int.ofNat ['0'].length = n - s.length - ((n.toNat - s.length + 1 : Nat) : Int) := by
      rw [List.length_singleton, Int.ofNat_eq_natCast]
      omega
    rw [value, exponent] at read
    exact read

/-- A point between the digits takes those behind it into the exponent, whatever exponent follows. -/
theorem denotes_pointed {k : Nat} (hk : 0 < k) (short : k ≤ s.length) {exponent : List Char}
    (form : IsExponent exponent)
    {e : Int} (he : exponent? exponent = some e) : Denotes (s.take k ++ '.' :: (s.drop k ++ exponent))
      (Nat.ofDigitChars 10 s 0) (e + k - s.length) := by
  have whole : ∀ c ∈ s.take k, isPlainDigit c := fun c hc => hs.digits c (List.mem_of_mem_take hc)
  have places : ∀ c ∈ s.drop k, isPlainDigit c := fun c hc => hs.digits c (List.mem_of_mem_drop hc)
  have filled : s.take k ≠ [] := by simp [hs.ne_nil]; omega
  have read := unsignedDecimal?_pointed whole form he places (.inl filled)
  refine ⟨⟨_, _, exponent, whole, places, form, .inl filled, .inl rfl⟩, ?_, 0, ?_⟩
  · obtain ⟨c, rest, rfl, nonzero⟩ := hs.leading
    obtain ⟨k, rfl⟩ : ∃ j, k = j + 1 := ⟨k - 1, by omega⟩
    exact modern_of_leading nonzero _
  · have places : e - Int.ofNat (s.drop k).length = e + k - s.length := by
      rw [List.length_drop, Int.ofNat_eq_natCast]
      omega
    rw [List.take_append_drop, places] at read
    rw [pow_zero, Nat.mul_one, Nat.cast_zero, Int.sub_zero]
    exact read

theorem denotes_scientific {exponent : List Char} (form : IsExponent exponent) {e : Int}
    (he : exponent? exponent = some e) : Denotes (s ++ exponent) (Nat.ofDigitChars 10 s 0) e := by
  have read := unsignedDecimal?_whole hs.digits form he hs.ne_nil
  refine ⟨⟨s, [], exponent, hs.digits, by simp, form, .inl hs.ne_nil, .inr ⟨rfl, rfl⟩⟩, modern_append hs exponent, 0,
    ?_⟩
  rw [pow_zero, Nat.mul_one, Nat.cast_zero, Int.sub_zero]
  exact read

omit hs in
theorem digits_padded (width n : Nat) : padded width n ≠ [] ∧ (∀ c ∈ padded width n, isPlainDigit c) ∧
    Nat.ofDigitChars 10 (padded width n) 0 = n := by
  refine ⟨by simp [padded, Nat.toDigits_ne_nil], ?_, ?_⟩
  · intro c hc
    rcases List.mem_append.mp hc with mem | mem
    · exact isPlainDigit_of_mem_zeros mem
    · exact isPlainDigit_of_mem_toDigits mem
  · rw [padded, ofDigitChars_zeros_append, Nat.ofDigitChars_ten_toDigits]

omit hs in
/-- The exponent of a layout is a sign and digits, some of which may be padding. -/
theorem exponent?_padded (width : Nat) (e : Int) :
    IsExponent ('e' :: (if 0 ≤ e then '+' else '-') :: padded width e.natAbs) ∧
      exponent? ('e' :: (if 0 ≤ e then '+' else '-') :: padded width e.natAbs) = some e := by
  obtain ⟨padded_ne, digits, value⟩ := digits_padded width e.natAbs
  by_cases sign : 0 ≤ e
  · rw [if_pos sign]
    refine ⟨.inr ⟨'e', ['+'], _, .inl rfl, .inr (.inl rfl), padded_ne, digits, rfl⟩, ?_⟩
    have read := exponent?_digits (.inl rfl) (show splitSign (['+'] ++ _) = (false, _) from rfl) padded_ne digits
    rw [value] at read
    refine read.trans (congrArg some ?_)
    simp [sign]
  · rw [if_neg sign]
    refine ⟨.inr ⟨'e', ['-'], _, .inl rfl, .inr (.inr rfl), padded_ne, digits, rfl⟩, ?_⟩
    have read := exponent?_digits (.inl rfl) (show splitSign (['-'] ++ _) = (true, _) from rfl) padded_ne digits
    rw [value] at read
    refine read.trans (congrArg some ?_)
    simp only [if_true, Int.ofNat_eq_natCast]
    omega

/-- However a decimal is laid out, its text stands for it. -/
theorem denotes_write (l : Layout) (n : Int) :
    Denotes (l.write s n) (Nat.ofDigitChars 10 s 0) (n - s.length) := by
  have length : 0 < s.length := List.length_pos_iff.mpr hs.ne_nil
  unfold write
  dsimp only
  split
  · split
    next small => exact denotes_small hs small
    split
    next whole => exact denotes_whole hs (by omega) l.keepPoint
    next large within =>
      have pointed := denotes_pointed hs (show 0 < n.toNat by omega) (by omega) (.inl rfl)
        (show exponent? [] = some 0 from rfl)
      rw [List.append_nil] at pointed
      have place : (0 : Int) + (n.toNat : Int) - s.length = n - s.length := by omega
      rwa [place] at pointed
  · obtain ⟨form, read⟩ := exponent?_padded l.exponentWidth (n - 1)
    split
    next single =>
      have one : s.length = 1 := beq_iff_eq.mp single
      have all : s.take 1 = s := List.take_of_length_le one.le
      have place : n - 1 = n - s.length := by omega
      have scientific := denotes_scientific hs form read
      rw [place] at scientific
      rw [all, List.append_nil]
      simpa only [place] using scientific
    next several =>
      have pointed := denotes_pointed hs Nat.one_pos length form read
      have place : n - 1 + ((1 : Nat) : Int) - s.length = n - s.length := by omega
      rw [place] at pointed
      simpa only [List.append_assoc, List.cons_append] using pointed

omit hs in
theorem showsPower_padded (width : Nat) (e : Int) :
    ShowsPower ('e' :: (if 0 ≤ e then '+' else '-') :: padded width e.natAbs) e := by
  obtain ⟨padded_ne, digits, value⟩ := digits_padded width e.natAbs
  refine .inr ⟨_, List.cons_ne_nil _ _, rfl, ?_⟩
  by_cases sign : 0 ≤ e
  · rw [if_pos sign]
    have read := whole?_signed (List.forall_mem_singleton.mpr (by decide : '+' ∈ numeralChars)) rfl padded_ne digits
    rw [value] at read
    exact read.trans (congrArg some (by simp [sign]))
  · rw [if_neg sign]
    have read := whole?_signed (List.forall_mem_singleton.mpr (by decide : '-' ∈ numeralChars)) rfl padded_ne digits
    rw [value] at read
    refine read.trans (congrArg some ?_)
    simp only [if_true, Int.ofNat_eq_natCast]
    omega

/-- However a decimal is laid out, its text holds its digits and its place. -/
theorem shows_write (l : Layout) (n : Int) : Shows s n (l.write s n) := by
  have length : 0 < s.length := List.length_pos_iff.mpr hs.ne_nil
  have digits (k : Nat) : ∀ c ∈ s.take k ++ s.drop k, isPlainDigit c := by
    rw [List.take_append_drop]
    exact hs.digits
  have whole (k : Nat) : s.take k ++ s.drop k = List.replicate 0 '0' ++ (s ++ List.replicate 0 '0') := by
    rw [List.take_append_drop]
    simp
  have noPower : ShowsPower [] 0 := .inl ⟨rfl, rfl⟩
  unfold write
  dsimp only
  split
  · split
    next small =>
      have plain : ∀ c ∈ ['0'] ++ (List.replicate n.natAbs '0' ++ s), isPlainDigit c := by
        simp only [List.forall_mem_append, List.forall_mem_singleton]
        exact ⟨by decide, fun c hc => isPlainDigit_of_mem_zeros hc, hs.digits⟩
      refine ⟨['0'], _, _, [], 0, n.natAbs + 1, 0, ?_, plain, ?_, .inr rfl, noPower, ?_⟩
      · simp
      · simp [List.replicate_succ]
      · rw [List.length_singleton]
        omega
    split
    next fits =>
      have count : (s ++ List.replicate (n.toNat - s.length) '0').length = n.toNat := by simp; omega
      by_cases point : l.keepPoint
      · have plain : ∀ c ∈ s ++ List.replicate (n.toNat - s.length) '0' ++ ['0'], isPlainDigit c := by
          rw [List.append_assoc, ← List.replicate_succ']
          exact plain_filled hs _
        refine ⟨_, ['0'], _, [], 0, 0, n.toNat - s.length + 1, ?_, plain, ?_, .inr rfl, noPower, ?_⟩
        · rw [if_pos point, List.append_nil]
        · simp [List.replicate_succ']
        · omega
      · have plain := plain_filled hs (n.toNat - s.length)
        rw [← List.append_nil (s ++ _)] at plain
        refine ⟨_, [], [], [], 0, 0, n.toNat - s.length, ?_, plain, ?_, .inl ⟨rfl, rfl⟩, noPower, ?_⟩
        · rw [if_neg point, List.append_nil, List.append_nil]
        · simp
        · omega
    next large within =>
      refine ⟨_, _, _, [], 0, 0, 0, ?_, digits n.toNat, whole n.toNat, .inr rfl, noPower, ?_⟩
      · rw [List.append_nil]
      · rw [List.length_take]
        omega
  · refine ⟨_, _, _, _, n - 1, 0, 0, rfl, digits 1, whole 1, ?_, showsPower_padded l.exponentWidth (n - 1), ?_⟩
    · by_cases single : s.length = 1
      · exact .inl ⟨by simp [single], List.drop_of_length_le single.le⟩
      · exact .inr (by simp [single])
    · rw [List.length_take]
      omega

end Layout

/-- A decimal that is not octal is a literal with its value, and so it is behind a minus. -/
theorem literalValue_decimal {text : List Char} (h : IsDecimal text) (modern : isLegacyOctal text = false)
    {digits : Nat} {e : Int} (read : unsignedDecimal? text = some (digits, e)) (negative : Bool) :
    literalValue ((if negative then ['-'] else []) ++ text) = .ok (some (Double.ofDecimal negative digits e)) := by
  set signed := (if negative then ['-'] else []) ++ text
  have chars : ∀ c ∈ signed, isPlainDigit c ∨ c ∈ decimalMarks := by
    intro c hc
    rcases List.mem_append.mp hc with sign | mem
    · cases negative with
      | true =>
        obtain rfl := List.mem_singleton.mp sign
        exact .inr (by decide)
      | false => cases sign
    · exact h.chars c mem
  have ordinary : ∀ c ∈ decimalDigits ++ decimalMarks, c ≠ '_' ∧ c ≠ 'n' := forall_of_all (by decide)
  have apart : ∀ c ∈ signed, c ≠ '_' ∧ c ≠ 'n' := by
    intro c hc
    apply ordinary
    rcases chars c hc with digit | mark
    · exact List.mem_append_left _ (mem_decimalDigits digit)
    · exact List.mem_append_right _ mark
  have separators : withoutSeparators signed = signed := by
    rw [withoutSeparators, List.filter_eq_self]
    intro c hc
    simpa using (apart c hc).1
  have suffix_ : (signed.getLast? == some 'n') = false := by
    rw [beq_eq_false_iff_ne]
    intro last
    exact (apart 'n' (List.mem_of_getLast? last)).2 rfl
  have octal : isLegacyOctal signed = false := by
    cases negative with
    | true => rfl
    | false => exact modern
  have double : decimal? signed = _ := decimal?_signed h negative
  rw [read] at double
  simp only [literalValue, separators, suffix_, markedBase?_eq_none chars, octal, double, Option.map_some]
  rfl

/-- A text that stands for a decimal is a literal with its value, and so it is behind a minus. -/
theorem Denotes.literalValue {text : List Char} {digits : Nat} {e : Int} (h : Denotes text digits e)
    (positive : 0 < digits) (negative : Bool) : literalValue ((if negative then ['-'] else []) ++ text) =
      .ok (some (Double.ofDecimal negative digits e)) := by
  obtain ⟨k, read⟩ := h.value
  rw [literalValue_decimal h.decimal h.modern read, Double.ofDecimal_shift negative positive, Int.sub_add_cancel]

namespace Double

section Finite

variable {d : Double} (nonzero : d.magnitude ≠ 0) (finite : d.isFinite)
include nonzero finite

theorem not_special : d.isNaN = false ∧ d.isInfinite = false ∧ (d.magnitude == 0) = false := by
  have below : d.magnitude < infinite := of_decide_eq_true finite
  exact ⟨decide_eq_false (Nat.not_lt.mpr below.le), beq_eq_false_iff_ne.mpr below.ne, beq_eq_false_iff_ne.mpr nonzero⟩

theorem digits_shortest_pos : 0 < (Decimal.shortest d.magnitude).digits := by
  have reads := Decimal.toMagnitude_shortest nonzero (of_decide_eq_true finite)
  apply Nat.pos_of_ne_zero
  intro zero
  rw [Decimal.toMagnitude_of_digits_eq_zero zero] at reads
  exact nonzero reads.symm

theorem shown_finite : d.shown = (if d.negative then ['-'] else []) ++
    shownLayout.write (Decimal.shortest d.magnitude).significant.1
      (Decimal.shortest d.magnitude).significant.2 := by
  obtain ⟨number, bounded, isNonzero⟩ := not_special nonzero finite
  simp only [shown, number, bounded, isNonzero]
  rfl

/-- The digits that a message shows are those of the shortest decimal. -/
theorem ofShown_shown : Decimal.ofShown { d with negative := false }.shown =
    (Decimal.shortest d.magnitude).significant := by
  have shown := shown_finite (d := { d with negative := false }) nonzero finite
  obtain ⟨significant, last, -⟩ := Decimal.significant_exact (digits_shortest_pos nonzero finite)
  simp only [Bool.false_eq_true, if_false, List.nil_append] at shown
  rw [shown, (Layout.shows_write significant shownLayout _).ofShown_eq significant last]

/-- A script prints the digits of the shortest decimal. -/
theorem scriptText_finite : d.scriptText = (if d.negative then ['-'] else []) ++
    scriptLayout.write (Decimal.shortest d.magnitude).significant.1
      (Decimal.shortest d.magnitude).significant.2 := by
  obtain ⟨number, bounded, isNonzero⟩ := not_special nonzero finite
  simp only [scriptText, number, bounded, isNonzero, ofShown_shown nonzero finite]
  rfl

/-- The text of a finite double is a literal with that double as its value. -/
theorem literalValue_finite : literalValue d.scriptText = .ok (some d) := by
  have reads := Decimal.toMagnitude_shortest nonzero (of_decide_eq_true finite)
  obtain ⟨significant, positive, value⟩ := Decimal.significant_value (digits_shortest_pos nonzero finite)
  have text := Layout.denotes_write significant scriptLayout (Decimal.shortest d.magnitude).significant.2
  have literal := text.literalValue positive d.negative
  have same :
      ofDecimal d.negative (Decimal.shortest d.magnitude).digits (Decimal.shortest d.magnitude).exponent = d := by
    rw [ofDecimal_sign, ← Decimal.toMagnitude, reads]
    cases d with
    | mk negative magnitude bound => simp [ofMagnitude, Nat.mod_eq_of_lt bound]
  rw [value, same] at literal
  rw [scriptText_finite nonzero finite]
  exact literal

end Finite

end Double

/-- What is printed of a double is read as the same double, but zero loses its sign, and what is not a number is read
as the one value that stands for all of them. -/
theorem literalValue_scriptText (d : Double) : literalValue d.scriptText =
    .ok (some (if d.isNaN then .nan else if d.magnitude = 0 then .zero else d)) := by
  by_cases nan : d.isNaN
  · simp only [Double.scriptText, nan]
    rfl
  by_cases zero : d.magnitude = 0
  · simp only [Double.scriptText, nan, zero]
    rfl
  have number : d.magnitude ≤ Double.infinite := by simpa [Double.isNaN] using nan
  rw [if_neg nan, if_neg zero]
  rcases Nat.lt_or_eq_of_le number with finite | infinite
  · exact Double.literalValue_finite zero (decide_eq_true finite)
  · obtain ⟨negative, magnitude, bound⟩ := d
    obtain rfl : magnitude = Double.infinite := infinite
    cases negative with
    | true => rfl
    | false => rfl

end ScriptAudit.Number
