import Mathlib.Data.Nat.Digits.Defs
import ScriptAudit.Proofs.NearestDoubles
import ScriptAudit.Proofs.NumberText

namespace ScriptAudit.Number

open Numeral

/-- A digit of a base up to 16. Only letters have a capital form of their own. -/
structure Digit (base : Nat) where
  value : Fin base
  capital : Bool

/-- Digits in a row. A separator may stand in front of each but the first. -/
structure DigitRow (base : Nat) where
  first : Digit base
  rest : List (Bool × Digit base)

section Digits

variable {base : Nat}

def Digit.char (d : Digit base) : Char :=
  if d.capital then d.value.val.digitChar.toUpper else d.value.val.digitChar

def DigitRow.digits (r : DigitRow base) : List (Digit base) := r.first :: r.rest.map Prod.snd

def DigitRow.text (r : DigitRow base) : List Char :=
  r.first.char :: r.rest.flatMap fun (separated, d) => if separated then ['_', d.char] else [d.char]

/-- The number that digits stand for, the most significant one first. -/
def positional (digits : List (Digit base)) : Nat := Nat.ofDigits base (digits.reverse.map fun d => d.value.val)

end Digits

/-- A whole decimal without a zero in front. -/
inductive WholeDecimal where
  | zero
  | leading (row : DigitRow 10) (nonzero : row.first.value ≠ 0)

/-- What stands in front of the point. Digits behind a zero have no separators, and one of them must not be octal. -/
inductive WholePart where
  | ordinary (whole : WholeDecimal)
  | zeroLed (digits : List (Digit 10)) (nonoctal : ∃ d ∈ digits, 8 ≤ d.value.val)

structure ExponentPart where
  capital : Bool
  /-- The sign, if there is one: whether it is a minus. -/
  sign : Option Bool
  row : DigitRow 10

inductive BaseMark where
  | binary
  | octal
  | hexadecimal

def BaseMark.base : BaseMark → Nat
  | binary => 2
  | octal => 8
  | hexadecimal => 16

/-- A whole number whose base is marked, as by `0x`. -/
structure MarkedNumber where
  mark : BaseMark
  capital : Bool
  row : DigitRow mark.base

/-- The numeric literals of scripts. -/
inductive NumericLiteral where
  | whole (whole : WholePart) (exponent : Option ExponentPart)
  | pointed (whole : WholePart) (places : Option (DigitRow 10)) (exponent : Option ExponentPart)
  | places (places : DigitRow 10) (exponent : Option ExponentPart)
  | marked (number : MarkedNumber)
  | legacyOctal (first : Digit 8) (rest : List (Digit 8))
  | bigDecimal (whole : WholeDecimal)
  | bigMarked (number : MarkedNumber)

namespace WholeDecimal

def digits : WholeDecimal → List (Digit 10)
  | zero => [⟨0, false⟩]
  | leading row _ => row.digits

def text : WholeDecimal → List Char
  | zero => ['0']
  | leading row _ => row.text

end WholeDecimal

namespace WholePart

def digits : WholePart → List (Digit 10)
  | ordinary whole => whole.digits
  | zeroLed digits _ => ⟨0, false⟩ :: digits

def text : WholePart → List Char
  | ordinary whole => whole.text
  | zeroLed digits _ => '0' :: digits.map Digit.char

end WholePart

namespace ExponentPart

def signText (e : ExponentPart) : List Char :=
  match e.sign with
  | none => []
  | some false => ['+']
  | some true => ['-']

def text (e : ExponentPart) : List Char := (if e.capital then 'E' else 'e') :: (e.signText ++ e.row.text)

def value (e : ExponentPart) : Int :=
  if e.sign = some true then -positional e.row.digits else positional e.row.digits

end ExponentPart

def BaseMark.letter (capital : Bool) : BaseMark → Char
  | binary => if capital then 'B' else 'b'
  | octal => if capital then 'O' else 'o'
  | hexadecimal => if capital then 'X' else 'x'

namespace MarkedNumber

def text (n : MarkedNumber) : List Char := '0' :: n.mark.letter n.capital :: n.row.text

def value (n : MarkedNumber) : Nat := positional n.row.digits

end MarkedNumber

/-- The text of a part that may be missing. -/
def optionalText {α : Type} (text : α → List Char) : Option α → List Char
  | none => []
  | some part => text part

/-- The power of ten that an exponent stands for; without one it is zero. -/
def exponentValue : Option ExponentPart → Int
  | none => 0
  | some e => e.value

/-- The digits behind a point that may have none. -/
def placeDigits : Option (DigitRow 10) → List (Digit 10)
  | none => []
  | some row => row.digits

/-- The digits behind the point as a fraction. -/
def fractional (places : List (Digit 10)) : ℚ := positional places / 10 ^ places.length

namespace NumericLiteral

def text : NumericLiteral → List Char
  | whole w e => w.text ++ optionalText ExponentPart.text e
  | pointed w p e => w.text ++ '.' :: (optionalText DigitRow.text p ++ optionalText ExponentPart.text e)
  | places p e => '.' :: (p.text ++ optionalText ExponentPart.text e)
  | marked n => n.text
  | legacyOctal first rest => '0' :: (first :: rest).map Digit.char
  | bigDecimal w => w.text ++ ['n']
  | bigMarked n => n.text ++ ['n']

/-- The exact value. -/
def value : NumericLiteral → ℚ
  | whole w e => positional w.digits * 10 ^ exponentValue e
  | pointed w p e => (positional w.digits + fractional (placeDigits p)) * 10 ^ exponentValue e
  | places p e => fractional p.digits * 10 ^ exponentValue e
  | marked n => n.value
  | legacyOctal first rest => positional (first :: rest)
  | bigDecimal w => positional w.digits
  | bigMarked n => n.value

def isBig : NumericLiteral → Bool
  | bigDecimal _ | bigMarked _ => true
  | _ => false

/-- Whether the literal is a number in base two, eight or sixteen. -/
def isBased : NumericLiteral → Bool
  | marked _ | legacyOctal .. => true
  | _ => false

/-- Whether the literal is such a number that is nearer to infinity than to the largest double. -/
def TooLarge (l : NumericLiteral) : Prop := l.isBased ∧ Double.overflow ≤ l.value

end NumericLiteral

theorem Digit.char_decimal (d : Digit 10) : isPlainDigit d.char ∧ d.char.toNat - 48 = d.value.val := by
  obtain ⟨value, capital⟩ := d
  revert value capital
  decide

theorem Digit.char_based (mark : BaseMark) (d : Digit mark.base) :
    IsBaseDigit mark.base d.char ∧ digitValue? mark.base d.char = some d.value.val := by
  obtain ⟨value, capital⟩ := d
  revert value capital
  cases mark with
  | binary => decide
  | octal => decide
  | hexadecimal => decide

theorem withoutSeparators_row {base : Nat} (kept : ∀ d : Digit base, d.char ≠ '_') (r : DigitRow base) :
    withoutSeparators r.text = r.digits.map Digit.char := by
  have tail (rest : List (Bool × Digit base)) : withoutSeparators (rest.flatMap fun (separated, d) =>
      if separated then ['_', d.char] else [d.char]) = (rest.map Prod.snd).map Digit.char := by
    induction rest with
    | nil => rfl
    | cons step rest ih =>
      obtain ⟨separated, d⟩ := step
      have own : withoutSeparators (if separated then ['_', d.char] else [d.char]) = [d.char] := by
        cases separated <;> simp [withoutSeparators, kept d]
      rw [List.flatMap_cons, JavaScript.withoutSeparators_append, ih]
      exact congrArg (· ++ _) own
  rw [DigitRow.text, JavaScript.withoutSeparators_cons (kept _), tail]
  rfl

theorem withoutSeparators_chars {base : Nat} (kept : ∀ d : Digit base, d.char ≠ '_') (digits : List (Digit base)) :
    withoutSeparators (digits.map Digit.char) = digits.map Digit.char := by
  rw [withoutSeparators, List.filter_eq_self]
  intro c hc
  obtain ⟨d, -, rfl⟩ := List.mem_map.mp hc
  simpa using kept d

section Positional

variable {base : Nat}

theorem positional_append (a b : List (Digit base)) :
    positional (a ++ b) = positional a * base ^ b.length + positional b := by
  rw [positional, List.reverse_append, List.map_append, Nat.ofDigits_append, List.length_map, List.length_reverse,
    Nat.add_comm, Nat.mul_comm]
  rfl

theorem digitsValue?_positional (values : ∀ d : Digit base, digitValue? base d.char = some d.value.val)
    (digits : List (Digit base)) : digitsValue? base (digits.map Digit.char) = some (positional digits) := by
  induction digits using List.reverseRecOn with
  | nil => rfl
  | append_singleton front d ih =>
    have last : positional [d] = d.value.val := by simp [positional]
    rw [digitsValue?] at ih
    rw [digitsValue?, List.map_append, List.foldl_append, ih, positional_append, last, List.length_singleton, pow_one]
    change (do return positional front * base + (← digitValue? base d.char)) = _
    rw [values d]
    rfl

end Positional

theorem Digit.char_ne_separator (d : Digit 10) : d.char ≠ '_' := by
  intro same
  have digit := d.char_decimal.1
  rw [same] at digit
  exact absurd digit (by decide)

theorem plain_chars (digits : List (Digit 10)) : ∀ c ∈ digits.map Digit.char, isPlainDigit c := by
  intro c hc
  obtain ⟨d, -, rfl⟩ := List.mem_map.mp hc
  exact d.char_decimal.1

theorem ofDigitChars_chars (digits : List (Digit 10)) :
    Nat.ofDigitChars 10 (digits.map Digit.char) 0 = positional digits := by
  have values (d : Digit 10) : digitValue? 10 d.char = some d.value.val := by
    rw [digitValue?_plain d.char_decimal.1, d.char_decimal.2]
  have same := (digitsValue?_plain (plain_chars digits)).symm.trans (digitsValue?_positional values digits)
  exact Option.some.inj same

theorem withoutSeparators_whole (w : WholePart) : withoutSeparators w.text = w.digits.map Digit.char := by
  cases w with
  | ordinary whole =>
    cases whole with
    | zero => decide
    | leading row nonzero => exact withoutSeparators_row Digit.char_ne_separator row
  | zeroLed digits nonoctal => exact withoutSeparators_chars Digit.char_ne_separator (⟨0, false⟩ :: digits)

theorem WholePart.digits_ne_nil (w : WholePart) : w.digits ≠ [] := by
  cases w with
  | ordinary whole =>
    cases whole with
    | zero => exact List.cons_ne_nil _ _
    | leading row nonzero => exact List.cons_ne_nil _ _
  | zeroLed digits nonoctal => exact List.cons_ne_nil _ _

/-- Whatever its sign and its separators, an exponent is read as its value. -/
theorem exponent?_part (e : Option ExponentPart) : let s := withoutSeparators (optionalText ExponentPart.text e)
    IsExponent s ∧ exponent? s = some (exponentValue e) := by
  cases e with
  | none => exact ⟨.inl rfl, rfl⟩
  | some e =>
    intro s
    have letter : (if e.capital then 'E' else 'e') = 'e' ∨ (if e.capital then 'E' else 'e') = 'E' := by
      cases e.capital
      · exact .inl rfl
      · exact .inr rfl
    have kept : (if e.capital then 'E' else 'e') ≠ '_' := by rcases letter with h | h <;> rw [h] <;> decide
    have digits := plain_chars e.row.digits
    have sign : withoutSeparators e.signText = e.signText ∧
        (e.signText = [] ∨ e.signText = ['+'] ∨ e.signText = ['-']) ∧
        splitSign (e.signText ++ e.row.digits.map Digit.char) =
          (decide (e.sign = some true), e.row.digits.map Digit.char) := by
      rw [ExponentPart.signText]
      rcases e.sign with unsigned | minus
      · exact ⟨rfl, .inl rfl, splitSign_digits digits⟩
      · cases minus
        · exact ⟨rfl, .inr (.inl rfl), rfl⟩
        · exact ⟨rfl, .inr (.inr rfl), rfl⟩
    have nonempty : e.row.digits.map Digit.char ≠ [] := List.cons_ne_nil _ _
    have form : s = (if e.capital then 'E' else 'e') :: (e.signText ++ e.row.digits.map Digit.char) := by
      rw [show s = withoutSeparators e.text from rfl, ExponentPart.text, JavaScript.withoutSeparators_cons kept,
        JavaScript.withoutSeparators_append, sign.1, withoutSeparators_row Digit.char_ne_separator]
    refine ⟨.inr ⟨_, _, _, letter, sign.2.1, nonempty, digits, form⟩, ?_⟩
    rw [form, exponent?_digits letter sign.2.2 nonempty digits, ofDigitChars_chars, exponentValue, ExponentPart.value]
    simp

/-- The text has as its value the double nearest to a number. -/
def Reads (raw : List Char) (x : ℚ) : Prop :=
  ∃ d : Double, literalValue raw = .ok (some d) ∧ d.negative = false ∧ Double.RoundsTo x d.magnitude

theorem literalValue_withoutSeparators (raw : List Char) :
    literalValue (withoutSeparators raw) = literalValue raw := by
  have once : withoutSeparators (withoutSeparators raw) = withoutSeparators raw := by
    rw [withoutSeparators, withoutSeparators, List.filter_filter]
    simp
  rw [literalValue, once]
  rfl

theorem Double.negative_ofDecimal (negative : Bool) (digits : Nat) (e : Int) :
    (ofDecimal negative digits e).negative = negative := by
  fun_cases ofDecimal negative digits e <;> rfl

theorem reads_decimal {raw : List Char} (h : IsDecimal (withoutSeparators raw))
    (modern : isLegacyOctal (withoutSeparators raw) = false) {digits : Nat} {e : Int}
    (read : unsignedDecimal? (withoutSeparators raw) = some (digits, e)) : Reads raw (digits * 10 ^ e) := by
  refine ⟨Double.ofDecimal false digits e, ?_, Double.negative_ofDecimal false digits e,
    Double.roundsTo_ofDecimal false digits e⟩
  rw [← literalValue_withoutSeparators]
  exact literalValue_decimal h modern read false

/-- A digit or a mark that octal numbers do not have tells a decimal from them. -/
theorem modern_of_mem {text : List Char} {c : Char} (mem : c ∈ text) (other : ¬ IsBaseDigit 8 c) :
    isLegacyOctal text = false := by
  rw [← Bool.not_eq_true]
  intro octal
  exact other ((legacyOctal_digits octal).2 c mem)

theorem withoutSeparators_places (p : Option (DigitRow 10)) :
    withoutSeparators (optionalText DigitRow.text p) = (placeDigits p).map Digit.char := by
  cases p with
  | none => rfl
  | some row => exact withoutSeparators_row Digit.char_ne_separator row

/-- Digits around a point are one number, and the point shifts it by the places behind. -/
theorem shifted (whole places : List (Digit 10)) (e : Int) :
    (positional (whole ++ places) : ℚ) * 10 ^ (e - places.length) =
      (positional whole + fractional places) * 10 ^ e := by
  have nonzero : (10 : ℚ) ^ places.length ≠ 0 := by positivity
  rw [positional_append, zpow_sub₀ (by norm_num), zpow_natCast, fractional]
  push_cast
  field_simp

theorem reads_pointed (whole places : List (Digit 10)) (nonempty : whole ≠ [] ∨ places ≠ []) (e : Option ExponentPart)
    {raw : List Char} (form : withoutSeparators raw = whole.map Digit.char ++ '.' ::
      (places.map Digit.char ++ withoutSeparators (optionalText ExponentPart.text e))) :
    Reads raw ((positional whole + fractional places) * 10 ^ exponentValue e) := by
  obtain ⟨isExponent, he⟩ := exponent?_part e
  have filled : whole.map Digit.char ≠ [] ∨ places.map Digit.char ≠ [] := by simpa using nonempty
  have decimal : IsDecimal (withoutSeparators raw) :=
    ⟨_, _, _, plain_chars whole, plain_chars places, isExponent, filled, .inl form⟩
  have read := unsignedDecimal?_pointed (plain_chars whole) isExponent he (plain_chars places) filled
  rw [← form, ← List.map_append, ofDigitChars_chars, List.length_map] at read
  have modern : isLegacyOctal (withoutSeparators raw) = false :=
    modern_of_mem (c := '.') (by simp [form]) (by decide)
  rw [← shifted]
  exact reads_decimal decimal modern read

/-- Without a point, what follows a zero must not be octal digits alone. -/
theorem WholePart.modern (w : WholePart) (e : Option ExponentPart) :
    isLegacyOctal (w.digits.map Digit.char ++ withoutSeparators (optionalText ExponentPart.text e)) = false := by
  cases e with
  | some e =>
    have mark : ∀ capital : Bool, ¬ IsBaseDigit 8 (if capital then 'E' else 'e') := by decide
    apply modern_of_mem (List.mem_append_right _ _) (mark e.capital)
    rw [withoutSeparators, List.mem_filter]
    refine ⟨List.mem_cons_self, ?_⟩
    cases e.capital <;> rfl
  | none =>
    rw [show withoutSeparators (optionalText ExponentPart.text none) = [] from rfl, List.append_nil]
    cases w with
    | ordinary whole =>
      cases whole with
      | zero => decide
      | leading row nonzero =>
        have first : ∀ (value : Fin 10) (capital : Bool), value ≠ 0 → (Digit.mk value capital).char ≠ '0' := by decide
        exact modern_of_leading (first _ _ nonzero) _
    | zeroLed digits nonoctal =>
      have late : ∀ (value : Fin 10) (capital : Bool), 8 ≤ value.val →
          ¬ IsBaseDigit 8 (Digit.mk value capital).char := by decide
      obtain ⟨d, mem, high⟩ := nonoctal
      exact modern_of_mem (List.mem_cons_of_mem _ (List.mem_map_of_mem mem)) (late _ _ high)

theorem reads_whole (w : WholePart) (e : Option ExponentPart) :
    Reads (w.text ++ optionalText ExponentPart.text e) (positional w.digits * 10 ^ exponentValue e) := by
  obtain ⟨isExponent, he⟩ := exponent?_part e
  have form := JavaScript.withoutSeparators_append w.text (optionalText ExponentPart.text e)
  rw [withoutSeparators_whole] at form
  have filled : w.digits.map Digit.char ≠ [] := by simpa using w.digits_ne_nil
  have decimal : IsDecimal (withoutSeparators (w.text ++ optionalText ExponentPart.text e)) :=
    ⟨_, [], _, plain_chars w.digits, by simp, isExponent, .inl filled, .inr ⟨rfl, form⟩⟩
  have read := unsignedDecimal?_whole (plain_chars w.digits) isExponent he filled
  have modern := w.modern e
  rw [← form] at read modern
  rw [ofDigitChars_chars] at read
  exact reads_decimal decimal modern read

theorem Double.roundsTo_ofInt? {v : Nat} {d : Double} (h : ofInt? (Int.ofNat v) = some d) :
    d.negative = false ∧ RoundsTo v d.magnitude := by
  have near := roundsTo_nearest v Nat.one_pos
  rw [Nat.cast_one, div_one] at near
  rw [ofInt?] at h
  dsimp only [Int.ofNat_eq_natCast, Int.natAbs_natCast] at h
  split at h
  · obtain rfl := Option.some.inj h
    refine ⟨show decide ((v : Int) < 0) = false from decide_eq_false (by omega), ?_⟩
    rwa [magnitude_ofMagnitude _ near.bounded]
  · cases h

/-- A whole number in a base has a double unless it is too large. -/
theorem wholeValue_cases {base v : Nat} {s : List Char} (whole : whole? base s = some (Int.ofNat v)) :
    Double.overflow ≤ v ∧ wholeValue base s = .error .tooLarge ∨
    ¬ Double.overflow ≤ v ∧ ∃ d, Double.ofInt? (Int.ofNat v) = some d ∧ wholeValue base s = .ok d := by
  have limit : Double.ofInt? (Int.ofNat v) = none ↔ Double.overflow ≤ v := Double.ofInt?_eq_none_iff v
  fun_cases wholeValue base s with
  | case1 malformed =>
    rw [whole] at malformed
    cases malformed
  | case2 i read beyond =>
    obtain rfl : i = Int.ofNat v := Option.some.inj (read.symm.trans whole)
    exact .inl ⟨limit.mp beyond, rfl⟩
  | case3 i read d double =>
    obtain rfl : i = Int.ofNat v := Option.some.inj (read.symm.trans whole)
    refine .inr ⟨fun large => ?_, d, double, rfl⟩
    rw [limit.mpr large] at double
    cases double

/-- What a whole number in a base can be read as. -/
def ReadsBased (raw : List Char) (v : Nat) : Prop :=
  Double.overflow ≤ v ∧ literalValue raw = .error .tooLarge ∨ ¬ Double.overflow ≤ v ∧ Reads raw v

theorem readsBased (mark : BaseMark) {digits : List (Digit mark.base)} (nonempty : digits ≠ []) {raw : List Char}
    (value : literalValue raw = (wholeValue mark.base (digits.map Digit.char)).map some) :
    ReadsBased raw (positional digits) := by
  have based : ∀ c ∈ digits.map Digit.char, IsBaseDigit mark.base c := by
    intro c hc
    obtain ⟨d, -, rfl⟩ := List.mem_map.mp hc
    exact (d.char_based mark).1
  obtain ⟨v, hv, whole⟩ := whole?_digits (by simpa using nonempty) based
  rw [digitsValue?_positional fun d => (d.char_based mark).2] at hv
  obtain rfl := Option.some.inj hv
  rcases wholeValue_cases whole with ⟨large, fault⟩ | ⟨small, d, double, ok⟩
  · rw [fault] at value
    exact .inl ⟨large, value⟩
  · rw [ok] at value
    obtain ⟨negative, near⟩ := Double.roundsTo_ofInt? double
    exact .inr ⟨small, d, value, negative, near⟩

section Based

variable (mark : BaseMark)

theorem Digit.char_apart (d : Digit mark.base) : d.char ≠ '_' ∧ d.char ≠ 'n' := by
  have apart : ∀ c ∈ baseDigits, c ≠ '_' ∧ c ≠ 'n' := forall_of_all (by decide)
  exact apart _ (d.char_based mark).1.1

/-- Digits of a base have no suffix. -/
theorem getLast?_chars (digits : List (Digit mark.base)) (front : List Char) (nonempty : digits ≠ []) :
    ((front ++ digits.map Digit.char).getLast? == some 'n') = false := by
  rw [List.getLast?_append_of_ne_nil _ (by simpa using nonempty), beq_eq_false_iff_ne]
  intro last
  obtain ⟨d, -, char⟩ := List.mem_map.mp (List.mem_of_getLast? last)
  exact (d.char_apart mark).2 char

end Based

theorem MarkedNumber.bare (n : MarkedNumber) : withoutSeparators n.text =
    ['0', n.mark.letter n.capital] ++ n.row.digits.map Digit.char := by
  have kept : ∀ (mark : BaseMark) (capital : Bool), mark.letter capital ≠ '_' := by
    rintro (_ | _ | _) (_ | _) <;> decide
  rw [text, JavaScript.withoutSeparators_cons (by decide), JavaScript.withoutSeparators_cons (kept _ _),
    withoutSeparators_row fun d => (d.char_apart n.mark).1]
  rfl

theorem readsBased_marked (n : MarkedNumber) : ReadsBased n.text n.value := by
  have marked : ∀ (mark : BaseMark) (capital : Bool) (digits : List Char),
      markedBase? (['0', mark.letter capital] ++ digits) = some mark.base := by
    rintro (_ | _ | _) (_ | _) digits <;> rfl
  have nonempty : n.row.digits ≠ [] := List.cons_ne_nil _ _
  apply readsBased n.mark nonempty
  simp only [literalValue, n.bare, getLast?_chars n.mark _ _ nonempty, marked]
  rfl

theorem octal_range (digits : List (Digit 8)) : ∀ c ∈ digits.map Digit.char, 48 ≤ c.toNat ∧ c.toNat ≤ 55 := by
  have range : ∀ (value : Fin 8) (capital : Bool), let c := (Digit.mk value capital).char
      48 ≤ c.toNat ∧ c.toNat ≤ 55 := by decide
  intro c hc
  obtain ⟨d, -, rfl⟩ := List.mem_map.mp hc
  exact range d.value d.capital

/-- The zero in front of an octal number is one of its digits. -/
theorem readsBased_legacyOctal (first : Digit 8) (rest : List (Digit 8)) :
    ReadsBased ('0' :: (first :: rest).map Digit.char) (positional (first :: rest)) := by
  let digits : List (Digit 8) := ⟨0, false⟩ :: first :: rest
  have octal : isLegacyOctal (digits.map Digit.char) := by
    change (!((first :: rest).map Digit.char).isEmpty &&
      ((first :: rest).map Digit.char).all fun c => 48 ≤ c.toNat && c.toNat ≤ 55) = true
    rw [Bool.and_eq_true, List.all_eq_true]
    exact ⟨rfl, fun c hc => by simpa using octal_range (first :: rest) c hc⟩
  have unmarked : markedBase? (digits.map Digit.char) = none := by
    apply markedBase?_eq_none
    intro c hc
    obtain ⟨low, high⟩ := octal_range digits c hc
    rw [isPlainDigit, Bool.and_eq_true, decide_eq_true_eq, decide_eq_true_eq]
    omega
  have last : ((digits.map Digit.char).getLast? == some 'n') = false :=
    getLast?_chars .octal digits [] (List.cons_ne_nil _ _)
  have bare : withoutSeparators (digits.map Digit.char) = digits.map Digit.char :=
    withoutSeparators_chars (fun d => (Digit.char_apart .octal d).1) digits
  have value : positional digits = positional (first :: rest) := by
    have split := positional_append [⟨0, false⟩] (first :: rest)
    rwa [show positional [(⟨0, false⟩ : Digit 8)] = 0 from rfl, Nat.zero_mul, Nat.zero_add] at split
  rw [← value]
  refine readsBased .octal (List.cons_ne_nil _ _) ?_
  change literalValue (digits.map Digit.char) = (wholeValue 8 (digits.map Digit.char)).map some
  rw [literalValue, bare, if_neg (ne_true_of_eq_false last), unmarked]
  exact if_pos octal

theorem literalValue_suffix (raw : List Char) : literalValue (raw ++ ['n']) = .ok none := by
  have last : ((withoutSeparators (raw ++ ['n'])).getLast? == some 'n') = true := by
    rw [JavaScript.withoutSeparators_append, show withoutSeparators ['n'] = ['n'] from rfl, List.getLast?_concat]
    rfl
  simp only [literalValue, last]
  rfl

theorem Double.eq_of_magnitude_eq {d e : Double} (negative : d.negative = e.negative)
    (magnitude : d.magnitude = e.magnitude) : d = e := by
  cases d
  cases e
  cases negative
  cases magnitude
  rfl

namespace NumericLiteral

theorem reads_of_decimal {l : NumericLiteral} (number : l.isBig = false) (decimal : l.isBased = false) :
    Reads l.text l.value := by
  cases l with
  | whole w e => exact reads_whole w e
  | pointed w p e =>
    apply reads_pointed w.digits (placeDigits p) (.inl w.digits_ne_nil) e
    rw [text, JavaScript.withoutSeparators_append, JavaScript.withoutSeparators_cons (by decide),
      JavaScript.withoutSeparators_append, withoutSeparators_whole, withoutSeparators_places]
  | places p e =>
    have noDigits : ((positional ([] : List (Digit 10)) : Nat) : ℚ) = 0 := Nat.cast_zero
    rw [value, ← zero_add (fractional p.digits), ← noDigits]
    apply reads_pointed [] p.digits (.inr (List.cons_ne_nil _ _)) e
    rw [text, JavaScript.withoutSeparators_cons (by decide), JavaScript.withoutSeparators_append,
      withoutSeparators_row Digit.char_ne_separator]
    rfl
  | marked n => cases decimal
  | legacyOctal first rest => cases decimal
  | bigDecimal w => cases number
  | bigMarked n => cases number

theorem readsBased_of_based {l : NumericLiteral} (based : l.isBased) :
    ∃ v : Nat, l.value = v ∧ ReadsBased l.text v := by
  cases l with
  | marked n => exact ⟨_, rfl, readsBased_marked n⟩
  | legacyOctal first rest => exact ⟨_, rfl, readsBased_legacyOctal first rest⟩
  | whole | pointed | places | bigDecimal | bigMarked => cases based

theorem literalValue_of_big {l : NumericLiteral} (big : l.isBig) : literalValue l.text = .ok none := by
  cases l with
  | bigDecimal w => exact literalValue_suffix w.text
  | bigMarked n => exact literalValue_suffix n.text
  | whole | pointed | places | marked | legacyOctal => cases big

theorem isBig_of_based {l : NumericLiteral} (based : l.isBased) : l.isBig = false := by
  cases l with
  | marked | legacyOctal => rfl
  | whole | pointed | places | bigDecimal | bigMarked => cases based

/-- A literal is a big integer, a number in a base that is too large, or one with a double. -/
theorem outcome (l : NumericLiteral) :
    l.isBig = true ∧ literalValue l.text = .ok none ∨
    l.isBig = false ∧ l.TooLarge ∧ literalValue l.text = .error .tooLarge ∨
    l.isBig = false ∧ ¬ l.TooLarge ∧ Reads l.text l.value := by
  cases big : l.isBig with
  | true => exact .inl ⟨rfl, literalValue_of_big big⟩
  | false =>
    apply Or.inr
    cases based : l.isBased with
    | false => exact .inr ⟨rfl, fun large => absurd large.1 (ne_true_of_eq_false based), reads_of_decimal big based⟩
    | true =>
      obtain ⟨v, value, ⟨large, read⟩ | ⟨small, read⟩⟩ := readsBased_of_based based
      · have limit : (Double.overflow : ℚ) ≤ l.value := by
          rw [value]
          exact Nat.cast_le.mpr large
        exact .inl ⟨rfl, ⟨based, limit⟩, read⟩
      · refine .inr ⟨rfl, fun large => small ?_, value ▸ read⟩
        have limit := large.2
        rw [value] at limit
        exact Nat.cast_le.mp limit

/-- Every literal is read: a big integer as having no double, a number in base two, eight or sixteen as too large from
the middle above the largest double on, and any other one as the double nearest to its exact value. -/
theorem literalValue_text (l : NumericLiteral) :
    (literalValue l.text = .ok none ↔ l.isBig) ∧
    (literalValue l.text = .error .tooLarge ↔ l.TooLarge) ∧
    literalValue l.text ≠ .error .malformed ∧
    ∀ d, literalValue l.text = .ok (some d) ↔
      l.isBig = false ∧ ¬ l.TooLarge ∧ d.negative = false ∧ Double.RoundsTo l.value d.magnitude := by
  rcases l.outcome with ⟨big, read⟩ | ⟨number, large, read⟩ | ⟨number, small, d, read, positive, near⟩
  · have decimal : ¬ l.TooLarge := by
      intro large
      rw [isBig_of_based large.1] at big
      cases big
    rw [read, big]
    simp [decimal]
  · rw [read, number]
    simp [large]
  · rw [read, number]
    refine ⟨by simp, by simpa using small, by simp, fun e => ⟨?_, ?_⟩⟩
    · intro same
      obtain rfl := Option.some.inj (Except.ok.inj same)
      exact ⟨rfl, small, positive, near⟩
    · rintro ⟨-, -, negative, other⟩
      rw [Double.eq_of_magnitude_eq (positive.trans negative.symm) (near.unique other)]

/-- A decimal with all that one can have: a separator, places and an exponent. -/
def separated : NumericLiteral :=
  .pointed (.ordinary (.leading ⟨⟨1, false⟩, [(true, ⟨0, false⟩)]⟩ (by decide))) (some ⟨⟨5, false⟩, []⟩)
    (some ⟨true, some true, ⟨3, false⟩, []⟩)

theorem literalValue_separated : separated.text = "1_0.5E-3".toList ∧ separated.value = 21 / 2000 ∧
    ∃ d, literalValue separated.text = .ok (some d) ∧ Double.RoundsTo (21 / 2000) d.magnitude := by
  have value : separated.value = 21 / 2000 := by
    norm_num [separated, NumericLiteral.value, positional, fractional, placeDigits, WholePart.digits,
      WholeDecimal.digits, DigitRow.digits, exponentValue, ExponentPart.value, Nat.ofDigits]
  obtain ⟨big, large, formed, double⟩ := literalValue_text separated
  refine ⟨by decide, value, ?_⟩
  cases read : literalValue separated.text with
  | error fault =>
    cases fault with
    | malformed => exact absurd read formed
    | tooLarge => cases (large.mp read).1
  | ok result =>
    cases result with
    | none => cases big.mp read
    | some d => exact ⟨d, rfl, value ▸ ((double d).mp read).2.2.2⟩

end NumericLiteral

end ScriptAudit.Number
