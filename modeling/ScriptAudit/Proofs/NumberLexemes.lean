import Mathlib.Tactic.IntervalCases
import ScriptAudit.JavaScript.Lexeme
import ScriptAudit.Proofs.DoubleRange
import ScriptAudit.Proofs.Numerals

namespace ScriptAudit

open Number Number.Numeral

namespace Number

/-- The exact value of a literal in base two, eight or sixteen; none for any other one. -/
def basedValue? (raw : List Char) : Option Nat :=
  let text := withoutSeparators raw
  if text.getLast? == some 'n' then none
  else match markedBase? text with
    | some base => digitsValue? base (text.drop 2)
    | none => if isLegacyOctal text then digitsValue? 8 text else none

/-- A literal that is nearer to infinity than to any finite double. -/
def IsTooLarge (raw : List Char) : Prop := ∃ v, basedValue? raw = some v ∧ Double.overflow ≤ v

instance (raw : List Char) : Decidable (IsTooLarge raw) :=
  decidable_of_iff ((basedValue? raw).any (Double.overflow ≤ ·) = true) (by simp [IsTooLarge, Option.any_eq_true])

/-- The shapes of a number without its separators. -/
inductive NumberForm (text : List Char) : Prop where
  | big (last : text.getLast? = some 'n')
  | based (base : Nat) (letter : Char) (digits : List Char) (form : text = '0' :: letter :: digits)
      (marked : markedBase? text = some base) (nonempty : digits ≠ []) (all : ∀ c ∈ digits, IsBaseDigit base c)
  | decimal (form : IsDecimal text)

theorem wholeValue_digits {base : Nat} {s : List Char} (nonempty : s ≠ []) (digits : ∀ c ∈ s, IsBaseDigit base c)
    (fault : NumeralFault) : (wholeValue base s).map some = .error fault ↔
      fault = .tooLarge ∧ ∃ v, digitsValue? base s = some v ∧ Double.overflow ≤ v := by
  obtain ⟨v, hv, whole⟩ := whole?_digits nonempty digits
  have limit : Double.ofInt? (Int.ofNat v) = none ↔ Double.overflow ≤ v := Double.ofInt?_eq_none_iff v
  fun_cases wholeValue base s with
  | case1 unread =>
    rw [whole] at unread
    cases unread
  | case2 i read beyond =>
    obtain rfl : i = Int.ofNat v := Option.some.inj (read.symm.trans whole)
    have large : Double.overflow ≤ v := limit.mp beyond
    simp [Except.map, hv, large, eq_comm]
  | case3 i read d double =>
    obtain rfl : i = Int.ofNat v := Option.some.inj (read.symm.trans whole)
    have small : ¬ Double.overflow ≤ v := by
      intro large
      rw [limit.mpr large] at double
      cases double
    simp [Except.map, hv, small]

theorem markedBase?_eq_none {s : List Char} (chars : ∀ c ∈ s, isPlainDigit c ∨ c ∈ decimalMarks) :
    markedBase? s = none := by
  have unmarked : ∀ c ∈ decimalDigits ++ decimalMarks, markedBase? ['0', c] = none :=
    forall_of_all (by decide)
  unfold markedBase?
  split
  next c rest =>
    rcases chars c (by simp) with digit | mark
    · exact unmarked c (List.mem_append_left _ (mem_decimalDigits digit))
    · exact unmarked c (List.mem_append_right _ mark)
  next => rfl

theorem octalDigit_of_range {c : Char} (low : 48 ≤ c.toNat) (high : c.toNat ≤ 55) : IsBaseDigit 8 c := by
  rw [← Char.ofNat_toNat c]
  generalize c.toNat = n at low high
  interval_cases n <;> decide

theorem legacyOctal_digits {s : List Char} (h : isLegacyOctal s) : s ≠ [] ∧ ∀ c ∈ s, IsBaseDigit 8 c := by
  unfold isLegacyOctal at h
  split at h
  next rest =>
    have all : ∀ c ∈ rest, 48 ≤ c.toNat ∧ c.toNat ≤ 55 := by
      simp only [Bool.and_eq_true, List.all_eq_true, decide_eq_true_eq] at h
      exact h.2
    refine ⟨List.cons_ne_nil _ _, fun c hc => ?_⟩
    rcases List.mem_cons.mp hc with rfl | mem
    · decide
    · exact octalDigit_of_range (all c mem).1 (all c mem).2
  next => cases h

/-- A number has no value exactly if it is too large. -/
theorem NumberForm.literalValue_error {raw : List Char} (h : NumberForm (withoutSeparators raw))
    (fault : NumeralFault) : literalValue raw = .error fault ↔ fault = .tooLarge ∧ IsTooLarge raw := by
  rw [IsTooLarge, basedValue?, literalValue]
  by_cases last : (withoutSeparators raw).getLast? = some 'n'
  · simp [last]
  have suffix_ : ((withoutSeparators raw).getLast? == some 'n') = false := by simpa using last
  simp only [suffix_]
  cases h with
  | big h => exact absurd h last
  | based base letter digits form marked nonempty all =>
    rw [marked, form]
    exact wholeValue_digits nonempty all fault
  | decimal form =>
    rw [markedBase?_eq_none form.chars]
    by_cases octal : isLegacyOctal (withoutSeparators raw)
    · obtain ⟨nonempty, all⟩ := legacyOctal_digits octal
      simp only [octal]
      exact wholeValue_digits nonempty all fault
    · obtain ⟨d, hd⟩ := decimal?_isSome form
      simp [octal, hd]

end Number

namespace JavaScript

theorem isDigit_iff (c : Char) : isDigit c ↔ isPlainDigit c := by
  simp [isDigit, isPlainDigit, Char.le_def, UInt32.le_iff_toNat_le]

theorem hexDigit_of {c : Char} (h : isHexDigit c) : IsBaseDigit 16 c := by
  have digits : ∀ c ∈ baseDigits, IsBaseDigit 16 c := forall_of_all (by decide)
  have range : (isPlainDigit c ∨ 97 ≤ c.toNat ∧ c.toNat ≤ 102) ∨ 65 ≤ c.toNat ∧ c.toNat ≤ 70 := by
    simpa [isHexDigit, isDigit_iff, Char.le_def, UInt32.le_iff_toNat_le] using h
  apply digits
  rcases range with (digit | ⟨low, high⟩) | ⟨low, high⟩
  · exact List.mem_append_left _ (mem_decimalDigits digit)
  · rw [← Char.ofNat_toNat c]
    generalize c.toNat = n at low high
    interval_cases n <;> decide
  · rw [← Char.ofNat_toNat c]
    generalize c.toNat = n at low high
    interval_cases n <;> decide

theorem octalDigit_of {c : Char} (h : isOctalDigit c) : IsBaseDigit 8 c := by
  have range : 48 ≤ c.toNat ∧ c.toNat ≤ 55 := by
    simpa [isOctalDigit, Char.le_def, UInt32.le_iff_toNat_le] using h
  exact octalDigit_of_range range.1 range.2

theorem binaryDigit_of {c : Char} (h : isBinaryDigit c) : IsBaseDigit 2 c := by
  have either : c = '0' ∨ c = '1' := by simpa [isBinaryDigit] using h
  rcases either with rfl | rfl <;> decide

theorem digitTail_chars (p : Char → Bool) (s : List Char) :
    ∀ c ∈ s.take (digitTailLength p s), c = '_' ∨ p c := by
  fun_induction digitTailLength p s with
  | case1 c rest digit ih =>
    intro d hd
    rw [Nat.add_comm 2, List.take_succ_cons, List.take_succ_cons] at hd
    rcases List.mem_cons.mp hd with rfl | hd
    · exact .inl rfl
    rcases List.mem_cons.mp hd with rfl | hd
    · exact .inr digit
    · exact ih d hd
  | case2 => simp
  | case3 c rest _ digit ih =>
    intro d hd
    rw [Nat.add_comm 1, List.take_succ_cons] at hd
    rcases List.mem_cons.mp hd with rfl | hd
    · exact .inr digit
    · exact ih d hd
  | case4 => simp
  | case5 => simp

/-- Digits of a class, at least one. -/
def IsRun (p : Char → Bool) (s : List Char) : Prop := s ≠ [] ∧ ∀ c ∈ s, p c

theorem withoutSeparators_append (a b : List Char) :
    withoutSeparators (a ++ b) = withoutSeparators a ++ withoutSeparators b := List.filter_append ..

theorem withoutSeparators_cons {c : Char} (h : c ≠ '_') (s : List Char) :
    withoutSeparators (c :: s) = c :: withoutSeparators s := by
  simp [withoutSeparators, h]

theorem isRun_of_chars {p : Char → Bool} (plain : p '_' = false) {c : Char} {s : List Char} (first : p c)
    (chars : ∀ d ∈ s, d = '_' ∨ p d) : IsRun p (withoutSeparators (c :: s)) := by
  have kept : c ≠ '_' := by
    rintro rfl
    simp [plain] at first
  rw [withoutSeparators_cons kept]
  refine ⟨List.cons_ne_nil _ _, ?_⟩
  intro d hd
  rcases List.mem_cons.mp hd with rfl | hd
  · exact first
  have mem : d ∈ s ∧ d ≠ '_' := by simpa [withoutSeparators] using hd
  rcases chars d mem.1 with rfl | digit
  · exact absurd rfl mem.2
  · exact digit

theorem isRun_digits {p : Char → Bool} (plain : p '_' = false) {s : List Char} {n : Nat}
    (h : digitsLength? p s = some n) : IsRun p (withoutSeparators (s.take n)) := by
  cases s with
  | nil => cases h
  | cons c rest =>
    rw [digitsLength?] at h
    split at h
    next first =>
      cases h
      rw [Nat.add_comm, List.take_succ_cons]
      exact isRun_of_chars plain first (digitTail_chars p rest)
    next => cases h

theorem isRun_wholePart {s : List Char} {n : Nat} (h : wholePartLength? s = some n) :
    IsRun isDigit (withoutSeparators (s.take n)) := by
  have zero : IsRun isDigit ['0'] := ⟨List.cons_ne_nil _ _, forall_of_all (by decide)⟩
  unfold wholePartLength? at h
  split at h
  next c rest =>
    split at h
    next second =>
      cases h
      have digit : isDigit c := (Bool.and_eq_true_iff.mp second).1
      rw [Nat.add_comm, List.take_succ_cons, List.take_succ_cons]
      refine isRun_of_chars rfl rfl ?_
      intro d hd
      rcases List.mem_cons.mp hd with rfl | hd
      · exact .inr digit
      · exact digitTail_chars isDigit rest d hd
    next =>
      cases h
      exact zero
  next c rest _ =>
    split at h
    next first =>
      cases h
      obtain rfl : c = '0' := by simpa using first
      exact zero
    next =>
      split at h
      next digit =>
        cases h
        rw [Nat.add_comm, List.take_succ_cons]
        exact isRun_of_chars rfl digit (digitTail_chars isDigit rest)
      next => cases h
  next => cases h

theorem IsRun.plain {s : List Char} (h : IsRun isDigit s) : ∀ c ∈ s, isPlainDigit c := fun c hc =>
  (isDigit_iff c).mp (h.2 c hc)

theorem isExponent_taken (s : List Char) : IsExponent (withoutSeparators (s.take (exponentLength s))) := by
  have noExponent : IsExponent (withoutSeparators (s.take 0)) := .inl rfl
  unfold exponentLength
  split
  next c rest =>
    split
    next mark =>
      have letter : c = 'e' ∨ c = 'E' := by simpa using mark
      have kept : c ≠ '_' := by rcases letter with rfl | rfl <;> decide
      split
      next sign digits =>
        split
        next hsign =>
          have signed : sign = '+' ∨ sign = '-' := by simpa using hsign
          have shown : sign ≠ '_' := by rcases signed with rfl | rfl <;> decide
          split
          next n hn =>
            have run := isRun_digits rfl hn
            rw [List.take_succ_cons, List.take_succ_cons, withoutSeparators_cons kept, withoutSeparators_cons shown]
            refine .inr ⟨c, [sign], _, letter, ?_, run.1, run.plain, rfl⟩
            rcases signed with rfl | rfl
            · exact .inr (.inl rfl)
            · exact .inr (.inr rfl)
          next => exact noExponent
        next =>
          split
          next n hn =>
            have run := isRun_digits rfl hn
            rw [List.take_succ_cons, withoutSeparators_cons kept]
            exact .inr ⟨c, [], _, letter, .inl rfl, run.1, run.plain, rfl⟩
          next => exact noExponent
      next => exact noExponent
    next => exact noExponent
  next => exact noExponent

/-- What is left of a literal with the suffix of a big integer ends in it. -/
theorem getLast?_suffix {s : List Char} {n : Nat} (h : s[n]? = some 'n') :
    (withoutSeparators (s.take (n + 1))).getLast? = some 'n' := by
  rw [List.take_add_one, h, withoutSeparators_append]
  exact List.getLast?_concat

theorem places_plain (s : List Char) :
    ∀ c ∈ withoutSeparators (s.take ((digitsLength? isDigit s).getD 0)), isPlainDigit c := by
  cases h : digitsLength? isDigit s with
  | none => simp [withoutSeparators]
  | some n => exact (isRun_digits rfl h).plain

theorem numberForm_decimal {s : List Char} {n : Nat} (h : n ∈ decimalLengths s) :
    NumberForm (withoutSeparators (s.take n)) := by
  unfold decimalLengths at h
  rw [List.mem_append, List.mem_append] at h
  rcases h with (pointed | fraction) | whole
  · split at pointed
    next w hw =>
      have before := isRun_wholePart hw
      split at pointed
      next rest behind =>
        obtain rfl := List.mem_singleton.mp pointed
        have behindPoint (m : Nat) : s.take (w + 1 + m) = s.take w ++ '.' :: rest.take m := by
          rw [Nat.add_assoc, List.take_add, behind, Nat.add_comm, List.take_succ_cons]
        rw [Nat.add_assoc, behindPoint, List.take_add, withoutSeparators_append, withoutSeparators_cons (by decide),
          withoutSeparators_append]
        exact .decimal ⟨_, _, _, before.plain, places_plain rest, isExponent_taken _, .inl before.1, .inl rfl⟩
      next rest _ =>
        split at pointed
        next => cases pointed
        next e _ =>
          obtain rfl := List.mem_singleton.mp pointed
          rw [List.take_add, withoutSeparators_append]
          exact .decimal ⟨_, [], _, before.plain, by simp, isExponent_taken _, .inl before.1, .inr ⟨rfl, rfl⟩⟩
    next => cases pointed
  · split at fraction
    next rest =>
      split at fraction
      next w hw =>
        obtain rfl := List.mem_singleton.mp fraction
        have places := isRun_digits rfl hw
        rw [Nat.add_assoc, Nat.add_comm 1, List.take_succ_cons, List.take_add, withoutSeparators_cons (by decide),
          withoutSeparators_append]
        exact .decimal ⟨[], _, _, by simp, places.plain, isExponent_taken _, .inr places.1, .inl rfl⟩
      next => cases fraction
    next => cases fraction
  · split at whole
    next w hw =>
      split at whole
      next suffix_ =>
        obtain rfl := List.mem_singleton.mp whole
        exact .big (getLast?_suffix (by simpa using suffix_))
      next =>
        obtain rfl := List.mem_singleton.mp whole
        have digits := isRun_digits rfl hw
        exact .decimal ⟨_, [], [], digits.plain, by simp, .inl rfl, .inl digits.1, .inr ⟨rfl, by simp⟩⟩
    next => cases whole

theorem numberForm_based (base : Nat) {letters : List Char} {p : Char → Bool} {s : List Char} {n : Nat}
    (marks : ∀ c ∈ letters, markedBase? ['0', c] = some base) (plain : p '_' = false)
    (digits : ∀ c, p c → IsBaseDigit base c) (h : n ∈ markedLengths letters p s) :
    NumberForm (withoutSeparators (s.take n)) := by
  unfold markedLengths at h
  split at h
  next c rest =>
    split at h
    next letter =>
      have mark := marks c (List.contains_iff_mem.mp letter)
      have shown : c ≠ '_' := by
        rintro rfl
        cases mark
      split at h
      next m hm =>
        split at h
        next suffix_ =>
          obtain rfl := List.mem_singleton.mp h
          have last : ('0' :: c :: rest)[m + 2]? = some 'n' := by simpa using suffix_
          exact .big (getLast?_suffix last)
        next =>
          obtain rfl := List.mem_singleton.mp h
          have run := isRun_digits plain hm
          rw [List.take_succ_cons, List.take_succ_cons, withoutSeparators_cons (by decide),
            withoutSeparators_cons shown]
          exact .based base c _ rfl mark run.1 fun d hd => digits d (run.2 d hd)
      next => cases h
    next => cases h
  next => cases h

/-- Every number of a script is of one of the shapes. -/
theorem numberForm_of_numberLength? {s : List Char} {n : Nat} (h : numberLength? s = some n) :
    NumberForm (withoutSeparators (s.take n)) := by
  have mem := List.max?_mem h
  rw [List.mem_append, List.mem_append, List.mem_append] at mem
  rcases mem with ((hex | octal) | binary) | decimal
  · exact numberForm_based 16 (forall_of_all (by decide)) rfl (fun c => hexDigit_of) hex
  · exact numberForm_based 8 (forall_of_all (by decide)) rfl (fun c => octalDigit_of) octal
  · exact numberForm_based 2 (forall_of_all (by decide)) rfl (fun c => binaryDigit_of) binary
  · exact numberForm_decimal decimal

end JavaScript

end ScriptAudit
