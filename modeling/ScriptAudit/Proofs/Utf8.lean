import ScriptAudit.JavaScript.Cursor
import ScriptAudit.Node.OfParseTree
import ScriptAudit.Text.Utf8

namespace ScriptAudit

namespace Text.Utf8

variable {p : Pending} {rest : List UInt8}

theorem toNat_byte {n : Nat} (h : n < 256) : (UInt8.ofNat n).toNat = n := by
  rw [UInt8.toNat_ofNat', Nat.mod_eq_of_lt h]

/-- A byte that continues a character which needs more bytes. -/
theorem decodeFrom_more {n value low high d : Nat} (digit : d < 64)
    (range : low ≤ d + 0x80 ∧ d + 0x80 ≤ high) :
    decodeFrom (some ⟨n + 2, value, low, high⟩) (UInt8.ofNat (d + 0x80) :: rest) =
      decodeFrom (some ⟨n + 1, value * 64 + d, 0x80, 0xBF⟩) rest := by
  have last : (d + 0x80) % 64 = d := by omega
  rw [decodeFrom, toNat_byte (by omega), step, continue?, if_pos range]
  dsimp only
  rw [if_neg (by omega), last]
  rfl

/-- The last byte of a character. -/
theorem decodeFrom_last {d value : Nat} (digit : d < 64) :
    decodeFrom (some ⟨1, value, 0x80, 0xBF⟩) (UInt8.ofNat (d + 0x80) :: rest) =
      Char.ofNat (value * 64 + d) :: decodeFrom none rest := by
  have low : (d + 0x80) % 64 = d := by omega
  rw [decodeFrom, toNat_byte (by omega), step, continue?, if_pos (by dsimp only; omega)]
  dsimp only
  rw [if_pos (Nat.le_refl 1), low]
  rfl

theorem decodeFrom_lead {b : Nat} (byte : b < 256) (h : lead? b = some p) :
    decodeFrom none (UInt8.ofNat b :: rest) = decodeFrom (some p) rest := by
  have high : ¬b < 0x80 := by
    intro low
    rw [lead?, if_pos (by omega)] at h
    cases h
  rw [decodeFrom, toNat_byte byte, step, start, if_neg high, h]
  rfl

theorem lead_two {b : Nat} (low : 0xC2 ≤ b) (high : b < 0xE0) : lead? b = some ⟨1, b - 0xC0, 0x80, 0xBF⟩ := by
  rw [lead?, if_neg (by omega), if_pos high]

/-- The lead byte of three leaves out overlong forms and surrogates. -/
theorem lead_three {v : Nat} (low : 0x800 ≤ v) (high : v < 0x10000) (valid : v < 0xD800 ∨ 0xDFFF < v) :
    ∃ first last, lead? (v / 4096 + 0xE0) = some ⟨2, v / 4096, first, last⟩ ∧
      first ≤ v / 64 % 64 + 0x80 ∧ v / 64 % 64 + 0x80 ≤ last := by
  unfold lead?
  rw [if_neg (by omega), if_neg (by omega)]
  split
  next h => exact ⟨_, _, by rw [show v / 4096 = 0 by omega], by omega, by omega⟩
  split
  next h => exact ⟨_, _, by rw [show v / 4096 = 13 by omega], by omega, by omega⟩
  rw [if_pos (by omega)]
  exact ⟨_, _, by rw [Nat.add_sub_cancel], by omega, by omega⟩

/-- The lead byte of four leaves out overlong forms and values past the last plane. -/
theorem lead_four {v : Nat} (low : 0x10000 ≤ v) (high : v < 0x110000) :
    ∃ first last, lead? (v / 262144 + 0xF0) = some ⟨3, v / 262144, first, last⟩ ∧
      first ≤ v / 4096 % 64 + 0x80 ∧ v / 4096 % 64 + 0x80 ≤ last := by
  unfold lead?
  rw [if_neg (by omega), if_neg (by omega), if_neg (by omega), if_neg (by omega), if_neg (by omega)]
  split
  next h => exact ⟨_, _, by rw [show v / 262144 = 0 by omega], by omega, by omega⟩
  split
  next h => exact ⟨_, _, by rw [Nat.add_sub_cancel], by omega, by omega⟩
  rw [if_pos (by omega)]
  exact ⟨_, _, by rw [show v / 262144 = 4 by omega], by omega, by omega⟩

theorem decodeFrom_one {v : Nat} (high : v ≤ 0x7F) :
    decodeFrom none (UInt8.ofNat v :: rest) = Char.ofNat v :: decodeFrom none rest := by
  rw [decodeFrom, toNat_byte (by omega), step, start, if_pos (by omega)]
  rfl

theorem decodeFrom_two {v : Nat} (low : 0x7F < v) (high : v ≤ 0x7FF) :
    decodeFrom none (UInt8.ofNat (v / 64 % 32 + 0xC0) :: UInt8.ofNat (v % 64 + 0x80) :: rest) =
      Char.ofNat v :: decodeFrom none rest := by
  have lead := lead_two (b := v / 64 % 32 + 0xC0) (by omega) (by omega)
  have value : (v / 64 % 32 + 0xC0 - 0xC0) * 64 + v % 64 = v := by omega
  rw [decodeFrom_lead (by omega) lead, decodeFrom_last (by omega), value]

theorem decodeFrom_three {v : Nat} (low : 0x7FF < v) (high : v ≤ 0xFFFF) (valid : v < 0xD800 ∨ 0xDFFF < v) :
    decodeFrom none (UInt8.ofNat (v / 4096 % 16 + 0xE0) :: UInt8.ofNat (v / 64 % 64 + 0x80) ::
      UInt8.ofNat (v % 64 + 0x80) :: rest) = Char.ofNat v :: decodeFrom none rest := by
  obtain ⟨first, last, lead, range⟩ := lead_three (v := v) (by omega) (by omega) valid
  have top : v / 4096 % 16 = v / 4096 := by omega
  have value : (v / 4096 * 64 + v / 64 % 64) * 64 + v % 64 = v := by omega
  rw [top, decodeFrom_lead (by omega) lead, decodeFrom_more (by omega) range,
    decodeFrom_last (by omega), value]

theorem decodeFrom_four {v : Nat} (low : 0xFFFF < v) (high : v < 0x110000) :
    decodeFrom none (UInt8.ofNat (v / 262144 % 8 + 0xF0) :: UInt8.ofNat (v / 4096 % 64 + 0x80) ::
      UInt8.ofNat (v / 64 % 64 + 0x80) :: UInt8.ofNat (v % 64 + 0x80) :: rest) =
      Char.ofNat v :: decodeFrom none rest := by
  obtain ⟨first, last, lead, range⟩ := lead_four (v := v) (by omega) high
  have top : v / 262144 % 8 = v / 262144 := by omega
  have value : ((v / 262144 * 64 + v / 4096 % 64) * 64 + v / 64 % 64) * 64 + v % 64 = v := by omega
  rw [top, decodeFrom_lead (by omega) lead, decodeFrom_more (by omega) range,
    decodeFrom_more (by omega) (by omega), decodeFrom_last (by omega), value]

/-- The bytes of a character read back as the character. -/
theorem decodeFrom_encodeChar (c : Char) (rest : List UInt8) :
    decodeFrom none (String.utf8EncodeChar c ++ rest) = c :: decodeFrom none rest := by
  have valid : c.val.toNat < 0xD800 ∨ 0xDFFF < c.val.toNat ∧ c.val.toNat < 0x110000 := c.valid
  have whole : Char.ofNat c.val.toNat = c := Char.ofNat_toNat c
  unfold String.utf8EncodeChar
  dsimp only
  split
  next one => exact (decodeFrom_one one).trans (congrArg (· :: _) whole)
  split
  next two => exact (decodeFrom_two (by omega) two).trans (congrArg (· :: _) whole)
  split
  next three => exact (decodeFrom_three (by omega) three (by omega)).trans (congrArg (· :: _) whole)
  next four => exact (decodeFrom_four (by omega) (by omega)).trans (congrArg (· :: _) whole)

theorem decode_encode (s : List Char) : decode (encode s) = s := by
  induction s with
  | nil => rfl
  | cons c rest ih =>
    rw [encode, List.flatMap_cons, decode, decodeFrom_encodeChar]
    exact congrArg (c :: ·) ih

theorem encode_append (a b : List Char) : encode (a ++ b) = encode a ++ encode b := List.flatMap_append

/-! ### Strict reading -/

variable {bytes : List UInt8} {s : List Char} {c : Char} {value low high : Nat}

/-- The next byte of an unfinished character, which may be its last one. -/
theorem strictFrom_next {d : Nat} (digit : d < 64) (range : p.low ≤ d + 0x80 ∧ d + 0x80 ≤ p.high)
    (rest : List UInt8) :
    strictFrom (some p) (UInt8.ofNat (d + 0x80) :: rest) =
      if p.need ≤ 1 then (strictFrom none rest).map (Char.ofNat (p.value * 64 + d) :: ·)
      else strictFrom (some ⟨p.need - 1, p.value * 64 + d, 0x80, 0xBF⟩) rest := by
  have low : (d + 0x80) % 64 = d := by omega
  rw [strictFrom, toNat_byte (by omega), continue?, if_pos range, low]
  by_cases one : p.need ≤ 1
  · rw [if_pos one, if_pos one]
  · rw [if_neg one, if_neg one]

theorem strictFrom_more {n d : Nat} (digit : d < 64) (range : low ≤ d + 0x80 ∧ d + 0x80 ≤ high) :
    strictFrom (some ⟨n + 2, value, low, high⟩) (UInt8.ofNat (d + 0x80) :: rest) =
      strictFrom (some ⟨n + 1, value * 64 + d, 0x80, 0xBF⟩) rest := by
  apply (strictFrom_next digit range rest).trans
  exact if_neg (by dsimp only; omega)

theorem strictFrom_last {d : Nat} (digit : d < 64) :
    strictFrom (some ⟨1, value, 0x80, 0xBF⟩) (UInt8.ofNat (d + 0x80) :: rest) =
      (strictFrom none rest).map (Char.ofNat (value * 64 + d) :: ·) := by
  apply (strictFrom_next digit (by dsimp only; omega) rest).trans
  exact if_pos (Nat.le_refl 1)

/-- An unfinished character goes on with a byte of its range or not at all. -/
theorem exists_next_of_strictFrom (first : 0x80 ≤ p.low) (last : p.high ≤ 0xBF)
    (h : strictFrom (some p) bytes = some s) :
    ∃ d rest, bytes = UInt8.ofNat (d + 0x80) :: rest ∧ d < 64 ∧ p.low ≤ d + 0x80 ∧ d + 0x80 ≤ p.high := by
  cases bytes with
  | nil => cases h
  | cons b rest =>
    by_cases range : p.low ≤ b.toNat ∧ b.toNat ≤ p.high
    · have shifted : b.toNat - 0x80 + 0x80 = b.toNat := by omega
      refine ⟨b.toNat - 0x80, rest, ?_, by omega, by omega, by omega⟩
      rw [shifted, UInt8.ofNat_toNat]
    · rw [strictFrom, continue?, if_neg range] at h
      cases h

theorem exists_last_of_strictFrom (h : strictFrom (some ⟨1, value, 0x80, 0xBF⟩) bytes = some s) :
    ∃ d rest s', bytes = UInt8.ofNat (d + 0x80) :: rest ∧ d < 64 ∧ s = Char.ofNat (value * 64 + d) :: s' ∧
      strictFrom none rest = some s' := by
  obtain ⟨d, rest, rfl, digit, range⟩ := exists_next_of_strictFrom (Nat.le_refl _) (Nat.le_refl _) h
  rw [strictFrom_last digit] at h
  obtain ⟨s', read, rfl⟩ := Option.map_eq_some_iff.mp h
  exact ⟨d, rest, s', rfl, digit, rfl, read⟩

theorem strictFrom_one {v : Nat} (high : v ≤ 0x7F) :
    strictFrom none (UInt8.ofNat v :: rest) = (strictFrom none rest).map (Char.ofNat v :: ·) := by
  rw [strictFrom, toNat_byte (by omega), start, if_pos (by omega)]

theorem strictFrom_lead {b : Nat} (byte : b < 256) (h : lead? b = some p) :
    strictFrom none (UInt8.ofNat b :: rest) = strictFrom (some p) rest := by
  have high : ¬b < 0x80 := by
    intro low
    rw [lead?, if_pos (by omega)] at h
    cases h
  rw [strictFrom, toNat_byte byte, start, if_neg high, h]

/-- What a lead byte asks for leaves no overlong forms, no surrogates and no values past the last plane. -/
theorem lead_cases {b : Nat} (h : lead? b = some p) : 0x80 ≤ p.low ∧ p.high ≤ 0xBF ∧
    (0xC2 ≤ b ∧ b < 0xE0 ∧ p.need = 1 ∧ p.value = b - 0xC0 ∨
      0xE0 ≤ b ∧ b < 0xF0 ∧ p.need = 2 ∧ p.value = b - 0xE0 ∧
        (b = 0xE0 → 0xA0 ≤ p.low) ∧ (b = 0xED → p.high ≤ 0x9F) ∨
      0xF0 ≤ b ∧ b < 0xF5 ∧ p.need = 3 ∧ p.value = b - 0xF0 ∧
        (b = 0xF0 → 0x90 ≤ p.low) ∧ (b = 0xF4 → p.high ≤ 0x8F)) := by
  unfold lead? at h
  split at h
  · cases h
  repeat'
    split at h
    · cases Option.some.inj h
      dsimp only
      omega
  cases h

/-- The bytes of the character with a number. -/
theorem encodeChar_ofNat {v : Nat} (high : v < 0x110000) (valid : v < 0xD800 ∨ 0xDFFF < v) :
    String.utf8EncodeChar (Char.ofNat v) =
      if v ≤ 0x7F then [UInt8.ofNat v]
      else if v ≤ 0x7FF then [UInt8.ofNat (v / 64 % 32 + 0xC0), UInt8.ofNat (v % 64 + 0x80)]
      else if v ≤ 0xFFFF then
        [UInt8.ofNat (v / 4096 % 16 + 0xE0), UInt8.ofNat (v / 64 % 64 + 0x80), UInt8.ofNat (v % 64 + 0x80)]
      else [UInt8.ofNat (v / 262144 % 8 + 0xF0), UInt8.ofNat (v / 4096 % 64 + 0x80),
        UInt8.ofNat (v / 64 % 64 + 0x80), UInt8.ofNat (v % 64 + 0x80)] := by
  have isValid : v.isValidChar := valid.imp id fun h => ⟨h, high⟩
  have number : (Char.ofNat v).val.toNat = v := by
    rw [Char.ofNat, dif_pos isValid]
    rfl
  rw [String.utf8EncodeChar, number]

/-- Bytes that can be read behind a lead byte start with the rest of a character. -/
theorem exists_char_of_lead {b : Nat} (lead : lead? b = some p) (h : strictFrom (some p) bytes = some s) :
    ∃ c s' rest, s = c :: s' ∧ UInt8.ofNat b :: bytes = String.utf8EncodeChar c ++ rest ∧
      strictFrom none rest = some s' := by
  obtain ⟨low, high, form⟩ := lead_cases lead
  obtain ⟨d, tail, rfl, digit, above, below⟩ := exists_next_of_strictFrom low high h
  rw [strictFrom_next digit ⟨above, below⟩] at h
  rcases form with ⟨first, last, need, value⟩ | ⟨first, last, need, value, overlong, surrogate⟩ |
    ⟨first, last, need, value, overlong, plane⟩
  · rw [need, if_pos (Nat.le_refl 1)] at h
    obtain ⟨s', read, rfl⟩ := Option.map_eq_some_iff.mp h
    have one : (p.value * 64 + d) / 64 % 32 + 0xC0 = b := by omega
    have two : (p.value * 64 + d) % 64 = d := by omega
    refine ⟨_, s', tail, rfl, ?_, read⟩
    rw [encodeChar_ofNat (by omega) (by omega), if_neg (by omega), if_pos (by omega), one, two]
    rfl
  · rw [need, if_neg (by decide)] at h
    obtain ⟨e, tail, s', rfl, digit', rfl, read⟩ := exists_last_of_strictFrom h
    have one : ((p.value * 64 + d) * 64 + e) / 4096 % 16 + 0xE0 = b := by omega
    have two : ((p.value * 64 + d) * 64 + e) / 64 % 64 = d := by omega
    have three : ((p.value * 64 + d) * 64 + e) % 64 = e := by omega
    refine ⟨_, s', tail, rfl, ?_, read⟩
    rw [encodeChar_ofNat (by omega) (by omega), if_neg (by omega), if_neg (by omega), if_pos (by omega), one, two,
      three]
    rfl
  · rw [need, if_neg (by decide)] at h
    obtain ⟨e, tail, rfl, digit', range⟩ := exists_next_of_strictFrom (Nat.le_refl _) (Nat.le_refl _) h
    rw [strictFrom_next digit' range, if_neg (by decide : ¬(3 - 1 ≤ 1))] at h
    obtain ⟨f, tail, s', rfl, digit'', rfl, read⟩ := exists_last_of_strictFrom h
    have one : (((p.value * 64 + d) * 64 + e) * 64 + f) / 262144 % 8 + 0xF0 = b := by omega
    have two : (((p.value * 64 + d) * 64 + e) * 64 + f) / 4096 % 64 = d := by omega
    have three : (((p.value * 64 + d) * 64 + e) * 64 + f) / 64 % 64 = e := by omega
    have four : (((p.value * 64 + d) * 64 + e) * 64 + f) % 64 = f := by omega
    refine ⟨_, s', tail, rfl, ?_, read⟩
    dsimp only
    rw [encodeChar_ofNat (by omega) (by omega), if_neg (by omega), if_neg (by omega), if_neg (by omega), one, two,
      three, four]
    rfl

/-- Bytes that can be read start with those of a character. -/
theorem exists_char_of_strictFrom {b : UInt8} (h : strictFrom none (b :: bytes) = some s) :
    ∃ c s' rest, s = c :: s' ∧ b :: bytes = String.utf8EncodeChar c ++ rest ∧ strictFrom none rest = some s' := by
  have byte : b.toNat < 256 := b.toNat_lt
  have same : UInt8.ofNat b.toNat = b := UInt8.ofNat_toNat
  rw [← same] at h ⊢
  by_cases one : b.toNat ≤ 0x7F
  · rw [strictFrom_one one] at h
    obtain ⟨s', read, rfl⟩ := Option.map_eq_some_iff.mp h
    refine ⟨_, s', bytes, rfl, ?_, read⟩
    rw [encodeChar_ofNat (by omega) (by omega), if_pos one]
    rfl
  cases lead : lead? b.toNat with
  | none =>
    rw [strictFrom, toNat_byte byte, start, if_neg (by omega), lead] at h
    cases h
  | some p =>
    rw [strictFrom_lead byte lead] at h
    exact exists_char_of_lead lead h

/-- The bytes of a character are read as the character. -/
theorem strictFrom_encodeChar (c : Char) (rest : List UInt8) :
    strictFrom none (String.utf8EncodeChar c ++ rest) = (strictFrom none rest).map (c :: ·) := by
  have valid : c.val.toNat < 0xD800 ∨ 0xDFFF < c.val.toNat ∧ c.val.toNat < 0x110000 := c.valid
  have whole : Char.ofNat c.val.toNat = c := Char.ofNat_toNat c
  rw [← whole, encodeChar_ofNat (by omega) (by omega)]
  generalize c.val.toNat = v at valid
  split
  next one => exact strictFrom_one one
  split
  next two =>
    have lead := lead_two (b := v / 64 % 32 + 0xC0) (by omega) (by omega)
    have value : (v / 64 % 32 + 0xC0 - 0xC0) * 64 + v % 64 = v := by omega
    apply (strictFrom_lead (by omega) lead).trans
    apply (strictFrom_last (by omega)).trans
    rw [value]
    rfl
  split
  next three =>
    obtain ⟨first, last, lead, range⟩ := lead_three (v := v) (by omega) (by omega) (by omega)
    have top : v / 4096 % 16 = v / 4096 := by omega
    have value : (v / 4096 * 64 + v / 64 % 64) * 64 + v % 64 = v := by omega
    rw [top]
    apply (strictFrom_lead (by omega) lead).trans
    apply (strictFrom_more (by omega) range).trans
    apply (strictFrom_last (by omega)).trans
    rw [value]
    rfl
  next four =>
    obtain ⟨first, last, lead, range⟩ := lead_four (v := v) (by omega) (by omega)
    have top : v / 262144 % 8 = v / 262144 := by omega
    have value : ((v / 262144 * 64 + v / 4096 % 64) * 64 + v / 64 % 64) * 64 + v % 64 = v := by omega
    rw [top]
    apply (strictFrom_lead (by omega) lead).trans
    apply (strictFrom_more (by omega) range).trans
    apply (strictFrom_more (by omega) (by omega)).trans
    apply (strictFrom_last (by omega)).trans
    rw [value]
    rfl

/-- A text is read from its own bytes and from no others. -/
theorem decode?_eq_some_iff : decode? bytes = some s ↔ encode s = bytes := by
  unfold decode?
  constructor
  · intro h
    induction s generalizing bytes with
    | nil =>
      cases bytes with
      | nil => rfl
      | cons b rest =>
        obtain ⟨c, s', rest, same, -⟩ := exists_char_of_strictFrom h
        cases same
    | cons c s ih =>
      cases bytes with
      | nil => cases h
      | cons b rest =>
        obtain ⟨c', s', rest, same, all, read⟩ := exists_char_of_strictFrom h
        cases same
        rw [all, ← ih read]
        rfl
  · rintro rfl
    induction s with
    | nil => rfl
    | cons c s ih =>
      rw [encode, List.flatMap_cons, strictFrom_encodeChar, ← encode, ih]
      rfl

theorem decode?_eq_none_iff : decode? bytes = none ↔ ∀ s, encode s ≠ bytes := by
  rw [Option.eq_none_iff_forall_ne_some]
  exact forall_congr' fun s => not_congr decode?_eq_some_iff

end Text.Utf8

namespace Mark

open Text.Utf8

/-- The byte behind a text is as far on as the text has bytes. -/
theorem byte_afterAll (m : Mark) (s : List Char) : (m.afterAll s).byte = m.byte + (encode s).length := by
  induction s generalizing m with
  | nil => rfl
  | cons c rest ih =>
    have here : (m.after c).byte = m.byte + c.utf8Size := by
      unfold after
      split
      next h => rw [h]; rfl
      next => rfl
    rw [afterAll, List.foldl_cons, ← afterAll, ih, here, encode, encode, List.flatMap_cons, List.length_append,
      String.length_utf8EncodeChar, Nat.add_assoc]

end Mark

/-- The text between two marks is what lies between their bytes. -/
theorem SourceBytes.slice_of_bytes {a b rest : List Char} {start stop : Mark}
    (first : start.byte = (Text.Utf8.encode a).length) (last : stop.byte = (Text.Utf8.encode (a ++ b)).length) :
    (SourceBytes.ofText (a ++ (b ++ rest))).slice start stop = b := by
  rw [Text.Utf8.encode_append, List.length_append] at last
  rw [slice, ofText, ofBytes, first, last, Array.toList_extract, List.extract_eq_take_drop,
    Text.Utf8.encode_append, Text.Utf8.encode_append, List.drop_left, Nat.add_sub_cancel_left, List.take_left,
    Text.Utf8.decode_encode]

theorem SourceBytes.slice_ofText (m : Mark) (hm : m.byte = 0) (a b rest : List Char) :
    (SourceBytes.ofText (a ++ (b ++ rest))).slice (m.afterAll a) (m.afterAll (a ++ b)) = b := by
  apply slice_of_bytes
  · rw [Mark.byte_afterAll, hm, Nat.zero_add]
  · rw [Mark.byte_afterAll, hm, Nat.zero_add]

end ScriptAudit
