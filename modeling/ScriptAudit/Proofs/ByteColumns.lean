import ScriptAudit.Proofs.TextPlaces

namespace ScriptAudit

namespace Text.Utf8

variable {piece piece' front rest rest' bytes : List UInt8} {b : UInt8} {c d : Char} {s t : List Char} {p : Pending}

/-- The bytes of some character start with these. -/
def Begins (piece : List UInt8) : Prop := ∃ c, piece <+: String.utf8EncodeChar c

/-- In front of `rest` stands no character, and `piece` is the longest piece there that begins one; it is a single byte
where none does. -/
structure IllFormed (piece rest : List UInt8) : Prop where
  nonempty : piece ≠ []
  unreadable : ∀ c, ¬String.utf8EncodeChar c <+: piece ++ rest
  begins : Begins piece ∨ piece.length = 1
  longest : ∀ longer, longer <+: piece ++ rest → Begins longer → longer.length ≤ piece.length

/-- The text of any bytes, with one replacement character for each maximal ill-formed piece. -/
inductive ReadsAs : List UInt8 → List Char → Prop where
  | nil : ReadsAs [] []
  | char (c : Char) {rest : List UInt8} {s : List Char} (behind : ReadsAs rest s) :
    ReadsAs (String.utf8EncodeChar c ++ rest) (c :: s)
  | illFormed {piece rest : List UInt8} {s : List Char} (here : IllFormed piece rest) (behind : ReadsAs rest s) :
    ReadsAs (piece ++ rest) (replacement :: s)

/-! ### A reading is unique -/

/-- No character's bytes start with those of another. -/
theorem encodeChar_append_inj (same : String.utf8EncodeChar c ++ rest = String.utf8EncodeChar d ++ rest') :
    c = d ∧ rest = rest' := by
  have read : c :: decodeFrom none rest = d :: decodeFrom none rest' := by
    rw [← decodeFrom_encodeChar, same, decodeFrom_encodeChar]
  obtain ⟨rfl, -⟩ := List.cons.inj read
  exact ⟨rfl, List.append_cancel_left same⟩

theorem eq_of_encodeChar_prefix (h : String.utf8EncodeChar c <+: String.utf8EncodeChar d) : c = d := by
  obtain ⟨rest, whole⟩ := h
  exact (encodeChar_append_inj (whole.trans (List.append_nil _).symm)).1

namespace IllFormed

theorem length_le (here : IllFormed piece rest) (other : IllFormed piece' rest')
    (same : piece ++ rest = piece' ++ rest') : piece.length ≤ piece'.length := by
  rcases here.begins with begins | single
  · exact other.longest piece (same ▸ List.prefix_append piece rest) begins
  · rw [single]
    exact List.length_pos_iff.mpr other.nonempty

theorem append_inj (here : IllFormed piece rest) (other : IllFormed piece' rest')
    (same : piece ++ rest = piece' ++ rest') : rest = rest' := by
  have length := Nat.le_antisymm (here.length_le other same) (other.length_le here same.symm)
  exact (List.append_inj same length).2

end IllFormed

theorem ReadsAs.unique (h : ReadsAs bytes s) (h' : ReadsAs bytes t) : s = t := by
  induction h generalizing t with
  | nil =>
    generalize empty : ([] : List UInt8) = bytes at h'
    cases h' with
    | nil => rfl
    | char c => exact absurd (List.append_eq_nil_iff.mp empty.symm).1 String.utf8EncodeChar_ne_nil
    | illFormed here => exact absurd (List.append_eq_nil_iff.mp empty.symm).1 here.nonempty
  | @char c rest s behind ih =>
    generalize same : String.utf8EncodeChar c ++ rest = bytes at h'
    cases h' with
    | nil => exact absurd (List.append_eq_nil_iff.mp same).1 String.utf8EncodeChar_ne_nil
    | char d behind' =>
      obtain ⟨rfl, rfl⟩ := encodeChar_append_inj same
      rw [ih behind']
    | illFormed here => exact absurd ⟨rest, same⟩ (here.unreadable c)
  | @illFormed piece rest s here behind ih =>
    generalize same : piece ++ rest = bytes at h'
    cases h' with
    | nil => exact absurd (List.append_eq_nil_iff.mp same).1 here.nonempty
    | @char d rest' s' => exact absurd ⟨rest', same.symm⟩ (here.unreadable d)
    | illFormed here' behind' =>
      obtain rfl := here.append_inj here' same
      rw [ih behind']

/-! ### Bytes behind which a character is unfinished -/

/-- The bytes read since the last character or ill-formed piece, and what they leave unfinished. -/
inductive Unfinished : List UInt8 → Pending → Prop where
  | lead {b : UInt8} {p : Pending} (h : start b.toNat = .wait p) : Unfinished [b] p
  | more {front : List UInt8} {p q : Pending} {b : UInt8} (before : Unfinished front p)
    (h : continue? p b.toNat = some (.wait q)) : Unfinished (front ++ [b]) q

theorem lead_of_start {b : Nat} (h : start b = .wait p) : lead? b = some p := by
  unfold start at h
  split at h
  · cases h
  · cases lead : lead? b with
    | none => rw [lead] at h; cases h
    | some p' => rw [lead] at h; cases h; rfl

theorem lead_range {b : Nat} (h : lead? b = some p) : p.low ≤ p.high := by
  unfold lead? at h
  split at h
  · cases h
  repeat'
    split at h
    · cases Option.some.inj h
      dsimp only
      omega
  cases h

/-- An unfinished character can be finished, since the range of its next byte is never empty. -/
theorem exists_completion (p : Pending) (low : 0x80 ≤ p.low) (range : p.low ≤ p.high) (high : p.high ≤ 0xBF) :
    ∃ rest c, strictFrom (some p) rest = some [c] := by
  have next := strictFrom_next (p := p) (d := p.low - 0x80) (by omega) (by omega)
  by_cases last : p.need ≤ 1
  · exact ⟨[UInt8.ofNat (p.low - 0x80 + 0x80)], Char.ofNat (p.value * 64 + (p.low - 0x80)),
      (next []).trans (if_pos last)⟩
  · obtain ⟨rest, c, read⟩ := exists_completion ⟨p.need - 1, p.value * 64 + (p.low - 0x80), 0x80, 0xBF⟩
      (Nat.le_refl _) (Nat.le_add_right 0x80 0x3F) (Nat.le_refl _)
    exact ⟨UInt8.ofNat (p.low - 0x80 + 0x80) :: rest, c, (next rest).trans ((if_neg last).trans read)⟩
termination_by p.need

theorem strictFrom_character (c : Char) : strictFrom none (String.utf8EncodeChar c) = some [c] := by
  have read := strictFrom_encodeChar c []
  rwa [List.append_nil] at read

theorem eq_encodeChar_of_strictFrom (h : strictFrom none bytes = some [c]) : bytes = String.utf8EncodeChar c := by
  rw [← encode_singleton]
  exact (decode?_eq_some_iff.mp h).symm

namespace Unfinished

theorem strictFrom_eq (h : Unfinished front p) (rest : List UInt8) :
    strictFrom none (front ++ rest) = strictFrom (some p) rest := by
  induction h generalizing rest with
  | lead h => simp [strictFrom, h]
  | more before h ih => simp [ih, strictFrom, h]

theorem range (h : Unfinished front p) : 0x80 ≤ p.low ∧ p.low ≤ p.high ∧ p.high ≤ 0xBF := by
  induction h with
  | lead h =>
    have lead := lead_of_start h
    obtain ⟨low, high, -⟩ := lead_cases lead
    exact ⟨low, lead_range lead, high⟩
  | more before h =>
    unfold continue? at h
    split at h
    · dsimp only at h
      split at h
      · cases h
      · cases h
        dsimp only
        omega
    · cases h

theorem begins (h : Unfinished front p) : Begins front := by
  obtain ⟨low, range, high⟩ := h.range
  obtain ⟨rest, c, read⟩ := exists_completion p low range high
  rw [← h.strictFrom_eq] at read
  exact ⟨c, rest, eq_encodeChar_of_strictFrom read⟩

theorem ne_nil (h : Unfinished front p) : front ≠ [] := by
  cases h <;> simp

theorem ne_encodeChar (h : Unfinished front p) (c : Char) : front ≠ String.utf8EncodeChar c := by
  intro whole
  have read := h.strictFrom_eq []
  rw [List.append_nil, whole, strictFrom_character] at read
  cases read

/-- A byte that goes on with a character is one that was waited for. -/
theorem continues (h : Unfinished front p) (more : Begins (front ++ b :: rest)) :
    continue? p b.toNat ≠ none := by
  obtain ⟨c, tail, whole⟩ := more
  intro stops
  have read := h.strictFrom_eq (b :: rest ++ tail)
  rw [← List.append_assoc, whole, strictFrom_character, List.cons_append, strictFrom, stops] at read
  cases read

/-- Where no byte goes on with it, an unfinished character is a maximal ill-formed piece. -/
theorem illFormed (h : Unfinished front p) (stops : ∀ b ∈ rest.head?, continue? p b.toNat = none) :
    IllFormed front rest := by
  have longest : ∀ longer, longer <+: front ++ rest → Begins longer → longer.length ≤ front.length := by
    intro longer ahead begins
    rcases List.prefix_or_prefix_of_prefix ahead (List.prefix_append front rest) with shorter | ⟨more, rfl⟩
    · exact shorter.length_le
    · cases more with
      | nil => simp
      | cons b more =>
        obtain ⟨tail, whole⟩ := (List.prefix_append_right_inj front).mp ahead
        exact absurd (stops b (by rw [← whole]; rfl)) (h.continues begins)
  refine ⟨h.ne_nil, ?_, .inl h.begins, longest⟩
  intro c ahead
  -- A character here would be no longer than what is unfinished, which begins another character.
  have short := longest _ ahead ⟨c, List.prefix_rfl⟩
  have inside := List.prefix_of_prefix_length_le ahead (List.prefix_append front rest) short
  obtain ⟨d, beginning⟩ := h.begins
  obtain rfl := eq_of_encodeChar_prefix (inside.trans beginning)
  exact h.ne_encodeChar c (beginning.eq_of_length_le inside.length_le)

end Unfinished

theorem start_ne_broken (h : Begins (b :: rest)) : start b.toNat ≠ .broken := by
  obtain ⟨c, tail, whole⟩ := h
  intro broken
  have read := strictFrom_character c
  rw [← whole, List.cons_append, strictFrom, broken] at read
  cases read

theorem illFormed_of_broken (broken : start b.toNat = .broken) (rest : List UInt8) :
    IllFormed [b] rest := by
  have longest : ∀ longer, longer <+: [b] ++ rest → Begins longer → longer = [] := by
    intro longer ahead begins
    cases longer with
    | nil => rfl
    | cons b' longer =>
      obtain ⟨rfl, -⟩ := List.cons_prefix_cons.mp ahead
      exact absurd broken (start_ne_broken begins)
  refine ⟨List.cons_ne_nil b [], ?_, .inr rfl, ?_⟩
  · intro c ahead
    exact String.utf8EncodeChar_ne_nil (longest _ ahead ⟨c, List.prefix_rfl⟩)
  · intro longer ahead begins
    rw [longest longer ahead begins]
    exact Nat.zero_le _

/-! ### The machine gives the reading -/

theorem continue_ne_broken (p : Pending) (b : Nat) : continue? p b ≠ some .broken := by
  unfold continue?
  split
  · dsimp only
    split <;> simp
  · simp

theorem readsAs_start (fresh : ReadsAs rest (decodeFrom none rest))
    (waiting : ∀ p, Unfinished [b] p → ReadsAs ([b] ++ rest) (decodeFrom (some p) rest)) :
    ReadsAs (b :: rest) (decodeFrom none (b :: rest)) := by
  rw [decodeFrom, step]
  cases effect : start b.toNat with
  | char c =>
    have whole : [b] = String.utf8EncodeChar c :=
      eq_encodeChar_of_strictFrom (by simp [strictFrom, effect])
    rw [← List.singleton_append, whole]
    exact .char c fresh
  | wait p => exact waiting p (.lead effect)
  | broken => exact .illFormed (illFormed_of_broken effect rest) fresh

/-- From between characters, and from within one together with the bytes it already has. -/
theorem readsAs_decodeFrom (bytes : List UInt8) : ReadsAs bytes (decodeFrom none bytes) ∧
    ∀ front p, Unfinished front p → ReadsAs (front ++ bytes) (decodeFrom (some p) bytes) := by
  induction bytes with
  | nil =>
    refine ⟨.nil, ?_⟩
    intro front p h
    exact .illFormed (h.illFormed (by simp)) .nil
  | cons b rest ih =>
    obtain ⟨fresh, waiting⟩ := ih
    have restart := readsAs_start fresh fun p => waiting [b] p
    refine ⟨restart, ?_⟩
    intro front p h
    have whole : front ++ b :: rest = front ++ [b] ++ rest := by simp
    cases effect : continue? p b.toNat with
    | none =>
      -- The byte ends the piece and is read afresh.
      have again : decodeFrom (some p) (b :: rest) = replacement :: decodeFrom none (b :: rest) := by
        simp [decodeFrom, step, effect]
      rw [again]
      exact .illFormed (h.illFormed (by simpa using effect)) restart
    | some e =>
      rw [whole, decodeFrom, step, effect]
      cases e with
      | char c =>
        have last : front ++ [b] = String.utf8EncodeChar c := by
          apply eq_encodeChar_of_strictFrom
          rw [h.strictFrom_eq]
          simp [strictFrom, effect]
        rw [last]
        exact .char c fresh
      | wait q => exact waiting _ q (h.more effect)
      | broken => exact absurd effect (continue_ne_broken p b.toNat)

theorem readsAs_iff : ReadsAs bytes s ↔ s = decode bytes := by
  have reading : ReadsAs bytes (decode bytes) := (readsAs_decodeFrom bytes).1
  constructor
  · intro h
    exact h.unique reading
  · rintro rfl
    exact reading

/-! ### Growth -/

/-- One byte adds at most one character, where an unfinished one counts as its replacement. -/
theorem length_step (state : Option Pending) (b : Nat) :
    (step state b).1.length + (decodeFrom (step state b).2 []).length ≤ (decodeFrom state []).length + 1 := by
  have single (e : Effect) : e.lenient.1.length + (decodeFrom e.lenient.2 []).length = 1 := by
    cases e <;> rfl
  cases state with
  | none =>
    rw [step, single]
    exact Nat.le_add_left 1 _
  | some p =>
    rw [step]
    cases continue? p b with
    | none =>
      have fresh := single (start b)
      simp only [List.length_cons, decodeFrom, List.length_nil]
      omega
    | some e =>
      dsimp only
      rw [single]
      exact Nat.le_add_left 1 _

theorem length_decodeFrom_le (state : Option Pending) (bytes : List UInt8) :
    (decodeFrom state bytes).length ≤ (decodeFrom state []).length + bytes.length := by
  induction bytes generalizing state with
  | nil => exact Nat.le_refl _
  | cons b rest ih =>
    have first := length_step state b.toNat
    have others := ih (step state b.toNat).2
    rw [decodeFrom, List.length_append, List.length_cons]
    omega

/-- More bytes give at most as many more characters, also when the cut goes through a character. -/
theorem length_decodeFrom_append_le (state : Option Pending) (a b : List UInt8) :
    (decodeFrom state (a ++ b)).length ≤ (decodeFrom state a).length + b.length := by
  induction a generalizing state with
  | nil => exact length_decodeFrom_le state b
  | cons x rest ih =>
    rw [List.cons_append, decodeFrom, decodeFrom, List.length_append, List.length_append, Nat.add_assoc]
    exact Nat.add_le_add_left (ih _) _

theorem length_decode_take_le (bytes : List UInt8) {j k : Nat} (h : j ≤ k) :
    (decode (bytes.take k)).length ≤ (decode (bytes.take j)).length + (k - j) := by
  obtain ⟨more, rfl⟩ := Nat.exists_eq_add_of_le h
  have growth := length_decodeFrom_append_le none (bytes.take j) ((bytes.drop j).take more)
  have size := List.length_take_le more (bytes.drop j)
  rw [← List.take_add] at growth
  unfold decode
  omega

end Text.Utf8

namespace SourceBytes

open Text Text.Utf8

/-- The bytes of a mark's row in front of it. A row past the end has none. -/
def cutRow (bytes : List UInt8) (m : Mark) : List UInt8 := ((splitOn 10 bytes)[m.row]?.getD []).take m.column

theorem position_ofBytes (bytes : List UInt8) (m : Mark) :
    (ofBytes bytes).position m = ⟨m.row + 1, (decode (cutRow bytes m)).length + 1⟩ := by
  simp [position, ofBytes, cutRow]

theorem column_growth (bytes : List UInt8) {a b : Mark} (row : a.row = b.row) (column : a.column ≤ b.column) :
    ((ofBytes bytes).position b).column - ((ofBytes bytes).position a).column ≤ (b.column : Int) - a.column := by
  have growth := length_decode_take_le ((splitOn 10 bytes)[b.row]?.getD []) column
  rw [position_ofBytes, position_ofBytes, cutRow, cutRow, row]
  dsimp only
  omega

/-- Marks become positions in their order, whatever the bytes are and wherever the marks lie: those in different rows on
different lines, and those in one row no farther apart in columns than in bytes. The column counts the characters of the
one lenient reading of the bytes in front. -/
theorem positions_keep_order (bytes : List UInt8) (a b : Mark) (h : a ≤ b) :
    (ofBytes bytes).position a ≤ (ofBytes bytes).position b ∧
    (a.row ≠ b.row → ((ofBytes bytes).position a).line < ((ofBytes bytes).position b).line) ∧
    (a.row = b.row →
      ((ofBytes bytes).position b).column - ((ofBytes bytes).position a).column ≤ (b.column : Int) - a.column) ∧
    ∀ m, ∃ s, (∀ t, ReadsAs (cutRow bytes m) t ↔ t = s) ∧
      (ofBytes bytes).position m = ⟨m.row + 1, s.length + 1⟩ := by
  refine ⟨position_mono _ h, ?_, ?_, ?_⟩
  · intro apart
    rw [Mark.le_def] at h
    rw [position_ofBytes, position_ofBytes]
    dsimp only
    omega
  · intro row
    rw [Mark.le_def] at h
    exact column_growth bytes row (by omega)
  · intro m
    exact ⟨decode (cutRow bytes m), fun t => readsAs_iff, position_ofBytes bytes m⟩

/-- A character of three bytes that breaks off behind its second one, and a row that ends within a character. -/
def brokenRows : List UInt8 := [0x61, 0xE2, 0x82, 0x28, 10, 0xF0, 0x9F]

/-- One mark lies within the broken character, the other past the end of the row. -/
theorem positions_of_brokenRows :
    (⟨0, 2, 2⟩ : Mark) ≤ ⟨0, 9, 9⟩ ∧
    (ofBytes brokenRows).position ⟨0, 2, 2⟩ = ⟨1, 3⟩ ∧ (ofBytes brokenRows).position ⟨0, 9, 9⟩ = ⟨1, 4⟩ ∧
    (ofBytes brokenRows).position ⟨0, 2, 2⟩ ≤ (ofBytes brokenRows).position ⟨0, 9, 9⟩ ∧
    ((ofBytes brokenRows).position ⟨0, 9, 9⟩).column - ((ofBytes brokenRows).position ⟨0, 2, 2⟩).column ≤ 9 - 2 := by
  have order : (⟨0, 2, 2⟩ : Mark) ≤ ⟨0, 9, 9⟩ := by decide
  obtain ⟨kept, -, growth, -⟩ := positions_keep_order brokenRows _ _ order
  exact ⟨order, by decide +kernel, by decide +kernel, kept, growth rfl⟩

end SourceBytes

end ScriptAudit
