import Mathlib.Data.List.DropRight
import Mathlib.Order.Basic
import ScriptAudit.Proofs.Utf8

namespace ScriptAudit

namespace Text

theorem joinWith_cons_cons {α : Type} (mark p q : List α) (rest : List (List α)) :
    joinWith mark (p :: q :: rest) = p ++ mark ++ joinWith mark (q :: rest) := by
  rw [joinWith]
  exact List.cons_ne_nil q rest

section Pieces

variable {α : Type} [DecidableEq α] {mark : α}

theorem splitOn_append {a b last first : List α} {front back : List (List α)}
    (ha : splitOn mark a = front ++ [last]) (hb : splitOn mark b = first :: back) :
    splitOn mark (a ++ b) = front ++ (last ++ first) :: back := by
  induction a generalizing front last with
  | nil =>
    have one : front ++ [last] = [] ++ [[]] := ha.symm
    obtain ⟨rfl, rfl⟩ := List.append_singleton_inj.mp one
    exact hb
  | cons x rest ih =>
    simp only [splitOn, List.cons_append] at ha ⊢
    by_cases hx : x = mark
    · rw [if_pos hx] at ha ⊢
      cases front with
      | nil => exact absurd (List.cons.inj ha).2 (splitOn_ne_nil mark rest)
      | cons p front =>
        obtain ⟨rfl, behind⟩ := List.cons.inj ha
        rw [ih behind]
        rfl
    · rw [if_neg hx] at ha ⊢
      cases hs : splitOn mark rest with
      | nil => exact absurd hs (splitOn_ne_nil mark rest)
      | cons piece pieces =>
        simp only [hs] at ha
        cases front with
        | nil =>
          obtain ⟨rfl, rfl⟩ : x :: piece = last ∧ pieces = [] := by simpa using ha
          rw [ih (show splitOn mark rest = [] ++ [piece] from hs)]
          rfl
        | cons p front =>
          obtain ⟨rfl, rfl⟩ : x :: piece = p ∧ pieces = front ++ [last] := by simpa using ha
          rw [ih (show splitOn mark rest = (piece :: front) ++ [last] from hs)]
          rfl

theorem splitOn_of_not_mem {a : List α} (h : mark ∉ a) : splitOn mark a = [a] := by
  induction a with
  | nil => rfl
  | cons x rest ih =>
    obtain ⟨hx, hrest⟩ := List.ne_and_not_mem_of_not_mem_cons h
    rw [splitOn, if_neg (Ne.symm hx), ih hrest]

/-- The piece in front of a mark. -/
theorem splitOn_append_cons {a : List α} (h : mark ∉ a) (b : List α) :
    splitOn mark (a ++ mark :: b) = a :: splitOn mark b := by
  have front : splitOn mark a = [] ++ [a] := splitOn_of_not_mem h
  have next : splitOn mark (mark :: b) = [] :: splitOn mark b := by rw [splitOn, if_pos rfl]
  rw [splitOn_append front next, List.append_nil, List.nil_append]

/-- The first piece ends in front of the first mark. -/
theorem splitOn_eq_cons (mark : α) (b : List α) : ∃ back, splitOn mark b = b.takeWhile (· ≠ mark) :: back := by
  induction b with
  | nil => exact ⟨[], rfl⟩
  | cons x rest ih =>
    obtain ⟨back, hback⟩ := ih
    by_cases hx : x = mark
    · exact ⟨splitOn mark rest, by simp [splitOn, hx]⟩
    · exact ⟨back, by simp [splitOn, hx, hback]⟩

/-- The last piece starts behind the last mark. -/
theorem splitOn_eq_concat (mark : α) (a : List α) :
    ∃ front, splitOn mark a = front ++ [a.rtakeWhile (· ≠ mark)] ∧ front.length = a.count mark := by
  induction a using List.reverseRecOn with
  | nil => exact ⟨[], rfl, rfl⟩
  | append_singleton rest x ih =>
    obtain ⟨front, hfront, length⟩ := ih
    by_cases hx : x = mark
    · have one : splitOn mark [x] = [] :: [[]] := by simp [splitOn, hx]
      have length : (front ++ [rest.rtakeWhile (· ≠ mark)]).length = (rest ++ [x]).count mark := by
        simp [length, hx]
      refine ⟨_, ?_, length⟩
      rw [splitOn_append hfront one]
      simp [hx]
    · have one : splitOn mark [x] = [x] :: [] := splitOn_of_not_mem (by simpa using Ne.symm hx)
      refine ⟨front, ?_, by simp [length, hx]⟩
      rw [splitOn_append hfront one]
      simp [hx]

theorem splitOn_append_mark (mark : α) (a : List α) : splitOn mark (a ++ [mark]) = splitOn mark a ++ [[]] := by
  obtain ⟨front, hfront, -⟩ := splitOn_eq_concat mark a
  have one : splitOn mark [mark] = [] :: [[]] := by rw [splitOn, if_pos rfl, splitOn]
  rw [splitOn_append hfront one, hfront, List.append_nil, List.append_assoc]
  rfl

theorem length_splitOn (mark : α) (s : List α) : (splitOn mark s).length = s.count mark + 1 := by
  obtain ⟨front, hfront, length⟩ := splitOn_eq_concat mark s
  simp [hfront, length]

/-- The piece around a place goes from the last mark before it to the next one. -/
theorem getElem?_splitOn (mark : α) (a b : List α) :
    (splitOn mark (a ++ b))[a.count mark]? =
      some (a.rtakeWhile (· ≠ mark) ++ b.takeWhile (· ≠ mark)) := by
  obtain ⟨front, hfront, length⟩ := splitOn_eq_concat mark a
  obtain ⟨back, hback⟩ := splitOn_eq_cons mark b
  rw [splitOn_append hfront hback, ← length]
  simp

theorem rtakeWhile_append_of_not_mem {a b : List α} (h : mark ∉ b) :
    (a ++ b).rtakeWhile (· ≠ mark) = a.rtakeWhile (· ≠ mark) ++ b := by
  induction b using List.reverseRecOn with
  | nil => simp
  | append_singleton rest x ih =>
    obtain ⟨hrest, hx⟩ : mark ∉ rest ∧ x ≠ mark := by
      simpa [not_or, eq_comm] using h
    rw [← List.append_assoc, List.rtakeWhile_concat_pos _ _ _ (by simpa using hx), ih hrest,
      List.append_assoc]

theorem not_mem_of_mem_splitOn {s p : List α} (h : p ∈ splitOn mark s) : mark ∉ p := by
  induction s generalizing p with
  | nil =>
    obtain rfl := List.mem_singleton.mp h
    exact List.not_mem_nil
  | cons x rest ih =>
    rw [splitOn] at h
    split at h
    · rcases List.mem_cons.mp h with rfl | h
      · exact List.not_mem_nil
      · exact ih h
    next hx =>
      cases hs : splitOn mark rest with
      | nil => exact absurd hs (splitOn_ne_nil mark rest)
      | cons piece pieces =>
        rw [hs] at h ih
        rcases List.mem_cons.mp h with rfl | h
        · have plain := ih List.mem_cons_self
          exact List.not_mem_cons_of_ne_of_not_mem (Ne.symm hx) plain
        · exact ih (List.mem_cons_of_mem piece h)

/-- Pieces without the mark are found again. -/
theorem splitOn_joinWith {pieces : List (List α)} (some : pieces ≠ []) (plain : ∀ p ∈ pieces, mark ∉ p) :
    splitOn mark (joinWith [mark] pieces) = pieces := by
  induction pieces with
  | nil => exact absurd rfl some
  | cons p rest ih =>
    have first := plain p List.mem_cons_self
    cases rest with
    | nil => exact splitOn_of_not_mem first
    | cons q more =>
      have behind := ih (List.cons_ne_nil q more) fun p hp => plain p (List.mem_cons_of_mem _ hp)
      rw [joinWith_cons_cons, List.append_assoc, List.singleton_append, splitOn_append_cons first, behind]

end Pieces

namespace Utf8

theorem encode_cons (c : Char) (rest : List Char) : encode (c :: rest) = String.utf8EncodeChar c ++ encode rest :=
  List.flatMap_cons

theorem encode_singleton (c : Char) : encode [c] = String.utf8EncodeChar c := List.flatMap_singleton _ _

/-- Only a line feed has the byte of a line feed. -/
theorem lineFeed_not_mem {c : Char} (h : c ≠ '\n') : (10 : UInt8) ∉ String.utf8EncodeChar c := by
  have value : c.val.toNat ≠ 10 := by
    intro hv
    exact h (Char.ext (UInt32.toNat_inj.mp hv))
  have byte {n : Nat} (low : n ≠ 10) (high : n < 256) : (10 : UInt8) ≠ UInt8.ofNat n := by
    intro same
    have := congrArg UInt8.toNat same
    rw [toNat_byte high] at this
    exact low this.symm
  unfold String.utf8EncodeChar
  dsimp only
  split
  next one =>
    rw [List.mem_singleton]
    exact byte value (by omega)
  split
  next two =>
    simp only [List.mem_cons, List.not_mem_nil, or_false, not_or]
    exact ⟨byte (by omega) (by omega), byte (by omega) (by omega)⟩
  split
  next three =>
    simp only [List.mem_cons, List.not_mem_nil, or_false, not_or]
    exact ⟨byte (by omega) (by omega), byte (by omega) (by omega), byte (by omega) (by omega)⟩
  next four =>
    simp only [List.mem_cons, List.not_mem_nil, or_false, not_or]
    exact ⟨byte (by omega) (by omega), byte (by omega) (by omega), byte (by omega) (by omega),
      byte (by omega) (by omega)⟩

theorem count_encode (s : List Char) : (encode s).count 10 = s.count '\n' := by
  induction s with
  | nil => rfl
  | cons c rest ih =>
    rw [encode_cons, List.count_append, ih]
    by_cases h : c = '\n'
    · subst h
      rw [List.count_cons_self, Nat.add_comm]
      rfl
    · rw [List.count_eq_zero_of_not_mem (lineFeed_not_mem h), List.count_cons_of_ne h, Nat.zero_add]

theorem rtakeWhile_encode (s : List Char) :
    (encode s).rtakeWhile (· ≠ 10) = encode (s.rtakeWhile (· ≠ '\n')) := by
  induction s using List.reverseRecOn with
  | nil => rfl
  | append_singleton rest c ih =>
    rw [encode_append, encode_singleton]
    by_cases h : c = '\n'
    · subst h
      have byte : String.utf8EncodeChar '\n' = [10] := rfl
      rw [byte, List.rtakeWhile_concat_neg _ _ _ (by simp), List.rtakeWhile_concat_neg _ _ _ (by simp)]
      rfl
    · rw [rtakeWhile_append_of_not_mem (lineFeed_not_mem h), ih,
        List.rtakeWhile_concat_pos _ _ _ (by simpa using h), encode_append, encode_singleton]

/-- The rows of the bytes are the bytes of the lines. -/
theorem splitOn_encode (s : List Char) : splitOn 10 (encode s) = (splitOn '\n' s).map encode := by
  induction s with
  | nil => rfl
  | cons c rest ih =>
    rw [encode_cons, splitOn]
    by_cases h : c = '\n'
    · subst h
      have byte : String.utf8EncodeChar '\n' = [10] := rfl
      rw [byte, List.singleton_append, splitOn, if_pos rfl, if_pos rfl, ih]
      rfl
    · rw [if_neg h]
      cases hs : splitOn '\n' rest with
      | nil => exact absurd hs (splitOn_ne_nil '\n' rest)
      | cons piece pieces =>
        rw [hs, List.map_cons] at ih
        have front : splitOn 10 (String.utf8EncodeChar c) = [] ++ [String.utf8EncodeChar c] :=
          splitOn_of_not_mem (lineFeed_not_mem h)
        rw [splitOn_append front ih, List.nil_append, ← encode_cons]
        rfl

/-- An unfinished character leaves at least a replacement character. -/
theorem decodeFrom_pending (p : Pending) (bytes : List UInt8) : 1 ≤ (decodeFrom (some p) bytes).length := by
  induction bytes generalizing p with
  | nil => exact Nat.le_refl 1
  | cons b rest ih =>
    rw [decodeFrom, List.length_append, step]
    cases continue? p b.toNat with
    | none =>
      simp only [List.length_cons]
      omega
    | some e =>
      cases e with
      | char c => simp [Effect.lenient]
      | wait q => exact Nat.le_add_left_of_le (ih q)
      | broken => simp [Effect.lenient]

/-- More bytes never give fewer characters, also when the cut goes through a character. -/
theorem length_decodeFrom_append (state : Option Pending) (a b : List UInt8) :
    (decodeFrom state a).length ≤ (decodeFrom state (a ++ b)).length := by
  induction a generalizing state with
  | nil =>
    cases state with
    | none => exact Nat.zero_le _
    | some p => exact decodeFrom_pending p b
  | cons x rest ih =>
    rw [List.cons_append, decodeFrom, decodeFrom, List.length_append, List.length_append]
    exact Nat.add_le_add_left (ih _) _

theorem length_decode_take (bytes : List UInt8) {j k : Nat} (h : j ≤ k) :
    (decode (bytes.take j)).length ≤ (decode (bytes.take k)).length := by
  have more : bytes.take k = bytes.take j ++ (bytes.take k).drop j := by
    have cut : (bytes.take k).take j = bytes.take j := by rw [List.take_take, Nat.min_eq_left h]
    rw [← cut, List.take_append_drop]
  rw [more]
  exact length_decodeFrom_append none _ _

/-- Every byte belongs to a character. -/
theorem exists_char_of_lt {s : List Char} {k : Nat} (h : k < (encode s).length) :
    ∃ a c b, s = a ++ c :: b ∧ (encode a).length ≤ k ∧ k < (encode a).length + c.utf8Size := by
  induction s generalizing k with
  | nil => exact absurd h (Nat.not_lt_zero k)
  | cons c rest ih =>
    rw [encode_cons, List.length_append, String.length_utf8EncodeChar] at h
    by_cases inside : k < c.utf8Size
    · exact ⟨[], c, rest, rfl, Nat.zero_le k, by simpa [encode] using inside⟩
    · obtain ⟨a, d, b, rfl, low, high⟩ := ih (k := k - c.utf8Size) (by omega)
      refine ⟨c :: a, d, b, rfl, ?_, ?_⟩
      · rw [encode_cons, List.length_append, String.length_utf8EncodeChar]
        omega
      · rw [encode_cons, List.length_append, String.length_utf8EncodeChar]
        omega

end Utf8

end Text

open Text Text.Utf8

/-- Marks come in the order of rows and, within a row, of columns. -/
instance : Preorder Mark where
  le a b := a.row < b.row ∨ a.row = b.row ∧ a.column ≤ b.column
  le_refl a := .inr ⟨rfl, Nat.le_refl a.column⟩
  le_trans a b c := by
    intro hab hbc
    omega

/-- Positions come in the order of lines and, within a line, of columns. -/
instance : Preorder Position where
  le a b := a.line < b.line ∨ a.line = b.line ∧ a.column ≤ b.column
  le_refl a := .inr ⟨rfl, Int.le_refl a.column⟩
  le_trans a b c := by
    intro hab hbc
    omega

theorem Mark.le_def {a b : Mark} : a ≤ b ↔ a.row < b.row ∨ a.row = b.row ∧ a.column ≤ b.column := Iff.rfl

theorem Position.le_def {a b : Position} :
    a ≤ b ↔ a.line < b.line ∨ a.line = b.line ∧ a.column ≤ b.column := Iff.rfl

instance (a b : Mark) : Decidable (a ≤ b) := decidable_of_iff' _ Mark.le_def

/-- The row and the column of a mark are those of its byte. -/
structure Mark.Matches (bytes : List UInt8) (m : Mark) : Prop where
  row : m.row = (bytes.take m.byte).count 10
  column : m.column = ((bytes.take m.byte).rtakeWhile (· ≠ 10)).length

instance (bytes : List UInt8) (m : Mark) : Decidable (m.Matches bytes) :=
  decidable_of_iff (m.row = (bytes.take m.byte).count 10 ∧
      m.column = ((bytes.take m.byte).rtakeWhile (· ≠ 10)).length)
    ⟨fun ⟨row, column⟩ => ⟨row, column⟩, fun h => ⟨h.row, h.column⟩⟩

/-- The position behind a text that stands in front of it. -/
def Position.behind (before : List Char) : Position where
  line := before.count '\n' + 1
  column := (before.rtakeWhile (· ≠ '\n')).length + 1

namespace SourceBytes

theorem position_mono (src : SourceBytes) {a b : Mark} (h : a ≤ b) : src.position a ≤ src.position b := by
  rw [Mark.le_def] at h
  rw [Position.le_def]
  rcases h with row | ⟨row, column⟩
  · left
    simp only [position]
    omega
  · right
    have more := length_decode_take (src.rows[b.row]?.getD []) column
    have same : src.rows[a.row]?.getD [] = src.rows[b.row]?.getD [] := by rw [row]
    simp only [position, same]
    omega

/-- The position of a mark behind the first characters of a text. -/
theorem position_behind {before rest : List Char} {m : Mark} (hm : m.Matches (encode (before ++ rest)))
    (byte : m.byte = (encode before).length) :
    (ofText (before ++ rest)).position m = Position.behind before := by
  obtain ⟨row, column⟩ := hm
  rw [byte, encode_append, List.take_left] at row column
  have line : (splitOn 10 (encode before ++ encode rest))[m.row]? =
      some ((encode before).rtakeWhile (· ≠ 10) ++ (encode rest).takeWhile (· ≠ 10)) := by
    rw [row, getElem?_splitOn]
  have shown : (ofText (before ++ rest)).position m = ⟨m.row + 1,
      (decode (((splitOn 10 (encode before ++ encode rest))[m.row]?.getD []).take m.column)).length + 1⟩ := by
    rw [← encode_append]
    simp [position, ofText, ofBytes]
  rw [shown, line, Option.getD_some, column, List.take_left, rtakeWhile_encode, decode_encode, row, count_encode]
  rfl

end SourceBytes

end ScriptAudit
