import Mathlib.Data.List.TakeWhile
import ScriptAudit.Log.Logger

namespace ScriptAudit

namespace Text

theorem cellWidth_le (c : Char) : cellWidth c ≤ 2 := by
  unfold cellWidth
  dsimp only
  repeat' split
  all_goals omega

/-- Splitting takes out the marks and nothing else. -/
theorem flatten_splitOn {α : Type} [DecidableEq α] (mark : α) (s : List α) :
    (splitOn mark s).flatten = s.filter (· ≠ mark) := by
  induction s with
  | nil => rfl
  | cons a rest ih =>
    rw [splitOn]
    split
    next same => rw [List.flatten_cons, List.nil_append, ih, List.filter_cons_of_neg (by simpa using same)]
    next other =>
      rw [List.filter_cons_of_pos (by simpa using other), ← ih]
      split
      next none => exact absurd none (splitOn_ne_nil mark rest)
      next piece pieces found => rw [found]; rfl

end Text

namespace Terminal

open Text (cells cellWidth cells_append)

/-- What is seen of a text. -/
def ink (s : List Char) : List Char := s.filter fun c => !Text.isBlank c

theorem ink_append (s t : List Char) : ink (s ++ t) = ink s ++ ink t := List.filter_append s t

theorem ink_blanks (n : Nat) : ink (blanks n) = [] := by
  rw [ink, blanks, List.filter_replicate]
  rfl

theorem ink_expandTabs (size column : Nat) (s : List Char) : ink (expandTabs size column s) = ink s := by
  induction s generalizing column with
  | nil => rfl
  | cons c rest ih =>
    rw [expandTabs]
    split
    next tab =>
      subst tab
      rw [ink_append, ink_blanks, ih]
      rfl
    next => rw [← List.singleton_append, ink_append, ih, ← ink_append, List.singleton_append]

/-! ### Blanks at the end -/

theorem ink_dropped (s : List Char) : ∃ rest, s = trimEnd s ++ rest ∧ ink rest = [] := by
  refine ⟨(s.reverse.takeWhile Text.isBlank).reverse, ?_, ?_⟩
  · rw [trimEnd, ← List.reverse_append, List.takeWhile_append_dropWhile, List.reverse_reverse]
  · rw [ink, List.filter_eq_nil_iff]
    intro c hc
    simpa using List.all_eq_true.mp List.all_takeWhile c (List.mem_reverse.mp hc)

theorem ink_trimEnd (s : List Char) : ink (trimEnd s) = ink s := by
  obtain ⟨rest, whole, unseen⟩ := ink_dropped s
  have seen := congrArg ink whole
  rw [ink_append, unseen, List.append_nil] at seen
  exact seen.symm

theorem cells_trimEnd_le (s : List Char) : cells (trimEnd s) ≤ cells s := by
  obtain ⟨rest, whole, -⟩ := ink_dropped s
  have size := congrArg cells whole
  rw [cells_append] at size
  omega

/-- The text behind another one takes at most its own cells without the blanks at its end. -/
theorem cells_trimEnd_append_le (s t : List Char) : cells (trimEnd (s ++ t)) ≤ cells s + cells (trimEnd t) := by
  have reversed : trimEnd (s ++ t) = if t.reverse.all Text.isBlank then trimEnd s else s ++ trimEnd t := by
    rw [trimEnd, List.reverse_append, List.dropWhile_append]
    have ended : (t.reverse.dropWhile Text.isBlank).isEmpty = t.reverse.all Text.isBlank := by
      rw [Bool.eq_iff_iff, List.isEmpty_iff, List.dropWhile_eq_nil_iff, List.all_eq_true]
    rw [ended]
    split
    · rfl
    · rw [List.reverse_append, List.reverse_reverse]
      rfl
  rw [reversed]
  split
  · exact (cells_trimEnd_le s).trans (Nat.le_add_right _ _)
  · exact (cells_append s (trimEnd t)).le

/-! ### Cut lines -/

theorem crop_append {width : Nat} {s : List Char} (fits : cells s ≤ width) (t : List Char) :
    crop width (s ++ t) = s ++ crop (width - cells s) t := by
  induction s generalizing width with
  | nil => rfl
  | cons c rest ih =>
    rw [Text.cells_cons] at fits
    rw [List.cons_append, crop, if_pos (by omega), ih (by omega), Text.cells_cons, Nat.sub_add_eq]
    rfl

theorem ink_crop {width : Nat} {s : List Char} (unseen : ink s = []) : ink (crop width s) = [] := by
  induction s generalizing width with
  | nil => rfl
  | cons c rest ih =>
    obtain ⟨first, others⟩ := List.append_eq_nil_iff.mp ((ink_append [c] rest).symm.trans unseen)
    rw [crop]
    split
    · rw [← List.singleton_append, ink_append, first, ih others]
      rfl
    · exact ink_blanks width

/-- A line that fits but for blanks at its end loses only those. -/
theorem ink_crop_dropExcess {width : Nat} {l : Line} (fits : cells (trimEnd l) ≤ width) :
    ink (crop width (dropExcess width l)) = ink l := by
  obtain ⟨rest, whole, unseen⟩ := ink_dropped l
  have kept : ∃ some, dropExcess width l = trimEnd l ++ some ∧ ink some = [] := by
    refine ⟨rest.take (max (trimEnd l).length (min width l.length) - (trimEnd l).length), ?_, ?_⟩
    · have taken := congrArg (List.take (max (trimEnd l).length (min width l.length))) whole
      rwa [List.take_append, List.take_of_length_le (Nat.le_max_left _ _)] at taken
    · rw [ink, List.filter_eq_nil_iff] at unseen ⊢
      intro c hc
      exact unseen c (List.mem_of_mem_take hc)
  obtain ⟨some, taken, blank⟩ := kept
  rw [taken, crop_append fits, ink_append, ink_crop blank, List.append_nil, ink_trimEnd]

/-! ### Words and lines -/

theorem ink_words (word : List Char) (started : Bool) (s : List Char) (blank : started = false → ink word = []) :
    ink (wordsFrom word started s).flatten = ink (word ++ s) := by
  induction s generalizing word started with
  | nil =>
    rw [wordsFrom, List.append_nil]
    split
    · simp
    next unstarted => exact (blank (by simpa using unstarted)).symm
  | cons c rest ih =>
    rw [wordsFrom]
    split
    next isBlank =>
      rw [ih, List.append_assoc, List.singleton_append]
      intro unstarted
      rw [ink_append, blank unstarted]
      simp [ink, isBlank]
    split
    next => rw [List.flatten_cons, ink_append, ih _ _ (by simp), ← ink_append, List.singleton_append]
    next => rw [ih _ _ (by simp), List.append_assoc, List.singleton_append]

theorem flatten_chop (width : Nat) (piece s : List Char) : (chop width piece s).flatten = piece ++ s := by
  induction s generalizing piece with
  | nil => simp [chop]
  | cons c rest ih =>
    rw [chop]
    split
    · rw [List.flatten_cons, ih, List.singleton_append]
    · rw [ih, List.append_assoc, List.singleton_append]

theorem chop_ne_nil (width : Nat) (piece s : List Char) : chop width piece s ≠ [] := by
  induction s generalizing piece with
  | nil => exact List.cons_ne_nil _ _
  | cons c rest ih =>
    rw [chop]
    split
    · exact List.cons_ne_nil _ _
    · exact ih _

theorem cells_chop_le {width : Nat} (wide : 2 ≤ width) {piece : List Char} (fits : cells piece ≤ width)
    (s : List Char) : ∀ p ∈ chop width piece s, cells p ≤ width := by
  induction s generalizing piece with
  | nil => simpa [chop] using fits
  | cons c rest ih =>
    have one : cells [c] ≤ width := (Nat.le_of_eq (Nat.add_zero _)).trans ((Text.cellWidth_le c).trans wide)
    rw [chop]
    split
    next => exact List.forall_mem_cons.mpr ⟨fits, ih one⟩
    next enough =>
      apply ih
      rw [cells_append]
      exact Nat.le_of_not_lt enough

/-- The pieces of a word: those that fill lines, and the one that begins the next line. -/
theorem chop_eq (width : Nat) (word : List Char) :
    chop width [] word = (chop width [] word).dropLast ++ [(chop width [] word).getLastD []] := by
  rw [List.getLastD_eq_getLast?, List.getLast?_eq_some_getLast (chop_ne_nil width [] word), Option.getD_some,
    List.dropLast_concat_getLast]

theorem flatten_fill (width : Nat) (line : Line) (words : List (List Char)) :
    (fill width line words).flatten = line ++ words.flatten := by
  have begun (line : Line) : (if line.isEmpty then [] else [line]).flatten = line := by
    cases line with
    | nil => rfl
    | cons c rest => simp
  induction words generalizing line with
  | nil => simp [fill]
  | cons word rest ih =>
    rw [fill]
    dsimp only
    split
    · rw [ih, List.flatten_cons, List.append_assoc]
    split
    · have pieces := congrArg List.flatten (chop_eq width word)
      rw [flatten_chop, List.flatten_append, List.nil_append, List.flatten_singleton] at pieces
      rw [List.flatten_append, List.flatten_append, begun, ih, List.flatten_cons, List.append_assoc,
        ← List.append_assoc (List.flatten _), ← pieces]
    · rw [List.flatten_append, begun, ih, List.flatten_cons]

theorem cells_fill_le {width : Nat} (wide : 2 ≤ width) {line : Line} (fits : cells (trimEnd line) ≤ width)
    (words : List (List Char)) : ∀ l ∈ fill width line words, cells (trimEnd l) ≤ width := by
  induction words generalizing line with
  | nil => simpa [fill] using fits
  | cons word rest ih =>
    have done : ∀ l ∈ (if line.isEmpty then [] else [line]), cells (trimEnd l) ≤ width := by
      intro l hl
      split at hl
      · cases hl
      · rwa [List.mem_singleton.mp hl]
    rw [fill]
    dsimp only
    split
    next enough => exact ih ((cells_trimEnd_append_le line word).trans enough)
    split
    next =>
      have pieces := cells_chop_le wide (show cells [] ≤ width from Nat.zero_le width) word
      rw [chop_eq, List.forall_mem_append, List.forall_mem_singleton] at pieces
      simp only [List.forall_mem_append]
      exact ⟨⟨done, fun p hp => (cells_trimEnd_le p).trans (pieces.1 p hp)⟩,
        ih ((cells_trimEnd_le _).trans pieces.2)⟩
    next size => exact List.forall_mem_append.mpr ⟨done, ih (Nat.le_of_not_lt size)⟩

theorem ink_flatten_map {f : Line → Line} {lines : List Line} (h : ∀ l ∈ lines, ink (f l) = ink l) :
    ink (lines.map f).flatten = ink lines.flatten := by
  induction lines with
  | nil => rfl
  | cons l rest ih =>
    rw [List.forall_mem_cons] at h
    rw [List.map_cons, List.flatten_cons, List.flatten_cons, ink_append, ink_append, h.1, ih h.2]

/-- Lines hold all that is seen of a text, in order, if a wide character fits on one. -/
theorem ink_wrapLine {width : Nat} (wide : 2 ≤ width) (s : List Char) : ink (wrapLine width s).flatten = ink s := by
  have all := ink_words [] false (expandTabs 8 0 s) fun _ => rfl
  rw [List.nil_append, ink_expandTabs, ← words] at all
  rw [wrapLine]
  split
  next none =>
    -- Nothing is seen of a text without words, however much of it is cut off.
    rw [none] at all
    have unseen : ink (expandTabs 8 0 s) = [] := by rw [ink_expandTabs, ← all]; rfl
    have blank : ink (dropExcess width (expandTabs 8 0 s)) = [] := by
      rw [ink, List.filter_eq_nil_iff] at unseen ⊢
      intro c hc
      exact unseen c (List.mem_of_mem_take hc)
    rw [List.map_singleton, List.flatten_singleton, ink_crop blank, ← all]
    rfl
  next _ =>
    have fits := cells_fill_le wide (show cells (trimEnd []) ≤ width from Nat.zero_le width)
      (words (expandTabs 8 0 s))
    rw [ink_flatten_map fun l hl => ink_crop_dropExcess (fits l hl), flatten_fill, List.nil_append, all]

/-- Wrapping keeps all that is seen of a text. -/
theorem ink_wrap {width : Nat} (wide : 2 ≤ width) (s : List Char) :
    ink (wrap width s).flatten = ink (s.filter fun c => !isControl c) := by
  have lines (pieces : List (List Char)) : ink (pieces.flatMap (wrapLine width)).flatten = ink pieces.flatten := by
    induction pieces with
    | nil => rfl
    | cons piece rest ih =>
      rw [List.flatMap_cons, List.flatten_append, ink_append, ink_wrapLine wide, ih, List.flatten_cons, ink_append]
  have breaks (t : List Char) : ink (t.filter (· ≠ '\n')) = ink t := by
    rw [ink, ink, List.filter_filter]
    congr 1
    funext c
    by_cases lineBreak : c = '\n'
    · rw [lineBreak]
      decide
    · simp [lineBreak]
  rw [wrap, lines, Text.lines, Text.flatten_splitOn, breaks]

theorem ink_pad (width : Nat) (s : Line) : ink (pad width s) = ink s := by
  rw [pad, ink_append, ink_blanks, List.append_nil]

end Terminal

open Terminal

/-- The lines of a record show its level and then its text; what is not seen of the text is blank or a control
character. -/
theorem Record.ink_lines {width : Nat} (wide : 11 ≤ width) (r : Record) : ink (r.lines width).flatten =
    r.level.name.toList ++ ink (r.text.toList.filter fun c => !isControl c) := by
  have name : ink (pad 8 r.level.name.toList ++ [' ']) = r.level.name.toList := by
    rw [ink_append, ink_pad]
    cases r.level <;> rfl
  have indented (lines : List Line) : ink (lines.map (blanks 9 ++ ·)).flatten = ink lines.flatten := by
    apply ink_flatten_map
    intro l _
    rw [ink_append, ink_blanks, List.nil_append]
  have column := ink_wrap (show 2 ≤ width - 9 by omega) r.text.toList
  rw [← ink_flatten_map (f := pad (width - 9)) fun l _ => ink_pad _ l] at column
  rw [lines]
  split
  next none =>
    rw [none] at column
    rw [List.flatten_singleton, name, ← column]
    exact (List.append_nil _).symm
  next first rest found =>
    rw [found, List.flatten_cons, ink_append] at column
    rw [List.flatten_cons, ink_append, ink_append, name, indented, ← column, List.append_assoc]

end ScriptAudit
