import ScriptAudit.Proofs.TextPlaces
import ScriptAudit.Suppression

namespace ScriptAudit

namespace Suppression

/-- What starts a comment. -/
def openers : List (List Char) := [['/', '/'], ['/', '*']]

/-- The line can be cut into some text, the start of a comment, blanks, the keyword and a rest, and a word boundary lies
before the rest. -/
def Marked (keyword line : List Char) : Prop :=
  ∃ before, ∃ opener ∈ openers, ∃ blanks rest,
    line = before ++ opener ++ blanks ++ keyword ++ rest ∧ (∀ c ∈ blanks, Text.isBlank c) ∧
    Text.isBoundary (before ++ opener ++ blanks ++ keyword).getLast? rest.head?

/-! ### The search -/

theorem startsKeyword_iff (keyword : List Char) (last : Char) (s : List Char) :
    startsKeyword keyword last s ↔ ∃ blanks rest, s = blanks ++ keyword ++ rest ∧
      (∀ c ∈ blanks, Text.isBlank c) ∧ Text.isBoundary (last :: (blanks ++ keyword)).getLast? rest.head? := by
  induction s generalizing last with
  | nil =>
    simp only [startsKeyword, Bool.and_eq_true, List.isEmpty_iff]
    constructor
    · rintro ⟨rfl, boundary⟩
      exact ⟨[], [], rfl, by simp, boundary⟩
    · rintro ⟨blanks, rest, parts, -, boundary⟩
      obtain ⟨rfl, rfl, rfl⟩ : blanks = [] ∧ keyword = [] ∧ rest = [] := by simpa using parts
      exact ⟨rfl, boundary⟩
  | cons c s ih =>
    have ends : (last :: keyword).getLast? = some (keyword.getLastD last) := by
      rw [List.getLast?_cons, List.getLastD_eq_getLast?]
    simp only [startsKeyword, Bool.or_eq_true, Bool.and_eq_true, List.isPrefixOf_iff_prefix, ih c]
    constructor
    · rintro (⟨⟨rest, start⟩, boundary⟩ | ⟨blank, blanks, rest, rfl, allBlank, boundary⟩)
      · rw [← start, List.drop_left, ← ends] at boundary
        exact ⟨[], rest, start.symm, by simp, boundary⟩
      · refine ⟨c :: blanks, rest, rfl, by simpa [blank] using allBlank, ?_⟩
        rwa [List.cons_append, List.getLast?_cons_cons]
    · rintro ⟨blanks, rest, parts, allBlank, boundary⟩
      cases blanks with
      | nil =>
        have start : c :: s = keyword ++ rest := parts
        left
        refine ⟨⟨rest, start.symm⟩, ?_⟩
        rwa [start, List.drop_left, ← ends]
      | cons b blanks =>
        obtain ⟨rfl, rfl⟩ : c = b ∧ s = blanks ++ keyword ++ rest := by simpa using parts
        right
        rw [List.cons_append, List.getLast?_cons_cons] at boundary
        exact ⟨allBlank c List.mem_cons_self, blanks, rest, rfl,
          fun b hb => allBlank b (List.mem_cons_of_mem c hb), boundary⟩

theorem startsMark_iff (keyword s : List Char) :
    startsMark keyword s ↔ ∃ opener ∈ openers, ∃ blanks rest, s = opener ++ blanks ++ keyword ++ rest ∧
      (∀ c ∈ blanks, Text.isBlank c) ∧ Text.isBoundary (opener ++ blanks ++ keyword).getLast? rest.head? := by
  -- The two openers differ in their second character only, and that is the one before the blanks.
  have opened (c : Char) (rest : List Char) : (∃ blanks behind, '/' :: c :: rest = ['/', c] ++ blanks ++ keyword ++ behind ∧
      (∀ c ∈ blanks, Text.isBlank c) ∧ Text.isBoundary (['/', c] ++ blanks ++ keyword).getLast? behind.head?) ↔
      startsKeyword keyword c rest := by
    simp [startsKeyword_iff]
  simp only [openers, List.mem_cons, List.not_mem_nil, or_false, exists_eq_or_imp, exists_eq_left]
  unfold startsMark
  split
  next rest => simp [← opened]
  next rest => simp [← opened]
  next noSlash noStar =>
    constructor
    · intro impossible
      cases impossible
    · rintro (⟨blanks, rest, rfl, -⟩ | ⟨blanks, rest, rfl, -⟩)
      · exact absurd rfl (noSlash (blanks ++ keyword ++ rest))
      · exact absurd rfl (noStar (blanks ++ keyword ++ rest))

theorem ne_nil_of_mem_openers {opener : List Char} (h : opener ∈ openers) : opener ≠ [] := by
  simp only [openers, List.mem_cons, List.not_mem_nil, or_false] at h
  rcases h with rfl | rfl <;> simp

/-- What stands further in front of a comment does not matter to the boundary behind its keyword. -/
theorem getLast?_cons_of_opener {opener : List Char} (h : opener ∈ openers) (c : Char) (before blanks keyword : List Char) :
    (c :: before ++ opener ++ blanks ++ keyword).getLast? = (before ++ opener ++ blanks ++ keyword).getLast? := by
  have nonempty : before ++ opener ++ blanks ++ keyword ≠ [] := by simp [ne_nil_of_mem_openers h]
  exact List.getLast?_append_of_ne_nil [c] nonempty

/-- The search finds a mark exactly in the lines that can be cut into the parts of one. -/
theorem marks_iff (keyword line : List Char) : marks keyword line ↔ Marked keyword line := by
  induction line with
  | nil =>
    simp only [marks, Bool.false_eq_true, false_iff]
    rintro ⟨before, opener, hopener, blanks, rest, parts, -⟩
    simp [ne_nil_of_mem_openers hopener] at parts
  | cons c line ih =>
    simp only [marks, Bool.or_eq_true, startsMark_iff, ih]
    constructor
    · rintro (⟨opener, hopener, blanks, rest, parts, allBlank, boundary⟩ |
        ⟨before, opener, hopener, blanks, rest, rfl, allBlank, boundary⟩)
      · exact ⟨[], opener, hopener, blanks, rest, parts, allBlank, boundary⟩
      · rw [← getLast?_cons_of_opener hopener c] at boundary
        exact ⟨c :: before, opener, hopener, blanks, rest, rfl, allBlank, boundary⟩
    · rintro ⟨before, opener, hopener, blanks, rest, parts, allBlank, boundary⟩
      cases before with
      | nil => exact .inl ⟨opener, hopener, blanks, rest, parts, allBlank, boundary⟩
      | cons b before =>
        obtain ⟨rfl, rfl⟩ : c = b ∧ line = before ++ opener ++ blanks ++ keyword ++ rest := by simpa using parts
        rw [getLast?_cons_of_opener hopener c] at boundary
        exact .inr ⟨before, opener, hopener, blanks, rest, rfl, allBlank, boundary⟩

/-! ### The lines of findings -/

/-- The line has a number in the text, counted from one. -/
def IsLine (source : String) (n : Int) (line : List Char) : Prop :=
  ∃ k : Nat, n = k + 1 ∧ (Text.lines source.toList)[k]? = some line

theorem line?_eq_some_iff {source : String} {n : Int} {line : List Char} :
    line? (Text.lines source.toList) n = some line ↔ IsLine source n line := by
  unfold line? IsLine
  split
  next positive =>
    constructor
    · intro here
      exact ⟨n.toNat - 1, by omega, here⟩
    · rintro ⟨k, rfl, here⟩
      have index : ((k : Int) + 1).toNat - 1 = k := by omega
      rwa [index]
  next negative =>
    constructor
    · intro impossible
      cases impossible
    · rintro ⟨k, rfl, -⟩
      omega

/-- A line suppresses its findings exactly if it is marked. -/
theorem suppresses_iff {source : String} {keyword : List Char} {n : Int} :
    suppresses keyword (Text.lines source.toList) n ↔ ∃ line, IsLine source n line ∧ Marked keyword line := by
  rw [suppresses, Option.any_eq_true]
  simp only [line?_eq_some_iff, marks_iff]

theorem exists_isLine_iff {source : String} {n : Int} :
    (∃ line, IsLine source n line) ↔ 1 ≤ n ∧ n ≤ (Text.lines source.toList).length := by
  constructor
  · rintro ⟨line, k, rfl, here⟩
    obtain ⟨inside, -⟩ := List.getElem?_eq_some_iff.mp here
    omega
  · rintro ⟨low, high⟩
    have inside : n.toNat - 1 < (Text.lines source.toList).length := by omega
    exact ⟨_, n.toNat - 1, by omega, List.getElem?_eq_getElem inside⟩

theorem IsLine.unique {source : String} {n : Int} {a b : List Char} (ha : IsLine source n a) (hb : IsLine source n b) :
    a = b := by
  rw [← line?_eq_some_iff] at ha hb
  exact Option.some.inj (ha.symm.trans hb)

end Suppression

open Suppression

theorem mem_unsuppressed {findings : List Finding} {source keyword : String} {f : Finding} :
    f ∈ unsuppressed findings source keyword ↔
      f ∈ findings ∧ ¬ ∃ line, IsLine source f.line line ∧ Marked keyword.toList line := by
  rw [unsuppressed, List.mem_filter, ← suppresses_iff]
  simp

/-- The findings of a line. -/
def onLine (n : Int) (findings : List Finding) : List Finding := findings.filter (·.line == n)

/-- Findings of a line are kept all together or dropped all together. -/
theorem onLine_unsuppressed (findings : List Finding) (source keyword : String) (n : Int) :
    onLine n (unsuppressed findings source keyword) =
      if suppresses keyword.toList (Text.lines source.toList) n then [] else onLine n findings := by
  rw [onLine, onLine, unsuppressed, List.filter_filter]
  split
  next dropped =>
    rw [List.filter_eq_nil_iff]
    intro f _
    by_cases here : f.line = n
    · simp [here, dropped]
    · simp [here]
  next kept =>
    apply List.filter_congr
    intro f _
    by_cases here : f.line = n
    · simp [here, kept]
    · simp [here]

/-- The findings that stay are those, in their order, whose number is not that of a line or whose line cannot be cut into
the parts of a mark. So the findings of a line have one fate, and it depends on that line only. -/
theorem unsuppressed_exact (findings : List Finding) (source keyword : String) :
    (∃ keeps : Finding → Bool, unsuppressed findings source keyword = findings.filter keeps ∧
      ∀ f, keeps f ↔ ¬ (1 ≤ f.line ∧ f.line ≤ (Text.lines source.toList).length) ∨
        ∃ line, IsLine source f.line line ∧ ¬ Marked keyword.toList line) ∧
    (∀ n, onLine n (unsuppressed findings source keyword) = onLine n findings ∨
      onLine n (unsuppressed findings source keyword) = []) ∧
    ∀ n other, (∀ line, IsLine other n line ↔ IsLine source n line) →
      onLine n (unsuppressed findings other keyword) = onLine n (unsuppressed findings source keyword) := by
  refine ⟨⟨fun f => !suppresses keyword.toList (Text.lines source.toList) f.line, rfl, ?_⟩, ?_, ?_⟩
  · intro f
    rw [Bool.not_eq_true', ← Bool.not_eq_true, suppresses_iff, ← exists_isLine_iff]
    constructor
    · intro unmarked
      by_cases here : ∃ line, IsLine source f.line line
      · obtain ⟨line, hline⟩ := here
        exact .inr ⟨line, hline, fun marked => unmarked ⟨line, hline, marked⟩⟩
      · exact .inl here
    · rintro (outside | ⟨line, hline, unmarked⟩) ⟨other, hother, marked⟩
      · exact outside ⟨other, hother⟩
      · exact unmarked (hother.unique hline ▸ marked)
  · intro n
    rw [onLine_unsuppressed]
    split
    · exact .inr rfl
    · exact .inl rfl
  · intro n other same
    have fate : suppresses keyword.toList (Text.lines other.toList) n =
        suppresses keyword.toList (Text.lines source.toList) n := by
      rw [Bool.eq_iff_iff, suppresses_iff, suppresses_iff]
      simp only [same]
    rw [onLine_unsuppressed, onLine_unsuppressed, fate]

theorem line_beside_changed_line :
    let f : Finding := ⟨"magic-number", "m", 2, 5⟩
    onLine 2 (unsuppressed [f, f] "x // ok\ny = 5; //ok" "ok") =
      onLine 2 (unsuppressed [f, f] "\ny = 5; //ok" "ok") := by
  intro f
  apply (unsuppressed_exact [f, f] "\ny = 5; //ok" "ok").2.2 2
  intro line
  have same : line? (Text.lines "x // ok\ny = 5; //ok".toList) 2 = line? (Text.lines "\ny = 5; //ok".toList) 2 := by
    decide
  rw [← line?_eq_some_iff, ← line?_eq_some_iff, same]

/-! ### Comments with a keyword -/

namespace Suppression

theorem isBoundary_of_word {last : Char} (word : Text.isWordChar last) {after : Option Char}
    (h : ∀ c, after = some c → ¬ Text.isWordChar c) : Text.isBoundary (some last) after := by
  cases after with
  | none => simp [Text.isBoundary, word]
  | some c =>
    have other : Text.isWordChar c = false := by simpa using h c rfl
    simp [Text.isBoundary, word, other]

section Keyword

open scoped List

variable {keyword : List Char} {last : Char}

/-- A comment up to the end of the line marks it. -/
theorem marked_of_lineComment (ends : keyword.getLast? = some last) (word : Text.isWordChar last) {line : List Char}
    (h : "// ".toList ++ keyword <:+ line) : Marked keyword line := by
  obtain ⟨before, rfl⟩ := h
  refine ⟨before, ['/', '/'], by simp [openers], [' '], [], by simp, List.forall_mem_singleton.mpr (by decide), ?_⟩
  rw [List.getLast?_append, ends]
  exact isBoundary_of_word word (by simp)

/-- A closed comment marks its line. -/
theorem marked_of_blockComment (ends : keyword.getLast? = some last) (word : Text.isWordChar last) {line : List Char}
    (h : "/* ".toList ++ keyword ++ " */".toList <:+: line) : Marked keyword line := by
  obtain ⟨before, after, rfl⟩ := h
  refine ⟨before, ['/', '*'], by simp [openers], [' '], [' ', '*', '/'] ++ after, by simp,
    List.forall_mem_singleton.mpr (by decide), ?_⟩
  rw [List.getLast?_append, ends]
  apply isBoundary_of_word word
  intro c first
  obtain rfl : ' ' = c := by simpa using first
  decide

/-- A keyword that does not end in a word needs a word behind it. Where the rest of the line holds no word, it marks
nothing. -/
theorem not_marked_of_no_word (ends : keyword.getLast? = some last) (noWord : ¬ Text.isWordChar last)
    {front back : List Char} (h : (front ++ back).all (!Text.isWordChar ·)) :
    ¬ Marked keyword (front ++ keyword ++ back) := by
  rintro ⟨before, opener, -, blanks, rest, parts, -, boundary⟩
  -- The keyword may stand at another place of the line, but what is left over are the same characters.
  have same : (front ++ back).Perm (before ++ opener ++ blanks ++ rest) := by
    rw [← List.perm_append_left_iff keyword]
    calc keyword ++ (front ++ back)
      _ ~ front ++ (keyword ++ back) := List.perm_append_comm_assoc keyword front back
      _ = before ++ opener ++ blanks ++ (keyword ++ rest) := by simpa using parts
      _ ~ keyword ++ (before ++ opener ++ blanks ++ rest) := List.perm_append_comm_assoc _ keyword rest
  rw [List.getLast?_append, ends, Option.some_or] at boundary
  have behind : rest.head?.any Text.isWordChar := by simpa [Text.isBoundary, noWord] using boundary
  rw [Option.any_eq_true] at behind
  obtain ⟨c, first, word⟩ := behind
  have left_ : c ∈ before ++ opener ++ blanks ++ rest := List.mem_append_right _ (List.mem_of_mem_head? first)
  have noWords := List.all_eq_true.mp h c (same.mem_iff.mpr left_)
  simp [word] at noWords

end Keyword

/-- The only line of a text without line breaks. -/
theorem isLine_of_oneLine {source : String} (h : '\n' ∉ source.toList) {n : Int} {line : List Char} :
    IsLine source n line ↔ n = 1 ∧ line = source.toList := by
  unfold IsLine
  rw [Text.lines, Text.splitOn_of_not_mem h]
  constructor
  · rintro ⟨k, rfl, here⟩
    obtain ⟨rfl, same⟩ : k = 0 ∧ source.toList = line := by simpa [List.getElem?_singleton] using here
    exact ⟨rfl, same.symm⟩
  · rintro ⟨rfl, rfl⟩
    exact ⟨0, rfl, rfl⟩

end Suppression

theorem unsuppressed_of_unmarked {source keyword : String} (h : '\n' ∉ source.toList)
    (unmarked : ¬ Marked keyword.toList source.toList) (findings : List Finding) :
    unsuppressed findings source keyword = findings := by
  rw [unsuppressed, List.filter_eq_self]
  intro f _
  rw [Bool.not_eq_true', ← Bool.not_eq_true, suppresses_iff]
  rintro ⟨line, here, marked⟩
  obtain ⟨-, rfl⟩ := (isLine_of_oneLine h).mp here
  exact unmarked marked

/-- A comment with the keyword drops the findings of its line if the keyword ends in a word. A keyword that ends in any
other character has no effect: neither kind of comment drops a finding. -/
theorem comments_suppress_by_word (keyword : String) {last : Char} (ends : keyword.toList.getLast? = some last)
    (oneLine : '\n' ∉ keyword.toList) :
    (Text.isWordChar last → ∀ findings source f line, IsLine source f.line line →
      ("// ".toList ++ keyword.toList <:+ line ∨ "/* ".toList ++ keyword.toList ++ " */".toList <:+: line) →
      f ∉ unsuppressed findings source keyword) ∧
    (¬ Text.isWordChar last → ∀ findings, unsuppressed findings ("// " ++ keyword) keyword = findings ∧
      unsuppressed findings ("/* " ++ keyword ++ " */") keyword = findings) := by
  constructor
  · intro word findings source f line here comment
    have marked : Marked keyword.toList line := by
      rcases comment with atEnd | closed
      · exact marked_of_lineComment ends word atEnd
      · exact marked_of_blockComment ends word closed
    rw [mem_unsuppressed]
    rintro ⟨-, unmarked⟩
    exact unmarked ⟨line, here, marked⟩
  · intro noWord findings
    constructor
    · apply unsuppressed_of_unmarked
      · simpa using oneLine
      · have plain : ("// ".toList ++ []).all (!Text.isWordChar ·) := by decide
        simpa using not_marked_of_no_word ends noWord plain
    · apply unsuppressed_of_unmarked
      · simpa using oneLine
      · have plain : ("/* ".toList ++ " */".toList).all (!Text.isWordChar ·) := by decide
        simpa using not_marked_of_no_word ends noWord plain

theorem comments_of_two_keywords :
    let f : Finding := ⟨"magic-number", "m", 1, 5⟩
    f ∉ unsuppressed [f] "x = 5; // ok" "ok" ∧ unsuppressed [f] "// ok!" "ok!" = [f] := by
  intro f
  constructor
  · have ends : "ok".toList.getLast? = some 'k' := by decide
    apply (comments_suppress_by_word "ok" ends (by decide)).1 (by decide) [f] _ f "x = 5; // ok".toList
    · exact ⟨0, rfl, by decide⟩
    · exact .inl ⟨"x = 5; ".toList, by decide⟩
  · have ends : "ok!".toList.getLast? = some '!' := by decide
    exact ((comments_suppress_by_word "ok!" ends (by decide)).2 (by decide) [f]).1

end ScriptAudit
