import ScriptAudit.Proofs.TextPlaces
import ScriptAudit.Report.Terminal

namespace ScriptAudit

namespace Text

/-- The line without a carriage return at its end. -/
def withoutReturn (l : List Char) : List Char := if l.getLast? = some '\r' then l.dropLast else l

/-- The line holds no carriage return but at its end, where it goes with the line feed. -/
def Unbroken (l : List Char) : Prop := '\r' ∉ withoutReturn l

instance (l : List Char) : Decidable (Unbroken l) := inferInstanceAs (Decidable (_ ∉ _))

theorem withoutReturn_cases (l : List Char) : l = withoutReturn l ∨ l = withoutReturn l ++ ['\r'] := by
  rw [withoutReturn]
  split
  next last => exact .inr (List.dropLast_append_getLast? '\r' last).symm
  next => exact .inl rfl

theorem lineFeeds_cons_of_ne {c : Char} (h : c ≠ '\r') (rest : List Char) :
    lineFeeds (c :: rest) = c :: lineFeeds rest := by
  rw [lineFeeds]
  · intro _ same
    exact absurd same h
  · exact h

theorem lineFeeds_append {a : List Char} (h : '\r' ∉ a) (rest : List Char) :
    lineFeeds (a ++ rest) = a ++ lineFeeds rest := by
  induction a with
  | nil => rfl
  | cons c more ih =>
    obtain ⟨hc, hmore⟩ := List.ne_and_not_mem_of_not_mem_cons h
    rw [List.cons_append, lineFeeds_cons_of_ne (Ne.symm hc), ih hmore, List.cons_append]

theorem lineFeeds_return_of_ne {d : Char} (h : d ≠ '\n') (rest : List Char) :
    lineFeeds ('\r' :: d :: rest) = '\n' :: lineFeeds (d :: rest) := by
  rw [lineFeeds]
  intro _ same
  exact h (List.cons.inj same).1

/-- A line feed keeps what is on its two sides apart. -/
theorem lineFeeds_append_lineFeed (a rest : List Char) :
    lineFeeds (a ++ '\n' :: rest) = lineFeeds (a ++ ['\n']) ++ lineFeeds rest := by
  fun_induction lineFeeds a with
  | case1 more ih => simp only [List.cons_append, lineFeeds, ih]
  | case2 more alone ih =>
    cases more with
    | nil => rfl
    | cons d more =>
      have hd : d ≠ '\n' := fun same => alone more (by rw [same])
      rw [List.cons_append] at ih
      simp only [List.cons_append, lineFeeds_return_of_ne hd, ih]
  | case3 c more _ hc ih => simp only [List.cons_append, lineFeeds_cons_of_ne hc, ih]
  | case4 => rfl

theorem lines_append_cons {a : List Char} (h : '\n' ∉ a) (b : List Char) : lines (a ++ '\n' :: b) = a :: lines b :=
  splitOn_append_cons h b

theorem lines_append_lineFeed (s : List Char) : lines (s ++ ['\n']) = lines s ++ [[]] :=
  splitOn_append_mark '\n' s

theorem joinWith_append_mark {α : Type} (mark : α) {pieces : List (List α)} (some : pieces ≠ []) :
    joinWith [mark] pieces ++ [mark] = pieces.flatMap (· ++ [mark]) := by
  induction pieces with
  | nil => exact absurd rfl some
  | cons p rest ih =>
    cases rest with
    | nil => simp [joinWith]
    | cons q more =>
      rw [joinWith_cons_cons, List.append_assoc, ih (List.cons_ne_nil q more)]
      rfl

end Text

namespace Report

open Terminal Text

theorem expandTabsByChar_append (size : Nat) {c : Char} (hc : c = '\n' ∨ c = '\r') (a b : List Char) (column : Nat) :
    expandTabsByChar size column (a ++ c :: b) =
      expandTabsByChar size column a ++ c :: expandTabsByChar size 0 b := by
  induction a generalizing column with
  | nil => rcases hc with rfl | rfl <;> rfl
  | cons d rest ih =>
    simp only [List.cons_append, expandTabsByChar, ih]
    split
    · rw [List.append_assoc]
    · split
      · rfl
      · rfl

theorem mem_expandTabsByChar {size column : Nat} {c : Char} {s : List Char}
    (h : c ∈ expandTabsByChar size column s) : c = ' ' ∨ c ∈ s := by
  induction s generalizing column with
  | nil => cases h
  | cons d rest ih =>
    have behind {column : Nat} (h : c ∈ expandTabsByChar size column rest) : c = ' ' ∨ c ∈ d :: rest :=
      (ih h).imp_right (List.mem_cons_of_mem d)
    have kept {column : Nat} (h : c ∈ d :: expandTabsByChar size column rest) : c = ' ' ∨ c ∈ d :: rest := by
      rcases List.mem_cons.mp h with rfl | h
      · exact .inr List.mem_cons_self
      · exact behind h
    rw [expandTabsByChar] at h
    split at h
    · rcases List.mem_append.mp h with blank | h
      · exact .inl (List.eq_of_mem_replicate blank)
      · exact behind h
    · split at h
      · exact kept h
      · exact kept h

/-- The code with the line breaks of a terminal. -/
def laidOut (s : List Char) : List Char := lineFeeds (expandTabsByChar 4 0 s)

def visible (s : List Char) : List Char := s.filter fun c => !isControl c

/-- The text without a byte order mark in front. -/
def withoutMark (s : List Char) : List Char := if s.head? == some '\ufeff' then s.drop 1 else s

/-- A line of code as it is drawn. -/
def drawnLine (first : Bool) (l : List Char) : Line :=
  let wide := expandTabsByChar 4 0 (withoutReturn l)
  visible (if first then withoutMark wide else wide)

/-- An unbroken line stays one line. -/
theorem laidOut_line {l : List Char} (unbroken : Unbroken l) (rest : List Char) :
    laidOut (l ++ '\n' :: rest) = expandTabsByChar 4 0 (withoutReturn l) ++ '\n' :: laidOut rest := by
  have plain : '\r' ∉ expandTabsByChar 4 0 (withoutReturn l) := by
    intro h
    rcases mem_expandTabsByChar h with blank | h
    · exact absurd blank (by decide)
    · exact unbroken h
  have cases := withoutReturn_cases l
  generalize withoutReturn l = body at cases plain
  rw [laidOut]
  rcases cases with rfl | rfl
  · rw [expandTabsByChar_append 4 (.inl rfl), lineFeeds_append plain, lineFeeds_cons_of_ne (by decide), laidOut]
  · rw [List.append_assoc, List.singleton_append, expandTabsByChar_append 4 (.inr rfl), lineFeeds_append plain]
    have next : expandTabsByChar 4 0 ('\n' :: rest) = '\n' :: expandTabsByChar 4 0 rest := rfl
    rw [next, lineFeeds, laidOut]

theorem withoutMark_append (a b : List Char) : withoutMark (a ++ '\n' :: b) = withoutMark a ++ '\n' :: b := by
  cases a with
  | nil => rfl
  | cons c rest =>
    simp only [withoutMark, List.cons_append, List.head?_cons, List.drop_succ_cons, List.drop_zero]
    split
    · rfl
    · rfl

theorem visible_append (a b : List Char) : visible (a ++ '\n' :: b) = visible a ++ '\n' :: visible b := by
  rw [visible, List.filter_append, List.filter_cons_of_pos (by decide)]
  rfl

theorem lineFeed_not_mem_drawnLine {l : List Char} (plain : '\n' ∉ l) (first : Bool) : '\n' ∉ drawnLine first l := by
  have wide : '\n' ∉ expandTabsByChar 4 0 (withoutReturn l) := by
    intro h
    rcases mem_expandTabsByChar h with blank | h
    · exact absurd blank (by decide)
    · rcases withoutReturn_cases l with same | ended
      · exact plain (same ▸ h)
      · rw [ended] at plain
        exact plain (List.mem_append_left _ h)
  intro h
  have kept := (List.mem_filter.mp h).1
  cases first with
  | false => exact wide kept
  | true =>
    rw [if_pos rfl, withoutMark] at kept
    split at kept
    · exact wide (List.mem_of_mem_drop kept)
    · exact wide kept

theorem lines_drawnLine {l : List Char} (plain : '\n' ∉ l) (first : Bool) (rest : List Char) :
    lines (drawnLine first l ++ '\n' :: rest) = drawnLine first l :: lines rest :=
  lines_append_cons (lineFeed_not_mem_drawnLine plain first) rest

theorem drawnLine_first (l : List Char) :
    drawnLine true l = visible (withoutMark (expandTabsByChar 4 0 (withoutReturn l))) := rfl

theorem drawnLine_behind (l : List Char) : drawnLine false l = visible (expandTabsByChar 4 0 (withoutReturn l)) := rfl

/-- All lines of code are drawn as if a line feed ended them, also the last one. -/
theorem codeLines_eq (code : List Char) :
    codeLines code = (lines (visible (withoutMark (laidOut (code ++ ['\n']))))).dropLast := by
  by_cases ended : code.getLast? = some '\n'
  · have drawn : codeLines code = lines (visible (withoutMark (laidOut code))) := by
      simp only [codeLines, ended, beq_self_eq_true, if_true]
      rfl
    obtain ⟨front, rfl⟩ : ∃ front, code = front ++ ['\n'] :=
      ⟨code.dropLast, (List.dropLast_append_getLast? '\n' ended).symm⟩
    have more : laidOut (front ++ ['\n'] ++ ['\n']) = laidOut (front ++ ['\n']) ++ ['\n'] := by
      rw [List.append_assoc, laidOut, laidOut, List.singleton_append, expandTabsByChar_append 4 (.inl rfl),
        expandTabsByChar_append 4 (.inl rfl), lineFeeds_append_lineFeed]
      rfl
    have ends : visible (withoutMark (laidOut (front ++ ['\n'])) ++ ['\n']) =
        visible (withoutMark (laidOut (front ++ ['\n']))) ++ ['\n'] := visible_append _ []
    rw [drawn, more, withoutMark_append, ends, lines_append_lineFeed, List.dropLast_concat]
  · have unended : (code.getLast? == some '\n') = false := by simpa using ended
    simp only [codeLines, unended]
    rfl

theorem lines_flatMap {pre : List (List Char)} (unbroken : ∀ l ∈ pre, Unbroken l) (plain : ∀ l ∈ pre, '\n' ∉ l)
    (rest : List Char) : lines (visible (laidOut (pre.flatMap (· ++ ['\n']) ++ rest))) =
      pre.map (drawnLine false) ++ lines (visible (laidOut rest)) := by
  induction pre with
  | nil => rfl
  | cons l pre ih =>
    have behind := ih (fun m hm => unbroken m (List.mem_cons_of_mem l hm)) fun m hm => plain m (List.mem_cons_of_mem l hm)
    rw [List.flatMap_cons, List.append_assoc, List.append_assoc, List.singleton_append,
      laidOut_line (unbroken l List.mem_cons_self), visible_append, ← drawnLine_behind,
      lines_drawnLine (plain l List.mem_cons_self), behind]
    rfl

/-- The first lines of code are drawn one by one, whatever stands behind them. -/
theorem codeLines_joinWith {l : List Char} {pre : List (List Char)} (unbroken : ∀ m ∈ l :: pre, Unbroken m)
    (plain : ∀ m ∈ l :: pre, '\n' ∉ m) (rest : List (List Char)) :
    codeLines (joinWith ['\n'] (l :: (pre ++ rest))) = drawnLine true l :: (pre.map (drawnLine false) ++
      (lines (visible (laidOut (rest.flatMap (· ++ ['\n']))))).dropLast) := by
  have behind := lines_flatMap (fun m hm => unbroken m (List.mem_cons_of_mem l hm))
    (fun m hm => plain m (List.mem_cons_of_mem l hm)) (rest.flatMap (· ++ ['\n']))
  have some : lines (visible (laidOut (rest.flatMap (· ++ ['\n'])))) ≠ [] := splitOn_ne_nil '\n' _
  rw [codeLines_eq, joinWith_append_mark '\n' (List.cons_ne_nil _ _), List.flatMap_cons, List.append_assoc,
    List.singleton_append, laidOut_line (unbroken l List.mem_cons_self), withoutMark_append, visible_append,
    ← drawnLine_first, lines_drawnLine (plain l List.mem_cons_self), List.flatMap_append, behind,
    List.dropLast_cons_of_ne_nil (by simp [some]), List.dropLast_append_of_ne_nil some]

theorem getElem?_codeLines {ls : List (List Char)} {i : Nat} {l : List Char} (h : ls[i]? = some l)
    (unbroken : ∀ m ∈ ls.take (i + 1), Unbroken m) (plain : ∀ m ∈ ls, '\n' ∉ m) :
    (codeLines (joinWith ['\n'] ls))[i]? = some (drawnLine (i == 0) l) := by
  cases ls with
  | nil => cases h
  | cons first others =>
    have split : others = others.take i ++ others.drop i := (List.take_append_drop i others).symm
    have known : ∀ m ∈ first :: others.take i, '\n' ∉ m := by
      intro m hm
      apply plain
      rw [← List.take_succ_cons] at hm
      exact List.mem_of_mem_take hm
    have drawn := codeLines_joinWith (by simpa using unbroken) known (others.drop i)
    rw [← split] at drawn
    rw [drawn]
    cases i with
    | zero =>
      obtain rfl : first = l := by simpa using h
      rfl
    | succ j =>
      have inside : others[j]? = some l := by simpa using h
      have short : j < (others.take (j + 1)).length := by
        have := (List.getElem?_eq_some_iff.mp inside).1
        rw [List.length_take]
        omega
      rw [List.getElem?_cons_succ, List.getElem?_append_left (by simpa using short), List.getElem?_map,
        List.getElem?_take_of_lt (Nat.lt_succ_self j), inside]
      rfl

theorem filter_zipIdx {α : Type} {xs : List α} {i k : Nat} {x : α} (h : xs[i]? = some x) :
    (xs.zipIdx k).filter (fun p => p.2 == k + i) = [(x, k + i)] := by
  induction xs generalizing i k with
  | nil => simp at h
  | cons y rest ih =>
    rw [List.zipIdx_cons]
    cases i with
    | zero =>
      obtain rfl : y = x := by simpa using h
      have behind : (rest.zipIdx (k + 1)).filter (fun p => p.2 == k) = [] := by
        rw [List.filter_eq_nil_iff]
        intro p hp
        have := List.le_snd_of_mem_zipIdx hp
        simp only [beq_iff_eq]
        omega
      simp [behind]
    | succ i =>
      have behind := ih (k := k + 1) (by simpa using h)
      rw [Nat.add_right_comm, Nat.add_assoc] at behind
      rw [List.filter_cons_of_neg (by simp), behind]

/-- The lines around a line of the source, from the one in front of it to the one behind it. -/
theorem snippet_eq {source : List Char} {row : Nat} (inside : row < (lines source).length) :
    snippet source (row + 1) =
      (row - 1, ((lines source).take (min (lines source).length (row + 2))).drop (row - 1)) := by
  have first : ((row : Int) + 1 - 2).toNat = row - 1 := by omega
  have last : (if min ((lines source).length : Int) ((row : Int) + 1 + 1) < 0 then
      (((lines source).length : Int) + min ((lines source).length : Int) ((row : Int) + 1 + 1)).toNat
      else (min ((lines source).length : Int) ((row : Int) + 1 + 1)).toNat) =
      min (lines source).length (row + 2) := by
    rw [if_neg (by omega)]
    omega
  rw [snippet]
  dsimp only [window]
  rw [first, last]

section Window

variable {source line : List Char} {row : Nat} (h : (lines source)[row]? = some line)

include h

theorem getElem?_snippet : (snippet source (row + 1)).2[row - (row - 1)]? = some line := by
  have inside : row < (lines source).length := (List.getElem?_eq_some_iff.mp h).1
  rw [snippet_eq inside, List.getElem?_drop, List.getElem?_take, if_pos (by omega), ← h]
  congr 1
  omega

theorem lineFeed_not_mem_snippet : ∀ l ∈ (snippet source (row + 1)).2, '\n' ∉ l := by
  intro l hl
  rw [snippet_eq (List.getElem?_eq_some_iff.mp h).1] at hl
  exact not_mem_of_mem_splitOn (List.mem_of_mem_take (List.mem_of_mem_drop hl))

end Window

/-- The lines of the code that a report shows around a line of a source, with the numbers it gives them. -/
def snippetLines (source : List Char) (line : Int) : List (List Char × Nat) :=
  (lines (joinWith ['\n'] (snippet source line).2)).zipIdx ((snippet source line).1 + 1)

/-- A report gives the number of a line of the source to that line alone. -/
theorem filter_snippetLines {source line : List Char} {row : Nat} (h : (lines source)[row]? = some line) :
    (snippetLines source (row + 1)).filter (fun p => p.2 == row + 1) = [(line, row + 1)] := by
  have here := getElem?_snippet h
  have pieces : lines (joinWith ['\n'] (snippet source (row + 1)).2) = (snippet source (row + 1)).2 := by
    refine splitOn_joinWith ?_ (lineFeed_not_mem_snippet h)
    intro empty
    rw [empty] at here
    cases here
  have start : (snippet source (row + 1)).1 = row - 1 := by rw [snippet_eq (List.getElem?_eq_some_iff.mp h).1]
  have number : row - 1 + 1 + (row - (row - 1)) = row + 1 := by omega
  have found := filter_zipIdx (k := row - 1 + 1) here
  rw [number] at found
  rw [snippetLines, pieces, start, found]

/-- A row of code with the mark in front. -/
def markedRow (width digits n : Nat) (text : Line) : Line :=
  "❱ ".toList ++ blanks (digits - (number n).length) ++ number n ++ ' ' :: crop (width - digits - 3) text

/-- The mark stands at the row that has the number, and at no other. -/
theorem filter_numbered {code : List Char} {i : Nat} {text : Line} (h : (codeLines code)[i]? = some text)
    (width first : Nat) :
    (numbered width first ((first + i : Nat) : Int) code).filter (fun row => row.head? == some '❱') =
      [markedRow width (number (first + code.count '\n')).length (first + i) text] := by
  have marks (j : Nat) (rest : Line) :
      (((if ((first + j : Nat) : Int) = ((first + i : Nat) : Int) then "❱ ".toList else blanks 2) ++ rest).head? ==
        some '❱') = (j == 0 + i) := by
    by_cases same : j = i
    · rw [if_pos (by rw [same])]
      simp [same]
    · rw [if_neg (by omega)]
      simp [blanks, same, List.replicate_succ]
  have rows := filter_zipIdx (k := 0) h
  rw [numbered]
  dsimp only
  rw [List.filter_map]
  have kept : ((fun row : Line => row.head? == some '❱') ∘ fun (x : Line × Nat) =>
      (if ((first + x.2 : Nat) : Int) = ((first + i : Nat) : Int) then "❱ ".toList else blanks 2) ++
        blanks ((number (first + code.count '\n')).length - (number (first + x.2)).length) ++
        number (first + x.2) ++ ' ' :: crop (width - (number (first + code.count '\n')).length - 3) x.1) =
      fun x => x.2 == 0 + i := by
    funext x
    rw [Function.comp_apply, List.append_assoc, List.append_assoc, marks]
  rw [kept, rows, List.map_singleton, Nat.zero_add, if_pos rfl]
  rfl

/-- The rows of code in the box of a finding on a line. -/
def codeRows (width : Nat) (source : List Char) (line : Int) : List Line :=
  numbered width ((snippet source line).1 + 1) line (joinWith ['\n'] (snippet source line).2)

theorem findingPanel_eq (f : Finding) {source : String} (h : source ≠ "") : ∃ title, ∀ width,
    findingPanel width f (some source) = panel roundFrame width 0 1 title fun w =>
      wrap w f.message.toList ++ [] :: codeRows w source.toList f.line := by
  refine ⟨some (.left, " ".toList ++ f.rule.toList ++ "  Line ".toList ++ Number.intText f.line ++ " ".toList), ?_⟩
  intro width
  simp only [findingPanel, String.isEmpty_iff, h, if_false]
  rfl

/-- The room for the numbers of these rows. -/
def numberWidth (source : List Char) (line : Int) : Nat :=
  (number ((snippet source line).1 + 1 + (joinWith ['\n'] (snippet source line).2).count '\n')).length

/-- The mark stands at the line alone if neither it nor the line in front of it is broken. -/
theorem filter_codeRows {source line : List Char} {row : Nat} (h : (lines source)[row]? = some line)
    (unbroken : ∀ l ∈ ((lines source).take (row + 1)).drop (row - 1), Unbroken l) (width : Nat) :
    (codeRows width source (row + 1)).filter (fun row => row.head? == some '❱') =
      [markedRow width (numberWidth source (row + 1)) (row + 1) (drawnLine (row == 0) line)] := by
  have inside : row < (lines source).length := (List.getElem?_eq_some_iff.mp h).1
  have start : (snippet source (row + 1)).1 = row - 1 := by rw [snippet_eq inside]
  have front : (snippet source (row + 1)).2.take (row - (row - 1) + 1) =
      ((lines source).take (row + 1)).drop (row - 1) := by
    rw [snippet_eq inside, List.take_drop, List.take_take]
    congr 2
    omega
  have drawn := getElem?_codeLines (getElem?_snippet h) (by rwa [front]) (lineFeed_not_mem_snippet h)
  have number : row - 1 + 1 + (row - (row - 1)) = row + 1 := by omega
  have top : (row - (row - 1) == 0) = (row == 0) := by
    rw [Bool.eq_iff_iff, beq_iff_eq, beq_iff_eq]
    omega
  have marked := filter_numbered drawn width (row - 1 + 1)
  rw [number, top] at marked
  rw [codeRows, numberWidth, start, ← marked]
  rfl

-- the second half of a broken line takes the number of the line behind it, and the mark
example : codeRows 40 ";\r;\nvar x;".toList 2 = ["  1 ;".toList, "❱ 2 ;".toList, "  3 var x;".toList] := by
  decide +kernel

end Report

end ScriptAudit
