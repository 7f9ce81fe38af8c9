import ScriptAudit.Proofs.CodeRows
import ScriptAudit.Proofs.SourceOrder

namespace ScriptAudit

open Text.Utf8 ParseTree

namespace Text

/-- The line of a text that holds a byte; the line feed behind a line belongs to it. -/
def LineAt (s : List Char) (k : Nat) (line : List Char) : Prop :=
  ∃ before after, s = before ++ line ++ after ∧ '\n' ∉ line ∧
    (before = [] ∨ before.getLast? = some '\n') ∧ (after = [] ∨ after.head? = some '\n') ∧
    (encode before).length ≤ k ∧ k ≤ (encode (before ++ line)).length

/-- The line around a character, from the line feed before it to the next one. -/
def lineAround (a rest : List Char) : List Char := a.rtakeWhile (· ≠ '\n') ++ rest.takeWhile (· ≠ '\n')

theorem lineAround_plain (a rest : List Char) : '\n' ∉ lineAround a rest := by
  intro h
  rcases List.mem_append.mp h with left | right
  · simpa using List.mem_rtakeWhile_imp left
  · simpa using List.mem_takeWhile_imp right

/-- The line around the character that holds a byte holds the byte. -/
theorem lineAt_lineAround {a b : List Char} {c : Char} {k : Nat} (low : (encode a).length ≤ k)
    (high : k < (encode a).length + c.utf8Size) : LineAt (a ++ c :: b) k (lineAround a (c :: b)) := by
  have front : a.rdropWhile (· ≠ '\n') ++ a.rtakeWhile (· ≠ '\n') = a :=
    List.rdropWhile_append_rtakeWhile
  have whole : a ++ c :: b = a.rdropWhile (· ≠ '\n') ++ lineAround a (c :: b) ++ (c :: b).dropWhile (· ≠ '\n') := by
    rw [lineAround, ← List.append_assoc, front, List.append_assoc, List.takeWhile_append_dropWhile]
  refine ⟨_, _, whole, lineAround_plain a (c :: b), ?_, ?_, ?_, ?_⟩
  · by_cases empty : a.rdropWhile (· ≠ '\n') = []
    · exact .inl empty
    · right
      have last := List.rdropWhile_last_not (· ≠ '\n') a empty
      rw [List.getLast?_eq_some_getLast empty]
      simpa using last
  · cases rest : (c :: b).dropWhile (· ≠ '\n') with
    | nil => exact .inl rfl
    | cons d more =>
      right
      have nonempty : (c :: b).dropWhile (· ≠ '\n') ≠ [] := by
        rw [rest]
        exact List.cons_ne_nil d more
      have head := List.head_dropWhile_not (· ≠ '\n') nonempty
      simp only [rest, List.head_cons] at head
      simpa using head
  · rw [← front, encode_append, List.length_append] at low
    omega
  · rw [lineAround, ← List.append_assoc, front, encode_append, List.length_append]
    by_cases h : c = '\n'
    · have one : c.utf8Size = 1 := by rw [h]; rfl
      omega
    · have first : (c :: b).takeWhile (· ≠ '\n') = c :: b.takeWhile (· ≠ '\n') := by simp [h]
      rw [first, encode_cons, List.length_append, String.length_utf8EncodeChar]
      omega

theorem getElem?_lines (a rest : List Char) : (lines (a ++ rest))[a.count '\n']? = some (lineAround a rest) :=
  getElem?_splitOn '\n' a rest

/-- The row of a byte is that of the character that holds it. -/
theorem count_take_encode {a b : List Char} {c : Char} {k : Nat} (low : (encode a).length ≤ k)
    (high : k < (encode a).length + c.utf8Size) : ((encode (a ++ c :: b)).take k).count 10 = a.count '\n' := by
  obtain ⟨j, rfl⟩ := Nat.exists_eq_add_of_le low
  have cut : (encode (a ++ c :: b)).take ((encode a).length + j) =
      encode a ++ (String.utf8EncodeChar c).take j := by
    have short : j ≤ (String.utf8EncodeChar c).length := by
      rw [String.length_utf8EncodeChar]
      omega
    rw [encode_append, encode_cons, List.take_append, Nat.add_sub_cancel_left, List.take_append_of_le_length short,
      List.take_of_length_le (Nat.le_add_right _ _)]
  have part : ((String.utf8EncodeChar c).take j).count 10 = 0 := by
    by_cases h : c = '\n'
    · have one : c.utf8Size = 1 := by rw [h]; rfl
      have none : j = 0 := by omega
      simp [none]
    · exact List.count_eq_zero_of_not_mem fun mem => lineFeed_not_mem h (List.mem_of_mem_take mem)
  rw [cut, List.count_append, count_encode, part, Nat.add_zero]

/-- A line with a character in it, or with a line feed behind it, counts. -/
theorem count_lt_lineCount (a b : List Char) (c : Char) : a.count '\n' < lineCount (a ++ c :: b) := by
  have length : (lines (a ++ c :: b)).length = (a ++ c :: b).count '\n' + 1 := length_splitOn '\n' _
  rw [List.count_append] at length
  rw [lineCount]
  split
  next empty =>
    obtain ⟨-, last⟩ : _ ∧ (lines (a ++ c :: b)).getLast? = some [] := by simpa using empty
    by_cases h : c = '\n'
    · rw [h, List.count_cons_self] at length
      rw [h, length]
      omega
    · -- the line of the character is not empty, so it is not the last one
      have here := getElem?_lines a (c :: b)
      have full : lineAround a (c :: b) ≠ [] := by simp [lineAround, h]
      by_contra late
      have only : (lines (a ++ c :: b)).length - 1 = a.count '\n' := by omega
      rw [List.getLast?_eq_getElem?, only, here] at last
      exact full (Option.some.inj last)
  next => omega

end Text

/-- The node takes up bytes of the text, and starts in the row and the column of the first of them. -/
structure ParseTree.Covers (bytes : List UInt8) (t : ParseTree) : Prop where
  place : t.start.Matches bytes
  nonempty : t.start.byte < t.stop.byte
  inside : t.stop.byte ≤ bytes.length

instance (bytes : List UInt8) (t : ParseTree) : Decidable (t.Covers bytes) :=
  decidable_of_iff (t.start.Matches bytes ∧ t.start.byte < t.stop.byte ∧ t.stop.byte ≤ bytes.length)
    ⟨fun ⟨place, nonempty, inside⟩ => ⟨place, nonempty, inside⟩, fun h => ⟨h.place, h.nonempty, h.inside⟩⟩

/-- A position lies on a line of the text, which is the one that holds a byte. -/
structure OnLineOf (source : List Char) (k : Nat) (p : Position) (line : List Char) : Prop where
  holds : Text.LineAt source k line
  low : 1 ≤ p.line
  high : p.line ≤ lineCount source
  left : 1 ≤ p.column
  right : p.column ≤ 1 + line.length
  /-- It is the line whose comments are looked at. -/
  tested : Suppression.line? (Text.lines source) p.line = some line
  /-- It is the line, and the only one, to which a report gives the number. -/
  shown : (Report.snippetLines source p.line).filter (fun shown => (shown.2 : Int) == p.line) =
    [(line, p.line.toNat)]
  /-- It is the line at which a box has its mark, unless it or the line in front of it is broken. -/
  drawn : (∀ l ∈ ((Text.lines source).take p.line.toNat).drop (p.line.toNat - 2), Text.Unbroken l) → ∀ width,
    (Report.codeRows width source p.line).filter (fun row => row.head? == some '❱') =
      [Report.markedRow width (Report.numberWidth source p.line) p.line.toNat (Report.drawnLine (p.line == 1) line)]

/-- A mark at a byte of a text has its position on the line of that byte. -/
theorem SourceBytes.position_onLine {s : List Char} {m : Mark} (place : m.Matches (encode s))
    (inside : m.byte < (encode s).length) :
    ∃ line, OnLineOf s m.byte ((ofText s).position m) line := by
  obtain ⟨a, c, b, rfl, low, high⟩ := exists_char_of_lt inside
  have row : m.row = a.count '\n' := place.row.trans (Text.count_take_encode low high)
  have here := Text.getElem?_lines a (c :: b)
  have line : ((ofText (a ++ c :: b)).position m).line = (a.count '\n' : Int) + 1 := by rw [position, row]
  have column : ((ofText (a ++ c :: b)).position m).column ≤ 1 + (Text.lineAround a (c :: b)).length := by
    have bytes : (ofText (a ++ c :: b)).rows[m.row]?.getD [] = encode (Text.lineAround a (c :: b)) := by
      have rows : (Text.splitOn 10 (encode (a ++ c :: b)))[m.row]? = some (encode (Text.lineAround a (c :: b))) := by
        rw [splitOn_encode, List.getElem?_map, row]
        exact congrArg (Option.map encode) here
      rw [ofText, ofBytes, List.getElem?_toArray, rows, Option.getD_some]
    have short := length_decode_take (encode (Text.lineAround a (c :: b)))
      (le_max_left m.column (encode (Text.lineAround a (c :: b))).length)
    rw [List.take_of_length_le (le_max_right _ _), decode_encode] at short
    rw [position, bytes]
    dsimp only
    omega
  have counted := Text.count_lt_lineCount a b c
  have number : ((a.count '\n' : Int) + 1).toNat = a.count '\n' + 1 := by omega
  refine ⟨Text.lineAround a (c :: b), Text.lineAt_lineAround low high, ?_, ?_, ?_, column, ?_, ?_, ?_⟩
  · omega
  · omega
  · rw [position]
    dsimp only
    omega
  · rw [line, Suppression.line?, if_pos (by omega), ← here]
    congr 1
  · have shown := Report.filter_snippetLines here
    rw [line, number, ← shown]
    congr 1
    funext p
    rw [Bool.eq_iff_iff, beq_iff_eq, beq_iff_eq]
    omega
  · intro unbroken width
    have top : ((a.count '\n' : Int) + 1 == 1) = (a.count '\n' == 0) := by
      rw [Bool.eq_iff_iff, beq_iff_eq, beq_iff_eq]
      omega
    rw [line, number] at unbroken
    rw [line, number, top]
    exact Report.filter_codeRows here unbroken width

/-- No rule finds anything at the program itself. -/
theorem Catalog.findingsAt_program {settings : Option Settings} {r : Rule}
    (hr : r ∈ Catalog.ofSettings settings) (source : String) (s : Step) {l : Location} {body : List Node}
    (program : s.node = .program l body) : r.findingsAt source s = [] := by
  have rule : ∃ given : Settings, r ∈ Catalog.full given := by
    cases settings with
    | none => exact ⟨{}, hr⟩
    | some given => exact ⟨given, (List.mem_filter.mp hr).1⟩
  obtain ⟨given, hr⟩ := rule
  have clear : r.flags (r.view source s) = some false := by
    simp only [full, List.mem_cons, List.not_mem_nil, or_false] at hr
    rcases hr with rfl | rfl | rfl | rfl | rfl | rfl | rfl | rfl <;>
      simp [Rule.view, program, Rule.missingInitializer, Rule.uninitialized, Rule.unsafeMemberAccess,
        Rule.accessedName, Rule.nestedCallback, Rule.isFunctionExpression, Rule.debugStatement,
        Rule.calledMethod, Rule.legacyDeclaration, Rule.isLegacyDeclaration, Rule.excessParameters,
        Rule.sizedParams, Rule.oversizedFunction, Rule.magicNumber, Rule.numberText]
  simp [Rule.findingsAt, clear]

/-- Over a text whose bytes all parse nodes but the root take up, every finding of a scan has its position on
the line that holds the first byte of the parse node its node comes from, and its box shows the rows of code
around that line. -/
theorem findings_keep_their_lines (source : String) (root : ParseTree) (program : Node)
    (settings : Option Settings)
    (covers : ∀ c ∈ root.children, ∀ t ∈ c.nodes, t.Covers (encode source.toList))
    (made : Node.ofParseTree (.ofText source.toList) root = .ok program) (f : Finding)
    (hf : f ∈ (analyze source program (Catalog.ofSettings settings)).value) :
    ∃ s ∈ program.walk, ∃ r ∈ Catalog.ofSettings settings, f ∈ r.findingsAt source s ∧
      ∃ c ∈ root.children, ∃ u ∈ c.nodes, ∃ first last,
        Origin (.ofText source.toList) u s.node first last ∧
        (∃ line, OnLineOf source.toList first.start.byte f.position line) ∧
        ∃ title, ∀ width, Report.findingPanel width f (some source) =
          Terminal.panel Terminal.roundFrame width 0 1 title fun w =>
            Terminal.wrap w f.message.toList ++ [] :: Report.codeRows w source.toList f.line := by
  rw [value_analyze] at hf
  obtain ⟨s, hs, there⟩ := List.mem_flatMap.mp hf
  obtain ⟨r, hr, found⟩ := List.mem_flatMap.mp there
  refine ⟨s, hs, r, hr, found, ?_⟩
  have visited : s.node ∈ program.visited := List.mem_map_of_mem hs
  rcases Node.origin_of_visited made visited with same | ⟨u, hu, first, last, origin⟩
  · obtain ⟨body, rfl, -⟩ := Node.ofParseTree_eq_ok made
    rw [Catalog.findingsAt_program hr source s same] at found
    cases found
  · obtain ⟨c, hc, hu⟩ := List.mem_flatMap.mp hu
    have covered := covers c hc first (mem_nodes_trans hu origin.mem_nodes.1)
    have inside := Nat.lt_of_lt_of_le covered.nonempty covered.inside
    obtain ⟨line, onLine⟩ := SourceBytes.position_onLine covered.place inside
    refine ⟨c, hc, u, hu, first, last, origin, ⟨line, ?_⟩, Report.findingPanel_eq f ?_⟩
    · rw [Rule.position_of_mem_findingsAt found, origin.location_eq]
      exact onLine
    · rintro rfl
      exact absurd inside (Nat.not_lt_zero _)

/-- A declaration behind a character of two bytes, on the last line in front of a line feed. -/
def lateDeclaration : String := "\né;var x;\n"

def lateDeclarationTree : ParseTree :=
  .build "program" ⟨0, 0, 0⟩ ⟨2, 0, 11⟩ true false none [
    .build "variable_declaration" ⟨1, 3, 4⟩ ⟨1, 9, 10⟩ true false none [
      .build "var" ⟨1, 3, 4⟩ ⟨1, 6, 7⟩ false false none [],
      .build "variable_declarator" ⟨1, 7, 8⟩ ⟨1, 8, 9⟩ true false none [
        .build "identifier" ⟨1, 7, 8⟩ ⟨1, 8, 9⟩ true false (some "name") []],
      .build ";" ⟨1, 8, 9⟩ ⟨1, 9, 10⟩ false false none []]]

def lateDeclarationProgram : Node :=
  .program ⟨⟨1, 1⟩, ⟨3, 1⟩⟩ [.declaration ⟨⟨2, 3⟩, ⟨2, 9⟩⟩ "var" [
    .declarator ⟨⟨2, 7⟩, ⟨2, 8⟩⟩ (.identifier ⟨⟨⟨2, 7⟩, ⟨2, 8⟩⟩, "x"⟩) none]]

theorem line_of_lateDeclaration :
    (∀ c ∈ lateDeclarationTree.children, ∀ t ∈ c.nodes, t.Covers (encode lateDeclaration.toList)) ∧
    Node.ofParseTree (.ofText lateDeclaration.toList) lateDeclarationTree = .ok lateDeclarationProgram ∧
    ∃ f ∈ (analyze lateDeclaration lateDeclarationProgram (Catalog.ofSettings none)).value,
      f.position = ⟨2, 3⟩ ∧ (∃ k, OnLineOf lateDeclaration.toList k f.position "é;var x;".toList) ∧
      (Report.codeRows 40 lateDeclaration.toList f.line).filter (fun row => row.head? == some '❱') =
        ["❱ 2 é;var x;".toList] := by
  have covers : ∀ c ∈ lateDeclarationTree.children, ∀ t ∈ c.nodes, t.Covers (encode lateDeclaration.toList) := by
    decide +kernel
  have made : Node.ofParseTree (.ofText lateDeclaration.toList) lateDeclarationTree = .ok lateDeclarationProgram := rfl
  have positions : (analyze lateDeclaration lateDeclarationProgram (Catalog.ofSettings none)).value.map
      Finding.position = [⟨2, 3⟩, ⟨2, 3⟩] := by
    rw [value_analyze]
    simp only [Node.walk, Walk.run_cons, Walk.run_nil, Step.root, Step.below, lateDeclarationProgram, Node.children, Node.isFunction,
      List.map_cons, List.map_nil, List.cons_append, List.nil_append, Option.toList_none]
    rfl
  obtain ⟨f, hf, place⟩ := List.mem_map.mp (positions ▸ List.mem_cons_self)
  obtain ⟨-, -, -, -, -, -, -, -, -, first, -, -, ⟨line, onLine⟩, -⟩ :=
    findings_keep_their_lines _ _ _ none covers made f hf
  have text : some line = some "é;var x;".toList := by
    rw [← onLine.tested, place]
    decide +kernel
  rw [Option.some.inj text] at onLine
  have drawn := onLine.drawn
  rw [place] at drawn
  have number : f.line = 2 := congrArg Position.line place
  refine ⟨covers, made, f, hf, place, ⟨first.start.byte, onLine⟩, ?_⟩
  rw [number, drawn (by decide +kernel) 40]
  decide +kernel

end ScriptAudit
