import ScriptAudit.Proofs.Origins
import ScriptAudit.Proofs.TextPlaces

namespace ScriptAudit

namespace Text

/-- The lines in front of a position, and the part of its own line. -/
def linesUpTo (p : Position) (rows : List (List Char)) : List (List Char) :=
  rows.take (p.line - 1).toNat ++
    (rows[(p.line - 1).toNat]?.map (·.take (p.column - 1).toNat)).toList

/-- What is left of the line of a position, and the lines behind it. -/
def linesFrom (p : Position) (rows : List (List Char)) : List (List Char) :=
  (rows[(p.line - 1).toNat]?.map (·.drop (p.column - 1).toNat)).toList ++ rows.drop p.line.toNat

/-- The text that a location selects. -/
def cut (s : List Char) (l : Location) : List Char :=
  joinWith ['\n'] (linesFrom l.start (linesUpTo l.stop (lines s)))

theorem linesUpTo_behind (a rest : List Char) :
    linesUpTo (Position.behind a) (lines (a ++ rest)) = lines a := by
  obtain ⟨front, hfront, length⟩ := splitOn_eq_concat '\n' a
  obtain ⟨back, hback⟩ := splitOn_eq_cons '\n' rest
  have row : ((Position.behind a).line - 1).toNat = front.length := by
    simp only [Position.behind, length]
    omega
  have column : ((Position.behind a).column - 1).toNat = (a.rtakeWhile (· ≠ '\n')).length := by
    simp only [Position.behind]
    omega
  rw [lines, lines, linesUpTo, row, column, splitOn_append hfront hback, hfront]
  simp

theorem linesFrom_behind (a b : List Char) :
    linesFrom (Position.behind a) (lines (a ++ b)) = lines b := by
  obtain ⟨front, hfront, length⟩ := splitOn_eq_concat '\n' a
  obtain ⟨back, hback⟩ := splitOn_eq_cons '\n' b
  have row : ((Position.behind a).line - 1).toNat = front.length := by
    simp only [Position.behind, length]
    omega
  have next : (Position.behind a).line.toNat = front.length + 1 := by
    simp only [Position.behind, length]
    omega
  have column : ((Position.behind a).column - 1).toNat = (a.rtakeWhile (· ≠ '\n')).length := by
    simp only [Position.behind]
    omega
  rw [lines, lines, linesFrom, row, next, column, splitOn_append hfront hback, hback]
  simp

/-- Between two places of a text stands what was added from the one to the other. -/
theorem cut_behind (a b rest : List Char) :
    cut (a ++ (b ++ rest)) ⟨Position.behind a, Position.behind (a ++ b)⟩ = b := by
  rw [cut, ← List.append_assoc, linesUpTo_behind, linesFrom_behind]
  exact joinWith_splitOn '\n' b

/-- A location that ends in front of its start selects nothing. -/
theorem cut_backwards (a b rest : List Char) :
    cut (a ++ (b ++ rest)) ⟨Position.behind (a ++ b), Position.behind a⟩ = [] := by
  obtain ⟨front, hfront, length⟩ := splitOn_eq_concat '\n' a
  have row : ((Position.behind (a ++ b)).line - 1).toNat = front.length + b.count '\n' := by
    simp only [Position.behind, length, List.count_append]
    omega
  have next : (Position.behind (a ++ b)).line.toNat = front.length + b.count '\n' + 1 := by
    simp only [Position.behind, length, List.count_append]
    omega
  rw [cut, linesUpTo_behind, lines, hfront, linesFrom, row, next]
  by_cases same : b.count '\n' = 0
  · have short : (a.rtakeWhile (· ≠ '\n')).length ≤ ((Position.behind (a ++ b)).column - 1).toNat := by
      have plain : '\n' ∉ b := List.count_eq_zero.mp same
      simp only [Position.behind, rtakeWhile_append_of_not_mem plain, List.length_append]
      omega
    rw [same, Nat.add_zero, List.getElem?_concat_length, Option.map_some, List.drop_eq_nil_of_le short,
      List.drop_eq_nil_of_le (by simp)]
    rfl
  · have far : (front ++ [a.rtakeWhile (· ≠ '\n')]).length ≤ front.length + b.count '\n' := by
      rw [List.length_append, List.length_singleton]
      omega
    rw [List.getElem?_eq_none far, List.drop_eq_nil_of_le (by omega)]
    rfl

end Text

open Text Text.Utf8 ParseTree

/-- The mark stands behind the first characters of a text, in the row and the column of its byte. -/
structure Mark.OnBoundary (s : List Char) (m : Mark) : Prop where
  place : m.Matches (encode s)
  boundary : ∃ before rest, s = before ++ rest ∧ m.byte = (encode before).length

structure ParseTree.OnBoundaries (s : List Char) (t : ParseTree) : Prop where
  start : t.start.OnBoundary s
  stop : t.stop.OnBoundary s

theorem Mark.OnBoundary.position_eq {s : List Char} {m : Mark} (h : m.OnBoundary s) :
    ∃ before rest, s = before ++ rest ∧ m.byte = (encode before).length ∧
      (SourceBytes.ofText s).position m = Position.behind before := by
  obtain ⟨place, before, rest, rfl, byte⟩ := h
  exact ⟨before, rest, rfl, byte, SourceBytes.position_behind place byte⟩

/-- The location of a parse node selects its text. -/
theorem SourceBytes.cut_location {s : List Char} {t : ParseTree} (h : t.OnBoundaries s) :
    cut s ((ofText s).location t) = (ofText s).slice t.start t.stop := by
  obtain ⟨before, rest, hs, startByte, start⟩ := h.start.position_eq
  obtain ⟨before', rest', hs', stopByte, stop⟩ := h.stop.position_eq
  rw [location, span, start, stop]
  rcases List.append_eq_append_iff.mp (hs.symm.trans hs') with ⟨mid, rfl, rfl⟩ | ⟨mid, rfl, rfl⟩
  · subst hs
    rw [cut_behind, slice_of_bytes startByte stopByte]
  · subst hs'
    have empty : t.stop.byte ≤ t.start.byte := by
      rw [startByte, stopByte, encode_append, List.length_append]
      omega
    rw [cut_backwards, slice, Array.toList_extract, List.extract_eq_take_drop,
      Nat.sub_eq_zero_of_le empty, List.take_zero]
    rfl

/-- Over a text on whose characters all parse nodes start and end, every node of the program starts behind
the characters in front of the parse node it comes from, and the location of a name or a literal selects
what it says. -/
theorem Node.locations_select_text (source : String) (root : ParseTree) (program : Node)
    (onText : ∀ t ∈ root.nodes, t.OnBoundaries source.toList)
    (made : Node.ofParseTree (.ofText source.toList) root = .ok program) (n : Node)
    (hn : n ∈ program.visited) :
    (∃ first ∈ root.nodes, (n = program ∧ first = root ∨
        ∃ u ∈ root.nodes, ∃ last, Origin (.ofText source.toList) u n first last) ∧
      ∃ before rest, source.toList = before ++ rest ∧ first.start.byte = (encode before).length ∧
        n.location.start = Position.behind before) ∧
    ∀ text, n.spelling? = some text → cut source.toList n.location = text.toList := by
  rcases origin_of_visited made hn with rfl | ⟨u, hu, first, last, origin⟩
  · obtain ⟨body, rfl, -⟩ := ofParseTree_eq_ok made
    have here := root.self_mem_nodes
    obtain ⟨before, rest, whole, byte, start⟩ := (onText root here).start.position_eq
    refine ⟨⟨root, here, .inl ⟨rfl, rfl⟩, before, rest, whole, byte, start⟩, ?_⟩
    intro text spelled
    cases spelled
  · obtain ⟨c, hc, hu⟩ := List.mem_flatMap.mp hu
    have inTree : u ∈ root.nodes := mem_nodes_of_child hc hu
    have firstIn : first ∈ root.nodes := mem_nodes_trans inTree origin.mem_nodes.1
    obtain ⟨before, rest, whole, byte, start⟩ := (onText first firstIn).start.position_eq
    refine ⟨⟨first, firstIn, .inr ⟨u, inTree, last, origin⟩, before, rest, whole, byte, ?_⟩, ?_⟩
    · rw [origin.location_eq]
      exact start
    · intro text spelled
      obtain ⟨rfl, rfl⟩ := origin.reads.2 text spelled
      rw [origin.location_eq, SourceBytes.text, String.toList_ofList]
      exact SourceBytes.cut_location (onText first firstIn)

/-- A name in front of a literal that runs over two lines. -/
def brokenLiteral : String := "é='\\\n𝒳'"

def brokenLiteralTree : ParseTree :=
  .build "program" ⟨0, 0, 0⟩ ⟨1, 5, 11⟩ true false none [
    .build "identifier" ⟨0, 0, 0⟩ ⟨0, 2, 2⟩ true false none [],
    .build "string" ⟨0, 3, 3⟩ ⟨1, 5, 11⟩ true false none []]

theorem brokenLiteralTree_onBoundaries :
    ∀ t ∈ brokenLiteralTree.nodes, t.OnBoundaries brokenLiteral.toList := by
  have front : Mark.OnBoundary brokenLiteral.toList ⟨0, 0, 0⟩ :=
    ⟨by decide +kernel, [], brokenLiteral.toList, rfl, rfl⟩
  have first : Mark.OnBoundary brokenLiteral.toList ⟨0, 2, 2⟩ :=
    ⟨by decide +kernel, ['é'], "='\\\n𝒳'".toList, by decide +kernel, by decide +kernel⟩
  have second : Mark.OnBoundary brokenLiteral.toList ⟨0, 3, 3⟩ :=
    ⟨by decide +kernel, ['é', '='], "'\\\n𝒳'".toList, by decide +kernel, by decide +kernel⟩
  have last : Mark.OnBoundary brokenLiteral.toList ⟨1, 5, 11⟩ :=
    ⟨by decide +kernel, brokenLiteral.toList, [], (List.append_nil _).symm, by decide +kernel⟩
  intro t ht
  simp only [brokenLiteralTree, ParseTree.build, nodes_eq, List.flatMap_cons, List.flatMap_nil, List.append_nil,
    List.cons_append, List.nil_append, List.mem_cons, List.not_mem_nil, or_false] at ht
  rcases ht with rfl | rfl | rfl
  · exact ⟨front, last⟩
  · exact ⟨front, first⟩
  · exact ⟨second, last⟩

/-- The literal that starts behind a character of two bytes and ends behind one of four, on the next line. -/
theorem Node.location_of_brokenLiteral :
    let literal := Node.literal ⟨⟨1, 3⟩, ⟨2, 3⟩⟩ (.text "\\\n𝒳") "'\\\n𝒳'"
    let program := Node.program ⟨⟨1, 1⟩, ⟨2, 3⟩⟩ [.identifier ⟨⟨⟨1, 1⟩, ⟨1, 2⟩⟩, "é"⟩, literal]
    (∀ t ∈ brokenLiteralTree.nodes, t.OnBoundaries brokenLiteral.toList) ∧
    Node.ofParseTree (.ofText brokenLiteral.toList) brokenLiteralTree = .ok program ∧
    literal ∈ program.visited ∧ cut brokenLiteral.toList literal.location = "'\\\n𝒳'".toList := by
  intro literal program
  have onText := brokenLiteralTree_onBoundaries
  have made : Node.ofParseTree (.ofText brokenLiteral.toList) brokenLiteralTree = .ok program := by
    -- the shape of the program first, over any bytes, and then what its parts read there
    have shape (src : SourceBytes) : Node.ofParseTree src brokenLiteralTree =
        .ok (.program (src.span ⟨0, 0, 0⟩ ⟨1, 5, 11⟩) [
          .identifier ⟨src.span ⟨0, 0, 0⟩ ⟨0, 2, 2⟩, String.ofList (src.slice ⟨0, 0, 0⟩ ⟨0, 2, 2⟩)⟩,
          .literal (src.span ⟨0, 3, 3⟩ ⟨1, 5, 11⟩)
            (.text (String.ofList (Converted.unquoted (src.slice ⟨0, 3, 3⟩ ⟨1, 5, 11⟩))))
            (String.ofList (src.slice ⟨0, 3, 3⟩ ⟨1, 5, 11⟩))]) := rfl
    have whole : (SourceBytes.ofText brokenLiteral.toList).span ⟨0, 0, 0⟩ ⟨1, 5, 11⟩ = ⟨⟨1, 1⟩, ⟨2, 3⟩⟩ := by
      decide +kernel
    have name : (SourceBytes.ofText brokenLiteral.toList).span ⟨0, 0, 0⟩ ⟨0, 2, 2⟩ = ⟨⟨1, 1⟩, ⟨1, 2⟩⟩ := by
      decide +kernel
    have text : (SourceBytes.ofText brokenLiteral.toList).span ⟨0, 3, 3⟩ ⟨1, 5, 11⟩ = ⟨⟨1, 3⟩, ⟨2, 3⟩⟩ := by
      decide +kernel
    have named : (SourceBytes.ofText brokenLiteral.toList).slice ⟨0, 0, 0⟩ ⟨0, 2, 2⟩ = ['é'] := by
      decide +kernel
    have written : (SourceBytes.ofText brokenLiteral.toList).slice ⟨0, 3, 3⟩ ⟨1, 5, 11⟩ = "'\\\n𝒳'".toList := by
      decide +kernel
    rw [shape, whole, name, text, named, written]
    rfl
  have visited : literal ∈ program.visited := by
    rw [visited_eq]
    simp [program, Node.children, visited_eq literal]
  have selected := (locations_select_text brokenLiteral brokenLiteralTree program onText made literal visited).2
  exact ⟨onText, made, visited, selected _ rfl⟩

end ScriptAudit
