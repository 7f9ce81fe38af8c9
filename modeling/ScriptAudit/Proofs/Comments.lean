import ScriptAudit.Proofs.Roles
import ScriptAudit.Proofs.RuleIndependence
import ScriptAudit.Script

namespace ScriptAudit

open ParseTree

namespace ParseTree

/-- Two nodes that differ in their children only. -/
structure Twin (t u : ParseTree) : Prop where
  type : u.type = t.type
  start : u.start = t.start
  stop : u.stop = t.stop
  named : u.named = t.named
  missing : u.missing = t.missing
  hasError : u.hasError = t.hasError
  field : u.field = t.field

/-- The second tree is the first one with comments put in at any depth, anywhere but in front of the first
token of a declaration. -/
inductive Commented : ParseTree → ParseTree → Prop
  | node {t u : ParseTree} (twin : t.Twin u)
      (children : Interspersed IsComment Commented (!t.isDeclaration) t.children u.children) : Commented t u

theorem Commented.refl (t : ParseTree) : Commented t t := by
  induction t using ParseTree.induction with
  | step t ih => exact .node ⟨rfl, rfl, rfl, rfl, rfl, rfl, rfl⟩ (.of_forall₂ (List.forall₂_same.mpr ih))

theorem Twin.resembles {t u : ParseTree} (twin : t.Twin u) : t.Resembles u :=
  ⟨twin.type, twin.start, twin.stop, twin.named⟩

/-- With comments in it a node is the same in any role. -/
theorem Commented.alike (src : SourceBytes) {t u : ParseTree} (h : Commented t u) (role : Role) :
    Converted.Alike role (t.converted src) (u.converted src) := by
  induction t using ParseTree.induction generalizing u role with
  | step t ih =>
    obtain ⟨twin, children⟩ := h
    apply Converted.alike_of_kids src twin.resembles
    apply children.map
    · intro c comment
      rwa [Converted.tree_converted]
    · intro c hc d commented
      refine ⟨?_, ih c hc commented _⟩
      obtain ⟨twin, -⟩ := commented
      rw [Converted.tree_converted, Converted.tree_converted, twin.field]

end ParseTree

theorem Node.ofParseTree_commented (src : SourceBytes) {t u : ParseTree} (h : Commented t u) :
    ofParseTree src u = ofParseTree src t := by
  have alike := h.alike src .items
  obtain ⟨twin, -⟩ := h
  exact ofParseTree_alike src twin.resembles alike

namespace Script

/-- What is reported of a node that is an error. -/
def defectAt (src : SourceBytes) (bad : ParseTree) : ParseError :=
  ⟨if bad.missing then .missingToken else .syntaxError, src.position bad.start⟩

/-- What is reported of the first error below a node. -/
def defectIn? (src : SourceBytes) (t : ParseTree) : Option ParseError := t.firstError?.map (defectAt src)

theorem firstErrorIn?_map (src : SourceBytes) (all : List ParseTree) : (firstErrorIn? all).map (defectAt src) =
    all.findSome? fun c => if c.hasError || c.missing then defectIn? src c else none := by
  induction all with
  | nil => rfl
  | cons c rest ih =>
    rw [firstErrorIn?, List.findSome?_cons, ← ih]
    split
    · rw [defectIn?]
      cases c.firstError? with
      | none => rfl
      | some bad => rfl
    · rfl

theorem defectIn?_eq (src : SourceBytes) (t : ParseTree) : defectIn? src t =
    if t.type == "ERROR" || t.missing then some (defectAt src t)
    else t.children.findSome? fun c => if c.hasError || c.missing then defectIn? src c else none := by
  rw [defectIn?, ← firstErrorIn?_map]
  cases t
  rw [firstError?]
  split
  · rfl
  · rfl

theorem errorOf_eq (src : SourceBytes) (t : ParseTree) :
    errorOf src t = (defectIn? src t).getD ⟨.syntaxError, src.position t.start⟩ := by
  rw [errorOf, defectIn?]
  cases t.firstError? with
  | none => rfl
  | some bad => rfl

theorem defectIn?_commented (src : SourceBytes) {t u : ParseTree} (h : Commented t u) :
    defectIn? src u = defectIn? src t := by
  induction t using ParseTree.induction generalizing u with
  | step t ih =>
    obtain ⟨twin, children⟩ := h
    have below : (u.children.findSome? fun c => if c.hasError || c.missing then defectIn? src c else none) =
        t.children.findSome? fun c => if c.hasError || c.missing then defectIn? src c else none := by
      apply children.findSome?
      · intro c comment
        simp [comment.errorFree]
      · intro c hc d commented
        rw [ih c hc commented]
        obtain ⟨twin, -⟩ := commented
        rw [twin.hasError, twin.missing]
    rw [defectIn?_eq, defectIn?_eq, below, twin.type, twin.missing]
    simp only [defectAt, twin.missing, twin.start]

theorem ofTree_commented (source : String) {t u : ParseTree} (h : Commented t u) :
    ofTree source u = ofTree source t := by
  have program := Node.ofParseTree_commented (.ofText source.toList) h
  have defect := defectIn?_commented (.ofText source.toList) h
  obtain ⟨twin, -⟩ := h
  rw [ofTree, ofTree, program, twin.hasError, errorOf_eq, errorOf_eq, defect, twin.start]

end Script

/-- Rules that are not shown the text find the same over any text. -/
theorem value_analyze_source {catalog : Catalog} (plain : ∀ r ∈ catalog, r.usesSource = false)
    (source source' : String) (program : Node) :
    (analyze source' program catalog).value = (analyze source program catalog).value := by
  rw [value_analyze, value_analyze]
  apply List.flatMap_congr
  intro s _
  apply List.flatMap_congr
  intro r hr
  apply Rule.findingsAt_source
  simp [plain r hr]

/-- Comments put into a parse tree change neither its program nor its fault. Rules that are not shown the
text find the same, whatever the text with the comments is. -/
theorem comments_leave_no_trace (source : String) (t u : ParseTree) (h : Commented t u) :
    (∀ src, Node.ofParseTree src u = Node.ofParseTree src t) ∧
    Script.ofTree source u = Script.ofTree source t ∧
    ∀ (source' : String) (catalog : Catalog),
      (Script.ofTree source u).map (fun p => (analyze source' p (catalog.filter (!·.usesSource))).value) =
      (Script.ofTree source t).map (fun p => (analyze source p (catalog.filter (!·.usesSource))).value) := by
  have script := Script.ofTree_commented source h
  refine ⟨fun src => Node.ofParseTree_commented src h, script, fun source' catalog => ?_⟩
  have plain : ∀ r ∈ catalog.filter (!·.usesSource), r.usesSource = false := by
    intro r hr
    simpa using (List.mem_filter.mp hr).2
  rw [script]
  congr 1
  funext p
  exact value_analyze_source plain source source' p

/-- A declaration with room for comments in front of its declarator and between the parentheses of its value. -/
def declarationWith (front inner : List ParseTree) : ParseTree :=
  .build "program" ⟨0, 0, 0⟩ ⟨0, 24, 24⟩ true false none [
    .build "variable_declaration" ⟨0, 0, 0⟩ ⟨0, 24, 24⟩ true false none (
      .build "var" ⟨0, 0, 0⟩ ⟨0, 3, 3⟩ false false none [] :: (front ++ [
      .build "variable_declarator" ⟨0, 10, 10⟩ ⟨0, 23, 23⟩ true false none [
        .build "identifier" ⟨0, 10, 10⟩ ⟨0, 11, 11⟩ true false (some "name") [],
        .build "=" ⟨0, 12, 12⟩ ⟨0, 13, 13⟩ false false none [],
        .build "parenthesized_expression" ⟨0, 14, 14⟩ ⟨0, 23, 23⟩ true false (some "value") (
          .build "(" ⟨0, 14, 14⟩ ⟨0, 15, 15⟩ false false none [] :: (inner ++ [
          .build "identifier" ⟨0, 21, 21⟩ ⟨0, 22, 22⟩ true false none [],
          .build ")" ⟨0, 22, 22⟩ ⟨0, 23, 23⟩ false false none []]))],
      .build ";" ⟨0, 23, 23⟩ ⟨0, 24, 24⟩ false false none []]))]

def commentAt (start stop : Nat) : ParseTree :=
  .build "comment" ⟨0, start, start⟩ ⟨0, stop, stop⟩ true false none []

/-- With both comments the value still stands without its parentheses. -/
theorem program_of_declarationWith :
    Commented (declarationWith [] []) (declarationWith [commentAt 4 9] [commentAt 15 20]) ∧
    Script.ofTree "var /*a*/ x = (/*b*/ y);" (declarationWith [commentAt 4 9] [commentAt 15 20]) =
      .ok (.program ⟨⟨1, 1⟩, ⟨1, 25⟩⟩ [.declaration ⟨⟨1, 1⟩, ⟨1, 25⟩⟩ "var" [
        .declarator ⟨⟨1, 11⟩, ⟨1, 24⟩⟩ (.identifier ⟨⟨⟨1, 11⟩, ⟨1, 12⟩⟩, "x"⟩)
          (some (.identifier ⟨⟨⟨1, 22⟩, ⟨1, 23⟩⟩, "y"⟩))]]) := by
  have comment (start stop : Nat) : (commentAt start stop).IsComment := ⟨rfl, rfl, rfl, rfl⟩
  have commented : Commented (declarationWith [] []) (declarationWith [commentAt 4 9] [commentAt 15 20]) := by
    refine .node ⟨rfl, rfl, rfl, rfl, rfl, rfl, rfl⟩ (.keep ?_ .nil)
    refine .node ⟨rfl, rfl, rfl, rfl, rfl, rfl, rfl⟩ (.keep (.refl _) (.extra (comment 4 9) (.keep ?_ ?_)))
    · refine .node ⟨rfl, rfl, rfl, rfl, rfl, rfl, rfl⟩ (.keep (.refl _) (.keep (.refl _) (.keep ?_ .nil)))
      refine .node ⟨rfl, rfl, rfl, rfl, rfl, rfl, rfl⟩ (.keep (.refl _) (.extra (comment 15 20) ?_))
      exact .keep (.refl _) (.keep (.refl _) .nil)
    · exact .keep (.refl _) .nil
  obtain ⟨-, same, -⟩ := comments_leave_no_trace "var /*a*/ x = (/*b*/ y);" _ _ commented
  refine ⟨commented, same.trans ?_⟩
  rfl

end ScriptAudit
