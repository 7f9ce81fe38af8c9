import ScriptAudit.Proofs.Roles
import ScriptAudit.Script

namespace ScriptAudit

namespace ParseTree

mutual

/-- The second tree is the first one with parentheses put around nodes at any depth that are read for their values.
Comments and tokens may stand beside a node between its parentheses. -/
inductive Wrapped : Role → ParseTree → ParseTree → Prop
  | same {role : Role} {t u : ParseTree} (resembles : t.Resembles u)
      (children : WrappedAll (role.below t) t.children u.children) : Wrapped role t u
  | parens {t u inner : ParseTree} (replaceable : t.Replaceable) (named : u.named)
      (type : u.type = "parenthesized_expression") (only : u.keptChildren = [inner])
      (wrapped : Wrapped .value t inner) : Wrapped .value t u

/-- Children in their fields, each with parentheses as its role allows. -/
inductive WrappedAll : (ParseTree → Role) → List ParseTree → List ParseTree → Prop
  | nil {role : ParseTree → Role} : WrappedAll role [] []
  | cons {role : ParseTree → Role} {c d : ParseTree} {cs ds : List ParseTree} (field : d.field = c.field)
      (first : Wrapped (role c) c d) (rest : WrappedAll role cs ds) : WrappedAll role (c :: cs) (d :: ds)

end

theorem WrappedAll.refl {all : List ParseTree} (each : ∀ t ∈ all, ∀ role, Wrapped role t t)
    (role : ParseTree → Role) : WrappedAll role all all := by
  induction all with
  | nil => exact .nil
  | cons t rest ih =>
    have behind := ih fun u hu => each u (List.mem_cons_of_mem t hu)
    exact .cons rfl (each t List.mem_cons_self _) behind

theorem Wrapped.refl (role : Role) (t : ParseTree) : Wrapped role t t := by
  induction t using ParseTree.induction generalizing role with
  | step t ih => exact .same ⟨rfl, rfl, rfl, rfl⟩ (.refl ih _)

theorem replaceable_parens {u : ParseTree} (named : u.named) (type : u.type = "parenthesized_expression") :
    u.Replaceable := by
  constructor
  · rw [isKept, named, isSkipped, type]
    rfl
  · rw [type]
    decide

end ParseTree

open ParseTree

namespace Converted

/-- Parentheses around one node convert to what the node converts to. -/
theorem node_parens (src : SourceBytes) {u inner : ParseTree} (type : u.type = "parenthesized_expression")
    (only : u.keptChildren = [inner]) : (u.converted src).node = (inner.converted src).node := by
  have one : kept (u.children.map (converted src)) = [inner.converted src] := by
    rw [kept_map, ← keptChildren, only]
    rfl
  rw [converted_eq, assemble, type, one]
  rfl

theorem kids_of_wrappedAll (src : SourceBytes) {role : ParseTree → Role} {free : Bool} {cs ds : List ParseTree}
    (h : WrappedAll role cs ds)
    (each : ∀ d ∈ ds, ∀ c r, Wrapped r c d → Alike r (c.converted src) (d.converted src)) :
    KidsAlike role free (cs.map (converted src)) (ds.map (converted src)) := by
  apply Interspersed.of_forall₂
  induction ds generalizing cs with
  | nil =>
    cases h
    exact .nil
  | cons d ds ih =>
    cases h with
    | @cons _ c _ cs _ field first rest =>
      have alike := each d List.mem_cons_self c _ first
      have behind := ih rest fun e he => each e (List.mem_cons_of_mem d he)
      refine .cons ⟨?_, ?_⟩ behind
      · rw [tree_converted, tree_converted, field]
      · rwa [tree_converted]

end Converted

/-- By induction on the tree with the parentheses, which loses a layer or goes down to its children. -/
theorem ParseTree.Wrapped.alike (src : SourceBytes) {role : Role} {t u : ParseTree} (h : Wrapped role t u) :
    Converted.Alike role (t.converted src) (u.converted src) := by
  induction u using ParseTree.induction generalizing role t with
  | step u ih =>
    cases h with
    | same resembles children =>
      apply Converted.alike_of_kids src resembles
      apply Converted.kids_of_wrappedAll src children
      intro d hd c r wrapped
      exact ih d hd wrapped
    | @parens _ _ inner replaceable named type only wrapped =>
      have mem : inner ∈ u.children := by
        have kept : inner ∈ u.keptChildren := by rw [only]; exact List.mem_singleton_self inner
        exact (mem_keptChildren.mp kept).1
      have below := (ih inner mem wrapped).node (by decide)
      refine ⟨.inr ⟨rfl, ?_, ?_⟩, fun _ => ?_, nofun⟩
      · rwa [Converted.tree_converted]
      · rw [Converted.tree_converted]
        exact replaceable_parens named type
      · rw [Converted.node_parens src type only, below]

/-- Parentheses around nodes that are read for their values only change nothing: the tree has the same program or
the same fault. -/
theorem parentheses_leave_no_trace (t u : ParseTree) (h : Wrapped .items t u) :
    (∀ src, Node.ofParseTree src u = Node.ofParseTree src t) ∧
    ∀ source, t.hasError = false → u.hasError = false → Script.ofTree source u = Script.ofTree source t := by
  have program (src : SourceBytes) : Node.ofParseTree src u = Node.ofParseTree src t := by
    have alike := h.alike src
    exact Node.ofParseTree_alike src (by simpa [Converted.tree_converted] using alike.resembles) alike
  refine ⟨program, ?_⟩
  intro source fine fine'
  rw [Script.ofTree, Script.ofTree, fine, fine', program]
  rfl

/-- The call of a function with one argument. -/
def callOf (callee argument : ParseTree) : ParseTree :=
  .build "program" ⟨0, 0, 0⟩ ⟨0, 17, 17⟩ true false none [
    .build "expression_statement" ⟨0, 0, 0⟩ ⟨0, 17, 17⟩ true false none [
      .build "call_expression" ⟨0, 0, 0⟩ ⟨0, 16, 16⟩ true false none [
        callee.inField "function",
        .build "arguments" ⟨0, 5, 5⟩ ⟨0, 16, 16⟩ true false (some "arguments") [
          .build "(" ⟨0, 5, 5⟩ ⟨0, 6, 6⟩ false false none [],
          argument,
          .build ")" ⟨0, 15, 15⟩ ⟨0, 16, 16⟩ false false none []]],
      .build ";" ⟨0, 16, 16⟩ ⟨0, 17, 17⟩ false false none []]]

def nameAt (start : Nat) : ParseTree :=
  .build "identifier" ⟨0, start, start⟩ ⟨0, start + 1, start + 1⟩ true false none []

def parensAt (start stop : Nat) (beside : List ParseTree) (inner : ParseTree) : ParseTree :=
  .build "parenthesized_expression" ⟨0, start, start⟩ ⟨0, stop, stop⟩ true false none (
    .build "(" ⟨0, start, start⟩ ⟨0, start + 1, start + 1⟩ false false none [] :: (beside ++ [
    inner,
    .build ")" ⟨0, stop - 1, stop - 1⟩ ⟨0, stop, stop⟩ false false none []]))

/-- The callee stands in two parentheses, the argument in one that it shares with a comment. -/
theorem program_of_wrapped_call :
    let comment := .build "comment" ⟨0, 7, 7⟩ ⟨0, 12, 12⟩ true false none []
    let wrapped := callOf (parensAt 0 5 [] (parensAt 1 4 [] (nameAt 2))) (parensAt 6 15 [comment] (nameAt 13))
    Wrapped .items (callOf (nameAt 2) (nameAt 13)) wrapped ∧
    Script.ofTree "((f))((/*k*/ x));" wrapped = .ok (.program ⟨⟨1, 1⟩, ⟨1, 18⟩⟩ [
      .generic ⟨⟨1, 1⟩, ⟨1, 18⟩⟩ "ExpressionStatement" [
        .call ⟨⟨1, 1⟩, ⟨1, 17⟩⟩ (.identifier ⟨⟨⟨1, 3⟩, ⟨1, 4⟩⟩, "f"⟩)
          [.identifier ⟨⟨⟨1, 14⟩, ⟨1, 15⟩⟩, "x"⟩] false]]) := by
  intro comment wrapped
  have name (start : Nat) (field : Option String) : { nameAt start with field := field }.Replaceable :=
    ⟨rfl, show "identifier" ∉ soughtTypes by decide⟩
  have bare : Wrapped .value ((nameAt 2).inField "function") (nameAt 2) := .same ⟨rfl, rfl, rfl, rfl⟩ .nil
  have once : Wrapped .value ((nameAt 2).inField "function") (parensAt 1 4 [] (nameAt 2)) :=
    .parens (name 2 _) rfl rfl rfl bare
  have callee : Wrapped .value ((nameAt 2).inField "function")
      ((parensAt 0 5 [] (parensAt 1 4 [] (nameAt 2))).inField "function") := .parens (name 2 _) rfl rfl rfl once
  have argument : Wrapped .value (nameAt 13) (parensAt 6 15 [comment] (nameAt 13)) :=
    .parens (name 13 none) rfl rfl rfl (.refl .value (nameAt 13))
  have both : Wrapped .items (callOf (nameAt 2) (nameAt 13)) wrapped := by
    refine .same ⟨rfl, rfl, rfl, rfl⟩ (.cons rfl (.same ⟨rfl, rfl, rfl, rfl⟩ (.cons rfl ?_ ?_)) .nil)
    · refine .same ⟨rfl, rfl, rfl, rfl⟩ (.cons rfl callee (.cons rfl (.same ⟨rfl, rfl, rfl, rfl⟩ ?_) .nil))
      exact .cons rfl (.refl _ _) (.cons rfl argument (.cons rfl (.refl _ _) .nil))
    · exact .cons rfl (.refl _ _) .nil
  obtain ⟨-, same⟩ := parentheses_leave_no_trace _ _ both
  refine ⟨both, (same _ rfl rfl).trans ?_⟩
  rfl

end ScriptAudit
