import ScriptAudit.Node.OfParseTree

namespace ScriptAudit

namespace ParseTree

/-- The node converts to a node of the program: it has a name and is no comment. -/
def isKept (t : ParseTree) : Bool := t.named && !t.isSkipped

def keptChildren (t : ParseTree) : List ParseTree := t.children.filter isKept

theorem named_of_isKept {t : ParseTree} (h : t.isKept) : t.named := by
  rw [isKept, Bool.and_eq_true] at h
  exact h.1

theorem mem_keptChildren {t c : ParseTree} : c ∈ t.keptChildren ↔ c ∈ t.children ∧ c.isKept := by
  simp [keptChildren]

mutual

/-- A property of a node and of all nodes below it. -/
def Every (p : ParseTree → Prop) : ParseTree → Prop
  | ⟨type, start, stop, named, missing, hasError, field, children⟩ =>
    p ⟨type, start, stop, named, missing, hasError, field, children⟩ ∧ EveryIn p children

def EveryIn (p : ParseTree → Prop) : List ParseTree → Prop
  | [] => True
  | t :: rest => Every p t ∧ EveryIn p rest

end

theorem everyIn_iff (p : ParseTree → Prop) (all : List ParseTree) :
    EveryIn p all ↔ ∀ t ∈ all, t.Every p := by
  induction all with
  | nil => simp [EveryIn]
  | cons t rest ih => simp [EveryIn, ih]

theorem every_iff (p : ParseTree → Prop) (t : ParseTree) :
    t.Every p ↔ p t ∧ ∀ c ∈ t.children, c.Every p := by
  cases t
  rw [← everyIn_iff, Every]

/-- What holds of a node whenever it holds of its children holds of every node. -/
theorem induction {motive : ParseTree → Prop}
    (step : ∀ t, (∀ c ∈ t.children, motive c) → motive t) (t : ParseTree) : motive t :=
  step t fun c _hc => induction step c
termination_by t
decreasing_by
  cases t
  have := List.sizeOf_lt_of_mem _hc
  simp only [mk.sizeOf_spec] at this ⊢
  omega

mutual

/-- All nodes of a tree, each in front of its children. -/
def nodes : ParseTree → List ParseTree
  | ⟨type, start, stop, named, missing, hasError, field, children⟩ =>
    ⟨type, start, stop, named, missing, hasError, field, children⟩ :: nodesIn children

def nodesIn : List ParseTree → List ParseTree
  | [] => []
  | t :: rest => nodes t ++ nodesIn rest

end

theorem nodesIn_eq (all : List ParseTree) : nodesIn all = all.flatMap nodes := by
  induction all with
  | nil => rfl
  | cons t rest ih => rw [nodesIn, ih, List.flatMap_cons]

theorem nodes_eq (t : ParseTree) : t.nodes = t :: t.children.flatMap nodes := by
  rw [← nodesIn_eq]
  cases t
  rw [nodes]

theorem self_mem_nodes (t : ParseTree) : t ∈ t.nodes := by
  rw [nodes_eq]
  exact List.mem_cons_self

theorem mem_nodes_of_child {t c u : ParseTree} (hc : c ∈ t.children) (hu : u ∈ c.nodes) : u ∈ t.nodes := by
  rw [nodes_eq]
  exact List.mem_cons_of_mem t (List.mem_flatMap_of_mem hc hu)

theorem mem_nodes_trans {t u v : ParseTree} (hu : u ∈ t.nodes) (hv : v ∈ u.nodes) : v ∈ t.nodes := by
  induction t using ParseTree.induction with
  | step t ih =>
    rw [nodes_eq] at hu
    rcases List.mem_cons.mp hu with rfl | below
    · exact hv
    · obtain ⟨c, hc, hu⟩ := List.mem_flatMap.mp below
      exact mem_nodes_of_child hc (ih c hc hu)

/-- How a construct is read. -/
inductive Shape where
  | identifier
  | literal
  | declaration
  | declarator
  | member
  | call
  | assignment
  | function (form : FunctionForm)
  | method
  | loop
  /-- All children are taken over. -/
  | other
deriving DecidableEq

def shape (type : String) : Shape :=
  if identifierTypes.contains type then .identifier
  else if literalTypes.contains type then .literal
  else if type == "variable_declaration" || type == "lexical_declaration" then .declaration
  else if type == "variable_declarator" then .declarator
  else if type == "member_expression" || type == "subscript_expression" then .member
  else if type == "call_expression" then .call
  else if type == "assignment_expression" || type == "augmented_assignment_expression" then .assignment
  else match functionForm? type with
    | some form => .function form
    | none =>
      if type == "method_definition" then .method
      else if type == "for_in_statement" then .loop
      else .other

theorem literalTypes_of_shape {type : String} (h : shape type = .literal) : type ∈ literalTypes := by
  unfold shape at h
  split at h
  · cases h
  split at h
  next hl => exact List.contains_iff_mem.mp hl
  repeat (split at h; cases h)
  cases h

/-- Types whose nodes hold plain text only. -/
def textTypes : List String := [
  "string_fragment", "html_character_reference", "regex_pattern", "regex_flags", "optional_chain"]

/-- The node fills one of the fields. -/
def fillsAny (fields : List String) (t : ParseTree) : Bool := fields.any fun f => t.field == some f

/-- The children that convert to nodes are the ones in the fields, in this order; the needed ones are all
there. Children in the fields `aside` may stand anywhere. -/
structure ConsistsOf (t : ParseTree) (aside fields needed : List String) : Prop where
  parts : (t.keptChildren.filter fun c => !c.fillsAny aside) = fields.filterMap t.child?
  present : ∀ f ∈ needed, (t.child? f).isSome

/-- The mark of an optional access is plain text. -/
def PlainChain (t : ParseTree) : Prop :=
  ∀ c ∈ t.keptChildren, c.field = some "optional_chain" → c.type = "optional_chain"

/-- The field of the property of a member access. -/
def propertyField (type : String) : String :=
  if type == "subscript_expression" then "index" else "property"

/-- What the grammar says of one node that converts, given how its construct is read. -/
def Agrees (t : ParseTree) : Shape → Prop
  | .identifier | .literal => ∀ c ∈ t.keptChildren, c.type ∈ textTypes
  | .declaration => ∀ c ∈ t.keptChildren, c.type = "variable_declarator"
  | .declarator => t.ConsistsOf [] ["name", "value"] ["name"]
  | .member => t.ConsistsOf ["optional_chain"] ["object", propertyField t.type]
      ["object", propertyField t.type] ∧ t.PlainChain
  | .call => t.ConsistsOf ["optional_chain"] ["function", "arguments"] ["function", "arguments"] ∧
      t.PlainChain ∧ ∀ c ∈ t.child? "arguments", c.type = "arguments" ∨ c.type = "template_string"
  | .assignment => t.ConsistsOf [] ["left", "right"] ["left", "right"]
  | .function _ => t.ConsistsOf [] ["name", "parameter", "parameters", "body"] ["body"] ∧
      (∀ c ∈ t.child? "name", shape c.type = .identifier) ∧
      (∀ c ∈ t.child? "parameters", c.type = "formal_parameters") ∧
      ((t.child? "parameter").isSome → t.child? "parameters" = none)
  | .method => t.ConsistsOf ["decorator"] ["name", "parameters", "body"]
      ["name", "parameters", "body"] ∧
      (∀ c ∈ t.child? "parameters", c.type = "formal_parameters") ∧ t.child? "parameter" = none
  | .loop => t.ConsistsOf [] ["left", "value", "right", "body"] ["left", "right", "body"]
  | .other => t.type ∈ textTypes → t.keptChildren = []

/-- One node is built as the grammar says; tokens and comments have no parts. -/
structure Fits (t : ParseTree) : Prop where
  agrees : t.isKept → t.Agrees (shape t.type)
  leaf : t.isKept = false → t.children = []

/-- A program whose nodes are all built as the grammar says. -/
structure Grammatical (t : ParseTree) : Prop where
  program : t.type = "program"
  named : t.named
  fits : t.Every Fits

end ParseTree

end ScriptAudit
