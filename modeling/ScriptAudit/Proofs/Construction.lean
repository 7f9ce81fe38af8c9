import Mathlib.Data.List.Forall2
import ScriptAudit.Proofs.Conversion

namespace ScriptAudit

theorem bind_eq_ok {ε α β : Type} {x : Except ε α} {f : α → Except ε β} {b : β} :
    x >>= f = .ok b ↔ ∃ a, x = .ok a ∧ f a = .ok b := by
  cases x <;> simp [bind, Except.bind]

theorem map_eq_ok {ε α β : Type} {x : Except ε α} {f : α → β} {b : β} :
    x.map f = .ok b ↔ ∃ a, x = .ok a ∧ f a = b := by
  cases x <;> simp [Except.map]

theorem mapM_eq_ok {ε α β : Type} {f : α → Except ε β} {xs : List α} {ys : List β}
    (h : xs.mapM f = .ok ys) : List.Forall₂ (fun x y => f x = .ok y) xs ys := by
  induction xs generalizing ys with
  | nil =>
    cases h
    exact .nil
  | cons x rest ih =>
    rw [List.mapM_cons] at h
    obtain ⟨y, hy, h⟩ := bind_eq_ok.mp h
    obtain ⟨more, hmore, h⟩ := bind_eq_ok.mp h
    cases h
    exact .cons hy (ih hmore)

namespace ParseTree

/-- The parse node converts to a node of the program. -/
def Converts (src : SourceBytes) (t : ParseTree) (n : Node) : Prop := (t.converted src).node = .ok n

/-- The node that parentheses enclose, if they disappear. -/
def inner? (t : ParseTree) : Option ParseTree :=
  if t.type == "parenthesized_expression" then
    match t.keptChildren with
    | [c] => some c
    | _ => none
  else none

def declarators (t : ParseTree) : List ParseTree :=
  t.children.filter fun c => c.named && c.type == "variable_declarator"

theorem mem_children_of_child? {t c : ParseTree} {f : String} (h : t.child? f = some c) : c ∈ t.children :=
  List.mem_of_find?_eq_some h

theorem mem_children_of_kept {t c : ParseTree} (h : c ∈ t.keptChildren) : c ∈ t.children :=
  (mem_keptChildren.mp h).1

theorem mem_children_of_inner? {t c : ParseTree} (h : t.inner? = some c) : c ∈ t.children := by
  unfold inner? at h
  split at h
  · split at h
    next d only =>
      obtain rfl : d = c := by simpa using h
      exact mem_children_of_kept (by simp [only])
    next => cases h
  · cases h

end ParseTree

open ParseTree

/-- The parameters that are read of a function: a single one, or those of a list. -/
inductive ParametersOf (src : SourceBytes) (t : ParseTree) : List Node → Prop
  | single {c : ParseTree} {n : Node} (field : t.child? "parameter" = some c) (made : c.Converts src n) :
      ParametersOf src t [n]
  | list {c : ParseTree} {params : List Node} (none : t.child? "parameter" = none)
      (field : t.child? "parameters" = some c)
      (made : List.Forall₂ (Converts src) c.keptChildren params) : ParametersOf src t params
  | absent : ParametersOf src t []

/-- What a parse node makes that is no pair of parentheses around one node. -/
inductive Built (src : SourceBytes) (t : ParseTree) : Node → Prop
  | identifier (shape : shape t.type = .identifier) :
      Built src t (.identifier ⟨src.location t, src.text t⟩)
  | literal (shape : shape t.type = .literal) (v : LiteralValue) :
      Built src t (.literal (src.location t) v (src.text t))
  | declaration (shape : shape t.type = .declaration) (keyword : String) {ds : List Node}
      (made : List.Forall₂ (Converts src) t.declarators ds) :
      Built src t (.declaration (src.location t) keyword ds)
  | declarator (shape : shape t.type = .declarator) {name : ParseTree} {id : Node} {init : Option Node}
      (hname : t.child? "name" = some name) (named : name.Converts src id)
      (hinit : ∀ n ∈ init, ∃ value, t.child? "value" = some value ∧ value.Converts src n) :
      Built src t (.declarator (src.location t) id init)
  | member (shape : shape t.type = .member) {object property : ParseTree} {o p : Node}
      (computed optional : Bool) (hobject : t.child? "object" = some object)
      (hproperty : t.child? (propertyField t.type) = some property)
      (left : object.Converts src o) (right : property.Converts src p) :
      Built src t (.member (src.location t) o p computed optional)
  | bareCall (shape : shape t.type = .call) {function : ParseTree} {callee : Node} (optional : Bool)
      (hfunction : t.child? "function" = some function) (called : function.Converts src callee) :
      Built src t (.call (src.location t) callee [] optional)
  | call (shape : shape t.type = .call) {function list : ParseTree} {callee : Node}
      {arguments : List Node} (optional : Bool)
      (hfunction : t.child? "function" = some function) (called : function.Converts src callee)
      (hlist : t.child? "arguments" = some list)
      (made : List.Forall₂ (Converts src) list.keptChildren arguments) :
      Built src t (.call (src.location t) callee arguments optional)
  | tagged (shape : shape t.type = .call) {function template : ParseTree} {callee text : Node}
      (hfunction : t.child? "function" = some function) (called : function.Converts src callee)
      (htemplate : t.child? "arguments" = some template) (made : template.Converts src text) :
      Built src t (.generic (src.location t) "TaggedTemplateExpression" [callee, text])
  | assignment (shape : shape t.type = .assignment) {left right : ParseTree} {l r : Node}
      (operator : String) (hleft : t.child? "left" = some left) (hright : t.child? "right" = some right)
      (first : left.Converts src l) (second : right.Converts src r) :
      Built src t (.assignment (src.location t) operator l r)
  | function {form : FunctionForm} (shape : shape t.type = .function form) {body : ParseTree}
      {params : List Node} {b : Node} (isAsync generator : Bool) (parameters : ParametersOf src t params)
      (hbody : t.child? "body" = some body) (inner : body.Converts src b) :
      Built src t (.function (src.location t) form
        ((t.child? "name").map fun name => ⟨src.location name, src.text name⟩) params b isAsync generator)
  | method (shape : shape t.type = .method) {name body : ParseTree} {key b : Node} {params : List Node}
      (isAsync generator : Bool) (hname : t.child? "name" = some name) (named : name.Converts src key)
      (parameters : ParametersOf src t params)
      (hbody : t.child? "body" = some body) (inner : body.Converts src b) :
      Built src t (.generic (src.location t) "MethodDefinition" [key,
        .function (src.span ((t.child? "parameters").getD t).start body.stop) .expression none params b
          isAsync generator])
  | loop (shape : shape t.type = .loop) {left right body : ParseTree} {l r b : Node} (kind : String)
      (hkind : t.child? "kind" = none) (hleft : t.child? "left" = some left)
      (hright : t.child? "right" = some right) (hbody : t.child? "body" = some body)
      (first : left.Converts src l) (second : right.Converts src r) (inner : body.Converts src b) :
      Built src t (.generic (src.location t) kind [l, r, b])
  | declaringLoop (shape : shape t.type = .loop) {word left right body : ParseTree} {l r b : Node}
      (kind : String) (hword : t.child? "kind" = some word) (hleft : t.child? "left" = some left)
      (hright : t.child? "right" = some right) (hbody : t.child? "body" = some body)
      (first : left.Converts src l) (second : right.Converts src r) (inner : body.Converts src b) :
      Built src t (.generic (src.location t) kind [.declaration (src.span word.start left.stop) word.type
        [.declarator (src.location left) l none], r, b])
  | other (shape : shape t.type = .other) {nodes : List Node}
      (made : List.Forall₂ (Converts src) t.keptChildren nodes) :
      Built src t (.generic (src.location t) (kindName t.type) nodes)

namespace Converted

variable {src : SourceBytes} {t : ParseTree} {n : Node}

theorem required_eq_ok {f : String} (h : required (t.children.map (converted src)) f = .ok n) :
    ∃ c, t.child? f = some c ∧ c.Converts src n := by
  rw [required, inField?_map] at h
  cases hc : t.child? f with
  | none => simp [hc] at h
  | some c =>
    rw [hc] at h
    exact ⟨c, rfl, h⟩

theorem nodes_eq_ok {all : List ParseTree} {ns : List Node}
    (h : nodes (all.map (converted src)) = .ok ns) :
    List.Forall₂ (Converts src) (all.filter isKept) ns := by
  rw [nodes_map] at h
  exact mapM_eq_ok h

theorem parts_eq_ok {ns : List Node} (h : (converted src t).parts = .ok ns) :
    List.Forall₂ (Converts src) t.keptChildren ns := by
  rw [converted_eq] at h
  exact nodes_eq_ok h

theorem parameters_eq_ok {params : List Node}
    (h : parameters (t.children.map (converted src)) = .ok params) : ParametersOf src t params := by
  rw [parameters, inField?_map, inField?_map] at h
  cases hp : t.child? "parameter" with
  | some c =>
    simp only [hp, Option.map_some] at h
    obtain ⟨n, hn, rfl⟩ := map_eq_ok.mp h
    exact .single hp hn
  | none =>
    cases hl : t.child? "parameters" with
    | some c =>
      simp only [hp, hl, Option.map_none, Option.map_some] at h
      exact .list hp hl (parts_eq_ok h)
    | none =>
      simp only [hp, hl, Option.map_none] at h
      cases h
      exact .absent

theorem literal_eq_ok (h : literal src t = .ok n) : ∃ v, n = .literal (src.location t) v (src.text t) := by
  rw [literal] at h
  split at h
  · split at h
    · cases h
      exact ⟨_, rfl⟩
    · cases h
      exact ⟨_, rfl⟩
    · cases h
  all_goals
    cases h
    exact ⟨_, rfl⟩

theorem declaration_eq_ok (h : declaration src t (t.children.map (converted src)) = .ok n) :
    ∃ keyword ds, n = .declaration (src.location t) keyword ds ∧
      List.Forall₂ (Converts src) t.declarators ds := by
  rw [declaration] at h
  obtain ⟨ds, hds, h⟩ := bind_eq_ok.mp h
  cases h
  rw [List.filter_map, List.mapM_map] at hds
  have same : (t.children.filter ((fun k : Converted => k.tree.named && k.tree.type == "variable_declarator") ∘
      converted src)) = t.declarators := by
    apply List.filter_congr
    intro c _
    rw [Function.comp_apply, tree_converted]
  rw [same] at hds
  exact ⟨_, ds, rfl, mapM_eq_ok hds⟩

theorem declarator_built (shape : shape t.type = .declarator)
    (h : declarator src t (t.children.map (converted src)) = .ok n) : Built src t n := by
  rw [declarator] at h
  obtain ⟨id, hid, h⟩ := bind_eq_ok.mp h
  obtain ⟨init, hinit, h⟩ := bind_eq_ok.mp h
  cases h
  obtain ⟨name, hname, named⟩ := required_eq_ok hid
  refine .declarator shape hname named ?_
  intro m hm
  rw [inField?_map] at hinit
  cases hv : t.child? "value" with
  | none =>
    rw [hv] at hinit
    cases hinit
    cases hm
  | some value =>
    rw [hv, Option.map_some, Option.mapM_some] at hinit
    obtain ⟨v, hvalue, hinit⟩ := map_eq_ok.mp hinit
    subst hinit
    cases hm
    exact ⟨value, rfl, hvalue⟩

theorem member_built (shape : shape t.type = .member)
    (h : member src t (t.children.map (converted src)) = .ok n) : Built src t n := by
  rw [member] at h
  obtain ⟨o, ho, h⟩ := bind_eq_ok.mp h
  obtain ⟨p, hp, h⟩ := bind_eq_ok.mp h
  cases h
  obtain ⟨object, hobject, left⟩ := required_eq_ok ho
  obtain ⟨property, hproperty, right⟩ := required_eq_ok hp
  exact .member shape _ _ hobject hproperty left right

theorem call_built (shape : shape t.type = .call)
    (h : call src t (t.children.map (converted src)) = .ok n) : Built src t n := by
  rw [call] at h
  obtain ⟨callee, hcallee, h⟩ := bind_eq_ok.mp h
  obtain ⟨function, hfunction, called⟩ := required_eq_ok hcallee
  rw [inField?_map] at h
  cases ha : t.child? "arguments" with
  | none =>
    simp only [ha, Option.map_none] at h
    cases h
    exact .bareCall shape _ hfunction called
  | some list =>
    simp only [ha, Option.map_some, tree_converted] at h
    split at h
    · obtain ⟨text, htext, h⟩ := bind_eq_ok.mp h
      cases h
      exact .tagged shape hfunction called ha htext
    · obtain ⟨arguments, hargs, h⟩ := bind_eq_ok.mp h
      cases h
      exact .call shape _ hfunction called ha (parts_eq_ok hargs)

theorem assignment_built (shape : shape t.type = .assignment)
    (h : assignment src t (t.children.map (converted src)) = .ok n) : Built src t n := by
  rw [assignment] at h
  obtain ⟨l, hl, h⟩ := bind_eq_ok.mp h
  obtain ⟨r, hr, h⟩ := bind_eq_ok.mp h
  cases h
  obtain ⟨left, hleft, first⟩ := required_eq_ok hl
  obtain ⟨right, hright, second⟩ := required_eq_ok hr
  exact .assignment shape _ hleft hright first second

theorem function_built {form : FunctionForm} (shape : shape t.type = .function form)
    (h : function src t form (t.children.map (converted src)) = .ok n) : Built src t n := by
  rw [function] at h
  obtain ⟨params, hparams, h⟩ := bind_eq_ok.mp h
  obtain ⟨b, hb, h⟩ := bind_eq_ok.mp h
  obtain ⟨body, hbody, inner⟩ := required_eq_ok hb
  rw [inField?_map, Option.map_map] at h
  cases h
  have name : (t.child? "name").map ((fun k : Converted => (⟨src.location k.tree, src.text k.tree⟩ : Name)) ∘
      converted src) = (t.child? "name").map fun name => ⟨src.location name, src.text name⟩ := by
    congr 1
    funext c
    rw [Function.comp_apply, tree_converted]
  rw [name]
  exact .function shape _ _ (parameters_eq_ok hparams) hbody inner

theorem method_built (shape : shape t.type = .method)
    (h : method src t (t.children.map (converted src)) = .ok n) : Built src t n := by
  rw [method] at h
  obtain ⟨params, hparams, h⟩ := bind_eq_ok.mp h
  obtain ⟨b, hb, h⟩ := bind_eq_ok.mp h
  obtain ⟨key, hkey, h⟩ := bind_eq_ok.mp h
  obtain ⟨body, hbody, inner⟩ := required_eq_ok hb
  obtain ⟨name, hname, named⟩ := required_eq_ok hkey
  have list : ((inField? (t.children.map (converted src)) "parameters").map (·.tree)) = t.child? "parameters" := by
    rw [inField?_map, Option.map_map]
    cases t.child? "parameters" with
    | none => rfl
    | some c => rw [Option.map_some, Function.comp_apply, tree_converted]
  rw [list, inField?_map, hbody, Option.map_some, Option.map_some, tree_converted, Option.getD_some] at h
  cases h
  exact .method shape _ _ hname named (parameters_eq_ok hparams) hbody inner

theorem forIn_built (shape : shape t.type = .loop)
    (h : forIn src t (t.children.map (converted src)) = .ok n) : Built src t n := by
  rw [forIn] at h
  obtain ⟨l, hl, h⟩ := bind_eq_ok.mp h
  obtain ⟨r, hr, h⟩ := bind_eq_ok.mp h
  obtain ⟨b, hb, h⟩ := bind_eq_ok.mp h
  obtain ⟨left, hleft, first⟩ := required_eq_ok hl
  obtain ⟨right, hright, second⟩ := required_eq_ok hr
  obtain ⟨body, hbody, inner⟩ := required_eq_ok hb
  rw [inField?_map, inField?_map, hleft] at h
  cases hk : t.child? "kind" with
  | none =>
    simp only [hk, Option.map_none] at h
    cases h
    exact .loop shape _ hk hleft hright hbody first second inner
  | some word =>
    simp only [hk, Option.map_some, tree_converted] at h
    cases h
    exact .declaringLoop shape _ hk hleft hright hbody first second inner

theorem construct_built (h : construct src t (t.children.map (converted src)) = .ok n) : Built src t n := by
  rw [construct_eq] at h
  cases hs : shape t.type with
  | identifier =>
    simp only [hs] at h
    cases h
    exact .identifier hs
  | literal =>
    simp only [hs] at h
    obtain ⟨v, rfl⟩ := literal_eq_ok h
    exact .literal hs v
  | declaration =>
    simp only [hs] at h
    obtain ⟨keyword, ds, rfl, made⟩ := declaration_eq_ok h
    exact .declaration hs keyword made
  | declarator => exact declarator_built hs (by simpa only [hs] using h)
  | member => exact member_built hs (by simpa only [hs] using h)
  | call => exact call_built hs (by simpa only [hs] using h)
  | assignment => exact assignment_built hs (by simpa only [hs] using h)
  | function form => exact function_built hs (by simpa only [hs] using h)
  | method => exact method_built hs (by simpa only [hs] using h)
  | loop => exact forIn_built hs (by simpa only [hs] using h)
  | other =>
    simp only [hs] at h
    obtain ⟨ns, hns, rfl⟩ := map_eq_ok.mp h
    exact .other hs (nodes_eq_ok hns)

end Converted

namespace ParseTree

variable {src : SourceBytes} {t : ParseTree} {n : Node}

/-- What a parse node converts to is what the node in its parentheses converts to, or it is made of the
parse node itself. -/
theorem Converts.inner_or_built (h : t.Converts src n) :
    (∃ c, t.inner? = some c ∧ c.Converts src n) ∨ t.inner? = none ∧ Built src t n := by
  rw [Converts, Converted.converted_eq] at h
  simp only [Converted.assemble, Converted.kept_map] at h
  rw [inner?]
  split at h
  next parens =>
    rw [if_pos parens, keptChildren]
    rcases kept : t.children.filter isKept with _ | ⟨c, _ | ⟨second, more⟩⟩
    · rw [kept] at h
      exact .inr ⟨rfl, Converted.construct_built h⟩
    · rw [kept] at h
      exact .inl ⟨c, rfl, h⟩
    · rw [kept] at h
      exact .inr ⟨rfl, Converted.construct_built h⟩
  next plain =>
    rw [if_neg plain]
    exact .inr ⟨rfl, Converted.construct_built h⟩

end ParseTree

theorem Node.ofParseTree_eq_ok {src : SourceBytes} {root : ParseTree} {program : Node}
    (h : Node.ofParseTree src root = .ok program) :
    ∃ body, program = .program (src.location root) body ∧
      List.Forall₂ (Converts src) root.keptChildren body := by
  rw [Node.ofParseTree, Converted.convertedAll_eq] at h
  obtain ⟨body, hbody, rfl⟩ := map_eq_ok.mp h
  exact ⟨body, rfl, Converted.nodes_eq_ok hbody⟩

end ScriptAudit
