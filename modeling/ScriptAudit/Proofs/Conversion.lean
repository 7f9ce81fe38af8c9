import Mathlib.Data.List.Forall2
import ScriptAudit.Proofs.Code

namespace ScriptAudit

open ParseTree

/-- The value of a number that is read as a literal. -/
def LiteralValue.ofNumber : Option Number.Double → LiteralValue
  | some d => .double d
  | none => .null

/-- A node of the program stands for a piece of code of the parse tree. -/
def Appears (src : SourceBytes) (t : ParseTree) : Node → Prop
  | .literal l v raw => shape t.type = .literal ∧ l = src.location t ∧ raw = src.text t ∧
      (t.type = "number" → ∃ d, Number.literalValue (src.slice t.start t.stop) = .ok d ∧ v = .ofNumber d)
  | .member l _ _ computed _ => shape t.type = .member ∧ l = src.location t ∧
      computed = (t.type == "subscript_expression")
  | .call l _ _ _ => shape t.type = .call ∧ l = src.location t
  | .function l form _ _ _ _ _ => shape t.type = .function form ∧ l = src.location t ∨
      shape t.type = .method ∧ form = .expression ∧ ∃ params body,
        t.child? "parameters" = some params ∧ t.child? "body" = some body ∧
        l = src.span params.start body.stop
  | _ => False

/-- A number of the parse tree has no value. -/
def Unreadable (src : SourceBytes) (t : ParseTree) (fault : Number.NumeralFault) : Prop :=
  t.type = "number" ∧ Number.literalValue (src.slice t.start t.stop) = .error fault

/-- The nodes of a conversion hold the code of the items; if it fails, one of the items is a number
without a value. -/
def Renders (src : SourceBytes) (items : List ParseTree) : Except ConversionFault (List Node) → Prop
  | .ok nodes => List.Forall₂ (Appears src) items (nodes.flatMap Node.code)
  | .error fault => ∃ t ∈ items, ∃ f, Unreadable src t f ∧ fault = .numeral f

def RendersNode (src : SourceBytes) (items : List ParseTree) (r : Except ConversionFault Node) : Prop :=
  Renders src items (r.map fun n => [n])

@[simp] theorem rendersNode_ok {src : SourceBytes} {items : List ParseTree} {n : Node} :
    RendersNode src items (.ok n) ↔ List.Forall₂ (Appears src) items n.code := by
  rw [RendersNode, Except.map, Renders, List.flatMap_singleton]

section Combine

variable {src : SourceBytes} {α β γ : Type} {items a b c : List ParseTree}
  {x : Except ConversionFault α} {y : Except ConversionFault β} {z : Except ConversionFault γ}
  {f : α → List Node} {g : β → List Node} {h : γ → List Node}

theorem Renders.mono_error {fault : ConversionFault} (ha : Renders src a (.error fault)) (sub : a ⊆ items) :
    Renders src items (.error fault) := by
  obtain ⟨t, ht, rest⟩ := ha
  exact ⟨t, sub ht, rest⟩

theorem RendersNode.of_one {build : α → Node} (hx : Renders src a (x.map f)) (ha : a ⊆ items)
    (all : ∀ o, x = .ok o → List.Forall₂ (Appears src) a ((f o).flatMap Node.code) →
      List.Forall₂ (Appears src) items (build o).code) :
    RendersNode src items (x.map build) := by
  cases x with
  | error e => exact Renders.mono_error hx ha
  | ok o => exact rendersNode_ok.mpr (all o rfl hx)

theorem RendersNode.of_two {build : α → β → Node} (hx : Renders src a (x.map f))
    (hy : Renders src b (y.map g)) (ha : a ⊆ items) (hb : b ⊆ items)
    (all : ∀ o p, List.Forall₂ (Appears src) a ((f o).flatMap Node.code) →
      List.Forall₂ (Appears src) b ((g p).flatMap Node.code) →
      List.Forall₂ (Appears src) items (build o p).code) :
    RendersNode src items (do let o ← x; let p ← y; return build o p) := by
  cases x with
  | error e => exact Renders.mono_error hx ha
  | ok o => exact RendersNode.of_one hy hb fun p _ hp => all o p hx hp

theorem RendersNode.of_three {build : α → β → γ → Node} (hx : Renders src a (x.map f))
    (hy : Renders src b (y.map g)) (hz : Renders src c (z.map h))
    (ha : a ⊆ items) (hb : b ⊆ items) (hc : c ⊆ items)
    (all : ∀ o p q, List.Forall₂ (Appears src) a ((f o).flatMap Node.code) →
      List.Forall₂ (Appears src) b ((g p).flatMap Node.code) →
      List.Forall₂ (Appears src) c ((h q).flatMap Node.code) →
      List.Forall₂ (Appears src) items (build o p q).code) :
    RendersNode src items (do let o ← x; let p ← y; let q ← z; return build o p q) := by
  cases x with
  | error e => exact Renders.mono_error hx ha
  | ok o => exact RendersNode.of_two hy hz hb hc fun p q hp hq => all o p q hx hp hq

/-- Nodes that are converted one after the other hold the code of all of them. -/
theorem renders_mapM {src : SourceBytes} (all : List ParseTree)
    (node : ParseTree → Except ConversionFault Node)
    (each : ∀ t ∈ all, RendersNode src t.readCode (node t)) :
    Renders src (all.flatMap readCode) (all.mapM node) := by
  induction all with
  | nil => exact List.Forall₂.nil
  | cons t rest ih =>
    have first := each t List.mem_cons_self
    have others := ih fun u hu => each u (List.mem_cons_of_mem t hu)
    rw [List.mapM_cons, List.flatMap_cons]
    cases hn : node t with
    | error e =>
      rw [hn] at first
      exact Renders.mono_error first (List.subset_append_left _ _)
    | ok n =>
      rw [hn] at first
      cases hr : rest.mapM node with
      | error e =>
        rw [hr] at others
        exact Renders.mono_error others (List.subset_append_right _ _)
      | ok ns =>
        rw [hr] at others
        exact List.rel_append (rendersNode_ok.mp first) others

end Combine

namespace Converted

variable (src : SourceBytes)

theorem convertedAll_eq (all : List ParseTree) : convertedAll src all = all.map (converted src) := by
  induction all with
  | nil => rfl
  | cons t rest ih => rw [convertedAll, ih, List.map_cons]

theorem converted_eq (t : ParseTree) : converted src t =
    ⟨t, assemble src t (t.children.map (converted src)), nodes (t.children.map (converted src))⟩ := by
  rw [← convertedAll_eq]
  cases t
  rw [converted]

theorem tree_converted (t : ParseTree) : (converted src t).tree = t := by rw [converted_eq]

theorem kept_map (all : List ParseTree) :
    kept (all.map (converted src)) = (all.filter isKept).map (converted src) := by
  rw [kept, List.filter_map]
  congr 2
  funext t
  rw [Function.comp_apply, tree_converted, isKept]

theorem nodes_map (all : List ParseTree) :
    nodes (all.map (converted src)) = (all.filter isKept).mapM fun t => (converted src t).node := by
  rw [nodes, kept_map, List.mapM_map]
  rfl

theorem inField?_map (t : ParseTree) (field : String) :
    inField? (t.children.map (converted src)) field = (t.child? field).map (converted src) := by
  rw [inField?, child?, List.find?_map]
  congr 2
  funext c
  rw [Function.comp_apply, tree_converted]

theorem required_map {t c : ParseTree} {field : String} (h : t.child? field = some c) :
    required (t.children.map (converted src)) field = (converted src c).node := by
  rw [required, inField?_map, h]
  rfl

/-- What a node becomes, by the way its construct is read. -/
theorem construct_eq (t : ParseTree) (kids : List Converted) :
    construct src t kids = match shape t.type with
      | .identifier => .ok (.identifier ⟨src.location t, src.text t⟩)
      | .literal => literal src t
      | .declaration => declaration src t kids
      | .declarator => declarator src t kids
      | .member => member src t kids
      | .call => call src t kids
      | .assignment => assignment src t kids
      | .function form => function src t form kids
      | .method => method src t kids
      | .loop => forIn src t kids
      | .other => (nodes kids).map (.generic (src.location t) (kindName t.type)) := by
  unfold construct shape
  dsimp only
  generalize identifierTypes.contains t.type = isIdentifier
  generalize literalTypes.contains t.type = isLiteral
  generalize (t.type == "variable_declaration" || t.type == "lexical_declaration") = isDeclaration
  generalize (t.type == "variable_declarator") = isDeclarator
  generalize (t.type == "member_expression" || t.type == "subscript_expression") = isMember
  generalize (t.type == "call_expression") = isCall
  generalize (t.type == "assignment_expression" || t.type == "augmented_assignment_expression") = isAssignment
  cases isIdentifier with
  | true => rfl
  | false =>
  cases isLiteral with
  | true => rfl
  | false =>
  cases isDeclaration with
  | true => rfl
  | false =>
  cases isDeclarator with
  | true => rfl
  | false =>
  cases isMember with
  | true => rfl
  | false =>
  cases isCall with
  | true => rfl
  | false =>
  cases isAssignment with
  | true => rfl
  | false =>
  cases functionForm? t.type with
  | some form => rfl
  | none =>
    cases t.type == "method_definition" with
    | true => rfl
    | false => cases t.type == "for_in_statement" <;> rfl

end Converted

namespace ParseTree

theorem ConsistsOf.mem_keptChildren {t c : ParseTree} {aside fields needed : List String} {f : String}
    (h : t.ConsistsOf aside fields needed) (hf : f ∈ fields) (hc : t.child? f = some c) :
    c ∈ t.keptChildren := by
  have mem : c ∈ fields.filterMap t.child? := List.mem_filterMap.mpr ⟨f, hf, hc⟩
  rw [← h.parts] at mem
  exact (List.mem_filter.mp mem).1

theorem shape_of_textTypes {type : String} (h : type ∈ textTypes) : shape type = .other := by
  simp only [textTypes, List.mem_cons, List.not_mem_nil, or_false] at h
  rcases h with rfl | rfl | rfl | rfl | rfl <;> rfl

/-- Outside methods and loops all children are read. -/
theorem readCode_eq {t : ParseTree} (method : shape t.type ≠ .method) (loop : shape t.type ≠ .loop) :
    t.readCode = t.ownCode ++ t.keptChildren.flatMap readCode := by
  have all (c : ParseTree) : methodAt t c ++ (if leavesOut t c then [] else c.codeWithout leavesOut) =
      c.readCode := by
    have none : leavesOut t c = false := by
      unfold leavesOut
      cases h : shape t.type <;> first | rfl | contradiction
    simp [methodAt, method, none, readCode]
  rw [readCode, codeWithout_eq]
  simp only [all]

theorem readCode_other {t : ParseTree} (h : shape t.type = .other) :
    t.readCode = t.keptChildren.flatMap readCode := by
  rw [readCode_eq (by simp [h]) (by simp [h])]
  simp [ownCode, isCode, h]

theorem readCode_text {t : ParseTree} (fits : t.Fits) (kept : t.isKept) (text : t.type ∈ textTypes) :
    t.readCode = [] := by
  have other := shape_of_textTypes text
  have agrees := fits.agrees kept
  rw [other] at agrees
  rw [readCode_other other, agrees text]
  rfl

/-- A name or a literal holds no code but itself. -/
theorem flatMap_readCode_leaf {t : ParseTree} (fits : t.Every Fits) (kept : t.isKept)
    (leaf : shape t.type = .identifier ∨ shape t.type = .literal) :
    t.keptChildren.flatMap readCode = [] := by
  obtain ⟨here, below⟩ := (every_iff _ t).mp fits
  have text : ∀ c ∈ t.keptChildren, c.type ∈ textTypes := by
    have agrees := here.agrees kept
    rcases leaf with h | h
    · rwa [h] at agrees
    · rwa [h] at agrees
  rw [List.flatMap_eq_nil_iff]
  intro c hc
  obtain ⟨mem, keptChild⟩ := ParseTree.mem_keptChildren.mp hc
  exact readCode_text ((every_iff _ c).mp (below c mem)).1 keptChild (text c hc)

theorem readCode_identifier {t : ParseTree} (fits : t.Every Fits) (kept : t.isKept)
    (h : shape t.type = .identifier) : t.readCode = [] := by
  rw [readCode_eq (by simp [h]) (by simp [h]), flatMap_readCode_leaf fits kept (.inl h)]
  simp [ownCode, isCode, h]

theorem field_of_child? {t c : ParseTree} {f : String} (h : t.child? f = some c) : c.field = some f := by
  simpa using List.find?_some h

theorem flatMap_filter_of_nil {all : List ParseTree} {p : ParseTree → Bool}
    {g : ParseTree → List ParseTree} (h : ∀ c ∈ all, p c = false → g c = []) :
    all.flatMap g = (all.filter p).flatMap g := by
  induction all with
  | nil => rfl
  | cons c rest ih =>
    have behind := ih fun d hd => h d (List.mem_cons_of_mem c hd)
    rw [List.flatMap_cons, behind, List.filter_cons]
    split
    · rw [List.flatMap_cons]
    next hp => rw [h c List.mem_cons_self (by simpa using hp), List.nil_append]

/-- The code of a construct is its own and that of its parts. -/
theorem ConsistsOf.flatMap_readCode {t : ParseTree} {aside fields needed : List String}
    (h : t.ConsistsOf aside fields needed)
    (empty : ∀ c ∈ t.keptChildren, c.fillsAny aside → c.readCode = []) :
    t.keptChildren.flatMap readCode = (fields.filterMap t.child?).flatMap readCode := by
  rw [← h.parts]
  exact flatMap_filter_of_nil fun c hc hp => empty c hc (by simpa using hp)

theorem flatMap_readCode_chain {t : ParseTree} {fields needed : List String}
    (h : t.ConsistsOf ["optional_chain"] fields needed) (plain : t.PlainChain)
    (fits : ∀ c ∈ t.keptChildren, c.Fits) :
    t.keptChildren.flatMap readCode = (fields.filterMap t.child?).flatMap readCode := by
  refine h.flatMap_readCode fun c hc ha => ?_
  have field : c.field = some "optional_chain" := by simpa [fillsAny] using ha
  refine readCode_text (fits c hc) (ParseTree.mem_keptChildren.mp hc).2 ?_
  rw [plain c hc field]
  decide

/-- A method's code is that of its name, then its function, then that of its parameters and body. -/
theorem readCode_method {t name params body : ParseTree} (h : shape t.type = .method)
    (parts : t.ConsistsOf ["decorator"] ["name", "parameters", "body"] ["name", "parameters", "body"])
    (hname : t.child? "name" = some name) (hparams : t.child? "parameters" = some params)
    (hbody : t.child? "body" = some body) :
    t.readCode = name.readCode ++ (t :: (params.readCode ++ body.readCode)) := by
  have ofName := field_of_child? hname
  have ofParams := field_of_child? hparams
  have ofBody := field_of_child? hbody
  have decorators : ∀ c ∈ t.keptChildren, (!c.fillsAny ["decorator"]) = false →
      (methodAt t c ++ if leavesOut t c then [] else c.codeWithout leavesOut) = [] := by
    intro c _ hc
    have field : c.field = some "decorator" := by simpa [fillsAny] using hc
    simp [methodAt, leavesOut, h, field]
  rw [readCode, codeWithout_eq, flatMap_filter_of_nil decorators, parts.parts]
  simp [ownCode, isCode, methodAt, leavesOut, h, hname, hparams, hbody, ofName, ofParams, ofBody, readCode]

end ParseTree

namespace Converted

variable {src : SourceBytes} {t : ParseTree}

theorem literal_renders (h : shape t.type = .literal) : RendersNode src [t] (literal src t) := by
  have plain (v : LiteralValue) (hn : t.type ≠ "number") :
      RendersNode src [t] (.ok (.literal (src.location t) v (src.text t))) := by
    rw [rendersNode_ok, Node.code_literal]
    exact .cons ⟨h, rfl, rfl, fun hn' => absurd hn' hn⟩ .nil
  have mem := literalTypes_of_shape h
  simp only [literalTypes, List.mem_cons, List.not_mem_nil, or_false] at mem
  rcases mem with hn | ht | ht | ht | ht | ht
  · simp only [literal, hn]
    cases hv : Number.literalValue (src.slice t.start t.stop) with
    | error f => exact ⟨t, List.mem_singleton_self t, f, ⟨hn, hv⟩, rfl⟩
    | ok d =>
      have found : Appears src t (.literal (src.location t) (.ofNumber d) (src.text t)) :=
        ⟨h, rfl, rfl, fun _ => ⟨d, hv, rfl⟩⟩
      have code : RendersNode src [t] (.ok (.literal (src.location t) (.ofNumber d) (src.text t))) := by
        rw [rendersNode_ok, Node.code_literal]
        exact .cons found .nil
      cases d <;> exact code
  all_goals
    simp only [literal, ht]
    exact plain _ (by simp [ht])

/-- What is known of the children when a node is converted. -/
def ChildrenRender (src : SourceBytes) (t : ParseTree) : Prop :=
  ∀ c ∈ t.keptChildren, c.Every Fits ∧ RendersNode src c.readCode (converted src c).node ∧
    Renders src (c.keptChildren.flatMap readCode) (converted src c).parts

section

variable (children : ChildrenRender src t)
include children

theorem nodes_renders :
    Renders src (t.keptChildren.flatMap readCode) (nodes (t.children.map (converted src))) := by
  rw [nodes_map]
  exact renders_mapM _ _ fun c hc => (children c hc).2.1

/-- The field that has to be there holds the code of its child. -/
theorem required_renders {aside fields needed : List String} {f : String}
    (parts : t.ConsistsOf aside fields needed) (hf : f ∈ fields) (hn : f ∈ needed) :
    ∃ c, t.child? f = some c ∧ c ∈ t.keptChildren ∧
      RendersNode src c.readCode (required (t.children.map (converted src)) f) := by
  obtain ⟨c, hc⟩ := Option.isSome_iff_exists.mp (parts.present f hn)
  have kept := parts.mem_keptChildren hf hc
  refine ⟨c, hc, kept, ?_⟩
  rw [required_map src hc]
  exact (children c kept).2.1

theorem declaration_renders (h : shape t.type = .declaration) (agrees : t.Agrees .declaration) :
    RendersNode src t.readCode (declaration src t (t.children.map (converted src))) := by
  have same : ((t.children.map (converted src)).filter fun k =>
      k.tree.named && k.tree.type == "variable_declarator") = t.keptChildren.map (converted src) := by
    rw [List.filter_map]
    congr 1
    refine List.filter_congr fun c hc => ?_
    rw [Function.comp_apply, tree_converted, Bool.eq_iff_iff]
    constructor
    · intro hd
      obtain ⟨named, type⟩ : c.named ∧ c.type = "variable_declarator" := by simpa using hd
      simp [isKept, named, isSkipped, type, skippedTypes]
    · intro hk
      have type := agrees c (ParseTree.mem_keptChildren.mpr ⟨hc, hk⟩)
      have named : c.named := by simp_all [isKept]
      simp [named, type]
  have all := nodes_renders children
  rw [nodes_map] at all
  rw [readCode_eq (by simp [h]) (by simp [h]), declaration, same, List.mapM_map]
  refine RendersNode.of_one (f := id) (by rwa [Except.map_id]) (by simp) fun ds _ hds => ?_
  simpa [ownCode, isCode, h] using hds

theorem declarator_renders (h : shape t.type = .declarator) (agrees : t.Agrees .declarator) :
    RendersNode src t.readCode (declarator src t (t.children.map (converted src))) := by
  obtain ⟨name, hname, -, named⟩ :=
    required_renders children agrees (by simp : "name" ∈ _) (by simp)
  have value : Renders src ((t.child? "value").toList.flatMap readCode)
      (((inField? (t.children.map (converted src)) "value").mapM fun k : Converted => k.node).map
        Option.toList) := by
    rw [inField?_map]
    cases hv : t.child? "value" with
    | none => exact List.Forall₂.nil
    | some c =>
      have one := (children c (agrees.mem_keptChildren (by simp) hv)).2.1
      change Renders src ([c].flatMap readCode) ((Option.some <$> (converted src c).node).map Option.toList)
      rw [List.flatMap_singleton]
      cases hn : (converted src c).node with
      | error e => rw [hn] at one; exact one
      | ok n => rw [hn] at one; exact one
  have code : t.readCode = name.readCode ++ (t.child? "value").toList.flatMap readCode := by
    rw [readCode_eq (by simp [h]) (by simp [h]), agrees.flatMap_readCode (by simp [fillsAny])]
    cases hv : t.child? "value" <;> simp [ownCode, isCode, h, hname, hv]
  rw [code]
  refine RendersNode.of_two named value (by simp) (by simp) fun n v hn hv => ?_
  rw [Node.code_declarator]
  exact List.rel_append (by simpa using hn) hv

theorem member_renders (h : shape t.type = .member) (agrees : t.Agrees .member) :
    RendersNode src t.readCode (member src t (t.children.map (converted src))) := by
  obtain ⟨parts, plain⟩ := agrees
  obtain ⟨object, hobject, -, left⟩ :=
    required_renders children parts (by simp : "object" ∈ _) (by simp)
  obtain ⟨property, hproperty, -, right⟩ :=
    required_renders children parts (by simp : propertyField t.type ∈ _) (by simp)
  have code : t.readCode = t :: (object.readCode ++ property.readCode) := by
    rw [readCode_eq (by simp [h]) (by simp [h]),
      flatMap_readCode_chain parts plain fun c hc => ((every_iff _ c).mp (children c hc).1).1]
    simp [ownCode, isCode, h, hobject, hproperty]
  rw [code]
  refine RendersNode.of_two left right (by simp) (by simp) fun o p ho hp => ?_
  rw [Node.code_member]
  refine .cons ⟨h, rfl, rfl⟩ (List.rel_append ?_ ?_)
  · simpa using ho
  · simpa using hp

theorem call_renders (h : shape t.type = .call) (agrees : t.Agrees .call) :
    RendersNode src t.readCode (call src t (t.children.map (converted src))) := by
  obtain ⟨parts, plain, kinds⟩ := agrees
  obtain ⟨callee, hcallee, -, left⟩ :=
    required_renders children parts (by simp : "function" ∈ _) (by simp)
  obtain ⟨args, hargs, kept, right⟩ :=
    required_renders children parts (by simp : "arguments" ∈ _) (by simp)
  have code : t.readCode = t.ownCode ++ (callee.readCode ++ args.readCode) := by
    rw [readCode_eq (by simp [h]) (by simp [h]),
      flatMap_readCode_chain parts plain fun c hc => ((every_iff _ c).mp (children c hc).1).1]
    simp [hcallee, hargs]
  rw [code, call, inField?_map, hargs]
  rcases kinds args hargs with type | type
  · have list : args.readCode = args.keptChildren.flatMap readCode := by
      rw [readCode_other (by rw [type]; rfl)]
    have own : t.ownCode = [t] := by simp [ownCode, isCode, h, hargs, type]
    have argumentNodes := (children args kept).2.2
    rw [own, list, List.singleton_append]
    simp only [Option.map_some, tree_converted, type]
    refine RendersNode.of_two (f := fun n => [n]) (g := id) left (by rwa [Except.map_id]) (by simp) (by simp)
      fun c as hc has => ?_
    rw [Node.code_call]
    refine .cons ⟨h, rfl⟩ (List.rel_append ?_ has)
    simpa using hc
  · have own : t.ownCode = [] := by simp [ownCode, isCode, h, hargs, type]
    have template := (children args kept).2.1
    rw [own, List.nil_append]
    simp only [Option.map_some, tree_converted, type]
    refine RendersNode.of_two left template (by simp) (by simp) fun c a hc ha => ?_
    rw [Node.code_generic]
    have both := List.rel_append hc ha
    simpa using both

theorem assignment_renders (h : shape t.type = .assignment) (agrees : t.Agrees .assignment) :
    RendersNode src t.readCode (assignment src t (t.children.map (converted src))) := by
  obtain ⟨left, hleft, -, first⟩ :=
    required_renders children agrees (by simp : "left" ∈ _) (by simp)
  obtain ⟨right, hright, -, second⟩ :=
    required_renders children agrees (by simp : "right" ∈ _) (by simp)
  have code : t.readCode = left.readCode ++ right.readCode := by
    rw [readCode_eq (by simp [h]) (by simp [h]), agrees.flatMap_readCode (by simp [fillsAny])]
    simp [ownCode, isCode, h, hleft, hright]
  rw [code]
  refine RendersNode.of_two first second (by simp) (by simp) fun l r hl hr => ?_
  rw [Node.code_assignment]
  refine List.rel_append ?_ ?_
  · simpa using hl
  · simpa using hr

theorem parameters_renders {aside fields needed : List String} (parts : t.ConsistsOf aside fields needed)
    (hf : "parameter" ∈ fields ∨ t.child? "parameter" = none) (hs : "parameters" ∈ fields)
    (list : ∀ c ∈ t.child? "parameters", c.type = "formal_parameters")
    (one : (t.child? "parameter").isSome → t.child? "parameters" = none) :
    Renders src (((t.child? "parameter").toList ++ (t.child? "parameters").toList).flatMap readCode)
      (parameters (t.children.map (converted src))) := by
  rw [parameters, inField?_map, inField?_map]
  cases hp : t.child? "parameter" with
  | some single =>
    have field : "parameter" ∈ fields := hf.resolve_right (by simp [hp])
    have node := (children single (parts.mem_keptChildren field hp)).2.1
    have none := one (by simp [hp])
    simpa [none, RendersNode] using node
  | none =>
    cases hl : t.child? "parameters" with
    | none => exact List.Forall₂.nil
    | some params =>
      have type := list params hl
      have code : params.readCode = params.keptChildren.flatMap readCode := by
        rw [readCode_other (by rw [type]; rfl)]
      have nodes := (children params (parts.mem_keptChildren hs hl)).2.2
      simpa [code] using nodes

theorem function_renders {form : FunctionForm} (h : shape t.type = .function form)
    (agrees : t.Agrees (.function form)) :
    RendersNode src t.readCode (function src t form (t.children.map (converted src))) := by
  obtain ⟨parts, identifier, list, one⟩ := agrees
  obtain ⟨body, hbody, -, inner⟩ :=
    required_renders children parts (by simp : "body" ∈ _) (by simp)
  have params := parameters_renders children parts (.inl (by simp)) (by simp) list one
  have nameless : (t.child? "name").toList.flatMap readCode = [] := by
    cases hn : t.child? "name" with
    | none => rfl
    | some name =>
      have mem := parts.mem_keptChildren (by simp) hn
      have kept := (ParseTree.mem_keptChildren.mp mem).2
      simpa using readCode_identifier (children name mem).1 kept (identifier name hn)
  have code : t.readCode = t :: (((t.child? "parameter").toList ++
      (t.child? "parameters").toList).flatMap readCode ++ body.readCode) := by
    rw [readCode_eq (by simp [h]) (by simp [h]), parts.flatMap_readCode (by simp [fillsAny])]
    simp [List.filterMap_eq_flatMap_toList, nameless, ownCode, isCode, h, hbody]
  rw [code]
  refine RendersNode.of_two (f := id) (by rwa [Except.map_id]) inner
    (List.subset_cons_of_subset _ (List.subset_append_left _ _))
    (List.subset_cons_of_subset _ (List.subset_append_right _ _)) fun ps b hps hb => ?_
  rw [Node.code_function]
  refine .cons (.inl ⟨h, rfl⟩) (List.rel_append hps ?_)
  simpa using hb

theorem method_renders (h : shape t.type = .method) (agrees : t.Agrees .method) :
    RendersNode src t.readCode (method src t (t.children.map (converted src))) := by
  obtain ⟨parts, list, single⟩ := agrees
  obtain ⟨name, hname, -, key⟩ :=
    required_renders children parts (by simp : "name" ∈ _) (by simp)
  obtain ⟨params, hparams, -, -⟩ :=
    required_renders children parts (by simp : "parameters" ∈ _) (by simp)
  obtain ⟨body, hbody, -, inner⟩ :=
    required_renders children parts (by simp : "body" ∈ _) (by simp)
  have parameterNodes := parameters_renders children parts (.inr single) (by simp) list (by simp [single])
  rw [single, hparams] at parameterNodes
  rw [readCode_method h parts hname hparams hbody, method]
  simp only [inField?_map, hparams, hbody, Option.map_some, Option.getD_some, tree_converted]
  refine RendersNode.of_three (f := id) (by rwa [Except.map_id]) inner key ?_ ?_ ?_
    fun ps b k hps hb hk => ?_
  · intro c hc
    simp_all
  · intro c hc
    simp_all
  · intro c hc
    simp_all
  · have hps : List.Forall₂ (Appears src) params.readCode (ps.flatMap Node.code) := by simpa using hps
    have hb : List.Forall₂ (Appears src) body.readCode b.code := by simpa using hb
    have hk : List.Forall₂ (Appears src) name.readCode k.code := by simpa using hk
    simp only [Node.code_generic, List.flatMap_cons, List.flatMap_nil, List.append_nil,
      Node.code_function]
    exact List.rel_append hk (.cons (.inr ⟨h, rfl, params, body, hparams, hbody, rfl⟩)
      (List.rel_append hps hb))

theorem forIn_renders (h : shape t.type = .loop) (agrees : t.Agrees .loop) :
    RendersNode src t.readCode (forIn src t (t.children.map (converted src))) := by
  obtain ⟨left, hleft, -, first⟩ :=
    required_renders children agrees (by simp : "left" ∈ _) (by simp)
  obtain ⟨right, hright, -, second⟩ :=
    required_renders children agrees (by simp : "right" ∈ _) (by simp)
  obtain ⟨body, hbody, -, inner⟩ :=
    required_renders children agrees (by simp : "body" ∈ _) (by simp)
  have code : t.readCode = left.readCode ++ (right.readCode ++ body.readCode) := by
    have parts : t.keptChildren = ["left", "value", "right", "body"].filterMap t.child? := by
      simpa [fillsAny] using agrees.parts
    have ofLeft := field_of_child? hleft
    have ofRight := field_of_child? hright
    have ofBody := field_of_child? hbody
    rw [readCode, codeWithout_eq, parts]
    cases hv : t.child? "value" with
    | none => simp [ownCode, isCode, methodAt, leavesOut, h, hleft, hright, hbody, hv, ofLeft, ofRight,
        ofBody, readCode]
    | some value =>
      have ofValue := field_of_child? hv
      simp [ownCode, isCode, methodAt, leavesOut, h, hleft, hright, hbody, hv, ofLeft, ofRight, ofBody,
        ofValue, readCode]
  rw [code, forIn]
  refine RendersNode.of_three first second inner ?_ ?_ ?_ fun l r b hl hr hb => ?_
  · exact List.subset_append_left _ _
  · exact List.subset_append_of_subset_right _ (List.subset_append_left _ _)
  · exact List.subset_append_of_subset_right _ (List.subset_append_right _ _)
  · have hl : List.Forall₂ (Appears src) left.readCode l.code := by simpa using hl
    have hr : List.Forall₂ (Appears src) right.readCode r.code := by simpa using hr
    have hb : List.Forall₂ (Appears src) body.readCode b.code := by simpa using hb
    rw [inField?_map, inField?_map, hleft]
    cases t.child? "kind" with
    | none => simpa using List.rel_append hl (List.rel_append hr hb)
    | some kind => simpa using List.rel_append hl (List.rel_append hr hb)

theorem construct_renders (fits : t.Every Fits) (kept : t.isKept) :
    RendersNode src t.readCode (construct src t (t.children.map (converted src))) := by
  have agrees := ((every_iff _ t).mp fits).1.agrees kept
  rw [construct_eq]
  cases h : shape t.type with
  | identifier =>
    rw [readCode_identifier fits kept h, rendersNode_ok, Node.code_identifier]
    exact .nil
  | literal =>
    have code : t.readCode = [t] := by
      rw [readCode_eq (by simp [h]) (by simp [h]), flatMap_readCode_leaf fits kept (.inr h)]
      simp [ownCode, isCode, h]
    rw [code]
    exact literal_renders h
  | declaration => exact declaration_renders children h (h ▸ agrees)
  | declarator => exact declarator_renders children h (h ▸ agrees)
  | member => exact member_renders children h (h ▸ agrees)
  | call => exact call_renders children h (h ▸ agrees)
  | assignment => exact assignment_renders children h (h ▸ agrees)
  | function form => exact function_renders children h (h ▸ agrees)
  | method => exact method_renders children h (h ▸ agrees)
  | loop => exact forIn_renders children h (h ▸ agrees)
  | other =>
    rw [readCode_other h]
    refine RendersNode.of_one (f := id) ?_ (List.Subset.refl _) fun ns _ hns => ?_
    · rw [Except.map_id]
      exact nodes_renders children
    · simpa using hns

theorem assemble_renders (fits : t.Every Fits) (kept : t.isKept) :
    RendersNode src t.readCode (assemble src t (t.children.map (converted src))) := by
  rw [assemble]
  split
  next parens =>
    rw [kept_map]
    split
    next inner single =>
      obtain ⟨c, hc, rfl⟩ := List.map_eq_singleton_iff.mp single
      have other : shape t.type = .other := by rw [eq_of_beq parens]; rfl
      have only : t.keptChildren = [c] := hc
      have code : t.readCode = c.readCode := by rw [readCode_other other, only, List.flatMap_singleton]
      rw [code]
      exact (children c (by simp [only])).2.1
    next => exact construct_renders children fits kept
  next => exact construct_renders children fits kept

end

/-- A node converts to a node that holds its code, and its children to nodes that hold theirs. -/
theorem converted_renders (src : SourceBytes) (t : ParseTree) (fits : t.Every Fits) :
    (t.isKept → RendersNode src t.readCode (converted src t).node) ∧
      Renders src (t.keptChildren.flatMap readCode) (converted src t).parts := by
  induction t using ParseTree.induction with
  | step t ih =>
    have below := ((every_iff _ t).mp fits).2
    have children : ChildrenRender src t := by
      intro c hc
      obtain ⟨mem, keptChild⟩ := ParseTree.mem_keptChildren.mp hc
      obtain ⟨node, parts⟩ := ih c mem (below c mem)
      exact ⟨below c mem, node keptChild, parts⟩
    rw [converted_eq]
    exact ⟨assemble_renders children fits, nodes_renders children⟩

end Converted

/-- The program of a parse tree holds the code that is read; there is none only if a number in it has no
value. -/
theorem Node.ofParseTree_renders (src : SourceBytes) {root : ParseTree} (grammatical : root.Grammatical) :
    RendersNode src root.readCode (Node.ofParseTree src root) := by
  have other : shape root.type = .other := by rw [grammatical.program]; rfl
  have parts := (Converted.converted_renders src root grammatical.fits).2
  rw [Converted.converted_eq] at parts
  rw [readCode_other other, Node.ofParseTree, Converted.convertedAll_eq]
  refine RendersNode.of_one (f := id) ?_ (List.Subset.refl _) fun ns _ hns => ?_
  · rw [Except.map_id]
    exact parts
  · simpa using hns

end ScriptAudit
