import ScriptAudit.Proofs.Origins
import ScriptAudit.Proofs.RuleIndependence
import ScriptAudit.Proofs.TextPlaces
import ScriptAudit.Suppression

namespace ScriptAudit

open ParseTree

namespace ParseTree

/-- The fields that are read of a node, in the order in which the grammar has them. -/
def fieldOrders (type : String) : List (List String) :=
  match shape type with
  | .declarator => [["name", "value"]]
  | .member => [["object", propertyField type]]
  | .call => [["function", "arguments"]]
  | .assignment => [["left", "right"]]
  | .function _ | .method => [["name", "parameter", "body"], ["name", "parameters", "body"]]
  | .loop => [["kind", "left", "right", "body"]]
  | _ => []

def Apart (all : List ParseTree) : Prop := all.Pairwise fun a b => a.stop ≤ b.start

/-- What a parser says of the places of one node and its children. -/
structure Arranged (t : ParseTree) : Prop where
  forward : t.start ≤ t.stop
  inside : ∀ c ∈ t.children, t.start ≤ c.start ∧ c.stop ≤ t.stop
  apart : Apart t.children
  fields : ∀ fields ∈ fieldOrders t.type, Apart (fields.filterMap t.child?)
  /-- A method has a list of parameters, and no single one in its place. -/
  parameters : shape t.type = .method → (t.child? "parameters").isSome ∧ t.child? "parameter" = none

instance (all : List ParseTree) : Decidable (Apart all) := inferInstanceAs (Decidable (all.Pairwise _))

instance (t : ParseTree) : Decidable t.Arranged :=
  decidable_of_iff (t.start ≤ t.stop ∧ (∀ c ∈ t.children, t.start ≤ c.start ∧ c.stop ≤ t.stop) ∧
      Apart t.children ∧ (∀ fields ∈ fieldOrders t.type, Apart (fields.filterMap t.child?)) ∧
      (shape t.type = .method → (t.child? "parameters").isSome ∧ (t.child? "parameter").isNone))
    ⟨fun ⟨forward, inside, apart, fields, parameters⟩ =>
        ⟨forward, inside, apart, fields, fun h => ⟨(parameters h).1, Option.isNone_iff_eq_none.mp (parameters h).2⟩⟩,
      fun h => ⟨h.forward, h.inside, h.apart, h.fields,
        fun hs => ⟨(h.parameters hs).1, Option.isNone_iff_eq_none.mpr (h.parameters hs).2⟩⟩⟩

end ParseTree

namespace Node

/-- The location of a node runs forward and holds its children one behind the other. -/
structure Placed (n : Node) : Prop where
  forward : n.location.start ≤ n.location.stop
  inside : ∀ c ∈ n.children, n.location.start ≤ c.location.start ∧ c.location.stop ≤ n.location.stop
  ordered : n.children.Pairwise fun a b => a.location.stop ≤ b.location.start

def Nested (n : Node) : Prop := ∀ m ∈ n.visited, m.Placed

/-- Nested nodes stand one behind the other between two positions. -/
def InLine : Position → List Node → Position → Prop
  | a, [], b => a ≤ b
  | a, n :: rest, b => a ≤ n.location.start ∧ n.Nested ∧ InLine n.location.stop rest b

theorem Nested.placed {n : Node} (h : n.Nested) : n.Placed := by
  apply h
  rw [visited_eq]
  exact List.mem_cons_self

namespace InLine

variable {a b c : Position} {n : Node} {front rest : List Node}

theorem le (h : InLine a rest b) : a ≤ b := by
  induction rest generalizing a with
  | nil => exact h
  | cons n rest ih =>
    obtain ⟨start, nested, behind⟩ := h
    exact start.trans (nested.placed.forward.trans (ih behind))

theorem widen (h : InLine b rest c) (hab : a ≤ b) : InLine a rest c := by
  cases rest with
  | nil => exact hab.trans h
  | cons n rest => exact ⟨hab.trans h.1, h.2⟩

theorem extend (h : InLine a rest b) (hbc : b ≤ c) : InLine a rest c := by
  induction rest generalizing a with
  | nil => exact le_trans h hbc
  | cons n rest ih => exact ⟨h.1, h.2.1, ih h.2.2⟩

theorem append (hfront : InLine a front b) (hrest : InLine b rest c) : InLine a (front ++ rest) c := by
  induction front generalizing a with
  | nil => exact hrest.widen hfront
  | cons n front ih => exact ⟨hfront.1, hfront.2.1, ih hfront.2.2⟩

theorem mem (h : InLine a rest b) (hn : n ∈ rest) :
    a ≤ n.location.start ∧ n.location.stop ≤ b ∧ n.Nested := by
  induction rest generalizing a with
  | nil => cases hn
  | cons m rest ih =>
    obtain ⟨start, nested, behind⟩ := h
    rcases List.mem_cons.mp hn with rfl | hn
    · exact ⟨start, behind.le, nested⟩
    · obtain ⟨later, stop, inner⟩ := ih behind hn
      exact ⟨(start.trans nested.placed.forward).trans later, stop, inner⟩

theorem pairwise (h : InLine a rest b) : rest.Pairwise fun a b => a.location.stop ≤ b.location.start := by
  induction rest generalizing a with
  | nil => exact .nil
  | cons n rest ih =>
    obtain ⟨-, -, behind⟩ := h
    exact .cons (fun m hm => (behind.mem hm).1) (ih behind)

end InLine

theorem nested_of_inLine {n : Node} (h : InLine n.location.start n.children n.location.stop) : n.Nested := by
  intro m hm
  rw [visited_eq] at hm
  rcases List.mem_cons.mp hm with rfl | below
  · exact ⟨h.le, fun c hc => ⟨(h.mem hc).1, (h.mem hc).2.1⟩, h.pairwise⟩
  · obtain ⟨c, hc, hm⟩ := List.mem_flatMap.mp below
    exact (h.mem hc).2.2 m hm

theorem size_lt_of_child {n c : Node} (hc : c ∈ n.children) : c.size < n.size := by
  obtain ⟨front, rest, split⟩ := List.append_of_mem hc
  have whole := n.size_eq
  rw [split, sizeAll_append, sizeAll] at whole
  omega

theorem induction {motive : Node → Prop} (step : ∀ n, (∀ c ∈ n.children, motive c) → motive n) (n : Node) :
    motive n :=
  step n fun c _hc => induction step c
termination_by n.size
decreasing_by exact size_lt_of_child _hc

/-- A walk meets nested nodes in the order of their starts. -/
theorem Nested.starts {n : Node} (h : n.Nested) :
    (n.visited.Pairwise fun a b => a.location.start ≤ b.location.start) ∧
      ∀ m ∈ n.visited, n.location.start ≤ m.location.start ∧ m.location.start ≤ n.location.stop := by
  induction n using Node.induction with
  | step n ih =>
    have placed := h.placed
    have below (c : Node) (hc : c ∈ n.children) :
        (c.visited.Pairwise fun a b => a.location.start ≤ b.location.start) ∧
          ∀ m ∈ c.visited, c.location.start ≤ m.location.start ∧ m.location.start ≤ c.location.stop := by
      have nested : c.Nested := by
        intro m hm
        apply h
        rw [visited_eq]
        exact List.mem_cons_of_mem n (List.mem_flatMap_of_mem hc hm)
      exact ih c hc nested
    have later (m : Node) (hm : m ∈ n.children.flatMap visited) :
        n.location.start ≤ m.location.start ∧ m.location.start ≤ n.location.stop := by
      obtain ⟨c, hc, hm⟩ := List.mem_flatMap.mp hm
      obtain ⟨low, high⟩ := (below c hc).2 m hm
      obtain ⟨start, stop⟩ := placed.inside c hc
      exact ⟨start.trans low, high.trans stop⟩
    rw [visited_eq]
    constructor
    · refine List.pairwise_cons.mpr ⟨fun m hm => (later m hm).1, List.pairwise_flatMap.mpr ⟨?_, ?_⟩⟩
      · intro c hc
        exact (below c hc).1
      · apply placed.ordered.imp_of_mem
        intro c d hc hd apart x hx y hy
        have left := ((below c hc).2 x hx).2
        have right := ((below d hd).2 y hy).1
        exact left.trans (apart.trans right)
    · intro m hm
      rcases List.mem_cons.mp hm with rfl | hm
      · exact ⟨le_refl _, placed.forward⟩
      · exact later m hm

end Node

open Node

/-- The nodes stand in line within a parse node. -/
def Within (src : SourceBytes) (t : ParseTree) (nodes : List Node) : Prop :=
  InLine (src.position t.start) nodes (src.position t.stop)

section

variable {src : SourceBytes} {t : ParseTree} {n : Node}

/-- What parse nodes become stands in line if they stand apart. -/
theorem inLine_flatten {a b : Mark} {all : List ParseTree} {nodes : List (List Node)} (apart : Apart all)
    (inside : ∀ c ∈ all, a ≤ c.start ∧ c.stop ≤ b) (hab : a ≤ b)
    (each : List.Forall₂ (Within src) all nodes) :
    InLine (src.position a) nodes.flatten (src.position b) := by
  induction each generalizing a with
  | nil => exact src.position_mono hab
  | @cons c ns rest more here _ ih =>
    obtain ⟨start, stop⟩ := inside c List.mem_cons_self
    obtain ⟨before, apart⟩ := List.pairwise_cons.mp apart
    have behind := ih apart (fun d hd => ⟨before d hd, (inside d (List.mem_cons_of_mem c hd)).2⟩) stop
    rw [List.flatten_cons]
    exact (here.widen (src.position_mono start)).append behind

theorem within_of_nested (h : n.Nested) (location : n.location = src.location t) : Within src t [n] := by
  have start : n.location.start = src.position t.start := by rw [location]; rfl
  have stop : n.location.stop = src.position t.stop := by rw [location]; rfl
  exact ⟨start.symm.le, h, stop.le⟩

/-- A node stands within the parse node it is made of if its children do. -/
theorem within_of_children (location : n.location = src.location t) (line : Within src t n.children) :
    Within src t [n] := by
  refine within_of_nested (nested_of_inLine ?_) location
  rw [location]
  exact line

namespace ParseTree

theorem Arranged.within_flatten (arranged : t.Arranged) {all : List ParseTree} {nodes : List (List Node)}
    (children : ∀ c ∈ all, c ∈ t.children) (apart : Apart all)
    (each : List.Forall₂ (Within src) all nodes) : Within src t nodes.flatten :=
  inLine_flatten apart (fun c hc => arranged.inside c (children c hc)) arranged.forward each

theorem mem_children_of_sublist {fields : List String} {all : List ParseTree}
    (sub : all.Sublist (fields.filterMap t.child?)) : ∀ c ∈ all, c ∈ t.children := by
  intro c hc
  obtain ⟨f, -, hf⟩ := List.mem_filterMap.mp (sub.subset hc)
  exact mem_children_of_child? hf

/-- Children in fields that the grammar has in this order. -/
theorem Arranged.within_fields (arranged : t.Arranged) {fields : List String} {all : List ParseTree}
    {nodes : List (List Node)} (hf : fields ∈ fieldOrders t.type)
    (sub : all.Sublist (fields.filterMap t.child?)) (each : List.Forall₂ (Within src) all nodes) :
    Within src t nodes.flatten :=
  arranged.within_flatten (mem_children_of_sublist sub) ((arranged.fields fields hf).sublist sub) each

/-- The children in two fields that the grammar has in this order. -/
theorem Arranged.within_pair (arranged : t.Arranged) {f g : String} {c d : ParseTree} {ns ms : List Node}
    (hf : [f, g] ∈ fieldOrders t.type) (hc : t.child? f = some c) (hd : t.child? g = some d)
    (first : Within src c ns) (second : Within src d ms) : Within src t (ns ++ ms) := by
  have sub : [c, d].Sublist ([f, g].filterMap t.child?) := by simp [hc, hd]
  have line := arranged.within_fields hf sub (.cons first (.cons second .nil))
  simpa using line

theorem Arranged.within_child (arranged : t.Arranged) {c : ParseTree} {ns : List Node} (hc : c ∈ t.children)
    (line : Within src c ns) : Within src t ns := by
  obtain ⟨start, stop⟩ := arranged.inside c hc
  exact (line.widen (src.position_mono start)).extend (src.position_mono stop)

/-- What a parse node converts to stands within it, and so does what its children convert to. -/
structure KeepsOrder (src : SourceBytes) (t : ParseTree) : Prop where
  arranged : t.Arranged
  node : ∀ n, t.Converts src n → Within src t [n]
  nodes : ∀ ns, List.Forall₂ (Converts src) t.keptChildren ns → Within src t ns

theorem Arranged.within_filter (arranged : t.Arranged) {p : ParseTree → Bool} {ns : List Node}
    (children : ∀ c ∈ t.children, c.KeepsOrder src)
    (made : List.Forall₂ (Converts src) (t.children.filter p) ns) : Within src t ns := by
  have apart : Apart (t.children.filter p) := arranged.apart.sublist List.filter_sublist
  have sub : ∀ c ∈ t.children.filter p, c ∈ t.children := fun c hc => (List.mem_filter.mp hc).1
  have each : List.Forall₂ (Within src) (t.children.filter p) (ns.map fun n => [n]) := by
    rw [List.forall₂_map_right_iff]
    generalize t.children.filter p = all at made sub
    induction made with
    | nil => exact .nil
    | cons here _ ih =>
      have first := (children _ (sub _ List.mem_cons_self)).node _ here
      exact .cons first (ih fun c hc => sub c (List.mem_cons_of_mem _ hc))
  have line := arranged.within_flatten sub apart each
  simpa [← List.flatMap_def] using line

end ParseTree

section

variable (arranged : t.Arranged) (children : ∀ c ∈ t.children, c.KeepsOrder src)
include children

theorem within_of_field {f : String} {c : ParseTree} (hc : t.child? f = some c) (made : c.Converts src n) :
    Within src c [n] := (children c (mem_children_of_child? hc)).node n made

/-- The parameters stand within the child that holds them. -/
theorem ParametersOf.within {params : List Node} (h : ParametersOf src t params) :
    ∃ f all nodes, (f = "parameter" ∨ f = "parameters") ∧ all.Sublist (t.child? f).toList ∧
      List.Forall₂ (Within src) all nodes ∧ nodes.flatten = params := by
  cases h with
  | @single c n field made =>
    have one := within_of_field children field made
    exact ⟨"parameter", [c], [[n]], .inl rfl, by simp [field], .cons one .nil, rfl⟩
  | @list c params none field made =>
    have all := (children c (mem_children_of_child? field)).nodes params made
    exact ⟨"parameters", [c], [params], .inr rfl, by simp [field], .cons all .nil, by simp⟩
  | absent => exact ⟨"parameter", [], [], .inl rfl, List.nil_sublist _, .nil, rfl⟩

include arranged

theorem function_within {form : FunctionForm} {body : ParseTree} {params : List Node} {b : Node}
    (shape : shape t.type = .function form) (parameters : ParametersOf src t params)
    (hbody : t.child? "body" = some body) (inner : body.Converts src b) :
    Within src t (((t.child? "name").map fun name : ParseTree =>
      (⟨src.location name, src.text name⟩ : Name)).toList.map Node.identifier ++ params ++ [b]) := by
  obtain ⟨f, all, nodes, hf, sub, each, rfl⟩ := parameters.within children
  have order : ["name", f, "body"] ∈ fieldOrders t.type := by
    rcases hf with rfl | rfl <;> simp [fieldOrders, shape]
  have named : List.Forall₂ (Within src) (t.child? "name").toList
      ((t.child? "name").toList.map fun name => [.identifier ⟨src.location name, src.text name⟩]) := by
    cases hn : t.child? "name" with
    | none => exact .nil
    | some name =>
      have forward := (children name (mem_children_of_child? hn)).arranged.forward
      exact .cons (within_of_children rfl (src.position_mono forward)) .nil
  have last := within_of_field children hbody inner
  have parts : ((t.child? "name").toList ++ (all ++ [body])).Sublist (["name", f, "body"].filterMap t.child?) := by
    simp only [List.filterMap_eq_flatMap_toList, List.flatMap_cons, List.flatMap_nil, hbody]
    exact (sub.append_right [body]).append_left _
  have line := arranged.within_fields order parts
    (List.rel_append named (List.rel_append each (.cons last .nil)))
  cases hn : t.child? "name" <;> simpa [hn] using line

theorem method_within {name body : ParseTree} {key b : Node} {params : List Node} {isAsync generator : Bool}
    (shape : shape t.type = .method) (hname : t.child? "name" = some name) (named : name.Converts src key)
    (parameters : ParametersOf src t params) (hbody : t.child? "body" = some body)
    (inner : body.Converts src b) :
    Within src t [key, .function (src.span ((t.child? "parameters").getD t).start body.stop) .expression none
      params b isAsync generator] := by
  obtain ⟨present, single⟩ := arranged.parameters shape
  obtain ⟨list, hlist⟩ := Option.isSome_iff_exists.mp present
  have apart : Apart [name, list, body] := by
    have order : ["name", "parameters", "body"] ∈ fieldOrders t.type := by simp [fieldOrders, shape]
    simpa [hname, hlist, hbody] using arranged.fields _ order
  simp only [Apart, List.pairwise_cons, List.mem_cons, List.not_mem_nil, or_false, forall_eq_or_imp,
    forall_eq] at apart
  obtain ⟨⟨nameFirst, -⟩, listFirst, -⟩ := apart
  have listForward := (children list (mem_children_of_child? hlist)).arranged.forward
  have bodyForward := (children body (mem_children_of_child? hbody)).arranged.forward
  have last := within_of_field children hbody inner
  -- the function runs from its parameters to the end of its body
  have function : InLine (src.position list.start) (params ++ [b]) (src.position body.stop) := by
    have front : InLine (src.position list.start) params (src.position list.stop) := by
      cases parameters with
      | single field _ => simp [single] at field
      | list _ field made =>
        obtain rfl := Option.some.inj (hlist.symm.trans field)
        exact (children list (mem_children_of_child? hlist)).nodes _ made
      | absent => exact src.position_mono listForward
    exact front.append (last.widen (src.position_mono listFirst))
  obtain ⟨nameStart, -⟩ := arranged.inside name (mem_children_of_child? hname)
  obtain ⟨-, bodyStop⟩ := arranged.inside body (mem_children_of_child? hbody)
  have first := within_of_field children hname named
  rw [hlist, Option.getD_some]
  refine (first.widen (src.position_mono nameStart)).append ⟨src.position_mono nameFirst, ?_, ?_⟩
  · exact nested_of_inLine function
  · exact src.position_mono bodyStop

theorem loop_within {left right body : ParseTree} {l r b : Node} (shape : shape t.type = .loop)
    (hleft : t.child? "left" = some left) (hright : t.child? "right" = some right)
    (hbody : t.child? "body" = some body) (first : left.Converts src l) (second : right.Converts src r)
    (inner : body.Converts src b) : Within src t [l, r, b] := by
  have order : ["kind", "left", "right", "body"] ∈ fieldOrders t.type := by simp [fieldOrders, shape]
  have sub : [left, right, body].Sublist (["kind", "left", "right", "body"].filterMap t.child?) := by
    simp only [List.filterMap_eq_flatMap_toList, List.flatMap_cons, List.flatMap_nil, hleft, hright, hbody]
    exact List.sublist_append_right _ _
  have line := arranged.within_fields order sub
    (.cons (within_of_field children hleft first) (.cons (within_of_field children hright second)
      (.cons (within_of_field children hbody inner) .nil)))
  simpa using line

/-- The declaration at the head of a loop stands in front of what the loop runs over. -/
theorem declaringLoop_within {word left right body : ParseTree} {l r b : Node}
    (shape : shape t.type = .loop) (hword : t.child? "kind" = some word) (hleft : t.child? "left" = some left)
    (hright : t.child? "right" = some right) (hbody : t.child? "body" = some body)
    (first : left.Converts src l) (second : right.Converts src r) (inner : body.Converts src b) :
    Within src t [.declaration (src.span word.start left.stop) word.type
      [.declarator (src.location left) l none], r, b] := by
  have order : ["kind", "left", "right", "body"] ∈ fieldOrders t.type := by simp [fieldOrders, shape]
  have apart : Apart [word, left, right, body] := by
    simpa [hword, hleft, hright, hbody] using arranged.fields _ order
  obtain ⟨wordFirst, apart⟩ := List.pairwise_cons.mp apart
  obtain ⟨leftFirst, apart⟩ := List.pairwise_cons.mp apart
  have wordForward := (children word (mem_children_of_child? hword)).arranged.forward
  have wordLeft : word.start ≤ left.start := wordForward.trans (wordFirst left List.mem_cons_self)
  obtain ⟨wordStart, -⟩ := arranged.inside word (mem_children_of_child? hword)
  obtain ⟨-, leftStop⟩ := arranged.inside left (mem_children_of_child? hleft)
  have target : Within src left [.declarator (src.location left) l none] :=
    within_of_children rfl (within_of_field children hleft first)
  have head : InLine (src.position t.start) [.declaration (src.span word.start left.stop) word.type
      [.declarator (src.location left) l none]] (src.position left.stop) := by
    refine ⟨src.position_mono wordStart, nested_of_inLine ?_, le_refl _⟩
    exact target.widen (src.position_mono wordLeft)
  have behind : InLine (src.position left.stop) [r, b] (src.position t.stop) := by
    refine inLine_flatten apart ?_ leftStop (.cons (within_of_field children hright second)
      (.cons (within_of_field children hbody inner) .nil))
    intro c hc
    have child : c ∈ t.children := by
      rcases List.mem_pair.mp hc with rfl | rfl
      · exact mem_children_of_child? hright
      · exact mem_children_of_child? hbody
    exact ⟨leftFirst c hc, (arranged.inside c child).2⟩
  exact head.append behind

/-- One case for each construct: its children stand in line within the parse node. -/
theorem Built.within (built : Built src t n) : Within src t n.children := by
  have empty : Within src t [] := src.position_mono arranged.forward
  cases built with
  | identifier | literal => exact empty
  | declaration _ _ made => exact arranged.within_filter children made
  | @declarator shape name id init hname named hinit =>
    have first := within_of_field children hname named
    cases init with
    | none => exact arranged.within_child (mem_children_of_child? hname) first
    | some m =>
      obtain ⟨value, hvalue, made⟩ := hinit m rfl
      exact arranged.within_pair (by simp [fieldOrders, shape]) hname hvalue first
        (within_of_field children hvalue made)
  | member shape _ _ hobject hproperty left right =>
    exact arranged.within_pair (by simp [fieldOrders, shape]) hobject hproperty
      (within_of_field children hobject left) (within_of_field children hproperty right)
  | bareCall _ _ hfunction called =>
    exact arranged.within_child (mem_children_of_child? hfunction) (within_of_field children hfunction called)
  | call shape _ hfunction called hlist made =>
    exact arranged.within_pair (by simp [fieldOrders, shape]) hfunction hlist
      (within_of_field children hfunction called) ((children _ (mem_children_of_child? hlist)).nodes _ made)
  | tagged shape hfunction called htemplate made =>
    exact arranged.within_pair (by simp [fieldOrders, shape]) hfunction htemplate
      (within_of_field children hfunction called) (within_of_field children htemplate made)
  | assignment shape _ hleft hright first second =>
    exact arranged.within_pair (by simp [fieldOrders, shape]) hleft hright
      (within_of_field children hleft first) (within_of_field children hright second)
  | function shape _ _ parameters hbody inner =>
    exact function_within arranged children shape parameters hbody inner
  | method shape _ _ hname named parameters hbody inner =>
    exact method_within arranged children shape hname named parameters hbody inner
  | loop shape _ _ hleft hright hbody first second inner =>
    exact loop_within arranged children shape hleft hright hbody first second inner
  | declaringLoop shape _ hword hleft hright hbody first second inner =>
    exact declaringLoop_within arranged children shape hword hleft hright hbody first second inner
  | other _ made => exact arranged.within_filter children made

end

theorem keepsOrder (src : SourceBytes) (t : ParseTree) (arranged : ∀ u ∈ t.nodes, u.Arranged) :
    t.KeepsOrder src := by
  induction t using ParseTree.induction with
  | step t ih =>
    have here := arranged t t.self_mem_nodes
    have children : ∀ c ∈ t.children, c.KeepsOrder src := by
      intro c hc
      exact ih c hc fun u hu => arranged u (mem_nodes_of_child hc hu)
    refine ⟨here, ?_, fun ns made => here.within_filter children made⟩
    intro n made
    rcases made.inner_or_built with ⟨c, inner, converts⟩ | ⟨-, built⟩
    · have hc := mem_children_of_inner? inner
      exact here.within_child hc ((children c hc).node n converts)
    · exact within_of_children built.location_eq (built.within here children)

theorem nested_program {root : ParseTree} {program : Node} (arranged : ∀ u ∈ root.nodes, u.Arranged)
    (made : Node.ofParseTree src root = .ok program) : program.Nested := by
  obtain ⟨body, rfl, parts⟩ := Node.ofParseTree_eq_ok made
  exact nested_of_inLine ((keepsOrder src root arranged).nodes body parts)

end

/-- Where a finding stands. -/
def Finding.position (f : Finding) : Position := ⟨f.line, f.column⟩

def InSourceOrder (findings : List Finding) : Prop := findings.Pairwise fun f g => f.position ≤ g.position

theorem Rule.position_of_mem_findingsAt {r : Rule} {source : String} {s : Step} {f : Finding}
    (h : f ∈ r.findingsAt source s) : f.position = s.node.location.start := by
  simp only [findingsAt] at h
  split at h
  · rw [List.mem_singleton.mp h]
    rfl
  · cases h

/-- Over nested nodes the findings of any rules come in the order of the text. -/
theorem analyze_inSourceOrder {program : Node} (nested : program.Nested) (source : String) (catalog : Catalog) :
    InSourceOrder (analyze source program catalog).value := by
  have place {s : Step} {f : Finding} (hf : f ∈ catalog.flatMap (·.findingsAt source s)) :
      f.position = s.node.location.start := by
    obtain ⟨r, -, hf⟩ := List.mem_flatMap.mp hf
    exact Rule.position_of_mem_findingsAt hf
  have steps : program.walk.Pairwise fun s t => s.node.location.start ≤ t.node.location.start := by
    have visits := nested.starts.1
    rwa [visited, List.pairwise_map] at visits
  rw [value_analyze]
  refine List.pairwise_flatMap.mpr ⟨?_, ?_⟩
  · intro s _
    refine List.pairwise_of_forall_mem_list fun f hf g hg => ?_
    rw [place hf, place hg]
  · refine steps.imp ?_
    intro s t later f hf g hg
    rw [place hf, place hg]
    exact later

/-- Over a parse tree whose nodes hold their children one behind the other, every node of the program does
so too, and the findings of any rules, whether or not their lines suppress them, come in the order of the
text. -/
theorem findings_in_source_order (source : String) (root : ParseTree) (program : Node)
    (arranged : ∀ t ∈ root.nodes, t.Arranged)
    (made : Node.ofParseTree (.ofText source.toList) root = .ok program) :
    (∀ n ∈ program.visited, n.Placed) ∧ ∀ (catalog : Catalog) (keyword : String),
      InSourceOrder (analyze source program catalog).value ∧
      InSourceOrder (unsuppressed (analyze source program catalog).value source keyword) := by
  have nested := nested_program arranged made
  refine ⟨nested, fun catalog keyword => ?_⟩
  have ordered := analyze_inSourceOrder nested source catalog
  exact ⟨ordered, ordered.filter _⟩

/-- A loop that declares its variable, around a declaration on the next line. -/
def declaringLoop : String := "for(var k of o)\nvar x;"

def declaringLoopTree : ParseTree :=
  .build "program" ⟨0, 0, 0⟩ ⟨1, 6, 22⟩ true false none [
    .build "for_in_statement" ⟨0, 0, 0⟩ ⟨1, 6, 22⟩ true false none [
      .build "for" ⟨0, 0, 0⟩ ⟨0, 3, 3⟩ false false none [],
      .build "(" ⟨0, 3, 3⟩ ⟨0, 4, 4⟩ false false none [],
      .build "var" ⟨0, 4, 4⟩ ⟨0, 7, 7⟩ false false (some "kind") [],
      .build "identifier" ⟨0, 8, 8⟩ ⟨0, 9, 9⟩ true false (some "left") [],
      .build "of" ⟨0, 10, 10⟩ ⟨0, 12, 12⟩ false false (some "operator") [],
      .build "identifier" ⟨0, 13, 13⟩ ⟨0, 14, 14⟩ true false (some "right") [],
      .build ")" ⟨0, 14, 14⟩ ⟨0, 15, 15⟩ false false none [],
      .build "variable_declaration" ⟨1, 0, 16⟩ ⟨1, 6, 22⟩ true false (some "body") [
        .build "var" ⟨1, 0, 16⟩ ⟨1, 3, 19⟩ false false none [],
        .build "variable_declarator" ⟨1, 4, 20⟩ ⟨1, 5, 21⟩ true false none [
          .build "identifier" ⟨1, 4, 20⟩ ⟨1, 5, 21⟩ true false (some "name") []],
        .build ";" ⟨1, 5, 21⟩ ⟨1, 6, 22⟩ false false none []]]]

def declaringLoopProgram : Node :=
  .program ⟨⟨1, 1⟩, ⟨2, 7⟩⟩ [.generic ⟨⟨1, 1⟩, ⟨2, 7⟩⟩ "ForOfStatement" [
    .declaration ⟨⟨1, 5⟩, ⟨1, 10⟩⟩ "var" [
      .declarator ⟨⟨1, 9⟩, ⟨1, 10⟩⟩ (.identifier ⟨⟨⟨1, 9⟩, ⟨1, 10⟩⟩, "k"⟩) none],
    .identifier ⟨⟨⟨1, 14⟩, ⟨1, 15⟩⟩, "o"⟩,
    .declaration ⟨⟨2, 1⟩, ⟨2, 7⟩⟩ "var" [
      .declarator ⟨⟨2, 5⟩, ⟨2, 6⟩⟩ (.identifier ⟨⟨⟨2, 5⟩, ⟨2, 6⟩⟩, "x"⟩) none]]]

/-- Both declarations are found by two rules, the head of the loop first. -/
theorem findings_of_declaringLoop :
    (∀ t ∈ declaringLoopTree.nodes, t.Arranged) ∧
    Node.ofParseTree (.ofText declaringLoop.toList) declaringLoopTree = .ok declaringLoopProgram ∧
    InSourceOrder (analyze declaringLoop declaringLoopProgram Catalog.standard).value ∧
    (analyze declaringLoop declaringLoopProgram Catalog.standard).value.map Finding.position =
      [⟨1, 5⟩, ⟨1, 5⟩, ⟨2, 1⟩, ⟨2, 1⟩] := by
  have arranged : ∀ t ∈ declaringLoopTree.nodes, t.Arranged := by decide +kernel
  have made : Node.ofParseTree (.ofText declaringLoop.toList) declaringLoopTree = .ok declaringLoopProgram := rfl
  have ordered := (findings_in_source_order declaringLoop declaringLoopTree _ arranged made).2 Catalog.standard ""
  refine ⟨arranged, made, ordered.1, ?_⟩
  rw [value_analyze]
  simp only [Node.walk, Walk.run_cons, Walk.run_nil, Step.root, Step.below, declaringLoopProgram, Node.children, Node.isFunction,
    List.map_cons, List.map_nil, List.cons_append, List.nil_append, Option.toList_none]
  rfl

end ScriptAudit
