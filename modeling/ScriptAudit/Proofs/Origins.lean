import ScriptAudit.Proofs.Construction

namespace ScriptAudit

open ParseTree

/-- The parse node `t` makes a node that goes from the start of `first` to the end of `last`. -/
inductive Origin (src : SourceBytes) (t : ParseTree) : Node → ParseTree → ParseTree → Prop
  | whole {n : Node} (plain : t.inner? = none) (made : t.Converts src n) : Origin src t n t t
  /-- The name of a function. -/
  | name {form : FunctionForm} {name : ParseTree} (shape : shape t.type = .function form)
      (hname : t.child? "name" = some name) :
      Origin src t (.identifier ⟨src.location name, src.text name⟩) name name
  /-- The function of a method, from its parameters on. -/
  | value {l : Location} {kind : String} {key n : Node} {body : ParseTree} (shape : shape t.type = .method)
      (made : t.Converts src (.generic l kind [key, n])) (hbody : t.child? "body" = some body) :
      Origin src t n ((t.child? "parameters").getD t) body
  /-- The declaration at the head of a loop, from its keyword on. -/
  | head {l : Location} {kind : String} {n r b : Node} {word left : ParseTree} (shape : shape t.type = .loop)
      (made : t.Converts src (.generic l kind [n, r, b])) (hword : t.child? "kind" = some word)
      (hleft : t.child? "left" = some left) : Origin src t n word left
  /-- The variable that a loop declares. -/
  | target {l place : Location} {kind keyword : String} {n r b : Node} {left : ParseTree}
      (shape : shape t.type = .loop)
      (made : t.Converts src (.generic l kind [.declaration place keyword [n], r, b]))
      (hword : (t.child? "kind").isSome) (hleft : t.child? "left" = some left) : Origin src t n left left

variable {src : SourceBytes} {t : ParseTree} {n m : Node}

theorem Built.location_eq (h : Built src t n) : n.location = src.location t := by
  cases h <;> rfl

theorem exists_of_forall₂ {α β : Type} {R : α → β → Prop} {xs : List α} {ys : List β} {y : β}
    (h : List.Forall₂ R xs ys) (hy : y ∈ ys) : ∃ x ∈ xs, R x y := by
  induction h with
  | nil => cases hy
  | cons here _ ih =>
    rcases List.mem_cons.mp hy with rfl | behind
    · exact ⟨_, List.mem_cons_self, here⟩
    · obtain ⟨x, hx, hr⟩ := ih behind
      exact ⟨x, List.mem_cons_of_mem _ hx, hr⟩

/-- Parentheses are read in no other way. -/
theorem ParseTree.inner?_of_shape (h : shape t.type ≠ .other) : t.inner? = none := by
  rw [inner?, if_neg]
  intro parens
  rw [eq_of_beq parens] at h
  exact h rfl

theorem ParseTree.Converts.built (h : t.Converts src n) (plain : t.inner? = none) : Built src t n := by
  rcases h.inner_or_built with ⟨c, inner, -⟩ | ⟨-, built⟩
  · rw [plain] at inner
    cases inner
  · exact built

/-- What a name or a literal says is written at its place. -/
def Node.spelling? : Node → Option String
  | identifier n => some n.text
  | literal _ _ raw => some raw
  | _ => none

theorem Built.spelling {text : String} (h : Built src t n) (hn : n.spelling? = some text) :
    text = src.text t := by
  cases h with
  | identifier _ => exact (Option.some.inj hn).symm
  | literal _ _ => exact (Option.some.inj hn).symm
  | _ => cases hn

namespace Origin

variable {first last : ParseTree}

/-- A node has the location of the parse nodes it comes from, and a name or a literal comes from one that
has its text. -/
theorem reads (h : Origin src t n first last) : n.location = src.span first.start last.stop ∧
    ∀ text, n.spelling? = some text → first = last ∧ text = src.text first := by
  cases h with
  | whole plain made =>
    have built := made.built plain
    exact ⟨built.location_eq, fun text hn => ⟨rfl, built.spelling hn⟩⟩
  | name shape hname => exact ⟨rfl, fun text hn => ⟨rfl, (Option.some.inj hn).symm⟩⟩
  | value shape made hbody =>
    cases made.built (inner?_of_shape (by simp [shape])) with
    | method _ _ _ _ _ _ hbody' =>
      obtain rfl := Option.some.inj (hbody.symm.trans hbody')
      exact ⟨rfl, fun text hn => by cases hn⟩
    | other other => simp [shape] at other
    | tagged other => simp [shape] at other
  | head shape made hword hleft =>
    cases made.built (inner?_of_shape (by simp [shape])) with
    | loop _ _ none => simp [hword] at none
    | declaringLoop _ _ hword' hleft' =>
      obtain rfl := Option.some.inj (hword.symm.trans hword')
      obtain rfl := Option.some.inj (hleft.symm.trans hleft')
      exact ⟨rfl, fun text hn => by cases hn⟩
    | other other => simp [shape] at other
  | target shape made hword hleft =>
    cases made.built (inner?_of_shape (by simp [shape])) with
    | loop _ _ none => simp [none] at hword
    | declaringLoop _ _ _ hleft' =>
      obtain rfl := Option.some.inj (hleft.symm.trans hleft')
      exact ⟨rfl, fun text hn => by cases hn⟩
    | other other => simp [shape] at other

theorem location_eq (h : Origin src t n first last) : n.location = src.span first.start last.stop := h.reads.1

theorem mem_nodes (h : Origin src t n first last) : first ∈ t.nodes ∧ last ∈ t.nodes := by
  have child {f : String} {c : ParseTree} (hc : t.child? f = some c) : c ∈ t.nodes :=
    mem_nodes_of_child (mem_children_of_child? hc) c.self_mem_nodes
  cases h with
  | whole _ _ => exact ⟨t.self_mem_nodes, t.self_mem_nodes⟩
  | name _ hname => exact ⟨child hname, child hname⟩
  | value _ _ hbody =>
    refine ⟨?_, child hbody⟩
    cases hp : t.child? "parameters" with
    | none => exact t.self_mem_nodes
    | some params => exact child hp
  | head _ _ hword hleft => exact ⟨child hword, child hleft⟩
  | target _ _ _ hleft => exact ⟨child hleft, child hleft⟩

end Origin

/-- A child of a parse node, or a child of one, converts to the node. -/
def ReadBelow (src : SourceBytes) (t : ParseTree) (n : Node) : Prop :=
  ∃ c ∈ t.children, c.Converts src n ∨ ∃ d ∈ c.children, d.Converts src n

theorem readBelow_of_child? {f : String} {c : ParseTree} (hc : t.child? f = some c) (h : c.Converts src n) :
    ReadBelow src t n := ⟨c, mem_children_of_child? hc, .inl h⟩

theorem readBelow_of_list {f : String} {c : ParseTree} {nodes : List Node} (hc : t.child? f = some c)
    (h : List.Forall₂ (Converts src) c.keptChildren nodes) (hn : n ∈ nodes) : ReadBelow src t n := by
  obtain ⟨d, hd, made⟩ := exists_of_forall₂ h hn
  exact ⟨c, mem_children_of_child? hc, .inr ⟨d, mem_children_of_kept hd, made⟩⟩

theorem ParametersOf.readBelow {params : List Node} (h : ParametersOf src t params) (hn : n ∈ params) :
    ReadBelow src t n := by
  cases h with
  | single field made =>
    obtain rfl := List.mem_singleton.mp hn
    exact readBelow_of_child? field made
  | list _ field made => exact readBelow_of_list field made hn
  | absent => cases hn

/-- What is visited below a node is made by its own parse node, or below a node that is read there. -/
theorem Built.visited_cases (h : Built src t n) (made : t.Converts src n) (hm : m ∈ n.visited) :
    m = n ∨ (∃ first last, Origin src t m first last) ∨ ∃ k, ReadBelow src t k ∧ m ∈ k.visited := by
  rw [Node.visited_eq] at hm
  rcases List.mem_cons.mp hm with rfl | below
  · exact .inl rfl
  right
  obtain ⟨k, hk, hm⟩ := List.mem_flatMap.mp below
  -- a child that is read is enough; only the nodes made beside them need more
  have read (hread : ReadBelow src t k) :
      (∃ first last, Origin src t m first last) ∨ ∃ k, ReadBelow src t k ∧ m ∈ k.visited :=
    .inr ⟨k, hread, hm⟩
  cases h with
  | identifier | literal => cases hk
  | declaration _ _ parts =>
    obtain ⟨c, hc, converts⟩ := exists_of_forall₂ parts hk
    exact read ⟨c, (List.mem_filter.mp hc).1, .inl converts⟩
  | declarator _ hname named hinit =>
    rcases List.mem_cons.mp hk with rfl | value
    · exact read (readBelow_of_child? hname named)
    · obtain ⟨c, hc, converts⟩ := hinit k (Option.mem_toList.mp value)
      exact read (readBelow_of_child? hc converts)
  | member _ _ _ hobject hproperty left right =>
    obtain rfl | rfl := List.mem_pair.mp hk
    · exact read (readBelow_of_child? hobject left)
    · exact read (readBelow_of_child? hproperty right)
  | bareCall _ _ hfunction called =>
    obtain rfl := List.mem_singleton.mp hk
    exact read (readBelow_of_child? hfunction called)
  | call _ _ hfunction called hlist parts =>
    rcases List.mem_cons.mp hk with rfl | argument
    · exact read (readBelow_of_child? hfunction called)
    · exact read (readBelow_of_list hlist parts argument)
  | tagged _ hfunction called htemplate text =>
    obtain rfl | rfl := List.mem_pair.mp hk
    · exact read (readBelow_of_child? hfunction called)
    · exact read (readBelow_of_child? htemplate text)
  | assignment _ _ hleft hright first second =>
    obtain rfl | rfl := List.mem_pair.mp hk
    · exact read (readBelow_of_child? hleft first)
    · exact read (readBelow_of_child? hright second)
  | function shape _ _ parameters hbody inner =>
    rcases List.mem_append.mp hk with front | last
    · rcases List.mem_append.mp front with name | param
      · obtain ⟨id, hid, rfl⟩ := List.mem_map.mp name
        obtain ⟨c, hc, rfl⟩ := Option.map_eq_some_iff.mp (Option.mem_toList.mp hid)
        left
        rw [Node.visited_eq] at hm
        obtain rfl := List.mem_singleton.mp hm
        exact ⟨c, c, .name shape hc⟩
      · exact read (parameters.readBelow param)
    · obtain rfl := List.mem_singleton.mp last
      exact read (readBelow_of_child? hbody inner)
  | method shape _ _ hname named parameters hbody inner =>
    obtain rfl | rfl := List.mem_pair.mp hk
    · exact read (readBelow_of_child? hname named)
    · rw [Node.visited_eq] at hm
      rcases List.mem_cons.mp hm with rfl | below
      · exact .inl ⟨_, _, .value shape made hbody⟩
      · obtain ⟨p, hp, hmp⟩ := List.mem_flatMap.mp below
        rcases List.mem_append.mp hp with param | last
        · exact .inr ⟨p, parameters.readBelow param, hmp⟩
        · obtain rfl := List.mem_singleton.mp last
          exact .inr ⟨p, readBelow_of_child? hbody inner, hmp⟩
  | loop _ _ _ hleft hright hbody first second inner =>
    simp only [Node.children, List.mem_cons, List.not_mem_nil, or_false] at hk
    rcases hk with rfl | rfl | rfl
    · exact read (readBelow_of_child? hleft first)
    · exact read (readBelow_of_child? hright second)
    · exact read (readBelow_of_child? hbody inner)
  | declaringLoop shape _ hword hleft hright hbody first second inner =>
    simp only [Node.children, List.mem_cons, List.not_mem_nil, or_false] at hk
    rcases hk with rfl | rfl | rfl
    · rw [Node.visited_eq] at hm
      rcases List.mem_cons.mp hm with rfl | below
      · exact .inl ⟨_, _, .head shape made hword hleft⟩
      · simp only [Node.children, List.flatMap_cons, List.flatMap_nil, List.append_nil] at below
        rw [Node.visited_eq] at below
        rcases List.mem_cons.mp below with rfl | below
        · exact .inl ⟨_, _, .target shape made (by simp [hword]) hleft⟩
        · refine .inr ⟨_, readBelow_of_child? hleft first, ?_⟩
          simpa [Node.children] using below
    · exact read (readBelow_of_child? hright second)
    · exact read (readBelow_of_child? hbody inner)
  | other _ parts =>
    obtain ⟨c, hc, converts⟩ := exists_of_forall₂ parts hk
    exact read ⟨c, mem_children_of_kept hc, .inl converts⟩

/-- All nodes that a parse node converts to have an origin in it. -/
def Traced (src : SourceBytes) (t : ParseTree) : Prop :=
  ∀ n, t.Converts src n → ∀ m ∈ n.visited, ∃ u ∈ t.nodes, ∃ first last, Origin src u m first last

theorem traced (src : SourceBytes) (t : ParseTree) : Traced src t := by
  -- the parts of a list are read past the list itself, so the children's children are carried along
  have both : Traced src t ∧ ∀ c ∈ t.children, Traced src c := by
    induction t using ParseTree.induction with
    | step t ih =>
      refine ⟨?_, fun c hc => (ih c hc).1⟩
      intro n made m hm
      rcases made.inner_or_built with ⟨c, inner, converts⟩ | ⟨plain, built⟩
      · have hc := mem_children_of_inner? inner
        obtain ⟨u, hu, origin⟩ := (ih c hc).1 n converts m hm
        exact ⟨u, mem_nodes_of_child hc hu, origin⟩
      · rcases built.visited_cases made hm with rfl | own | ⟨k, ⟨c, hc, converts | ⟨d, hd, converts⟩⟩, hm⟩
        · exact ⟨t, t.self_mem_nodes, t, t, .whole plain made⟩
        · exact ⟨t, t.self_mem_nodes, own⟩
        · obtain ⟨u, hu, origin⟩ := (ih c hc).1 k converts m hm
          exact ⟨u, mem_nodes_of_child hc hu, origin⟩
        · obtain ⟨u, hu, origin⟩ := (ih c hc).2 d hd k converts m hm
          exact ⟨u, mem_nodes_of_child hc (mem_nodes_of_child hd hu), origin⟩
  exact both.1

/-- Every node of a program but the program itself comes from a parse node below the root. -/
theorem Node.origin_of_visited {root : ParseTree} {program : Node}
    (h : Node.ofParseTree src root = .ok program) (hn : n ∈ program.visited) :
    n = program ∨ ∃ u ∈ root.children.flatMap nodes, ∃ first last, Origin src u n first last := by
  obtain ⟨body, rfl, made⟩ := Node.ofParseTree_eq_ok h
  rw [visited_eq] at hn
  rcases List.mem_cons.mp hn with rfl | below
  · exact .inl rfl
  · obtain ⟨k, hk, hn⟩ := List.mem_flatMap.mp below
    obtain ⟨c, hc, converts⟩ := exists_of_forall₂ made hk
    obtain ⟨u, hu, origin⟩ := traced src c k converts n hn
    exact .inr ⟨u, List.mem_flatMap_of_mem (mem_children_of_kept hc) hu, origin⟩

end ScriptAudit
