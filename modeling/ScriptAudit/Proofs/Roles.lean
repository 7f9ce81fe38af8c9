import Mathlib.Data.List.Forall2
import ScriptAudit.Proofs.Conversion

namespace ScriptAudit

open ParseTree

/-- The second list is the first one with extra items put in; unless `free`, none of them stands in front. -/
inductive Interspersed {α β : Type} (extra : β → Prop) (r : α → β → Prop) : Bool → List α → List β → Prop
  | nil {free : Bool} : Interspersed extra r free [] []
  | extra {as : List α} {b : β} {bs : List β} (added : extra b) (rest : Interspersed extra r true as bs) :
      Interspersed extra r true as (b :: bs)
  | keep {free : Bool} {a : α} {as : List α} {b : β} {bs : List β} (same : r a b)
      (rest : Interspersed extra r true as bs) : Interspersed extra r free (a :: as) (b :: bs)

namespace Interspersed

variable {α β α' β' : Type} {extra : β → Prop} {extra' : β' → Prop} {r : α → β → Prop} {r' : α' → β' → Prop}
  {free : Bool} {as : List α} {bs : List β}

theorem of_forall₂ {free : Bool} (h : List.Forall₂ r as bs) : Interspersed extra r free as bs := by
  induction h generalizing free with
  | nil => exact .nil
  | cons same _ ih => exact .keep same ih

theorem map {f : α → α'} {g : β → β'} (h : Interspersed extra r free as bs)
    (added : ∀ b, extra b → extra' (g b)) (same : ∀ a ∈ as, ∀ b, r a b → r' (f a) (g b)) :
    Interspersed extra' r' free (as.map f) (bs.map g) := by
  induction h with
  | nil => exact .nil
  | extra hb _ ih => exact .extra (added _ hb) (ih same)
  | keep hab _ ih =>
    have behind := ih fun a ha => same a (List.mem_cons_of_mem _ ha)
    exact .keep (same _ List.mem_cons_self _ hab) behind

section

variable {p : α → Bool} {q : β → Bool} (h : Interspersed extra r free as bs)
  (rejects : ∀ b, extra b → q b = false) (agree : ∀ a b, r a b → q b = p a)

include h rejects agree

theorem filter : List.Forall₂ r (as.filter p) (bs.filter q) := by
  induction h with
  | nil => exact .nil
  | extra hb _ ih => rwa [List.filter_cons_of_neg (by simp [rejects _ hb])]
  | @keep _ a _ b _ hab _ ih =>
    rw [List.filter_cons, List.filter_cons, agree a b hab]
    split
    · exact .cons hab ih
    · exact ih

theorem find? : as.find? p = none ∧ bs.find? q = none ∨
    ∃ a b, as.find? p = some a ∧ bs.find? q = some b ∧ r a b := by
  have kept := h.filter rejects agree
  rw [← List.head?_filter, ← List.head?_filter]
  generalize as.filter p = first, bs.filter q = second at kept
  cases kept with
  | nil => exact .inl ⟨rfl, rfl⟩
  | cons hab _ => exact .inr ⟨_, _, rfl, rfl, hab⟩

theorem any : bs.any q = as.any p := by
  induction h with
  | nil => rfl
  | extra hb _ ih => rw [List.any_cons, rejects _ hb, Bool.false_or, ih]
  | keep hab _ ih => rw [List.any_cons, List.any_cons, agree _ _ hab, ih]

end

/-- The first result that a list gives is the same if the extra items give none. -/
theorem findSome? {γ : Type} {f : α → Option γ} {g : β → Option γ} (h : Interspersed extra r free as bs)
    (rejects : ∀ b, extra b → g b = none) (agree : ∀ a ∈ as, ∀ b, r a b → g b = f a) :
    bs.findSome? g = as.findSome? f := by
  induction h with
  | nil => rfl
  | extra hb _ ih => rw [List.findSome?_cons, rejects _ hb, ih agree]
  | keep hab _ ih =>
    have behind := ih fun a ha => agree a (List.mem_cons_of_mem _ ha)
    rw [List.findSome?_cons, List.findSome?_cons, agree _ List.mem_cons_self _ hab, behind]

end Interspersed

/-- How much of a part is read. -/
inductive Role where
  /-- What it converts to. -/
  | value
  /-- What it converts to, its type and its place. -/
  | whole
  /-- What its children convert to, its type and its place. -/
  | items
deriving DecidableEq

namespace ParseTree

/-- A node that may be put in: it has a type that leaves no node, it fills no field and holds no error. -/
structure IsComment (c : ParseTree) : Prop where
  named : c.named
  skipped : c.isSkipped
  fieldless : c.field = none
  errorFree : (c.hasError || c.missing) = false

def isDeclaration (t : ParseTree) : Bool := t.type == "variable_declaration" || t.type == "lexical_declaration"

/-- Two nodes of one type at one place of the text. -/
structure Resembles (t u : ParseTree) : Prop where
  type : u.type = t.type
  start : u.start = t.start
  stop : u.stop = t.stop
  named : u.named = t.named

/-- Types that a construct looks for among all its children. -/
def soughtTypes : List String := ["of", "optional_chain"]

/-- A node that leaves a node of the program and that no construct looks for. -/
structure Replaceable (t : ParseTree) : Prop where
  kept : t.isKept
  unsought : t.type ∉ soughtTypes

/-- The role of a child in one of some fields that are read for their values. -/
def roleIn (fields : List String) (c : ParseTree) : Role := if c.fillsAny fields then .value else .whole

/-- The role of a child in its construct. -/
def roleOf (t c : ParseTree) : Role :=
  match shape t.type with
  | .other => .value
  | .identifier | .literal | .declaration => .whole
  | .declarator => roleIn ["name", "value"] c
  | .member => roleIn ["object", "property", "index"] c
  | .call =>
    if c.field == some "arguments" && c.type != "template_string" then .items else roleIn ["function"] c
  | .assignment => roleIn ["left", "right"] c
  | .function _ => if c.field == some "parameters" then .items else roleIn ["parameter", "body"] c
  | .method => if c.field == some "parameters" then .items else roleIn ["name", "parameter"] c
  | .loop => roleIn (["right", "body"] ++ if (t.child? "kind").isSome then [] else ["left"]) c

theorem roleIn_ne_items (fields : List String) (c : ParseTree) : roleIn fields c ≠ .items := by
  unfold roleIn
  split <;> decide

theorem roleIn_of_not_mem {fields : List String} {c : ParseTree} {f : String} (hc : c.field = some f)
    (hf : f ∉ fields) : roleIn fields c = .whole := by
  rw [roleIn, fillsAny, if_neg]
  simpa [hc] using hf

/-- Only arguments and parameters are lists. -/
theorem roleOf_ne_items {t c : ParseTree} {f : String} (hc : c.field = some f)
    (hf : f ∉ ["arguments", "parameters"]) : t.roleOf c ≠ .items := by
  simp only [List.mem_cons, List.not_mem_nil, or_false, not_or] at hf
  have arguments : (c.field == some "arguments") = false := by simp [hc, hf.1]
  have parameters : (c.field == some "parameters") = false := by simp [hc, hf.2]
  unfold roleOf
  rw [arguments, parameters]
  cases shape t.type with
  | other | identifier | literal | declaration => simp
  | declarator | member | call | assignment | function | method | loop => exact roleIn_ne_items _ c

end ParseTree

/-- The roles below a node that has a role itself: the items of a list are read for their values. -/
def Role.below (role : Role) (t : ParseTree) : ParseTree → Role :=
  match role with
  | .items => fun _ => .value
  | .value | .whole => t.roleOf

theorem Role.below_eq_roleOf {role : Role} (h : role ≠ .items) (t : ParseTree) : role.below t = t.roleOf := by
  cases role with
  | items => exact absurd rfl h
  | value | whole => rfl

namespace ParseTree

theorem isDeclaration_of_shape {t : ParseTree} (h : shape t.type = .declaration) : t.isDeclaration := by
  unfold shape at h
  split at h
  · cases h
  split at h
  · cases h
  split at h
  next declares => exact declares
  repeat (split at h; cases h)
  cases h

theorem IsComment.type_ne {c : ParseTree} (h : c.IsComment) {type : String} (read : type ∉ skippedTypes) :
    (c.type == type) = false := by
  rw [beq_eq_false_iff_ne]
  rintro rfl
  exact read (List.contains_iff_mem.mp h.skipped)

theorem Resembles.location {t u : ParseTree} (same : t.Resembles u) (src : SourceBytes) :
    src.location u = src.location t := by
  rw [SourceBytes.location, SourceBytes.location, same.start, same.stop]

theorem Resembles.text {t u : ParseTree} (same : t.Resembles u) (src : SourceBytes) : src.text u = src.text t := by
  rw [SourceBytes.text, SourceBytes.text, same.start, same.stop]

theorem Replaceable.not_sought {t : ParseTree} (h : t.Replaceable) {type : String} (sought : type ∈ soughtTypes) :
    (t.type == type) = false := by
  rw [beq_eq_false_iff_ne]
  rintro rfl
  exact h.unsought sought

end ParseTree

namespace Converted

/-- Two parts that a construct cannot tell apart, given their role in it. -/
structure Alike (role : Role) (k k' : Converted) : Prop where
  tree : k.tree.Resembles k'.tree ∨ role = .value ∧ k.tree.Replaceable ∧ k'.tree.Replaceable
  node : role ≠ .items → k'.node = k.node
  parts : role = .items → k'.parts = k.parts

/-- Two parts in one field, alike in the role that the first one has. -/
structure AlikeIn (role : ParseTree → Role) (k k' : Converted) : Prop where
  field : k'.tree.field = k.tree.field
  alike : Alike (role k.tree) k k'

/-- Parts alike in their roles, with comments between them. -/
abbrev KidsAlike (role : ParseTree → Role) (free : Bool) (kids kids' : List Converted) : Prop :=
  Interspersed (fun k => k.tree.IsComment) (AlikeIn role) free kids kids'

namespace Alike

variable {role : Role} {k k' : Converted} (h : Alike role k k')

include h

theorem resembles (hrole : role ≠ .value) : k.tree.Resembles k'.tree := by
  rcases h.tree with same | ⟨hv, -⟩
  · exact same
  · exact absurd hv hrole

theorem isKept_eq : k'.tree.isKept = k.tree.isKept := by
  rcases h.tree with same | ⟨-, first, second⟩
  · rw [isKept, isKept, isSkipped, isSkipped, same.named, same.type]
  · rw [first.kept, second.kept]

theorem sought_eq {type : String} (sought : type ∈ soughtTypes) :
    (k'.tree.type == type) = (k.tree.type == type) := by
  rcases h.tree with same | ⟨-, first, second⟩
  · rw [same.type]
  · rw [first.not_sought sought, second.not_sought sought]

theorem token_eq (type : String) :
    (!k'.tree.named && k'.tree.type == type) = (!k.tree.named && k.tree.type == type) := by
  rcases h.tree with same | ⟨-, first, second⟩
  · rw [same.named, same.type]
  · rw [named_of_isKept first.kept, named_of_isKept second.kept]
    rfl

end Alike

theorem mapM_node {role : ParseTree → Role} {ks ks' : List Converted} (h : List.Forall₂ (AlikeIn role) ks ks')
    (values : ∀ c, role c ≠ .items) : ks'.mapM (·.node) = ks.mapM (·.node) := by
  induction h with
  | nil => rfl
  | cons same _ ih => rw [List.mapM_cons, List.mapM_cons, same.alike.node (values _), ih]

section

variable {role : ParseTree → Role} {free : Bool} {kids kids' : List Converted} (h : KidsAlike role free kids kids')

include h

theorem kept_alike : List.Forall₂ (AlikeIn role) (kept kids) (kept kids') := by
  apply h.filter
  · intro k passed
    simp [passed.skipped]
  · intro k k' same
    exact same.alike.isKept_eq

theorem nodes_alike (values : ∀ c, role c ≠ .items) : nodes kids' = nodes kids := mapM_node (kept_alike h) values

theorem inField?_alike (field : String) : inField? kids field = none ∧ inField? kids' field = none ∨
    ∃ k k', inField? kids field = some k ∧ inField? kids' field = some k' ∧ k.tree.field = some field ∧
      Alike (role k.tree) k k' := by
  have found : inField? kids field = none ∧ inField? kids' field = none ∨
      ∃ k k', inField? kids field = some k ∧ inField? kids' field = some k' ∧ AlikeIn role k k' := by
    apply h.find?
    · intro k passed
      rw [passed.fieldless]
      rfl
    · intro k k' same
      rw [same.field]
  rcases found with absent | ⟨k, k', first, second, same⟩
  · exact .inl absent
  · exact .inr ⟨k, k', first, second, by simpa using List.find?_some first, same.alike⟩

/-- What is read of the type and place of a part that may not be replaced. -/
theorem map_inField? {γ : Type} {g : ParseTree → γ} (agree : ∀ t u : ParseTree, t.Resembles u → g u = g t)
    {field : String} (whole : ∀ c, c.field = some field → role c ≠ .value) :
    (inField? kids' field).map (g ·.tree) = (inField? kids field).map (g ·.tree) := by
  rcases inField?_alike h field with ⟨absent, absent'⟩ | ⟨k, k', found, found', hk, same⟩
  · rw [absent, absent']
  · rw [found, found', Option.map_some, Option.map_some, agree _ _ (same.resembles (whole _ hk))]

theorem required_alike {field : String} (value : ∀ c, c.field = some field → role c ≠ .items) :
    required kids' field = required kids field := by
  rw [required, required]
  rcases inField?_alike h field with ⟨absent, absent'⟩ | ⟨k, k', found, found', hk, same⟩
  · rw [absent, absent']
  · rw [found, found']
    exact same.node (value _ hk)

theorem hasToken_alike (type : String) : hasToken kids' type = hasToken kids type := by
  apply h.any
  · intro k passed
    simp [passed.named]
  · intro k k' same
    exact same.alike.token_eq type

theorem hasChild_alike {type : String} (sought : type ∈ soughtTypes) (read : type ∉ skippedTypes) :
    hasChild kids' type = hasChild kids type := by
  apply h.any
  · intro k passed
    exact passed.type_ne read
  · intro k k' same
    exact same.alike.sought_eq sought

theorem parameters_alike (single : ∀ c, c.field = some "parameter" → role c ≠ .items)
    (list : ∀ c, c.field = some "parameters" → role c = .items) : parameters kids' = parameters kids := by
  rw [parameters, parameters]
  rcases inField?_alike h "parameter" with ⟨absent, absent'⟩ | ⟨k, k', found, found', hk, same⟩
  · rw [absent, absent']
    rcases inField?_alike h "parameters" with ⟨absent, absent'⟩ | ⟨k, k', found, found', hk, same⟩
    · rw [absent, absent']
    · rw [found, found']
      exact same.parts (list _ hk)
  · rw [found, found']
    dsimp only
    rw [same.node (single _ hk)]

theorem getD_resembles {field : String} (whole : ∀ c, c.field = some field → role c ≠ .value) {t u : ParseTree}
    (same : t.Resembles u) : (((inField? kids field).map (·.tree)).getD t).Resembles
      (((inField? kids' field).map (·.tree)).getD u) := by
  rcases inField?_alike h field with ⟨absent, absent'⟩ | ⟨k, k', found, found', hk, alike⟩
  · rw [absent, absent']
    exact same
  · rw [found, found']
    exact alike.resembles (whole _ hk)

end

/-- The keyword is the one of the first token, so nothing may stand in front of it. -/
theorem keyword_alike {role : ParseTree → Role} (whole : ∀ c, role c = .whole) {kids kids' : List Converted}
    (h : KidsAlike role false kids kids') : keyword kids' = keyword kids := by
  have type {k k' : Converted} (alike : Alike (role k.tree) k k') : k'.tree.type = k.tree.type :=
    (alike.resembles (by simp [whole])).type
  unfold keyword
  rcases inField?_alike h "kind" with ⟨absent, absent'⟩ | ⟨k, k', found, found', -, alike⟩
  · rw [absent, absent']
    cases h with
    | nil => rfl
    | keep first _ => exact type first.alike
  · rw [found, found']
    exact type alike

section Constructs

variable (src : SourceBytes) {t u : ParseTree} {free : Bool} {kids kids' : List Converted} (same : t.Resembles u)

include same

theorem literal_alike : literal src u = literal src t := by
  rw [literal, literal, same.start, same.stop, same.type, same.location src]

theorem declaration_alike (hs : shape t.type = .declaration) (h : KidsAlike t.roleOf false kids kids') :
    declaration src u kids' = declaration src t kids := by
  have whole : ∀ c, t.roleOf c = .whole := by simp [roleOf, hs]
  have declarators : List.Forall₂ (AlikeIn t.roleOf)
      (kids.filter fun k => k.tree.named && k.tree.type == "variable_declarator")
      (kids'.filter fun k => k.tree.named && k.tree.type == "variable_declarator") := by
    apply h.filter
    · intro k passed
      rw [passed.type_ne (by decide), Bool.and_false]
    · intro k k' both
      have trees := both.alike.resembles (by simp [whole])
      rw [trees.named, trees.type]
  have converted := mapM_node declarators (by simp [whole])
  rw [declaration, declaration, converted, keyword_alike whole h, same.location src]

variable (h : KidsAlike t.roleOf free kids kids')

include h

omit same in
theorem required_roleOf {field : String} (hf : field ∉ ["arguments", "parameters"]) :
    required kids' field = required kids field := by
  apply required_alike h
  intro c hc
  exact roleOf_ne_items hc hf

theorem declarator_alike : declarator src u kids' = declarator src t kids := by
  have name := required_roleOf h (show "name" ∉ ["arguments", "parameters"] by decide)
  rw [declarator, declarator, name, same.location src]
  rcases inField?_alike h "value" with ⟨absent, absent'⟩ | ⟨k, k', found, found', hk, alike⟩
  · rw [absent, absent']
  · rw [found, found', Option.mapM_some, Option.mapM_some, alike.node (roleOf_ne_items hk (by decide))]

theorem member_alike : member src u kids' = member src t kids := by
  have object := required_roleOf h (show "object" ∉ ["arguments", "parameters"] by decide)
  have index := required_roleOf h (show "index" ∉ ["arguments", "parameters"] by decide)
  have property := required_roleOf h (show "property" ∉ ["arguments", "parameters"] by decide)
  have chain := hasChild_alike h (show "optional_chain" ∈ soughtTypes by decide) (by decide)
  rw [member, member, same.type, object, chain, same.location src]
  cases t.type == "subscript_expression" with
  | true => simp only [if_true, index]
  | false => simp only [Bool.false_eq_true, if_false, property]

theorem call_alike (hs : shape t.type = .call) : call src u kids' = call src t kids := by
  have callee := required_roleOf h (show "function" ∉ ["arguments", "parameters"] by decide)
  have chain := hasChild_alike h (show "optional_chain" ∈ soughtTypes by decide) (by decide)
  rw [call, call, callee, chain, same.location src]
  rcases inField?_alike h "arguments" with ⟨absent, absent'⟩ | ⟨k, k', found, found', hk, alike⟩
  · rw [absent, absent']
  -- A template is converted itself; of any other argument list only the items are.
  have role : t.roleOf k.tree = if k.tree.type == "template_string" then .whole else .items := by
    have other : roleIn ["function"] k.tree = .whole := roleIn_of_not_mem hk (by decide)
    cases template : k.tree.type == "template_string" <;> simp [roleOf, hs, hk, bne, template, other]
  have type := (alike.resembles (by rw [role]; split <;> decide)).type
  rw [found, found']
  dsimp only
  rw [type]
  split
  next template => rw [alike.node (by rw [role, if_pos template]; decide)]
  next list => rw [alike.parts (by rw [role, if_neg list])]

theorem assignment_alike (hs : shape t.type = .assignment) : assignment src u kids' = assignment src t kids := by
  have left := required_roleOf h (show "left" ∉ ["arguments", "parameters"] by decide)
  have right := required_roleOf h (show "right" ∉ ["arguments", "parameters"] by decide)
  have operator : (inField? kids' "operator").map (src.text ·.tree) = (inField? kids "operator").map (src.text ·.tree) := by
    apply map_inField? h
    · intro v w alike
      exact alike.text src
    · intro c hc
      simp [roleOf, hs, roleIn_of_not_mem hc]
  rw [assignment, assignment, operator, left, right, same.location src]

theorem function_alike {form : FunctionForm} (hs : shape t.type = .function form) :
    function src u form kids' = function src t form kids := by
  have params : parameters kids' = parameters kids := by
    apply parameters_alike h
    · intro c hc
      exact roleOf_ne_items hc (by decide)
    · intro c hc
      simp [roleOf, hs, hc]
  have body := required_roleOf h (show "body" ∉ ["arguments", "parameters"] by decide)
  have id : (inField? kids' "name").map (fun k => Name.mk (src.location k.tree) (src.text k.tree)) =
      (inField? kids "name").map fun k => Name.mk (src.location k.tree) (src.text k.tree) := by
    refine map_inField? h (g := fun c => Name.mk (src.location c) (src.text c)) ?_ ?_
    · intro v w alike
      rw [alike.text src, alike.location src]
    · intro c hc
      simp [roleOf, hs, hc, roleIn_of_not_mem hc]
  simp only [function, id, params, body, hasToken_alike h, same.location src]

theorem method_alike (hs : shape t.type = .method) : method src u kids' = method src t kids := by
  have params : parameters kids' = parameters kids := by
    apply parameters_alike h
    · intro c hc
      exact roleOf_ne_items hc (by decide)
    · intro c hc
      simp [roleOf, hs, hc]
  have name := required_roleOf h (show "name" ∉ ["arguments", "parameters"] by decide)
  have body := required_roleOf h (show "body" ∉ ["arguments", "parameters"] by decide)
  have listRead : ∀ c, c.field = some "parameters" → t.roleOf c ≠ .value := by
    intro c hc
    simp [roleOf, hs, hc]
  have bodyRead : ∀ c, c.field = some "body" → t.roleOf c ≠ .value := by
    intro c hc
    simp [roleOf, hs, hc, roleIn_of_not_mem hc]
  have first := getD_resembles h listRead same
  have last := getD_resembles h bodyRead first
  simp only [method, params, name, body, hasToken_alike h, SourceBytes.span, first.start, last.stop,
    same.location src]

/-- Where a loop declares its variable, the place of the variable is read as well. -/
theorem forIn_alike (hs : shape t.type = .loop) (trees : kids.map (·.tree) = t.children) :
    forIn src u kids' = forIn src t kids := by
  have left := required_roleOf h (show "left" ∉ ["arguments", "parameters"] by decide)
  have right := required_roleOf h (show "right" ∉ ["arguments", "parameters"] by decide)
  have body := required_roleOf h (show "body" ∉ ["arguments", "parameters"] by decide)
  have ofLoop : isOfLoop kids' = isOfLoop kids := by
    rw [isOfLoop, isOfLoop]
    rcases inField?_alike h "operator" with ⟨absent, absent'⟩ | ⟨k, k', found, found', -, alike⟩
    · rw [absent, absent']
      exact hasChild_alike h (by decide) (by decide)
    · rw [found, found']
      exact alike.sought_eq (by decide)
  simp only [forIn, left, right, body, ofLoop, same.location src]
  rcases inField?_alike h "kind" with ⟨absent, absent'⟩ | ⟨word, word', found, found', hword, alike⟩
  · rw [absent, absent']
  have declares : (t.child? "kind").isSome := by
    rw [child?, ← trees, List.find?_map, Option.isSome_map]
    exact Option.isSome_of_eq_some found
  have keyword := alike.resembles (by simp [roleOf, hs, roleIn_of_not_mem hword])
  rw [found, found']
  rcases inField?_alike h "left" with ⟨absent, absent'⟩ | ⟨target, target', found, found', htarget, alike⟩
  · rw [absent, absent']
  have variable_ := alike.resembles (by simp [roleOf, hs, declares, roleIn_of_not_mem htarget])
  rw [found, found']
  simp only [SourceBytes.span, keyword.start, keyword.type, variable_.stop, variable_.location src]

end Constructs

/-- One case for each way a construct is read; only a declaration reads its first child. -/
theorem construct_alike (src : SourceBytes) {t u : ParseTree} {kids kids' : List Converted} (same : t.Resembles u)
    (trees : kids.map (·.tree) = t.children) (h : KidsAlike t.roleOf (!t.isDeclaration) kids kids') :
    construct src u kids' = construct src t kids := by
  rw [construct_eq, construct_eq, same.type]
  cases hs : shape t.type with
  | identifier => rw [same.location src, same.text src]
  | literal => exact literal_alike src same
  | declaration =>
    rw [isDeclaration_of_shape hs] at h
    exact declaration_alike src same hs h
  | declarator => exact declarator_alike src same h
  | member => exact member_alike src same h
  | call => exact call_alike src same h hs
  | assignment => exact assignment_alike src same h hs
  | function form => exact function_alike src same h hs
  | method => exact method_alike src same h hs
  | loop => exact forIn_alike src same h hs trees
  | other =>
    have values : ∀ c, t.roleOf c ≠ .items := by simp [roleOf, hs]
    dsimp only
    rw [nodes_alike h values, same.location src]

theorem assemble_alike (src : SourceBytes) {t u : ParseTree} {kids kids' : List Converted} (same : t.Resembles u)
    (trees : kids.map (·.tree) = t.children) (h : KidsAlike t.roleOf (!t.isDeclaration) kids kids') :
    assemble src u kids' = assemble src t kids := by
  have construct := construct_alike src same trees h
  rw [assemble, assemble, same.type, construct]
  split
  next parens =>
    have other : shape t.type = .other := by rw [beq_iff_eq.mp parens]; rfl
    have kept := kept_alike h
    generalize Converted.kept kids = ks, Converted.kept kids' = ks' at kept
    cases kept with
    | nil => rfl
    | cons inner rest =>
      cases rest with
      | nil => exact inner.alike.node (by simp [roleOf, other])
      | cons second more => rfl
  · rfl

/-- A node is alike in a role if its children are alike in the roles below it. -/
theorem alike_of_kids (src : SourceBytes) {role : Role} {t u : ParseTree} (same : t.Resembles u)
    (kids : KidsAlike (role.below t) (!t.isDeclaration) (t.children.map (converted src))
      (u.children.map (converted src))) : Alike role (t.converted src) (u.converted src) := by
  have trees : (t.children.map (converted src)).map (·.tree) = t.children := by
    simp [Function.comp_def, tree_converted]
  rw [converted_eq, converted_eq]
  refine ⟨.inl same, ?_, ?_⟩
  · intro node
    rw [Role.below_eq_roleOf node] at kids
    exact assemble_alike src same trees kids
  · rintro rfl
    exact nodes_alike kids (by simp [Role.below])

end Converted

/-- A program is the list of what its items convert to. -/
theorem Node.ofParseTree_alike (src : SourceBytes) {t u : ParseTree} (same : t.Resembles u)
    (h : Converted.Alike .items (t.converted src) (u.converted src)) : ofParseTree src u = ofParseTree src t := by
  have parts := h.parts rfl
  simp only [Converted.converted_eq] at parts
  rw [ofParseTree, ofParseTree, Converted.convertedAll_eq, Converted.convertedAll_eq, parts, same.location src]

end ScriptAudit
