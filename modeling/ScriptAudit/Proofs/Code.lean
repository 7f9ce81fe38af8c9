import ScriptAudit.Proofs.TreeShape
import ScriptAudit.Proofs.WalkOrder

namespace ScriptAudit

namespace Node

/-- The nodes that a walk visits. -/
def visited (n : Node) : List Node := n.walk.map (·.node)

/-- The node is a literal, a member access, a call or a function. -/
def isCode : Node → Bool
  | literal .. | member .. | call .. | function .. => true
  | _ => false

/-- The code that a walk visits. -/
def code (n : Node) : List Node := n.visited.filter isCode

theorem nodes_below (s : Step) (k : Nat) : (s.below k).map (·.node) = s.node.children := by
  simp [Step.below, Function.comp_def]

/-- Which nodes are visited depends on the nodes of the stack alone. -/
theorem nodes_run_congr (k j : Nat) (a b : List Step) (h : a.map (·.node) = b.map (·.node)) :
    (Walk.run k a).map (·.node) = (Walk.run j b).map (·.node) := by
  induction hp : Walk.pending a using Nat.strong_induction_on generalizing k j a b with
  | _ size ih =>
    cases a with
    | nil =>
      obtain rfl : b = [] := by simpa using h.symm
      simp
    | cons s rest =>
      cases b with
      | nil => simp at h
      | cons t more =>
        have node : s.node = t.node := (List.cons.inj h).1
        have nodes : rest.map (·.node) = more.map (·.node) := (List.cons.inj h).2
        have fewer := Walk.pending_cons s rest k
        have below : (s.below k ++ rest).map (·.node) = (t.below j ++ more).map (·.node) := by
          rw [List.map_append, List.map_append, nodes_below, nodes_below, node, nodes]
        rw [Walk.run_cons, Walk.run_cons, List.map_cons, List.map_cons, node,
          ih _ (by omega) (k + 1) (j + 1) _ _ below rfl]

theorem nodes_run (k : Nat) (steps : List Step) :
    (Walk.run k steps).map (·.node) = steps.flatMap fun s => s.node.visited := by
  induction steps generalizing k with
  | nil => simp
  | cons s rest ih =>
    have first : (Walk.run k [s]).map (·.node) = s.node.visited :=
      nodes_run_congr k 0 [s] [Step.root s.node] rfl
    rw [← List.singleton_append, Walk.run_append, List.map_append, first, ih]
    rfl

/-- A walk visits a node and then what its children visit. -/
theorem visited_eq (n : Node) : n.visited = n :: n.children.flatMap visited := by
  rw [visited, walk, Walk.run_cons, List.append_nil, List.map_cons, nodes_run]
  simp [Step.below, Step.root, List.flatMap_map]

theorem code_eq (n : Node) :
    n.code = (if n.isCode then [n] else []) ++ n.children.flatMap code := by
  rw [code, visited_eq, List.filter_cons, List.filter_flatMap]
  split <;> rfl

@[simp] theorem code_identifier (n : Name) : (identifier n).code = [] := by
  rw [code_eq]; rfl

@[simp] theorem code_literal (l : Location) (v : LiteralValue) (raw : String) :
    (literal l v raw).code = [literal l v raw] := by
  rw [code_eq]; rfl

@[simp] theorem code_program (l : Location) (body : List Node) :
    (program l body).code = body.flatMap code := by
  rw [code_eq]; rfl

@[simp] theorem code_generic (l : Location) (kind : String) (nodes : List Node) :
    (generic l kind nodes).code = nodes.flatMap code := by
  rw [code_eq]; rfl

@[simp] theorem code_declaration (l : Location) (keyword : String) (declarations : List Node) :
    (declaration l keyword declarations).code = declarations.flatMap code := by
  rw [code_eq]; rfl

@[simp] theorem code_declarator (l : Location) (id : Node) (init : Option Node) :
    (declarator l id init).code = id.code ++ init.toList.flatMap code := by
  rw [code_eq]; rfl

@[simp] theorem code_member (l : Location) (object property : Node) (computed optional : Bool) :
    (member l object property computed optional).code =
      member l object property computed optional :: (object.code ++ property.code) := by
  rw [code_eq]; simp [isCode, children]

@[simp] theorem code_call (l : Location) (callee : Node) (arguments : List Node) (optional : Bool) :
    (call l callee arguments optional).code =
      call l callee arguments optional :: (callee.code ++ arguments.flatMap code) := by
  rw [code_eq]; rfl

@[simp] theorem code_assignment (l : Location) (operator : String) (left right : Node) :
    (assignment l operator left right).code = left.code ++ right.code := by
  rw [code_eq]; simp [isCode, children]

@[simp] theorem code_function (l : Location) (form : FunctionForm) (id : Option Name)
    (params : List Node) (body : Node) (isAsync generator : Bool) :
    (function l form id params body isAsync generator).code =
      function l form id params body isAsync generator :: (params.flatMap code ++ body.code) := by
  rw [code_eq]
  cases id <;> simp [isCode, children]

end Node

namespace ParseTree

/-- The node is code of its own; a method is listed apart. -/
def isCode (t : ParseTree) : Bool :=
  match shape t.type with
  | .literal | .member | .function _ => true
  | .call => !(t.child? "arguments").any (·.type == "template_string")
  | _ => false

/-- The child is left out of the program: a decorator of a method, or the first value of a variable that
a loop runs over a collection. -/
def leavesOut (t c : ParseTree) : Bool :=
  match shape t.type with
  | .method => c.field == some "decorator"
  | .loop => c.field == some "value"
  | _ => false

/-- The code that a node is, in front of its children. -/
def ownCode (t : ParseTree) : List ParseTree := if t.isCode then [t] else []

/-- A method's function starts at its parameters, behind its name. -/
def methodAt (t c : ParseTree) : List ParseTree :=
  if shape t.type = .method ∧ c.field = some "parameters" then [t] else []

mutual

/-- The code of a tree, without the children that `out` names. -/
def codeWithout (out : ParseTree → ParseTree → Bool) : ParseTree → List ParseTree
  | ⟨type, start, stop, named, missing, hasError, field, children⟩ =>
    let t := ⟨type, start, stop, named, missing, hasError, field, children⟩
    ownCode t ++ codeWithoutIn out t children

def codeWithoutIn (out : ParseTree → ParseTree → Bool) (parent : ParseTree) :
    List ParseTree → List ParseTree
  | [] => []
  | c :: rest =>
    (if c.isKept then methodAt parent c ++ if out parent c then [] else codeWithout out c else []) ++
      codeWithoutIn out parent rest

end

/-- All code of a tree. -/
def code (t : ParseTree) : List ParseTree := t.codeWithout fun _ _ => false

/-- The code of a tree that the program takes over. -/
def readCode (t : ParseTree) : List ParseTree := t.codeWithout leavesOut

mutual

/-- The parts of a tree that are left out of the program. -/
def omissions : ParseTree → List ParseTree
  | ⟨type, start, stop, named, missing, hasError, field, children⟩ =>
    omissionsIn ⟨type, start, stop, named, missing, hasError, field, children⟩ children

def omissionsIn (parent : ParseTree) : List ParseTree → List ParseTree
  | [] => []
  | c :: rest =>
    (if c.isKept then if leavesOut parent c then [c] else omissions c else []) ++ omissionsIn parent rest

end

theorem codeWithoutIn_eq (out : ParseTree → ParseTree → Bool) (parent : ParseTree)
    (all : List ParseTree) :
    codeWithoutIn out parent all = (all.filter isKept).flatMap fun c =>
      methodAt parent c ++ if out parent c then [] else c.codeWithout out := by
  induction all with
  | nil => rfl
  | cons c rest ih => cases h : c.isKept <;> simp [codeWithoutIn, ih, h]

theorem codeWithout_eq (out : ParseTree → ParseTree → Bool) (t : ParseTree) :
    t.codeWithout out = t.ownCode ++ t.keptChildren.flatMap fun c =>
      methodAt t c ++ if out t c then [] else c.codeWithout out := by
  rw [keptChildren, ← codeWithoutIn_eq]
  cases t
  rw [codeWithout]

theorem omissionsIn_eq (parent : ParseTree) (all : List ParseTree) :
    omissionsIn parent all = (all.filter isKept).flatMap fun c =>
      if leavesOut parent c then [c] else c.omissions := by
  induction all with
  | nil => rfl
  | cons c rest ih => cases h : c.isKept <;> simp [omissionsIn, ih, h]

theorem omissions_eq (t : ParseTree) :
    t.omissions = t.keptChildren.flatMap fun c => if leavesOut t c then [c] else c.omissions := by
  rw [keptChildren, ← omissionsIn_eq]
  cases t
  rw [omissions]

/-- What is read comes in the order of all code. -/
theorem readCode_sublist (t : ParseTree) : t.readCode.Sublist t.code := by
  induction t using ParseTree.induction with
  | step t ih =>
    rw [readCode, code, codeWithout_eq, codeWithout_eq]
    refine List.Sublist.append_left ?_ _
    have each : ∀ c ∈ t.keptChildren, c.readCode.Sublist c.code := fun c hc =>
      ih c (mem_keptChildren.mp hc).1
    generalize t.keptChildren = all at each
    induction all with
    | nil => exact List.Sublist.refl _
    | cons c rest next =>
      rw [List.flatMap_cons, List.flatMap_cons]
      refine List.Sublist.append ?_ (next fun d hd => each d (List.mem_cons_of_mem c hd))
      refine List.Sublist.append_left ?_ _
      cases h : leavesOut t c with
      | true => exact List.nil_sublist _
      | false => exact each c List.mem_cons_self

/-- What is not read is the code of the parts that are left out. -/
theorem length_code (t : ParseTree) :
    t.code.length = t.readCode.length + (t.omissions.flatMap code).length := by
  induction t using ParseTree.induction with
  | step t ih =>
    rw [readCode, code, codeWithout_eq, codeWithout_eq, omissions_eq, List.length_append,
      List.length_append, Nat.add_assoc]
    congr 1
    have each : ∀ c ∈ t.keptChildren,
        c.code.length = c.readCode.length + (c.omissions.flatMap code).length := fun c hc =>
      ih c (mem_keptChildren.mp hc).1
    generalize t.keptChildren = all at each
    induction all with
    | nil => rfl
    | cons c rest next =>
      have here := each c List.mem_cons_self
      have there := next fun d hd => each d (List.mem_cons_of_mem c hd)
      simp only [List.flatMap_cons, List.flatMap_append, List.length_append] at there ⊢
      rw [there]
      cases h : leavesOut t c with
      | true => simp [code]; omega
      | false => simp [code, readCode] at here ⊢; omega

/-- All code is read exactly if the parts that are left out hold none. -/
theorem readCode_eq_code_iff (t : ParseTree) :
    t.readCode = t.code ↔ ∀ part ∈ t.omissions, part.code = [] := by
  have count := t.length_code
  have empty : (t.omissions.flatMap code).length = 0 ↔ ∀ part ∈ t.omissions, part.code = [] := by
    rw [List.length_eq_zero_iff, List.flatMap_eq_nil_iff]
  rw [← empty]
  constructor
  · intro h
    rw [h] at count
    omega
  · intro h
    exact t.readCode_sublist.eq_of_length (by omega)

end ParseTree

end ScriptAudit
