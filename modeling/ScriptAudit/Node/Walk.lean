import ScriptAudit.Node.Basic

namespace ScriptAudit

/-- An ancestor of a visited node, with its number in the order of visits. -/
structure Ancestor where
  ordinal : Nat
  node : Node

/-- A node with its parent and the nearest function around it. -/
structure Step where
  node : Node
  parent : Option Ancestor
  function : Option Ancestor

namespace Step

def root (n : Node) : Step := ⟨n, none, none⟩

/-- The steps to the children of a step that is visited as number `ordinal`. -/
def below (s : Step) (ordinal : Nat) : List Step :=
  let here : Ancestor := ⟨ordinal, s.node⟩
  let inner := if s.node.isFunction then some here else s.function
  s.node.children.map fun child => ⟨child, some here, inner⟩

end Step

namespace Walk

/-- The nodes still below a stack of steps. -/
def pending (stack : List Step) : Nat := Node.sizeAll (stack.map (·.node))

theorem pending_below (s : Step) (ordinal : Nat) (rest : List Step) :
    pending (s.below ordinal ++ rest) < pending (s :: rest) := by
  have h := Node.size_eq s.node
  have comp : (fun x : Step => x.node) ∘ (fun child : Node =>
      (⟨child, some ⟨ordinal, s.node⟩,
        if s.node.isFunction then some ⟨ordinal, s.node⟩ else s.function⟩ : Step)) = id := rfl
  simp only [pending, Step.below, List.map_append, List.map_map, List.map_cons,
    Node.sizeAll_append, Node.sizeAll, comp, List.map_id]
  omega

/-- The stack with the children of a step on top: they are put there one by one, the last child first. -/
def push (s : Step) (ordinal : Nat) (stack : List Step) : List Step :=
  (s.below ordinal).reverse.foldl (fun stack child => child :: stack) stack

/-- The first child comes to lie on top. -/
theorem push_eq (s : Step) (ordinal : Nat) (stack : List Step) : push s ordinal stack = s.below ordinal ++ stack := by
  rw [push, List.foldl_reverse, List.foldr_cons_eq_append']

/-- The steps still to take, the next one first; `ordinal` counts the ones taken. -/
def run (ordinal : Nat) : List Step → List Step
  | [] => []
  | s :: rest => s :: run (ordinal + 1) (push s ordinal rest)
termination_by stack => pending stack
decreasing_by
  rw [push_eq]
  exact pending_below s ordinal rest

@[simp] theorem run_nil (ordinal : Nat) : run ordinal [] = [] := by rw [run]

theorem run_cons (ordinal : Nat) (s : Step) (rest : List Step) :
    run ordinal (s :: rest) = s :: run (ordinal + 1) (s.below ordinal ++ rest) := by
  rw [run, push_eq]

end Walk

/-- All steps of a walk over a tree. -/
def Node.walk (root : Node) : List Step := Walk.run 0 [Step.root root]

end ScriptAudit
