import ScriptAudit.ParseTree.Basic

namespace ScriptAudit

namespace ParseTree

mutual

/-- How many nodes stand above each other in a tree. -/
def levels : ParseTree → Nat
  | ⟨_, _, _, _, _, _, _, children⟩ => levelsOf children + 1

def levelsOf : List ParseTree → Nat
  | [] => 0
  | t :: rest => max t.levels (levelsOf rest)

end

end ParseTree

/-- The calls that can be nested in each other. How many a tree takes depends on the kinds of its nodes, and how many
there may be on what runs the program. -/
structure CallStack where
  /-- There is room to look for the first error of a tree that has one, and else to convert the tree until it is done or
  a number has no value. -/
  holds : ParseTree → Bool := fun _ => true

namespace CallStack

/-- All trees of at most `n` levels have room. -/
def HasLevels (stack : CallStack) (n : Nat) : Prop := ∀ t : ParseTree, t.levels ≤ n → stack.holds t = true

/-- The stack with room for `n` levels and not for more. -/
def ofLevels (n : Nat) : CallStack := ⟨fun t => t.levels ≤ n⟩

theorem hasLevels_ofLevels (n : Nat) : (ofLevels n).HasLevels n := fun _ h => decide_eq_true h

end CallStack

end ScriptAudit
