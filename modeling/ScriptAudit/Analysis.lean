import ScriptAudit.Log.Record
import ScriptAudit.Node.Walk
import ScriptAudit.Rule.Catalog
import ScriptAudit.Text.Lines

namespace ScriptAudit

namespace Rule

/-- What the rule is shown of a step. -/
def view (r : Rule) (source : String) (s : Step) : Visit where
  node := s.node
  parent := s.parent.map (·.node)
  function := s.function.map (·.node)
  source := if r.usesSource then some source else none

/-- The findings of a rule at a step; a node that it cannot evaluate is logged. -/
def apply (r : Rule) (source : String) (s : Step) : Logged (List Finding) := do
  let verdict := r.judge (r.view source s)
  if verdict = .skipped then
    Logged.log .debug <| "Rule " ++ r.id ++ " skipped " ++ s.node.kind ++ " at line " ++
      toString s.node.location.start.line
  return verdict.findings

end Rule

/-- Records what each rule finds at a step. -/
def Catalog.visit (catalog : Catalog) (source : String) (s : Step) (c : Collector) : Logged Collector :=
  match catalog with
  | [] => pure c
  | r :: rest => do Catalog.visit rest source s (c.recordAll (← r.apply source s))

/-- Records what the rules find at some steps. -/
def Catalog.visitAll (catalog : Catalog) (source : String) (steps : List Step) (c : Collector) : Logged Collector :=
  match steps with
  | [] => pure c
  | s :: rest => do Catalog.visitAll catalog source rest (← catalog.visit source s c)

/-- The findings of a catalog in a program, and how many there are of how many rules. -/
def analyze (source : String) (root : Node) (catalog : Catalog) : Logged (List Finding) := do
  let collector ← catalog.visitAll source root.walk .empty
  Logged.log .debug <|
    toString collector.size ++ " finding(s) from " ++ toString catalog.length ++ " rule(s)"
  return collector.results

/-- The number of lines of a text; an empty line at the end does not count, unless it is the only one. -/
def lineCount (source : List Char) : Nat :=
  let lines := Text.lines source
  if 1 < lines.length && lines.getLast? == some [] then lines.length - 1 else lines.length

end ScriptAudit
