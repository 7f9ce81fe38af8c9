import ScriptAudit.Finding
import ScriptAudit.Node.Basic

namespace ScriptAudit

/-- What a rule sees of a visited node. The source is there only for rules that ask for it. -/
structure Visit where
  node : Node
  parent : Option Node
  function : Option Node
  source : Option String

/-- A test of a node and the message for a node that passes it. Either has no value on a node it cannot
evaluate. -/
structure Rule where
  id : String
  title : String
  usesSource : Bool
  flags : Visit → Option Bool
  message : Visit → Option String

/-- What a rule says of a node. -/
inductive Verdict where
  | clear
  | found (finding : Finding)
  /-- The rule cannot evaluate the node. -/
  | skipped
deriving DecidableEq, Repr

namespace Verdict

def findings : Verdict → List Finding
  | found f => [f]
  | _ => []

end Verdict

namespace Rule

/-- The verdict on a node; a finding stands where the node starts. -/
def judge (r : Rule) (v : Visit) : Verdict :=
  match r.flags v with
  | none => .skipped
  | some false => .clear
  | some true =>
    match r.message v with
    | none => .skipped
    | some text =>
      let start := v.node.location.start
      .found ⟨r.id, text, start.line, start.column⟩

end Rule

end ScriptAudit
