import ScriptAudit.Location

namespace ScriptAudit

/-- A node of a parse tree. `hasError` says that the tree below holds an error. -/
structure ParseTree where
  type : String
  start : Mark
  stop : Mark
  named : Bool
  missing : Bool
  hasError : Bool
  field : Option String
  children : List ParseTree
deriving Inhabited

namespace ParseTree

/-- A node that has an error iff it is one, or it is missing, or a child has one. -/
def build (type : String) (start stop : Mark) (named missing : Bool) (field : Option String)
    (children : List ParseTree) : ParseTree where
  type := type
  start := start
  stop := stop
  named := named
  missing := missing
  hasError := type == "ERROR" || missing || children.any (·.hasError)
  field := field
  children := children

/-- The node put into a field of its parent. -/
def inField (t : ParseTree) (name : String) : ParseTree := { t with field := some name }

/-- The first child in a field. -/
def child? (t : ParseTree) (name : String) : Option ParseTree :=
  t.children.find? (·.field == some name)

def namedChildren (t : ParseTree) : List ParseTree := t.children.filter (·.named)

/-- The node is itself an error. -/
def isError (t : ParseTree) : Bool := t.type == "ERROR" || t.missing

end ParseTree

end ScriptAudit
