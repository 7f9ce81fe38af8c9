import ScriptAudit.ParseTree.Basic

namespace ScriptAudit.ParseTree

mutual

/-- The first node that is an error; subtrees whose root has no error flag are passed over. -/
def firstError? : ParseTree → Option ParseTree
  | ⟨type, start, stop, named, missing, hasError, field, children⟩ =>
    if type == "ERROR" || missing then
      some ⟨type, start, stop, named, missing, hasError, field, children⟩
    else firstErrorIn? children

def firstErrorIn? : List ParseTree → Option ParseTree
  | [] => none
  | child :: rest =>
    if child.hasError || child.missing then
      match firstError? child with
      | some found => some found
      | none => firstErrorIn? rest
    else firstErrorIn? rest

end

end ScriptAudit.ParseTree
