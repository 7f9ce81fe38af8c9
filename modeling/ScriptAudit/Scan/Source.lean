import ScriptAudit.Analysis
import ScriptAudit.Report.Basic
import ScriptAudit.Script
import ScriptAudit.Suppression

namespace ScriptAudit

namespace Scan

/-- The report on a program that was read from a text. -/
def program (source path : String) (settings : Option Settings) (root : Node) : Logged FileReport := do
  let found ← analyze source root (Catalog.ofSettings settings)
  let keyword := (settings.getD {}).suppressionKeyword
  return ⟨path, unsuppressed found source keyword, none, some source⟩

/-- The report on a text. That it does not parse is part of the report; a number that has no value is not. -/
def source (source path : String) (settings : Option Settings) (stack : CallStack := {}) :
    Logged (Except ConversionFault FileReport) :=
  match Script.read source stack with
  | .ok root => do return .ok (← program source path settings root)
  | .error (.conversion fault) => return .error fault
  | .error (.parse e) => do
    Logged.log .warning ("Skipping " ++ path ++ ": " ++ e.message)
    return .ok ⟨path, [], some e.message, some source⟩

end Scan

end ScriptAudit
