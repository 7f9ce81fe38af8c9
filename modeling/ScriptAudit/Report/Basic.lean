import ScriptAudit.Finding

namespace ScriptAudit

/-- The findings in a file, or why it could not be analyzed. -/
structure FileReport where
  path : String
  findings : List Finding := []
  error : Option String := none
  source : Option String := none
deriving DecidableEq, Repr

/-- All findings of some reports. -/
def allFindings (reports : List FileReport) : List Finding := reports.flatMap (·.findings)

end ScriptAudit
