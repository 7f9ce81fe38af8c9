import ScriptAudit.Clock
import ScriptAudit.Json.Basic
import ScriptAudit.Report.Counts

namespace ScriptAudit

def programVersion : String := "1.0.0"

namespace Report

def findingJson (f : Finding) : JsonValue := .object [
  ("rule", .text f.rule), ("message", .text f.message), ("line", .int f.line),
  ("column", .int f.column)]

def fileJson (r : FileReport) : JsonValue := .object [
  ("file", .text r.path),
  ("error", match r.error with
    | none => .null
    | some e => .text e),
  ("findings", .array (r.findings.map findingJson))]

def toJson (now : Moment) (reports : List FileReport) : JsonValue := .object [
  ("scan_date", .text now.stamp),
  ("scanner", .text ("devguard v" ++ programVersion)),
  ("total_findings", .int (totalFindings reports)),
  ("files", .array (reports.map fileJson)),
  ("summary", .object [
    ("by_rule", .object ((ruleCounts reports).map fun (id, n) => (id, .int n)))])]

/-- The JSON text of reports, without a line break at its end. -/
def jsonText (now : Moment) (reports : List FileReport) : String :=
  String.ofList ((toJson now reports).render 0)

end Report

end ScriptAudit
