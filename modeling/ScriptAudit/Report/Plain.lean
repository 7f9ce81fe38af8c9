import ScriptAudit.Report.Counts

namespace ScriptAudit.Report

/-- What a plain report says, one after the other. -/
inductive PlainEntry where
  | failure (path error : String)
  | finding (path : String) (f : Finding)
deriving DecidableEq, Repr

namespace PlainEntry

def text : PlainEntry → String
  | failure path error => path ++ ": parse error: " ++ error ++ "\n"
  | finding path f =>
    path ++ ":" ++ toString f.line ++ ":" ++ toString f.column ++ ": [" ++ f.rule ++ "] " ++ f.message ++
      "\n"

def isFinding : PlainEntry → Bool
  | failure .. => false
  | finding .. => true

end PlainEntry

/-- A plain report as far as it is written, with the number of findings so far. -/
structure PlainReport where
  entries : Array PlainEntry
  total : Nat

namespace PlainReport

def empty : PlainReport := ⟨#[], 0⟩

def addFinding (path : String) (p : PlainReport) (f : Finding) : PlainReport :=
  ⟨p.entries.push (.finding path f), p.total + 1⟩

def addFailure (p : PlainReport) (r : FileReport) : PlainReport :=
  if r.failed then { p with entries := p.entries.push (.failure r.path (r.error.getD "")) } else p

def addFile (p : PlainReport) (r : FileReport) : PlainReport :=
  r.findings.foldl (addFinding r.path) (p.addFailure r)

def ofReports (reports : List FileReport) : PlainReport := reports.foldl addFile empty

def totalLine (p : PlainReport) : String := "\nTotal findings: " ++ toString p.total ++ "\n"

def text (p : PlainReport) : String := String.join (p.entries.toList.map (·.text)) ++ p.totalLine

end PlainReport

/-- The plain text of reports. -/
def plainText (reports : List FileReport) : String := (PlainReport.ofReports reports).text

end ScriptAudit.Report
