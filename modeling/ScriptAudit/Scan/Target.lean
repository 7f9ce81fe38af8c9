import ScriptAudit.Files.Content
import ScriptAudit.Scan.Collect
import ScriptAudit.Scan.Source

namespace ScriptAudit

/-- Why a scan does not come to its end. -/
inductive ScanFault where
  | noTarget (target : String)
  | conversion (fault : ConversionFault)
deriving DecidableEq, Repr

namespace Scan

/-- The report on a file; none if it cannot be read. -/
def file (t : FileTree) (path : String) (settings : Option Settings) (stack : CallStack := {}) :
    Logged (Except ConversionFault (Option FileReport)) := do
  match ← t.readText path with
  | none => return .ok none
  | some text => return (← Scan.source text path settings stack).map some

/-- The reports on some files; the first one that is not converted ends the scan. -/
def files (t : FileTree) (settings : Option Settings) (paths : List String) (stack : CallStack := {}) :
    Logged (Except ConversionFault (List FileReport)) :=
  match paths with
  | [] => return .ok []
  | path :: rest => do
    match ← file t path settings stack with
    | .error f => return .error f
    | .ok report => return (← files t settings rest stack).map (report.toList ++ ·)

/-- The reports on a target, in the order of its files. -/
def target (t : FileTree) (target : String) (settings : Option Settings) (stack : CallStack := {}) :
    Logged (Except ScanFault (List FileReport)) := do
  match collect t target settings with
  | none => return .error (.noTarget target)
  | some paths =>
    match ← files t settings paths stack with
    | .error f => return .error (.conversion f)
    | .ok reports =>
      Logged.log .debug ("Scanned " ++ toString reports.length ++ " file(s)")
      return .ok reports

end Scan

end ScriptAudit
