import ScriptAudit.Clock
import ScriptAudit.Number.Fixed
import ScriptAudit.Number.Text
import ScriptAudit.Report.Json
import ScriptAudit.Terminal.Panel

namespace ScriptAudit.Report

open Terminal

/-- The name of the program, above all else. -/
def banner (width : Nat) : List Line :=
  let title := ("DevGuard v" ++ programVersion ++ "\nJavaScript code anomaly detector").toList
  panel doubleFrame width 0 2 none (fun w => centered w (wrap w title)) ++ [[]]

/-- What is scanned, and when. -/
def infoPanel (width : Nat) (target : String) (now : Moment) : List Line :=
  let text := "Target: " ++ target ++ "  Date: " ++ now.date ++ " " ++ now.time
  panel roundFrame width 0 1 (some (.center, "Scan Info".toList)) fun w =>
    centered w (wrap w text.toList)

/-- Columns in the ratio of three to one; the first one is rounded up. -/
def columns (width : Nat) : Nat × Nat :=
  let key := (3 * width + 3) / 4
  (key, width - key)

/-- Lines put beside each other in two columns. Each cell has a blank on either side, and what does not fit
ends in dots. -/
def tableRow (width : Nat) (key value : List Char) : List Line :=
  let (k, v) := columns width
  let cell (w : Nat) (l : Line) : Line := ' ' :: fit (w - 2) (abridge (w - 2) (dropExcess (w - 2) l)) ++ [' ']
  let keys := (Text.lines (key.filter fun c => !isControl c)).map (expandTabs 8 0)
  let values := value :: List.replicate (keys.length - 1) []
  (keys.zip values).map fun (a, b) => cell k a ++ cell v b

def number (n : Nat) : List Char := Nat.toDigits 10 n

/-- The rows of the statistics. -/
def statistics (reports : List FileReport) (elapsed : Number.Double) : List (List Char × List Char) :=
  let counts := ranked (ruleCounts reports)
  [("Files Scanned".toList, number reports.length),
    ("Parse Errors".toList, number (reports.filter (·.failed)).length),
    ("Total Findings".toList, number (totalFindings reports)),
    ("Scan Time".toList, elapsed.fixedText 2 ++ ['s'])] ++
    (if counts.isEmpty then [] else [([], [])]) ++
    counts.map fun (id, n) => (id.toList, number n)

def statisticsPanel (width : Nat) (reports : List FileReport) (elapsed : Number.Double) : List Line :=
  panel roundFrame width 1 1 (some (.center, "Scan Statistics".toList)) fun w =>
    (statistics reports elapsed).flatMap fun (k, v) => tableRow w k v

/-- Some items from an index on, up to another one; an end below zero counts from the back. -/
def window {α : Type} (items : List α) (start : Nat) (stop : Int) : List α :=
  let stop := if stop < 0 then (items.length + stop).toNat else stop.toNat
  (items.take stop).drop start

/-- The lines around a line of a source: the index of the first, and the lines. -/
def snippet (source : List Char) (line : Int) : Nat × List (List Char) :=
  let lines := Text.lines source
  let start := (line - 2).toNat
  (start, window lines start (min (lines.length : Int) (line + 1)))

/-- Tabs as blanks up to the next column that is a multiple of `size`, where each character takes one
column. -/
def expandTabsByChar (size column : Nat) : List Char → List Char
  | [] => []
  | c :: rest =>
    if c = '\t' then
      let n := size - column % size
      blanks n ++ expandTabsByChar size (column + n) rest
    else if c = '\n' || c = '\r' then c :: expandTabsByChar size 0 rest
    else c :: expandTabsByChar size (column + 1) rest

/-- The lines of code as they are shown. -/
def codeLines (code : List Char) : List Line :=
  let ended := code.getLast? == some '\n'
  let whole := Text.lineFeeds (expandTabsByChar 4 0 (if ended then code else code ++ ['\n']))
  let lines := Text.lines ((if whole.head? == some '\ufeff' then whole.drop 1 else whole).filter
    fun c => !isControl c)
  if ended then lines else lines.dropLast

/-- Code with line numbers and a mark at one line, cropped to a width. -/
def numbered (width : Nat) (first : Nat) (marked : Int) (code : List Char) : List Line :=
  let digits := (number (first + code.count '\n')).length
  (codeLines code).zipIdx.map fun (l, i) =>
    let n := first + i
    let mark := if (n : Int) = marked then "❱ ".toList else blanks 2
    let shown := number n
    mark ++ blanks (digits - shown.length) ++ shown ++ ' ' :: crop (width - digits - 3) l

/-- The box of a finding: its message and the lines around it. -/
def findingPanel (width : Nat) (f : Finding) (source : Option String) : List Line :=
  let title := " ".toList ++ f.rule.toList ++ "  Line ".toList ++ Number.intText f.line ++ " ".toList
  panel roundFrame width 0 1 (some (.left, title)) fun w =>
    let message := wrap w f.message.toList
    match source with
    | none => message
    | some text =>
      if text.isEmpty then message
      else
        let (start, lines) := snippet text.toList f.line
        message ++ [] :: numbered w (start + 1) f.line (Text.joinWith ['\n'] lines)

/-- The boxes of a file with findings. -/
def filePanels (width : Nat) (r : FileReport) : List Line :=
  if r.findings.isEmpty then []
  else wrap width ("FILE: " ++ r.path).toList ++
    r.findings.flatMap (fun f => findingPanel width f r.source) ++ [[]]

def errorLines (width : Nat) (r : FileReport) : List Line :=
  if r.failed then wrap width ("PARSE ERROR: " ++ r.path ++ ": " ++ r.error.getD "").toList else []

/-- All lines of a report. -/
def terminalLines (width : Nat) (reports : List FileReport) (target : String)
    (elapsed : Number.Double) (now : Moment) : List Line :=
  infoPanel width target now ++ statisticsPanel width reports elapsed ++ [[]] ++
    reports.flatMap (errorLines width) ++
    (if totalFindings reports = 0 then
      panel roundFrame width 1 4 none fun w => centered w (wrap w "No anomalies found.".toList)
    else ruleLine width "Anomalies".toList :: reports.flatMap (filePanels width))

end ScriptAudit.Report
