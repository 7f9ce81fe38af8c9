import ScriptAudit.Command.Request
import ScriptAudit.Log.Logger
import ScriptAudit.Report.Plain
import ScriptAudit.Report.Terminal
import ScriptAudit.Scan.Target
import ScriptAudit.Settings.Load
import ScriptAudit.Terminal.Markup

namespace ScriptAudit.Command

/-- What breaks a run off. -/
inductive RunFault where
  | settings (f : LoadFault)
  | conversion (f : ConversionFault)
  | report (path : String) (f : PathFault)
  /-- The name of the saved report closes a tag that is not open. -/
  | markup (path : String)
  /-- Standard output lacks a character. -/
  | output
deriving DecidableEq, Repr

def RunFault.message : RunFault → String
  | settings .unwritable => "The settings hold a value that cannot be written out"
  | settings _ => "The settings hold a value without a meaning"
  | conversion .tooDeep => "A script nests too deep"
  | conversion _ => "A number of a script is out of range"
  | report path f => f.message path
  | markup path => "A tag in " ++ path ++ " closes nothing"
  | output => "A character cannot be printed"

/-- What a run rests on besides its files. -/
structure Host where
  library : Yaml.Library := {}
  stack : CallStack := {}
  screen : Terminal.Screen := {}

/-- What a scan comes to. -/
inductive Scanned where
  /-- The settings cannot be used. -/
  | noSettings
  | noTarget
  /-- The reports, and whether there were any files to look at. -/
  | reports (hasFiles : Bool) (all : List FileReport)
deriving DecidableEq, Repr

/-- What a run leaves behind. -/
structure Outcome where
  exit : Nat
  output : String
  files : FileTree

/-- The settings of a scan with some more rules disabled. -/
def withDisabled (ids : List String) (s : Option Settings) : Option Settings :=
  if ids = [] then s
  else
    let base := s.getD {}
    some { base with disabledRules := base.disabledRules ++ ids }

/-- One if there are findings, else zero. -/
def exitCode (reports : List FileReport) : Nat := if reports.any (!·.findings.isEmpty) then 1 else 0

/-- Lines as a text, each with its line break. -/
def printed (lines : List Terminal.Line) : String := String.ofList (lines.flatMap (· ++ ['\n']))

/-- Lines as standard output takes them. -/
def shown (screen : Terminal.Screen) (lines : List Terminal.Line) : Except RunFault String :=
  if lines.all (·.all screen.takes) then .ok (printed lines) else .error .output

theorem shown_of_all {screen : Terminal.Screen} (h : ∀ c, screen.takes c) (lines : List Terminal.Line) :
    shown screen lines = .ok (printed lines) :=
  if_pos (List.all_eq_true.mpr fun _ _ => List.all_eq_true.mpr fun c _ => h c)

/-- The width of the terminal. -/
def width : Nat := 80

/-- Standard error, where log lines go. -/
def logConsole : Console := ⟨2, width⟩

namespace Request

/-- The calls on the logger in a run: it is set up before anything is logged. -/
def logCalls (r : Request) (records : List Record) : List LogCall :=
  .configure r.verbose logConsole :: records.map (.record [])

/-- What a run logs, on a logger that it found as it is at first. -/
def logged (r : Request) (records : List Record) : List Printed :=
  (Logger.outputs {} {} (r.logCalls records)).flatten

/-- Loads the settings and scans the target. -/
def scan (r : Request) (t : FileTree) (host : Host := {}) : Logged (Except RunFault Scanned) := do
  match ← Settings.load t r.target r.config host.library with
  | .error f =>
    match f.message? with
    | some m =>
      Logged.log .error m
      return .ok .noSettings
    | none => return .error (.settings f)
  | .ok found =>
    let settings := withDisabled r.disabled found
    match ← Scan.target t r.target settings host.stack with
    | .error (.noTarget target) =>
      Logged.log .error (target ++ " does not exist")
      return .ok .noTarget
    | .error (.conversion f) => return .error (.conversion f)
    | .ok all =>
      return .ok (.reports ((Scan.collect t r.target settings).any (!·.isEmpty)) all)

/-- The file that the report is saved to. -/
def reportFile? (r : Request) : Option String := r.outputFile.filter (· != "")

/-- The banner, if it is wanted. -/
def bannerLines (r : Request) : List Terminal.Line :=
  if r.noBanner || r.format == .json then [] else Report.banner width

/-- What says that the report is saved, with the tags of its style. -/
def savedText (path : String) : List Char :=
  "\n[bold green]Report saved to ".toList ++ path.toList ++ "[/bold green]".toList

/-- What is printed once the report is saved. The name of the file is not protected from being read as tags. -/
def savedLines? (screen : Terminal.Screen) (path : String) : Option (List Terminal.Line) :=
  (Terminal.render screen (savedText path)).map (Terminal.wrap width)

/-- Saves a report. -/
def save (t : FileTree) (path text : String) : Except RunFault FileTree :=
  match t.write path.toList (Text.Utf8.encode text.toList) with
  | .ok t => .ok t
  | .error f => .error (.report path f)

/-- Puts reports out as JSON, to a file or else to standard output, which has all characters of such a text. -/
def publishJson (r : Request) (t : FileTree) (now : Moment) (all : List FileReport) : Except RunFault Outcome := do
  let text := Report.jsonText now all
  match r.reportFile? with
  | some path => return ⟨exitCode all, "", ← save t path text⟩
  | none => return ⟨exitCode all, text ++ "\n", t⟩

/-- The lines of a report on the terminal. -/
def reportLines (r : Request) (now : Moment) (elapsed : Number.Double) (hasFiles : Bool) (all : List FileReport) :
    List Terminal.Line :=
  r.bannerLines ++ (if hasFiles then [[]] else []) ++ Report.terminalLines width all r.target elapsed now

/-- Prints reports, and saves them as plain text if a file is given. -/
def publishText (r : Request) (t : FileTree) (now : Moment) (elapsed : Number.Double) (screen : Terminal.Screen)
    (hasFiles : Bool) (all : List FileReport) : Except RunFault Outcome := do
  let report ← shown screen (r.reportLines now elapsed hasFiles all)
  match r.reportFile? with
  | none => return ⟨exitCode all, report, t⟩
  | some path =>
    let saved ← save t path (Report.plainText all)
    match savedLines? screen path with
    | none => .error (.markup path)
    | some lines => return ⟨exitCode all, report ++ (← shown screen lines), saved⟩

/-- Puts out what a scan came to. -/
def publish (r : Request) (t : FileTree) (now : Moment) (elapsed : Number.Double) (screen : Terminal.Screen) :
    Scanned → Except RunFault Outcome
  | .noSettings => .ok ⟨2, "", t⟩
  | .noTarget => do return ⟨2, ← shown screen r.bannerLines, t⟩
  | .reports hasFiles all =>
    match r.format with
    | .json => r.publishJson t now all
    | .text => r.publishText t now elapsed screen hasFiles all

/-- The whole run. -/
def run (r : Request) (t : FileTree) (now : Moment) (elapsed : Number.Double) (host : Host := {}) :
    Logged (Except RunFault Outcome) := do
  return (← r.scan t host).bind (r.publish t now elapsed host.screen)

end Request

end ScriptAudit.Command
