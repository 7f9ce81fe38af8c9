import ScriptAudit.Command.Switch
import ScriptAudit.Text.Lines
import ScriptAudit.Text.Quoted

namespace ScriptAudit.Command

/-- What is wrong with a command line. -/
inductive UsageFault where
  | ambiguous (word : String) (switches : List Switch)
  | noValue (s : Switch)
  /-- A switch without a value has one attached. -/
  | needlessValue (s : Switch) (value : String)
  | badChoice (s : Switch) (value : String)
  | noTarget
  | unrecognized (words : List String)
deriving DecidableEq, Repr

namespace UsageFault

def quoted (s : String) : String := String.ofList (Text.quoted s.toList)

def message : UsageFault → String
  | ambiguous word switches =>
    "ambiguous option: " ++ word ++ " could match " ++ ", ".intercalate (switches.map (·.longName))
  | noValue s => "argument " ++ s.title ++ ": expected one argument"
  | needlessValue s value => "argument " ++ s.title ++ ": ignored explicit argument " ++ quoted value
  | badChoice s value =>
    "argument " ++ s.title ++ ": invalid choice: " ++ quoted value ++ " (choose from " ++
      ", ".intercalate ((s.choices?.getD []).map quoted) ++ ")"
  | noTarget => "the following arguments are required: target"
  | unrecognized words => "unrecognized arguments: " ++ " ".intercalate words

/-- The line that reports the fault. -/
def line (f : UsageFault) : String := "devguard: error: " ++ f.message

end UsageFault

/-- The form of a call. -/
def usage : String :=
  "usage: devguard [-h] [-v] [--output \x7btext,json\x7d] [-o OUTPUT_FILE]\n" ++
  "                [--config CONFIG] [--disable RULE] [--no-banner]\n" ++
  "                target\n"

/-- What the program tells about itself. -/
def helpText : String := usage ++
  "\n" ++
  "DevGuard - JavaScript code anomaly detector\n" ++
  "\n" ++
  "positional arguments:\n" ++
  "  target                File or directory to scan\n" ++
  "\n" ++
  "options:\n" ++
  "  -h, --help            show this help message and exit\n" ++
  "  -v, --verbose         Verbose output\n" ++
  "  --output \x7btext,json\x7d  Output format\n" ++
  "  -o OUTPUT_FILE, --output-file OUTPUT_FILE\n" ++
  "                        Save report to file\n" ++
  "  --config CONFIG       Path to .devguard.yml config file\n" ++
  "  --disable RULE        Disable a rule (repeatable): missing-initializer,\n" ++
  "                        unsafe-member-access, nested-callback, debug-\n" ++
  "                        statement, legacy-declaration, excess-parameters,\n" ++
  "                        oversized-function, magic-number\n" ++
  "  --no-banner           Suppress banner\n"

end ScriptAudit.Command
