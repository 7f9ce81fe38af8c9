import ScriptAudit.Path.Basic
import ScriptAudit.Path.Glob
import ScriptAudit.Settings.Basic
import ScriptAudit.Text.Case
import ScriptAudit.Text.Search

namespace ScriptAudit

namespace Path

/-- A pattern excludes the path: the path fits it, or it names a directory on the way. -/
def excludes (pattern path : List Char) : Bool :=
  fitsPattern pattern path ||
    pattern.getLast? == some '/' && (pieces path).contains (dropSlashes pattern)

def scriptSuffixes : List String := [".js", ".mjs", ".cjs", ".jsx"]

/-- Directories that hold generated code or the code of others. -/
def skippedDirectories : List String := [
  "node_modules", ".git", "vendor", "dist", "build", ".next", "__pycache__", "bower_components",
  "jspm_packages", "coverage"]

/-- What the names of generated files hold. -/
def generatedMarks : List String := [".min.js", "-min.js", ".bundle.js", ".chunk.js"]

/-- The file is generated, by its name. -/
def isGenerated (path : List Char) : Bool :=
  let name := Text.lower (baseName path)
  generatedMarks.any fun m => Text.occurs m.toList name

/-- The file is a script, by its name. -/
def isScript (path : List Char) : Bool :=
  scriptSuffixes.any fun s => s.toList == Text.lower (suffix (baseName path))

end Path

/-- A pattern of the settings excludes the path. -/
def Settings.excludes (s : Settings) (path : String) : Bool :=
  s.excludePaths.any fun p => Path.excludes p.toList path.toList

end ScriptAudit
