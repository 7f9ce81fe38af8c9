import ScriptAudit.Files.Basic
import ScriptAudit.Log.Record
import ScriptAudit.Text.Lines
import ScriptAudit.Text.Utf8

namespace ScriptAudit

/-- The text of bytes: UTF-8, or else each byte a character. Line breaks of every kind are line feeds. -/
def textOfBytes (bytes : List UInt8) : List Char :=
  Text.lineFeeds <|
    match Text.Utf8.decode? bytes with
    | some s => s
    | none => bytes.map fun b => Char.ofNat b.toNat

/-- The text of a file. A file that cannot be opened is logged. -/
def FileTree.readText (t : FileTree) (path : String) : Logged (Option String) :=
  match t.read path.toList with
  | .ok bytes => return some (String.ofList (textOfBytes bytes))
  | .error f => do
    Logged.log .warning ("Cannot read " ++ path ++ ": " ++ f.message path)
    return none

end ScriptAudit
