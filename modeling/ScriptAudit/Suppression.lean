import ScriptAudit.Finding
import ScriptAudit.Text.Blank
import ScriptAudit.Text.Lines
import ScriptAudit.Text.Word

namespace ScriptAudit

namespace Suppression

/-- The text starts with a keyword, behind any number of blanks, and no word goes on behind it. `last` is
the character before the text. -/
def startsKeyword (keyword : List Char) (last : Char) : List Char → Bool
  | [] => keyword.isEmpty && Text.isBoundary (some last) none
  | c :: rest =>
    keyword.isPrefixOf (c :: rest) &&
        Text.isBoundary (some (keyword.getLastD last)) ((c :: rest).drop keyword.length).head? ||
      Text.isBlank c && startsKeyword keyword c rest

/-- The text starts with a comment that starts with a keyword. -/
def startsMark (keyword : List Char) : List Char → Bool
  | '/' :: '/' :: rest => startsKeyword keyword '/' rest
  | '/' :: '*' :: rest => startsKeyword keyword '*' rest
  | _ => false

/-- A comment of the line starts with a keyword. -/
def marks (keyword : List Char) : List Char → Bool
  | [] => false
  | c :: rest => startsMark keyword (c :: rest) || marks keyword rest

/-- The line of a number, if there is one. -/
def line? (lines : List (List Char)) (n : Int) : Option (List Char) :=
  if 0 < n then lines[n.toNat - 1]? else none

/-- The line of a number carries a mark. -/
def suppresses (keyword : List Char) (lines : List (List Char)) (n : Int) : Bool :=
  (line? lines n).any (marks keyword)

end Suppression

/-- The findings whose line does not suppress them. -/
def unsuppressed (findings : List Finding) (source keyword : String) : List Finding :=
  let lines := Text.lines source.toList
  findings.filter fun f => !Suppression.suppresses keyword.toList lines f.line

end ScriptAudit
