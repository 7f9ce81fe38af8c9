import ScriptAudit.Text.CaseTable
import ScriptAudit.Text.Ranges

namespace ScriptAudit.Text

private def shifted? (runs : List CaseRun) (n : Nat) : Option Nat :=
  (runs.find? fun r => r.first ≤ n && n ≤ r.last && (n - r.first) % r.stride == 0).map
    fun r => (Int.ofNat n + r.shift).toNat

private def expanded? (table : List (Nat × List Nat)) (n : Nat) : Option (List Char) :=
  (table.find? (·.1 == n)).map fun e => e.2.map Char.ofNat

/-- The lower case of a character wherever it stands. -/
def lowerChar (c : Char) : List Char :=
  if c.toNat < 0x80 then [c.toLower]
  else (expanded? lowerExpansions c.toNat).getD [((shifted? lowerRuns c.toNat).map Char.ofNat).getD c]

/-- The upper case of a character. -/
def upperChar (c : Char) : List Char :=
  if c.toNat < 0x80 then [c.toUpper]
  else (expanded? upperExpansions c.toNat).getD [((shifted? upperRuns c.toNat).map Char.ofNat).getD c]

/-- The title case of a character: the form it takes at the start of a word. -/
def titleChar (c : Char) : List Char :=
  if c.toNat < 0x80 then [c.toUpper]
  else if inRanges ownTitleRanges c.toNat then [c]
  else (expanded? titleExceptions c.toNat).getD (upperChar c)

/-- The nearest character that is not looked through is cased. -/
private def nextIsCased (s : List Char) : Bool :=
  match s.dropWhile fun c => inRanges caseIgnorableRanges c.toNat with
  | [] => false
  | c :: _ => inRanges casedRanges c.toNat

private def sigma : Char := 'Σ'

private def lowerAfter (before : List Char) : List Char → List Char
  | [] => []
  | c :: rest =>
    let low :=
      if c == sigma then (if nextIsCased before && !nextIsCased rest then ['ς'] else ['σ'])
      else lowerChar c
    low ++ lowerAfter (c :: before) rest

/-- The lower case of a text. -/
def lower (s : List Char) : List Char := lowerAfter [] s

/-- The first character in title case, the others in lower case. -/
def capitalize : List Char → List Char
  | [] => []
  | c :: rest => titleChar c ++ lowerAfter [c] rest

end ScriptAudit.Text
