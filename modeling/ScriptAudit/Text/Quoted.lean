import ScriptAudit.Text.Hex
import ScriptAudit.Text.Printable

namespace ScriptAudit.Text

/-- Single quotes, unless the text holds some and no double ones. -/
def quoteFor (s : List Char) : Char := if s.contains '\'' && !s.contains '"' then '"' else '\''

/-- A backslash, a letter and some hexadecimal digits. -/
def hexEscape (letter : Char) (width n : Nat) : List Char := '\\' :: letter :: hexDigits width n

/-- How a character is written between quotes. -/
def escapeIn (quote c : Char) : List Char :=
  if c == '\\' || c == quote then ['\\', c]
  else if c == '\t' then ['\\', 't']
  else if c == '\n' then ['\\', 'n']
  else if c == '\r' then ['\\', 'r']
  else if isPrintable c then [c]
  else if c.toNat < 0x100 then hexEscape 'x' 2 c.toNat
  else if c.toNat < 0x10000 then hexEscape 'u' 4 c.toNat
  else hexEscape 'U' 8 c.toNat

/-- The text between quotes. -/
def quoted (s : List Char) : List Char :=
  let quote := quoteFor s
  quote :: s.flatMap (escapeIn quote) ++ [quote]

/-- How a byte is written between quotes. -/
def escapeByte (quote : Char) (b : UInt8) : List Char :=
  if b.toNat < 0x7F then escapeIn quote (Char.ofNat b.toNat) else hexEscape 'x' 2 b.toNat

/-- Bytes between quotes. -/
def quotedBytes (bytes : List UInt8) : List Char :=
  let quote := quoteFor (bytes.map fun b => Char.ofNat b.toNat)
  'b' :: quote :: bytes.flatMap (escapeByte quote) ++ [quote]

end ScriptAudit.Text
