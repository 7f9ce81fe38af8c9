import ScriptAudit.Rule.Catalog

namespace ScriptAudit.Command

/-- What may be given beside the target. -/
inductive Switch where
  | help
  | verbose
  | output
  | outputFile
  | config
  | disable
  | noBanner
deriving DecidableEq, Repr

namespace Switch

def all : List Switch := [help, verbose, output, outputFile, config, disable, noBanner]

/-- The letter of a short name. -/
def letter? : Switch → Option Char
  | help => some 'h'
  | verbose => some 'v'
  | outputFile => some 'o'
  | output | config | disable | noBanner => none

def longName : Switch → String
  | help => "--help"
  | verbose => "--verbose"
  | output => "--output"
  | outputFile => "--output-file"
  | config => "--config"
  | disable => "--disable"
  | noBanner => "--no-banner"

/-- All names of a switch, as messages show them. -/
def title (s : Switch) : String :=
  match s.letter? with
  | some c => "-" ++ c.toString ++ "/" ++ s.longName
  | none => s.longName

def takesValue : Switch → Bool
  | output | outputFile | config | disable => true
  | help | verbose | noBanner => false

/-- The values that a switch may have, unless it may have any. -/
def choices? : Switch → Option (List String)
  | output => some ["text", "json"]
  | disable => some Catalog.ids
  | _ => none

def ofLetter? (c : Char) : Option Switch := all.find? (·.letter? == some c)

/-- The switch with a long name. -/
def ofLongName? (name : String) : Option Switch := all.find? (·.longName == name)

/-- The switches whose long names start with a text. -/
def startingWith (text : List Char) : List Switch :=
  all.filter fun s => text.isPrefixOf s.longName.toList

end Switch

end ScriptAudit.Command
