import ScriptAudit.Files.Content
import ScriptAudit.Rule.Catalog
import ScriptAudit.Settings.Basic
import ScriptAudit.Yaml.Shown

namespace ScriptAudit

/-- Why settings cannot be loaded. -/
inductive LoadFault where
  | missing (path : String)
  | malformed (path : String)
  | notMapping (path : String)
  /-- The bytes of the file are no text. -/
  | undecodable
  /-- A value of the file has no meaning. -/
  | value (fault : Yaml.Fault)
  /-- A value of the file cannot be written out. -/
  | unwritable
deriving DecidableEq, Repr

/-- What users are told; a fault of a single value has no message of its own. -/
def LoadFault.message? : LoadFault → Option String
  | missing path => some ("Config file not found: " ++ path)
  | malformed path => some ("Cannot load " ++ path)
  | notMapping path => some (path ++ ": top level must be a mapping")
  | undecodable | value _ | unwritable => none

namespace Settings

open Yaml

/-- The entries at the top of a document, which must be a mapping; a document that holds nothing has none. -/
def topEntries? (d : Option Document) : Option (List (Value × Value)) :=
  match d with
  | none => some []
  | some doc =>
    if doc.root.isSomething then
      match doc.root with
      | .map _ entries => some entries
      | _ => none
    else some []

/-- The value of a key. -/
def lookup? (key : String) (entries : List (Value × Value)) : Option Value :=
  (entries.find? fun (k, _) => match k with
    | .scalar (.text s) => s == key
    | _ => false).map (·.2)

/-- What loading works on: how values are shown, and the entries of the file. -/
structure Source where
  document : Document
  entries : List (Value × Value)

namespace Source

/-- The value of a key, an alias followed. -/
def get? (s : Source) (key : String) : Option Value := (lookup? key s.entries).map s.document.target

def shown (s : Source) (v : Value) : String := String.ofList (s.document.shown v)

def toText (s : Source) (v : Value) : String := String.ofList (s.document.toText v)

/-- A whole number that is not negative; anything else is logged and counts as absent. -/
def threshold (s : Source) (key : String) (absent : Int) : Logged Int :=
  match s.get? key with
  | none => return absent
  | some v => do
    let number? := match v with
      | .scalar (.int i) => if 0 ≤ i then some i else none
      | _ => none
    match number? with
    | some i => return i
    | none =>
      Logged.log .warning ("Ignoring invalid " ++ key ++ ": " ++ s.shown v)
      return absent

/-- A list of texts; anything else but nothing is logged. -/
def texts? (s : Source) (key : String) : Logged (Option (List String)) :=
  match s.get? key with
  | none | some (.scalar .null) => return none
  | some (.list _ items) => return some (items.map s.toText)
  | some v => do
    Logged.log .warning ("Ignoring " ++ key ++ ": expected a list, got " ++ s.shown v)
    return none

end Source

/-- Logs the ids that no rule has. -/
def logUnknown (path : String) : List String → Logged Unit
  | [] => return
  | id :: rest => do
    if !Catalog.ids.contains id then
      Logged.log .warning ("Unknown rule id in " ++ path ++ ": " ++ id)
    logUnknown path rest

/-- The settings that a file holds. -/
def ofSource (path : String) (s : Source) : Logged Settings := do
  let base : Settings := {}
  let disabled ← s.texts? "disabled_rules"
  logUnknown path (disabled.getD [])
  let maxParams ← s.threshold "max_params" base.maxParams
  let maxFunctionLines ← s.threshold "max_function_lines" base.maxFunctionLines
  let debugCalls ← s.texts? "debug_calls"
  let excludePaths ← s.texts? "exclude_paths"
  let keyword := ((s.get? "suppression_keyword").map s.toText).getD base.suppressionKeyword
  Logged.log .debug ("Loaded config from " ++ path)
  return {
    disabledRules := disabled.getD base.disabledRules
    maxParams := maxParams
    maxFunctionLines := maxFunctionLines
    debugCalls := debugCalls.getD base.debugCalls
    excludePaths := excludePaths.getD base.excludePaths
    suppressionKeyword := keyword
    sourcePath := some path }

/-- What is expected of the value of a key. -/
inductive Kind where
  | threshold
  | texts
  | text
deriving DecidableEq

namespace Kind

/-- The values that become texts if a value is taken for one of the kind. -/
def taken : Kind → Value → List Value
  | threshold, _ => []
  | texts, .list _ items => items
  | texts, _ => []
  | text, v => [v]

/-- The values that a message shows if a value is taken for one of the kind. -/
def logged : Kind → Value → List Value
  | threshold, .scalar (.int i) => if 0 ≤ i then [] else [.scalar (.int i)]
  | threshold, v => [v]
  | texts, .scalar .null | texts, .list _ _ => []
  | texts, v => [v]
  | text, _ => []

end Kind

/-- The keys in the order in which they are read. -/
def keys : List (String × Kind) := [
  ("disabled_rules", .texts), ("max_params", .threshold), ("max_function_lines", .threshold),
  ("debug_calls", .texts), ("exclude_paths", .texts), ("suppression_keyword", .text)]

namespace Source

/-- What the value of a key is used for can be done. -/
def isUsable (library : Library) (s : Source) (key : String × Kind) : Bool :=
  (s.get? key.1).all fun v =>
    (key.2.taken v).all (library.writes s.document) && (key.2.logged v).all (library.logs s.document)

/-- The entries of some keys only. -/
def only (s : Source) (names : List String) : Source :=
  { s with entries := s.entries.filter fun e => names.any fun n => (lookup? n [e]).isSome }

end Source

/-- The settings that a file holds. The first key with a value that cannot be written out ends the reading, and what was
logged for those before it stays. -/
def readSource (library : Library) (path : String) (s : Source) : Logged (Except LoadFault Settings) :=
  if keys.all (s.isUsable library) then do return .ok (← ofSource path s)
  else
    let good := keys.takeWhile (s.isUsable library)
    ⟨.error .unwritable, (ofSource path (s.only (good.map (·.1)))).records.dropLast⟩

/-- The settings of a file with some bytes. -/
def ofBytes (path : String) (bytes : List UInt8) (library : Library := {}) : Logged (Except LoadFault Settings) :=
  match Text.Utf8.decode? bytes with
  | none => return .error .undecodable
  | some text =>
    match library.load (Text.lineFeeds text) with
    | .error .malformed => return .error (.malformed path)
    | .error f => return .error (.value f)
    | .ok d =>
      match topEntries? d with
      | none => return .error (.notMapping path)
      | some entries => readSource library path ⟨d.getD ⟨.scalar .null, []⟩, entries⟩

/-- The settings of a file. -/
def ofFile (t : FileTree) (path : List Char) (library : Library := {}) : Logged (Except LoadFault Settings) :=
  match t.read path with
  | .error _ => return .error (.malformed (String.ofList path))
  | .ok bytes => ofBytes (String.ofList path) bytes library

def fileNames : List String := [".devguard.yml", ".devguard.yaml"]

/-- A directory and those above it, the nearest first. -/
def upward (dir : List Char) : List (List Char) :=
  let parent := Path.dirName dir
  if parent = dir then [dir] else dir :: upward parent
termination_by dir.length
decreasing_by exact Path.length_dirName_lt ‹_›

/-- The files that may hold the settings for a target, in the order of preference. -/
def candidates (t : FileTree) (target : String) : List (List Char) :=
  let path := Path.absolute t.workPath target.toList
  let start := if t.isFile path then Path.dirName path else path
  (upward start).flatMap fun dir => fileNames.map fun n => Path.join dir n.toList

/-- The settings for a target: those of a given file, or of the nearest file above the target. -/
def load (t : FileTree) (target : String) (given : Option String) (library : Library := {}) :
    Logged (Except LoadFault (Option Settings)) := do
  match given.filter (· != "") with
  | some path =>
    if t.isFile path.toList then return (← ofFile t path.toList library).map some
    else return .error (.missing path)
  | none =>
    match (candidates t target).find? (t.isFile ·) with
    | none => return .ok none
    | some path => return (← ofFile t path library).map some

end Settings

end ScriptAudit
