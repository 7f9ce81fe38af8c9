import ScriptAudit.Path.Basic
import ScriptAudit.Text.Quoted

namespace ScriptAudit

/-- What a name in a directory stands for. The entries of a directory are in the order of its listing. -/
inductive Entry where
  | file (bytes : List UInt8)
  | link (target : String)
  | directory (entries : List (String × Entry))
deriving Inhabited

namespace Entry

def empty : Entry := .directory []

def child? (name : String) : Entry → Option Entry
  | directory entries => entries.lookup name
  | _ => none

/-- What a list of names leads to; links are not followed. -/
def at? (e : Entry) : List String → Option Entry
  | [] => some e
  | name :: rest => (e.child? name).bind (at? · rest)

/-- The entries with one put in place of its namesake, or behind all others. -/
def putEntry (name : String) (e : Entry) : List (String × Entry) → List (String × Entry)
  | [] => [(name, e)]
  | (n, old) :: rest => if n = name then (n, e) :: rest else (n, old) :: putEntry name e rest

/-- The tree with an entry put where names lead to; directories on the way are made. -/
def put (new : Entry) : List String → Entry → Entry
  | [], _ => new
  | name :: rest, e =>
    let entries := match e with
      | directory es => es
      | _ => []
    .directory (putEntry name (put new rest ((entries.lookup name).getD empty)) entries)

/-- The tree without what names lead to. -/
def erase : List String → Entry → Entry
  | [], e => e
  | [name], directory entries => .directory (entries.filter (·.1 != name))
  | name :: rest, directory entries =>
    .directory (entries.map fun (n, e) => if n = name then (n, erase rest e) else (n, e))
  | _, e => e

end Entry

/-- Why a path leads to no file. -/
inductive PathFault where
  | missing
  | notDirectory
  | isDirectory
  | tooManyLinks
deriving DecidableEq, Repr

namespace PathFault

def code : PathFault → Nat
  | missing => 2
  | notDirectory => 20
  | isDirectory => 21
  | tooManyLinks => 40

def reason : PathFault → String
  | missing => "No such file or directory"
  | notDirectory => "Not a directory"
  | isDirectory => "Is a directory"
  | tooManyLinks => "Too many levels of symbolic links"

def message (f : PathFault) (path : String) : String :=
  "[Errno " ++ toString f.code ++ "] " ++ f.reason ++ ": " ++ String.ofList (Text.quoted path.toList)

end PathFault

/-- All files, and the names that lead to the working directory. -/
structure FileTree where
  root : Entry
  work : List String

/-- Where a path leads to. -/
inductive Located where
  | entry (names : List String) (e : Entry)
  /-- All but the last name is there. -/
  | absent (names : List String)

namespace FileTree

/-- The path of the working directory. -/
def workPath (t : FileTree) : List Char := '/' :: Text.joinWith ['/'] (t.work.map (·.toList))

/-- Follows the pieces of a path from a directory, and at most `links` links. The last piece is not followed
if it is kept. -/
def follow (root : Entry) (keepLast : Bool) (links : Nat) (here : List String)
    (path : List (List Char)) : Except PathFault Located :=
  match path with
  | [] =>
    match root.at? here with
    | some e => .ok (.entry here e)
    | none => .error .missing
  | piece :: rest =>
    match root.at? here with
    | some (.directory entries) =>
      if piece = [] ∨ piece = ['.'] then follow root keepLast links here rest
      else if piece = ['.', '.'] then follow root keepLast links here.dropLast rest
      else
        let name := String.ofList piece
        match entries.lookup name with
        | none => if rest = [] then .ok (.absent (here ++ [name])) else .error .missing
        | some (.link target) =>
          if keepLast && rest.isEmpty then .ok (.entry (here ++ [name]) (.link target))
          else match links with
            | 0 => .error .tooManyLinks
            | n + 1 =>
              let start := if Path.isAbsolute target.toList then [] else here
              follow root keepLast n start (Path.pieces target.toList ++ rest)
        | some _ => follow root keepLast links (here ++ [name]) rest
    | some _ => .error .notDirectory
    | none => .error .missing
termination_by (links, path.length)

def linkLimit : Nat := 40

/-- Where a path leads to from the working directory. -/
def locate (t : FileTree) (keepLast : Bool) (path : List Char) : Except PathFault Located :=
  if path = [] then .error .missing
  else follow t.root keepLast linkLimit (if Path.isAbsolute path then [] else t.work) (Path.pieces path)

/-- The bytes of a file. -/
def read (t : FileTree) (path : List Char) : Except PathFault (List UInt8) := do
  match ← t.locate false path with
  | .entry _ (.file bytes) => return bytes
  | .entry _ (.directory _) => .error .isDirectory
  | .entry _ (.link _) | .absent _ => .error .missing

def isFile (t : FileTree) (path : List Char) : Bool := (t.read path).isOk

/-- The directory that a path leads to, with the names that lead there. -/
def directory? (t : FileTree) (path : List Char) : Option (List String × List (String × Entry)) :=
  match t.locate false path with
  | .ok (.entry names (.directory entries)) => some (names, entries)
  | _ => none

/-- The tree with bytes written to a file, which is made if its directory is there. -/
def write (t : FileTree) (path : List Char) (bytes : List UInt8) : Except PathFault FileTree := do
  match ← t.locate false path with
  | .entry _ (.directory _) => .error .isDirectory
  | .entry names _ | .absent names => return { t with root := Entry.put (.file bytes) names t.root }

/-- The tree without a file or a link. -/
def remove (t : FileTree) (path : List Char) : Except PathFault FileTree := do
  match ← t.locate true path with
  | .entry _ (.directory _) => .error .isDirectory
  | .entry names _ => return { t with root := Entry.erase names t.root }
  | .absent _ => .error .missing

/-- The tree with an entry at a path below the working directory; directories on the way are made. -/
def install (t : FileTree) (path : String) (e : Entry) : FileTree :=
  let names := (Path.pieces (Path.absolute t.workPath path.toList)).filter (!·.isEmpty)
  { t with root := Entry.put e (names.map String.ofList) t.root }

end FileTree

end ScriptAudit
