import ScriptAudit.Files.Basic
import ScriptAudit.Path.Selection

namespace ScriptAudit

namespace Scan

/-- The names come in the order of their characters. -/
def nameLe (a b : String) : Bool := !(b < a)

/-- The entry at a path is a directory, or a link that leads to one. -/
def isDirectory (t : FileTree) (path : List Char) : Entry → Bool
  | .file _ => false
  | .directory _ => true
  | .link _ => (t.directory? path).isSome

/-- The scripts right in a directory, by name. -/
def scriptNames (t : FileTree) (path : List Char) (entries : List (String × Entry)) : List String :=
  let files := (entries.filter fun (n, e) => !isDirectory t (Path.join path n.toList) e).map (·.1)
  (files.filter fun n => Path.isScript n.toList && !Path.isGenerated n.toList).mergeSort nameLe

mutual

/-- The paths of the scripts below an entry, given its own path. Those right in a directory come first. -/
def scripts (t : FileTree) (path : List Char) : Entry → List (List Char)
  | .file _ | .link _ => []
  | .directory entries =>
    (scriptNames t path entries).map (fun n => Path.join path n.toList) ++
      ((scriptsIn t path entries).mergeSort fun a b => nameLe a.1 b.1).flatMap (·.2)

/-- The scripts below each directory of a listing, except the skipped ones. -/
def scriptsIn (t : FileTree) (path : List Char) :
    List (String × Entry) → List (String × List (List Char))
  | [] => []
  | (name, e) :: rest =>
    let more := scriptsIn t path rest
    if Path.skippedDirectories.contains name then more
    else (name, scripts t (Path.join path name.toList) e) :: more

end

/-- The files to scan for a target; none if there is no such target. -/
def collect (t : FileTree) (target : String) (settings : Option Settings) : Option (List String) :=
  let path := Path.tidy target.toList
  let kept (p : String) : Bool := !settings.any (·.excludes p)
  if t.isFile path then some ([String.ofList path].filter kept)
  else (t.directory? path).map fun (_, entries) =>
    ((scripts t path (.directory entries)).map String.ofList).filter kept

end Scan

end ScriptAudit
