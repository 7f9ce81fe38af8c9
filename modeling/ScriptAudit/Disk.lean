import ScriptAudit.Command.Run

namespace ScriptAudit.Disk

/-- The bytes of a file, if it can be read. -/
def bytes? (path : String) : IO (Option (List UInt8)) := do
  try
    return some (← IO.FS.readBinFile path).toList
  catch _ => return none

def isDirectory (path : String) : IO Bool := do
  try
    (← IO.FS.realPath path).isDir
  catch _ => return false

/-- A file, whose bytes matter only if it is a script. What cannot be read is a link that leads nowhere. -/
def file (path : String) : IO Entry := do
  if !Path.isScript path.toList then return .file []
  return match ← bytes? path with
    | some bytes => .file bytes
    | none => .link path

/-- The names in a directory; none if it cannot be listed. -/
def listing (path : String) : IO (Array IO.FS.DirEntry) := do
  try
    (← IO.FS.realPath path).readDir
  catch _ => return #[]

/-- All that is below a directory, except what a scan skips. Links to directories are not entered. -/
partial def directory (path : String) : IO Entry := do
  let mut entries := #[]
  for e in ← listing path do
    let inner := e.path.toString
    let entry ← match (← e.path.symlinkMetadata).type with
      | .dir => if Path.skippedDirectories.contains e.fileName then pure Entry.empty else directory inner
      | .symlink => if ← isDirectory inner then pure (.link "/") else file inner
      | _ => file inner
    entries := entries.push (e.fileName, entry)
  return .directory entries.toList

/-- The tree with what stands at a path of the disk, all that is below it included. -/
def addTarget (t : FileTree) (path : String) : IO FileTree := do
  if ← isDirectory path then return t.install path (← directory path)
  return match ← bytes? path with
    | some bytes => t.install path (.file bytes)
    | none => t

/-- The tree with a file of the disk. -/
def addFile (t : FileTree) (path : String) : IO FileTree := do
  return match ← bytes? path with
    | some bytes => t.install path (.file bytes)
    | none => t

/-- The tree with a directory of the disk, unless it is there already. -/
def addDirectory (t : FileTree) (path : String) : IO FileTree := do
  if (t.directory? path.toList).isSome then return t
  return if ← isDirectory path then t.install path .empty else t

/-- What a run for a request may read, and where it may write. -/
def snapshot (r : Command.Request) : IO FileTree := do
  let work := (← IO.currentDir).toString
  let names := ((Path.pieces work.toList).filter (!·.isEmpty)).map String.ofList
  let t ← addTarget ⟨.empty, names⟩ r.target
  let t ← addDirectory t work
  let t ← (Settings.candidates t r.target).foldlM (fun t p => addFile t (String.ofList p)) t
  let t ← r.config.elim (pure t) (addFile t)
  match r.reportFile? with
  | none => return t
  | some path =>
    let t ← addDirectory t path
    addDirectory t (String.ofList (Path.dirName (Path.absolute work.toList path.toList)))

/-- Writes the report that a run has saved in its tree. -/
def save (r : Command.Request) (o : Command.Outcome) : IO Unit :=
  match r.reportFile? with
  | none => return
  | some path =>
    match o.files.read path.toList with
    | .ok bytes => if o.exit = 2 then return else IO.FS.writeBinFile path ⟨bytes.toArray⟩
    | .error _ => return

end ScriptAudit.Disk
