import ScriptAudit.Text.Lines

namespace ScriptAudit.Path

/-- The pieces between slashes. -/
def pieces (p : List Char) : List (List Char) := Text.splitOn '/' p

/-- What follows the last slash. -/
def baseName (p : List Char) : List Char := (pieces p).getLastD []

/-- The text without slashes at its end. -/
def dropSlashes (p : List Char) : List Char := (p.reverse.dropWhile (· == '/')).reverse

/-- What comes before the last slash; slashes at its end go too, unless there is nothing else. -/
def dirName (p : List Char) : List Char :=
  let head := (p.reverse.dropWhile (· != '/')).reverse
  if head.all (· == '/') then head else dropSlashes head

theorem isPrefix_dropSlashes (p : List Char) : dropSlashes p <+: p := by
  have dropped := (List.dropWhile_suffix (l := p.reverse) (· == '/')).reverse
  rwa [List.reverse_reverse] at dropped

theorem isPrefix_dirName (p : List Char) : dirName p <+: p := by
  have dropped := (List.dropWhile_suffix (l := p.reverse) (· != '/')).reverse
  rw [List.reverse_reverse] at dropped
  unfold dirName
  dsimp only
  split
  · exact dropped
  · exact (isPrefix_dropSlashes _).trans dropped

/-- A path that is not its own parent is longer than it, so going up comes to an end. -/
theorem length_dirName_lt {p : List Char} (h : dirName p ≠ p) : (dirName p).length < p.length :=
  Nat.lt_of_le_of_ne (isPrefix_dirName p).length_le fun same => h ((isPrefix_dirName p).eq_of_length same)

def isAbsolute (p : List Char) : Bool := p.head? == some '/'

/-- A path under a directory; an absolute path stays what it is. -/
def join (dir p : List Char) : List Char :=
  if isAbsolute p then p
  else if dir.isEmpty || dir.getLast? == some '/' then dir ++ p
  else dir ++ '/' :: p

/-- The slashes a path starts with: exactly two are kept, more are one. -/
def root (p : List Char) : List Char :=
  match p.takeWhile (· == '/') with
  | [] => []
  | ['/', '/'] => ['/', '/']
  | _ => ['/']

/-- The path without empty pieces and points; the empty path is the point. -/
def tidy (p : List Char) : List Char :=
  let parts := (pieces p).filter fun c => !c.isEmpty && c != ['.']
  let whole := root p ++ Text.joinWith ['/'] parts
  if whole.isEmpty then ['.'] else whole

/-- Steps to a parent cancel the piece before them; at the root they go away. -/
def cancelParents (absolute : Bool) (done : List (List Char)) : List (List Char) → List (List Char)
  | [] => done.reverse
  | c :: rest =>
    if c = "..".toList then
      match done with
      | [] => if absolute then cancelParents absolute [] rest else cancelParents absolute [c] rest
      | d :: ds =>
        if d = "..".toList then cancelParents absolute (c :: d :: ds) rest
        else cancelParents absolute ds rest
    else cancelParents absolute (c :: done) rest

/-- The absolute path, seen from a working directory, without steps to a parent. -/
def absolute (work p : List Char) : List Char :=
  let whole := join work p
  let parts := (pieces whole).filter fun c => !c.isEmpty && c != ['.']
  let result := root whole ++ Text.joinWith ['/'] (cancelParents (isAbsolute whole) [] parts)
  if result.isEmpty then ['.'] else result

/-- The part of a name from its last point on, if something stands on either side of it. -/
def suffix (name : List Char) : List Char :=
  let tail := (name.reverse.takeWhile (· != '.')).reverse
  let stem := name.length - tail.length
  if tail.isEmpty || stem ≤ 1 then [] else '.' :: tail

end ScriptAudit.Path
