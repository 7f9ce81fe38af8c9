import ScriptAudit.Text.Search

namespace ScriptAudit.Path

/-- A part of a pattern. -/
inductive Glob where
  | star
  /-- One character in one of the ranges, or in none of them. -/
  | one (inside : Bool) (ranges : List (Char × Char))
deriving DecidableEq, Repr

namespace Glob

def any : Glob := .one false []

def char (c : Char) : Glob := .one true [(c, c)]

/-- What stands in brackets and what follows them. A bracket that closes at once belongs to the set. -/
def bracket? (s : List Char) : Option (List Char × List Char) :=
  let mark := if s.head? == some '!' then ['!'] else []
  let behind := s.drop mark.length
  let first := if behind.head? == some ']' then [']'] else []
  let rest := behind.drop first.length
  match rest.dropWhile (· != ']') with
  | [] => none
  | _ :: after => some (mark ++ first ++ rest.takeWhile (· != ']'), after)

/-- The pieces of a set between the hyphens that make a range. A hyphen among the first `lead` characters
of a piece makes none. -/
def pieces : Nat → List Char → List Char → List (List Char)
  | _, piece, [] => [piece]
  | lead + 1, piece, c :: rest => pieces lead (piece ++ [c]) rest
  | 0, piece, c :: rest =>
    if c = '-' then piece :: pieces 2 [] rest else pieces 0 (piece ++ [c]) rest

/-- A hyphen at the end makes no range. -/
def closeLast : List (List Char) → List (List Char)
  | [p, []] => [p ++ ['-']]
  | p :: ps => p :: closeLast ps
  | [] => []

/-- Ranges that hold no character go away with both their ends. -/
def dropEmpty : List (List Char) → List (List Char)
  | [] => []
  | p :: ps =>
    match dropEmpty ps with
    | [] => [p]
    | q :: qs =>
      match p.getLast?, q.head? with
      | some low, some high => if high < low then (p.dropLast ++ q.tail) :: qs else p :: q :: qs
      | _, _ => p :: q :: qs

/-- The pieces in a row, with `none` for the hyphens between them. -/
def joined : List (List Char) → List (Option Char)
  | [] => []
  | [p] => p.map some
  | p :: ps => p.map some ++ none :: joined ps

/-- The ranges of a set. A hyphen with nothing before it stands for itself. -/
def spans : List (Option Char) → List (Char × Char)
  | some low :: none :: some high :: rest => (low, high) :: spans rest
  | c :: rest => (c.getD '-', c.getD '-') :: spans rest
  | [] => []

/-- The set written in brackets; it is a complement if it starts with `!`. -/
def set (body : List Char) : Glob :=
  let lead := if body.head? == some '!' then 2 else 1
  match joined (dropEmpty (closeLast (pieces lead [] body))) with
  | some '!' :: rest => .one false (spans rest)
  | all => .one true (spans all)

theorem bracket?_length {s body after : List Char} (h : bracket? s = some (body, after)) :
    after.length < s.length := by
  simp only [bracket?] at h
  split at h
  · simp at h
  · next c tail hs =>
    simp only [Option.some.injEq, Prod.mk.injEq] at h
    obtain ⟨-, rfl⟩ := h
    have le := (List.dropWhile_suffix (p := (· != ']'))
      (l := ((s.drop (if s.head? == some '!' then ['!'] else []).length).drop
        (if (s.drop (if s.head? == some '!' then ['!'] else []).length).head? == some ']'
          then [']'] else []).length))).length_le
    rw [hs] at le
    simp only [List.length_cons, List.length_drop] at le
    omega

/-- The parts of a pattern. A bracket that is never closed stands for itself. -/
def parse (s : List Char) : List Glob :=
  match s with
  | [] => []
  | c :: rest =>
    if c = '*' then .star :: parse rest
    else if c = '?' then any :: parse rest
    else if c = '[' then
      match h : bracket? rest with
      | some (body, after) =>
        have := bracket?_length h
        set body :: parse after
      | none => char c :: parse rest
    else char c :: parse rest
termination_by s.length

/-- The character fits a part. -/
def fits (inside : Bool) (ranges : List (Char × Char)) (c : Char) : Bool :=
  (ranges.any fun (low, high) => low ≤ c && c ≤ high) == inside

/-- What may be left of a text behind a part, the longest rest first. -/
def behind (left : List (List Char)) : Glob → List (List Char)
  | .star =>
    match left with
    | [] => []
    | s :: _ => Text.rests s
  | .one inside ranges => left.filterMap fun s =>
    match s with
    | [] => none
    | c :: rest => if fits inside ranges c then some rest else none

/-- The whole text fits the parts. -/
def accepts (parts : List Glob) (s : List Char) : Bool :=
  (parts.foldl behind [s]).any (·.isEmpty)

end Glob

/-- The whole text fits a pattern. -/
def fitsPattern (pattern s : List Char) : Bool := Glob.accepts (Glob.parse pattern) s

end ScriptAudit.Path
