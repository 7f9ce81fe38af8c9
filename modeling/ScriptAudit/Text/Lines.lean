namespace ScriptAudit.Text

/-- The pieces between occurrences of `mark`; there is always at least one. -/
def splitOn {α : Type} [DecidableEq α] (mark : α) : List α → List (List α)
  | [] => [[]]
  | a :: rest =>
    if a = mark then [] :: splitOn mark rest
    else match splitOn mark rest with
      | [] => [[a]]
      | piece :: pieces => (a :: piece) :: pieces

/-- The lines of a text. -/
def lines (s : List Char) : List (List Char) := splitOn '\n' s

/-- Line breaks of every kind as line feeds. -/
def lineFeeds : List Char → List Char
  | '\r' :: '\n' :: rest => '\n' :: lineFeeds rest
  | '\r' :: rest => '\n' :: lineFeeds rest
  | c :: rest => c :: lineFeeds rest
  | [] => []

/-- Pieces put back together with `mark` between them. -/
def joinWith {α : Type} (mark : List α) : List (List α) → List α
  | [] => []
  | [p] => p
  | p :: ps => p ++ mark ++ joinWith mark ps

theorem splitOn_ne_nil {α : Type} [DecidableEq α] (mark : α) (s : List α) : splitOn mark s ≠ [] := by
  induction s with
  | nil => simp [splitOn]
  | cons a rest ih =>
    simp only [splitOn]
    split
    · simp
    · split <;> simp

/-- Splitting loses nothing. -/
theorem joinWith_splitOn {α : Type} [DecidableEq α] (mark : α) (s : List α) :
    joinWith [mark] (splitOn mark s) = s := by
  induction s with
  | nil => rfl
  | cons a rest ih =>
    have ne := splitOn_ne_nil mark rest
    simp only [splitOn]
    split
    · next h =>
      subst h
      cases hs : splitOn a rest with
      | nil => exact absurd hs ne
      | cons p ps => rw [hs] at ih; simp [joinWith, ih]
    · cases hs : splitOn mark rest with
      | nil => exact absurd hs ne
      | cons p ps =>
        rw [hs] at ih
        cases ps with
        | nil => simpa [joinWith] using ih
        | cons q qs => simpa [joinWith] using ih

end ScriptAudit.Text
