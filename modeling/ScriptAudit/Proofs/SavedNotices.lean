import Mathlib.Data.List.TakeWhile
import ScriptAudit.Command.Run

namespace ScriptAudit.Terminal

theorem piecesFrom_of_length_le {n : Nat} {s : List Char} (h : s.length ≤ n) : piecesFrom n s = [] := by
  induction s generalizing n with
  | nil => rw [piecesFrom]
  | cons c rest ih =>
    obtain ⟨n, rfl⟩ := Nat.exists_eq_succ_of_ne_zero (Nat.ne_of_gt (Nat.lt_of_lt_of_le (Nat.succ_pos _) h))
    rw [piecesFrom]
    exact ih (Nat.le_of_succ_le_succ h)

theorem tagLength?_of_ne {c : Char} (h : c ≠ '[') (rest : List Char) : tagLength? (c :: rest) = none := by
  unfold tagLength?
  split
  next same => exact absurd (List.cons.inj same).1 h
  next => rfl

/-- A character that neither opens a tag nor is a backslash in front of a bracket stands for itself. -/
theorem pieces_cons {c : Char} {rest : List Char}
    (plain : tagLength? ((c :: rest).dropWhile (· == '\\')) = none) (unescaped : c = '\\' → rest.head? ≠ some '[') :
    pieces (c :: rest) = .text [c] :: pieces rest := by
  rw [pieces, piecesFrom]
  simp only [plain]
  rw [if_neg (by simpa using unescaped)]
  rfl

/-- The tag that closes the notice. -/
def closing : List Char := "[/bold green]".toList

theorem pieces_closing : pieces closing = [.text [], .tag ⟨"/bold green".toList, []⟩] := by decide

section Render

variable {screen : Screen} {opened : List Tag}

theorem renderFrom_text {s : List Char} {rest : List Piece} (h : (renderFrom screen opened rest).isSome) :
    (renderFrom screen opened (.text s :: rest)).isSome := by
  rw [renderFrom, Option.isSome_map]
  exact h

theorem renderFrom_texts (a b : List Char) : (renderFrom screen opened [.text a, .text b]).isSome :=
  renderFrom_text (renderFrom_text rfl)

end Render

/-- The notice is in one style. -/
def noticeTag (screen : Screen) : Tag := ⟨screen.styleName "bold green".toList, []⟩

theorem follow_closing (screen : Screen) :
    Tag.follow screen ⟨"/bold green".toList, []⟩ [noticeTag screen] = some [] := by
  have name : trimmed "bold green".toList = "bold green".toList := by decide
  have named : takeNamed (screen.styleName "bold green".toList) [noticeTag screen] = some (noticeTag screen, []) :=
    if_pos rfl
  have closable : (noticeTag screen).closable screen = true := by simp [Tag.closable, noticeTag]
  have follows : Tag.follow screen ⟨"/bold green".toList, []⟩ [noticeTag screen] =
      close screen (trimmed "bold green".toList) [noticeTag screen] := rfl
  rw [follows, name, close, named]
  simp [closable]

theorem renderFrom_closing (screen : Screen) (s : List Char) :
    (renderFrom screen [noticeTag screen] [.text s, .tag ⟨"/bold green".toList, []⟩]).isSome := by
  apply renderFrom_text
  rw [renderFrom, follow_closing]
  rfl

/-- Without a bracket the only tag in front of the end is the one that closes, unless a backslash takes it for text. -/
theorem render_closing (screen : Screen) {s : List Char} (h : '[' ∉ s) :
    (renderFrom screen [noticeTag screen] (pieces (s ++ closing))).isSome := by
  induction s with
  | nil =>
    rw [List.nil_append, pieces_closing]
    exact renderFrom_closing screen []
  | cons c rest ih =>
    have others : '[' ∉ rest := fun mem => h (List.mem_cons_of_mem c mem)
    by_cases slashes : ∀ d ∈ c :: rest, (d == '\\') = true
    · have taken : (c :: (rest ++ closing)).takeWhile (· == '\\') = c :: rest := by
        rw [← List.cons_append, List.takeWhile_append_of_pos slashes]
        exact List.append_nil _
      have dropped : (c :: (rest ++ closing)).dropWhile (· == '\\') = closing := by
        rw [← List.cons_append, List.dropWhile_append_of_pos slashes]
        rfl
      have length : tagLength? closing = some 13 := by decide
      have ended : piecesFrom ((c :: rest).length + 13 - 1) (rest ++ closing) = [] := by
        apply piecesFrom_of_length_le
        have size : closing.length = 13 := rfl
        rw [List.length_append, List.length_cons, size]
        omega
      rw [List.cons_append, pieces, piecesFrom]
      simp only [taken, dropped, length, ended]
      split
      · exact renderFrom_texts _ _
      · exact renderFrom_closing screen _
    · -- The backslashes in front, if any, are followed by something else than a bracket.
      obtain ⟨d, more, behind⟩ : ∃ d more, (c :: rest).dropWhile (· == '\\') = d :: more := by
        apply List.exists_cons_of_ne_nil
        rwa [Ne, List.dropWhile_eq_nil_iff]
      have dropped : (c :: (rest ++ closing)).dropWhile (· == '\\') = d :: (more ++ closing) := by
        rw [← List.cons_append, List.dropWhile_append, behind]
        rfl
      have mem : d ∈ c :: rest := (List.dropWhile_sublist _).subset (by rw [behind]; exact List.mem_cons_self)
      have other : d ≠ '[' := fun same => h (same ▸ mem)
      have unescaped : c = '\\' → (rest ++ closing).head? ≠ some '[' := by
        rintro rfl
        cases rest with
        | nil => exact absurd (fun d mem => beq_iff_eq.mpr (List.mem_singleton.mp mem)) slashes
        | cons e tail =>
          rw [List.cons_append, List.head?_cons, Ne, Option.some.injEq]
          exact fun same => others (same ▸ List.mem_cons_self)
      rw [List.cons_append, pieces_cons (by rw [dropped, tagLength?_of_ne other]) unescaped]
      exact renderFrom_text (ih others)

theorem piecesFrom_append (skipped s : List Char) : piecesFrom skipped.length (skipped ++ s) = pieces s := by
  induction skipped with
  | nil => rfl
  | cons c rest ih => exact ih

/-- The tag that opens the notice. -/
def opening : List Char := "[bold green]".toList

theorem pieces_opening (s : List Char) :
    pieces (opening ++ s) = .text [] :: .tag ⟨"bold green".toList, []⟩ :: pieces s := by
  have length : tagLength? ('[' :: ("bold green]".toList ++ s)) = some (opening.length) := rfl
  have behind := piecesFrom_append "bold green]".toList s
  change piecesFrom 0 ('[' :: ("bold green]".toList ++ s)) = _
  rw [piecesFrom]
  have none : ('[' :: ("bold green]".toList ++ s)).takeWhile (· == '\\') = [] := rfl
  have all : ('[' :: ("bold green]".toList ++ s)).dropWhile (· == '\\') = '[' :: ("bold green]".toList ++ s) := rfl
  simp only [none, all, length]
  have rest : ([] : List Char).length + opening.length - 1 = "bold green]".toList.length := rfl
  rw [rest, behind]
  rfl

theorem pieces_notice (s : List Char) : pieces ("\n[bold green]Report saved to ".toList ++ s) =
    .text ['\n'] :: .text [] :: .tag ⟨"bold green".toList, []⟩ ::
      ("Report saved to ".toList.map (fun c => .text [c]) ++ pieces s) := by
  have start : "\n[bold green]Report saved to ".toList ++ s =
    '\n' :: (opening ++ ("Report saved to ".toList ++ s)) := rfl
  have first (t : List Char) : pieces ('\n' :: t) = .text ['\n'] :: pieces t := rfl
  rw [start, first, pieces_opening]
  rfl

theorem renderFrom_chars {screen : Screen} {opened : List Tag} (chars : List Char) {rest : List Piece}
    (h : (renderFrom screen opened rest).isSome) :
    (renderFrom screen opened (chars.map (fun c => .text [c]) ++ rest)).isSome := by
  induction chars with
  | nil => exact h
  | cons c more ih => exact renderFrom_text ih

end ScriptAudit.Terminal

namespace ScriptAudit.Command.Request

open Terminal

/-- The notice on a report whose name has no bracket can be printed. -/
theorem savedLines?_isSome (screen : Screen) {path : String} (h : '[' ∉ path.toList) :
    (savedLines? screen path).isSome := by
  have notice : savedText path = "\n[bold green]Report saved to ".toList ++ (path.toList ++ closing) :=
    List.append_assoc _ _ _
  rw [savedLines?, Option.isSome_map, render, notice, pieces_notice]
  apply renderFrom_text
  apply renderFrom_text
  exact renderFrom_chars _ (render_closing screen h)

end ScriptAudit.Command.Request
