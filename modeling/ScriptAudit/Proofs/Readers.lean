import ScriptAudit.JavaScript.Symbol
import ScriptAudit.Proofs.TreeShape

namespace ScriptAudit

/-- The place where a text starts. -/
def Mark.zero : Mark := ⟨0, 0, 0⟩

theorem Mark.afterAll_append (m : Mark) (a b : List Char) :
    m.afterAll (a ++ b) = (m.afterAll a).afterAll b := List.foldl_append

namespace JavaScript

namespace Cursor

/-- The cursor stands behind some characters of the text, in front of all others. -/
def Within (s : List Char) (c : Cursor) : Prop :=
  ∃ read, s = read ++ c.rest ∧ c.mark = Mark.zero.afterAll read

theorem start_within (s : List Char) : (start s).Within s := ⟨[], rfl, rfl⟩

theorem advance_eq (n : Nat) (c : Cursor) :
    c.advance n = ⟨c.rest.drop n, c.mark.afterAll (c.rest.take n)⟩ := by
  induction n generalizing c with
  | zero => rfl
  | succ n ih =>
    match c with
    | ⟨[], m⟩ => rfl
    | ⟨x :: rest, m⟩ => exact ih ⟨rest, m.after x⟩

section

variable {s : List Char} {c : Cursor}

theorem Within.advance (h : c.Within s) (n : Nat) : (c.advance n).Within s := by
  obtain ⟨read, hs, hm⟩ := h
  refine ⟨read ++ c.rest.take n, ?_, ?_⟩
  · rw [advance_eq, List.append_assoc, List.take_append_drop, hs]
  · rw [advance_eq, Mark.afterAll_append, hm]

theorem Within.skipWhile (h : c.Within s) (p : Char → Bool) : (c.skipWhile p).Within s := h.advance _

theorem Within.skipTrivia (h : c.Within s) (markup : Bool) : (c.skipTrivia markup).Within s := by
  fun_induction Cursor.skipTrivia markup c with
  | case1 c behind first rest n hr hn ih => exact ih ((h.skipWhile isSpace).advance (n + 1))
  | case2 c behind => exact h.skipWhile isSpace

theorem Within.omittedSemicolon? {canContinue : Bool} {d : Cursor} (h : c.Within s)
    (hd : c.omittedSemicolon? canContinue = some d) : d.Within s := by
  fun_induction Cursor.omittedSemicolon? canContinue c with
  | case1 c _ =>
    obtain rfl : c = d := Option.some.inj hd
    exact h
  | case2 c _ behind first rest n hr hn ih => exact ih ((h.skipWhile isSpace).advance (n + 1)) hd
  | case3 => cases hd

end

end Cursor

namespace Reader

variable {α β : Type} {s : List Char} {P Q : α → Prop} {R : β → Prop}

/-- From this cursor the reader stays within the text, and its result has the property. -/
def GivesAt (s : List Char) (c : Cursor) (P : α → Prop) (r : Reader α) : Prop :=
  ∀ a c', r c = .ok (a, c') → P a ∧ c'.Within s

/-- From everywhere within the text the reader stays within it, and its result has the property. -/
def Gives (s : List Char) (P : α → Prop) (r : Reader α) : Prop := ∀ c, c.Within s → r.GivesAt s c P

/-- The reader only looks at what comes next. -/
def Looks (r : Reader α) : Prop := ∀ c, ∃ a, r c = .ok (a, c)

theorem Gives.mono {r : Reader α} (h : r.Gives s P) (sub : ∀ a, P a → Q a) : r.Gives s Q := by
  intro c hc a c' hr
  obtain ⟨ha, hc'⟩ := h c hc a c' hr
  exact ⟨sub a ha, hc'⟩

theorem gives_pure {a : α} (h : P a) : (pure a : Reader α).Gives s P := by
  intro c hc b c' hr
  cases hr
  exact ⟨h, hc⟩

theorem gives_stuck : (stuck : Reader α).Gives s P := by
  intro c _ a c' hr
  cases hr

section Bind

variable {r : Reader β} {k : β → Reader α} {c : Cursor}

theorem bind_of_ok {b : β} {d : Cursor} (h : r c = .ok (b, d)) : (r >>= k) c = k b d := by
  simp only [Bind.bind, h]

theorem bind_of_error {m : Mark} (h : r c = .error m) : (r >>= k) c = .error m := by
  simp only [Bind.bind, h]

end Bind

theorem GivesAt.bind {r : Reader β} {k : β → Reader α} {c : Cursor} (hr : r.GivesAt s c R)
    (hk : ∀ b, R b → (k b).Gives s P) : (r >>= k).GivesAt s c P := by
  intro a c' h
  cases hb : r c with
  | error m =>
    rw [bind_of_error hb] at h
    cases h
  | ok result =>
    obtain ⟨b, d⟩ := result
    rw [bind_of_ok hb] at h
    obtain ⟨here, within⟩ := hr b d hb
    exact hk b here d within a c' h

theorem Gives.bind {r : Reader β} {k : β → Reader α} (hr : r.Gives s R)
    (hk : ∀ b, R b → (k b).Gives s P) : (r >>= k).Gives s P :=
  fun c hc => (hr c hc).bind hk

theorem Looks.givesAt {r : Reader β} {k : β → Reader α} {c : Cursor} {b : β} (hr : r c = .ok (b, c))
    (hk : (k b).GivesAt s c P) : (r >>= k).GivesAt s c P := by
  intro a c' h
  rw [bind_of_ok hr] at h
  exact hk a c' h

theorem Looks.bind {r : Reader β} {k : β → Reader α} (hr : r.Looks) (hk : ∀ b, (k b).Gives s P) :
    (r >>= k).Gives s P := by
  intro c hc
  obtain ⟨b, hb⟩ := hr c
  exact Looks.givesAt hb (hk b c hc)

theorem Looks.gives {r : Reader α} (hr : r.Looks) : r.Gives s fun _ => True := by
  intro c hc a c' h
  obtain ⟨b, hb⟩ := hr c
  rw [hb] at h
  cases h
  exact ⟨trivial, hc⟩

theorem looks_pure (a : α) : (pure a : Reader α).Looks := fun _ => ⟨a, rfl⟩

theorem Looks.then {r : Reader β} {k : β → Reader α} (hr : r.Looks) (hk : ∀ b, (k b).Looks) :
    (r >>= k).Looks := by
  intro c
  obtain ⟨b, hb⟩ := hr c
  obtain ⟨a, ha⟩ := hk b c
  exact ⟨a, (bind_of_ok hb).trans ha⟩

/-- Two ways to go on to the same rest: each gives what the rest asks for. -/
theorem Gives.join {p : Prop} [Decidable p] {first : Reader α} {other : Reader β} {k : β → Reader α}
    (R : β → Prop) (hother : other.Gives s R)
    (hfirst : (∀ b, R b → (k b).Gives s P) → first.Gives s P) (hk : ∀ b, R b → (k b).Gives s P) :
    (if p then first else other >>= k).Gives s P := by
  split
  · exact hfirst hk
  · exact hother.bind hk

/-- The same with the simple way first. -/
theorem Gives.joinElse {p : Prop} [Decidable p] {first : Reader β} {other : Reader α} {k : β → Reader α}
    (R : β → Prop) (hfirst : first.Gives s R)
    (hother : (∀ b, R b → (k b).Gives s P) → other.Gives s P) (hk : ∀ b, R b → (k b).Gives s P) :
    (if p then first >>= k else other).Gives s P := by
  split
  · exact hfirst.bind hk
  · exact hother hk

/-- The same with a first way that puts its result together. -/
theorem Gives.joinPure {γ : Type} {p : Prop} [Decidable p] {first : Reader γ} {g : γ → β} {other : Reader α}
    {k : β → Reader α} (R : β → Prop) (hfirst : first.Gives s fun c => R (g c))
    (hother : (∀ b, R b → (k b).Gives s P) → other.Gives s P) (hk : ∀ b, R b → (k b).Gives s P) :
    (if p then first >>= fun c => pure (g c) >>= k else other).Gives s P := by
  split
  · exact hfirst.bind fun c hc => (gives_pure hc).bind hk
  · exact hother hk

theorem gives_ite {p : Prop} [Decidable p] {x y : Reader α} (hx : p → x.Gives s P)
    (hy : ¬p → y.Gives s P) : (if p then x else y).Gives s P := by
  split
  next h => exact hx h
  next h => exact hy h

theorem Gives.orElse {x y : Reader α} (hx : x.Gives s P) (hy : y.Gives s P) :
    (x.orElse y).Gives s P := by
  intro c hc a c' h
  unfold Reader.orElse at h
  cases hxc : x c with
  | ok result =>
    rw [hxc] at h
    exact hx c hc a c' (hxc.trans h)
  | error m =>
    rw [hxc] at h
    cases hyc : y c with
    | ok result =>
      rw [hyc] at h
      exact hy c hc a c' (hyc.trans h)
    | error m' => rw [hyc] at h; cases h

theorem gives_iterate {step : α → Reader (Option α)} {a : α}
    (hstep : ∀ a, P a → (step a).Gives s fun next => ∀ b ∈ next, P b) (ha : P a) :
    (iterate step a).Gives s P := by
  have along (limit : List Char) : ∀ a, P a → (iterateAlong step limit a).Gives s P := by
    induction limit with
    | nil => intro a _; exact gives_stuck
    | cons _ limit ih =>
      intro a ha
      refine (hstep a ha).bind fun next hnext => ?_
      cases next with
      | none => exact gives_pure ha
      | some b => exact ih b (hnext b rfl)
  exact fun c hc => along _ a ha c hc

theorem gives_repeatWhile {more : Reader Bool} {r : Reader α} (hmore : more.Looks) (hr : r.Gives s P) :
    (repeatWhile more r).Gives s fun all => ∀ a ∈ all, P a := by
  refine Gives.bind (R := fun all : List α => ∀ a ∈ all, P a) (gives_iterate ?_ (by simp)) ?_
  · intro found hfound
    refine hmore.bind fun goesOn => gives_ite (fun _ => ?_) fun _ => gives_pure (by simp)
    refine hr.bind fun a ha => gives_pure ?_
    simpa using ⟨ha, hfound⟩
  · intro found hfound
    exact gives_pure (by simpa using hfound)

end Reader

end JavaScript

end ScriptAudit
