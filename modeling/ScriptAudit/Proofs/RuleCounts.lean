import Mathlib.Data.List.Sort
import ScriptAudit.Report.Counts

namespace ScriptAudit

/-- The keys come in their order, none twice. -/
def Ascending (counts : List (String × Nat)) : Prop := counts.Pairwise fun a b => a.1 < b.1

namespace Ascending

theorem filter {counts : List (String × Nat)} (h : Ascending counts) (p : String × Nat → Bool) :
    Ascending (counts.filter p) :=
  List.Pairwise.filter p h

theorem eq_of_mem_iff {a b : List (String × Nat)} (ha : Ascending a) (hb : Ascending b)
    (same : ∀ key n, (key, n) ∈ a ↔ (key, n) ∈ b) : a = b := by
  have antisymm : Std.Antisymm fun x y : String × Nat => x.1 < y.1 :=
    ⟨fun _ _ below above => absurd above (String.lt_asymm below)⟩
  have irrefl : Std.Irrefl fun x y : String × Nat => x.1 < y.1 := ⟨fun _ => String.lt_irrefl _⟩
  apply List.Pairwise.eq_of_mem_iff ha hb
  rintro ⟨key, n⟩
  exact same key n

/-- No entry behind the first has its key or one below. -/
theorem not_mem {first key : String} {m n : Nat} {rest : List (String × Nat)}
    (h : Ascending ((first, m) :: rest)) (le : ¬ first < key) : (key, n) ∉ rest := by
  intro mem
  exact le ((List.pairwise_cons.mp h).1 _ mem)

end Ascending

theorem key_of_mem_bump {key : String} {counts : List (String × Nat)} {entry : String × Nat}
    (h : entry ∈ bump key counts) : entry.1 = key ∨ ∃ n, (entry.1, n) ∈ counts := by
  induction counts with
  | nil => simp_all [bump]
  | cons first rest ih =>
    obtain ⟨k, m⟩ := first
    rw [bump] at h
    split_ifs at h <;> grind

theorem Ascending.bump {counts : List (String × Nat)} (h : Ascending counts) (key : String) :
    Ascending (bump key counts) := by
  induction counts with
  | nil => exact List.pairwise_singleton _ _
  | cons first rest ih =>
    obtain ⟨k, m⟩ := first
    obtain ⟨above, tail⟩ := List.pairwise_cons.mp h
    rw [ScriptAudit.bump]
    split_ifs with same below
    · exact List.pairwise_cons.mpr ⟨above, tail⟩
    · refine List.pairwise_cons.mpr ⟨fun entry mem => ?_, h⟩
      rcases List.mem_cons.mp mem with rfl | mem
      · exact below
      · exact String.lt_trans below (above entry mem)
    · have after : k < key := by
        by_contra notAfter
        exact same (String.le_antisymm (String.not_lt.mp notAfter) (String.not_lt.mp below))
      refine List.pairwise_cons.mpr ⟨fun entry mem => ?_, ih tail⟩
      rcases key_of_mem_bump mem with eq | ⟨n, mem⟩
      · exact eq ▸ after
      · exact above (entry.1, n) mem

theorem mem_bump_of_ne {key k : String} (ne : k ≠ key) (n : Nat) (counts : List (String × Nat)) :
    (k, n) ∈ bump key counts ↔ (k, n) ∈ counts := by
  induction counts with
  | nil => simp [bump, ne]
  | cons first rest ih =>
    obtain ⟨k₀, m₀⟩ := first
    rw [bump]
    split_ifs with same below
    · subst same
      simp [ne]
    · simp [ne]
    · simp [ih]

/-- A key with a count has the next one, and a new key has one. -/
theorem mem_bump_self {counts : List (String × Nat)} (h : Ascending counts) (key : String) (n : Nat) :
    (key, n) ∈ bump key counts ↔
      (∃ m, (key, m) ∈ counts ∧ n = m + 1) ∨ (∀ m, (key, m) ∉ counts) ∧ n = 1 := by
  induction counts with
  | nil => simp [bump]
  | cons first rest ih =>
    obtain ⟨k₀, m₀⟩ := first
    have tail := ih (List.pairwise_cons.mp h).2
    rw [bump]
    split_ifs with same below
    · subst same
      have fresh (m : Nat) : (key, m) ∉ rest := h.not_mem (String.lt_irrefl key)
      simp [fresh]
    · have fresh (m : Nat) : (key, m) ∉ rest := h.not_mem (String.lt_asymm below)
      simp [fresh, same]
    · simp [tail, same]

theorem ascending_tally (keys : List String) : Ascending (tally keys) := by
  induction keys with
  | nil => exact List.Pairwise.nil
  | cons key rest ih => exact ih.bump key

/-- The counts hold each key that occurs, with how often it does. -/
theorem mem_tally (keys : List String) (key : String) (n : Nat) :
    (key, n) ∈ tally keys ↔ 0 < n ∧ keys.count key = n := by
  induction keys generalizing n with
  | nil =>
    simp only [tally, List.foldr_nil, List.not_mem_nil, List.count_nil, false_iff]
    omega
  | cons first rest ih =>
    have step : tally (first :: rest) = bump first (tally rest) := rfl
    rw [step]
    by_cases same : key = first
    · subst same
      rw [mem_bump_self (ascending_tally rest), List.count_cons_self]
      simp only [ih]
      constructor
      · rintro (⟨m, ⟨-, count⟩, rfl⟩ | ⟨none, rfl⟩)
        · omega
        · have absent := none (rest.count key)
          omega
      · rintro ⟨-, rfl⟩
        by_cases occurs : 0 < rest.count key
        · exact .inl ⟨rest.count key, ⟨occurs, rfl⟩, rfl⟩
        · refine .inr ⟨fun m => ?_, ?_⟩ <;> omega
    · rw [mem_bump_of_ne same, ih, List.count_cons_of_ne (Ne.symm same)]

/-- To leave out keys before they are counted is to leave out their counts. -/
theorem tally_filter (keys : List String) (keep : String → Bool) :
    tally (keys.filter keep) = (tally keys).filter fun entry => keep entry.1 := by
  apply (ascending_tally _).eq_of_mem_iff ((ascending_tally keys).filter _)
  intro key n
  rw [List.mem_filter, mem_tally, mem_tally]
  by_cases kept : keep key = true
  · simp [List.count_filter kept, kept]
  · have absent : key ∉ keys.filter keep := fun mem => kept (List.mem_filter.mp mem).2
    rw [List.count_eq_zero.mpr absent]
    constructor
    · omega
    · intro h
      exact absurd h.2 kept

end ScriptAudit
