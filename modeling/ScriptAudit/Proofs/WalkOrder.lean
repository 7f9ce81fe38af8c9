import Mathlib.Data.List.Infix
import Mathlib.Data.List.Nodup
import ScriptAudit.Node.Walk

namespace ScriptAudit

/-- A place in a tree: the numbers of the children on the way down to it. -/
abbrev Place := List Nat

namespace Node

/-- The node at a place. -/
def at? : Node → Place → Option Node
  | n, [] => some n
  | n, i :: rest => (n.children[i]?).bind (at? · rest)

mutual

/-- The places of a tree: its root, then the places below each child from left to right. -/
def places (n : Node) : List Place := [] :: placesIn 0 n.children
termination_by 2 * n.size
decreasing_by have := n.size_eq; omega

/-- The places below some siblings, the first of which is child number `i`. -/
def placesIn (i : Nat) : List Node → List Place
  | [] => []
  | n :: rest => (places n).map (i :: ·) ++ placesIn (i + 1) rest
termination_by siblings => 2 * sizeAll siblings + 1
decreasing_by
  · simp only [sizeAll]; omega
  · have := n.size_eq
    simp only [sizeAll]
    omega

end

/-- The node at a place, with the number of its visit. -/
def ancestorAt? (root : Node) (p : Place) : Option Ancestor :=
  (root.at? p).map fun n => ⟨root.places.idxOf p, n⟩

/-- The places above a place, the nearest first. -/
def placesAbove (p : Place) : List Place := p.inits.dropLast.reverse

/-- The nearest function above a place, never the node at the place itself. -/
def functionAbove? (root : Node) (p : Place) : Option Ancestor :=
  ((placesAbove p).find? fun q => (root.at? q).any (·.isFunction)).bind root.ancestorAt?

/-- The node whose child stands at a place; the root has none. -/
def parentOf? (root : Node) (p : Place) : Option Ancestor :=
  if p = [] then none else root.ancestorAt? p.dropLast

/-- What a visit of a place sees. -/
def stepAt? (root : Node) (p : Place) : Option Step :=
  (root.at? p).map fun n => ⟨n, root.parentOf? p, root.functionAbove? p⟩

theorem places_eq (n : Node) : n.places = [] :: placesIn 0 n.children := by rw [places]

theorem placesIn_cons (i : Nat) (n : Node) (rest : List Node) :
    placesIn i (n :: rest) = n.places.map (i :: ·) ++ placesIn (i + 1) rest := by rw [placesIn]

/-- A tree has as many places as nodes, and so have siblings. -/
theorem length_placesIn (i : Nat) (siblings : List Node) :
    (placesIn i siblings).length = sizeAll siblings := by
  induction h : sizeAll siblings using Nat.strong_induction_on generalizing i siblings with
  | _ k ih =>
    cases siblings with
    | nil => simp_all [placesIn, sizeAll]
    | cons n rest =>
      have hn := n.size_eq
      simp only [sizeAll] at h
      have below : (placesIn 0 n.children).length = sizeAll n.children := ih _ (by omega) 0 _ rfl
      have behind : (placesIn (i + 1) rest).length = sizeAll rest := ih _ (by omega) _ _ rfl
      rw [placesIn_cons, places_eq]
      simp only [List.length_append, List.length_map, List.length_cons, below, behind]
      omega

theorem length_places (n : Node) : n.places.length = n.size := by
  rw [places_eq, List.length_cons, length_placesIn, size_eq, Nat.add_comm]

/-- The places below siblings name the sibling first. -/
theorem mem_placesIn (i : Nat) (siblings : List Node) (p : Place) :
    p ∈ placesIn i siblings ↔
      ∃ j q c, p = (i + j) :: q ∧ siblings[j]? = some c ∧ q ∈ c.places := by
  induction siblings generalizing i with
  | nil => simp [placesIn]
  | cons n rest ih =>
    rw [placesIn_cons, List.mem_append, ih]
    constructor
    · rintro (h | ⟨j, q, c, rfl, hc, hq⟩)
      · obtain ⟨q, hq, rfl⟩ := List.mem_map.mp h
        exact ⟨0, q, n, rfl, rfl, hq⟩
      · exact ⟨j + 1, q, c, by rw [Nat.add_right_comm, Nat.add_assoc], hc, hq⟩
    · rintro ⟨j, q, c, rfl, hc, hq⟩
      cases j with
      | zero =>
        obtain rfl : n = c := by simpa using hc
        exact .inl (List.mem_map.mpr ⟨q, hq, rfl⟩)
      | succ j => exact .inr ⟨j, q, c, by rw [Nat.add_right_comm, Nat.add_assoc], by simpa using hc, hq⟩

/-- The places of a tree are those that lead to a node. -/
theorem mem_places (n : Node) (p : Place) : p ∈ n.places ↔ (n.at? p).isSome := by
  induction p generalizing n with
  | nil => simp [places_eq, at?]
  | cons i p ih =>
    rw [places_eq, List.mem_cons, mem_placesIn]
    simp only [reduceCtorEq, false_or, Nat.zero_add, List.cons.injEq, at?]
    constructor
    · rintro ⟨j, q, c, ⟨rfl, rfl⟩, hc, hq⟩
      rw [hc]
      exact (ih c).mp hq
    · intro h
      cases hc : n.children[i]? with
      | none => simp [hc] at h
      | some c =>
        rw [hc] at h
        exact ⟨i, p, c, ⟨rfl, rfl⟩, hc, (ih c).mpr h⟩

/-- No place is listed twice. -/
theorem nodup_placesIn (i : Nat) (siblings : List Node) : (placesIn i siblings).Nodup := by
  induction h : sizeAll siblings using Nat.strong_induction_on generalizing i siblings with
  | _ k ih =>
    cases siblings with
    | nil => simp [placesIn]
    | cons n rest =>
      have hn := n.size_eq
      simp only [sizeAll] at h
      have below : (placesIn 0 n.children).Nodup := ih _ (by omega) 0 _ rfl
      have behind : (placesIn (i + 1) rest).Nodup := ih _ (by omega) _ _ rfl
      have root : [] ∉ placesIn 0 n.children := by simp [mem_placesIn]
      rw [placesIn_cons]
      refine List.Nodup.append (List.Nodup.map (List.cons_injective) ?_) behind ?_
      · rw [places_eq]
        exact List.nodup_cons.mpr ⟨root, below⟩
      · intro p hp hq
        obtain ⟨q, -, rfl⟩ := List.mem_map.mp hp
        obtain ⟨j, r, c, he, -⟩ := (mem_placesIn _ _ _).mp hq
        have : i = i + 1 + j := (List.cons.inj he).1
        omega

theorem nodup_places (n : Node) : n.places.Nodup := by
  rw [places_eq]
  exact List.nodup_cons.mpr ⟨by simp [mem_placesIn], nodup_placesIn 0 n.children⟩

theorem at?_append (n : Node) (p q : Place) : n.at? (p ++ q) = (n.at? p).bind (·.at? q) := by
  induction p generalizing n with
  | nil => rfl
  | cons i p ih =>
    simp only [List.cons_append, at?]
    cases n.children[i]? with
    | none => rfl
    | some c => exact ih c

theorem idxOf_map_cons (i : Nat) (all : List Place) (q : Place) :
    (all.map (i :: ·)).idxOf (i :: q) = all.idxOf q := by
  induction all with
  | nil => rfl
  | cons p rest ih => by_cases h : p = q <;> simp [ih, h]

/-- Before a place below a sibling come all places below the siblings to its left. -/
theorem idxOf_placesIn (i j : Nat) (siblings : List Node) (c : Node) (q : Place)
    (hc : siblings[j]? = some c) (hq : q ∈ c.places) :
    (placesIn i siblings).idxOf ((i + j) :: q) =
      sizeAll (siblings.take j) + c.places.idxOf q := by
  induction siblings generalizing i j with
  | nil => simp at hc
  | cons n rest ih =>
    rw [placesIn_cons]
    cases j with
    | zero =>
      obtain rfl : n = c := by simpa using hc
      rw [Nat.add_zero, List.idxOf_append_of_mem (List.mem_map.mpr ⟨q, hq, rfl⟩), idxOf_map_cons]
      simp [sizeAll]
    | succ j =>
      have out : (i + (j + 1)) :: q ∉ n.places.map (i :: ·) := by
        intro h
        obtain ⟨r, -, he⟩ := List.mem_map.mp h
        have : i = i + (j + 1) := (List.cons.inj he).1
        omega
      have behind := ih (i + 1) j (by simpa using hc)
      rw [Nat.add_right_comm, Nat.add_assoc] at behind
      rw [List.idxOf_append_of_notMem out, List.length_map, length_places, behind, List.take_succ_cons,
        sizeAll, Nat.add_assoc]

/-- The visits below a node are counted from the visit of the node. -/
theorem idxOf_places_append {root n : Node} {p q : Place} (hp : root.at? p = some n)
    (hq : q ∈ n.places) : root.places.idxOf (p ++ q) = root.places.idxOf p + n.places.idxOf q := by
  induction p generalizing root with
  | nil =>
    obtain rfl : root = n := by simpa [at?] using hp
    simp [places_eq root, List.idxOf_cons_self]
  | cons i p ih =>
    simp only [at?] at hp
    cases hc : root.children[i]? with
    | none => simp [hc] at hp
    | some c =>
      have hp : c.at? p = some n := by simpa [hc] using hp
      have below (r : Place) (hr : r ∈ c.places) :
          root.places.idxOf (i :: r) = sizeAll (root.children.take i) + c.places.idxOf r + 1 := by
        have h := idxOf_placesIn 0 i root.children c r hc hr
        rw [Nat.zero_add] at h
        rw [places_eq root, List.idxOf_cons_ne _ (List.cons_ne_nil i r).symm, h]
      have hin : p ∈ c.places := (mem_places c p).mpr (by simp [hp])
      have hall : p ++ q ∈ c.places := by
        rw [mem_places, at?_append, hp]
        exact (mem_places n q).mp hq
      rw [List.cons_append, below _ hall, below _ hin, ih hp]
      omega

end Node

namespace Walk

open Node

theorem pending_singleton (s : Step) : pending [s] = s.node.size := by
  simp [pending, sizeAll]

/-- A visit takes one node off the stack and puts its children there. -/
theorem pending_cons (s : Step) (rest : List Step) (k : Nat) :
    pending (s :: rest) = pending (s.below k ++ rest) + 1 := by
  have h : (s.below k).map (·.node) = s.node.children := by simp [Step.below, Function.comp_def]
  have hs := s.node.size_eq
  simp only [pending, List.map_append, List.map_cons, sizeAll_append, sizeAll, h]
  omega

/-- What lies deeper in the stack waits until everything above it has been visited. -/
theorem run_append (k : Nat) (a b : List Step) :
    run k (a ++ b) = run k a ++ run (k + pending a) b := by
  induction h : pending a using Nat.strong_induction_on generalizing k a with
  | _ size ih =>
    cases a with
    | nil =>
      have : size = 0 := by rw [← h]; rfl
      simp [this]
    | cons s rest =>
      have hs := pending_cons s rest k
      have below := ih _ (by omega) (k + 1) (s.below k ++ rest) rfl
      have count : k + size = k + 1 + pending (s.below k ++ rest) := by omega
      rw [List.cons_append, run_cons, run_cons, ← List.append_assoc, below, count]
      rfl

end Walk

namespace Node

theorem placesAbove_append (p : Place) (i : Nat) : placesAbove (p ++ [i]) = p :: placesAbove p := by
  have last : p.inits = p.inits.dropLast ++ [p] := by
    rcases List.eq_nil_or_concat p with rfl | ⟨q, j, rfl⟩
    · rfl
    · simp [List.inits_append]
  have h : (p ++ [i]).inits.dropLast = p.inits := by simp [List.inits_append]
  rw [placesAbove, h, placesAbove]
  conv_lhs => rw [last]
  simp

/-- A child sees its parent's visit, and the parent itself if that is a function. -/
theorem below_eq {root n : Node} {p : Place} (hp : root.at? p = some n) (i : Nat) :
    root.parentOf? (p ++ [i]) = some ⟨root.places.idxOf p, n⟩ ∧
      root.functionAbove? (p ++ [i]) =
        if n.isFunction then some ⟨root.places.idxOf p, n⟩ else root.functionAbove? p := by
  constructor
  · simp [parentOf?, ancestorAt?, hp]
  · rw [functionAbove?, placesAbove_append, List.find?_cons]
    cases h : n.isFunction with
    | true => simp [hp, h, ancestorAt?]
    | false => simp [hp, h, functionAbove?]

/-- From the visit of a node on, the stack visits the places below it in order. -/
theorem run_place {root n : Node} {p : Place} (hp : root.at? p = some n) :
    (Walk.run (root.places.idxOf p) [⟨n, root.parentOf? p, root.functionAbove? p⟩]).map some =
      n.places.map fun q => root.stepAt? (p ++ q) := by
  induction h : n.size using Nat.strong_induction_on generalizing n p with
  | _ size ih =>
    let k := root.places.idxOf p
    let child (c : Node) : Step :=
      ⟨c, some ⟨k, n⟩, if n.isFunction then some ⟨k, n⟩ else root.functionAbove? p⟩
    -- the siblings still on the stack, and the nodes below those already visited
    have siblings (left right : List Node) (hc : n.children = left ++ right) :
        (Walk.run (k + 1 + sizeAll left) (right.map child)).map some =
          (placesIn left.length right).map fun q => root.stepAt? (p ++ q) := by
      induction right generalizing left with
      | nil => simp [placesIn]
      | cons c rest next =>
        have get : n.children[left.length]? = some c := by simp [hc]
        have at_c : root.at? (p ++ [left.length]) = some c := by
          rw [at?_append, hp]
          simp [at?, get]
        have number : root.places.idxOf (p ++ [left.length]) = k + 1 + sizeAll left := by
          have mem : [left.length] ∈ n.places := by simp [mem_places, at?, get]
          have first := idxOf_placesIn 0 left.length n.children c [] get (by simp [places_eq])
          rw [idxOf_places_append hp mem, places_eq n, List.idxOf_cons_ne _ (by simp)]
          rw [Nat.zero_add] at first
          rw [first, places_eq c, List.idxOf_cons_self, hc, List.take_left]
          omega
        have smaller : c.size < size := by
          have hs := n.size_eq
          rw [hc, sizeAll_append, sizeAll] at hs
          omega
        have here := ih c.size smaller at_c rfl
        rw [number, (below_eq hp _).1, (below_eq hp _).2] at here
        have there := next (left ++ [c]) (by simp [hc])
        rw [sizeAll_append, List.length_append] at there
        rw [List.map_cons, ← List.singleton_append, Walk.run_append, List.map_append, here,
          Walk.pending_singleton, placesIn_cons, List.map_append, List.map_map]
        simp only [sizeAll, Nat.add_zero, List.length_singleton, ← Nat.add_assoc] at there
        rw [there]
        simp [Function.comp_def]
    have all := siblings [] n.children rfl
    rw [sizeAll, Nat.add_zero, List.length_nil] at all
    rw [Walk.run_cons, List.append_nil, List.map_cons, places_eq n, List.map_cons, ← all]
    simp [stepAt?, hp, Step.below, child, k]

/-- Below the root every place has a parent, and the place is the parent's child of that number. -/
theorem parentOf?_append {root n : Node} {p : Place} {i : Nat} (h : root.at? (p ++ [i]) = some n) :
    ∃ m, root.at? p = some m ∧ m.children[i]? = some n ∧
      root.parentOf? (p ++ [i]) = some ⟨root.places.idxOf p, m⟩ := by
  rw [at?_append] at h
  cases hp : root.at? p with
  | none => simp [hp] at h
  | some m =>
    rw [hp] at h
    have child : m.children[i]? = some n := by
      cases hc : m.children[i]? with
      | none => simp [at?, hc] at h
      | some c => simpa [at?, hc] using h
    exact ⟨m, rfl, child, (below_eq hp i).1⟩

/-- The walk visits every place of a tree exactly once, in the recursive order: a node, then what is
below its children from left to right. Each visit sees the node whose child it visits, and the
nearest function strictly above it. -/
theorem walk_preorder (root : Node) :
    root.walk.map some = root.places.map root.stepAt? ∧ root.places.Nodup ∧
      (∀ p, p ∈ root.places ↔ (root.at? p).isSome) ∧ root.parentOf? [] = none ∧
      ∀ p i n, root.at? (p ++ [i]) = some n → ∃ m, root.at? p = some m ∧ m.children[i]? = some n ∧
        root.parentOf? (p ++ [i]) = some ⟨root.places.idxOf p, m⟩ := by
  have start : root.places.idxOf [] = 0 := by rw [places_eq, List.idxOf_cons_self]
  have h := run_place (rfl : root.at? [] = some root)
  rw [start] at h
  exact ⟨h, root.nodup_places, root.mem_places, rfl, fun _ _ _ hn => parentOf?_append hn⟩

end Node

end ScriptAudit
