import Mathlib.Data.List.TakeWhile
import Mathlib.Data.List.Flatten
import ScriptAudit.Proofs.RuleIndependence
import ScriptAudit.Proofs.WalkOrder

namespace ScriptAudit

namespace Rule

/-- The text can be cut into some text, the name, blanks, the sign of an assignment, blanks, the word `null` and a
rest. -/
def AssignsNull (name text : List Char) : Prop :=
  ∃ before blanks blanks' after,
    text = before ++ name ++ blanks ++ ['='] ++ blanks' ++ ['n', 'u', 'l', 'l'] ++ after ∧
    (∀ c ∈ blanks, Text.isBlank c) ∧ ∀ c ∈ blanks', Text.isBlank c

/-! ### The search -/

/-- What starts with no blank is found behind the blanks or not at all. -/
theorem pastBlank?_eq_some_iff {first : Char} (solid : ¬ Text.isBlank first) {tail text rest : List Char} :
    pastBlank? (first :: tail) text = some rest ↔
      ∃ blanks, text = blanks ++ (first :: tail) ++ rest ∧ ∀ c ∈ blanks, Text.isBlank c := by
  simp only [pastBlank?, Option.ite_none_right_eq_some, Option.some.injEq, List.isPrefixOf_iff_prefix]
  constructor
  · rintro ⟨⟨behind, start⟩, rfl⟩
    refine ⟨text.takeWhile Text.isBlank, ?_, fun c => List.mem_takeWhile_imp⟩
    rw [← start, List.drop_left, List.append_assoc, start]
    exact List.takeWhile_append_dropWhile.symm
  · rintro ⟨blanks, rfl, allBlank⟩
    have dropped : Text.dropBlank (blanks ++ (first :: tail) ++ rest) = (first :: tail) ++ rest := by
      rw [Text.dropBlank, List.append_assoc, List.dropWhile_append_of_pos allBlank, List.cons_append,
        List.dropWhile_cons_of_neg solid]
    rw [dropped, List.drop_left]
    exact ⟨List.prefix_append _ _, rfl⟩

theorem startsNullAssignment_iff {name text : List Char} :
    startsNullAssignment name text ↔ ∃ blanks blanks' after,
      text = name ++ blanks ++ ['='] ++ blanks' ++ ['n', 'u', 'l', 'l'] ++ after ∧
      (∀ c ∈ blanks, Text.isBlank c) ∧ ∀ c ∈ blanks', Text.isBlank c := by
  have sign : ¬ Text.isBlank '=' := by decide
  have word : ¬ Text.isBlank 'n' := by decide
  have null : "null".toList = ['n', 'u', 'l', 'l'] := rfl
  simp only [startsNullAssignment, Bool.and_eq_true, List.isPrefixOf_iff_prefix, Option.isSome_iff_exists,
    Option.bind_eq_some_iff, null, pastBlank?_eq_some_iff sign, pastBlank?_eq_some_iff word]
  constructor
  · rintro ⟨⟨behind, rfl⟩, after, rest, ⟨blanks, parts, allBlank⟩, blanks', rfl, allBlank'⟩
    rw [List.drop_left] at parts
    exact ⟨blanks, blanks', after, by simp [parts], allBlank, allBlank'⟩
  · rintro ⟨blanks, blanks', after, rfl, allBlank, allBlank'⟩
    refine ⟨⟨_, by simp only [List.append_assoc]; rfl⟩, after, _, ⟨blanks, ?_, allBlank⟩, blanks', rfl, allBlank'⟩
    simp [List.append_assoc]

/-- The search finds an assignment exactly in the texts that can be cut into the parts of one. -/
theorem assignsNull_iff {name text : List Char} : assignsNull name text ↔ AssignsNull name text := by
  induction text with
  | nil =>
    simp only [assignsNull, startsNullAssignment_iff]
    constructor
    · rintro ⟨blanks, blanks', after, parts, all⟩
      simp at parts
    · rintro ⟨before, blanks, blanks', after, parts, all⟩
      simp at parts
  | cons c text ih =>
    simp only [assignsNull, Bool.or_eq_true, startsNullAssignment_iff, ih]
    constructor
    · rintro (⟨blanks, blanks', after, parts, all⟩ | ⟨before, blanks, blanks', after, rfl, all⟩)
      · exact ⟨[], blanks, blanks', after, parts, all⟩
      · exact ⟨c :: before, blanks, blanks', after, rfl, all⟩
    · rintro ⟨before, blanks, blanks', after, parts, all⟩
      cases before with
      | nil => exact .inl ⟨blanks, blanks', after, parts, all⟩
      | cons b before =>
        simp only [List.cons_append] at parts
        obtain ⟨rfl, rfl⟩ := List.cons.inj parts
        exact .inr ⟨before, blanks, blanks', after, rfl, all⟩

/-- More text around it takes no assignment away. -/
theorem AssignsNull.widen {name text : List Char} (h : AssignsNull name text) (front back : List Char) :
    AssignsNull name (front ++ text ++ back) := by
  obtain ⟨before, blanks, blanks', after, rfl, all⟩ := h
  exact ⟨front ++ before, blanks, blanks', after ++ back, by simp only [List.append_assoc], all⟩

end Rule

/-! ### The accesses of a tree -/

/-- An access to a member: where its node stands in the tree and in the text, and the name of the object. -/
structure Access where
  place : Place
  location : Location
  name : String

namespace Access

/-- The finding at an access. -/
def finding (a : Access) : Finding :=
  ⟨"unsafe-member-access", "Potential null pointer exception on: " ++ a.name, a.location.start.line,
    a.location.start.column⟩

/-- The tree holds the access: at its place stands a member of an object with its name, right below a node that is no
assignment. -/
structure In (a : Access) (root : Node) : Prop where
  member : ∃ object property computed optional, object.text = a.name ∧
    root.at? a.place = some (.member a.location (.identifier object) property computed optional)
  parent : ∃ above i node, a.place = above ++ [i] ∧ root.at? above = some node ∧
    ∀ location operator left right, node ≠ .assignment location operator left right

/-- The access that a visit sees at a place. -/
def ofStep? (p : Place) (s : Step) : Option Access :=
  if Rule.standsFree (s.parent.map (·.node)) then (Rule.accessedName s.node).map (⟨p, s.node.location, ·⟩) else none

end Access

namespace Node

theorem walk_eq (root : Node) : root.walk = root.places.filterMap root.stepAt? := by
  have start : root.places.idxOf [] = 0 := by rw [places_eq, List.idxOf_cons_self]
  have visits : root.walk.map some = root.places.map root.stepAt? := by
    have h := run_place (rfl : root.at? [] = some root)
    rwa [start] at h
  have same := congrArg (List.filterMap id) visits
  simpa [List.filterMap_map, Function.comp_def] using same

/-- The accesses of a tree that stand in no assignment, in the order of the walk. -/
def accesses (root : Node) : List Access :=
  root.places.filterMap fun p => (root.stepAt? p).bind (Access.ofStep? p)

theorem accessedName_eq_some_iff {n : Node} {x : String} : Rule.accessedName n = some x ↔
    ∃ l object property computed optional, n = .member l (.identifier object) property computed optional ∧
      object.text = x := by
  constructor
  · intro h
    cases n with
    | member l object property computed optional =>
      cases object with
      | identifier object => exact ⟨l, object, property, computed, optional, rfl, Option.some.inj h⟩
      | _ => cases h
    | _ => cases h
  · rintro ⟨l, object, property, computed, optional, rfl, rfl⟩
    rfl

theorem isAssignment_eq_false_iff {n : Node} : Rule.isAssignment n = false ↔
    ∀ location operator left right, n ≠ .assignment location operator left right := by
  cases n <;> simp [Rule.isAssignment]

end Node

section Accesses

variable {root : Node} {a : Access}

theorem Access.ofStep?_eq_some_iff {p : Place} {s : Step} : Access.ofStep? p s = some a ↔
    Rule.standsFree (s.parent.map (·.node)) ∧ Rule.accessedName s.node = some a.name ∧ s.node.location = a.location ∧
      p = a.place := by
  rw [ofStep?, Option.ite_none_right_eq_some, Option.map_eq_some_iff]
  refine and_congr_right fun _ => ?_
  constructor
  · rintro ⟨x, name, rfl⟩
    exact ⟨name, rfl, rfl⟩
  · rintro ⟨name, location, rfl⟩
    exact ⟨a.name, name, by rw [location]⟩

theorem mem_accesses : a ∈ root.accesses ↔ a.In root := by
  simp only [Node.accesses, List.mem_filterMap, Option.bind_eq_some_iff, Access.ofStep?_eq_some_iff]
  constructor
  · rintro ⟨p, -, s, here, free, name, location, rfl⟩
    obtain ⟨n, found, rfl⟩ := Option.map_eq_some_iff.mp here
    obtain ⟨l, object, property, computed, optional, rfl, text⟩ := Node.accessedName_eq_some_iff.mp name
    refine ⟨⟨object, property, computed, optional, text, location ▸ found⟩, ?_⟩
    rcases List.eq_nil_or_concat' a.place with top | ⟨above, i, last⟩
    · rw [Node.parentOf?, if_pos top] at free
      cases free
    · rw [last] at found free
      obtain ⟨node, up, -, parent⟩ := Node.parentOf?_append found
      refine ⟨above, i, node, last, up, Node.isAssignment_eq_false_iff.mp ?_⟩
      simpa [Rule.standsFree, parent] using free
  · rintro ⟨⟨object, property, computed, optional, text, found⟩, above, i, node, last, up, other⟩
    have listed : a.place ∈ root.places := by rw [Node.mem_places, found]; rfl
    refine ⟨a.place, listed, _, by rw [Node.stepAt?, found]; rfl, ?_, ?_, rfl, rfl⟩
    · rw [last] at found
      obtain ⟨m, up', -, parent⟩ := Node.parentOf?_append found
      obtain rfl : node = m := Option.some.inj (up.symm.trans up')
      simpa [Rule.standsFree, last, parent] using Node.isAssignment_eq_false_iff.mpr other
    · exact congrArg some text

/-- Each place has at most one access, so none is listed twice. -/
theorem places_accesses (root : Node) : (root.accesses.map (·.place)).Sublist root.places := by
  have here (p : Place) : ((root.stepAt? p).bind (Access.ofStep? p)).map (·.place) =
      Option.guard (fun p => ((root.stepAt? p).bind (Access.ofStep? p)).isSome) p := by
    cases seen : (root.stepAt? p).bind (Access.ofStep? p) with
    | none => simp [Option.guard, seen]
    | some a =>
      obtain ⟨s, -, found⟩ := Option.bind_eq_some_iff.mp seen
      obtain ⟨-, -, -, rfl⟩ := Access.ofStep?_eq_some_iff.mp found
      simp [Option.guard, seen]
  rw [Node.accesses, List.map_filterMap]
  simp only [here]
  rw [List.filterMap_eq_filter]
  exact List.filter_sublist

theorem findingsAt_unsafeMemberAccess (source : String) (p : Place) (s : Step) :
    Rule.unsafeMemberAccess.findingsAt source s =
      (((Access.ofStep? p s).filter fun a => Rule.assignsNull a.name.toList source.toList).map
        Access.finding).toList := by
  have message : Rule.unsafeMemberAccess.message (Rule.unsafeMemberAccess.view source s) =
      (Rule.accessedName s.node).map ("Potential null pointer exception on: " ++ ·) := rfl
  have flags : Rule.unsafeMemberAccess.flags (Rule.unsafeMemberAccess.view source s) =
      some ((Rule.accessedName s.node).any fun x =>
        Rule.standsFree (s.parent.map (·.node)) && Rule.assignsNull x.toList source.toList) := by
    cases name : Rule.accessedName s.node <;> simp [Rule.unsafeMemberAccess, Rule.view, name]
  simp only [Rule.findingsAt, flags, message, Access.ofStep?]
  cases name : Rule.accessedName s.node with
  | none => simp
  | some x =>
    cases free : Rule.standsFree (s.parent.map (·.node)) with
    | false => simp
    | true =>
      cases assigned : Rule.assignsNull x.toList source.toList with
      | false => simp [assigned]
      | true => simp [Option.filter_some, assigned, Access.finding, Rule.unsafeMemberAccess]

/-- The findings of the rule are the accesses to whose object the text assigns `null`. -/
theorem filter_analyze_unsafeMemberAccess {catalog : Catalog}
    (only : (catalog.filter fun r => r.id == Rule.unsafeMemberAccess.id) = [Rule.unsafeMemberAccess])
    (source : String) (root : Node) :
    ((analyze source root catalog).value.filter fun f => f.rule == Rule.unsafeMemberAccess.id) =
      (root.accesses.filter fun a => Rule.assignsNull a.name.toList source.toList).map Access.finding := by
  rw [filter_analyze source root catalog fun id => id == Rule.unsafeMemberAccess.id, only, value_analyze, Node.walk_eq,
    Node.accesses, List.filter_filterMap, List.map_filterMap, List.filterMap_eq_flatMap_toList,
    List.filterMap_eq_flatMap_toList, List.flatMap_assoc]
  congr 1
  funext p
  cases root.stepAt? p with
  | none => rfl
  | some s => simp [findingsAt_unsafeMemberAccess source p s]

end Accesses

/-- The findings on unsafe accesses, in pre-order and one for each node, are at the accesses below a node that is no
assignment, as far as the text can be cut into an assignment of `null` to the name of the object. So accesses to one
name are found together or not at all, and more text around the source only adds findings. -/
theorem unsafe_accesses_exact (root : Node) (source : String) {catalog : Catalog}
    (only : (catalog.filter fun r => r.id == Rule.unsafeMemberAccess.id) = [Rule.unsafeMemberAccess]) :
    let found (text : String) : List Finding :=
      (analyze text root catalog).value.filter fun f => f.rule == Rule.unsafeMemberAccess.id
    (∃ flagged : List Access, found source = flagged.map Access.finding ∧
      (flagged.map (·.place)).Sublist root.places ∧ (flagged.map (·.place)).Nodup ∧
      (∀ a, a ∈ flagged ↔ a.In root ∧ Rule.AssignsNull a.name.toList source.toList) ∧
      ∀ a b, a.In root → b.In root → a.name = b.name → (a ∈ flagged ↔ b ∈ flagged)) ∧
    ∀ before after, (found source).Sublist (found (before ++ source ++ after)) := by
  intro found
  have found_eq (text : String) : found text =
      (root.accesses.filter fun a => Rule.assignsNull a.name.toList text.toList).map Access.finding :=
    filter_analyze_unsafeMemberAccess only text root
  have mem (a : Access) : a ∈ (root.accesses.filter fun a => Rule.assignsNull a.name.toList source.toList) ↔
      a.In root ∧ Rule.AssignsNull a.name.toList source.toList := by
    rw [List.mem_filter, mem_accesses, Rule.assignsNull_iff]
  have ordered (chosen : Access → Bool) : ((root.accesses.filter chosen).map (·.place)).Sublist root.places :=
    (List.filter_sublist.map _).trans (places_accesses root)
  refine ⟨⟨_, found_eq source, ordered _, (Node.nodup_places root).sublist (ordered _), mem, ?_⟩,
    fun before after => ?_⟩
  · intro a b ha hb same
    rw [mem, mem, same]
    exact and_congr_left' (iff_of_true ha hb)
  · rw [found_eq, found_eq]
    refine (List.monotone_filter_right _ fun a assigned => ?_).map _
    rw [Rule.assignsNull_iff] at assigned ⊢
    simpa using assigned.widen before.toList after.toList

/-- The second access is found by its name although the name holds a sign that patterns give a meaning to, and it is
still found if more text follows. -/
theorem unsafe_access_of_sign :
    let place : Location := ⟨⟨2, 1⟩, ⟨2, 9⟩⟩
    let member := Node.member place (.identifier ⟨place, "$el"⟩) (.identifier ⟨place, "hide"⟩) false false
    let root := Node.program place [.assignment place "=" member member, .call place member [] false]
    let found (text : String) : List Finding :=
      (analyze text root Catalog.standard).value.filter fun f => f.rule == Rule.unsafeMemberAccess.id
    (Catalog.standard.filter fun r => r.id == Rule.unsafeMemberAccess.id) = [Rule.unsafeMemberAccess] ∧
    Access.In ⟨[1, 0], place, "$el"⟩ root ∧ ¬ Access.In ⟨[0, 0], place, "$el"⟩ root ∧
    ⟨"unsafe-member-access", "Potential null pointer exception on: $el", 2, 1⟩ ∈ found "$el =\n null;" ∧
    (found "$el =\n null;").Sublist (found ("" ++ "$el =\n null;" ++ " $el.hide()")) := by
  intro place member root found
  have only : (Catalog.standard.filter fun r => r.id == Rule.unsafeMemberAccess.id) = [Rule.unsafeMemberAccess] := rfl
  have held : Access.In ⟨[1, 0], place, "$el"⟩ root := {
    member := ⟨⟨place, "$el"⟩, .identifier ⟨place, "hide"⟩, false, false, rfl, rfl⟩
    parent := ⟨[1], 0, .call place member [] false, rfl, rfl, by simp⟩ }
  have target : ¬ Access.In ⟨[0, 0], place, "$el"⟩ root := by
    rintro ⟨-, above, i, node, last, up, other⟩
    obtain ⟨rfl, -⟩ := List.append_singleton_inj.mp (show [0] ++ [0] = above ++ [i] from last)
    exact other _ _ _ _ (Option.some.inj up).symm
  have assigned : Rule.AssignsNull "$el".toList "$el =\n null;".toList := Rule.assignsNull_iff.mp (by decide)
  obtain ⟨⟨flagged, list, -, -, mem, -⟩, more⟩ := unsafe_accesses_exact root "$el =\n null;" only
  have list : found "$el =\n null;" = flagged.map Access.finding := list
  refine ⟨only, held, target, ?_, more "" " $el.hide()"⟩
  rw [list]
  exact List.mem_map.mpr ⟨_, (mem _).mpr ⟨held, assigned⟩, rfl⟩

end ScriptAudit
