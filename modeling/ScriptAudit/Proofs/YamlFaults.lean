import ScriptAudit.Proofs.YamlTokens
import ScriptAudit.Yaml.Value

namespace ScriptAudit.Yaml

namespace Node

/-! ### Nodes of tokens -/

/-- A defect of form, or a fault that the tokens hold. -/
def ReadFault (tokens : List Token) (f : Fault) : Prop := f = .malformed ∨ .broken f ∈ tokens

/-- Reading leaves only tokens that were there, and it fails by the form or by what the tokens hold. -/
def Reads {α : Type} (m : Read α) : Prop :=
  ∀ s : State, Ends (fun r => r.2.tokens ⊆ s.tokens) (ReadFault s.tokens) (m s)

section Reads

variable {α β : Type}

theorem Reads.bind {m : Read α} {k : α → Read β} (hm : Reads m) (hk : ∀ a, Reads (k a)) : Reads (m >>= k) := by
  intro s
  apply (hm s).bind
  intro r sub
  exact (hk r.1 r.2).mono (fun q inside => List.Subset.trans inside sub) fun f h => h.imp_right (sub ·)

theorem reads_pure (a : α) : Reads (pure a : Read α) := by
  intro s
  exact ends_ok (List.Subset.refl s.tokens)

theorem reads_fail : Reads (Read.fail .malformed : Read α) := by
  intro s
  exact ends_error (.inl rfl)

theorem reads_get : Reads (get : Read State) := by
  intro s
  exact ends_ok (List.Subset.refl s.tokens)

theorem reads_modify {g : State → State} (h : ∀ s, (g s).tokens ⊆ s.tokens) : Reads (modify g : Read Unit) := by
  intro s
  exact ends_ok (h s)

theorem reads_ite {p : Prop} [Decidable p] {x y : Read α} (hx : Reads x) (hy : Reads y) :
    Reads (if p then x else y) := by
  split
  · exact hx
  · exact hy

theorem reads_peek : Reads Read.peek := by
  intro s
  unfold Read.peek
  split
  · exact ends_error (.inl rfl)
  next f _ here => exact ends_error (.inr (by simp [here]))
  · exact ends_ok (List.Subset.refl s.tokens)

theorem reads_drop : Reads Read.drop := reads_modify fun s => List.drop_subset 1 s.tokens

theorem reads_skip (t : Token) : Reads (Read.skip t) := by
  apply reads_peek.bind
  intro next
  apply reads_ite
  · exact reads_drop.bind fun _ => reads_pure true
  · exact reads_pure false

theorem reads_expect (t : Token) : Reads (Read.expect t) := by
  apply (reads_skip t).bind
  intro found
  exact reads_ite reads_fail (reads_pure _)

theorem reads_register (anchor : Option String) : Reads (Read.register anchor) := by
  unfold Read.register
  split
  · exact reads_pure _
  · apply reads_get.bind
    intro s
    exact reads_ite reads_fail (reads_modify fun s => List.Subset.refl s.tokens)

theorem reads_tagUri (handle : Option String) (suffix : String) : Reads (Read.tagUri handle suffix) := by
  unfold Read.tagUri
  split
  · exact reads_pure _
  · apply reads_get.bind
    intro s
    split
    · exact reads_pure _
    · exact reads_fail

theorem reads_properties : Reads Read.properties := by
  apply reads_peek.bind
  intro first
  split
  · apply reads_drop.bind
    intro _
    apply reads_peek.bind
    intro second
    split
    · apply reads_drop.bind
      intro _
      exact (reads_tagUri _ _).bind fun uri => reads_pure _
    · exact reads_pure _
  · apply reads_drop.bind
    intro _
    apply reads_peek.bind
    intro second
    split
    · apply reads_drop.bind
      intro _
      exact (reads_tagUri _ _).bind fun uri => reads_pure _
    · exact (reads_tagUri _ _).bind fun uri => reads_pure _
  · exact reads_pure _

theorem reads_seesAny (choices : List Token) : Reads (seesAny choices) :=
  reads_peek.bind fun _ => reads_pure _

/-- A comma, except in front of what comes first. -/
theorem reads_separator (first : Bool) {k : Unit → Read α} (hk : ∀ u, Reads (k u)) :
    Reads (if !first then Read.expect .flowEntry >>= k else k ()) :=
  reads_ite ((reads_expect .flowEntry).bind hk) (hk ())

/-- All readers of the grammar, with some fuel. -/
structure AllRead (fuel : Nat) : Prop where
  node : ∀ block loose, Reads (read block loose fuel)
  unless_ : ∀ ends block loose, Reads (readUnless ends block loose fuel)
  blockItems : Reads (blockItems fuel)
  looseItems : Reads (looseItems fuel)
  blockEntries : Reads (blockEntries fuel)
  flowItems : ∀ first, Reads (flowItems first fuel)
  flowEntries : ∀ first, Reads (flowEntries first fuel)

section Step

variable {fuel : Nat} (h : AllRead fuel)

include h

theorem AllRead.node_succ (block loose : Bool) : Reads (read block loose (fuel + 1)) := by
  unfold read
  apply reads_peek.bind
  intro next
  split
  · apply reads_drop.bind
    intro _
    apply reads_get.bind
    intro s
    exact reads_ite (reads_pure _) reads_fail
  · apply reads_properties.bind
    rintro ⟨anchor, uri⟩
    apply (reads_register anchor).bind
    intro _
    have bare : Reads (if anchor.isSome || uri.isSome then return .scalar anchor (scalarTag uri true "") ""
        else Read.fail .malformed : Read Node) := reads_ite (reads_pure _) reads_fail
    apply reads_peek.bind
    intro next
    split
    · exact reads_drop.bind fun _ => reads_pure _
    · exact reads_drop.bind fun _ => (h.flowItems true).bind fun items => reads_pure _
    · exact reads_drop.bind fun _ => (h.flowEntries true).bind fun entries => reads_pure _
    · exact reads_ite (h.looseItems.bind fun items => reads_pure _) bare
    · exact reads_ite (reads_drop.bind fun _ => h.blockItems.bind fun items => reads_pure _) bare
    · exact reads_ite (reads_drop.bind fun _ => h.blockEntries.bind fun entries => reads_pure _) bare
    · exact bare

theorem AllRead.unless_succ (ends : List Token) (block loose : Bool) :
    Reads (readUnless ends block loose (fuel + 1)) := by
  unfold readUnless
  apply (reads_seesAny ends).bind
  intro ended
  exact reads_ite (reads_pure _) (h.node block loose)

theorem AllRead.blockItems_succ : Reads (Node.blockItems (fuel + 1)) := by
  unfold Node.blockItems
  apply (reads_skip _).bind
  intro entry
  apply reads_ite
  · exact (h.unless_ _ true false).bind fun item => h.blockItems.bind fun items => reads_pure _
  · exact (reads_expect _).bind fun _ => reads_pure _

theorem AllRead.looseItems_succ : Reads (Node.looseItems (fuel + 1)) := by
  unfold Node.looseItems
  apply (reads_skip _).bind
  intro entry
  apply reads_ite
  · exact (h.unless_ _ true false).bind fun item => h.looseItems.bind fun items => reads_pure _
  · exact reads_pure _

/-- A value, if its mark is there. -/
theorem AllRead.value (ends : List Token) (block loose : Bool) {k : Node → Read α} (hk : ∀ n, Reads (k n)) :
    Reads (do
      let found ← Read.skip .value
      if found then readUnless ends block loose fuel >>= k else pure empty >>= k) := by
  apply (reads_skip .value).bind
  intro found
  exact reads_ite ((h.unless_ ends block loose).bind hk) ((reads_pure empty).bind hk)

theorem AllRead.blockEntries_succ : Reads (Node.blockEntries (fuel + 1)) := by
  unfold Node.blockEntries
  apply (reads_skip _).bind
  intro entry
  apply reads_ite
  · apply (h.unless_ _ true true).bind
    intro key
    exact h.value _ true true fun value => h.blockEntries.bind fun entries => reads_pure _
  · exact (reads_expect _).bind fun _ => reads_pure _

theorem AllRead.flowItems_succ (first : Bool) : Reads (Node.flowItems first (fuel + 1)) := by
  unfold Node.flowItems
  apply (reads_skip _).bind
  intro ended
  apply reads_ite
  · exact reads_pure _
  apply reads_separator first
  intro _
  apply (reads_skip _).bind
  intro pair
  apply reads_ite
  · apply (h.unless_ _ false false).bind
    intro key
    exact h.value _ false false fun value => (h.flowItems false).bind fun items => reads_pure _
  apply (reads_skip _).bind
  intro last
  apply reads_ite
  · exact reads_pure _
  · exact (h.node false false).bind fun item => (h.flowItems false).bind fun items => reads_pure _

theorem AllRead.flowEntries_succ (first : Bool) : Reads (Node.flowEntries first (fuel + 1)) := by
  unfold Node.flowEntries
  apply (reads_skip _).bind
  intro ended
  apply reads_ite
  · exact reads_pure _
  apply reads_separator first
  intro _
  apply (reads_skip _).bind
  intro pair
  apply reads_ite
  · apply (h.unless_ _ false false).bind
    intro key
    exact h.value _ false false fun value => (h.flowEntries false).bind fun entries => reads_pure _
  apply (reads_skip _).bind
  intro last
  apply reads_ite
  · exact reads_pure _
  · exact (h.node false false).bind fun key => (h.flowEntries false).bind fun entries => reads_pure _

end Step

theorem allRead (fuel : Nat) : AllRead fuel := by
  -- The readers call each other with less fuel, so all of them go through one induction.
  induction fuel with
  | zero =>
    exact {
      node := by intro block loose; unfold read; exact reads_fail
      unless_ := by intro ends block loose; unfold readUnless; exact reads_fail
      blockItems := by unfold Node.blockItems; exact reads_fail
      looseItems := by unfold Node.looseItems; exact reads_fail
      blockEntries := by unfold Node.blockEntries; exact reads_fail
      flowItems := by intro first; unfold Node.flowItems; exact reads_fail
      flowEntries := by intro first; unfold Node.flowEntries; exact reads_fail }
  | succ fuel ih =>
    exact {
      node := ih.node_succ
      unless_ := ih.unless_succ
      blockItems := ih.blockItems_succ
      looseItems := ih.looseItems_succ
      blockEntries := ih.blockEntries_succ
      flowItems := ih.flowItems_succ
      flowEntries := ih.flowEntries_succ }

end Reads

theorem directives_ends (versioned : Bool) (handles : List (String × String)) (tokens : List Token) :
    Ends (fun r => r.2 ⊆ tokens) (· = .malformed) (directives versioned handles tokens) := by
  fun_induction directives versioned handles tokens with
  | case1 => exact ends_error rfl
  | case2 versioned handles major minor rest _ ih =>
    exact ih.mono (fun r inside => List.subset_cons_of_subset _ inside) fun _ same => same
  | case3 => exact ends_error rfl
  | case4 versioned handles h uri rest _ ih =>
    exact ih.mono (fun r inside => List.subset_cons_of_subset _ inside) fun _ same => same
  | case5 versioned handles rest ih =>
    exact ih.mono (fun r inside => List.subset_cons_of_subset _ inside) fun _ same => same
  | case6 versioned handles rest => exact ends_ok (List.Subset.refl rest)

theorem finish_ends (tokens : List Token) : Ends (fun _ => True) (ReadFault tokens) (finish tokens) := by
  fun_induction finish tokens with
  | case1 rest ih => exact ih.mono (fun _ _ => trivial) fun f h => h.imp_right (List.mem_cons_of_mem _)
  | case2 => exact ends_ok trivial
  | case3 f rest => exact ends_error (.inr List.mem_cons_self)
  | case4 => exact ends_error (.inl rfl)

/-- The nodes of some tokens fail by the form or by what the tokens hold. -/
theorem document_ends (tokens : List Token) : Ends (fun _ => True) (ReadFault tokens) (document tokens) := by
  have root {reader : Read Node} (reads : Reads reader) (handles : List (String × String)) {rest : List Token}
      (inside : rest ⊆ tokens) : Ends (fun _ => True) (ReadFault tokens)
        (reader.run ⟨rest, [], handles⟩ >>= fun r => finish r.2.tokens >>= fun _ => pure (some r.1)) := by
    have read := (reads ⟨rest, [], handles⟩).mono (fun _ sub => List.Subset.trans sub inside)
      fun f (h : ReadFault rest f) => (h.imp_right (inside ·) : ReadFault tokens f)
    apply read.bind
    intro r sub
    have finished := (finish_ends r.2.tokens).mono (fun _ _ => trivial)
      fun f (h : ReadFault r.2.tokens f) => (h.imp_right (sub ·) : ReadFault tokens f)
    exact finished.bind fun _ _ => ends_ok trivial
  have node : Reads (read true false (4 * tokens.length + 4)) := (allRead _).node true false
  have declared := (directives_ends false [] tokens).mono (fun _ inside => inside)
    fun f same => (.inl same : ReadFault tokens f)
  unfold document
  split
  case h_1 => exact ends_ok trivial
  case h_2 | h_3 =>
    apply declared.bind
    rintro ⟨handles, rest⟩ inside
    split
    next rest same =>
      obtain ⟨rfl, rfl⟩ := Prod.mk.inj same
      exact root (reads_ite (reads_pure _) node) _ (List.subset_of_cons_subset inside)
    next f _ same =>
      obtain ⟨rfl, rfl⟩ := Prod.mk.inj same
      exact ends_error (.inr (inside List.mem_cons_self))
    next => exact ends_error (.inl rfl)
  case h_4 => exact root node _ (List.Subset.refl _)

/-! ### Values of nodes -/

/-- A node is another one or stands somewhere below it. -/
inductive Part : Node → Node → Prop
  | self (n : Node) : Part n n
  | item {m n : Node} {anchor : Option String} {tag : Tag} {items : List Node} (mem : n ∈ items) (part : Part m n) :
    Part m (.sequence anchor tag items)
  | key {m : Node} {e : Node × Node} {anchor : Option String} {tag : Tag} {entries : List (Node × Node)}
    (mem : e ∈ entries) (part : Part m e.1) : Part m (.mapping anchor tag entries)
  | value {m : Node} {e : Node × Node} {anchor : Option String} {tag : Tag} {entries : List (Node × Node)}
    (mem : e ∈ entries) (part : Part m e.2) : Part m (.mapping anchor tag entries)

theorem Part.trans {a b c : Node} (h : Part a b) (k : Part b c) : Part a c := by
  induction k with
  | self => exact h
  | item mem _ ih => exact .item mem ih
  | key mem _ ih => exact .key mem ih
  | value mem _ ih => exact .value mem ih

theorem part_of_mem_anchored {root n : Node} {name : String} (h : (name, n) ∈ root.anchored) : Part n root := by
  induction root using anchored.induct with
  | case1 => simp [anchored] at h
  | case2 anchor tag text =>
    rw [anchored, List.mem_map] at h
    obtain ⟨a, -, same⟩ := h
    cases same
    exact .self _
  | case3 anchor tag items ih =>
    rw [anchored, List.mem_append, List.mem_map, List.mem_flatMap] at h
    rcases h with ⟨a, -, same⟩ | ⟨⟨m, mem⟩, -, below⟩
    · cases same
      exact .self _
    · exact .item mem (ih m mem below)
  | case4 anchor tag entries ihKey ihValue =>
    rw [anchored, List.mem_append, List.mem_map, List.mem_flatMap] at h
    rcases h with ⟨a, -, same⟩ | ⟨⟨e, mem⟩, -, below⟩
    · cases same
      exact .self _
    rcases List.mem_append.mp below with first | second
    · exact .key mem (ihKey e mem first)
    · exact .value mem (ihValue e mem second)

theorem bytesValue_ends (s : List Char) : OnlyMalformed (bytesValue s) := by
  unfold bytesValue
  split
  · split
    · exact ends_ok trivial
    · exact ends_error rfl
  · exact ends_error rfl

/-- Only a boolean, a number or a time can be written in a way that has no value. -/
theorem tag_of_scalarValue {tag : Tag} {text : String} {f : Fault} (h : scalarValue tag text = .error f)
    (other : f ≠ .malformed) : tag ∈ [Tag.bool, .int, .float, .time] := by
  have malformed {x : Except Fault Scalar} (ends : OnlyMalformed x) (same : x = .error f) : False :=
    other (ends.fault f same)
  unfold scalarValue at h
  split at h
  case h_2 | h_3 | h_4 | h_6 => decide
  case h_1 | h_7 => cases h
  case h_5 => exact (malformed ((bytesValue_ends _).map fun _ _ => trivial) h).elim
  case h_8 => exact (malformed (ends_error rfl) h).elim

/-- A node of the document stands for a boolean, a number or a time that its text does not write, or for its own
text. -/
def Valueless (root : Node) (f : Fault) : Prop :=
  ∃ m tag fuel, Part m root ∧ m.tag? = some tag ∧ (tag ∈ [Tag.bool, .int, .float, .time] ∨ f = .endless) ∧
    scalarOf root.anchored fuel tag m = .error f

/-- What may be wrong with the values of a document. -/
def ValueFault (root : Node) (f : Fault) : Prop := f = .malformed ∨ root.Valueless f

section Values

variable {root : Node}

theorem part_of_lookup {name : String} {n : Node} (h : root.anchored.lookup name = some n) : Part n root := by
  obtain ⟨before, behind, all, -⟩ := List.lookup_eq_some_iff.mp h
  have mem : (name, n) ∈ root.anchored := by
    rw [all]
    simp
  exact part_of_mem_anchored mem

/-- An alias stands for a node of the document too. -/
theorem part_of_target {n m : Node} (h : Part n root) (same : n.target root.anchored = m) (given : m ≠ empty) :
    Part m root := by
  unfold target at same
  split at same
  next name =>
    cases found : root.anchored.lookup name with
    | none => exact absurd (by rw [← same, found]; rfl) given
    | some k =>
      rw [found, Option.getD_some] at same
      rw [← same]
      exact part_of_lookup found
  next => rwa [← same]

theorem Part.of_mem_sequence {anchor : Option String} {tag : Tag} {items : List Node}
    (h : Part (.sequence anchor tag items) root) : ∀ n ∈ items, Part n root := by
  intro n mem
  have part : Part n (.sequence anchor tag items) := .item mem (.self n)
  exact part.trans h

theorem Part.of_mem_mapping {anchor : Option String} {tag : Tag} {entries : List (Node × Node)}
    (h : Part (.mapping anchor tag entries) root) : ∀ e ∈ entries, Part e.1 root ∧ Part e.2 root := by
  intro e mem
  have key : Part e.1 (.mapping anchor tag entries) := .key mem (.self e.1)
  have value : Part e.2 (.mapping anchor tag entries) := .value mem (.self e.2)
  exact ⟨key.trans h, value.trans h⟩

/-- A node of the document, up to the type of a key. -/
def Known (root n : Node) : Prop := ∃ m, Part m root ∧ (n = m ∨ n = m.plainKey)

/-- Entries whose values are nodes of the document, and whose keys are so up to their type. -/
def Entries (root : Node) (entries : List (Node × Node)) : Prop := ∀ e ∈ entries, Known root e.1 ∧ Part e.2 root

theorem entries_of_parts {entries : List (Node × Node)} (h : ∀ e ∈ entries, Part e.1 root ∧ Part e.2 root) :
    Entries root entries := by
  intro e mem
  obtain ⟨key, value⟩ := h e mem
  exact ⟨⟨e.1, key, .inl rfl⟩, value⟩

theorem entries_flatten {all : List (List (Node × Node))} (h : ∀ entries ∈ all, Entries root entries) :
    Entries root all.flatten := by
  intro e mem
  obtain ⟨entries, one, here⟩ := List.mem_flatten.mp mem
  exact h entries one e here

theorem flatten_ends {entries : List (Node × Node)} (h : ∀ e ∈ entries, Part e.1 root ∧ Part e.2 root)
    (seen : List String) (fuel : Nat) :
    Ends (Entries root) (· = .malformed) (flatten root.anchored seen fuel entries) := by
  have own {all : List (Node × Node)} (parts : ∀ e ∈ all, Part e.1 root ∧ Part e.2 root) (p : Node × Node → Bool) :
      ∀ e ∈ all.filter p, Part e.1 root ∧ Part e.2 root :=
    fun e mem => parts e (List.mem_filter.mp mem).1
  induction fuel generalizing entries seen with
  | zero => exact ends_ok (entries_of_parts (own h _))
  | succ fuel ih =>
    unfold flatten
    extract_lets entriesOf
    -- What is merged is a mapping of the document too, under an alias or in its place.
    have inner {n : Node} (part : Part n root) : Ends (Entries root) (· = .malformed) (entriesOf n) := by
      dsimp only [entriesOf]
      split
      next name _ _ entries same =>
        have parts := (part_of_target part same (by simp [empty])).of_mem_mapping
        apply ends_ite
        · intro _
          exact ends_ok (entries_of_parts (own parts _))
        · intro _
          exact ih parts _
      next n _ _ entries _ same =>
        exact ih (part_of_target part same (by simp [empty])).of_mem_mapping _
      next => exact ends_error rfl
    have merged : ∀ all : List (List (Node × Node)), (∀ entries ∈ all, Entries root entries) →
        Entries root (all.flatten ++ (entries.filter (!merges root.anchored ·)).map fun e => (e.1.plainKey, e.2)) := by
      intro all each e mem
      rcases List.mem_append.mp mem with other | mine
      · exact entries_flatten each e other
      obtain ⟨e', mem', rfl⟩ := List.mem_map.mp mine
      obtain ⟨key, value⟩ := own h _ e' mem'
      exact ⟨⟨e'.1, key, .inr rfl⟩, value⟩
    apply Ends.bind (P := fun all => ∀ entries ∈ all, Entries root entries)
    · apply Ends.mapM
      intro e mem
      have part : Part e.2 root := (own h _ e mem).2
      split
      next items same =>
        have parts := (part_of_target part same (by simp [empty])).of_mem_sequence
        apply (Ends.mapM fun n mem => inner (parts n mem)).bind
        intro all each
        apply ends_ok
        apply entries_flatten
        intro entries mem
        exact each entries (List.mem_reverse.mp mem)
      next => exact inner part
    · intro all each
      exact ends_ok (merged all each)

/-- A key of the type of a text is a value. -/
theorem value_plainKey_ends {n : Node} {fuel : Nat}
    (h : Ends (fun _ => True) (ValueFault root) (value root.anchored fuel n)) :
    Ends (fun _ => True) (ValueFault root) (value root.anchored fuel n.plainKey) := by
  unfold plainKey
  split
  next anchor text =>
    cases fuel with
    | zero => exact ends_error (.inl rfl)
    | succ fuel => exact ends_ok trivial
  next => exact h

theorem text_ends (env : List (String × Node)) (fuel : Nat) (n : Node) :
    Ends (fun _ => True) (fun f => f = .malformed ∨ f = .endless) (text env fuel n) := by
  induction fuel generalizing n with
  | zero => exact ends_error (.inr rfl)
  | succ fuel ih =>
    unfold text
    split
    · exact ends_ok trivial
    · split
      · exact ih _
      · exact ends_error (.inl rfl)
    · exact ends_error (.inl rfl)

theorem scalarOf_scalar (env : List (String × Node)) (anchor : Option String) (tag : Tag) (text : String) :
    scalarOf env 1 tag (.scalar anchor tag text) = scalarValue tag text := by
  cases tag <;> rfl

/-- A scalar that has no value is a boolean, a number or a time, or it stands for itself. -/
theorem scalarOf_fault {env : List (String × Node)} {fuel : Nat} {tag : Tag} {m : Node} {f : Fault}
    (h : scalarOf env fuel tag m = .error f) (other : f ≠ .malformed) :
    tag ∈ [Tag.bool, .int, .float, .time] ∨ f = .endless := by
  unfold scalarOf at h
  split at h
  · cases found : text env fuel m with
    | error g =>
      rw [found] at h
      cases h
      exact .inr (((text_ends env fuel m).fault f found).resolve_left other)
    | ok text =>
      rw [found] at h
      change (if (tag == .time && m.isMapping) = true then .error .notText else scalarValue tag text) = .error f at h
      split at h
      next mapped =>
        have time : tag = .time := beq_iff_eq.mp (Bool.and_eq_true_iff.mp mapped).1
        rw [time]
        exact .inl (by decide)
      next => exact .inl (tag_of_scalarValue h other)
  · cases h
    exact absurd rfl other

theorem scalarOf_ends {m : Node} {tag : Tag} (part : Part m root) (ofTag : m.tag? = some tag) (fuel : Nat) :
    Ends (fun _ => True) (ValueFault root) (scalarOf root.anchored fuel tag m) := by
  cases found : scalarOf root.anchored fuel tag m with
  | ok => exact ends_ok trivial
  | error f =>
    apply ends_error
    by_cases malformed : f = .malformed
    · exact .inl malformed
    · exact .inr ⟨m, tag, fuel, part, ofTag, scalarOf_fault found malformed, found⟩

theorem scalarValue_ends {anchor : Option String} {tag : Tag} {text : String}
    (part : Part (.scalar anchor tag text) root) :
    Ends (fun _ => True) (ValueFault root) (scalarValue tag text) := by
  rw [← scalarOf_scalar root.anchored anchor]
  exact scalarOf_ends part rfl 1

theorem value_ends {n : Node} (part : Part n root) (fuel : Nat) :
    Ends (fun _ => True) (ValueFault root) (value root.anchored fuel n) := by
  induction fuel generalizing n with
  | zero => exact ends_error (.inl rfl)
  | succ fuel ih =>
    unfold value
    extract_lets entriesOf
    have inner {entries : List (Node × Node)} (parts : ∀ e ∈ entries, Part e.1 root ∧ Part e.2 root) :
        Ends (fun _ => True) (ValueFault root) (entriesOf entries) := by
      apply ((flatten_ends parts [] (fuel + 1)).mono (fun _ h => h) fun _ h => .inl h).bind
      intro flat parts'
      apply Ends.foldlM trivial
      intro done e _ mem
      -- Flattening changes the type of some keys, so a key need not be a node of the document itself.
      obtain ⟨⟨m, key, same⟩, value⟩ := parts' e mem
      have keyEnds : Ends (fun _ => True) (ValueFault root) (Node.value root.anchored fuel e.1) := by
        rcases same with same | same <;> rw [same]
        · exact ih key
        · exact value_plainKey_ends (ih key)
      apply keyEnds.bind
      intro v _
      split
      next => exact (ih value).bind_pure
      next => exact ends_error (.inl rfl)
    split
    next name =>
      split
      next anchor tag text found => exact (scalarValue_ends (part_of_lookup found)).bind_pure
      next => exact ends_ok trivial
    next anchor tag text => exact (scalarValue_ends part).bind_pure
    next anchor tag items =>
      split
      next => exact (Ends.mapM fun m mem => ih (part.of_mem_sequence m mem)).bind_pure
      next =>
        apply (Ends.mapM (Q := fun _ => True) ?_).bind_pure
        intro m mem
        split
        next key value same =>
          have whole := part_of_target (part.of_mem_sequence m mem) same (by simp [empty])
          obtain ⟨partKey, partValue⟩ := whole.of_mem_mapping _ (List.mem_singleton_self _)
          apply (ih partKey).bind
          intro _ _
          exact (ih partValue).bind_pure
        next => exact ends_error (.inl rfl)
      next => exact ends_error (.inl rfl)
    next anchor tag entries =>
      split
      next => exact (inner part.of_mem_mapping).bind_pure
      next => exact (inner part.of_mem_mapping).bind_pure
      next => exact (scalarOf_ends part rfl _).bind_pure

/-! ### The order of building -/

/-- The step is about a node of the document, or the document is malformed. -/
def Step.Within (root : Node) : Step → Prop
  | part n => Part n root
  | key n => Known root n
  | wrong f => f = .malformed

theorem steps_within {n : Node} (part : Part n root) (fuel : Nat) :
    ∀ s ∈ n.steps root.anchored fuel, s.Within root := by
  have malformed : ∀ s ∈ [Step.wrong .malformed], s.Within root := List.forall_mem_singleton.mpr rfl
  unfold steps
  split
  next anchor items =>
    rw [List.forall_mem_map]
    exact part.of_mem_sequence
  next anchor items =>
    rw [List.forall_mem_flatMap]
    intro i mem
    split
    next key value same =>
      have whole := part_of_target (part.of_mem_sequence i mem) same (by simp [empty])
      obtain ⟨first, second⟩ := whole.of_mem_mapping _ (List.mem_singleton_self _)
      exact List.forall_mem_cons.mpr ⟨first, List.forall_mem_singleton.mpr second⟩
    next => exact malformed
  next anchor tag entries =>
    split
    · have flattens := flatten_ends part.of_mem_mapping [] fuel
      split
      next flat same =>
        rw [List.forall_mem_flatMap]
        intro e mem
        obtain ⟨key, value⟩ := flattens.result flat same e mem
        exact List.forall_mem_cons.mpr ⟨key, List.forall_mem_singleton.mpr value⟩
      next f same => exact List.forall_mem_singleton.mpr (flattens.fault f same)
    · exact malformed
  next => exact malformed

/-- What is left for later is a node of the document. -/
theorem start_ends {n : Node} (part : Part n root) (fuel : Nat) :
    Ends (fun later => ∀ m ∈ later.toList, Part m root) (ValueFault root) (start root.anchored (fuel + 1) n) := by
  have nothing : ∀ m ∈ (none : Option Node).toList, Part m root := List.forall_mem_nil _
  unfold start
  dsimp only
  by_cases bare : n.target root.anchored = empty
  · rw [bare]
    exact ends_ok nothing
  have target := part_of_target part rfl bare
  split
  next => exact ends_error (.inl rfl)
  next tag ofTag =>
    split
    · exact ends_ok (List.forall_mem_singleton.mpr target)
    · exact (scalarOf_ends target ofTag _).map fun _ _ => nothing

theorem start_known_ends {n : Node} (known : Known root n) (fuel : Nat) :
    Ends (fun _ => True) (ValueFault root) (start root.anchored (fuel + 1) n) := by
  obtain ⟨m, part, same⟩ := known
  have own := (start_ends part fuel).mono (fun _ _ => trivial) fun _ h => h
  rcases same with rfl | rfl
  · exact own
  · unfold plainKey
    split
    · exact ends_ok trivial
    · exact own

theorem take_ends {all : List Step} (within : ∀ s ∈ all, s.Within root) (fuel : Nat) :
    Ends (fun later => ∀ m ∈ later, Part m root) (ValueFault root) (take root.anchored (fuel + 1) all) := by
  induction all with
  | nil => exact ends_ok (List.forall_mem_nil _)
  | cons s rest ih =>
    rw [List.forall_mem_cons] at within
    have others := ih within.2
    cases s with
    | wrong f => exact ends_error (.inl within.1)
    | part n =>
      apply (start_ends within.1 fuel).bind
      intro later first
      apply others.bind
      intro more behind
      exact ends_ok (List.forall_mem_append.mpr ⟨first, behind⟩)
    | key n =>
      apply (start_known_ends within.1 fuel).bind
      intro later _
      cases later with
      | some m => exact ends_error (.inl rfl)
      | none => exact others

theorem fresh_subset (begun : List String) (all : List Node) : (fresh begun all).1 ⊆ all := by
  induction all generalizing begun with
  | nil => exact List.Subset.refl _
  | cons n rest ih =>
    rw [fresh]
    split
    · exact List.cons_subset_cons n (ih begun)
    · split
      · exact List.subset_cons_of_subset n (ih begun)
      · exact List.cons_subset_cons n (ih _)

theorem buildAll_ends (fuel rounds : Nat) (begun : List String) {now : List Node} (parts : ∀ n ∈ now, Part n root) :
    Ends (fun _ => True) (ValueFault root) (buildAll root.anchored (fuel + 1) rounds begun now) := by
  induction rounds generalizing begun now with
  | zero => exact ends_ok trivial
  | succ rounds ih =>
    cases now with
    | nil => exact ends_ok trivial
    | cons n rest =>
      apply (Ends.mapM fun m mem => take_ends (steps_within (parts m mem) _) fuel).bind
      intro left each
      apply ih
      intro m mem
      obtain ⟨part, one, here⟩ := List.mem_flatten.mp (fresh_subset _ _ mem)
      exact each part one m here

theorem build_ends (root : Node) (fuel : Nat) :
    Ends (fun _ => True) (ValueFault root) (build root.anchored (fuel + 1) root) := by
  apply (start_ends (.self root) fuel).bind
  intro later parts
  exact buildAll_ends fuel _ _ fun n mem => parts n (fresh_subset _ _ mem)

end Values

end Node

/-- A text that is no document is not of the format, or has an escape that no character has, or a scalar in it has no
value. -/
theorem Document.fault_of_ofText {s : List Char} {f : Fault} (h : Document.ofText s = .error f) :
    TokenFault s f ∨ ∃ root, Node.document (tokens s) = .ok (some root) ∧ root.Valueless f := by
  unfold Document.ofText at h
  dsimp only at h
  cases read : Node.document (tokens s) with
  | error g =>
    rw [read] at h
    cases h
    rcases (Node.document_ends _).fault f read with malformed | broken
    · exact .inl (.inl malformed)
    · exact .inl (tokenFault_of_mem_tokens broken)
  | ok result =>
    rw [read] at h
    cases result with
    | none => cases h
    | some root =>
      have fault : root.ValueFault f := by
        refine Ends.fault (P := fun _ => True) ?_ f h
        apply (Node.build_ends root _).bind
        intro _ _
        apply (Node.value_ends (.self root) _).bind
        intro value _
        apply (Ends.mapM (Q := fun _ => True) ?_).bind_pure
        rintro ⟨name, n⟩ mem
        exact (Node.value_ends (Node.part_of_mem_anchored mem) _).bind_pure
      rcases fault with malformed | valueless
      · exact .inl (.inl malformed)
      · exact .inr ⟨root, rfl, valueless⟩

end ScriptAudit.Yaml
