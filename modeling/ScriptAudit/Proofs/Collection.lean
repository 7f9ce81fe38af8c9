import Mathlib.Data.List.Lex
import Mathlib.Data.List.Sort
import Mathlib.Data.Prod.Lex
import Mathlib.Data.String.Basic
import ScriptAudit.Proofs.Listings
import ScriptAudit.Proofs.TextPlaces
import ScriptAudit.Scan.Collect

namespace ScriptAudit

namespace Text

theorem mem_rests {α : Type} {s rest : List α} : rest ∈ rests s ↔ rest <:+ s := by
  induction s with
  | nil => rw [rests, List.mem_singleton, List.suffix_nil]
  | cons a s ih => rw [rests, List.mem_cons, ih, List.suffix_cons_iff]

theorem occurs_iff {part s : List Char} : occurs part s = true ↔ part <:+: s := by
  simp only [occurs, List.any_eq_true, mem_rests, List.isPrefixOf_iff_prefix]
  rw [List.infix_iff_prefix_suffix]
  exact exists_congr fun rest => And.comm

end Text

namespace Path

section Suffix

variable {name tail : List Char}

theorem suffix_of_not_mem (h : '.' ∉ name) : suffix name = [] := by
  have all : name.reverse.takeWhile (· != '.') = name.reverse := by
    rw [List.takeWhile_eq_self_iff]
    intro c mem
    rw [bne_iff_ne]
    rintro rfl
    exact h (List.mem_reverse.mp mem)
  simp [suffix, all]

theorem suffix_append (stem : List Char) (h : '.' ∉ tail) :
    suffix (stem ++ '.' :: tail) = if stem = [] ∨ tail = [] then [] else '.' :: tail := by
  have last : (stem ++ '.' :: tail).reverse.takeWhile (· != '.') = tail.reverse := by
    rw [List.reverse_append, List.reverse_cons, List.append_assoc, List.takeWhile_append_of_pos]
    · simp
    · intro c mem
      rw [bne_iff_ne]
      rintro rfl
      exact h (List.mem_reverse.mp mem)
  have size : stem.length + (tail.length + 1) - tail.length ≤ 1 ↔ stem = [] := by
    rw [← List.length_eq_zero_iff]
    omega
  simp only [suffix, last, List.reverse_reverse, List.length_append, List.length_cons, List.isEmpty_iff,
    Bool.or_eq_true, decide_eq_true_eq, size, or_comm]

theorem exists_last_point (h : '.' ∈ name) : ∃ stem tail, name = stem ++ '.' :: tail ∧ '.' ∉ tail := by
  obtain ⟨a, b, eq, plain⟩ := List.eq_append_cons_of_mem (List.mem_reverse.mpr h)
  refine ⟨b.reverse, a.reverse, ?_, fun mem => plain (List.mem_reverse.mp mem)⟩
  rw [← List.reverse_reverse name, eq, List.reverse_append, List.reverse_cons, List.append_assoc]
  rfl

end Suffix

theorem baseName_of_noSlash {name : List Char} (noSlash : '/' ∉ name) : baseName name = name := by
  rw [baseName, pieces, Text.splitOn_of_not_mem noSlash]
  rfl

/-- The name of a script: what stands from its last point on, in lower case, is a known suffix, and something
stands before it. -/
def ScriptName (name : String) : Prop :=
  ∃ stem tail : List Char, name.toList = stem ++ '.' :: tail ∧ stem ≠ [] ∧ tail ≠ [] ∧ '.' ∉ tail ∧
    String.ofList (Text.lower ('.' :: tail)) ∈ scriptSuffixes

/-- The name of a generated file: in lower case it holds one of the marks. -/
def GeneratedName (name : String) : Prop := ∃ mark ∈ generatedMarks, mark.toList <:+: Text.lower name.toList

theorem isScript_iff {name : String} (noSlash : '/' ∉ name.toList) :
    isScript name.toList = true ↔ ScriptName name := by
  have known (s : List Char) :
      (scriptSuffixes.any fun x => x.toList == s) = true ↔ String.ofList s ∈ scriptSuffixes := by
    simp only [List.any_eq_true, beq_iff_eq]
    constructor
    · rintro ⟨x, mem, rfl⟩
      rwa [String.ofList_toList]
    · intro mem
      exact ⟨_, mem, String.toList_ofList⟩
  rw [isScript, baseName_of_noSlash noSlash, known]
  constructor
  · intro mem
    by_cases point : '.' ∈ name.toList
    · obtain ⟨stem, tail, eq, plain⟩ := exists_last_point point
      rw [eq, suffix_append stem plain] at mem
      split_ifs at mem with none
      · exact absurd mem (by decide)
      · exact ⟨stem, tail, eq, fun h => none (.inl h), fun h => none (.inr h), plain, mem⟩
    · rw [suffix_of_not_mem point] at mem
      exact absurd mem (by decide)
  · rintro ⟨stem, tail, eq, hasStem, hasTail, plain, mem⟩
    rwa [eq, suffix_append stem plain, if_neg (not_or.mpr ⟨hasStem, hasTail⟩)]

theorem isGenerated_iff {name : String} (noSlash : '/' ∉ name.toList) :
    isGenerated name.toList = true ↔ GeneratedName name := by
  simp only [isGenerated, baseName_of_noSlash noSlash, List.any_eq_true, Text.occurs_iff, GeneratedName]

/-- The path with a slash at its end, unless it is empty. -/
def slashed (p : List Char) : List Char := if p.isEmpty || p.getLast? == some '/' then p else p ++ ['/']

theorem join_eq (p : List Char) {name : List Char} (noSlash : '/' ∉ name) : join p name = slashed p ++ name := by
  have relative : isAbsolute name = false := by
    cases name with
    | nil => rfl
    | cons c rest =>
      have first : c ≠ '/' := fun h => noSlash (h ▸ List.mem_cons_self)
      simpa [isAbsolute] using first
  rw [join, slashed, relative]
  split_ifs <;> simp_all

theorem slashed_join (p : List Char) {name : List Char} (nonempty : name ≠ []) (noSlash : '/' ∉ name) :
    slashed (join p name) = join p name ++ ['/'] := by
  have last : (join p name).getLast? ≠ some '/' := by
    rw [join_eq p noSlash, List.getLast?_append_of_ne_nil _ nonempty]
    exact fun h => noSlash (List.mem_of_getLast? h)
  have some : join p name ≠ [] := by
    rw [join_eq p noSlash]
    exact List.append_ne_nil_of_right_ne_nil _ nonempty
  rw [slashed, if_neg]
  simp [last, some]

theorem pieces_slashed (p : List Char) : ∃ front, pieces (slashed p) = front ++ [[]] := by
  have ends : slashed p = [] ∨ ∃ s, slashed p = s ++ ['/'] := by
    rw [slashed]
    split_ifs with closed
    · rw [Bool.or_eq_true, List.isEmpty_iff, beq_iff_eq] at closed
      exact closed.imp id fun last => List.getLast?_eq_some_iff.mp last
    · exact .inr ⟨p, rfl⟩
  obtain empty | ⟨s, eq⟩ := ends
  · exact ⟨[], by rw [empty]; rfl⟩
  · exact ⟨pieces s, by rw [eq, pieces, Text.splitOn_append_mark]; rfl⟩

/-- The path that some names lead to. -/
def joinAll (base : List Char) (names : List String) : List Char := names.foldl (fun p n => join p n.toList) base

theorem pieces_joinAll {base : List Char} {front : List (List Char)} (h : pieces (slashed base) = front ++ [[]])
    {names : List String} (plain : ∀ n ∈ names, Entry.PlainName n) :
    pieces (slashed (joinAll base names)) = front ++ names.map (·.toList) ++ [[]] := by
  induction names generalizing base front with
  | nil => rw [List.map_nil, List.append_nil, ← h]; rfl
  | cons n rest ih =>
    obtain ⟨⟨nonempty, noSlash⟩, plain⟩ := List.forall_mem_cons.mp plain
    have step : pieces (slashed (join base n.toList)) = front ++ [n.toList] ++ [[]] := by
      rw [slashed_join base nonempty noSlash, join_eq base noSlash, pieces, Text.splitOn_append_mark,
        Text.splitOn_append h (Text.splitOn_of_not_mem noSlash)]
      rfl
    rw [List.map_cons, List.append_cons front]
    exact ih step plain

theorem joinAll_injective (base : List Char) {names others : List String}
    (plain : ∀ n ∈ names, Entry.PlainName n) (plain' : ∀ n ∈ others, Entry.PlainName n)
    (same : joinAll base names = joinAll base others) : names = others := by
  obtain ⟨front, h⟩ := pieces_slashed base
  have pieces := pieces_joinAll h plain
  rw [same, pieces_joinAll h plain', List.append_left_inj, List.append_right_inj] at pieces
  exact (List.map_injective_iff.mpr fun _ _ => String.toList_injective) pieces.symm

end Path

namespace Scan

/-- The way from a directory down to an entry: the directories it enters, and the name there. -/
structure Way where
  directories : List String
  name : String
deriving DecidableEq

namespace Way

def names (w : Way) : List String := w.directories ++ [w.name]

def path (base : List Char) (w : Way) : List Char := Path.joinAll base w.names

theorem names_injective {v w : Way} (h : v.names = w.names) : v = w := by
  cases v
  cases w
  obtain ⟨rfl, last⟩ := List.append_inj' h rfl
  cases last
  rfl

/-- The way that enters one more directory first. -/
def under (directory : String) (w : Way) : Way := ⟨directory :: w.directories, w.name⟩

theorem under_inj {d d' : String} {v w : Way} (h : v.under d = w.under d') : d = d' ∧ v = w := by
  cases v
  cases w
  cases h
  exact ⟨rfl, rfl⟩

/-- The order of a scan. In one directory files come by name; they come before all that is further down, and
directories come by name. -/
inductive Before : Way → Way → Prop
  | name (common : List String) {a b : String} (h : a < b) : Before ⟨common, a⟩ ⟨common, b⟩
  | above (common : List String) {below : List String} {directory a b : String} :
      Before ⟨common, a⟩ ⟨common ++ directory :: below, b⟩
  | directory (common : List String) {below below' : List String} {d d' a b : String} (h : d < d') :
      Before ⟨common ++ d :: below, a⟩ ⟨common ++ d' :: below', b⟩

theorem Before.under {a b : Way} (h : Before a b) (directory : String) :
    Before (a.under directory) (b.under directory) := by
  cases h with
  | name common h => exact .name _ h
  | above common => exact .above (directory :: common)
  | directory common h => exact .directory (directory :: common) h

/-- The names of a way with a mark for those of directories. -/
def key (w : Way) : List (Bool ×ₗ String) :=
  w.directories.map (fun d => toLex (true, d)) ++ [toLex (false, w.name)]

theorem Before.key_lt {a b : Way} (h : Before a b) : a.key < b.key := by
  cases h with
  | name common h =>
    apply List.append_left_lt
    rw [List.cons_lt_cons_iff, Prod.Lex.toLex_lt_toLex]
    exact .inl (.inr ⟨rfl, h⟩)
  | above common =>
    rw [key, key, List.map_append, List.append_assoc]
    apply List.append_left_lt
    rw [List.map_cons, List.cons_append, List.cons_lt_cons_iff, Prod.Lex.toLex_lt_toLex]
    exact .inl (.inl Bool.false_lt_true)
  | directory common h =>
    rw [key, key, List.map_append, List.map_append, List.append_assoc, List.append_assoc]
    apply List.append_left_lt
    rw [List.map_cons, List.map_cons, List.cons_append, List.cons_append, List.cons_lt_cons_iff,
      Prod.Lex.toLex_lt_toLex]
    exact .inl (.inr ⟨rfl, h⟩)

theorem eq_of_mem_iff {a b : List Way} (ha : a.Pairwise Before) (hb : b.Pairwise Before)
    (same : ∀ w, w ∈ a ↔ w ∈ b) : a = b := by
  have antisymm : Std.Antisymm Before := ⟨fun _ _ h h' => absurd h.key_lt (lt_asymm h'.key_lt)⟩
  have irrefl : Std.Irrefl Before := ⟨fun _ h => lt_irrefl _ h.key_lt⟩
  exact ha.eq_of_mem_iff hb same

end Way

theorem nameLe_iff {a b : String} : nameLe a b = true ↔ a ≤ b := by
  rw [nameLe, Bool.not_eq_true', decide_eq_false_iff_not, not_lt]

/-- What has distinct keys is in strict order once it is sorted. -/
theorem ascending_mergeSort {α : Type} (key : α → String) {l : List α} (distinct : (l.map key).Nodup) :
    (l.mergeSort fun a b => nameLe (key a) (key b)).Pairwise fun a b => key a < key b := by
  let le (a b : α) : Bool := nameLe (key a) (key b)
  have sorted : (l.mergeSort le).Pairwise fun a b => le a b = true := by
    apply List.pairwise_mergeSort
    · intro a b c
      simp only [le, nameLe_iff]
      exact le_trans
    · intro a b
      rw [Bool.or_eq_true, nameLe_iff, nameLe_iff]
      exact le_total _ _
  have differ : (l.mergeSort le).Pairwise fun a b => key a ≠ key b :=
    List.pairwise_map.mp (((List.mergeSort_perm l le).map key).nodup_iff.mpr distinct)
  exact (sorted.and differ).imp fun h => lt_of_le_of_ne (nameLe_iff.mp h.1) h.2

section Listing

variable (t : FileTree) (base : List Char) (entries : List (String × Entry))

theorem mem_scriptNames {name : String} : name ∈ scriptNames t base entries ↔
    ∃ e, (name, e) ∈ entries ∧ isDirectory t (Path.join base name.toList) e = false ∧
      Path.isScript name.toList = true ∧ ¬ Path.isGenerated name.toList = true := by
  simp only [scriptNames, List.mem_mergeSort, List.mem_filter, List.mem_map, Bool.and_eq_true, Bool.not_eq_true',
    Bool.not_eq_true]
  constructor
  · rintro ⟨⟨⟨n, e⟩, ⟨mem, plain⟩, rfl⟩, script, generated⟩
    exact ⟨e, mem, plain, script, generated⟩
  · rintro ⟨e, mem, plain, script, generated⟩
    exact ⟨⟨(name, e), ⟨mem, plain⟩, rfl⟩, script, generated⟩

theorem scriptNames_ascending (distinct : (entries.map (·.1)).Nodup) :
    (scriptNames t base entries).Pairwise (· < ·) := by
  apply ascending_mergeSort id
  rw [List.map_id]
  exact (distinct.sublist (List.filter_sublist.map _)).filter _

/-- The entries of a listing that a scan goes down to, by name. -/
def entered : List (String × Entry) :=
  (entries.filter fun p => !Path.skippedDirectories.contains p.1).mergeSort fun a b => nameLe a.1 b.1

theorem mem_entered {p : String × Entry} :
    p ∈ entered entries ↔ p ∈ entries ∧ p.1 ∉ Path.skippedDirectories := by
  simp only [entered, List.mem_mergeSort, List.mem_filter, Bool.not_eq_true', List.contains_eq_mem,
    decide_eq_false_iff_not]

theorem entered_ascending (distinct : (entries.map (·.1)).Nodup) :
    (entered entries).Pairwise fun a b => a.1 < b.1 :=
  ascending_mergeSort Prod.fst (distinct.sublist (List.filter_sublist.map _))

theorem scriptsIn_eq : scriptsIn t base entries =
    (entries.filter fun p => !Path.skippedDirectories.contains p.1).map fun p =>
      (p.1, scripts t (Path.join base p.1.toList) p.2) := by
  induction entries with
  | nil => rfl
  | cons p rest ih =>
    rw [scriptsIn, ih, List.filter_cons]
    cases Path.skippedDirectories.contains p.1 <;> rfl

theorem scripts_directory : scripts t base (.directory entries) =
    (scriptNames t base entries).map (fun n => Path.join base n.toList) ++
      (entered entries).flatMap fun p => scripts t (Path.join base p.1.toList) p.2 := by
  have sorted : (entered entries).map (fun p => (p.1, scripts t (Path.join base p.1.toList) p.2)) =
      (scriptsIn t base entries).mergeSort fun a b => nameLe a.1 b.1 := by
    rw [scriptsIn_eq]
    exact List.map_mergeSort fun _ _ _ _ => rfl
  rw [scripts, ← sorted, List.flatMap_map]

end Listing

/-- A scan chooses what a way leads to. No directory on the way is a link or a skipped one, at its end is no
directory, and the name there is that of a script and not of a generated file. -/
structure Chosen (t : FileTree) (base : List Char) (e : Entry) (w : Way) : Prop where
  leads : ∃ x, e.at? w.names = some x ∧ isDirectory t (w.path base) x = false
  entered : ∀ d ∈ w.directories, d ∉ Path.skippedDirectories
  script : Path.ScriptName w.name
  written : ¬ Path.GeneratedName w.name

theorem not_chosen_of_leaf {t : FileTree} {base : List Char} {e : Entry} (leaf : ∀ name, e.child? name = none)
    (w : Way) : ¬ Chosen t base e w := by
  rintro ⟨⟨x, found, -⟩, -⟩
  obtain ⟨directories, name⟩ := w
  cases directories with
  | nil => simp [Way.names, Entry.at?, leaf] at found
  | cons d rest => simp [Way.names, Entry.at?, leaf] at found

section Directory

variable {t : FileTree} {base : List Char} {entries : List (String × Entry)}

theorem chosen_name {name : String} : Chosen t base (.directory entries) ⟨[], name⟩ ↔
    ∃ e, entries.lookup name = some e ∧ isDirectory t (Path.join base name.toList) e = false ∧
      Path.ScriptName name ∧ ¬ Path.GeneratedName name := by
  constructor
  · rintro ⟨⟨e, found, plain⟩, -, script, written⟩
    exact ⟨e, (Entry.at?_single entries name).symm.trans found, plain, script, written⟩
  · rintro ⟨e, found, plain, script, written⟩
    exact ⟨⟨e, (Entry.at?_single entries name).trans found, plain⟩, by simp, script, written⟩

theorem chosen_under {directory : String} {w : Way} : Chosen t base (.directory entries) (w.under directory) ↔
    directory ∉ Path.skippedDirectories ∧
      ∃ e, entries.lookup directory = some e ∧ Chosen t (Path.join base directory.toList) e w := by
  constructor
  · rintro ⟨⟨x, found, plain⟩, entered, script, written⟩
    obtain ⟨e, first, below⟩ := Option.bind_eq_some_iff.mp found
    obtain ⟨own, rest⟩ := List.forall_mem_cons.mp entered
    exact ⟨own, e, first, ⟨x, below, plain⟩, rest, script, written⟩
  · rintro ⟨own, e, first, ⟨x, below, plain⟩, rest, script, written⟩
    have leads : (Entry.directory entries).at? (w.under directory).names = some x :=
      Option.bind_eq_some_iff.mpr ⟨e, first, below⟩
    exact ⟨⟨x, leads, plain⟩, List.forall_mem_cons.mpr ⟨own, rest⟩, script, written⟩

end Directory

/-- The scan below an entry goes these ways. -/
structure Walks (t : FileTree) (base : List Char) (e : Entry) (ways : List Way) : Prop where
  paths : scripts t base e = ways.map (·.path base)
  ordered : ways.Pairwise Way.Before
  mem : ∀ w, w ∈ ways ↔ Chosen t base e w

theorem walks_of_leaf (t : FileTree) (base : List Char) {e : Entry} (leaf : ∀ name, e.child? name = none)
    (none : scripts t base e = []) : Walks t base e [] where
  paths := none
  ordered := .nil
  mem w := iff_of_false List.not_mem_nil (not_chosen_of_leaf leaf w)

/-- The ways below a directory: its own scripts, and then the ways below each directory that is entered. -/
def waysIn (t : FileTree) (base : List Char) (entries : List (String × Entry))
    (below : String × Entry → List Way) : List Way :=
  (scriptNames t base entries).map (fun n => ⟨[], n⟩) ++
    (entered entries).flatMap fun p => (below p).map (·.under p.1)

section Step

variable {t : FileTree} {base : List Char} {entries : List (String × Entry)}
  {below : String × Entry → List Way}

theorem waysIn_ordered (distinct : (entries.map (·.1)).Nodup)
    (ordered : ∀ p ∈ entries, (below p).Pairwise Way.Before) :
    (waysIn t base entries below).Pairwise Way.Before := by
  refine List.pairwise_append.mpr ⟨?_, List.pairwise_flatMap.mpr ⟨?_, ?_⟩, ?_⟩
  · exact List.pairwise_map.mpr ((scriptNames_ascending t base entries distinct).imp (.name []))
  · intro p mem
    have first := ordered p ((mem_entered entries).mp mem).1
    exact List.pairwise_map.mpr (first.imp fun h => h.under p.1)
  · refine (entered_ascending entries distinct).imp fun {p q} less a ha b hb => ?_
    obtain ⟨v, -, rfl⟩ := List.mem_map.mp ha
    obtain ⟨w, -, rfl⟩ := List.mem_map.mp hb
    exact .directory [] less
  · intro a ha b hb
    obtain ⟨n, -, rfl⟩ := List.mem_map.mp ha
    obtain ⟨p, -, hb⟩ := List.mem_flatMap.mp hb
    obtain ⟨w, -, rfl⟩ := List.mem_map.mp hb
    exact .above []

theorem name_mem_waysIn {name : String} :
    ⟨[], name⟩ ∈ waysIn t base entries below ↔ name ∈ scriptNames t base entries := by
  rw [waysIn, List.mem_append, List.mem_map]
  constructor
  · rintro (⟨n, mem, eq⟩ | mem)
    · cases eq
      exact mem
    · obtain ⟨p, -, mem⟩ := List.mem_flatMap.mp mem
      obtain ⟨w, -, eq⟩ := List.mem_map.mp mem
      cases eq
  · intro mem
    exact .inl ⟨name, mem, rfl⟩

theorem under_mem_waysIn {directory : String} {w : Way} : w.under directory ∈ waysIn t base entries below ↔
    ∃ e, (directory, e) ∈ entered entries ∧ w ∈ below (directory, e) := by
  rw [waysIn, List.mem_append, List.mem_map]
  constructor
  · rintro (⟨n, mem, eq⟩ | mem)
    · cases eq
    · obtain ⟨⟨d, e⟩, enters, mem⟩ := List.mem_flatMap.mp mem
      obtain ⟨v, walked, eq⟩ := List.mem_map.mp mem
      obtain ⟨rfl, rfl⟩ := Way.under_inj eq
      exact ⟨e, enters, walked⟩
  · rintro ⟨e, enters, mem⟩
    exact .inr (List.mem_flatMap.mpr ⟨_, enters, List.mem_map_of_mem mem⟩)

theorem mem_waysIn (names : Entry.Names (entries.map (·.1)))
    (mem : ∀ p ∈ entries, ∀ w, w ∈ below p ↔ Chosen t (Path.join base p.1.toList) p.2 w) (w : Way) :
    w ∈ waysIn t base entries below ↔ Chosen t base (.directory entries) w := by
  obtain ⟨directories, name⟩ := w
  cases directories with
  | nil =>
    rw [name_mem_waysIn, mem_scriptNames, chosen_name]
    refine exists_congr fun e => ?_
    rw [Entry.lookup_eq_some_iff_mem names.distinct]
    refine and_congr_right fun known => and_congr_right fun _ => ?_
    have noSlash := (names.plain name (List.mem_map_of_mem (f := (·.1)) known)).2
    rw [Path.isScript_iff noSlash, Path.isGenerated_iff noSlash]
  | cons d rest =>
    change Way.under d ⟨rest, name⟩ ∈ _ ↔ Chosen t base _ (Way.under d ⟨rest, name⟩)
    rw [under_mem_waysIn, chosen_under]
    constructor
    · rintro ⟨e, enters, walked⟩
      obtain ⟨known, own⟩ := (mem_entered entries).mp enters
      exact ⟨own, e, (Entry.lookup_eq_some_iff_mem names.distinct).mpr known, (mem _ known _).mp walked⟩
    · rintro ⟨own, e, found, chosen⟩
      have known := Entry.mem_of_lookup found
      exact ⟨e, (mem_entered entries).mpr ⟨known, own⟩, (mem _ known _).mpr chosen⟩

theorem scripts_eq_waysIn
    (paths : ∀ p ∈ entries, scripts t (Path.join base p.1.toList) p.2 =
      (below p).map (·.path (Path.join base p.1.toList))) :
    scripts t base (.directory entries) = (waysIn t base entries below).map (·.path base) := by
  rw [scripts_directory, waysIn, List.map_append, List.map_map, List.map_flatMap]
  congr 1
  refine List.flatMap_congr fun p enters => ?_
  rw [paths p ((mem_entered entries).mp enters).1, List.map_map]
  rfl

end Step

theorem exists_walks (t : FileTree) {e : Entry} (well : e.WellNamed) (base : List Char) :
    ∃ ways, Walks t base e ways := by
  induction well generalizing base with
  | file bytes => exact ⟨[], walks_of_leaf t base (fun _ => rfl) (by rw [scripts])⟩
  | link target => exact ⟨[], walks_of_leaf t base (fun _ => rfl) (by rw [scripts])⟩
  | @directory entries names each ih =>
    have below (p : String × Entry) :
        ∃ ways, p ∈ entries → Walks t (Path.join base p.1.toList) p.2 ways := by
      by_cases mem : p ∈ entries
      · obtain ⟨ways, walks⟩ := ih p mem (Path.join base p.1.toList)
        exact ⟨ways, fun _ => walks⟩
      · exact ⟨[], fun h => absurd h mem⟩
    -- one list of ways for each entry, whether or not the scan goes down to it
    choose below walks using below
    exact ⟨waysIn t base entries below, scripts_eq_waysIn fun p mem => (walks p mem).paths,
      waysIn_ordered names.distinct fun p mem => (walks p mem).ordered,
      mem_waysIn names fun p mem => (walks p mem).mem⟩

theorem nodup_paths {t : FileTree} {base : List Char} {e : Entry} (well : e.WellNamed) {ways : List Way}
    (ordered : ways.Pairwise Way.Before) (chosen : ∀ w ∈ ways, Chosen t base e w) :
    (ways.map fun w => String.ofList (w.path base)).Nodup := by
  have plain (w : Way) (mem : w ∈ ways) : ∀ n ∈ w.names, Entry.PlainName n := by
    obtain ⟨x, found, -⟩ := (chosen w mem).leads
    exact (well.at? found).2
  have nodup : ways.Nodup := ordered.imp fun h => by
    rintro rfl
    exact lt_irrefl _ h.key_lt
  refine List.Nodup.map_on (fun v hv w hw same => ?_) nodup
  have names := Path.joinAll_injective base (plain v hv) (plain w hw) (String.ofList_injective same)
  exact Way.names_injective names

section Relisted

variable {t : FileTree} {other : Entry} (same : t.root.SameAs other)
include same

theorem isDirectory_of_same {e o : Entry} (kind : o.kind = e.kind) (path : List Char) :
    isDirectory ⟨other, t.work⟩ path o = isDirectory t path e := by
  cases e with
  | directory entries =>
    obtain ⟨others, rfl⟩ := Entry.kind_eq_directory kind
    rfl
  | link target =>
    obtain rfl := Entry.kind_eq_link kind
    exact FileTree.isSome_directory?_of_same same path
  | file bytes =>
    cases o with
    | file bytes => rfl
    | link target => cases kind
    | directory entries => cases kind

theorem Chosen.of_same {base : List Char} {e o : Entry} (alike : e.SameAs o) {w : Way} (h : Chosen t base e w) :
    Chosen ⟨other, t.work⟩ base o w := by
  obtain ⟨x, found, plain⟩ := h.leads
  obtain ⟨y, found', kind⟩ := Entry.at?_some_of_same alike found
  exact ⟨⟨y, found', (isDirectory_of_same same kind _).trans plain⟩, h.entered, h.script, h.written⟩

theorem chosen_iff_of_same {base : List Char} {e o : Entry} (alike : e.SameAs o) (w : Way) :
    Chosen ⟨other, t.work⟩ base o w ↔ Chosen t base e w :=
  ⟨fun h => h.of_same same.symm alike.symm, fun h => h.of_same same alike⟩

end Relisted

section Target

variable {t : FileTree} {target : String} {names : List String} {entries : List (String × Entry)}
  (found : t.directory? (Path.tidy target.toList) = some (names, entries)) (settings : Option Settings)
include found

theorem collect_directory : collect t target settings =
    some (((scripts t (Path.tidy target.toList) (.directory entries)).map String.ofList).filter fun p =>
      !settings.any (·.excludes p)) := by
  simp only [collect, FileTree.isFile_of_directory? found, found]
  rfl

theorem collect_walks (well : t.root.WellNamed) : ∃ ways : List Way,
    collect t target settings = some (ways.map fun w => String.ofList (w.path (Path.tidy target.toList))) ∧
    ways.Pairwise Way.Before ∧
    ∀ w, w ∈ ways ↔ Chosen t (Path.tidy target.toList) (.directory entries) w ∧
      settings.any (·.excludes (String.ofList (w.path (Path.tidy target.toList)))) = false := by
  have below := (well.at? (FileTree.at?_of_directory? found)).1
  obtain ⟨ways, walks⟩ := exists_walks t below (Path.tidy target.toList)
  let kept (w : Way) : Bool := !settings.any (·.excludes (String.ofList (w.path (Path.tidy target.toList))))
  refine ⟨ways.filter kept, ?_, walks.ordered.filter _, fun w => ?_⟩
  · rw [collect_directory found, walks.paths, List.map_map, List.filter_map]
    rfl
  · rw [List.mem_filter, walks.mem, Bool.not_eq_true']

end Target

/-- A scan of a directory looks at the scripts that it chooses and that the settings do not exclude, and at
nothing else. It looks at each once, in each directory at the files first and by name. The settings only filter
what it looks at without them, and the order in which directories are listed does not matter. -/
theorem collect_exact {t : FileTree} (well : t.root.WellNamed) {target : String} {names : List String}
    {entries : List (String × Entry)} (found : t.directory? (Path.tidy target.toList) = some (names, entries))
    (settings : Option Settings) :
    let path (w : Way) : String := String.ofList (w.path (Path.tidy target.toList))
    (∃ ways : List Way, collect t target settings = some (ways.map path) ∧ (ways.map path).Nodup ∧
      ways.Pairwise Way.Before ∧
      ∀ w, w ∈ ways ↔ Chosen t (Path.tidy target.toList) (.directory entries) w ∧
        settings.any (·.excludes (path w)) = false) ∧
    collect t target settings = (collect t target none).map (·.filter fun p => !settings.any (·.excludes p)) ∧
    ∀ root, t.root.Relists root → collect ⟨root, t.work⟩ target settings = collect t target settings := by
  intro path
  obtain ⟨ways, collected, ordered, mem⟩ := collect_walks found settings well
  have below := (well.at? (FileTree.at?_of_directory? found)).1
  refine ⟨⟨ways, collected, ?_, ordered, mem⟩, ?_, fun root relists => ?_⟩
  · exact nodup_paths below ordered fun w h => ((mem w).mp h).1
  · rw [collect_directory found, collect_directory found, Option.map_some, List.filter_filter]
    simp
  · obtain ⟨others, found', alike⟩ := FileTree.directory?_of_same found relists.sameAs
    obtain ⟨ways', collected', ordered', mem'⟩ := collect_walks found' settings (relists.wellNamed well)
    -- both lists are in the order of a scan and have the same members
    have same : ways' = ways := Way.eq_of_mem_iff ordered' ordered fun w => by
      rw [mem', mem, chosen_iff_of_same relists.sameAs alike]
    rw [collected', collected, same]

/-- A directory with a script, a directory of scripts, and links to a directory and to nothing. -/
def sources : List (String × Entry) := [
  ("lib", .directory [("util.MJS", .file []), ("util.min.js", .file [])]),
  ("b.js", .file []),
  ("d.js", .link "lib"),
  ("a.js", .link "gone")]

theorem wellNamed_sources : Entry.WellNamed (.directory sources) := by
  have lib : Entry.WellNamed (.directory [("util.MJS", .file []), ("util.min.js", .file [])]) := by
    refine .directory ⟨by decide, by decide⟩ ?_
    simp only [List.forall_mem_cons]
    exact ⟨.file _, .file _, by simp⟩
  refine .directory ⟨by decide, by decide⟩ ?_
  simp only [sources, List.forall_mem_cons]
  exact ⟨lib, .file _, .link _, .link _, by simp⟩

/-- Both listings of the directory come to the same files, and a script further down is one of them. -/
theorem collect_sources :
    let t : FileTree := ⟨.directory sources, []⟩
    let settings : Settings := { excludePaths := ["*/b.js"] }
    t.root.WellNamed ∧ t.directory? (Path.tidy ".".toList) = some ([], sources) ∧
    t.root.Relists (.directory sources.reverse) ∧
    ∃ files, collect t "." (some settings) = some files ∧ files.Nodup ∧ "./lib/util.MJS" ∈ files ∧
      collect ⟨.directory sources.reverse, []⟩ "." (some settings) = some files := by
  intro t settings
  have found : t.directory? (Path.tidy ".".toList) = some ([], sources) := by cbv
  have relists : t.root.Relists (.directory sources.reverse) :=
    .of_perm wellNamed_sources (List.reverse_perm sources).symm
  obtain ⟨⟨ways, collected, nodup, -, mem⟩, -, relisted⟩ :=
    collect_exact wellNamed_sources found (some settings)
  have chosen : Chosen t (Path.tidy ".".toList) (.directory sources) ⟨["lib"], "util.MJS"⟩ := {
    leads := ⟨.file [], rfl, rfl⟩
    entered := by decide
    script := (Path.isScript_iff (by decide)).mp (by decide +kernel)
    written := fun h => absurd ((Path.isGenerated_iff (by decide)).mpr h) (by decide +kernel) }
  have kept : settings.excludes "./lib/util.MJS" = false := by cbv
  refine ⟨wellNamed_sources, found, relists, _, collected, nodup, ?_, (relisted _ relists).trans collected⟩
  exact List.mem_map.mpr ⟨_, (mem _).mpr ⟨chosen, kept⟩, rfl⟩

end Scan

end ScriptAudit
