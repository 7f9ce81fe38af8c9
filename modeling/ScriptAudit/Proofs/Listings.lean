import Mathlib.Data.List.Nodup
import ScriptAudit.Files.Basic

namespace ScriptAudit

namespace Entry

/-- What tells entries apart but for the contents of a directory. -/
inductive Kind where
  | file (bytes : List UInt8)
  | link (target : String)
  | directory
deriving DecidableEq

def kind : Entry → Kind
  | file bytes => .file bytes
  | link target => .link target
  | directory _ => .directory

theorem kind_eq_link {e : Entry} {target : String} (h : e.kind = .link target) : e = link target := by
  cases e with
  | link t => exact congrArg link (Kind.link.inj h)
  | file bytes => cases h
  | directory entries => cases h

theorem kind_eq_directory {e : Entry} (h : e.kind = .directory) : ∃ entries, e = directory entries := by
  cases e with
  | directory entries => exact ⟨entries, rfl⟩
  | file bytes => cases h
  | link target => cases h

/-- A name that can stand in a directory: it is not empty and holds no slash. -/
def PlainName (name : String) : Prop := name.toList ≠ [] ∧ '/' ∉ name.toList

instance : DecidablePred PlainName := fun _ => inferInstanceAs (Decidable (_ ∧ _))

/-- The names of one directory. -/
structure Names (names : List String) : Prop where
  distinct : names.Nodup
  plain : ∀ name ∈ names, PlainName name

/-- Each directory below the entry has proper names. -/
inductive WellNamed : Entry → Prop
  | file (bytes : List UInt8) : WellNamed (.file bytes)
  | link (target : String) : WellNamed (.link target)
  | directory {entries : List (String × Entry)} (names : Names (entries.map (·.1)))
      (each : ∀ p ∈ entries, WellNamed p.2) : WellNamed (.directory entries)

/-- The entries differ in nothing but the order in which directories are listed. -/
inductive Relists : Entry → Entry → Prop
  | file (bytes : List UInt8) : Relists (.file bytes) (.file bytes)
  | link (target : String) : Relists (.link target) (.link target)
  | directory {entries others : List (String × Entry)} (names : (entries.map (·.1)).Perm (others.map (·.1)))
      (each : ∀ name e o, entries.lookup name = some e → others.lookup name = some o → Relists e o) :
      Relists (.directory entries) (.directory others)

section Lookup

variable {entries : List (String × Entry)} {name : String} {e : Entry}

theorem mem_of_lookup (h : entries.lookup name = some e) : (name, e) ∈ entries := by
  obtain ⟨front, back, rfl, -⟩ := List.lookup_eq_some_iff.mp h
  exact List.mem_append_right _ List.mem_cons_self

theorem lookup_isSome : (entries.lookup name).isSome ↔ name ∈ entries.map (·.1) := by
  rw [← not_iff_not, Bool.not_eq_true, Option.isSome_eq_false_iff, Option.isNone_iff_eq_none,
    List.lookup_eq_none_iff, List.mem_map]
  constructor
  · rintro differ ⟨p, mem, rfl⟩
    exact absurd rfl (bne_iff_ne.mp (differ p mem))
  · intro absent p mem
    rw [bne_iff_ne]
    rintro rfl
    exact absent ⟨p, mem, rfl⟩

theorem lookup_eq_some_iff_mem (distinct : (entries.map (·.1)).Nodup) :
    entries.lookup name = some e ↔ (name, e) ∈ entries := by
  refine ⟨mem_of_lookup, fun mem => ?_⟩
  obtain ⟨o, found⟩ := Option.isSome_iff_exists.mp (lookup_isSome.mpr (List.mem_map_of_mem (f := (·.1)) mem))
  have same := List.inj_on_of_nodup_map distinct (mem_of_lookup found) mem rfl
  rw [found, (Prod.mk.inj same).2]

end Lookup

theorem at?_append (e : Entry) (a b : List String) : e.at? (a ++ b) = (e.at? a).bind (·.at? b) := by
  induction a generalizing e with
  | nil => rfl
  | cons name rest ih =>
    rw [List.cons_append, at?, at?, Option.bind_assoc]
    exact Option.bind_congr fun child _ => ih child

/-- What kind of entry some names lead to. -/
def look (e : Entry) (way : List String) : Option Kind := (e.at? way).map kind

theorem look_append {e x : Entry} {a : List String} (h : e.at? a = some x) (b : List String) :
    e.look (a ++ b) = x.look b := by
  rw [look, look, at?_append, h, Option.bind_some]

/-- All names lead to the same in both, whatever the order of the listings. -/
def SameAs (a b : Entry) : Prop := ∀ way, a.look way = b.look way

theorem SameAs.symm {a b : Entry} (h : a.SameAs b) : b.SameAs a := fun way => (h way).symm

section Same

variable {a b : Entry} (same : a.SameAs b) {way : List String}
include same

theorem at?_none_of_same (h : a.at? way = none) : b.at? way = none := by
  have kinds := same way
  rw [look, h] at kinds
  exact Option.map_eq_none_iff.mp kinds.symm

theorem at?_some_of_same {e : Entry} (h : a.at? way = some e) : ∃ o, b.at? way = some o ∧ o.kind = e.kind := by
  have kinds := same way
  rw [look, h] at kinds
  exact Option.map_eq_some_iff.mp kinds.symm

theorem at?_directory_of_same {entries : List (String × Entry)} (h : a.at? way = some (.directory entries)) :
    ∃ others, b.at? way = some (.directory others) ∧ (directory entries).SameAs (directory others) := by
  obtain ⟨o, found, kind⟩ := at?_some_of_same same h
  obtain ⟨others, rfl⟩ := kind_eq_directory kind
  refine ⟨others, found, fun below => ?_⟩
  rw [← look_append h, ← look_append found, same]

end Same

theorem at?_single (entries : List (String × Entry)) (name : String) :
    (directory entries).at? [name] = entries.lookup name := by
  rw [at?, child?]
  exact Option.bind_fun_some _

section Directories

variable {entries others : List (String × Entry)} (same : (directory entries).SameAs (directory others))
  {name : String}
include same

theorem lookup_none_of_same (h : entries.lookup name = none) : others.lookup name = none := by
  rw [← at?_single] at h ⊢
  exact at?_none_of_same same h

theorem lookup_some_of_same {e : Entry} (h : entries.lookup name = some e) :
    ∃ o, others.lookup name = some o ∧ o.kind = e.kind := by
  simp only [← at?_single] at h ⊢
  exact at?_some_of_same same h

end Directories

theorem WellNamed.at? {e x : Entry} {way : List String} (h : WellNamed e) (found : e.at? way = some x) :
    WellNamed x ∧ ∀ name ∈ way, PlainName name := by
  induction way generalizing e with
  | nil =>
    cases found
    exact ⟨h, fun _ mem => absurd mem List.not_mem_nil⟩
  | cons name rest ih =>
    obtain ⟨child, first, below⟩ := Option.bind_eq_some_iff.mp found
    cases h with
    | file bytes => cases first
    | link target => cases first
    | directory names each =>
      have mem := mem_of_lookup first
      obtain ⟨well, plain⟩ := ih (each _ mem) below
      have own := names.plain name (List.mem_map_of_mem (f := (·.1)) mem)
      exact ⟨well, List.forall_mem_cons.mpr ⟨own, plain⟩⟩

namespace Relists

theorem kind {a b : Entry} (h : Relists a b) : a.kind = b.kind := by
  cases h <;> rfl

theorem sameAs {a b : Entry} (h : Relists a b) : a.SameAs b := by
  intro way
  induction way generalizing a b with
  | nil => exact congrArg some h.kind
  | cons name rest ih =>
    cases h with
    | file bytes => rfl
    | link target => rfl
    | @directory entries others names each =>
      have both : (entries.lookup name).isSome ↔ (others.lookup name).isSome := by
        rw [lookup_isSome, lookup_isSome, names.mem_iff]
      change ((entries.lookup name).bind (·.at? rest)).map Entry.kind =
        ((others.lookup name).bind (·.at? rest)).map Entry.kind
      cases left : entries.lookup name with
      | none =>
        rw [left] at both
        have right : others.lookup name = none :=
          Option.not_isSome_iff_eq_none.mp fun h => Bool.false_ne_true (both.mpr h)
        rw [right]
      | some e =>
        rw [left] at both
        obtain ⟨o, right⟩ := Option.isSome_iff_exists.mp (both.mp rfl)
        rw [right]
        exact ih (each name e o left right)

theorem wellNamed {a b : Entry} (h : Relists a b) (well : WellNamed a) : WellNamed b := by
  induction h with
  | file bytes => exact well
  | link target => exact well
  | @directory entries others same each ih =>
    cases well with
    | directory names wells =>
      have distinct : (others.map (·.1)).Nodup := same.nodup_iff.mp names.distinct
      refine .directory ⟨distinct, fun n mem => names.plain n (same.mem_iff.mpr mem)⟩ ?_
      rintro ⟨name, o⟩ mem
      have right := (lookup_eq_some_iff_mem distinct).mpr mem
      have known : name ∈ entries.map (·.1) := same.mem_iff.mpr (List.mem_map_of_mem (f := (·.1)) mem)
      obtain ⟨e, left⟩ := Option.isSome_iff_exists.mp (lookup_isSome.mpr known)
      exact ih name e o left right (wells _ (mem_of_lookup left))

theorem refl {e : Entry} (well : WellNamed e) : Relists e e := by
  induction well with
  | file bytes => exact .file bytes
  | link target => exact .link target
  | directory names each ih =>
    refine .directory (.refl _) fun name e o left right => ?_
    rw [left] at right
    cases right
    exact ih _ (mem_of_lookup left)

/-- To list a directory in another order is to relist it. -/
theorem of_perm {entries others : List (String × Entry)} (well : WellNamed (.directory entries))
    (perm : entries.Perm others) : Relists (.directory entries) (.directory others) := by
  refine .directory (perm.map _) fun name e o left right => ?_
  cases well with
  | directory names each =>
    have same := (lookup_eq_some_iff_mem names.distinct).mpr (perm.mem_iff.mpr (mem_of_lookup right))
    rw [left] at same
    cases same
    exact .refl (each _ (mem_of_lookup left))

end Relists

end Entry

/-- Where a path leads to, but for the contents of a directory. -/
def Located.outline : Located → List String × Option Entry.Kind
  | entry names e => (names, some e.kind)
  | absent names => (names, none)

namespace FileTree

/-- A path that leads to an entry gives the names that lead there without links. -/
theorem follow_entry {root : Entry} {keepLast : Bool} {links : Nat} {here names : List String}
    {path : List (List Char)} {e : Entry} (h : follow root keepLast links here path = .ok (.entry names e)) :
    root.at? names = some e := by
  fun_induction follow root keepLast links here path with
  | case1 links here x found =>
    cases h
    exact found
  | case3 links here piece rest entries found point ih => exact ih h
  | case4 links here rest entries found point ih => exact ih h
  | case7 links here piece rest entries found point parent name target child kept =>
    cases h
    rw [Entry.at?_append, found, Option.bind_some, Entry.at?_single, child]
  | case9 here piece rest entries found point parent name target child kept n start ih => exact ih h
  | case10 links here piece rest entries found point parent name x notLink child ih => exact ih h
  | case2 | case5 | case6 | case8 | case11 | case12 => cases h

/-- A path leads to the same in two trees that are the same. -/
theorem follow_outline {root other : Entry} (same : root.SameAs other) (keepLast : Bool) (links : Nat)
    (here : List String) (path : List (List Char)) :
    (follow other keepLast links here path).map Located.outline =
      (follow root keepLast links here path).map Located.outline := by
  -- each step looks at one entry only, and the kind of it decides which step it is
  fun_induction follow root keepLast links here path with
  | case1 links here e found =>
    obtain ⟨o, found', kind⟩ := Entry.at?_some_of_same same found
    simp only [follow, found', Except.map, Located.outline, kind]
  | case2 links here found =>
    simp only [follow, Entry.at?_none_of_same same found]
  | case3 links here piece rest entries found point ih =>
    obtain ⟨others, found', -⟩ := Entry.at?_directory_of_same same found
    simp only [follow, found', if_pos point, ih]
  | case4 links here rest entries found point ih =>
    obtain ⟨others, found', -⟩ := Entry.at?_directory_of_same same found
    simp only [follow, found', if_neg point, if_true, ih]
  | case5 links here piece entries found point parent name child =>
    obtain ⟨others, found', alike⟩ := Entry.at?_directory_of_same same found
    have child' := Entry.lookup_none_of_same alike child
    simp only [follow, found', if_neg point, if_neg parent, name, child', if_true]
  | case6 links here piece rest entries found point parent name child more =>
    obtain ⟨others, found', alike⟩ := Entry.at?_directory_of_same same found
    have child' := Entry.lookup_none_of_same alike child
    simp only [follow, found', if_neg point, if_neg parent, name, child', if_neg more]
  | case7 links here piece rest entries found point parent name target child kept =>
    obtain ⟨others, found', alike⟩ := Entry.at?_directory_of_same same found
    obtain ⟨o, child', kind⟩ := Entry.lookup_some_of_same alike child
    obtain rfl := Entry.kind_eq_link kind
    simp only [follow, found', if_neg point, if_neg parent, name, child', kept, if_true]
  | case8 here piece rest entries found point parent name target child kept =>
    obtain ⟨others, found', alike⟩ := Entry.at?_directory_of_same same found
    obtain ⟨o, child', kind⟩ := Entry.lookup_some_of_same alike child
    obtain rfl := Entry.kind_eq_link kind
    simp only [follow, found', if_neg point, if_neg parent, name, child', if_neg kept]
  | case9 here piece rest entries found point parent name target child kept n start ih =>
    obtain ⟨others, found', alike⟩ := Entry.at?_directory_of_same same found
    obtain ⟨o, child', kind⟩ := Entry.lookup_some_of_same alike child
    obtain rfl := Entry.kind_eq_link kind
    rw [← ih]
    simp only [follow, found', if_neg point, if_neg parent, name, child', if_neg kept]
    rfl
  | case10 links here piece rest entries found point parent name x notLink child ih =>
    obtain ⟨others, found', alike⟩ := Entry.at?_directory_of_same same found
    obtain ⟨o, child', kind⟩ := Entry.lookup_some_of_same alike child
    rw [← ih]
    cases o with
    | link target => exact absurd (Entry.kind_eq_link kind.symm) (notLink target)
    | file bytes => simp only [follow, found', if_neg point, if_neg parent, name, child']
    | directory below => simp only [follow, found', if_neg point, if_neg parent, name, child']
  | case11 links here piece rest e notDirectory found =>
    obtain ⟨o, found', kind⟩ := Entry.at?_some_of_same same found
    cases o with
    | directory entries =>
      obtain ⟨others, rfl⟩ := Entry.kind_eq_directory kind.symm
      exact (notDirectory others rfl).elim
    | file bytes => simp only [follow, found']
    | link target => simp only [follow, found']
  | case12 links here piece rest found =>
    simp only [follow, Entry.at?_none_of_same same found]

section Found

variable {t : FileTree} {path : List Char} {names : List String} {entries : List (String × Entry)}
  (h : t.directory? path = some (names, entries))
include h

theorem locate_of_directory? :
    t.locate false path = .ok (.entry names (.directory entries)) := by
  unfold directory? at h
  split at h
  · next located =>
    cases h
    exact located
  · cases h

theorem at?_of_directory? : t.root.at? names = some (.directory entries) := by
  have located := locate_of_directory? h
  unfold locate at located
  split at located
  · cases located
  · exact follow_entry located

theorem isFile_of_directory? : t.isFile path = false := by
  rw [isFile, read, locate_of_directory? h]
  rfl

/-- A directory is found in every listing of a tree. -/
theorem directory?_of_same {other : Entry} (same : t.root.SameAs other) :
    ∃ others, directory? ⟨other, t.work⟩ path = some (names, others) ∧
      (Entry.directory entries).SameAs (.directory others) := by
  have outline : (locate ⟨other, t.work⟩ false path).map Located.outline =
      (t.locate false path).map Located.outline := by
    unfold locate
    split
    · rfl
    · exact follow_outline same ..
  rw [locate_of_directory? h] at outline
  cases located : locate ⟨other, t.work⟩ false path with
  | error fault =>
    rw [located] at outline
    cases outline
  | ok place =>
    rw [located] at outline
    cases place with
    | absent names => cases outline
    | entry names' e =>
      have parts := Prod.mk.inj (Except.ok.inj outline)
      obtain rfl := parts.1
      obtain ⟨others, rfl⟩ := Entry.kind_eq_directory (Option.some.inj parts.2)
      have found : directory? ⟨other, t.work⟩ path = some (names', others) := by rw [directory?, located]
      refine ⟨others, found, fun way => ?_⟩
      rw [← Entry.look_append (at?_of_directory? h), same]
      exact Entry.look_append (at?_of_directory? found) way

end Found

theorem isSome_directory?_of_same {t : FileTree} {other : Entry} (same : t.root.SameAs other) (path : List Char) :
    (directory? ⟨other, t.work⟩ path).isSome = (t.directory? path).isSome := by
  rw [Bool.eq_iff_iff, Option.isSome_iff_exists, Option.isSome_iff_exists]
  constructor
  · rintro ⟨⟨names, others⟩, found⟩
    obtain ⟨entries, found', -⟩ := directory?_of_same (t := ⟨other, t.work⟩) found same.symm
    exact ⟨_, found'⟩
  · rintro ⟨⟨names, entries⟩, found⟩
    obtain ⟨others, found', -⟩ := directory?_of_same found same
    exact ⟨_, found'⟩

end FileTree

end ScriptAudit
