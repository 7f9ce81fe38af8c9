import Mathlib
import ScriptAudit.Proofs.TextPlaces
import ScriptAudit.Settings.Load

namespace ScriptAudit

namespace Path

/-- The names on the way from the root. -/
def names (p : List Char) : List (List Char) := (pieces p).filter (!·.isEmpty)

/-- The path that names below a root lead to. -/
def below (root : List Char) (names : List (List Char)) : List Char := root ++ Text.joinWith ['/'] names

/-- One slash or two. -/
def IsRoot (root : List Char) : Prop := root = ['/'] ∨ root = ['/', '/']

/-- Names as a path can hold them between slashes. -/
def Plain (names : List (List Char)) : Prop := ∀ n ∈ names, n ≠ [] ∧ '/' ∉ n

theorem isRoot_root {p : List Char} (h : isAbsolute p) : IsRoot (root p) := by
  obtain ⟨rest, rfl⟩ : ∃ rest, p = '/' :: rest := List.head?_eq_some_iff.mp (beq_iff_eq.mp h)
  unfold root
  split
  next unrooted => simp at unrooted
  next => exact .inr rfl
  next => exact .inl rfl

theorem isAbsolute_join {work : List Char} (h : isAbsolute work) (p : List Char) : isAbsolute (join work p) := by
  obtain ⟨rest, rfl⟩ : ∃ rest, work = '/' :: rest := List.head?_eq_some_iff.mp (beq_iff_eq.mp h)
  unfold join
  split
  next absolute => exact absolute
  next =>
    split
    · rfl
    · rfl

/-- Steps to a parent only take names away. -/
theorem mem_cancelParents {absolute : Bool} {done rest : List (List Char)} {c : List Char}
    (h : c ∈ cancelParents absolute done rest) : c ∈ done ∨ c ∈ rest := by
  fun_induction cancelParents absolute done rest with
  | case1 done => exact .inl (List.mem_reverse.mp h)
  | case2 rest _ ih => exact (ih h).imp_right (List.mem_cons_of_mem _)
  | case3 rest _ ih =>
    rcases ih h with step | mem
    · exact .inr (List.mem_singleton.mp step ▸ List.mem_cons_self)
    · exact .inr (List.mem_cons_of_mem _ mem)
  | case4 rest done ih =>
    rcases ih h with step | mem
    · exact .inl (by simpa using step)
    · exact .inr (List.mem_cons_of_mem _ mem)
  | case5 rest d done _ ih => exact (ih h).imp (List.mem_cons_of_mem _) (List.mem_cons_of_mem _)
  | case6 done d rest _ ih =>
    rcases ih h with step | mem
    · rcases List.mem_cons.mp step with rfl | mem
      · exact .inr List.mem_cons_self
      · exact .inl mem
    · exact .inr (List.mem_cons_of_mem _ mem)

/-- An absolute path is a root with names below it. -/
theorem absolute_eq_below {work : List Char} (h : isAbsolute work) (p : List Char) :
    ∃ root names, IsRoot root ∧ Plain names ∧ absolute work p = below root names := by
  have isRoot := isRoot_root (isAbsolute_join h p)
  let parts := (pieces (join work p)).filter fun c => !c.isEmpty && c != ['.']
  refine ⟨root (join work p), cancelParents (isAbsolute (join work p)) [] parts, isRoot, ?_, ?_⟩
  · intro n hn
    have mem := (mem_cancelParents hn).resolve_left List.not_mem_nil
    obtain ⟨piece, kept⟩ := List.mem_filter.mp mem
    refine ⟨?_, Text.not_mem_of_mem_splitOn piece⟩
    rintro rfl
    cases kept
  · have filled : (below (root (join work p)) (cancelParents (isAbsolute (join work p)) [] parts)).isEmpty = false := by
      rcases isRoot with eq | eq
      · rw [below, eq]
        rfl
      · rw [below, eq]
        rfl
    exact if_neg (ne_true_of_eq_false filled)

theorem joinWith_concat (mark : List Char) {pieces : List (List Char)} (some : pieces ≠ []) (last : List Char) :
    Text.joinWith mark (pieces ++ [last]) = Text.joinWith mark pieces ++ mark ++ last := by
  induction pieces with
  | nil => exact absurd rfl some
  | cons p rest ih =>
    cases rest with
    | nil => simp [Text.joinWith]
    | cons q more =>
      rw [List.cons_append, List.cons_append, Text.joinWith_cons_cons, Text.joinWith_cons_cons, ← List.cons_append,
        ih (List.cons_ne_nil q more)]
      simp only [List.append_assoc]

section Below

variable {root : List Char} {names : List (List Char)}

/-- What stands in front of one more name. -/
def lead (root : List Char) (names : List (List Char)) : List Char :=
  if names = [] then root else below root names ++ ['/']

theorem below_concat (root : List Char) (names : List (List Char)) (n : List Char) :
    below root (names ++ [n]) = lead root names ++ n := by
  unfold lead
  split
  next empty => rw [empty, below]; rfl
  next some => rw [below, joinWith_concat _ some, below]; simp only [List.append_assoc]

theorem getLast?_lead (isRoot : IsRoot root) : (lead root names).getLast? = some '/' := by
  unfold lead
  split
  · rcases isRoot with rfl | rfl <;> rfl
  · exact List.getLast?_concat

theorem getLast?_below (nonempty : names ≠ []) (plain : Plain names) :
    ∃ c, (below root names).getLast? = some c ∧ c ≠ '/' := by
  obtain ⟨front, n, rfl⟩ := (List.eq_nil_or_concat' names).resolve_left nonempty
  obtain ⟨nonempty, noSlash⟩ := plain n (by simp)
  refine ⟨n.getLast nonempty, ?_, fun slash => noSlash (slash ▸ List.getLast_mem nonempty)⟩
  rw [below_concat, List.getLast?_append_of_ne_nil _ nonempty, List.getLast?_eq_some_getLast nonempty]

theorem dropSlashes_concat {p : List Char} {c : Char} (last : p.getLast? = some c) (other : c ≠ '/') :
    dropSlashes (p ++ ['/']) = p := by
  obtain ⟨front, rfl⟩ := List.getLast?_eq_some_iff.mp last
  rw [dropSlashes, List.reverse_append, List.reverse_append, List.reverse_singleton, List.reverse_singleton,
    List.singleton_append, List.singleton_append, List.dropWhile_cons_of_pos (by rfl),
    List.dropWhile_cons_of_neg (by simpa using other), List.reverse_cons, List.reverse_reverse]

theorem dirName_append {p n : List Char} (last : p.getLast? = some '/') (noSlash : '/' ∉ n) :
    dirName (p ++ n) = if p.all (· == '/') then p else dropSlashes p := by
  obtain ⟨front, rfl⟩ := List.getLast?_eq_some_iff.mp last
  have head : ((front ++ ['/'] ++ n).reverse.dropWhile (· != '/')).reverse = front ++ ['/'] := by
    have passed : ∀ c ∈ n.reverse, (c != '/') = true := by
      intro c hc
      exact bne_iff_ne.mpr fun slash => noSlash (slash ▸ List.mem_reverse.mp hc)
    rw [List.reverse_append, List.dropWhile_append_of_pos passed, List.reverse_append, List.reverse_singleton,
      List.singleton_append, List.dropWhile_cons_of_neg (by simp), List.reverse_cons, List.reverse_reverse]
  rw [dirName, head]

/-- The parent of a path has one name less, and the root is its own parent. -/
theorem dirName_below (isRoot : IsRoot root) (plain : Plain names) :
    dirName (below root names) = below root names.dropLast := by
  rcases List.eq_nil_or_concat' names with rfl | ⟨front, n, rfl⟩
  · rcases isRoot with rfl | rfl <;> rfl
  obtain ⟨-, noSlash⟩ := plain n (by simp)
  rw [below_concat, dirName_append (getLast?_lead isRoot) noSlash, List.dropLast_concat]
  by_cases bare : front = []
  · have slashes : root.all (· == '/') := by rcases isRoot with rfl | rfl <;> rfl
    rw [lead, if_pos bare, if_pos slashes, bare, below]
    exact (List.append_nil root).symm
  · have ends : ∃ c, (below root front).getLast? = some c ∧ c ≠ '/' :=
      getLast?_below bare fun m hm => plain m (by simp [hm])
    obtain ⟨c, last, other⟩ := ends
    have named : ¬ (below root front ++ ['/']).all (· == '/') := by
      rw [List.all_eq_true]
      intro slashes
      exact other (beq_iff_eq.mp (slashes c (by simp [List.mem_of_getLast? last])))
    rw [lead, if_neg bare, if_neg named, dropSlashes_concat last other]

theorem names_joinWith (plain : Plain names) : Path.names (Text.joinWith ['/'] names) = names := by
  by_cases empty : names = []
  · rw [empty]
    rfl
  · rw [Path.names, pieces, Text.splitOn_joinWith empty fun n hn => (plain n hn).2, List.filter_eq_self]
    intro n hn
    simpa using (plain n hn).1

theorem names_below (isRoot : IsRoot root) (plain : Plain names) : Path.names (below root names) = names := by
  have found := names_joinWith plain
  have step (p : List Char) : (Text.splitOn '/' ('/' :: p)).filter (!·.isEmpty) =
      (Text.splitOn '/' p).filter (!·.isEmpty) := by
    rw [Text.splitOn, if_pos rfl, List.filter_cons]
    rfl
  rcases isRoot with rfl | rfl
  · exact (step _).trans found
  · exact (step _).trans ((step _).trans found)

theorem takeWhile_joinWith (plain : Plain names) : (Text.joinWith ['/'] names).takeWhile (· == '/') = [] := by
  cases names with
  | nil => rfl
  | cons n rest =>
    obtain ⟨nonempty, noSlash⟩ := plain n List.mem_cons_self
    obtain ⟨c, tail, rfl⟩ := List.exists_cons_of_ne_nil nonempty
    have first : ¬ (c == '/') = true := fun slash => noSlash (beq_iff_eq.mp slash ▸ List.mem_cons_self)
    cases rest with
    | nil => exact List.takeWhile_cons_of_neg first
    | cons m more =>
      rw [Text.joinWith_cons_cons]
      exact List.takeWhile_cons_of_neg first

theorem root_below (isRoot : IsRoot root) (plain : Plain names) : Path.root (below root names) = root := by
  have start := takeWhile_joinWith plain
  have slashes : (below root names).takeWhile (· == '/') = root := by
    have own : ∀ c ∈ root, (c == '/') = true := by rcases isRoot with rfl | rfl <;> simp
    rw [below, List.takeWhile_append_of_pos own, start, List.append_nil]
  rw [Path.root, slashes]
  rcases isRoot with rfl | rfl <;> rfl

end Below

end Path

namespace Settings

/-- The directory with the first names of a path. -/
def ancestor (path : List Char) (k : Nat) : List Char := Path.below (Path.root path) ((Path.names path).take k)

/-- The directory in which the search starts: the target, or the directory of a target that is a file. -/
def startOf (t : FileTree) (target : String) : List Char :=
  let path := Path.absolute t.workPath target.toList
  if t.isFile path then Path.dirName path else path

/-- The directory holds a file of a name. Links are followed, and a directory of that name does not count. -/
def Holds (t : FileTree) (dir : List Char) (name : String) : Prop :=
  ∃ names bytes, t.locate false (Path.join dir name.toList) = .ok (.entry names (.file bytes))

/-- The name of the settings file that a directory holds; of two, the shorter one comes first. -/
def Prefers (t : FileTree) (dir : List Char) (name : String) : Prop :=
  name = ".devguard.yml" ∧ Holds t dir name ∨
  name = ".devguard.yaml" ∧ ¬ Holds t dir ".devguard.yml" ∧ Holds t dir name

theorem holds_iff {t : FileTree} {dir : List Char} {name : String} :
    Holds t dir name ↔ t.isFile (Path.join dir name.toList) := by
  rw [Holds, FileTree.isFile, FileTree.read]
  rcases t.locate false (Path.join dir name.toList) with fault | (⟨names, _ | _ | _⟩ | names)
  · exact iff_of_false (by simp) Bool.false_ne_true
  · exact iff_of_true ⟨names, _, rfl⟩ rfl
  · exact iff_of_false (by simp) Bool.false_ne_true
  · exact iff_of_false (by simp) Bool.false_ne_true
  · exact iff_of_false (by simp) Bool.false_ne_true

/-- The search goes through all directories above, the nearest first, and ends at the root. -/
theorem upward_below {root : List Char} {names : List (List Char)} (isRoot : Path.IsRoot root)
    (plain : Path.Plain names) : upward (Path.below root names) =
      (List.range (names.length + 1)).reverse.map fun k => Path.below root (names.take k) := by
  -- On the names from the last one: each step up takes one away.
  induction names using List.reverseRecOn with
  | nil =>
    rw [upward, Path.dirName_below isRoot plain]
    exact if_pos rfl
  | append_singleton front n ih =>
    have shorter : Path.below root front ≠ Path.below root (front ++ [n]) := by
      intro same
      have names := congrArg Path.names same
      rw [Path.names_below isRoot fun m hm => plain m (by simp [hm]), Path.names_below isRoot plain] at names
      simp at names
    have above : upward (Path.below root front) = _ := ih fun m hm => plain m (by simp [hm])
    rw [upward, Path.dirName_below isRoot plain, List.dropLast_concat, if_neg shorter, above, List.length_append,
      List.length_singleton, List.range_succ (n := front.length + 1), List.reverse_append, List.reverse_singleton,
      List.singleton_append, List.map_cons, List.take_of_length_le (by simp)]
    congr 1
    apply List.map_congr_left
    intro k hk
    have low : k ≤ front.length := by simpa [Nat.lt_succ_iff] using hk
    rw [List.take_append_of_le_length low]

theorem findSome?_highest {α : Type} {f : Nat → Option α} {n k : Nat} (inside : k ≤ n) {a : α} (found : f k = some a)
    (above : ∀ j, k < j → j ≤ n → f j = none) : (List.range (n + 1)).reverse.findSome? f = some a := by
  induction n with
  | zero =>
    obtain rfl := Nat.le_zero.mp inside
    simpa using found
  | succ n ih =>
    rw [List.range_succ, List.reverse_append, List.reverse_singleton, List.singleton_append, List.findSome?_cons]
    rcases Nat.lt_or_eq_of_le inside with lower | rfl
    · rw [above (n + 1) lower le_rfl]
      exact ih (Nat.le_of_lt_succ lower) fun j low high => above j low (Nat.le_succ_of_le high)
    · rw [found]

section Held

variable (t : FileTree)

/-- The settings file that is found in a directory. -/
def held? (dir : List Char) : Option (List Char) := (fileNames.map fun n => Path.join dir n.toList).find? (t.isFile ·)

variable {t} {dir : List Char}

theorem held?_eq_none_iff : held? t dir = none ↔ ∀ name ∈ fileNames, ¬ Holds t dir name := by
  rw [held?, List.find?_eq_none, List.forall_mem_map]
  simp only [holds_iff]

theorem held?_of_prefers {name : String} (h : Prefers t dir name) :
    held? t dir = some (Path.join dir name.toList) := by
  rw [held?, fileNames, List.map_cons, List.map_singleton]
  rcases h with ⟨rfl, first⟩ | ⟨rfl, noFirst, second⟩
  · exact List.find?_cons_of_pos (holds_iff.mp first)
  · rw [List.find?_cons_of_neg (fun first => noFirst (holds_iff.mpr first))]
    exact List.find?_cons_of_pos (holds_iff.mp second)

end Held

/-- The start of the search is a path of names below a root. -/
theorem startOf_eq (t : FileTree) (target : String) :
    ∃ root names, Path.IsRoot root ∧ Path.Plain names ∧ startOf t target = Path.below root names := by
  have work : Path.isAbsolute t.workPath := rfl
  obtain ⟨root, names, isRoot, plain, path⟩ := Path.absolute_eq_below work target.toList
  rw [startOf, path]
  split
  · refine ⟨root, names.dropLast, isRoot, fun n hn => plain n (List.dropLast_subset _ hn), ?_⟩
    exact Path.dirName_below isRoot plain
  · exact ⟨root, names, isRoot, plain, rfl⟩

/-- All its names lead to the start again, and none of them to the root. -/
theorem ancestor_startOf (t : FileTree) (target : String) : let start := startOf t target
    ancestor start (Path.names start).length = start ∧ Path.IsRoot (ancestor start 0) := by
  obtain ⟨root, names, isRoot, plain, start⟩ := startOf_eq t target
  have top : Path.below root [] = root := List.append_nil root
  dsimp only [ancestor]
  rw [start, Path.names_below isRoot plain, Path.root_below isRoot plain, List.take_length, List.take_zero, top]
  exact ⟨rfl, isRoot⟩

theorem upward_startOf (t : FileTree) (target : String) : upward (startOf t target) =
    (List.range ((Path.names (startOf t target)).length + 1)).reverse.map (ancestor (startOf t target)) := by
  obtain ⟨root, names, isRoot, plain, start⟩ := startOf_eq t target
  rw [start, upward_below isRoot plain, Path.names_below isRoot plain]
  unfold ancestor
  rw [Path.names_below isRoot plain, Path.root_below isRoot plain]

/-- The first file that is there is the one in the nearest directory. -/
theorem find?_candidates (t : FileTree) (target : String) : (candidates t target).find? (t.isFile ·) =
    (List.range ((Path.names (startOf t target)).length + 1)).reverse.findSome?
      fun k => held? t (ancestor (startOf t target) k) := by
  change ((upward (startOf t target)).flatMap _).find? _ = _
  rw [List.find?_flatMap, upward_startOf, List.findSome?_map]
  rfl

theorem load_of_none {t : FileTree} {target : String} {library : Yaml.Library}
    (h : (candidates t target).find? (t.isFile ·) = none) :
    load t target none library = return .ok none := by
  rw [load]
  simp only [Option.filter_none, h]

theorem load_of_some {t : FileTree} {target : String} {path : List Char} {library : Yaml.Library}
    (h : (candidates t target).find? (t.isFile ·) = some path) :
    load t target none library = do return (← ofFile t path library).map some := by
  rw [load]
  simp only [Option.filter_none, h]

/-- The file that the settings come from: a given one, or else the first candidate. -/
def file? (t : FileTree) (target : String) (given : Option String) : Option (List Char) :=
  (given.filter (· != "")).elim ((candidates t target).find? (t.isFile ·)) fun path =>
    (some path.toList).filter (t.isFile ·)

theorem value_load_of_file {t : FileTree} {target : String} {given : Option String} {path : List Char}
    {library : Yaml.Library} (found : file? t target given = some path) :
    (load t target given library).value = (ofFile t path library).value.map some := by
  unfold file? at found
  unfold load
  cases named : given.filter (· != "") with
  | none =>
    rw [named, Option.elim_none] at found
    simp only [found, Logged.value_bind, Logged.value_pure]
  | some name =>
    rw [named, Option.elim_some] at found
    obtain ⟨same, isFile⟩ := Option.filter_eq_some_iff.mp found
    cases same
    simp only [isFile, if_true, Logged.value_bind, Logged.value_pure]

theorem value_load_of_no_file {t : FileTree} {target : String} {given : Option String} {library : Yaml.Library}
    (noFile : file? t target given = none) :
    (load t target given library).value = .ok none ∨
      ∃ name, (load t target given library).value = .error (.missing name) := by
  unfold file? at noFile
  unfold load
  cases named : given.filter (· != "") with
  | none =>
    rw [named, Option.elim_none] at noFile
    simp only [noFile]
    exact .inl rfl
  | some name =>
    rw [named, Option.elim_some] at noFile
    have noFile : ¬ t.isFile name.toList := fun isFile =>
      Option.some_ne_none _ ((Option.filter_eq_some_iff.mpr ⟨rfl, isFile⟩).symm.trans noFile)
    simp only [noFile]
    exact .inr ⟨name, rfl⟩

/-- A file that is found gives settings or a fault, so there are none only if no file is found. -/
theorem load_eq_none_iff {t : FileTree} {target : String} {library : Yaml.Library} :
    (load t target none library).value = .ok none ↔ (candidates t target).find? (t.isFile ·) = none := by
  cases found : (candidates t target).find? (t.isFile ·) with
  | none => exact iff_of_true (by rw [load_of_none found]; rfl) rfl
  | some path =>
    apply iff_of_false _ (Option.some_ne_none path)
    intro unloaded
    rw [load_of_some found, Logged.value_bind] at unloaded
    cases settings : (ofFile t path library).value with
    | error fault => rw [settings] at unloaded; cases unloaded
    | ok read => rw [settings] at unloaded; cases unloaded

/-- Without a given path, the settings are those of the directory nearest to the target that holds a settings file. If
that file is no good, no other one is tried. With a given path, the target does not matter. -/
theorem load_nearest (t : FileTree) (target : String) (library : Yaml.Library) :
    let start := startOf t target
    let depth := (Path.names start).length
    ancestor start depth = start ∧ Path.IsRoot (ancestor start 0) ∧
    upward start = (List.range (depth + 1)).reverse.map (ancestor start) ∧
    ((load t target none library).value = .ok none ↔
      ∀ k ≤ depth, ∀ name ∈ fileNames, ¬ Holds t (ancestor start k) name) ∧
    (∀ k ≤ depth, ∀ name, Prefers t (ancestor start k) name →
      (∀ j, k < j → j ≤ depth → ∀ other ∈ fileNames, ¬ Holds t (ancestor start j) other) →
      let path := Path.join (ancestor start k) name.toList
      load t target none library = (do return (← ofFile t path library).map some) ∧
      ∀ fault, (ofFile t path library).value = .error fault → (load t target none library).value = .error fault) ∧
    load t target (some "") library = load t target none library ∧
    ∀ given ≠ "", ∀ other, load t target (some given) library = load t other (some given) library := by
  intro start depth
  obtain ⟨whole, top⟩ := ancestor_startOf t target
  have search := find?_candidates t target
  refine ⟨whole, top, upward_startOf t target, ?_, ?_, rfl, ?_⟩
  · rw [load_eq_none_iff, search, List.findSome?_eq_none_iff]
    simp only [List.mem_reverse, List.mem_range, Nat.lt_succ_iff, held?_eq_none_iff]
    rfl
  · intro k inside name prefers nearer path
    have found : (candidates t target).find? (t.isFile ·) = some path := by
      rw [search]
      apply findSome?_highest inside (held?_of_prefers prefers)
      intro j low high
      exact held?_eq_none_iff.mpr (nearer j low high)
    refine ⟨load_of_some found, fun fault value => ?_⟩
    rw [load_of_some found, Logged.value_bind, value]
    rfl
  · intro given named other
    have kept : (some given).filter (· != "") = some given := Option.filter_eq_some_iff.mpr ⟨rfl, bne_iff_ne.mpr named⟩
    rw [load, load, kept]

/-- Settings in a directory and in the root above it; a directory has the name that would come first. -/
def twoSettings : FileTree where
  root := .directory [
    (".devguard.yml", .file []),
    ("p", .directory [(".devguard.yml", .empty), (".devguard.yaml", .file [])])]
  work := ["p"]

theorem load_twoSettings :
    load twoSettings "q/a.js" none = do return (← ofFile twoSettings "/p/.devguard.yaml".toList).map some := by
  obtain ⟨-, -, -, -, nearest, -⟩ := load_nearest twoSettings "q/a.js" {}
  have path : Path.absolute twoSettings.workPath "q/a.js".toList = "/p/q/a.js".toList := by decide +kernel
  have missing : twoSettings.isFile "/p/q/a.js".toList = false := by cbv
  have start : startOf twoSettings "q/a.js" = "/p/q/a.js".toList := by
    rw [startOf, path, missing]
    rfl
  rw [start] at nearest
  have above : ancestor "/p/q/a.js".toList 1 = "/p".toList := by decide +kernel
  have prefers : Prefers twoSettings (ancestor "/p/q/a.js".toList 1) ".devguard.yaml" := by
    have first : twoSettings.isFile (Path.join "/p".toList ".devguard.yml".toList) = false := by cbv
    rw [Prefers, above, holds_iff, holds_iff, first]
    exact .inr ⟨rfl, Bool.false_ne_true, by cbv⟩
  have nearer : ∀ j, 1 < j → j ≤ (Path.names "/p/q/a.js".toList).length → ∀ other ∈ fileNames,
      ¬ Holds twoSettings (ancestor "/p/q/a.js".toList j) other := by
    intro j low high
    have three : (Path.names "/p/q/a.js".toList).length = 3 := by decide +kernel
    obtain rfl | rfl : j = 2 ∨ j = 3 := by omega
    · exact held?_eq_none_iff.mp (by cbv)
    · exact held?_eq_none_iff.mp (by cbv)
  have loaded := (nearest 1 (by decide +kernel) ".devguard.yaml" prefers nearer).1
  have file : Path.join "/p".toList ".devguard.yaml".toList = "/p/.devguard.yaml".toList := by decide +kernel
  rwa [above, file] at loaded

end Settings

end ScriptAudit
