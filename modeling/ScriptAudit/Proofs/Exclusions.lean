import ScriptAudit.Proofs.Collection
import ScriptAudit.Proofs.SettingsSearch

namespace ScriptAudit

namespace Path

/-- What a tidy path starts with: nothing, one slash or two. -/
def IsStart (start : List Char) : Prop := start = [] ∨ IsRoot start

theorem isStart_root (p : List Char) : IsStart (root p) := by
  unfold root
  split
  next => exact .inl rfl
  next => exact .inr (.inr rfl)
  next => exact .inr (.inl rfl)

section Parts

variable {start : List Char} {parts : List (List Char)}

theorem below_ne_nil (plain : Plain parts) (nonempty : parts ≠ []) : below start parts ≠ [] := by
  have ends : ∃ c, (below start parts).getLast? = some c ∧ c ≠ '/' := getLast?_below nonempty plain
  obtain ⟨c, last, -⟩ := ends
  intro empty
  rw [empty] at last
  cases last

theorem isAbsolute_joinWith (plain : Plain parts) : isAbsolute (Text.joinWith ['/'] parts) = false := by
  have unslashed := takeWhile_joinWith plain
  rw [isAbsolute, beq_eq_false_iff_ne]
  intro first
  obtain ⟨rest, eq⟩ := List.head?_eq_some_iff.mp first
  rw [eq] at unslashed
  cases unslashed

variable (isStart : IsStart start) (plain : Plain parts)
include isStart plain

theorem names_below_start : names (below start parts) = parts := by
  rcases isStart with rfl | isRoot
  · exact names_joinWith plain
  · exact names_below isRoot plain

theorem root_below_start : root (below start parts) = start := by
  rcases isStart with rfl | isRoot
  · have unslashed : (below [] parts).takeWhile (· == '/') = [] := takeWhile_joinWith plain
    rw [root, unslashed]
  · exact root_below isRoot plain

theorem slashed_below : slashed (below start parts) = lead start parts := by
  by_cases empty : parts = []
  · have whole : below start parts = start := by rw [empty, below]; exact List.append_nil start
    rw [whole, lead, if_pos empty]
    rcases isStart with rfl | rfl | rfl <;> rfl
  · have ends : ∃ c, (below start parts).getLast? = some c ∧ c ≠ '/' := getLast?_below empty plain
    obtain ⟨c, last, other⟩ := ends
    have unclosed : ¬ ((below start parts).isEmpty || (below start parts).getLast? == some '/') := by
      simp [last, other, below_ne_nil plain empty]
    rw [slashed, if_neg unclosed, lead, if_neg empty]

end Parts

theorem join_below {start : List Char} {parts : List (List Char)} (isStart : IsStart start) (plain : Plain parts)
    {n : List Char} (noSlash : '/' ∉ n) : join (below start parts) n = below start (parts ++ [n]) := by
  rw [join_eq _ noSlash, slashed_below isStart plain, below_concat]

theorem plain_append {parts : List (List Char)} (plain : Plain parts) {names : List String}
    (named : ∀ n ∈ names, Entry.PlainName n) :
    Plain (parts ++ names.map (·.toList)) := by
  intro m mem
  rcases List.mem_append.mp mem with mem | mem
  · exact plain m mem
  · obtain ⟨n, known, rfl⟩ := List.mem_map.mp mem
    exact named n known

/-- Names below a path are further parts of it. -/
theorem joinAll_below {start : List Char} {parts : List (List Char)} (isStart : IsStart start) (plain : Plain parts)
    {names : List String} (named : ∀ n ∈ names, Entry.PlainName n) :
    joinAll (below start parts) names = below start (parts ++ names.map (·.toList)) := by
  induction names generalizing parts with
  | nil => simp [joinAll]
  | cons n rest ih =>
    obtain ⟨own, others⟩ := List.forall_mem_cons.mp named
    have first : ∀ m ∈ [n], Entry.PlainName m := by simpa using own
    have more : Plain (parts ++ [n.toList]) := plain_append plain first
    have step := join_below isStart plain own.2
    rw [joinAll, List.foldl_cons, step, ← joinAll, ih more others, List.map_cons, List.append_assoc]
    rfl

theorem tidy_eq (p : List Char) : tidy p =
    if (below (root p) ((names p).filter (· != ['.']))).isEmpty then ['.']
    else below (root p) ((names p).filter (· != ['.'])) := by
  have parts : (pieces p).filter (fun c => !c.isEmpty && c != ['.']) = (names p).filter (· != ['.']) := by
    rw [names, List.filter_filter]
    exact List.filter_congr fun c _ => Bool.and_comm _ _
  unfold tidy
  rw [parts]
  rfl

/-- Parts that are points go away. -/
theorem tidy_below {start : List Char} {parts : List (List Char)} (isStart : IsStart start) (plain : Plain parts)
    (kept_ne : parts.filter (· != ['.']) ≠ []) : tidy (below start parts) = below start (parts.filter (· != ['.'])) := by
  have kept : Plain (parts.filter (· != ['.'])) := fun n mem => plain n (List.mem_filter.mp mem).1
  have filled : ¬ (below start (parts.filter (· != ['.']))).isEmpty := by
    simpa using below_ne_nil kept kept_ne
  rw [tidy_eq, root_below_start isStart plain, names_below_start isStart plain, if_neg filled]

/-- A tidy path is the point alone or has parts that are no points. -/
theorem tidy_cases (p : List Char) :
    tidy p = ['.'] ∨ ∃ start parts, IsStart start ∧ Plain parts ∧ ['.'] ∉ parts ∧ tidy p = below start parts := by
  rw [tidy_eq]
  split
  next => exact .inl rfl
  next =>
    refine .inr ⟨root p, (names p).filter (· != ['.']), isStart_root p, ?_, by simp, rfl⟩
    intro n mem
    obtain ⟨piece, nonempty⟩ := List.mem_filter.mp (List.mem_filter.mp mem).1
    exact ⟨by simpa using nonempty, Text.not_mem_of_mem_splitOn piece⟩

section Files

variable {names : List String}

theorem filter_points {parts : List (List Char)} (noPoint : ['.'] ∉ parts) : parts.filter (· != ['.']) = parts := by
  rw [List.filter_eq_self]
  intro n mem
  rw [bne_iff_ne]
  rintro rfl
  exact noPoint mem

theorem point_not_mem_chars (noPoint : "." ∉ names) : ['.'] ∉ names.map (·.toList) := by
  intro mem
  obtain ⟨n, known, point⟩ := List.mem_map.mp mem
  have same : n = "." := String.toList_injective point
  exact noPoint (same ▸ known)

variable (named : ∀ n ∈ names, Entry.PlainName n) (noPoint : "." ∉ names) (nonempty : names ≠ [])
include named noPoint nonempty

/-- Below any directory but the point the path of a file is tidy. -/
theorem tidy_joinAll {p : List Char} (notPoint : tidy p ≠ ['.']) :
    tidy (joinAll (tidy p) names) = joinAll (tidy p) names := by
  obtain ⟨start, parts, isStart, plain, noPoints, eq⟩ := (tidy_cases p).resolve_left notPoint
  have kept : (parts ++ names.map (·.toList)).filter (· != ['.']) = parts ++ names.map (·.toList) := by
    rw [List.filter_append, filter_points noPoints, filter_points (point_not_mem_chars noPoint)]
  rw [eq, joinAll_below isStart plain named, tidy_below isStart (plain_append plain named), kept]
  rw [kept]
  simp [nonempty]

/-- Below the point the path of a file is the point and then the tidy path, which is relative. -/
theorem joinAll_point : joinAll ['.'] names = '.' :: '/' :: tidy (joinAll ['.'] names) ∧
    tidy (joinAll ['.'] names) ≠ [] ∧ isAbsolute (tidy (joinAll ['.'] names)) = false := by
  have point : Plain [['.']] := by simp [Plain]
  have whole : joinAll ['.'] names = below [] ([['.']] ++ names.map (·.toList)) :=
    joinAll_below (.inl rfl) point named
  have kept : ([['.']] ++ names.map (·.toList)).filter (· != ['.']) = names.map (·.toList) := by
    rw [List.filter_append, filter_points (point_not_mem_chars noPoint)]
    rfl
  have tidied : tidy (joinAll ['.'] names) = below [] (names.map (·.toList)) := by
    rw [whole, tidy_below (.inl rfl) (plain_append point named), kept]
    rw [kept]
    simpa using nonempty
  have nothing : Plain [] := by simp [Plain]
  have plain : Plain (names.map (·.toList)) := plain_append nothing named
  rw [tidied, whole]
  refine ⟨?_, below_ne_nil plain (by simpa using nonempty), isAbsolute_joinWith plain⟩
  obtain ⟨n, rest, rfl⟩ := List.exists_cons_of_ne_nil nonempty
  rfl

end Files

end Path

/-- No entry is named by a point, which stands for the directory itself. -/
def Entry.NoPoint (root : Entry) : Prop := ∀ way e, root.at? way = some e → "." ∉ way

/-- A file is found under its path without a point in front. -/
theorem FileTree.isFile_of_point {t : FileTree} {rest : List Char} (nonempty : rest ≠ [])
    (relative : Path.isAbsolute rest = false) (file : t.isFile ('.' :: '/' :: rest)) : t.isFile rest := by
  have pieces : Path.pieces ('.' :: '/' :: rest) = ['.'] :: Path.pieces rest :=
    Text.splitOn_append_cons (show '/' ∉ ['.'] by decide) rest
  have here : t.locate false ('.' :: '/' :: rest) =
      follow t.root false linkLimit t.work (['.'] :: Path.pieces rest) := by
    rw [locate, if_neg (List.cons_ne_nil _ _), pieces]
    rfl
  have there : t.locate false rest = follow t.root false linkLimit t.work (Path.pieces rest) := by
    rw [locate, if_neg nonempty, relative]
    rfl
  rw [isFile, read, here, follow] at file
  rw [isFile, read, there]
  cases work : t.root.at? t.work with
  | none =>
    rw [work] at file
    cases file
  | some e =>
    cases e with
    | directory entries =>
      simp only [work, or_true, if_true] at file
      exact file
    | file bytes =>
      rw [work] at file
      cases file
    | link target =>
      rw [work] at file
      cases file

namespace Scan

/-- A scan of a directory and a scan of one of its files by name treat the file alike. -/
def Agrees (t : FileTree) (target : String) (settings : Option Settings) (file : String) : Prop :=
  (∃ kept, collect t target settings = some kept ∧ file ∈ kept) ↔
    ∃ kept, collect t file settings = some kept ∧ kept ≠ []

section Either

variable {t : FileTree} {file : String} (settings : Option Settings)

theorem collect_directory_iff {target : String} {names : List String} {entries : List (String × Entry)}
    (found : t.directory? (Path.tidy target.toList) = some (names, entries)) {files : List String}
    (listed : collect t target none = some files) (mem : file ∈ files) :
    (∃ kept, collect t target settings = some kept ∧ file ∈ kept) ↔ settings.any (·.excludes file) = false := by
  have filtered : collect t target settings = some (files.filter fun p => !settings.any (·.excludes p)) := by
    rw [collect_directory found] at listed ⊢
    rw [← Option.some.inj listed]
    simp
  rw [filtered]
  simp [mem]

theorem collect_file_iff (regular : t.isFile (Path.tidy file.toList)) :
    (∃ kept, collect t file settings = some kept ∧ kept ≠ []) ↔
      settings.any (·.excludes (String.ofList (Path.tidy file.toList))) = false := by
  rw [collect, if_pos regular]
  simp

end Either

/-- A file that the scan of a directory lists has the directory's tidy path and plain names, at least one, below it. -/
theorem exists_path {t : FileTree} (well : t.root.WellNamed) (noPoint : t.root.NoPoint)
    {target : String} {names : List String} {entries : List (String × Entry)}
    (found : t.directory? (Path.tidy target.toList) = some (names, entries)) {files : List String}
    (listed : collect t target none = some files) {file : String} (mem : file ∈ files) :
    ∃ way, file = String.ofList (Path.joinAll (Path.tidy target.toList) way) ∧ (∀ n ∈ way, Entry.PlainName n) ∧
      "." ∉ way ∧ way ≠ [] := by
  obtain ⟨ways, collected, -, chosen⟩ := collect_walks found none well
  obtain rfl : ways.map _ = files := Option.some.inj (collected.symm.trans listed)
  obtain ⟨w, known, rfl⟩ := List.mem_map.mp mem
  obtain ⟨x, leads, -⟩ := ((chosen w).mp known).1.leads
  have whole : t.root.at? (names ++ w.names) = some x := by
    rw [Entry.at?_append, FileTree.at?_of_directory? found]
    exact leads
  refine ⟨w.names, rfl, fun n hn => (well.at? whole).2 n (List.mem_append_right _ hn), ?_, by simp [Way.names]⟩
  exact fun point => noPoint _ _ whole (List.mem_append_right _ point)

/-- A scan of a directory and a scan of one of its files agree on whether the settings exclude the file, unless the
directory is the working directory by the name of a point. Then they agree exactly if the patterns do not tell the path
with the point in front from the one without it. -/
theorem exclusion_agrees_iff {t : FileTree} (well : t.root.WellNamed) (noPoint : t.root.NoPoint)
    {target : String} {names : List String} {entries : List (String × Entry)}
    (found : t.directory? (Path.tidy target.toList) = some (names, entries))
    (settings : Option Settings) {files : List String} (listed : collect t target none = some files) {file : String}
    (mem : file ∈ files) (regular : t.isFile file.toList) :
    (Path.tidy target.toList ≠ ['.'] → Agrees t target settings file) ∧
    (Path.tidy target.toList = ['.'] → ∃ rest, file = "./" ++ rest ∧
      (Agrees t target settings file ↔ settings.any (·.excludes file) = settings.any (·.excludes rest))) := by
  obtain ⟨way, path, named, noPoints, nonempty⟩ := exists_path well noPoint found listed mem
  have chars : file.toList = Path.joinAll (Path.tidy target.toList) way := by rw [path, String.toList_ofList]
  have below := collect_directory_iff settings found listed mem
  constructor
  · intro notPoint
    have tidy : Path.tidy file.toList = file.toList := by
      rw [chars]
      exact Path.tidy_joinAll named noPoints nonempty notPoint
    have alone := collect_file_iff settings (tidy ▸ regular)
    rw [tidy, String.ofList_toList] at alone
    exact below.trans alone.symm
  · intro point
    have parts := Path.joinAll_point named noPoints nonempty
    rw [← point, ← chars] at parts
    obtain ⟨whole, filled, relative⟩ := parts
    -- Alone, the file is tested without the point in front.
    have alone := collect_file_iff settings (FileTree.isFile_of_point filled relative (whole ▸ regular))
    refine ⟨String.ofList (Path.tidy file.toList), ?_, ?_⟩
    · apply String.toList_injective
      simpa using whole
    · rw [Agrees, below, alone]
      cases settings.any (·.excludes file) <;> simp

/-- A directory with one script. -/
def oneTest : List (String × Entry) := [("app.test.js", .file [])]

theorem wellNamed_oneTest : Entry.WellNamed (.directory oneTest) := by
  refine .directory ⟨by decide, by decide⟩ ?_
  simp only [oneTest, List.forall_mem_cons]
  exact ⟨.file _, by simp⟩

theorem noPoint_oneTest : Entry.NoPoint (.directory oneTest) := by
  intro way e h
  cases way with
  | nil => simp
  | cons n rest =>
    obtain ⟨child, first, below⟩ := Option.bind_eq_some_iff.mp h
    have named : n = "app.test.js" ∧ child = .file [] := by
      have only := Entry.mem_of_lookup first
      simpa [oneTest] using only
    obtain ⟨rfl, rfl⟩ := named
    cases rest with
    | nil => decide
    | cons m more => cases below

/-- The pattern excludes the script in a scan of the point and does not exclude it by its name; in a scan of the root
the two agree. -/
theorem exclusion_of_point :
    let t : FileTree := ⟨.directory oneTest, []⟩
    let settings : Settings := { excludePaths := ["**/*.test.js"] }
    t.root.WellNamed ∧ t.root.NoPoint ∧ t.isFile "./app.test.js".toList ∧
    settings.excludes "./app.test.js" = true ∧ settings.excludes "app.test.js" = false ∧
    ¬ Agrees t "." (some settings) "./app.test.js" ∧ Agrees t "/" (some settings) "/app.test.js" := by
  intro t settings
  have listed (target : String) (found : t.directory? (Path.tidy target.toList) = some ([], oneTest)) :
      ∃ files, collect t target none = some files ∧
        String.ofList (Path.joinAll (Path.tidy target.toList) ["app.test.js"]) ∈ files := by
    obtain ⟨ways, collected, -, mem⟩ := collect_walks found none wellNamed_oneTest
    have chosen : Chosen t (Path.tidy target.toList) (.directory oneTest) ⟨[], "app.test.js"⟩ := {
      leads := ⟨.file [], rfl, rfl⟩
      entered := by simp
      script := (Path.isScript_iff (by decide)).mp (by decide +kernel)
      written := fun h => absurd ((Path.isGenerated_iff (by decide)).mpr h) (by decide +kernel) }
    exact ⟨_, collected, List.mem_map.mpr ⟨_, (mem _).mpr ⟨chosen, rfl⟩, rfl⟩⟩
  have point : t.directory? (Path.tidy ".".toList) = some ([], oneTest) := by cbv
  have root : t.directory? (Path.tidy "/".toList) = some ([], oneTest) := by cbv
  have regular : t.isFile "./app.test.js".toList := by cbv
  have regular' : t.isFile "/app.test.js".toList := by cbv
  have excluded : settings.excludes "./app.test.js" = true := by cbv
  have kept : settings.excludes "app.test.js" = false := by cbv
  refine ⟨wellNamed_oneTest, noPoint_oneTest, regular, excluded, kept, fun agrees => ?_, ?_⟩
  · obtain ⟨files, collected, mem⟩ := listed "." point
    have mem : "./app.test.js" ∈ files := mem
    obtain ⟨rest, whole, agreement⟩ :=
      (exclusion_agrees_iff wellNamed_oneTest noPoint_oneTest point (some settings) collected mem regular).2 rfl
    have same : rest = "app.test.js" := by
      apply String.toList_injective
      have chars : "./".toList ++ rest.toList = "./app.test.js".toList := by rw [whole, String.toList_append]
      exact List.append_cancel_left (show _ = "./".toList ++ "app.test.js".toList from chars)
    have alike : settings.excludes "./app.test.js" = settings.excludes rest := agreement.mp agrees
    rw [same, excluded, kept] at alike
    cases alike
  · obtain ⟨files, collected, mem⟩ := listed "/" root
    have mem : "/app.test.js" ∈ files := mem
    exact (exclusion_agrees_iff wellNamed_oneTest noPoint_oneTest root (some settings) collected mem regular').1
      (by decide)

end Scan

end ScriptAudit
