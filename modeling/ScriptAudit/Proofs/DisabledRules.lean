import ScriptAudit.Command.Run
import ScriptAudit.Proofs.DisableOptions
import ScriptAudit.Proofs.RuleCounts
import ScriptAudit.Proofs.RuleIndependence
import ScriptAudit.Proofs.ScanReports

namespace ScriptAudit

/-- The report less the findings of some rules. -/
def FileReport.without (ids : List String) (report : FileReport) : FileReport :=
  { report with findings := report.findings.filter fun f => !ids.contains f.rule }

theorem allFindings_without (ids : List String) (all : List FileReport) :
    allFindings (all.map (·.without ids)) = (allFindings all).filter fun f => !ids.contains f.rule := by
  rw [allFindings, allFindings, List.flatMap_map, List.filter_flatMap]
  rfl

theorem ruleCounts_without (ids : List String) (all : List FileReport) :
    ruleCounts (all.map (·.without ids)) = (ruleCounts all).filter fun entry => !ids.contains entry.1 := by
  rw [ruleCounts, ruleCounts, allFindings_without, ← tally_filter _ fun id => !ids.contains id, List.filter_map]
  rfl

/-- The second settings disable some rules beside those of the first, and differ in nothing else. -/
structure DisablesToo (ids : List String) (a b : Option Settings) : Prop where
  catalog : Catalog.ofSettings b = (Catalog.ofSettings a).without ids
  keyword : (b.getD {}).suppressionKeyword = (a.getD {}).suppressionKeyword
  excludes : ∀ path, b.any (·.excludes path) = a.any (·.excludes path)

namespace Scan

section Disabled

variable {ids : List String} {a b : Option Settings} (h : DisablesToo ids a b) (t : FileTree)
include h

theorem program_disabled (source path : String) (root : Node) :
    (program source path b root).value = (program source path a root).value.without ids := by
  have found : (analyze source root (Catalog.ofSettings b)).value =
      (analyze source root (Catalog.ofSettings a)).value.filter fun f => !ids.contains f.rule := by
    rw [h.catalog, filter_analyze source root _ fun id => !ids.contains id]
    rfl
  simp only [program, Logged.value_bind, Logged.value_pure, found, h.keyword, FileReport.without, unsuppressed]
  rw [List.filter_comm]

theorem source_disabled (source path : String) :
    (Scan.source source path b).value = (Scan.source source path a).value.map (·.without ids) := by
  rw [Scan.source, Scan.source]
  cases Script.read source with
  | ok root =>
    simp only [Logged.value_bind, Logged.value_pure, program_disabled h]
    rfl
  | error fault => cases fault <;> rfl

theorem file_disabled (path : String) :
    (file t path b).value = (file t path a).value.map (·.map (·.without ids)) := by
  cases text : t.text? path with
  | none =>
    rw [file_unread t a text, file_unread t b text]
    rfl
  | some text_ =>
    rw [file_read t a text, file_read t b text, source_disabled h]
    cases (Scan.source text_ path a).value <;> rfl

theorem files_disabled (paths : List String) :
    (files t b paths).value = (files t a paths).value.map (·.map (·.without ids)) := by
  induction paths with
  | nil => rfl
  | cons path rest ih =>
    rw [files_cons, files_cons, file_disabled h, ih]
    cases (file t path a).value with
    | error fault => rfl
    | ok report => cases report <;> cases (files t a rest).value <;> rfl

theorem collect_disabled (goal : String) : collect t goal b = collect t goal a := by
  simp only [collect, h.excludes]

theorem target_disabled (goal : String) :
    (target t goal b).value = (target t goal a).value.map (·.map (·.without ids)) := by
  rw [target, target, collect_disabled h]
  cases collect t goal a with
  | none => rfl
  | some paths =>
    simp only [Logged.value_bind, files_disabled h]
    cases (files t a paths).value <;> rfl

end Disabled

end Scan

namespace Catalog

theorem without_congr (catalog : Catalog) {ids others : List String} (same : ∀ id, id ∈ ids ↔ id ∈ others) :
    catalog.without ids = catalog.without others := by
  unfold without
  apply List.filter_congr
  intro r _
  simp only [List.contains_eq_mem, same]

theorem without_without (catalog : Catalog) (ids others : List String) :
    (catalog.without ids).without others = catalog.without (ids ++ others) := by
  unfold without
  rw [List.filter_filter]
  apply List.filter_congr
  intro r _
  rw [List.contains_append, Bool.not_or, Bool.and_comm]

end Catalog

namespace Command

theorem ofSettings_withDisabled (ids : List String) (s : Option Settings) :
    Catalog.ofSettings (withDisabled ids s) =
      (Catalog.full (s.getD {})).without ((s.getD {}).disabledRules ++ ids) := by
  unfold withDisabled
  split_ifs with empty
  · subst empty
    rw [List.append_nil]
    cases s with
    | none => exact (List.filter_eq_self.mpr fun _ _ => rfl).symm
    | some s => rfl
  · rfl

theorem withDisabled_disablesToo {old more ids : List String} (adds : ∀ id, id ∈ more ↔ id ∈ old ∨ id ∈ ids)
    (s : Option Settings) : DisablesToo ids (withDisabled old s) (withDisabled more s) where
  catalog := by
    rw [ofSettings_withDisabled, ofSettings_withDisabled, Catalog.without_without]
    apply Catalog.without_congr
    intro id
    simp only [List.mem_append, adds, or_assoc]
  keyword := by
    have keeps (ids : List String) :
        ((withDisabled ids s).getD {}).suppressionKeyword = (s.getD {}).suppressionKeyword := by
      unfold withDisabled
      split <;> rfl
    rw [keeps, keeps]
  excludes path := by
    have keeps (ids : List String) : (withDisabled ids s).any (·.excludes path) = s.any (·.excludes path) := by
      unfold withDisabled
      split
      · rfl
      · cases s <;> rfl
    rw [keeps, keeps]

/-- What a scan comes to, less the findings of some rules. -/
def Scanned.without (ids : List String) : Scanned → Scanned
  | .noSettings => .noSettings
  | .noTarget => .noTarget
  | .reports hasFiles all => .reports hasFiles (all.map (·.without ids))

theorem any_findings (all : List FileReport) :
    all.any (!·.findings.isEmpty) = true ↔ ∃ f, f ∈ allFindings all := by
  simp only [List.any_eq_true, Bool.not_eq_true', List.isEmpty_eq_false_iff_exists_mem, allFindings,
    List.mem_flatMap]
  constructor
  · rintro ⟨report, mem, f, found⟩
    exact ⟨f, report, mem, found⟩
  · rintro ⟨f, report, mem, found⟩
    exact ⟨report, mem, f, found⟩

theorem exitCode_without (ids : List String) (all : List FileReport) :
    exitCode (all.map (·.without ids)) = if ∃ f ∈ allFindings all, f.rule ∉ ids then 1 else 0 := by
  have left := any_findings (all.map (·.without ids))
  simp only [allFindings_without, List.mem_filter, Bool.not_eq_true', List.contains_eq_mem,
    decide_eq_false_iff_not] at left
  exact if_congr left rfl rfl

namespace Request

theorem scan_disabled (r : Request) {more ids : List String}
    (adds : ∀ id, id ∈ more ↔ id ∈ r.disabled ∨ id ∈ ids) (t : FileTree) :
    ({ r with disabled := more }.scan t).value = (r.scan t).value.map (·.without ids) := by
  simp only [scan, Logged.value_bind]
  cases (Settings.load t r.target r.config).value with
  | error fault =>
    dsimp only
    cases fault.message? <;> rfl
  | ok found =>
    have too := withDisabled_disablesToo adds found
    simp only [Logged.value_bind, Scan.target_disabled too, Scan.collect_disabled too]
    cases (Scan.target t r.target (withDisabled r.disabled found)).value with
    | error fault => cases fault <;> rfl
    | ok all => rfl

/-- Whether a file can be written does not depend on what is written. -/
theorem save_completes {t u : FileTree} {path text : String} (h : save t path text = .ok u) (other : String) :
    ∃ u', save t path other = .ok u' := by
  unfold save FileTree.write at h ⊢
  cases place : t.locate false path.toList with
  | error fault =>
    rw [place] at h
    cases h
  | ok found =>
    rw [place] at h
    cases found with
    | absent names => exact ⟨_, rfl⟩
    | entry names e =>
      cases e with
      | directory entries => cases h
      | file bytes => exact ⟨_, rfl⟩
      | link goal => exact ⟨_, rfl⟩

/-- Reports that are put out set the exit code, and others could be put out as well. -/
theorem publishJson_completes {r : Request} {t : FileTree} {now : Moment} {all : List FileReport} {o : Outcome}
    (h : r.publishJson t now all = .ok o) : o.exit = exitCode all ∧
      ∀ (later : Moment) (others : List FileReport), ∃ o', r.publishJson t later others = .ok o' := by
  simp only [publishJson] at h ⊢
  cases file : r.reportFile? with
  | none =>
    rw [file] at h
    cases h
    exact ⟨rfl, fun _ _ => ⟨_, rfl⟩⟩
  | some path =>
    simp only [file] at h
    cases saved : save t path (Report.jsonText now all) with
    | error fault =>
      rw [saved] at h
      cases h
    | ok u =>
      rw [saved] at h
      cases h
      refine ⟨rfl, fun later others => ?_⟩
      obtain ⟨u', again⟩ := save_completes saved (Report.jsonText later others)
      simp only [again]
      exact ⟨_, rfl⟩

/-- A run that reports as JSON and does not end with status 2 puts out the reports of its scan. -/
theorem scan_of_run {r : Request} (json : r.format = .json) {t : FileTree} {now : Moment}
    {elapsed : Number.Double} {o : Outcome} (run : (r.run t now elapsed).value = .ok o) (scanned : o.exit ≠ 2) :
    ∃ hasFiles all, (r.scan t).value = .ok (.reports hasFiles all) ∧ r.publishJson t now all = .ok o := by
  rw [Request.run, Logged.value_bind, Logged.value_pure] at run
  cases scan : (r.scan t).value with
  | error fault =>
    rw [scan] at run
    cases run
  | ok result =>
    rw [scan] at run
    cases result with
    | noSettings =>
      cases run
      exact absurd rfl scanned
    | noTarget =>
      rw [Except.bind, publish, shown_of_all fun _ => rfl] at run
      cases run
      exact absurd rfl scanned
    | reports hasFiles all =>
      refine ⟨hasFiles, all, rfl, ?_⟩
      simpa only [Except.bind, publish, json] using run

theorem run_of_scan {r : Request} (json : r.format = .json) {t : FileTree} {hasFiles : Bool}
    {all : List FileReport} (scan : (r.scan t).value = .ok (.reports hasFiles all)) (now : Moment) (elapsed : Number.Double) :
    (r.run t now elapsed).value = r.publishJson t now all := by
  rw [Request.run, Logged.value_bind, scan]
  simp only [Except.bind, publish, json, Logged.value_pure]

/-- To disable more rules is to filter the report of a run that ends with one. The options for it add to the
request and change nothing else in it. The run with them ends with a report too: on the same files in
the same order, with the same errors, and with the findings of all other rules. It counts those, and its
status tells whether there are any. -/
theorem disabling_filters_report (r : Request) (json : r.format = .json) (ids : List String) :
    (∀ arguments : List String, ofArguments arguments = .ok r → (∀ id ∈ ids, id ∈ Catalog.ids) →
      ofArguments (disableOptions ids ++ arguments) = .ok { r with disabled := ids ++ r.disabled }) ∧
    ∀ more : List String, (∀ id, id ∈ more ↔ id ∈ r.disabled ∨ id ∈ ids) →
    ∀ (t : FileTree) (now later : Moment) (elapsed elapsed' : Number.Double) (o : Outcome),
    (r.run t now elapsed).value = .ok o → o.exit ≠ 2 →
    ∃ (hasFiles : Bool) (all : List FileReport) (o' : Outcome),
      (r.scan t).value = .ok (.reports hasFiles all) ∧ r.publishJson t now all = .ok o ∧
      ({ r with disabled := more }.run t later elapsed').value = .ok o' ∧
      r.publishJson t later (all.map (·.without ids)) = .ok o' ∧
      totalFindings (all.map (·.without ids)) =
        ((allFindings all).filter fun f => !ids.contains f.rule).length ∧
      ruleCounts (all.map (·.without ids)) = ((ruleCounts all).filter fun entry => !ids.contains entry.1) ∧
      (∀ id n, (id, n) ∈ ruleCounts all ↔ 0 < n ∧ ((allFindings all).map (·.rule)).count id = n) ∧
      o'.exit = if ∃ f ∈ allFindings all, f.rule ∉ ids then 1 else 0 := by
  constructor
  · intro arguments reads known
    rw [ofArguments_disableOptions known, reads]
    rfl
  · intro more adds t now later elapsed elapsed' o run scanned
    obtain ⟨hasFiles, all, scan, published⟩ := scan_of_run json run scanned
    have scan' : ({ r with disabled := more }.scan t).value =
        .ok (.reports hasFiles (all.map (·.without ids))) := by
      rw [scan_disabled r adds, scan]
      rfl
    have run' := run_of_scan (r := { r with disabled := more }) json scan' later elapsed'
    obtain ⟨o', published'⟩ := (publishJson_completes published).2 later (all.map (·.without ids))
    have exit := (publishJson_completes published').1
    refine ⟨hasFiles, all, o', scan, published, run'.trans published', published', ?_, ruleCounts_without ids all, ?_, ?_⟩
    · rw [totalFindings, allFindings_without]
    · intro id n
      exact mem_tally _ id n
    · rw [exit, exitCode_without]

theorem scan_oneScript (bytes : List UInt8) {report : FileReport}
    (value : (Scan.source (String.ofList (textOfBytes bytes)) "a.js" none).value = .ok report) :
    (scan { target := "a.js", format := .json } (Scan.oneScript bytes)).value = .ok (.reports true [report]) := by
  have loads : (Settings.load (Scan.oneScript bytes) "a.js" none).value = .ok none := by cbv
  have text : (Scan.oneScript bytes).text? "a.js" = some (String.ofList (textOfBytes bytes)) := by
    rw [FileTree.text?, Scan.read_oneScript]
    rfl
  have files : (Scan.files (Scan.oneScript bytes) none ["a.js"]).value = .ok [report] := by
    rw [Scan.files_cons, Scan.file_read _ none text, value]
    rfl
  have target : (Scan.target (Scan.oneScript bytes) "a.js" none).value = .ok [report] := by
    rw [Scan.target, Scan.collect_oneScript, Logged.value_bind, files]
    rfl
  simp [scan, loads, withDisabled, target, Scan.collect_oneScript]

/-- A script that logs a number, with all rules and without the one on numbers. -/
theorem report_without_magicNumber :
    let t := Scan.oneScript (Text.Utf8.encode "console.log(1)".toList)
    let now : Moment := ⟨2024, 1, 2, 3, 4, 5, 0⟩
    let r : Request := { target := "a.js", format := .json }
    let without : Request := { target := "a.js", format := .json, disabled := ["magic-number"] }
    ofArguments ["--disable", "magic-number", "--output", "json", "a.js"] = .ok without ∧
    ∃ all o o', (r.run t now .zero).value = .ok o ∧ o.exit ≠ 2 ∧ r.publishJson t now all = .ok o ∧
      (without.run t now .zero).value = .ok o' ∧
      r.publishJson t now (all.map (·.without ["magic-number"])) = .ok o' ∧
      ruleCounts all = [("debug-statement", 1), ("magic-number", 1)] ∧
      totalFindings (all.map (·.without ["magic-number"])) = 1 ∧ o'.exit = 1 := by
  intro t now r without
  let source := String.ofList (textOfBytes (Text.Utf8.encode "console.log(1)".toList))
  have reads : ofArguments ["--output", "json", "a.js"] = .ok r := by cbv
  have filters := disabling_filters_report r rfl ["magic-number"]
  have findings : (Scan.source source "a.js" none).value.toOption.map (·.findings) =
      some [⟨"debug-statement", "Console.log statement detected.", 1, 1⟩,
        ⟨"magic-number", "Magic number detected: 1. Consider defining a constant.", 1, 13⟩] := by
    decide +kernel
  obtain ⟨report, value⟩ : ∃ report, (Scan.source source "a.js" none).value = .ok report := by
    cases h : (Scan.source source "a.js" none).value with
    | ok report => exact ⟨report, rfl⟩
    | error fault =>
      rw [h] at findings
      cases findings
  rw [value] at findings
  have scan : (r.scan t).value = .ok (.reports true [report]) := scan_oneScript _ value
  have found := (List.append_nil report.findings).trans (Option.some.inj findings)
  change allFindings [report] = _ at found
  obtain ⟨o, published⟩ : ∃ o, r.publishJson t now [report] = .ok o := ⟨_, rfl⟩
  have run := (run_of_scan rfl scan now .zero).trans published
  have exit : o.exit ≠ 2 := by
    rw [(publishJson_completes published).1, exitCode]
    split <;> decide
  obtain ⟨_, all, o', scan', published, run', published', total, -, -, exit'⟩ :=
    filters.2 ["magic-number"] (by simp [r]) t now now .zero .zero o run exit
  have same : all = [report] := by
    rw [scan] at scan'
    cases scan'
    rfl
  subst same
  rw [found] at exit' total
  refine ⟨filters.1 _ reads (by decide), [report], o, o', run, exit, published, run', published', ?_, total, exit'⟩
  rw [ruleCounts, found]
  rfl

end Request

end Command

end ScriptAudit
