import ScriptAudit.Proofs.CodeRows
import ScriptAudit.Proofs.DisabledRules
import ScriptAudit.Proofs.JsonReports
import ScriptAudit.Proofs.SavedNotices
import ScriptAudit.Report.Plain
import ScriptAudit.Report.Terminal

namespace ScriptAudit

section Counts

theorem sum_bump (key : String) (counts : List (String × Nat)) :
    ((bump key counts).map (·.2)).sum = (counts.map (·.2)).sum + 1 := by
  induction counts with
  | nil => rfl
  | cons first rest ih =>
    rw [bump]
    split_ifs <;> simp only [List.map_cons, List.sum_cons, ih] <;> omega

theorem sum_tally (keys : List String) : ((tally keys).map (·.2)).sum = keys.length := by
  induction keys with
  | nil => rfl
  | cons key rest ih =>
    have step : tally (key :: rest) = bump key (tally rest) := rfl
    rw [step, sum_bump, ih, List.length_cons]

theorem mem_keys_tally (keys : List String) (key : String) : key ∈ (tally keys).map (·.1) ↔ key ∈ keys := by
  simp only [List.mem_map, Prod.exists, exists_and_right, exists_eq_right, mem_tally]
  rw [← List.count_pos_iff]
  constructor
  · rintro ⟨n, pos, rfl⟩
    exact pos
  · intro pos
    exact ⟨_, pos, rfl⟩

/-- One entry stands before another in the statistics: its count is greater, or the same and its key less. -/
def Outranks (a b : String × Nat) : Prop := b.2 < a.2 ∨ a.2 = b.2 ∧ a.1 < b.1

theorem descending_trans (a b c : String × Nat) :
    decide (b.2 ≤ a.2) = true → decide (c.2 ≤ b.2) = true → decide (c.2 ≤ a.2) = true := by
  simp only [decide_eq_true_eq]
  omega

theorem descending_total (a b : String × Nat) : (decide (b.2 ≤ a.2) || decide (a.2 ≤ b.2)) = true := by
  simp only [Bool.or_eq_true, decide_eq_true_eq]
  omega

theorem ranked_descending (counts : List (String × Nat)) : (ranked counts).Pairwise fun a b => b.2 ≤ a.2 := by
  have sorted : (ranked counts).Pairwise fun a b => decide (b.2 ≤ a.2) = true :=
    List.pairwise_mergeSort descending_trans descending_total counts
  exact sorted.imp of_decide_eq_true

/-- The entries with one count stay in their order. -/
theorem filter_ranked (counts : List (String × Nat)) (n : Nat) :
    (ranked counts).filter (·.2 = n) = counts.filter (·.2 = n) := by
  have level : (counts.filter (·.2 = n)).Pairwise fun a b => decide (b.2 ≤ a.2) = true := by
    refine List.pairwise_of_forall_mem_list fun a ha b hb => ?_
    have hn := of_decide_eq_true (List.mem_filter.mp ha).2
    have hm := of_decide_eq_true (List.mem_filter.mp hb).2
    exact decide_eq_true (by omega)
  have kept : (counts.filter (·.2 = n)).Sublist (ranked counts) :=
    List.sublist_mergeSort descending_trans descending_total level List.filter_sublist
  have sub := kept.filter (·.2 = n)
  rw [List.filter_filter] at sub
  simp only [Bool.and_self] at sub
  have size := ((List.mergeSort_perm counts fun a b => decide (b.2 ≤ a.2)).filter (·.2 = n)).length_eq
  exact (sub.eq_of_length size.symm).symm

theorem ranked_outranks {counts : List (String × Nat)} (h : Ascending counts) :
    (ranked counts).Pairwise Outranks := by
  rw [List.pairwise_iff_forall_sublist]
  intro a b pair
  have le := List.pairwise_iff_forall_sublist.mp (ranked_descending counts) pair
  rcases Nat.lt_or_eq_of_le le with less | same
  · exact .inl less
  · -- the two stand in this order among the entries with their count, and so they did before
    have among := pair.filter (·.2 = a.2)
    have both : [a, b].filter (·.2 = a.2) = [a, b] := by simp [same]
    rw [filter_ranked, both] at among
    exact .inr ⟨same.symm, List.pairwise_iff_forall_sublist.mp h (among.trans List.filter_sublist)⟩

end Counts

namespace Text

theorem lines_concat {last : List Char} (h : '\n' ∉ last) (a : List Char) :
    ∃ front, lines (a ++ '\n' :: last ++ ['\n']) = front ++ [last, []] := by
  obtain ⟨front, hfront, -⟩ := splitOn_eq_concat '\n' a
  have back : splitOn '\n' ('\n' :: last) = [] :: [last] := by
    rw [splitOn, if_pos rfl, splitOn_of_not_mem h]
  rw [lines_append_lineFeed, lines, splitOn_append hfront back, List.append_nil]
  exact ⟨front ++ [_], by simp only [List.append_assoc, List.cons_append, List.nil_append]; rfl⟩

end Text

namespace Report

/-- What a plain report says on one file. -/
def PlainEntry.ofFile (r : FileReport) : List PlainEntry :=
  (if r.failed then [.failure r.path (r.error.getD "")] else []) ++ r.findings.map (.finding r.path)

theorem PlainEntry.countP_ofFile (reports : List FileReport) :
    (reports.flatMap ofFile).countP (·.isFinding) = (allFindings reports).length := by
  have one (r : FileReport) : (ofFile r).countP (·.isFinding) = r.findings.length := by
    rw [ofFile, List.countP_append, List.countP_map]
    have failures : (if r.failed then [failure r.path (r.error.getD "")] else []).countP (·.isFinding) = 0 := by
      split <;> rfl
    rw [failures, Nat.zero_add]
    exact List.countP_eq_length.mpr fun _ _ => rfl
  rw [allFindings, List.countP_flatMap, List.length_flatMap]
  exact congrArg List.sum (List.map_congr_left fun r _ => one r)

namespace PlainReport

/-- The report has written some entries, and counted the findings among them. -/
structure Wrote (p : PlainReport) (written : List PlainEntry) : Prop where
  entries : p.entries.toList = written
  total : p.total = written.countP (·.isFinding)

namespace Wrote

variable {p : PlainReport} {written : List PlainEntry} (h : p.Wrote written)
include h

theorem addFinding (path : String) (f : Finding) : (p.addFinding path f).Wrote (written ++ [.finding path f]) where
  entries := by rw [PlainReport.addFinding, Array.toList_push, h.entries]
  total := by rw [PlainReport.addFinding, h.total, List.countP_append]; rfl

theorem addFailure (r : FileReport) :
    (p.addFailure r).Wrote (written ++ if r.failed then [.failure r.path (r.error.getD "")] else []) := by
  rw [PlainReport.addFailure]
  split_ifs
  · exact ⟨by rw [Array.toList_push, h.entries], by rw [h.total, List.countP_append]; rfl⟩
  · rwa [List.append_nil]

theorem addFindings (path : String) (all : List Finding) :
    (all.foldl (PlainReport.addFinding path) p).Wrote (written ++ all.map (.finding path)) := by
  induction all generalizing p written with
  | nil => rwa [List.map_nil, List.append_nil]
  | cons f rest ih =>
    rw [List.map_cons, List.append_cons]
    exact ih (h.addFinding path f)

theorem addFile (r : FileReport) : (p.addFile r).Wrote (written ++ PlainEntry.ofFile r) := by
  rw [PlainEntry.ofFile, ← List.append_assoc]
  exact (h.addFailure r).addFindings r.path r.findings

theorem addFiles (reports : List FileReport) :
    (reports.foldl PlainReport.addFile p).Wrote (written ++ reports.flatMap PlainEntry.ofFile) := by
  induction reports generalizing p written with
  | nil => rwa [List.flatMap_nil, List.append_nil]
  | cons r rest ih =>
    rw [List.flatMap_cons, ← List.append_assoc]
    exact ih (h.addFile r)

end Wrote

theorem wrote_ofReports (reports : List FileReport) :
    (ofReports reports).Wrote (reports.flatMap PlainEntry.ofFile) := by
  have start : empty.Wrote [] := ⟨rfl, rfl⟩
  exact start.addFiles reports

end PlainReport

theorem plainText_eq (reports : List FileReport) :
    plainText reports = String.join ((reports.flatMap PlainEntry.ofFile).map (·.text)) ++
      ("\nTotal findings: " ++ toString (allFindings reports).length ++ "\n") := by
  have wrote := PlainReport.wrote_ofReports reports
  unfold plainText PlainReport.text PlainReport.totalLine
  rw [wrote.entries, wrote.total, PlainEntry.countP_ofFile]

/-- The line on a file that could not be parsed. -/
def failureLine (r : FileReport) : String := r.path ++ ": parse error: " ++ r.error.getD ""

/-- The line on a finding: its place, its rule and its message. -/
def findingLine (path : String) (f : Finding) : String :=
  path ++ ":" ++ toString f.line ++ ":" ++ toString f.column ++ ": [" ++ f.rule ++ "] " ++ f.message

/-- The lines on a file. -/
def fileLines (r : FileReport) : List String :=
  (if r.failed then [failureLine r] else []) ++ r.findings.map (findingLine r.path)

theorem text_ofFile (r : FileReport) : (PlainEntry.ofFile r).map (·.text) = (fileLines r).map (· ++ "\n") := by
  have findings : (r.findings.map (PlainEntry.finding r.path)).map (·.text) =
      (r.findings.map (findingLine r.path)).map (· ++ "\n") := by
    rw [List.map_map, List.map_map]
    rfl
  rw [PlainEntry.ofFile, fileLines, List.map_append, List.map_append, findings]
  split
  · rfl
  · rfl

/-- The plain text is the lines on all files and then the total. -/
theorem plainText_lines (reports : List FileReport) :
    plainText reports = String.join ((reports.flatMap fileLines).map (· ++ "\n")) ++
      ("\nTotal findings: " ++ toString (allFindings reports).length ++ "\n") := by
  have lines : (reports.flatMap PlainEntry.ofFile).map (·.text) = (reports.flatMap fileLines).map (· ++ "\n") := by
    rw [List.map_flatMap, List.map_flatMap]
    exact List.flatMap_congr fun r _ => text_ofFile r
  rw [plainText_eq, lines]

theorem length_findingLines (reports : List FileReport) :
    (reports.flatMap fun r => r.findings.map (findingLine r.path)).length = (allFindings reports).length := by
  rw [allFindings, List.length_flatMap, List.length_flatMap]
  simp only [List.length_map]

theorem lineFeed_not_mem_number (n : Nat) : '\n' ∉ number n := by
  intro mem
  have digit := Nat.isDigit_of_mem_toDigits (by decide) (by decide) mem
  exact absurd digit (by decide)

/-- The line with the total. -/
def totalLine (n : Nat) : List Char := "Total findings: ".toList ++ number n

theorem lineFeed_not_mem_totalLine (n : Nat) : '\n' ∉ totalLine n := by
  unfold totalLine
  rw [List.mem_append, not_or]
  exact ⟨by decide, lineFeed_not_mem_number n⟩

theorem toList_total (n : Nat) :
    ("\nTotal findings: " ++ toString n ++ "\n").toList = '\n' :: totalLine n ++ ['\n'] := by
  have label : "\nTotal findings: ".toList = '\n' :: "Total findings: ".toList := rfl
  have digits : (toString n).toList = number n := Nat.toList_repr
  unfold totalLine
  rw [String.toList_append, String.toList_append, label, digits]
  rfl

theorem plainText_last_line (reports : List FileReport) : ∃ front,
    Text.lines (plainText reports).toList = front ++ [totalLine (allFindings reports).length, []] := by
  obtain ⟨front, lines⟩ := Text.lines_concat (lineFeed_not_mem_totalLine (allFindings reports).length)
    (String.join ((reports.flatMap PlainEntry.ofFile).map (·.text))).toList
  refine ⟨front, ?_⟩
  rw [← lines, plainText_eq, String.toList_append, toList_total, List.append_assoc]

/-- If no path, rule or message has a line break, each finding and each failure is a line of its own. -/
theorem lines_plainText {reports : List FileReport} (h : ∀ l ∈ reports.flatMap fileLines, '\n' ∉ l.toList) :
    Text.lines (plainText reports).toList =
      (reports.flatMap fileLines).map (·.toList) ++ [[], totalLine (allFindings reports).length, []] := by
  rw [plainText_lines, String.toList_append, toList_total]
  generalize reports.flatMap fileLines = written at h
  induction written with
  | nil =>
    have whole := Text.splitOn_of_not_mem (lineFeed_not_mem_totalLine (allFindings reports).length)
    change Text.lines ('\n' :: totalLine _ ++ ['\n']) = _
    rw [Text.lines_append_lineFeed, Text.lines, Text.splitOn, if_pos rfl, whole]
    rfl
  | cons l rest ih =>
    rw [List.forall_mem_cons] at h
    have joined : (String.join ((l :: rest).map (· ++ "\n"))).toList =
        l.toList ++ '\n' :: (String.join (rest.map (· ++ "\n"))).toList := by
      rw [List.map_cons, String.join_cons, String.toList_append, String.toList_append, List.append_assoc]
      rfl
    rw [joined, List.append_assoc, List.cons_append, Text.lines, Text.splitOn_append_cons h.1, ← Text.lines, ih h.2]
    rfl

/-- The rows of the statistics that count by rule come after four others, and an empty one sets them off. -/
theorem statistics_eq (reports : List FileReport) (elapsed : Number.Double) :
    (statistics reports elapsed).drop 4 =
      (if ranked (ruleCounts reports) = [] then [] else [([], [])]) ++
        (ranked (ruleCounts reports)).map fun entry => (entry.1.toList, number entry.2) := by
  simp only [statistics, List.isEmpty_iff]
  rfl

end Report

namespace Command

theorem exitCode_eq (reports : List FileReport) :
    exitCode reports = if 0 < (allFindings reports).length then 1 else 0 := by
  refine if_congr ?_ rfl rfl
  rw [any_findings, List.length_pos_iff_exists_mem]

namespace Request

/-- What to save the report comes to, but for its text. -/
def saving (r : Request) (t : FileTree) : Except RunFault Unit :=
  match r.reportFile? with
  | none => .ok ()
  | some path => (save t path "").map fun _ => ()

/-- Whether a report can be saved, and why not, does not depend on its text. -/
theorem saves (t : FileTree) (path text : String) :
    (save t path text).map (fun _ => ()) = (save t path "").map fun _ => () := by
  unfold save FileTree.write
  cases t.locate false path.toList with
  | error fault => rfl
  | ok found =>
    cases found with
    | absent names => rfl
    | entry names e =>
      cases e with
      | directory entries => rfl
      | file bytes => rfl
      | link goal => rfl

/-- What a run prints in text mode can be printed: standard output has its characters, and the name of the saved report
closes only tags that are open. -/
structure Printable (r : Request) (screen : Terminal.Screen) (now : Moment) (elapsed : Number.Double) (hasFiles : Bool)
    (reports : List FileReport) : Prop where
  report : ∀ l ∈ r.reportLines now elapsed hasFiles reports, ∀ c ∈ l, screen.takes c
  notice : ∀ path, r.reportFile? = some path →
    ∃ lines, savedLines? screen path = some lines ∧ ∀ l ∈ lines, ∀ c ∈ l, screen.takes c

theorem shown_eq_ok_iff {screen : Terminal.Screen} {lines : List Terminal.Line} :
    (∃ s, shown screen lines = .ok s) ↔ ∀ l ∈ lines, ∀ c ∈ l, screen.takes c := by
  unfold shown
  split
  next all =>
    refine iff_of_true ⟨_, rfl⟩ fun l hl c hc => ?_
    exact List.all_eq_true.mp (List.all_eq_true.mp all l hl) c hc
  next lacks =>
    refine iff_of_false (fun ⟨s, same⟩ => by cases same) fun all => lacks ?_
    exact List.all_eq_true.mpr fun l hl => List.all_eq_true.mpr (all l hl)

section Exit

variable (r : Request) (t : FileTree) (now : Moment) (elapsed : Number.Double) (screen : Terminal.Screen)
  (hasFiles : Bool) (reports : List FileReport)

theorem exit_publishJson :
    (r.publishJson t now reports).map (·.exit) = (r.saving t).map fun _ => exitCode reports := by
  unfold publishJson saving
  cases r.reportFile? with
  | none => rfl
  | some path =>
    have same := saves t path (Report.jsonText now reports)
    dsimp only
    rw [← same]
    cases save t path (Report.jsonText now reports) <;> rfl

theorem saving_of_file {path : String} (file : r.reportFile? = some path) (text : String) :
    r.saving t = (save t path text).map fun _ => () := by
  rw [saving, file, saves]

variable {r t} in
theorem exists_saved {path : String} (file : r.reportFile? = some path) (saved : r.saving t = .ok ()) (text : String) :
    ∃ tree, save t path text = .ok tree := by
  have same := r.saving_of_file t file text
  cases written : save t path text with
  | ok tree => exact ⟨tree, rfl⟩
  | error f =>
    rw [written, saved] at same
    cases same

theorem exists_of_bind_eq_ok {α β : Type} {x : Except RunFault α} {k : α → Except RunFault β} {b : β}
    (h : x >>= k = .ok b) : ∃ a, x = .ok a ∧ k a = .ok b := by
  cases x with
  | error f => cases h
  | ok a => exact ⟨a, rfl, h⟩

/-- A run that ends in text mode has the code, and its report could be saved and all of it printed. -/
theorem publishText_sound {o : Outcome} (h : r.publishText t now elapsed screen hasFiles reports = .ok o) :
    o.exit = exitCode reports ∧ r.saving t = .ok () ∧ r.Printable screen now elapsed hasFiles reports := by
  unfold publishText at h
  obtain ⟨report, front, h⟩ := exists_of_bind_eq_ok h
  have printed := shown_eq_ok_iff.mp ⟨report, front⟩
  cases file : r.reportFile? with
  | none =>
    rw [file] at h
    cases h
    refine ⟨rfl, by rw [saving, file], printed, fun path named => ?_⟩
    rw [file] at named
    cases named
  | some path =>
    rw [file] at h
    obtain ⟨saved, written, h⟩ := exists_of_bind_eq_ok h
    cases notice : savedLines? screen path with
    | none =>
      rw [notice] at h
      cases h
    | some lines =>
      rw [notice] at h
      obtain ⟨behind, back, h⟩ := exists_of_bind_eq_ok h
      cases h
      refine ⟨rfl, ?_, printed, fun path' named => ?_⟩
      · rw [r.saving_of_file t file (Report.plainText reports), written]
        rfl
      · obtain rfl := Option.some.inj (file.symm.trans named)
        exact ⟨lines, notice, shown_eq_ok_iff.mp ⟨behind, back⟩⟩

/-- In text mode a run ends if the report can be saved and all of it printed. -/
theorem publishText_complete (saved : r.saving t = .ok ())
    (printable : r.Printable screen now elapsed hasFiles reports) :
    ∃ o, r.publishText t now elapsed screen hasFiles reports = .ok o := by
  obtain ⟨report, front⟩ := shown_eq_ok_iff.mpr printable.report
  unfold publishText
  rw [front]
  cases file : r.reportFile? with
  | none => exact ⟨_, rfl⟩
  | some path =>
    obtain ⟨lines, notice, taken⟩ := printable.notice path file
    obtain ⟨behind, back⟩ := shown_eq_ok_iff.mpr taken
    obtain ⟨tree, written⟩ := exists_saved file saved (Report.plainText reports)
    exact ⟨_, by simp only [Except.bind, bind, written, notice, back]; rfl⟩

theorem publishText_markup (printed : ∀ l ∈ r.reportLines now elapsed hasFiles reports, ∀ c ∈ l, screen.takes c)
    {path : String} (file : r.reportFile? = some path) (saved : r.saving t = .ok ())
    (unclosed : savedLines? screen path = none) :
    r.publishText t now elapsed screen hasFiles reports = .error (.markup path) := by
  obtain ⟨report, front⟩ := shown_eq_ok_iff.mpr printed
  obtain ⟨tree, written⟩ := exists_saved file saved (Report.plainText reports)
  unfold publishText
  rw [front, file]
  simp only [Except.bind, bind, written, unclosed]

variable {r t hasFiles reports} {host : Host}

theorem run_json (scan : (r.scan t host).value = .ok (.reports hasFiles reports)) :
    ({ r with format := .json }.run t now elapsed host).value =
      { r with format := .json }.publishJson t now reports := by
  have same : ({ r with format := .json }.scan t host).value = (r.scan t host).value := rfl
  rw [run, Logged.value_bind, same, scan]
  rfl

theorem run_text (scan : (r.scan t host).value = .ok (.reports hasFiles reports)) :
    ({ r with format := .text }.run t now elapsed host).value =
      { r with format := .text }.publishText t now elapsed host.screen hasFiles reports := by
  have same : ({ r with format := .text }.scan t host).value = (r.scan t host).value := rfl
  rw [run, Logged.value_bind, same, scan]
  rfl

end Exit

end Request

open Report

/-- A tree with one directory, whose name is an opening bracket at its end. -/
def bracketTree : FileTree := ⟨.directory [("r[", .directory [])], []⟩

theorem scan_bracketTree (format : Format) (output : Option String) :
    (Request.scan { target := "r[", format := format, outputFile := output } bracketTree).value =
      .ok (.reports false []) := by
  have loads : (Settings.load bracketTree "r[" none).value = .ok none := by cbv
  have files : Scan.collect bracketTree "r[" none = some [] := by cbv
  have target : (Scan.target bracketTree "r[" none).value = .ok [] := by
    rw [Scan.target, files]
    rfl
  simp [Request.scan, loads, withDisabled, target, files]

end Command

end ScriptAudit
