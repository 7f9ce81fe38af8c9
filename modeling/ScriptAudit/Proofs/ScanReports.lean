import Mathlib
import ScriptAudit.Proofs.Conversion
import ScriptAudit.Proofs.NumberLexemes
import ScriptAudit.Proofs.Parsing
import ScriptAudit.Proofs.Utf8
import ScriptAudit.Scan.Target

namespace ScriptAudit

/-- A number that appears in a program has a value. -/
theorem Appears.literalValue {src : SourceBytes} {n : ParseTree} {node : Node} (h : Appears src n node)
    (number : n.type = "number") : ∃ d, Number.literalValue (src.slice n.start n.stop) = .ok d := by
  have shape : ParseTree.shape n.type = .literal := by rw [number]; rfl
  cases node with
  | literal l v raw =>
    obtain ⟨d, hd, -⟩ := h.2.2.2 number
    exact ⟨d, hd⟩
  | member | call => exact absurd (shape.symm.trans h.1) (by decide)
  | function =>
    rcases h with h | h
    · exact absurd (shape.symm.trans h.1) (by simp)
    · exact absurd (shape.symm.trans h.1) (by decide)
  | program | identifier | declarator | declaration | assignment | generic => exact h.elim

namespace Script

/-- A text that parses and holds a number past the largest double. -/
def Overflows (source : String) : Prop :=
  (JavaScript.parse source.toList).hasError = false ∧
    ∃ n ∈ (JavaScript.parse source.toList).readCode, n.type = "number" ∧
      Number.IsTooLarge ((SourceBytes.ofText source.toList).slice n.start n.stop)

instance (source : String) : Decidable (Overflows source) := instDecidableAnd

theorem literalValue_error_iff {s : List Char} {n : ParseTree} (mem : n ∈ (JavaScript.parse s).readCode)
    (number : n.type = "number") (fault : Number.NumeralFault) :
    Number.literalValue ((SourceBytes.ofText s).slice n.start n.stop) = .error fault ↔
      fault = .tooLarge ∧ Number.IsTooLarge ((SourceBytes.ofText s).slice n.start n.stop) := by
  obtain ⟨before, rest, k, rfl, length, start, stop⟩ := JavaScript.number_of_mem_readCode mem number
  have slice : (SourceBytes.ofText (before ++ rest)).slice n.start n.stop = rest.take k := by
    have cut := SourceBytes.slice_ofText Mark.zero rfl before (rest.take k) (rest.drop k)
    rwa [List.take_append_drop, ← start, ← stop] at cut
  rw [slice]
  exact (JavaScript.numberForm_of_numberLength? length).literalValue_error fault

section Stack

variable {source : String} {stack : CallStack}

theorem read_of_holds (room : stack.holds (JavaScript.parse source.toList) = true) :
    read source stack = ofTree source (JavaScript.parse source.toList) :=
  if_pos room

theorem read_of_full (full : stack.holds (JavaScript.parse source.toList) = false) :
    read source stack = .error (.conversion .tooDeep) := by
  rw [read, full]
  rfl

end Stack

theorem ofTree_eq {source : String} {tree : ParseTree} (fine : tree.hasError = false) :
    ofTree source tree = (Node.ofParseTree (SourceBytes.ofText source.toList) tree).mapError .conversion := by
  rw [ofTree, fine]
  rfl

theorem ofTree_of_fits {source : String} (fine : (JavaScript.parse source.toList).hasError = false)
    (fits : ¬ Overflows source) : ∃ root, ofTree source (JavaScript.parse source.toList) = .ok root := by
  have renders := Node.ofParseTree_renders (SourceBytes.ofText source.toList)
    (JavaScript.grammatical_parse source.toList)
  rw [ofTree_eq fine]
  cases converted : Node.ofParseTree (SourceBytes.ofText source.toList) (JavaScript.parse source.toList) with
  | ok root => exact ⟨root, rfl⟩
  | error fault =>
    rw [converted] at renders
    obtain ⟨n, mem, f, ⟨number, unreadable⟩, -⟩ := renders
    exact absurd ⟨fine, n, mem, number, ((literalValue_error_iff mem number f).mp unreadable).2⟩ fits

theorem ofTree_of_overflows {source : String} (h : Overflows source) :
    ofTree source (JavaScript.parse source.toList) = .error (.conversion (.numeral .tooLarge)) := by
  obtain ⟨fine, n, mem, number, large⟩ := h
  have renders := Node.ofParseTree_renders (SourceBytes.ofText source.toList)
    (JavaScript.grammatical_parse source.toList)
  rw [ofTree_eq fine]
  cases converted : Node.ofParseTree (SourceBytes.ofText source.toList) (JavaScript.parse source.toList) with
  | ok root =>
    rw [converted, rendersNode_ok] at renders
    have valued : List.Forall₂ (fun m node => (m.type = "number" → ∃ d, Number.literalValue
        ((SourceBytes.ofText source.toList).slice m.start m.stop) = .ok d) ∧ Appears _ m node) _ _ :=
      renders.imp fun _ _ appears => ⟨appears.literalValue, appears⟩
    obtain ⟨d, value⟩ := ((List.forall₂_and_left ..).mp valued).1 n mem number
    rw [(literalValue_error_iff mem number _).mpr ⟨rfl, large⟩] at value
    cases value
  | error fault =>
    rw [converted] at renders
    obtain ⟨m, memm, f, ⟨numberm, unreadable⟩, rfl⟩ := renders
    rw [((literalValue_error_iff memm numberm f).mp unreadable).1]
    rfl

/-- What keeps a text from having a report: its tree nests too deep, or it holds a number past the largest double. -/
def fault? (stack : CallStack) (source : String) : Option ConversionFault :=
  if stack.holds (JavaScript.parse source.toList) = false then some .tooDeep
  else if Overflows source then some (.numeral .tooLarge)
  else none

theorem fault?_eq_none_iff {stack : CallStack} {source : String} : fault? stack source = none ↔
    stack.holds (JavaScript.parse source.toList) = true ∧ ¬ Overflows source := by
  rw [fault?, ← Bool.not_eq_false]
  split_ifs with full large
  · exact iff_of_false (by simp) fun h => h.1 full
  · exact iff_of_false (by simp) fun h => h.2 large
  · exact iff_of_true rfl ⟨full, large⟩

theorem read_of_fault {stack : CallStack} {source : String} {fault : ConversionFault}
    (h : fault? stack source = some fault) : read source stack = .error (.conversion fault) := by
  rw [fault?] at h
  split_ifs at h with full large
  · rw [read_of_full full, ← Option.some.inj h]
  · rw [read_of_holds (Bool.not_eq_false _ ▸ full), ofTree_of_overflows large, ← Option.some.inj h]

end Script

/-- The text of a file, if it can be opened. -/
def FileTree.text? (t : FileTree) (path : String) : Option String :=
  (t.read path.toList).toOption.map fun bytes => String.ofList (textOfBytes bytes)

theorem FileTree.value_readText (t : FileTree) (path : String) : (t.readText path).value = t.text? path := by
  unfold readText text?
  cases t.read path.toList with
  | ok bytes => rfl
  | error fault => rfl

namespace Scan

/-- The files that can be opened, each with its text. -/
def readable (t : FileTree) (paths : List String) : List (String × String) :=
  paths.filterMap fun path => (t.text? path).map fun text => (path, text)

/-- The report on a text. If the text does not parse, it has an error and no findings. -/
structure IsReport (stack : CallStack) (settings : Option Settings) (path text : String) (report : FileReport) :
    Prop where
  value : (Scan.source text path settings stack).value = .ok report
  path : report.path = path
  error : (JavaScript.parse text.toList).hasError = true → report.error.isSome ∧ report.findings = []
  noError : (JavaScript.parse text.toList).hasError = false → report.error = none

section Source

variable {stack : CallStack} (settings : Option Settings) (path : String) {text : String}

theorem source_reports (fine : Script.fault? stack text = none) :
    ∃ report, IsReport stack settings path text report := by
  obtain ⟨room, fits⟩ := Script.fault?_eq_none_iff.mp fine
  have read := Script.read_of_holds room
  cases error : (JavaScript.parse text.toList).hasError with
  | true =>
    obtain ⟨e, he⟩ : ∃ e, Script.ofTree text (JavaScript.parse text.toList) = .error (.parse e) := by
      rw [Script.ofTree, error]
      exact ⟨_, rfl⟩
    refine ⟨⟨path, [], some e.message, some text⟩, ?_, rfl, fun _ => ⟨rfl, rfl⟩, ?_⟩
    · rw [Scan.source, read, he]
      rfl
    · intro fine
      rw [error] at fine
      cases fine
  | false =>
    obtain ⟨root, hroot⟩ := Script.ofTree_of_fits error fits
    refine ⟨(Scan.program text path settings root).value, ?_, rfl, ?_, fun _ => rfl⟩
    · rw [Scan.source, read, hroot]
      rfl
    · intro faulty
      rw [error] at faulty
      cases faulty

theorem source_fault {fault : ConversionFault} (h : Script.fault? stack text = some fault) :
    (Scan.source text path settings stack).value = .error fault := by
  rw [Scan.source, Script.read_of_fault h]
  rfl

end Source

section Files

variable (t : FileTree) (settings : Option Settings) {stack : CallStack} {path text : String}

theorem file_unread (h : t.text? path = none) : (file t path settings stack).value = .ok none := by
  rw [file, Logged.value_bind, t.value_readText, h]
  rfl

theorem file_read (h : t.text? path = some text) :
    (file t path settings stack).value = (Scan.source text path settings stack).value.map some := by
  rw [file, Logged.value_bind, t.value_readText, h]
  rfl

theorem files_cons (rest : List String) : (files t settings (path :: rest) stack).value =
    (file t path settings stack).value.bind fun report =>
      (files t settings rest stack).value.map (report.toList ++ ·) := by
  rw [files, Logged.value_bind]
  cases (file t path settings stack).value <;> rfl

theorem readable_cons (path : String) (rest : List String) : readable t (path :: rest) =
    ((t.text? path).map fun text => (path, text)).toList ++ readable t rest := by
  rw [readable, List.filterMap_cons]
  cases t.text? path <;> rfl

/-- Files without a fault all have their reports. -/
theorem files_report (paths : List String) (fine : ∀ f ∈ readable t paths, Script.fault? stack f.2 = none) :
    ∃ reports, (files t settings paths stack).value = .ok reports ∧
      List.Forall₂ (fun f report => IsReport stack settings f.1 f.2 report) (readable t paths) reports := by
  induction paths with
  | nil => exact ⟨[], rfl, .nil⟩
  | cons path rest ih =>
    rw [readable_cons] at fine ⊢
    obtain ⟨reports, value, each⟩ := ih fun f hf => fine f (List.mem_append_right _ hf)
    rw [files_cons]
    cases text : t.text? path with
    | none =>
      rw [file_unread t settings text, value]
      exact ⟨reports, rfl, each⟩
    | some text_ =>
      have first : Script.fault? stack text_ = none := fine (path, text_) (by simp [text])
      obtain ⟨report, isReport⟩ := source_reports settings path first
      rw [file_read t settings text, isReport.value, value]
      exact ⟨report :: reports, rfl, .cons isReport each⟩

/-- The first file with a fault ends the scan with it. -/
theorem files_fault (paths : List String) {fault : ConversionFault}
    (h : (readable t paths).findSome? (fun f => Script.fault? stack f.2) = some fault) :
    (files t settings paths stack).value = .error fault := by
  induction paths with
  | nil => cases h
  | cons path rest ih =>
    rw [readable_cons] at h
    rw [files_cons]
    cases text : t.text? path with
    | none =>
      rw [text] at h
      rw [file_unread t settings text, ih h]
      rfl
    | some text_ =>
      rw [text] at h
      rw [file_read t settings text]
      cases own : Script.fault? stack text_ with
      | some first =>
        rw [Option.map_some, Option.toList_some, List.singleton_append, List.findSome?_cons, own] at h
        rw [source_fault settings path own, Option.some.inj h]
        rfl
      | none =>
        obtain ⟨report, isReport⟩ := source_reports settings path own
        rw [Option.map_some, Option.toList_some, List.singleton_append, List.findSome?_cons, own] at h
        rw [isReport.value, ih h]
        rfl

end Files

/-- A scan has one report for each file that it collects and can open, in their order, unless one of them has a text
whose tree nests too deep or which parses and holds a number in base two, eight or sixteen that is past the largest
double. The first such file ends the scan with its fault. -/
theorem target_reports (stack : CallStack) (t : FileTree) (goal : String) (settings : Option Settings)
    (paths : List String) (found : collect t goal settings = some paths) :
    ((∀ f ∈ readable t paths, stack.holds (JavaScript.parse f.2.toList) = true ∧ ¬ Script.Overflows f.2) →
      ∃ reports, (target t goal settings stack).value = .ok reports ∧
        List.Forall₂ (fun f report => IsReport stack settings f.1 f.2 report) (readable t paths) reports) ∧
    (∀ fault, (readable t paths).findSome? (fun f =>
        if stack.holds (JavaScript.parse f.2.toList) = false then some .tooDeep
        else if Script.Overflows f.2 then some (.numeral .tooLarge)
        else none) = some fault →
      (target t goal settings stack).value = .error (.conversion fault)) ∧
    (∀ path text, stack.holds (JavaScript.parse text.toList) = true → ¬ Script.Overflows text →
      ∃ report, IsReport stack settings path text report) ∧
    (∀ path text, stack.holds (JavaScript.parse text.toList) = true → Script.Overflows text →
      (Scan.source text path settings stack).value = .error (.numeral .tooLarge)) ∧
    (∀ path text, stack.holds (JavaScript.parse text.toList) = false →
      (Scan.source text path settings stack).value = .error .tooDeep) ∧
    ∀ n, stack.HasLevels n → ∀ path text, (JavaScript.parse text.toList).levels ≤ n → ¬ Script.Overflows text →
      ∃ report, IsReport stack settings path text report := by
  have reports (path text : String) (room : stack.holds (JavaScript.parse text.toList) = true)
      (fits : ¬ Script.Overflows text) : ∃ report, IsReport stack settings path text report := by
    have fine : Script.fault? stack text = none := Script.fault?_eq_none_iff.mpr ⟨room, fits⟩
    exact source_reports settings path fine
  refine ⟨fun fine => ?_, fun fault first => ?_, reports, fun path text room large => ?_, fun path text full => ?_,
    fun n levels path text few fits => reports path text (levels (JavaScript.parse text.toList) few) fits⟩
  · obtain ⟨reports, value, each⟩ :=
      files_report t settings paths fun f hf => Script.fault?_eq_none_iff.mpr (fine f hf)
    refine ⟨reports, ?_, each⟩
    rw [target, found, Logged.value_bind, value]
    rfl
  · have ends : (readable t paths).findSome? (fun f => Script.fault? stack f.2) = some fault →
        (files t settings paths stack).value = .error fault := files_fault t settings paths
    unfold Script.fault? at ends
    rw [target, found, Logged.value_bind, ends first]
    rfl
  · apply source_fault
    rw [Script.fault?, room, if_neg (by simp), if_pos large]
  · apply source_fault
    rw [Script.fault?, if_pos full]

/-- A working directory with one script. -/
def oneScript (bytes : List UInt8) : FileTree := ⟨.directory [("a.js", .file bytes)], []⟩

theorem read_oneScript (bytes : List UInt8) : (oneScript bytes).read "a.js".toList = .ok bytes := by cbv

theorem collect_oneScript (bytes : List UInt8) : collect (oneScript bytes) "a.js" none = some ["a.js"] := by cbv

theorem readable_oneScript (bytes : List UInt8) :
    readable (oneScript bytes) ["a.js"] = [("a.js", String.ofList (textOfBytes bytes))] := by
  rw [readable_cons, FileTree.text?, read_oneScript]
  rfl

/-- The script `f(1)` has its report, and a number of 256 hexadecimal digits ends the scan. So does `f(1)` itself if
there is no room for as many levels. -/
theorem target_oneScript :
    (∃ reports, (target (oneScript [102, 40, 49, 41]) "a.js" none (.ofLevels 5)).value = .ok reports ∧
      List.Forall₂ (fun f report => IsReport (.ofLevels 5) none f.1 f.2 report)
        (readable (oneScript [102, 40, 49, 41]) ["a.js"]) reports) ∧
    (target (oneScript [102, 40, 49, 41]) "a.js" none (.ofLevels 4)).value = .error (.conversion .tooDeep) ∧
    (target (oneScript ([120, 61, 48, 120] ++ List.replicate 256 102)) "a.js" none (.ofLevels 5)).value =
      .error (.conversion (.numeral .tooLarge)) := by
  have levels : (JavaScript.parse (textOfBytes [102, 40, 49, 41])).levels = 5 := by decide +kernel
  have fits : ¬ Script.Overflows (String.ofList (textOfBytes [102, 40, 49, 41])) := by decide +kernel
  have few : (JavaScript.parse (textOfBytes ([120, 61, 48, 120] ++ List.replicate 256 102))).levels ≤ 5 := by
    decide +kernel
  have large : Script.Overflows (String.ofList (textOfBytes ([120, 61, 48, 120] ++ List.replicate 256 102))) := by
    rw [Script.Overflows, String.toList_ofList]
    decide +kernel
  have reports (n : Nat) (bytes : List UInt8) :=
    target_reports (.ofLevels n) _ "a.js" none ["a.js"] (collect_oneScript bytes)
  refine ⟨(reports 5 _).1 ?_, (reports 4 _).2.1 _ ?_, (reports 5 _).2.1 _ ?_⟩
  all_goals rw [readable_oneScript]
  · rw [List.forall_mem_singleton, String.toList_ofList]
    exact ⟨decide_eq_true (Nat.le_of_eq levels), fits⟩
  · have full : (CallStack.ofLevels 4).holds (JavaScript.parse (textOfBytes [102, 40, 49, 41])) = false :=
      decide_eq_false (by rw [levels]; decide)
    rw [List.findSome?_singleton, String.toList_ofList, if_pos full]
  · have room := CallStack.hasLevels_ofLevels 5 _ few
    rw [List.findSome?_singleton, String.toList_ofList, room, if_neg (by decide), if_pos large]

end Scan

end ScriptAudit
