import ScriptAudit.Proofs.CodeRows
import ScriptAudit.Proofs.ScanReports

namespace ScriptAudit

namespace Text

/-- A way to write a line break. -/
inductive LineBreak where
  | lf
  | crlf
  | cr
deriving DecidableEq

def LineBreak.text : LineBreak → List Char
  | lf => ['\n']
  | crlf => ['\r', '\n']
  | cr => ['\r']

/-- The text with each of its line breaks written in a way of its own, the one with number `k` as `ways k`. -/
def writeBreaks (ways : Nat → LineBreak) : List Char → List Char
  | [] => []
  | c :: rest =>
    if c = '\n' then (ways 0).text ++ writeBreaks (fun k => ways (k + 1)) rest
    else c :: writeBreaks ways rest

/-- The text with one line feed for each line break. A character is judged by the one behind it: a carriage return goes
before a line feed, and is a line feed elsewhere. -/
def unifyBreaks (s : List Char) : List Char :=
  (s.zip (s.tail.map some ++ [none])).filterMap fun pair =>
    if pair.1 = '\r' then (if pair.2 = some '\n' then none else some '\n') else some pair.1

theorem unifyBreaks_cons (c : Char) (rest : List Char) : unifyBreaks (c :: rest) =
    (if c = '\r' then (if rest.head? = some '\n' then none else some '\n') else some c).toList ++ unifyBreaks rest := by
  have pairs : (c :: rest).zip (rest.map some ++ [none]) =
      (c, rest.head?) :: rest.zip (rest.tail.map some ++ [none]) := by
    cases rest <;> rfl
  rw [unifyBreaks, List.tail_cons, pairs, List.filterMap_eq_flatMap_toList, List.flatMap_cons,
    ← List.filterMap_eq_flatMap_toList, unifyBreaks]

theorem lineFeeds_return {rest : List Char} (alone : rest.head? ≠ some '\n') :
    lineFeeds ('\r' :: rest) = '\n' :: lineFeeds rest := by
  cases rest with
  | nil => rfl
  | cons d rest => exact lineFeeds_return_of_ne (fun same => alone (congrArg some same)) rest

theorem lineFeeds_eq (s : List Char) : lineFeeds s = unifyBreaks s := by
  fun_induction lineFeeds s with
  | case1 rest ih => simp [unifyBreaks_cons, ih]
  | case2 rest single ih =>
    have alone : rest.head? ≠ some '\n' := by
      intro next
      obtain ⟨more, rfl⟩ := List.head?_eq_some_iff.mp next
      exact single more rfl
    simp [unifyBreaks_cons, alone, ih]
  | case3 c rest _ other ih =>
    rw [unifyBreaks_cons, if_neg other, ih]
    rfl
  | case4 => rfl

theorem return_not_mem_lineFeeds (s : List Char) : '\r' ∉ lineFeeds s := by
  fun_induction lineFeeds s with
  | case1 rest ih => simpa using ih
  | case2 rest _ ih => simpa using ih
  | case3 c rest _ other ih => exact List.not_mem_cons_of_ne_of_not_mem (Ne.symm other) ih
  | case4 => exact List.not_mem_nil

theorem eq_lf_of_head_writeBreaks {ways : Nat → LineBreak} {s : List Char}
    (h : (writeBreaks ways s).head? = some '\n') : ways 0 = .lf := by
  cases s with
  | nil => cases h
  | cons c rest =>
    rw [writeBreaks] at h
    split at h
    next =>
      cases first : ways 0 with
      | lf => rfl
      | crlf => simp [first, LineBreak.text] at h
      | cr => simp [first, LineBreak.text] at h
    next other => exact absurd (Option.some.inj h) other

/-- A text is read back from a writing of it, unless a line feed there is taken for the end of the break before it. -/
theorem lineFeeds_writeBreaks {ways : Nat → LineBreak} (apart : ∀ k, ways k = .cr → ways (k + 1) ≠ .lf)
    {s : List Char} (plain : '\r' ∉ s) : lineFeeds (writeBreaks ways s) = s := by
  induction s generalizing ways with
  | nil => rfl
  | cons c rest ih =>
    obtain ⟨hc, hrest⟩ := List.ne_and_not_mem_of_not_mem_cons plain
    rw [writeBreaks]
    split
    next feed =>
      subst feed
      have behind : lineFeeds (writeBreaks (fun k => ways (k + 1)) rest) = rest :=
        ih (fun k => apart (k + 1)) hrest
      cases first : ways 0 with
      | lf => exact (lineFeeds_cons_of_ne (by decide) _).trans (congrArg _ behind)
      | crlf => exact congrArg ('\n' :: ·) behind
      | cr =>
        -- A line feed right behind would make one break of the two.
        have alone : (writeBreaks (fun k => ways (k + 1)) rest).head? ≠ some '\n' :=
          fun next => apart 0 first (eq_lf_of_head_writeBreaks next)
        exact (lineFeeds_return alone).trans (congrArg _ behind)
    next => rw [lineFeeds_cons_of_ne (Ne.symm hc), ih apart hrest]

end Text

/-- The characters that bytes stand for: those with these bytes in UTF-8 or, where there are none, one for each byte. -/
def CharsOf (bytes : List UInt8) (s : List Char) : Prop :=
  Text.Utf8.encode s = bytes ∨
    (∀ u, Text.Utf8.encode u ≠ bytes) ∧ s = bytes.map fun b => Char.ofNat b.toNat

theorem exists_charsOf (bytes : List UInt8) : ∃ s, CharsOf bytes s ∧ textOfBytes bytes = Text.unifyBreaks s := by
  cases read : Text.Utf8.decode? bytes with
  | some s => exact ⟨s, .inl (Text.Utf8.decode?_eq_some_iff.mp read), by rw [textOfBytes, read, Text.lineFeeds_eq]⟩
  | none =>
    exact ⟨_, .inr ⟨Text.Utf8.decode?_eq_none_iff.mp read, rfl⟩, by rw [textOfBytes, read, Text.lineFeeds_eq]⟩

theorem textOfBytes_encode (s : List Char) : textOfBytes (Text.Utf8.encode s) = Text.lineFeeds s := by
  rw [textOfBytes, Text.Utf8.decode?_eq_some_iff.mpr rfl]

namespace Scan

/-- The path of a text matters to its report only as the path that is shown. -/
theorem value_source_path (source path other : String) (settings : Option Settings) :
    (Scan.source source path settings).value =
      (Scan.source source other settings).value.map fun r => { r with path := path } := by
  cases read : Script.read source with
  | ok root =>
    simp only [Scan.source, read]
    rfl
  | error fault =>
    simp only [Scan.source, read]
    cases fault <;> rfl

theorem source_of_value {source path : String} {settings : Option Settings} {r : FileReport}
    (h : (Scan.source source path settings).value = .ok r) : r.source = some source := by
  cases read : Script.read source with
  | ok root =>
    simp only [Scan.source, read] at h
    cases h
    rfl
  | error fault =>
    simp only [Scan.source, read] at h
    cases fault with
    | conversion f => cases h
    | parse e =>
      cases h
      rfl

/-- A text without carriage returns is read from its bytes with each line break written as a line feed, with or without
a carriage return before it, and also with every break written as a carriage return. So all these files have one report
but for the path in it. Every file that can be opened has a text, which holds no carriage returns. It is the text in
UTF-8 or else the text with a character for each byte, with one line feed for each line break. -/
theorem line_breaks_leave_no_trace (text : String) (plain : '\r' ∉ text.toList) (settings : Option Settings) :
    (∃ report : Except ConversionFault FileReport, (∀ r, report = .ok r → r.source = some text) ∧
      ∀ (t : FileTree) (path : String) (ways : Nat → Text.LineBreak),
        (∀ k, ways k ≠ .cr) ∨ (∀ k, ways k = .cr) →
        t.read path.toList = .ok (Text.Utf8.encode (Text.writeBreaks ways text.toList)) →
        (t.readText path).value = some text ∧
        (Scan.file t path settings).value = report.map fun r => some { r with path := path }) ∧
    ∀ (t : FileTree) (path : String) (bytes : List UInt8), t.read path.toList = .ok bytes →
      ∃ s read, CharsOf bytes s ∧ (t.readText path).value = some read ∧
        read.toList = Text.unifyBreaks s ∧ '\r' ∉ read.toList := by
  have readText {t : FileTree} {path : String} {bytes : List UInt8} (opened : t.read path.toList = .ok bytes) :
      t.text? path = some (String.ofList (textOfBytes bytes)) := by
    rw [FileTree.text?, opened]
    rfl
  refine ⟨⟨(Scan.source text "" settings).value, fun r => source_of_value, fun t path ways chosen opened => ?_⟩,
    fun t path bytes opened => ?_⟩
  · have apart : ∀ k, ways k = .cr → ways (k + 1) ≠ .lf := by
      intro k here next
      rcases chosen with noReturn | allReturns
      · exact noReturn k here
      · rw [allReturns] at next
        cases next
    have same : t.text? path = some text := by
      rw [readText opened, textOfBytes_encode, Text.lineFeeds_writeBreaks apart plain, String.ofList_toList]
    refine ⟨(t.value_readText path).trans same, ?_⟩
    rw [file_read t settings same, value_source_path text path "" settings]
    cases (Scan.source text "" settings).value <;> rfl
  · obtain ⟨s, chars, unified⟩ := exists_charsOf bytes
    refine ⟨s, _, chars, (t.value_readText path).trans (readText opened), ?_, ?_⟩
    · rw [String.toList_ofList, unified]
    · rw [String.toList_ofList, textOfBytes]
      exact Text.return_not_mem_lineFeeds _

/-- Two writings of one script have the same report, and a byte that is not UTF-8 is read as a character. -/
theorem report_of_other_breaks :
    '\r' ∉ "f(\n)".toList ∧
    (Scan.file (oneScript (Text.Utf8.encode "f(\r\n)".toList)) "a.js" none).value =
      (Scan.file (oneScript (Text.Utf8.encode "f(\r)".toList)) "a.js" none).value ∧
    ((oneScript [0xFF, 0x0D]).readText "a.js").value = some "ÿ\n" := by
  have plain : '\r' ∉ "f(\n)".toList := by decide
  obtain ⟨⟨report, -, same⟩, any⟩ := line_breaks_leave_no_trace "f(\n)" plain none
  have first := (same (oneScript (Text.Utf8.encode "f(\r\n)".toList)) "a.js" (fun _ => .crlf) (.inl (by simp))
    (read_oneScript _)).2
  have second := (same (oneScript (Text.Utf8.encode "f(\r)".toList)) "a.js" (fun _ => .cr) (.inr (by simp))
    (read_oneScript _)).2
  refine ⟨plain, first.trans second.symm, ?_⟩
  obtain ⟨s, read, chars, value, unified, -⟩ := any (oneScript [0xFF, 0x0D]) "a.js" [0xFF, 0x0D] (read_oneScript _)
  rw [value, ← String.ofList_toList (s := read), unified]
  rcases chars with valid | ⟨-, rfl⟩
  · rw [← Text.Utf8.decode?_eq_some_iff] at valid
    cases valid
  · rfl

end Scan

end ScriptAudit
