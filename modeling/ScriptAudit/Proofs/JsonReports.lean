import Mathlib.Tactic.IntervalCases
import ScriptAudit.Proofs.JsonGrammar
import ScriptAudit.Proofs.NumberText
import ScriptAudit.Proofs.RuleCounts
import ScriptAudit.Report.Json

namespace ScriptAudit

open Json

namespace JsonValue

mutual

/-- What the text of a value means. -/
def datum : JsonValue → Datum
  | null => .null
  | int i => .number i
  | text s => .text s
  | array items => .array (data items)
  | object members => .object (memberData members)

def data : List JsonValue → List Datum
  | [] => []
  | v :: rest => datum v :: data rest

def memberData : List (String × JsonValue) → List (String × Datum)
  | [] => []
  | (name, v) :: rest => (name, datum v) :: memberData rest

end

theorem data_eq (items : List JsonValue) : data items = items.map datum := by
  induction items with
  | nil => rfl
  | cons v rest ih => rw [data, ih, List.map_cons]

theorem memberData_eq (members : List (String × JsonValue)) :
    memberData members = members.map fun m => (m.1, m.2.datum) := by
  induction members with
  | nil => rfl
  | cons m rest ih => rw [memberData, ih, List.map_cons]

/-- What holds of a value whenever it holds of the values in it holds of every value. -/
theorem induction {motive : JsonValue → Prop} (null : motive .null) (int : ∀ i, motive (.int i))
    (text : ∀ s, motive (.text s)) (array : ∀ items, (∀ v ∈ items, motive v) → motive (.array items))
    (object : ∀ members, (∀ m ∈ members, motive m.2) → motive (.object members)) : ∀ v, motive v
  | .null => null
  | .int i => int i
  | .text s => text s
  | .array items => array items fun v _hv => induction null int text array object v
  | .object members => object members fun m _hm => induction null int text array object m.2
termination_by v => v
decreasing_by
  · have := List.sizeOf_lt_of_mem _hv
    simp only [JsonValue.array.sizeOf_spec]
    omega
  · have := List.sizeOf_lt_of_mem _hm
    obtain ⟨name, v⟩ := m
    simp only [JsonValue.object.sizeOf_spec, Prod.mk.sizeOf_spec] at this ⊢
    omega

section Numbers

theorem whole_toDigits (n : Nat) (t : List Char) : Whole (Nat.toDigits 10 n ++ t) n t := by
  rcases Nat.eq_zero_or_pos n with rfl | pos
  · exact .zero t
  · have digits : ∀ c ∈ Nat.toDigits 10 n, c.isDigit := fun c hc =>
      Nat.isDigit_of_mem_toDigits (by decide) (by decide) hc
    have value : Nat.ofDigitChars 10 (Nat.toDigits 10 n) 0 = n :=
      Nat.ofDigitChars_toDigits (by decide) (by decide)
    obtain ⟨c, rest, start, nonzero⟩ := Number.head_toDigits pos
    rw [start] at digits value ⊢
    have whole := Whole.digits nonzero digits t
    rwa [value] at whole

theorem unsigned_toDigits (n : Nat) (t : List Char) : Unsigned (Nat.toDigits 10 n ++ t) n t := by
  have unsigned := Unsigned.mk (whole_toDigits n t) (.absent t) (.absent t)
  simpa using unsigned

theorem number_intText (i : Int) (t : List Char) : Json.Number (Number.intText i ++ t) i t := by
  obtain ⟨n, rfl | rfl⟩ := i.eq_nat_or_neg
  · have text : Number.intText n = Nat.toDigits 10 n := by simp [Number.intText]
    rw [text, Int.cast_natCast]
    exact .plain (unsigned_toDigits n t)
  · rcases Nat.eq_zero_or_pos n with rfl | pos
    · exact .plain (unsigned_toDigits 0 t)
    · have text : Number.intText (-n) = '-' :: Nat.toDigits 10 n := by simp [Number.intText, pos]
      rw [text, Int.cast_neg, Int.cast_natCast]
      exact .minus (unsigned_toDigits n t)

end Numbers

section Texts

theorem hexValue?_digitChar {k : Nat} (hk : k < 16) : hexValue? k.digitChar = some k := by
  interval_cases k <;> decide

theorem unit?_hexDigits {n : Nat} (hn : n < 0x10000) : unit? (Text.hexDigits 4 n) = some n := by
  have digit (m : Nat) : hexValue? (m % 16).digitChar = some (m % 16) :=
    hexValue?_digitChar (Nat.mod_lt m (by decide))
  simp only [Text.hexDigits, List.nil_append, List.cons_append, unit?, digit, Option.bind_eq_bind, Option.bind_some,
    Option.pure_def, Option.some.injEq]
  omega

/-- What is written for a character is read as that character. -/
theorem chars_escape (c : Char) {s x t : List Char} (rest : Chars s x t) : Chars (escape c ++ s) (c :: x) t := by
  unfold escape
  split
  case h_8 quote backslash _ _ _ _ _ =>
    dsimp only
    split
    next printable =>
      simp only [Bool.and_eq_true, decide_eq_true_eq] at printable
      have plain : isPlain c = true := by
        simp only [isPlain, printable.1, decide_true, Bool.true_and, Bool.and_eq_true, bne_iff_ne]
        exact ⟨quote, backslash⟩
      exact .plain plain rest
    next =>
      split
      next small =>
        exact .escape (.unit (unit?_hexDigits small)) rest
      next large =>
        have bound : c.toNat < 0x110000 := by
          have valid : c.toNat.isValidChar := c.valid
          unfold Nat.isValidChar at valid
          omega
        have first := unit?_hexDigits (n := 0xD800 + (c.toNat - 0x10000) / 0x400) (by omega)
        have second := unit?_hexDigits (n := 0xDC00 + (c.toNat - 0x10000) % 0x400) (by omega)
        have halves : Escape _ c := .halves first second (by omega) (by omega) (by omega)
        simpa [unitEscape] using Chars.escape halves rest
  all_goals exact .escape (.letter rfl) rest

theorem quoted_reads (x : String) (t : List Char) : Quoted (quoted x ++ t) x t := by
  refine ⟨x.toList.flatMap escape ++ '"' :: t, by simp [quoted], ?_⟩
  induction x.toList with
  | nil => exact .close t
  | cons c rest ih =>
    rw [List.flatMap_cons, List.append_assoc]
    exact chars_escape c ih

end Texts

section Layout

theorem blanks_newLine (level : Nat) (t : List Char) : Blanks (newLine level ++ t) t := by
  have spaces (n : Nat) : Blanks (List.replicate n ' ' ++ t) t := by
    induction n with
    | zero => exact .none t
    | succ n ih => exact .more rfl ih
  exact .more rfl (spaces _)

theorem sign_newLine (c : Char) (level : Nat) (t : List Char) : Sign c (c :: (newLine level ++ t)) t :=
  ⟨newLine level ++ t, .none _, blanks_newLine level t⟩

theorem newLine_sign (c : Char) (level : Nat) (t : List Char) : Sign c (newLine level ++ c :: t) t :=
  ⟨t, blanks_newLine level _, .none t⟩

/-- Texts behind commas, each on a line of its own. -/
def further (level : Nat) (texts : List (List Char)) : List Char :=
  texts.flatMap fun i => ',' :: newLine level ++ i

theorem bracketed_cons (first last : Char) (level : Nat) (item : List Char) (rest : List (List Char))
    (t : List Char) :
    bracketed first last level (item :: rest) ++ t =
      first :: (newLine (level + 1) ++ (item ++ further (level + 1) rest ++ (newLine level ++ last :: t))) := by
  simp [bracketed, further]

/-- The text of a value is read as the value, whatever follows. -/
def IsRead (v : JsonValue) : Prop := ∀ level t, Reads (.value v.datum) (v.render level ++ t) t

theorem renderAll_reads {v : JsonValue} {rest : List JsonValue} (each : ∀ w ∈ v :: rest, w.IsRead) (level : Nat)
    (t : List Char) :
    Reads (.items (data (v :: rest))) (v.render level ++ further level (renderAll level rest) ++ t) t := by
  induction rest generalizing v with
  | nil =>
    have first := each v List.mem_cons_self level t
    simpa [further, renderAll, data] using Reads.lastItem first
  | cons w more ih =>
    have behind := ih fun w hw => each w (List.mem_cons_of_mem _ hw)
    have comma := sign_newLine ',' level (w.render level ++ further level (renderAll level more) ++ t)
    have first := each v List.mem_cons_self level
      (',' :: (newLine level ++ (w.render level ++ further level (renderAll level more) ++ t)))
    simpa [further, renderAll, data] using Reads.nextItem first comma behind

def memberText (level : Nat) (m : String × JsonValue) : List Char := quoted m.1 ++ ':' :: ' ' :: m.2.render level

theorem memberText_reads {m : String × JsonValue} (h : m.2.IsRead) (level : Nat) (t : List Char) :
    Reads (.member (m.1, m.2.datum)) (memberText level m ++ t) t := by
  have name := quoted_reads m.1 (':' :: ' ' :: (m.2.render level ++ t))
  have colon : Sign ':' (':' :: ' ' :: (m.2.render level ++ t)) (m.2.render level ++ t) :=
    ⟨_, .none _, .more rfl (.none _)⟩
  simpa [memberText] using Reads.member name colon (h level t)

theorem renderMembers_reads {m : String × JsonValue} {rest : List (String × JsonValue)}
    (each : ∀ w ∈ m :: rest, w.2.IsRead) (level : Nat) (t : List Char) :
    Reads (.members (memberData (m :: rest)))
      (memberText level m ++ further level (renderMembers level rest) ++ t) t := by
  induction rest generalizing m with
  | nil =>
    have first := memberText_reads (each m List.mem_cons_self) level t
    simpa [further, renderMembers, memberData] using Reads.lastMember first
  | cons w more ih =>
    have behind := ih fun w hw => each w (List.mem_cons_of_mem _ hw)
    have comma := sign_newLine ',' level (memberText level w ++ further level (renderMembers level more) ++ t)
    have first := memberText_reads (each m List.mem_cons_self) level
      (',' :: (newLine level ++ (memberText level w ++ further level (renderMembers level more) ++ t)))
    simpa [further, renderMembers, memberData, memberText] using Reads.nextMember first comma behind

theorem isRead (v : JsonValue) : v.IsRead := by
  induction v using JsonValue.induction with
  | null => exact fun level t => .scalar (.nullWord t)
  | int i => exact fun level t => .scalar (.number (number_intText i t))
  | text x => exact fun level t => .scalar (.text (quoted_reads x t))
  | array items ih =>
    intro level t
    cases items with
    | nil => exact .noItems ⟨_, .none _, .none _⟩ ⟨t, .none _, .none t⟩
    | cons v rest =>
      rw [render, renderAll, bracketed_cons]
      exact .array (sign_newLine '[' _ _) (renderAll_reads ih (level + 1) _) (newLine_sign ']' level t)
  | object members ih =>
    intro level t
    cases members with
    | nil => exact .noMembers ⟨_, .none _, .none _⟩ ⟨t, .none _, .none t⟩
    | cons m rest =>
      rw [render, renderMembers, bracketed_cons]
      exact .object (sign_newLine '\x7b' _ _) (renderMembers_reads ih (level + 1) _)
        (newLine_sign '\x7d' level t)

/-- The text of a value means that value and nothing else, also with a line break behind it. -/
theorem means_render (v : JsonValue) (d : Datum) :
    (Means (v.render 0) d ↔ d = v.datum) ∧ (Means (v.render 0 ++ ['\n']) d ↔ d = v.datum) := by
  have means (ending : List Char) (blank : Blanks ending []) : Means (v.render 0 ++ ending) v.datum :=
    ⟨_, ending, .none _, v.isRead 0 ending, blank⟩
  have plain := means [] (.none [])
  rw [List.append_nil] at plain
  have broken := means ['\n'] (.more rfl (.none []))
  constructor
  · exact ⟨fun h => h.unique plain, fun h => h ▸ plain⟩
  · exact ⟨fun h => h.unique broken, fun h => h ▸ broken⟩

end Layout

section Ascii

/-- All characters of the text are of seven bits. -/
def IsAscii (s : List Char) : Prop := ∀ c ∈ s, c.toNat < 0x80

theorem IsAscii.append {a b : List Char} (ha : IsAscii a) (hb : IsAscii b) : IsAscii (a ++ b) :=
  List.forall_mem_append.mpr ⟨ha, hb⟩

theorem IsAscii.flatMap {α : Type} {f : α → List Char} {l : List α} (h : ∀ a ∈ l, IsAscii (f a)) :
    IsAscii (l.flatMap f) := by
  intro c hc
  obtain ⟨a, ha, hc⟩ := List.mem_flatMap.mp hc
  exact h a ha c hc

theorem isAscii_toDigits (n : Nat) : IsAscii (Nat.toDigits 10 n) := by
  intro c hc
  have digit := Nat.isDigit_of_mem_toDigits (by decide) (by decide) hc
  simp only [Char.isDigit, Bool.and_eq_true, decide_eq_true_eq, UInt32.le_iff_toNat_le] at digit
  exact Nat.lt_of_le_of_lt digit.2 (by decide)

theorem isAscii_hexDigits (width n : Nat) : IsAscii (Text.hexDigits width n) := by
  induction width generalizing n with
  | zero => exact fun c hc => by cases hc
  | succ width ih =>
    have last : (n % 16).digitChar.toNat < 0x80 := by
      have hk := Nat.mod_lt n (y := 16) (by decide)
      interval_cases n % 16 <;> decide
    exact (ih _).append (by simpa [IsAscii] using last)

theorem isAscii_unitEscape (n : Nat) : IsAscii (unitEscape n) := by
  simp only [unitEscape, IsAscii, List.forall_mem_cons]
  exact ⟨by decide, by decide, isAscii_hexDigits 4 n⟩

theorem isAscii_escape (c : Char) : IsAscii (escape c) := by
  unfold escape
  split
  case h_8 =>
    dsimp only
    split
    next printable =>
      simp only [Bool.and_eq_true, decide_eq_true_eq] at printable
      simpa [IsAscii] using Nat.lt_succ_of_lt printable.2
    next =>
      split
      · exact isAscii_unitEscape _
      · exact (isAscii_unitEscape _).append (isAscii_unitEscape _)
  all_goals simp [IsAscii]

theorem isAscii_quoted (x : String) : IsAscii (quoted x) := by
  have inner := IsAscii.flatMap (l := x.toList) fun c _ => isAscii_escape c
  simpa [quoted, IsAscii, or_imp, forall_and] using inner

theorem isAscii_newLine (level : Nat) : IsAscii (newLine level) := by
  simp [newLine, IsAscii, or_imp, forall_and, List.mem_replicate]

theorem isAscii_bracketed {first last : Char} (level : Nat) {items : List (List Char)}
    (ends : first.toNat < 0x80 ∧ last.toNat < 0x80) (each : ∀ i ∈ items, IsAscii i) :
    IsAscii (bracketed first last level items) := by
  cases items with
  | nil => simpa [bracketed, IsAscii] using ends
  | cons item rest =>
    obtain ⟨own, others⟩ := List.forall_mem_cons.mp each
    have single {c : Char} (h : c.toNat < 0x80) : IsAscii [c] := by simpa [IsAscii] using h
    have behind : IsAscii (further (level + 1) rest) := .flatMap fun i hi =>
      (single (by decide)).append ((isAscii_newLine _).append (others i hi))
    have whole := bracketed_cons first last level item rest []
    rw [List.append_nil] at whole
    rw [whole]
    exact (single ends.1).append <| (isAscii_newLine _).append <| (own.append behind).append <|
      (isAscii_newLine _).append (single ends.2)

theorem mem_renderAll {level : Nat} {items : List JsonValue} {i : List Char} (h : i ∈ renderAll level items) :
    ∃ v ∈ items, i = v.render level := by
  induction items with
  | nil => cases h
  | cons v rest ih =>
    rcases List.mem_cons.mp h with rfl | h
    · exact ⟨v, List.mem_cons_self, rfl⟩
    · obtain ⟨w, hw, eq⟩ := ih h
      exact ⟨w, List.mem_cons_of_mem _ hw, eq⟩

theorem mem_renderMembers {level : Nat} {members : List (String × JsonValue)} {i : List Char}
    (h : i ∈ renderMembers level members) : ∃ m ∈ members, i = memberText level m := by
  induction members with
  | nil => cases h
  | cons m rest ih =>
    rcases List.mem_cons.mp h with rfl | h
    · exact ⟨m, List.mem_cons_self, rfl⟩
    · obtain ⟨w, hw, eq⟩ := ih h
      exact ⟨w, List.mem_cons_of_mem _ hw, eq⟩

theorem isAscii_render (v : JsonValue) : ∀ level, IsAscii (v.render level) := by
  induction v using JsonValue.induction with
  | null => exact fun level => by simp [render, IsAscii]
  | int i =>
    intro level
    rw [render, Number.intText]
    refine IsAscii.append ?_ (isAscii_toDigits _)
    split
    · simp [IsAscii]
    · exact fun c hc => by cases hc
  | text x => exact fun level => isAscii_quoted x
  | array items ih =>
    intro level
    apply isAscii_bracketed level (by decide)
    intro i hi
    obtain ⟨v, hv, rfl⟩ := mem_renderAll hi
    exact ih v hv (level + 1)
  | object members ih =>
    intro level
    apply isAscii_bracketed level (by decide)
    intro i hi
    obtain ⟨m, hm, rfl⟩ := mem_renderMembers hi
    have colon : IsAscii [':', ' '] := by simp [IsAscii]
    exact (isAscii_quoted m.1).append (colon.append (ih m hm (level + 1)))

end Ascii

end JsonValue

namespace Json.Datum

/-- No object in the datum has two members of one name. -/
inductive Distinct : Datum → Prop
  | null : Distinct .null
  | bool (b : Bool) : Distinct (.bool b)
  | number (q : ℚ) : Distinct (.number q)
  | text (s : String) : Distinct (.text s)
  | array {items : List Datum} (each : ∀ d ∈ items, Distinct d) : Distinct (.array items)
  | object {members : List (String × Datum)} (names : (members.map (·.1)).Nodup)
      (each : ∀ m ∈ members, Distinct m.2) : Distinct (.object members)

def member? (name : String) : Datum → Option Datum
  | object members => members.lookup name
  | _ => none

def members? : Datum → Option (List (String × Datum))
  | object members => some members
  | _ => none

def items? : Datum → Option (List Datum)
  | array items => some items
  | _ => none

def text? : Datum → Option String
  | text s => some s
  | _ => none

def int? : Datum → Option Int
  | number q => if q.den = 1 then some q.num else none
  | _ => none

/-- A text, or nothing where there is `null`. -/
def textOrNull? : Datum → Option (Option String)
  | null => some none
  | text s => some (some s)
  | _ => none

def finding? (d : Datum) : Option Finding := do
  let rule ← (← d.member? "rule").text?
  let message ← (← d.member? "message").text?
  let line ← (← d.member? "line").int?
  let column ← (← d.member? "column").int?
  return ⟨rule, message, line, column⟩

def report? (d : Datum) : Option FileReport := do
  let path ← (← d.member? "file").text?
  let error ← (← d.member? "error").textOrNull?
  let findings ← (← (← d.member? "findings").items?).mapM finding?
  return ⟨path, findings, error, none⟩

def reports? (d : Datum) : Option (List FileReport) := do
  (← (← d.member? "files").items?).mapM report?

def total? (d : Datum) : Option Int := do
  (← d.member? "total_findings").int?

def count? (m : String × Datum) : Option (String × Int) := m.2.int?.map fun n => (m.1, n)

def ruleCounts? (d : Datum) : Option (List (String × Int)) := do
  (← (← (← d.member? "summary").member? "by_rule").members?).mapM count?

end Json.Datum

def FileReport.withoutSource (r : FileReport) : FileReport := { r with source := none }

namespace Report

open JsonValue

@[simp] theorem int?_number (i : Int) : (Datum.number i).int? = some i := by
  simp [Datum.int?]

theorem mapM_some_of_forall {α β γ : Type} {f : α → β} {g : β → Option γ} {h : α → γ}
    (each : ∀ a, g (f a) = some (h a)) (l : List α) : (l.map f).mapM g = some (l.map h) := by
  induction l with
  | nil => rfl
  | cons a rest ih => simp [each, ih]

theorem finding?_findingJson (f : Finding) : (findingJson f).datum.finding? = some f := by
  simp [findingJson, datum, memberData, Datum.finding?, Datum.member?, Datum.text?, List.lookup_cons]

theorem report?_fileJson (r : FileReport) : (fileJson r).datum.report? = some r.withoutSource := by
  have findings := mapM_some_of_forall finding?_findingJson r.findings
  cases error : r.error <;>
  simp [fileJson, error, datum, memberData, Datum.report?, Datum.member?, Datum.text?, Datum.textOrNull?, Datum.items?,
    data_eq, List.lookup_cons, Function.comp_def, findings, FileReport.withoutSource]

def countDatum (entry : String × Nat) : String × Datum := (entry.1, .number ((entry.2 : Int) : ℚ))

theorem count?_countDatum (entry : String × Nat) :
    Datum.count? (countDatum entry) = some (entry.1, (entry.2 : Int)) := by
  rw [Datum.count?, countDatum, int?_number]
  rfl

variable (now : Moment) (reports : List FileReport)

theorem datum_toJson : (toJson now reports).datum = .object [
    ("scan_date", .text now.stamp),
    ("scanner", .text ("devguard v" ++ programVersion)),
    ("total_findings", .number ((totalFindings reports : Int) : ℚ)),
    ("files", .array (reports.map fun r => (fileJson r).datum)),
    ("summary", .object [("by_rule", .object ((ruleCounts reports).map countDatum))])] := by
  simp only [toJson, datum, memberData, memberData_eq, data_eq, List.map_map]
  rfl

theorem reports?_toJson : (toJson now reports).datum.reports? = some (reports.map (·.withoutSource)) := by
  rw [datum_toJson]
  exact mapM_some_of_forall report?_fileJson reports

theorem total?_toJson : (toJson now reports).datum.total? = some (totalFindings reports : Int) := by
  rw [datum_toJson]
  exact int?_number _

theorem ruleCounts?_toJson : (toJson now reports).datum.ruleCounts? =
    some ((ruleCounts reports).map fun entry => (entry.1, (entry.2 : Int))) := by
  rw [datum_toJson]
  exact mapM_some_of_forall count?_countDatum (ruleCounts reports)

theorem nodup_ruleCounts : ((ruleCounts reports).map (·.1)).Nodup := by
  rw [List.Nodup, List.pairwise_map]
  refine List.Pairwise.imp ?_ (ascending_tally _)
  intro a b below same
  exact String.lt_irrefl _ (same ▸ below)

theorem distinct_fileJson (r : FileReport) : (fileJson r).datum.Distinct := by
  have finding (f : Finding) : (findingJson f).datum.Distinct := by
    refine .object (by simp [memberData]) ?_
    simp only [memberData, List.forall_mem_cons]
    exact ⟨.text _, .text _, .number _, .number _, by simp⟩
  have findings : (JsonValue.array (r.findings.map findingJson)).datum.Distinct := by
    refine .array fun d hd => ?_
    rw [data_eq, List.map_map] at hd
    obtain ⟨f, -, rfl⟩ := List.mem_map.mp hd
    exact finding f
  refine .object (by simp [memberData]) ?_
  simp only [memberData, List.forall_mem_cons]
  refine ⟨.text _, ?_, findings, by simp⟩
  cases r.error with
  | none => exact .null
  | some e => exact .text e

theorem distinct_toJson : (toJson now reports).datum.Distinct := by
  have counts : (Datum.object ((ruleCounts reports).map countDatum)).Distinct := by
    refine .object ?_ ?_
    · rw [List.map_map]
      exact nodup_ruleCounts reports
    · intro m hm
      obtain ⟨entry, -, rfl⟩ := List.mem_map.mp hm
      exact .number _
  have files : (Datum.array (reports.map fun r => (fileJson r).datum)).Distinct := by
    refine .array fun d hd => ?_
    obtain ⟨r, -, rfl⟩ := List.mem_map.mp hd
    exact distinct_fileJson r
  have summary : (Datum.object [("by_rule", .object ((ruleCounts reports).map countDatum))]).Distinct :=
    .object (by simp) (by simpa using counts)
  rw [datum_toJson]
  refine .object (by simp) ?_
  simp only [List.forall_mem_cons]
  exact ⟨.text _, .text _, .number _, files, summary, by simp⟩

theorem toJson_withoutSource : toJson now (reports.map (·.withoutSource)) = toJson now reports := by
  have findings : allFindings (reports.map (·.withoutSource)) = allFindings reports := List.flatMap_map ..
  have files : (reports.map (·.withoutSource)).map fileJson = reports.map fileJson := List.map_map ..
  rw [toJson, toJson, files, totalFindings, totalFindings, ruleCounts, ruleCounts, findings]

variable {now reports} {later : Moment} {others : List FileReport}

/-- Reports that differ in nothing but their sources have the same text. -/
theorem jsonText_congr (stamp : later.stamp = now.stamp)
    (same : others.map (·.withoutSource) = reports.map (·.withoutSource)) :
    jsonText later others = jsonText now reports := by
  have value : toJson later others = toJson now reports := by
    rw [← toJson_withoutSource later others, same, toJson_withoutSource, toJson, toJson, stamp]
  rw [jsonText, jsonText, value]

theorem means_jsonText (now : Moment) (reports : List FileReport) (d : Datum) :
    Means (jsonText now reports).toList d ↔ d = (toJson now reports).datum := by
  rw [jsonText, String.toList_ofList]
  exact (means_render _ d).1

theorem datum_eq_of_jsonText (same : jsonText later others = jsonText now reports) :
    (toJson later others).datum = (toJson now reports).datum := by
  rw [← means_jsonText, ← same, means_jsonText]

variable (now reports)

/-- The text of a JSON report is plain ASCII and has one meaning, whether or not a line break follows it. Its
objects have no two members of one name, and the reports, the number of their findings and the counts
of the rules can be taken from them by name. So the text tells all of the reports but their sources. -/
theorem jsonText_tells_reports :
    IsAscii (jsonText now reports).toList ∧
    (∃ d, (∀ e, Means (jsonText now reports).toList e ↔ e = d) ∧
      (∀ e, Means (jsonText now reports ++ "\n").toList e ↔ e = d) ∧
      d.Distinct ∧
      d.reports? = some (reports.map (·.withoutSource)) ∧
      d.total? = some ((allFindings reports).length : Int) ∧
      d.ruleCounts? = some ((ruleCounts reports).map fun entry => (entry.1, (entry.2 : Int)))) ∧
    ∀ (later : Moment) (others : List FileReport), jsonText later others = jsonText now reports ↔
      later.stamp = now.stamp ∧ others.map (·.withoutSource) = reports.map (·.withoutSource) := by
  have text : (jsonText now reports).toList = (toJson now reports).render 0 := String.toList_ofList
  refine ⟨?_, ⟨(toJson now reports).datum, means_jsonText now reports, ?_, distinct_toJson now reports,
    reports?_toJson now reports, total?_toJson now reports, ruleCounts?_toJson now reports⟩, ?_⟩
  · rw [text]
    exact isAscii_render _ 0
  · intro e
    rw [String.toList_append, text]
    exact (means_render _ e).2
  · intro later others
    refine ⟨fun same => ?_, fun same => jsonText_congr same.1 same.2⟩
    have data := datum_eq_of_jsonText same
    constructor
    · rw [datum_toJson, datum_toJson] at data
      exact Datum.text.inj (Prod.mk.inj (List.cons.inj (Datum.object.inj data)).1).2
    · have read := reports?_toJson later others
      rw [data, reports?_toJson] at read
      exact (Option.some.inj read).symm

end Report

end ScriptAudit
