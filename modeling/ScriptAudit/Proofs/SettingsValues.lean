import ScriptAudit.Proofs.SettingsSearch

namespace ScriptAudit.Settings

open Yaml

/-! ### Entries without a key -/

/-- The entry is one of a key. -/
def isOf (key : String) (e : Value × Value) : Bool := (lookup? key [e]).isSome

/-- The entries without those of a key. -/
def withoutKey (key : String) (entries : List (Value × Value)) : List (Value × Value) := entries.filter (!isOf key ·)

theorem isOf_iff {key : String} {e : Value × Value} : isOf key e ↔ e.1 = .scalar (.text key) := by
  obtain ⟨k, v⟩ := e
  simp only [isOf, lookup?, Option.isSome_map, List.find?_isSome, List.mem_singleton, exists_eq_left]
  split
  next s => simp
  next other =>
    constructor
    · intro isOther
      cases isOther
    · rintro rfl
      exact absurd rfl (other key)

theorem lookup?_eq_find? (key : String) (entries : List (Value × Value)) :
    lookup? key entries = (entries.find? (isOf key)).map (·.2) := by
  unfold lookup?
  congr 2
  funext e
  rw [isOf, lookup?, Option.isSome_map, List.find?_singleton, Bool.eq_iff_iff]
  exact Option.isSome_ite.symm

theorem lookup?_withoutKey (key : String) (entries : List (Value × Value)) :
    lookup? key (withoutKey key entries) = none := by
  rw [lookup?_eq_find?, withoutKey, List.find?_filter]
  simp

theorem lookup?_withoutKey_of_ne {key other : String} (h : other ≠ key) (entries : List (Value × Value)) :
    lookup? other (withoutKey key entries) = lookup? other entries := by
  have passes (e : Value × Value) : isOf other e → ¬ isOf key e := by
    rw [isOf_iff, isOf_iff]
    intro named
    simpa [named] using h
  have same : (fun e => decide ((!isOf key e) = true ∧ isOf other e = true)) = isOf other := by
    funext e
    rw [Bool.eq_iff_iff]
    simpa using passes e
  rw [lookup?_eq_find?, lookup?_eq_find?, withoutKey, List.find?_filter, same]

namespace Source

/-- What a file gives without a key. -/
def without (s : Source) (key : String) : Source := { s with entries := withoutKey key s.entries }

theorem get?_without (s : Source) (key : String) : (s.without key).get? key = none := by
  simp [get?, without, lookup?_withoutKey]

theorem toText_without (s : Source) (key : String) : (s.without key).toText = s.toText := rfl

section Frame

variable {key other : String} (h : other ≠ key) (s : Source)

include h

theorem get?_without_of_ne : (s.without key).get? other = s.get? other := by
  simp [get?, without, lookup?_withoutKey_of_ne h]

theorem threshold_without_of_ne (absent : Int) : (s.without key).threshold other absent = s.threshold other absent := by
  unfold threshold
  rw [get?_without_of_ne h]
  rfl

theorem texts?_without_of_ne : (s.without key).texts? other = s.texts? other := by
  unfold texts?
  rw [get?_without_of_ne h]
  rfl

end Frame

/-! ### Values that are ignored -/

/-- No whole number from zero on. -/
def BadCount (v : Value) : Prop := ∀ i : Int, 0 ≤ i → v ≠ .scalar (.int i)

/-- No list. -/
def BadTexts (v : Value) : Prop := ∀ anchor items, v ≠ .list anchor items

/-- Nothing, a list or a mapping. -/
def BadText (v : Value) : Prop :=
  v = .scalar .null ∨ (∃ anchor items, v = .list anchor items) ∨ ∃ anchor entries, v = .map anchor entries

variable {s : Source} {key : String}

/-- A threshold is the number that the file holds, or else the default. -/
theorem threshold_cases (s : Source) (key : String) (absent : Int) :
    (∃ i, 0 ≤ i ∧ s.get? key = some (.scalar (.int i)) ∧ (s.threshold key absent).value = i) ∨
    ((∀ v, s.get? key = some v → BadCount v) ∧ (s.threshold key absent).value = absent) := by
  cases held : s.get? key with
  | none =>
    right
    constructor
    · intro v noValue
      cases noValue
    · simp [threshold, held]
  | some v =>
    by_cases good : ∃ i : Int, 0 ≤ i ∧ v = .scalar (.int i)
    · obtain ⟨i, nonneg, rfl⟩ := good
      left
      exact ⟨i, nonneg, rfl, by simp [threshold, held, nonneg]⟩
    · right
      have bad : BadCount v := fun i nonneg same => good ⟨i, nonneg, same⟩
      constructor
      · intro w same
        exact Option.some.inj same ▸ bad
      · unfold threshold
        rw [held]
        dsimp only
        split
        next i number =>
          split at number
          next j =>
            by_cases nonneg : 0 ≤ j
            · exact absurd rfl (bad j nonneg)
            · simp [nonneg] at number
          next => cases number
        next => rfl

theorem threshold_nonneg (s : Source) (key : String) {absent : Int} (h : 0 ≤ absent) :
    0 ≤ (s.threshold key absent).value := by
  rcases threshold_cases s key absent with ⟨i, nonneg, -, value⟩ | ⟨-, value⟩
  · rw [value]
    exact nonneg
  · rw [value]
    exact h

theorem threshold_of_bad (absent : Int) (h : ∀ v, s.get? key = some v → BadCount v) :
    (s.threshold key absent).value = absent := by
  rcases threshold_cases s key absent with ⟨i, nonneg, held, -⟩ | ⟨-, value⟩
  · exact absurd rfl (h _ held i nonneg)
  · exact value

theorem texts?_of_bad (h : ∀ v, s.get? key = some v → BadTexts v) : (s.texts? key).value = none := by
  unfold texts?
  split
  · rfl
  · rfl
  next anchor items held => exact absurd rfl (h _ held anchor items)
  · rfl

/-- A number that is ignored counts as little as none. -/
theorem value_threshold_without {v : Value} (held : s.get? key = some v) (bad : BadCount v) (absent : Int) :
    ((s.without key).threshold key absent).value = (s.threshold key absent).value := by
  have own : (s.threshold key absent).value = absent := by
    apply threshold_of_bad
    intro w same
    exact Option.some.inj (held.symm.trans same) ▸ bad
  have removed : ((s.without key).threshold key absent).value = absent := by
    apply threshold_of_bad
    simp [get?_without]
  rw [own, removed]

/-- A list that is ignored counts as little as none. -/
theorem value_texts?_without {v : Value} (held : s.get? key = some v) (bad : BadTexts v) :
    ((s.without key).texts? key).value = (s.texts? key).value := by
  have own : (s.texts? key).value = none := by
    apply texts?_of_bad
    intro w same
    exact Option.some.inj (held.symm.trans same) ▸ bad
  have removed : ((s.without key).texts? key).value = none := by
    apply texts?_of_bad
    simp [get?_without]
  rw [own, removed]

theorem within_nil (anchor : Option String) : Value.within anchor [] = false := by
  cases anchor with
  | none => rfl
  | some name => rfl

/-- The text of a list starts with a bracket. -/
theorem head?_toText_list (d : Document) (anchor : Option String) (items : List Value) :
    (d.toText (.list anchor items)).head? = some '[' := by
  simp [Document.toText, Document.shown, Document.write, Value.writeIn, Writer.text, within_nil, listed]

/-- The text of a mapping starts with a brace. -/
theorem head?_toText_map (d : Document) (anchor : Option String) (entries : List (Value × Value)) :
    (d.toText (.map anchor entries)).head? = some '\x7b' := by
  simp [Document.toText, Document.shown, Document.write, Value.writeIn, Writer.text, within_nil, listed]

/-- A value that is no text never reads as the keyword that stands for it by default. -/
theorem toText_ne_default {v : Value} (h : BadText v) : s.toText v ≠ "devguard-ignore" := by
  intro same
  have first : (s.document.toText v).head? = some 'd' := by
    have letters := congrArg String.toList same
    rw [toText, String.toList_ofList] at letters
    rw [letters]
    rfl
  rcases h with rfl | ⟨anchor, items, rfl⟩ | ⟨anchor, entries, rfl⟩
  · have letter : some 'N' = some 'd' := first
    exact absurd letter (by decide)
  · rw [head?_toText_list] at first
    exact absurd first (by decide)
  · rw [head?_toText_map] at first
    exact absurd first (by decide)

end Source

/-! ### Settings of a file -/

/-- What a settings file may set. -/
inductive Key where
  | disabledRules
  | maxParams
  | maxFunctionLines
  | debugCalls
  | excludePaths
  | suppressionKeyword
deriving DecidableEq

namespace Key

def name : Key → String
  | disabledRules => "disabled_rules"
  | maxParams => "max_params"
  | maxFunctionLines => "max_function_lines"
  | debugCalls => "debug_calls"
  | excludePaths => "exclude_paths"
  | suppressionKeyword => "suppression_keyword"

/-- The value is none that the key can have. -/
def Malformed : Key → Value → Prop
  | maxParams | maxFunctionLines => Source.BadCount
  | disabledRules | debugCalls | excludePaths => Source.BadTexts
  | suppressionKeyword => Source.BadText

end Key

theorem value_ofSource (path : String) (s : Source) : (ofSource path s).value = {
    disabledRules := (s.texts? "disabled_rules").value.getD []
    maxParams := (s.threshold "max_params" 3).value
    maxFunctionLines := (s.threshold "max_function_lines" 50).value
    debugCalls := (s.texts? "debug_calls").value.getD ["console.log"]
    excludePaths := (s.texts? "exclude_paths").value.getD []
    suppressionKeyword := ((s.get? "suppression_keyword").map s.toText).getD "devguard-ignore"
    sourcePath := some path } := rfl

theorem exists_source_of_ofBytes {path : String} {bytes : List UInt8} {library : Library} {settings : Settings}
    (h : (ofBytes path bytes library).value = .ok settings) : ∃ s, settings = (ofSource path s).value := by
  unfold ofBytes at h
  split at h
  · cases h
  split at h
  · cases h
  · cases h
  split at h
  · cases h
  · unfold readSource at h
    dsimp only at h
    split at h
    · rw [Logged.value_bind] at h
      cases h
      exact ⟨_, rfl⟩
    · cases h

theorem exists_source_of_ofFile {t : FileTree} {path : List Char} {library : Library} {settings : Settings}
    (h : (ofFile t path library).value = .ok settings) : ∃ s, settings = (ofSource (String.ofList path) s).value := by
  unfold ofFile at h
  split at h
  · cases h
  · exact exists_source_of_ofBytes h

/-- Settings that are loaded come from the entries of a file. -/
theorem exists_source_of_load {t : FileTree} {target : String} {given : Option String} {library : Library}
    {settings : Settings}
    (h : (load t target given library).value = .ok (some settings)) :
    ∃ path s, settings = (ofSource path s).value := by
  cases found : file? t target given with
  | none =>
    rcases value_load_of_no_file found with notFound | ⟨name, missing⟩
    · rw [notFound] at h
      cases h
    · rw [missing] at h
      cases h
  | some path =>
    rw [value_load_of_file found] at h
    cases read : (ofFile t path library).value with
    | error fault => rw [read] at h; cases h
    | ok settings =>
      rw [read] at h
      cases h
      exact ⟨_, exists_source_of_ofFile read⟩

section Ignored

variable {path : String} {s : Source} {v : Value}

/-- All keys but the keyword ignore a value that they cannot have. -/
theorem value_ofSource_without {key : Key} (held : s.get? key.name = some v) (bad : key.Malformed v)
    (notKeyword : key ≠ .suppressionKeyword) :
    (ofSource path s).value = (ofSource path (s.without key.name)).value := by
  rw [value_ofSource, value_ofSource]
  cases key with
  | maxParams | maxFunctionLines =>
    simp only [Key.name] at held
    simp (disch := decide) only [Key.name, Source.texts?_without_of_ne, Source.threshold_without_of_ne,
      Source.get?_without_of_ne, Source.toText_without, Source.value_threshold_without held bad]
  | disabledRules | debugCalls | excludePaths =>
    simp only [Key.name] at held
    simp (disch := decide) only [Key.name, Source.texts?_without_of_ne, Source.threshold_without_of_ne,
      Source.get?_without_of_ne, Source.toText_without, Source.value_texts?_without held bad]
  | suppressionKeyword => exact absurd rfl notKeyword

/-- The keyword is the text of the value that the file holds, whatever it is. -/
theorem value_ofSource_keyword (held : s.get? Key.suppressionKeyword.name = some v) :
    (ofSource path s).value =
      { (ofSource path (s.without Key.suppressionKeyword.name)).value with suppressionKeyword := s.toText v } := by
  simp only [Key.name] at held
  rw [value_ofSource, value_ofSource, held]
  simp (disch := decide) only [Key.name, Source.texts?_without_of_ne, Source.threshold_without_of_ne, Option.map_some,
    Option.getD_some]

theorem suppressionKeyword_without (path : String) (s : Source) :
    (ofSource path (s.without Key.suppressionKeyword.name)).value.suppressionKeyword = "devguard-ignore" := by
  simp only [value_ofSource, Key.name, Source.get?_without, Option.map_none, Option.getD_none]

end Ignored

/-- A value that its key cannot have leaves the settings as they are without the key, except for the keyword: that one
becomes the text of the value, which is never the default. No threshold is ever negative. -/
theorem malformed_values_fall_back (path : String) :
    (∀ (s : Source) (key : Key) (v : Value), s.get? key.name = some v → key.Malformed v → key ≠ .suppressionKeyword →
      (ofSource path s).value = (ofSource path (s.without key.name)).value) ∧
    (∀ (s : Source) (v : Value), s.get? Key.suppressionKeyword.name = some v → Key.suppressionKeyword.Malformed v →
      let without := (ofSource path (s.without Key.suppressionKeyword.name)).value
      (ofSource path s).value = { without with suppressionKeyword := s.toText v } ∧
      s.toText v ≠ without.suppressionKeyword) ∧
    ∀ library t target given settings, (load t target given library).value = .ok (some settings) →
      0 ≤ settings.maxParams ∧ 0 ≤ settings.maxFunctionLines := by
  refine ⟨?_, ?_, ?_⟩
  · intro s key v held bad notKeyword
    exact value_ofSource_without held bad notKeyword
  · intro s v held bad without
    refine ⟨value_ofSource_keyword held, ?_⟩
    rw [suppressionKeyword_without]
    exact Source.toText_ne_default bad
  · intro library t target given settings loaded
    obtain ⟨file, r, rfl⟩ := exists_source_of_load loaded
    exact ⟨r.threshold_nonneg "max_params" (by decide), r.threshold_nonneg "max_function_lines" (by decide)⟩

/-- A threshold that is a word, and a keyword with nothing behind its colon. -/
def oddSource : Source where
  document := ⟨.scalar .null, []⟩
  entries := [
    (.scalar (.text "max_params"), .scalar (.text "many")),
    (.scalar (.text "suppression_keyword"), .scalar .null)]

theorem value_of_oddSource :
    (ofSource "c.yml" oddSource).value = (ofSource "c.yml" (oddSource.without "max_params")).value ∧
    (ofSource "c.yml" oddSource).value =
      { (ofSource "c.yml" (oddSource.without "suppression_keyword")).value with suppressionKeyword := "None" } := by
  obtain ⟨ignored, kept, -⟩ := malformed_values_fall_back "c.yml"
  constructor
  · apply ignored oddSource .maxParams (.scalar (.text "many")) rfl
    · intro i _ same
      cases same
    · decide
  · exact (kept oddSource (.scalar .null) rfl (.inl rfl)).1

end ScriptAudit.Settings
