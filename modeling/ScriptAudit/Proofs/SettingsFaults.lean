import ScriptAudit.Command.Run
import ScriptAudit.Proofs.SettingsSearch
import ScriptAudit.Proofs.Utf8
import ScriptAudit.Proofs.YamlFaults

namespace ScriptAudit

namespace Yaml

/-- A scalar is part of a value, aliases followed. -/
inductive Value.Inside (anchors : List (String × Value)) (s : Scalar) : Value → Prop
  | self : Inside anchors s (.scalar s)
  | item {anchor : Option String} {items : List Value} {v : Value} (mem : v ∈ items) (inner : Inside anchors s v) :
    Inside anchors s (.list anchor items)
  | first {a b : Value} (inner : Inside anchors s a) : Inside anchors s (.pair a b)
  | second {a b : Value} (inner : Inside anchors s b) : Inside anchors s (.pair a b)
  | key {anchor : Option String} {entries : List (Value × Value)} {e : Value × Value} (mem : e ∈ entries)
    (inner : Inside anchors s e.1) : Inside anchors s (.map anchor entries)
  | value {anchor : Option String} {entries : List (Value × Value)} {e : Value × Value} (mem : e ∈ entries)
    (inner : Inside anchors s e.2) : Inside anchors s (.map anchor entries)
  | member {anchor : Option String} {items : List Value} {v : Value} (mem : v ∈ items) (inner : Inside anchors s v) :
    Inside anchors s (.set anchor items)
  | target {name : String} {v : Value} (named : anchors.lookup name = some v) (inner : Inside anchors s v) :
    Inside anchors s (.reference name)

theorem Scalar.isWritable_eq_false_iff {s : Scalar} :
    s.isWritable = false ↔ ∃ i, s = .int i ∧ 10 ^ digitLimit ≤ i.natAbs := by
  cases s <;> simp [isWritable]

/-- What cannot be written out holds a scalar that cannot. -/
theorem Value.exists_inside_of_check {anchors : List (String × Value)} {fuel : Nat} {path : List String} {v : Value}
    (h : v.writeIn .check anchors fuel path = false) : ∃ s, v.Inside anchors s ∧ s.isWritable = false := by
  -- Of a group that cannot be written out, one of the parts cannot.
  have part {α : Type} {all : List α} {f : {a // a ∈ all} → Bool} {first last : List Char}
      (group : Writer.check.group first last (all.attach.map f) = false) : ∃ a mem, f ⟨a, mem⟩ = false := by
    obtain ⟨b, mem, bad⟩ := List.all_eq_false.mp group
    obtain ⟨⟨a, inside⟩, -, rfl⟩ := List.mem_map.mp mem
    exact ⟨a, inside, Bool.not_eq_true _ ▸ bad⟩
  induction fuel, path, v using writeIn.induct anchors with
  | case1 fuel path s =>
    rw [writeIn] at h
    exact ⟨s, .self, h⟩
  | case2 fuel path anchor items seen =>
    rw [writeIn, if_pos seen] at h
    cases h
  | case3 fuel path anchor items new ih =>
    rw [writeIn, if_neg new] at h
    obtain ⟨v, mem, bad⟩ := part h
    obtain ⟨s, inside, large⟩ := ih v mem bad
    exact ⟨s, .item mem inside, large⟩
  | case4 fuel path a b iha ihb =>
    rw [writeIn] at h
    rcases Bool.and_eq_false_iff.mp h with bad | bad
    · obtain ⟨s, inside, large⟩ := iha bad
      exact ⟨s, .first inside, large⟩
    · rw [List.all_cons, List.all_nil, Bool.and_true] at bad
      obtain ⟨s, inside, large⟩ := ihb bad
      exact ⟨s, .second inside, large⟩
  | case5 fuel path anchor entries seen =>
    rw [writeIn, if_pos seen] at h
    cases h
  | case6 fuel path anchor entries new ihKey ihValue =>
    rw [writeIn, if_neg new] at h
    obtain ⟨e, mem, bad⟩ := part h
    rcases Bool.and_eq_false_iff.mp bad with bad | bad
    · obtain ⟨s, inside, large⟩ := ihKey e mem bad
      exact ⟨s, .key mem inside, large⟩
    · obtain ⟨s, inside, large⟩ := ihValue e mem bad
      exact ⟨s, .value mem inside, large⟩
  | case7 fuel path anchor items none =>
    rw [writeIn, if_pos none] at h
    cases h
  | case8 fuel path anchor items given ih =>
    rw [writeIn, if_neg given] at h
    obtain ⟨v, mem, bad⟩ := part h
    obtain ⟨s, inside, large⟩ := ih v mem bad
    exact ⟨s, .member mem inside, large⟩
  | case9 path name fuel v named ih =>
    have followed : writeIn .check anchors fuel path v = false := by
      rw [← h, writeIn]
      exact named
    obtain ⟨s, inside, large⟩ := ih followed
    exact ⟨s, .target named inside, large⟩
  | case10 fuel path name unnamed =>
    rw [writeIn] at h
    · cases h
    · exact unnamed

theorem Document.exists_large_of_not_writable {d : Document} {v : Value} (h : d.isWritable v = false) :
    ∃ i : Int, v.Inside d.anchors (.int i) ∧ 10 ^ digitLimit ≤ i.natAbs := by
  obtain ⟨s, inside, bad⟩ := Value.exists_inside_of_check h
  obtain ⟨i, rfl, large⟩ := Scalar.isWritable_eq_false_iff.mp bad
  exact ⟨i, inside, large⟩

theorem Document.isWritable_scalar (d : Document) (s : Scalar) : d.isWritable (.scalar s) = s.isWritable := by
  rw [isWritable, write, Value.writeIn]
  rfl

end Yaml

namespace Settings

open Yaml

/-- A value that a key needs to be a text or part of a message cannot be written out. -/
def Source.Unwritable (library : Library) (s : Source) : Prop :=
  ∃ key ∈ keys, ∃ v, s.get? key.1 = some v ∧
    ((∃ w ∈ key.2.taken v, library.writes s.document w = false) ∨
      ∃ w ∈ key.2.logged v, library.logs s.document w = false)

theorem not_isUsable_iff {library : Library} {s : Source} :
    keys.all (s.isUsable library) = false ↔ s.Unwritable library := by
  have one (key : String × Kind) : s.isUsable library key = false ↔ ∃ v, s.get? key.1 = some v ∧
      ((∃ w ∈ key.2.taken v, library.writes s.document w = false) ∨
        ∃ w ∈ key.2.logged v, library.logs s.document w = false) := by
    unfold Source.isUsable
    cases s.get? key.1 with
    | none => simp
    | some v =>
      simp only [Option.all_some, Bool.and_eq_false_iff, List.all_eq_false, Bool.not_eq_true, Option.some.injEq,
        exists_eq_left']
  simp only [List.all_eq_false, Bool.not_eq_true, one, Source.Unwritable]

/-- What the entries of a file are read from. -/
def Source.ofDocument (d : Option Document) (entries : List (Value × Value)) : Source :=
  ⟨d.getD ⟨.scalar .null, []⟩, entries⟩

/-- The bytes are no text, or one that the library reads with a fault that is none of the format, or one with a value
that cannot be written out. -/
def Meaningless (library : Library) (bytes : List UInt8) (fault : LoadFault) : Prop :=
  (fault = .undecodable ∧ ∀ s, Text.Utf8.encode s ≠ bytes) ∨
  ∃ s, Text.Utf8.encode s = bytes ∧
    ((∃ f, fault = .value f ∧ f ≠ .malformed ∧ library.load (Text.lineFeeds s) = .error f) ∨
      (fault = .unwritable ∧ ∃ d entries, library.load (Text.lineFeeds s) = .ok d ∧ topEntries? d = some entries ∧
        (Source.ofDocument d entries).Unwritable library))

section Load

variable {t : FileTree} {target : String} {given : Option String} {library : Library} {bytes : List UInt8}
  {fault : LoadFault}

theorem readSource_error_iff {path : String} {s : Source} :
    (readSource library path s).value = .error fault ↔ fault = .unwritable ∧ s.Unwritable library := by
  rw [← not_isUsable_iff, readSource]
  cases usable : keys.all (s.isUsable library) with
  | true =>
    rw [if_pos rfl, Logged.value_bind]
    exact iff_of_false (fun same => by cases same) fun ⟨_, same⟩ => by cases same
  | false =>
    rw [if_neg Bool.false_ne_true]
    exact ⟨fun same => ⟨(Except.error.inj same).symm, rfl⟩, fun ⟨same, _⟩ => congrArg Except.error same.symm⟩

theorem meaningless_iff_of_text {text : List Char} (encoded : Text.Utf8.encode text = bytes) :
    Meaningless library bytes fault ↔
      (∃ f, fault = .value f ∧ f ≠ .malformed ∧ library.load (Text.lineFeeds text) = .error f) ∨
      (fault = .unwritable ∧ ∃ d entries, library.load (Text.lineFeeds text) = .ok d ∧ topEntries? d = some entries ∧
        (Source.ofDocument d entries).Unwritable library) := by
  constructor
  · rintro (⟨-, noText⟩ | ⟨s, same, found⟩)
    · exact absurd encoded (noText text)
    · have decoded := Text.Utf8.decode?_eq_some_iff.mpr encoded
      cases decoded.symm.trans (Text.Utf8.decode?_eq_some_iff.mpr same)
      exact found
  · intro found
    exact .inr ⟨text, encoded, found⟩

section Bytes

variable {text : List Char} (decoded : Text.Utf8.decode? bytes = some text) (path : String)

include decoded

/-- All faults of the library but that of the format are passed on as they are. -/
theorem ofBytes_silent_of_error {f : Fault} (read : library.load (Text.lineFeeds text) = .error f) :
    (ofBytes path bytes library).value = .error fault ∧ fault.message? = none ↔ fault = .value f ∧ f ≠ .malformed := by
  unfold ofBytes
  simp only [decoded, read]
  cases f with
  | malformed =>
    apply iff_of_false
    · rintro ⟨failed, silent⟩
      cases failed
      cases silent
    · rintro ⟨-, other⟩
      exact other rfl
  | _ =>
    constructor
    · rintro ⟨failed, -⟩
      cases failed
      exact ⟨rfl, by decide⟩
    · rintro ⟨rfl, -⟩
      exact ⟨rfl, rfl⟩

theorem ofBytes_silent_of_ok {d : Option Document} (read : library.load (Text.lineFeeds text) = .ok d) :
    (ofBytes path bytes library).value = .error fault ∧ fault.message? = none ↔ fault = .unwritable ∧
      ∃ entries, topEntries? d = some entries ∧ (Source.ofDocument d entries).Unwritable library := by
  unfold ofBytes
  simp only [decoded, read]
  cases top : topEntries? d with
  | none =>
    apply iff_of_false
    · rintro ⟨failed, silent⟩
      cases failed
      cases silent
    · rintro ⟨-, entries, same, -⟩
      cases same
  | some entries =>
    change (readSource library path (Source.ofDocument d entries)).value = _ ∧ _ ↔ _
    rw [readSource_error_iff]
    constructor
    · rintro ⟨⟨rfl, unwritable⟩, -⟩
      exact ⟨rfl, entries, rfl, unwritable⟩
    · rintro ⟨rfl, _, same, unwritable⟩
      cases same
      exact ⟨⟨rfl, unwritable⟩, rfl⟩

end Bytes

/-- The faults of a file without a message. -/
theorem ofBytes_silent_iff (path : String) :
    (ofBytes path bytes library).value = .error fault ∧ fault.message? = none ↔ Meaningless library bytes fault := by
  cases decoded : Text.Utf8.decode? bytes with
  | none =>
    have noText := Text.Utf8.decode?_eq_none_iff.mp decoded
    unfold ofBytes
    rw [decoded]
    constructor
    · rintro ⟨failed, -⟩
      cases failed
      exact .inl ⟨rfl, noText⟩
    · rintro (⟨rfl, -⟩ | ⟨s, text, -⟩)
      · exact ⟨rfl, rfl⟩
      · exact absurd text (noText s)
  | some text =>
    rw [meaningless_iff_of_text (Text.Utf8.decode?_eq_some_iff.mp decoded)]
    cases read : library.load (Text.lineFeeds text) with
    | error f =>
      rw [ofBytes_silent_of_error decoded path read]
      constructor
      · rintro ⟨rfl, other⟩
        exact .inl ⟨f, rfl, other, rfl⟩
      · rintro (⟨g, rfl, other, same⟩ | ⟨-, d, entries, same, -⟩)
        · cases same
          exact ⟨rfl, other⟩
        · cases same
    | ok d =>
      rw [ofBytes_silent_of_ok decoded path read]
      constructor
      · rintro ⟨rfl, entries, unwritable⟩
        exact .inr ⟨rfl, d, entries, rfl, unwritable⟩
      · rintro (⟨f, -, -, same⟩ | ⟨rfl, _, entries, same, unwritable⟩)
        · cases same
        · cases same
          exact ⟨rfl, entries, unwritable⟩

theorem ofFile_silent_iff {path : List Char} :
    (ofFile t path library).value = .error fault ∧ fault.message? = none ↔
      ∃ bytes, t.read path = .ok bytes ∧ Meaningless library bytes fault := by
  unfold ofFile
  cases held : t.read path with
  | error f =>
    apply iff_of_false
    · rintro ⟨same, silent⟩
      cases same
      cases silent
    · rintro ⟨bytes, same, -⟩
      cases same
  | ok bytes =>
    rw [ofBytes_silent_iff]
    constructor
    · intro h
      exact ⟨bytes, rfl, h⟩
    · rintro ⟨_, same, h⟩
      cases same
      exact h

theorem load_silent_iff :
    (load t target given library).value = .error fault ∧ fault.message? = none ↔
      ∃ path bytes, file? t target given = some path ∧ t.read path = .ok bytes ∧ Meaningless library bytes fault := by
  cases found : file? t target given with
  | none =>
    apply iff_of_false
    · rintro ⟨failed, silent⟩
      have outcome : (load t target given library).value = .ok none ∨
          ∃ name, (load t target given library).value = .error (.missing name) := value_load_of_no_file found
      rcases outcome with notFound | ⟨name, missing⟩
      · rw [notFound] at failed
        cases failed
      · rw [missing] at failed
        cases failed
        cases silent
    · rintro ⟨path, bytes, same, -⟩
      cases same
  | some path =>
    have mapped : (load t target given library).value = .error fault ↔
        (ofFile t path library).value = .error fault := by
      rw [value_load_of_file found]
      cases (ofFile t path library).value with
      | error g => simp [Except.map]
      | ok settings => simp [Except.map]
    rw [mapped, ofFile_silent_iff]
    simp

/-- A file that is found is not passed over. -/
theorem exists_some_of_load {path : List Char} {settings : Option Settings} (found : file? t target given = some path)
    (loaded : (load t target given library).value = .ok settings) : ∃ s, settings = some s := by
  rw [value_load_of_file found] at loaded
  cases read : (ofFile t path library).value with
  | error fault => rw [read] at loaded; cases loaded
  | ok s =>
    rw [read] at loaded
    cases loaded
    exact ⟨s, rfl⟩

/-- A value that is used is part of the document. -/
theorem inside_root {d : Document} {entries : List (Value × Value)} (top : topEntries? (some d) = some entries)
    {key : String × Kind} {v w : Value} (held : (Source.ofDocument (some d) entries).get? key.1 = some v)
    (used : w ∈ key.2.taken v ∨ w ∈ key.2.logged v) {s : Scalar} (inside : w.Inside d.anchors s) :
    d.root.Inside d.anchors s := by
  have whole : v.Inside d.anchors s := by
    obtain ⟨name, kind⟩ := key
    rcases used with mem | mem
    · unfold Kind.taken at mem
      split at mem
      · cases mem
      · exact .item mem inside
      · cases mem
      · exact List.mem_singleton.mp mem ▸ inside
    · unfold Kind.logged at mem
      split at mem
      · split at mem
        · cases mem
        · exact List.mem_singleton.mp mem ▸ inside
      · exact List.mem_singleton.mp mem ▸ inside
      · cases mem
      · cases mem
      · exact List.mem_singleton.mp mem ▸ inside
      · cases mem
  obtain ⟨u, found, rfl⟩ := Option.map_eq_some_iff.mp held
  obtain ⟨e, first, rfl⟩ := Option.map_eq_some_iff.mp found
  have own : e.2.Inside d.anchors s := by
    change (d.target e.2).Inside d.anchors s at whole
    unfold Document.target at whole
    split at whole
    next name same =>
      rw [same]
      cases named : d.anchors.lookup name with
      | none =>
        rw [named, same] at whole
        exact whole
      | some u =>
        rw [named] at whole
        exact .target named whole
    next => exact whole
  have mem : e ∈ entries := List.mem_of_find?_eq_some first
  unfold topEntries? at top
  dsimp only at top
  split at top
  · split at top
    next anchor all same =>
      cases top
      rw [same]
      exact .value mem own
    next => cases top
  · cases top
    cases mem

/-- With the library as it is, a file breaks a run off for bytes that are no text, an escape that no character has, a
boolean, a number or a time that is not written as one, or a number of more digits than can be written out. -/
theorem cause_of_meaningless (h : Meaningless {} bytes fault) :
    (fault = .undecodable ∧ ∀ s, Text.Utf8.encode s ≠ bytes) ∨
    ∃ s, Text.Utf8.encode s = bytes ∧
      ((∃ f, fault = .value f ∧ (FarEscape (Text.lineFeeds s) f ∨
          ∃ root, Yaml.Node.document (tokens (Text.lineFeeds s)) = .ok (some root) ∧ root.Valueless f)) ∨
        (fault = .unwritable ∧ ∃ d, ∃ i : Int, Document.ofText (Text.lineFeeds s) = .ok (some d) ∧
          d.root.Inside d.anchors (.int i) ∧ 10 ^ digitLimit ≤ i.natAbs)) := by
  rcases h with noText | ⟨s, encoded, ⟨f, same, other, failed⟩ | ⟨same, d, entries, read, top, unwritable⟩⟩
  · exact .inl noText
  · refine .inr ⟨s, encoded, .inl ⟨f, same, ?_⟩⟩
    rcases Document.fault_of_ofText failed with (malformed | escape) | valueless
    · exact absurd malformed other
    · exact .inl escape
    · exact .inr valueless
  · refine .inr ⟨s, encoded, .inr ⟨same, ?_⟩⟩
    obtain ⟨key, -, v, held, bad⟩ := unwritable
    obtain ⟨w, used, bad⟩ : ∃ w, (w ∈ key.2.taken v ∨ w ∈ key.2.logged v) ∧
        (Source.ofDocument d entries).document.isWritable w = false := by
      rcases bad with ⟨w, mem, bad⟩ | ⟨w, mem, bad⟩
      · exact ⟨w, .inl mem, bad⟩
      · exact ⟨w, .inr mem, bad⟩
    cases d with
    | none =>
      cases top
      cases held
    | some d =>
      obtain ⟨i, inside, large⟩ := Document.exists_large_of_not_writable bad
      exact ⟨d, i, read, inside_root top held used inside, large⟩

end Load

end Settings

namespace Command

open Settings

/-- A fault, if there is one, is not of the settings. -/
def SparesSettings {α : Type} (x : Except RunFault α) : Prop := ∀ fault, x ≠ .error (.settings fault)

section Spares

variable {α β : Type} {x : Except RunFault α}

theorem sparesSettings_ok (a : α) : SparesSettings (.ok a : Except RunFault α) := by
  rintro fault ⟨⟩

theorem SparesSettings.bind {k : α → Except RunFault β} (hx : SparesSettings x) (hk : ∀ a, SparesSettings (k a)) :
    SparesSettings (x >>= k) := by
  cases x with
  | ok a => exact hk a
  | error f =>
    rintro fault ⟨⟩
    exact hx fault rfl

theorem sparesSettings_shown (screen : Terminal.Screen) (lines : List Terminal.Line) :
    SparesSettings (shown screen lines) := by
  unfold shown
  split
  · exact sparesSettings_ok _
  · rintro fault ⟨⟩

end Spares

namespace Request

variable {r : Request} {t : FileTree} {fault : LoadFault} {host : Host}

/-- A fault with a message is logged, and nothing is scanned. -/
theorem run_of_message {message : String} (failed : (load t r.target r.config host.library).value = .error fault)
    (shown : fault.message? = some message) (now : Moment) (elapsed : Number.Double) :
    r.run t now elapsed host =
      ⟨.ok ⟨2, "", t⟩, (load t r.target r.config host.library).records ++ [⟨.error, message⟩]⟩ := by
  have scanned : r.scan t host =
      ⟨.ok .noSettings, (load t r.target r.config host.library).records ++ [⟨.error, message⟩]⟩ := by
    unfold scan
    change Logged.bind _ _ = _
    unfold Logged.bind
    rw [failed]
    dsimp only
    rw [shown]
    rfl
  unfold run
  rw [scanned]
  exact congrArg (Logged.mk _) (List.append_nil _)

theorem sparesSettings_save (path text : String) : SparesSettings (save t path text) := by
  unfold save
  split
  · exact sparesSettings_ok _
  · rintro fault ⟨⟩

theorem sparesSettings_publishText (now : Moment) (elapsed : Number.Double) (screen : Terminal.Screen)
    (hasFiles : Bool) (all : List FileReport) : SparesSettings (r.publishText t now elapsed screen hasFiles all) := by
  unfold publishText
  apply (sparesSettings_shown _ _).bind
  intro report
  split
  · exact sparesSettings_ok _
  apply (sparesSettings_save _ _).bind
  intro saved
  split
  · rintro fault ⟨⟩
  · exact (sparesSettings_shown _ _).bind fun _ => sparesSettings_ok _

theorem sparesSettings_publish (now : Moment) (elapsed : Number.Double) (screen : Terminal.Screen) (scanned : Scanned) :
    SparesSettings (r.publish t now elapsed screen scanned) := by
  unfold publish
  split
  · exact sparesSettings_ok _
  · exact (sparesSettings_shown _ _).bind fun _ => sparesSettings_ok _
  split
  · unfold publishJson
    dsimp only
    split
    · exact (sparesSettings_save _ _).bind fun _ => sparesSettings_ok _
    · exact sparesSettings_ok _
  · exact sparesSettings_publishText now elapsed screen _ _

theorem scan_settings_iff : (r.scan t host).value = .error (.settings fault) ↔
    (load t r.target r.config host.library).value = .error fault ∧ fault.message? = none := by
  unfold scan
  rw [Logged.value_bind]
  cases loaded : (load t r.target r.config host.library).value with
  | error g =>
    dsimp only
    cases shown : g.message? with
    | none =>
      constructor
      · intro same
        cases same
        exact ⟨rfl, shown⟩
      · rintro ⟨same, -⟩
        cases same
        rfl
    | some message =>
      apply iff_of_false
      · rintro ⟨⟩
      · rintro ⟨same, silent⟩
        cases same
        rw [shown] at silent
        cases silent
  | ok found =>
    apply iff_of_false
    · intro same
      dsimp only at same
      rw [Logged.value_bind] at same
      split at same
      · cases same
      · cases same
      · cases same
    · rintro ⟨⟨⟩, -⟩

/-- What breaks a run off for its settings is a fault without a message. -/
theorem run_settings_iff (now : Moment) (elapsed : Number.Double) :
    (r.run t now elapsed host).value = .error (.settings fault) ↔
      (load t r.target r.config host.library).value = .error fault ∧ fault.message? = none := by
  rw [← scan_settings_iff]
  change (r.scan t host).value.bind (r.publish t now elapsed host.screen) = _ ↔ _
  cases (r.scan t host).value with
  | error g =>
    constructor
    · intro same
      cases same
      rfl
    · intro same
      cases same
      rfl
  | ok result => exact iff_of_false (sparesSettings_publish now elapsed host.screen result fault) (by rintro ⟨⟩)

/-- A file with a byte that no text has, and one with a number that has no digits. -/
def brokenSettings : FileTree where
  root := .directory [("c.yml", .file [0xFF]), ("d.yml", .file (Text.Utf8.encode "0x_".toList))]
  work := []

/-- A number of more than 4300 digits. -/
def largeNumber : Int := 16 ^ 3600

/-- A keyword that is such a number. -/
def largeKeyword : Yaml.Document :=
  ⟨.map none [(.scalar (.text "suppression_keyword"), .scalar (.int largeNumber))], []⟩

end Request

end Command

end ScriptAudit
