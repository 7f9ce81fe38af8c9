import Mathlib.Data.List.Basic
import ScriptAudit.JavaScript.Pattern
import ScriptAudit.Proofs.Readers

namespace ScriptAudit

namespace ParseTree

/-- The stretch of the text between two marks is the longest number that starts there. -/
def NumberBetween (s : List Char) (start stop : Mark) : Prop :=
  ∃ read rest n, s = read ++ rest ∧ JavaScript.numberLength? rest = some n ∧
    start = Mark.zero.afterAll read ∧ stop = Mark.zero.afterAll (read ++ rest.take n)

/-- One node is built as the grammar says, and a number is one in the text. -/
structure Sound (s : List Char) (t : ParseTree) : Prop where
  fits : t.Fits
  number : t.isKept → t.type = "number" → NumberBetween s t.start t.stop

def Good (s : List Char) (t : ParseTree) : Prop := t.Every (Sound s)

/-- A good tree that converts to a node of the program. -/
structure Whole (s : List Char) (t : ParseTree) : Prop where
  kept : t.isKept
  good : t.Good s

structure IsToken (t : ParseTree) : Prop where
  named : t.named = false
  field : t.field = none
  children : t.children = []

/-- Types of nodes without children that are not numbers. -/
def isLeafType (type : String) : Bool :=
  !skippedTypes.contains type && type != "number" &&
    (shape type == .identifier || shape type == .literal || shape type == .other)

/-- Types of nodes of which nothing but their children is known. -/
def isPlainType (type : String) : Bool :=
  !skippedTypes.contains type && shape type == .other && !textTypes.contains type

section

variable {s : List Char} {t : ParseTree}

theorem good_iff : t.Good s ↔ t.Sound s ∧ ∀ c ∈ t.children, c.Good s := every_iff _ t

theorem good_of_not_kept (kept : t.isKept = false) (children : t.children = []) : t.Good s := by
  refine good_iff.mpr ⟨⟨⟨?_, fun _ => children⟩, ?_⟩, by simp [children]⟩
  · intro h
    rw [kept] at h
    cases h
  · intro h
    rw [kept] at h
    cases h

theorem IsToken.kept (h : t.IsToken) : t.isKept = false := by simp [isKept, h.named]

theorem IsToken.good (h : t.IsToken) : t.Good s := good_of_not_kept h.kept h.children

@[simp] theorem isKept_inField (f : String) : (t.inField f).isKept = t.isKept := rfl

@[simp] theorem field_inField (f : String) : (t.inField f).field = some f := rfl

@[simp] theorem type_inField (f : String) : (t.inField f).type = t.type := rfl

/-- How a node is built is said of its type and its children. -/
theorem Agrees.congr {u : ParseTree} {h : Shape} (agrees : t.Agrees h) (type : t.type = u.type)
    (children : t.children = u.children) : u.Agrees h := by
  have kept : t.keptChildren = u.keptChildren := by rw [keptChildren, keptChildren, children]
  have child : t.child? = u.child? := by
    funext f
    rw [child?, child?, children]
  have parts {aside fields needed : List String} (h : t.ConsistsOf aside fields needed) :
      u.ConsistsOf aside fields needed :=
    ⟨by rw [← kept, ← child]; exact h.parts, by rw [← child]; exact h.present⟩
  cases h with
  | identifier | literal | declaration | other =>
    simp only [Agrees, ← kept, ← type] at agrees ⊢
    exact agrees
  | declarator | assignment | loop => exact parts agrees
  | member | call | function form | method =>
    simp only [Agrees, PlainChain, ← kept, ← child, ← type] at agrees ⊢
    exact ⟨parts agrees.1, agrees.2⟩

theorem Good.congr {u : ParseTree} (h : t.Good s) (kept : t.isKept = u.isKept) (type : t.type = u.type)
    (children : t.children = u.children)
    (number : t.type = "number" → t.start = u.start ∧ t.stop = u.stop) : u.Good s := by
  obtain ⟨here, below⟩ := good_iff.mp h
  rw [Good, every_iff, ← children]
  refine ⟨⟨⟨?_, ?_⟩, ?_⟩, below⟩
  · intro hu
    rw [← type]
    exact (here.fits.agrees (kept.trans hu)).congr type children
  · intro hu
    rw [← children]
    exact here.fits.leaf (kept.trans hu)
  · intro hu hn
    obtain ⟨start, stop⟩ := number (type.trans hn)
    rw [← start, ← stop]
    exact here.number (kept.trans hu) (type.trans hn)

@[simp] theorem good_inField (f : String) : (t.inField f).Good s ↔ t.Good s :=
  ⟨fun h => h.congr rfl rfl rfl fun _ => ⟨rfl, rfl⟩, fun h => h.congr rfl rfl rfl fun _ => ⟨rfl, rfl⟩⟩

theorem Whole.inField (h : t.Whole s) (f : String) : (t.inField f).Whole s := ⟨h.kept, (good_inField f).mpr h.good⟩

/-- A named node is whole if its children are good and it is built as the grammar says. -/
theorem whole_of_agrees (named : t.named) (skipped : skippedTypes.contains t.type = false)
    (number : t.type ≠ "number") (agrees : t.Agrees (shape t.type)) (below : ∀ c ∈ t.children, c.Good s) :
    t.Whole s := by
  have kept : t.isKept := by simp only [isKept, named, isSkipped, skipped, Bool.not_false, Bool.and_self]
  refine ⟨kept, good_iff.mpr ⟨⟨⟨fun _ => agrees, ?_⟩, fun _ h => absurd h number⟩, below⟩⟩
  intro h
  rw [kept] at h
  cases h

theorem whole_of_leaf (named : t.named) (leaf : isLeafType t.type) (children : t.children = []) :
    t.Whole s := by
  simp only [isLeafType, Bool.and_eq_true, Bool.not_eq_true', bne_iff_ne, ne_eq, Bool.or_eq_true,
    beq_iff_eq] at leaf
  obtain ⟨⟨skipped, number⟩, shapes⟩ := leaf
  have none : t.keptChildren = [] := by simp [keptChildren, children]
  refine whole_of_agrees named skipped number ?_ (by simp [children])
  rcases shapes with (h | h) | h
  · simp [h, Agrees, none]
  · simp [h, Agrees, none]
  · simp [h, Agrees, none]

theorem whole_of_plain (named : t.named) (plain : isPlainType t.type) (below : ∀ c ∈ t.children, c.Good s) :
    t.Whole s := by
  simp only [isPlainType, Bool.and_eq_true, Bool.not_eq_true', beq_iff_eq] at plain
  obtain ⟨⟨skipped, other⟩, text⟩ := plain
  refine whole_of_agrees named skipped ?_ ?_ below
  · intro number
    rw [number] at other
    cases other
  · rw [other]
    intro mem
    rw [List.contains_iff_mem.mpr mem] at text
    cases text

theorem skipped_of_shape {type : String} (h : shape type ≠ .other) : skippedTypes.contains type = false := by
  cases hs : skippedTypes.contains type with
  | false => rfl
  | true =>
    have mem := List.contains_iff_mem.mp hs
    simp only [skippedTypes, List.mem_cons, List.not_mem_nil, or_false] at mem
    rcases mem with rfl | rfl | rfl | rfl <;> exact absurd rfl h

theorem Whole.named (h : t.Whole s) : t.named := named_of_isKept h.kept

/-- A name stays whole under another type of names. -/
theorem Whole.retype {type : String} (h : t.Whole s) (old : shape t.type = .identifier)
    (new : shape type = .identifier) : ({ t with type := type } : ParseTree).Whole s := by
  obtain ⟨here, below⟩ := good_iff.mp h.good
  have agrees : t.Agrees .identifier := old ▸ here.fits.agrees h.kept
  refine whole_of_agrees (t := { t with type := type }) h.named ?_ ?_ ?_ below
  · exact skipped_of_shape (by simp [new])
  · rintro rfl
    cases new
  · rw [new]
    exact agrees

/-- A node of this type without children. -/
structure LeafOf (s : List Char) (type : String) (t : ParseTree) : Prop where
  whole : t.Whole s
  type : t.type = type
  children : t.children = []

end

section Parts

/-- The first of some children in a field. -/
def inField? (f : String) (children : List ParseTree) : Option ParseTree :=
  children.find? (·.field == some f)

/-- The children hold the parts of the fields in this order, the needed ones among them, and all others
stand in the fields `aside` or do not convert. -/
structure Laid (aside fields needed : List String) (children : List ParseTree) : Prop where
  parts : ((children.filter isKept).filter fun c => !c.fillsAny aside) =
    fields.filterMap fun f => inField? f children
  present : ∀ f ∈ needed, (inField? f children).isSome

/-- The child stands beside the fields of a construct. -/
def Beside (aside fields : List String) (t : ParseTree) : Prop :=
  (t.isKept → t.fillsAny aside) ∧ ∀ f ∈ fields, t.field ≠ some f

variable {t : ParseTree} {aside fields needed : List String} {all rest : List ParseTree} {f : String}

@[simp] theorem child?_build {type : String} {start stop : Mark} {named missing : Bool}
    {field : Option String} : (build type start stop named missing field all).child? f = inField? f all := rfl

theorem IsToken.beside (h : t.IsToken) : Beside aside fields t := ⟨by simp [h.kept], by simp [h.field]⟩

theorem IsToken.beside_inField (h : t.IsToken) (hf : f ∉ fields) : Beside aside fields (t.inField f) := by
  refine ⟨fun kept => ?_, fun g hg same => hf ?_⟩
  · rw [isKept_inField, h.kept] at kept
    cases kept
  · cases same
    exact hg

theorem inField?_cons_of_ne (h : t.field ≠ some f) : inField? f (t :: rest) = inField? f rest := by
  simp [inField?, h]

@[simp] theorem inField?_cons_inField (g : String) :
    inField? f (t.inField g :: rest) = if g = f then some (t.inField g) else inField? f rest := by
  by_cases h : g = f
  · simp [inField?, h]
  · simp [inField?, h]

theorem inField?_append_of_ne (h : ∀ t ∈ all, t.field ≠ some f) :
    inField? f (all ++ rest) = inField? f rest := by
  induction all with
  | nil => rfl
  | cons t others ih =>
    obtain ⟨first, behind⟩ := List.forall_mem_cons.mp h
    rw [List.cons_append, inField?_cons_of_ne first, ih behind]

theorem inField?_tokens (h : ∀ t ∈ all, t.IsToken) : inField? f (all ++ rest) = inField? f rest :=
  inField?_append_of_ne fun t ht => by simp [(h t ht).field]

@[simp] theorem inField?_nil : inField? f [] = none := rfl

theorem laid_nil (aside : List String) : Laid aside [] [] [] := ⟨rfl, by simp⟩

theorem Laid.beside (h : Laid aside fields needed rest) (ht : Beside aside fields t) :
    Laid aside fields needed (t :: rest) := by
  have same : ∀ f ∈ fields, inField? f (t :: rest) = inField? f rest := fun f hf =>
    inField?_cons_of_ne (ht.2 f hf)
  refine ⟨?_, fun f hf => ?_⟩
  · rw [List.filterMap_congr same, ← h.parts, List.filter_cons]
    split
    next kept => rw [List.filter_cons, ht.1 kept]; rfl
    next => rfl
  · have behind := h.present f hf
    by_cases here : t.field = some f
    · simp [inField?, here]
    · rwa [inField?_cons_of_ne here]

theorem Laid.besideAll (h : Laid aside fields needed rest) (hall : ∀ t ∈ all, Beside aside fields t) :
    Laid aside fields needed (all ++ rest) := by
  induction all with
  | nil => exact h
  | cons t others ih =>
    obtain ⟨first, behind⟩ := List.forall_mem_cons.mp hall
    exact (ih behind).beside first

theorem Laid.part (h : Laid aside fields needed rest) (f : String) (kept : t.isKept) (hf : f ∉ aside ++ fields) :
    Laid aside (f :: fields) (f :: needed) (t.inField f :: rest) := by
  have out : f ∉ aside ∧ f ∉ fields := by simpa using hf
  have plain : (t.inField f).fillsAny aside = false := by
    rw [fillsAny, List.any_eq_false]
    intro g hg same
    obtain rfl : f = g := by simpa using same
    exact out.1 hg
  have others : ∀ g ∈ fields, inField? g (t.inField f :: rest) = inField? g rest := by
    intro g hg
    refine inField?_cons_of_ne fun same => out.2 ?_
    cases same
    exact hg
  refine ⟨?_, fun g hg => ?_⟩
  · rw [List.filterMap_cons, inField?_cons_inField, if_pos rfl, List.filterMap_congr others, ← h.parts, List.filter_cons,
      isKept_inField, kept, if_pos rfl, List.filter_cons, plain]
    rfl
  · by_cases same : g = f
    · simp [same]
    · have behind := h.present g ((List.mem_cons.mp hg).resolve_left same)
      rwa [inField?_cons_of_ne (by simpa using Ne.symm same)]

theorem laid_of_beside (hall : ∀ t ∈ all, Beside aside [] t) : Laid aside [] [] all := by
  simpa using (laid_nil aside).besideAll hall

/-- A field that may be left out. -/
theorem Laid.absent (h : Laid aside fields needed rest) (f : String) (none : inField? f rest = none) :
    Laid aside (f :: fields) needed rest := by
  refine ⟨?_, h.present⟩
  rw [List.filterMap_cons, none, h.parts]

theorem Laid.consistsOf {present : List String} (h : Laid aside fields present t.children)
    (sub : needed ⊆ present) : t.ConsistsOf aside fields needed :=
  ⟨h.parts, fun f hf => h.present f (sub hf)⟩

end Parts

end ParseTree

namespace JavaScript.Reader

open ParseTree

variable {s : List Char}

section

variable {c : Cursor}

theorem token_leafAt (x : String) (n : Nat) (c : Cursor) : (leafAt x false n c).1.IsToken :=
  ⟨rfl, rfl, rfl⟩

theorem leafOf_leafAt {type : String} (leaf : isLeafType type) (n : Nat) (c : Cursor) :
    (leafAt type true n c).1.LeafOf s type :=
  ⟨whole_of_leaf rfl leaf rfl, rfl, rfl⟩

end

theorem looks_ahead (markup : Bool) : (ahead markup).Looks := fun _ => ⟨_, rfl⟩

theorem looks_upcoming : upcoming.Looks := fun _ => ⟨_, rfl⟩

theorem looks_upcomingName : upcomingName.Looks := fun _ => ⟨_, rfl⟩

theorem looks_upcomingOperator : upcomingOperator.Looks := fun _ => ⟨_, rfl⟩

theorem looks_sees (x : String) : (sees x).Looks := fun _ => ⟨_, rfl⟩

theorem looks_canEnd (canContinue : Bool) : (canEnd canContinue).Looks := fun _ => ⟨_, rfl⟩

theorem gives_here : Gives s (Cursor.Within s) fun c => .ok (c, c) := by
  intro c hc a c' h
  cases h
  exact ⟨hc, hc⟩

theorem gives_moveTo {c : Cursor} (h : c.Within s) : (moveTo c).Gives s fun _ => True := by
  intro d _ a c' hr
  cases hr
  exact ⟨trivial, h⟩

theorem gives_skipMarkup : skipMarkup.Gives s fun _ => True := by
  intro c hc a c' h
  cases h
  exact ⟨trivial, hc.skipTrivia true⟩

theorem gives_optionalEnd (canContinue : Bool) : (optionalEnd canContinue).Gives s fun _ => True := by
  intro c hc a c' h
  cases h
  refine ⟨trivial, ?_⟩
  cases hd : c.omittedSemicolon? canContinue with
  | none => exact hc
  | some d => exact hc.omittedSemicolon? hd

/-- A leaf of a given length is read where the text behind blanks and comments allows it. -/
theorem gives_leafIf (p : Cursor → Bool) {type : String} {named : Bool} {n : Nat}
    {P : ParseTree → Prop} (leaf : ∀ c, P (leafAt type named n c).1) : Gives s P fun c =>
      if p (c.skipTrivia false) then .ok (leafAt type named n (c.skipTrivia false))
      else .error (c.skipTrivia false).mark := by
  intro c hc a c' h
  dsimp only at h
  split at h
  · cases h
    exact ⟨leaf _, (hc.skipTrivia false).advance n⟩
  · cases h

theorem gives_token (x : String) : (token x).Gives s IsToken :=
  gives_leafIf (fun here => here.startsWith x) (token_leafAt x x.length)

theorem gives_keyword (x : String) : (keyword x).Gives s IsToken :=
  gives_leafIf (fun here => nameAt here.rest == x) (token_leafAt x x.length)

theorem gives_namedKeyword {x : String} (leaf : isLeafType x) : (namedKeyword x).Gives s (LeafOf s x) :=
  gives_leafIf (fun here => nameAt here.rest == x) (leafOf_leafAt leaf x.length)

theorem gives_lexeme {type : String} {length? : List Char → Option Nat} (leaf : isLeafType type) :
    (lexeme type length?).Gives s (LeafOf s type) := by
  intro c hc a c' h
  unfold lexeme at h
  dsimp only at h
  split at h
  · cases h
    exact ⟨leafOf_leafAt leaf _ _, (hc.skipTrivia false).advance _⟩
  · cases h

/-- A number is read where the text has one. -/
theorem gives_number : (lexeme "number" numberLength?).Gives s (LeafOf s "number") := by
  intro c hc a c' h
  unfold lexeme at h
  dsimp only at h
  split at h
  next n hn =>
    cases h
    obtain ⟨read, hs, hm⟩ := hc.skipTrivia false
    have stop : ((c.skipTrivia false).advance n).mark =
        Mark.zero.afterAll (read ++ (c.skipTrivia false).rest.take n) := by
      rw [Cursor.advance_eq, Mark.afterAll_append, hm]
    refine ⟨⟨⟨rfl, good_iff.mpr ⟨⟨?_, ?_⟩, ?_⟩⟩, rfl, rfl⟩, (hc.skipTrivia false).advance n⟩
    · exact ⟨fun _ c hc => absurd hc List.not_mem_nil, fun _ => rfl⟩
    · exact fun _ _ => ⟨read, _, n, hs, hn, hm, stop⟩
    · exact fun c hc => absurd hc List.not_mem_nil
  · cases h

theorem gives_word {type : String} (leaf : isLeafType type) : (word type).Gives s (LeafOf s type) :=
  gives_lexeme leaf

theorem gives_name {type : String} (leaf : isLeafType type) : (name type).Gives s (LeafOf s type) :=
  gives_lexeme leaf

theorem gives_privateName : privateName.Gives s (LeafOf s "private_property_identifier") :=
  gives_lexeme rfl

/-- A node over good children that is built as the grammar says. -/
theorem gives_typed {type : String} {children : List ParseTree} (h : Shape) (hshape : shape type = h)
    (structured : h ≠ .other ∧ h ≠ .literal)
    (agrees : ∀ start stop, (ParseTree.build type start stop true false none children).Agrees h)
    (below : ∀ c ∈ children, c.Good s) :
    (branch type children).Gives s fun t => t.Whole s ∧ t.type = type := by
  intro c hc a c' hb
  cases hb
  refine ⟨⟨whole_of_agrees rfl (skipped_of_shape ?_) ?_ (hshape ▸ agrees _ _) below, rfl⟩, hc⟩
  · rw [show (ParseTree.build type _ _ true false none children).type = type from rfl, hshape]
    exact structured.1
  · rintro rfl
    exact structured.2 hshape.symm

theorem gives_construct {type : String} {children : List ParseTree} (h : Shape) (hshape : shape type = h)
    (structured : h ≠ .other ∧ h ≠ .literal)
    (agrees : ∀ start stop, (ParseTree.build type start stop true false none children).Agrees h)
    (below : ∀ c ∈ children, c.Good s) : (branch type children).Gives s (Whole s) :=
  (gives_typed h hshape structured agrees below).mono fun _ ht => ht.1

theorem gives_plain {type : String} {children : List ParseTree} (plain : isPlainType type)
    (below : ∀ c ∈ children, c.Good s) :
    (branch type children).Gives s fun t => t.Whole s ∧ t.type = type := by
  intro c hc a c' h
  cases h
  exact ⟨⟨whole_of_plain rfl plain below, rfl⟩, hc⟩

theorem gives_plainNode {type : String} {children : List ParseTree} (plain : isPlainType type)
    (below : ∀ c ∈ children, c.Good s) : (branch type children).Gives s (Whole s) :=
  (gives_plain plain below).mono fun _ h => h.1

theorem gives_optionalToken (x : String) :
    (optionalToken x).Gives s fun all => ∀ t ∈ all, t.IsToken := by
  refine (looks_sees x).bind fun found => gives_ite (fun _ => ?_) fun _ => gives_pure (by simp)
  refine (gives_token x).bind fun t ht => gives_pure ?_
  simpa using ht

theorem gives_semicolon (canContinue : Bool) :
    (semicolon canContinue).Gives s fun all => ∀ t ∈ all, t.IsToken := by
  have written : ((fun t => [t]) <$> token ";").Gives s fun all => ∀ t ∈ all, t.IsToken :=
    Gives.bind (gives_token ";") fun t ht => gives_pure (by simpa using ht)
  intro c hc a c' h
  unfold semicolon at h
  split at h
  next behind hb =>
    cases h
    exact ⟨by simp, hc.omittedSemicolon? hb⟩
  next => exact written c hc a c' h

theorem gives_separated {close : String} {item : Reader ParseTree} (hitem : item.Gives s (Whole s)) :
    (separated close item).Gives s fun all => ∀ t ∈ all, t.Good s := by
  let Holds (state : List ParseTree × Bool) : Prop := ∀ t ∈ state.1, t.Good s
  refine Gives.bind (R := Holds) (gives_iterate ?_ (by simp [Holds])) ?_
  · intro (found, afterItem) hfound
    refine (looks_sees close).bind fun closes => gives_ite (fun _ => gives_pure (by simp)) fun _ => ?_
    refine (looks_sees ",").bind fun comma => gives_ite (fun _ => ?_) fun _ => ?_
    · refine (gives_token ",").bind fun t ht => gives_pure ?_
      simpa [Holds] using ⟨ht.good, hfound⟩
    · refine gives_ite (fun _ => gives_stuck) fun _ => ?_
      refine hitem.bind fun t ht => gives_pure ?_
      simpa [Holds] using ⟨ht.good, hfound⟩
  · intro (found, afterItem) hfound
    exact gives_pure (by simpa using hfound)

theorem gives_delimited {start close : String} {item : Reader ParseTree} (hitem : item.Gives s (Whole s)) :
    (delimited start close item).Gives s fun all => ∀ t ∈ all, t.Good s := by
  refine (gives_token start).bind fun first hfirst => ?_
  refine (gives_separated hitem).bind fun items hitems => ?_
  refine (gives_token close).bind fun last hlast => gives_pure ?_
  intro t ht
  simp only [List.mem_append, List.mem_cons, List.not_mem_nil, or_false] at ht
  rcases ht with (rfl | ht) | rfl
  · exact hfirst.good
  · exact hitems t ht
  · exact hlast.good

end JavaScript.Reader

end ScriptAudit
