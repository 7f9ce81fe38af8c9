import Mathlib.Algebra.Group.Nat.Defs
import Mathlib.Data.List.Induction
import ScriptAudit.Yaml.Token

namespace ScriptAudit.Yaml

/-- If there is a result it has a property, and if there is a fault it has another one. -/
structure Ends {α : Type} (P : α → Prop) (F : Fault → Prop) (x : Except Fault α) : Prop where
  result : ∀ a, x = .ok a → P a
  fault : ∀ f, x = .error f → F f

section Ends

variable {α β : Type} {P P' : α → Prop} {Q : β → Prop} {F F' : Fault → Prop} {x : Except Fault α}

theorem ends_ok {a : α} (h : P a) : Ends P F (.ok a) := by
  constructor
  · intro b same
    cases same
    exact h
  · intro f same
    cases same

theorem ends_error {f : Fault} (h : F f) : Ends P F (.error f) := by
  constructor
  · intro a same
    cases same
  · intro g same
    cases same
    exact h

theorem Ends.bind {k : α → Except Fault β} (hx : Ends P F x) (hk : ∀ a, P a → Ends Q F (k a)) :
    Ends Q F (x >>= k) := by
  cases x with
  | error f => exact ends_error (hx.fault f rfl)
  | ok a => exact hk a (hx.result a rfl)

theorem Ends.bind_pure {g : α → β} (hx : Ends P F x) :
    Ends (fun _ => True) F (x >>= fun a => pure (g a)) := hx.bind fun _ _ => ends_ok trivial

theorem Ends.map {g : α → β} (hx : Ends P F x) (h : ∀ a, P a → Q (g a)) : Ends Q F (x.map g) := by
  cases x with
  | error f => exact ends_error (hx.fault f rfl)
  | ok a => exact ends_ok (h a (hx.result a rfl))

theorem Ends.mono (h : Ends P F x) (hP : ∀ a, P a → P' a) (hF : ∀ f, F f → F' f) : Ends P' F' x := by
  constructor
  · intro a same
    exact hP a (h.result a same)
  · intro f same
    exact hF f (h.fault f same)

theorem Ends.mapM {g : α → Except Fault β} {l : List α} (h : ∀ a ∈ l, Ends Q F (g a)) :
    Ends (fun all => ∀ b ∈ all, Q b) F (l.mapM g) := by
  induction l with
  | nil => exact ends_ok (by simp)
  | cons a rest ih =>
    rw [List.mapM_cons]
    apply (h a List.mem_cons_self).bind
    intro b hb
    apply (ih fun c hc => h c (List.mem_cons_of_mem a hc)).bind
    intro all hall
    apply ends_ok
    intro c hc
    rcases List.mem_cons.mp hc with rfl | later
    · exact hb
    · exact hall c later

theorem Ends.foldlM {g : β → α → Except Fault β} {l : List α} {b : β} (hb : Q b)
    (h : ∀ b a, Q b → a ∈ l → Ends Q F (g b a)) : Ends Q F (l.foldlM g b) := by
  induction l generalizing b with
  | nil => exact ends_ok hb
  | cons a rest ih =>
    rw [List.foldlM_cons]
    apply (h b a hb List.mem_cons_self).bind
    intro b' hb'
    exact ih hb' fun b c hb hc => h b c hb (List.mem_cons_of_mem a hc)

theorem ends_ite {p : Prop} [Decidable p] {x y : Except Fault α} (hx : p → Ends P F x) (hy : ¬ p → Ends P F y) :
    Ends P F (if p then x else y) := by
  split
  next h => exact hx h
  next h => exact hy h

/-- The text is not of the format; no other fault. -/
abbrev OnlyMalformed (x : Except Fault α) : Prop := Ends (fun _ => True) (· = .malformed) x

end Ends

/-! ### Cursors -/

namespace Cursor

theorem rest_step (c : Cursor) : c.step.rest = c.rest.drop 1 := by
  unfold step
  split
  next ended => rw [ended]; rfl
  next x rest here =>
    rw [here]
    split <;> rfl

theorem rest_advance (n : Nat) (c : Cursor) : (c.advance n).rest = c.rest.drop n := by
  induction n generalizing c with
  | zero => rfl
  | succ n ih => rw [advance, ih, rest_step, List.drop_drop, Nat.add_comm]

theorem step_suffix (c : Cursor) : c.step.rest <:+ c.rest := by
  rw [rest_step]
  exact List.drop_suffix 1 c.rest

theorem advance_suffix (n : Nat) (c : Cursor) : (c.advance n).rest <:+ c.rest := by
  rw [rest_advance]
  exact List.drop_suffix n c.rest

theorem moveTo_suffix (c : Cursor) (rest : List Char) : (c.moveTo rest).rest <:+ c.rest := advance_suffix _ c

theorem skipWhile_suffix (p : Char → Bool) (c : Cursor) : (c.skipWhile p).rest <:+ c.rest := advance_suffix _ c

theorem skipComment_suffix (c : Cursor) : c.skipComment.rest <:+ c.rest := by
  unfold skipComment
  split
  · exact skipWhile_suffix _ c
  · exact List.suffix_rfl

end Cursor

theorem lineBreak?_suffix {s rest : List Char} {b : Char} (h : lineBreak? s = some (b, rest)) : rest <:+ s := by
  unfold lineBreak? at h
  split at h
  next c r =>
    have same : r = rest := by
      split at h
      · cases h; rfl
      split at h
      · cases h; rfl
      · cases h
    rw [← same]
    exact List.suffix_cons c r
  next => cases h

/-! ### Scalars -/

/-- The text holds an escape whose number is that of no character. Only the longest kind, of eight digits, reaches so
far. -/
def FarEscape (s : List Char) (f : Fault) : Prop :=
  ∃ digits n, '\\' :: 'U' :: digits <:+: s ∧ digits.length = 8 ∧ hexNumber? digits = some n ∧ charOf n = .error f

/-- What may be wrong with the tokens of a text. -/
def TokenFault (s : List Char) (f : Fault) : Prop := f = .malformed ∨ FarEscape s f

theorem FarEscape.of_suffix {s t : List Char} {f : Fault} (h : FarEscape t f) (inside : t <:+ s) : FarEscape s f := by
  obtain ⟨digits, n, infix_, long, number, far⟩ := h
  exact ⟨digits, n, infix_.trans inside.isInfix, long, number, far⟩

theorem TokenFault.of_suffix {s t : List Char} {f : Fault} (h : TokenFault t f) (inside : t <:+ s) : TokenFault s f :=
  h.imp_right fun far => far.of_suffix inside

theorem OnlyMalformed.tokenFault {α : Type} {x : Except Fault α} (h : OnlyMalformed x) (s : List Char) :
    Ends (fun _ => True) (TokenFault s) x := h.mono (fun _ _ => trivial) fun _ same => .inl same

theorem hexValue?_lt {c : Char} {n : Nat} (h : hexValue? c = some n) : n < 16 := by
  unfold hexValue? at h
  simp only [Bool.and_eq_true, decide_eq_true_eq, Char.le_def, UInt32.le_iff_toNat_le] at h
  split at h
  next low =>
    have same := Option.some.inj h
    have top : c.toNat ≤ 57 := low.2
    omega
  split at h
  next low =>
    have same := Option.some.inj h
    have top : c.toNat ≤ 102 := low.2
    omega
  split at h
  next low =>
    have same := Option.some.inj h
    have top : c.toNat ≤ 70 := low.2
    omega
  · cases h

theorem hexNumber?_concat (s : List Char) (c : Char) :
    hexNumber? (s ++ [c]) = (do return 16 * (← hexNumber? s) + (← hexValue? c)) := by
  simp [hexNumber?]

theorem hexNumber?_lt {s : List Char} {n : Nat} (h : hexNumber? s = some n) : n < 16 ^ s.length := by
  induction s using List.reverseRecOn generalizing n with
  | nil =>
    cases h
    decide
  | append_singleton s c ih =>
    rw [hexNumber?_concat] at h
    obtain ⟨m, front, rest⟩ := Option.bind_eq_some_iff.mp h
    obtain ⟨d, digit, same⟩ := Option.bind_eq_some_iff.mp rest
    have small := ih front
    have below := hexValue?_lt digit
    have value : 16 * m + d = n := Option.some.inj same
    rw [List.length_append, List.length_singleton, Nat.pow_succ]
    omega

theorem quotedBreaks_ends (fuel : Nat) (s : List Char) :
    Ends (fun r => r.2 <:+ s) (· = .malformed) (quotedBreaks fuel s) := by
  induction fuel generalizing s with
  | zero => exact ends_error rfl
  | succ fuel ih =>
    unfold quotedBreaks
    split
    · exact ends_error rfl
    split
    · exact ends_ok (List.dropWhile_suffix _)
    next b rest found =>
      apply (ih rest).map
      intro r inside
      exact inside.trans ((lineBreak?_suffix found).trans (List.dropWhile_suffix _))

theorem quotedGap_ends (s : List Char) : Ends (fun r => r.2 <:+ s) (· = .malformed) (quotedGap s) := by
  unfold quotedGap
  dsimp only
  split
  · exact ends_error rfl
  · exact ends_ok (List.dropWhile_suffix _)
  next b rest found _ =>
    apply (quotedBreaks_ends _ rest).map
    intro r inside
    exact inside.trans ((lineBreak?_suffix found).trans (List.dropWhile_suffix _))

theorem charOf_ends {n : Nat} (h : n < 0x110000) {F : Fault → Prop} : Ends (fun _ => True) F (charOf n) := by
  rw [charOf, if_pos h]
  exact ends_ok trivial

theorem escapeWidth?_cases {c : Char} {width : Nat} (h : escapeWidth? c = some width) :
    width ≤ 4 ∨ c = 'U' ∧ width = 8 := by
  unfold escapeWidth? at h
  split at h
  · exact .inl (by cases h; decide)
  · exact .inl (by cases h; decide)
  · exact .inr ⟨rfl, (Option.some.inj h).symm⟩
  · cases h

/-- An escape fails by its form, or by its number if it is of the longest kind. -/
theorem escape_ends (s : List Char) : Ends (fun r => r.2 <:+ s) (TokenFault ('\\' :: s)) (escape s) := by
  unfold escape
  split
  · exact ends_error (.inl rfl)
  next c rest =>
    split
    · exact ends_ok (List.suffix_cons c rest)
    next width _ wide =>
      split
      · exact ends_error (.inl rfl)
      next enough =>
      split
      · exact ends_error (.inl rfl)
      next n number =>
        have long : (rest.take width).length = width := by
          rw [List.length_take]
          omega
        have char : Ends (fun _ => True) (TokenFault ('\\' :: c :: rest)) (charOf n) := by
          rcases escapeWidth?_cases wide with short | ⟨rfl, rfl⟩
          · have small : n < 16 ^ width := long ▸ hexNumber?_lt number
            have bound : 16 ^ width ≤ 16 ^ 4 := Nat.pow_le_pow_right (by decide) short
            exact charOf_ends (by omega)
          · constructor
            · intro _ _
              trivial
            · intro f far
              exact .inr ⟨rest.take 8, n, ⟨[], rest.drop 8, by simp⟩, long, number, far⟩
        apply char.map
        intro x _
        exact (List.drop_suffix width rest).trans (List.suffix_cons c rest)
    next behind _ _ found =>
      apply (quotedBreaks_ends _ behind).mono
      · intro r inside
        exact inside.trans (lineBreak?_suffix found)
      · intro f same
        exact .inl same
    · exact ends_error (.inl rfl)

theorem quotedFrom_ends (quote : Char) (fuel : Nat) (done s : List Char) :
    Ends (fun _ => True) (TokenFault s) (quotedFrom quote fuel done s) := by
  induction fuel generalizing done s with
  | zero => exact ends_error (.inl rfl)
  | succ fuel ih =>
    -- What is left to read is a suffix, so an escape that fails there stands in the whole text.
    have goOn (more rest : List Char) (inside : rest <:+ s) :
        Ends (fun _ => True) (TokenFault s) (quotedFrom quote fuel more rest) :=
      (ih more rest).mono (fun _ _ => trivial) fun f h => h.of_suffix inside
    unfold quotedFrom
    split
    · exact ends_error (.inl rfl)
    next c rest =>
    split
    · split
      · exact goOn _ _ ((List.drop_suffix 1 rest).trans (List.suffix_cons c rest))
      · exact ends_ok trivial
    split
    next escaped =>
      obtain ⟨-, rfl⟩ : quote = '"' ∧ c = '\\' := by simpa using escaped
      apply (escape_ends rest).bind
      intro r inside
      exact goOn _ _ (inside.trans (List.suffix_cons _ rest))
    split
    · have gap : Ends (fun r => r.2 <:+ c :: rest) (TokenFault (c :: rest)) (quotedGap (c :: rest)) :=
        (quotedGap_ends (c :: rest)).mono (fun _ h => h) fun f same => .inl same
      apply gap.bind
      intro r inside
      exact goOn _ _ inside
    · exact goOn _ _ (List.suffix_cons c rest)

theorem quotedScalar_ends (quote : Char) (c : Cursor) :
    Ends (fun r => r.cursor.rest <:+ c.rest) (TokenFault c.rest) (quotedScalar quote c) := by
  have inside : Ends (fun _ => True) (TokenFault c.rest)
      (quotedFrom quote ((c.rest.drop 1).length + 1) [] (c.rest.drop 1)) :=
    (quotedFrom_ends quote _ [] (c.rest.drop 1)).mono (fun _ _ => trivial) fun f h =>
      h.of_suffix (List.drop_suffix 1 c.rest)
  apply inside.bind
  intro r _
  exact ends_ok (c.moveTo_suffix r.2)

theorem plainFrom_suffix (flow : Bool) (indent : Int) (fuel : Nat) (done : ReadScalar) (gap : List Char) :
    (plainFrom flow indent fuel done gap).cursor.rest <:+ done.cursor.rest := by
  induction fuel generalizing done gap with
  | zero => exact List.suffix_rfl
  | succ fuel ih =>
    unfold plainFrom
    dsimp only
    split
    · exact List.suffix_rfl
    have behind := (Cursor.moveTo_suffix (done.cursor.advance (plainRun flow done.cursor.rest))
      (plainGap (done.cursor.advance (plainRun flow done.cursor.rest)).rest).rest).trans (Cursor.advance_suffix _ done.cursor)
    split
    · exact behind
    · exact (ih _ _).trans behind

theorem ignoredLine_ends (c : Cursor) :
    Ends (fun d => d.rest <:+ c.rest) (· = .malformed) (ignoredLine c) := by
  unfold ignoredLine
  dsimp only
  split
  · apply ends_ok
    exact (Cursor.step_suffix _).trans ((Cursor.skipComment_suffix _).trans (Cursor.skipWhile_suffix _ c))
  · exact ends_error rfl

theorem blockHeader_ends (s : List Char) : OnlyMalformed (blockHeader s) := by
  unfold blockHeader
  dsimp only
  apply ends_ite
  · intro _
    exact ends_error rfl
  · intro _
    exact ends_ok trivial

theorem blockIndentation_suffix (fuel : Nat) (breaks : List Char) (widest : Nat) (c : Cursor) :
    (blockIndentation fuel breaks widest c).2.2.rest <:+ c.rest := by
  induction fuel generalizing breaks widest c with
  | zero => exact List.suffix_rfl
  | succ fuel ih =>
    unfold blockIndentation
    split
    · exact (ih _ _ _).trans c.step_suffix
    split
    · exact (ih _ _ _).trans c.step_suffix
    · exact List.suffix_rfl

theorem blockBreaks_suffix (indent fuel : Nat) (breaks : List Char) (c : Cursor) :
    (blockBreaks indent fuel breaks c).2.rest <:+ c.rest := by
  induction fuel generalizing breaks c with
  | zero => exact List.suffix_rfl
  | succ fuel ih =>
    have indented : (skipIndent indent c).rest <:+ c.rest := Cursor.advance_suffix _ c
    unfold blockBreaks
    dsimp only
    split
    · exact (ih _ _).trans ((Cursor.step_suffix _).trans indented)
    · exact indented

theorem blockLines_suffix (fold : Bool) (indent fuel : Nat) (done breaks : List Char) (c : Cursor) :
    (blockLines fold indent fuel done breaks c).2.2.2.rest <:+ c.rest := by
  induction fuel generalizing done breaks c with
  | zero => exact List.suffix_rfl
  | succ fuel ih =>
    have next (n fuel : Nat) : (blockBreaks indent fuel [] (c.advance n).step).2.rest <:+ c.rest :=
      (blockBreaks_suffix indent fuel [] _).trans ((Cursor.step_suffix _).trans (c.advance_suffix n))
    unfold blockLines
    dsimp only
    split
    · exact (ih _ _ _).trans (next _ _)
    · exact next _ _

theorem blockScalar_ends (fold : Bool) (outer : Int) (c : Cursor) :
    Ends (fun r => r.cursor.rest <:+ c.rest) (· = .malformed) (blockScalar fold outer c) := by
  have lines (breaks : List Char) (indent : Nat) (first : Cursor) (within : first.rest <:+ c.rest) :
      (if onBlockLine indent first then blockLines fold indent (first.rest.length + 1) [] breaks first
        else ([], [], breaks, first)).2.2.2.rest <:+ c.rest := by
    split
    · exact (blockLines_suffix fold indent _ [] breaks first).trans within
    · exact within
  unfold blockScalar
  apply (blockHeader_ends _).bind
  rintro ⟨chomp, width, rest⟩ -
  apply (ignoredLine_ends _).bind
  intro body inside
  have within : body.rest <:+ c.rest := inside.trans (c.moveTo_suffix _)
  apply ends_ok
  cases width with
  | none => exact lines _ _ _ ((blockIndentation_suffix _ [] 0 body).trans within)
  | some n => exact lines _ _ _ ((blockBreaks_suffix _ _ [] body).trans within)

/-! ### Tokens -/

namespace Tokens

/-- What is left to read is the end of a text, and no token so far says that reading broke off. -/
structure Sound (s : List Char) (t : Tokens) : Prop where
  rest : t.cursor.rest <:+ s
  whole : ∀ f, Token.broken f ∉ t.read

/-- Reading goes on soundly, or there is a fault of the text. -/
abbrev Steps (s : List Char) (x : Except Fault Tokens) : Prop := Ends (Sound s) (TokenFault s) x

section Sound

variable {s : List Char} {t : Tokens}

theorem Sound.emit (h : t.Sound s) {token : Token} (whole : ∀ f, token ≠ .broken f) : (t.emit token).Sound s := by
  refine ⟨h.rest, ?_⟩
  intro f mem
  rcases List.mem_append.mp mem with before | here
  · exact h.whole f before
  · exact whole f (List.mem_singleton.mp here).symm

theorem Sound.moved (h : t.Sound s) {c : Cursor} (inside : c.rest <:+ t.cursor.rest) :
    Sound s { t with cursor := c } := ⟨inside.trans h.rest, h.whole⟩

theorem Sound.take (h : t.Sound s) (n : Nat) {token : Token} (whole : ∀ f, token ≠ .broken f) :
    (t.take n token).Sound s := (h.emit whole).moved (t.cursor.advance_suffix n)

theorem not_mem_insert {f : Fault} {read : List Token} {token : Token} (h : Token.broken f ∉ read)
    (whole : token ≠ .broken f) (position : Nat) :
    Token.broken f ∉ read.take position ++ token :: read.drop position := by
  intro mem
  rcases List.mem_append.mp mem with before | behind
  · exact h (List.mem_of_mem_take before)
  rcases List.mem_cons.mp behind with here | after
  · exact whole here.symm
  · exact h (List.mem_of_mem_drop after)

theorem Sound.openBlock (h : t.Sound s) (column position : Nat) {token : Token} (whole : ∀ f, token ≠ .broken f) :
    (t.openBlock column position token).Sound s := by
  unfold Tokens.openBlock
  split
  · exact ⟨h.rest, fun f => not_mem_insert (h.whole f) (whole f) position⟩
  · exact h

theorem Sound.closeBlocks (h : t.Sound s) (column : Int) (outer : List Int) :
    (Tokens.closeBlocks column outer t).Sound s := by
  induction outer generalizing t with
  | nil => exact h
  | cons i rest ih =>
    unfold Tokens.closeBlocks
    split
    · have closed : (t.emit .blockEnd).Sound s := h.emit (by simp)
      exact ih ⟨closed.rest, closed.whole⟩
    · exact h

theorem Sound.unwind (h : t.Sound s) (column : Int) : (t.unwind column).Sound s := by
  unfold Tokens.unwind
  split
  · exact h
  · exact h.closeBlocks column t.outer

theorem Sound.skipOrderMark (h : t.Sound s) : t.skipOrderMark.Sound s := by
  unfold Tokens.skipOrderMark
  split
  · exact h.moved t.cursor.step_suffix
  · exact h

theorem Sound.skipGap (h : t.Sound s) (fuel : Nat) : (Tokens.skipGap fuel t).Sound s := by
  induction fuel generalizing t with
  | zero => exact h
  | succ fuel ih =>
    have behind : ((t.cursor.skipWhile (· == ' ')).skipComment).rest <:+ t.cursor.rest :=
      (Cursor.skipComment_suffix _).trans (t.cursor.skipWhile_suffix _)
    unfold Tokens.skipGap
    dsimp only
    split
    · have next := h.moved ((Cursor.step_suffix _).trans behind)
      exact ih ⟨next.rest, next.whole⟩
    · exact h.moved behind

/-! #### The place of a key -/

theorem expire_ends (c : Cursor) (k : Option KeyPlace) : OnlyMalformed (expire c k) := by
  unfold expire
  split
  · exact ends_ok trivial
  split
  · split
    · exact ends_error rfl
    · exact ends_ok trivial
  · exact ends_ok trivial

theorem Sound.expireAll (h : t.Sound s) : Steps s t.expireAll := by
  unfold Tokens.expireAll
  apply ((expire_ends t.cursor t.key).tokenFault s).bind
  intro key _
  have all : Ends (fun _ => True) (TokenFault s) (t.brackets.mapM (expire t.cursor)) :=
    (Ends.mapM fun k _ => (expire_ends t.cursor k).tokenFault s).mono (fun _ _ => trivial) fun _ f => f
  apply all.bind
  intro brackets _
  exact ends_ok ⟨h.rest, h.whole⟩

theorem Sound.forgetKey (h : t.Sound s) : Steps s t.forgetKey := by
  unfold Tokens.forgetKey
  split
  · exact ends_error (.inl rfl)
  · exact ends_ok ⟨h.rest, h.whole⟩

theorem Sound.noteKey (h : t.Sound s) : Steps s t.noteKey := by
  unfold Tokens.noteKey
  split
  · apply h.forgetKey.bind
    intro u hu
    exact ends_ok ⟨hu.rest, hu.whole⟩
  · exact ends_ok h

/-! #### Names, tags and directives -/

theorem anchorName_ends (c : Cursor) : Ends (fun r => r.2.rest <:+ c.rest) (· = .malformed) (anchorName c) := by
  unfold anchorName
  dsimp only
  split
  · exact ends_error rfl
  · exact ends_ok (c.advance_suffix _)

theorem uriEscapes_ends (fuel : Nat) (l : List Char) : OnlyMalformed (uriEscapes fuel l) := by
  fun_induction uriEscapes fuel l with
  | case1 fuel a b rest invalid => exact ends_error rfl
  | case2 fuel a b rest n number ih =>
    apply ih.map
    intro _ _
    trivial
  | case3 => exact ends_error rfl
  | case4 => exact ends_ok trivial

theorem uriFrom_ends (fuel : Nat) (l : List Char) : OnlyMalformed (uriFrom fuel l) := by
  induction fuel generalizing l with
  | zero => exact ends_error rfl
  | succ fuel ih =>
    have goOn {α : Type} (g : List Char × List Char → α) (rest : List Char) : OnlyMalformed ((uriFrom fuel rest).map g) :=
      (ih rest).map fun _ _ => trivial
    unfold uriFrom
    split
    · exact ends_ok trivial
    · apply (uriEscapes_ends _ _).bind
      rintro ⟨bytes, rest⟩ -
      dsimp only
      split
      · exact ends_error rfl
      · exact goOn _ _
    · split
      · exact goOn _ _
      · exact ends_ok trivial

theorem uri_ends (l : List Char) : OnlyMalformed (uri l) := by
  unfold uri
  split
  · exact ends_error rfl
  · apply (uriFrom_ends _ l).bind
    intro r _
    exact ends_ok trivial

theorem tagHandle_ends (l : List Char) : OnlyMalformed (tagHandle l) := by
  unfold tagHandle
  split
  · split
    · exact ends_ok trivial
    dsimp only
    split
    · exact ends_ok trivial
    · exact ends_error rfl
  · exact ends_error rfl

theorem tagFrom_ends (l : List Char) : Ends (fun r => ∀ f, r.1 ≠ .broken f) (· = .malformed) (tagFrom l) := by
  unfold tagFrom
  dsimp only
  split
  · apply (uri_ends _).bind
    intro r _
    split
    · exact ends_ok (by simp)
    · exact ends_error rfl
  split
  · exact ends_ok (by simp)
  split
  · apply (tagHandle_ends l).bind
    intro handle _
    apply (uri_ends _).bind
    intro r _
    exact ends_ok (by simp)
  · apply (uri_ends _).bind
    intro r _
    exact ends_ok (by simp)

theorem versionNumber_ends (l : List Char) : OnlyMalformed (versionNumber l) := by
  unfold versionNumber
  dsimp only
  split
  · exact ends_error rfl
  · exact ends_ok trivial

theorem directiveFrom_ends (l : List Char) : OnlyMalformed (directiveFrom l) := by
  unfold directiveFrom
  dsimp only
  split
  · exact ends_error rfl
  split
  · apply (versionNumber_ends _).bind
    intro major _
    split
    · exact ends_error rfl
    apply (versionNumber_ends _).bind
    intro minor _
    split
    · exact ends_ok trivial
    · exact ends_error rfl
  split
  · apply (tagHandle_ends _).bind
    intro handle _
    split
    · exact ends_error rfl
    apply (uri_ends _).bind
    intro r _
    split
    · exact ends_ok trivial
    · exact ends_error rfl
  · exact ends_ok trivial

/-! #### Single tokens -/

theorem Sound.leaveDocument (h : t.Sound s) : Steps s t.leaveDocument := by
  unfold Tokens.leaveDocument
  apply (h.unwind (-1)).forgetKey.bind
  intro u hu
  exact ends_ok ⟨hu.rest, hu.whole⟩

theorem Sound.directive (h : t.Sound s) : Steps s t.directive := by
  unfold Tokens.directive
  apply h.leaveDocument.bind
  intro u hu
  apply ((directiveFrom_ends _).tokenFault s).bind
  intro r _
  have line : Ends (fun d => d.rest <:+ u.cursor.rest) (TokenFault s) (ignoredLine (u.cursor.moveTo r.2)) :=
    (ignoredLine_ends _).mono (fun d inside => inside.trans (u.cursor.moveTo_suffix _)) fun f same => .inl same
  apply line.bind
  intro behind inside
  exact ends_ok ((hu.emit (by simp)).moved inside)

theorem Sound.flowStart (h : t.Sound s) {token : Token} (whole : ∀ f, token ≠ .broken f) :
    Steps s (t.flowStart token) := by
  unfold Tokens.flowStart
  apply h.noteKey.bind
  intro u hu
  have taken := hu.take 1 whole
  exact ends_ok ⟨taken.rest, taken.whole⟩

theorem Sound.flowEnd (h : t.Sound s) {token : Token} (whole : ∀ f, token ≠ .broken f) :
    Steps s (t.flowEnd token) := by
  unfold Tokens.flowEnd
  apply h.forgetKey.bind
  intro u hu
  split
  · exact ends_error (.inl rfl)
  · have taken := hu.take 1 whole
    exact ends_ok ⟨taken.rest, taken.whole⟩

theorem Sound.flowEntry (h : t.Sound s) : Steps s t.flowEntry := by
  unfold Tokens.flowEntry
  apply h.forgetKey.bind
  intro u hu
  have taken : (u.take 1 .flowEntry).Sound s := hu.take 1 (by simp)
  exact ends_ok ⟨taken.rest, taken.whole⟩

theorem Sound.enterBlock (h : t.Sound s) {token : Token} (whole : ∀ f, token ≠ .broken f) :
    Steps s (t.enterBlock token) := by
  unfold Tokens.enterBlock
  split
  · exact ends_ok h
  split
  · exact ends_error (.inl rfl)
  · exact ends_ok (h.openBlock _ _ whole)

/-- A mark that may open a block. -/
theorem Sound.mark (h : t.Sound s) {start token : Token} (whole : ∀ f, start ≠ .broken f)
    (other : ∀ f, token ≠ .broken f) (allowed : Tokens → Bool) :
    Steps s (do
      let u ← (← t.enterBlock start).forgetKey
      return { u.take 1 token with keyAllowed := allowed u }) := by
  apply (h.enterBlock whole).bind
  intro u hu
  apply hu.forgetKey.bind
  intro v hv
  have taken := hv.take 1 other
  exact ends_ok ⟨taken.rest, taken.whole⟩

theorem Sound.valueMark (h : t.Sound s) : Steps s t.valueMark := by
  unfold Tokens.valueMark
  split
  next k _ =>
    have marked : Sound s { t with
        read := t.read.take k.position ++ Token.key :: t.read.drop k.position, key := none } :=
      ⟨h.rest, fun f => not_mem_insert (h.whole f) (by simp) k.position⟩
    have value {u : Tokens} (hu : u.Sound s) : Sound s { u.take 1 .value with keyAllowed := false } := by
      have taken : (u.take 1 .value).Sound s := hu.take 1 (by simp)
      exact ⟨taken.rest, taken.whole⟩
    apply ends_ok
    split
    · exact value marked
    · exact value (marked.openBlock k.column k.position (by simp))
  · exact h.mark (by simp) (by simp) fun u => !u.inFlow

theorem Sound.inner (h : t.Sound s) {read : Cursor → Except Fault (Token × Cursor)}
    (hread : ∀ c, c.rest <:+ s →
      Ends (fun r => (∀ f, r.1 ≠ .broken f) ∧ r.2.rest <:+ c.rest) (TokenFault s) (read c)) :
    Steps s (t.inner read) := by
  unfold Tokens.inner
  apply h.noteKey.bind
  intro u hu
  apply (hread u.cursor hu.rest).bind
  intro r hr
  have moved := (hu.emit hr.1).moved hr.2
  exact ends_ok ⟨moved.rest, moved.whole⟩

theorem Sound.plain (h : t.Sound s) : Steps s t.plain := by
  unfold Tokens.plain
  apply h.noteKey.bind
  intro u hu
  have behind := plainFrom_suffix u.inFlow (u.indent + 1) (u.cursor.rest.length + 1) ⟨[], u.cursor, false⟩ []
  have read (text : String) : (u.emit (.scalar text true)).Sound s := hu.emit (by simp)
  exact ends_ok ⟨behind.trans hu.rest, (read _).whole⟩

theorem Sound.block (h : t.Sound s) (fold : Bool) : Steps s (t.block fold) := by
  unfold Tokens.block
  apply h.forgetKey.bind
  intro u hu
  have scalar : Ends (fun r => r.cursor.rest <:+ u.cursor.rest) (TokenFault s) (blockScalar fold u.indent u.cursor) :=
    (blockScalar_ends fold u.indent u.cursor).mono (fun _ inside => inside) fun f same => .inl same
  apply scalar.bind
  intro r inside
  have read (text : String) : (u.emit (.scalar text false)).Sound s := hu.emit (by simp)
  exact ends_ok ⟨inside.trans hu.rest, (read _).whole⟩

/-- The next token, whatever its first character is. -/
theorem Sound.token (h : t.Sound s) (c : Char) : Steps s (t.token c) := by
  have named {make : String × Cursor → Token × Cursor} (whole : ∀ r f, (make r).1 ≠ .broken f)
      (behind : ∀ r, (make r).2 = r.2) : Steps s (t.inner fun c => (anchorName c).map make) := by
    apply h.inner
    intro c _
    have name := (anchorName_ends c).mono (fun _ inside => inside) fun f same => (.inl same : TokenFault s f)
    apply name.map
    intro r inside
    rw [behind]
    exact ⟨whole r, inside⟩
  have tagged : Steps s (t.inner tag) := by
    apply h.inner
    intro c _
    have made := (tagFrom_ends c.rest).mono (fun _ whole => whole) fun f same => (.inl same : TokenFault s f)
    apply made.bind
    intro r whole
    apply ends_ite
    · intro _
      exact ends_ok ⟨whole, c.moveTo_suffix r.2⟩
    · intro _
      exact ends_error (.inl rfl)
  have quotes (quote : Char) : Steps s (t.inner (quoted quote)) := by
    apply h.inner
    intro c inside
    have scalar := (quotedScalar_ends quote c).mono (fun _ behind => behind) fun f fault => fault.of_suffix inside
    exact scalar.map fun r behind => ⟨by simp, behind⟩
  have mark (n : Nat) {token : Token} (whole : ∀ f, token ≠ .broken f) :
      Steps s (do return (← t.leaveDocument).take n token) := by
    apply h.leaveDocument.bind
    intro u hu
    exact ends_ok (hu.take n whole)
  unfold Tokens.token
  refine ends_ite (fun _ => h.directive) fun _ => ?_
  refine ends_ite (fun _ => mark 3 (by simp)) fun _ => ?_
  refine ends_ite (fun _ => mark 3 (by simp)) fun _ => ?_
  refine ends_ite (fun _ => h.flowStart (by simp)) fun _ => ?_
  refine ends_ite (fun _ => h.flowStart (by simp)) fun _ => ?_
  refine ends_ite (fun _ => h.flowEnd (by simp)) fun _ => ?_
  refine ends_ite (fun _ => h.flowEnd (by simp)) fun _ => ?_
  refine ends_ite (fun _ => h.flowEntry) fun _ => ?_
  refine ends_ite (fun _ => h.mark (by simp) (by simp) fun _ => true) fun _ => ?_
  refine ends_ite (fun _ => h.mark (by simp) (by simp) fun u => !u.inFlow) fun _ => ?_
  refine ends_ite (fun _ => h.valueMark) fun _ => ?_
  refine ends_ite (fun _ => named (by simp) fun _ => rfl) fun _ => ?_
  refine ends_ite (fun _ => named (by simp) fun _ => rfl) fun _ => ?_
  refine ends_ite (fun _ => tagged) fun _ => ?_
  refine ends_ite (fun _ => h.block false) fun _ => ?_
  refine ends_ite (fun _ => h.block true) fun _ => ?_
  refine ends_ite (fun _ => quotes c) fun _ => ?_
  refine ends_ite (fun _ => h.plain) fun _ => ?_
  exact ends_error (.inl rfl)

/-- Where reading breaks off, the text is to blame. -/
theorem Sound.tokenFault_of_mem_run (h : t.Sound s) {fuel : Nat} {f : Fault} (mem : .broken f ∈ run fuel t) :
    TokenFault s f := by
  have last {u : Tokens} (hu : u.Sound s) {token : Token} (found : .broken f ∈ u.read ++ [token]) :
      token = .broken f := by
    rcases List.mem_append.mp found with before | here
    · exact absurd before (hu.whole f)
    · exact (List.mem_singleton.mp here).symm
  induction fuel generalizing t with
  | zero =>
    cases last h mem
    exact .inl rfl
  | succ fuel ih =>
    have gap := h.skipOrderMark.skipGap (t.cursor.rest.length + 1)
    unfold run at mem
    dsimp only at mem
    generalize stepped : (_ >>= _ : Except Fault (Option Tokens)) = x at mem
    have made : Ends (fun next => ∀ u, next = some u → u.Sound s) (TokenFault s) x := by
      rw [← stepped]
      apply gap.expireAll.bind
      intro u hu
      split
      · exact ends_ok (by simp)
      · apply ((hu.unwind _).token _).bind
        intro v hv
        apply ends_ok
        intro w same
        exact Option.some.inj same ▸ hv
    split at mem
    next g =>
      cases last h mem
      exact made.fault f rfl
    next v => exact ih (made.result _ rfl v rfl) mem
    next =>
      have ended := (gap.unwind (-1)).forgetKey
      split at mem
      next g failed =>
        cases last gap mem
        exact ended.fault f failed
      next u done => cases last (ended.result u done) mem

end Sound

end Tokens

/-- Reading a text breaks off only where the text is not of the format or an escape is far too large. -/
theorem tokenFault_of_mem_tokens {s : List Char} {f : Fault} (mem : .broken f ∈ tokens s) : TokenFault s f := by
  unfold tokens at mem
  split at mem
  · have start : Tokens.Sound s { cursor := .start s } := ⟨List.suffix_rfl, by simp⟩
    exact start.tokenFault_of_mem_run mem
  · cases List.mem_singleton.mp mem
    exact .inl rfl

end ScriptAudit.Yaml
