import Mathlib.Algebra.Field.Rat

namespace ScriptAudit.Json

/-- What a JSON text means. -/
inductive Datum where
  | null
  | bool (b : Bool)
  | number (q : ℚ)
  | text (s : String)
  | array (items : List Datum)
  | object (members : List (String × Datum))

def isBlank (c : Char) : Bool := c == ' ' || c == '\t' || c == '\n' || c == '\r'

/-- Behind some blanks of the first text the second one follows. -/
inductive Blanks : List Char → List Char → Prop
  | none (s : List Char) : Blanks s s
  | more {c : Char} {s t : List Char} (blank : isBlank c) (rest : Blanks s t) : Blanks (c :: s) t

/-- One of the signs `[`, `]`, `{`, `}`, `:` and `,`, with blanks on either side. -/
def Sign (c : Char) (s t : List Char) : Prop := ∃ u, Blanks s (c :: u) ∧ Blanks u t

/-- The whole part of a number: a zero, or digits that do not start with one. -/
inductive Whole : List Char → Nat → List Char → Prop
  | zero (t : List Char) : Whole ('0' :: t) 0 t
  | digits {d : Char} {ds : List Char} (nonzero : d ≠ '0') (digits : ∀ c ∈ d :: ds, c.isDigit) (t : List Char) :
      Whole (d :: ds ++ t) (Nat.ofDigitChars 10 (d :: ds) 0) t

/-- The digits behind the point, if there are any. -/
inductive Places : List Char → List Char → List Char → Prop
  | absent (t : List Char) : Places t [] t
  | present {ds : List Char} (some : ds ≠ []) (digits : ∀ c ∈ ds, c.isDigit) (t : List Char) :
      Places ('.' :: ds ++ t) ds t

/-- The sign of an exponent. -/
inductive Signed : List Char → Int → Prop
  | none : Signed [] 1
  | plus : Signed ['+'] 1
  | minus : Signed ['-'] (-1)

inductive Exponent : List Char → Int → List Char → Prop
  | absent (t : List Char) : Exponent t 0 t
  | present {mark : Char} {sign ds : List Char} {σ : Int} (letter : mark = 'e' ∨ mark = 'E')
      (signed : Signed sign σ) (some : ds ≠ []) (digits : ∀ c ∈ ds, c.isDigit) (t : List Char) :
      Exponent (mark :: (sign ++ ds ++ t)) (σ * (Nat.ofDigitChars 10 ds 0 : Nat)) t

inductive Unsigned : List Char → ℚ → List Char → Prop
  | mk {s u w t ds : List Char} {n : Nat} {e : Int} (whole : Whole s n u) (places : Places u ds w)
      (exponent : Exponent w e t) :
      Unsigned s ((n + (Nat.ofDigitChars 10 ds 0 : Nat) / (10 : ℚ) ^ ds.length) * (10 : ℚ) ^ e) t

inductive Number : List Char → ℚ → List Char → Prop
  | plain {s t : List Char} {q : ℚ} (h : Unsigned s q t) : Number s q t
  | minus {s t : List Char} {q : ℚ} (h : Unsigned s q t) : Number ('-' :: s) (-q) t

/-- The characters that stand for themselves between quotes. -/
def isPlain (c : Char) : Bool := 0x20 ≤ c.toNat && c != '"' && c != '\\'

/-- The letters behind a backslash that stand for one character each. -/
def letterEscapes : List (Char × Char) := [
  ('"', '"'), ('\\', '\\'), ('/', '/'), ('b', '\x08'), ('f', '\x0c'), ('n', '\n'), ('r', '\r'), ('t', '\t')]

def hexValue? (c : Char) : Option Nat :=
  if c.isDigit then some (c.toNat - 48)
  else if 'a' ≤ c && c ≤ 'f' then some (c.toNat - 87)
  else if 'A' ≤ c && c ≤ 'F' then some (c.toNat - 55)
  else none

/-- The code unit that four hexadecimal digits stand for. -/
def unit? : List Char → Option Nat
  | [a, b, c, d] => do
    return (((← hexValue? a) * 16 + (← hexValue? b)) * 16 + (← hexValue? c)) * 16 + (← hexValue? d)
  | _ => none

/-- What stands for a character behind a backslash: a letter, its code unit, or the two code units that are its
halves. -/
inductive Escape : List Char → Char → Prop
  | letter {e c : Char} (value : letterEscapes.lookup e = some c) : Escape [e] c
  | unit {ds : List Char} {c : Char} (value : unit? ds = some c.toNat) : Escape ('u' :: ds) c
  | halves {ds es : List Char} {c : Char} {high low : Nat} (first : unit? ds = some (0xD800 + high))
      (second : unit? es = some (0xDC00 + low)) (hhigh : high < 0x400) (hlow : low < 0x400)
      (value : c.toNat = 0x10000 + high * 0x400 + low) : Escape ('u' :: (ds ++ '\\' :: 'u' :: es)) c

/-- The characters up to a closing quote. -/
inductive Chars : List Char → List Char → List Char → Prop
  | close (t : List Char) : Chars ('"' :: t) [] t
  | plain {c : Char} {s x t : List Char} (plain : isPlain c) (rest : Chars s x t) : Chars (c :: s) (c :: x) t
  | escape {e s x t : List Char} {c : Char} (escape : Escape e c) (rest : Chars s x t) :
      Chars ('\\' :: (e ++ s)) (c :: x) t

/-- A text between quotes. -/
def Quoted (s : List Char) (x : String) (t : List Char) : Prop := ∃ u, s = '"' :: u ∧ Chars u x.toList t

/-- A value that holds no others. -/
inductive Scalar : List Char → Datum → List Char → Prop
  | nullWord (t : List Char) : Scalar ("null".toList ++ t) .null t
  | trueWord (t : List Char) : Scalar ("true".toList ++ t) (.bool true) t
  | falseWord (t : List Char) : Scalar ("false".toList ++ t) (.bool false) t
  | number {q : ℚ} {s t : List Char} (h : Number s q t) : Scalar s (.number q) t
  | text {x : String} {s t : List Char} (h : Quoted s x t) : Scalar s (.text x) t

/-- What a stretch of a text can be. -/
inductive Part where
  | value (d : Datum)
  | items (ds : List Datum)
  | member (m : String × Datum)
  | members (ms : List (String × Datum))

/-- The first text starts with a part, and goes on with the second text. -/
inductive Reads : Part → List Char → List Char → Prop
  | scalar {d : Datum} {s t : List Char} (h : Scalar s d t) : Reads (.value d) s t
  | noItems {s u t : List Char} (first : Sign '[' s u) (last : Sign ']' u t) : Reads (.value (.array [])) s t
  | array {ds : List Datum} {s u w t : List Char} (first : Sign '[' s u) (items : Reads (.items ds) u w)
      (last : Sign ']' w t) : Reads (.value (.array ds)) s t
  | noMembers {s u t : List Char} (first : Sign '\x7b' s u) (last : Sign '\x7d' u t) :
      Reads (.value (.object [])) s t
  | object {ms : List (String × Datum)} {s u w t : List Char} (first : Sign '\x7b' s u)
      (members : Reads (.members ms) u w) (last : Sign '\x7d' w t) : Reads (.value (.object ms)) s t
  | lastItem {d : Datum} {s t : List Char} (first : Reads (.value d) s t) : Reads (.items [d]) s t
  | nextItem {d : Datum} {ds : List Datum} {s u w t : List Char} (first : Reads (.value d) s u)
      (comma : Sign ',' u w) (rest : Reads (.items ds) w t) : Reads (.items (d :: ds)) s t
  | member {name : String} {d : Datum} {s u w t : List Char} (quoted : Quoted s name u) (colon : Sign ':' u w)
      (value : Reads (.value d) w t) : Reads (.member (name, d)) s t
  | lastMember {m : String × Datum} {s t : List Char} (first : Reads (.member m) s t) : Reads (.members [m]) s t
  | nextMember {m : String × Datum} {ms : List (String × Datum)} {s u w t : List Char}
      (first : Reads (.member m) s u) (comma : Sign ',' u w) (rest : Reads (.members ms) w t) :
      Reads (.members (m :: ms)) s t

/-- The whole text is a JSON text with a meaning. -/
def Means (s : List Char) (d : Datum) : Prop := ∃ u w, Blanks s u ∧ Reads (.value d) u w ∧ Blanks w []

/-- The text without the blanks in front. -/
def strip (s : List Char) : List Char := s.dropWhile isBlank

theorem strip_cons_of_blank {c : Char} (h : isBlank c) (s : List Char) : strip (c :: s) = strip s := by
  rw [strip, List.dropWhile_cons_of_pos h, strip]

theorem strip_cons_of_solid {c : Char} (h : isBlank c = false) (s : List Char) : strip (c :: s) = c :: s := by
  rw [strip, List.dropWhile_cons_of_neg (by simp [h])]

theorem Blanks.strip_eq {s t : List Char} (h : Blanks s t) : strip s = strip t := by
  induction h with
  | none => rfl
  | more blank _ ih => rw [strip_cons_of_blank blank, ih]

theorem Sign.strip_eq {c : Char} {s t : List Char} (h : Sign c s t) (solid : isBlank c = false) :
    ∃ u, strip s = c :: u ∧ strip u = strip t := by
  obtain ⟨u, before, behind⟩ := h
  exact ⟨u, before.strip_eq.trans (strip_cons_of_solid solid u), behind.strip_eq⟩

/-- What may stand right behind a value. -/
def isEnd (c : Char) : Bool := isBlank c || c == ',' || c == ']' || c == '\x7d'

/-- The text goes on with a character of a kind, unless it is empty. -/
def GoesOn (p : Char → Bool) (t : List Char) : Prop := ∀ c ∈ t.head?, p c

theorem GoesOn.mono {p q : Char → Bool} {t : List Char} (h : GoesOn p t) (sub : ∀ c, p c → q c) : GoesOn q t :=
  fun c hc => sub c (h c hc)

theorem goesOn_of_strip {t u : List Char} {c : Char} (h : strip t = c :: u) (hc : isEnd c) : GoesOn isEnd t := by
  intro a ha
  cases t with
  | nil => cases ha
  | cons b rest =>
    obtain rfl := Option.some.inj ha
    by_cases blank : isBlank b
    · simp [isEnd, blank]
    · rw [strip_cons_of_solid (by simpa using blank)] at h
      rw [(List.cons.inj h).1]
      exact hc

theorem goesOn_of_blanks {t : List Char} (h : Blanks t []) : GoesOn isEnd t := by
  cases h with
  | none => exact fun c hc => by cases hc
  | more blank _ =>
    intro a ha
    obtain rfl := Option.some.inj ha
    simp [isEnd, blank]

section Numbers

variable {s t t' : List Char}

theorem digits_unique {ds ds' : List Char} (digits : ∀ c ∈ ds, c.isDigit) (digits' : ∀ c ∈ ds', c.isDigit)
    (stop : GoesOn (!·.isDigit) t) (stop' : GoesOn (!·.isDigit) t') (same : ds ++ t = ds' ++ t') :
    ds = ds' ∧ t = t' := by
  have run {ds t : List Char} (digits : ∀ c ∈ ds, c.isDigit) (stop : GoesOn (!·.isDigit) t) :
      (ds ++ t).takeWhile Char.isDigit = ds := by
    rw [List.takeWhile_append_of_pos digits]
    cases t with
    | nil => simp
    | cons c rest =>
      rw [List.takeWhile_cons_of_neg (by simpa using stop c rfl), List.append_nil]
  have eq : ds = ds' := by rw [← run digits stop, same, run digits' stop']
  subst eq
  exact ⟨rfl, List.append_cancel_left same⟩

def isLetterE (c : Char) : Bool := c == 'e' || c == 'E'

theorem not_isDigit_of_isEnd : ∀ c, isEnd c → !c.isDigit := by
  intro c h
  simp only [isEnd, isBlank, Bool.or_eq_true, beq_iff_eq] at h
  rcases h with (((((rfl | rfl) | rfl) | rfl) | rfl) | rfl) | rfl <;> rfl

theorem Exponent.goesOn {e : Int} (h : Exponent s e t) (stop : GoesOn isEnd t) :
    GoesOn (fun c => isEnd c || isLetterE c) s := by
  cases h with
  | absent => exact stop.mono fun c h => by simp [h]
  | present letter =>
    intro c hc
    obtain rfl := Option.some.inj hc
    rcases letter with rfl | rfl <;> rfl

theorem Signed.unique {a a' ds ds' : List Char} {σ σ' : Int} (h : Signed a σ) (h' : Signed a' σ') (some : ds ≠ [])
    (some' : ds' ≠ []) (digits : ∀ c ∈ ds, c.isDigit) (digits' : ∀ c ∈ ds', c.isDigit)
    (same : a ++ ds ++ t = a' ++ ds' ++ t') : σ = σ' ∧ ds ++ t = ds' ++ t' := by
  obtain ⟨d, rest, rfl⟩ := List.exists_cons_of_ne_nil some
  obtain ⟨d', rest', rfl⟩ := List.exists_cons_of_ne_nil some'
  have digit := digits d List.mem_cons_self
  have digit' := digits' d' List.mem_cons_self
  have no_sign {c : Char} (digit : c.isDigit) : c ≠ '+' ∧ c ≠ '-' := by
    constructor <;> rintro rfl <;> cases digit
  obtain ⟨plus, minus⟩ := no_sign digit
  obtain ⟨plus', minus'⟩ := no_sign digit'
  -- a sign is no digit, so both texts have one or neither has
  cases h with
  | none =>
    cases h' with
    | none => exact ⟨rfl, same⟩
    | plus => exact absurd (List.cons.inj same).1 plus
    | minus => exact absurd (List.cons.inj same).1 minus
  | plus =>
    cases h' with
    | none => exact absurd (List.cons.inj same).1.symm plus'
    | plus => exact ⟨rfl, (List.cons.inj same).2⟩
    | minus => cases (List.cons.inj same).1
  | minus =>
    cases h' with
    | none => exact absurd (List.cons.inj same).1.symm minus'
    | plus => cases (List.cons.inj same).1
    | minus => exact ⟨rfl, (List.cons.inj same).2⟩

theorem Exponent.unique {s' : List Char} {e e' : Int} (h : Exponent s e t) (h' : Exponent s' e' t') (same : s = s')
    (stop : GoesOn isEnd t) (stop' : GoesOn isEnd t') : e = e' ∧ t = t' := by
  have letter_stops {mark : Char} {rest : List Char} (letter : mark = 'e' ∨ mark = 'E')
      (stop : GoesOn isEnd (mark :: rest)) : False := by
    have ends := stop mark rfl
    rcases letter with rfl | rfl <;> cases ends
  cases h with
  | absent =>
    cases h' with
    | absent => exact ⟨rfl, same⟩
    | present letter' => exact (letter_stops letter' (same ▸ stop)).elim
  | present letter signed some digits =>
    cases h' with
    | absent => exact (letter_stops letter (same ▸ stop')).elim
    | present letter' signed' some' digits' =>
      obtain ⟨rfl, behind⟩ := signed.unique signed' some some' digits digits' (List.cons.inj same).2
      obtain ⟨rfl, rfl⟩ := digits_unique digits digits' (stop.mono not_isDigit_of_isEnd)
        (stop'.mono not_isDigit_of_isEnd) behind
      exact ⟨rfl, rfl⟩

/-- What may stand behind the whole part of a number. -/
def endsWhole (c : Char) : Bool := isEnd c || isLetterE c || c == '.'

theorem not_isDigit_of_endsWhole : ∀ c, endsWhole c → !c.isDigit := by
  intro c h
  simp only [endsWhole, isLetterE, Bool.or_eq_true, beq_iff_eq] at h
  rcases h with (ends | rfl | rfl) | rfl
  · exact not_isDigit_of_isEnd c ends
  all_goals rfl

theorem Places.goesOn {ds : List Char} (h : Places s ds t) (stop : GoesOn (fun c => isEnd c || isLetterE c) t) :
    GoesOn endsWhole s := by
  cases h with
  | absent => exact stop.mono fun c h => by simp [endsWhole, h]
  | present =>
    intro c hc
    obtain rfl := Option.some.inj hc
    rfl

theorem Places.unique {s' ds ds' : List Char} (h : Places s ds t) (h' : Places s' ds' t') (same : s = s')
    (stop : GoesOn (fun c => isEnd c || isLetterE c) t) (stop' : GoesOn (fun c => isEnd c || isLetterE c) t') :
    ds = ds' ∧ t = t' := by
  have no_digit (c : Char) (h : (isEnd c || isLetterE c) = true) : !c.isDigit :=
    not_isDigit_of_endsWhole c (by simp [endsWhole, h])
  cases h with
  | absent =>
    cases h' with
    | absent => exact ⟨rfl, same⟩
    | present =>
      subst same
      cases stop '.' rfl
  | present some digits =>
    cases h' with
    | absent =>
      subst same
      cases stop' '.' rfl
    | present some' digits' =>
      exact digits_unique digits digits' (stop.mono no_digit) (stop'.mono no_digit) (List.cons.inj same).2

theorem Whole.unique {s' : List Char} {n n' : Nat} (h : Whole s n t) (h' : Whole s' n' t') (same : s = s')
    (stop : GoesOn endsWhole t) (stop' : GoesOn endsWhole t') : n = n' ∧ t = t' := by
  cases h with
  | zero =>
    cases h' with
    | zero => exact ⟨rfl, (List.cons.inj same).2⟩
    | digits nonzero => exact absurd (List.cons.inj same).1.symm nonzero
  | digits nonzero digits =>
    cases h' with
    | zero => exact absurd (List.cons.inj same).1 nonzero
    | digits _ digits' =>
      obtain ⟨eq, rest⟩ := digits_unique digits digits' (stop.mono not_isDigit_of_endsWhole)
        (stop'.mono not_isDigit_of_endsWhole) same
      rw [eq]
      exact ⟨rfl, rest⟩

theorem Unsigned.unique {s' : List Char} {q q' : ℚ} (h : Unsigned s q t) (h' : Unsigned s' q' t') (same : s = s')
    (stop : GoesOn isEnd t) (stop' : GoesOn isEnd t') : q = q' ∧ t = t' := by
  obtain ⟨whole, places, exponent⟩ := h
  obtain ⟨whole', places', exponent'⟩ := h'
  have behindPlaces := exponent.goesOn stop
  have behindPlaces' := exponent'.goesOn stop'
  obtain ⟨rfl, rest⟩ := whole.unique whole' same (places.goesOn behindPlaces) (places'.goesOn behindPlaces')
  obtain ⟨rfl, rest⟩ := places.unique places' rest behindPlaces behindPlaces'
  obtain ⟨rfl, rest⟩ := exponent.unique exponent' rest stop stop'
  exact ⟨rfl, rest⟩

theorem Unsigned.head {q : ℚ} (h : Unsigned s q t) : ∃ c rest, s = c :: rest ∧ c.isDigit := by
  obtain ⟨whole, -, -⟩ := h
  cases whole with
  | zero => exact ⟨'0', _, rfl, rfl⟩
  | digits _ digits => exact ⟨_, _, rfl, digits _ List.mem_cons_self⟩

theorem Number.unique {s' : List Char} {q q' : ℚ} (h : Number s q t) (h' : Number s' q' t') (same : s = s')
    (stop : GoesOn isEnd t) (stop' : GoesOn isEnd t') : q = q' ∧ t = t' := by
  cases h with
  | plain h =>
    cases h' with
    | plain h' => exact h.unique h' same stop stop'
    | minus =>
      obtain ⟨c, rest, rfl, digit⟩ := h.head
      rw [(List.cons.inj same).1] at digit
      cases digit
  | minus h =>
    cases h' with
    | plain h' =>
      obtain ⟨c, rest, rfl, digit⟩ := h'.head
      rw [← (List.cons.inj same).1] at digit
      cases digit
    | minus h' =>
      obtain ⟨rfl, rest⟩ := h.unique h' (List.cons.inj same).2 stop stop'
      exact ⟨rfl, rest⟩

theorem Number.head {q : ℚ} (h : Number s q t) : ∃ c rest, s = c :: rest ∧ (c == '-' || c.isDigit) := by
  cases h with
  | plain h =>
    obtain ⟨c, rest, rfl, digit⟩ := h.head
    exact ⟨c, rest, rfl, by simp [digit]⟩
  | minus => exact ⟨'-', _, rfl, rfl⟩

end Numbers

theorem length_of_unit? {ds : List Char} {n : Nat} (h : unit? ds = some n) : ds.length = 4 := by
  unfold unit? at h
  split at h
  · rfl
  · cases h

/-- No character is half of another one. -/
theorem toNat_not_half (c : Char) {k : Nat} (hk : k < 0x400) : c.toNat ≠ 0xD800 + k := by
  have valid : c.toNat.isValidChar := c.valid
  unfold Nat.isValidChar at valid
  omega

theorem Escape.unique {e e' s s' : List Char} {c c' : Char} (h : Escape e c) (h' : Escape e' c')
    (same : e ++ s = e' ++ s') : c = c' ∧ s = s' := by
  have no_letter {e c : Char} (value : letterEscapes.lookup e = some c) : e ≠ 'u' := by
    rintro rfl
    cases value
  have same_unit {ds ds' s s' : List Char} {n n' : Nat} (h : unit? ds = some n) (h' : unit? ds' = some n')
      (same : ds ++ s = ds' ++ s') : n = n' ∧ s = s' := by
    obtain ⟨rfl, rest⟩ := List.append_inj same ((length_of_unit? h).trans (length_of_unit? h').symm)
    exact ⟨Option.some.inj (h.symm.trans h'), rest⟩
  cases h with
  | letter value =>
    cases h' with
    | letter value' =>
      obtain ⟨rfl, rest⟩ := List.cons.inj same
      exact ⟨Option.some.inj (value.symm.trans value'), rest⟩
    | unit | halves => exact absurd (List.cons.inj same).1 (no_letter value)
  | unit value =>
    cases h' with
    | letter mem => exact absurd (List.cons.inj same).1.symm (no_letter mem)
    | unit value' =>
      obtain ⟨code, rest⟩ := same_unit value value' (List.cons.inj same).2
      exact ⟨Char.toNat_inj.mp code, rest⟩
    | halves first' _ hhigh' =>
      have behind := (List.cons.inj same).2
      simp only [List.append_eq, List.append_assoc] at behind
      exact absurd (same_unit value first' behind).1 (toNat_not_half _ hhigh')
  | halves first second hhigh hlow value =>
    cases h' with
    | letter mem => exact absurd (List.cons.inj same).1.symm (no_letter mem)
    | unit value' =>
      have behind := (List.cons.inj same).2
      simp only [List.append_eq, List.append_assoc] at behind
      exact absurd (same_unit first value' behind).1.symm (toNat_not_half _ hhigh)
    | halves first' second' hhigh' hlow' value' =>
      have behind := (List.cons.inj same).2
      simp only [List.append_eq, List.append_assoc] at behind
      obtain ⟨high, behind⟩ := same_unit first first' behind
      obtain ⟨low, rest⟩ := same_unit second second' (List.cons.inj (List.cons.inj behind).2).2
      exact ⟨Char.toNat_inj.mp (by omega), rest⟩

theorem Chars.unique {s s' x x' t t' : List Char} (h : Chars s x t) (h' : Chars s' x' t') (same : s = s') :
    x = x' ∧ t = t' := by
  induction h generalizing s' x' t' with
  | close =>
    cases h' with
    | close => exact ⟨rfl, (List.cons.inj same).2⟩
    | plain plain =>
      rw [← (List.cons.inj same).1] at plain
      cases plain
    | escape => cases (List.cons.inj same).1
  | plain plain _ ih =>
    cases h' with
    | close =>
      rw [(List.cons.inj same).1] at plain
      cases plain
    | plain _ rest =>
      obtain ⟨rfl, behind⟩ := List.cons.inj same
      obtain ⟨rfl, rfl⟩ := ih rest behind
      exact ⟨rfl, rfl⟩
    | escape =>
      rw [(List.cons.inj same).1] at plain
      cases plain
  | escape escape _ ih =>
    cases h' with
    | close => cases (List.cons.inj same).1
    | plain plain =>
      rw [← (List.cons.inj same).1] at plain
      cases plain
    | escape escape' rest =>
      obtain ⟨rfl, behind⟩ := escape.unique escape' (List.cons.inj same).2
      obtain ⟨rfl, rfl⟩ := ih rest behind
      exact ⟨rfl, rfl⟩

theorem Quoted.unique {s t t' : List Char} {x x' : String} (h : Quoted s x t) (h' : Quoted s x' t') :
    x = x' ∧ t = t' := by
  obtain ⟨u, rfl, chars⟩ := h
  obtain ⟨u', same, chars'⟩ := h'
  obtain ⟨eq, rest⟩ := chars.unique chars' (List.cons.inj same).2
  exact ⟨String.toList_inj.mp eq, rest⟩

/-- What the first character of a value without others tells of it. -/
inductive Kind where
  | nullWord
  | trueWord
  | falseWord
  | number
  | text

def kindOf (c : Char) : Option Kind :=
  if c == '-' || c.isDigit then some .number
  else match c with
    | 'n' => some .nullWord
    | 't' => some .trueWord
    | 'f' => some .falseWord
    | '"' => some .text
    | _ => none

def Datum.kind? : Datum → Option Kind
  | null => some .nullWord
  | bool true => some .trueWord
  | bool false => some .falseWord
  | number _ => some .number
  | text _ => some .text
  | array _ | object _ => none

theorem not_isBlank_of_kindOf {c : Char} {k : Kind} (h : kindOf c = some k) : isBlank c = false := by
  cases blank : isBlank c with
  | false => rfl
  | true =>
    simp only [isBlank, Bool.or_eq_true, beq_iff_eq] at blank
    rcases blank with ((rfl | rfl) | rfl) | rfl <;> cases h

theorem Scalar.head {d : Datum} {s t : List Char} (h : Scalar s d t) :
    ∃ c u k, s = c :: u ∧ kindOf c = some k ∧ d.kind? = some k := by
  cases h with
  | nullWord | trueWord | falseWord => exact ⟨_, _, _, rfl, rfl, rfl⟩
  | number h =>
    obtain ⟨c, rest, rfl, first⟩ := h.head
    exact ⟨c, rest, .number, rfl, by simp only [kindOf, first, if_true], rfl⟩
  | text h =>
    obtain ⟨u, rfl, -⟩ := h
    exact ⟨_, _, _, rfl, rfl, rfl⟩

theorem Scalar.strip_eq {d : Datum} {s t : List Char} (h : Scalar s d t) : strip s = s := by
  obtain ⟨c, u, k, rfl, kind, -⟩ := h.head
  exact strip_cons_of_solid (not_isBlank_of_kindOf kind) u

theorem Scalar.unique {d d' : Datum} {s t t' : List Char} (h : Scalar s d t) (h' : Scalar s d' t')
    (stop : GoesOn isEnd t) (stop' : GoesOn isEnd t') : d = d' ∧ t = t' := by
  have kinds : d.kind? = d'.kind? := by
    obtain ⟨c, u, k, same, kind, hd⟩ := h.head
    obtain ⟨c', u', k', same', kind', hd'⟩ := h'.head
    rw [(List.cons.inj (same.symm.trans same')).1, kind'] at kind
    rw [hd, hd', kind]
  generalize same : s = s' at h'
  cases h with
  | nullWord =>
    cases h' with
    | nullWord => exact ⟨rfl, List.append_cancel_left same⟩
    | _ => cases kinds
  | trueWord =>
    cases h' with
    | trueWord => exact ⟨rfl, List.append_cancel_left same⟩
    | _ => cases kinds
  | falseWord =>
    cases h' with
    | falseWord => exact ⟨rfl, List.append_cancel_left same⟩
    | _ => cases kinds
  | number h =>
    cases h' with
    | number h' =>
      obtain ⟨rfl, rest⟩ := h.unique h' same stop stop'
      exact ⟨rfl, rest⟩
    | _ => cases kinds
  | text h =>
    cases h' with
    | text h' =>
      obtain ⟨rfl, rest⟩ := h.unique (same ▸ h')
      exact ⟨rfl, rest⟩
    | _ => cases kinds

namespace Part

/-- The parts are of one sort. -/
def Alike : Part → Part → Prop
  | value _, value _ | items _, items _ | member _, member _ | members _, members _ => True
  | _, _ => False

/-- The text may stand behind the part. -/
def Closes : Part → List Char → Prop
  | value _, t | member _, t => GoesOn isEnd t
  | items _, t => ∃ u, strip t = ']' :: u
  | members _, t => ∃ u, strip t = '\x7d' :: u

end Part

section Signs

variable {c : Char} {s s' t t' : List Char}

theorem Sign.goesOn (h : Sign c s t) (solid : isBlank c = false) (ends : isEnd c) : GoesOn isEnd s := by
  obtain ⟨u, start, -⟩ := h.strip_eq solid
  exact goesOn_of_strip start ends

/-- The same sign at the same place leaves the same text. -/
theorem Sign.strip_congr (h : Sign c s t) (h' : Sign c s' t') (solid : isBlank c = false)
    (same : strip s = strip s') : strip t = strip t' := by
  obtain ⟨u, start, rest⟩ := h.strip_eq solid
  obtain ⟨u', start', rest'⟩ := h'.strip_eq solid
  rw [start, start'] at same
  rw [← rest, ← rest', (List.cons.inj same).2]

theorem Sign.eq_of_strip {c' : Char} (h : Sign c s t) (h' : Sign c' s' t') (solid : isBlank c = false)
    (solid' : isBlank c' = false) (same : strip s = strip s') : c = c' := by
  obtain ⟨u, start, -⟩ := h.strip_eq solid
  obtain ⟨u', start', -⟩ := h'.strip_eq solid'
  rw [start, start'] at same
  exact (List.cons.inj same).1

end Signs

/-- What starts like a text with a comma starts with a comma. -/
theorem Sign.eq_comma {s s' t u : List Char} {c : Char} (comma : Sign ',' s t) (close : strip s' = c :: u)
    (same : strip s = strip s') : c = ',' := by
  obtain ⟨v, start, -⟩ := comma.strip_eq rfl
  rw [start, close] at same
  exact (List.cons.inj same).1.symm

theorem Scalar.not_sign {d : Datum} {c : Char} {s s' t t' : List Char} (h : Scalar s d t) (h' : Sign c s' t')
    (same : strip s = strip s') (solid : isBlank c = false) (sign : kindOf c = none) : False := by
  obtain ⟨a, u, k, start, kind, -⟩ := h.head
  obtain ⟨u', start', -⟩ := h'.strip_eq solid
  rw [h.strip_eq, start, start'] at same
  rw [(List.cons.inj same).1, sign] at kind
  cases kind

theorem Quoted.strip_eq {x : String} {s t : List Char} (h : Quoted s x t) : strip s = s := by
  obtain ⟨u, rfl, -⟩ := h
  exact strip_cons_of_solid rfl u

/-- No part starts with a sign that closes. -/
theorem Reads.not_closed {p : Part} {s u : List Char} {c : Char} (h : Reads p s u) {s' t' : List Char}
    (close : Sign c s' t') (sign : c = ']' ∨ c = '\x7d') (same : strip s = strip s') : False := by
  have solid : isBlank c = false := by rcases sign with rfl | rfl <;> rfl
  have no_bracket {a : Char} {s t : List Char} (first : Sign a s t) (same : strip s = strip s')
      (bracket : isBlank a = false) (ne : a ≠ ']' ∧ a ≠ '\x7d') : False := by
    have eq := first.eq_of_strip close bracket solid same
    subst eq
    exact sign.elim ne.1 ne.2
  induction h with
  | scalar h => exact h.not_sign close same solid (by rcases sign with rfl | rfl <;> rfl)
  | noItems first | array first | noMembers first | object first => exact no_bracket first same rfl (by decide)
  | lastItem _ ih | nextItem _ _ _ ih _ | lastMember _ ih | nextMember _ _ _ ih _ => exact ih same
  | member quoted =>
    obtain ⟨v, start, -⟩ := close.strip_eq solid
    rw [quoted.strip_eq, start] at same
    obtain ⟨w, rfl, -⟩ := quoted
    rcases sign with rfl | rfl <;> cases (List.cons.inj same).1

/-- A part is read in one way, up to the blanks behind it. -/
theorem Reads.unique {p p' : Part} {s s' t t' : List Char} (h : Reads p s t) (h' : Reads p' s' t')
    (alike : p.Alike p') (same : strip s = strip s') (closes : p.Closes t) (closes' : p'.Closes t') :
    p = p' ∧ strip t = strip t' := by
  induction h generalizing p' s' t' with
  | scalar h =>
    cases h' with
    | scalar h' =>
      rw [h.strip_eq, h'.strip_eq] at same
      subst same
      obtain ⟨rfl, rfl⟩ := h.unique h' closes closes'
      exact ⟨rfl, rfl⟩
    | noItems first' | array first' | noMembers first' | object first' =>
      exact (h.not_sign first' same rfl rfl).elim
    | _ => exact alike.elim
  | noItems first last =>
    cases h' with
    | noItems first' last' => exact ⟨rfl, last.strip_congr last' rfl (first.strip_congr first' rfl same)⟩
    | array first' items' =>
      exact (items'.not_closed last (.inl rfl) (first.strip_congr first' rfl same).symm).elim
    | scalar h' => exact (h'.not_sign first same.symm rfl rfl).elim
    | noMembers first' | object first' => cases first.eq_of_strip first' rfl rfl same
    | _ => exact alike.elim
  | array first items last ih =>
    cases h' with
    | array first' items' last' =>
      obtain ⟨u, close, -⟩ := last.strip_eq rfl
      obtain ⟨u', close', -⟩ := last'.strip_eq rfl
      obtain ⟨eq, rest⟩ := ih items' trivial (first.strip_congr first' rfl same) ⟨u, close⟩ ⟨u', close'⟩
      cases eq
      exact ⟨rfl, last.strip_congr last' rfl rest⟩
    | noItems first' last' =>
      exact (items.not_closed last' (.inl rfl) (first.strip_congr first' rfl same)).elim
    | scalar h' => exact (h'.not_sign first same.symm rfl rfl).elim
    | noMembers first' | object first' => cases first.eq_of_strip first' rfl rfl same
    | _ => exact alike.elim
  | noMembers first last =>
    cases h' with
    | noMembers first' last' => exact ⟨rfl, last.strip_congr last' rfl (first.strip_congr first' rfl same)⟩
    | object first' members' =>
      exact (members'.not_closed last (.inr rfl) (first.strip_congr first' rfl same).symm).elim
    | scalar h' => exact (h'.not_sign first same.symm rfl rfl).elim
    | noItems first' | array first' => cases first.eq_of_strip first' rfl rfl same
    | _ => exact alike.elim
  | object first members last ih =>
    cases h' with
    | object first' members' last' =>
      obtain ⟨u, close, -⟩ := last.strip_eq rfl
      obtain ⟨u', close', -⟩ := last'.strip_eq rfl
      obtain ⟨eq, rest⟩ := ih members' trivial (first.strip_congr first' rfl same) ⟨u, close⟩ ⟨u', close'⟩
      cases eq
      exact ⟨rfl, last.strip_congr last' rfl rest⟩
    | noMembers first' last' =>
      exact (members.not_closed last' (.inr rfl) (first.strip_congr first' rfl same)).elim
    | scalar h' => exact (h'.not_sign first same.symm rfl rfl).elim
    | noItems first' | array first' => cases first.eq_of_strip first' rfl rfl same
    | _ => exact alike.elim
  | member quoted colon value ih =>
    cases h' with
    | member quoted' colon' value' =>
      rw [quoted.strip_eq, quoted'.strip_eq] at same
      subst same
      obtain ⟨rfl, rfl⟩ := quoted.unique quoted'
      obtain ⟨eq, rest⟩ := ih value' trivial (colon.strip_congr colon' rfl rfl) closes closes'
      cases eq
      exact ⟨rfl, rest⟩
    | _ => exact alike.elim
  | lastItem first ih =>
    obtain ⟨u, close⟩ := closes
    cases h' with
    | lastItem first' =>
      obtain ⟨u', close'⟩ := closes'
      obtain ⟨eq, rest⟩ := ih first' trivial same (goesOn_of_strip close rfl) (goesOn_of_strip close' rfl)
      cases eq
      exact ⟨rfl, rest⟩
    | nextItem first' comma' =>
      obtain ⟨-, rest⟩ := ih first' trivial same (goesOn_of_strip close rfl) (comma'.goesOn rfl rfl)
      cases comma'.eq_comma close rest.symm
    | _ => exact alike.elim
  | nextItem first comma rest ih ihrest =>
    cases h' with
    | nextItem first' comma' rest' =>
      obtain ⟨eq, behind⟩ := ih first' trivial same (comma.goesOn rfl rfl) (comma'.goesOn rfl rfl)
      cases eq
      obtain ⟨eq, behind⟩ := ihrest rest' trivial (comma.strip_congr comma' rfl behind) closes closes'
      cases eq
      exact ⟨rfl, behind⟩
    | lastItem first' =>
      obtain ⟨u', close'⟩ := closes'
      obtain ⟨-, rest⟩ := ih first' trivial same (comma.goesOn rfl rfl) (goesOn_of_strip close' rfl)
      cases comma.eq_comma close' rest
    | _ => exact alike.elim
  | lastMember first ih =>
    obtain ⟨u, close⟩ := closes
    cases h' with
    | lastMember first' =>
      obtain ⟨u', close'⟩ := closes'
      obtain ⟨eq, rest⟩ := ih first' trivial same (goesOn_of_strip close rfl) (goesOn_of_strip close' rfl)
      cases eq
      exact ⟨rfl, rest⟩
    | nextMember first' comma' =>
      obtain ⟨-, rest⟩ := ih first' trivial same (goesOn_of_strip close rfl) (comma'.goesOn rfl rfl)
      cases comma'.eq_comma close rest.symm
    | _ => exact alike.elim
  | nextMember first comma rest ih ihrest =>
    cases h' with
    | nextMember first' comma' rest' =>
      obtain ⟨eq, behind⟩ := ih first' trivial same (comma.goesOn rfl rfl) (comma'.goesOn rfl rfl)
      cases eq
      obtain ⟨eq, behind⟩ := ihrest rest' trivial (comma.strip_congr comma' rfl behind) closes closes'
      cases eq
      exact ⟨rfl, behind⟩
    | lastMember first' =>
      obtain ⟨u', close'⟩ := closes'
      obtain ⟨-, rest⟩ := ih first' trivial same (comma.goesOn rfl rfl) (goesOn_of_strip close' rfl)
      cases comma.eq_comma close' rest
    | _ => exact alike.elim

/-- A text has at most one meaning. -/
theorem Means.unique {s : List Char} {d d' : Datum} (h : Means s d) (h' : Means s d') : d = d' := by
  obtain ⟨u, w, front, reads, behind⟩ := h
  obtain ⟨u', w', front', reads', behind'⟩ := h'
  have same : strip u = strip u' := front.strip_eq.symm.trans front'.strip_eq
  obtain ⟨eq, -⟩ := reads.unique reads' trivial same (goesOn_of_blanks behind) (goesOn_of_blanks behind')
  cases eq
  rfl

end ScriptAudit.Json
