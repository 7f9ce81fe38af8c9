namespace ScriptAudit.Text.Utf8

def replacement : Char := Char.ofNat 0xFFFD

/-- The bytes of a text. -/
def encode (s : List Char) : List UInt8 := s.flatMap String.utf8EncodeChar

/-- An unfinished character: the bytes it still needs, the value so far, and the range of the next byte. -/
structure Pending where
  need : Nat
  value : Nat
  low : Nat
  high : Nat
deriving DecidableEq

/-- What a lead byte asks for. Overlong forms, surrogates and values past the last plane are
excluded by the range of the second byte. -/
def lead? (b : Nat) : Option Pending :=
  if b < 0xC2 then none
  else if b < 0xE0 then some ⟨1, b - 0xC0, 0x80, 0xBF⟩
  else if b = 0xE0 then some ⟨2, 0x0, 0xA0, 0xBF⟩
  else if b = 0xED then some ⟨2, 0xD, 0x80, 0x9F⟩
  else if b < 0xF0 then some ⟨2, b - 0xE0, 0x80, 0xBF⟩
  else if b = 0xF0 then some ⟨3, 0x0, 0x90, 0xBF⟩
  else if b < 0xF4 then some ⟨3, b - 0xF0, 0x80, 0xBF⟩
  else if b = 0xF4 then some ⟨3, 0x4, 0x80, 0x8F⟩
  else none

/-- What one byte does: it may complete or start a character, or end an ill-formed piece. -/
inductive Effect where
  | char (c : Char)
  | wait (p : Pending)
  | broken
deriving DecidableEq

/-- The effect of a byte that does not continue a character. -/
def start (b : Nat) : Effect :=
  if b < 0x80 then .char (Char.ofNat b)
  else match lead? b with
    | some p => .wait p
    | none => .broken

/-- The effect of a byte on an unfinished character; `none` if the byte does not continue it. -/
def continue? (p : Pending) (b : Nat) : Option Effect :=
  if p.low ≤ b ∧ b ≤ p.high then
    let value := p.value * 64 + b % 64
    if p.need ≤ 1 then some (.char (Char.ofNat value))
    else some (.wait ⟨p.need - 1, value, 0x80, 0xBF⟩)
  else none

/-- What is written for an effect in the lenient reading, and what stays unfinished. -/
def Effect.lenient : Effect → List Char × Option Pending
  | .char c => ([c], none)
  | .wait p => ([], some p)
  | .broken => ([replacement], none)

/-- One byte of the lenient reading. -/
def step (state : Option Pending) (b : Nat) : List Char × Option Pending :=
  match state with
  | none => (start b).lenient
  | some p =>
    match continue? p b with
    | some e => e.lenient
    | none => (replacement :: (start b).lenient.1, (start b).lenient.2)

def decodeFrom : Option Pending → List UInt8 → List Char
  | none, [] => []
  | some _, [] => [replacement]
  | state, b :: rest => (step state b.toNat).1 ++ decodeFrom (step state b.toNat).2 rest

/-- The text of any bytes, with a replacement character for each maximal ill-formed piece. -/
def decode (bytes : List UInt8) : List Char := decodeFrom none bytes

def strictFrom : Option Pending → List UInt8 → Option (List Char)
  | none, [] => some []
  | some _, [] => none
  | state, b :: rest =>
    match (match state with | none => some (start b.toNat) | some p => continue? p b.toNat) with
    | some (.char c) => (strictFrom none rest).map (c :: ·)
    | some (.wait p) => strictFrom (some p) rest
    | _ => none

/-- The text of well-formed bytes. -/
def decode? (bytes : List UInt8) : Option (List Char) := strictFrom none bytes

end ScriptAudit.Text.Utf8
