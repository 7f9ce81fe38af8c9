import ScriptAudit.Number.Text
import ScriptAudit.Text.Quoted
import ScriptAudit.Yaml.Value

namespace ScriptAudit.Yaml

/-- Items between brackets with commas. -/
def listed (first last : List Char) (items : List (List Char)) : List Char :=
  first ++ Text.joinWith [',', ' '] items ++ last

def numbersShown (name : String) (numbers : List Nat) : List Char :=
  name.toList ++ listed ['('] [')'] (numbers.map (Nat.toDigits 10))

/-- A stretch of minutes less than a day; a negative one is a day less and the seconds up to it. -/
def offsetShown (minutes : Int) : List Char :=
  if minutes = 0 then "datetime.timezone.utc".toList
  else
    let parts :=
      if minutes < 0 then "days=-1, seconds=".toList ++ Nat.toDigits 10 ((minutes + 1440).toNat * 60)
      else "seconds=".toList ++ Nat.toDigits 10 (minutes.toNat * 60)
    "datetime.timezone(datetime.timedelta(".toList ++ parts ++ "))".toList

/-- Seconds and their parts are left out where they and all behind them are zero. -/
def timeShown (t : Time) : List Char :=
  let tail :=
    if t.micro != 0 then [t.second, t.micro] else if t.second != 0 then [t.second] else []
  let body := numbersShown "datetime.datetime"
    ([t.date.year, t.date.month, t.date.day, t.hour, t.minute] ++ tail)
  match t.offset with
  | none => body
  | some m => body.dropLast ++ ", tzinfo=".toList ++ offsetShown m ++ [')']

namespace Scalar

/-- How a scalar is shown in a message. -/
def shown : Scalar → List Char
  | null => "None".toList
  | bool b => (if b then "True" else "False").toList
  | int i => Number.intText i
  | float d => d.shown
  | text s => Text.quoted s.toList
  | bytes b => Text.quotedBytes b
  | date d => numbersShown "datetime.date" [d.year, d.month, d.day]
  | time t => timeShown t

/-- The text that a scalar is taken for where a text is asked for. -/
def toText : Scalar → List Char
  | text s => s.toList
  | date d => d.shown
  | time t => t.shown
  | s => s.shown

/-- The scalar counts as something. -/
def isSomething : Scalar → Bool
  | null => false
  | bool b => b
  | int i => i != 0
  | float d => d.magnitude != 0
  | text s => s != ""
  | bytes b => !b.isEmpty
  | date _ | time _ => true

end Scalar

/-- A number can be written out if it has no more digits than a decimal number may have. -/
def Scalar.isWritable : Scalar → Bool
  | int i => i.natAbs < Nat.pow 10 digitLimit
  | _ => true

/-- What is made of the parts of a value that is written out. -/
structure Writer (β : Type) where
  scalar : Scalar → β
  /-- Items between brackets. -/
  group (first last : List Char) (items : List β) : β
  entry (key value : β) : β
  /-- A text that stands for a collection. -/
  word (s : List Char) : β

namespace Writer

/-- The text of a value. -/
def text : Writer (List Char) where
  scalar := Scalar.shown
  group := listed
  entry key value := key ++ ':' :: ' ' :: value
  word s := s

/-- Whether all scalars of a value can be written out. -/
def check : Writer Bool where
  scalar := Scalar.isWritable
  group _ _ items := items.all id
  entry key value := key && value
  word _ := true

end Writer

namespace Value

/-- A collection is being shown already. -/
def within (anchor : Option String) (path : List String) : Bool := anchor.any path.contains

/-- Writes a value out. A collection inside itself becomes dots; `path` holds the anchors of the collections around
the value, and at most `fuel` aliases are followed. -/
def writeIn {β : Type} (w : Writer β) (anchors : List (String × Value)) (fuel : Nat) (path : List String) : Value → β
  | scalar s => w.scalar s
  | list anchor items =>
    if within anchor path then w.word "[...]".toList
    else w.group ['['] [']'] (items.attach.map fun ⟨v, _⟩ => writeIn w anchors fuel (anchor.toList ++ path) v)
  | pair a b => w.group ['('] [')'] [writeIn w anchors fuel path a, writeIn w anchors fuel path b]
  | map anchor entries =>
    if within anchor path then w.word "\x7b...\x7d".toList
    else w.group ['\x7b'] ['\x7d'] (entries.attach.map fun ⟨e, _⟩ =>
      w.entry (writeIn w anchors fuel (anchor.toList ++ path) e.1) (writeIn w anchors fuel (anchor.toList ++ path) e.2))
  | set anchor items =>
    if items.isEmpty then w.word "set()".toList
    else w.group ['\x7b'] ['\x7d'] (items.attach.map fun ⟨v, _⟩ => writeIn w anchors fuel (anchor.toList ++ path) v)
  | reference name =>
    match fuel, anchors.lookup name with
    | fuel + 1, some v => writeIn w anchors fuel path v
    | _, _ => w.word []
termination_by v => (fuel, sizeOf v)
decreasing_by
  · have h := List.sizeOf_lt_of_mem ‹v ∈ items›
    apply Prod.Lex.right
    simp only [list.sizeOf_spec]
    omega
  · apply Prod.Lex.right
    simp only [pair.sizeOf_spec]
    omega
  · apply Prod.Lex.right
    simp only [pair.sizeOf_spec]
    omega
  · have h := List.sizeOf_lt_of_mem ‹e ∈ entries›
    obtain ⟨k, v⟩ := e
    apply Prod.Lex.right
    simp only [map.sizeOf_spec, Prod.mk.sizeOf_spec] at *
    omega
  · have h := List.sizeOf_lt_of_mem ‹e ∈ entries›
    obtain ⟨k, v⟩ := e
    apply Prod.Lex.right
    simp only [map.sizeOf_spec, Prod.mk.sizeOf_spec] at *
    omega
  · have h := List.sizeOf_lt_of_mem ‹v ∈ items›
    apply Prod.Lex.right
    simp only [set.sizeOf_spec]
    omega
  · exact Prod.Lex.left _ _ (Nat.lt_succ_self _)

end Value

namespace Document

/-- Writes a value of the document out. -/
def write {β : Type} (w : Writer β) (d : Document) (v : Value) : β := v.writeIn w d.anchors (d.anchors.length + 1) []

/-- How a value of the document is shown in a message. -/
def shown (d : Document) (v : Value) : List Char := d.write .text v

/-- All numbers in a value of the document can be written out. -/
def isWritable (d : Document) (v : Value) : Bool := d.write .check v

/-- The text that a value is taken for where a text is asked for. -/
def toText (d : Document) (v : Value) : List Char :=
  match v with
  | .scalar s => s.toText
  | v => d.shown v

end Document

/-- The value counts as something: a collection does if it holds something. -/
def Value.isSomething : Value → Bool
  | scalar s => s.isSomething
  | list _ items | set _ items => !items.isEmpty
  | map _ entries => !entries.isEmpty
  | pair _ _ | reference _ => true

/-- What settings files are read with. -/
structure Library where
  /-- The document of a text; none if it is empty. -/
  load : List Char → Except Fault (Option Document) := Document.ofText
  /-- A value of a document can be taken for a text. -/
  writes : Document → Value → Bool := Document.isWritable
  /-- A value of a document can be part of a message, which may also depend on who listens. -/
  logs : Document → Value → Bool := Document.isWritable

end ScriptAudit.Yaml
