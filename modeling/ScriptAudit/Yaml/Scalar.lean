import ScriptAudit.Number.Arithmetic
import ScriptAudit.Number.Numeral
import ScriptAudit.Text.Case
import ScriptAudit.Text.Lines
import ScriptAudit.Yaml.Base64
import ScriptAudit.Yaml.Cursor
import ScriptAudit.Yaml.Time

namespace ScriptAudit.Yaml

open Number

/-- The type of a node. -/
inductive Tag where
  | null
  | bool
  | int
  | float
  | binary
  | time
  | text
  | sequence
  | mapping
  | set
  | pairs
  /-- A key that merges other mappings into its own. -/
  | merge
  /-- A key for the value that a mapping stands for. -/
  | principal
  | unknown
deriving DecidableEq, Repr

namespace Tag

/-- Values of the type are put together from others. -/
def isCollection : Tag → Bool
  | sequence | mapping | set | pairs => true
  | _ => false

/-- Values of the type are written as a text. -/
def isScalar : Tag → Bool
  | null | bool | int | float | binary | time | text => true
  | _ => false

def names : List (String × Tag) := [
  ("null", .null), ("bool", .bool), ("int", .int), ("float", .float), ("binary", .binary),
  ("timestamp", .time), ("str", .text), ("seq", .sequence), ("map", .mapping), ("set", .set),
  ("omap", .pairs), ("pairs", .pairs), ("merge", .merge), ("value", .principal)]

/-- Where the names of the common types start. -/
def commonUri : String := "tag:yaml.org,2002:"

/-- The type that a URI names. -/
def ofUri (uri : String) : Tag := (names.find? fun (n, _) => commonUri ++ n == uri).elim .unknown (·.2)

end Tag

/-! ### Types by text -/

def boolWords : List String := [
  "yes", "Yes", "YES", "no", "No", "NO", "true", "True", "TRUE", "false", "False", "FALSE", "on", "On", "ON",
  "off", "Off", "OFF"]

def nullWords : List String := ["~", "null", "Null", "NULL", ""]

def isDigitOrBar (c : Char) : Bool := c.isDigit || c == '_'

/-- The text without a sign. -/
def unsigned : List Char → List Char
  | c :: rest => if c == '+' || c == '-' then rest else c :: rest
  | [] => []

/-- A digit, then digits and bars. -/
def isDigits (s : List Char) : Bool := s.head?.any Char.isDigit && s.all isDigitOrBar

/-- A number below sixty, of one digit or two. -/
def isSixtieth : List Char → Bool
  | [a] => a.isDigit
  | [a, b] => '0' ≤ a && a ≤ '5' && b.isDigit
  | _ => false

/-- Nothing, or an exponent with a sign. -/
def isExponent : List Char → Bool
  | [] => true
  | e :: sign :: digits =>
    (e == 'e' || e == 'E') && (sign == '+' || sign == '-') && !digits.isEmpty && digits.all Char.isDigit
  | _ => false

/-- Behind the point of a number: digits and bars, then an exponent. -/
def isFraction (s : List Char) : Bool := isExponent (s.dropWhile isDigitOrBar)

/-- The text before the first point and the text behind it. -/
def atPoint? (s : List Char) : Option (List Char × List Char) :=
  match s.dropWhile (· != '.') with
  | [] => none
  | _ :: rest => some (s.takeWhile (· != '.'), rest)

def isFloat (s : List Char) : Bool :=
  let u := unsigned s
  let word := String.ofList u
  (word == ".inf" || word == ".Inf" || word == ".INF") ||
    (let whole := String.ofList s; whole == ".nan" || whole == ".NaN" || whole == ".NAN") ||
    match atPoint? u with
    | none => false
    | some ([], places) => s.length == u.length && places.head?.any Char.isDigit && isFraction places
    | some (whole, places) =>
      match Text.splitOn ':' whole with
      | [first] => isDigits first && isFraction places
      | first :: more => isDigits first && more.all isSixtieth && places.all isDigitOrBar
      | [] => false

def isHexOrBar (c : Char) : Bool := isDigitOrBar c || 'a' ≤ c && c ≤ 'f' || 'A' ≤ c && c ≤ 'F'

def isInt (s : List Char) : Bool :=
  match unsigned s with
  | '0' :: 'b' :: rest => !rest.isEmpty && rest.all fun c => c == '0' || c == '1' || c == '_'
  | '0' :: 'x' :: rest => !rest.isEmpty && rest.all isHexOrBar
  | '0' :: rest => rest.all fun c => '0' ≤ c && c ≤ '7' || c == '_'
  | u =>
    match Text.splitOn ':' u with
    | first :: more => isDigits first && more.all isSixtieth
    | [] => false

/-- The type of a plain scalar. -/
def plainTag (s : List Char) : Tag :=
  let s := if 1 < s.length && s.getLast? == some '\n' then s.dropLast else s
  let word := String.ofList s
  if boolWords.contains word then .bool
  else if isFloat s then .float
  else if isInt s then .int
  else if word == "<<" then .merge
  else if nullWords.contains word then .null
  else if Time.isPlain s then .time
  else if word == "=" then .principal
  else .text

/-! ### Values -/

/-- The value of a scalar. -/
inductive Scalar where
  | null
  | bool (b : Bool)
  | int (i : Int)
  | float (d : Double)
  | text (s : String)
  | bytes (b : List UInt8)
  | date (d : Date)
  | time (t : Time)
deriving DecidableEq

def withoutBars (s : List Char) : List Char := s.filter (· != '_')

/-- The sign of a number and the rest; there must be something. -/
def signOf (s : List Char) : Except Fault (Bool × List Char) :=
  match s with
  | [] => .error .noDigits
  | c :: _ => .ok (c == '-', unsigned s)

/-- The most digits that a decimal number may have. -/
def digitLimit : Nat := 4300

/-- A whole number in a base. -/
def wholeNumber (base : Nat) (s : List Char) : Except Fault Int :=
  if base == 10 && digitLimit < s.length then .error .noValue
  else match Numeral.whole? base s with
    | some i => .ok i
    | none => .error .noValue

/-- Numbers with the weights 1, 60, 3600 and so on from the right. -/
def sixtyfold (parts : List Int) : Int := parts.foldl (fun v d => v * 60 + d) 0

def intValue (s : List Char) : Except Fault Int := do
  let (negative, digits) ← signOf (withoutBars s)
  let signed (i : Int) : Int := if negative then -i else i
  match digits with
  | [] => .error .noDigits
  | ['0'] => return 0
  | '0' :: 'b' :: rest => return signed (← wholeNumber 2 rest)
  | '0' :: 'x' :: rest => return signed (← wholeNumber 16 rest)
  | '0' :: _ => return signed (← wholeNumber 8 digits)
  | _ =>
    if digits.contains ':' then
      return signed (sixtyfold (← (Text.splitOn ':' digits).mapM (wholeNumber 10)))
    else return signed (← wholeNumber 10 digits)

/-- A decimal number. -/
def decimalNumber (s : List Char) : Except Fault Double :=
  match Numeral.decimal? s with
  | some d => .ok d
  | none => .error .noValue

/-- As `sixtyfold`; the terms are added from the right, with rounding. -/
def sixtyfoldSum (parts : List Double) : Double :=
  (parts.reverse.foldl (fun (sum, base) d => (sum.add (d.mul (.ofNat base)), base * 60))
    (Double.zero, 1)).1

def floatValue (s : List Char) : Except Fault Double := do
  let (negative, digits) ← signOf (Text.lower (withoutBars s))
  let signed (d : Double) : Double := if negative then d.neg else d
  if digits == ".inf".toList then return signed (.ofMagnitude false Double.infinite)
  else if digits == ".nan".toList then return Double.nan
  else if digits.contains ':' then
    return signed (sixtyfoldSum (← (Text.splitOn ':' digits).mapM decimalNumber))
  else return signed (← decimalNumber digits)

def boolValue (s : List Char) : Except Fault Bool :=
  let word := String.ofList (Text.lower s)
  if ["yes", "true", "on"].contains word then .ok true
  else if ["no", "false", "off"].contains word then .ok false
  else .error .notBoolean

def bytesValue (s : List Char) : Except Fault (List UInt8) :=
  if s.all (·.toNat < 128) then
    match Base64.decode? s with
    | some b => .ok b
    | none => .error .malformed
  else .error .malformed

/-- A date, or a date with a time. -/
def timeValue (s : List Char) : Except Fault Scalar :=
  match Time.written? s with
  | none => .error .notTime
  | some w =>
    match w.date?, w.clock with
    | none, _ => .error .noValue
    | some d, none => .ok (.date d)
    | some d, some _ =>
      match w.time? d with
      | none => .error .noValue
      | some t => .ok (.time t)

/-- The value of a scalar of a type. -/
def scalarValue (tag : Tag) (text : String) : Except Fault Scalar :=
  let s := text.toList
  match tag with
  | .null => .ok .null
  | .bool => (boolValue s).map .bool
  | .int => (intValue s).map .int
  | .float => (floatValue s).map .float
  | .binary => (bytesValue s).map .bytes
  | .time => timeValue s
  | .text => .ok (.text text)
  | _ => .error .malformed

end ScriptAudit.Yaml
