import ScriptAudit.Number.Numeral

namespace ScriptAudit.Number

/-- The literal without its digit separators. -/
def withoutSeparators (raw : List Char) : List Char := raw.filter (· != '_')

/-- A zero and then at least one octal digit. -/
def isLegacyOctal : List Char → Bool
  | '0' :: rest => !rest.isEmpty && rest.all fun c => 48 ≤ c.toNat && c.toNat ≤ 55
  | _ => false

/-- The base that the start of a literal names. -/
def markedBase? : List Char → Option Nat
  | '0' :: c :: _ =>
    if c == 'x' || c == 'X' then some 16
    else if c == 'o' || c == 'O' then some 8
    else if c == 'b' || c == 'B' then some 2
    else none
  | _ => none

/-- The double nearest to a whole number in a base. -/
def wholeValue (base : Nat) (digits : List Char) : Except NumeralFault Double :=
  match Numeral.whole? base digits with
  | none => .error .malformed
  | some i =>
    match Double.ofInt? i with
    | none => .error .tooLarge
    | some d => .ok d

/-- The value of a literal; `none` for a big integer. -/
def literalValue (raw : List Char) : Except NumeralFault (Option Double) :=
  let text := withoutSeparators raw
  if text.getLast? == some 'n' then .ok none
  else match markedBase? text with
    | some base => (wholeValue base (text.drop 2)).map some
    | none =>
      if isLegacyOctal text then (wholeValue 8 text).map some
      else match Numeral.decimal? text with
        | some d => .ok (some d)
        | none => .error .malformed

end ScriptAudit.Number
