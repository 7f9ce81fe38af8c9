import ScriptAudit.Command.Usage
import ScriptAudit.Text.Digit

namespace ScriptAudit.Command

/-- How a word of switches ends. -/
inductive Ending where
  | done
  | unknown (text : String)
  | value (s : Switch) (text : String)
  /-- The value is the next word. -/
  | awaits (s : Switch)
deriving DecidableEq, Repr

/-- The switches without a value that a word sets, and what comes last in it. -/
structure Expansion where
  flags : List Switch
  ending : Ending
deriving DecidableEq, Repr

namespace Expansion

def bare (s : Switch) : Expansion := if s.takesValue then ⟨[], .awaits s⟩ else ⟨[s], .done⟩

/-- A long name with the value behind the equals sign. -/
def ofLong (s : Switch) : Option String → Except UsageFault Expansion
  | none => .ok (bare s)
  | some v => if s.takesValue then .ok ⟨[], .value s v⟩ else .error (.needlessValue s v)

/-- A letter with what follows it in its word: its value, or more letters. -/
def ofShort (s : Switch) : List Char → Except UsageFault Expansion
  | [] => .ok (bare s)
  | c :: rest =>
    if s.takesValue then .ok ⟨[], .value s (String.ofList (if c = '=' then rest else c :: rest))⟩
    else if c = '=' then .error (.needlessValue s (String.ofList rest))
    else if c = '-' then .error (.needlessValue s (String.ofList (c :: rest)))
    else
      match Switch.ofLetter? c with
      | none => .ok ⟨[s], .unknown (String.ofList ('-' :: c :: rest))⟩
      | some next => (ofShort next rest).map fun e => { e with flags := s :: e.flags }

/-- How many of the words behind it a word takes. -/
def reach (e : Expansion) : Nat :=
  match e.ending with
  | .awaits _ => 1
  | .done | .unknown _ | .value _ _ => 0

end Expansion

/-- A word of the command line. -/
inductive Word where
  /-- Stands for itself: a target, or the value of a switch. -/
  | plain (text : String)
  /-- Behind it all words are plain. -/
  | separator
  /-- Sets switches. What is wrong with it matters only once it is reached. -/
  | dashed (switches : Except UsageFault Expansion)

namespace Word

/-- The text is empty or one line break. -/
def isEnd (s : List Char) : Bool := s == [] || s == ['\n']

def isDigit (c : Char) : Bool := (Text.decimalValue? c).isSome

/-- At least one digit, then the end. -/
def isWhole (s : List Char) : Bool := s.head?.any isDigit && isEnd (s.dropWhile isDigit)

/-- What follows a minus makes a number of it. -/
def isNumber (s : List Char) : Bool :=
  isWhole s ||
    match s.dropWhile isDigit with
    | '.' :: fraction => isWhole fraction
    | _ => false

/-- A word that starts with a minus and names no switch. It is plain if it is a number or holds a blank. -/
def ofUnknown (s : List Char) : Word :=
  let text := String.ofList ('-' :: s)
  if isNumber s || s.contains ' ' then .plain text else .dashed (.ok ⟨[], .unknown text⟩)

/-- A word that starts with two minuses: the name of a switch or the start of one, with a value behind the
first equals sign. -/
def ofLong (s : List Char) : Except UsageFault Word :=
  let text := '-' :: '-' :: s
  let name := text.takeWhile (· != '=')
  let value := match text.dropWhile (· != '=') with
    | [] => none
    | _ :: v => some (String.ofList v)
  match Switch.ofLongName? (String.ofList name) with
  | some found => .ok (.dashed (Expansion.ofLong found value))
  | none =>
    match Switch.startingWith name with
    | [] => .ok (ofUnknown ('-' :: s))
    | [found] => .ok (.dashed (Expansion.ofLong found value))
    | several => .error (.ambiguous (String.ofList text) several)

def ofText (text : String) : Except UsageFault Word :=
  match text.toList with
  | '-' :: '-' :: s => ofLong s
  | '-' :: c :: s =>
    match Switch.ofLetter? c with
    | some found => .ok (.dashed (Expansion.ofShort found s))
    | none => .ok (ofUnknown (c :: s))
  | _ => .ok (.plain text)

/-- All words of a command line. -/
def ofTexts : List String → Except UsageFault (List Word)
  | [] => .ok []
  | text :: rest =>
    if text = "--" then .ok (.separator :: rest.map .plain)
    else do
      let word ← ofText text
      return word :: (← ofTexts rest)

/-- The text of the first word, if it is plain. -/
def headText? : List Word → Option String
  | .plain text :: _ => some text
  | _ => none

def dropSeparator : List Word → List Word
  | .separator :: rest => rest
  | words => words

theorem length_dropSeparator_le (words : List Word) : (dropSeparator words).length ≤ words.length := by
  unfold dropSeparator
  split <;> simp

end Word

end ScriptAudit.Command
