import ScriptAudit.Command.Word

namespace ScriptAudit.Command

/-- The form of the report on standard output. -/
inductive Format where
  | text
  | json
deriving DecidableEq, Repr

/-- What a command line asks for. -/
structure Request where
  target : String
  verbose : Bool := false
  format : Format := .text
  outputFile : Option String := none
  config : Option String := none
  disabled : List String := []
  noBanner : Bool := false
deriving DecidableEq, Repr

/-- Why there is no request. -/
inductive Stop where
  | help
  | fault (f : UsageFault)
deriving DecidableEq, Repr

/-- A request while the command line is read. -/
structure Draft where
  target : Option String := none
  request : Request := { target := "" }
  /-- Words that nothing takes. -/
  extras : List String := []

namespace Draft

def addExtra (d : Draft) (text : String) : Draft := { d with extras := d.extras ++ [text] }

/-- Sets a switch that has no value. -/
def setFlag (d : Draft) : Switch → Except Stop Draft
  | .help => .error .help
  | .verbose => .ok { d with request := { d.request with verbose := true } }
  | .noBanner => .ok { d with request := { d.request with noBanner := true } }
  | .output | .outputFile | .config | .disable => .ok d

/-- Sets a switch to a value. The last value counts, except that disabled rules add up. -/
def setValue (d : Draft) (s : Switch) (value : String) : Except Stop Draft :=
  let r := d.request
  if s.choices?.any (!·.contains value) then .error (.fault (.badChoice s value))
  else .ok { d with request :=
    match s with
    | .output => { r with format := if value = "json" then .json else .text }
    | .outputFile => { r with outputFile := some value }
    | .config => { r with config := some value }
    | .disable => { r with disabled := r.disabled ++ [value] }
    | .help | .verbose | .noBanner => r }

/-- Sets the switches of a word, given the word behind it if that is plain. -/
def setAll (d : Draft) (e : Expansion) (next : Option String) : Except Stop Draft := do
  match e.ending, next with
  | .done, _ => e.flags.foldlM setFlag d
  | .unknown text, _ => return (← e.flags.foldlM setFlag d).addExtra text
  | .value s text, _ | .awaits s, some text => (← e.flags.foldlM setFlag d).setValue s text
  | .awaits s, none => .error (.fault (.noValue s))

/-- Reads the words in their order. The first plain word is the target, and takes a separator beside it along;
other plain words are extras, unless a switch takes them. -/
def read (words : List Word) (d : Draft) : Except Stop Draft :=
  match words with
  | [] => .ok d
  | .plain text :: rest =>
    match d.target with
    | none => read (Word.dropSeparator rest) { d with target := some text }
    | some _ => read rest (d.addExtra text)
  | .separator :: rest =>
    match d.target, Word.headText? rest with
    | none, some text => read (rest.drop 1) { d with target := some text }
    | _, _ => read rest (d.addExtra "--")
  | .dashed (.error f) :: _ => .error (.fault f)
  | .dashed (.ok e) :: rest => do read (rest.drop e.reach) (← d.setAll e (Word.headText? rest))
termination_by words.length
decreasing_by
  · exact Nat.lt_succ_of_le (Word.length_dropSeparator_le rest)
  · exact Nat.lt_succ_self _
  · simp only [List.length_drop, List.length_cons]
    omega
  · exact Nat.lt_succ_self _
  · simp only [List.length_drop, List.length_cons]
    omega

/-- The request, if there is a target and nothing else. -/
def finish (d : Draft) : Except Stop Request :=
  match d.target, d.extras with
  | none, _ => .error (.fault .noTarget)
  | some target, [] => .ok { d.request with target := target }
  | some _, extras => .error (.fault (.unrecognized extras))

end Draft

/-- The request of a command line. -/
def Request.ofArguments (arguments : List String) : Except Stop Request := do
  match Word.ofTexts arguments with
  | .error f => .error (.fault f)
  | .ok words => (← Draft.read words {}).finish

end ScriptAudit.Command
