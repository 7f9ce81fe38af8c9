import ScriptAudit.Log.Record
import ScriptAudit.Terminal.Line
import ScriptAudit.Text.Lines

namespace ScriptAudit

/-- A terminal that log lines go to, with its width. -/
structure Console where
  id : Nat
  width : Nat
deriving DecidableEq, Repr

/-- What receives the records of a logger. -/
inductive Handler where
  | terminal (console : Console)
  | other (id : Nat)
deriving DecidableEq, Repr

def Handler.isTerminal : Handler → Bool
  | terminal _ => true
  | other _ => false

/-- The console that a handler prints on. -/
def Handler.console? : Handler → Option Console
  | terminal console => some console
  | other _ => none

/-- The lines of a record: its level, then its text in a column of its own. -/
def Record.lines (width : Nat) (r : Record) : List Terminal.Line :=
  let label := Terminal.pad 8 r.level.name.toList ++ [' ']
  let column := width - 9
  match (Terminal.wrap column r.text.toList).map (Terminal.pad column) with
  | [] => [label]
  | first :: rest => (label ++ first) :: rest.map (Terminal.blanks 9 ++ ·)

/-- Where a record can be read: as lines on a console, or as its bare text on standard error, where it goes if nothing
takes it. -/
inductive Printed where
  | console (c : Console) (lines : List Terminal.Line)
  | standby (text : String)
deriving DecidableEq, Repr

/-- A call that concerns the program's logger. -/
inductive LogCall where
  | configure (verbose : Bool) (console : Console)
  /-- A record for the logger that names lead to from the program's logger. -/
  | record (below : List String) (r : Record)
deriving DecidableEq, Repr

/-- The state of the program's logger. -/
structure Logger where
  level : Level := .warning
  propagate : Bool := true
  handlers : List Handler := []
deriving DecidableEq, Repr

namespace Logger

/-- What surrounds the program's logger: the handlers above it, which get what it passes on, and the level from which
on a record that no handler takes is written to standard error, if it ever is. -/
structure Outside where
  handlers : List Handler := []
  standby : Option Level := some .warning
deriving DecidableEq, Repr

def name : String := "devguard"

/-- The name belongs to the logger or to one below it. -/
def covers (other : String) : Bool := other == name || (name ++ ".").toList.isPrefixOf other.toList

/-- The name of the logger that names lead to. -/
def nameBelow (below : List String) : String :=
  String.ofList (Text.joinWith ['.'] (name.toList :: below.map (·.toList)))

/-- Takes the handlers that print out of a list. The loop goes over a copy, so what it takes out is not skipped over. -/
def detachTerminals (handlers : List Handler) : List Handler :=
  handlers.foldl (fun left h => if h.isTerminal then left.erase h else left) handlers

/-- The level from which on records are printed. -/
def threshold (verbose : Bool) : Level := if verbose then .debug else .warning

/-- Prints on a console from now on, and on no other one. -/
def configure (l : Logger) (verbose : Bool) (console : Console) : Logger where
  level := threshold verbose
  propagate := false
  handlers := detachTerminals l.handlers ++ [.terminal console]

/-- The handlers that a record of the logger is given to. -/
def takers (l : Logger) (o : Outside) : List Handler := l.handlers ++ if l.propagate then o.handlers else []

/-- Where a record of the logger of some name can be read. -/
def emit (l : Logger) (o : Outside) (source : String) (r : Record) : List Printed :=
  if covers source && l.level.rank ≤ r.level.rank then
    match l.takers o with
    | [] => if o.standby.any (·.rank ≤ r.level.rank) then [.standby r.text] else []
    | takers => (takers.filterMap Handler.console?).map fun c => .console c (r.lines c.width)
  else []

/-- The logger behind a call. -/
def next (l : Logger) : LogCall → Logger
  | .configure verbose console => l.configure verbose console
  | .record _ _ => l

/-- What a call prints. -/
def prints (l : Logger) (o : Outside) : LogCall → List Printed
  | .configure _ _ => []
  | .record below r => l.emit o (nameBelow below) r

/-- The logger behind some calls. -/
def after (l : Logger) (calls : List LogCall) : Logger := calls.foldl next l

/-- What each of some calls prints. -/
def outputs (l : Logger) (o : Outside) : List LogCall → List (List Printed)
  | [] => []
  | call :: rest => l.prints o call :: outputs (l.next call) o rest

end Logger

end ScriptAudit
