import ScriptAudit.Disk
import ScriptAudit.Log.Logger
import Std.Time.Zoned

namespace ScriptAudit

/-- The moment of the call, by the local clock. -/
def Moment.current : IO Moment := do
  let t ← Std.Time.PlainDateTime.now
  return {
    year := t.date.year.toInt.toNat
    month := t.date.month.val.toNat
    day := t.date.day.val.toNat
    hour := t.time.hour.val.toNat
    minute := t.time.minute.val.toNat
    second := t.time.second.val.toNat
    micro := t.time.nanosecond.val.toNat / 1000 }

/-- A number of milliseconds, in seconds. -/
def seconds (ms : Nat) : Number.Double :=
  (Number.Numeral.decimal? (toString ms ++ "e-3").toList).getD Number.Double.zero

/-- Carries out a request, with log lines on standard error. -/
def Command.Request.carryOut (r : Command.Request) : IO UInt32 := do
  let t ← Disk.snapshot r
  let started ← IO.monoMsNow
  let scanned ← IO.lazyPure fun _ => r.scan t
  let elapsed := seconds ((← IO.monoMsNow) - started)
  for printed in r.logged scanned.records do
    match printed with
    | .console _ lines => IO.eprint (Command.printed lines)
    | .standby text => IO.eprintln text
  match scanned.value.bind (r.publish t (← Moment.current) elapsed {}) with
  | .error f =>
    IO.eprintln f.message
    return 1
  | .ok o =>
    IO.print o.output
    Disk.save r o
    return o.exit.toUInt32

end ScriptAudit

def main (arguments : List String) : IO UInt32 := do
  match ScriptAudit.Command.Request.ofArguments arguments with
  | .error .help =>
    IO.print ScriptAudit.Command.helpText
    return 0
  | .error (.fault f) =>
    IO.eprintln (ScriptAudit.Command.usage ++ f.line)
    return 2
  | .ok r => r.carryOut
