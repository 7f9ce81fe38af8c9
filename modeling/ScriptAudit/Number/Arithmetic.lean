import ScriptAudit.Number.Double

namespace ScriptAudit.Number.Double

def neg (d : Double) : Double := ofMagnitude (!d.negative) d.magnitude

/-- The double nearest to a fraction. -/
def ofRatio (negative : Bool) (num den : Nat) : Double := ofMagnitude negative (nearest num den)

def mul (a b : Double) : Double :=
  let negative := a.negative != b.negative
  if a.isNaN || b.isNaN then nan
  else if a.isInfinite || b.isInfinite then
    if a.magnitude == 0 || b.magnitude == 0 then nan else ofMagnitude negative infinite
  else
    let (n, d) := fraction a.magnitude
    let (m, e) := fraction b.magnitude
    ofRatio negative (n * m) (d * e)

/-- The sum; an exact zero is positive unless both terms are negative. -/
def add (a b : Double) : Double :=
  if a.isNaN || b.isNaN then nan
  else if a.isInfinite then if b.isInfinite && a.negative != b.negative then nan else a
  else if b.isInfinite then b
  else
    let (n, d) := fraction a.magnitude
    let (m, e) := fraction b.magnitude
    let x := n * e
    let y := m * d
    if a.negative == b.negative then ofRatio a.negative (x + y) (d * e)
    else if x == y then zero
    else if y < x then ofRatio a.negative (x - y) (d * e)
    else ofRatio b.negative (y - x) (d * e)

/-- The double nearest to a natural number, perhaps infinite. -/
def ofNat (n : Nat) : Double := ofRatio false n 1

end ScriptAudit.Number.Double
