import ScriptAudit.Report.Basic

namespace ScriptAudit

/-- One more for a key, among counts in the order of their keys. -/
def bump (key : String) : List (String × Nat) → List (String × Nat)
  | [] => [(key, 1)]
  | (k, n) :: rest =>
    if key = k then (k, n + 1) :: rest
    else if key < k then (key, 1) :: (k, n) :: rest
    else (k, n) :: bump key rest

/-- How often each key occurs, in the order of the keys. -/
def tally (keys : List String) : List (String × Nat) := keys.foldr bump []

/-- The number of findings of each rule that has any, in the order of their ids. -/
def ruleCounts (reports : List FileReport) : List (String × Nat) :=
  tally ((allFindings reports).map (·.rule))

/-- The counts with the greatest first; equal ones stay in the order of their ids. -/
def ranked (counts : List (String × Nat)) : List (String × Nat) :=
  counts.mergeSort fun a b => b.2 ≤ a.2

def totalFindings (reports : List FileReport) : Nat := (allFindings reports).length

/-- The report tells why the file could not be analyzed. -/
def FileReport.failed (r : FileReport) : Bool := r.error.any (· != "")

end ScriptAudit
