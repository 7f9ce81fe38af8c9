namespace ScriptAudit

/-- An anomaly at a place of a script. -/
structure Finding where
  rule : String
  message : String
  line : Int
  column : Int
deriving DecidableEq, Repr

/-- Findings in the order they were recorded; nothing is dropped or merged. -/
structure Collector where
  recorded : Array Finding

namespace Collector

def empty : Collector := ⟨#[]⟩

def record (c : Collector) (f : Finding) : Collector := ⟨c.recorded.push f⟩

def recordAll (c : Collector) (fs : List Finding) : Collector := fs.foldl record c

def results (c : Collector) : List Finding := c.recorded.toList

def size (c : Collector) : Nat := c.recorded.size

@[simp] theorem results_empty : empty.results = [] := rfl

@[simp] theorem results_record (c : Collector) (f : Finding) :
    (c.record f).results = c.results ++ [f] := by
  simp [results, record]

@[simp] theorem results_recordAll (c : Collector) (fs : List Finding) :
    (c.recordAll fs).results = c.results ++ fs := by
  induction fs generalizing c with
  | nil => simp [recordAll]
  | cons f rest ih =>
    have h := ih (c.record f)
    simp only [recordAll, List.foldl_cons] at h ⊢
    simp [h]

@[simp] theorem length_results (c : Collector) : c.results.length = c.size := by
  simp [results, size]

end Collector

end ScriptAudit
