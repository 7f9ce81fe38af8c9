namespace ScriptAudit.Text

/-- All that may be left of a text, the text itself first. -/
def rests {α : Type} : List α → List (List α)
  | [] => [[]]
  | a :: s => (a :: s) :: rests s

/-- The part stands somewhere in the text. -/
def occurs {α : Type} [BEq α] (part s : List α) : Bool := (rests s).any part.isPrefixOf

end ScriptAudit.Text
