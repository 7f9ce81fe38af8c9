namespace ScriptAudit

/-- Thresholds, names and patterns that a scan goes by. -/
structure Settings where
  disabledRules : List String := []
  maxParams : Int := 3
  maxFunctionLines : Int := 50
  debugCalls : List String := ["console.log"]
  excludePaths : List String := []
  suppressionKeyword : String := "devguard-ignore"
  /-- The file the settings come from. -/
  sourcePath : Option String := none
deriving DecidableEq, Repr

end ScriptAudit
