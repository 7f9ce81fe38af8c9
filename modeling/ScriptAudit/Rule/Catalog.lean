import ScriptAudit.Number.Text
import ScriptAudit.Rule.Basic
import ScriptAudit.Settings.Basic
import ScriptAudit.Text.Blank
import ScriptAudit.Text.Case

namespace ScriptAudit

abbrev Catalog := List Rule

namespace Rule

/-- The declarator that stands first, if it is one. -/
def firstDeclarator : Node → Option (Node × Option Node)
  | .declarator _ id init => some (id, init)
  | _ => none

/-- A declaration whose first variable has a plain name and no value. -/
def uninitialized : Node → Option Bool
  | .declaration _ _ (first :: _) =>
    (firstDeclarator first).map fun (id, init) => init.isNone && id.name?.isSome
  | _ => some false

def uninitializedName : Node → Option String
  | .declaration _ _ (first :: _) => (firstDeclarator first).bind fun (id, _) => id.name?
  | _ => none

def missingInitializer : Rule where
  id := "missing-initializer"
  title := "Missing initializer"
  usesSource := false
  flags v := uninitialized v.node
  message v := (uninitializedName v.node).map ("Undeclared variable detected: " ++ ·)

/-- Behind blanks the text goes on with `s`; what follows it. -/
def pastBlank? (s : List Char) (text : List Char) : Option (List Char) :=
  let rest := Text.dropBlank text
  if s.isPrefixOf rest then some (rest.drop s.length) else none

/-- The text starts with an assignment of `null` to a name. -/
def startsNullAssignment (name text : List Char) : Bool :=
  name.isPrefixOf text &&
    ((pastBlank? ['='] (text.drop name.length)).bind (pastBlank? "null".toList)).isSome

/-- Somewhere in the text `null` is assigned to a name. -/
def assignsNull (name : List Char) : List Char → Bool
  | [] => startsNullAssignment name []
  | c :: rest => startsNullAssignment name (c :: rest) || assignsNull name rest

/-- The name of the object whose member is accessed. -/
def accessedName : Node → Option String
  | .member _ object _ _ _ => object.name?
  | _ => none

def isAssignment : Node → Bool
  | .assignment .. => true
  | _ => false

/-- The node is not the root and does not stand in an assignment. -/
def standsFree (parent : Option Node) : Bool := parent.any fun p => !isAssignment p

def unsafeMemberAccess : Rule where
  id := "unsafe-member-access"
  title := "Unsafe member access"
  usesSource := true
  flags v := some <|
    match accessedName v.node, v.source with
    | some name, some source => standsFree v.parent && assignsNull name.toList source.toList
    | _, _ => false
  message v := (accessedName v.node).map ("Potential null pointer exception on: " ++ ·)

def isFunctionExpression : Node → Bool
  | .function _ .expression .. => true
  | _ => false

/-- The call of a function expression. -/
def callsFunctionExpression : Node → Bool
  | .call _ callee _ _ => isFunctionExpression callee
  | _ => false

def nestedCallback : Rule where
  id := "nested-callback"
  title := "Nested callback"
  usesSource := false
  flags v := some (isFunctionExpression v.node && v.parent.any callsFunctionExpression)
  message _ := some "Deeply nested callback detected which can lead to callback hell."

/-- The object and the method named by a text with a point, which the first point divides. -/
def callTarget? (call : String) : Option (String × String) :=
  let object := call.toList.takeWhile (· != '.')
  match call.toList.dropWhile (· != '.') with
  | [] => none
  | _ :: method => some (String.ofList object, String.ofList method)

/-- The object and the method that a node calls. -/
def calledMethod : Node → Option (String × String)
  | .call _ (.member _ object property _ _) _ _ =>
    match object.name?, property.name? with
    | some o, some p => some (o, p)
    | _, _ => none
  | _ => none

/-- The text with its first character in upper case. -/
def raised (s : List Char) : List Char :=
  match s with
  | [] => []
  | c :: rest => Text.upperChar c ++ rest

def debugStatement (calls : List String) : Rule where
  id := "debug-statement"
  title := "Debug statement"
  usesSource := false
  flags v := some ((calledMethod v.node).any (calls.filterMap callTarget?).contains)
  message v := (calledMethod v.node).map fun (o, p) =>
    String.ofList (raised (o ++ "." ++ p).toList) ++ " statement detected."

def isLegacyDeclaration : Node → Bool
  | .declaration _ keyword _ => keyword == "var"
  | _ => false

def legacyDeclaration : Rule where
  id := "legacy-declaration"
  title := "Legacy declaration kind"
  usesSource := false
  flags v := some (isLegacyDeclaration v.node)
  message _ := some "Usage of 'var' detected. Consider using 'let' or 'const' instead."

/-- The parameters of a function that has its size limited, which an arrow function has not. -/
def sizedParams : Node → Option (List Node)
  | .function _ .arrow .. => none
  | .function _ _ _ params .. => some params
  | _ => none

def excessParameters (limit : Int) : Rule where
  id := "excess-parameters"
  title := "Excess parameters"
  usesSource := false
  flags v := some ((sizedParams v.node).any fun ps => limit < (ps.length : Int))
  message v := (sizedParams v.node).map fun ps =>
    "Function has too many parameters (" ++ toString ps.length ++ "). Consider refactoring."

def oversizedFunction (limit : Int) : Rule where
  id := "oversized-function"
  title := "Oversized function"
  usesSource := false
  flags v := some ((sizedParams v.node).isSome && limit < v.node.location.lineSpan)
  message v := some <| "Function is too long (" ++ toString v.node.location.lineSpan ++
    " lines). Consider refactoring."

/-- The text of a numeric literal. -/
def numberText : Node → Option String
  | .literal _ (.int i) _ => some (String.ofList (Number.intText i))
  | .literal _ (.double d) _ => some (String.ofList d.scriptText)
  | _ => none

def magicNumber : Rule where
  id := "magic-number"
  title := "Unnamed numeric constant"
  usesSource := false
  flags v := some (numberText v.node).isSome
  message v := (numberText v.node).map fun text =>
    "Magic number detected: " ++ text ++ ". Consider defining a constant."

end Rule

namespace Catalog

/-- Every rule, in the order of their reports. -/
def full (settings : Settings) : Catalog := [
  Rule.missingInitializer,
  Rule.unsafeMemberAccess,
  Rule.nestedCallback,
  Rule.debugStatement settings.debugCalls,
  Rule.legacyDeclaration,
  Rule.excessParameters settings.maxParams,
  Rule.oversizedFunction settings.maxFunctionLines,
  Rule.magicNumber]

def standard : Catalog := full {}

/-- The ids of all rules. -/
def ids : List String := standard.map (·.id)

/-- The catalog less the rules with some ids. -/
def without (catalog : Catalog) (ruleIds : List String) : Catalog :=
  catalog.filter fun r => !ruleIds.contains r.id

/-- The rules that settings ask for. -/
def ofSettings : Option Settings → Catalog
  | none => standard
  | some s => (full s).without s.disabledRules

end Catalog

end ScriptAudit
