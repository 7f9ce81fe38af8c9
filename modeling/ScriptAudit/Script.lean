import ScriptAudit.JavaScript.Grammar
import ScriptAudit.Node.OfParseTree
import ScriptAudit.ParseTree.CallStack
import ScriptAudit.ParseTree.FirstError

namespace ScriptAudit

/-- What is wrong where a text leaves the grammar. -/
inductive Defect where
  | syntaxError
  | missingToken
deriving DecidableEq, Repr

def Defect.message : Defect → String
  | .syntaxError => "Syntax error"
  | .missingToken => "Missing token"

/-- Why a text is no script. -/
structure ParseError where
  defect : Defect
  position : Position
deriving DecidableEq, Repr

def ParseError.message (e : ParseError) : String :=
  e.defect.message ++ " at line " ++ toString e.position.line ++ ", column " ++
    toString e.position.column

/-- Why a parse tree gives no program. -/
inductive ScriptFault where
  | parse (error : ParseError)
  | conversion (fault : ConversionFault)
deriving DecidableEq, Repr

namespace Script

/-- The error that a parse tree with an error flag reports. -/
def errorOf (src : SourceBytes) (tree : ParseTree) : ParseError :=
  match tree.firstError? with
  | some bad => ⟨if bad.missing then .missingToken else .syntaxError, src.position bad.start⟩
  | none => ⟨.syntaxError, src.position tree.start⟩

/-- The program of a parse tree over a text. -/
def ofTree (source : String) (tree : ParseTree) : Except ScriptFault Node :=
  let src := SourceBytes.ofText source.toList
  if tree.hasError then .error (.parse (errorOf src tree))
  else (Node.ofParseTree src tree).mapError .conversion

/-- The program of a text. -/
def read (source : String) (stack : CallStack := {}) : Except ScriptFault Node :=
  let tree := JavaScript.parse source.toList
  if stack.holds tree then ofTree source tree else .error (.conversion .tooDeep)

end Script

end ScriptAudit
