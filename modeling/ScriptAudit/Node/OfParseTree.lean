import ScriptAudit.Node.Basic
import ScriptAudit.Node.Kind
import ScriptAudit.Number.Literal
import ScriptAudit.ParseTree.Basic
import ScriptAudit.Text.Lines
import ScriptAudit.Text.Utf8

namespace ScriptAudit

/-- Why a parse tree has no program tree. -/
inductive ConversionFault where
  /-- A part that is needed is not there. -/
  | absentPart
  | numeral (fault : Number.NumeralFault)
  /-- The calls nest deeper than there is room. -/
  | tooDeep
deriving DecidableEq, Repr

/-- The bytes of a text and its rows. -/
structure SourceBytes where
  bytes : Array UInt8
  rows : Array (List UInt8)

namespace SourceBytes

def ofBytes (bytes : List UInt8) : SourceBytes := ⟨bytes.toArray, (Text.splitOn 10 bytes).toArray⟩

def ofText (s : List Char) : SourceBytes := ofBytes (Text.Utf8.encode s)

/-- The line and column of a byte column in a row. A row past the end counts as empty. -/
def position (s : SourceBytes) (m : Mark) : Position where
  line := m.row + 1
  column := (Text.Utf8.decode ((s.rows[m.row]?.getD []).take m.column)).length + 1

/-- The text between two marks. -/
def slice (s : SourceBytes) (start stop : Mark) : List Char :=
  Text.Utf8.decode (s.bytes.extract start.byte stop.byte).toList

def span (s : SourceBytes) (start stop : Mark) : Location := ⟨s.position start, s.position stop⟩

def location (s : SourceBytes) (t : ParseTree) : Location := s.span t.start t.stop

def text (s : SourceBytes) (t : ParseTree) : String := String.ofList (s.slice t.start t.stop)

end SourceBytes

namespace ParseTree

/-- Types that leave no node. -/
def skippedTypes : List String := ["comment", "html_comment", "hash_bang_line", "escape_sequence"]

def isSkipped (t : ParseTree) : Bool := skippedTypes.contains t.type

def identifierTypes : List String := [
  "identifier", "property_identifier", "private_property_identifier",
  "shorthand_property_identifier", "shorthand_property_identifier_pattern",
  "statement_identifier", "undefined"]

def literalTypes : List String := ["number", "string", "true", "false", "null", "regex"]

/-- The form of function a type stands for. -/
def functionForm? (type : String) : Option FunctionForm :=
  if type == "function_declaration" || type == "generator_function_declaration" then some .declaration
  else if type == "function_expression" || type == "function" || type == "generator_function" then
    some .expression
  else if type == "arrow_function" then some .arrow
  else none

end ParseTree

/-- A parse node with what it converts to, and what its named children convert to. -/
structure Converted where
  tree : ParseTree
  node : Except ConversionFault Node
  parts : Except ConversionFault (List Node)

namespace Converted

variable (src : SourceBytes)

/-- The named children that leave a node. -/
def kept (kids : List Converted) : List Converted :=
  kids.filter fun k => k.tree.named && !k.tree.isSkipped

/-- The nodes of the named children, from left to right. -/
def nodes (kids : List Converted) : Except ConversionFault (List Node) :=
  (kept kids).mapM (·.node)

/-- The first child in a field. -/
def inField? (kids : List Converted) (field : String) : Option Converted :=
  kids.find? (·.tree.field == some field)

/-- The node of a field that has to be there. -/
def required (kids : List Converted) (field : String) : Except ConversionFault Node :=
  match inField? kids field with
  | some k => k.node
  | none => .error .absentPart

/-- One of the unnamed children is the token `type`. -/
def hasToken (kids : List Converted) (type : String) : Bool :=
  kids.any fun k => !k.tree.named && k.tree.type == type

/-- Some child has the type. -/
def hasChild (kids : List Converted) (type : String) : Bool := kids.any (·.tree.type == type)

/-- The text between the first and the last character. -/
def unquoted (s : List Char) : List Char := (s.drop 1).dropLast

def literal (t : ParseTree) : Except ConversionFault Node := do
  let raw := src.slice t.start t.stop
  let value ←
    match t.type with
    | "number" =>
      match Number.literalValue raw with
      | .ok (some d) => pure (LiteralValue.double d)
      | .ok none => pure LiteralValue.null
      | .error e => throw (.numeral e)
    | "string" => pure (LiteralValue.text (String.ofList (unquoted raw)))
    | "true" => pure (LiteralValue.bool true)
    | "false" => pure (LiteralValue.bool false)
    | "null" => pure LiteralValue.null
    | _ => pure (LiteralValue.text (String.ofList raw))
  return .literal (src.location t) value (String.ofList raw)

/-- The keyword of a declaration: the field for it, else its first token. -/
def keyword (kids : List Converted) : String :=
  match inField? kids "kind" with
  | some k => k.tree.type
  | none =>
    match kids with
    | first :: _ => first.tree.type
    | [] => "var"

def declaration (t : ParseTree) (kids : List Converted) : Except ConversionFault Node := do
  let declarators ←
    (kids.filter fun k => k.tree.named && k.tree.type == "variable_declarator").mapM (·.node)
  return .declaration (src.location t) (keyword kids) declarators

def declarator (t : ParseTree) (kids : List Converted) : Except ConversionFault Node := do
  let id ← required kids "name"
  let init ← (inField? kids "value").mapM (·.node)
  return .declarator (src.location t) id init

def member (t : ParseTree) (kids : List Converted) : Except ConversionFault Node := do
  let computed := t.type == "subscript_expression"
  let object ← required kids "object"
  let property ← required kids (if computed then "index" else "property")
  return .member (src.location t) object property computed (hasChild kids "optional_chain")

def call (t : ParseTree) (kids : List Converted) : Except ConversionFault Node := do
  let callee ← required kids "function"
  match inField? kids "arguments" with
  | none => return .call (src.location t) callee [] (hasChild kids "optional_chain")
  | some args =>
    if args.tree.type == "template_string" then
      return .generic (src.location t) "TaggedTemplateExpression" [callee, ← args.node]
    else return .call (src.location t) callee (← args.parts) (hasChild kids "optional_chain")

def assignment (t : ParseTree) (kids : List Converted) : Except ConversionFault Node := do
  let operator := ((inField? kids "operator").map fun k => src.text k.tree).getD "="
  let left ← required kids "left"
  let right ← required kids "right"
  return .assignment (src.location t) operator left right

/-- The parameters of a function: a single one without parentheses, or a list. -/
def parameters (kids : List Converted) : Except ConversionFault (List Node) :=
  match inField? kids "parameter" with
  | some single => single.node.map fun n => [n]
  | none =>
    match inField? kids "parameters" with
    | some list => list.parts
    | none => .ok []

def function (t : ParseTree) (form : FunctionForm) (kids : List Converted) :
    Except ConversionFault Node := do
  let params ← parameters kids
  let body ← required kids "body"
  let id := (inField? kids "name").map fun k => Name.mk (src.location k.tree) (src.text k.tree)
  return .function (src.location t) form id params body (hasToken kids "async") (hasToken kids "*")

/-- A method keeps its key, and its function starts at the parameter list. -/
def method (t : ParseTree) (kids : List Converted) : Except ConversionFault Node := do
  let first := ((inField? kids "parameters").map (·.tree)).getD t
  let last := ((inField? kids "body").map (·.tree)).getD first
  let params ← parameters kids
  let body ← required kids "body"
  let value := .function (src.span first.start last.stop) .expression none params body
    (hasToken kids "async") (hasToken kids "*")
  return .generic (src.location t) "MethodDefinition" [← required kids "name", value]

/-- A loop over a collection takes its values (`of`) or its keys. -/
def isOfLoop (kids : List Converted) : Bool :=
  match inField? kids "operator" with
  | some op => op.tree.type == "of"
  | none => hasChild kids "of"

def forIn (t : ParseTree) (kids : List Converted) : Except ConversionFault Node := do
  let left ← required kids "left"
  let head :=
    match inField? kids "kind", inField? kids "left" with
    | some kind, some target =>
      .declaration (src.span kind.tree.start target.tree.stop) kind.tree.type
        [.declarator (src.location target.tree) left none]
    | _, _ => left
  let right ← required kids "right"
  let body ← required kids "body"
  return .generic (src.location t) (if isOfLoop kids then "ForOfStatement" else "ForInStatement")
    [head, right, body]

/-- The construct of a node whose parentheses, if it had any, are gone. -/
def construct (t : ParseTree) (kids : List Converted) : Except ConversionFault Node :=
  let type := t.type
  if ParseTree.identifierTypes.contains type then
    .ok (.identifier ⟨src.location t, src.text t⟩)
  else if ParseTree.literalTypes.contains type then literal src t
  else if type == "variable_declaration" || type == "lexical_declaration" then declaration src t kids
  else if type == "variable_declarator" then declarator src t kids
  else if type == "member_expression" || type == "subscript_expression" then member src t kids
  else if type == "call_expression" then call src t kids
  else if type == "assignment_expression" || type == "augmented_assignment_expression" then
    assignment src t kids
  else match ParseTree.functionForm? type with
    | some form => function src t form kids
    | none =>
      if type == "method_definition" then method src t kids
      else if type == "for_in_statement" then forIn src t kids
      else (nodes kids).map (.generic (src.location t) (kindName type))

/-- What a node converts to, given its converted children. Parentheses around exactly one node are
that node. -/
def assemble (t : ParseTree) (kids : List Converted) : Except ConversionFault Node :=
  if t.type == "parenthesized_expression" then
    match kept kids with
    | [inner] => inner.node
    | _ => construct src t kids
  else construct src t kids

end Converted

mutual

def ParseTree.converted (src : SourceBytes) : ParseTree → Converted
  | ⟨type, start, stop, named, missing, hasError, field, children⟩ =>
    let t := ⟨type, start, stop, named, missing, hasError, field, children⟩
    let kids := ParseTree.convertedAll src children
    ⟨t, Converted.assemble src t kids, Converted.nodes kids⟩

def ParseTree.convertedAll (src : SourceBytes) : List ParseTree → List Converted
  | [] => []
  | t :: rest => ParseTree.converted src t :: ParseTree.convertedAll src rest

end

/-- The program of a parse tree. -/
def Node.ofParseTree (src : SourceBytes) (root : ParseTree) : Except ConversionFault Node :=
  (Converted.nodes (ParseTree.convertedAll src root.children)).map (.program (src.location root))

end ScriptAudit
