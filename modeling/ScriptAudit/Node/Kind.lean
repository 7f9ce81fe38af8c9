import ScriptAudit.Text.Case
import ScriptAudit.Text.Lines

namespace ScriptAudit

/-- Kinds that are not the grammar's name in camel case. -/
def specialKinds : List (String × String) := [
  ("statement_block", "BlockStatement"),
  ("object", "ObjectExpression"),
  ("array", "ArrayExpression"),
  ("pair", "Property"),
  ("ternary_expression", "ConditionalExpression"),
  ("class", "ClassExpression"),
  ("this", "ThisExpression"),
  ("super", "Super"),
  ("template_string", "TemplateLiteral"),
  ("string_fragment", "TemplateElement"),
  ("rest_pattern", "RestElement"),
  ("do_statement", "DoWhileStatement"),
  ("export_statement", "ExportDeclaration"),
  ("import_statement", "ImportDeclaration"),
  ("new_expression", "NewExpression"),
  ("field_definition", "PropertyDefinition")]

/-- The parts between low lines, each with a capital letter in front. -/
def camelCase (type : String) : String :=
  String.ofList ((Text.splitOn '_' type.toList).flatMap Text.capitalize)

/-- The kind of a generic node. -/
def kindName (type : String) : String :=
  (specialKinds.lookup type).getD (camelCase type)

end ScriptAudit
