import ScriptAudit.ParseTree.Basic

namespace ScriptAudit.JavaScript

/-- Expressions that are targets as they stand. -/
def plainTargets : List String := [
  "identifier", "undefined", "member_expression", "subscript_expression", "object_pattern",
  "array_pattern"]

mutual

/-- The target an expression stands for; a default value is allowed where `defaults` says so. -/
def target? (defaults : Bool) : ParseTree → Option ParseTree
  | ⟨type, start, stop, named, missing, hasError, field, children⟩ =>
    if plainTargets.contains type then
      some ⟨type, start, stop, named, missing, hasError, field, children⟩
    else if type == "object" then
      (propertyTargets? children).map fun c =>
        ⟨"object_pattern", start, stop, named, missing, hasError, field, c⟩
    else if type == "array" then
      (elementTargets? children).map fun c =>
        ⟨"array_pattern", start, stop, named, missing, hasError, field, c⟩
    else if type == "assignment_expression" && defaults then
      match children with
      | [left, equals, right] =>
        if plainTargets.contains left.type then
          some ⟨"assignment_pattern", start, stop, named, missing, hasError, field, [left, equals, right]⟩
        else none
      | _ => none
    else if type == "spread_element" && defaults then
      (restTarget? children).map fun c =>
        ⟨"rest_pattern", start, stop, named, missing, hasError, field, c⟩
    else none

/-- What follows the dots of a rest target. -/
def restTarget? : List ParseTree → Option (List ParseTree)
  | [dots, inner] => (target? false inner).map fun t => [dots, t]
  | _ => none

/-- The targets of array elements or parameters; commas and brackets stay. -/
def elementTargets? : List ParseTree → Option (List ParseTree)
  | [] => some []
  | t :: rest => do
    let t' ← if t.named then target? true t else some t
    return t' :: (← elementTargets? rest)

/-- The targets of object members; commas and braces stay. -/
def propertyTargets? : List ParseTree → Option (List ParseTree)
  | [] => some []
  | t :: rest => do
    let t' ← if t.named then propertyTarget? t else some t
    return t' :: (← propertyTargets? rest)

def propertyTarget? : ParseTree → Option ParseTree
  | ⟨type, start, stop, named, missing, hasError, field, children⟩ =>
    if type == "shorthand_property_identifier" then
      some ⟨"shorthand_property_identifier_pattern", start, stop, named, missing, hasError, field, children⟩
    else if type == "object_assignment_pattern" then
      some ⟨type, start, stop, named, missing, hasError, field, children⟩
    else if type == "pair" then
      (pairTarget? children).map fun c =>
        ⟨"pair_pattern", start, stop, named, missing, hasError, field, c⟩
    else if type == "spread_element" then
      (restTarget? children).map fun c =>
        ⟨"rest_pattern", start, stop, named, missing, hasError, field, c⟩
    else none

def pairTarget? : List ParseTree → Option (List ParseTree)
  | [key, colon, value] => (target? true value).map fun t => [key, colon, t]
  | _ => none

end

mutual

/-- No object expression holds a member that only a pattern may hold. -/
def noStrayDefault : ParseTree → Bool
  | ⟨type, _, _, _, _, _, _, children⟩ =>
    !(type == "object" && children.any (·.type == "object_assignment_pattern")) &&
      noStrayDefaults children

def noStrayDefaults : List ParseTree → Bool
  | [] => true
  | t :: rest => noStrayDefault t && noStrayDefaults rest

end

end ScriptAudit.JavaScript
