import ScriptAudit.Location
import ScriptAudit.Number.Double

namespace ScriptAudit

/-- The value of a literal. -/
inductive LiteralValue where
  | null
  | bool (b : Bool)
  | int (i : Int)
  | double (d : Number.Double)
  | text (s : String)
deriving DecidableEq

/-- The three ways to write a function. -/
inductive FunctionForm where
  | declaration
  | expression
  | arrow
deriving DecidableEq, Repr

def FunctionForm.kind : FunctionForm → String
  | .declaration => "FunctionDeclaration"
  | .expression => "FunctionExpression"
  | .arrow => "ArrowFunctionExpression"

/-- A name where it stands. -/
structure Name where
  location : Location
  text : String
deriving DecidableEq, Repr

/-- A node of the program tree. -/
inductive Node where
  | program (location : Location) (body : List Node)
  | identifier (name : Name)
  | literal (location : Location) (value : LiteralValue) (raw : String)
  | declarator (location : Location) (id : Node) (init : Option Node)
  | declaration (location : Location) (keyword : String) (declarations : List Node)
  | member (location : Location) (object property : Node) (computed optional : Bool)
  | call (location : Location) (callee : Node) (arguments : List Node) (optional : Bool)
  | assignment (location : Location) (operator : String) (left right : Node)
  | function (location : Location) (form : FunctionForm) (id : Option Name) (params : List Node)
      (body : Node) (isAsync generator : Bool)
  | generic (location : Location) (kind : String) (nodes : List Node)
deriving Inhabited

namespace Node

def location : Node → Location
  | program l _ | literal l _ _ | declarator l _ _ | declaration l _ _ | member l _ _ _ _
  | call l _ _ _ | assignment l _ _ _ | function l _ _ _ _ _ _ | generic l _ _ => l
  | identifier n => n.location

def kind : Node → String
  | program .. => "Program"
  | identifier .. => "Identifier"
  | literal .. => "Literal"
  | declarator .. => "VariableDeclarator"
  | declaration .. => "VariableDeclaration"
  | member .. => "MemberExpression"
  | call .. => "CallExpression"
  | assignment .. => "AssignmentExpression"
  | function _ form .. => form.kind
  | generic _ k _ => k

/-- The children from left to right. -/
def children : Node → List Node
  | program _ body => body
  | identifier .. | literal .. => []
  | declarator _ id init => id :: init.toList
  | declaration _ _ declarations => declarations
  | member _ object property _ _ => [object, property]
  | call _ callee arguments _ => callee :: arguments
  | assignment _ _ left right => [left, right]
  | function _ _ id params body _ _ => id.toList.map identifier ++ params ++ [body]
  | generic _ _ nodes => nodes

def isFunction : Node → Bool
  | function .. => true
  | _ => false

/-- The name of an identifier. -/
def name? : Node → Option String
  | identifier n => some n.text
  | _ => none

/-- What a function is called in messages. -/
def displayName : Node → String
  | function _ _ (some n) .. => n.text
  | _ => "<anonymous>"

mutual

/-- The number of nodes of a tree. -/
def size : Node → Nat
  | program _ body => 1 + sizeAll body
  | identifier _ | literal _ _ _ => 1
  | declarator _ id none => 1 + size id
  | declarator _ id (some init) => 1 + size id + size init
  | declaration _ _ declarations => 1 + sizeAll declarations
  | member _ object property _ _ => 1 + size object + size property
  | call _ callee arguments _ => 1 + size callee + sizeAll arguments
  | assignment _ _ left right => 1 + size left + size right
  | function _ _ none params body _ _ => 1 + sizeAll params + size body
  | function _ _ (some _) params body _ _ => 2 + sizeAll params + size body
  | generic _ _ nodes => 1 + sizeAll nodes

def sizeAll : List Node → Nat
  | [] => 0
  | n :: rest => size n + sizeAll rest

end

theorem sizeAll_append (a b : List Node) : sizeAll (a ++ b) = sizeAll a + sizeAll b := by
  induction a with
  | nil => simp [sizeAll]
  | cons n rest ih => simp [sizeAll, ih, Nat.add_assoc]

/-- A tree is one node and the trees of its children. -/
theorem size_eq (n : Node) : n.size = 1 + sizeAll n.children := by
  match n with
  | program .. | identifier .. | literal .. | declaration .. | generic .. => simp [size, sizeAll, children]
  | declarator _ _ none | declarator _ _ (some _) => simp [size, sizeAll, children]; try omega
  | member .. | assignment .. | call .. => simp [size, sizeAll, children]; try omega
  | function _ _ none .. | function _ _ (some _) .. =>
    simp [size, sizeAll, children, sizeAll_append]; omega

end Node

end ScriptAudit
