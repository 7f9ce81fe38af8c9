import ScriptAudit.Yaml.Node

namespace ScriptAudit.Yaml

inductive Value where
  | scalar (s : Scalar)
  | list (anchor : Option String) (items : List Value)
  | pair (first second : Value)
  | map (anchor : Option String) (entries : List (Value × Value))
  | set (anchor : Option String) (items : List Value)
  | reference (name : String)
deriving Inhabited

namespace Scalar

/-- The value of a number as a fraction. -/
def ratio? : Scalar → Option (Int × Nat)
  | bool b => some (if b then 1 else 0, 1)
  | int i => some (i, 1)
  | float d =>
    if d.isFinite then
      let (n, m) := Number.Double.fraction d.magnitude
      some (if d.negative then -Int.ofNat n else Int.ofNat n, m)
    else none
  | _ => none

/-- Two scalars are one key; numbers are compared by value. -/
def sameKey (a b : Scalar) : Bool :=
  match a.ratio?, b.ratio? with
  | some (n, d), some (m, e) => n * (e : Int) == m * (d : Int)
  | _, _ => a == b

end Scalar

namespace Value

/-- The entries with a value for a key. A key that is there keeps its place. -/
def put (key : Scalar) (value : Value) : List (Value × Value) → List (Value × Value)
  | [] => [(.scalar key, value)]
  | (k, v) :: rest =>
    let same := match k with
      | .scalar s => s.sameKey key
      | _ => false
    if same then (k, value) :: rest else (k, v) :: put key value rest

end Value

namespace Node

/-- The node that an alias stands for. -/
def target (env : List (String × Node)) : Node → Node
  | reference name => (env.lookup name).getD empty
  | n => n

def tag? : Node → Option Tag
  | reference _ => none
  | scalar _ t _ | sequence _ t _ | mapping _ t _ => some t

/-- A key with the type of a text where it has that of a principal value. -/
def plainKey : Node → Node
  | scalar a .principal text => .scalar a .text text
  | n => n

/-- The entry merges other mappings. -/
def merges (env : List (String × Node)) (e : Node × Node) : Bool := (e.1.target env).tag? == some .merge

/-- The entries of a mapping with those it merges in front of its own. Of several mappings to merge, the
first one has the last word. A mapping that is merged into itself, under one of the `seen` names, gives
its own entries only. -/
def flatten (env : List (String × Node)) (seen : List String) :
    Nat → List (Node × Node) → Except Fault (List (Node × Node))
  | 0, entries => .ok (entries.filter (!merges env ·))
  | fuel + 1, entries => do
    let entriesOf (n : Node) : Except Fault (List (Node × Node)) :=
      match n, n.target env with
      | reference name, mapping _ _ inner =>
        if seen.contains name then .ok (inner.filter (!merges env ·))
        else flatten env (name :: seen) fuel inner
      | _, mapping _ _ inner => flatten env seen fuel inner
      | _, _ => .error .malformed
    let merged ← (entries.filter (merges env)).mapM fun e =>
      match e.2.target env with
      | sequence _ _ items => do return (← items.mapM entriesOf).reverse.flatten
      | _ => entriesOf e.2
    return merged.flatten ++ (entries.filter (!merges env ·)).map fun e => (e.1.plainKey, e.2)

/-- The text that a node stands for where a scalar is asked for; a mapping has that of its principal value. -/
def text (env : List (String × Node)) : Nat → Node → Except Fault String
  | 0, _ => .error .endless
  | fuel + 1, n =>
    match n.target env with
    | scalar _ _ s => .ok s
    | mapping _ _ entries =>
      match entries.find? fun e => (e.1.target env).tag? == some .principal with
      | some e => text env fuel e.2
      | none => .error .malformed
    | _ => .error .malformed

def isMapping : Node → Bool
  | mapping .. => true
  | _ => false

/-- The scalar of a type that a node stands for. A time is read from the node itself, which then must not be a
mapping. -/
def scalarOf (env : List (String × Node)) (fuel : Nat) (tag : Tag) (n : Node) : Except Fault Scalar :=
  if tag.isScalar then do
    let s ← text env fuel n
    if tag == .time && n.isMapping then .error .notText else scalarValue tag s
  else .error .malformed

/-- The value of a node. -/
def value (env : List (String × Node)) : Nat → Node → Except Fault Value
  | 0, _ => .error .malformed
  | fuel + 1, n => do
    let entriesOf (entries : List (Node × Node)) : Except Fault (List (Value × Value)) := do
      let flat ← flatten env [] (fuel + 1) entries
      flat.foldlM (fun done e => do
        match ← value env fuel e.1 with
        | .scalar key => return Value.put key (← value env fuel e.2) done
        | _ => .error .malformed) []
    match n with
    | reference name =>
      match (env.lookup name) with
      | some (scalar _ tag s) => return .scalar (← scalarValue tag s)
      | _ => return .reference name
    | scalar _ tag s => return .scalar (← scalarValue tag s)
    | sequence anchor tag items =>
      match tag with
      | .sequence => return .list anchor (← items.mapM (value env fuel))
      | .pairs =>
        return .list anchor (← items.mapM fun i =>
          match i.target env with
          | mapping _ _ [(k, v)] => do return .pair (← value env fuel k) (← value env fuel v)
          | _ => .error .malformed)
      | _ => .error .malformed
    | mapping anchor tag entries =>
      match tag with
      | .mapping => return .map anchor (← entriesOf entries)
      | .set => return .set anchor ((← entriesOf entries).map (·.1))
      | _ => return .scalar (← scalarOf env (fuel + 1) tag n)

/-! ### The order of building -/

def anchor? : Node → Option String
  | reference _ => none
  | scalar a _ _ | sequence a _ _ | mapping a _ _ => a

/-- What is done next to build a collection. -/
inductive Step where
  | part (n : Node)
  | key (n : Node)
  | wrong (f : Fault)

/-- The steps to build a collection. -/
def steps (env : List (String × Node)) (fuel : Nat) : Node → List Step
  | sequence _ .sequence items => items.map .part
  | sequence _ .pairs items => items.flatMap fun i =>
    match i.target env with
    | mapping _ _ [(k, v)] => [.part k, .part v]
    | _ => [.wrong .malformed]
  | mapping _ tag entries =>
    if tag == .mapping || tag == .set then
      match flatten env [] fuel entries with
      | .ok flat => flat.flatMap fun e => [.key e.1, .part e.2]
      | .error f => [.wrong f]
    else [.wrong .malformed]
  | _ => [.wrong .malformed]

/-- Begins to build a node. A scalar has its value at once; a collection is left for later. -/
def start (env : List (String × Node)) (fuel : Nat) (n : Node) : Except Fault (Option Node) :=
  let m := n.target env
  match m.tag? with
  | none => .error .malformed
  | some tag => if tag.isCollection then .ok (some m) else (scalarOf env fuel tag m).map fun _ => none

/-- Takes some steps, and gives the collections that are left for later. No collection can be a key. -/
def take (env : List (String × Node)) (fuel : Nat) : List Step → Except Fault (List Node)
  | [] => .ok []
  | .wrong f :: _ => .error f
  | .part n :: rest => do
    let later ← start env fuel n
    return later.toList ++ (← take env fuel rest)
  | .key n :: rest => do
    match ← start env fuel n with
    | some _ => .error .malformed
    | none => take env fuel rest

/-- The collections that are not begun yet, and the anchors of all that are. -/
def fresh (begun : List String) : List Node → List Node × List String
  | [] => ([], begun)
  | n :: rest =>
    match n.anchor? with
    | none =>
      let (others, begun) := fresh begun rest
      (n :: others, begun)
    | some a =>
      if begun.contains a then fresh begun rest
      else
        let (others, begun) := fresh (a :: begun) rest
        (n :: others, begun)

/-- Builds collections, then those that they left for later, and so on. -/
def buildAll (env : List (String × Node)) (fuel : Nat) : Nat → List String → List Node → Except Fault Unit
  | 0, _, _ => .ok ()
  | _, _, [] => .ok ()
  | rounds + 1, begun, now => do
    let left ← now.mapM fun n => take env fuel (n.steps env fuel)
    let (later, begun) := fresh begun left.flatten
    buildAll env fuel rounds begun later

/-- Finds what keeps a node from being built. A collection is built after all that stands beside it, so the first fault
need not be the leftmost. -/
def build (env : List (String × Node)) (fuel : Nat) (n : Node) : Except Fault Unit := do
  let (now, begun) := fresh [] (← start env fuel n).toList
  buildAll env fuel fuel begun now

end Node

/-- A document: its value, and the values that have an anchor. -/
structure Document where
  root : Value
  anchors : List (String × Value)

namespace Document

/-- The document of a text; none if it is empty. -/
def ofText (s : List Char) : Except Fault (Option Document) := do
  let all := tokens s
  match ← Node.document all with
  | none => return none
  | some root =>
    let env := root.anchored
    let fuel := all.length + 1
    root.build env fuel
    let value ← root.value env fuel
    let anchors ← env.mapM fun (name, n) => do return (name, ← n.value env fuel)
    return some ⟨value, anchors⟩

/-- The value that an alias stands for. -/
def target (d : Document) (v : Value) : Value :=
  match v with
  | .reference name => (d.anchors.lookup name).getD v
  | _ => v

end Document

end ScriptAudit.Yaml
