import ScriptAudit.Yaml.Scalar
import ScriptAudit.Yaml.Token

namespace ScriptAudit.Yaml

inductive Node where
  | reference (name : String)
  | scalar (anchor : Option String) (tag : Tag) (text : String)
  | sequence (anchor : Option String) (tag : Tag) (items : List Node)
  | mapping (anchor : Option String) (tag : Tag) (entries : List (Node × Node))
deriving Inhabited

namespace Node

/-- What stands where nothing is written. -/
def empty : Node := .scalar none .null ""

/-- What is still to be read, the anchors given so far, and what tag handles stand for. -/
structure State where
  tokens : List Token
  anchors : List String
  handles : List (String × String)

abbrev Read := StateT State (Except Fault)

namespace Read

def fail {α : Type} (f : Fault) : Read α := fun _ => .error f

def peek : Read Token := fun s =>
  match s.tokens with
  | [] => .error .malformed
  | .broken f :: _ => .error f
  | t :: _ => .ok (t, s)

def drop : Read Unit := modify fun s => { s with tokens := s.tokens.drop 1 }

/-- Reads the token if it is the next one. -/
def skip (t : Token) : Read Bool := do
  if (← peek) = t then
    drop
    return true
  else return false

def expect (t : Token) : Read Unit := do
  if !(← skip t) then fail .malformed

/-- An anchor of a node. -/
def register (anchor : Option String) : Read Unit := do
  match anchor with
  | none => return
  | some name =>
    if (← get).anchors.contains name then fail .malformed
    else modify fun s => { s with anchors := name :: s.anchors }

/-- The URI of a tag; a lone exclamation mark leaves the type to the text. -/
def tagUri (handle : Option String) (suffix : String) : Read String := do
  match handle with
  | none => return suffix
  | some h =>
    match (← get).handles.lookup h with
    | some uri => return uri ++ suffix
    | none => fail .malformed

/-- The anchor and the tag before a node, in either order. -/
def properties : Read (Option String × Option String) := do
  match ← peek with
  | .anchor a =>
    drop
    match ← peek with
    | .tag h s =>
      drop
      return (some a, some (← tagUri h s))
    | _ => return (some a, none)
  | .tag h s =>
    drop
    match ← peek with
    | .anchor a =>
      drop
      return (some a, some (← tagUri h s))
    | _ => return (none, some (← tagUri h s))
  | _ => return (none, none)

end Read

open Read

/-- The type of a collection. -/
def collectionTag (uri : Option String) (absent : Tag) : Tag :=
  match uri with
  | none => absent
  | some u => if u == "!" then absent else .ofUri u

/-- The type of a scalar: a plain one has it by its text. -/
def scalarTag (uri : Option String) (plain : Bool) (text : String) : Tag :=
  match uri with
  | none => if plain then plainTag text.toList else .text
  | some u => if u == "!" then plainTag text.toList else .ofUri u

/-- The next token is one of some. -/
def seesAny (choices : List Token) : Read Bool := do return choices.contains (← peek)

mutual

/-- A node. Blocks may follow only where `block` says so, and entries without indentation of their own only
where `loose` says so. -/
def read (block loose : Bool) : Nat → Read Node
  | 0 => fail .malformed
  | fuel + 1 => do
    match ← peek with
    | .reference name =>
      drop
      if (← get).anchors.contains name then return .reference name else fail .malformed
    | _ =>
      let (anchor, uri) ← properties
      register anchor
      let bare : Read Node :=
        if anchor.isSome || uri.isSome then return .scalar anchor (scalarTag uri true "") ""
        else fail .malformed
      match ← peek with
      | .scalar text plain =>
        drop
        return .scalar anchor (scalarTag uri plain text) text
      | .flowSequenceStart =>
        drop
        return .sequence anchor (collectionTag uri .sequence) (← flowItems true fuel)
      | .flowMappingStart =>
        drop
        return .mapping anchor (collectionTag uri .mapping) (← flowEntries true fuel)
      | .blockEntry =>
        if loose then return .sequence anchor (collectionTag uri .sequence) (← looseItems fuel)
        else bare
      | .blockSequenceStart =>
        if block then
          drop
          return .sequence anchor (collectionTag uri .sequence) (← blockItems fuel)
        else bare
      | .blockMappingStart =>
        if block then
          drop
          return .mapping anchor (collectionTag uri .mapping) (← blockEntries fuel)
        else bare
      | _ => bare

/-- A node, or nothing if one of some tokens follows. -/
def readUnless (ends : List Token) (block loose : Bool) : Nat → Read Node
  | 0 => fail .malformed
  | fuel + 1 => do if ← seesAny ends then return empty else read block loose fuel

/-- The items of a block, and its end. -/
def blockItems : Nat → Read (List Node)
  | 0 => fail .malformed
  | fuel + 1 => do
    if ← skip .blockEntry then
      let item ← readUnless [.blockEntry, .blockEnd] true false fuel
      return item :: (← blockItems fuel)
    else
      expect .blockEnd
      return []

/-- The items of a sequence without indentation of its own. -/
def looseItems : Nat → Read (List Node)
  | 0 => fail .malformed
  | fuel + 1 => do
    if ← skip .blockEntry then
      let item ← readUnless [.blockEntry, .key, .value, .blockEnd] true false fuel
      return item :: (← looseItems fuel)
    else return []

/-- The entries of a block, and its end. -/
def blockEntries : Nat → Read (List (Node × Node))
  | 0 => fail .malformed
  | fuel + 1 => do
    if ← skip .key then
      let key ← readUnless [.key, .value, .blockEnd] true true fuel
      let value ←
        if ← skip .value then readUnless [.key, .value, .blockEnd] true true fuel else pure empty
      return (key, value) :: (← blockEntries fuel)
    else
      expect .blockEnd
      return []

/-- The items of a sequence in brackets, and the closing bracket. A pair alone is a mapping. -/
def flowItems (first : Bool) : Nat → Read (List Node)
  | 0 => fail .malformed
  | fuel + 1 => do
    if ← skip .flowSequenceEnd then return []
    else
      if !first then expect .flowEntry
      if ← skip .key then
        let key ← readUnless [.value, .flowEntry, .flowSequenceEnd] false false fuel
        let value ←
          if ← skip .value then readUnless [.flowEntry, .flowSequenceEnd] false false fuel else pure empty
        return .mapping none .mapping [(key, value)] :: (← flowItems false fuel)
      else if ← skip .flowSequenceEnd then return []
      else
        let item ← read false false fuel
        return item :: (← flowItems false fuel)

/-- The entries of a mapping in braces, and the closing brace. -/
def flowEntries (first : Bool) : Nat → Read (List (Node × Node))
  | 0 => fail .malformed
  | fuel + 1 => do
    if ← skip .flowMappingEnd then return []
    else
      if !first then expect .flowEntry
      if ← skip .key then
        let key ← readUnless [.value, .flowEntry, .flowMappingEnd] false false fuel
        let value ←
          if ← skip .value then readUnless [.flowEntry, .flowMappingEnd] false false fuel else pure empty
        return (key, value) :: (← flowEntries false fuel)
      else if ← skip .flowMappingEnd then return []
      else
        let key ← read false false fuel
        return (key, empty) :: (← flowEntries false fuel)

end

def commonHandles : List (String × String) := [("!", "!"), ("!!", Tag.commonUri)]

/-- The tag handles that directives declare. The version may be given once and must be 1. -/
def directives (versioned : Bool) (handles : List (String × String)) :
    List Token → Except Fault (List (String × String) × List Token)
  | .directive (.version major _) :: rest =>
    if versioned || major != 1 then .error .malformed else directives true handles rest
  | .directive (.tagHandle h uri) :: rest =>
    if (handles.lookup h).isSome then .error .malformed
    else directives versioned ((h, uri) :: handles) rest
  | .directive .other :: rest => directives versioned handles rest
  | rest => .ok (handles ++ commonHandles, rest)

/-- The document marks behind a document, and the end of the text. -/
def finish : List Token → Except Fault Unit
  | .documentEnd :: rest => finish rest
  | [.streamEnd] => .ok ()
  | .broken f :: _ => .error f
  | _ => .error .malformed

/-- The document of some tokens; none if they are empty. -/
def document (tokens : List Token) : Except Fault (Option Node) := do
  let fuel := 4 * tokens.length + 4
  let root (reader : Read Node) (handles : List (String × String)) (rest : List Token) :
      Except Fault (Option Node) := do
    let (node, s) ← reader.run ⟨rest, [], handles⟩
    finish s.tokens
    return some node
  match tokens with
  | .streamEnd :: _ => return none
  | .directive _ :: _ | .documentStart :: _ =>
    match ← directives false [] tokens with
    | (handles, .documentStart :: rest) =>
      let bare := match rest with
        | .directive _ :: _ | .documentStart :: _ | .documentEnd :: _ | .streamEnd :: _ => true
        | _ => false
      root (if bare then return empty else read true false fuel) handles rest
    | (_, .broken f :: _) => .error f
    | _ => .error .malformed
  | _ => root (read true false fuel) commonHandles tokens

/-- The anchored nodes of a tree. -/
def anchored : Node → List (String × Node)
  | reference _ => []
  | scalar anchor tag text => anchor.toList.map fun a => (a, .scalar anchor tag text)
  | sequence anchor tag items =>
    anchor.toList.map (fun a => (a, .sequence anchor tag items)) ++
      items.attach.flatMap fun ⟨n, _⟩ => n.anchored
  | mapping anchor tag entries =>
    anchor.toList.map (fun a => (a, .mapping anchor tag entries)) ++
      entries.attach.flatMap fun ⟨e, _⟩ => e.1.anchored ++ e.2.anchored
termination_by n => sizeOf n
decreasing_by
  · have := List.sizeOf_lt_of_mem ‹n ∈ items›
    simp; omega
  · have := List.sizeOf_lt_of_mem ‹e ∈ entries›
    cases e; simp at *; omega
  · have := List.sizeOf_lt_of_mem ‹e ∈ entries›
    cases e; simp at *; omega

end Node

end ScriptAudit.Yaml
