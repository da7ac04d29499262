/-
# The graph of a token stream

The grammar of documents.  A node has an anchor and a tag, perhaps, and content; where content is
missing but may be, it is the empty plain scalar.  An alias stands for the node of its anchor, and
an anchor names its node from where the node begins.

A stream holds one document at most.
-/
import Keyspace.Yaml.Graph
import Keyspace.Yaml.Token

namespace Keyspace.Yaml

structure Composer where
  tokens : List Token
  graph : Graph
  anchors : List (Text × NodeId)
  /-- What the handles of tags stand for. -/
  handles : List (Text × Text)

/-- A step of the composition. -/
abbrev Compose := StateT Composer (Except Fault)

namespace Composer

/-! ## 1. Tokens and nodes -/

/-- The next token, which is no fault. -/
def peek : Compose Token := do
  match (← get).tokens with
  | .broken f :: _ => throw f
  | t :: _ => return t
  | [] => return .streamEnd

def pop : Compose Unit :=
  modify fun s => { s with tokens := s.tokens.tail }

/-- Takes the next token if it is `t`. -/
def accept (t : Token) : Compose Bool := do
  if (← peek) == t then
    pop
    return true
  return false

def expect (t : Token) : Compose Unit := do
  if !(← accept t) then throw .malformed

/-- Whether the next token is one of these. -/
def isAt (ts : List Token) : Compose Bool := do
  return ts.contains (← peek)

def add (n : Node) : Compose NodeId :=
  modifyGet fun s => (s.graph.size, { s with graph := s.graph.push n })

def addEmpty : Compose NodeId := add ⟨.null, .scalar []⟩

/-- Names a node; a name is given once. -/
def name (anchor : Option Text) (i : NodeId) : Compose Unit := do
  if let some a := anchor then
    if ((← get).anchors.lookup a).isSome then throw .malformed
    modify fun s => { s with anchors := (a, i) :: s.anchors }

/-- The tag of a name: nothing for the bare mark, which leaves the choice to the content. -/
def resolve (t : TagName) : Compose (Option Tag) := do
  let full ← match t.handle with
    | none => pure t.suffix
    | some h => match (← get).handles.lookup h with
      | some start => pure (start ++ t.suffix)
      | none => throw .malformed
  return if full == ['!'] then none else some (Tag.ofName full)

/-- Anchor and tag in front of a node, in either order. -/
structure Properties where
  anchor : Option Text := none
  tag : Option TagName := none

def properties : Compose Properties := do
  match ← peek with
  | .anchor a =>
    pop
    match ← peek with
    | .tag t =>
      pop
      return ⟨some a, some t⟩
    | _ => return ⟨some a, none⟩
  | .tag t =>
    pop
    match ← peek with
    | .anchor a =>
      pop
      return ⟨some a, some t⟩
    | _ => return ⟨none, some t⟩
  | _ => return ⟨none, none⟩

/-- Adds a named node without content, has its content read, and fills it in. -/
def collection (anchor : Option Text) (tag : Tag) (read : Compose Content) : Compose NodeId := do
  let i ← add ⟨tag, .sequence []⟩
  name anchor i
  let c ← read
  modify fun s => { s with graph := s.graph.setContent i c }
  return i

/-! ## 2. Nodes

A list of what can follow an empty node stands with each place where one may be. -/

def afterBlockItem : List Token := [.blockEntry, .blockEnd]

def afterIndentlessItem : List Token := [.blockEntry, .key, .value, .blockEnd]

def afterBlockMember : List Token := [.key, .value, .blockEnd]

mutual

/-- A node.  Block collections are allowed if `block`; if `indentless`, also a sequence whose
entries are not indented more than the mapping around it. -/
def node : Nat → Bool → Bool → Compose NodeId
  | 0, _, _ => throw .malformed
  | fuel + 1, block, indentless => do
    if let .alias a ← peek then
      pop
      match (← get).anchors.lookup a with
      | some i => return i
      | none => throw .malformed
    let p ← properties
    let tag ← match p.tag with
      | some t => resolve t
      | none => pure none
    let sequence := collection p.anchor (tag.getD .seq)
    let mapping := collection p.anchor (tag.getD .map)
    match ← peek with
    | .scalar text plain =>
      pop
      let chosen := if p.tag.isNone && !plain then .str else tag.getD (Tag.implicit text)
      let i ← add ⟨chosen, .scalar text⟩
      name p.anchor i
      return i
    | .flowSequenceStart =>
      pop
      sequence (return .sequence (← flowItems fuel true))
    | .flowMappingStart =>
      pop
      mapping (return .mapping (← flowMembers fuel true))
    | t =>
      if indentless && t == .blockEntry then
        sequence (return .sequence (← indentlessItems fuel))
      else if block && t == .blockSequenceStart then
        pop
        sequence (return .sequence (← blockItems fuel))
      else if block && t == .blockMappingStart then
        pop
        mapping (return .mapping (← blockMembers fuel))
      else if p.anchor.isSome || p.tag.isSome then
        let i ← add ⟨tag.getD .null, .scalar []⟩
        name p.anchor i
        return i
      else throw .malformed

/-- A node, or the empty one where one of these tokens follows. -/
def nodeOr : Nat → List Token → Bool → Bool → Compose NodeId
  | 0, _, _, _ => throw .malformed
  | fuel + 1, ends, block, indentless => do
    if ← isAt ends then addEmpty else node fuel block indentless

def blockItems : Nat → Compose (List NodeId)
  | 0 => throw .malformed
  | fuel + 1 => do
    if ← accept .blockEntry then
      let i ← nodeOr fuel afterBlockItem true false
      return i :: (← blockItems fuel)
    expect .blockEnd
    return []

def indentlessItems : Nat → Compose (List NodeId)
  | 0 => throw .malformed
  | fuel + 1 => do
    if ← accept .blockEntry then
      let i ← nodeOr fuel afterIndentlessItem true false
      return i :: (← indentlessItems fuel)
    return []

def blockMembers : Nat → Compose (List (NodeId × NodeId))
  | 0 => throw .malformed
  | fuel + 1 => do
    if ← accept .key then
      let k ← nodeOr fuel afterBlockMember true true
      let v ← memberValue fuel afterBlockMember true
      return (k, v) :: (← blockMembers fuel)
    expect .blockEnd
    return []

/-- The value of a member, empty without a mark or where one of these tokens follows it. -/
def memberValue : Nat → List Token → Bool → Compose NodeId
  | 0, _, _ => throw .malformed
  | fuel + 1, ends, block => do
    if ← accept .value then nodeOr fuel ends block block else addEmpty

def flowItems : Nat → Bool → Compose (List NodeId)
  | 0, _ => throw .malformed
  | fuel + 1, first => do
    if ← accept .flowSequenceEnd then return []
    if !first then expect .flowEntry
    if ← accept .key then
      let i ← collection none .map do
        let k ← nodeOr fuel [.value, .flowEntry, .flowSequenceEnd] false false
        let v ← memberValue fuel [.flowEntry, .flowSequenceEnd] false
        return .mapping [(k, v)]
      return i :: (← flowItems fuel false)
    if ← accept .flowSequenceEnd then return []
    let i ← node fuel false false
    return i :: (← flowItems fuel false)

def flowMembers : Nat → Bool → Compose (List (NodeId × NodeId))
  | 0, _ => throw .malformed
  | fuel + 1, first => do
    if ← accept .flowMappingEnd then return []
    if !first then expect .flowEntry
    if ← accept .key then
      let k ← nodeOr fuel [.value, .flowEntry, .flowMappingEnd] false false
      let v ← memberValue fuel [.flowEntry, .flowMappingEnd] false
      return (k, v) :: (← flowMembers fuel false)
    if ← accept .flowMappingEnd then return []
    let k ← node fuel false false
    let v ← addEmpty
    return (k, v) :: (← flowMembers fuel false)

end

/-! ## 3. Documents -/

def standardHandles : List (Text × Text) :=
  [(['!'], ['!']), (['!', '!'], Tag.standardStart)]

/-- The directives of a document; a version is given once and is 1, a handle is given once. -/
def directives : Nat → Bool → Compose Unit
  | 0, _ => throw .malformed
  | fuel + 1, versioned => do
    match ← peek with
    | .directive d =>
      pop
      match d with
      | .version major =>
        if versioned || major != 1 then throw .malformed
        directives fuel true
      | .tag handle start =>
        if ((← get).handles.lookup handle).isSome then throw .malformed
        modify fun s => { s with handles := (handle, start) :: s.handles }
        directives fuel versioned
      | .other => directives fuel versioned
    | _ => modify fun s => { s with handles := s.handles ++ standardHandles }

/-- The end of a stream, after marks of the end of its document. -/
def streamEnd : Nat → Compose Unit
  | 0 => throw .malformed
  | fuel + 1 => do
    if ← accept .documentEnd then streamEnd fuel else expect .streamEnd

/-- The root of the only document, if there is one. -/
def document (fuel : Nat) : Compose (Option NodeId) := do
  match ← peek with
  | .streamEnd => return none
  | .directive _ | .documentStart =>
    directives fuel false
    expect .documentStart
    let root ← match ← peek with
      | .directive _ | .documentStart | .documentEnd | .streamEnd => addEmpty
      | _ => node fuel true false
    streamEnd fuel
    return some root
  | _ =>
    modify fun s => { s with handles := standardHandles }
    let root ← node fuel true false
    streamEnd fuel
    return some root

end Composer

/-- The graph of a stream and the root of its document.  Each level of the grammar takes a few
units of fuel and a token at least. -/
def Graph.ofTokens (ts : List Token) : Except Fault (Option (Graph × NodeId)) := do
  let (root, s) ← (Composer.document (4 * ts.length + 8)).run ⟨ts, #[], [], []⟩
  return root.map fun i => (s.graph, i)

end Keyspace.Yaml
