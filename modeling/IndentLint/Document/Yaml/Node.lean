import IndentLint.Document.Yaml.Implicit
import IndentLint.Document.Yaml.Token

/-! The nodes of a YAML document. They stand in a table, in which a node names its parts by their
places, so that an alias is just one more mention of a node, even of one that it is a part of. -/
namespace IndentLint.Document.Yaml

inductive Content where
  | scalar (codes : List Nat)
  | list (items : List Nat)
  | mapping (entries : List (Nat × Nat))
  deriving DecidableEq, Repr

structure Node where
  tag : Tag
  content : Content
  deriving DecidableEq, Repr

structure Composing where
  rest : List Token
  fault : Fault
  nodes : Array Node := #[]
  anchors : List (List Char × Nat) := []
  handles : List (List Char × List Char) := []

abbrev Compose := StateT Composing (Except Fault)

namespace Compose

def refuse {α : Type} (detail : String) : Compose α := throw (.malformed detail)

def peek : Compose Token := do
  match (← get).rest with
  | t :: _ => return t
  | [] => throw (← get).fault

def drop : Compose Unit := modify fun s => { s with rest := s.rest.drop 1 }

def isNext (ts : List Token) : Compose Bool := return ts.contains (← peek)

def accept (t : Token) : Compose Bool := do
  if ← isNext [t] then
    drop
    return true
  else return false

def expect (t : Token) : Compose Unit := do
  if !(← accept t) then refuse "another token"

def add (n : Node) : Compose Nat := do
  let place := (← get).nodes.size
  modify fun s => { s with nodes := s.nodes.push n }
  return place

def addEmpty : Compose Nat := add ⟨.null, .scalar []⟩

def mention (name : List Char) : Compose Nat := do
  match (← get).anchors.lookup name with
  | none => refuse "a known alias"
  | some place => return place

structure Properties where
  anchor : Option (List Char) := none
  tag : Option TagText := none

def takeAnchor : Compose (Option (List Char)) := do
  match ← peek with
  | .anchor name =>
    drop
    return some name
  | _ => return none

def takeTag : Compose (Option TagText) := do
  match ← peek with
  | .tag text =>
    drop
    return some text
  | _ => return none

def properties : Compose Properties := do
  match ← takeAnchor with
  | some name => return ⟨some name, ← takeTag⟩
  | none =>
    match ← takeTag with
    | some text => return ⟨← takeAnchor, some text⟩
    | none => return {}

def expand (text : TagText) : Compose (Option Tag) := do
  let full ← match text.handle with
    | none => pure text.suffix
    | some handle =>
      match (← get).handles.lookup handle with
      | some expansion => pure (expansion ++ text.suffix)
      | none => refuse "a known short form"
  return if full = ['!'] then none else some (Tag.ofText full)

def addNamed (anchor : Option (List Char)) (n : Node) : Compose Nat := do
  match anchor with
  | none => add n
  | some name =>
    if ((← get).anchors.lookup name).isSome then refuse "a new anchor"
    let place ← add n
    modify fun s => { s with anchors := (name, place) :: s.anchors }
    return place

def leaf (anchor : Option (List Char)) (tag : Tag) (codes : List Nat) : Compose Nat :=
  addNamed anchor ⟨tag, .scalar codes⟩

def collection (anchor : Option (List Char)) (tag : Tag) (content : Compose Content) :
    Compose Nat := do
  let place ← addNamed anchor ⟨tag, .list []⟩
  let content ← content
  modify fun s => { s with nodes := s.nodes.setIfInBounds place ⟨tag, content⟩ }
  return place

/-- The tag of a scalar. A lone exclamation mark, like no tag, leaves a plain scalar to its text,
and it makes the text count in quotes too. -/
def scalarTag (p : Properties) (tag : Option Tag) (text : List Char) (isPlain : Bool) : Tag :=
  match tag with
  | some tag => tag
  | none => if isPlain || p.tag.isSome then implicitTag text else .text

def orEmpty (ends : List Token) (read : Compose Nat) : Compose Nat := do
  if ← isNext ends then addEmpty else read

mutual

def node (block ofKey : Bool) : Nat → Compose Nat
  | 0 => refuse "a node"
  | fuel + 1 => do
    match ← peek with
    | .mention name =>
      drop
      mention name
    | _ =>
      let p ← properties
      let tag ← match p.tag with
        | some text => expand text
        | none => pure none
      let start ← peek
      if ofKey && start = .dash then
        collection p.anchor (tag.getD .list) (.list <$> sequenceOfKey fuel)
      else match start, block with
        | .scalar codes isPlain, _ =>
          drop
          leaf p.anchor (scalarTag p tag (codes.map Char.ofNat) isPlain) codes
        | .openList, _ =>
          drop
          collection p.anchor (tag.getD .list) (.list <$> flowItems true fuel)
        | .openMapping, _ =>
          drop
          collection p.anchor (tag.getD .mapping) (.mapping <$> flowEntries true fuel)
        | .blockSequence, true =>
          drop
          collection p.anchor (tag.getD .list) (.list <$> sequence fuel)
        | .blockMapping, true =>
          drop
          collection p.anchor (tag.getD .mapping) (.mapping <$> mapping fuel)
        | _, _ =>
          if p.anchor.isSome || p.tag.isSome then leaf p.anchor (tag.getD .null) []
          else refuse "a node"

def sequence : Nat → Compose (List Nat)
  | 0 => refuse "an item"
  | fuel + 1 => do
    if ← accept .dash then
      let item ← orEmpty [.dash, .blockEnd] (node true false fuel)
      return item :: (← sequence fuel)
    else
      expect .blockEnd
      return []

def sequenceOfKey : Nat → Compose (List Nat)
  | 0 => refuse "an item"
  | fuel + 1 => do
    if ← accept .dash then
      let item ← orEmpty [.dash, .key, .value, .blockEnd] (node true false fuel)
      return item :: (← sequenceOfKey fuel)
    else return []

def mapping : Nat → Compose (List (Nat × Nat))
  | 0 => refuse "an entry"
  | fuel + 1 => do
    if ← accept .key then
      let k ← orEmpty [.key, .value, .blockEnd] (node true true fuel)
      let v ← if ← accept .value then orEmpty [.key, .value, .blockEnd] (node true true fuel)
        else addEmpty
      return (k, v) :: (← mapping fuel)
    else
      expect .blockEnd
      return []

def flowEntry (close : Token) : Nat → Compose (Nat × Nat)
  | 0 => refuse "an entry"
  | fuel + 1 => do
    let k ← orEmpty [.value, .comma, close] (node false false fuel)
    let v ← if ← accept .value then orEmpty [.comma, close] (node false false fuel) else addEmpty
    return (k, v)

def flowItems (first : Bool) : Nat → Compose (List Nat)
  | 0 => refuse "an item"
  | fuel + 1 => do
    if ← accept .closeList then return []
    if !first then expect .comma
    if ← accept .key then
      let item ← collection none .mapping do return .mapping [← flowEntry .closeList fuel]
      return item :: (← flowItems false fuel)
    else if ← accept .closeList then return []
    else
      let item ← node false false fuel
      return item :: (← flowItems false fuel)

def flowEntries (first : Bool) : Nat → Compose (List (Nat × Nat))
  | 0 => refuse "an entry"
  | fuel + 1 => do
    if ← accept .closeMapping then return []
    if !first then expect .comma
    if ← accept .key then
      let e ← flowEntry .closeMapping fuel
      return e :: (← flowEntries false fuel)
    else if ← accept .closeMapping then return []
    else
      let k ← node false false fuel
      let v ← addEmpty
      return (k, v) :: (← flowEntries false fuel)

end

def usualHandles : List (List Char × List Char) := [(['!'], ['!']), (['!', '!'], Tag.scheme)]

def directives (versioned : Bool) : Nat → Compose Unit
  | 0 => return ()
  | fuel + 1 => do
    match ← peek with
    | .directive (.version major) =>
      drop
      if versioned || major ≠ 1 then refuse "one version that is known"
      directives true fuel
    | .directive (.tag handle expansion) =>
      drop
      if ((← get).handles.lookup handle).isSome then refuse "a new short form"
      modify fun s => { s with handles := s.handles ++ [(handle, expansion)] }
      directives versioned fuel
    | .directive .other =>
      drop
      directives versioned fuel
    | _ => modify fun s => { s with handles := s.handles ++ usualHandles }

def isDirective : Token → Bool
  | .directive _ => true
  | _ => false

def checkEnd : Nat → Compose Unit
  | 0 => return ()
  | fuel + 1 => do
    if ← accept .documentEnd then checkEnd fuel
    else if ← isNext [.endOfText] then return ()
    else
      modify fun s => { s with handles := [] }
      directives false fuel
      let _ ← peek
      refuse "a single document"

def document (fuel : Nat) : Compose (Option Nat) := do
  let start ← peek
  if start = .endOfText then return none
  let root ←
    if isDirective start || start = .documentStart then
      directives false fuel
      expect .documentStart
      let t ← peek
      if isDirective t || [.documentStart, .documentEnd, .endOfText].contains t then addEmpty
      else node true false fuel
    else
      modify fun s => { s with handles := usualHandles }
      node true false fuel
  checkEnd fuel
  return some root

end Compose

def compose (supply : Supply) : Except Fault (Option Nat × Array Node) := do
  let found := Tokens.ofSupply supply
  let start : Composing :=
    { rest := found.tokens, fault := found.fault.getD (.malformed "the end of the text") }
  let (root, s) ← (Compose.document (4 * found.tokens.length + 4)).run start
  .ok (root, s.nodes)

end IndentLint.Document.Yaml
