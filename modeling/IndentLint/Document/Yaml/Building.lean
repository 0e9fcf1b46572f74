import IndentLint.Document.Yaml.Key
import IndentLint.Document.Yaml.Node
import IndentLint.Document.Yaml.Scalar

/-! The values that nodes stand for. A list or a mapping is made empty at first and filled later,
level by level, so that it can be a part of itself. Faults count in this order. A mapping gets the
entries that it takes over from others just before it is filled. -/
namespace IndentLint.Document.Yaml

inductive Made where
  | scalar (key : Key)
  | list (items : List Nat)
  | mapping (entries : List (Key × Nat))
  | set (members : List Key)
  | pairs (entries : List (Nat × Nat))

def Made.empty? : Tag → Option Made
  | .list => some (.list [])
  | .mapping => some (.mapping [])
  | .set => some (.set [])
  | .pairs => some (.pairs [])
  | _ => none

structure Building where
  nodes : Array Node
  merges : Nat
  made : Array (Option Made)
  waiting : List Nat := []

abbrev Build := StateT Building (Except Fault)

namespace Build

def refuse {α : Type} (detail : String) : Build α := throw (.malformed detail)

def node (place : Nat) : Build Node := return ((← get).nodes[place]?).getD ⟨.other, .list []⟩

def setNode (place : Nat) (n : Node) : Build Unit :=
  modify fun s => { s with nodes := s.nodes.setIfInBounds place n }

def made? (place : Nat) : Build (Option Made) := return ((← get).made[place]?).join

def setMade (place : Nat) (m : Made) : Build Unit :=
  modify fun s => { s with made := s.made.setIfInBounds place (some m) }

def tagAt (place : Nat) : Build Tag := return (← node place).tag

def entriesAt (place : Nat) : Build (List (Nat × Nat)) := do
  match (← node place).content with
  | .mapping entries => return entries
  | _ => refuse "a mapping"

def setEntries (place : Nat) (entries : List (Nat × Nat)) : Build Unit := do
  setNode place { ← node place with content := .mapping entries }

/-! ### Scalars -/

def textAt : Nat → Nat → Build (List Nat)
  | 0, _ => throw .endless
  | fuel + 1, place => do
    match (← node place).content with
    | .scalar codes => return codes
    | .list _ => refuse "a scalar"
    | .mapping entries =>
      match ← entries.findM? fun e => return (← tagAt e.1) = .value with
      | some e => textAt fuel e.2
      | none => refuse "a scalar"

def scalarAt (place : Nat) : Build Key := do
  let n ← node place
  if [Tag.merge, .value, .other].contains n.tag then refuse "a known tag"
  let codes ← textAt ((← get).nodes.size + 1) place
  if n.tag = .timestamp && !(n.content matches .scalar _) then throw .notText
  let s ← readScalar n.tag codes
  return ⟨s, if s = .real .nan && !isNanWord (codes.map Char.ofNat) then some place else none⟩

/-! ### Entries taken over -/

def unmark (e : Nat × Nat) : Build Unit := do
  let n ← node e.1
  if n.tag = .value then setNode e.1 { n with tag := .text }

def isMerge (e : Nat × Nat) : Build Bool := return (← tagAt e.1) = .merge

mutual

def flatten : Nat → Nat → Build Unit
  | 0, _ => refuse "fewer mappings"
  | fuel + 1, place => do
    let taken ← takeOver fuel place
    let own ← entriesAt place
    own.forM unmark
    setEntries place (taken ++ own)

def takeOver : Nat → Nat → Build (List (Nat × Nat))
  | 0, _ => refuse "fewer mappings"
  | fuel + 1, place => do
    let entries ← entriesAt place
    match ← entries.findM? isMerge with
    | none => return []
    | some e =>
      setEntries place (entries.erase e)
      let taken ← entriesOf fuel e.2
      return taken ++ (← takeOver fuel place)

/-- The entries of another mapping, or of several, of which the first ones count most and so come
last. -/
def entriesOf : Nat → Nat → Build (List (Nat × Nat))
  | 0, _ => refuse "fewer mappings"
  | fuel + 1, source => do
    match (← node source).content with
    | .mapping _ =>
      flatten fuel source
      entriesAt source
    | .list items =>
      let parts ← items.mapM fun item => do
        let _ ← entriesAt item
        flatten fuel item
        entriesAt item
      return parts.reverse.flatten
    | .scalar _ => refuse "a mapping to take over"

end

/-! ### Filling -/

def meet (place : Nat) : Build Unit := do
  if (← made? place).isNone then
    match Made.empty? (← tagAt place) with
    | some empty =>
      setMade place empty
      modify fun s => { s with waiting := place :: s.waiting }
    | none => setMade place (.scalar (← scalarAt place))

def keyAt (place : Nat) : Build Key := do
  meet place
  match ← made? place with
  | some (.scalar key) => return key
  | _ => refuse "a scalar as key"

def mappingAt (place : Nat) : Build (List (Key × Nat)) := do
  let _ ← entriesAt place
  flatten (3 * (← get).merges + 3) place
  (← entriesAt place).foldlM (fun acc e => do
    let key ← keyAt e.1
    meet e.2
    return putAt acc key e.2) []

def pairAt (place : Nat) : Build (Nat × Nat) := do
  match ← entriesAt place with
  | [e] =>
    meet e.1
    meet e.2
    return e
  | _ => refuse "a single entry"

def fill (place : Nat) : Build Unit := do
  let n ← node place
  match n.tag, n.content with
  | .list, .list items =>
    items.forM meet
    setMade place (.list items)
  | .mapping, .mapping _ => setMade place (.mapping (← mappingAt place))
  | .set, .mapping _ => setMade place (.set ((← mappingAt place).map (·.1)))
  | .pairs, .list items => setMade place (.pairs (← items.mapM pairAt))
  | _, _ => refuse "a collection that fits its tag"

def fillAll : Nat → Build Unit
  | 0 => return ()
  | levels + 1 => do
    let waiting := (← get).waiting
    if waiting.isEmpty then return ()
    modify fun s => { s with waiting := [] }
    waiting.reverse.forM fill
    fillAll levels

end Build

/-! ### Values -/

def Made.value? (known : Nat → Option Value) : Made → Option Value
  | .scalar key => some (.scalar key.scalar)
  | .list items => do return .list (← items.mapM known)
  | .mapping entries => do
    return .mapping (← entries.mapM fun e => do return (e.1.scalar, ← known e.2))
  | .set members => some (.set (members.map (·.scalar)))
  | .pairs entries => do
    return .list (← entries.mapM fun e => do return .pair (← known e.1) (← known e.2))

def Made.isList : Made → Bool
  | .list _ | .pairs _ => true
  | _ => false

namespace Building

def made? (b : Building) (place : Nat) : Option Made := (b.made[place]?).join

def learn (b : Building) (known : Array (Option Value)) : Array (Option Value) :=
  (List.range known.size).reverse.foldl (fun known place =>
    match (known[place]?).join with
    | some _ => known
    | none =>
      match b.made? place with
      | some m => known.setIfInBounds place (m.value? fun part => (known[part]?).join)
      | none => known) known

def learnAll (b : Building) : Nat → Array (Option Value) → Array (Option Value)
  | 0, known => known
  | rounds + 1, known =>
    let more := b.learn known
    if (more.filter Option.isSome).size = (known.filter Option.isSome).size then known
    else learnAll b rounds more

def unroll (b : Building) (known : Array (Option Value)) : Nat → Nat → Value
  | 0, place =>
    ((known[place]?).join).getD (.endless ((b.made? place).any Made.isList))
  | levels + 1, place =>
    match (known[place]?).join with
    | some v => v
    | none => ((b.made? place).bind (Made.value? fun part => some (unroll b known levels part))).getD .null

/-- More levels than anything looks into: a document has groups of settings, and a setting may be a
list of lists. -/
def maxLevels : Nat := 6

def value (b : Building) (place : Nat) : Value :=
  let known := b.learnAll (b.nodes.size + 1) (Array.replicate b.nodes.size none)
  b.unroll known maxLevels place

end Building

def mergeCount (nodes : Array Node) : Nat :=
  let isMerge (e : Nat × Nat) : Bool := (nodes[e.1]?).any (·.tag = .merge)
  nodes.foldl (fun count n =>
    match n.content with
    | .mapping entries => count + entries.countP isMerge
    | _ => count) 0

def build (nodes : Array Node) (root : Nat) : Except Fault Value := do
  let start : Building :=
    { nodes, merges := mergeCount nodes, made := Array.replicate nodes.size none }
  let steps : Build Unit := do
    Build.meet root
    Build.fillAll (nodes.size + 1)
  let ((), b) ← steps.run start
  .ok (b.value root)

end IndentLint.Document.Yaml
