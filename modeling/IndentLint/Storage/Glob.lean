import IndentLint.Storage.Disk

/-! Patterns for names and for paths. -/
namespace IndentLint.Storage.Glob

inductive Piece where
  | many
  | one
  | char (c : Char)
  | set (negated : Bool) (ranges : List (Char × Char))
  deriving DecidableEq, Repr

def Piece.accepts (c : Char) : Piece → Bool
  | .many => true
  | .one => true
  | .char d => c = d
  | .set negated ranges => (ranges.any fun r => r.1 ≤ c && c ≤ r.2) != negated

/-- The inside of a set in the parts between which a hyphen makes a range. A hyphen right after
the first character of a part is none of these, nor is one at the end. -/
def partsFrom (part : List Char) : Nat → List Char → List (List Char)
  | _, [] => [part]
  | held, c :: rest =>
    if c = '-' && held = 0 && !rest.isEmpty then part :: partsFrom [] 2 rest
    else partsFrom (part ++ [c]) (held - 1) rest

def setParts (body : List Char) : List (List Char) :=
  partsFrom [] (if body.head? = some '!' then 2 else 1) body

def joinEmpty (part : List Char) : List (List Char) → List (List Char)
  | [] => [part]
  | next :: rest =>
    match part.getLast?, next.head? with
    | some a, some b => if b < a then (part.dropLast ++ next.drop 1) :: rest else part :: next :: rest
    | _, _ => part :: next :: rest

def withoutEmpty (parts : List (List Char)) : List (List Char) := parts.foldr joinEmpty []

abbrev Mark := Option Char

def marks (parts : List (List Char)) : List Mark :=
  List.intercalate [none] (parts.map (·.map some))

def ranges : List Mark → List (Char × Char)
  | [] => []
  | some a :: none :: some b :: rest => (a, b) :: ranges rest
  | some a :: rest => (a, a) :: ranges rest
  | none :: rest => ('-', '-') :: ranges rest

/-- The set that the inside of brackets gives. Empty ranges are gone before a leading `!` is taken
for a negation. -/
def setOf (body : List Char) : Piece :=
  match marks (withoutEmpty (setParts body)) with
  | some '!' :: rest => .set true (ranges rest)
  | all => .set false (ranges all)

def setBody? (s : List Char) : Option (List Char × List Char) :=
  let (first, rest) := match s with
    | ']' :: rest => ([']'], rest)
    | rest => ([], rest)
  match rest.dropWhile (· ≠ ']') with
  | ']' :: after => some (first ++ rest.takeWhile (· ≠ ']'), after)
  | _ => none

def set? : List Char → Option (Piece × List Char)
  | '!' :: rest => (setBody? rest).map fun (body, after) => (setOf ('!' :: body), after)
  | rest => (setBody? rest).map fun (body, after) => (setOf body, after)

def parseFrom : Nat → List Char → List Piece
  | 0, _ => []
  | _, [] => []
  | fuel + 1, '*' :: rest => .many :: parseFrom fuel rest
  | fuel + 1, '?' :: rest => .one :: parseFrom fuel rest
  | fuel + 1, '[' :: rest =>
    match set? rest with
    | some (piece, after) => piece :: parseFrom fuel after
    | none => .char '[' :: parseFrom fuel rest
  | fuel + 1, c :: rest => .char c :: parseFrom fuel rest

def parse (pattern : String) : List Piece := parseFrom pattern.length pattern.toList

def tails : List Char → List (List Char)
  | [] => [[]]
  | c :: rest => (c :: rest) :: tails rest

/-- What may be left of a name after one more piece, given what may be left before it, the longest
first. -/
def advance (left : List (List Char)) : Piece → List (List Char)
  | .many => (left.head?.map tails).getD []
  | piece => left.filterMap fun s =>
    match s with
    | c :: rest => if piece.accepts c then some rest else none
    | [] => none

def matchesPieces (pieces : List Piece) (s : List Char) : Bool :=
  (pieces.foldl advance [s]).contains []

def nameMatches (pattern name : String) : Bool := matchesPieces (parse pattern) name.toList

inductive Part where
  | deep
  | parent
  | exact (name : String)
  | wild (pattern : String)
  | here
  deriving DecidableEq, Repr

inductive Fault where
  | empty (shown : String)
  | absolute
  | mixedDeep
  | noComponent
  | onlyHere
  deriving DecidableEq, Repr

def Fault.message : Fault → String
  | .empty shown => "Unacceptable pattern: " ++ shown
  | .absolute => "Non-relative patterns are unsupported"
  | .mixedDeep => "Invalid pattern: '**' can only be an entire path component"
  | .noComponent => "tuple index out of range"
  | .onlyHere => "nothing to look for"

def hasDeep : List Char → Bool
  | '*' :: '*' :: _ => true
  | _ :: rest => hasDeep rest
  | [] => false

def partOf (component : String) : Except Fault Part :=
  let cs := component.toList
  if component = "**" then .ok .deep
  else if component = ".." then .ok .parent
  else if hasDeep cs then .error .mixedDeep
  else if cs.any fun c => c = '*' || c = '?' || c = '[' then .ok (.wild component)
  else .ok (.exact component)

def parsePath (pattern : String) : Except Fault (List Part) :=
  let path := Path.ofString pattern
  if pattern = "" then .error (.empty (Text.quoted ""))
  else if path.isAbsolute then .error .absolute
  else do
    let parts ← path.parts.mapM partOf
    let slashed := pattern.toList.getLast? = some '/'
    if parts.isEmpty then .error (if slashed then .onlyHere else .noComponent)
    else .ok (if slashed then parts ++ [.here] else parts)

def select (d : Disk) : List Part → List String → Except AccessFault (List (List String))
  | [], path => .ok [path]
  | .here :: _, path => .ok [path]
  | .parent :: rest, path => select d rest (path ++ [".."])
  | .exact name :: rest, path => do
    match ← d.find (Place.toString (path ++ [name])) with
    | none => .ok []
    | some n => if rest.isEmpty || n.isDir then select d rest (path ++ [name]) else .ok []
  | .wild pattern :: rest, path => do
    let entries := ((d.at? path).map Node.entries).getD []
    let wanted := entries.filter fun e =>
      (rest.isEmpty || e.2.isDir) && nameMatches pattern e.1
    .ok (← wanted.mapM fun e => select d rest (path ++ [e.1])).flatten
  | .deep :: rest, path => do
    let below := ((d.at? path).map Node.directories).getD []
    .ok (← below.mapM fun more => select d rest (path ++ more)).flatten

def files (d : Disk) (root : Place) (parts : List Part) : Except AccessFault (List Place) := do
  match ← d.find (Place.toString root) with
  | some (.dir _) =>
    let paths ← select d parts root
    let found ← paths.filterM fun path => return (← d.find (Place.toString path)).any Node.isFile
    .ok (found.map (Place.follow []))
  | _ => .ok []

end IndentLint.Storage.Glob
