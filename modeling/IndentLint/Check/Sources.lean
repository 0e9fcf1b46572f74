import IndentLint.Check.Fault

/-! The files to check below a directory, as the settings ask for them. A list of the settings need
not hold texts only; what it holds matters when it is reached. -/
namespace IndentLint.Check

open Document (Value)
open Storage (Disk Place)

def members : Value → Except Fault (List Value)
  | .list items => .ok items
  | .mapping entries => .ok (entries.map fun e => .scalar e.1)
  | .set members => .ok (members.map .scalar)
  | .pair key value => .ok [key, value]
  | .scalar (.text s) => .ok (s.toList.map fun c => .text (String.singleton c))
  | .scalar (.unpaired points) => .ok (points.map fun n => .scalar (.ofPoints [n]))
  | .scalar (.binary bytes) => .ok (bytes.map fun b => .nat b.toNat)
  | .scalar _ | .endless _ => .error (.unusable .mistyped)

def membersOr (usual : List String) : Value → Except Fault (List Value)
  | .scalar .null => .ok (usual.map .text)
  | v => members v

def slash : Value := .text "/"

/-- What is wrong with a pattern that is no text. It is looked at for slashes first, and what has
parts is asked for texts among them. -/
def patternFault (v : Value) : Fault :=
  if v.isEmpty then .discovery (.pattern (.empty v.quoted))
  else match v with
    | .list items => .unusable (if items.contains slash then .absent else .mistyped)
    | .pair key value => .unusable (if [key, value].contains slash then .absent else .mistyped)
    | .mapping entries =>
      match Document.Entries.get? entries (.int 0) with
      | none => .noBeginning
      | some first =>
        .unusable (if first == slash || entries.any (Value.scalar ·.1 == slash) then .absent
          else .mistyped)
    | _ => .unusable .mistyped

def pattern? : Value → Option String
  | .scalar (.text s) => some s
  | .scalar (.unpaired points) =>
    some (String.ofList (points.map fun n => Char.ofNat (if Text.isHalf n then 0 else n)))
  | _ => none

def locate (d : Disk) (root : Place) (v : Value) : Except Fault (List Place) :=
  match pattern? v with
  | some pattern => (Storage.locate d root pattern).mapError Fault.ofDiscovery
  | none => .error (patternFault v)

def isExcluded (name : String) : List Value → Except Fault Bool
  | [] => .ok false
  | v :: rest =>
    match pattern? v with
    | some pattern => if Storage.Glob.nameMatches pattern name then .ok true else isExcluded name rest
    | none => .error (.unusable .mistyped)

def isFixed : Value → Bool
  | .scalar _ => true
  | .pair key value => isFixed key && isFixed value
  | _ => false

def directoryNames (vs : List Value) : Except Fault (List String) :=
  if vs.all isFixed then .ok (vs.filterMap Value.text?)
  else .error (.unusable .mistyped)

def sources (s : Settings) (d : Disk) (root : Place) : Except Fault (List Place) := do
  let wanted ← (s.get .includePatterns).mapError .unusable
  let dirs ← (s.get .excludeDirs).mapError .unusable
  let names ← (s.get .excludeGlobs).mapError .unusable
  let dirs ← directoryNames (← membersOr Storage.defaultExcludedDirs dirs)
  let keeps (path : List String) : Except Fault Bool := do
    if path.dropLast.any dirs.contains then return false
    return !(← isExcluded (path.getLast?.getD "") (← membersOr Storage.defaultExcludedNames names))
  Storage.arrange Fault.ofDiscovery (locate d root) keeps root
    (← membersOr Storage.defaultWanted wanted)

end IndentLint.Check
