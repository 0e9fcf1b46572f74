import IndentLint.Storage.Path
import IndentLint.Text.Quoted

/-! A tree of files and directories, with a current directory and a home directory in it. A file may
be sealed: the operating system says how large it is and keeps its bytes back. -/
namespace IndentLint.Storage

structure Refusal where
  number : Int
  reason : String
  /-- The file can be opened, and only reading from it fails. -/
  opens : Bool := false
  deriving DecidableEq, Repr

def Refusal.message (r : Refusal) (path : String) : String :=
  s!"[Errno {r.number}] {r.reason}" ++ if r.opens then "" else ": " ++ Text.quoted path

inductive Node where
  | file (bytes : List UInt8)
  | dir (entries : List (String × Node))
  | sealed (bytes : List UInt8) (refusal : Refusal)

structure Content where
  bytes : List UInt8
  refusal : Option Refusal := none
  deriving DecidableEq, Repr

def Content.node (c : Content) : Node :=
  match c.refusal with
  | none => .file c.bytes
  | some refusal => .sealed c.bytes refusal

namespace Node

def content? : Node → Option Content
  | .file bytes => some { bytes }
  | .dir _ => none
  | .sealed bytes refusal => some { bytes, refusal := some refusal }

def isFile (n : Node) : Bool := n.content?.isSome

def isDir (n : Node) : Bool := !n.isFile

def size (n : Node) : Nat := n.content?.elim 4096 (·.bytes.length)

def entries : Node → List (String × Node)
  | .dir entries => entries
  | _ => []

def child? (n : Node) (name : String) : Option Node := n.entries.lookup name

def setEntry (name : String) (n : Node) : List (String × Node) → List (String × Node)
  | [] => [(name, n)]
  | (k, v) :: rest => if k = name then (k, n) :: rest else (k, v) :: setEntry name n rest

def place (leaf : Node) : Place → Node → Node
  | [], _ => leaf
  | name :: rest, n =>
    .dir (setEntry name (place leaf rest ((n.child? name).getD (.dir []))) n.entries)

mutual

def directories : Node → List Place
  | .dir entries => [] :: directoriesIn entries
  | _ => []

def directoriesIn : List (String × Node) → List Place
  | [] => []
  | (name, n) :: rest => (directories n).map (name :: ·) ++ directoriesIn rest

end

mutual

def files : Node → List (Place × List UInt8)
  | .file bytes | .sealed bytes _ => [([], bytes)]
  | .dir entries => filesIn entries

def filesIn : List (String × Node) → List (Place × List UInt8)
  | [] => []
  | (name, n) :: rest => (files n).map (fun f => (name :: f.1, f.2)) ++ filesIn rest

end

end Node

inductive AccessCause where
  | missing
  | notDirectory
  | isDirectory
  | nameTooLong
  | holdsZero
  deriving DecidableEq, Repr

structure AccessFault where
  cause : AccessCause
  path : String
  deriving DecidableEq, Repr

namespace AccessFault

def message (f : AccessFault) : String :=
  let about (text : String) : String := text ++ ": " ++ Text.quoted f.path
  match f.cause with
  | .missing => about "[Errno 2] No such file or directory"
  | .notDirectory => about "[Errno 20] Not a directory"
  | .isDirectory => about "[Errno 21] Is a directory"
  | .nameTooLong => about "[Errno 36] File name too long"
  | .holdsZero => "embedded null byte"

def isSystem (f : AccessFault) : Bool := f.cause ≠ .holdsZero

end AccessFault

inductive ReadFault where
  | access (fault : AccessFault)
  | refused (refusal : Refusal) (path : String)
  deriving DecidableEq, Repr

def ReadFault.message : ReadFault → String
  | .access fault => fault.message
  | .refused refusal path => refusal.message path

def holdsZero (path : String) : Bool := path.toList.any (·.toNat = 0)

structure Disk where
  top : Node
  current : Place
  home : Place

namespace Disk

def maxName : Nat := 255

def maxPath : Nat := 4095

def walk : List Node → Node → List String → Except AccessCause Node
  | _, here, [] => .ok here
  | above, here, part :: rest =>
    if here.isFile then .error .notDirectory
    else if part = "" || part = "." then walk above here rest
    else if part = ".." then
      match above with
      | [] => walk [] here rest
      | parent :: above => walk above parent rest
    else if maxName < part.utf8ByteSize then .error .nameTooLong
    else match here.child? part with
      | none => .error .missing
      | some n => walk (here :: above) n rest

def components (d : Disk) (path : String) : List String :=
  if path.toList.head? = some '/' then pieces path else d.current ++ pieces path

def lookup (d : Disk) (path : String) : Except AccessCause Node :=
  if path = "" then .error .missing
  else if maxPath < path.utf8ByteSize then .error .nameTooLong
  else walk [] d.top (d.components path)

def at? (d : Disk) (place : Place) : Option Node :=
  match walk [] d.top place with
  | .ok n => some n
  | .error _ => none

def has (d : Disk) (path : String) : Bool :=
  match d.lookup path with
  | .ok _ => true
  | .error _ => false

def find (d : Disk) (path : String) : Except AccessFault (Option Node) :=
  match d.lookup path with
  | .ok n => .ok (some n)
  | .error .nameTooLong => .error ⟨.nameTooLong, path⟩
  | .error _ => .ok none

def resolve (d : Disk) (p : Path) : Place :=
  if p.isAbsolute then Place.follow [] p.parts else Place.follow d.current p.parts

def read (d : Disk) (path : String) : Except ReadFault (List UInt8) :=
  match d.lookup path with
  | .ok (.file bytes) => .ok bytes
  | .ok (.dir _) => .error (.access ⟨.isDirectory, path⟩)
  | .ok (.sealed _ refusal) => .error (.refused refusal path)
  | .error cause => .error (.access ⟨cause, path⟩)

/-- The directory that holds what a path names has to exist. Leave to write is not looked at, and a
file that cannot be read stays one. -/
def write (d : Disk) (path : String) (bytes : List UInt8) : Except AccessFault Disk := do
  if holdsZero path then .error ⟨.holdsZero, path⟩
  let store (refusal : Option Refusal) : Disk :=
    { d with top := Node.place (Content.node { bytes, refusal }) (d.resolve (.ofString path)) d.top }
  match d.lookup path with
  | .ok (.file _) => .ok (store none)
  | .ok (.sealed _ refusal) => .ok (store (some refusal))
  | .ok (.dir _) => .error ⟨.isDirectory, path⟩
  | .error .missing =>
    let parts := pieces path
    let holder := if path.toList.head? = some '/' then "/".intercalate parts.dropLast ++ "/"
      else "/".intercalate ("." :: parts.dropLast)
    if path ≠ "" && d.has holder then
      if parts.getLast? = some "" then .error ⟨.isDirectory, path⟩ else .ok (store none)
    else .error ⟨.missing, path⟩
  | .error cause => .error ⟨cause, path⟩

def changes (before after : Disk) (place : Place) : List (Place × List UInt8) :=
  let files (d : Disk) := ((d.at? place).map Node.files).getD []
  let old := files before
  (files after).filter fun f => !old.contains f

end Disk
end IndentLint.Storage
