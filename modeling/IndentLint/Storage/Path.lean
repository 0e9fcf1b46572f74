import IndentLint.Text.Lines

/-! Paths as lists of components. Empty components and `.` say nothing and are dropped; `..` is
kept, because what it leads to depends on the files. -/
namespace IndentLint.Storage

structure Path where
  root : String
  parts : List String
  deriving DecidableEq, Repr

def pieces (s : String) : List String := (Text.splitOn '/' s.toList).map String.ofList

namespace Path

/-- Exactly two slashes at the start are kept apart from one or more than two. -/
def rootOf (s : List Char) : String :=
  match s.takeWhile (· = '/') with
  | [] => ""
  | [_, _] => "//"
  | _ => "/"

def ofString (s : String) : Path :=
  { root := rootOf s.toList, parts := (pieces s).filter fun p => p ≠ "" && p ≠ "." }

def isAbsolute (p : Path) : Bool := p.root ≠ ""

def toString (p : Path) : String :=
  if p.root = "" && p.parts.isEmpty then "." else p.root ++ "/".intercalate p.parts

def name (p : Path) : String := p.parts.getLast?.getD ""

def parent (p : Path) : Path := { p with parts := p.parts.dropLast }

instance : ToString Path := ⟨toString⟩

end Path

abbrev Place := List String

namespace Place

def toString (p : Place) : String := "/" ++ "/".intercalate p

def follow (p : Place) (parts : List String) : Place :=
  parts.foldl (fun place part => if part = ".." then place.dropLast else place ++ [part]) p

def under? (base p : Place) : Option (List String) :=
  if p.take base.length = base then some (p.drop base.length) else none

/-- Component by component, so that `a/x` stands before `a-b/x`. -/
def precedes : Place → Place → Bool
  | [], [] => false
  | [], _ :: _ => true
  | _ :: _, [] => false
  | a :: p, b :: q => a < b || (a = b && precedes p q)

def insert (p : Place) : List Place → List Place
  | [] => [p]
  | q :: rest =>
    if p = q then q :: rest
    else if precedes p q then p :: q :: rest
    else q :: insert p rest

def sort (places : List Place) : List Place := places.foldr insert []

end Place
end IndentLint.Storage
