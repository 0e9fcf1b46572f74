import IndentLint.Document.Value

/-! The keys of mappings and the members of sets, each of which is there once. -/
namespace IndentLint.Document.Yaml

/-- A key. What is no number differs from everything but itself, so that its origin counts. -/
structure Key where
  scalar : Scalar
  origin : Option Nat := none
  deriving DecidableEq, Repr

def Key.same (a b : Key) : Bool := a.origin = b.origin && a.scalar.key = b.scalar.key

def putAt {α : Type} (entries : List (Key × α)) (key : Key) (a : α) : List (Key × α) :=
  match entries with
  | [] => [(key, a)]
  | (k, old) :: rest => if k.same key then (k, a) :: rest else (k, old) :: putAt rest key a

end IndentLint.Document.Yaml
