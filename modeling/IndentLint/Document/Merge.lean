import IndentLint.Document.Value

/-! Merging mappings: where both sides hold a mapping under a key the two are merged in turn,
otherwise the later side counts. -/
namespace IndentLint.Document

mutual

def mergeValue (old : Value) : Value → Value
  | .mapping new =>
    match old with
    | .mapping entries => .mapping (mergeEntries entries new)
    | _ => .mapping new
  | new => new

def mergeEntries (acc : Entries) : List (Scalar × Value) → Entries
  | [] => acc
  | (key, v) :: rest =>
    let merged := match Entries.get? acc key with
      | some old => mergeValue old v
      | none => v
    mergeEntries (Entries.set acc key merged) rest

end

structure NotMapping where
  deriving DecidableEq, Repr

def mergeNext (acc : Entries) (v : Value) : Except NotMapping Entries :=
  if v.isEmpty then .ok acc
  else match v with
    | .mapping entries => .ok (mergeEntries acc entries)
    | _ => .error {}

def mergeAll (values : List Value) : Except NotMapping Entries := values.foldlM mergeNext []

end IndentLint.Document
