import IndentLint.Document.Value

/-! Documents that say the same. The order of entries and of members does not count, and numbers
are compared by their values. What is no number agrees with nothing. -/
namespace IndentLint.Document

open Number (Quantity)

def Scalar.agrees (a b : Scalar) : Bool :=
  match (Value.scalar a).quantity?, (Value.scalar b).quantity? with
  | some p, some q =>
    p.toReal ≠ .nan && q.toReal ≠ .nan && !p.isBelow q && !q.isBelow p
  | _, _ => a = b

mutual

def Value.agrees : Value → Value → Bool
  | .scalar a, .scalar b => a.agrees b
  | .list xs, .list ys => itemsAgree xs ys
  | .mapping xs, .mapping ys => xs.length = ys.length && entriesAgree ys xs
  | .set xs, .set ys => xs.length = ys.length && xs.all fun x => ys.any x.agrees
  | .pair k v, .pair l w => k.agrees l && v.agrees w
  | _, _ => false

def itemsAgree : List Value → List Value → Bool
  | [], [] => true
  | x :: xs, y :: ys => x.agrees y && itemsAgree xs ys
  | _, _ => false

def entriesAgree (others : Entries) : List (Scalar × Value) → Bool
  | [] => true
  | (k, v) :: rest =>
    (match others.find? fun e => k.agrees e.1 with
      | some e => v.agrees e.2
      | none => false)
      && entriesAgree others rest

end

end IndentLint.Document
