import IndentLint.Number.Binary64

/-! Numbers as settings give them. A truth value counts as one or zero, and stays a truth value
where it is shown. Sums and products with a real number are rounded like it. -/
namespace IndentLint.Number

inductive Quantity where
  | whole (n : Int)
  | truth (b : Bool)
  | real (x : Binary64)
  deriving DecidableEq, Repr

namespace Quantity

def whole? : Quantity → Option Int
  | .whole n => some n
  | .truth b => some (if b then 1 else 0)
  | .real _ => none

def toReal : Quantity → Binary64
  | .real x => x
  | q => .ofInt (q.whole?.getD 0)

def add (p q : Quantity) : Quantity :=
  match p.whole?, q.whole? with
  | some m, some n => .whole (m + n)
  | _, _ => .real (p.toReal.add q.toReal)

def times (n : Int) (q : Quantity) : Quantity :=
  match q.whole? with
  | some m => .whole (n * m)
  | none => .real ((Binary64.ofInt n).mul q.toReal)

def fraction? (q : Quantity) : Option (Int × Nat) :=
  match q.whole? with
  | some n => some (n, 1)
  | none => q.toReal.fraction?

/-- Compares exactly; what is no number is not below anything, nor is anything below it. -/
def isBelow (p q : Quantity) : Bool :=
  match p.fraction?, q.fraction? with
  | some (a, b), some (c, d) => a * d < c * b
  | _, _ =>
    match p.toReal, q.toReal with
    | .nan, _ | _, .nan => false
    | .infinite negative, y => negative && y ≠ .infinite true
    | _, y => y = .infinite false

def isNotPositive (q : Quantity) : Bool :=
  match q.toReal with
  | .nan => false
  | _ => !isBelow (.whole 0) q

def ceil (q : Quantity) : Int :=
  match q.fraction? with
  | some (n, d) => -(Int.fdiv (-n) d)
  | none => 0

def write : Quantity → List Char
  | .whole n => Text.Numeral.write n
  | .truth b => (if b then "True" else "False").toList
  | .real x => x.write

def isShowable : Quantity → Bool
  | .whole n => Text.Numeral.isShowable n
  | _ => true

instance : ToString Quantity := ⟨fun q => String.ofList q.write⟩

end Quantity
end IndentLint.Number
