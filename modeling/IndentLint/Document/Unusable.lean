import IndentLint.Document.Display

/-! Values that are asked for more than they can give. -/
namespace IndentLint

open Document (Value)

inductive Unusable where
  | mistyped
  | absent
  | tooLong
  | endless
  deriving DecidableEq, Repr

def Unusable.message : Unusable → String
  | .mistyped => "a value of the wrong kind"
  | .absent => "a value that is not there"
  | .tooLong =>
    "Exceeds the limit (4300 digits) for integer string conversion; use sys.set_int_max_str_digits() to increase the limit"
  | .endless => "maximum recursion depth exceeded"

def shown (v : Value) : Except Unusable String :=
  if v.isShowable then .ok v.display else .error .tooLong

def count : Value → Except Unusable Nat
  | .list items => .ok items.length
  | .mapping entries => .ok entries.length
  | .set members => .ok members.length
  | .pair .. => .ok 2
  | .scalar (.text s) => .ok s.length
  | .scalar (.unpaired points) => .ok points.length
  | .scalar (.binary bytes) => .ok bytes.length
  | _ => .error .mistyped

end IndentLint
