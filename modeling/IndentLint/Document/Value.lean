import IndentLint.Document.Moment
import IndentLint.Number.Quantity
import IndentLint.Text.Units

/-! Documents: scalars, lists and mappings. A mapping keeps its entries in the order in which
their keys first appeared, and holds a key once. Two keys are one if they are equal as numbers or
as points in time, or else as scalars. -/
namespace IndentLint.Document

open Number (Binary64 Quantity)

inductive Scalar where
  | null
  | bool (b : Bool)
  | int (n : Int)
  | real (x : Binary64)
  | date (year month day : Nat)
  | moment (m : Moment)
  | binary (bytes : List UInt8)
  | text (s : String)
  | unpaired (points : List Nat)
  deriving DecidableEq, Repr

namespace Scalar

def ofPoints (points : List Nat) : Scalar :=
  match Text.ofPoints? points with
  | some chars => .text (String.ofList chars)
  | none => .unpaired points

inductive Key where
  | number (value : Rat)
  | instant (minutes : Int) (second micro : Nat)
  | other (s : Scalar)
  deriving DecidableEq, Repr

def key (s : Scalar) : Key :=
  match s with
  | .bool b => .number (if b then 1 else 0)
  | .int n => .number n
  | .real x =>
    match x.fraction? with
    | some (p, q) => .number (mkRat p q)
    | none => .other s
  | .moment m =>
    match m.zone with
    | some ahead => .instant (m.minuteNumber - ahead) m.second m.micro
    | none => .other s
  | s => .other s

end Scalar

inductive Value where
  | scalar (s : Scalar)
  | list (items : List Value)
  | mapping (entries : List (Scalar × Value))
  | set (members : List Scalar)
  | pair (key value : Value)
  | endless (isList : Bool)
  deriving Repr, BEq

abbrev Entries := List (Scalar × Value)

namespace Value

abbrev null : Value := .scalar .null
abbrev bool (b : Bool) : Value := .scalar (.bool b)
abbrev int (n : Int) : Value := .scalar (.int n)
abbrev nat (n : Nat) : Value := .scalar (.int n)
abbrev text (s : String) : Value := .scalar (.text s)
abbrev texts (xs : List String) : Value := .list (xs.map text)

def ofText? : Option String → Value
  | some s => .text s
  | none => .null

instance : Inhabited Value := ⟨.null⟩

def ofQuantity : Quantity → Value
  | .whole n => .int n
  | .truth b => .bool b
  | .real x => .scalar (.real x)

end Value

namespace Entries

def get? (entries : Entries) (key : Scalar) : Option Value :=
  (entries.find? fun e => e.1.key = key.key).map (·.2)

/-- Replaces the value of a key, which keeps its first form, or adds the key at the end. -/
def set (entries : Entries) (key : Scalar) (value : Value) : Entries :=
  match entries with
  | [] => [(key, value)]
  | (k, v) :: rest =>
    if k.key = key.key then (k, value) :: rest else (k, v) :: set rest key value

def ofList (entries : List (Scalar × Value)) : Entries :=
  entries.foldl (fun acc e => set acc e.1 e.2) []

end Entries

namespace Value

def record (fields : List (String × Value)) : Value :=
  .mapping (fields.map fun f => (.text f.1, f.2))

def entries? : Value → Option Entries
  | .mapping entries => some entries
  | _ => none

def get? (v : Value) (key : String) : Option Value := do
  (← v.entries?).get? (.text key)

def text? : Value → Option String
  | .scalar (.text s) => some s
  | _ => none

def int? : Value → Option Int
  | .scalar (.int n) => some n
  | _ => none

def bool? : Value → Option Bool
  | .scalar (.bool b) => some b
  | _ => none

def quantity? : Value → Option Quantity
  | .scalar (.int n) => some (.whole n)
  | .scalar (.bool b) => some (.truth b)
  | .scalar (.real x) => some (.real x)
  | _ => none

def items? : Value → Option (List Value)
  | .list items => some items
  | _ => none

def isEmpty : Value → Bool
  | .scalar .null => true
  | .scalar (.bool b) => !b
  | .scalar (.int n) => n = 0
  | .scalar (.real (.finite _ m _)) => m = 0
  | .scalar (.real _) => false
  | .scalar (.date ..) => false
  | .scalar (.moment _) => false
  | .scalar (.binary bytes) => bytes.isEmpty
  | .scalar (.text s) => s.isEmpty
  | .scalar (.unpaired _) => false
  | .list items => items.isEmpty
  | .mapping entries => entries.isEmpty
  | .set members => members.isEmpty
  | .pair .. => false
  | .endless _ => false

def kind : Value → String
  | .scalar .null => "NoneType"
  | .scalar (.bool _) => "bool"
  | .scalar (.int _) => "int"
  | .scalar (.real _) => "float"
  | .scalar (.date ..) => "date"
  | .scalar (.moment _) => "datetime"
  | .scalar (.binary _) => "bytes"
  | .scalar (.text _) | .scalar (.unpaired _) => "str"
  | .list _ => "list"
  | .mapping _ => "dict"
  | .set _ => "set"
  | .pair .. => "tuple"
  | .endless isList => if isList then "list" else "dict"

end Value
end IndentLint.Document
