import IndentLint.Document.Fault
import IndentLint.Document.Value
import IndentLint.Text.Units

/-! Reading JSON. Beyond the standard, `NaN`, `Infinity` and `-Infinity` are numbers, and of
several values for one key the last one counts. -/
namespace IndentLint.Document.Json

def fail {α : Type} (expected : String) : Except Fault α := .error (.malformed expected)

def isSpace (c : Char) : Bool := c = ' ' || c = '\t' || c = '\n' || c = '\r'

def skip (s : List Char) : List Char := s.dropWhile isSpace

def unit16? (a b c d : Char) : Option Nat := do
  let a ← Text.Numeral.hexDigit? a
  let b ← Text.Numeral.hexDigit? b
  let c ← Text.Numeral.hexDigit? c
  let d ← Text.Numeral.hexDigit? d
  some (((a * 16 + b) * 16 + c) * 16 + d)

def shortEscape? (c : Char) : Option Char :=
  if c = '"' || c = '\\' || c = '/' then some c
  else if c = 'b' then some (Char.ofNat 8)
  else if c = 'f' then some (Char.ofNat 12)
  else if c = 'n' then some '\n'
  else if c = 'r' then some '\r'
  else if c = 't' then some '\t'
  else none

def stringUnits : List Char → Except Fault (List Nat × List Char)
  | [] => fail "end of string"
  | '"' :: rest => .ok ([], rest)
  | '\\' :: 'u' :: a :: b :: c :: d :: rest =>
    match unit16? a b c d with
    | none => fail "four hexadecimal digits"
    | some n => do
      let (units, rest) ← stringUnits rest
      .ok (n :: units, rest)
  | '\\' :: e :: rest =>
    match shortEscape? e with
    | none => fail "an escape"
    | some c => do
      let (units, rest) ← stringUnits rest
      .ok (c.toNat :: units, rest)
  | c :: rest =>
    if c.toNat < 32 || c = '\\' then fail "a string character"
    else do
      let (units, rest) ← stringUnits rest
      .ok (c.toNat :: units, rest)

def readString (s : List Char) : Except Fault (Scalar × List Char) :=
  (stringUnits s).map fun (units, rest) => (.ofPoints (Text.joinPairs units), rest)

def digitsOf (s : List Char) : List Char × List Char := (s.takeWhile Char.isDigit, s.dropWhile Char.isDigit)

def digitValues (ds : List Char) : List Nat := ds.map (·.toNat - 48)

def fraction : List Char → List Char × List Char
  | '.' :: rest => if (digitsOf rest).1.isEmpty then ([], '.' :: rest) else digitsOf rest
  | s => ([], s)

def exponent? (s : List Char) : Option (Int × List Char) :=
  match s with
  | e :: rest =>
    if e = 'e' || e = 'E' then
      let (negative, rest) := match rest with
        | '-' :: r => (true, r)
        | '+' :: r => (false, r)
        | r => (false, r)
      let (ds, rest) := digitsOf rest
      if ds.isEmpty then none
      else
        let n : Int := Text.Numeral.ofDigits 10 (digitValues ds)
        some (if negative then -n else n, rest)
    else none
  | [] => none

def unsigned (negative : Bool) (s : List Char) : Except Fault (Scalar × List Char) :=
  let (ds, rest) := digitsOf s
  match ds with
  | [] => fail "a value"
  | d :: more =>
    -- A leading zero stands alone.
    let (ds, rest) := if d = '0' then ([d], more ++ rest) else (ds, rest)
    let (places, rest) := fraction rest
    match exponent? rest with
    | some (e, rest) =>
      let n := Text.Numeral.ofDigits 10 (digitValues (ds ++ places))
      .ok (.real (.ofDecimal negative n (e - places.length)), rest)
    | none =>
      if places.isEmpty then
        if Text.Numeral.maxDigits < ds.length then .error (.longNumeral ds.length)
        else
          let n : Int := Text.Numeral.ofDigits 10 (digitValues ds)
          .ok (.int (if negative then -n else n), rest)
      else
        let n := Text.Numeral.ofDigits 10 (digitValues (ds ++ places))
        .ok (.real (.ofDecimal negative n (-(places.length : Int))), rest)

def afterWord? (word : String) (s : List Char) : Option (List Char) :=
  if s.take word.length = word.toList then some (s.drop word.length) else none

def words : List (String × Scalar) :=
  [("null", .null), ("true", .bool true), ("false", .bool false), ("NaN", .real .nan),
    ("Infinity", .real (.infinite false)), ("-Infinity", .real (.infinite true))]

def plain (s : List Char) : Except Fault (Scalar × List Char) :=
  match words.findSome? fun w => (afterWord? w.1 s).map fun rest => (w.2, rest) with
  | some (v, rest) => .ok (v, rest)
  | none =>
    match s with
    | '-' :: rest => unsigned true rest
    | s => unsigned false s

def usualDepth : Nat := 988

mutual

/-- A value at the start of a text without leading blanks; `room` is the number of levels that may
still be opened. -/
def value : Nat → Nat → List Char → Except Fault (Value × List Char)
  | 0, _, _ => fail "a value"
  | _ + 1, _, '"' :: rest => do
    let (s, rest) ← readString rest
    .ok (.scalar s, rest)
  | _ + 1, 0, '[' :: _ => .error (.tooDeep "array")
  | fuel + 1, room + 1, '[' :: rest =>
    match skip rest with
    | ']' :: rest => .ok (.list [], rest)
    | rest => do
      let (items, rest) ← items fuel room rest
      .ok (.list items, rest)
  | _ + 1, 0, '{' :: _ => .error (.tooDeep "object")
  | fuel + 1, room + 1, '{' :: rest =>
    match skip rest with
    | '}' :: rest => .ok (.mapping [], rest)
    | rest => do
      let (entries, rest) ← entries fuel room rest
      .ok (.mapping (Entries.ofList entries), rest)
  | _ + 1, _, s => do
    let (v, rest) ← plain s
    .ok (.scalar v, rest)

def items : Nat → Nat → List Char → Except Fault (List Value × List Char)
  | 0, _, _ => fail "an item"
  | fuel + 1, room, s => do
    let (v, rest) ← value fuel room s
    match skip rest with
    | ']' :: rest => .ok ([v], rest)
    | ',' :: rest => do
      let (vs, rest) ← items fuel room (skip rest)
      .ok (v :: vs, rest)
    | _ => fail "a comma"

def entries : Nat → Nat → List Char → Except Fault (List (Scalar × Value) × List Char)
  | 0, _, _ => fail "an entry"
  | fuel + 1, room, '"' :: rest => do
    let (k, rest) ← readString rest
    match skip rest with
    | ':' :: rest => do
      let (v, rest) ← value fuel room (skip rest)
      match skip rest with
      | '}' :: rest => .ok ([(k, v)], rest)
      | ',' :: rest => do
        let (more, rest) ← entries fuel room (skip rest)
        .ok ((k, v) :: more, rest)
      | _ => fail "a comma"
    | _ => fail "a colon"
  | _ + 1, _, _ => fail "a key in quotes"

end

def read (text : List Char) (depth : Nat := usualDepth) : Except Fault Value := do
  let (v, rest) ← value (2 * text.length + 2) depth (skip text)
  if (skip rest).isEmpty then .ok v else fail "the end of the text"

end IndentLint.Document.Json
