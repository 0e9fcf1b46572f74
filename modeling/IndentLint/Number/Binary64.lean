import IndentLint.Text.Numeral

/-! Binary floating-point numbers of 64 bits, exactly: a finite number is `mantissa * 2 ^ exponent`
with a mantissa of at most 53 bits. Decimals are read to the nearest number, and a number is
written with the fewest digits that read back as it. -/
namespace IndentLint.Number

inductive Binary64 where
  | nan
  | infinite (negative : Bool)
  | finite (negative : Bool) (mantissa : Nat) (exponent : Int)
  deriving DecidableEq, Repr

namespace Binary64

def zero : Binary64 := .finite false 0 (-1074)

def roundDiv (num den : Nat) : Nat :=
  let q := num / den
  let r := num % den
  if 2 * r < den then q else if den < 2 * r then q + 1 else q + q % 2

def scaled (n base : Nat) (e : Int) : Nat × Nat :=
  if 0 ≤ e then (n * base.pow e.toNat, 1) else (n, base.pow (-e).toNat)

def ofFraction (negative : Bool) (num den : Nat) : Binary64 :=
  if num = 0 then .finite negative 0 (-1074)
  else
    let low : Int := max ((num.log2 : Int) - den.log2 - 53) (-1074)
    let quotient (q : Int) : Nat × Nat :=
      if 0 ≤ q then (num, den * Nat.pow 2 q.toNat) else (num * Nat.pow 2 (-q).toNat, den)
    let q := if Nat.pow 2 53 ≤ (quotient low).1 / (quotient low).2 then low + 1 else low
    let m := roundDiv (quotient q).1 (quotient q).2
    let (m, q) := if m = Nat.pow 2 53 then (Nat.pow 2 52, q + 1) else (m, q)
    if 971 < q then .infinite negative else .finite negative m q

def ofDecimal (negative : Bool) (digits : Nat) (exponent : Int) : Binary64 :=
  let size : Int := (Text.Numeral.digits digits).length
  if digits = 0 || exponent + size < -330 then .finite negative 0 (-1074)
  else if 310 < exponent + size then .infinite negative
  else
    let (num, den) := scaled digits 10 exponent
    ofFraction negative num den

def decimalPoint (num den : Nat) : Nat → Int → Int
  | 0, guess => guess
  | fuel + 1, guess =>
    let (n, d) := scaled 1 10 guess
    if num * d < n * den then guess else decimalPoint num den fuel (guess + 1)

/-- Of the two neighbours of the positive number `num / den` on the decimal grid `10 ^ e`, the
nearer one that reads back as `x`. -/
def onGrid? (x : Binary64) (num den : Nat) (e : Int) : Option Nat :=
  let (gridNum, gridDen) := scaled 1 10 e
  let below := num * gridDen / (den * gridNum)
  let nearest := roundDiv (num * gridDen) (den * gridNum)
  let other := if nearest = below then below + 1 else below
  [nearest, other].find? fun m => ofDecimal false m e = x

def shortestFrom (x : Binary64) (num den : Nat) (point : Int) : Nat → Nat → Nat × Int
  | 0, count => (roundDiv num den, point - count)
  | fuel + 1, count =>
    match onGrid? x num den (point - count) with
    | some m => (m, point - count)
    | none => shortestFrom x num den point fuel (count + 1)

def stripZeros : Nat → Nat → Int → Nat × Int
  | 0, m, e => (m, e)
  | fuel + 1, m, e => if m ≠ 0 && m % 10 = 0 then stripZeros fuel (m / 10) (e + 1) else (m, e)

def shortest (mantissa : Nat) (exponent : Int) : Nat × Int :=
  let (num, den) := scaled mantissa 2 exponent
  let point := decimalPoint num den 700 (-330)
  let (m, e) := shortestFrom (.finite false mantissa exponent) num den point 17 1
  stripZeros 20 m e

def positional (digits : List Char) (point : Int) : List Char :=
  if point ≤ 0 then '0' :: '.' :: List.replicate (-point).toNat '0' ++ digits
  else if (digits.length : Int) ≤ point then
    digits ++ List.replicate (point.toNat - digits.length) '0' ++ ['.', '0']
  else digits.take point.toNat ++ '.' :: digits.drop point.toNat

def scientific (digits : List Char) (point : Int) : List Char :=
  let power := point - 1
  let shown := Text.Numeral.digits power.natAbs
  let shown := if shown.length < 2 then '0' :: shown else shown
  let head := match digits with
    | [] => []
    | [d] => [d]
    | d :: rest => d :: '.' :: rest
  head ++ 'e' :: (if power < 0 then '-' else '+') :: shown

/-- The shortest text that reads back: positional from 1e-4 up to below 1e16, with an exponent of
at least two digits elsewhere. -/
def write : Binary64 → List Char
  | .nan => "nan".toList
  | .infinite negative => (if negative then "-inf" else "inf").toList
  | .finite negative mantissa exponent =>
    let sign := if negative then ['-'] else []
    if mantissa = 0 then sign ++ "0.0".toList
    else
      let (m, e) := shortest mantissa exponent
      let digits := Text.Numeral.digits m
      let point := e + digits.length
      sign ++ (if -4 < point && point ≤ 16 then positional digits point else scientific digits point)

def ofInt (n : Int) : Binary64 := ofFraction (n < 0) n.natAbs 1

def isNegative : Binary64 → Bool
  | .nan => false
  | .infinite negative => negative
  | .finite negative .. => negative

def isZero : Binary64 → Bool
  | .finite _ m _ => m = 0
  | _ => false

def negate : Binary64 → Binary64
  | .nan => .nan
  | .infinite negative => .infinite !negative
  | .finite negative m e => .finite (!negative) m e

def fraction? : Binary64 → Option (Int × Nat)
  | .finite negative m e =>
    let (num, den) := scaled m 2 e
    some (if negative then -(num : Int) else num, den)
  | _ => none

def mul (x y : Binary64) : Binary64 :=
  let negative := x.isNegative != y.isNegative
  match x.fraction?, y.fraction? with
  | some (a, b), some (c, d) => ofFraction negative (a.natAbs * c.natAbs) (b * d)
  | _, _ =>
    if x = .nan || y = .nan || x.isZero || y.isZero then .nan else .infinite negative

def add (x y : Binary64) : Binary64 :=
  match x.fraction?, y.fraction? with
  | some (a, b), some (c, d) =>
    let total := a * d + c * b
    if total = 0 then ofFraction (x.isNegative && y.isNegative) 0 1
    else ofFraction (total < 0) total.natAbs (b * d)
  | some _, none => y
  | none, some _ => x
  | none, none => if x = y then x else .nan

def readDecimal? (negative : Bool) (s : List Char) : Option Binary64 := do
  let isDigit (c : Char) : Bool := (Text.Numeral.digitValue? c).isSome
  let whole := s.takeWhile isDigit
  let (places, rest) := match s.drop whole.length with
    | '.' :: rest => (rest.takeWhile isDigit, rest.dropWhile isDigit)
    | rest => ([], rest)
  let digits := (whole ++ places).filterMap Text.Numeral.digitValue?
  let e ← match rest with
    | [] => some 0
    | e :: rest => do
      if !(e = 'e' || e = 'E') then failure
      let n ← Text.Numeral.ofSigned? rest
      some n
  if digits.isEmpty then none
  else some (ofDecimal negative (Text.Numeral.ofDigits 10 digits) (e - places.length))

def read? (s : List Char) : Option Binary64 :=
  let s := Text.dropEndWhile Text.Numeral.isPadding (s.dropWhile Text.Numeral.isPadding)
  let (negative, body) := Text.Numeral.splitSign s
  let word := String.ofList (body.map Char.toLower)
  if word = "inf" || word = "infinity" then some (.infinite negative)
  else if word = "nan" then some .nan
  else readDecimal? negative body

def isBelow (n : Int) : Binary64 → Bool
  | .nan => false
  | .infinite negative => negative
  | .finite negative m e =>
    let (num, den) := scaled m 2 e
    let signed : Int := if negative then -(num : Int) else num
    n * den > signed

end Binary64
end IndentLint.Number
