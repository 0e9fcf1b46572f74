import IndentLint.Document.Value
import IndentLint.Document.Yaml.Cursor
import IndentLint.Document.Yaml.Implicit
import IndentLint.Text.Base64
import IndentLint.Text.Lower

/-! The scalars that texts give under the tags of YAML 1.1. -/
namespace IndentLint.Document.Yaml

open Number (Binary64)

def dropUnderscores (s : List Char) : List Char := s.filter (· ≠ '_')

def readIn (base : Nat) (s : List Char) : Except Fault Int :=
  match Text.Numeral.digitsIn? base s with
  | none => .error (.notWhole base (String.ofList s))
  | some (negative, ds) =>
    if base = 10 && Text.Numeral.maxDigits < ds.length then .error (.longNumeral ds.length)
    else
      let n : Int := Text.Numeral.ofDigits base ds
      .ok (if negative then -n else n)

def readUnsigned (s : List Char) : Except Fault Int :=
  match s with
  | [] => .error .noDigits
  | ['0'] => .ok 0
  | '0' :: 'b' :: rest => readIn 2 rest
  | '0' :: 'x' :: rest => readIn 16 rest
  | '0' :: rest => readIn 8 ('0' :: rest)
  | s =>
    if s.contains ':' then do
      let parts ← (Text.splitOn ':' s).mapM (readIn 10)
      .ok (parts.foldl (fun n d => n * 60 + d) 0)
    else readIn 10 s

def readWhole (text : List Char) : Except Fault Int := do
  let s := dropUnderscores text
  if s.isEmpty then .error .noDigits
  else
    let (negative, body) := Text.Numeral.splitSign s
    let n ← readUnsigned body
    .ok (if negative then -n else n)

def readPart (s : List Char) : Except Fault Binary64 :=
  match Binary64.read? s with
  | some x => .ok x
  | none => .error (.notReal (String.ofList s))

/-- The sum of parts with the weights one, sixty and so on, from the last part on. Every product
and every sum is rounded, and a weight that is no real is refused. -/
def sixtieths (weight : Nat) (total : Binary64) : List Binary64 → Except Fault Binary64
  | [] => .ok total
  | x :: rest =>
    match Binary64.ofInt weight with
    | .infinite _ => .error .hugeWeight
    | w => sixtieths (weight * 60) (total.add (x.mul w)) rest

def realBody (text : List Char) : Bool × List Char :=
  Text.Numeral.splitSign (Text.lower (dropUnderscores text))

def isNanWord (text : List Char) : Bool := (realBody text).2 = ".nan".toList

def readReal (text : List Char) : Except Fault Binary64 := do
  if (dropUnderscores text).isEmpty then .error .noDigits
  else
    let (negative, body) := realBody text
    let word := String.ofList body
    let x ←
      if word = ".inf" then .ok (.infinite false)
      else if word = ".nan" then .ok .nan
      else if body.contains ':' then do
        let parts ← (Text.splitOn ':' body).mapM readPart
        sixtieths 1 .zero parts.reverse
      else readPart body
    .ok (if negative then x.negate else x)

def readTruth (text : List Char) : Except Fault Bool :=
  let word := String.ofList (Text.lower text)
  if ["yes", "true", "on"].contains word then .ok true
  else if ["no", "false", "off"].contains word then .ok false
  else .error (.notTruth word)

def decimal (s : List Char) : Nat := Text.Numeral.ofDigits 10 (s.filterMap Text.Numeral.digitValue?)

def zoneMinutes (zone : List Char) : Option Int :=
  match zone with
  | [] => none
  | ['Z'] => some 0
  | sign :: rest =>
    let minutes : Int := match Text.splitOn ':' rest with
      | [h, m] => decimal h * 60 + decimal m
      | _ => decimal rest * 60
    some (if sign = '-' then -minutes else minutes)

def micros (places : List Char) : Nat :=
  decimal ((places ++ List.replicate (6 - places.length) '0').take 6)

def readTimestamp (text : List Char) : Except Fault Scalar :=
  match timestampText? (withoutBreak text) with
  | none => .error .notTimestamp
  | some t =>
    let (year, month, day) := (decimal t.year, decimal t.month, decimal t.day)
    match t.clock with
    | none => (checkDate year month day).map fun _ => .date year month day
    | some (h, m, s, places, zone) =>
      (Moment.check
        { year, month, day, hour := decimal h, minute := decimal m, second := decimal s
          micro := micros places, zone := zoneMinutes zone }).map .moment

def readBinary (text : List Char) : Except Fault (List UInt8) :=
  if text.all fun c => c.toNat < 128 then
    match Text.Base64.decode? text with
    | some bytes => .ok bytes
    | none => fail "bytes"
  else fail "bytes"

def readScalar (tag : Tag) (codes : List Nat) : Except Fault Scalar :=
  let text := codes.map Char.ofNat
  match tag with
  | .null => .ok .null
  | .bool => (readTruth text).map .bool
  | .int => (readWhole text).map .int
  | .real => (readReal text).map .real
  | .binary => (readBinary text).map .binary
  | .timestamp => readTimestamp text
  | .text => .ok (.ofPoints codes)
  | _ => fail "a known tag"

end IndentLint.Document.Yaml
