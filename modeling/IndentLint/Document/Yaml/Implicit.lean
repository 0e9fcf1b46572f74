import IndentLint.Text.Lines
import IndentLint.Text.Numeral

/-! The tags of YAML 1.1, and the tag that a plain scalar has by its text alone. -/
namespace IndentLint.Document.Yaml

inductive Tag where
  | null
  | bool
  | int
  | real
  | binary
  | timestamp
  | text
  | list
  | mapping
  | set
  | pairs
  | merge
  | value
  | other
  deriving DecidableEq, Repr

namespace Tag

def scheme : List Char := "tag:yaml.org,2002:".toList

def names : List (String × Tag) :=
  [("null", .null), ("bool", .bool), ("int", .int), ("float", .real), ("binary", .binary),
    ("timestamp", .timestamp), ("str", .text), ("seq", .list), ("map", .mapping), ("set", .set),
    ("omap", .pairs), ("pairs", .pairs), ("merge", .merge), ("value", .value)]

def ofText (full : List Char) : Tag :=
  if full.take scheme.length = scheme then
    (names.lookup (String.ofList (full.drop scheme.length))).getD .other
  else .other

end Tag

def nulls : List String := ["", "~", "null", "Null", "NULL"]

def truths : List String :=
  ["yes", "Yes", "YES", "no", "No", "NO", "true", "True", "TRUE", "false", "False", "FALSE",
    "on", "On", "ON", "off", "Off", "OFF"]

def isSign (c : Char) : Bool := c = '-' || c = '+'

def isOctal (c : Char) : Bool := '0' ≤ c && c ≤ '7'

def isBinary (c : Char) : Bool := c = '0' || c = '1'

def isHex (c : Char) : Bool := (Text.Numeral.hexDigit? c).isSome

def isRun (isDigit : Char → Bool) (s : List Char) : Bool :=
  !s.isEmpty && s.all fun c => isDigit c || c = '_'

def isSixtieth : List Char → Bool
  | [a] => a.isDigit
  | [a, b] => '0' ≤ a && a ≤ '5' && b.isDigit
  | _ => false

def isWhole : List Char → Bool
  | '0' :: 'b' :: rest => isRun isBinary rest
  | '0' :: 'x' :: rest => isRun isHex rest
  | ['0'] => true
  | '0' :: rest => isRun isOctal rest
  | first :: rest =>
    first.isDigit && match Text.splitOn ':' (first :: rest) with
      | ds :: more => isRun Char.isDigit ds && more.all isSixtieth
      | [] => false
  | [] => false

def isExponent : List Char → Bool
  | [] => true
  | e :: sign :: ds => (e = 'e' || e = 'E') && isSign sign && !ds.isEmpty && ds.all Char.isDigit
  | _ => false

def isFraction (s : List Char) : Bool := isExponent (s.dropWhile fun c => c.isDigit || c = '_')

def isReal (s : List Char) : Bool :=
  let (_, body) := Text.Numeral.splitSign s
  let unsigned := !s.head?.any isSign
  let word := String.ofList body
  let whole := body.takeWhile (· ≠ '.')
  [".inf", ".Inf", ".INF"].contains word
    || (unsigned && [".nan", ".NaN", ".NAN"].contains word)
    || match body.drop whole.length with
      | [] => false
      | _ :: rest =>
        if whole.isEmpty then unsigned && rest.head?.any Char.isDigit && isFraction rest
        else whole.head?.any Char.isDigit && match Text.splitOn ':' whole with
          | [ds] => isRun Char.isDigit ds && isFraction rest
          | ds :: more =>
            isRun Char.isDigit ds && more.all isSixtieth && rest.all fun c => c.isDigit || c = '_'
          | [] => false

structure TimestampText where
  year : List Char
  month : List Char
  day : List Char
  clock : Option (List Char × List Char × List Char × List Char × List Char) := none

def isShort (s : List Char) : Bool := (s.length = 1 || s.length = 2) && s.all Char.isDigit

def isPair (s : List Char) : Bool := s.length = 2 && s.all Char.isDigit

def isZone : List Char → Bool
  | [] => true
  | ['Z'] => true
  | sign :: rest =>
    isSign sign && match Text.splitOn ':' rest with
      | [h] => isShort h
      | [h, m] => isShort h && isPair m
      | _ => false

def clockText? (s : List Char) :
    Option (List Char × List Char × List Char × List Char × List Char) :=
  let time := s.takeWhile fun c => c.isDigit || c = ':'
  let (places, rest) := match s.drop time.length with
    | '.' :: rest => (rest.takeWhile Char.isDigit, rest.dropWhile Char.isDigit)
    | rest => ([], rest)
  let zone := rest.dropWhile fun c => c = ' ' || c = '\t'
  -- Blanks are no zone.
  if zone.isEmpty && !rest.isEmpty then none
  else match Text.splitOn ':' time with
    | [h, m, sec] =>
      if isShort h && isPair m && isPair sec && isZone zone then some (h, m, sec, places, zone)
      else none
    | _ => none

def timestampText? (s : List Char) : Option TimestampText := do
  let date := s.takeWhile fun c => c.isDigit || c = '-'
  match Text.splitOn '-' date with
  | [y, m, d] =>
    if !(y.length = 4 && y.all Char.isDigit && isShort m && isShort d) then failure
    match s.drop date.length with
    | [] => some ⟨y, m, d, none⟩
    | sep :: rest =>
      let time := if sep = 'T' || sep = 't' then rest else rest.dropWhile fun c => c = ' ' || c = '\t'
      if !(sep = 'T' || sep = 't' || sep = ' ' || sep = '\t') then failure
      some ⟨y, m, d, some (← clockText? time)⟩
  | _ => failure

def isTimestamp (s : List Char) : Bool :=
  match timestampText? s with
  | some t => t.clock.isSome || (isPair t.month && isPair t.day)
  | none => false

def withoutBreak (s : List Char) : List Char :=
  if s.getLast? = some '\n' && 1 < s.length then s.dropLast else s

def implicitTag (text : List Char) : Tag :=
  let s := withoutBreak text
  let word := String.ofList s
  if nulls.contains word then .null
  else if truths.contains word then .bool
  else if isReal s then .real
  else if isWhole (Text.Numeral.splitSign s).2 then .int
  else if isTimestamp s then .timestamp
  else if word = "<<" then .merge
  else if word = "=" then .value
  else if ["!", "&", "*"].contains word then .other
  else .text

def isAmbiguous (s : List Char) : Bool := implicitTag s ≠ .text

end IndentLint.Document.Yaml
