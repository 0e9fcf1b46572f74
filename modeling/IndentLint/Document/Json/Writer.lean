import IndentLint.Document.Unusable

/-! Writing documents as JSON. -/
namespace IndentLint.Document.Json

inductive Charset where
  | ascii
  | unicode
  deriving DecidableEq, Repr

inductive Layout where
  | compact
  | indented
  deriving DecidableEq, Repr

def unit16 (n : Nat) : List Char := '\\' :: 'u' :: Text.Quoted.hex 4 n

def units (c : Char) : List Char :=
  let n := c.toNat
  if n < 0x10000 then unit16 n
  else unit16 (0xd800 + (n - 0x10000) / 0x400) ++ unit16 (0xdc00 + (n - 0x10000) % 0x400)

def escape (charset : Charset) (c : Char) : List Char :=
  if c = '"' then ['\\', '"']
  else if c = '\\' then ['\\', '\\']
  else if c = '\n' then ['\\', 'n']
  else if c = '\r' then ['\\', 'r']
  else if c = '\t' then ['\\', 't']
  else if c.toNat = 8 then ['\\', 'b']
  else if c.toNat = 12 then ['\\', 'f']
  else if c.toNat < 32 then units c
  else if charset = .ascii && 126 < c.toNat then units c
  else [c]

def string (charset : Charset) (s : List Char) : List Char :=
  '"' :: s.flatMap (escape charset) ++ ['"']

def points (charset : Charset) (ns : List Nat) : List Char :=
  let point (n : Nat) : List Char :=
    if Text.isHalf n then unit16 n else escape charset (Char.ofNat n)
  '"' :: ns.flatMap point ++ ['"']

def real : Number.Binary64 → List Char
  | .nan => "NaN".toList
  | .infinite negative => (if negative then "-Infinity" else "Infinity").toList
  | x => x.write

def scalar (charset : Charset) : Scalar → List Char
  | .null => "null".toList
  | .bool b => (if b then "true" else "false").toList
  | .int n => Text.Numeral.write n
  | .real x => real x
  | .date y m d => string charset (dateText y m d).toList
  | .moment m => string charset m.display.toList
  | .binary bytes => string charset (bytesText bytes).toList
  | .text s => string charset s.toList
  | .unpaired ns => points charset ns

def key (charset : Charset) : Scalar → List Char
  | .null => string charset "null".toList
  | .bool b => string charset (if b then "true" else "false").toList
  | .int n => string charset (Text.Numeral.write n)
  | .real x => string charset (real x)
  | s => scalar charset s

def checkKey : Scalar → Except Unusable Unit
  | .date .. | .moment _ | .binary _ => .error .mistyped
  | s => if s.isShowable then .ok () else .error .tooLong

mutual

def check : Value → Except Unusable Unit
  | .list items => checkItems items
  | .mapping entries => checkEntries entries
  | .pair key value => do check key; check value
  | .endless _ => .error .endless
  | v => if v.isShowable then .ok () else .error .tooLong

def checkItems : List Value → Except Unusable Unit
  | [] => .ok ()
  | v :: rest => do check v; checkItems rest

def checkEntries : List (Scalar × Value) → Except Unusable Unit
  | [] => .ok ()
  | (k, v) :: rest => do checkKey k; check v; checkEntries rest

end

def lineBreak (layout : Layout) (level : Nat) : List Char :=
  match layout with
  | .compact => []
  | .indented => '\n' :: List.replicate (2 * level) ' '

mutual

def writeAt (charset : Charset) (layout : Layout) (level : Nat) : Value → List Char
  | .scalar s => scalar charset s
  | .list [] => ['[', ']']
  | .list (item :: items) =>
    '[' :: lineBreak layout (level + 1) ++ writeAt charset layout (level + 1) item
      ++ writeItems charset layout (level + 1) items ++ lineBreak layout level ++ [']']
  | .set members => string charset (Value.quoted (.set members)).toList
  | .pair key value =>
    '[' :: lineBreak layout (level + 1) ++ writeAt charset layout (level + 1) key
      ++ ',' :: lineBreak layout (level + 1) ++ writeAt charset layout (level + 1) value
      ++ lineBreak layout level ++ [']']
  | .endless isList => string charset (Value.quoted (.endless isList)).toList
  | .mapping [] => ['{', '}']
  | .mapping ((k, v) :: entries) =>
    '{' :: lineBreak layout (level + 1) ++ key charset k ++ ':' :: ' '
      :: writeAt charset layout (level + 1) v
      ++ writeEntries charset layout (level + 1) entries ++ lineBreak layout level ++ ['}']

def writeItems (charset : Charset) (layout : Layout) (level : Nat) : List Value → List Char
  | [] => []
  | item :: items =>
    ',' :: lineBreak layout level ++ writeAt charset layout level item
      ++ writeItems charset layout level items

def writeEntries (charset : Charset) (layout : Layout) (level : Nat) :
    List (Scalar × Value) → List Char
  | [] => []
  | (k, v) :: entries =>
    ',' :: lineBreak layout level ++ key charset k ++ ':' :: ' ' :: writeAt charset layout level v
      ++ writeEntries charset layout level entries

end

def write (charset : Charset) (layout : Layout) (v : Value) : String :=
  String.ofList (writeAt charset layout 0 v)

end IndentLint.Document.Json
