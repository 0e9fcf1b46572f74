import IndentLint.Document.Value

/-! How values stand in messages and tables. A text on its own stands as it is; inside a list or
a mapping it stands in quotes. -/
namespace IndentLint.Document

def bytesText (bytes : List UInt8) : String :=
  let chars := bytes.map fun b => Char.ofNat b.toNat
  let quote := Text.Quoted.delimiter chars
  let byte (c : Char) : List Char :=
    if 0x7e < c.toNat then '\\' :: 'x' :: Text.Quoted.hex 2 c.toNat else Text.Quoted.escape quote c
  String.ofList ('b' :: quote :: chars.flatMap byte ++ [quote])

def halfText (n : Nat) : List Char := '\\' :: 'u' :: Text.Quoted.hex 4 n

def pointsText (points : List Nat) : String :=
  String.ofList (points.flatMap fun n => if Text.isHalf n then halfText n else [Char.ofNat n])

def quotedPoints (points : List Nat) : String :=
  let quote := Text.Quoted.delimiter (points.map Char.ofNat)
  let point (n : Nat) : List Char :=
    if Text.isHalf n then halfText n else Text.Quoted.escape quote (Char.ofNat n)
  String.ofList (quote :: points.flatMap point ++ [quote])

def Scalar.display : Scalar → String
  | .null => "None"
  | .bool b => if b then "True" else "False"
  | .int n => String.ofList (Text.Numeral.write n)
  | .real x => String.ofList x.write
  | .date y m d => dateText y m d
  | .moment m => m.display
  | .binary bytes => bytesText bytes
  | .text s => s
  | .unpaired points => pointsText points

def Scalar.quoted : Scalar → String
  | .text s => Text.quoted s
  | .unpaired points => quotedPoints points
  | .date y m d => s!"datetime.date({y}, {m}, {d})"
  | .moment m => m.quoted
  | s => s.display

mutual

def Value.quoted : Value → String
  | .scalar s => s.quoted
  | .list items => "[" ++ quotedItems items ++ "]"
  | .mapping entries => "\x7b" ++ quotedEntries entries ++ "\x7d"
  | .set [] => "set()"
  | .set members => "\x7b" ++ ", ".intercalate (members.map Scalar.quoted) ++ "\x7d"
  | .pair key value => "(" ++ key.quoted ++ ", " ++ value.quoted ++ ")"
  | .endless isList => if isList then "[...]" else "\x7b...\x7d"

def quotedItems : List Value → String
  | [] => ""
  | [v] => v.quoted
  | v :: rest => v.quoted ++ ", " ++ quotedItems rest

def quotedEntries : List (Scalar × Value) → String
  | [] => ""
  | [(k, v)] => k.quoted ++ ": " ++ v.quoted
  | (k, v) :: rest => k.quoted ++ ": " ++ v.quoted ++ ", " ++ quotedEntries rest

end

def Value.display : Value → String
  | .scalar s => s.display
  | v => v.quoted

def shownText (s : Option String) : String := (Value.ofText? s).display

def Scalar.isShowable : Scalar → Bool
  | .int n => Text.Numeral.isShowable n
  | _ => true

mutual

def Value.isShowable : Value → Bool
  | .scalar s => s.isShowable
  | .list items => itemsShowable items
  | .mapping entries => entriesShowable entries
  | .set members => members.all Scalar.isShowable
  | .pair key value => key.isShowable && value.isShowable
  | .endless _ => true

def itemsShowable : List Value → Bool
  | [] => true
  | v :: rest => v.isShowable && itemsShowable rest

def entriesShowable : List (Scalar × Value) → Bool
  | [] => true
  | (k, v) :: rest => k.isShowable && v.isShowable && entriesShowable rest

end

mutual

def Value.isEndless : Value → Bool
  | .scalar _ | .set _ => false
  | .list items => anyEndless items
  | .mapping entries => anyEntryEndless entries
  | .pair key value => key.isEndless || value.isEndless
  | .endless _ => true

def anyEndless : List Value → Bool
  | [] => false
  | v :: rest => v.isEndless || anyEndless rest

def anyEntryEndless : List (Scalar × Value) → Bool
  | [] => false
  | (_, v) :: rest => v.isEndless || anyEntryEndless rest

end

end IndentLint.Document
