import IndentLint.Document.Display
import IndentLint.Document.Yaml.Cursor
import IndentLint.Document.Yaml.Implicit

/-! Writing documents as YAML in block style: keys in ascending order, a sequence in the column of
its key, scalars plain where they can be. Characters beyond ASCII are escaped. -/
namespace IndentLint.Document.Yaml

def lineWidth : Nat := 80

inductive Style where
  | plain
  | single
  | double
  deriving DecidableEq, Repr

def isLineBreak (c : Char) : Bool := isBreak c && c ≠ '\r'

def isSpecial (c : Char) : Bool := !(c = '\n' || (0x20 ≤ c.toNat && c.toNat ≤ 0x7e))

def hasPair (a p : Char → Bool) : List Char → Bool
  | c :: d :: rest => (a c && p d) || hasPair a p (d :: rest)
  | _ => false

def startsWithMark (s : List Char) : Bool :=
  match s with
  | [] => false
  | c :: rest =>
    "#,[]\x7b\x7d&*!|>'\"%@\x60".contains c
      || ((c = '?' || c = ':' || c = '-') && separated rest)
      || s.take 3 = ['-', '-', '-'] || s.take 3 = ['.', '.', '.']

def holdsMark (s : List Char) : Bool :=
  hasPair (· = ':') isSeparator s || s.getLast? = some ':' || hasPair isSeparator (· = '#') s

def hasLooseEnd (s : List Char) : Bool :=
  let loose (c : Char) : Bool := c = ' ' || isLineBreak c
  s.head?.any loose || s.getLast?.any loose

def styleOf (s : List Char) : Style :=
  let needsDouble := s.any isSpecial || hasPair (· = ' ') isLineBreak s
    || hasPair isLineBreak (· = ' ') s
  if needsDouble then .double
  else if isAmbiguous s || hasLooseEnd s || s.any isLineBreak || startsWithMark s || holdsMark s
  then .single
  else .plain

def newline (indent : Nat) : List Char := '\n' :: List.replicate indent ' '

/-- Writes a text from a column on, breaking the line at single spaces past the line width.
`quote` is doubled; `afterSpace` says that a space stands before the text, `first` that nothing
does. -/
def flow (quote : Option Char) (indent : Nat) (first afterSpace : Bool) (column : Nat) :
    List Char → List Char
  | [] => []
  | c :: rest =>
    if c = ' ' then
      let alone := !afterSpace && rest.head? ≠ some ' ' && !rest.isEmpty && !first
      if alone && lineWidth < column then
        newline indent ++ flow quote indent false true indent rest
      else c :: flow quote indent false true (column + 1) rest
    else if isLineBreak c then
      -- A run of breaks is written with one more, and the text goes on at the indentation.
      let opening := if afterSpace && !first then [] else ['\n']
      if rest.head?.any isLineBreak then
        opening ++ c :: flow quote indent false true 0 rest
      else opening ++ c :: List.replicate indent ' ' ++ flow quote indent false false indent rest
    else if some c = quote then c :: c :: flow quote indent false false (column + 2) rest
    else c :: flow quote indent false false (column + 1) rest

def escapeLetters : List (Nat × Char) :=
  [(0, '0'), (7, 'a'), (8, 'b'), (9, 't'), (10, 'n'), (11, 'v'), (12, 'f'), (13, 'r'), (27, 'e'),
    (34, '"'), (92, '\\'), (0x85, 'N'), (0xa0, '_'), (0x2028, 'L'), (0x2029, 'P')]

def upperHex (width n : Nat) : List Char := (Text.Quoted.hex width n).map Char.toUpper

def escape? (c : Char) : Option (List Char) :=
  match escapeLetters.lookup c.toNat with
  | some letter => some ['\\', letter]
  | none =>
    if 0x20 ≤ c.toNat && c.toNat ≤ 0x7e then none
    else if c.toNat ≤ 0xff then some ('\\' :: 'x' :: upperHex 2 c.toNat)
    else if c.toNat ≤ 0xffff then some ('\\' :: 'u' :: upperHex 4 c.toNat)
    else some ('\\' :: 'U' :: upperHex 8 c.toNat)

/-- The inside of double quotes; `held` are characters not yet written, `column` is where they
start. A long line is broken by a backslash before a space or after an escape. -/
def doubleBody (indent : Nat) (first : Bool) (held : List Char) (column : Nat) :
    List Char → List Char
  | [] => held
  | c :: rest =>
    match escape? c with
    | some escaped =>
      let column := column + held.length + escaped.length
      if !first && !rest.isEmpty && lineWidth + 1 < column then
        let guard := if rest.head? = some ' ' then ['\\'] else []
        held ++ escaped ++ '\\' :: newline indent ++ guard
          ++ doubleBody indent false [] (indent + guard.length) rest
      else held ++ escaped ++ doubleBody indent false [] column rest
    | none =>
      if !first && !rest.isEmpty && (c = ' ' || held.isEmpty)
          && lineWidth < column + held.length then
        let guard := if c = ' ' then ['\\'] else []
        held ++ '\\' :: newline indent ++ guard
          ++ doubleBody indent false [c] (indent + guard.length) rest
      else doubleBody indent false (held ++ [c]) column rest

def writeText (indent column : Nat) (s : List Char) : List Char :=
  match styleOf s with
  | .plain => flow none indent true false column s
  | .single => '\'' :: flow (some '\'') indent true false (column + 1) s ++ ['\'']
  | .double => '"' :: doubleBody indent true [] (column + 1) s ++ ['"']

def writeReal (x : Number.Binary64) : List Char :=
  match x with
  | .nan => ".nan".toList
  | .infinite negative => (if negative then "-.inf" else ".inf").toList
  | x =>
    let s := x.write
    if s.contains '.' then s
    else s.takeWhile (· ≠ 'e') ++ '.' :: '0' :: s.dropWhile (· ≠ 'e')

def quotePoints (points : List Nat) : List Char :=
  let point (n : Nat) : List Char :=
    if Text.isHalf n then '\\' :: 'u' :: upperHex 4 n
    else (escape? (Char.ofNat n)).getD [Char.ofNat n]
  '"' :: points.flatMap point ++ ['"']

def writeScalar (indent column : Nat) : Scalar → List Char
  | .null => "null".toList
  | .bool b => (if b then "true" else "false").toList
  | .int n => Text.Numeral.write n
  | .real x => writeReal x
  | .date y m d => (dateText y m d).toList
  | .moment m => m.display.toList
  | .binary bytes => (bytesText bytes).toList
  | .text s => writeText indent column s.toList
  | .unpaired points => quotePoints points

def maxSimpleKey : Nat := 122

def isSimpleKey : Scalar → Bool
  | .text s => s ≠ "" && s.length ≤ maxSimpleKey && !s.toList.any isLineBreak
  | _ => true

def writeKey : Scalar → List Char
  | .text s =>
    let cs := s.toList
    match styleOf cs with
    | .plain => cs
    | .single => '\'' :: cs.flatMap (fun c => if c = '\'' then [c, c] else [c]) ++ ['\'']
    | .double => '"' :: cs.flatMap (fun c => (escape? c).getD [c]) ++ ['"']
  | s => writeScalar 0 0 s

def keyLe (a b : Scalar × List Char) : Bool := !(b.1.display < a.1.display)

def inKeyOrder (lines : List (Scalar × List Char)) : List Char :=
  (lines.mergeSort keyLe).flatMap (·.2)

mutual

def writeItem (indent : Nat) : Value → List Char
  | .scalar s => ' ' :: writeScalar (indent + 2) (indent + 2) s ++ ['\n']
  | .list [] => " []\n".toList
  | .list items => ' ' :: (writeItems (indent + 2) items).drop (indent + 2)
  | .mapping [] => " \x7b\x7d\n".toList
  | .mapping entries =>
    ' ' :: (inKeyOrder (writeEntries (indent + 2) entries)).drop (indent + 2)
  | v => ' ' :: v.quoted.toList ++ ['\n']

def writeItems (indent : Nat) : List Value → List Char
  | [] => []
  | v :: rest =>
    List.replicate indent ' ' ++ '-' :: writeItem indent v ++ writeItems indent rest

def writeEntry (indent column : Nat) : Value → List Char
  | .scalar s => ' ' :: writeScalar (indent + 2) (column + 1) s ++ ['\n']
  | .list [] => " []\n".toList
  | .list items => '\n' :: writeItems indent items
  | .mapping [] => " \x7b\x7d\n".toList
  | .mapping entries => '\n' :: inKeyOrder (writeEntries (indent + 2) entries)
  | v => ' ' :: v.quoted.toList ++ ['\n']

def writeEntries (indent : Nat) : List (Scalar × Value) → List (Scalar × List Char)
  | [] => []
  | (k, v) :: rest =>
    let margin := List.replicate indent ' '
    let lines :=
      if isSimpleKey k then
        let key := writeKey k
        margin ++ key ++ ':' :: writeEntry indent (indent + key.length + 1) v
      else
        margin ++ '?' :: ' ' :: writeScalar (indent + 2) (indent + 2) k
          ++ '\n' :: margin ++ ':' :: writeItem indent v
    (k, lines) :: writeEntries indent rest

end

def write (entries : Entries) : String :=
  if entries.isEmpty then "\x7b\x7d\n" else String.ofList (inKeyOrder (writeEntries 0 entries))

end IndentLint.Document.Yaml
